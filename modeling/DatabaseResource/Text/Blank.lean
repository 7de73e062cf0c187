/-!
# Blank characters

The characters that Unicode calls white space, and the text that is left when they are taken
off both ends. `isAllBlank_iff` says when nothing is left.
-/

namespace DatabaseResource.Text

/-- The code points with the Unicode property `White_Space`. -/
def isBlank (c : Char) : Bool :=
  let n := c.toNat
  (9 ≤ n && n ≤ 13) || n == 0x20 || n == 0x85 || n == 0xA0 || n == 0x1680
    || (0x2000 ≤ n && n ≤ 0x200A) || n == 0x2028 || n == 0x2029 || n == 0x202F
    || n == 0x205F || n == 0x3000

/-- A text without the blank characters in front. -/
def trimLeft (cs : List Char) : List Char := cs.dropWhile isBlank

/-- A text without the blank characters at its end. -/
def trimRight (cs : List Char) : List Char := (cs.reverse.dropWhile isBlank).reverse

/-- A text without the blank characters at either end. -/
def trim (cs : List Char) : List Char := trimRight (trimLeft cs)

private theorem dropWhile_blank_eq_nil_iff {cs : List Char} :
    cs.dropWhile isBlank = [] ↔ ∀ c ∈ cs, isBlank c = true := by
  induction cs with
  | nil => simp
  | cons c cs ih => by_cases h : isBlank c = true <;> simp [h, ih]

theorem trimLeft_eq_nil_iff {cs : List Char} : trimLeft cs = [] ↔ ∀ c ∈ cs, isBlank c = true :=
  dropWhile_blank_eq_nil_iff

theorem trimRight_eq_nil_iff {cs : List Char} :
    trimRight cs = [] ↔ ∀ c ∈ cs, isBlank c = true := by
  rw [trimRight, List.reverse_eq_nil_iff, dropWhile_blank_eq_nil_iff]
  simp only [List.mem_reverse]

/-- What is left in front after trimming is not blank. -/
theorem isBlank_of_trimLeft_eq_cons {cs rest : List Char} {c : Char}
    (h : trimLeft cs = c :: rest) : isBlank c = false := by
  induction cs with
  | nil => simp [trimLeft] at h
  | cons d cs ih =>
    by_cases hd : isBlank d = true
    · exact ih (by simpa [trimLeft, List.dropWhile_cons, hd] using h)
    · simp only [trimLeft, List.dropWhile_cons, hd, Bool.false_eq_true, ↓reduceIte,
        List.cons.injEq] at h
      simpa [h.1] using hd

theorem trim_eq_nil_iff {cs : List Char} : trim cs = [] ↔ ∀ c ∈ cs, isBlank c = true := by
  refine Iff.trans trimRight_eq_nil_iff (Iff.trans ?_ trimLeft_eq_nil_iff)
  constructor
  · intro h
    cases he : trimLeft cs with
    | nil => rfl
    | cons c rest =>
      have hblank := h c (by simp [he])
      simp [isBlank_of_trimLeft_eq_cons he] at hblank
  · intro h
    simp [h]

/-- Whether a text has nothing but blank characters. -/
def isAllBlank (s : String) : Bool := (trim s.toList).isEmpty

theorem isAllBlank_iff {s : String} :
    isAllBlank s = true ↔ ∀ c ∈ s.toList, isBlank c = true := by
  simp [isAllBlank, trim_eq_nil_iff]

end DatabaseResource.Text
