/-!
# Texts cut to a number of bytes

The longest beginning of a text that is made of whole characters and whose UTF-8 form has at most
a given number of bytes: `takeBytes`. It fits (`byteCount_takeBytes_le`), it is a beginning
(`takeBytes_isPrefix`), and no longer beginning fits (`takeBytes_maximal`).
-/

namespace DatabaseResource.Text

/-- The number of bytes of a text in UTF-8. -/
def byteCount : List Char → Nat
  | [] => 0
  | c :: cs => c.utf8Size + byteCount cs

@[simp] theorem byteCount_nil : byteCount [] = 0 := rfl

@[simp] theorem byteCount_cons (c : Char) (cs : List Char) :
    byteCount (c :: cs) = c.utf8Size + byteCount cs := rfl

@[simp] theorem byteCount_append (as bs : List Char) :
    byteCount (as ++ bs) = byteCount as + byteCount bs := by
  induction as with
  | nil => simp
  | cons a as ih => simp [ih, Nat.add_assoc]

/-- The longest beginning of whole characters that takes at most `budget` bytes. -/
def takeBytes (budget : Nat) : List Char → List Char
  | [] => []
  | c :: cs => if c.utf8Size ≤ budget then c :: takeBytes (budget - c.utf8Size) cs else []

theorem byteCount_takeBytes_le (budget : Nat) (cs : List Char) :
    byteCount (takeBytes budget cs) ≤ budget := by
  induction cs generalizing budget with
  | nil => simp [takeBytes]
  | cons c cs ih =>
    by_cases h : c.utf8Size ≤ budget
    · have := ih (budget - c.utf8Size)
      simp only [takeBytes, h, ↓reduceIte, byteCount_cons]
      omega
    · simp [takeBytes, h]

theorem takeBytes_isPrefix (budget : Nat) (cs : List Char) : takeBytes budget cs <+: cs := by
  induction cs generalizing budget with
  | nil => simp [takeBytes]
  | cons c cs ih =>
    by_cases h : c.utf8Size ≤ budget
    · simpa [takeBytes, h] using ih (budget - c.utf8Size)
    · simp [takeBytes, h]

/-- A text that fits is kept whole. -/
theorem takeBytes_of_le {budget : Nat} {cs : List Char} (h : byteCount cs ≤ budget) :
    takeBytes budget cs = cs := by
  induction cs generalizing budget with
  | nil => rfl
  | cons c cs ih =>
    simp only [byteCount_cons] at h
    have hc : c.utf8Size ≤ budget := by omega
    simp [takeBytes, hc, ih (show byteCount cs ≤ budget - c.utf8Size by omega)]

/-- No beginning that fits is longer. -/
theorem takeBytes_maximal {budget : Nat} {cs front : List Char} (hfront : front <+: cs)
    (hfits : byteCount front ≤ budget) : front <+: takeBytes budget cs := by
  induction cs generalizing budget front with
  | nil => simpa [takeBytes] using hfront
  | cons c cs ih =>
    cases front with
    | nil => simp
    | cons d front =>
      obtain ⟨rfl, htail⟩ := List.cons_prefix_cons.1 hfront
      simp only [byteCount_cons] at hfits
      have hd : d.utf8Size ≤ budget := by omega
      simpa [takeBytes, hd] using
        ih htail (show byteCount front ≤ budget - d.utf8Size by omega)

end DatabaseResource.Text
