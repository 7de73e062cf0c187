import DatabaseResource.Json.Printer
import DatabaseResource.Proofs.Reading

/-!
# What is written denotes what it is written for

A string is written as pieces that stand for its characters (`writes_string`), and an object as its
members, in their order (`writes_object`). An object whose names differ is read back as its members
(`valueIn?_object_of_nodup`).
-/

namespace DatabaseResource.Json

variable {c : Char} {cs rest : List Char} {ps : List Piece}

/-! ### Strings -/

theorem hexNumber?_control : ∀ n < 0x20,
    hexNumber? '0' '0' (lowerHexDigit (n / 16)) (lowerHexDigit (n % 16)) = some n := by
  decide

/-- A character is written as one piece, which stands for it. -/
theorem letters_writeChar (c : Char) (h : Letters cs ps rest) :
    ∃ p, Letters (writeChar c ++ cs) (p :: ps) rest ∧
      decode? (p :: ps) = (decode? ps).map (c :: ·) := by
  have hshort {e c : Char} (he : shortEscape? e = some c) :
      ∃ p, Letters (['\\', e] ++ cs) (p :: ps) rest ∧
        decode? (p :: ps) = (decode? ps).map (c :: ·) :=
    ⟨.char c, .short he h, rfl⟩
  unfold writeChar
  split
  next hc =>
    subst hc
    exact hshort rfl
  next quote =>
    split
    next hc =>
      subst hc
      exact hshort rfl
    next backslash =>
      split
      next hc => exact hc ▸ hshort rfl
      split
      next hc => exact hc ▸ hshort rfl
      split
      next hc => exact hc ▸ hshort rfl
      split
      next hc => exact hc ▸ hshort rfl
      split
      next hc => exact hc ▸ hshort rfl
      split
      next control =>
        refine ⟨.code c.toNat, .code (hexNumber?_control c.toNat control) h, ?_⟩
        have hsingle : decode? (.code c.toNat :: ps)
            = (decode? ps).map (Char.ofNat c.toNat :: ·) := decode?_single (by omega) (by omega)
        rwa [Char.ofNat_toNat] at hsingle
      next control => exact ⟨.char c, .plain quote backslash (by omega) h, rfl⟩

/-- A string is written as pieces that stand for it. -/
theorem letters_flatMap_writeChar (s rest : List Char) :
    ∃ ps, Letters (s.flatMap writeChar ++ '"' :: rest) ps rest ∧ decode? ps = some s := by
  induction s with
  | nil => exact ⟨[], .closing, rfl⟩
  | cons c s ih =>
    obtain ⟨ps, letters, hdecode⟩ := ih
    obtain ⟨p, letters, hchar⟩ := letters_writeChar c letters
    refine ⟨p :: ps, ?_, by rw [hchar, hdecode]; rfl⟩
    rw [List.flatMap_cons, List.append_assoc]
    exact letters

theorem letters_writeString (s : String) (rest : List Char) :
    ∃ cs ps, writeString s ++ rest = '"' :: cs ∧ Letters cs ps rest ∧ textOf? ps = some s := by
  obtain ⟨ps, letters, hdecode⟩ := letters_flatMap_writeChar s.toList rest
  refine ⟨_, ps, ?_, letters, ?_⟩
  · simp [writeString]
  · rw [textOf?, hdecode, Option.map_some, String.ofList_toList]

/-! ### Values -/

/-- A text spells a document, whatever follows. -/
def Writes (text : List Char) (d : Doc) : Prop := ∀ rest, Spells (.value d) (text ++ rest) rest

theorem writes_string (s : String) : Writes (writeString s) (.text (some s)) := by
  intro rest
  obtain ⟨cs, ps, htext, letters, hs⟩ := letters_writeString s rest
  rw [htext, ← hs]
  exact .text letters

theorem writes_bool (b : Bool) : Writes (writeValue (.bool b)) (.bool b) := by
  intro rest
  cases b with
  | true =>
    rw [writeValue]
    exact .wordTrue
  | false =>
    rw [writeValue]
    exact .wordFalse

theorem spells_writeMember {text : List Char} {d : Doc} {behind : List Char}
    {ms : List (Option String × Doc)} (name : String) (h : Writes text d)
    (more : Spells (.moreMembers ms) behind rest) :
    Spells (.members ((some name, d) :: ms)) (writeMember name text ++ behind) rest := by
  obtain ⟨cs, ps, hname, letters, hs⟩ := letters_writeString name (':' :: (text ++ behind))
  have htext : writeMember name text ++ behind = '"' :: cs := by
    rw [← hname, writeMember, List.append_assoc, List.cons_append]
  rw [htext, ← hs]
  exact .member letters (.named (h behind)) more

/-- An object is written as its members, in their order. -/
theorem writes_object {ms : List (String × Doc × List Char)}
    (h : ∀ m ∈ ms, Writes m.2.2 m.2.1) :
    Writes (writeObject (ms.map fun m => writeMember m.1 m.2.2))
      (.object (ms.map fun m => (some m.1, m.2.1))) := by
  have hmembers (rest : List Char) :
      Spells (.members (ms.map fun m => (some m.1, m.2.1)))
        (withCommas (ms.map fun m => writeMember m.1 m.2.2) ++ '}' :: rest) rest := by
    induction ms with
    | nil => exact .noMember
    | cons m ms ih =>
      obtain ⟨hm, hms⟩ := List.forall_mem_cons.mp h
      cases ms with
      | nil => exact spells_writeMember m.1 hm .lastMember
      | cons m' ms =>
        have hcommas :
            withCommas ((m :: m' :: ms).map fun m => writeMember m.1 m.2.2) ++ '}' :: rest
            = writeMember m.1 m.2.2 ++ ',' ::
              (withCommas ((m' :: ms).map fun m => writeMember m.1 m.2.2) ++ '}' :: rest) := by
          simp [withCommas]
        rw [hcommas]
        exact spells_writeMember m.1 hm (.nextMember (ih hms))
  intro rest
  have htext : writeObject (ms.map fun m => writeMember m.1 m.2.2) ++ rest
      = '{' :: (withCommas (ms.map fun m => writeMember m.1 m.2.2) ++ '}' :: rest) := by
    simp [writeObject]
  rw [htext]
  exact .object (hmembers rest)

/-- An object whose members are strings. -/
theorem writes_strings (ms : List (String × String)) :
    Writes (writeObject (ms.map fun m => writeMember m.1 (writeString m.2)))
      (.object (ms.map fun m => (some m.1, .text (some m.2)))) := by
  have hmembers : ∀ m ∈ ms.map fun m => (m.1, Doc.text (some m.2), writeString m.2),
      Writes m.2.2 m.2.1 := by
    intro written hwritten
    obtain ⟨m, -, rfl⟩ := List.mem_map.mp hwritten
    exact writes_string m.2
  simpa [Function.comp_def] using writes_object hmembers

/-- A text that is written denotes what it is written for. -/
theorem Writes.denotes {text : List Char} {d : Doc} (h : Writes text d) :
    Denotes (String.ofList text) d := by
  refine ⟨[], ?_, rfl⟩
  have hspells := h []
  rwa [List.append_nil, ← String.toList_ofList (l := text)] at hspells

/-! ### Reading back -/

theorem put_of_not_mem {α : Type} {values : List (String × α)} {name : String} {v : α}
    (h : name ∉ values.map Prod.fst) : put values name v = values ++ [(name, v)] := by
  induction values with
  | nil => rfl
  | cons m values ih =>
    rw [List.map_cons, List.mem_cons, not_or] at h
    rw [put, if_neg (Ne.symm h.1), ih h.2, List.cons_append]

/-- An object whose names differ has its members as its value, in their order. -/
theorem valueIn?_object_of_nodup {levels : Nat} {ms : List (String × Doc × Value)}
    (h : ∀ m ∈ ms, Doc.valueIn? levels m.2.1 = some m.2.2) (hnames : (ms.map Prod.fst).Nodup) :
    (Doc.object (ms.map fun m => (some m.1, m.2.1))).valueIn? (levels + 1)
      = some (.object (ms.map fun m => (m.1, m.2.2))) := by
  -- What is put behind members that have other names.
  have hput (values : List (String × Value))
      (hvalues : (values.map Prod.fst ++ ms.map Prod.fst).Nodup) :
      (ms.map fun m => (some m.1, m.2.1)).foldlM
        (withName fun values name d => (Doc.valueIn? levels d).map (put values name)) values
        = some (values ++ ms.map fun m => (m.1, m.2.2)) := by
    induction ms generalizing values with
    | nil => simp
    | cons m ms ih =>
      obtain ⟨hm, hms⟩ := List.forall_mem_cons.mp h
      have hnew : m.1 ∉ values.map Prod.fst := by
        intro hmem
        have hdisjoint := (List.nodup_append.mp hvalues).2.2
        exact hdisjoint _ hmem _ (by simp) rfl
      have hstep : withName (fun values name d => (Doc.valueIn? levels d).map (put values name))
          values (some m.1, m.2.1) = some (values ++ [(m.1, m.2.2)]) := by
        simp [withName, hm, put_of_not_mem hnew]
      rw [List.map_cons, List.foldlM_cons, hstep]
      have hrest := ih hms (List.nodup_cons.mp hnames).2 (values ++ [(m.1, m.2.2)])
        (by simpa using hvalues)
      simpa using hrest
  rw [valueIn?_object, hput [] (by simpa using hnames)]
  rfl

end DatabaseResource.Json
