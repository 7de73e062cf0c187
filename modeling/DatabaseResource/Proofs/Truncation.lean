import DatabaseResource.Proofs.Variables
import DatabaseResource.Response

/-!
# Where a reason is cut

The place at which a text is cut is found among its bytes: from the limit backwards, the first one
that lies between characters (`Text.cutBytes?`). The places between characters are the ends of
beginnings (`Text.isBoundary_encode_iff`), so that the search finds the end of the longest beginning
that fits, at most three bytes in front of the limit, and never leaves the text
(`Text.cutBytes?_utf8`). This beginning is what a failure keeps of its reason
(`reason_is_longest_fit`).
-/

namespace DatabaseResource

namespace Text

variable {limit place : Nat} {cs kept : List Char}

/-! ### The search among bytes -/

/-- Whether a byte begins a character; the others go on with one. -/
def beginsChar (b : UInt8) : Bool := b < 0x80 || 0xC0 ≤ b

/-- Whether a place among bytes lies between characters. -/
def isBoundary (bytes : List UInt8) (place : Nat) : Bool :=
  place == 0 ||
    match bytes[place]? with
    | some b => beginsChar b
    | none => place == bytes.length

/-- The first place between characters from a place backwards; none where the search would leave
the text. -/
def lastBoundary? (bytes : List UInt8) : Nat → Option Nat
  | 0 => if isBoundary bytes 0 then some 0 else none
  | place + 1 =>
    if isBoundary bytes (place + 1) then some (place + 1) else lastBoundary? bytes place

/-- Bytes, cut where the search ends if there are more than a limit. -/
def cutBytes? (limit : Nat) (bytes : List UInt8) : Option (List UInt8) :=
  if bytes.length ≤ limit then some bytes else (lastBoundary? bytes limit).map bytes.take

/-- The search ends at the last place between characters. -/
theorem lastBoundary?_eq_some {bytes : List UInt8} {found : Nat} (hle : found ≤ place)
    (hfound : isBoundary bytes found = true)
    (hlast : ∀ later, found < later → later ≤ place → isBoundary bytes later = false) :
    lastBoundary? bytes place = some found := by
  induction place with
  | zero =>
    obtain rfl : found = 0 := by omega
    rw [lastBoundary?, if_pos hfound]
  | succ place ih =>
    rcases Nat.eq_or_lt_of_le hle with rfl | hlt
    · rw [lastBoundary?, if_pos hfound]
    · have hgo : ¬ isBoundary bytes (place + 1) = true := by
        simp [hlast (place + 1) hlt (Nat.le_refl _)]
      rw [lastBoundary?, if_neg hgo]
      exact ih (by omega) fun later hlater hle => hlast later hlater (by omega)

/-! ### Ends of characters -/

theorem beginsChar_ofNat {n : Nat} (h : n < 256) :
    beginsChar (UInt8.ofNat n) = true ↔ n < 128 ∨ 192 ≤ n := by
  have hn : (UInt8.ofNat n).toNat = n := by
    simp
    omega
  simp [beginsChar, UInt8.lt_iff_toNat_lt, UInt8.le_iff_toNat_le, hn]

theorem beginsChar_trailing (n : Nat) : beginsChar (UInt8.ofNat (n % 64 + 128)) = false := by
  rw [← Bool.not_eq_true, beginsChar_ofNat (by omega)]
  omega

/-- The first byte of a character begins it, and the others go on with it. -/
theorem utf8EncodeChar_eq_cons (c : Char) : ∃ b bs, String.utf8EncodeChar c = b :: bs ∧
    beginsChar b = true ∧ ∀ b ∈ bs, beginsChar b = false := by
  have hnone := List.forall_mem_nil fun b => beginsChar b = false
  have hmore (n : Nat) {bs : List UInt8} (hbs : ∀ b ∈ bs, beginsChar b = false) :
      ∀ b ∈ UInt8.ofNat (n % 64 + 128) :: bs, beginsChar b = false :=
    List.forall_mem_cons.mpr ⟨beginsChar_trailing n, hbs⟩
  unfold String.utf8EncodeChar
  dsimp only
  split
  · exact ⟨_, _, rfl, (beginsChar_ofNat (by omega)).mpr (by omega), hnone⟩
  split
  · exact ⟨_, _, rfl, (beginsChar_ofNat (by omega)).mpr (by omega), hmore _ hnone⟩
  split
  · exact ⟨_, _, rfl, (beginsChar_ofNat (by omega)).mpr (by omega), hmore _ (hmore _ hnone)⟩
  · exact ⟨_, _, rfl, (beginsChar_ofNat (by omega)).mpr (by omega),
      hmore _ (hmore _ (hmore _ hnone))⟩

theorem beginsChar_of_mem_head? (cs : List Char) :
    ∀ b ∈ (cs.flatMap String.utf8EncodeChar).head?, beginsChar b = true := by
  cases cs with
  | nil => simp
  | cons c cs =>
    obtain ⟨b, bs, hencoded, hbegins, -⟩ := utf8EncodeChar_eq_cons c
    simp [hencoded, hbegins]

/-- Behind a character the places are those of what follows. -/
theorem isBoundary_append {front rest : List UInt8} (hfront : front ≠ [])
    (hrest : ∀ b ∈ rest.head?, beginsChar b = true) (place : Nat) :
    isBoundary (front ++ rest) (front.length + place) = isBoundary rest place := by
  have hpos : 0 < front.length := List.length_pos_iff.mpr hfront
  have hlater : (front.length + place == 0) = false := by
    rw [beq_eq_false_iff_ne]
    omega
  have hat : (front ++ rest)[front.length + place]? = rest[place]? := by
    rw [List.getElem?_append_right (Nat.le_add_right ..), Nat.add_sub_cancel_left]
  unfold isBoundary
  rw [hlater, hat, Bool.false_or, List.length_append]
  cases place with
  | zero =>
    cases rest with
    | nil => simp
    | cons b rest => simpa using hrest b rfl
  | succ place =>
    cases rest[place + 1]? with
    | none =>
      rw [Bool.eq_iff_iff, beq_iff_eq, Bool.or_eq_true, beq_iff_eq, beq_iff_eq]
      omega
    | some b => rfl

theorem length_encode (cs : List Char) :
    (cs.flatMap String.utf8EncodeChar).length = byteCount cs := by
  induction cs with
  | nil => rfl
  | cons c cs ih =>
    rw [List.flatMap_cons, List.length_append, ih, String.length_utf8EncodeChar, byteCount_cons]

theorem take_encode {front : List Char} (h : front <+: cs) :
    (cs.flatMap String.utf8EncodeChar).take (byteCount front)
      = front.flatMap String.utf8EncodeChar := by
  obtain ⟨rest, rfl⟩ := h
  rw [List.flatMap_append, ← length_encode, List.take_left]

/-- A place lies between characters exactly if a beginning ends there. -/
theorem isBoundary_encode_iff : isBoundary (cs.flatMap String.utf8EncodeChar) place = true ↔
    ∃ front, front <+: cs ∧ byteCount front = place := by
  induction cs generalizing place with
  | nil =>
    cases place with
    | zero => exact ⟨fun _ => ⟨[], List.nil_prefix, rfl⟩, fun _ => rfl⟩
    | succ place => simp [isBoundary]
  | cons c cs ih =>
    obtain ⟨b, bs, hencoded, -, hbs⟩ := utf8EncodeChar_eq_cons c
    have hsize : (b :: bs).length = c.utf8Size := hencoded ▸ String.length_utf8EncodeChar c
    rw [List.flatMap_cons, hencoded]
    rcases Nat.lt_or_ge place c.utf8Size with hinside | hbehind
    · -- Inside the first character there is only its beginning.
      have hfront : (∃ front, front <+: c :: cs ∧ byteCount front = place) ↔ place = 0 := by
        constructor
        · rintro ⟨front, hprefix, rfl⟩
          cases front with
          | nil => rfl
          | cons d front =>
            obtain ⟨rfl, -⟩ := List.cons_prefix_cons.mp hprefix
            rw [byteCount_cons] at hinside
            omega
        · rintro rfl
          exact ⟨[], List.nil_prefix, rfl⟩
      rw [hfront]
      cases place with
      | zero => simp [isBoundary]
      | succ place =>
        have hplace : place < bs.length := by
          rw [List.length_cons] at hsize
          omega
        have hgoes : beginsChar bs[place] = false := hbs _ (List.getElem_mem hplace)
        simp [isBoundary, List.getElem?_append_left hplace, hplace, hgoes]
    · obtain ⟨rest, rfl⟩ := Nat.exists_eq_add_of_le hbehind
      rw [← hsize, isBoundary_append (List.cons_ne_nil _ _) (beginsChar_of_mem_head? cs), ih, hsize]
      constructor
      · rintro ⟨front, hprefix, rfl⟩
        exact ⟨c :: front, List.cons_prefix_cons.mpr ⟨rfl, hprefix⟩, rfl⟩
      · rintro ⟨front, hprefix, hcount⟩
        cases front with
        | nil =>
          have hpos := c.utf8Size_pos
          rw [byteCount_nil] at hcount
          omega
        | cons d front =>
          obtain ⟨rfl, htail⟩ := List.cons_prefix_cons.mp hprefix
          rw [byteCount_cons] at hcount
          exact ⟨front, htail, by omega⟩

/-! ### The longest beginning that fits -/

/-- The longest beginning of whole characters that takes at most a number of bytes. -/
structure LongestFit (limit : Nat) (text kept : List Char) : Prop where
  beginning : kept <+: text
  fits : byteCount kept ≤ limit
  longest : ∀ front, front <+: text → byteCount front ≤ limit → front.length ≤ kept.length

theorem longestFit_iff : LongestFit limit cs kept ↔ takeBytes limit cs = kept := by
  constructor
  · intro h
    have hprefix : kept <+: takeBytes limit cs := takeBytes_maximal h.beginning h.fits
    have hlength : (takeBytes limit cs).length ≤ kept.length :=
      h.longest _ (takeBytes_isPrefix limit cs) (byteCount_takeBytes_le limit cs)
    exact (List.IsPrefix.eq_of_length_le hprefix hlength).symm
  · rintro rfl
    exact ⟨takeBytes_isPrefix limit cs, byteCount_takeBytes_le limit cs,
      fun front hfront hfits => (takeBytes_maximal hfront hfits).length_le⟩

theorem byteCount_le_of_isPrefix {front : List Char} (h : front <+: cs) :
    byteCount front ≤ byteCount cs := by
  obtain ⟨rest, rfl⟩ := h
  rw [byteCount_append]
  exact Nat.le_add_right ..

/-- One more character of a text that does not fit would be too many. -/
theorem exists_next (h : limit < byteCount cs) : ∃ c rest,
    cs = takeBytes limit cs ++ c :: rest ∧ limit < byteCount (takeBytes limit cs ++ [c]) := by
  obtain ⟨rest, hrest⟩ := takeBytes_isPrefix limit cs
  have hfits := byteCount_takeBytes_le limit cs
  cases rest with
  | nil =>
    rw [List.append_nil] at hrest
    rw [hrest] at hfits
    omega
  | cons c rest =>
    refine ⟨c, rest, hrest.symm, Nat.lt_of_not_le fun hmore => ?_⟩
    have hlonger : takeBytes limit cs ++ [c] <+: takeBytes limit cs :=
      takeBytes_maximal ⟨rest, by rw [List.append_assoc]; exact hrest⟩ hmore
    have := hlonger.length_le
    rw [List.length_append, List.length_singleton] at this
    omega

/-- What is kept of a beginning is a beginning of what is kept. -/
theorem takeBytes_mono {front : List Char} (h : front <+: cs) :
    takeBytes limit front <+: takeBytes limit cs :=
  takeBytes_maximal ((takeBytes_isPrefix limit front).trans h) (byteCount_takeBytes_le limit front)

/-- The search never leaves a text, and ends behind the longest beginning that fits. -/
theorem cutBytes?_utf8 (limit : Nat) (text : String) :
    cutBytes? limit (utf8 text) = some (utf8 (String.ofList (takeBytes limit text.toList))) := by
  unfold cutBytes? utf8
  rw [length_encode, String.toList_ofList]
  by_cases hfits : byteCount text.toList ≤ limit
  · rw [if_pos hfits, takeBytes_of_le hfits]
  · have hfound : lastBoundary? (text.toList.flatMap String.utf8EncodeChar) limit
        = some (byteCount (takeBytes limit text.toList)) := by
      refine lastBoundary?_eq_some (byteCount_takeBytes_le ..)
        (isBoundary_encode_iff.mpr ⟨_, takeBytes_isPrefix .., rfl⟩) fun later hlater hle => ?_
      rw [← Bool.not_eq_true, isBoundary_encode_iff]
      rintro ⟨front, hfront, rfl⟩
      have := byteCount_le_of_isPrefix (takeBytes_maximal hfront hle)
      omega
    rw [if_neg hfits, hfound, Option.map_some, take_encode (takeBytes_isPrefix ..)]

end Text

namespace Response

open Text

/-- **A failure keeps the longest beginning of its reason that fits.** What it keeps takes at most
1024 bytes, and no other beginning of whole characters does that is as long. The search for the
place of the cut ends in the text, and the bytes in front of it are what is kept. A reason that fits
is kept whole; of one that does not, at least 1021 bytes are kept, and one more character would be
too many. What is kept is not cut again, and of a longer reason no less is kept. -/
theorem reason_is_longest_fit (r : Request) (reason : String) :
    ∃ kept : String, (failed r reason).reason = some kept ∧
      (∀ other : String, LongestFit 1024 reason.toList other.toList ↔ kept = other) ∧
      (∃ bytes, cutBytes? 1024 (utf8 reason) = some bytes ∧ ofUtf8? bytes = some kept) ∧
      (utf8 kept).length ≤ 1024 ∧
      ((utf8 reason).length ≤ 1024 → kept = reason) ∧
      (1024 < (utf8 reason).length → 1021 ≤ (utf8 kept).length ∧
        ∃ c rest, reason.toList = kept.toList ++ c :: rest ∧
          1024 < (utf8 kept).length + (String.utf8EncodeChar c).length) ∧
      (failed r kept).reason = some kept ∧
      ∀ longer : String, reason.toList <+: longer.toList →
        ∃ more, (failed r longer).reason = some more ∧ kept.toList <+: more.toList := by
  have hlist : (truncated reason).toList = takeBytes 1024 reason.toList := String.toList_ofList
  have hfits : byteCount (truncated reason).toList ≤ 1024 := byteCount_truncated_le reason
  refine ⟨truncated reason, rfl, fun other => ?_, ?_, ?_, fun h => ?_, fun h => ?_, ?_,
    fun longer h => ⟨truncated longer, rfl, ?_⟩⟩
  · rw [longestFit_iff, ← hlist, String.toList_inj]
  · exact ⟨_, cutBytes?_utf8 1024 reason, ofUtf8?_eq_some_iff.mpr rfl⟩
  · rw [utf8, length_encode]
    exact hfits
  · rw [utf8, length_encode] at h
    rw [← String.toList_inj, hlist, takeBytes_of_le h]
  · rw [utf8, length_encode] at h
    obtain ⟨c, rest, hsplit, hmore⟩ := exists_next h
    rw [← hlist] at hsplit hmore
    have hsize := c.utf8Size_le_four
    rw [byteCount_append, byteCount_cons, byteCount_nil] at hmore
    rw [utf8, length_encode]
    refine ⟨by omega, c, rest, hsplit, ?_⟩
    rw [String.length_utf8EncodeChar]
    omega
  · have hagain : truncated (truncated reason) = truncated reason := by
      rw [← String.toList_inj]
      exact String.toList_ofList.trans (takeBytes_of_le hfits)
    rw [failed, hagain]
  · rw [truncated, truncated, String.toList_ofList, String.toList_ofList]
    exact takeBytes_mono h

/-- A character of four bytes of which three fit is not kept, nor is what comes behind it. -/
theorem straddling_character_is_dropped :
    ∃ front reason longer : String, front.toList = List.replicate 1021 'a' ∧
      reason.toList = front.toList ++ ['😀'] ∧ longer.toList = reason.toList ++ ['b'] ∧
      1024 < (utf8 reason).length ∧ (failed default reason).reason = some front ∧
      reason.toList <+: longer.toList ∧
      ∃ more, (failed default longer).reason = some more ∧ front.toList <+: more.toList := by
  have hstring (cs : List Char) : ∃ s : String, s.toList = cs := ⟨_, String.toList_ofList⟩
  obtain ⟨front, hfront⟩ := hstring (List.replicate 1021 'a')
  obtain ⟨reason, hreason⟩ := hstring (front.toList ++ ['😀'])
  obtain ⟨longer, hlonger⟩ := hstring (reason.toList ++ ['b'])
  obtain ⟨kept, hkept, hlongest, -, -, -, -, -, hmore⟩ := reason_is_longest_fit default reason
  have hfit : takeBytes 1024 reason.toList = front.toList := by
    rw [hreason, hfront]
    decide +kernel
  obtain rfl : kept = front := (hlongest front).mp (longestFit_iff.mpr hfit)
  have hbytes : 1024 < (utf8 reason).length := by
    rw [utf8, length_encode, hreason, hfront]
    decide +kernel
  have hprefix : reason.toList <+: longer.toList := hlonger ▸ List.prefix_append ..
  exact ⟨kept, reason, longer, hfront, hreason, hlonger, hbytes, hkept, hprefix,
    hmore longer hprefix⟩

end Response

end DatabaseResource
