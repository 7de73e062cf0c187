import DatabaseResource.Proofs.Document

/-!
# How long a failure is

The document of a failure has as many bytes as its fixed parts, its ids and its reason together, and
an escape adds to the reason: one byte where it is a letter, and five where it is a number
(`Json.byteCount_writeString`). The reason is cut before it is escaped, so that it takes up to six
times the bytes that it may have.
-/

namespace DatabaseResource

namespace Json

open Text

/-- The characters that are escaped by a letter or by themselves. -/
def shortEscaped : List Char := ['"', '\\', '\x08', '\x0c', '\n', '\r', '\t']

theorem mem_shortEscaped {c : Char} : c ∈ shortEscaped ↔ c = '"' ∨ c = '\\' ∨ c = '\x08' ∨
    c = '\x0c' ∨ c = '\n' ∨ c = '\r' ∨ c = '\t' := by
  simp [shortEscaped]

/-- How many characters are escaped by one more character. -/
def shortEscapes (s : String) : Nat := s.toList.countP (· ∈ shortEscaped)

/-- How many characters are escaped by their number. -/
def longEscapes (s : String) : Nat :=
  s.toList.countP fun c => c.toNat < 0x20 ∧ c ∉ shortEscaped

theorem utf8Size_lowerHexDigit (n : Nat) (h : n < 16) : (lowerHexDigit n).utf8Size = 1 := by
  have hdigits : ∀ n < 16, (lowerHexDigit n).utf8Size = 1 := by decide
  exact hdigits n h

theorem utf8Size_of_control {c : Char} (h : c.toNat < 0x20) : c.utf8Size = 1 := by
  apply Char.utf8Size_eq_one_iff.mpr
  apply UInt32.le_iff_toNat_le.mpr
  have hbound : c.val.toNat ≤ 127 := by
    have hval : c.val.toNat < 0x20 := h
    omega
  exact hbound

theorem byteCount_writeChar (c : Char) : byteCount (writeChar c)
    = c.utf8Size + (if c ∈ shortEscaped then 1 else 0)
      + 5 * (if c.toNat < 0x20 ∧ c ∉ shortEscaped then 1 else 0) := by
  by_cases hshort : c ∈ shortEscaped
  · have hwritten : byteCount (writeChar c) = c.utf8Size + 1 := by
      rcases mem_shortEscaped.mp hshort with rfl | rfl | rfl | rfl | rfl | rfl | rfl <;> decide
    simp [hwritten, hshort]
  · have hne : c ≠ '"' ∧ c ≠ '\\' ∧ c ≠ '\x08' ∧ c ≠ '\x0c' ∧ c ≠ '\n' ∧ c ≠ '\r' ∧ c ≠ '\t' := by
      simpa [mem_shortEscaped] using hshort
    by_cases hcontrol : c.toNat < 0x20
    · have hwritten : writeChar c = ['\\', 'u', '0', '0']
          ++ [lowerHexDigit (c.toNat / 16), lowerHexDigit (c.toNat % 16)] := by
        simp [writeChar, hne, hcontrol]
      have hfront : byteCount ['\\', 'u', '0', '0'] = 4 := rfl
      have hhigh := utf8Size_lowerHexDigit (c.toNat / 16) (by omega)
      have hlow := utf8Size_lowerHexDigit (c.toNat % 16) (by omega)
      rw [hwritten, byteCount_append, hfront]
      simp [hhigh, hlow, hshort, hcontrol, utf8Size_of_control hcontrol]
    · have hwritten : writeChar c = [c] := by simp [writeChar, hne, hcontrol]
      simp [hwritten, hshort, hcontrol]

/-- The bytes of a string between its quotation marks. -/
def writtenBytes (s : String) : Nat := byteCount s.toList + shortEscapes s + 5 * longEscapes s

theorem byteCount_flatMap_writeChar (cs : List Char) : byteCount (cs.flatMap writeChar)
    = byteCount cs + cs.countP (· ∈ shortEscaped)
      + 5 * cs.countP (fun c => c.toNat < 0x20 ∧ c ∉ shortEscaped) := by
  induction cs with
  | nil => rfl
  | cons c cs ih =>
    rw [List.flatMap_cons, byteCount_append, byteCount_writeChar, ih, byteCount_cons,
      List.countP_cons, List.countP_cons]
    simp only [decide_eq_true_eq]
    omega

theorem byteCount_writeString (s : String) : byteCount (writeString s) = writtenBytes s + 2 := by
  have hquote : ('"' : Char).utf8Size = 1 := rfl
  rw [writeString, List.cons_append, byteCount_cons, byteCount_append,
    byteCount_flatMap_writeChar, byteCount_cons, byteCount_nil, hquote]
  unfold writtenBytes shortEscapes longEscapes
  omega

theorem byteCount_writeMember (name : String) (value : List Char) :
    byteCount (writeMember name value) = writtenBytes name + byteCount value + 3 := by
  have hcolon : (':' : Char).utf8Size = 1 := rfl
  rw [writeMember, byteCount_append, byteCount_writeString, byteCount_cons, hcolon]
  omega

theorem byteCount_withCommas (p : List Char) (ps : List (List Char)) :
    byteCount (withCommas (p :: ps)) = byteCount (p :: ps).flatten + ps.length := by
  induction ps generalizing p with
  | nil => simp [withCommas]
  | cons q ps ih =>
    have hcomma : (',' : Char).utf8Size = 1 := rfl
    have hfront : withCommas (p :: q :: ps) = p ++ ',' :: withCommas (q :: ps) := rfl
    rw [hfront, byteCount_append, byteCount_cons, ih, hcomma]
    simp only [List.flatten_cons, byteCount_append, List.length_cons]
    omega

theorem byteCount_writeObject (p : List Char) (ps : List (List Char)) :
    byteCount (writeObject (p :: ps)) = byteCount (p :: ps).flatten + ps.length + 2 := by
  have hopening : ('{' : Char).utf8Size = 1 := rfl
  have hclosing : byteCount ['}'] = 1 := rfl
  rw [writeObject, List.cons_append, byteCount_cons, byteCount_append, byteCount_withCommas,
    hopening, hclosing]
  omega

/-- Printable characters of one byte that are not escaped. -/
def IsPlain (s : String) : Prop :=
  ∀ c ∈ s.toList, 0x20 ≤ c.toNat ∧ c.toNat ≤ 0x7e ∧ c ≠ '"' ∧ c ≠ '\\'

instance (s : String) : Decidable (IsPlain s) :=
  decidable_of_iff (s.toList.all fun c => 0x20 ≤ c.toNat ∧ c.toNat ≤ 0x7e ∧ c ≠ '"' ∧ c ≠ '\\')
    (by simp [IsPlain])

theorem IsPlain.writtenBytes {s : String} (h : IsPlain s) :
    writtenBytes s = byteCount s.toList := by
  have hshort : shortEscapes s = 0 := by
    apply List.countP_eq_zero.mpr
    intro c hc hescaped
    obtain ⟨hprintable, -, hquote, hbackslash⟩ := h c hc
    have hothers : c.toNat < 0x20 := by
      have hmem : c ∈ shortEscaped := of_decide_eq_true hescaped
      rw [mem_shortEscaped, or_iff_right hquote, or_iff_right hbackslash] at hmem
      rcases hmem with rfl | rfl | rfl | rfl | rfl <;> decide
    omega
  have hlong : longEscapes s = 0 := by
    apply List.countP_eq_zero.mpr
    intro c hc hescaped
    obtain ⟨hprintable, -⟩ := h c hc
    obtain ⟨hcontrol, -⟩ := of_decide_eq_true hescaped
    omega
  rw [Json.writtenBytes, hshort, hlong]
  rfl

/-- No character is escaped twice. -/
theorem escapes_le (s : String) : shortEscapes s + longEscapes s ≤ byteCount s.toList := by
  unfold shortEscapes longEscapes
  induction s.toList with
  | nil => exact Nat.le_refl 0
  | cons c cs ih =>
    have hpos := Char.utf8Size_pos c
    have honce : (if c ∈ shortEscaped then 1 else 0)
        + (if c.toNat < 0x20 ∧ c ∉ shortEscaped then 1 else 0) ≤ 1 := by
      by_cases hshort : c ∈ shortEscaped
      · simp [hshort]
      · simp only [hshort, if_false]
        split <;> omega
    rw [List.countP_cons, List.countP_cons, byteCount_cons]
    simp only [decide_eq_true_eq]
    omega

end Json

/-- The ids that a request brings. -/
def Request.ids (r : Request) : List String :=
  r.physicalResourceId.toList ++ [r.stackId, r.requestId, r.logicalResourceId]

namespace Response

open Json Text

theorem members_failed (r : Request) (reason : String) : (failed r reason).members
    = [("Status", "FAILED"), ("Reason", truncated reason), ("PhysicalResourceId", r.knownId),
        ("StackId", r.stackId), ("RequestId", r.requestId),
        ("LogicalResourceId", r.logicalResourceId)].map
          (fun m => writeMember m.1 (writeString m.2))
      ++ [writeMember "NoEcho" ['f', 'a', 'l', 's', 'e'], writeMember "Data" ['{', '}']] := by
  have hdata : sorted [] = [] := List.mergeSort_nil
  rw [members_eq_entries, failed, hdata]
  rfl

/-- The bytes of a failure. -/
theorem byteCount_failed (r : Request) (reason : String) :
    byteCount (failed r reason).body.toList
      = 131 + writtenBytes (truncated reason) + writtenBytes r.knownId + writtenBytes r.stackId
        + writtenBytes r.requestId + writtenBytes r.logicalResourceId := by
  have hnames : writtenBytes "Status" = 6 ∧ writtenBytes "FAILED" = 6 ∧ writtenBytes "Reason" = 6 ∧
      writtenBytes "PhysicalResourceId" = 18 ∧ writtenBytes "StackId" = 7 ∧
      writtenBytes "RequestId" = 9 ∧ writtenBytes "LogicalResourceId" = 17 ∧
      writtenBytes "NoEcho" = 6 ∧ writtenBytes "Data" = 4 := by decide
  have hvalues : byteCount ['f', 'a', 'l', 's', 'e'] = 5 ∧ byteCount ['{', '}'] = 2 := by decide
  rw [body, String.toList_ofList, members_failed]
  simp only [List.map_cons, List.map_nil, List.cons_append, List.nil_append]
  rw [byteCount_writeObject]
  simp only [List.flatten_cons, List.flatten_nil, byteCount_append, byteCount_nil,
    List.length_cons, List.length_nil, byteCount_writeMember, byteCount_writeString, hnames,
    hvalues]
  omega

/-- A reason of one-byte characters is cut to as many as it may have bytes. -/
theorem truncated_replicate {c : Char} (hc : c.utf8Size = 1) (n : Nat) :
    truncated (String.ofList (List.replicate n c))
      = String.ofList (List.replicate (min n maxReasonBytes) c) := by
  have hcut (budget : Nat) :
      takeBytes budget (List.replicate n c) = List.replicate (min n budget) c := by
    induction n generalizing budget with
    | zero => simp [takeBytes]
    | succ n ih =>
      cases budget with
      | zero => simp [List.replicate_succ, takeBytes, hc]
      | succ budget =>
        rw [List.replicate_succ, takeBytes, hc, if_pos (Nat.le_add_left 1 budget),
          Nat.add_sub_cancel, ih, Nat.succ_min_succ, List.replicate_succ]
  rw [truncated, String.toList_ofList, hcut]

/-- A reason of control characters takes six times its bytes. -/
theorem lt_byteCount_failed (r : Request) {n : Nat} (hn : 661 ≤ n) :
    4096 < byteCount (failed r (String.ofList (List.replicate n '\x01'))).body.toList := by
  have hlong : longEscapes (String.ofList (List.replicate (min n maxReasonBytes) '\x01'))
      = min n maxReasonBytes := by
    simp [longEscapes, List.countP_replicate, shortEscaped]
  have hbytes (k : Nat) : byteCount (List.replicate k '\x01') = k := by
    induction k with
    | zero => rfl
    | succ k ih =>
      have hone : ('\x01' : Char).utf8Size = 1 := rfl
      rw [List.replicate_succ, byteCount_cons, ih, hone, Nat.add_comm]
  have hlimit : maxReasonBytes = 1024 := rfl
  rw [byteCount_failed, truncated_replicate rfl, writtenBytes, hlong, String.toList_ofList, hbytes]
  omega

/-- A failure keeps the id that the request gives, or the logical id. -/
theorem knownId_cases (r : Request) :
    (∃ id, id ≠ "" ∧ r.physicalResourceId = some id ∧ r.knownId = id) ∨
      (¬ ∃ id, id ≠ "" ∧ r.physicalResourceId = some id) ∧ r.knownId = r.logicalResourceId := by
  unfold Request.knownId
  cases hgiven : r.physicalResourceId with
  | none => simp
  | some id =>
    by_cases hid : id = ""
    · simp [hid]
    · simp [hid]

theorem knownId_mem_ids (r : Request) : r.knownId ∈ r.ids := by
  rcases knownId_cases r with ⟨id, -, hid, heq⟩ | ⟨-, heq⟩
  · simp [Request.ids, heq, hid]
  · simp [Request.ids, heq]

/-- The bytes of the ids that a failure has. -/
def idBytes (r : Request) : Nat :=
  byteCount r.knownId.toList + byteCount r.stackId.toList + byteCount r.requestId.toList
    + byteCount r.logicalResourceId.toList

/-- An id that the request gives is there once, and the logical id at most twice. -/
theorem idBytes_le {r : Request} {n : Nat}
    (htotal : byteCount (r.ids.flatMap String.toList) ≤ n) :
    idBytes r ≤ 2 * n ∧ ((∃ id, id ≠ "" ∧ r.physicalResourceId = some id) → idBytes r ≤ n) := by
  simp only [Request.ids, List.flatMap_append, List.flatMap_cons, List.flatMap_nil,
    byteCount_append, byteCount_nil] at htotal
  unfold idBytes
  rcases knownId_cases r with ⟨id, -, hid, heq⟩ | ⟨hnone, heq⟩
  · simp only [hid, Option.toList_some, List.flatMap_cons, List.flatMap_nil, byteCount_append,
      byteCount_nil] at htotal
    rw [heq]
    exact ⟨by omega, fun _ => by omega⟩
  · rw [heq]
    exact ⟨by omega, fun hgiven => absurd hgiven hnone⟩

/-- **How long a failure is.** Where the ids of a request are plain and take at most 1024 bytes, the
document has as many bytes as its fixed parts, what is kept of the reason with its escapes, and the
ids. It fits into 4096 bytes if the escapes add at most 893 bytes, and for a resource with an id
also if no character is escaped by its number. It always fits into 8323 bytes. But no document fits
whose reason is 661 control characters or more. -/
theorem failure_bytes (r : Request) (reason : String) (hplain : ∀ id ∈ r.ids, IsPlain id)
    (htotal : byteCount (r.ids.flatMap String.toList) ≤ 1024) :
    let size (reason : String) := byteCount (failed r reason).body.toList
    let cut := truncated reason
    size reason
      = 131 + byteCount cut.toList + shortEscapes cut + 5 * longEscapes cut + idBytes r ∧
    (shortEscapes cut + 5 * longEscapes cut ≤ 893 → size reason ≤ 4096) ∧
    (longEscapes cut = 0 → (∃ id, id ≠ "" ∧ r.physicalResourceId = some id) →
      size reason ≤ 4096) ∧
    size reason ≤ 8323 ∧
    ∀ n, 661 ≤ n → 4096 < size (String.ofList (List.replicate n '\x01')) := by
  intro size cut
  have hkept : byteCount cut.toList ≤ 1024 := byteCount_truncated_le reason
  have hescapes : shortEscapes cut + longEscapes cut ≤ byteCount cut.toList := escapes_le cut
  obtain ⟨hids, hgiven⟩ := idBytes_le htotal
  have hsize : size reason
      = 131 + byteCount cut.toList + shortEscapes cut + 5 * longEscapes cut + idBytes r := by
    have hwritten : ∀ id ∈ r.ids, writtenBytes id = byteCount id.toList := fun id hid =>
      (hplain id hid).writtenBytes
    calc size reason
        = 131 + writtenBytes cut + writtenBytes r.knownId + writtenBytes r.stackId
            + writtenBytes r.requestId + writtenBytes r.logicalResourceId :=
          byteCount_failed r reason
      _ = 131 + writtenBytes cut + idBytes r := by
          rw [hwritten _ (knownId_mem_ids r), hwritten r.stackId (by simp [Request.ids]),
            hwritten r.requestId (by simp [Request.ids]),
            hwritten r.logicalResourceId (by simp [Request.ids]), idBytes]
          omega
      _ = 131 + byteCount cut.toList + shortEscapes cut + 5 * longEscapes cut + idBytes r := by
          rw [writtenBytes]
          omega
  refine ⟨hsize, ?_, ?_, ?_, fun n hn => lt_byteCount_failed r hn⟩
  · intro hfew
    omega
  · intro hlong hid
    have hone := hgiven hid
    omega
  · omega

/-- A request whose ids are plain. -/
def plainRequest : Request :=
  { (default : Request) with
    stackId := "arn:aws:cloudformation:us-east-1:123456789012:stack/app/1"
    requestId := "5d478078-13e9-baf0-464a-7ef285ecc786"
    logicalResourceId := "InitDatabase" }

theorem plainRequest_ids : (∀ id ∈ plainRequest.ids, IsPlain id) ∧
    byteCount (plainRequest.ids.flatMap String.toList) ≤ 1024 := by
  decide +kernel

/-- A reason that is not escaped leaves the document short. -/
theorem plainRequest_fits : byteCount (failed plainRequest "reason").body.toList = 254 := by
  obtain ⟨hsize, -⟩ := failure_bytes plainRequest "reason" plainRequest_ids.1 plainRequest_ids.2
  exact hsize.trans (by decide +kernel)

/-- The ids of a request are plain and short, and yet a failure of it is not. -/
theorem failure_exceeds_limit :
    ¬ ∀ (r : Request) (reason : String), (∀ id ∈ r.ids, IsPlain id) →
      byteCount (r.ids.flatMap String.toList) ≤ 1024 →
      byteCount (failed r reason).body.toList ≤ 4096 := by
  intro hlimit
  have hfits := hlimit plainRequest (String.ofList (List.replicate 1024 '\x01'))
    plainRequest_ids.1 plainRequest_ids.2
  have hlong := lt_byteCount_failed plainRequest (show 661 ≤ 1024 by decide)
  omega

end Response

end DatabaseResource
