/-!
# Packed tables

Tables from code points to code points, written as lines of words. A word says how many code
points lie between its own and the one of the word before it, and behind a colon the code points
that belong to it, with dots between them; all numbers are hexadecimal.
-/

namespace DatabaseResource.Text

/-- The value of a hexadecimal number in lower case. -/
def packedNumber (cs : List Char) : Nat :=
  cs.foldl (fun n c => n * 16 + if c.toNat < 58 then c.toNat - 48 else c.toNat - 87) 0

/-- The parts of a text between separators; nothing has no parts. -/
def packedParts (separator : Char) (cs : List Char) : List (List Char) :=
  cs.foldr (fun c parts =>
    match parts with
    | [] => if c = separator then [[], []] else [[c]]
    | p :: ps => if c = separator then [] :: p :: ps else (c :: p) :: ps) []

/-- The entry of a word that comes behind a code point. -/
def packedEntry (next : Nat) (word : List Char) : Nat × List Nat :=
  let gap := word.takeWhile (· != ':')
  let values := word.drop (gap.length + 1)
  (next + packedNumber gap, (packedParts '.' values).map packedNumber)

/-- The entries of a packed table. -/
def unpack (lines : List String) : List (Nat × List Nat) :=
  let words := lines.flatMap fun line => packedParts ' ' line.toList
  (words.foldl (fun (entries, next) word =>
    let e := packedEntry next word
    (e :: entries, e.1 + 1)) ([], 0)).1.reverse

end DatabaseResource.Text
