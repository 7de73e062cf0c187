import DatabaseResource.Text.Mark

/-!
# Joined letters

In some scripts, Arabic among them, a letter is joined to the one before it, to the one after it or
to both. A mark between two letters does not keep them apart. The tables are about the characters
that a name may hold.
-/

namespace DatabaseResource.Text

/-- Runs of other code points, each with the length of the run after it of letters that are joined
to the letter after them. -/
def joinedToNextRuns : List (Nat × Nat) := [
  (1568, 1), (5, 1), (1, 1), (1, 5), (4, 13), (1, 7), (1, 23), (14, 3), (8, 15), (18, 38), (1, 2),
  (9, 1), (1, 1), (1, 2), (40, 3), (2, 1), (18, 3), (5, 4), (1, 9), (1, 1), (1, 1), (1, 2),
  (31, 11), (3, 15), (2, 4), (1, 1), (2, 3), (2, 6), (74, 42), (77, 5), (2, 1), (1, 10), (1, 1),
  (10, 1), (1, 4), (2, 1), (29, 1), (2, 5), (18, 10), (5, 2), (2, 6), (1, 15), (3902, 1), (24, 96),
  (7, 41), (36752, 51), (25165, 5), (8, 1), (5, 10), (1, 3), (10, 4), (145, 1), (1, 1), (3, 3),
  (1, 2), (1, 1), (2, 1), (28, 2), (337, 34), (1, 13), (403, 61), (48, 3), (1, 17), (12, 3),
  (28, 4), (2, 16), (42, 1), (1, 2), (4, 1), (2, 2), (1, 2), (1, 1), (2, 1), (5, 22), (55618, 41)]

/-- Runs of other code points, each with the length of the run after it of letters that are joined
to the letter before them. -/
def joinedToPreviousRuns : List (Nat × Nat) := [
  (1568, 1), (1, 30), (1, 31), (14, 6), (5, 91), (1, 9), (16, 2), (10, 3), (2, 1), (16, 112),
  (74, 42), (76, 30), (2, 1), (1, 4), (1, 28), (3, 1), (2, 36), (1, 27), (3902, 1), (24, 96),
  (7, 41), (36752, 50), (25166, 6), (1, 1), (1, 2), (3, 9), (1, 10), (2, 12), (144, 25), (16, 6),
  (338, 47), (402, 62), (48, 21), (12, 4), (27, 22), (42, 1), (1, 5), (1, 8), (1, 4), (4, 2),
  (55639, 41)]

def joinsNext (c : Char) : Bool := !inFirstParts joinedToNextRuns c.toNat

def joinsPrevious (c : Char) : Bool := !inFirstParts joinedToPreviousRuns c.toNat

/-- A letter that does not keep the letters beside it apart. -/
def transparentLetter : Nat := 0x1E94B

/-- Whether letters join across a character. -/
def isTransparent (c : Char) : Bool := isNonspacing c || c.toNat == transparentLetter

end DatabaseResource.Text
