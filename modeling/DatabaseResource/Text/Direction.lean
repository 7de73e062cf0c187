import DatabaseResource.Text.Mark

/-!
# Directions of writing

Most letters are read from left to right, those of Hebrew and Arabic and of scripts like them from
right to left. Digits have a direction of their own, signs take the one of what stands around them,
and a mark goes with the character before it. The tables are about the characters that a name may
hold.
-/

namespace DatabaseResource.Text

/-- How a character is read among others. -/
inductive Direction where
  | left
  | right
  /-- A digit as in Europe. -/
  | european
  /-- A digit as in Arabic. -/
  | arabic
  /-- A sign, which goes with what stands around it. -/
  | neutral
  /-- A mark, which goes with the character before it. -/
  | mark
deriving DecidableEq, Repr

/-- Runs of other code points, each with the length of the run after it that is read from right to
left. -/
def rightRuns : List (Nat × Nat) := [
  (1470, 72), (2, 1), (2, 1), (1, 1), (13, 79), (3, 113), (7, 4), (5, 264), (4, 265), (62127, 396),
  (309, 397), (2048, 287), (1, 537), (7, 558), (1, 657), (55296, 1776)]

/-- Runs of other code points, each with the length of the run of signs after it. -/
def neutralRuns : List (Nat × Nat) := [
  (33, 64), (26, 100), (24, 1), (449, 2), (7, 14), (2, 28), (1, 130), (4, 2), (127, 2), (402, 52),
  (72, 2), (1, 2), (1, 1), (1, 13), (79, 3), (113, 7), (4, 5), (264, 4), (504, 2), (7, 1), (245, 8),
  (250, 14), (119, 7), (448, 1), (250, 4), (1106, 16), (96, 1), (666, 5), (315, 1), (20, 32),
  (304, 6), (152, 34), (1548, 322), (60, 428), (69, 26), (1, 790), (1, 339), (256, 816), (181, 7),
  (13, 7), (256, 517), (3, 25), (15, 1), (6, 4), (2, 4), (95, 1), (90, 1), (196, 48), (7120, 64),
  (22160, 64), (317, 3), (99, 14), (127, 35), (101, 1), (159, 8), (8, 8), (52, 12), (746, 86),
  (20862, 309), (654, 1), (62, 77), (3, 64), (1871, 1), (537, 7), (558, 1), (739, 20), (1530, 32),
  (2389, 42), (20451, 1), (23581, 848), (665, 215), (64, 96), (3999, 465), (2592, 608), (29, 3),
  (61, 57), (122, 3488)]

/-- First code point and count. -/
def europeanRuns : List (Nat × Nat) := [(48, 10), (1776, 10), (66273, 27)]

def arabicRuns : List (Nat × Nat) := [(1632, 10), (1643, 2), (68912, 10), (69216, 31)]

/-- Marks that are read from left to right, as letters are. -/
def leftMarks : List Nat := [3263, 3270, 72199, 72200, 72767]

def direction (c : Char) : Direction :=
  let isIn (runs : List (Nat × Nat)) : Bool :=
    runs.any fun r => r.1 ≤ c.toNat && c.toNat < r.1 + r.2
  if isIn europeanRuns then .european
  else if isIn arabicRuns then .arabic
  else if isNonspacing c then if leftMarks.contains c.toNat then .left else .mark
  else if !inFirstParts rightRuns c.toNat then .right
  else if !inFirstParts neutralRuns c.toNat then .neutral
  else .left

end DatabaseResource.Text
