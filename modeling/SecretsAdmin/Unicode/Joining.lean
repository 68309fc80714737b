import SecretsAdmin.Unicode.Combining

namespace SecretsAdmin.Unicode

/-!
# Joiners

Two characters are not shown, but say whether the letters beside them are joined. They may stand
behind a virama; the one that keeps letters apart may also stand where letters would join.
-/

/-- How a letter joins the letters beside it. -/
inductive JoiningType where
  /-- It joins no other letter. -/
  | apart
  /-- It lets the letters beside it join each other. -/
  | transparent
  /-- It joins on both sides. -/
  | dual
  /-- It joins the letter before it. -/
  | right
  /-- It joins the letter behind it. -/
  | left
  /-- It makes letters join. -/
  | causing
  deriving DecidableEq, Repr

namespace JoiningType

/-- The joining types in the order of their numbers in the table. -/
def all : List JoiningType := [apart, transparent, dual, right, left, causing]

/-- The runs of the joining types. -/
private def joiningRuns : List Nat := numbers [
  "lc 0 35 1 7m 0 8 1 7a 0 19 1 1 0 1 1 1 0 2 1 1 0 2 1 1 0 9 1 1s 0 b 1 5 0 1 2 1 0 4 3 1 2 1",
  "3 1 2 1 3 5 2 4 3 d 2 1 5 7 2 1 3 2 2 l 1 e 0 2 2 1 1 3 3 5 0 f 2 i 3 12 2 1 3 2 2 9 3 1 2 1",
  "3 1 2 1 3 2 2 2 3 1 0 1 3 8 1 1 0 6 1 2 0 2 1 1 0 4 1 2 3 a 0 3 2 2 0 1 2 g 0 1 3 1 1 3 2 5",
  "3 4 2 1 3 9 2 1 3 1 2 1 3 1 2 1 3 2 2 1 3 t 1 1 3 b 2 3 3 f 2 2 3 4 2 1 3 1 2 2 3 3 2 2 3 6",
  "2 12 0 b 1 p 0 x 2 9 1 6 0 3 5 1 1 o 0 4 1 1 0 9 1 1 0 3 1 1 0 7 1 g 0 1 3 5 2 2 3 1 2 1 3 a",
  "2 1 3 1 2 3 3 5 1 2 0 1 2 1 0 4 2 1 0 1 3 1 2 q 3 3 5 1 2 2 0 5 2 1 3 8 2 9 1 a 2 3 3 1 0 1",
  "3 2 2 2 3 6 2 1 3 f 2 1 0 1l 1 1j 0 1 1 1 0 1 1 4 0 8 1 4 0 1 1 3 0 f 1 2 0 2 1 t 0 1 1 1m 0",
  "1 1 4 0 6 1 6 0 1 1 k 0 4 1 o 0 5 1 1l 0 2 1 3 0 r 1 k 0 2 1 3 0 1 1 b 0 2 1 1l 0 1 1 4 0 8",
  "1 4 0 3 1 i 0 4 1 k 0 8 1 1m 0 1 1 2 0 1 1 1 0 6 1 6 0 a 1 b 0 4 1 s 0 1 1 1p 0 1 1 c 0 3 1",
  "1c 0 1 1 3 0 1 1 1j 0 1 1 1 0 3 1 5 0 i 1 a 0 4 1 r 0 1 1 1m 0 1 1 2 0 1 1 6 0 1 1 5 0 9 1 d",
  "0 4 1 q 0 2 1 1l 0 2 1 4 0 5 1 7 0 1 1 k 0 4 1 r 0 1 1 20 0 5 1 3 0 6 1 2h 0 1 1 2 0 b 1 8 0",
  "8 1 2q 0 1 1 2 0 9 1 b 0 8 1 20 0 2 1 r 0 1 1 1 0 1 1 1 0 1 1 1j 0 e 1 1 0 5 1 1 0 2 1 5 0",
  "1d 1 8 0 1 1 2u 0 4 1 1 0 6 1 1 0 2 1 2 0 2 1 p 0 2 1 4 0 3 1 g 0 4 1 d 0 1 1 2 0 2 1 6 0 1",
  "1 f 0 1 1 jj 0 3 1 qa 0 3 1 t 0 2 1 u 0 e 1 i 0 e 1 1j 0 7 1 8 0 1 1 2 0 b 1 9 0 3 1 13 0 1",
  "2 2 0 6 5 g 0 2o 2 5 0 2 1 y 2 1 1 6 2 34 0 3 1 4 0 2 1 9 0 1 1 6 0 7 1 5z 0 2 1 2 0 3 1 1k",
  "0 1 1 1 0 9 1 1 0 1 1 2 0 8 1 6 0 d 1 1c 0 2c 1 1c 0 1 1 1 0 5 1 1 0 1 1 5 0 1 1 14 0 9 1 c",
  "0 2 1 w 0 4 1 2 0 2 1 1 0 3 1 1k 0 1 1 1 0 2 1 3 0 1 1 1 0 3 1 1m 0 8 1 2 0 5 1 45 0 3 1 1 0",
  "d 1 1 0 7 1 4 0 1 1 6 0 1 1 3 0 2 1 5i 0 1t 1 ek 0 3 5 5c 0 1g 1 2cr 0 4 1 3w 0 1 1 2o 0 w 1",
  "fe 0 4 1 2z 0 4 1 n9u 0 4 1 1 0 a 1 w 0 2 1 28 0 2 1 7k 0 1 1 3 0 1 1 4 0 1 1 p 0 2 1 5 0 4",
  "1 g 0 1e 2 1 4 29 0 a 1 i 0 i 1 d 0 1 1 12 0 8 1 p 0 b 1 1a 0 3 1 1c 0 1 1 2 0 4 1 2 0 2 1",
  "13 0 1 1 1v 0 6 1 2 0 2 1 2 0 b 1 3 0 1 1 8 0 1 1 1b 0 1 1 1f 0 1 1 1 0 3 1 2 0 2 1 5 0 2 1",
  "1 0 1 1 16 0 2 1 8 0 b 1 6c 0 1 1 2 0 1 1 4 0 3 1 fn2 0 44 1 ha 0 11 1 qg 0 3n 1 2o 0 1 1 45",
  "0 a 1 1a9 0 f 1 14 0 8 1 3k 0 5 2 1 3 1 0 1 3 1 0 2 3 2 0 1 4 5 3 4 2 1 4 5 2 1 3 3 2 1 3 2",
  "0 1 3 6 1 4 2 1 3 40 0 1 2 1 3 1 2 3 3 3 2 1 3 2 2 1 3 1 2 2 3 1 2 8 3 g 0 4 3 2 2 9d 0 1 4",
  "x 2 1 3 1 2 c 1 1l 0 5 1 8t 0 2 1 l 0 1 3 2 2 1 0 a 2 16 0 6 1 1c 0 3 2 1 3 h 2 1 0 b 1 3 2",
  "1 3 r 0 4 2 2 3 c 2 4 1 16 0 1 2 1 0 2 2 3 3 1 0 1 2 2 3 2 2 1 3 2 2 1 0 1 2 2 3 1 2 4 0 1 3",
  "1 2 l 4 x 0 1 1 1i 0 f 1 15 0 1 1 2 0 2 1 a 0 3 1 1d 0 4 1 2 0 2 1 7 0 e 1 1c 0 3 1 10 0 5 1",
  "1 0 9 1 1p 0 1 1 c 0 2 1 1g 0 9 1 a 0 4 1 2 0 1 1 2n 0 3 1 2 0 1 1 1 0 2 1 6 0 1 1 2 0 1r 1",
  "2n 0 1 1 3 0 d 1 g 0 2 1 1l 0 2 1 3 0 1 1 11 0 q 1 1n 0 7 1 c 0 1 1 1 0 1 1 1 0 1 1 e 0 v 1",
  "1k 0 8 1 2 0 3 1 1 0 1 1 n 0 1 1 2c 0 6 1 1 0 1 1 4 0 2 1 1 0 2 1 6m 0 6 1 4 0 2 1 1 0 2 1 r",
  "0 10 1 1f 0 8 1 2 0 1 1 1 0 2 1 2y 0 1 1 1 0 1 1 2 0 6 1 1 0 1 1 2t 0 1 1 1 0 1 1 2 0 4 1 1",
  "0 9 1 73 0 9 1 1 0 2 1 74 0 2 1 1 0 1 1 4 0 1 1 40 0 8 1 4 0 1 1 w 0 a 1 14 0 6 1 2 0 4 1 8",
  "0 9 1 1 0 6 1 2 0 3 1 1a 0 d 1 1 0 2 1 5i 0 1 1 1 0 3 1 1 0 1 1 5l 0 e 1 1 0 1 1 2a 0 n 1 1",
  "0 7 1 1 0 2 1 1 0 23 1 1d 0 l 1 1 0 9 1 1s 0 3 1 2 0 1 1 1 0 1 1 9n 0 2 1 b 0 2 1 1g 0 8 1 2",
  "0 1 1 1 0 1 1 n 0 2e 1 428 0 1 1 6 0 p 1 8u6 0 c 1 3 0 3 1 1xc 0 5 1 1n 0 7 1 t4 0 1 1 1r 0",
  "4 1 29 0 c 1 f59 0 2 1 3mp 0 28 1 ev 0 3 1 h 0 8 1 2 0 7 1 u 0 4 1 44 0 3 1 1iz 0 1j 1 4 0",
  "1e 1 8 0 1 1 e 0 1 1 m 0 v9 1 74 0 74 1 1c 0 7 1 af 0 i 1 18 0 4 1 e4 0 4 1 72 0 2 1 6r 0 1",
  "1 2 0 1 1 7 0 2 1 5 0 9 1 cy 0 2a 1 y 2 c 1"]

/-- The joining type of a character. -/
def of (code : Nat) : JoiningType :=
  (all[valueInRuns joiningRuns code]?).getD apart

end JoiningType

/-- The character that keeps letters apart. -/
def nonJoiner : Nat := 0x200C

/-- The character that joins letters. -/
def joiner : Nat := 0x200D

/-- Whether the nearest character that is not transparent has one of two joining types. -/
def meets
    (first second : JoiningType)
    (codes : List Nat) :
    Bool :=
  match (codes.map JoiningType.of).dropWhile (· == .transparent) with
  | found :: _ => found == first || found == second
  | [] => false

/-- Whether every joiner stands where it may; the characters before are given in reverse. -/
def areJoinersPlaced
    (before : List Nat) :
    List Nat → Bool
  | [] => true
  | code :: rest =>
      let isPlaced :=
        if code = joiner ∨ code = nonJoiner then
          before.head?.any (combiningClass · == viramaClass) ||
            (code == nonJoiner && meets .left .dual before && meets .right .dual rest)
        else
          true
      isPlaced && areJoinersPlaced (code :: before) rest

end SecretsAdmin.Unicode
