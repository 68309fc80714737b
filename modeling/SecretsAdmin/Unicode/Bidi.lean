import SecretsAdmin.Unicode.Runs

namespace SecretsAdmin.Unicode

/-!
# Directions of characters

Some scripts are written from right to left. In a host name with such characters every label has
to have one direction, so that labels and dots keep their order when they are shown. The table is
exact for the characters that a label may hold.
-/

/-- The direction of a character, and its part in numbers. -/
inductive Direction where
  | leftToRight
  | rightToLeft
  | arabicLetter
  | europeanDigit
  | arabicDigit
  /-- A sign of European numbers. -/
  | numberSign
  /-- A mark within numbers. -/
  | numberMark
  /-- What stands beside numbers. -/
  | numberSide
  /-- No direction of its own. -/
  | neutral
  /-- Not shown at all. -/
  | hidden
  /-- The direction of the character that it is put on. -/
  | mark
  deriving DecidableEq, Repr

namespace Direction

/-- The directions in the order of their numbers in the table. -/
def all : List Direction := [
  leftToRight, rightToLeft, arabicLetter, europeanDigit, arabicDigit, numberSign, numberMark,
  numberSide, neutral, hidden, mark]

/-- The runs of the directions. -/
private def directionRuns : List Nat := numbers [
  "9 9 5 8 e 9 7 8 3 7 5 8 1 5 1 6 1 5 2 6 a 3 1 6 12 8 q 0 4 8 y 9 1 8 4 7 a 8 6 7 15 8 o 0 1",
  "8 ch 0 2 8 7 0 e 8 2 0 s 8 1 0 h 8 35 a 4 0 2 8 3j 0 2 8 3v 0 8 a 73 0 5 8 2 7 19 a 1 1 1 a",
  "1 1 2 a 1 1 2 a 1 1 9 a 1i 1 2 8 1 2 2 7 1 2 1 6 1 2 2 8 b a 1c 2 l a a 4 1 7 2 4 3 2 1 a 2t",
  "2 8 a 1 8 6 a 2 2 2 a 1 8 4 a 2 2 a 3 n 2 1 a u 2 t a 2h 2 b a f 2 17 1 9 a 2 1 4 8 3 1 1 a",
  "o 1 4 a 1 1 9 a 1 1 3 a 1 1 7 a 15 1 5 a 2 1 1j 2 9 a 16 2 1l a 1j 0 1 a 1 0 1 a 4 0 8 a 4 0",
  "1 a 3 0 f a 2 0 2 a t 0 1 a 1m 0 1 a 4 0 6 a 6 0 1 a k 0 4 a c 0 2 7 7 0 1 7 2 0 5 a 1l 0 2",
  "a 3 0 r a k 0 2 a 3 0 1 a b 0 2 a 1l 0 1 a 4 0 8 a 4 0 3 a i 0 4 a b 0 8 7 1 0 8 a 1m 0 1 a",
  "2 0 1 a 1 0 6 a 6 0 a a b 0 4 a s 0 1 a 1p 0 1 a c 0 3 a z 0 6 8 1 7 6 8 1 a 3 0 1 a 1j 0 1",
  "a 1 0 3 a 5 0 i a a 0 4 a i 0 7 8 2 0 1 a 1m 0 1 a f 0 9 a d 0 4 a q 0 2 a 1l 0 2 a 4 0 5 a",
  "7 0 1 a k 0 4 a r 0 1 a 20 0 5 a 3 0 6 a 2h 0 1 a 2 0 b a 1 7 7 0 8 a 2q 0 1 a 2 0 9 a b 0 8",
  "a 20 0 2 a r 0 1 a 1 0 1 a 1 0 1 a 4 8 1f 0 e a 1 0 5 a 1 0 2 a 5 0 1d a 8 0 1 a 2u 0 4 a 1",
  "0 6 a 1 0 2 a 2 0 2 a p 0 2 a 4 0 3 a g 0 4 a d 0 1 a 2 0 2 a 6 0 1 a f 0 1 a jj 0 3 a 1c 0",
  "g 8 2o 0 1 8 ii 0 5 8 36 0 3 a t 0 2 a u 0 e a i 0 e a 1j 0 7 a 8 0 1 a 2 0 b a 7 0 1 7 1 0",
  "3 a g 0 w 8 39 0 2 a y 0 1 a 3a 0 3 a 4 0 2 a 9 0 1 a 6 0 7 a 6 8 48 0 y 8 n 0 2 a 2 0 3 a",
  "1k 0 1 a 1 0 9 a 1 0 1 a 2 0 8 a 6 0 d a 1c 0 2c a 1c 0 1 a 1 0 5 a 1 0 1 a 5 0 1 a 14 0 9 a",
  "c 0 2 a w 0 4 a 2 0 2 a 1 0 3 a 1k 0 1 a 1 0 2 a 3 0 1 a 1 0 3 a 1m 0 8 a 2 0 5 a 45 0 3 a 1",
  "0 d a 1 0 7 a 4 0 1 a 6 0 1 a 3 0 2 a 5i 0 1t a ej 0 4 9 w 8 5 7 f 8 1 6 2j 8 1c 7 1g a 16 8",
  "c 7 k 8 1o 0 3s 8 1 5 1 7 82 8 1x 0 q 8 1 0 41 8 p 0 h8 8 1 0 9f 8 74 0 ie 8 1 0 49 8 51 0 7",
  "8 3 0 4 a 6 0 7 8 3j 0 1 a 2o 0 w a ed 8 3 0 p 8 9 0 4 a 2 0 1 8 6 0 4 8 2 0 4 8 2g 0 4 a 3",
  "0 1 8 2i 0 1 8 5g 0 10 8 5i4 0 1s 8 h3k 0 1s 8 8t 0 3 8 2n 0 4 a 1 8 a a 3 8 t 0 2 a 28 0 2",
  "a e 0 z 8 2t 0 1 8 3d 0 1 a 3 0 1 a 4 0 1 a p 0 2 a 1 0 4 8 4 a 8 0 8 7 1g 0 c 8 1w 0 a a i",
  "0 i a d 0 1 a 12 0 8 a p 0 b a 1a 0 3 a 1c 0 1 a 2 0 4 a 2 0 2 a 13 0 1 a 1v 0 6 a 2 0 2 a 2",
  "0 b a 3 0 1 a 8 0 1 a 1b 0 1 a 1f 0 1 a 1 0 3 a 2 0 2 a 5 0 2 a 1 0 1 a 16 0 2 a 8 0 b a 2x",
  "0 2e 8 11 0 1 a 2 0 1 a 4 0 3 a fn2 0 44 a b0 2 2a 8 1r 2 29 8 11 a 1a 8 b1 2 75 0 1 8 1q 0",
  "25 8 3 0 1s 8 19 0 3n a 2o 0 1 a v 3 3a 0 a a w0 0 7z 1 1 8 69 1 f a 14 1 8 a 4l 1 6 a 26 1",
  "7 8 cg 1 10 2 c a g 4 15 1 5 a 1 8 6p 1 w 4 17 1 2 a l 1 1k 2 6 a 1c 1 m 2 b a v 2 i 1 4 a",
  "3e 1 1 0 1 a 1i 0 f a b 0 k 8 a 0 1 a 2 0 2 a a 0 3 a 1d 0 4 a 2 0 2 a 7 0 e a 1c 0 3 a 10 0",
  "5 a 1 0 9 a 1p 0 1 a c 0 2 a 1g 0 9 a a 0 4 a 2 0 1 a 2n 0 3 a 2 0 1 a 1 0 2 a 6 0 1 a 2 0",
  "1r a 2n 0 1 a 3 0 d a g 0 2 a 1l 0 2 a 3 0 1 a 11 0 q a 1n 0 7 a c 0 1 a 1 0 1 a 1 0 1 a e 0",
  "v a 1k 0 8 a 2 0 3 a 1 0 1 a n 0 1 a 2c 0 6 a 1 0 1 a 4 0 2 a 1 0 2 a 6m 0 6 a 4 0 2 a 1 0 2",
  "a r 0 10 a 1f 0 8 a 2 0 1 a 1 0 2 a v 0 w 8 17 0 1 a 1 0 1 a 2 0 6 a 1 0 1 a 2t 0 3 a 2 0 4",
  "a 1 0 9 a 73 0 9 a 1 0 2 a 74 0 2 a 1 0 1 a 4 0 1 a 40 0 8 a 4 0 1 a w 0 6 a 2 0 2 a 14 0 6",
  "a 2 0 4 a 8 0 9 a 1 0 6 a 2 0 3 a 1a 0 d a 1 0 2 a 5i 0 1 a 1 0 3 a 1 0 1 a 5l 0 e a 2c 0 n",
  "a 1 0 7 a 1 0 2 a 1 0 23 a 1d 0 l a 1 0 9 a 1s 0 3 a 2 0 1 a 1 0 1 a 9n 0 2 a b 0 2 a 1g 0 8",
  "a 2 0 1 a 1 0 1 a n 0 2e a 11 0 8 8 4 7 u 8 401 0 1 a 6 0 p a 8u6 0 c a 3 0 3 a 1xc 0 5 a 1n",
  "0 7 a t4 0 1 a 1r 0 4 a 27 0 1 8 1 0 c a f59 0 2 a 31d 0 jk 8 1s 0 28 a ev 0 3 a h 0 8 a 2 0",
  "7 a u 0 4 a 1n 0 2h 8 3 a 3f 8 1s 0 2o 8 1b4 0 1j a 4 0 1e a 8 0 1 a e 0 1 a m 0 v9 a 74 0",
  "74 a 1c 0 7 a af 0 i a 18 0 4 a f 0 cx 7 s 0 4 a 72 0 2 a 6r 0 1 a 2 0 1 a 7 0 2 a 5 0 9 a",
  "76 0 5s 1 2a a y 1 7 a me 1 hr 2 gw 8 t 0 3 8 1p 0 1l 8 3e 0 vs 8 4 0 4b 8 4 0 8n 8 26 0 9g",
  "8 c 0 15 8 7 0 1a 8 1 0 7 8 8 0 e 8 4 0 9 8 7 0 63 8"]

/-- The direction of a character. -/
def of (code : Nat) : Direction :=
  (all[valueInRuns directionRuns code]?).getD leftToRight

/-- Whether a direction makes a host name one that is written in both directions. -/
def isBackward : Direction → Bool
  | rightToLeft | arabicLetter | arabicDigit => true
  | _ => false

/-- Whether a label from left to right may hold a direction. -/
def isForwardPart : Direction → Bool
  | rightToLeft | arabicLetter | arabicDigit => false
  | _ => true

end Direction

/-- The directions of a label without the marks at its end. -/
def withoutLastMarks (directions : List Direction) : List Direction :=
  (directions.reverse.dropWhile (· == .mark)).reverse

/--
Whether a label has one direction. Its first character decides which; the last one has that
direction too or is a digit, and a label from right to left does not mix digits of two kinds.
-/
def hasOneDirection (label : List Nat) : Bool :=
  let directions := withoutLastMarks (label.map Direction.of)
  match directions.head?, directions.getLast? with
  | some .leftToRight, some last =>
      directions.all Direction.isForwardPart && [.leftToRight, .europeanDigit].contains last
  | some .rightToLeft, some last | some .arabicLetter, some last =>
      directions.all (· != .leftToRight) &&
        [.rightToLeft, .arabicLetter, .europeanDigit, .arabicDigit].contains last &&
        !(directions.contains .europeanDigit && directions.contains .arabicDigit)
  | _, _ => label.isEmpty

end SecretsAdmin.Unicode
