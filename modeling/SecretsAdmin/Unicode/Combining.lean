import SecretsAdmin.Unicode.Runs

namespace SecretsAdmin.Unicode

/-!
# Combining characters

A mark is shown together with the character before it. The combining class says where it is put;
marks of different classes do not touch each other. The tables are exact for the characters that
a label may hold.
-/

/-- The runs of the marks. -/
private def markRuns : List Nat := numbers [
  "lc 35 7m 8 7a 19 1 1 1 2 1 2 1 9 1s b 1c l g 1 2t 8 1 6 2 2 1 4 z 1 u t 2h b 1m 9 9 1 o 4 1",
  "9 1 3 1 7 15 5 1l 9 16 1m 1i 3 1 i 1 f 2 2 t 4 1j 1 1 g 9 9 2 4 o 7 1j w k 2 3 1 b 4 1j 1 1",
  "i i 4 k b 1j 1 1 x 3 4 s 1 1n i 7 f q 5 1j 1 1 q a 4 r 3 1k 1 1 u 6 4 d h 1j 2 1 g 9 1 a 4 r",
  "4 1x s c 2 1p 1 2 b 8 8 2q 1 2 9 b 8 20 2 r 1 1 1 1 1 4 2 1d k 1 2 5 1d 8 1 2s k n 4 4 3 1 3",
  "2 7 3 4 d c 1 1 a 4 jj 3 qa d j 3 t e i e 1i u 9 3 4l 2 y 1 3a w 5z 7 1j 17 1c 2d 1b h 12 9",
  "c 3 u d 1k m 14 n 45 3 1 l 4 1 6 1 2 3 5i 1t jz 1g 2cr 4 3w 1 2o w fe 6 2x 4 n9u 4 1 a w 2",
  "28 2 7k 1 3 1 4 1 n 5 4 4 28 2 1e q i i d 1 12 8 p o x 4 1b e 10 1 1v n 3 1 8 4 17 3 1e 1 1",
  "3 2 2 5 2 1 1 15 5 5 c 6a 8 1 4 fn2 44 ha 11 qg 3n 2o 1 45 a 1a9 f 14 8 4l 6 ft c 1l 5 8t 2",
  "25 6 1y b 1d 4 3e 3 1h f 15 1 2 2 a 4 19 b 7 e 1c 3 10 f f 2 18 1 c 3 1c e 8 4 1 2 2k c 6 1",
  "2 1r 2n h g 5 1i 2 1 i 7 6 5 u 1k p 1 1 e v 1h i n 1 29 k 6j i r 10 1c h 2y d 2t j 70 f 6t f",
  "1 1 1 2 3x g 3 s 1 a 14 7 1 4 8 9 1 b 1a g 5i 2o 33 h 2a 32 1d l 1 9 1m e 9n 4 9 2 1 1 1c f",
  "n 2e 428 1 6 p 8u6 i 1xc 5 1n 7 t4 1 1 1u 29 e f57 2 3mp 28 et 5 3 m 2 7 u 4 44 3 1iz 1j 4",
  "1e 8 1 e 1 m v9 74 74 1c 7 af i 18 4 e4 4 72 2 6r 1 2 1 7 2 5 9 cy 2a y 7"]

/-- The runs of the combining classes. -/
private def combiningRuns : List Nat := numbers [
  "lc 0 l 6e 1 6g 4 64 1 6g 1 60 5 64 2 5m 4 64 2 5m b 64 5 1 4 64 a 6e 3 64 3 6e 3 64 3 6e 4",
  "64 1 6e 1 6g 2 64 1 6e 1 6h 2 6i 1 6h 2 6i 1 6h e 6e 7m 0 5 6e 7d 0 1 64 4 6e 1 64 3 6e 1 66",
  "1 64 6 6e 6 64 2 6e 1 64 2 6e 1 66 1 6c 1 6e 1 a 1 b 1 c 1 d 1 e 1 f 1 g 1 h 1 i 2 j 1 k 1 l",
  "1 m 1 0 1 n 1 0 1 o 1 p 1 0 1 6e 1 64 1 0 9 i 1s 0 8 6e 1 u 1 v 1 w 1c 0 1 r 1 s 1 t 1 u 1 v",
  "1 w 1 x 1 y 2 6e 2 64 5 6e 1 64 2 6e 1 64 g 0 1 z 2t 0 8 6e 1 0 4 6e 1 64 1 6e 2 0 2 6e 1 0",
  "1 64 2 6e 1 64 z 0 1 10 u 0 1 6e 1 64 2 6e 1 64 2 6e 3 64 1 6e 2 64 1 6e 1 64 3 6e 1 64 1 6e",
  "1 64 1 6e 1 64 1 6e 1 64 4 6e 4e 0 7 6e 1 64 1 6e 9 0 1 64 o 0 4 6e 1 0 9 6e 1 0 3 6e 1 0 7",
  "6e 15 0 5 64 1l 0 2 6e 3 64 4 6e 16 0 5 6e 5 64 f 6e 1 64 2 6e 1 64 2 6e 1 64 3 6e 3 64 1 r",
  "1 s 1 t 3 6e 1 64 2 6e 2 64 5 6e 1o 0 1 7 g 0 1 9 3 0 1 6e 1 64 2 6e 2v 0 1 7 g 0 1 9 1c 0 3",
  "6e 1n 0 2 7 f 0 4 9 2z 0 1 7 g 0 3 9 30 0 1 7 g 0 8 9 3c 0 3 9 30 0 1 7 g 0 8 9 1 2c 2 2j 2s",
  "0 1 7 g 0 8 9 2u 0 2 9 g 0 1 9 3g 0 5 9 2x 0 2 2v 5 9 9 0 4 2z 30 0 2 3a 1 9 d 0 4 3e 24 0 2",
  "64 r 0 1 64 1 0 1 64 1 0 1 60 1j 0 1 3l 2 3m 6 3o 4 3m 2 0 2 3m 2 6e 1 9 1 0 2 6e 1q 0 1 64",
  "34 0 1 7 1 0 2 9 2a 0 1 64 jz 0 3 6e qc 0 b 9 l 0 1 9 4d 0 1 9 a 0 3 6e 5l 0 1 6c 3z 0 1 66",
  "1 6e 5 64 5z 0 1 6e 1 64 1z 0 1 9 k 0 a 6e 1 64 1c 0 5 6e 6 64 2 6e 1 64 1 0 2 64 2 6e 2 64",
  "5 6e 1 64 i 6e 3 64 6 6e 1 64 4 6e l 6i 1g 0 1 7 f 0 1 9 12 0 1 6e 1 64 7 6e 1i 0 2 9 1m 0 1",
  "7 b 0 a 9 1n 0 4 7 45 0 3 6e 1 0 1 1 5 64 2 6e 4 64 1 6e 1 0 7 1 4 0 1 64 6 0 1 6e 3 0 2 6e",
  "5i 0 2 6e 1 64 7 6e 1 64 2 6e 1 6i 1 5y 1 64 1 5m 11 6e 1 6g 2 6c 1 64 1 62 1 6e 1 6h 1 64 1",
  "6e 2 64 jz 0 2 6e 2 1 4 6e 3 1 2 6e 4 0 1 6e 3 0 2 1 1 6e 1 64 1 6e 2 1 4 64 k 6e 2cr 0 4 6e",
  "3w 0 1 9 2o 0 w 6e fe 0 1 62 1 6c 1 6g 1 66 2 68 2x 0 4 8 n9u 0 1 6e 4 0 a 6e w 0 2 6e 28 0",
  "2 6e 7o 0 1 9 11 0 4 9 44 0 1 9 r 0 i 6e 1l 0 3 64 11 0 c 9 2c 0 1 7 c 0 1 9 6n 0 1 6e 1 0 2",
  "6e 1 64 2 0 2 6e 5 0 2 6e 1 0 1 6e 1g 0 b 9 6k 0 3 9 fn2 0 44 q ha 0 7 6e 7 64 n 6e qg 0 3n",
  "64 2o 0 1 64 45 0 a 6e 1al 0 1 64 1 0 1 6e 14 0 1 6e 1 1 5 64 1 9 4l 0 1 6e 5 64 ft 0 c 6e",
  "1l 0 5 6e 8t 0 2 6e 25 0 2 64 1 0 3 64 1y 0 2 64 3 6e 1 64 1 6e 4 64 1d 0 1 6e 1 64 1 6e 1",
  "64 5c 0 1 9 15 0 1 9 e 0 1 9 1l 0 1 9 1 7 1x 0 3 6e 1c 0 3 9 1p 0 1 7 24 0 1 9 9 0 1 7 2y 0",
  "1 9 1 7 4y 0 1 7 6 9 23 0 2 7 g 0 3 9 m 0 q 6e 26 0 3 9 g 0 v 6e 1u 0 1 9 3 0 1 7 n 0 1 6e",
  "2r 0 1 9 1 7 6z 0 1 9 1 7 3i 0 1 9 3a 0 1 9 1 7 37 0 5 9 7d 0 1 9 1 7 76 0 2 9 4 0 1 7 4c 0",
  "1 9 2b 0 1 9 i 0 9 9 21 0 1 9 bp 0 1 9 76 0 1 7 1 0 2 9 29 0 1 9 bt 0 2 9 d0s 0 1 9 1xc 0 5",
  "1 1n 0 7 6e xl 0 2 6 f58 0 1 1 43q 0 2 60 3 1 3 0 1 6a d 60 8 64 2 0 5 6e 2 64 u 0 4 6e 44 0",
  "3 6e 2pn 0 74 6e 1c 0 7 6e af 0 i 6e 18 0 4 6e e4 0 2 6g 1 64 1 6e 72 0 1 6e 1 64 6r 0 1 6e",
  "2 0 1 6e 7 0 2 6e 5 0 9 6e cy 0 2a 64 y 0 6 6e 1 7"]

/-- Whether a character is a mark. -/
def isMark (code : Nat) : Bool :=
  isInRuns markRuns code

/-- The combining class of a character; 0 is the class of all that does not combine. -/
def combiningClass (code : Nat) : Nat :=
  valueInRuns combiningRuns code

/-- The combining class of viramas, which join the consonants around them. -/
def viramaClass : Nat := 9

end SecretsAdmin.Unicode
