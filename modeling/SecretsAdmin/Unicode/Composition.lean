import SecretsAdmin.Unicode.Combining

namespace SecretsAdmin.Unicode

/-!
# Composition

A letter with marks may be written in several ways. The composed form (NFC) is unique: everything
is decomposed, the marks on a letter are sorted by their combining classes, and what can be
composed is composed again.
-/

/-- The composed characters that a label may hold, each followed by its two parts. -/
private def compositions : List Nat := numbers [
  "68 2p lc 69 2p ld 6a 2p le 6b 2p lf 6c 2p lk 6d 2p lm 6f 2r mf 6g 2t lc 6h 2t ld 6i 2t le 6j",
  "2t lk 6k 2x lc 6l 2x ld 6m 2x le 6n 2x lk 6p 32 lf 6q 33 lc 6r 33 ld 6s 33 le 6t 33 lf 6u 33",
  "lk 6x 39 lc 6y 39 ld 6z 39 le 70 39 lk 71 3d ld 73 3d lk 75 2p lg 77 2p li 79 2p mg 7b 2r ld",
  "7d 2r le 7f 2r lj 7h 2r lo 7j 2s lo 7n 2t lg 7p 2t li 7r 2t lj 7t 2t mg 7v 2t lo 7x 2v le 7z",
  "2v li 81 2v lj 83 2v mf 85 2w le 89 2x lf 8b 2x lg 8d 2x li 8f 2x mg 8l 2y le 8n 2z mf 8q 30",
  "ld 8s 30 mf 8u 30 lo 90 32 ld 92 32 mf 94 32 lo 99 33 lg 9b 33 li 9d 33 ln 9h 36 ld 9j 36 mf",
  "9l 36 lo 9n 37 ld 9p 37 le 9r 37 mf 9t 37 lo 9v 38 mf 9x 38 lo a1 39 lf a3 39 lg a5 39 li a7",
  "39 lm a9 39 ln ab 39 mg ad 3b le af 3d le ai 3e ld ak 3e lj am 3e lo bl 33 m3 c0 39 m3 cu 2p",
  "lo cw 2x lo cy 33 lo d0 39 lo d2 70 lg d4 70 ld d6 70 lo d8 70 lc db 6c lg dd fb lg df 6e lg",
  "dj 2v lo dl 2z lo dn 33 mg dp dn lg dr ia lo ds 2y lo dx 2v ld e1 32 lc e3 6d ld e5 6e ld e7",
  "6w ld e9 2p lr eb 2p lt ed 2t lr ef 2t lt eh 2x lr ej 2x lt el 33 lr en 33 lt ep 36 lr er 36",
  "lt et 39 lr ev 39 lt ex 37 me ez 38 me f3 2w lo fb 2p lj fd 2t mf ff 6u lg fh 6t lg fj 33 lj",
  "fl fj lg fn 3d lg pc qy ld q4 q9 ld q5 qd ld q6 qf ld q7 qh ld q8 qz ld qy qh lk qz qt lk r0",
  "qn ld r1 qt ld r2 qx ld u1 u0 li uo tx lc up tx lk ur tv ld uv uu lk v0 u2 ld v1 u0 lc v2 ub",
  "li vr vp lr xu ty li y9 ts li yb ts lk yf tx li yj yh lk yl ty lk yn tz lk yr u0 lg yt u0 lk",
  "yv u6 lk yz yx lk z1 ul lk z3 ub lg z5 ub lk z7 ub ln z9 uf lk zd uj lk 17m 17r 18z 17n 17r",
  "190 17o 18o 190 17p 17r 191 17q 18q 190 1c0 1cl 190 1c2 1c1 190 1cj 1ci 190 1t5 1t4 1to 1td",
  "1tc 1to 1tg 1tf 1to 1xn 1xj 1xa 1xo 1xj 1xz 288 287 28m 28b 287 27y 28c 287 28n 2ac 2aa 2c7",
  "2bu 2bq 2bi 2bv 2br 2bi 2bw 2bq 2c7 2fc 2fa 2fq 2io 2in 2j9 2iv 2iu 2j9 2iw 2iu 2ja 2iy 2iu",
  "2iq 2iz 2iy 2j9 2mi 2me 2m6 2mj 2mf 2m6 2mk 2me 2mv 2qi 2qh 2q2 2qk 2qh 2q7 2ql 2qk 2q2 2qm",
  "2qh 2qn 36u 36t 372 5c6 5c5 5dh 5c8 5c7 5dh 5ca 5c9 5dh 5cc 5cb 5dh 5ce 5cd 5dh 5ci 5ch 5dh",
  "5dn 5dm 5dh 5dp 5do 5dh 5ds 5dq 5dh 5dt 5dr 5dh 5dv 5du 5dh 5xd 2p md 5xf 2q lj 5xh 2q mb",
  "5xj 2q mp 5xl 6f ld 5xn 2s lj 5xp 2s mb 5xr 2s mp 5xt 2s mf 5xv 2s ml 5xx 7n lc 5xz 7n ld",
  "5y1 2t ml 5y3 2t mo 5y5 fd li 5y7 2u lj 5y9 2v lg 5yb 2w lj 5yd 2w mb 5yf 2w lk 5yh 2w mf",
  "5yj 2w mm 5yl 2x mo 5yn 6n ld 5yp 2z ld 5yr 2z mb 5yt 2z mp 5yv 30 mb 5yx 5yv lg 5yz 30 mp",
  "5z1 30 ml 5z3 31 ld 5z5 31 lj 5z7 31 mb 5z9 32 lj 5zb 32 mb 5zd 32 mp 5zf 32 ml 5zh 6t ld",
  "5zj 6t lk 5zl 99 lc 5zn 99 ld 5zp 34 ld 5zr 34 lj 5zt 36 lj 5zv 36 mb 5zx 5zv lg 5zz 36 mp",
  "601 37 lj 603 37 mb 605 9n lj 607 9t lj 609 603 lj 60b 38 lj 60d 38 mb 60f 38 mp 60h 38 ml",
  "60j 39 mc 60l 39 mo 60n 39 ml 60p a1 ld 60r a3 lk 60t 3a lf 60v 3a mb 60x 3b lc 60z 3b ld",
  "611 3b lk 613 3b lj 615 3b mb 617 3c lj 619 3c lk 61b 3d lj 61d 3e le 61f 3e mb 61h 3e mp",
  "61i 2w mp 61j 38 lk 61k 3b lm 61l 3d lm 61t 2p mb 61v 2p ll 61x 6a ld 61z 6a lc 621 6a ll",
  "623 6a lf 625 61t le 627 77 ld 629 77 lc 62b 77 ll 62d 77 lf 62f 61t li 62h 2t mb 62j 2t ll",
  "62l 2t lf 62n 6i ld 62p 6i lc 62r 6i ll 62t 6i lf 62v 62h le 62x 2x ll 62z 2x mb 631 33 mb",
  "633 33 ll 635 6s ld 637 6s lc 639 6s ll 63b 6s lf 63d 631 le 63f bl ld 63h bl lc 63j bl ll",
  "63l bl lf 63n bl mb 63p 39 mb 63r 39 ll 63t c0 ld 63v c0 lc 63x c0 ll 63z c0 lf 641 c0 mb",
  "643 3d lc 645 3d mb 647 3d ll 649 3d lf 64g q9 lv 64h q9 lw 64i 64g lc 64j 64h lc 64k 64g ld",
  "64l 64h ld 64m 64g n6 64n 64h n6 64w qd lv 64x qd lw 64y 64w lc 64z 64x lc 650 64w ld 651",
  "64x ld 65c qf lv 65d qf lw 65e 65c lc 65f 65d lc 65g 65c ld 65h 65d ld 65i 65c n6 65j 65d n6",
  "65s qh lv 65t qh lw 65u 65s lc 65v 65t lc 65w 65s ld 65x 65t ld 65y 65s n6 65z 65t n6 668 qn",
  "lv 669 qn lw 66a 668 lc 66b 669 lc 66c 668 ld 66d 669 ld 66o qt lv 66p qt lw 66q 66o lc 66r",
  "66p lc 66s 66o ld 66t 66p ld 66u 66o n6 66v 66p n6 674 qx lv 675 qx lw 676 674 lc 677 675 lc",
  "678 674 ld 679 675 ld 67a 674 n6 67b 675 n6 67k q9 lc 67m qd lc 67o qf lc 67q qh lc 67s qn",
  "lc 67u qt lc 67w qx lc 69c q9 li 69d q9 lg 69i q9 n6 69y qf n6 6a8 qh li 6a9 qh lg 6aa qy lc",
  "6ae qh n6 6af qy n6 6ao qt li 6ap qt lg 6aq qz lc 6as qp lv 6at qp lw 6au qt n6 6av qz n6",
  "6ba qx n6 6my 6mo mw 6mz 6mq mw 6ni 6ms mw 6od 6og mw 6oe 6ok mw 6of 6oi mw 6pw 6pv mw 6q1",
  "6q0 mw 6q4 6q3 mw 6qs 6qr mw 6qu 6qt mw 6rl 6rg mw 6ro 6rn mw 6rr 6rp mw 6rt 6rs mw 6sg 1p",
  "mw 6si 6sh mw 6st 6rx mw 6su 1o mw 6sv 1q mw 6sw 6sk mw 6sx 6sl mw 6t0 6sy mw 6t1 6sz mw 6t4",
  "6t2 mw 6t5 6t3 mw 6tc 6t6 mw 6td 6t7 mw 6tg 6te mw 6th 6tf mw 6tk 6ti mw 6tl 6tj mw 6uk 6ua",
  "mw 6ul 6ug mw 6um 6uh mw 6un 6uj mw 6w0 6t8 mw 6w1 6t9 mw 6w2 6tt mw 6w3 6tu mw 6wa 6uq mw",
  "6wb 6ur mw 6wc 6us mw 6wd 6ut mw 9jg 9jf 9ll 9ji 9jh 9ll 9jk 9jj 9ll 9jm 9jl 9ll 9jo 9jn 9ll",
  "9jq 9jp 9ll 9js 9jr 9ll 9ju 9jt 9ll 9jw 9jv 9ll 9jy 9jx 9ll 9k0 9jz 9ll 9k2 9k1 9ll 9k5 9k4",
  "9ll 9k7 9k6 9ll 9k9 9k8 9ll 9kg 9kf 9ll 9kh 9kf 9lm 9kj 9ki 9ll 9kk 9ki 9lm 9km 9kl 9ll 9kn",
  "9kl 9lm 9kp 9ko 9ll 9kq 9ko 9lm 9ks 9kr 9ll 9kt 9kr 9lm 9lg 9ja 9ll 9lq 9lp 9ll 9m4 9m3 9ll",
  "9m6 9m5 9ll 9m8 9m7 9ll 9ma 9m9 9ll 9mc 9mb 9ll 9me 9md 9ll 9mg 9mf 9ll 9mi 9mh 9ll 9mk 9mj",
  "9ll 9mm 9ml 9ll 9mo 9mn 9ll 9mq 9mp 9ll 9mt 9ms 9ll 9mv 9mu 9ll 9mx 9mw 9ll 9n4 9n3 9ll 9n5",
  "9n3 9lm 9n7 9n6 9ll 9n8 9n6 9lm 9na 9n9 9ll 9nb 9n9 9lm 9nd 9nc 9ll 9ne 9nc 9lm 9ng 9nf 9ll",
  "9nh 9nf 9lm 9o4 9ly 9ll 9o7 9nz 9ll 9o8 9o0 9ll 9o9 9o1 9ll 9oa 9o2 9ll 9oe 9od 9ll 1fpl",
  "1fpu lj 1fqc 1fq2 lj 1hui 1huh 1hve 1huk 1huj 1hve 1huz 1hut 1hve 1hym 1hyp 1hyf 1hyn 1hyq",
  "1hyf 1idn 1idj 1ida 1ido 1idj 1idz 1if7 1if6 1ih5 1if9 1if8 1igr 1ifi 1iff 1igy 1ifl 1ifk",
  "1ih5 1ih1 1igy 1igy 1ih3 1igy 1igo 1ih4 1igy 1ih5 1inv 1int 1inu 1inw 1int 1ink 1iny 1int",
  "1inx 1iuy 1iuw 1iun 1iuz 1iux 1iun 1jjs 1jjp 1jjk 1xr5 1xr2 1xr2 1xr6 1xr2 1xrd 1xr7 1xr2",
  "1xr3 1xr8 1xrd 1xr3 1xr9 1xr2 1xr4 1xra 1xr5 1xr3 1xrb 1xr6 1xr3 1xrc 1xr5 1xr4 206g 206f",
  "206f 206h 206b 206f 206i 206h 206f"]

/-- The two parts of a composed character. -/
def partsIn? (code : Nat) : (table : List Nat) → Option (Nat × Nat)
  | whole :: first :: second :: rest =>
      if whole = code then some (first, second) else partsIn? code rest
  | _ => none

/-- The composed character with the given parts. -/
def wholeIn? (first second : Nat) : (table : List Nat) → Option Nat
  | whole :: head :: tail :: rest =>
      if head = first ∧ tail = second then some whole else wholeIn? first second rest
  | _ => none

/-- The syllable of Hangul that two parts make: two letters, or a syllable and a last letter. -/
def syllable? (first second : Nat) : Option Nat :=
  if 0x1100 ≤ first ∧ first ≤ 0x1112 ∧ 0x1161 ≤ second ∧ second ≤ 0x1175 then
    some (0xAC00 + ((first - 0x1100) * 21 + (second - 0x1161)) * 28)
  else if 0xAC00 ≤ first ∧ first ≤ 0xD7A3 ∧ (first - 0xAC00) % 28 = 0 ∧
      0x11A8 ≤ second ∧ second ≤ 0x11C2 then
    some (first + (second - 0x11A7))
  else
    none

/-- The character that two characters make together. -/
def compose? (first second : Nat) : Option Nat :=
  syllable? first second <|> wholeIn? first second compositions

/-- The letter and the marks of a character; the depth limits how often it is divided. -/
def decompose : (depth : Nat) → (code : Nat) → List Nat
  | 0, code => [code]
  | depth + 1, code =>
      match partsIn? code compositions with
      | some (first, second) => decompose depth first ++ [second]
      | none => [code]

/-- Put a mark behind all marks before it whose classes are not greater. -/
def insertMark (mark : Nat) : (reversed : List Nat) → List Nat
  | [] => [mark]
  | last :: rest =>
      if combiningClass mark < combiningClass last ∧ combiningClass mark ≠ 0 then
        last :: insertMark mark rest
      else
        mark :: last :: rest

/-- Sort the marks behind every letter by their classes. -/
def sortMarks (codes : List Nat) : List Nat :=
  (codes.foldl (fun reversed code => insertMark code reversed) []).reverse

/--
Compose a letter with the marks behind it. The marks that stay are gathered in reverse; the last
of them blocks all that are not of a greater class.
-/
def composeFrom
    (letter : Nat)
    (kept : List Nat) :
    List Nat → List Nat
  | [] => letter :: kept.reverse
  | code :: rest =>
      let isBlocked := kept.head?.any fun last => combiningClass code ≤ combiningClass last
      match if isBlocked then none else compose? letter code with
      | some whole => composeFrom whole kept rest
      | none =>
          if combiningClass code = 0 then
            letter :: kept.reverse ++ composeFrom code [] rest
          else
            composeFrom letter (code :: kept) rest

/-- The composed form of characters. -/
def composed (codes : List Nat) : List Nat :=
  match sortMarks (codes.flatMap (decompose 4)) with
  | [] => []
  | letter :: rest => composeFrom letter [] rest

/-- Whether characters are in composed form. -/
def isComposed (codes : List Nat) : Bool :=
  composed codes == codes

end SecretsAdmin.Unicode
