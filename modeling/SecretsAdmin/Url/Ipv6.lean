import SecretsAdmin.Url.Ipv4

namespace SecretsAdmin.Url.Ipv6

/-!
# IPv6 addresses

An address has eight groups of sixteen bits. One double colon may stand for all zeros that are
missing, and the last two groups may be written as an IPv4 address.
-/

/-- The number of a group: one to four hexadecimal digits. -/
def group? (digits : List Char) : Option Nat :=
  if digits.isEmpty ∨ 4 < digits.length then none else Ipv4.numberIn? 16 digits

/-- The number of a byte in decimal digits, without needless zeros. -/
def byte? : List Char → Option Nat
  | [] => none
  | ['0'] => some 0
  | '0' :: _ => none
  | digits => do
      let number ← Ipv4.numberIn? 10 digits
      if number ≤ 255 then some number else none

/-- The two groups that four decimal bytes with dots between them stand for. -/
def embeddedIpv4? (text : List Char) : Option (List Nat) := do
  match ← (text.splitOn '.').mapM byte? with
  | [first, second, third, fourth] =>
      some [first * 256 + second, third * 256 + fourth]
  | _ => none

/-- Groups with colons between them; an IPv4 address may stand for the last two. -/
def groups?
    (allowIpv4 : Bool)
    (text : List Char) :
    Option (List Nat) :=
  if text.isEmpty then
    some []
  else do
    let fields := text.splitOn ':'
    let last ← fields.getLast?
    let front ← fields.dropLast.mapM group?
    let back ←
      if allowIpv4 && last.contains '.' then
        embeddedIpv4? last
      else
        (group? last).map fun group => [group]
    return front ++ back

/-- Divide a text at its first double colon, if it has one. -/
def cutAtDoubleColon? : List Char → Option (List Char × List Char)
  | ':' :: ':' :: rest => some ([], rest)
  | first :: rest =>
      (cutAtDoubleColon? rest).map fun (before, after) => (first :: before, after)
  | [] => none

/-- The groups of an IPv6 address: a double colon stands for as many zeros as are missing. -/
def parse? (text : List Char) : Option (List Nat) := do
  match cutAtDoubleColon? text with
  | none =>
      let groups ← groups? true text
      if groups.length = 8 then some groups else none
  | some (before, after) =>
      let front ← groups? false before
      let back ← groups? true after
      let count := front.length + back.length
      if count ≤ 7 then some (front ++ List.replicate (8 - count) 0 ++ back) else none

/-- The number of zeros with which a list begins. -/
def leadingZeros (groups : List Nat) : Nat :=
  (groups.takeWhile (· = 0)).length

/-- The start and the length of the longest run of zeros, the first of equal ones. -/
def longestZeros (groups : List Nat) : Nat × Nat :=
  (List.range groups.length).foldl
    (fun best start =>
      let length := leadingZeros (groups.drop start)
      if best.2 < length then (start, length) else best)
    (0, 0)

/-- Groups in hexadecimal with colons between them. -/
def groupsText (groups : List Nat) : String :=
  ":".intercalate (groups.map Hex.plain)

/-- The text of an IPv6 address: the longest run of two or more zeros is left out. -/
def text (groups : List Nat) : String :=
  let (start, length) := longestZeros groups
  if 2 ≤ length then
    groupsText (groups.take start) ++ "::" ++ groupsText (groups.drop (start + length))
  else
    groupsText groups

end SecretsAdmin.Url.Ipv6
