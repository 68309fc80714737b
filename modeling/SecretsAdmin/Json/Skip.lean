import SecretsAdmin.Json.Scan

namespace SecretsAdmin.Json

/-!
# Skipping values

A member that no field asks for is read past. Its grammar is checked, but neither the meaning of
its strings and numbers nor its depth: open brackets are kept on a stack.
-/

/-- Read past the digits of an exponent. -/
def skipExponent (unread : Octets) : Except Failure Octets :=
  let unread :=
    match unread with
    | 0x2B :: rest => rest
    | 0x2D :: rest => rest
    | _ => unread
  match unread with
  | [] => failAt .badNumber []
  | octet :: rest =>
      if isDigit octet then
        .ok (rest.dropWhile isDigit)
      else
        failAt .badNumber rest

/-- Read past an exponent if one follows. -/
def skipOptionalExponent : Octets → Except Failure Octets
  | 0x65 :: rest => skipExponent rest
  | 0x45 :: rest => skipExponent rest
  | unread => .ok unread

/-- Read past a fraction or an exponent if one follows. -/
def skipAfterWhole : Octets → Except Failure Octets
  | 0x2E :: rest =>
      let unread := rest.dropWhile isDigit
      match rest with
      | [] => failPast .badNumber rest
      | octet :: _ =>
          if isDigit octet then
            skipOptionalExponent unread
          else
            failPast .badNumber rest
  | unread => skipOptionalExponent unread

/-- Read past a number after its sign. -/
def skipNumber : Octets → Except Failure Octets
  | [] => failAt .badNumber []
  | octet :: rest =>
      if octet = 0x30 then
        match rest with
        | [] => .ok []
        | next :: _ =>
            if isDigit next then
              failPast .badNumber rest
            else
              skipAfterWhole rest
      else if isDigit octet then
        skipAfterWhole (rest.dropWhile isDigit)
      else
        failAt .badNumber rest

/-- What the skipping of a string awaits. -/
inductive SkipState where
  | plain
  | escape
  | digits (due : Nat) (valid : Bool)
  deriving DecidableEq, Repr

/-- Read past a string after its opening quote. -/
def skipText
    (state : SkipState) :
    Octets → Except Failure Octets
  | [] => failAt .endInText []
  | octet :: rest =>
      match state with
      | .plain =>
          if octet = 0x22 then .ok rest
          else if octet = 0x5C then skipText .escape rest
          else if octet < 0x20 then failAt .controlCharacter (octet :: rest)
          else skipText .plain rest
      | .escape =>
          if octet = 0x75 then skipText (.digits 4 true) rest
          else if (simpleEscape? octet).isSome then skipText .plain rest
          else failAt .badEscape rest
      | .digits due valid =>
          let valid := valid && (Hex.value? octet.toNat).isSome
          if due ≤ 1 then
            if valid then skipText .plain rest else failAt .badEscape rest
          else
            skipText (.digits (due - 1) valid) rest

/-- A kind of bracket. -/
inductive Bracket where
  | square
  | curly
  deriving DecidableEq, Repr

namespace Bracket

/-- The byte that closes a bracket. -/
def closing : Bracket → UInt8
  | square => 0x5D
  | curly => 0x7D

/-- The fault of a text that ends inside a bracket. -/
def ending : Bracket → Fault
  | square => .endInList
  | curly => .endInObject

/-- The fault of something else than a comma or the closing byte. -/
def unclosed : Bracket → Fault
  | square => .noListEnd
  | curly => .noObjectEnd

end Bracket

/-- What stands next while values are read past. -/
inductive SkipPlace where
  /-- A value. -/
  | value
  /-- The name of a member. -/
  | key
  /-- What may follow a value. -/
  | after
  deriving DecidableEq, Repr

/-- Read past a value that is neither an array nor an object. -/
def skipScalar : Octets → Except Failure Octets
  | 0x6E :: rest => expectWord nullTail rest
  | 0x74 :: rest => expectWord trueTail rest
  | 0x66 :: rest => expectWord falseTail rest
  | 0x2D :: rest => skipNumber rest
  | 0x22 :: rest => skipText .plain rest
  | [] => failAt .endInValue []
  | octet :: rest =>
      if isDigit octet then
        skipNumber (octet :: rest)
      else
        failPast .noValue (octet :: rest)

/-- Read past a name and the colon after it. -/
def skipKey (unread : Octets) : Except Failure Octets :=
  match skipBlanks unread with
  | [] => failAt .endInObject []
  | 0x22 :: rest => do
      let unread := skipBlanks (← skipText .plain rest)
      match unread with
      | [] => failAt .endInObject []
      | 0x3A :: rest => .ok rest
      | _ => failPast .noColon unread
  | unread => failPast .keyNotText unread

/-- Where the skipping of a value stands: what comes next, and the brackets still open. -/
structure SkipPoint where
  place : SkipPlace
  stack : List Bracket
  unread : Octets
  deriving DecidableEq, Repr

/-- Go on after an opening bracket. -/
def enterBracket
    (bracket : Bracket)
    (outer : List Bracket)
    (unread : Octets) :
    Except Failure SkipPoint :=
  match skipBlanks unread with
  | [] => failAt bracket.ending []
  | octet :: rest =>
      if octet = bracket.closing then
        .ok ⟨.after, outer, rest⟩
      else
        match bracket with
        | .square => .ok ⟨.value, bracket :: outer, octet :: rest⟩
        | .curly => .ok ⟨.key, bracket :: outer, octet :: rest⟩

/-- Go on after a value inside a bracket. -/
def leaveValue
    (bracket : Bracket)
    (outer : List Bracket)
    (unread : Octets) :
    Except Failure SkipPoint :=
  match skipBlanks unread with
  | [] => failAt bracket.ending []
  | octet :: rest =>
      if octet = 0x2C then
        match bracket with
        | .square => .ok ⟨.value, bracket :: outer, rest⟩
        | .curly => .ok ⟨.key, bracket :: outer, rest⟩
      else if octet = bracket.closing then
        .ok ⟨.after, outer, rest⟩
      else
        failPast bracket.unclosed (octet :: rest)

/-- Read past one value that is not nested, one name, or one bracket. -/
def SkipPoint.step (point : SkipPoint) : Except Failure SkipPoint :=
  match point.place with
  | .value =>
      match skipBlanks point.unread with
      | 0x5B :: rest => enterBracket .square point.stack rest
      | 0x7B :: rest => enterBracket .curly point.stack rest
      | unread => (skipScalar unread).map fun unread => ⟨.after, point.stack, unread⟩
  | .key => (skipKey point.unread).map fun unread => ⟨.value, point.stack, unread⟩
  | .after =>
      match point.stack with
      | [] => .ok point
      | bracket :: outer => leaveValue bracket outer point.unread

/-- Whether no value, name or bracket is left to read past. -/
def SkipPoint.isDone (point : SkipPoint) : Bool :=
  point.place == .after && point.stack.isEmpty

/--
Go on until no bracket is open. Every step consumes a byte, so a budget as long as the text
suffices.
-/
def skipFrom : (budget : Octets) → SkipPoint → Except Failure Octets
  | [], _ => failAt .endInValue []
  | _ :: budget, point =>
      if point.isDone then
        .ok point.unread
      else
        match point.step with
        | .error failure => .error failure
        | .ok point => skipFrom budget point

/-- Read past one value. -/
def skipValue (unread : Octets) : Except Failure Octets :=
  skipFrom (0 :: unread) ⟨.value, [], unread⟩

end SecretsAdmin.Json
