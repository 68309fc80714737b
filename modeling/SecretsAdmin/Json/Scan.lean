import SecretsAdmin.Json.Fault

namespace SecretsAdmin.Json

/-!
# Scanning JSON texts

Blanks, words, numbers and strings. A scanner takes the unread text and yields what it found
together with what is left, or a failure.
-/

/-- Fail with everything consumed up to the given rest. -/
def failAt
    {α : Type}
    (fault : Fault)
    (unread : Octets) :
    Except Failure α :=
  .error ⟨fault, unread, []⟩

/-- Fail at the next byte, which counts as consumed. -/
def failPast
    {α : Type}
    (fault : Fault)
    (unread : Octets) :
    Except Failure α :=
  .error ⟨fault, unread.tail, []⟩

/-- Whether a byte is blank: a space, a tab, a line feed or a carriage return. -/
def isBlankOctet (octet : UInt8) : Bool :=
  octet == 0x20 || octet == 0x09 || octet == 0x0A || octet == 0x0D

/-- Drop blanks. -/
def skipBlanks (unread : Octets) : Octets :=
  unread.dropWhile isBlankOctet

/-- Expect the given bytes. -/
def expectWord : (word : Octets) → Octets → Except Failure Octets
  | [], unread => .ok unread
  | _ :: _, [] => failAt .endInValue []
  | wanted :: word, octet :: rest =>
      if octet = wanted then
        expectWord word rest
      else
        failAt .noWord rest

/-- The bytes of `ull`, `rue` and `alse`, which complete the words of JSON. -/
def nullTail : Octets := [0x75, 0x6C, 0x6C]

@[inherit_doc nullTail]
def trueTail : Octets := [0x72, 0x75, 0x65]

@[inherit_doc nullTail]
def falseTail : Octets := [0x61, 0x6C, 0x73, 0x65]

/-! ## Numbers -/

/-- Whether a byte is a decimal digit. -/
def isDigit (octet : UInt8) : Bool :=
  0x30 ≤ octet && octet ≤ 0x39

/-- The number of a decimal digit. -/
def digitValue (octet : UInt8) : Nat :=
  octet.toNat - 0x30

/-- A number of a document. -/
inductive Number where
  | integer (value : Int)
  | real (value : Binary64)
  deriving DecidableEq, Repr

/-- A number as it is found when another thing is wanted. -/
def Number.found : Number → Found
  | integer value => .integer value
  | real value => .real value

/-- The greatest number of digits that is kept exactly, as a whole number of 64 bits. -/
def greatestSignificand : Nat := 0xFFFFFFFFFFFFFFFF

/-- The greatest exponent that is kept exactly, as a signed number of 32 bits. -/
def greatestPower : Int := 0x7FFFFFFF

/--
Read the digits of a whole number. Once the digits no longer fit into the significand, the
others only count.
-/
def scanWhole
    (significand : Nat)
    (dropped : Nat) :
    Octets → Nat × Nat × Octets
  | [] => (significand, dropped, [])
  | octet :: rest =>
      if isDigit octet then
        let longer := significand * 10 + digitValue octet
        if dropped = 0 ∧ longer ≤ greatestSignificand then
          scanWhole longer 0 rest
        else
          scanWhole significand (dropped + 1) rest
      else
        (significand, dropped, octet :: rest)

/--
Read the digits of a fraction. Once the digits no longer fit into the significand, the others
are ignored.
-/
def scanFraction
    (significand : Nat)
    (kept : Nat) :
    Octets → Nat × Nat × Octets
  | [] => (significand, kept, [])
  | octet :: rest =>
      if isDigit octet then
        let longer := significand * 10 + digitValue octet
        if longer ≤ greatestSignificand then
          scanFraction longer (kept + 1) rest
        else
          (significand, kept, rest.dropWhile isDigit)
      else
        (significand, kept, octet :: rest)

/-- Read the further digits of an exponent; nothing when they are too many to keep. -/
def scanPower
    (power : Int) :
    Octets → Option Int × Octets
  | [] => (some power, [])
  | octet :: rest =>
      if isDigit octet then
        let longer := power * 10 + digitValue octet
        if longer ≤ greatestPower then
          scanPower longer rest
        else
          (none, rest)
      else
        (some power, octet :: rest)

/-- Finish a double from its digits and the power of ten. -/
def finishReal
    (negative : Bool)
    (significand : Nat)
    (power : Int)
    (unread : Octets) :
    Except Failure (Number × Octets) :=
  match Binary64.ofDecimal? negative significand power with
  | some value => .ok (.real value, unread)
  | none => failAt .numberOutOfRange unread

/-- Read an exponent after its letter. -/
def scanExponent
    (negative : Bool)
    (significand : Nat)
    (power : Int)
    (unread : Octets) :
    Except Failure (Number × Octets) :=
  let (lowered, unread) :=
    match unread with
    | 0x2B :: rest => (false, rest)
    | 0x2D :: rest => (true, rest)
    | _ => (false, unread)
  match unread with
  | [] => failAt .endInValue []
  | octet :: rest =>
      if isDigit octet then
        match scanPower (digitValue octet) rest with
        | (some exponent, rest) =>
            let shifted := if lowered then power - exponent else power + exponent
            finishReal negative significand
              (max (-greatestPower - 1) (min shifted greatestPower)) rest
        | (none, rest) =>
            if significand ≠ 0 ∧ lowered = false then
              failAt .numberOutOfRange rest
            else
              .ok (.real (.zero negative), rest.dropWhile isDigit)
      else
        failAt .badNumber rest

/-- Read an exponent if one follows, and finish the double. -/
def scanOptionalExponent
    (negative : Bool)
    (significand : Nat)
    (power : Int) :
    Octets → Except Failure (Number × Octets)
  | 0x65 :: rest => scanExponent negative significand power rest
  | 0x45 :: rest => scanExponent negative significand power rest
  | unread => finishReal negative significand power unread

/-- Finish a number after its whole digits: a fraction or an exponent makes it a double. -/
def scanAfterWhole
    (negative : Bool)
    (significand : Nat)
    (dropped : Nat)
    (unread : Octets) :
    Except Failure (Number × Octets) :=
  match unread with
  | 0x2E :: rest =>
      match rest with
      | [] => failAt .endInValue []
      | octet :: _ =>
          if isDigit octet then
            let (longer, kept, unread) := scanFraction significand 0 rest
            scanOptionalExponent negative longer ((dropped : Int) - kept) unread
          else
            failPast .badNumber rest
  | 0x65 :: rest => scanExponent negative significand dropped rest
  | 0x45 :: rest => scanExponent negative significand dropped rest
  | _ =>
      if dropped ≠ 0 then
        finishReal negative significand dropped unread
      else if negative = false then
        .ok (.integer significand, unread)
      else if 1 ≤ significand ∧ significand ≤ 0x8000000000000000 then
        .ok (.integer (-significand), unread)
      else
        finishReal negative significand 0 unread

/-- Read a number after its sign. -/
def scanNumber
    (negative : Bool)
    (unread : Octets) :
    Except Failure (Number × Octets) :=
  match unread with
  | [] => failAt .endInValue []
  | octet :: rest =>
      if octet = 0x30 then
        match rest with
        | [] => scanAfterWhole negative 0 0 []
        | next :: _ =>
            if isDigit next then
              failPast .badNumber rest
            else
              scanAfterWhole negative 0 0 rest
      else if isDigit octet then
        let (significand, dropped, unread) := scanWhole (digitValue octet) 0 rest
        scanAfterWhole negative significand dropped unread
      else
        failAt .badNumber rest

/-! ## Strings -/

/-- What the scanner of a string awaits. -/
inductive TextState where
  /-- A character of the string or its closing quote. -/
  | plain
  /-- The character after a backslash. -/
  | escape
  /-- Hexadecimal digits; the first half of a surrogate pair may have gone before. -/
  | digits (due : Nat) (value : Option Nat) (high : Option Nat)
  /-- The backslash that begins the second half of a surrogate pair. -/
  | pairBackslash (high : Nat)
  /-- The letter that begins the second half of a surrogate pair. -/
  | pairLetter (high : Nat)
  deriving DecidableEq, Repr

/-- The byte that a letter after a backslash stands for. -/
def simpleEscape? (octet : UInt8) : Option UInt8 :=
  if octet = 0x22 then some 0x22
  else if octet = 0x5C then some 0x5C
  else if octet = 0x2F then some 0x2F
  else if octet = 0x62 then some 0x08
  else if octet = 0x66 then some 0x0C
  else if octet = 0x6E then some 0x0A
  else if octet = 0x72 then some 0x0D
  else if octet = 0x74 then some 0x09
  else none

/-- Whether a number is the first half of a surrogate pair. -/
def isHighSurrogate (value : Nat) : Bool :=
  0xD800 ≤ value && value ≤ 0xDBFF

/-- Whether a number is the second half of a surrogate pair. -/
def isLowSurrogate (value : Nat) : Bool :=
  0xDC00 ≤ value && value ≤ 0xDFFF

/-- What four hexadecimal digits lead to: the next state and the bytes that they stand for. -/
def closeEscape
    (value : Nat)
    (high : Option Nat) :
    Except Fault (TextState × Octets) :=
  match high with
  | none =>
      if isLowSurrogate value then .error .loneSurrogate
      else if isHighSurrogate value then .ok (.pairBackslash value, [])
      else .ok (.plain, String.utf8EncodeChar (Char.ofNat value))
  | some high =>
      if isLowSurrogate value then
        let code := (high - 0xD800) * 0x400 + (value - 0xDC00) + 0x10000
        .ok (.plain, String.utf8EncodeChar (Char.ofNat code))
      else
        .error .loneSurrogate

/-- Take one more digit of an escape into account. -/
def digitsStep
    (due : Nat)
    (value : Option Nat)
    (high : Option Nat)
    (octet : UInt8) :
    Except Fault (TextState × Octets) :=
  let value := do some ((← value) * 16 + (← Hex.value? octet.toNat))
  if due ≤ 1 then
    match value with
    | none => .error .badEscape
    | some value => closeEscape value high
  else
    .ok (.digits (due - 1) value high, [])

/--
The text between quotes whose bytes are all gathered, the latest first. If they are not UTF-8,
the gathered bytes are taken to end with the closing quote, and the reading to stop behind those
that are: without escapes this is one byte past them, and every escape moves it further.
-/
def finishText
    (source : Octets)
    (gathered : Octets)
    (unread : Octets) :
    Except Failure (String × Octets) :=
  match Utf8.decode gathered.reverse with
  | .ok content => .ok (content, unread)
  | .error defect =>
      let consumed := source.length - unread.length
      failAt .badCodePoint
        (source.drop (consumed - gathered.length + defect.validUpTo))

/-- Read a string after its opening quote; the source is kept to locate bytes that are not UTF-8. -/
def scanTextFrom
    (source : Octets)
    (state : TextState)
    (gathered : Octets) :
    Octets → Except Failure (String × Octets)
  | [] => failAt .endInText []
  | octet :: rest =>
      match state with
      | .plain =>
          if octet = 0x22 then finishText source gathered rest
          else if octet = 0x5C then scanTextFrom source .escape gathered rest
          else if octet < 0x20 then failAt .controlCharacter rest
          else scanTextFrom source .plain (octet :: gathered) rest
      | .escape =>
          if octet = 0x75 then
            scanTextFrom source (.digits 4 (some 0) none) gathered rest
          else
            match simpleEscape? octet with
            | some plain => scanTextFrom source .plain (plain :: gathered) rest
            | none => failAt .badEscape rest
      | .digits due value high =>
          match digitsStep due value high octet with
          | .ok (state, octets) =>
              scanTextFrom source state (octets.reverse ++ gathered) rest
          | .error fault => failAt fault rest
      | .pairBackslash high =>
          if octet = 0x5C then
            scanTextFrom source (.pairLetter high) gathered rest
          else
            failAt .halfSurrogatePair rest
      | .pairLetter high =>
          if octet = 0x75 then
            scanTextFrom source (.digits 4 (some 0) (some high)) gathered rest
          else
            failAt .halfSurrogatePair rest

/-- Read a string after its opening quote. -/
def scanText (unread : Octets) : Except Failure (String × Octets) :=
  scanTextFrom unread .plain [] unread

end SecretsAdmin.Json
