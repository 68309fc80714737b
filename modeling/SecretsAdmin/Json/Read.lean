import SecretsAdmin.Json.Skip
import SecretsAdmin.Json.Value
import SecretsAdmin.OrderedMap

namespace SecretsAdmin.Json

/-!
# Reading typed values

A reader consumes one value of the text. Arrays and objects are read by following their elements
and members in the order of the text, so the first fault in reading order is the one reported.
-/

/-- A reader of values. -/
abbrev Reader (α : Type) := Octets → Except Failure (α × Octets)

/-- The limit on how deeply free values may be nested. -/
def greatestDepth : Nat := 127

/-- The failure when a value of another type stands next. -/
def mismatch
    {α : Type}
    (wanted : Wanted)
    (unread : Octets) :
    Except Failure α :=
  let wrong (found : Found) (unread : Octets) : Except Failure α :=
    failAt (.wrongType found wanted) unread
  match unread with
  | [] => failAt .endInValue []
  | 0x6E :: rest => do wrong .null (← expectWord nullTail rest)
  | 0x74 :: rest => do wrong (.boolean true) (← expectWord trueTail rest)
  | 0x66 :: rest => do wrong (.boolean false) (← expectWord falseTail rest)
  | 0x2D :: rest => do
      let (number, unread) ← scanNumber true rest
      wrong number.found unread
  | 0x22 :: rest => do
      let (content, unread) ← scanText rest
      wrong (.text content) unread
  | 0x5B :: _ => wrong .sequence unread
  | 0x7B :: _ => wrong .map unread
  | octet :: _ =>
      if isDigit octet then do
        let (number, unread) ← scanNumber false unread
        wrong number.found unread
      else
        failPast .noValue unread

/-! ## Simple values -/

/-- Read a string. -/
def readText : Reader String := fun unread =>
  match skipBlanks unread with
  | 0x22 :: rest => scanText rest
  | unread => mismatch .text unread

/-- Read a truth value. -/
def readBoolean : Reader Bool := fun unread =>
  match skipBlanks unread with
  | 0x74 :: rest => do return (true, ← expectWord trueTail rest)
  | 0x66 :: rest => do return (false, ← expectWord falseTail rest)
  | unread => mismatch .boolean unread

/-- Whether a whole number fits into 64 bits with a sign. -/
def isInt64 (number : Int) : Bool :=
  -0x8000000000000000 ≤ number && number ≤ 0x7FFFFFFFFFFFFFFF

/-- A number as a signed whole number of 64 bits. -/
def checkInteger
    (number : Number)
    (unread : Octets) :
    Except Failure (Int64 × Octets) :=
  match number with
  | .integer value =>
      if isInt64 value then
        .ok (Int64.ofInt value, unread)
      else
        failAt (.wrongValue (.integer value) .integer) unread
  | .real value => failAt (.wrongType (.real value) .integer) unread

/-- Read a signed whole number of 64 bits. -/
def readInteger : Reader Int64 := fun unread =>
  match skipBlanks unread with
  | 0x2D :: rest => do
      let (number, unread) ← scanNumber true rest
      checkInteger number unread
  | octet :: rest =>
      if isDigit octet then do
        let (number, unread) ← scanNumber false (octet :: rest)
        checkInteger number unread
      else
        mismatch .integer (octet :: rest)
  | [] => failAt .endInValue []

/-- Read a value that may be `null`. -/
def readOptional
    {α : Type}
    (read : Reader α) :
    Reader (Option α) := fun unread =>
  match skipBlanks unread with
  | 0x6E :: rest => do return (none, ← expectWord nullTail rest)
  | unread => do
      let (value, unread) ← read unread
      return (some value, unread)

/-! ## Arrays -/

/--
Move to the next element of an array. The result says whether there is one and stands before it,
or before the closing bracket.
-/
def nextElement
    (first : Bool)
    (unread : Octets) :
    Except Failure (Bool × Octets) :=
  match skipBlanks unread with
  | [] => failAt .endInList []
  | 0x5D :: rest => .ok (false, 0x5D :: rest)
  | octet :: rest =>
      if first then
        .ok (true, octet :: rest)
      else if octet = 0x2C then
        match skipBlanks rest with
        | [] => failAt .endInValue []
        | 0x5D :: rest => failPast .trailingComma (0x5D :: rest)
        | unread => .ok (true, unread)
      else
        failPast .noListEnd (octet :: rest)

/-- Close an array. -/
def closeArray (unread : Octets) : Except Failure Octets :=
  match skipBlanks unread with
  | [] => failAt .endInList []
  | 0x5D :: rest => .ok rest
  | 0x2C :: rest =>
      match skipBlanks rest with
      | 0x5D :: rest => failPast .trailingComma (0x5D :: rest)
      | unread => failPast .trailingCharacters unread
  | unread => failPast .trailingCharacters unread

/-- Where the text stands after an attempt to close an array. -/
def afterArray (unread : Octets) : Octets :=
  match skipBlanks unread with
  | 0x5D :: rest => rest
  | 0x2C :: rest => skipBlanks rest
  | unread => unread

/-- Read the remaining elements of an array; the budget is as long as the text. -/
def readElements
    {α : Type}
    (read : Reader α)
    (index : Nat)
    (found : List α) :
    (budget : Octets) → Reader (List α)
  | [], _ => failAt .endInList []
  | _ :: budget, unread => do
      match ← nextElement (index == 0) unread with
      | (false, unread) => return (found.reverse, unread)
      | (true, unread) =>
          match read unread with
          | .error failure => .error (failure.inside (.index index))
          | .ok (element, unread) =>
              readElements read (index + 1) (element :: found) budget unread

/-- Read the elements of an array after its opening bracket, and close it. -/
def readArrayBody
    {α : Type}
    (read : Reader α) :
    Reader (List α) := fun unread => do
  let (elements, unread) ← readElements read 0 [] (0 :: unread) unread
  return (elements, ← closeArray unread)

/-- Read an array. -/
def readArray
    {α : Type}
    (read : Reader α) :
    Reader (List α) := fun unread =>
  match skipBlanks unread with
  | 0x5B :: rest => readArrayBody read rest
  | unread => mismatch .sequence unread

/-! ## Objects -/

/-- Read the name of the next member of an object, unless the object ends before it. -/
def nextKey
    (first : Bool)
    (unread : Octets) :
    Except Failure (Option String × Octets) :=
  let key (unread : Octets) : Except Failure (Option String × Octets) := do
    let (name, unread) ← scanText unread
    return (some name, unread)
  let keyAfterComma (unread : Octets) : Except Failure (Option String × Octets) :=
    match skipBlanks unread with
    | [] => failAt .endInValue []
    | 0x22 :: rest => key rest
    | 0x7D :: rest => failPast .trailingComma (0x7D :: rest)
    | unread => failPast .keyNotText unread
  let found : Except Failure (Option String × Octets) :=
    match skipBlanks unread with
    | [] => failAt .endInObject []
    | 0x7D :: rest => .ok (none, 0x7D :: rest)
    | octet :: rest =>
        if first then
          if octet = 0x22 then key rest else failPast .keyNotText (octet :: rest)
        else if octet = 0x2C then
          keyAfterComma rest
        else
          failPast .noObjectEnd (octet :: rest)
  found.mapError (·.inside .unreadable)

/-- Read the colon after a name. -/
def expectColon (unread : Octets) : Except Failure Octets :=
  match skipBlanks unread with
  | [] => failAt .endInObject []
  | 0x3A :: rest => .ok rest
  | unread => failPast .noColon unread

/-- Read the value of a member after its name. The member begins behind the colon. -/
def readMember
    {α : Type}
    (name : String)
    (read : Reader α) :
    Reader α := fun unread => do
  (read (← expectColon unread)).mapError (·.inside (.member name))

/-- Close an object. -/
def closeObject (unread : Octets) : Except Failure Octets :=
  match skipBlanks unread with
  | [] => failAt .endInObject []
  | 0x7D :: rest => .ok rest
  | 0x2C :: rest => failPast .trailingComma (0x2C :: rest)
  | unread => failPast .trailingCharacters unread

/-- Where the text stands after an attempt to close an object. -/
def afterObject (unread : Octets) : Octets :=
  match skipBlanks unread with
  | 0x7D :: rest => rest
  | unread => unread

/--
Follow the members of an object in order. The state changes with every member; the step reads
the value of a member after its name. The budget is as long as the text.
-/
def readMembers
    {σ : Type}
    (step : String → σ → Reader σ)
    (first : Bool)
    (state : σ) :
    (budget : Octets) → Reader σ
  | [], _ => failAt .endInObject []
  | _ :: budget, unread => do
      match ← nextKey first unread with
      | (none, unread) => return (state, unread)
      | (some name, unread) =>
          let (state, unread) ← step name state unread
          readMembers step false state budget unread

/-- Read an object whose members are all strings; the last member of a name stays. -/
def readDictionary : Reader (OrderedMap String String) := fun unread =>
  match skipBlanks unread with
  | 0x7B :: rest => do
      let step (name : String) (found : OrderedMap String String) :
          Reader (OrderedMap String String) := fun unread => do
        let (value, unread) ← readMember name readText unread
        return (found.insert name value, unread)
      let (found, unread) ← readMembers step true OrderedMap.empty (0 :: rest) rest
      return (found, ← closeObject unread)
  | unread => mismatch .map unread

/-! ## Free values -/

/-- Read any value, nested no deeper than a limit; the last member of a name stays. -/
def readValue : (depth : Nat) → Reader Json
  | depth, unread =>
      match skipBlanks unread with
      | [] => failAt .endInValue []
      | 0x6E :: rest => do return (.null, ← expectWord nullTail rest)
      | 0x74 :: rest => do return (.boolean true, ← expectWord trueTail rest)
      | 0x66 :: rest => do return (.boolean false, ← expectWord falseTail rest)
      | 0x22 :: rest => do
          let (content, unread) ← scanText rest
          return (.text content, unread)
      | 0x2D :: rest => do
          let (number, unread) ← scanNumber true rest
          return (ofNumber number, unread)
      | 0x5B :: rest =>
          match depth with
          | 0 => failAt .tooDeep rest
          | depth + 1 => do
              let (elements, unread) ← readArrayBody (readValue depth) rest
              return (.array elements, unread)
      | 0x7B :: rest =>
          match depth with
          | 0 => failAt .tooDeep rest
          | depth + 1 => do
              let step (name : String) (found : OrderedMap String Json) :
                  Reader (OrderedMap String Json) := fun unread => do
                let (value, unread) ← readMember name (readValue depth) unread
                return (found.insert name value, unread)
              let (found, unread) ← readMembers step true OrderedMap.empty (0 :: rest) rest
              return (.object found.entries, ← closeObject unread)
      | octet :: rest =>
          if isDigit octet then do
            let (number, unread) ← scanNumber false (octet :: rest)
            return (ofNumber number, unread)
          else
            failPast .noValue (octet :: rest)
where
  /-- A number as a document. -/
  ofNumber : Number → Json
    | .integer value => .integer value
    | .real value => .real value

/-! ## Whole texts -/

/-- Expect nothing but blanks in the rest of a text. -/
def expectEnd (unread : Octets) : Except Failure Unit :=
  match skipBlanks unread with
  | [] => .ok ()
  | unread => failPast .trailingCharacters unread

/-- Read a text that holds one value and nothing else. -/
def parse
    {α : Type}
    (read : Reader α)
    (source : Octets) :
    Except Failure α := do
  let (value, unread) ← read source
  expectEnd unread
  return value

/-- Read a text that holds one free value. -/
def parseValue (source : Octets) : Except Failure Json :=
  parse (readValue greatestDepth) source

end SecretsAdmin.Json
