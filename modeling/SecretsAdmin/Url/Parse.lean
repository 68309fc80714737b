import SecretsAdmin.Url.Segments

namespace SecretsAdmin.Url

/-!
# Reading addresses

The text is divided from left to right: the scheme up to the first colon, the authority after two
slashes, the path, the query after a question mark and the fragment after a number sign.
-/

/-! ## Authorities -/

/-- Divide a text after its last at sign, if it has one. -/
def cutAtLastAt? (characters : List Char) : Option (List Char × List Char) :=
  (Text.cutAt? '@' characters.reverse).map fun (after, before) =>
    (before.reverse, after.reverse)

/-- Divide what may stand before an at sign into a name and a password, and encode both. -/
def readCredentials (characters : List Char) : String × Option String :=
  let encoded (part : List Char) : String := String.ofList (percentEncode .userinfo part)
  match Text.cutAt? ':' characters with
  | none => (encoded characters, none)
  | some (username, []) => (encoded username, none)
  | some (username, password) => (encoded username, some (encoded password))

/-- Divide a host from the port: at the first colon outside brackets. -/
def cutHost (bracketed : Bool) : List Char → List Char × List Char
  | [] => ([], [])
  | character :: rest =>
      if character = ':' ∧ !bracketed then
        ([], character :: rest)
      else
        let within :=
          if character = '[' then true else if character = ']' then false else bracketed
        let (host, port) := cutHost within rest
        (character :: host, port)

/-- The number of digits, as long as it is a port. -/
def readPortNumber
    (number : Nat) :
    List Char → Except Fault Nat
  | [] => .ok number
  | digit :: rest =>
      let number := number * 10 + (digit.toNat - 0x30)
      if !digit.isDigit ∨ 65535 < number then .error .badPort else readPortNumber number rest

/-- A port without its colon; the default of the scheme is the same as none. -/
def readPort
    (scheme : String)
    (digits : List Char) :
    Except Fault (Option Nat) := do
  if digits.isEmpty then
    return none
  let port ← readPortNumber 0 digits
  return if defaultPort? scheme = some port then none else some port

/-- Read the host and the port of an authority. -/
def readHostAndPort
    (scheme : String)
    (characters : List Char) :
    Except Fault (Host × Option Nat) := do
  let (written, port) := cutHost false characters
  match SchemeKind.of scheme with
  | .other =>
      let host ← Host.parsePlain written
      if host.isEmpty ∧ !port.isEmpty then
        .error .emptyHost
      return (host, ← readPort scheme (port.drop 1))
  | _ =>
      if written.isEmpty then
        .error .emptyHost
      let host ← Host.parseSpecial written
      return (host, ← readPort scheme (port.drop 1))

/-- Read an authority, and tell whether something follows it. -/
def readAuthority
    (scheme : String)
    (characters : List Char)
    (followed : Bool) :
    Except Fault Authority := do
  match cutAtLastAt? characters with
  | none =>
      let (host, port) ← readHostAndPort scheme characters
      return { host, port }
  | some ([], rest) =>
      if rest.isEmpty ∧ followed then
        .error .emptyHost
      let (host, port) ← readHostAndPort scheme rest
      return { host, port }
  | some (credentials, rest) =>
      let (username, password) := readCredentials credentials
      let (host, port) ← readHostAndPort scheme rest
      if host.isEmpty ∧ (!username.isEmpty ∨ password.isSome) then
        .error .emptyHost
      return { username, password, host, port }

/-! ## Whole addresses -/

/-- The scheme of a text and what follows its colon; the scheme is in small letters. -/
def cutScheme? (characters : List Char) : Option (String × List Char) := do
  let (written, rest) ← Text.cutAt? ':' characters
  let scheme := withoutBreaks written
  let isPart (character : Char) : Bool :=
    character.isAlphanum || "+-.".toList.contains character
  match scheme with
  | [] => none
  | first :: others =>
      if first.isAlpha ∧ others.all isPart then
        some (String.ofList (scheme.map Char.toLower), rest)
      else
        none

/-- Divide the text after a scheme into the part before the query, the query and the fragment. -/
def cutTail (characters : List Char) : List Char × Option (List Char) × Option (List Char) :=
  let (front, fragment) :=
    match Text.cutAt? '#' characters with
    | some (front, fragment) => (front, some fragment)
    | none => (characters, none)
  match Text.cutAt? '?' front with
  | some (front, query) => (front, some query, fragment)
  | none => (front, none, fragment)

/-- Where the authority ends within the text before the query. -/
def cutAuthority
    (kind : SchemeKind)
    (characters : List Char) :
    List Char × List Char :=
  characters.span fun character => !isDivider kind character

/-- The authority and the path of an address of a web scheme. -/
def readWeb
    (scheme : String)
    (characters : List Char)
    (followed : Bool) :
    Except Fault (Authority × List String) := do
  let (authority, path) := cutAuthority .web (characters.dropWhile (isDivider .web))
  let authority ← readAuthority scheme authority (followed || !path.isEmpty)
  return (authority, readPath .web path)

/-- The authority of a file on the own machine. -/
def ownMachine : Authority where
  host := .domain ""

/-- The authority and the path of a file on a host; a drive is always on the own machine. -/
def readFileOn
    (host : Host)
    (path : List Char) :
    Authority × List String :=
  let trail := readTrail .file (path.drop 1)
  (if trail.onDrive then ownMachine else { host }, trail.segments)

/-- The authority and the path of a file after two slashes; a drive is no host. -/
def readFileAuthority (characters : List Char) : Except Fault (Authority × List String) := do
  let (written, path) := cutAuthority .file characters
  let written := withoutBreaks written
  if isDrive (String.ofList written) then
    return (ownMachine, readSegments .file characters)
  else if written.isEmpty then
    return (ownMachine, readSegments .file path)
  else
    let host ← Host.parseSpecial written
    if host = .domain "localhost" then
      return (ownMachine, readSegments .file path)
    else
      return readFileOn host path

/-- Remove the slash with which a text begins; tabs and line breaks before it do not count. -/
def dropDivider?
    (kind : SchemeKind)
    (characters : List Char) :
    Option (List Char) :=
  match characters.dropWhile isBreak with
  | first :: rest => if isDivider kind first then some rest else none
  | [] => none

/-- The authority and the path of a file; the own machine is the same as no host. -/
def readFile (characters : List Char) : Except Fault (Authority × List String) := do
  let path := (dropDivider? .file characters).getD characters
  let (authority, segments) ←
    match dropDivider? .file characters, dropDivider? .file path with
    | some _, some rest => readFileAuthority rest
    | _, _ => pure (ownMachine, readSegments .file path)
  return (authority, withoutEmptyFront segments)

/-- Divide the port from a path that begins with a backslash, which divides nothing else here. -/
def cutAtPortEnd (characters : List Char) : List Char × List Char :=
  let userinfo := ((cutAtLastAt? characters).map fun cut => cut.1 ++ ['@']).getD []
  let (host, port) := cutHost false (characters.drop userinfo.length)
  let (digits, path) := port.span (· ≠ '\\')
  (userinfo ++ host ++ digits, path)

/-- The authority and the path of an address of another scheme, and whether the path is guarded. -/
def readOther
    (scheme : String)
    (characters : List Char)
    (followed : Bool) :
    Except Fault (Option Authority × Bool × Path) := do
  match characters with
  | '/' :: '/' :: rest =>
      let (written, path) := cutAuthority .other rest
      let (written, early) := cutAtPortEnd written
      let path := early ++ path
      let authority ← readAuthority scheme written (followed || !path.isEmpty)
      return (some authority, false, .segments (readPath .other path))
  | '/' :: rest =>
      let segments := readSegments .other rest
      let guarded := 1 < segments.length && segments.head? == some ""
      return (none, guarded, .segments segments)
  | _ =>
      return (none, false, .plain (String.ofList (percentEncode .controls characters)))

/-- A text without the blanks and controls at its ends. -/
def trimmed (text : String) : List Char :=
  let isSpare (character : Char) : Bool := character.toNat ≤ 0x20
  ((text.toList.dropWhile isSpare).reverse.dropWhile isSpare).reverse

/-- Read an address. -/
def parse (text : String) : Except Fault Url := do
  match cutScheme? (trimmed text) with
  | none => .error .relative
  | some (scheme, rest) =>
      let (front, query, fragment) := cutTail rest
      let kind := SchemeKind.of scheme
      let followed := query.isSome || fragment.isSome
      let encoded (set : EncodeSet) (part : List Char) : String :=
        String.ofList (percentEncode set (withoutBreaks part))
      let query := query.map (encoded (if kind.isSpecial then .specialQuery else .query))
      let fragment := fragment.map (encoded .fragment)
      match kind with
      | .web =>
          let (authority, segments) ← readWeb scheme (withoutBreaks front) followed
          return { scheme, authority, path := .segments segments, query, fragment }
      | .file =>
          let (authority, segments) ← readFile front
          return { scheme, authority, path := .segments segments, query, fragment }
      | .other =>
          let (authority, guarded, path) ← readOther scheme (withoutBreaks front) followed
          return { scheme, authority, guarded, path, query, fragment }

end SecretsAdmin.Url
