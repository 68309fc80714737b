import SecretsAdmin.Url.Basic

namespace SecretsAdmin.Url

/-!
# Segments of paths

A path is read segment by segment. Segments that stand for the directory itself or for the one
above are followed, and are no part of the path.
-/

/-! ## Tabs and line breaks -/

/-- Whether a character is a tab or a line break, which are no part of an address. -/
def isBreak (character : Char) : Bool :=
  "\t\n\r".toList.contains character

/-- A text without the tabs and line breaks within it. -/
def withoutBreaks (written : List Char) : List Char :=
  written.filter fun character => !isBreak character

/-! ## Drives -/

/-- Whether a segment is the name of a drive: a letter and a colon or a bar. -/
def isDrive (segment : String) : Bool :=
  match segment.toList with
  | [letter, mark] => letter.isAlpha && (mark == ':' || mark == '|')
  | _ => false

/-- Whether a segment is the name of a drive, possibly with a backslash and more behind it. -/
def beginsWithDrive (segment : String) : Bool :=
  match segment.toList with
  | letter :: mark :: '\\' :: _ => isDrive (String.ofList [letter, mark])
  | _ => isDrive segment

/--
Divide a segment as it is written behind a drive and its colon, if a tab or a line break goes
before the rest.
-/
def cutDrive? (written : List Char) : Option (List Char × List Char) :=
  match written.dropWhile isBreak with
  | [] => none
  | letter :: rest =>
      match rest.dropWhile isBreak with
      | ':' :: rest =>
          let name := withoutBreaks rest
          if letter.isAlpha ∧ rest.head?.any isBreak ∧ !name.isEmpty then
            some ([letter, ':'], name)
          else
            none
      | _ => none

/-! ## Following segments -/

/-- Whether a segment stands for the directory itself. -/
def isHere (segment : String) : Bool :=
  [".", "%2e"].contains (String.ofList (segment.toList.map Char.toLower))

/-- Whether a segment stands for the directory above. -/
def isAbove (segment : String) : Bool :=
  ["..", ".%2e", "%2e.", "%2e%2e"].contains
    (String.ofList (segment.toList.map Char.toLower))

/-- A path that is followed segment by segment. -/
structure Trail where
  segments : List String
  /-- Whether the path is one of a file, and its first segment was the name of a drive. -/
  onDrive : Bool := false
  deriving DecidableEq, Repr

namespace Trail

/-- The path from which every other begins. -/
def root : Trail where
  segments := []

/-- Put segments behind a path. -/
def append
    (trail : Trail)
    (names : List String) :
    Trail :=
  { trail with segments := trail.segments ++ names }

/-- The directory above a path; a drive has none. -/
def above (trail : Trail) : Trail :=
  match trail.segments.getLast? with
  | some last =>
      if beginsWithDrive last then
        trail
      else
        { trail with segments := trail.segments.dropLast }
  | none => trail

/--
Put a segment behind a path. At the front of a file's path the name of a drive gets a colon, and
a drive is a segment of its own if a tab or a line break goes before the rest.
-/
def enter
    (kind : SchemeKind)
    (set : EncodeSet)
    (trail : Trail)
    (written : List Char) :
    Trail :=
  let encoded (name : List Char) : String := String.ofList (percentEncode set name)
  let name := encoded (withoutBreaks written)
  if kind = .file ∧ trail.segments.isEmpty then
    if isDrive name then
      ⟨[String.ofList (name.toList.take 1) ++ ":"], true⟩
    else
      match cutDrive? written with
      | some (drive, rest) => trail.append [encoded drive, encoded rest]
      | none => trail.append [name]
  else
    trail.append [name]

/-- Follow one segment; behind the last one a path that ends in a directory ends in a slash. -/
def step
    (kind : SchemeKind)
    (set : EncodeSet)
    (last : Bool)
    (trail : Trail)
    (written : List Char) :
    Trail :=
  let name := String.ofList (percentEncode set (withoutBreaks written))
  let slash := if last then [""] else []
  if isAbove name then trail.above.append slash
  else if isHere name then trail.append slash
  else trail.enter kind set written

/-- Follow segments one after the other. -/
def follow
    (kind : SchemeKind)
    (set : EncodeSet)
    (trail : Trail) :
    (written : List (List Char)) → Trail
  | [] => trail
  | [last] => trail.step kind set true last
  | segment :: rest => (trail.step kind set false segment).follow kind set rest

end Trail

/-! ## Reading paths -/

/-- Whether a character divides the segments of a path. -/
def isDivider
    (kind : SchemeKind)
    (character : Char) :
    Bool :=
  character == '/' || (kind.isSpecial && character == '\\')

/-- Follow a path that begins after its first slash. -/
def readTrail
    (kind : SchemeKind)
    (characters : List Char) :
    Trail :=
  Trail.root.follow kind .path (characters.splitOnP (isDivider kind))

/-- The segments of a path that begins after its first slash. -/
def readSegments
    (kind : SchemeKind)
    (characters : List Char) :
    List String :=
  (readTrail kind characters).segments

/-- A path without the empty segments with which it begins. -/
def withoutEmptyFront (segments : List String) : List String :=
  match segments.dropWhile String.isEmpty with
  | [] => [""]
  | rest => rest

/-- The segments of the path after an authority, or after a scheme without one. -/
def readPath
    (kind : SchemeKind)
    (characters : List Char) :
    List String :=
  match characters with
  | [] => if kind.isSpecial then [""] else []
  | first :: rest =>
      if isDivider kind first then readSegments kind rest
      else readSegments kind (first :: rest)

end SecretsAdmin.Url
