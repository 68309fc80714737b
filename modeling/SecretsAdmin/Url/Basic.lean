import SecretsAdmin.Url.Host

namespace SecretsAdmin

/-!
# Addresses

An address names a scheme, an authority and a path, and possibly a query and a fragment. Its
parts are kept in the encoded form in which they are printed.
-/

namespace Url

/-- What a scheme implies for the parts of an address. -/
inductive SchemeKind where
  /-- Authority and path are always there, and a backslash divides as a slash does. -/
  | web
  /-- The path may begin with a drive, and there is no port. -/
  | file
  /-- Nothing is implied. -/
  | other
  deriving DecidableEq, Repr

/-- The port of a scheme when none is given. -/
def defaultPort? : (scheme : String) → Option Nat
  | "http" => some 80
  | "https" => some 443
  | "ws" => some 80
  | "wss" => some 443
  | "ftp" => some 21
  | _ => none

/-- The kind of a scheme. -/
def SchemeKind.of (scheme : String) : SchemeKind :=
  if scheme = "file" then .file
  else if (defaultPort? scheme).isSome then .web
  else .other

/-- Whether a scheme is special: its addresses always have a path. -/
def SchemeKind.isSpecial : SchemeKind → Bool
  | web => true
  | file => true
  | other => false

/-- Who may be asked at which host and port. -/
structure Authority where
  username : String := ""
  /-- The password, which is not empty. -/
  password : Option String := none
  host : Host
  /-- The port, unless it is the default of the scheme. -/
  port : Option Nat := none
  deriving DecidableEq, Repr

/-- The text of an authority. -/
def Authority.text (authority : Authority) : String :=
  let credentials :=
    authority.username ++ (authority.password.map (":" ++ ·)).getD ""
  let mark := if credentials.isEmpty then "" else "@"
  let port := (authority.port.map fun port => ":" ++ toString port).getD ""
  credentials ++ mark ++ authority.host.text ++ port

/-- What stands between the authority and the query of an address. -/
inductive Path where
  /-- A path of segments, with a slash before each. -/
  | segments (items : List String)
  /-- A text without structure. -/
  | plain (text : String)
  deriving DecidableEq, Repr

/-- The text of segments, with a slash before each. -/
def segmentsText : List String → String
  | [] => ""
  | segment :: rest => "/" ++ segment ++ segmentsText rest

/-- The text of a path. -/
def Path.text : Path → String
  | .segments items => segmentsText items
  | .plain text => text

end Url

/-- An address. -/
structure Url where
  scheme : String
  authority : Option Url.Authority
  /--
  Whether `/.` goes before the path, so that an empty first segment is not mistaken for the
  beginning of an authority.
  -/
  guarded : Bool := false
  path : Url.Path
  query : Option String := none
  fragment : Option String := none
  deriving DecidableEq, Repr

namespace Url

/-- The kind of the scheme of an address. -/
def kind (url : Url) : SchemeKind :=
  .of url.scheme

/-- The text of an address. -/
def text (url : Url) : String :=
  let authority := (url.authority.map fun authority => "//" ++ authority.text).getD ""
  let guard := if url.guarded then "/." else ""
  let query := (url.query.map ("?" ++ ·)).getD ""
  let fragment := (url.fragment.map ("#" ++ ·)).getD ""
  url.scheme ++ ":" ++ authority ++ guard ++ url.path.text ++ query ++ fragment

end Url

end SecretsAdmin
