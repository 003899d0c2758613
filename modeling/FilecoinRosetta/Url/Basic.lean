/-!
# URLs

A URL in its normal form: every part is written as it is shown. Of its parts only
the path is ever replaced here.
-/

namespace FilecoinRosetta

namespace Url

/-- The part between two slashes and the path. -/
structure Authority where
  /-- What stands before the sign `@`, if there is one. -/
  credentials : Option String
  /-- The host, which may be empty. -/
  host : String
  /-- The port, unless it is the one that goes with the scheme. -/
  port : Option UInt16
  deriving DecidableEq, Repr

/-- The text of an authority, the slashes included. -/
def Authority.text (authority : Authority) : String :=
  let user := match authority.credentials with
    | some credentials => credentials ++ "@"
    | none => ""
  let port := match authority.port with
    | some port => ":" ++ toString port.toNat
    | none => ""
  "//" ++ user ++ authority.host ++ port

end Url

/-- A URL. -/
structure Url where
  /-- The scheme in lower case. -/
  scheme : String
  authority : Option Url.Authority
  path : String
  query : Option String
  fragment : Option String
  deriving DecidableEq, Repr

namespace Url

/-- A part with a sign in front of it, if it is there. -/
def marked (mark : String) : Option String → String
  | some part => mark ++ part
  | none => ""

/-- What stands before the path. Two slashes at the beginning of a path must not
    look like the ones before an authority. -/
def origin (url : Url) : String :=
  match url.authority with
  | some authority => url.scheme ++ ":" ++ authority.text
  | none => url.scheme ++ ":" ++ (if url.path.startsWith "//" then "/." else "")

/-- The text of a URL. -/
def text (url : Url) : String :=
  url.origin ++ url.path ++ marked "?" url.query ++ marked "#" url.fragment

/-- The same URL with another path. -/
def withPath (url : Url) (path : String) : Url :=
  { url with path := path }

end Url

end FilecoinRosetta
