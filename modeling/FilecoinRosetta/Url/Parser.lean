import FilecoinRosetta.Text.Blank
import FilecoinRosetta.Url.Basic
import FilecoinRosetta.Url.Host

/-!
# Reading URLs

Reading is forgiving where browsers are: blanks around a URL and line breaks in it
do not count, steps to a parent are taken out of the path, and what may not stand in
a part is escaped. Under the schemes that everyone knows backslashes are slashes and
there is always a host.
-/

namespace FilecoinRosetta.Url

/-- The kinds of schemes. -/
inductive SchemeKind where
  /-- A scheme that everyone knows, with a host. -/
  | known
  /-- Files, whose host is usually empty. -/
  | file
  /-- Any other scheme. -/
  | other
  deriving DecidableEq, Repr

/-- The kind of a scheme. -/
def SchemeKind.of (scheme : String) : SchemeKind :=
  if scheme = "file" then file
  else if ["http", "https", "ws", "wss", "ftp"].contains scheme then known
  else other

/-- The port that goes with a scheme. -/
def defaultPort? (scheme : String) : Option UInt16 :=
  if scheme = "http" ∨ scheme = "ws" then some 80
  else if scheme = "https" ∨ scheme = "wss" then some 443
  else if scheme = "ftp" then some 21
  else none

/-- Whether a sign separates the segments of a path. -/
def isSlash (kind : SchemeKind) (sign : Char) : Bool :=
  sign == '/' || (kind != .other && sign == '\\')

/-- Whether a sign ends an authority. -/
def endsAuthority (kind : SchemeKind) (sign : Char) : Bool :=
  isSlash kind sign || sign == '?' || sign == '#'

/-- Whether a sign may stand in a scheme behind its first one. -/
def isSchemeSign (sign : Char) : Bool :=
  sign.isAlphanum || sign == '+' || sign == '-' || sign == '.'

/-- The scheme, and what stands behind its colon. -/
def splitScheme? (text : List Char) : Option (String × List Char) :=
  let name := text.takeWhile isSchemeSign
  match name, text.dropWhile isSchemeSign with
  | first :: _, ':' :: rest =>
      if first.isAlpha then some (String.ofList (name.map Char.toLower), rest) else none
  | _, _ => none

/-! ## Path, query and fragment -/

/-- The segments of a path that has no slash in front. -/
def pathSegments (kind : SchemeKind) (path : List Char) : List (List Char) :=
  Text.segments '/' (path.map fun sign => if isSlash kind sign then '/' else sign)

/-- Whether a segment stays where it is. -/
def isHere (segment : List Char) : Bool :=
  [".", "%2e"].contains (String.ofList (segment.map Char.toLower))

/-- Whether a segment goes to the parent. -/
def isParent (segment : List Char) : Bool :=
  ["..", ".%2e", "%2e.", "%2e%2e"].contains (String.ofList (segment.map Char.toLower))

/-- Whether a segment is a letter that names a drive. -/
def isDrive : List Char → Bool
  | [letter, mark] => letter.isAlpha && (mark == ':' || mark == '|')
  | _ => false

/-- Whether a path is nothing but a drive, which has no parent. -/
def isDriveRoot (kind : SchemeKind) : List (List Char) → Bool
  | [[letter, ':']] => kind == .file && letter.isAlpha
  | _ => false

/-- Whether a path begins with a drive. -/
def isOnDrive (kind : SchemeKind) (segments : List (List Char)) : Bool :=
  kind == .file && (segments.head?.map isDrive).getD false

/-- A segment as it is written. The first one of a file may be a drive,
which has a colon. -/
def writtenSegment (kind : SchemeKind) (isFirst : Bool) (segment : List Char) : List Char :=
  if kind == .file && isFirst && isDrive segment then segment.take 1 ++
    [':'] else escape pathSigns segment

/-- Take steps out of a path; the segments so far are kept the last first. A step at
    the end leaves an empty segment. -/
def walk (kind : SchemeKind) : (passed : List (List Char)) → List (List Char) → List (List Char)
  | passed, [] => passed.reverse
  | passed, segment :: rest =>
      let left :=
        if isParent segment then (if isDriveRoot kind passed then passed else passed.drop 1)
        else if isHere segment then passed
        else writtenSegment kind passed.isEmpty segment :: passed
      if (isParent segment || isHere segment) && rest.isEmpty then ([] :: left).reverse
      else walk kind left rest

/-- The normal form of a path behind its first slash. Files have no
empty segments in front. -/
def normalPath (kind : SchemeKind) (path : List Char) : String :=
  let segments := walk kind [] (pathSegments kind path)
  let kept := if kind = .file ∧ 1 < segments.length then
      match segments.dropWhile List.isEmpty with
      | [] => [[]]
      | kept => kept
    else segments
  String.ofList ('/' :: ['/'].intercalate kept)

/-- What stands before a query or fragment, and the rest. -/
def splitPath (text : List Char) : List Char × List Char :=
  (text.takeWhile fun sign => sign != '?' && sign != '#',
   text.dropWhile fun sign => sign != '?' && sign != '#')

/-- The fragment, if there is one. -/
def fragmentOf : List Char → Option String
  | '#' :: rest => some (String.ofList (escape fragmentSigns rest))
  | _ => none

/-- Query and fragment. -/
def queryAndFragment (kind : SchemeKind) : List Char → Option String × Option String
  | '?' :: rest =>
      let signs := if kind = .other then querySigns else specialQuerySigns
      (some (String.ofList (escape signs (rest.takeWhile (· != '#')))),
       fragmentOf (rest.dropWhile (· != '#')))
  | rest => (none, fragmentOf rest)

/-- The URL of parts and of the text behind them, a path and what follows it. The
    path of a scheme that not everyone knows may be empty. -/
def finish (scheme : String) (authority : Option Authority) (behind : List Char) : Url :=
  let kind := SchemeKind.of scheme
  let (path, rest) := splitPath behind
  let normal := match path with
    | [] => if kind = .other then "" else "/"
    | first :: segments =>
        if isSlash kind first then normalPath kind segments else normalPath kind (first :: segments)
  let (query, fragment) := queryAndFragment kind rest
  { scheme, authority, path := normal, query, fragment }

/-! ## Authority -/

/-- Split a text at the last sign `@`. -/
def splitUser (text : List Char) : Option (List Char) × List Char :=
  let reversed := text.reverse
  match reversed.dropWhile (· != '@') with
  | [] => (none, text)
  | _ :: user => (some user.reverse, (reversed.takeWhile (· != '@')).reverse)

/-- Name and password as they are written. An empty password has no colon. -/
def credentialsOf (user : List Char) : Option String :=
  let name := escape userSigns (user.takeWhile (· != ':'))
  let password := escape userSigns ((user.dropWhile (· != ':')).drop 1)
  if name.isEmpty ∧ password.isEmpty then none
  else if password.isEmpty then some (String.ofList name)
  else some (String.ofList (name ++ ':' :: password))

/-- Split a host from the port behind it; colons in brackets belong to the host. -/
def splitHost : (bracketed : Bool) → List Char → List Char × List Char
  | _, [] => ([], [])
  | bracketed, sign :: rest =>
      if sign = ':' ∧ !bracketed then ([], sign :: rest)
      else
        let inside := if sign = '[' then true else if sign = ']' then false else bracketed
        let (host, port) := splitHost inside rest
        (sign :: host, port)

/-- The port behind a host, none if it is empty or goes with the scheme. -/
def portOf? (scheme : String) : List Char → Option (Option UInt16)
  | [] => some none
  | [_] => some none
  | _ :: digits => do
      let number ← Text.Integer.natural? digits
      if number < UInt16.size then
        let port := UInt16.ofNat number
        some (if defaultPort? scheme = some port then none else some port)
      else none

/-- Read an authority. Only the other schemes may leave the host empty, and then
    nothing else may stand with it. -/
def readAuthority? (scheme : String) (text : List Char) : Option Authority := do
  let kind := SchemeKind.of scheme
  let (user, place) := splitUser text
  let credentials := user.bind credentialsOf
  let (hostText, portText) := splitHost false place
  if hostText.isEmpty then
    if kind = .known ∨ user.isSome ∨ !portText.isEmpty then none
    else some ⟨none, "", none⟩
  else
    let host ← if kind = .other then opaqueHost? hostText else knownHost? hostText
    let port ← portOf? scheme portText
    some ⟨credentials, host, port⟩

/-- Read what stands behind the two slashes of a URL with an authority. -/
def readHierarchy? (scheme : String) (text : List Char) : Option Url := do
  let kind := SchemeKind.of scheme
  let authority ← readAuthority? scheme (text.takeWhile fun sign => !endsAuthority kind sign)
  some (finish scheme (some authority) (text.dropWhile fun sign => !endsAuthority kind sign))

/-- Read the host of a file, which is empty on this machine. -/
def fileHost? (text : List Char) : Option String :=
  if text.isEmpty then some ""
  else (knownHost? text).map fun host => if host = "localhost" then "" else host

/-- The URL of a file on this machine. -/
def localFile (path : List Char) : Url :=
  finish "file" (some ⟨none, "", none⟩) path

/-- Whether the path that a text begins with is on a drive. -/
def startsOnDrive (text : List Char) : Bool :=
  match (splitPath text).1 with
  | [] => false
  | _ :: segments => isOnDrive .file (walk .file [] (pathSegments .file segments))

/-- Read what stands behind the two slashes of a file's URL. A drive is no host, and
    no other machine has drives. -/
def readFilePlace? (text : List Char) : Option Url := do
  let place := text.takeWhile fun sign => !endsAuthority .file sign
  let behind := text.dropWhile fun sign => !endsAuthority .file sign
  if isDrive place then some (localFile text)
  else do
    let host ← fileHost? place
    if startsOnDrive behind then some (localFile behind)
    else some (finish "file" (some ⟨none, host, none⟩) behind)

/-- Read what stands behind the colon of a file's URL. -/
def readFile? (text : List Char) : Option Url :=
  match text with
  | first :: second :: rest =>
      if isSlash .file first && isSlash .file second then readFilePlace? rest
      else some (localFile text)
  | text => some (localFile text)

/-- Read what stands behind the colon of any other URL. A path without a slash in
    front has no segments. -/
def readOther? (scheme : String) (text : List Char) : Option Url :=
  match text with
  | '/' :: '/' :: rest => readHierarchy? scheme rest
  | '/' :: rest => some (finish scheme none ('/' :: rest))
  | text =>
      let (path, rest) := splitPath text
      let (query, fragment) := queryAndFragment .other rest
      some
        { scheme
          authority := none
          path := String.ofList (escape [] path)
          query
          fragment }

/-- Read the text of a URL. -/
def parse? (text : String) : Option Url := do
  let signs :=
      (Text.trimWhere (fun sign => decide (sign.toNat ≤ 0x20)) text.toList).filter fun sign =>
    sign != '\t' && sign != '\n' && sign != '\r'
  let (scheme, rest) ← splitScheme? signs
  match SchemeKind.of scheme with
  | .known => readHierarchy? scheme (rest.dropWhile (isSlash .known))
  | .file => readFile? rest
  | .other => readOther? scheme rest

end FilecoinRosetta.Url
