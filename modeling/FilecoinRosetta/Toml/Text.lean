import FilecoinRosetta.Internet.Ipv6

/-!
# Strings in TOML

A string stands between quotes or between apostrophes, which leave every sign as it
is; three of either enclose a string of several lines. Writing takes the first form
that shows the text as it is, and escapes signs only where none does.
-/

namespace FilecoinRosetta.Toml

/-- What stands behind something that was read. -/
abbrev Rest := List Char

/-- Whether a sign may stand in a text of one line. -/
def isTextSign (sign : Char) : Bool :=
  sign == '\t' || (0x20 ≤ sign.toNat && sign.toNat != 0x7F)

/-- Put a character in front of a text that was read. -/
def prepend (sign : Char) : List Char × Rest → List Char × Rest
  | (text, rest) => (sign :: text, rest)

/-- The character of a code in hexadecimal digits, unless there is none. -/
def coded? (digits : List Char) : Option Char := do
  let code ← Internet.Ipv6.hexNumber? digits
  if code < 0xD800 ∨ (0xDFFF < code ∧ code < 0x110000) then some (Char.ofNat code) else none

/-- The character of an escape by a single letter. -/
def escaped? : Char → Option Char
  | 'b' => some '\x08'
  | 't' => some '\t'
  | 'n' => some '\n'
  | 'f' => some '\x0c'
  | 'r' => some '\r'
  | 'e' => some '\x1b'
  | '"' => some '"'
  | '\\' => some '\\'
  | _ => none

/-- Read the inside of quotes, and the quote behind it. -/
def readBasic : List Char → Option (List Char × Rest)
  | [] => none
  | '"' :: rest => some ([], rest)
  | '\\' :: 'x' :: a :: b :: rest => do
      let sign ← coded? [a, b]
      (readBasic rest).map (prepend sign)
  | '\\' :: 'u' :: a :: b :: c :: d :: rest => do
      let sign ← coded? [a, b, c, d]
      (readBasic rest).map (prepend sign)
  | '\\' :: 'U' :: a :: b :: c :: d :: e :: f :: g :: h :: rest => do
      let sign ← coded? [a, b, c, d, e, f, g, h]
      (readBasic rest).map (prepend sign)
  | '\\' :: letter :: rest => do
      let sign ← escaped? letter
      (readBasic rest).map (prepend sign)
  | sign :: rest => if isTextSign sign then (readBasic rest).map (prepend sign) else none

/-- Read the inside of apostrophes, and the apostrophe behind it. -/
def readLiteral : List Char → Option (List Char × Rest)
  | [] => none
  | '\'' :: rest => some ([], rest)
  | sign :: rest => if isTextSign sign then (readLiteral rest).map (prepend sign) else none

/-- Where reading several lines stands after a backslash at the end of a line. -/
inductive LineEnd where
  /-- Inside a text. -/
  | none
  /-- Between a backslash and the end of its line. -/
  | expected
  /-- Behind that end, where blanks do not count. -/
  | passed
  deriving DecidableEq, Repr

/-- Read the inside of three quotes, and the three behind it. Up to two more
belong to the text. -/
def readBasicLines : LineEnd → List Char → Option (List Char × Rest)
  | _, [] => Option.none
  | .expected, '\n' :: rest => readBasicLines .passed rest
  | .expected, '\r' :: '\n' :: rest => readBasicLines .passed rest
  | .expected, sign :: rest =>
      if sign = ' ' ∨ sign = '\t' then readBasicLines .expected rest else Option.none
  | state, '"' :: '"' :: '"' :: '"' :: '"' :: rest =>
      if state = .expected then Option.none else some (['"', '"'], rest)
  | state, '"' :: '"' :: '"' :: '"' :: rest =>
      if state = .expected then Option.none else some (['"'], rest)
  | state, '"' :: '"' :: '"' :: rest =>
      if state = .expected then Option.none else some ([], rest)
  | _, '\\' :: 'x' :: a :: b :: rest => do
      let sign ← coded? [a, b]
      (readBasicLines .none rest).map (prepend sign)
  | _, '\\' :: 'u' :: a :: b :: c :: d :: rest => do
      let sign ← coded? [a, b, c, d]
      (readBasicLines .none rest).map (prepend sign)
  | _, '\\' :: 'U' :: a :: b :: c :: d :: e :: f :: g :: h :: rest => do
      let sign ← coded? [a, b, c, d, e, f, g, h]
      (readBasicLines .none rest).map (prepend sign)
  | _, '\\' :: '\n' :: rest => readBasicLines .passed rest
  | _, '\\' :: ' ' :: rest => readBasicLines .expected rest
  | _, '\\' :: '\t' :: rest => readBasicLines .expected rest
  | _, '\\' :: '\r' :: '\n' :: rest => readBasicLines .passed rest
  | _, '\\' :: letter :: rest => do
      let sign ← escaped? letter
      (readBasicLines .none rest).map (prepend sign)
  | state, '\r' :: '\n' :: rest =>
      if state = .passed then readBasicLines .passed rest
      else (readBasicLines .none rest).map (prepend '\n')
  | state, sign :: rest =>
      if state = .passed ∧ (sign = '\n' ∨ sign = ' ' ∨ sign = '\t') then readBasicLines .passed rest
      else if sign = '\n' ∨ isTextSign sign then (readBasicLines .none rest).map (prepend sign)
      else Option.none

/-- Read the inside of three apostrophes, and the three behind it. Up to two more
belong to the text. -/
def readLiteralLines : List Char → Option (List Char × Rest)
  | [] => none
  | '\'' :: '\'' :: '\'' :: '\'' :: '\'' :: rest => some (['\'', '\''], rest)
  | '\'' :: '\'' :: '\'' :: '\'' :: rest => some (['\''], rest)
  | '\'' :: '\'' :: '\'' :: rest => some ([], rest)
  | '\r' :: '\n' :: rest => (readLiteralLines rest).map (prepend '\n')
  | sign :: rest =>
      if sign = '\n' ∨ isTextSign sign then (readLiteralLines rest).map (prepend sign) else none

/-- A text without the end of a line in front. -/
def dropLineEnd : List Char → List Char
  | '\n' :: rest => rest
  | '\r' :: '\n' :: rest => rest
  | text => text

/-- Read a string of one line. -/
def readLine? : List Char → Option (List Char × Rest)
  | '"' :: rest => readBasic rest
  | '\'' :: rest => readLiteral rest
  | _ => none

/-- Read a string of any form. -/
def readText? : List Char → Option (List Char × Rest)
  | '"' :: '"' :: '"' :: rest => readBasicLines .none (dropLineEnd rest)
  | '\'' :: '\'' :: '\'' :: rest => readLiteralLines (dropLineEnd rest)
  | text => readLine? text

/-! ## Writing -/

/-- The length of the longest run of a sign; `current` is the length of
the run so far. -/
def longestRun (sign : Char) (current : Nat) : List Char → Nat
  | [] => current
  | other :: rest =>
      if other = sign then longestRun sign (current + 1) rest
      else max current (longestRun sign 0 rest)

/-- Whether a sign can only be shown by an escape. -/
def needsEscape (sign : Char) : Bool :=
  sign != '\t' && sign != '\n' && !isTextSign sign

/-- The forms of a string. -/
inductive TextForm where
  /-- Between quotes. -/
  | basic
  /-- Between apostrophes. -/
  | literal
  /-- Between three quotes. -/
  | basicLines
  /-- Between three apostrophes. -/
  | literalLines
  deriving DecidableEq, Repr

/-- The form in which a text is written. -/
def formOf (text : List Char) : TextForm :=
  let quotes := longestRun '"' 0 text
  let apostrophes := longestRun '\'' 0 text
  let escapes := text.any needsEscape
  let backslash := text.contains '\\'
  let lines := text.contains '\n'
  if !escapes && !backslash && quotes == 0 && !lines then .basic
  else if !escapes && apostrophes == 0 && !lines then .literal
  else if !escapes && !backslash && quotes ≤ 2 then .basicLines
  else if !escapes && apostrophes ≤ 2 then .literalLines
  else if lines then .basicLines
  else .basic

/-- The four upper-case digits of a control character. -/
def codeDigits (sign : Char) : List Char :=
  let code := sign.toNat
  [code / 4096 % 16, code / 256 % 16, code / 16 % 16, code % 16].map fun digit =>
    "0123456789ABCDEF".toList.getD digit '0'

/-- A sign as it is written between quotes. -/
def escapeText (lines : Bool) (sign : Char) : List Char :=
  match sign with
  | '\x08' => ['\\', 'b']
  | '\t' => ['\\', 't']
  | '\n' => if lines then ['\n'] else ['\\', 'n']
  | '\x0c' => ['\\', 'f']
  | '\r' => ['\\', 'r']
  | '\\' => ['\\', '\\']
  | sign => if needsEscape sign then '\\' :: 'u' :: codeDigits sign else [sign]

/-- A text as it is written between quotes. A quote is escaped that would make too
many in a row. -/
def escapeBasic (lines : Bool) (run : Nat) : List Char → List Char
  | [] => []
  | '"' :: rest =>
      if (if lines then 2 else 0) ≤ run then '\\' :: '"' :: escapeBasic lines 0 rest
      else '"' :: escapeBasic lines (run + 1) rest
  | sign :: rest => escapeText lines sign ++ escapeBasic lines 0 rest

/-- A string as it is written. A text of several lines begins on a
line of its own. -/
def writeText (text : String) : String :=
  let signs := text.toList
  let start := if signs.contains '\n' then ['\n'] else []
  String.ofList <| match formOf signs with
    | .basic => '"' :: escapeBasic false 0 signs ++ ['"']
    | .literal => '\'' :: signs ++ ['\'']
    | .basicLines => ['"', '"', '"'] ++ start ++ escapeBasic true 0 signs ++ ['"', '"', '"']
    | .literalLines => ['\'', '\'', '\''] ++ start ++ signs ++ ['\'', '\'', '\'']

end FilecoinRosetta.Toml
