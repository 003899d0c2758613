import FilecoinRosetta.Bytes
import FilecoinRosetta.Json.Basic

/-!
# The words of a JSON text

One pass over the characters of a text yields its tokens. The state says whether the
scan stands between tokens, in a bare word or in a string, so that every character
is looked at exactly once. What comes over a wire is bytes. They are looked at in
the same way, character by character as far as they are UTF-8.
-/

namespace FilecoinRosetta.Json

/-- A token. -/
inductive Token where
  /-- A left bracket. -/
  | openList
  /-- A right bracket. -/
  | closeList
  /-- A left brace. -/
  | openMembers
  /-- A right brace. -/
  | closeMembers
  | comma
  | colon
  /-- A bare word: null, a truth value or a number. -/
  | word (value : Json)
  /-- A string; nothing if it holds half of a character, or a byte
  that belongs to none. -/
  | text (value : Option String)

/-- What a bare word stands for. -/
def wordValue? (word : List Char) : Option Json :=
  if word = "null".toList then some .null
  else if word = "true".toList then some (.bool true)
  else if word = "false".toList then some (.bool false)
  else (Decimal.Numeral.parse? word).map fun numeral =>
    match numeral.integer? with
    | some number => .int number
    | none => .real numeral

/-- What has been read of a string: its characters, last first, and possibly the
    first half of a character that takes two escapes. -/
structure Draft where
  /-- The characters so far, last first; nothing once half of a
  character stood alone. -/
  signs : Option (List Char)
  /-- The first half of a character, waiting for the second. -/
  half : Option Nat

namespace Draft

/-- A string of which nothing has been read. -/
def empty : Draft := ⟨some [], none⟩

/-- A string that holds something else than characters. -/
def unreadable : Draft := ⟨none, none⟩

/-- Add a whole character. A half before it stands alone. -/
def push (draft : Draft) (sign : Char) : Draft :=
  match draft.half with
  | some _ => ⟨none, none⟩
  | none => ⟨draft.signs.map (sign :: ·), none⟩

/-- Add a unit of sixteen bits: a character, or half of one. -/
def pushUnit (draft : Draft) (unit : Nat) : Draft :=
  match draft.half with
  | some high =>
      if 0xDC00 ≤ unit ∧ unit < 0xE000 then
        let sign := Char.ofNat (0x10000 + (high - 0xD800) * 0x400 + (unit - 0xDC00))
        ⟨draft.signs.map (sign :: ·), none⟩
      else ⟨none, none⟩
  | none =>
      if 0xD800 ≤ unit ∧ unit < 0xDC00 then ⟨draft.signs, some unit⟩
      else if 0xDC00 ≤ unit ∧ unit < 0xE000 then ⟨none, none⟩
      else ⟨draft.signs.map (Char.ofNat unit :: ·), none⟩

/-- The string, unless half of a character stands alone in it. -/
def finish (draft : Draft) : Option String :=
  match draft.half with
  | some _ => none
  | none => draft.signs.map fun signs => String.ofList signs.reverse

end Draft

/-- Where the scan stands. -/
inductive Scan where
  /-- Between tokens. -/
  | between
  /-- In a bare word, whose characters are kept last first. -/
  | inWord (signs : List Char)
  /-- In a string. -/
  | inText (draft : Draft)
  /-- Behind a backslash. -/
  | inEscape (draft : Draft)
  /-- In the four digits of an escaped unit, with those still to come and
  the number so far. -/
  | inUnit (draft : Draft) (remaining : Nat) (unit : Nat)

/-- Whether a character can belong to a bare word. -/
def isWordSign (sign : Char) : Bool :=
  sign.isAlphanum || sign == '-' || sign == '+' || sign == '.'

/-- The blanks between tokens. -/
def isBlank (sign : Char) : Bool :=
  sign == ' ' || sign == '\n' || sign == '\t' || sign == '\r'

/-- The tokens so far, last first, and where the scan stands. -/
structure Scanner where
  /-- Where the scan stands. -/
  mode : Scan
  /-- The tokens so far, last first. -/
  tokens : List Token

namespace Scanner

/-- Look at a character between tokens. -/
def start? (tokens : List Token) (sign : Char) : Option Scanner :=
  if isBlank sign then some ⟨.between, tokens⟩
  else if isWordSign sign then some ⟨.inWord [sign], tokens⟩
  else match sign with
    | '[' => some ⟨.between, .openList :: tokens⟩
    | ']' => some ⟨.between, .closeList :: tokens⟩
    | '{' => some ⟨.between, .openMembers :: tokens⟩
    | '}' => some ⟨.between, .closeMembers :: tokens⟩
    | ',' => some ⟨.between, .comma :: tokens⟩
    | ':' => some ⟨.between, .colon :: tokens⟩
    | '"' => some ⟨.inText .empty, tokens⟩
    | _ => none

/-- Finish a bare word. -/
def endWord? (signs : List Char) (tokens : List Token) : Option (List Token) :=
  (wordValue? signs.reverse).map fun value => .word value :: tokens

/-- The value of a hexadecimal digit. -/
def hexDigit? (sign : Char) : Option Nat :=
  if '0' ≤ sign ∧ sign ≤ '9' then some (sign.toNat - '0'.toNat)
  else if 'a' ≤ sign ∧ sign ≤ 'f' then some (sign.toNat - 'a'.toNat + 10)
  else if 'A' ≤ sign ∧ sign ≤ 'F' then some (sign.toNat - 'A'.toNat + 10)
  else none

/-- The character behind a backslash stands for this one. -/
def escaped? : Char → Option Char
  | '"' => some '"'
  | '\\' => some '\\'
  | '/' => some '/'
  | 'b' => some '\x08'
  | 'f' => some '\x0c'
  | 'n' => some '\n'
  | 'r' => some '\r'
  | 't' => some '\t'
  | _ => none

/-- Look at one character. -/
def step? (scanner : Scanner) (sign : Char) : Option Scanner :=
  match scanner.mode with
  | .between => start? scanner.tokens sign
  | .inWord signs =>
      if isWordSign sign then some ⟨.inWord (sign :: signs), scanner.tokens⟩
      else (endWord? signs scanner.tokens).bind fun tokens => start? tokens sign
  | .inText draft =>
      if sign = '"' then some ⟨.between, .text draft.finish :: scanner.tokens⟩
      else if sign = '\\' then some ⟨.inEscape draft, scanner.tokens⟩
      else if sign.toNat < 0x20 then none
      else some ⟨.inText (draft.push sign), scanner.tokens⟩
  | .inEscape draft =>
      if sign = 'u' then some ⟨.inUnit draft 4 0, scanner.tokens⟩
      else (escaped? sign).map fun meant => ⟨.inText (draft.push meant), scanner.tokens⟩
  | .inUnit draft remaining unit =>
      (hexDigit? sign).map fun digit =>
        let number := unit * 16 + digit
        if remaining ≤ 1 then ⟨.inText (draft.pushUnit number), scanner.tokens⟩
        else ⟨.inUnit draft (remaining - 1) number, scanner.tokens⟩

/-- Look at what is spelled next: a character, or a byte that belongs to none. Such
    a byte may stand in a string, which cannot be read then, and nowhere else. -/
def stepSpelled? (scanner : Scanner) : Option Char → Option Scanner
  | some sign => scanner.step? sign
  | none =>
      match scanner.mode with
      | .inText _ => some ⟨.inText .unreadable, scanner.tokens⟩
      | _ => none

/-- The tokens of a finished text, in order. -/
def finish? (scanner : Scanner) : Option (List Token) :=
  match scanner.mode with
  | .between => some scanner.tokens.reverse
  | .inWord signs => (endWord? signs scanner.tokens).map List.reverse
  | _ => none

end Scanner

/-- The tokens of a text, unless it is malformed. -/
def tokens? (text : List Char) : Option (List Token) :=
  (text.foldlM Scanner.step? ⟨.between, []⟩).bind Scanner.finish?

/-- The tokens of what should be a text in UTF-8, unless it is malformed. -/
def byteTokens? (bytes : Bytes) : Option (List Token) :=
  ((spelled bytes).foldlM Scanner.stepSpelled? ⟨.between, []⟩).bind Scanner.finish?

/-- A text has the tokens of its UTF-8 form. What is read from a wire is thus read
as if it had come as a text. -/
theorem byteTokens_utf8 (text : String) : byteTokens? (utf8 text) = tokens? text.toList := by
  rw [byteTokens?, spelled_iff.mpr rfl, List.foldlM_map]
  rfl

end FilecoinRosetta.Json
