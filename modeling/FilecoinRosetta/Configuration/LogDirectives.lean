import FilecoinRosetta.Configuration.Basic
import FilecoinRosetta.Text.Blank
import FilecoinRosetta.Text.Integer
import FilecoinRosetta.Text.Segments

/-!
# Directives for logs

What is logged is said by directives separated by commas. A directive names a
part of the program or a span in brackets, each perhaps with a level, or is a
level alone. Names of parts come from the settings, so they may spoil the
directives; whether they do is decided here. The inside of braces, which tells
the values of a span, may hold anything.
-/

namespace FilecoinRosetta.Configuration

/-- The directives of settings: what happens is logged, and the filters
say what else applies. -/
def LogSettings.directives (settings : LogSettings) : String :=
  ",".intercalate (LogLevel.info.name ::
    settings.filters.map fun filter => filter.module ++ "=" ++ filter.level.name)

namespace LogDirective

/-- Whether a sign may begin a name. Everything beyond ASCII counts as a letter. -/
def beginsName (sign : Char) : Bool :=
  sign.isAlphanum || sign == '-' || sign == ':' || sign == '_' || 0x80 ≤ sign.toNat

/-- Whether a text is a level: a name in either case, a number up
to five, or nothing. -/
def isLevel (text : List Char) : Bool :=
  let word := String.ofList (text.map Char.toLower)
  text.isEmpty || (LogLevel.ofName? word).isSome ||
    ((Text.Integer.uint64? word).map fun number => decide (number ≤ 5)).getD false

/-- Whether a text may stand behind a span: nothing, or a level
behind an equals sign. -/
def isSpanLevel : List Char → Bool
  | [] => true
  | '=' :: level => isLevel level
  | _ => false

/-- Whether a text is the values of a span, behind the opening
brace, and what follows. -/
def isValues (text : List Char) : Bool :=
  match text.dropWhile (· != '\x7d') with
  | '\x7d' :: ']' :: rest => !(text.takeWhile (· != '\x7d')).isEmpty && isSpanLevel rest
  | _ => false

/-- Whether a text is a span, behind the opening bracket, and what follows. -/
def isSpan (text : List Char) : Bool :=
  match text.dropWhile fun sign => sign != ']' && sign != '\x7b' with
  | ']' :: rest => isSpanLevel rest
  | _ :: rest => isValues rest
  | [] => false

/-- Whether a text is the rest of a directive that begins with a name. -/
def isNamed (text : List Char) : Bool :=
  match text.dropWhile fun sign => sign != '=' && sign != '[' with
  | '=' :: level => isLevel level
  | '[' :: span => isSpan span
  | _ => true

/-- Whether a text without blanks at its ends is a directive. -/
def isTrimmed : List Char → Bool
  | [] => false
  | '[' :: span => isSpan span
  | first :: rest => beginsName first && isNamed (first :: rest)

/-- Whether a text is a directive. Blanks in front are tolerated only
where no level follows. -/
def isValid (text : List Char) : Bool :=
  let trimmed := Text.trimWhere Text.isBlank text
  let begun := (text.head?.map Text.isBlank).getD false
  isTrimmed trimmed && !(begun && trimmed.contains '=')

end LogDirective

/-- Whether the directives of settings can be followed. -/
def LogSettings.isUsable (settings : LogSettings) : Bool :=
  ((Text.segments ',' settings.directives.toList).filter fun text => !text.isEmpty).all
    LogDirective.isValid

end FilecoinRosetta.Configuration
