import FilecoinRosetta.Toml.Basic
import FilecoinRosetta.Text.Segments
import FilecoinRosetta.Internet.Ipv6

/-!
# Numbers, truth values and times in TOML

Everything that is neither quoted nor bracketed is one run of signs, which is a
truth value, a whole number, a number with a fraction, or a date or time.
-/

namespace FilecoinRosetta.Toml

/-- Whether a sign is a decimal digit. -/
def isDigit (sign : Char) : Bool :=
  '0' ≤ sign && sign ≤ '9'

/-- The digits of a number, with single underscores between them. -/
def groupedDigits? (isMember : Char → Bool) (text : List Char) : Option (List Char) :=
  let groups := Text.segments '_' text
  if groups.all fun group => !group.isEmpty && group.all isMember then some groups.flatten else none

/-- A decimal number without sign. It has no leading zeros. -/
def decimal? (text : List Char) : Option Nat := do
  let digits ← groupedDigits? isDigit text
  if 1 < digits.length ∧ digits.head? = some '0' then none
  else some (digits.foldl (fun number sign => number * 10 + (sign.toNat - '0'.toNat)) 0)

/-- A number in another base, without sign and prefix. -/
def based? (base : Nat) (text : List Char) : Option Nat := do
  let isMember (sign : Char) : Bool :=
    ((Internet.Ipv6.hexDigit? sign).map fun digit => decide (digit < base)).getD false
  let digits ← groupedDigits? isMember text
  some (digits.foldl (fun number sign =>
    number * base + (Internet.Ipv6.hexDigit? sign).getD 0) 0)

/-- A whole number. -/
def whole? (text : List Char) : Option Int :=
  match text with
  | '0' :: 'x' :: rest => (based? 16 rest).map Int.ofNat
  | '0' :: 'o' :: rest => (based? 8 rest).map Int.ofNat
  | '0' :: 'b' :: rest => (based? 2 rest).map Int.ofNat
  | '-' :: rest => (decimal? rest).map fun size => -(size : Int)
  | '+' :: rest => (decimal? rest).map Int.ofNat
  | rest => (decimal? rest).map Int.ofNat

/-- A text without a sign of plus or minus in front. -/
def dropSign : List Char → List Char
  | '+' :: rest => rest
  | '-' :: rest => rest
  | text => text

/-- Whether a text is an exponent, without the letter in front. -/
def isExponent (text : List Char) : Bool :=
  (groupedDigits? isDigit (dropSign text)).isSome

/-- Whether a text is a number with a fraction or an exponent, or is not finite. -/
def isReal (text : List Char) : Bool :=
  let size := dropSign text
  if size == "inf".toList || size == "nan".toList then true
  else
    let isMark (sign : Char) : Bool := sign == 'e' || sign == 'E'
    let front := size.takeWhile fun sign => !isMark sign
    let exponent := size.dropWhile fun sign => !isMark sign
    let whole := front.takeWhile (· != '.')
    let fraction := front.dropWhile (· != '.')
    let exponentFits := match exponent with
      | [] => true
      | _ :: digits => isExponent digits
    let fractionFits := match fraction with
      | [] => true
      | _ :: digits => (groupedDigits? isDigit digits).isSome
    (decimal? whole).isSome && fractionFits && exponentFits &&
      (!fraction.isEmpty || !exponent.isEmpty)

/-! ## Dates and times -/

/-- A number of exactly so many digits. -/
def fixed? (width : Nat) (digits : List Char) : Option Nat :=
  if digits.length = width ∧ digits.all isDigit then
    some (digits.foldl (fun number sign => number * 10 + (sign.toNat - '0'.toNat)) 0)
  else none

/-- The number of days in a month. -/
def daysIn (year month : Nat) : Nat :=
  if month = 2 then
    if year % 4 = 0 ∧ (year % 100 ≠ 0 ∨ year % 400 = 0) then 29 else 28
  else if [4, 6, 9, 11].contains month then 30
  else 31

/-- Whether a text is a day of the calendar. -/
def isDate (text : List Char) : Bool :=
  match Text.segments '-' text with
  | [year, month, day] =>
      match fixed? 4 year, fixed? 2 month, fixed? 2 day with
      | some year, some month, some day =>
          1 ≤ month && month ≤ 12 && 1 ≤ day && day ≤ daysIn year month
      | _, _, _ => false
  | _ => false

/-- Whether digits are a number of some width up to a limit. -/
def isBelow (width limit : Nat) (digits : List Char) : Bool :=
  ((fixed? width digits).map fun number => decide (number ≤ limit)).getD false

/-- Whether a text is a number of seconds, perhaps with a fraction. -/
def isSeconds (text : List Char) : Bool :=
  match Text.segments '.' text with
  | [whole] => isBelow 2 60 whole
  | [whole, fraction] => isBelow 2 60 whole && !fraction.isEmpty && fraction.all isDigit
  | _ => false

/-- Whether a text is a time of day. Seconds may be left out. -/
def isTime (text : List Char) : Bool :=
  match Text.segments ':' text with
  | [hour, minute] => isBelow 2 23 hour && isBelow 2 59 minute
  | [hour, minute, seconds] => isBelow 2 23 hour && isBelow 2 59 minute && isSeconds seconds
  | _ => false

/-- Whether a text is a difference from universal time. -/
def isOffset (text : List Char) : Bool :=
  match Text.segments ':' text with
  | [hour, minute] => isBelow 2 23 hour && isBelow 2 59 minute
  | _ => false

/-- Whether a text is a time of day with or without a
difference from universal time. -/
def isZonedTime (text : List Char) : Bool :=
  match text.getLast? with
  | some 'Z' => isTime text.dropLast
  | some 'z' => isTime text.dropLast
  | _ =>
      let isMark (sign : Char) : Bool := sign == '+' || sign == '-'
      let time := text.takeWhile fun sign => !isMark sign
      match text.dropWhile fun sign => !isMark sign with
      | [] => isTime time
      | _ :: offset => isTime time && isOffset offset

/-- Whether a text is a date, a time of day, or both. -/
def isMoment (text : List Char) : Bool :=
  let date := text.take 10
  match text.drop 10 with
  | [] => isDate date || isTime text
  | mark :: time =>
      if isDate date then (mark == 'T' || mark == 't' || mark == ' ') && isZonedTime time
      else isTime text

/-- Whether a sign belongs to a run that is neither quoted nor bracketed. -/
def isScalarSign (sign : Char) : Bool :=
  sign.isAlphanum || sign == '_' || sign == '+' || sign == '-' || sign == '.' || sign == ':'

/-- The run at the beginning of a text. A date may be followed by a
blank and a time. -/
def scalarRun (text : List Char) : List Char × List Char :=
  let run := text.takeWhile isScalarSign
  match text.dropWhile isScalarSign with
  | ' ' :: digit :: rest =>
      if isDate run && isDigit digit then
        (run ++ ' ' :: (digit :: rest).takeWhile isScalarSign,
          (digit :: rest).dropWhile isScalarSign)
      else (run, ' ' :: digit :: rest)
  | rest => (run, rest)

/-- The value of a run. -/
def scalar? (run : List Char) : Option Toml :=
  if run == "true".toList then some (.bool true)
  else if run == "false".toList then some (.bool false)
  else match whole? run with
    | some number => some (.int number)
    | none =>
        if isReal run then some (.real (String.ofList run))
        else if isMoment run then some (.moment (String.ofList run))
        else none

end FilecoinRosetta.Toml
