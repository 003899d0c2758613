/-!
# Durations

Limits and delays are whole numbers of milliseconds. Their text has the
largest unit that leaves a whole part: seconds with as many decimals as
they need, else milliseconds.
-/

namespace FilecoinRosetta

/-- A span of time. -/
structure Duration where
  millis : Nat
  deriving DecidableEq, Repr

namespace Duration

/-- A number of whole seconds. -/
def seconds (count : Nat) : Duration := ⟨1000 * count⟩

/-- The decimals of a part of a second, without zeros at their end. -/
def decimals (part : Nat) : List Char :=
  let digits := (toString part).toList
  let places := List.replicate (3 - digits.length) '0' ++ digits
  (places.reverse.dropWhile (· == '0')).reverse

/-- The display form. No time at all is a number of the smallest unit. -/
def text (span : Duration) : String :=
  if span.millis = 0 then "0ns"
  else if span.millis < 1000 then toString span.millis ++ "ms"
  else
    let whole := toString (span.millis / 1000)
    match decimals (span.millis % 1000) with
    | [] => whole ++ "s"
    | first :: rest => whole ++ "." ++ String.ofList (first :: rest) ++ "s"

end Duration

end FilecoinRosetta
