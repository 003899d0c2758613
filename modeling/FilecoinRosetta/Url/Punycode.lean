/-!
# Labels beyond ASCII in ASCII

A label of a domain name is written in ASCII as the ASCII characters it has and,
behind a hyphen, the positions of the others: differences in mixed base 36 whose
weights adapt to the differences before.
-/

namespace FilecoinRosetta.Url.Punycode

/-- The sign of a digit below 36. -/
def digitSign (digit : Nat) : Char :=
  "abcdefghijklmnopqrstuvwxyz0123456789".toList.getD digit 'a'

/-- The weight at which a number ends in a place. -/
def threshold (place bias : Nat) : Nat :=
  if place ≤ bias then 1 else if bias + 26 ≤ place then 26 else place - bias

/-- Thresholds lie between 1 and 26, so what is left of a number gets
smaller with each digit. -/
theorem threshold_bounds (place bias : Nat) :
    1 ≤ threshold place bias ∧ threshold place bias ≤ 26 := by
  unfold threshold
  split
  · omega
  · split <;> omega

/-- Bring a difference below the limit, counting the places that takes. -/
def scaled (delta places : Nat) : Nat × Nat :=
  if 455 < delta then scaled (delta / 35) (places + 36) else (delta, places)
termination_by delta
decreasing_by omega

/-- The bias after a difference was written. -/
def adapt (delta count : Nat) (first : Bool) : Nat :=
  let halved := if first then delta / 700 else delta / 2
  let (rest, places) := scaled (halved + halved / count) 0
  places + 36 * rest / (rest + 38)

/-- A difference as digits, the lowest place first. -/
def digits (bias place delta : Nat) : List Char :=
  if delta < threshold place bias then [digitSign delta]
  else
    let weight := threshold place bias
    digitSign (weight + (delta - weight) % (36 - weight)) ::
      digits bias (place + 36) ((delta - weight) / (36 - weight))
termination_by delta
decreasing_by
  have bounds := threshold_bounds place bias
  have smaller := Nat.div_le_self (delta - threshold place bias) (36 - threshold place bias)
  omega

/-- How far a label is written. -/
structure Progress where
  /-- The digits so far. -/
  output : List Char
  /-- The positions passed since the last character that was written. -/
  delta : Nat
  bias : Nat
  /-- How many characters are written. -/
  count : Nat

/-- Pass one character of the label when the characters of one code are written. -/
def pass (basic code : Nat) (progress : Progress) (sign : Char) : Progress :=
  if sign.toNat < code then { progress with delta := progress.delta + 1 }
  else if sign.toNat = code then
    { output := progress.output ++ digits progress.bias 36 progress.delta
      delta := 0
      bias := adapt progress.delta (progress.count + 1) (progress.count == basic)
      count := progress.count + 1 }
  else progress

/-- Write the characters of some codes in rising order; `next` is the lowest
code not yet passed. -/
def writeCodes (label : List Char) (basic : Nat) :
    (codes : List Nat) → (next : Nat) → Progress → Progress
  | [], _, progress => progress
  | code :: rest, next, progress =>
      let skipped :=
        { progress with delta := progress.delta + (code - next) * (progress.count + 1) }
      let passed := label.foldl (pass basic code) skipped
      writeCodes label basic rest (code + 1) { passed with delta := passed.delta + 1 }

/-- Put a code into a rising list, once. -/
def insertCode (code : Nat) : List Nat → List Nat
  | [] => [code]
  | other :: rest =>
      if code < other then code :: other :: rest
      else if code = other then other :: rest
      else other :: insertCode code rest

/-- A label in ASCII, without the mark in front of it. -/
def encode (label : List Char) : List Char :=
  let ascii := label.filter fun sign => decide (sign.toNat < 0x80)
  let codes := (label.filterMap fun sign =>
    if sign.toNat < 0x80 then none else some sign.toNat).foldl
      (fun found code => insertCode code found) []
  let start := if ascii.isEmpty then [] else ascii ++ ['-']
  (writeCodes label ascii.length codes 0x80 ⟨start, 0, 72, ascii.length⟩).output

end FilecoinRosetta.Url.Punycode
