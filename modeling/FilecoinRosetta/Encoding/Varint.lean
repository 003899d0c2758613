import FilecoinRosetta.Bytes

/-!
# Unsigned numbers in groups of seven bits

Identifiers and codes are written with seven bits per byte, least significant
group first; the high bit of a byte says that another follows. Only the shortest
form is read back. A number takes at most ten bytes, and what the tenth carries
beyond 64 bits is lost.
-/

namespace FilecoinRosetta.Encoding.Varint

/-- Write a number in the fewest bytes. -/
def encode (number : Nat) : Bytes :=
  if number < 128 then [UInt8.ofNat number]
  else UInt8.ofNat (number % 128 + 128) :: encode (number / 128)
termination_by number
decreasing_by omega

/-- Why bytes do not start with a number. -/
inductive Fault where
  /-- The bytes end although another must follow. -/
  | truncated
  /-- Ten bytes went by and none of them was the last. -/
  | tooLong
  /-- The last byte of several carries nothing. -/
  | notShortest
  deriving DecidableEq, Repr

/-- Read a number of at most `limit` bytes; `leading` tells its first byte
from the later ones. -/
def decodeWithin : (limit : Nat) → (leading : Bool) → Bytes → Except Fault (Nat × Bytes)
  | 0, _, _ => .error .tooLong
  | _ + 1, _, [] => .error .truncated
  | limit + 1, leading, byte :: rest =>
      if byte.toNat < 128 then
        if byte = 0 ∧ leading = false then .error .notShortest else .ok (byte.toNat, rest)
      else do
        let (higher, later) ← decodeWithin limit false rest
        .ok (byte.toNat % 128 + 128 * higher, later)

/-- Read a 64-bit number and what follows it. -/
def decode (bytes : Bytes) : Except Fault (UInt64 × Bytes) := do
  let (number, rest) ← decodeWithin 10 true bytes
  .ok (UInt64.ofNat number, rest)

end FilecoinRosetta.Encoding.Varint
