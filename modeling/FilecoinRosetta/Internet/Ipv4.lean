import FilecoinRosetta.Text.Integer
import FilecoinRosetta.Text.Segments

/-!
# IPv4 addresses

Four numbers below 256, separated by points, each without leading zeros.
-/

namespace FilecoinRosetta.Internet

/-- An IPv4 address. -/
structure Ipv4 where
  /-- Its 32 bits. -/
  bits : UInt32
  deriving DecidableEq, Repr

namespace Ipv4

/-- The four numbers of an address. -/
def parts (address : Ipv4) : List Nat :=
  let bits := address.bits.toNat
  [bits / 0x1000000 % 256, bits / 0x10000 % 256, bits / 0x100 % 256, bits % 256]

/-- The address of some numbers, the first one the most significant. -/
def ofParts (parts : List Nat) : Ipv4 :=
  ⟨UInt32.ofNat (parts.foldl (fun bits part => bits * 256 + part) 0)⟩

/-- The address that stands for all interfaces. -/
def unspecified : Ipv4 := ⟨0⟩

/-- The text of an address. -/
def text (address : Ipv4) : String :=
  ".".intercalate (address.parts.map toString)

/-- One of the four numbers. -/
def part? (digits : List Char) : Option Nat := do
  let number ← Text.Integer.natural? digits
  if number < 256 ∧ (digits.length = 1 ∨ digits.head? ≠ some '0') then some number else none

/-- Read the text of an address. -/
def parse? (text : List Char) : Option Ipv4 := do
  let parts ← (Text.segments '.' text).mapM part?
  if parts.length = 4 then some (ofParts parts) else none

end Ipv4

end FilecoinRosetta.Internet
