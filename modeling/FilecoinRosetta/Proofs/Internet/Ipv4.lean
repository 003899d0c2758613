import FilecoinRosetta.Internet.Ipv4
import FilecoinRosetta.Proofs.Text.Decimal
import FilecoinRosetta.Proofs.Text.Segments

/-!
# IPv4 addresses read back

The four numbers of an address say all of its bits, and each is written the
one way it is read.
-/

namespace FilecoinRosetta.Internet.Ipv4

open Text Text.Integer

/-- The four numbers are small: each of them is a byte of the address. -/
theorem parts_bounded (address : Ipv4) : ∀ part ∈ address.parts, part < 256 := by
  intro part member
  simp only [parts, List.mem_cons, List.not_mem_nil, or_false] at member
  omega

/-- The four numbers make up the address, so its text says all of it. -/
theorem ofParts_parts (address : Ipv4) : ofParts address.parts = address := by
  have bounded : address.bits.toNat < 4294967296 := address.bits.toNat_lt
  have whole : address.parts.foldl (fun bits part => bits * 256 + part) 0 = address.bits.toNat := by
    simp only [parts, List.foldl_cons, List.foldl_nil]
    omega
  rw [ofParts, whole, UInt32.ofNat_toNat]

/-- A number is written without leading zeros, so it is read back as one part. -/
theorem part_digits (number : Nat) (bounded : number < 256) :
    part? (Nat.toDigits 10 number) = some number := by
  have canonical : (Nat.toDigits 10 number).length = 1 ∨
      (Nat.toDigits 10 number).head? ≠ some '0' := by
    rcases Nat.eq_zero_or_pos number with rfl | positive
    · exact .inl rfl
    · obtain ⟨first, rest, written, leading⟩ := decimal_leading number positive
      rw [written]
      exact .inr fun same => leading (Option.some.inj same)
  simp only [part?, natural_digits, Option.bind_eq_bind, Option.bind_some,
    if_pos (And.intro bounded canonical)]

/-- The signs of an address are the digits of its four numbers
with points between them. -/
theorem toList_text (address : Ipv4) :
    address.text.toList = ['.'].intercalate (address.parts.map (Nat.toDigits 10)) := by
  rw [text, String.toList_intercalate, List.map_map]
  congr 2
  funext number
  exact Nat.toList_repr

/-- The signs of an address are digits and points, so it is never taken for one
of the longer kind. -/
theorem text_signs (address : Ipv4) : ∀ sign ∈ address.text.toList, sign.isDigit ∨ sign = '.' := by
  intro sign member
  have digit (number : Nat) (isSign : sign ∈ Nat.toDigits 10 number) : sign.isDigit ∨ sign = '.' :=
    .inl (decimal_digits number sign isSign)
  rw [toList_text, parts] at member
  simp only [List.map_cons, List.map_nil, List.intercalate_cons_cons, List.intercalate_singleton,
    List.mem_append, List.mem_singleton] at member
  rcases member with ((isDigit | isPoint) | ((isDigit | isPoint) | ((isDigit | isPoint) | isDigit)))
  all_goals first | exact digit _ isDigit | exact .inr isPoint

/-- There are points among the signs of an address, which tells it from
a group of digits. -/
theorem text_point (address : Ipv4) : '.' ∈ address.text.toList := by
  rw [toList_text, parts]
  simp [List.intercalate_cons_cons]

/-- The text of an address is read as the address: it has four parts, none of them
with a leading zero. -/
theorem parse_text (address : Ipv4) : parse? address.text.toList = some address := by
  have free : ∀ part ∈ address.parts.map (Nat.toDigits 10), '.' ∉ part := by
    intro part member isSign
    obtain ⟨number, -, rfl⟩ := List.mem_map.mp member
    exact absurd (decimal_digits number '.' isSign) (by decide)
  have cut := segments_joined (by simp [parts]) free
  have read := mapM_written fun part member => part_digits part (address.parts_bounded part member)
  rw [parse?, toList_text, cut, read]
  simp only [Option.bind_eq_bind, Option.bind_some, ofParts_parts]
  rfl

end FilecoinRosetta.Internet.Ipv4
