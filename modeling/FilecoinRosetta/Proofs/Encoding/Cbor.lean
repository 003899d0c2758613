import FilecoinRosetta.Encoding.Cbor
import FilecoinRosetta.Proofs.Encoding.Delimited
import Mathlib.Data.Nat.Digits.Lemmas

/-!
# What is written in CBOR can be told apart

The head of an item says how long the head is and how much follows it, so that
numbers and byte strings show where they end. A byte string of less than `2 ^ 64`
bytes is read back in front of anything; a longer one could not announce its size.
An integer is told by its sign and its magnitude, and has a form exactly if the
magnitude takes at most 127 bytes.
-/

namespace FilecoinRosetta.Encoding.Cbor

/-! ## Numbers in bytes -/

/-- The number that bytes stand for is the one of the library. -/
theorem natural_ofDigits (bytes : Bytes) :
    natural bytes = Nat.ofDigits 256 (bytes.map UInt8.toNat).reverse := by
  rw [natural, Nat.ofDigits_eq_foldr, List.foldr_reverse, List.foldl_map]
  congr 1
  funext higher byte
  simp [Nat.mul_comm, Nat.add_comm]

/-- The first byte is the most significant one: it counts for as many places as
there are bytes behind it. -/
theorem natural_cons (byte : UInt8) (rest : Bytes) :
    natural (byte :: rest) = natural rest + 256 ^ rest.length * byte.toNat := by
  rw [natural_ofDigits, natural_ofDigits, List.map_cons, List.reverse_cons, Nat.ofDigits_append]
  simp

/-- A number in a given number of places is read back, without what the
places do not hold. -/
theorem natural_bigEndian (places number : Nat) :
    natural (bigEndian places number) = number % 256 ^ places := by
  induction places with
  | zero => simp [bigEndian, natural, Nat.mod_one]
  | succ places ih =>
    have byte : (UInt8.ofNat (number / 256 ^ places)).toNat = number / 256 ^ places % 256 :=
      UInt8.toNat_ofNat'
    rw [bigEndian, natural_cons, big_endian_length, ih, Nat.mod_pow_succ]
    exact congrArg (number % 256 ^ places + 256 ^ places * ·) byte

/-- The bytes of a number are its digits, the most significant one first. -/
theorem magnitudeOnto_digits (number : Nat) (lower : Bytes) :
    magnitudeOnto number lower = ((Nat.digits 256 number).map UInt8.ofNat).reverse ++ lower := by
  induction number using Nat.strongRecOn generalizing lower with
  | ind number ih =>
    by_cases zero : number = 0
    · subst zero
      rw [magnitudeOnto, if_pos rfl, Nat.digits_zero]
      rfl
    · have positive : 0 < number := Nat.pos_of_ne_zero zero
      rw [magnitudeOnto, if_neg zero, ih _ (Nat.div_lt_self positive (by decide)),
        Nat.digits_def' (by decide) positive]
      simp

/-- A number is read back from the bytes of its magnitude, the
most significant byte first. -/
theorem natural_magnitude (number : Nat) : natural (magnitudeOnto number []) = number := by
  have bytes : ((Nat.digits 256 number).map UInt8.ofNat).map UInt8.toNat =
      Nat.digits 256 number := by
    rw [List.map_map]
    refine (List.map_congr_left fun digit member => ?_).trans (List.map_id _)
    exact UInt8.toNat_ofNat_of_lt' (Nat.digits_lt_base (by decide) member)
  rw [magnitudeOnto_digits, List.append_nil, natural_ofDigits, List.map_reverse,
    List.reverse_reverse, bytes, Nat.ofDigits_digits]

/-- The bytes of a number are as many as it needs, so a limit on bytes is a
limit on the number. -/
theorem magnitude_length_le_iff (number limit : Nat) :
    (magnitudeOnto number []).length ≤ limit ↔ number < 256 ^ limit := by
  rw [magnitudeOnto_digits, List.append_nil, List.length_reverse, List.length_map]
  exact Nat.digits_length_le_iff (by decide) number

/-! ## Heads -/

/-- What the first byte of a longer head says in its five lower bits, with the
number of bytes that follow it. -/
def longHeads : List (Nat × Nat) :=
  [(24, 1), (25, 2), (26, 4), (27, 8)]

/-- A head is one byte, or it has its number in the bytes behind the first one. -/
theorem head_cases (kind number : Nat) :
    (number < 24 ∧ head kind number = [UInt8.ofNat (kind * 32 + number)]) ∨
      ∃ long ∈ longHeads, (number < 2 ^ 64 → number < 256 ^ long.2) ∧
        head kind number = UInt8.ofNat (kind * 32 + long.1) :: bigEndian long.2 number := by
  unfold head
  split
  case isTrue small => exact .inl ⟨small, rfl⟩
  case isFalse =>
    right
    split
    case isTrue fits => exact ⟨(24, 1), by decide, fun _ => fits, rfl⟩
    case isFalse =>
      split
      case isTrue fits => exact ⟨(25, 2), by decide, fun _ => fits, rfl⟩
      case isFalse =>
        split
        case isTrue fits => exact ⟨(26, 4), by decide, fun _ => fits, rfl⟩
        case isFalse => exact ⟨(27, 8), by decide, fun fits => fits, rfl⟩

/-- The five low bits announce a length of more than one byte only from 24 on, and
they are five bits. -/
theorem longHeads_bound {long : Nat × Nat} (isLong : long ∈ longHeads) :
    24 ≤ long.1 ∧ long.1 < 32 := by
  revert long
  decide

/-- The first byte of a head holds the kind, and the five bits that are left. -/
theorem first_byte {kind low : Nat} (isKind : kind < 8) (isLow : low < 32) :
    (UInt8.ofNat (kind * 32 + low)).toNat / 32 = kind ∧
      (UInt8.ofNat (kind * 32 + low)).toNat % 32 = low := by
  rw [UInt8.toNat_ofNat']
  omega

/-- Content is split off from what follows it by its length. -/
theorem split_append (content rest : Bytes) :
    split? content.length (content ++ rest) = some (content, rest) := by
  have inside : content.length ≤ (content ++ rest).length := by
    rw [List.length_append]
    exact Nat.le_add_right ..
  rw [split?, if_pos inside, List.take_left, List.drop_left]

/-- After the first byte of a longer head its number is read. -/
theorem readHead_long {kind : Nat} (isKind : kind < 8) {long : Nat × Nat}
    (isLong : long ∈ longHeads) (rest : Bytes) :
    readHead? kind (UInt8.ofNat (kind * 32 + long.1) :: rest) =
      (split? long.2 rest).map fun (bytes, later) => (.announced (natural bytes), later) := by
  obtain ⟨isHigh, isLow⟩ := first_byte isKind (longHeads_bound isLong).2
  simp only [readHead?, isHigh, isLow, ne_eq, not_true_eq_false, if_false]
  simp only [longHeads, List.mem_cons, List.not_mem_nil, or_false] at isLong
  rcases isLong with rfl | rfl | rfl | rfl <;> rfl

/-- A head is read back in front of anything, at each of the lengths that
a number may take. -/
theorem readHead_head {kind number : Nat} (isKind : kind < 8) (fits : number < 2 ^ 64)
    (rest : Bytes) :
    readHead? kind (head kind number ++ rest) = some (.announced number, rest) := by
  rcases head_cases kind number with ⟨small, isHead⟩ | ⟨long, isLong, inPlaces, isHead⟩
  · obtain ⟨isHigh, isLow⟩ := first_byte isKind (Nat.lt_trans small (by decide))
    rw [isHead, List.singleton_append]
    simp only [readHead?, isHigh, isLow, ne_eq, not_true_eq_false, if_false, if_pos small]
  · have split := split_append (bigEndian long.2 number) rest
    rw [big_endian_length] at split
    rw [isHead, List.cons_append, readHead_long isKind isLong, split, Option.map_some]
    dsimp only
    rw [natural_bigEndian, Nat.mod_eq_of_lt (inPlaces fits)]

/-- The first byte of a head says how many bytes of the head follow it. -/
theorem head_extent {kind : Nat} (isKind : kind < 8) (number : Nat) :
    ∃ first later, head kind number = first :: later ∧
      later.length = (longHeads.lookup (first.toNat % 32)).getD 0 := by
  have none : ∀ low < 24, longHeads.lookup low = none := by decide
  have some : ∀ long ∈ longHeads, longHeads.lookup long.1 = some long.2 := by decide
  rcases head_cases kind number with ⟨small, isHead⟩ | ⟨long, isLong, -, isHead⟩
  · have isLow := (first_byte isKind (Nat.lt_trans small (by decide))).2
    refine ⟨_, [], isHead, ?_⟩
    rw [isLow, none number small]
    rfl
  · have isLow := (first_byte isKind (longHeads_bound isLong).2).2
    refine ⟨_, _, isHead, ?_⟩
    rw [isLow, some long isLong, big_endian_length]
    rfl

/-! ## Items -/

/-- An unsigned number shows where it ends, so what follows it cannot be taken for
a part of it. -/
theorem unsigned_delimited : Delimited unsigned := by
  intro number other rest more same
  have first := readHead_head (by decide : 0 < 8) number.toNat_lt rest
  have second := readHead_head (by decide : 0 < 8) other.toNat_lt more
  unfold unsigned at same
  rw [same, second] at first
  obtain ⟨announced, rfl⟩ := Prod.mk.inj (Option.some.inj first)
  exact ⟨(UInt64.toNat_inj.mp (Length.announced.inj announced)).symm, rfl⟩

/-- A byte string is read back in front of anything, if its
size can be announced. -/
theorem read_byteString {content : Bytes} (fits : content.length < 2 ^ 64) (rest : Bytes) :
    readByteString? (byteString content ++ rest) = some (content, rest) := by
  rw [readByteString?, byteString, List.append_assoc, readHead_head (by decide) fits]
  exact split_append content rest

/-- A byte string whose size can be announced shows where it ends. -/
theorem byteString_cut {content other rest more : Bytes} (fits : content.length < 2 ^ 64)
    (otherFits : other.length < 2 ^ 64)
    (same : byteString content ++ rest = byteString other ++ more) :
    content = other ∧ rest = more := by
  have read := read_byteString fits rest
  rw [same, read_byteString otherFits] at read
  obtain ⟨rfl, rfl⟩ := Prod.mk.inj (Option.some.inj read)
  exact ⟨rfl, rfl⟩

/-- Byte strings of any size are written differently: their heads have the same
length if they begin alike. -/
theorem byteString_injective {content other : Bytes}
    (same : byteString content = byteString other) :
    content = other := by
  obtain ⟨first, later, isHead, extent⟩ := head_extent (by decide : 2 < 8) content.length
  obtain ⟨otherFirst, otherLater, isOtherHead, otherExtent⟩ :=
    head_extent (by decide : 2 < 8) other.length
  rw [byteString, byteString, isHead, isOtherHead, List.cons_append, List.cons_append] at same
  obtain ⟨rfl, follows⟩ := List.cons.inj same
  -- Heads that announce another size still have the length that their first byte
  -- says.
  exact (List.append_inj follows (extent.trans otherExtent.symm)).2

/-! ## Integers -/

/-- Zero is written as no bytes at all, not even a sign. -/
theorem integerBytes_zero : integerBytes 0 = [] :=
  if_pos rfl

/-- Any other number is written as a byte for its sign with its magnitude behind it.
-/
theorem integerBytes_nonzero {number : Int} (nonzero : number ≠ 0) :
    integerBytes number = (if number < 0 then 1 else 0) :: magnitudeOnto number.natAbs [] :=
  if_neg nonzero

/-- The byte for the sign is one exactly for numbers below zero. -/
theorem sign_byte_iff (number : Int) :
    (if number < 0 then (1 : UInt8) else 0) = 1 ↔ number < 0 := by
  by_cases negative : number < 0
  · rw [if_pos negative]
    exact ⟨fun _ => negative, fun _ => rfl⟩
  · rw [if_neg negative]
    exact ⟨fun impossible => absurd impossible (by decide),
      fun isNegative => absurd isNegative negative⟩

/-- Different integers have different bytes: the sign is in the first byte and the
magnitude in the others. -/
theorem integerBytes_injective {number other : Int}
    (same : integerBytes number = integerBytes other) :
    number = other := by
  by_cases zero : number = 0
  · subst zero
    by_contra nonzero
    rw [integerBytes_zero, integerBytes_nonzero (Ne.symm nonzero)] at same
    exact List.cons_ne_nil _ _ same.symm
  · by_cases otherZero : other = 0
    · subst otherZero
      rw [integerBytes_zero, integerBytes_nonzero zero] at same
      exact absurd same (List.cons_ne_nil _ _)
    · rw [integerBytes_nonzero zero, integerBytes_nonzero otherZero] at same
      obtain ⟨sign, magnitude⟩ := List.cons.inj same
      have sameSize : number.natAbs = other.natAbs := by
        rw [← natural_magnitude number.natAbs, magnitude, natural_magnitude]
      have sameSign : number < 0 ↔ other < 0 := by
        rw [← sign_byte_iff number, sign, sign_byte_iff]
      omega

/-- An integer has a form exactly if its magnitude takes at most 127 bytes, the
first byte being the sign. -/
theorem integerBytes_length_le_iff (number : Int) :
    (integerBytes number).length ≤ maxIntegerSize ↔ number.natAbs < 256 ^ 127 := by
  by_cases zero : number = 0
  · subst zero
    rw [integerBytes_zero]
    exact ⟨fun _ => Nat.pow_pos (by decide), fun _ => Nat.zero_le _⟩
  · rw [integerBytes_nonzero zero, ← magnitude_length_le_iff]
    exact Nat.succ_le_succ_iff

/-- A number whose magnitude takes no more than 127 bytes is written
as a byte string. -/
theorem integer_some {number : Int} (fits : number.natAbs < 256 ^ 127) :
    integer? number = some (byteString (integerBytes number)) :=
  if_neg (Nat.not_lt.mpr ((integerBytes_length_le_iff number).mpr fits))

/-- A larger number is not written at all: the limit on its
bytes is checked before. -/
theorem integer_none {number : Int} (large : ¬ number.natAbs < 256 ^ 127) :
    integer? number = none :=
  if_pos (Nat.lt_of_not_le fun fits => large ((integerBytes_length_le_iff number).mp fits))

end FilecoinRosetta.Encoding.Cbor
