import FilecoinRosetta.Text.Radix
import Mathlib.Data.List.TakeWhile
import Mathlib.Data.Nat.Digits.Lemmas

/-!
# Bytes written as one large number read back

The digits of a number do not begin with a zero, so the zeros in front of a text are
those that were kept of the bytes. What follows them is one number in another base,
and a base has one way to write it.
-/

namespace FilecoinRosetta.Text.Radix

variable {base source target : Nat}

/-- The digits of a number are those of the library, the most significant one first.
-/
theorem digitsOnto_digits (large : 1 < base) (number : Nat) (lower : List Nat) :
    digitsOnto base number lower = (Nat.digits base number).reverse ++ lower := by
  induction number using Nat.strongRecOn generalizing lower with
  | ind number ih =>
    by_cases zero : number = 0
    · subst zero
      rw [digitsOnto, dif_pos (.inr rfl), Nat.digits_zero]
      rfl
    · have positive : 0 < number := Nat.pos_of_ne_zero zero
      have goesOn : ¬ (base < 2 ∨ number = 0) := by omega
      rw [digitsOnto, dif_neg goesOn, ih _ (Nat.div_lt_self positive large),
        Nat.digits_def' large positive]
      simp

/-- The number of digits is the one of the library, with the digits
the other way round. -/
theorem number_ofDigits (digits : List Nat) :
    number base digits = Nat.ofDigits base digits.reverse := by
  rw [number, Nat.ofDigits_eq_foldr, List.foldr_reverse]
  congr 1
  funext higher digit
  simp [Nat.mul_comm, Nat.add_comm]

/-- Zeros in front of digits do not count, so they have to be kept apart. -/
theorem number_zeros (zeros : List Nat) (digits : List Nat)
    (areZeros : ∀ digit ∈ zeros, digit = 0) :
    number base (zeros ++ digits) = number base digits := by
  induction zeros with
  | nil => rfl
  | cons first rest ih =>
    obtain ⟨rfl, restZeros⟩ := List.forall_mem_cons.mp areZeros
    rw [← ih restZeros]
    simp [number]

/-- The digits of a number do not begin with a zero. -/
theorem digits_lead (number : Nat) :
    ((Nat.digits base number).reverse).takeWhile (· == 0) = [] := by
  by_cases zero : number = 0
  · simp [zero]
  · have nonempty : Nat.digits base number ≠ [] := Nat.digits_ne_nil_iff_ne_zero.mpr zero
    have last := Nat.getLast_digit_ne_zero base zero
    rw [← List.head_reverse (List.reverse_ne_nil_iff.mpr nonempty)] at last
    cases digits : (Nat.digits base number).reverse with
    | nil => rfl
    | cons first rest =>
      simp only [digits, List.head_cons] at last
      simp [last]

/-- Zeros in front are kept and what follows is written anew. This is why bytes of
zeros are not lost. -/
theorem convert_split (large : 1 < target) (zeros rest : List Nat)
    (areZeros : ∀ digit ∈ zeros, digit = 0) (leads : rest.takeWhile (· == 0) = []) :
    convert source target (zeros ++ rest) =
      zeros ++ (Nat.digits target (Nat.ofDigits source rest.reverse)).reverse := by
  have allZero : ∀ digit ∈ zeros, (digit == 0) = true := by simpa using areZeros
  rw [convert, List.takeWhile_append_of_pos allZero, leads, number_zeros zeros rest areZeros,
    digitsOnto_digits large, number_ofDigits, List.append_nil, List.append_nil]

/-- Digits moved to another base and back are what they were,
leading zeros included. -/
theorem convert_convert (sourceLarge : 1 < source) (targetLarge : 1 < target) (digits : List Nat)
    (bounded : ∀ digit ∈ digits, digit < source) :
    convert target source (convert source target digits) = digits := by
  have split : digits.takeWhile (· == 0) ++ digits.dropWhile (· == 0) = digits :=
    List.takeWhile_append_dropWhile
  have areZeros : ∀ digit ∈ digits.takeWhile (· == 0), digit = 0 := by
    intro digit member
    simpa using List.mem_takeWhile_imp member
  have firstPositive : ∀ first rest, digits.dropWhile (· == 0) = first :: rest → first ≠ 0 := by
    intro first rest isRest
    have positive := List.head_dropWhile_not (· == 0) (isRest ▸ List.cons_ne_nil first rest)
    simpa [isRest] using positive
  have restBounded : ∀ digit ∈ digits.dropWhile (· == 0), digit < source := fun digit member =>
    bounded digit (List.dropWhile_subset _ member)
  generalize digits.takeWhile (· == 0) = zeros at split areZeros
  generalize digits.dropWhile (· == 0) = rest at split firstPositive restBounded
  subst split
  have leads : rest.takeWhile (· == 0) = [] := by
    cases rest with
    | nil => rfl
    | cons first more => simp [firstPositive first more rfl]
  have lastPositive : ∀ nonempty : rest.reverse ≠ [], rest.reverse.getLast nonempty ≠ 0 := by
    intro nonempty
    cases rest with
    | nil => exact absurd rfl nonempty
    | cons first more => simpa using firstPositive first more rfl
  have reversedBounded : ∀ digit ∈ rest.reverse, digit < source := by simpa using restBounded
  rw [convert_split targetLarge zeros rest areZeros leads,
    convert_split sourceLarge zeros _ areZeros (digits_lead _), List.reverse_reverse,
    Nat.ofDigits_digits, Nat.digits_ofDigits source sourceLarge _ reversedBounded lastPositive,
    List.reverse_reverse]

/-- Digits in a base are below it, so each of them has a symbol. -/
theorem convert_bounded (large : 1 < target) (digits : List Nat) :
    ∀ digit ∈ convert source target digits, digit < target := by
  intro digit member
  rw [convert, digitsOnto_digits large, List.append_nil] at member
  rcases List.mem_append.mp member with isZero | isDigit
  · obtain rfl : digit = 0 := by simpa using List.mem_takeWhile_imp isZero
    omega
  · exact Nat.digits_lt_base large (List.mem_reverse.mp isDigit)

/-! ## Symbols -/

/-- Symbols that tell their positions apart. -/
structure Regular (symbols : List Char) : Prop where
  /-- There are at least two. -/
  large : 1 < symbols.length
  /-- A symbol gives its position back. -/
  read : ∀ digit < symbols.length, symbols.idxOf? (symbols.getD digit '?') = some digit

namespace Regular

variable {symbols : List Char}

/-- The symbols of digits give the digits back, as no symbol stands
for two of them. -/
theorem digits_read (regular : Regular symbols) (digits : List Nat)
    (bounded : ∀ digit ∈ digits, digit < symbols.length) :
    (digits.map fun digit => symbols.getD digit '?').mapM symbols.idxOf? = some digits := by
  induction digits with
  | nil => rfl
  | cons digit rest ih =>
    obtain ⟨digitBounded, restBounded⟩ := List.forall_mem_cons.mp bounded
    rw [List.map_cons, List.mapM_cons, regular.read digit digitBounded, ih restBounded]
    rfl

/-- What is written of bytes is read as the bytes, leading zeros included. -/
theorem decode_encode (regular : Regular symbols) (bytes : Bytes) :
    decode? symbols (encode symbols bytes) = some bytes := by
  have areBytes : ∀ digit ∈ bytes.map UInt8.toNat, digit < 256 := by
    intro digit member
    obtain ⟨byte, -, rfl⟩ := List.mem_map.mp member
    exact byte.toNat_lt
  have digits : (encode symbols bytes).mapM symbols.idxOf? =
      some (convert 256 symbols.length (bytes.map UInt8.toNat)) :=
    regular.digits_read _ (convert_bounded regular.large _)
  have sameBytes : (bytes.map UInt8.toNat).map UInt8.ofNat = bytes := by simp [Function.comp_def]
  rw [decode?, digits]
  simp only [Option.bind_eq_bind, Option.bind_some]
  rw [convert_convert (by decide) regular.large _ areBytes, sameBytes]

/-- Symbols written are symbols of the base, so each of them can
be looked up again. -/
theorem encode_known (regular : Regular symbols) (bytes : Bytes) :
    ∀ sign ∈ encode symbols bytes, sign ∈ symbols := by
  intro sign member
  obtain ⟨digit, isDigit, rfl⟩ := List.mem_map.mp member
  have bounded := convert_bounded regular.large _ digit isDigit
  have isSymbol : symbols.getD digit '?' = symbols[digit] := by simp [bounded]
  rw [isSymbol]
  exact List.getElem_mem bounded

end Regular

/-! ## The first digits -/

/-- A number with digits above some lower ones begins with those digits. -/
theorem digitsOnto_higher (large : 1 < base) (places number : Nat) (lower : List Nat)
    (above : number / base ^ places ≠ 0) :
    ∃ later, later.length = places ∧
      digitsOnto base number lower = digitsOnto base (number / base ^ places) (later ++ lower) := by
  induction places generalizing number lower with
  | zero => exact ⟨[], rfl, by simp⟩
  | succ places ih =>
    have split : number / base ^ (places + 1) = number / base / base ^ places := by
      rw [Nat.pow_succ, Nat.mul_comm, Nat.div_div_eq_div_mul]
    have goesOn : ¬ (base < 2 ∨ number = 0) := by
      rintro (small | rfl)
      · omega
      · simp at above
    rw [split] at above
    obtain ⟨later, count, higher⟩ := ih (number / base) (number % base :: lower) above
    refine ⟨later ++ [number % base], by simp [count], ?_⟩
    rw [digitsOnto, dif_neg goesOn, higher, split]
    simp

end FilecoinRosetta.Text.Radix
