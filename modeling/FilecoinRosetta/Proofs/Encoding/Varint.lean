import FilecoinRosetta.Encoding.Varint
import FilecoinRosetta.Proofs.Encoding.Delimited
import Mathlib.Algebra.Group.Nat.Defs

/-!
# Numbers in groups of seven bits read back

A word takes ten groups at most, so the reader never stops before the last one, and
the shortest form never ends in an empty group. A number of any size shows where it
ends. Nothing but shortest forms is read. A form of ten groups has room for numbers
beyond a word, which are read without what is beyond it.
-/

namespace FilecoinRosetta.Encoding.Varint

/-- A single group reads back in front of anything. Behind the first byte it
must not be empty. -/
theorem decodeWithin_single (limit number : Nat) (leading : Bool) (rest : Bytes)
    (single : number < 128) (carries : number = 0 → leading = true) :
    decodeWithin (limit + 1) leading (encode number ++ rest) = .ok (number, rest) := by
  have byte : (UInt8.ofNat number).toNat = number := by
    rw [UInt8.toNat_ofNat']
    omega
  have notEmpty : ¬ (UInt8.ofNat number = 0 ∧ leading = false) := by
    rintro ⟨empty, behind⟩
    have zero := congrArg UInt8.toNat empty
    rw [byte] at zero
    simp [carries zero] at behind
  rw [encode, if_pos single, List.singleton_append, decodeWithin, byte, if_pos single,
    if_neg notEmpty]

/-- A number below the power of its limit reads back in front of anything. -/
theorem decodeWithin_encode (limit number : Nat) (leading : Bool) (rest : Bytes)
    (bounded : number < 128 ^ (limit + 1)) (carries : number = 0 → leading = true) :
    decodeWithin (limit + 1) leading (encode number ++ rest) = .ok (number, rest) := by
  induction limit generalizing number leading with
  | zero => exact decodeWithin_single 0 number leading rest (by simpa using bounded) carries
  | succ limit ih =>
    by_cases single : number < 128
    · exact decodeWithin_single _ number leading rest single carries
    · -- The other groups are those of the rest of the number, which is not zero.
      have byte : (UInt8.ofNat (number % 128 + 128)).toNat = number % 128 + 128 := by
        rw [UInt8.toNat_ofNat']
        omega
      have notLast : ¬ number % 128 + 128 < 128 := by omega
      have higher : number / 128 < 128 ^ (limit + 1) := by
        rw [Nat.div_lt_iff_lt_mul (by decide)]
        exact bounded
      have later := ih (number / 128) false higher fun zero => by omega
      have whole : (number % 128 + 128) % 128 + 128 * (number / 128) = number := by omega
      rw [encode, if_neg single, List.cons_append, decodeWithin, byte, if_neg notLast, later]
      change Except.ok (_ + _, rest) = _
      rw [whole]

/-- A word reads back in front of anything, and what follows is left over. -/
theorem decode_encode (number : UInt64) (rest : Bytes) :
    decode (encode number.toNat ++ rest) = .ok (number, rest) := by
  have bounded : number.toNat < 128 ^ 10 := Nat.lt_of_lt_of_le number.toNat_lt (by decide)
  rw [decode, decodeWithin_encode 9 number.toNat true rest bounded fun _ => rfl]
  simp [bind, Except.bind]

/-- Whatever is read is the shortest form of a number below the power of the limit,
and behind the first byte not of zero. -/
theorem decodeWithin_sound {limit number : Nat} {leading : Bool} {bytes rest : Bytes}
    (read : decodeWithin limit leading bytes = .ok (number, rest)) :
    number < 128 ^ limit ∧ bytes = encode number ++ rest ∧ (number = 0 → leading = true) := by
  induction limit generalizing leading bytes number rest with
  | zero => contradiction
  | succ limit ih =>
    cases bytes with
    | nil => contradiction
    | cons byte later =>
      rw [decodeWithin] at read
      split at read
      · rename_i last
        split at read
        · contradiction
        · rename_i carries
          obtain ⟨rfl, rfl⟩ := Prod.mk.inj (Except.ok.inj read)
          refine ⟨Nat.lt_of_lt_of_le last (Nat.le_self_pow (Nat.succ_ne_zero limit) 128), ?_,
            fun zero => ?_⟩
          · rw [encode, if_pos last, UInt8.ofNat_toNat]
            rfl
          · have isZero : byte = 0 := UInt8.toNat_inj.mp zero
            simpa [isZero] using carries
      · rename_i others
        cases higher : decodeWithin limit false later with
        | error fault =>
          rw [higher] at read
          contradiction
        | ok found =>
          obtain ⟨above, behind⟩ := found
          rw [higher] at read
          obtain ⟨rfl, rfl⟩ := Prod.mk.inj (Except.ok.inj read)
          obtain ⟨bounded, rfl, carries⟩ := ih higher
          have positive : above ≠ 0 := fun zero => Bool.false_ne_true (carries zero)
          have large : ¬ byte.toNat % 128 + 128 * above < 128 := by omega
          have lowest : (byte.toNat % 128 + 128 * above) % 128 + 128 = byte.toNat := by
            have := byte.toNat_lt
            omega
          have highest : (byte.toNat % 128 + 128 * above) / 128 = above := by omega
          have written : encode (byte.toNat % 128 + 128 * above) = byte :: encode above := by
            rw [encode, if_neg large, lowest, highest, UInt8.ofNat_toNat]
          refine ⟨?_, by rw [written, List.cons_append], by omega⟩
          rw [Nat.pow_succ]
          omega

/-- Exactly the shortest forms of at most ten groups are read, and what is beyond
a word is lost. -/
theorem decode_ok_iff {bytes rest : Bytes} {word : UInt64} :
    decode bytes = .ok (word, rest) ↔
      ∃ number < 128 ^ 10, word = UInt64.ofNat number ∧ bytes = encode number ++ rest := by
  constructor
  · intro read
    unfold decode at read
    cases groups : decodeWithin 10 true bytes with
    | error fault =>
      rw [groups] at read
      contradiction
    | ok found =>
      obtain ⟨number, later⟩ := found
      rw [groups] at read
      obtain ⟨rfl, rfl⟩ := Prod.mk.inj (Except.ok.inj read)
      obtain ⟨bounded, written, -⟩ := decodeWithin_sound groups
      exact ⟨number, bounded, rfl, written⟩
  · rintro ⟨number, bounded, rfl, rfl⟩
    rw [decode, decodeWithin_encode 9 number true rest bounded fun _ => rfl]
    simp [bind, Except.bind]

/-- A number shows where it ends, by the first byte whose high bit is not set. -/
theorem delimited : Delimited encode := by
  intro number other rest more same
  have ample (value : Nat) (within : value ≤ number + other) : value < 128 ^ (number + other + 1) :=
    Nat.lt_of_le_of_lt within (Nat.lt_of_succ_lt (Nat.lt_pow_self (by decide)))
  have first := decodeWithin_encode (number + other) number true rest
      (ample _ (Nat.le_add_right ..)) fun _ => rfl
  have second := decodeWithin_encode (number + other) other true more
      (ample _ (Nat.le_add_left ..)) fun _ => rfl
  rw [same, second] at first
  obtain ⟨rfl, rfl⟩ := Prod.mk.inj (Except.ok.inj first)
  exact ⟨rfl, rfl⟩

/-- No number is written as nothing: the last byte is always there. -/
theorem encode_ne_nil (number : Nat) : encode number ≠ [] := by
  rw [encode]
  split <;> exact List.cons_ne_nil _ _

/-- A number below the power of a limit takes no more groups. -/
theorem encode_length_le (limit number : Nat) (bounded : number < 128 ^ (limit + 1)) :
    (encode number).length ≤ limit + 1 := by
  induction limit generalizing number with
  | zero =>
    rw [encode, if_pos (by simpa using bounded)]
    exact Nat.le_refl 1
  | succ limit ih =>
    rw [encode]
    split
    · exact Nat.succ_le_succ (Nat.zero_le _)
    · have higher : number / 128 < 128 ^ (limit + 1) := by
        rw [Nat.div_lt_iff_lt_mul (by decide)]
        exact bounded
      exact Nat.succ_le_succ (ih _ higher)

end FilecoinRosetta.Encoding.Varint
