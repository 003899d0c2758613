import FilecoinRosetta.Proofs.Text.BitGroups

/-!
# Base 64 read back

Padding fills the last block of four symbols and is no symbol itself. As at most two
places are filled up, looking at the last two signs finds all of it, and what stands
in front is what was written of the bytes.
-/

namespace FilecoinRosetta.Text.Base64

open BitGroups

/-- The base 64 of parameters tells its values apart, as each of its signs
stands for one value. -/
theorem base64_regular : Regular base64 where
  positive := by decide
  within := by decide
  read := by decide
  narrow := by decide

/-- Padding is no symbol, so it is never taken for a part of what is encoded. -/
theorem encode_unpadded (bytes : Bytes) : ∀ sign ∈ base64.encode bytes, sign ≠ '=' := by
  rintro sign member rfl
  have known := base64_regular.encode_known bytes '=' member
  exact absurd known (by decide)

/-- The padding of bytes fills the last block and takes at most two places. -/
theorem padding_short (bytes : Bytes) :
    let written := (base64.encode bytes).length
    let padding := (4 - written % 4) % 4
    padding ≤ 2 ∧ (written + padding) % 4 = 0 := by
  intro written padding
  obtain ⟨spare, below, count⟩ := base64_regular.encode_length bytes
  have six : base64.width = 6 := rfl
  rw [six] at below count
  constructor <;> omega

/-- The padding behind a text is all that is found of it among
the last two signs. -/
theorem padding_found (text : List Char) (unpadded : ∀ sign ∈ text, sign ≠ '=') (padding : Nat)
    (short : padding ≤ 2) :
    ((((text ++ List.replicate padding '=').reverse.take 2).takeWhile (· == '=')).length) =
      padding := by
  have unlike : ∀ sign ∈ text.reverse, (sign == '=') = false := by
    intro sign member
    exact beq_eq_false_iff_ne.mpr (unpadded sign (List.mem_reverse.mp member))
  rw [List.reverse_append, List.reverse_replicate]
  obtain rfl | rfl | rfl : padding = 0 ∨ padding = 1 ∨ padding = 2 := by omega
  · cases signs : text.reverse with
    | nil => rfl
    | cons last before => simp [unlike last (signs ▸ List.mem_cons_self)]
  · cases signs : text.reverse with
    | nil => rfl
    | cons last before => simp [unlike last (signs ▸ List.mem_cons_self)]
  · simp

/-- What is written of bytes is read as the bytes, whatever padding the
last of them needs. -/
theorem decode_encode (bytes : Bytes) : decode? (encode bytes) = some bytes := by
  obtain ⟨short, whole⟩ := padding_short bytes
  have unpadded := encode_unpadded bytes
  have signs : (encode bytes).toList = base64.encode bytes ++
      List.replicate ((4 - (base64.encode bytes).length % 4) % 4) '=' := String.toList_ofList
  generalize (4 - (base64.encode bytes).length % 4) % 4 = padding at signs short whole
  have narrow : ∀ sign ∈ (encode bytes).toList, sign.utf8Size = 1 := by
    rw [signs]
    intro sign member
    rcases List.mem_append.mp member with isSymbol | isPadding
    · exact base64_regular.encode_narrow bytes sign isSymbol
    · rw [List.eq_of_mem_replicate isPadding]
      rfl
  have size : Alphabet.textSize (encode bytes).toList % 4 = 0 := by
    rw [text_size_exact _ narrow, signs, List.length_append, List.length_replicate]
    exact whole
  have kept : (base64.encode bytes ++ List.replicate padding '=').take
      ((base64.encode bytes ++ List.replicate padding '=').length - padding) =
        base64.encode bytes := by
    rw [List.length_append, List.length_replicate, Nat.add_sub_cancel, List.take_left]
  rw [decode?]
  rw [if_pos size, signs, padding_found _ unpadded padding short, kept,
    base64_regular.decode_encode]
  rfl

end FilecoinRosetta.Text.Base64
