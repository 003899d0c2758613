import FilecoinRosetta.Text.Alphabets

/-!
# Bytes written as groups of bits read back

A byte string is one sequence of bits. Cut into groups of any width and with the
last group filled up by zeros, its symbols determine that sequence, and the reader
takes off exactly what was filled up. All alphabets are treated at once: what counts
of one is that its symbols tell its values apart and take a single byte each.
-/

namespace FilecoinRosetta.Text.BitGroups

/-! ## Numbers and their bits -/

/-- As many bits are written as asked for, those in front being zeros where
the number is small. -/
theorem bits_length (width number : Nat) : (bits width number).length = width := by
  induction width with
  | zero => rfl
  | succ width ih => simp only [bits, List.length_cons, ih]

/-- A sequence of bits stands for a number below the power of two of its length. -/
theorem value_bound (sequence : List Bool) : value sequence < Nat.pow 2 sequence.length := by
  induction sequence with
  | nil => decide
  | cons bit rest ih =>
    have doubled : Nat.pow 2 (rest.length + 1) = Nat.pow 2 rest.length * 2 := rfl
    simp only [value, List.length_cons, doubled]
    cases bit <;> simp only [Bool.toNat_false, Bool.toNat_true] <;> omega

/-- Only the bits asked for matter, so two numbers that agree in
them are written alike. -/
theorem bits_congr (width first second : Nat)
    (agree : ∀ place, place < width → first.testBit place = second.testBit place) :
    bits width first = bits width second := by
  induction width with
  | zero => rfl
  | succ width ih =>
    have top : first.testBit width = second.testBit width := agree width (Nat.lt_succ_self width)
    have lower := ih fun place below => agree place (Nat.lt_succ_of_lt below)
    simp only [bits, top, lower]

/-- Writing out the number of a sequence gives the sequence back. The first
    bit stands above the number of the others, so that each of these is found
    at its old place. -/
theorem bits_value (sequence : List Bool) : bits sequence.length (value sequence) = sequence := by
  induction sequence with
  | nil => rfl
  | cons bit rest ih =>
    have digit (place : Nat) : (value (bit :: rest)).testBit place =
        if place < rest.length then (value rest).testBit place
        else bit.toNat.testBit (place - rest.length) := by
      have split := Nat.testBit_two_pow_mul_add bit.toNat (value_bound rest) place
      rw [Nat.mul_comm] at split
      exact split
    have top : (value (bit :: rest)).testBit rest.length = bit := by
      rw [digit, if_neg (Nat.lt_irrefl _), Nat.sub_self]
      cases bit <;> rfl
    have lower : bits rest.length (value (bit :: rest)) = bits rest.length (value rest) := by
      apply bits_congr
      intro place below
      rw [digit, if_pos below]
    simp only [List.length_cons, bits, top, lower, ih]

/-- The bits of a number stand for what is left of it below their power of two. -/
theorem value_bits (width number : Nat) : value (bits width number) = number % Nat.pow 2 width := by
  induction width with
  | zero => exact (Nat.mod_one number).symm
  | succ width ih =>
    have split : number % Nat.pow 2 (width + 1) =
        number % Nat.pow 2 width + Nat.pow 2 width * (number.testBit width).toNat := by
      rw [Nat.toNat_testBit]
      exact Nat.mod_pow_succ
    simp only [bits, value, bits_length, ih]
    rw [split, Nat.add_comm, Nat.mul_comm]

/-! ## Groups -/

/-- Nothing has no groups, so no bytes have no symbols. -/
theorem groups_nil (width : Nat) : groups width [] = [] := by
  rw [groups, dif_pos (.inr rfl)]

/-- The first group, and the groups of what follows it, which is what
inductions on groups need. -/
theorem groups_cons (width : Nat) (sequence : List Bool) (positive : 0 < width)
    (more : sequence ≠ []) :
    groups width sequence = sequence.take width :: groups width (sequence.drop width) := by
  rw [groups, dif_neg]
  rintro (empty | empty)
  · omega
  · exact more empty

/-- The groups of eight bits of a byte string are its bytes. -/
theorem groups_of_bytes (bytes : Bytes) :
    groups 8 (bytes.flatMap fun byte => bits 8 byte.toNat) =
      bytes.map fun byte => bits 8 byte.toNat := by
  induction bytes with
  | nil => exact groups_nil 8
  | cons byte rest ih =>
    have length : (bits 8 byte.toNat).length = 8 := bits_length 8 byte.toNat
    have more : (byte :: rest).flatMap (fun byte => bits 8 byte.toNat) ≠ [] := by
      intro empty
      have none := congrArg List.length empty
      simp only [List.flatMap_cons, List.length_append, length, List.length_nil] at none
      omega
    rw [groups_cons 8 _ (by decide) more, List.flatMap_cons, List.take_left' length,
      List.drop_left' length, ih, List.map_cons]

/-- A group filled up with zeros to the full width. -/
def padded (width : Nat) (group : List Bool) : List Bool :=
  group ++ List.replicate (width - group.length) false

/-- No group is longer than the width, so filling up reaches it exactly. -/
theorem padded_length (width : Nat) (sequence : List Bool) :
    ∀ group ∈ groups width sequence, (padded width group).length = width := by
  induction sequence using groups.induct width with
  | case1 sequence stop =>
    rw [groups, dif_pos stop]
    simp
  | case2 sequence stop ih =>
    intro group member
    rw [groups, dif_neg stop] at member
    rcases List.mem_cons.mp member with rfl | member
    · simp only [padded, List.length_append, List.length_take, List.length_replicate]
      omega
    · exact ih group member

/-- The filled groups one behind the other are the sequence with fewer zeros behind
it than the width. -/
theorem padded_groups (width : Nat) (positive : 0 < width) (sequence : List Bool) :
    ∃ spare, spare < width ∧
      (groups width sequence).length * width = sequence.length + spare ∧
      (groups width sequence).flatMap (padded width) =
        sequence ++ List.replicate spare false := by
  induction sequence using groups.induct width with
  | case1 sequence stop =>
    have empty : sequence = [] := stop.resolve_left (by omega)
    subst empty
    exact ⟨0, positive, by simp [groups_nil], by simp [groups_nil]⟩
  | case2 sequence stop ih =>
    have more : sequence ≠ [] := fun empty => stop (.inr empty)
    by_cases last : sequence.length ≤ width
    · -- The group takes everything that is left and is the only one to be filled up.
      have filled : 0 < sequence.length := List.length_pos_iff.mpr more
      have alone : groups width sequence = [sequence] := by
        rw [groups_cons width sequence positive more, List.take_of_length_le last,
          List.drop_eq_nil_of_le last, groups_nil]
      refine ⟨width - sequence.length, by omega, ?_, ?_⟩
      · rw [alone, List.length_singleton]
        omega
      · rw [alone, List.flatMap_singleton, padded]
    · obtain ⟨spare, below, count, joined⟩ := ih
      have whole : (sequence.take width).length = width := by
        rw [List.length_take]
        omega
      refine ⟨spare, below, ?_, ?_⟩
      · rw [groups_cons width sequence positive more, List.length_cons, Nat.succ_mul, count,
          List.length_drop]
        omega
      · rw [groups_cons width sequence positive more, List.flatMap_cons, joined, padded, whole,
          Nat.sub_self, List.replicate_zero, List.append_nil, ← List.append_assoc,
          List.take_append_drop]

/-! ## Symbols -/

/-- The number of bytes of a text whose signs take one byte each. -/
theorem text_size_exact (text : List Char) (narrow : ∀ sign ∈ text, sign.utf8Size = 1) :
    Alphabet.textSize text = text.length := by
  have counted (start : Nat) : text.foldl (fun size sign => size + sign.utf8Size) start =
      start + text.length := by
    induction text generalizing start with
    | nil => rfl
    | cons sign rest ih =>
      rw [List.foldl_cons, ih (fun other member => narrow other (List.mem_cons_of_mem sign member)),
        narrow sign List.mem_cons_self, List.length_cons]
      omega
  rw [Alphabet.textSize, counted, Nat.zero_add]

/-- What counts of an alphabet: every value of a group has a symbol of its
own, of one byte. -/
structure Regular (alphabet : Alphabet) : Prop where
  /-- A symbol carries at least one bit. -/
  positive : 0 < alphabet.width
  /-- A symbol carries at most one byte. -/
  within : alphabet.width ≤ 8
  /-- A symbol gives its value back. -/
  read : ∀ number < Nat.pow 2 alphabet.width,
    alphabet.value? (alphabet.symbol number) = some number
  /-- A symbol takes one byte. -/
  narrow : ∀ number < Nat.pow 2 alphabet.width, (alphabet.symbol number).utf8Size = 1

namespace Regular

variable {alphabet : Alphabet}

/-- The value that the symbol of a group is chosen by, which is one of those that
the alphabet has symbols for. -/
theorem padded_value (width : Nat) (group : List Bool)
    (full : (padded width group).length = width) :
    value (padded width group) < Nat.pow 2 width := by
  have bound := value_bound (padded width group)
  rwa [full] at bound

/-- All symbols written take one byte, so a text is as long in
bytes as in symbols. -/
theorem encode_narrow (regular : Regular alphabet) (bytes : Bytes) :
    ∀ sign ∈ alphabet.encode bytes, sign.utf8Size = 1 := by
  intro sign member
  obtain ⟨group, grouped, rfl⟩ := List.mem_map.mp member
  exact regular.narrow _ (padded_value _ group (padded_length _ _ group grouped))

/-- All symbols written are symbols of the alphabet, so each of them can
be looked up again. -/
theorem encode_known (regular : Regular alphabet) (bytes : Bytes) :
    ∀ sign ∈ alphabet.encode bytes, (alphabet.value? sign).isSome := by
  intro sign member
  obtain ⟨group, grouped, rfl⟩ := List.mem_map.mp member
  exact Option.isSome_of_eq_some
    (regular.read _ (padded_value _ group (padded_length _ _ group grouped)))

/-- The symbols of groups give the filled groups back, whatever the position
at which they start. -/
theorem text_bits_of_groups (regular : Regular alphabet) (position : Nat)
    (found : List (List Bool))
    (full : ∀ group ∈ found, (padded alphabet.width group).length = alphabet.width) :
    alphabet.textBits position (found.map alphabet.groupSymbol) =
      .ok (found.flatMap (padded alphabet.width)) := by
  induction found generalizing position with
  | nil => rfl
  | cons group rest ih =>
    have width := full group List.mem_cons_self
    have symbol : alphabet.value? (alphabet.groupSymbol group) =
        some (value (padded alphabet.width group)) :=
      regular.read _ (padded_value _ group width)
    have written : bits alphabet.width (value (padded alphabet.width group)) =
        padded alphabet.width group := by
      have exact := bits_value (padded alphabet.width group)
      rwa [width] at exact
    have later := ih (position + 1) fun other member => full other
        (List.mem_cons_of_mem group member)
    simp only [List.map_cons, Alphabet.textBits, symbol, later, written, List.flatMap_cons]
    rfl

/-- The bytes that the bits of bytes are cut into are the bytes again, so no bit
is lost or moved. -/
theorem bytes_of_bits (bytes : Bytes) :
    (groups 8 (bytes.flatMap fun byte => bits 8 byte.toNat)).map
      (fun group => UInt8.ofNat (value group)) = bytes := by
  rw [groups_of_bytes, List.map_map]
  have same : ((fun group => UInt8.ofNat (value group)) ∘ fun byte : UInt8 => bits 8 byte.toNat) =
      id := by
    funext byte
    have fits : byte.toNat % Nat.pow 2 8 = byte.toNat := Nat.mod_eq_of_lt byte.toNat_lt
    simp only [Function.comp_apply, value_bits, fits, UInt8.ofNat_toNat, id_eq]
  rw [same, List.map_id]

/-- Eight bits for every byte, so the number of groups follows from
the number of bytes. -/
theorem bytes_bits_length (bytes : Bytes) :
    (bytes.flatMap fun byte => bits 8 byte.toNat).length = 8 * bytes.length := by
  simp only [List.length_flatMap, bits_length, List.map_const', List.sum_replicate_nat,
    Nat.mul_comm]

/-- The length of what is written: the fewest symbols that hold all bits. -/
theorem encode_length (regular : Regular alphabet) (bytes : Bytes) :
    ∃ spare, spare < alphabet.width ∧
      (alphabet.encode bytes).length * alphabet.width = 8 * bytes.length + spare := by
  obtain ⟨spare, below, count, _⟩ := padded_groups alphabet.width regular.positive
    (bytes.flatMap fun byte => bits 8 byte.toNat)
  refine ⟨spare, below, ?_⟩
  rw [Alphabet.encode, List.length_map, count, bytes_bits_length]

/-- Reading gives back what was written. The number of symbols tells how many bits
    were filled up, these are zeros, and what is left are the bits of the bytes. -/
theorem decode_encode (regular : Regular alphabet) (bytes : Bytes) :
    alphabet.decode (alphabet.encode bytes) = .ok bytes := by
  obtain ⟨spare, below, count⟩ := regular.encode_length bytes
  have within := regular.within
  have size : Alphabet.textSize (alphabet.encode bytes) = (alphabet.encode bytes).length :=
    text_size_exact _ (regular.encode_narrow bytes)
  have remainder : alphabet.width * (alphabet.encode bytes).length % 8 = spare := by
    rw [Nat.mul_comm, count]
    omega
  obtain ⟨filled, filledBelow, filledCount, joined⟩ := padded_groups alphabet.width regular.positive
    (bytes.flatMap fun byte => bits 8 byte.toNat)
  have sameSpare : filled = spare := by
    rw [Alphabet.encode, List.length_map, filledCount, bytes_bits_length] at count
    omega
  subst sameSpare
  have sequence : alphabet.textBits 0 (alphabet.encode bytes) =
      .ok ((bytes.flatMap fun byte => bits 8 byte.toNat) ++ List.replicate filled false) := by
    rw [Alphabet.encode, regular.text_bits_of_groups 0 _ (padded_length _ _), joined]
  have whole : ((bytes.flatMap fun byte => bits 8 byte.toNat) ++
      List.replicate filled false).length - filled =
        (bytes.flatMap fun byte => bits 8 byte.toNat).length := by
    rw [List.length_append, List.length_replicate, Nat.add_sub_cancel]
  have zeros : (List.replicate filled false).any id = false := by
    simp
  unfold Alphabet.decode
  simp only [size, remainder, if_neg (Nat.not_le.mpr below), sequence]
  change (if _ then _ else _) = _
  rw [whole, List.drop_left, List.take_left, zeros, bytes_of_bits]
  rfl

end Regular

end FilecoinRosetta.Text.BitGroups
