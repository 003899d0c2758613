import FilecoinRosetta.Cid
import FilecoinRosetta.Proofs.Address.Text
import FilecoinRosetta.Proofs.Encoding.Varint
import FilecoinRosetta.Proofs.Text.Radix

/-!
# Displayed content identifiers read back

The text of an identifier is read as that identifier. An identifier of version 1
says in its first sign how the rest is written. One of version 0 says nothing: it is
told from the others by having 46 signs of which the first two are always the same,
since the two bytes in front of its digest fix how large its number is.
-/

namespace FilecoinRosetta.Cid

open Text.BitGroups (Alphabet text_size_exact)

/-! ## Binary form -/

/-- A leading number reads back, and what follows it is left as it is. -/
theorem readNumber_encode (number : UInt64) (rest : Bytes) :
    readNumber (Encoding.Varint.encode number.toNat ++ rest) = .ok (number, rest) := by
  rw [readNumber, Encoding.Varint.decode_encode]

/-- A hash reads back from its code, its size and its digest. -/
theorem readHash_written (hash : Multihash) :
    readHash (Encoding.Varint.encode hash.code.toNat ++
      (Encoding.Varint.encode hash.digest.length ++ hash.digest)) = .ok hash := by
  have fits := hash.digest_le
  have size : (UInt64.ofNat hash.digest.length).toNat = hash.digest.length := by
    rw [UInt64.toNat_ofNat']
    omega
  have sized := Encoding.Varint.decode_encode (UInt64.ofNat hash.digest.length) hash.digest
  rw [size] at sized
  have inside : hash.digest.length ≤ 64 ∧ hash.digest.length ≤ hash.digest.length :=
    ⟨fits, Nat.le_refl _⟩
  simp only [readHash, Encoding.Varint.decode_encode, sized, size, dif_pos inside, List.take_length]

/-- The binary form reads back, in both versions, which are told apart
by their first bytes. -/
theorem ofBytes_toBytes (cid : Cid) : ofBytes cid.toBytes = .ok cid := by
  cases cid with
  | v0 digest =>
    have code (rest : Bytes) : readNumber (0x12 :: rest) = .ok (0x12, rest) := by
      have single : Encoding.Varint.encode (0x12 : UInt64).toNat = [0x12] := by
        rw [Encoding.Varint.encode]
        rfl
      have read := readNumber_encode 0x12 rest
      rwa [single] at read
    have size (rest : Bytes) : readNumber (0x20 :: rest) = .ok (0x20, rest) := by
      have single : Encoding.Varint.encode (0x20 : UInt64).toNat = [0x20] := by
        rw [Encoding.Varint.encode]
        rfl
      have read := readNumber_encode 0x20 rest
      rwa [single] at read
    have whole : SizedBytes.ofBytes? 32 (digest.bytes.take 32) = some digest := by
      apply SizedBytes.of_bytes_iff.mpr
      exact (List.take_of_length_le (Nat.le_of_eq digest.length_eq)).symm
    rw [toBytes, ofBytes, code]
    simp only [bind, Except.bind, size, whole, and_self, if_true]
  | v1 codec hash =>
    have version (rest : Bytes) : readNumber (Encoding.Varint.encode 1 ++ rest) = .ok (1, rest) :=
      readNumber_encode 1 rest
    have notV0 : ¬ ((1 : UInt64) = 0x12 ∧ codec = 0x20) := fun both => absurd both.1 (by decide)
    have explicit : ¬ (1 : UInt64) = 0 := by decide
    simp only [toBytes, List.append_assoc, ofBytes, version, readNumber_encode,
      readHash_written, bind, Except.bind, if_neg notV0, if_neg explicit, if_true]

/-! ## Text -/

/-- A text without a slash holds no path component, so all of
it is the identifier. -/
theorem afterPathMark_none (whole signs : List Char) (slashless : ∀ sign ∈ signs, sign ≠ '/') :
    afterPathMark whole signs = whole := by
  induction signs with
  | nil => rfl
  | cons sign rest ih =>
    obtain ⟨notSlash, restSlashless⟩ := List.forall_mem_cons.mp slashless
    have notMark : pathMark.isPrefixOf (sign :: rest) = false := by
      have differs : ('/' == sign) = false := beq_eq_false_iff_ne.mpr notSlash.symm
      change ('/' == sign && _) = false
      rw [differs, Bool.false_and]
    rw [afterPathMark, notMark]
    exact ih restSlashless

/-- A text that no path component is in front of is read as it is. -/
theorem parse_signs {source : String} {signs : List Char} (isSource : source.toList = signs)
    (slashless : ∀ sign ∈ signs, sign ≠ '/') (narrow : ∀ sign ∈ signs, sign.utf8Size = 1)
    (enough : 2 ≤ signs.length) {bytes : Bytes}
    (decoded : (if looksLikeV0 signs then Text.Radix.decode? Text.Multibase.base58Symbols signs
      else Text.Multibase.read? signs) = some bytes) :
    parse source = ofBytes bytes := by
  have size : ¬ Alphabet.textSize signs < 2 := by
    rw [text_size_exact _ narrow]
    omega
  rw [parse, isSource, afterPathMark_none signs signs slashless]
  simp only [if_neg size, decoded]

/-- Identifiers of version 1 read back from their text, which is in base 32 behind
the sign for it. -/
theorem parse_v1 (codec : UInt64) (hash : Multihash) :
    parse (v1 codec hash).text = .ok (v1 codec hash) := by
  have regular := Address.base32_regular
  have isSource : (v1 codec hash).text.toList = 'b' :: Text.base32.encode (v1 codec hash).toBytes :=
    String.toList_ofList
  have slashless : ∀ sign ∈ 'b' :: Text.base32.encode (v1 codec hash).toBytes, sign ≠ '/' := by
    refine List.forall_mem_cons.mpr ⟨by decide, ?_⟩
    rintro sign member rfl
    exact absurd (regular.encode_known _ '/' member) (by decide)
  have narrow : ∀ sign ∈ 'b' :: Text.base32.encode (v1 codec hash).toBytes, sign.utf8Size = 1 :=
    List.forall_mem_cons.mpr ⟨rfl, regular.encode_narrow _⟩
  have enough : 2 ≤ ('b' :: Text.base32.encode (v1 codec hash).toBytes).length := by
    obtain ⟨spare, -, count⟩ := regular.encode_length (v1 codec hash).toBytes
    have versioned : 0 < (v1 codec hash).toBytes.length := by
      rw [toBytes, Encoding.Varint.encode]
      simp
    have five : Text.base32.width = 5 := rfl
    rw [five] at count
    rw [List.length_cons]
    omega
  have decoded : Text.Multibase.read? ('b' :: Text.base32.encode (v1 codec hash).toBytes) =
      some (v1 codec hash).toBytes := by
    change (Text.base32.decode _).toOption = _
    rw [regular.decode_encode]
    rfl
  have notV0 : looksLikeV0 ('b' :: Text.base32.encode (v1 codec hash).toBytes) = false := by
    change (_ && false) = false
    rw [Bool.and_false]
  rw [parse_signs isSource slashless narrow enough (by rw [notV0]; exact decoded), ofBytes_toBytes]

/-- Base 58 tells its values apart, so texts of version 0 are read back as well. -/
theorem base58_regular : Text.Radix.Regular Text.Multibase.base58Symbols where
  large := by decide
  read := by decide

/-- The two bytes in front of a digest fix the first two digits of its
number in base 58. -/
theorem leading_digits (digest : SizedBytes 32) :
    Text.Radix.number 256 ((v0 digest).toBytes.map UInt8.toNat) / 58 ^ 44 = 23 * 58 + 44 := by
  have places : (digest.bytes.map UInt8.toNat).reverse.length = 32 := by
    simp [digest.length_eq]
  have bounded : Nat.ofDigits 256 (digest.bytes.map UInt8.toNat).reverse < 256 ^ 32 := by
    refine Nat.lt_of_lt_of_eq (Nat.ofDigits_lt_base_pow_length (by decide) ?_)
      (congrArg (256 ^ ·) places)
    intro digit member
    obtain ⟨byte, -, rfl⟩ := List.mem_map.mp (List.mem_reverse.mp member)
    exact byte.toNat_lt
  have split : Text.Radix.number 256 ((v0 digest).toBytes.map UInt8.toNat) =
      Nat.ofDigits 256 (digest.bytes.map UInt8.toNat).reverse + 256 ^ 32 * (0x12 * 256 + 0x20) := by
    have digits : ((v0 digest).toBytes.map UInt8.toNat).reverse =
        (digest.bytes.map UInt8.toNat).reverse ++ [0x20, 0x12] := by
      simp [toBytes]
    rw [Text.Radix.number_ofDigits, digits, Nat.ofDigits_append, places]
    rfl
  rw [split]
  omega

/-- Identifiers of version 0 have 46 signs, of which the first two
are always the same. -/
theorem text_v0 (digest : SizedBytes 32) :
    ∃ later, later.length = 44 ∧
      Text.Radix.encode Text.Multibase.base58Symbols (v0 digest).toBytes = 'Q' :: 'm' :: later := by
  have leading := leading_digits digest
  obtain ⟨later, count, higher⟩ := Text.Radix.digitsOnto_higher (by decide : 1 < 58) 44
    (Text.Radix.number 256 ((v0 digest).toBytes.map UInt8.toNat)) [] (by rw [leading]; decide)
  have firstDigits : Text.Radix.digitsOnto 58 (23 * 58 + 44) (later ++ []) = 23 :: 44 :: later := by
    rw [Text.Radix.digitsOnto_digits (by decide)]
    simp
  have noZeros : ((v0 digest).toBytes.map UInt8.toNat).takeWhile (· == 0) = [] := rfl
  have size : Text.Multibase.base58Symbols.length = 58 := by decide
  refine ⟨later.map fun digit => Text.Multibase.base58Symbols.getD digit '?', by simp [count], ?_⟩
  rw [Text.Radix.encode, Text.Radix.convert, noZeros, size, higher, leading, firstDigits]
  rfl

/-- Identifiers of version 0 read back from their text, which is known by its length
and its two first signs. -/
theorem parse_v0 (digest : SizedBytes 32) : parse (v0 digest).text = .ok (v0 digest) := by
  have known := base58_regular.encode_known (v0 digest).toBytes
  have isSource : (v0 digest).text.toList =
      Text.Radix.encode Text.Multibase.base58Symbols (v0 digest).toBytes := String.toList_ofList
  have slashless : ∀ sign ∈ Text.Radix.encode Text.Multibase.base58Symbols (v0 digest).toBytes,
      sign ≠ '/' := by
    rintro sign member rfl
    exact absurd (known '/' member) (by decide)
  have narrowSymbols : Text.Multibase.base58Symbols.all (·.utf8Size == 1) = true := by decide
  have narrow : ∀ sign ∈ Text.Radix.encode Text.Multibase.base58Symbols (v0 digest).toBytes,
      sign.utf8Size = 1 := fun sign member =>
    beq_iff_eq.mp (List.all_eq_true.mp narrowSymbols sign (known sign member))
  obtain ⟨later, count, written⟩ := text_v0 digest
  have length :
      (Text.Radix.encode Text.Multibase.base58Symbols (v0 digest).toBytes).length = 46 := by
    simp [written, count]
  have looks :
      looksLikeV0 (Text.Radix.encode Text.Multibase.base58Symbols (v0 digest).toBytes) = true := by
    have size := text_size_exact _ narrow
    rw [length] at size
    rw [looksLikeV0, size, written]
    rfl
  have decoded := base58_regular.decode_encode (v0 digest).toBytes
  rw [parse_signs isSource slashless narrow (by omega) (by rw [if_pos looks, decoded]),
    ofBytes_toBytes]

/-- The display form of an identifier reads back as the identifier, so a client can
hand back what it was told. -/
theorem parse_display (cid : Cid) : parse cid.text = .ok cid := by
  cases cid with
  | v0 digest => exact parse_v0 digest
  | v1 codec hash => exact parse_v1 codec hash

end FilecoinRosetta.Cid
