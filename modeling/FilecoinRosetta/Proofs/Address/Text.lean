import FilecoinRosetta.Address
import FilecoinRosetta.Proofs.Text.BitGroups
import FilecoinRosetta.Proofs.Text.Decimal

/-!
# Displayed addresses read back

The text of an address is read as that address, whichever network letter it starts
with. So no two addresses are displayed alike, and what is filed under a displayed
address is filed under one address. Of any text at all, the letters of the two
networks may be exchanged without a change to what it is read as.
-/

namespace FilecoinRosetta

open Text.BitGroups

namespace Address

/-! ## Checked base 32 -/

/-- The base 32 of addresses tells its values apart, as each of its signs stands for
one value and none is missing. -/
theorem base32_regular : Regular Text.base32 where
  positive := by decide
  within := by decide
  read := by decide
  narrow := by decide

/-- A digest of at most 64 bytes has exactly the size asked for. -/
theorem digest_length (size : Nat) (message : Bytes) (fits : size ≤ 64) :
    (Digest.Blake2b.digest size message).length = size := by
  have word (value : UInt64) : (Digest.Blake2b.wordBytes value).length = 8 := by
    simp only [Digest.Blake2b.wordBytes, List.length_map, List.length_range]
  have chain (words : Vector UInt64 8) :
      (words.toList.flatMap Digest.Blake2b.wordBytes).length = 64 := by
    simp only [List.length_flatMap, word, List.map_const', Vector.length_toList,
      List.sum_replicate_nat]
  rw [Digest.Blake2b.digest, List.length_take, chain, Nat.min_eq_left fits]

/-- A checksum has four bytes, so the text of an address shows
where its payload ends. -/
theorem checksum_length (bytes : Bytes) : (checksum bytes).length = checksumSize :=
  digest_length checksumSize bytes (by decide)

/-- Checked base 32 splits into what was written and its checksum. -/
theorem read_checked_text (address : Address) (bytes : Bytes) :
    readChecked (checkedText address bytes) = .ok (bytes, checksum address.toBytes) := by
  have whole : Text.base32.decode (checkedText address bytes) =
      .ok (bytes ++ checksum address.toBytes) := base32_regular.decode_encode _
  have size := checksum_length address.toBytes
  have long : ¬ (bytes ++ checksum address.toBytes).length < checksumSize := by
    rw [List.length_append, size]
    omega
  have payload : (bytes ++ checksum address.toBytes).length - checksumSize = bytes.length := by
    rw [List.length_append, size]
    omega
  simp only [readChecked, whole, if_neg long, payload, List.splitAt_eq, List.take_left,
    List.drop_left]

/-- A protocol with a payload of fixed size reads back what it wrote. -/
theorem read_hashed_text {size : Nat} (protocol : Nat) (make : SizedBytes size → Address)
    (payload : SizedBytes size)
    (binary : (make payload).toBytes = UInt8.ofNat protocol :: payload.bytes) :
    readHashed protocol size make (checkedText (make payload) payload.bytes) =
      .ok (make payload) := by
  have sized : SizedBytes.ofBytes? size payload.bytes = some payload :=
    SizedBytes.of_bytes_iff.mpr rfl
  unfold readHashed
  rw [read_checked_text]
  change (if _ then _ else _) = _
  rw [binary, if_neg (fun differs => differs rfl), sized]

/-! ## Numbers and delegated addresses -/

/-- A word has at most twenty digits, which bounds the text of an address. -/
theorem word_digits (number : UInt64) : (Nat.toDigits 10 number.toNat).length ≤ 20 := by
  have below : number.toNat < Nat.pow 10 20 :=
    Nat.lt_of_lt_of_le number.toNat_lt (by decide)
  exact (Nat.length_toDigits_le_iff (by decide) (by decide)).mpr below

/-- A digit takes one byte, so numbers are as long in bytes as in characters. -/
theorem digit_size (sign : Char) (isDigit : sign.isDigit = true) : sign.utf8Size = 1 := by
  have inRange : 48 ≤ sign.val.toNat ∧ sign.val.toNat ≤ 57 := by
    simpa [Char.isDigit, UInt32.le_iff_toNat_le] using isDigit
  rw [Char.utf8Size_eq_one_iff, UInt32.le_iff_toNat_le]
  exact Nat.le_trans inRange.2 (by decide)

/-- The decimal digits of a word are read as that word, as zeros in front of
it are not written. -/
theorem read_number_digits (number : UInt64) :
    readNumber (Nat.toDigits 10 number.toNat) = .ok number := by
  have digits := Text.Integer.decimal_digits number.toNat
  have size : Alphabet.textSize (Nat.toDigits 10 number.toNat) ≤ 20 := by
    rw [text_size_exact _ fun sign member => digit_size sign (digits sign member)]
    exact word_digits number
  have word : Text.Integer.uint64? (String.ofList (Nat.toDigits 10 number.toNat)) =
      some number := by
    have below : number.toNat < UInt64.size := number.toNat_lt
    simp only [Text.Integer.uint64?, Text.Integer.word?, String.toList_ofList,
      Text.Integer.unsigned_digits, Option.filter, below, decide_true, if_true, Option.map_some,
      UInt64.ofNat_toNat]
  simp only [readNumber, if_neg (Nat.not_lt.mpr size), word]

/-- The letter behind the namespace is not a digit, so the digits end there. -/
theorem namespace_ends (number : Nat) (rest : List Char) :
    (Nat.toDigits 10 number ++ 'f' :: rest).takeWhile (· != 'f') = Nat.toDigits 10 number ∧
      (Nat.toDigits 10 number ++ 'f' :: rest).dropWhile (· != 'f') = 'f' :: rest := by
  have digits : ∀ sign ∈ Nat.toDigits 10 number, (sign != 'f') = true := by
    intro sign member
    have isDigit := Text.Integer.decimal_digits number sign member
    apply bne_iff_ne.mpr
    rintro rfl
    exact absurd isDigit (by decide)
  constructor
  · rw [List.takeWhile_append_of_pos digits]
    simp
  · rw [List.dropWhile_append_of_pos digits]
    simp

/-- A delegated address reads back what it wrote: the number up to the separating
sign, the name and its checksum behind it. -/
theorem read_delegated_text (namespaceId : UInt64) (name : Subaddress) :
    readDelegated (Nat.toDigits 10 namespaceId.toNat ++
      'f' :: checkedText (delegated namespaceId name) name.bytes) =
        .ok (delegated namespaceId name) := by
  obtain ⟨taken, dropped⟩ := namespace_ends namespaceId.toNat
    (checkedText (delegated namespaceId name) name.bytes)
  have made : delegate namespaceId name.bytes = .ok (delegated namespaceId name) := by
    rw [delegate, dif_pos name.length_le]
  unfold readDelegated
  simp only [taken, dropped, read_number_digits, read_checked_text]
  change (delegate namespaceId name.bytes).bind _ = _
  rw [made]
  exact if_neg fun differs => differs rfl

/-! ## Whole addresses -/

/-- The text behind the network letter reads back. The kinds of addresses differ in
the first sign there. -/
theorem read_body (address : Address) : readBody address.body = .ok address := by
  cases address with
  | id number =>
    have written : (toString number.toNat).toList = Nat.toDigits 10 number.toNat := Nat.toList_repr
    simp only [body, readBody, written, read_number_digits]
    rfl
  | secp256k1 hash => exact read_hashed_text 1 secp256k1 hash rfl
  | actor hash => exact read_hashed_text 2 actor hash rfl
  | bls key => exact read_hashed_text 3 bls key rfl
  | delegated namespaceId name =>
    have written : (toString namespaceId.toNat).toList = Nat.toDigits 10 namespaceId.toNat :=
      Nat.toList_repr
    simp only [body, written]
    exact read_delegated_text namespaceId name

/-- Texts of signs that take one byte each and whose number is within limits. -/
structure Fits (least most : Nat) (text : List Char) : Prop where
  /-- Every sign takes one byte. -/
  narrow : ∀ sign ∈ text, sign.utf8Size = 1
  /-- There are not too few signs. -/
  least_le : least ≤ text.length
  /-- There are not too many signs. -/
  le_most : text.length ≤ most

/-- One sign in front of a text makes both bounds on its length larger by one. -/
theorem Fits.cons {least most : Nat} {text : List Char} (fits : Fits least most text) (sign : Char)
    (narrow : sign.utf8Size = 1) : Fits (least + 1) (most + 1) (sign :: text) where
  narrow := by
    intro other member
    rcases List.mem_cons.mp member with rfl | member
    · exact narrow
    · exact fits.narrow other member
  least_le := Nat.succ_le_succ fits.least_le
  le_most := Nat.succ_le_succ fits.le_most

/-- Two texts one behind the other are as long as their bounds together. -/
theorem Fits.append {least most least' most' : Nat} {first second : List Char}
    (fits : Fits least most first) (fits' : Fits least' most' second) :
    Fits (least + least') (most + most') (first ++ second) where
  narrow := by
    intro sign member
    rcases List.mem_append.mp member with member | member
    · exact fits.narrow sign member
    · exact fits'.narrow sign member
  least_le := by
    rw [List.length_append]
    exact Nat.add_le_add fits.least_le fits'.least_le
  le_most := by
    rw [List.length_append]
    exact Nat.add_le_add fits.le_most fits'.le_most

/-- The digits of a word are between one and twenty, all of them narrow. -/
theorem fits_digits (number : UInt64) : Fits 1 20 (Nat.toDigits 10 number.toNat) where
  narrow sign member := digit_size sign (Text.Integer.decimal_digits _ sign member)
  least_le := Nat.length_toDigits_pos
  le_most := word_digits number

/-- Checked base 32 of at most 54 bytes. Only the checksum is always there. -/
theorem fits_checked (address : Address) (bytes : Bytes) (short : bytes.length ≤ maxSubaddress) :
    Fits 1 93 (checkedText address bytes) := by
  obtain ⟨spare, below, count⟩ := base32_regular.encode_length (bytes ++ checksum address.toBytes)
  have five : Text.base32.width = 5 := rfl
  have limit : maxSubaddress = 54 := rfl
  have four : checksumSize = 4 := rfl
  rw [five] at below count
  rw [List.length_append, checksum_length, four] at count
  have length : (checkedText address bytes).length * 5 = 8 * (bytes.length + 4) + spare := count
  refine ⟨base32_regular.encode_narrow _, ?_, ?_⟩ <;> omega

/-- The text behind the network letter is neither empty nor too
long for the reader. -/
theorem fits_body (address : Address) : Fits 2 137 address.body := by
  have widen {least most : Nat} {text : List Char} (fits : Fits least most text)
      (enough : 2 ≤ least) (few : most ≤ 137) : Fits 2 137 text :=
    ⟨fits.narrow, Nat.le_trans enough fits.least_le, Nat.le_trans fits.le_most few⟩
  cases address with
  | id number =>
    have written : (toString number.toNat).toList = Nat.toDigits 10 number.toNat := Nat.toList_repr
    rw [body, written]
    exact widen ((fits_digits number).cons '0' rfl) (by decide) (by decide)
  | secp256k1 hash =>
    have short : hash.bytes.length ≤ maxSubaddress :=
      Nat.le_trans (Nat.le_of_eq hash.length_eq) (by decide)
    exact widen ((fits_checked _ _ short).cons '1' rfl) (by decide) (by decide)
  | actor hash =>
    have short : hash.bytes.length ≤ maxSubaddress :=
      Nat.le_trans (Nat.le_of_eq hash.length_eq) (by decide)
    exact widen ((fits_checked _ _ short).cons '2' rfl) (by decide) (by decide)
  | bls key =>
    have short : key.bytes.length ≤ maxSubaddress :=
      Nat.le_trans (Nat.le_of_eq key.length_eq) (by decide)
    exact widen ((fits_checked _ _ short).cons '3' rfl) (by decide) (by decide)
  | delegated namespaceId name =>
    have written : (toString namespaceId.toNat).toList = Nat.toDigits 10 namespaceId.toNat :=
      Nat.toList_repr
    have tail := (fits_checked (delegated namespaceId name) name.bytes name.length_le).cons 'f' rfl
    rw [body, written]
    exact widen (((fits_digits namespaceId).append tail).cons '4' rfl) (by decide) (by decide)

/-- The display form of an address reads back as the address, on either network. -/
theorem parse_display (network : Network) (address : Address) :
    parse (address.text network) = .ok address := by
  have letter : network.letter.utf8Size = 1 := by cases network <;> rfl
  have fits := (fits_body address).cons network.letter letter
  have size : Alphabet.textSize (network.letter :: address.body) =
      (network.letter :: address.body).length := text_size_exact _ fits.narrow
  have inside : ¬ ((network.letter :: address.body).length < 3 ∨
      138 < (network.letter :: address.body).length) := by
    have least := fits.least_le
    have most := fits.le_most
    omega
  have opened : (address.text network).toList = network.letter :: address.body :=
    String.toList_ofList
  unfold parse
  rw [opened, size]
  simp only [if_neg inside]
  cases network <;> exact read_body address

/-- Addresses that are displayed alike on one network are the same, since a display
form is read back. -/
theorem display_injective (network : Network) (first second : Address)
    (same : first.text network = second.text network) : first = second := by
  have read := congrArg parse same
  rw [parse_display, parse_display] at read
  exact Except.ok.inj read

/-! ## Both letters -/

/-- A text with the letter of the other network in front, if it has
the letter of one. -/
def relettered (source : String) : String :=
  match source.toList with
  | 't' :: rest => String.ofList ('f' :: rest)
  | 'f' :: rest => String.ofList ('t' :: rest)
  | _ => source

/-- Behind the limits on its length, a text is read by what follows the
    letter. The letters of both networks take the same room, so the limits do
    not tell them apart either. -/
theorem parse_relettered (source : String) : parse (relettered source) = parse source := by
  cases signs : source.toList with
  | nil => rw [relettered, signs]
  | cons letter rest =>
    by_cases test : letter = 't'
    · subst test
      rw [relettered, signs]
      simp only [parse, String.toList_ofList, signs]
      rfl
    · by_cases main : letter = 'f'
      · subst main
        rw [relettered, signs]
        simp only [parse, String.toList_ofList, signs]
        rfl
      · have same : relettered source = source := by
          unfold relettered
          rw [signs]
          split
          · exact absurd (List.cons.inj ‹_›).1 test
          · exact absurd (List.cons.inj ‹_›).1 main
          · rfl
        rw [same]

/-- The two networks write their addresses with different letters in front. -/
theorem letter_injective {network other : Network} (same : network.letter = other.letter) :
    network = other := by
  cases network <;> cases other <;> simp_all [Network.letter]

/-- The first sign of a displayed address is the letter of its network. -/
theorem text_eq_iff (network other : Network) (first second : Address) :
    first.text network = second.text other ↔ network = other ∧ first = second := by
  constructor
  · intro same
    have signs : network.letter :: first.body = other.letter :: second.body :=
      String.ofList_injective same
    obtain rfl := letter_injective (List.cons.inj signs).1
    exact ⟨rfl, display_injective network first second same⟩
  · rintro ⟨rfl, rfl⟩
    rfl

/-- An address of any protocol is read back from its text on either network, so two
    displayed texts are the same only for the same address on the same network; and
    of any text at all the letters of the networks may be exchanged: whether it is
    read as an address, and as which one, does not change. -/
theorem texts_faithful :
    (∀ network (address : Address), parse (address.text network) = .ok address) ∧
      (∀ network other (first second : Address),
        first.text network = second.text other ↔ network = other ∧ first = second) ∧
      ∀ source, parse (relettered source) = parse source :=
  ⟨parse_display, text_eq_iff, parse_relettered⟩

end Address

end FilecoinRosetta
