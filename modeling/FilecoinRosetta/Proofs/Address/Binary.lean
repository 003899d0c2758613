import FilecoinRosetta.Address
import FilecoinRosetta.Proofs.Encoding.Varint

/-!
# Addresses in binary form

The binary form of an address reads back as the address: the first byte names the
protocol, and behind it stands all of the payload. So addresses of all protocols are
told apart by their binary forms, which take 65 bytes at most. Reading takes these
forms and no others, but for numbers whose ten groups go beyond a word.
-/

namespace FilecoinRosetta.Address

open Encoding
  (Varint.decode_encode Varint.decode_ok_iff Varint.encode Varint.encode_ne_nil
    Varint.encode_length_le)

/-- A payload of the right size is taken by a protocol that asks for the size. It is
not empty, as no payload may be. -/
theorem ofBytes_sized {size : Nat} (payload : SizedBytes (size + 1)) {protocol : UInt8}
    {make : SizedBytes (size + 1) → Address}
    (asks : ∀ first later, ofBytes (protocol :: first :: later) =
      (sized (size + 1) (first :: later)).map make) :
    ofBytes (protocol :: payload.bytes) = .ok (make payload) := by
  obtain ⟨first, later, written⟩ := List.exists_cons_of_length_eq_add_one payload.length_eq
  have found : sized (size + 1) (first :: later) = .ok payload := by
    rw [sized, SizedBytes.of_bytes_iff.mpr written]
  rw [written, asks, found]
  rfl

/-- A name that is not too long is taken as it is. -/
theorem delegate_name (namespaceId : UInt64) (name : Subaddress) :
    delegate namespaceId name.bytes = .ok (.delegated namespaceId name) :=
  dif_pos name.length_le

/-- The binary form of an address reads back, whatever the kind of the address. -/
theorem ofBytes_toBytes (address : Address) : ofBytes address.toBytes = .ok address := by
  cases address with
  | id number =>
    have read := Varint.decode_encode number []
    obtain ⟨first, later, written⟩ := List.exists_cons_of_ne_nil (Varint.encode_ne_nil number.toNat)
    rw [List.append_nil, written] at read
    rw [toBytes, payload, written]
    simp [ofBytes, protocol, read]
  | secp256k1 hash => exact ofBytes_sized hash fun _ _ => rfl
  | actor hash => exact ofBytes_sized hash fun _ _ => rfl
  | bls key => exact ofBytes_sized key fun _ _ => rfl
  | delegated namespaceId subaddress =>
    have read := Varint.decode_encode namespaceId subaddress.bytes
    obtain ⟨first, later, written⟩ :=
      List.exists_cons_of_ne_nil (Varint.encode_ne_nil namespaceId.toNat)
    rw [written, List.cons_append] at read
    rw [toBytes, payload, written, List.cons_append]
    simp [ofBytes, protocol, read, delegate_name]

/-- The binary forms of different addresses are different, since each form is read
back as its address. -/
theorem toBytes_injective {address other : Address} (same : address.toBytes = other.toBytes) :
    address = other := by
  have read := ofBytes_toBytes address
  rw [same, ofBytes_toBytes] at read
  exact (Except.ok.inj read).symm

/-- A binary form takes at most 65 bytes, those of a delegated address with the
longest number and the longest name. -/
theorem toBytes_length_le (address : Address) : address.toBytes.length ≤ 65 := by
  have number (word : UInt64) : (Encoding.Varint.encode word.toNat).length ≤ 10 :=
    Varint.encode_length_le 9 _ (Nat.lt_of_lt_of_le word.toNat_lt (by decide))
  rw [toBytes, List.length_cons]
  cases address with
  | id word => exact Nat.succ_le_succ (Nat.le_trans (number word) (by decide))
  | secp256k1 hash => exact Nat.succ_le_succ (hash.length_eq ▸ by decide)
  | actor hash => exact Nat.succ_le_succ (hash.length_eq ▸ by decide)
  | bls key => exact Nat.succ_le_succ (key.length_eq ▸ by decide)
  | delegated word name =>
    have within := number word
    have short : name.bytes.length ≤ 54 := name.length_le
    rw [payload, List.length_append]
    omega

/-! ## What is read -/

/-- The bytes that stand for an address: the protocol and a payload of its size. A
number stands for its lowest 64 bits, so that a number beyond a word, which ten
groups have room for, is another form of a smaller one. -/
inductive BinaryForm : Bytes → Address → Prop
  | id {number : Nat} (groups : number < 128 ^ 10) :
      BinaryForm (0 :: Encoding.Varint.encode number) (.id (UInt64.ofNat number))
  | secp256k1 (hash : SizedBytes 20) : BinaryForm (1 :: hash.bytes) (.secp256k1 hash)
  | actor (hash : SizedBytes 20) : BinaryForm (2 :: hash.bytes) (.actor hash)
  | bls (key : SizedBytes 48) : BinaryForm (3 :: key.bytes) (.bls key)
  | delegated {number : Nat} (groups : number < 128 ^ 10) (name : Subaddress) :
      BinaryForm (4 :: Encoding.Varint.encode number ++ name.bytes)
        (.delegated (UInt64.ofNat number) name)

/-- A payload of a fixed size is read exactly if it has that size, and the address
is made of just its bytes. -/
theorem sized_map_ok_iff {size : Nat} {payload : Bytes} {make : SizedBytes size → Address}
    {address : Address} :
    (sized size payload).map make = .ok address ↔
      ∃ hash : SizedBytes size, payload = hash.bytes ∧ address = make hash := by
  unfold sized
  constructor
  · intro read
    split at read
    · rename_i hash found
      exact ⟨hash, (SizedBytes.of_bytes_iff.mp found).symm, (Except.ok.inj read).symm⟩
    · contradiction
  · rintro ⟨hash, rfl, rfl⟩
    rw [SizedBytes.of_bytes_iff.mpr rfl]
    rfl

/-- A delegated address is read from a name exactly if the name is short enough. No
other condition is put on it. -/
theorem delegate_ok_iff {namespaceId : UInt64} {name : Bytes} {address : Address} :
    delegate namespaceId name = .ok address ↔
      ∃ short : Subaddress, name = short.bytes ∧ address = .delegated namespaceId short := by
  constructor
  · intro made
    unfold delegate at made
    split at made
    · rename_i short
      exact ⟨⟨name, short⟩, rfl, (Except.ok.inj made).symm⟩
    · contradiction
  · rintro ⟨short, rfl, rfl⟩
    exact delegate_name namespaceId short

/-- Bytes that stand for an address are read as it, so the form leaves no
room for two addresses. -/
theorem BinaryForm.read {bytes : Bytes} {address : Address} (form : BinaryForm bytes address) :
    ofBytes bytes = .ok address := by
  cases form with
  | @id number groups =>
    obtain ⟨first, later, written⟩ := List.exists_cons_of_ne_nil (Varint.encode_ne_nil number)
    have read := Varint.decode_ok_iff.mpr ⟨number, groups, rfl, (List.append_nil _).symm⟩
    rw [written] at read ⊢
    simp [ofBytes, read]
  | secp256k1 hash => exact ofBytes_sized hash fun _ _ => rfl
  | actor hash => exact ofBytes_sized hash fun _ _ => rfl
  | bls key => exact ofBytes_sized key fun _ _ => rfl
  | @delegated number groups name =>
    obtain ⟨first, later, written⟩ := List.exists_cons_of_ne_nil (Varint.encode_ne_nil number)
    have read :=
      Varint.decode_ok_iff.mpr ⟨number, groups, rfl, (rfl : Varint.encode number ++ name.bytes = _)⟩
    rw [written, List.cons_append] at read
    rw [written, List.cons_append, List.cons_append]
    simp [ofBytes, read, delegate_name]

/-- Whatever is read as an address stands for it. There is no other way to write the
address, since every form is read as one address only. -/
theorem form_of_read {bytes : Bytes} {address : Address} (read : ofBytes bytes = .ok address) :
    BinaryForm bytes address := by
  unfold ofBytes at read
  split at read
  · contradiction
  · contradiction
  · rename_i first payload _
    split at read
    · rename_i isProtocol
      obtain rfl : first = 0 := UInt8.toNat_inj.mp isProtocol
      split at read
      · rename_i word number
        obtain ⟨number, groups, rfl, rfl⟩ := Varint.decode_ok_iff.mp number
        obtain rfl := Except.ok.inj read
        rw [List.append_nil]
        exact .id groups
      · contradiction
    · rename_i isProtocol
      obtain rfl : first = 1 := UInt8.toNat_inj.mp isProtocol
      obtain ⟨hash, rfl, rfl⟩ := sized_map_ok_iff.mp read
      exact .secp256k1 hash
    · rename_i isProtocol
      obtain rfl : first = 2 := UInt8.toNat_inj.mp isProtocol
      obtain ⟨hash, rfl, rfl⟩ := sized_map_ok_iff.mp read
      exact .actor hash
    · rename_i isProtocol
      obtain rfl : first = 3 := UInt8.toNat_inj.mp isProtocol
      obtain ⟨key, rfl, rfl⟩ := sized_map_ok_iff.mp read
      exact .bls key
    · rename_i isProtocol
      obtain rfl : first = 4 := UInt8.toNat_inj.mp isProtocol
      split at read
      · rename_i word name number
        obtain ⟨number, groups, rfl, rfl⟩ := Varint.decode_ok_iff.mp number
        obtain ⟨short, rfl, rfl⟩ := delegate_ok_iff.mp read
        exact .delegated groups short
      · contradiction
    · contradiction

/-- Bytes are read as an address exactly if they are its binary form. The cases are
those of the protocol byte in front. -/
theorem ofBytes_ok_iff {bytes : Bytes} {address : Address} :
    ofBytes bytes = .ok address ↔ BinaryForm bytes address :=
  ⟨form_of_read, BinaryForm.read⟩

/-- The bytes that an address is written as are its binary form, so all addresses
can be written and read. -/
theorem toBytes_form (address : Address) : BinaryForm address.toBytes address :=
  ofBytes_ok_iff.mp (ofBytes_toBytes address)

end FilecoinRosetta.Address
