import FilecoinRosetta.Digest.Blake2b
import FilecoinRosetta.Encoding.Varint
import FilecoinRosetta.Network
import FilecoinRosetta.Text.Alphabets
import FilecoinRosetta.Text.Integer

/-!
# Addresses

An address is an actor's number, a hash or key of one of three protocols, or a
delegated address within the namespace of a managing actor. Its text starts with the
letter of a network and the digit of its protocol; numbers are decimal, everything
else is base 32 with a checksum. Both letters are read at all times, and neither the
address nor its acceptance depends on which was used.
-/

namespace FilecoinRosetta

/-- The largest part of a delegated address that its managing actor may choose. -/
def maxSubaddress : Nat := 54

/-- The part of a delegated address that its managing actor chose. -/
structure Subaddress where
  bytes : Bytes
  /-- At most 54 of them. -/
  length_le : bytes.length ≤ maxSubaddress
  deriving DecidableEq

/-- An address of any protocol. -/
inductive Address where
  /-- Protocol 0: the number of an actor. -/
  | id (number : UInt64)
  /-- Protocol 1: the hash of a secp256k1 key. -/
  | secp256k1 (hash : SizedBytes 20)
  /-- Protocol 2: the hash of an actor's creation. -/
  | actor (hash : SizedBytes 20)
  /-- Protocol 3: a BLS key. -/
  | bls (key : SizedBytes 48)
  /-- Protocol 4: a name within the namespace of a managing actor. -/
  | delegated (namespaceId : UInt64) (subaddress : Subaddress)
  deriving DecidableEq

namespace Address

instance : Inhabited Address := ⟨id 0⟩

/-- The number of the protocol. -/
def protocol : Address → Nat
  | id _ => 0
  | secp256k1 _ => 1
  | actor _ => 2
  | bls _ => 3
  | delegated _ _ => 4

/-- Whether the address is an actor's number. -/
def isId : Address → Bool
  | id _ => true
  | _ => false

/-- The binary form behind the protocol byte. -/
def payload : Address → Bytes
  | id number => Encoding.Varint.encode number.toNat
  | secp256k1 hash => hash.bytes
  | actor hash => hash.bytes
  | bls key => key.bytes
  | delegated namespaceId subaddress =>
      Encoding.Varint.encode namespaceId.toNat ++ subaddress.bytes

/-- The binary form: the protocol byte and the payload. -/
def toBytes (address : Address) : Bytes :=
  UInt8.ofNat address.protocol :: address.payload

/-- Why a text or a byte string is no address. -/
inductive ParseError where
  /-- The first letter is of no network. -/
  | unknownNetwork
  /-- The protocol is none of the five. -/
  | unknownProtocol
  /-- The payload is not what the protocol asks for. -/
  | invalidPayload
  /-- The text, a number in it, or the bytes have an impossible length. -/
  | invalidLength
  /-- The checksum is another one. -/
  | invalidChecksum
  /-- The bytes of a payload have the wrong number. -/
  | payloadLength (length : Nat)
  /-- The text is no base 32. -/
  | base32 (cause : Text.BitGroups.DecodeError)
  deriving DecidableEq, Repr

/-- The wording of a parse error. -/
def ParseError.message : ParseError → String
  | .unknownNetwork => "Unknown address network"
  | .unknownProtocol => "Unknown address protocol"
  | .invalidPayload => "Invalid address payload"
  | .invalidLength => "Invalid address length"
  | .invalidChecksum => "Invalid address checksum"
  | .payloadLength length => "Invalid payload length: " ++ toString length
  | .base32 cause => "Decoding for address failed: " ++ cause.message

/-! ## Binary form -/

/-- A payload of fixed size. -/
def sized (size : Nat) (payload : Bytes) : Except ParseError (SizedBytes size) :=
  match SizedBytes.ofBytes? size payload with
  | some found => .ok found
  | none => .error (.payloadLength payload.length)

/-- The address with the given namespace and name in it. -/
def delegate (namespaceId : UInt64) (name : Bytes) : Except ParseError Address :=
  if length_le : name.length ≤ maxSubaddress then .ok (.delegated namespaceId ⟨name, length_le⟩)
  else .error (.payloadLength name.length)

/-- Read the binary form; all of it must belong to the address. -/
def ofBytes (bytes : Bytes) : Except ParseError Address :=
  match bytes with
  | [] => .error .invalidLength
  | [_] => .error .invalidLength
  | protocol :: payload =>
      match protocol.toNat with
      | 0 =>
          match Encoding.Varint.decode payload with
          | .ok (number, []) => .ok (.id number)
          | _ => .error .invalidPayload
      | 1 => (sized 20 payload).map Address.secp256k1
      | 2 => (sized 20 payload).map Address.actor
      | 3 => (sized 48 payload).map Address.bls
      | 4 =>
          match Encoding.Varint.decode payload with
          | .ok (namespaceId, name) => delegate namespaceId name
          | .error _ => .error .invalidPayload
      | _ => .error .unknownProtocol

/-! ## Text -/

/-- The number of bytes in a checksum. -/
def checksumSize : Nat := 4

/-- The checksum of a binary form. -/
def checksum (bytes : Bytes) : Bytes :=
  Digest.Blake2b.digest checksumSize bytes

/-- Bytes and the checksum of the whole address in base 32. -/
def checkedText (address : Address) (bytes : Bytes) : List Char :=
  Text.base32.encode (bytes ++ checksum address.toBytes)

/-- The text behind the network letter. -/
def body : Address → List Char
  | id number => '0' :: (toString number.toNat).toList
  | secp256k1 hash => '1' :: checkedText (secp256k1 hash) hash.bytes
  | actor hash => '2' :: checkedText (actor hash) hash.bytes
  | bls key => '3' :: checkedText (bls key) key.bytes
  | delegated namespaceId subaddress =>
      '4' :: (toString namespaceId.toNat).toList ++
        'f' :: checkedText (delegated namespaceId subaddress) subaddress.bytes

/-- The display form on a network. -/
def text (network : Network) (address : Address) : String :=
  String.ofList (network.letter :: address.body)

/-- Read a number of at most twenty digits. -/
def readNumber (digits : List Char) : Except ParseError UInt64 :=
  if Text.BitGroups.Alphabet.textSize digits > 20 then .error .invalidLength
  else match Text.Integer.uint64? (String.ofList digits) with
    | some number => .ok number
    | none => .error .invalidPayload

/-- Read base 32 and split the checksum off its end. -/
def readChecked (source : List Char) : Except ParseError (Bytes × Bytes) :=
  match Text.base32.decode source with
  | .error cause => .error (.base32 cause)
  | .ok bytes =>
      if bytes.length < checksumSize then .error .invalidLength
      else .ok (bytes.splitAt (bytes.length - checksumSize))

/-- Read an address of a protocol with a payload of fixed size. The checksum is
    looked at before the size. -/
def readHashed (protocol size : Nat) (make : SizedBytes size → Address) (source : List Char) :
    Except ParseError Address := do
  let (payload, found) ← readChecked source
  if checksum (UInt8.ofNat protocol :: payload) ≠ found then .error .invalidChecksum
  else match SizedBytes.ofBytes? size payload with
    | some bytes => .ok (make bytes)
    | none => .error .invalidPayload

/-- Read a delegated address: the namespace in digits, the letter `f`,
and the checked name. -/
def readDelegated (source : List Char) : Except ParseError Address :=
  match source.dropWhile (· != 'f') with
  | [] => .error .invalidPayload
  | _ :: checked => do
      let namespaceId ← readNumber (source.takeWhile (· != 'f'))
      let (name, found) ← readChecked checked
      let address ← delegate namespaceId name
      if checksum address.toBytes ≠ found then .error .invalidChecksum else .ok address

/-- Read the text behind the network letter. -/
def readBody : List Char → Except ParseError Address
  | '0' :: digits => (readNumber digits).map Address.id
  | '1' :: source => readHashed 1 20 Address.secp256k1 source
  | '2' :: source => readHashed 2 20 Address.actor source
  | '3' :: source => readHashed 3 48 Address.bls source
  | '4' :: source => readDelegated source
  | _ => .error .unknownProtocol

/-- Read an address of either network. -/
def parse (source : String) : Except ParseError Address :=
  let size := Text.BitGroups.Alphabet.textSize source.toList
  if size < 3 ∨ 138 < size then .error .invalidLength
  else match source.toList with
    | 't' :: body => readBody body
    | 'f' :: body => readBody body
    | _ => .error .unknownNetwork

end Address

end FilecoinRosetta
