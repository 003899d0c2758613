import FilecoinRosetta.Address
import FilecoinRosetta.Cid
import FilecoinRosetta.Encoding.Cbor
import FilecoinRosetta.TokenAmount

/-!
# Messages

A message asks an actor to run a method and moves value to it. Nodes report messages
with the identifier they gave them; where that is missing it is derived from the
CBOR form. The identity of a signed message covers the signature as well, unless it
is a BLS signature, which blocks store apart.
-/

namespace FilecoinRosetta

/-- A message. -/
structure Message where
  /-- The version of the format. -/
  version : UInt64
  receiver : Address
  sender : Address
  /-- The sender's count of messages. -/
  nonce : UInt64
  /-- The value that moves. -/
  value : TokenAmount
  /-- The most gas the message may use. -/
  gasLimit : UInt64
  /-- The highest price of gas. -/
  gasFeeCap : TokenAmount
  /-- The share of the price that goes to the miner. -/
  gasPremium : TokenAmount
  /-- The method to run. -/
  method : UInt64
  /-- The parameters of the method. -/
  params : Bytes
  /-- The identifier, where the node gave one. -/
  cid : Option Cid
  deriving DecidableEq

/-- Why no identity can be derived. -/
inductive IdentityError where
  /-- An amount is too large to be encoded. -/
  | amountTooLarge
  /-- Delegated signatures have no derivation. -/
  | delegatedSignature
  /-- The signature is of no known type. -/
  | unknownSignature (type : UInt8)
  deriving DecidableEq, Repr

/-- The wording of an identity error. -/
def IdentityError.message : IdentityError → String
  | .amountTooLarge =>
      "couldn't encode message: Serialization error for Cbor protocol: Msg(\"BigInt too large\")"
  | .delegatedSignature => "delegated signatures have no CID derivation"
  | .unknownSignature type => "unknown signature type " ++ toString type.toNat

namespace Message

/-- The CBOR form of an amount. -/
def amountBytes (amount : TokenAmount) : Except IdentityError Bytes :=
  match Encoding.Cbor.integer? amount.atto with
  | some bytes => .ok bytes
  | none => .error .amountTooLarge

/-- The CBOR form: a list of ten items. The given identifier is not part of it. -/
def cborBytes (message : Message) : Except IdentityError Bytes := do
  let value ← amountBytes message.value
  let feeCap ← amountBytes message.gasFeeCap
  let premium ← amountBytes message.gasPremium
  .ok (Encoding.Cbor.list
    [Encoding.Cbor.unsigned message.version,
     Encoding.Cbor.byteString message.receiver.toBytes,
     Encoding.Cbor.byteString message.sender.toBytes,
     Encoding.Cbor.unsigned message.nonce,
     value,
     Encoding.Cbor.unsigned message.gasLimit,
     feeCap,
     premium,
     Encoding.Cbor.unsigned message.method,
     Encoding.Cbor.byteString message.params])

/-- The identifier: the given one, or the one derived from the CBOR form. -/
def identity (message : Message) : Except IdentityError Cid :=
  match message.cid with
  | some given => .ok given
  | none => message.cborBytes.map Cid.ofCbor

end Message

/-- A signature. -/
structure Signature where
  /-- The number of its type. -/
  type : UInt8
  data : Bytes
  deriving DecidableEq

namespace Signature

/-- The type of secp256k1 signatures. -/
def secp256k1 : UInt8 := 1

/-- The type of BLS signatures. -/
def bls : UInt8 := 2

/-- The type of signatures that a managing actor checks. -/
def delegated : UInt8 := 3

/-- The CBOR form: the type and the data as one byte string. -/
def cborBytes (signature : Signature) : Except IdentityError Bytes :=
  if signature.type = secp256k1 ∨ signature.type = bls then
    .ok (Encoding.Cbor.byteString (signature.type :: signature.data))
  else if signature.type = delegated then .error .delegatedSignature
  else .error (.unknownSignature signature.type)

end Signature

/-- A message with its signature. -/
structure SignedMessage where
  message : Message
  signature : Signature
  /-- The identifier, where the node gave one. -/
  cid : Option Cid
  deriving DecidableEq

namespace SignedMessage

/-- The CBOR form of message and signature. A signature that has no
form is reported first. -/
def cborBytes (signed : SignedMessage) : Except IdentityError Bytes := do
  let signature ← signed.signature.cborBytes
  let message ← signed.message.cborBytes
  .ok (Encoding.Cbor.list [message, signature])

/-- The identifier: the given one, that of the message under a BLS signature, or the
    one derived from message and signature. -/
def identity (signed : SignedMessage) : Except IdentityError Cid :=
  match signed.cid with
  | some given => .ok given
  | none =>
      if signed.signature.type = Signature.bls then signed.message.identity
      else signed.cborBytes.map Cid.ofCbor

end SignedMessage

end FilecoinRosetta
