import FilecoinRosetta.Address
import FilecoinRosetta.Encoding.Cbor

/-!
# Payloads that name accounts

Two methods move value between addresses that stand in their payload: creating an
actor returns its addresses, and replacing a signer of a multisig takes the old and
the new one. Both payloads are CBOR lists of two addresses in binary form.
-/

namespace FilecoinRosetta.Actor

/-- Read a list of exactly two addresses. -/
def readAddresses? (payload : Bytes) : Option (Address × Address) := do
  match ← Encoding.Cbor.readByteStrings? 2 payload with
  | [first, second] =>
      some (← (Address.ofBytes first).toOption, ← (Address.ofBytes second).toOption)
  | _ => none

/-- Write a list of two addresses. -/
def writeAddresses (first second : Address) : Bytes :=
  Encoding.Cbor.list
    [Encoding.Cbor.byteString first.toBytes, Encoding.Cbor.byteString second.toBytes]

/-- What creating an actor returns. -/
structure Creation where
  /-- The number of the new actor. -/
  idAddress : Address
  /-- The address that survives a reordering of the chain. -/
  robustAddress : Address
  deriving DecidableEq

/-- Read what creating an actor returned. -/
def Creation.read? (payload : Bytes) : Option Creation :=
  (readAddresses? payload).map fun (idAddress, robustAddress) => ⟨idAddress, robustAddress⟩

/-- What replacing a signer takes. -/
structure SignerSwap where
  /-- The signer that leaves. -/
  old : Address
  /-- The signer that comes. -/
  new : Address
  deriving DecidableEq

/-- Read the parameters of replacing a signer. -/
def SignerSwap.read? (payload : Bytes) : Option SignerSwap :=
  (readAddresses? payload).map fun (old, new) => ⟨old, new⟩

end FilecoinRosetta.Actor
