import FilecoinRosetta.Address
import FilecoinRosetta.Cid
import FilecoinRosetta.TokenAmount

/-!
# What a node tells about actors and peers

The state of an actor, the vesting schedule of a multisig, the peers of
a node and its version.
-/

namespace FilecoinRosetta

/-- The state of an actor. -/
structure ActorState where
  /-- The code it runs. -/
  code : Cid
  /-- The root of its own state. -/
  head : Cid
  /-- Its count of messages. -/
  nonce : UInt64
  balance : TokenAmount
  delegatedAddress : Option Address
  deriving DecidableEq

/-- How the balance of a multisig is released over time. -/
structure VestingSchedule where
  /-- The balance locked at the beginning. -/
  initialBalance : TokenAmount
  /-- The height at which the release starts. -/
  startEpoch : Int64
  /-- How long it takes. -/
  unlockDuration : Int64
  deriving DecidableEq

/-- A peer of a node. -/
structure PeerInfo where
  /-- Its name. -/
  id : String
  /-- Its network addresses, where known. -/
  addresses : Option (List String)
  deriving DecidableEq

/-- The version of a node. -/
structure NodeVersion where
  /-- The version of the software. -/
  version : String
  /-- The version of its interface. -/
  apiVersion : UInt32
  /-- Seconds between heights. -/
  blockDelay : UInt64
  deriving DecidableEq

end FilecoinRosetta
