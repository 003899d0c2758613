import FilecoinRosetta.Actor.Params
import FilecoinRosetta.Directory
import FilecoinRosetta.Trace

/-!
# Value that moves by a call

Which addresses a call moves value between depends on the name of its method alone.
Plain transfers pay the receiver the value of the call. Creating an actor forwards
the value to the new actor, which makes a second movement. Proposals and replaced
signers are told as movements of nothing.
-/

namespace FilecoinRosetta

/-- A value that moves from one address to another. -/
structure Movement where
  /-- The address that pays. -/
  sender : Address
  /-- The address that is paid. -/
  receiver : Address
  value : TokenAmount
  deriving DecidableEq

namespace Movement

/-- The name of the method that creates an actor. -/
def execName : String := "Exec"

/-- The name of the method that proposes a message of a multisig. -/
def proposeName : String := "Propose"

/-- The name of the method that replaces a signer of a multisig. -/
def swapSignerName : String := "SwapSigner"

/-- The names of the methods that pay the value of the call to the actor called. -/
def payingNames : List String :=
  [Directory.sendName, "AddBalance", execName, "AwardBlockReward", "ApplyRewards",
   "OnDeferredCronEvent", "PreCommitSector", "ProveCommitSector", "SubmitWindowedPoSt"]

/-- The payment of a new actor by the actor that created it, if the creation
succeeded. -/
def forwarded (call : CallTrace) (result : ReturnTrace) : List Movement :=
  if result.isSuccess then
    match Actor.Creation.read? result.data with
    | some creation => [⟨call.receiver, creation.robustAddress, call.value⟩]
    | none => []
  else []

/-- The movements of a call of the method of a name. -/
def ofCall (name : String) (call : CallTrace) (result : ReturnTrace) : List Movement :=
  if name = proposeName then [⟨call.sender, call.receiver, 0⟩]
  else if name = swapSignerName then
    match Actor.SignerSwap.read? call.params with
    | some swap => [⟨swap.old, swap.new, 0⟩]
    | none => []
  else if payingNames.contains name && !call.value.isZero then
    ⟨call.sender, call.receiver, call.value⟩ ::
      (if name = execName then forwarded call result else [])
  else []

end Movement

end FilecoinRosetta
