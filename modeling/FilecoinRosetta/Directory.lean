import FilecoinRosetta.Actor.Registry
import FilecoinRosetta.Network
import FilecoinRosetta.Program

/-!
# Looking up addresses

Which actor stands behind an address, which method a number stands for, and by
which of its addresses an actor is reported. Multisigs and miners are reported
by number, so that one actor reads the same whichever of its addresses was
used; everything else is reported by an address that survives a reordering of
the chain, and an account by its key. Look-ups ask for the state at the head
and learn from every answer.
-/

namespace FilecoinRosetta

/-- Why a look-up fails. -/
inductive LookupError where
  /-- The node gave no answer. -/
  | node (failure : Node.Failure)
  /-- There is no actor at the address. -/
  | noActor (name : String)
  deriving DecidableEq, Repr

/-- The wording of a look-up error with all its causes. -/
def LookupError.message : LookupError → String
  | .node failure => failure.message
  | .noActor name => "actor " ++ name ++ " not found"

/-- A program that looks something up. -/
abbrev Lookup (α : Type) := ExceptT LookupError Program α

namespace Lookup

/-- A call whose failure ends the look-up. -/
def call (call : Node.Call) : Lookup call.Answer :=
  ExceptT.mk do return (← Program.call call).mapError LookupError.node

/-- What is known about an address. -/
def entry (name : String) : Lookup AddressCache.Entry :=
  ExceptT.lift (Program.entry name)

/-- Keep a fact about an address. -/
def keep (name : String) (fact : AddressCache.Fact) : Lookup Unit :=
  ExceptT.lift (Program.keep name fact)

end Lookup

/-- What look-ups depend on, the node apart. -/
structure Directory where
  /-- The meaning of codes. -/
  registry : Actor.Registry
  /-- The letter of displayed addresses. -/
  network : Network

namespace Directory

/-- The code of the actor at an address. -/
def actorCode (directory : Directory) (address : Address) : Lookup Cid := do
  let name := address.text directory.network
  match (← Lookup.entry name).code with
  | some code => return code
  | none =>
      match ← Lookup.call (.actor address .empty) with
      | none => throw (.noActor name)
      | some state =>
          Lookup.keep name (.code state.code)
          return state.code

/-- The kind of the actor at an address, if its code is known. -/
def actorKind (directory : Directory) (address : Address) : Lookup (Option ActorKind) := do
  let code ← directory.actorCode address
  return (directory.registry.resolve? code).map Actor.Descriptor.kind

/-- Whether actors of a kind are reported by number. -/
def reportedByNumber (kind : Option ActorKind) : Bool :=
  kind == some .multisig || kind == some .storageMiner

/-- The address that an actor of a kind is reported by, from
one of its addresses. -/
def reportedAddress (kind : Option ActorKind) (address : Address) : Lookup Address :=
  if reportedByNumber kind then
    if address.isId then return address else Lookup.call (.idAddress address .empty)
  else if !address.isId then return address
  else if kind == some .account then Lookup.call (.accountKey address .empty)
  else Lookup.call (.robustAddress address .empty)

/-- The canonical form of an address: the text of the address that its
actor is reported by. -/
def canonicalText (directory : Directory) (address : Address) : Lookup String := do
  let name := address.text directory.network
  match (← Lookup.entry name).canonical with
  | some text => return text
  | none =>
      let kind ← directory.actorKind address
      let text := (← reportedAddress kind address).text directory.network
      Lookup.keep name (.canonical text)
      return text

/-- The canonical form of an address, or the address itself if it
cannot be looked up. -/
def canonicalOrOwnText (directory : Directory) (address : Address) : Program String := do
  match ← (directory.canonicalText address).run with
  | .ok text => return text
  | .error _ => return address.text directory.network

/-- The name of method 0, which every actor has. -/
def sendName : String := "Send"

/-- The name of method 1, which every actor has. -/
def constructorName : String := "Constructor"

/-- The name of a method of the actor with a code. Accounts take any exported
    method: it goes by the name it has elsewhere, or is taken for a plain send. -/
def methodOfCode (directory : Directory) (code : Cid) (number : UInt64) : String :=
  match directory.registry.resolve? code with
  | none => Actor.unknownName
  | some descriptor =>
      match descriptor.methodName? number with
      | some name => name
      | none =>
          if descriptor.kind.isAccountLike && Actor.firstExported ≤ number then
            (Actor.Registry.findMethod? number).getD sendName
          else Actor.unknownName

/-- The name of a method of the actor at an address. -/
def methodName (directory : Directory) (address : Address) (number : UInt64) : Program String :=
  if number = 0 then return sendName
  else if number = 1 then return constructorName
  else do
    match ← (directory.actorCode address).run with
    | .ok code => return directory.methodOfCode code number
    | .error _ => return Actor.unknownName

end Directory

end FilecoinRosetta
