import FilecoinRosetta.Proofs.Directory.Identity
import FilecoinRosetta.Proofs.Directory.Queries
import FilecoinRosetta.Proofs.Rosetta.LookUps

/-!
# An actor reads the same

Requests and look-ups come to a service at any time and share what is known
about addresses. Whatever they leave behind, on a node that tells the same
actors at all times an actor is reported by one form, and that form denotes the
actor and is reported by itself.
-/

namespace FilecoinRosetta.Rosetta

open AddressCache Program

/-! ## Services at work -/

/-- What a service does for those who come to it. -/
inductive Task where
  /-- It answers a request. -/
  | serve (anyOrigin : Bool) (request : HttpRequest)
  /-- It looks something up. -/
  | look (query : Query)

namespace Task

/-- What a task comes to. -/
@[reducible] def Result : Task → Type
  | serve _ _ => HttpResponse
  | look query => query.Answer

/-- How a service does it. -/
def program (service : Service) : (task : Task) → Program task.Result
  | serve anyOrigin request => service.serve anyOrigin request
  | look query => query.program service.directory

/-- It takes look-ups only, and nothing else reads or changes what
is known about addresses. -/
theorem program_uses (service : Service) (task : Task) :
    service.directory.Uses (task.program service) := by
  have inherited := Directory.Uses.inherited service.directory
  cases task with
  | serve anyOrigin request => exact .serve service anyOrigin request
  | look query =>
    cases query with
    | code address => exact .actorCode address
    | kind address => exact (Directory.Uses.actorCode address).attempt fun _ => .result _
    | canonical address => exact .canonicalText address
    | canonicalOrOwn address => exact inherited.canonicalOrOwnText address
    | methodName address number => exact inherited.methodName address number

end Task

namespace Service

/-- What a service may get to from its start. Tasks begin at any time and take
turns in any way. -/
inductive Reaches (service : Service) (node : Node) : Pool Task.Result → Prop where
  /-- Nothing is to be done, and nothing is known. -/
  | start : Reaches service node ⟨[], .fresh⟩
  /-- A task begins. -/
  | begin {pool : Pool Task.Result} (reaches : Reaches service node pool) (task : Task) :
      Reaches service node ⟨pool.threads ++ [⟨task, task.program service⟩], pool.session⟩
  /-- One of the tasks takes a turn. -/
  | turn {pool : Pool Task.Result} (reaches : Reaches service node pool) (index : Nat) :
      Reaches service node (pool.turn node index)

section

variable {service : Service} {population : Population} {node : Node} {pool : Pool Task.Result}

/-- Turns may be taken one after another, by any schedule, and every cache on
the way is reached. -/
theorem Reaches.run (reaches : service.Reaches node pool) (schedule : List Nat) :
    service.Reaches node (pool.run node schedule) := by
  induction schedule generalizing pool with
  | nil => exact reaches
  | cons index rest ih => exact ih (reaches.turn index)

/-- A task that begins next and is left alone goes through its whole run. -/
theorem Reaches.follow (reaches : service.Reaches node pool) (task : Task) :
    ∃ later, service.Reaches node later ∧
      later.session = ((task.program service).run node pool.session).2 := by
  have begun := reaches.begin task
  have underway : (pool.threads ++ [⟨task, task.program service⟩])[pool.threads.length]? =
      some ⟨task, task.program service⟩ := by simp
  generalize pool.threads ++ _ = threads at begun underway
  obtain ⟨schedule, ended⟩ := (⟨threads, pool.session⟩ : Pool Task.Result).run_alone node underway
  exact ⟨_, begun.run schedule, ended⟩

/-- On a consistent node, whatever a service knows and is about to
learn fits the actors. -/
theorem Reaches.fits (reaches : service.Reaches node pool)
    (consistent : node.Consistent service.directory population) :
    pool.Minding node (service.directory.Fits population) := by
  induction reaches with
  | start => exact ⟨List.forall_mem_nil _, obeys_empty⟩
  | @begin pool _ task ih =>
    refine ⟨fun thread member => ?_, ih.obeys⟩
    rcases List.mem_append.mp member with before | begun
    · exact ih.minds thread before
    · obtain rfl := List.mem_singleton.mp begun
      exact (task.program_uses service).minds consistent
  | turn _ index ih => exact ih.turn index

/-- What the look-up of a canonical form comes to in a session. -/
def canonicalAt (service : Service) (node : Node) (session : Session) (address : Address) :
    Except LookupError String :=
  ((service.directory.canonicalText address).run.run node session).1

/-- Wherever a service has got to, an actor is reported by an address that it
may be reported by. -/
theorem Reaches.reports (reaches : service.Reaches node pool)
    (consistent : node.Consistent service.directory population) {address : Address}
    {number : UInt64} (owned : population.owner address = some number) :
    ∃ reported : Address,
      service.canonicalAt node pool.session address =
        .ok (reported.text service.directory.network) ∧
      service.directory.Reports population number address reported :=
  ((Directory.canonicalText_minds consistent address).run
    (reaches.fits consistent).obeys).1 number owned

/-- A text reports an actor that was looked up by one of its addresses, and is the
same for others of them. -/
structure ReadsAlike (service : Service) (node : Node) (population : Population) (number : UInt64)
    (address : Address) (text : String) : Prop where
  /-- Multisigs and miners are reported by number. -/
  byNumber : service.directory.kindOf (population.code number) = some .multisig ∨
      service.directory.kindOf (population.code number) = some .storageMiner →
    text = (Address.id number).text service.directory.network
  /-- An account is reported by its key, for the number and for the key. -/
  byKey : service.directory.kindOf (population.code number) = some .account →
    ∃ key, population.key number = some key ∧
      (address = .id number ∨ address = key → text = key.text service.directory.network)
  /-- The text is that of an address of the actor, which is reported by it, wherever
  the service gets to. -/
  again : ∃ reported, Address.parse text = .ok reported ∧ population.owner reported = some number ∧
    ∀ later, service.Reaches node later → service.canonicalAt node later.session reported = .ok text

/-- On a consistent node an actor reads the same, whichever of its addresses is
looked up and whatever a service did and learned before. What carries the proof is a
law for caches: all that is known under a name fits the actor that the name belongs
to. Look-ups keep it, and so does all that is made of them. -/
theorem actor_reads_alike (consistent : node.Consistent service.directory population)
    {address : Address} {number : UInt64} (owned : population.owner address = some number)
    (reaches : service.Reaches node pool) :
    ∃ text, service.canonicalAt node pool.session address = .ok text ∧
      service.ReadsAlike node population number address text := by
  obtain ⟨reported, found, reports⟩ := reaches.reports consistent owned
  refine ⟨reported.text service.directory.network, found, ?_, ?_, ?_⟩
  · intro kind
    have byNumber :
        Directory.reportedByNumber (service.directory.kindOf (population.code number)) = true := by
      rcases kind with isMultisig | isMiner
      · rw [isMultisig]
        rfl
      · rw [isMiner]
        rfl
    rw [reports.byNumber byNumber]
  · intro isAccount
    obtain ⟨key, isKey, -⟩ := consistent.key (population.id_owned owned) isAccount
    exact ⟨key, isKey, fun either => by rw [reports.account_key isAccount isKey either.symm]⟩
  · refine ⟨reported, Address.parse_display _ reported, reports.owner, fun later reachesLater => ?_⟩
    obtain ⟨last, foundLast, further⟩ := reachesLater.reports consistent reports.owner
    rw [foundLast, reports.again further]

end

/-! ## A multisig and an account -/

namespace Pair

/-- The code of multisigs in a released bundle. -/
def multisigCode : Cid :=
  Actor.programCode 0x6bd30d73269f875599f4b7f613d7d4517003c0deede59a0371d9812f5b936b66

/-- The code of accounts in the same bundle. -/
def accountCode : Cid :=
  Actor.programCode 0x4e5a6772afc74aabdddf79cbcae71b78b9331f72feaf18660345814eac1fd6d8

/-- The key of account 1000. -/
def key : Address := .secp256k1 ⟨List.replicate 20 7, rfl⟩

/-- The other address of multisig 1100. -/
def robust : Address := .actor ⟨List.replicate 20 9, rfl⟩

/-- The actor at an address. -/
def owner (address : Address) : Option UInt64 :=
  if address = .id 1000 ∨ address = key then some 1000
  else if address = .id 1100 ∨ address = robust then some 1100
  else none

/-- The two actors by their addresses: each goes by its number, and
by one other address. -/
theorem owner_cases {address : Address} {number : UInt64} (owned : owner address = some number) :
    number = 1000 ∧ (address = .id 1000 ∨ address = key) ∨ number = 1100 ∧
      (address = .id 1100 ∨ address = robust) := by
  unfold owner at owned
  split at owned
  case isTrue either => exact .inl ⟨(Option.some.inj owned).symm, either⟩
  case isFalse =>
    split at owned
    case isTrue either => exact .inr ⟨(Option.some.inj owned).symm, either⟩
    case isFalse => exact nomatch owned

/-- The two actors. -/
def population : Population where
  owner := owner
  code number := if number = 1000 then accountCode else multisigCode
  key number := if number = 1000 then some key else none
  owner_id owned := by
    rcases owner_cases owned with ⟨rfl, same | same⟩ | ⟨rfl, same | same⟩
    · exact (Address.id.inj same).symm
    · exact nomatch same
    · exact (Address.id.inj same).symm
    · exact nomatch same
  id_owned owned := by
    rcases owner_cases owned with ⟨rfl, -⟩ | ⟨rfl, -⟩
    · rfl
    · rfl
  key_owned isKey := by
    split at isKey
    case isTrue isAccount =>
      subst isAccount
      obtain rfl := Option.some.inj isKey
      exact ⟨rfl, rfl⟩
    case isFalse => exact nomatch isKey

/-- The service of a test network. -/
def service : Service := ⟨.builtin, "calibnet", ⟨false, false⟩⟩

/-- A node with the two actors, whose balances grow. -/
def node : Node where
  answer past
    | .actor address _ => .ok ((owner address).map fun number =>
        ⟨population.code number, .default, 0, ⟨past.length⟩, none⟩)
    | .idAddress address _ => match owner address with
        | some number => .ok (.id number)
        | none => .error .unreachable
    | .accountKey address _ => if owner address = some 1000 then .ok key else .error .unreachable
    | .robustAddress address _ => match owner address with
        | some number => .ok (if number = 1000 then key else robust)
        | none => .error .unreachable
    | _ => .error .unreachable

/-- The answers of the sample node are about one population at all
times, whatever was asked before.
-/
theorem consistent : node.Consistent service.directory population where
  code owned past := by
    rcases owner_cases owned with ⟨rfl, rfl | rfl⟩ | ⟨rfl, rfl | rfl⟩
    all_goals exact ⟨_, rfl, rfl⟩
  number owned notId past := by
    rcases owner_cases owned with ⟨rfl, rfl | rfl⟩ | ⟨rfl, rfl | rfl⟩
    all_goals rfl
  key owned isAccount := by
    rcases owner_cases owned with ⟨rfl, -⟩ | ⟨rfl, -⟩
    · exact ⟨key, rfl, fun _ => rfl⟩
    · exact absurd isAccount (by decide +kernel)
  robust owned past := by
    rcases owner_cases owned with ⟨rfl, -⟩ | ⟨rfl, -⟩
    · exact ⟨key, rfl, rfl, rfl⟩
    · exact ⟨robust, rfl, rfl, rfl⟩

end Pair

/-- After a multisig was looked up by number it reads the same
by its other address. -/
theorem actor_reads_alike_multisig :
    ∃ later, Pair.service.Reaches Pair.node later ∧ later.session.past.length = 1 ∧
      Pair.service.canonicalAt Pair.node later.session Pair.robust = .ok "t01100" := by
  have kind : Pair.service.directory.kindOf Pair.multisigCode = some .multisig := by decide +kernel
  have owned : Pair.population.owner Pair.robust = some 1100 := by decide
  have begins : Pair.service.Reaches Pair.node ⟨[], .fresh⟩ := .start
  obtain ⟨later, reaches, session⟩ := begins.follow (.look (.canonical (.id 1100)))
  obtain ⟨text, found, alike⟩ := actor_reads_alike Pair.consistent owned reaches
  refine ⟨later, reaches, ?_, ?_⟩
  · rw [session]
    decide +kernel
  · have isText : (Address.id 1100).text Pair.service.directory.network =
      "t01100" := by decide +kernel
    rw [found, alike.byNumber (.inl kind), isText]

end Service

end FilecoinRosetta.Rosetta
