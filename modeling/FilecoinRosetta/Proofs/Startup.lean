import FilecoinRosetta.Proofs.Program.Calls
import FilecoinRosetta.Proofs.Rosetta.Admission
import FilecoinRosetta.Startup

/-!
# The sequence of a start

A start asks for the version until the node answers, with a delay between two tries,
and gives up after the last try. Then it asks for the name of the network, without
which it fails, and last for the codes of the actors, which take three calls and
which it can do without. Every way in which a start can end is one of a list, each
with everything that happened until then. Of these ways exactly one agrees with what
the node answers, and it is the one that is taken.
-/

namespace FilecoinRosetta.Startup

open Program (run_seq)

variable {node : Node} {delay : Duration} {past later : List Node.Event} {retries tries : Nat}

/-! ## Tries -/

/-- What happened once a number of tries failed, the latest event first: the delay
passes after each of them. -/
def tried (delay : Duration) (past : List Node.Event) : (failures : Nat) → List Node.Event
  | 0 => past
  | failures + 1 => .waited delay :: .asked .version :: tried delay past failures

/-- The first of several tries comes before the others, so one more failure can be
counted at either end. -/
theorem tried_behind (delay : Duration) (past : List Node.Event) (failures : Nat) :
    tried delay (.waited delay :: .asked .version :: past) failures =
      tried delay past (failures + 1) := by
  induction failures with
  | zero => rfl
  | succ failures ih => simp [tried, ih]

/-- The try after a number of others fails, if they failed. -/
def Fails (node : Node) (delay : Duration) (past : List Node.Event) (earlier : Nat) : Prop :=
  ∃ failure, node.answer (tried delay past earlier) .version = .error failure

/-- A try behind a failed one is the next of the tries as counted from the first. -/
theorem fails_behind {earlier : Nat} :
    Fails node delay (.waited delay :: .asked .version :: past) earlier ↔
      Fails node delay past (earlier + 1) := by
  rw [Fails, tried_behind, Fails]

/-- A try of a node with a limit fails if it takes longer, or if the
node itself fails it. -/
theorem fails_bounded_iff {timed : TimedNode} {limit : Duration} {earlier : Nat} :
    Fails (timed.bounded limit) delay past earlier ↔
      limit.millis < (timed.delay (tried delay past earlier) .version).millis ∨
        Fails timed.toNode delay past earlier := by
  unfold Fails TimedNode.bounded
  dsimp only
  split
  · rename_i slow
    exact ⟨fun _ => .inl slow, fun _ => ⟨_, rfl⟩⟩
  · rename_i inTime
    exact ⟨.inr, fun fails => fails.resolve_left inTime⟩

/-- The number of tries before the last one, which is the first that the node
answers, or the last that is made. -/
structure Tries (node : Node) (delay : Duration) (past : List Node.Event) (retries tries : Nat) :
    Prop where
  /-- All tries before the last one fail. -/
  failed : ∀ earlier < tries, Fails node delay past earlier
  /-- No more are made. -/
  limited : tries ≤ retries
  /-- There is no reason to go on. -/
  last : tries = retries ∨ ¬ Fails node delay past tries

namespace Tries

/-- There is one number of tries only: the first that is answered is not
behind a later one. -/
theorem unique {other : Nat} (isLast : Tries node delay past retries tries)
    (otherLast : Tries node delay past retries other) : tries = other := by
  have le {first second : Nat} (isFirst : Tries node delay past retries first)
      (isSecond : Tries node delay past retries second) : second ≤ first := by
    apply Nat.le_of_not_lt
    intro before
    have fails := isSecond.failed first before
    have limit := isSecond.limited
    rcases isFirst.last with exhausted | answered
    · omega
    · exact answered fails
  exact Nat.le_antisymm (le otherLast isLast) (le isLast otherLast)

/-- As many tries fail as the node leaves unanswered, unless they are
more than are made. -/
theorem eq_min {failures : Nat} (isLast : Tries node delay past retries tries)
    (leading : ∀ earlier < failures, Fails node delay past earlier)
    (answered : ¬ Fails node delay past failures) :
    tries = min failures retries := by
  apply isLast.unique
  refine ⟨fun earlier before => leading earlier (by omega), Nat.min_le_right .., ?_⟩
  rcases Nat.le_total failures retries with few | many
  · rw [Nat.min_eq_left few]
    exact .inr answered
  · exact .inl (Nat.min_eq_right many)

/-- If none of them is answered, all are made, and the last one is reported. -/
theorem eq_retries (isLast : Tries node delay past retries tries)
    (silent : ∀ earlier, Fails node delay past earlier) :
    tries = retries :=
  isLast.last.resolve_right fun answered => answered (silent tries)

end Tries

/-- There is such a number, by induction on the retries that are left. -/
theorem exists_tries (node : Node) (delay : Duration) (past : List Node.Event) (retries : Nat) :
    ∃ tries, Tries node delay past retries tries := by
  induction retries with
  | zero =>
    exact ⟨0, fun _ impossible => absurd impossible (Nat.not_lt_zero _), Nat.le_refl 0, .inl rfl⟩
  | succ retries ih =>
    obtain ⟨tries, failed, limited, last⟩ := ih
    by_cases fails : Fails node delay past tries
    · obtain rfl : tries = retries := last.resolve_right (not_not_intro fails)
      refine ⟨tries + 1, fun earlier before => ?_, Nat.le_refl _, .inl rfl⟩
      rcases Nat.lt_succ_iff_lt_or_eq.mp before with before | rfl
      · exact failed earlier before
      · exact fails
    · exact ⟨tries, failed, Nat.le_succ_of_le limited, .inr fails⟩

/-- A call hands its answer on, and has happened: the past is longer by it. -/
theorem run_call {β : Type} (node : Node) (call : Node.Call)
    (next : Except Node.Failure call.Answer → Program β) (cache : AddressCache)
    (past : List Node.Event) :
    (Program.call call >>= next).run node ⟨cache, past⟩ =
      (next (node.answer past call)).run node ⟨cache, .asked call :: past⟩ :=
  run_seq ..

/-- The node is reached with the last try, or not at all. -/
theorem run_reach (cache : AddressCache) (isLast : Tries node delay past retries tries) :
    (reach delay retries).run node ⟨cache, past⟩ =
      ((node.answer (tried delay past tries) .version).toOption,
        ⟨cache, .asked .version :: tried delay past tries⟩) := by
  induction retries generalizing past tries with
  | zero =>
    obtain rfl := Nat.le_zero.mp isLast.limited
    rfl
  | succ retries ih =>
    rw [reach, run_call]
    cases tries with
    | zero =>
      have answered := isLast.last.resolve_left (Nat.succ_ne_zero retries).symm
      rw [tried]
      cases answer : node.answer past .version with
      | error failure => exact absurd ⟨failure, answer⟩ answered
      | ok version => rfl
    | succ tries =>
      obtain ⟨failure, answer⟩ := isLast.failed 0 (Nat.succ_pos tries)
      rw [tried] at answer
      -- The other tries are those of a start after the first one and the delay
      -- behind it.
      have behind : Tries node delay (.waited delay :: .asked .version :: past) retries tries := by
        refine ⟨fun earlier before => ?_, Nat.le_of_succ_le_succ isLast.limited, ?_⟩
        · exact fails_behind.mpr (isLast.failed (earlier + 1) (Nat.succ_lt_succ before))
        · rw [fails_behind]
          exact isLast.last.imp_left Nat.succ.inj
      rw [← tried_behind, ← ih behind, answer]
      rfl

/-! ## The codes of the actors -/

/-- What the node tells of its actors, with everything that happened until then. It
tells nothing once a call fails or the version of the network is not known, and
nothing is asked after that. -/
inductive Manifest (node : Node) (past : List Node.Event) :
    Option (UInt32 × List (String × Cid)) → List Node.Event → Prop
  | noHead {failure : Node.Failure} (head : node.answer past .chainHead = .error failure) :
      Manifest node past none (.asked .chainHead :: past)
  | noVersion {head : Tipset} {failure : Node.Failure}
      (isHead : node.answer past .chainHead = .ok head)
      (version : node.answer (.asked .chainHead :: past) (.networkVersion head.key) =
        .error failure) :
      Manifest node past none (.asked (.networkVersion head.key) :: .asked .chainHead :: past)
  | unknown {head : Tipset} {networkVersion : UInt32}
      (isHead : node.answer past .chainHead = .ok head)
      (isVersion : node.answer (.asked .chainHead :: past) (.networkVersion head.key) =
        .ok networkVersion)
      (unknown : Actor.versionFor? networkVersion = none) :
      Manifest node past none (.asked (.networkVersion head.key) :: .asked .chainHead :: past)
  | noCodes {head : Tipset} {networkVersion version : UInt32} {failure : Node.Failure}
      (isHead : node.answer past .chainHead = .ok head)
      (isVersion : node.answer (.asked .chainHead :: past) (.networkVersion head.key) =
        .ok networkVersion)
      (known : Actor.versionFor? networkVersion = some version)
      (codes : node.answer (.asked (.networkVersion head.key) :: .asked .chainHead :: past)
        (.actorCodes networkVersion) = .error failure) :
      Manifest node past none
        (.asked (.actorCodes networkVersion) :: .asked (.networkVersion head.key) ::
          .asked .chainHead :: past)
  | told {head : Tipset} {networkVersion version : UInt32} {codes : List (String × Cid)}
      (isHead : node.answer past .chainHead = .ok head)
      (isVersion : node.answer (.asked .chainHead :: past) (.networkVersion head.key) =
        .ok networkVersion)
      (known : Actor.versionFor? networkVersion = some version)
      (areCodes : node.answer (.asked (.networkVersion head.key) :: .asked .chainHead :: past)
        (.actorCodes networkVersion) = .ok codes) :
      Manifest node past (some (version, codes))
        (.asked (.actorCodes networkVersion) :: .asked (.networkVersion head.key) ::
          .asked .chainHead :: past)

/-- The released codes with those told ahead of them. -/
def registryOf : Option (UInt32 × List (String × Cid)) → Actor.Registry
  | some (version, codes) => Actor.Registry.builtin.withManifest version codes
  | none => Actor.Registry.builtin

/-- A call that matters only if it is answered hands its answer on. -/
theorem run_ask_ok {β : Type} {call : Node.Call} {answer : call.Answer}
    (answered : node.answer past call = .ok answer) (next : call.Answer → OptionT Program β)
    (cache : AddressCache) :
    (ask call >>= next).run.run node ⟨cache, past⟩ =
      (next answer).run.run node ⟨cache, .asked call :: past⟩ := by
  rw [OptionT.run_bind]
  change (Program.call call >>= _ >>= _).run node ⟨cache, past⟩ = _
  rw [bind_assoc, run_call, answered]
  rfl

/-- Unless it is answered, nothing follows. The call has happened all the same. -/
theorem run_ask_error {β : Type} {call : Node.Call} {failure : Node.Failure}
    (fails : node.answer past call = .error failure) (next : call.Answer → OptionT Program β)
    (cache : AddressCache) :
    (ask call >>= next).run.run node ⟨cache, past⟩ = (none, ⟨cache, .asked call :: past⟩) := by
  rw [OptionT.run_bind]
  change (Program.call call >>= _ >>= _).run node ⟨cache, past⟩ = _
  rw [bind_assoc, run_call, fails]
  rfl

/-- A step that gives a value hands it on to what follows. -/
theorem given_some {α β : Type} (value : α) (next : α → OptionT Program β) :
    OptionT.mk (pure (some value)) >>= next = next value :=
  rfl

/-- What the node tells decides on the codes that are known. It tells a version with
a list, or the released codes are all there is. -/
theorem Manifest.run {told : Option (UInt32 × List (String × Cid))}
    (isManifest : Manifest node past told later) (cache : AddressCache) :
    registry.run node ⟨cache, past⟩ = (registryOf told, ⟨cache, later⟩) := by
  have comesTo : manifest.run.run node ⟨cache, past⟩ = (told, ⟨cache, later⟩) := by
    unfold manifest
    cases isManifest with
    | noHead head => rw [run_ask_error head]
    | noVersion isHead version => rw [run_ask_ok isHead, run_ask_error version]
    | unknown isHead isVersion unknown =>
      rw [run_ask_ok isHead, run_ask_ok isVersion, unknown]
      rfl
    | noCodes isHead isVersion known codes =>
      rw [run_ask_ok isHead, run_ask_ok isVersion, known, given_some, run_ask_error codes]
    | told isHead isVersion known areCodes =>
      rw [run_ask_ok isHead, run_ask_ok isVersion, known, given_some, run_ask_ok areCodes]
      rfl
  rw [registry, run_seq, comesTo]
  cases told <;> rfl

/-- Whatever the node answers, it tells something of its actors or nothing. -/
theorem exists_manifest (node : Node) (past : List Node.Event) :
    ∃ told later, Manifest node past told later := by
  cases head : node.answer past .chainHead with
  | error failure => exact ⟨_, _, .noHead head⟩
  | ok tipset =>
    cases version : node.answer (.asked .chainHead :: past) (.networkVersion tipset.key) with
    | error failure => exact ⟨_, _, .noVersion head version⟩
    | ok networkVersion =>
      cases known : Actor.versionFor? networkVersion with
      | none => exact ⟨_, _, .unknown head version known⟩
      | some actorVersion =>
        cases codes : node.answer (.asked (.networkVersion tipset.key) :: .asked .chainHead :: past)
            (.actorCodes networkVersion) with
        | error failure => exact ⟨_, _, .noCodes head version known codes⟩
        | ok found => exact ⟨_, _, .told head version known codes⟩

/-! ## Ways to end -/

/-- How a start with certain settings ends, with everything that happened until
then, the latest event first. Some of it came before the last try. -/
inductive Ends (configuration : Configuration) (endpoint : Lotus.Endpoint) (node : Node)
    (before : List Node.Event) :
    Except StartupError Rosetta.Service → List Node.Event → Prop
  /-- The last try fails, and nothing else is asked. -/
  | unreachable {failure : Node.Failure} (fails : node.answer before .version = .error failure) :
      Ends configuration endpoint node before (.error (.unreachable endpoint))
        (.asked .version :: before)
  /-- The node does not name its network, and nothing is asked after that. -/
  | nameless {version : NodeVersion} {failure : Node.Failure}
      (answered : node.answer before .version = .ok version)
      (unnamed : node.answer (.asked .version :: before) .networkName = .error failure) :
      Ends configuration endpoint node before (.error .networkName)
        (.asked .networkName :: .asked .version :: before)
  /-- The network that the node names is served, with the codes that it tells. -/
  | serving {version : NodeVersion} {name : String} {told : Option (UInt32 × List (String × Cid))}
      {later : List Node.Event} (answered : node.answer before .version = .ok version)
      (named : node.answer (.asked .version :: before) .networkName = .ok name)
      (manifest : Manifest node (.asked .networkName :: .asked .version :: before) told later) :
      Ends configuration endpoint node before
        (.ok ⟨registryOf told, name,
          ⟨configuration.features.tagged, configuration.features.safeByDefault⟩⟩) later

variable {configuration : Configuration} {client : Lotus.Client}
  {result : Except StartupError Rosetta.Service}
  {before : List Node.Event}

/-- A client may be asked what the settings say it may, since it
is made from them. -/
theorem client_tagged (possible : Startup.client configuration = .ok client) :
    client.tagged = configuration.features.tagged := by
  obtain ⟨endpoint, -, connected⟩ := bind_ok_iff.mp possible
  unfold Lotus.Client.connect at connected
  split at connected
  · contradiction
  · split at connected
    · obtain rfl := Except.ok.inj connected
      rfl
    · contradiction

/-- A start ends in the way that agrees with what the node answers. -/
theorem Ends.run (tagged : client.tagged = configuration.features.tagged)
    (isLast : Tries node configuration.node.retryDelay past
      configuration.node.connectAttempts.toNat tries)
    (ends : Ends configuration client.endpoint node (tried configuration.node.retryDelay past tries)
      result later)
    (cache : AddressCache) :
    (service configuration client).run node ⟨cache, past⟩ = (result, ⟨cache, later⟩) := by
  rw [service, run_seq, run_reach cache isLast]
  cases ends with
  | unreachable fails =>
    rw [fails]
    rfl
  | nameless answered unnamed =>
    rw [answered]
    dsimp only [Except.toOption]
    rw [run_call, unnamed]
    rfl
  | serving answered named manifest =>
    rw [answered]
    dsimp only [Except.toOption]
    rw [run_call, named]
    dsimp only
    rw [run_seq, manifest.run, tagged]
    rfl

/-- Whatever the node answers, a start comes to one of its ends. -/
theorem exists_ends (configuration : Configuration) (endpoint : Lotus.Endpoint) (node : Node)
    (before : List Node.Event) :
    ∃ result later, Ends configuration endpoint node before result later := by
  cases answer : node.answer before .version with
  | error failure => exact ⟨_, _, .unreachable answer⟩
  | ok version =>
    cases named : node.answer (.asked .version :: before) .networkName with
    | error failure => exact ⟨_, _, .nameless answer named⟩
    | ok name =>
      obtain ⟨told, later, manifest⟩ :=
        exists_manifest node (.asked .networkName :: .asked .version :: before)
      exact ⟨_, _, .serving answer named manifest⟩

/-- A start ends in exactly one way, which the answers of the node decide.
Everything else about a start is read off the ways to end. -/
theorem run_iff_ends (tagged : client.tagged = configuration.features.tagged)
    {session after : Session}
    (isLast : Tries node configuration.node.retryDelay session.past
      configuration.node.connectAttempts.toNat tries) :
    (service configuration client).run node session = (result, after) ↔
      after.cache = session.cache ∧
      Ends configuration client.endpoint node
        (tried configuration.node.retryDelay session.past tries) result
        after.past := by
  constructor
  · intro comesTo
    obtain ⟨_, _, ends⟩ := exists_ends configuration client.endpoint node
      (tried configuration.node.retryDelay session.past tries)
    obtain ⟨rfl, rfl⟩ := Prod.mk.inj (comesTo.symm.trans (ends.run tagged isLast session.cache))
    exact ⟨rfl, ends⟩
  · obtain ⟨cache, past⟩ := session
    obtain ⟨afterCache, later⟩ := after
    rintro ⟨rfl, ends⟩
    exact ends.run tagged isLast afterCache

/-! ## The calls of a start -/

/-- The calls among events, the first one first. -/
def callsOf (events : List Node.Event) : List Node.Call :=
  (events.filterMap Node.Event.call?).reverse

/-- The latest call is the last one of all that were made. -/
@[simp] theorem callsOf_asked (call : Node.Call) (events : List Node.Event) :
    callsOf (.asked call :: events) = callsOf events ++ [call] := by
  simp [callsOf, Node.Event.call?]

/-- Waiting makes no call, so pauses between tries do not count. -/
@[simp] theorem callsOf_waited (span : Duration) (events : List Node.Event) :
    callsOf (.waited span :: events) = callsOf events := by
  rw [callsOf, List.filterMap_cons_none rfl, callsOf]

/-- The failed tries are calls for the version, one each. -/
theorem callsOf_tried (delay : Duration) (past : List Node.Event) (failures : Nat) :
    callsOf (tried delay past failures) = callsOf past ++ List.replicate failures .version := by
  induction failures with
  | zero => simp [tried]
  | succ failures ih => simp [tried, ih, List.replicate_succ']

/-- What is asked about the actors comes behind all that was asked before. The
version of the node is not asked again. -/
theorem Manifest.calls {told : Option (UInt32 × List (String × Cid))}
    (manifest : Manifest node past told later) :
    ∃ rest, callsOf later = callsOf past ++ rest ∧ .version ∉ rest := by
  cases manifest with
  | noHead _ => exact ⟨[.chainHead], by simp, by simp⟩
  | @noVersion head _ _ _ => exact ⟨[.chainHead, .networkVersion head.key], by simp, by simp⟩
  | @unknown head _ _ _ _ => exact ⟨[.chainHead, .networkVersion head.key], by simp, by simp⟩
  | @noCodes head networkVersion _ _ _ _ _ _ =>
    exact ⟨[.chainHead, .networkVersion head.key, .actorCodes networkVersion], by simp, by simp⟩
  | @told head networkVersion _ _ _ _ _ _ =>
    exact ⟨[.chainHead, .networkVersion head.key, .actorCodes networkVersion], by simp, by simp⟩

/-- A start asks for the version once more at its last try, and never after that. -/
theorem Ends.calls {endpoint : Lotus.Endpoint}
    (ends : Ends configuration endpoint node before result later) :
    ∃ rest, callsOf later = callsOf before ++ .version :: rest ∧ .version ∉ rest := by
  cases ends with
  | unreachable fails => exact ⟨[], by simp, by simp⟩
  | nameless answered unnamed => exact ⟨[.networkName], by simp, by simp⟩
  | serving answered named manifest =>
    obtain ⟨rest, made, noVersion⟩ := manifest.calls
    exact ⟨.networkName :: rest, by simp [made], by simp [noVersion]⟩

/-! ## The network served -/

/-- A service answers for one network. It lists no other one, and addresses are
shown with its letter. -/
structure AnswersFor (service : Rosetta.Service) (name : String) : Prop where
  network : service.networkName = name
  letter : service.directory.network = Network.ofName name
  listed : ∀ identifier ∈ service.networks, identifier.network = name
  /-- Exactly the requests that are addressed to it pass. -/
  admits : ∀ named identifier,
    service.accept named = .ok identifier ↔ Rosetta.Addressed service (some named) identifier
  /-- A request that names another network is refused by every endpoint
  that asks for one. -/
  refuses : ∀ (route : Rosetta.Route) (body : Bytes) (identifier : Rosetta.NetworkIdentifier),
    route ≠ .networkList → route.network? body = some (some identifier) →
      identifier.network ≠ name →
      ∃ cause, service.answer route body = throw cause

/-- A service answers for the network whose name it was given. -/
theorem answersFor_own (service : Rosetta.Service) : AnswersFor service service.networkName where
  network := rfl
  letter := rfl
  listed := by
    intro identifier isListed
    unfold Rosetta.Service.networks at isListed
    split at isListed
    · simp only [List.mem_cons, List.not_mem_nil, or_false] at isListed
      rcases isListed with rfl | rfl <;> rfl
    · rw [List.mem_singleton.mp isListed]
  admits := by
    intro named identifier
    constructor
    · intro accepted
      rcases Rosetta.misdirected_or_addressed service (some named) with ⟨cause, misdirected⟩ |
        ⟨other, addressed⟩
      · rw [Rosetta.Service.accept_misdirected misdirected] at accepted
        contradiction
      · rw [Rosetta.Service.accept_addressed addressed] at accepted
        obtain rfl := Except.ok.inj accepted
        exact addressed
    · exact Rosetta.Service.accept_addressed
  refuses := by
    intro route body identifier needs names other
    have screened := Rosetta.Screened.answer service needs body
    rw [names] at screened
    by_cases ours : identifier.blockchain = Rosetta.blockchainName
    · exact ⟨_, screened.misdirected _ (.network ours other)⟩
    · exact ⟨_, screened.misdirected _ (.blockchain ours)⟩

/-! ## The sequence -/

/-- A start makes its calls in a fixed order. The version is asked for until the
node answers, with the delay between two tries: as many times more than once as the
node fails, or as the settings allow. If the last try fails, so does the start, and
nothing else is asked. Otherwise the start ends in the one way that agrees with what
the node answers from then on, and what is served is the network that it named. -/
theorem start_in_sequence (possible : Startup.client configuration = .ok client) (timed : TimedNode)
    (session : Session) :
    let node := timed.bounded configuration.node.limit
    let delay := configuration.node.retryDelay
    let attempts := configuration.node.connectAttempts.toNat
    ∃ tries, Tries node delay session.past attempts tries ∧
      (∀ failures, (∀ earlier < failures, Fails node delay session.past earlier) →
        ¬ Fails node delay session.past failures → tries = min failures attempts) ∧
      ((∀ earlier, Fails node delay session.past earlier) → tries = attempts) ∧
      (∃ rest, (service configuration client).calls node session =
        List.replicate (tries + 1) .version ++ rest ∧
        .version ∉ rest) ∧
      (∀ result after, (service configuration client).run node session = (result, after) ↔
        after.cache = session.cache ∧
          Ends configuration client.endpoint node (tried delay session.past tries) result
            after.past) ∧
      ∀ started, ((service configuration client).run node session).1 = .ok started →
        ∃ name, node.answer (.asked .version :: tried delay session.past tries) .networkName =
          .ok name ∧
          AnswersFor started name := by
  intro node delay attempts
  have tagged := client_tagged possible
  obtain ⟨tries, isLast⟩ := exists_tries node delay session.past attempts
  obtain ⟨result, later, ends⟩ :=
    exists_ends configuration client.endpoint node (tried delay session.past tries)
  have comesTo := ends.run tagged isLast session.cache
  refine ⟨tries, isLast, fun failures => isLast.eq_min, isLast.eq_retries, ?_,
    fun result after => ?_, ?_⟩
  · obtain ⟨rest, made, noVersion⟩ := ends.calls
    have total :
        callsOf later = callsOf session.past ++ (List.replicate (tries + 1) .version ++ rest) := by
      simpa [callsOf_tried, List.replicate_succ'] using made
    have all := Program.run_calls node (service configuration client) session
    rw [comesTo] at all
    exact ⟨rest, List.append_cancel_left (all.symm.trans total), noVersion⟩
  · exact run_iff_ends tagged isLast
  · intro started serves
    rw [comesTo] at serves
    obtain rfl : result = .ok started := serves
    cases ends with
    | serving answered named manifest => exact ⟨_, named, answersFor_own _⟩

end FilecoinRosetta.Startup

/-! ## A node that wakes up -/

namespace FilecoinRosetta.Startup

namespace Waking

/-- The client of the settings that hold where nothing else is said. -/
def client : Lotus.Client where
  endpoint :=
    ⟨⟨"http", some ⟨none, "127.0.0.1", some 1234⟩, "/rpc/v1", none, none⟩,
      ⟨"http", some ⟨none, "127.0.0.1", some 1234⟩, "/rpc/v2", none, none⟩, none⟩
  tagged := false

/-- The first try finds no node, and the second one takes too long. The third one is
answered, and the network is named. -/
def timed : TimedNode where
  answer past call :=
    match call with
    | .version => if past.isEmpty then .error .unreachable else .ok ⟨"1.34.0", 0x20000, 30⟩
    | .networkName => .ok "calibrationnet"
    | other => .error (.refused 1 other.method)
  delay past call := if past.length = 2 ∧ call = .version then .seconds 61 else .seconds 0

end Waking

/-- The version is asked for three times, and the network is served
with the released codes. -/
theorem waking_in_sequence :
    Startup.client .standard = .ok Waking.client ∧
      (service .standard Waking.client).run (Waking.timed.bounded (.seconds 60)) .fresh =
        (.ok ⟨.builtin, "calibrationnet", ⟨false, false⟩⟩,
          ⟨.empty, .asked .chainHead :: .asked .networkName :: .asked .version ::
            tried (.seconds 5) [] 2⟩) := by
  have possible : Startup.client .standard = .ok Waking.client := by rfl
  refine ⟨possible, ?_⟩
  obtain ⟨tries, -, leading, -, -, comesTo, -⟩ := start_in_sequence possible Waking.timed .fresh
  obtain rfl : tries = 2 := by
    apply leading 2
    · intro earlier before
      have first : earlier = 0 ∨ earlier = 1 := by omega
      rcases first with rfl | rfl
      · exact fails_bounded_iff.mpr (.inr ⟨_, rfl⟩)
      · exact fails_bounded_iff.mpr (.inl (by decide))
    · rintro ⟨failure, impossible⟩
      exact nomatch impossible
  exact (comesTo _ _).mpr ⟨rfl, .serving rfl rfl (.noHead rfl)⟩

end FilecoinRosetta.Startup
