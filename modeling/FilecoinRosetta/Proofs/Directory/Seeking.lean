import FilecoinRosetta.Proofs.Directory.Lookup
import FilecoinRosetta.Proofs.Directory.Queries
import FilecoinRosetta.Proofs.Program.Acts

/-!
# Look-ups act by act

What a look-up comes to and which acts it takes depends on what is known of its
address and on what the node answers to one question or two. Each case is a
constructor here (`SeeksCode`, `SeeksForm`, `SeeksCanonical`), so what holds of
look-ups is proved by cases, without a look at how they are written.
-/

namespace FilecoinRosetta

open AddressCache

/-! ## What look-ups do -/

namespace Lookup

/-- An act asks for the address to report another one by, and is answered. -/
inductive Resolves (address : Address) (answer : Except Node.Failure Address) : Act → Prop where
  | number : Resolves address answer (.asked (.idAddress address .empty) answer)
  | key : Resolves address answer (.asked (.accountKey address .empty) answer)
  | robust : Resolves address answer (.asked (.robustAddress address .empty) answer)

/-- Such an act teaches nothing: only what is learned from its answer does. -/
theorem Resolves.absorb {address : Address} {answer : Except Node.Failure Address} {act : Act}
    (resolves : Resolves address answer act) (cache : AddressCache) (rest : List Act) :
    cache.absorb (act :: rest) = cache.absorb rest := by
  cases resolves with
  | number | key | robust => rfl

end Lookup

namespace Directory

open Program Lookup

/-- What the look-up of a code comes to, and by which acts. -/
inductive SeeksCode (directory : Directory) (address : Address) (entry : Entry) :
    Except LookupError Cid → List Act → Prop where
  /-- The code is known. -/
  | known {code : Cid} (isKnown : entry.code = some code) :
      SeeksCode directory address entry (.ok code) []
  /-- The node tells no actor. -/
  | untold {answer : Except Node.Failure (Option ActorState)} {cause : LookupError}
      (unknown : entry.knows .code = false) (untold : ∀ state, answer ≠ .ok (some state)) :
      SeeksCode directory address entry (.error cause) [.asked (.actor address .empty) answer]
  /-- The node tells an actor, and its code is learned. -/
  | told {state : ActorState} (unknown : entry.knows .code = false) :
      SeeksCode directory address entry (.ok state.code)
        [.asked (.actor address .empty) (.ok (some state)),
         .learned (address.text directory.network) (.code state.code)]

/-- What follows from a code for the canonical form, and by which acts. -/
inductive SeeksForm (directory : Directory) (address : Address) :
    Except LookupError String → List Act → Prop where
  /-- The address is reported by itself. -/
  | itself : SeeksForm directory address (.ok (address.text directory.network))
      [.learned (address.text directory.network) (.canonical (address.text directory.network))]
  /-- The node does not tell by which address it is reported. -/
  | untold {failure : Node.Failure} {act : Act} (resolves : Resolves address (.error failure) act) :
      SeeksForm directory address (.error (.node failure)) [act]
  /-- The node tells it, and the form is learned. -/
  | told {reported : Address} {act : Act} (resolves : Resolves address (.ok reported) act) :
      SeeksForm directory address (.ok (reported.text directory.network))
        [act, .learned (address.text directory.network)
          (.canonical (reported.text directory.network))]

/-- What the look-up of a canonical form comes to, and by which acts. -/
inductive SeeksCanonical (directory : Directory) (address : Address) (entry : Entry) :
    Except LookupError String → List Act → Prop where
  /-- The form is known. -/
  | known {text : String} (isKnown : entry.canonical = some text) :
      SeeksCanonical directory address entry (.ok text) []
  /-- The code is not found. -/
  | codeless {cause : LookupError} {acts : List Act} (unknown : entry.knows .canonical = false)
      (seeks : directory.SeeksCode address entry (.error cause) acts) :
      SeeksCanonical directory address entry (.error cause) acts
  /-- The form is looked up behind the code. -/
  | coded {code : Cid} {found : Except LookupError String} {first more : List Act}
      (unknown : entry.knows .canonical = false)
      (seeks : directory.SeeksCode address entry (.ok code) first)
      (follows : directory.SeeksForm address found more) :
      SeeksCanonical directory address entry found (first ++ more)

variable (directory : Directory) (node : Node) (address : Address) (session : Session)

/-- The look-up of a code does one of the things listed for it: it finds the code
known, is told nothing, or is told the code and keeps it. -/
theorem actorCode_seeks :
    directory.SeeksCode address (session.cache.entry (address.text directory.network))
      ((directory.actorCode address).run.run node session).1
      ((directory.actorCode address).run.acts node session) := by
  rw [actorCode_steps]
  dsimp only [Program.run, acts]
  cases known : (session.cache.entry (address.text directory.network)).code with
  | some code => exact .known known
  | none =>
    have unknown : (session.cache.entry (address.text directory.network)).knows .code = false :=
      congrArg Option.isSome known
    dsimp only [Program.run, acts]
    cases answer : node.answer session.past (.actor address .empty) with
    | error failure => exact .untold unknown fun _ impossible => nomatch impossible
    | ok found =>
      cases found with
      | none => exact .untold unknown fun _ impossible => nomatch impossible
      | some state => exact .told unknown

/-- An attempt to find the address to report by that is one call. -/
theorem resolved_seeks {reporting : Lookup Address} {answer : Except Node.Failure Address}
    {act : Act} {later : Session}
    (comesTo : reporting.run.run node session = (answer.mapError .node, later))
    (does : reporting.run.acts node session = [act]) (resolves : Resolves address answer act) :
    let program : Lookup String := do
      let reported ← reporting
      Lookup.keep (address.text directory.network) (.canonical (reported.text directory.network))
      return reported.text directory.network
    directory.SeeksForm address (program.run.run node session).1
      (program.run.acts node session) := by
  intro program
  rw [run_attempt, acts_attempt, comesTo, does]
  cases answer with
  | ok reported => exact .told resolves
  | error failure => exact .untold resolves

/-- What follows from a code does one of the things listed for it: the address is
kept as its own form, or one question is asked and its answer is kept. -/
theorem reportedText_seeks (code : Cid) :
    directory.SeeksForm address ((directory.reportedText address code).run.run node session).1
      ((directory.reportedText address code).run.acts node session) := by
  unfold reportedText reportedAddress
  split
  · split
    · exact .itself
    · exact directory.resolved_seeks node address session rfl rfl .number
  · split
    · exact .itself
    · split
      · exact directory.resolved_seeks node address session rfl rfl .key
      · exact directory.resolved_seeks node address session rfl rfl .robust

/-- The look-up of a canonical form does one of the things listed for it. If the
form is not known, it looks the code up first and goes on only if there is one. -/
theorem canonicalText_seeks :
    directory.SeeksCanonical address (session.cache.entry (address.text directory.network))
      ((directory.canonicalText address).run.run node session).1
      ((directory.canonicalText address).run.acts node session) := by
  have codes := directory.actorCode_seeks node address session
  rw [canonicalText_steps]
  dsimp only [Program.run, acts]
  cases known : (session.cache.entry (address.text directory.network)).canonical with
  | some text => exact .known known
  | none =>
    have unknown :
        (session.cache.entry (address.text directory.network)).knows .canonical = false :=
      congrArg Option.isSome known
    dsimp only
    rw [run_attempt, acts_attempt]
    cases found : (directory.actorCode address).run.run node session with
    | mk result later =>
      rw [found] at codes
      cases result with
      | error cause =>
        dsimp only
        rw [List.append_nil]
        exact .codeless unknown codes
      | ok code => exact .coded unknown codes (directory.reportedText_seeks node address later code)

end Directory

/-! ## Questions -/

/-- What the attempt behind a question comes to, and by which acts:
those of a look-up. -/
inductive Query.Seeks (directory : Directory) (query : Query) (entry : Entry) :
    Except LookupError query.Found → List Act → Prop where
  /-- Nothing is looked up. -/
  | nothing (needs : query.needs? = none) (found : query.Found) :
      Seeks directory query entry (.ok found) []
  /-- The code is looked up. -/
  | code {found : Except LookupError Cid} {acts : List Act} (needs : query.needs? = some .code)
      (make : Cid → query.Found) (seeks : directory.SeeksCode query.address entry found acts) :
      Seeks directory query entry (found.map make) acts
  /-- The canonical form is looked up. -/
  | canonical {found : Except LookupError String} {acts : List Act}
      (needs : query.needs? = some .canonical)
      (make : String → query.Found)
      (seeks : directory.SeeksCanonical query.address entry found acts) :
      Seeks directory query entry (found.map make) acts

namespace Query

open Program

variable {directory : Directory} {node : Node} {session : Session} {query : Query}

/-- The attempt behind a question fails. -/
def Fails (directory : Directory) (node : Node) (session : Session) (query : Query) : Prop :=
  ∃ cause, ((query.attempt directory).run.run node session).1 = .error cause

/-- Each query does what is listed for it, on every node and in every session. All
that is said of look-ups by cases starts here. -/
theorem seeks (directory : Directory) (node : Node) (session : Session) (query : Query) :
    query.Seeks directory (session.cache.entry (query.name directory))
      ((query.attempt directory).run.run node session).1
      ((query.program directory).acts node session) := by
  rw [program_attempt, (run_map _ _ _ _).2]
  rcases query.attempt_cases directory with ⟨needs, found, isPure⟩ | ⟨needs, make, isMade⟩ |
    ⟨needs, make, isMade⟩
  · rw [isPure]
    exact .nothing needs found
  · rw [isMade, ExceptT.run_map, (run_map _ _ _ _).1, (run_map _ _ _ _).2]
    exact .code needs make (directory.actorCode_seeks node query.address session)
  · rw [isMade, ExceptT.run_map, (run_map _ _ _ _).1, (run_map _ _ _ _).2]
    exact .canonical needs make (directory.canonicalText_seeks node query.address session)

end Query

end FilecoinRosetta
