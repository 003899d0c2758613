import FilecoinRosetta.Directory
import FilecoinRosetta.Proofs.Address.Text
import FilecoinRosetta.Proofs.Program.Outcome

/-!
# What look-ups find

What a look-up comes to is a function of four answers about its address. A cache is
coherent if all it holds agrees with that function. Look-ups over a coherent cache
find what they would find without it and leave it coherent. Entries go by displayed
addresses, which are different for different addresses, so no look-up disturbs what
is known about another address.
-/

namespace FilecoinRosetta

namespace Node

/-- What look-ups ask about an address. -/
def Call.about (address : Address) : List Call :=
  [.actor address .empty, .idAddress address .empty, .accountKey address .empty,
   .robustAddress address .empty]

/-- What the node tells about an address is true, if it tells anything. -/
def HonestAt (node : Node) (answers : Answers) (address : Address) : Prop :=
  ∀ past call (value : call.Answer), call ∈ Call.about address →
    node.answer past call = .ok value → answers call = .ok value

/-- What the node tells about an address is always the same. -/
def SteadyAt (node : Node) (answers : Answers) (address : Address) : Prop :=
  ∀ past call, call ∈ Call.about address → node.answer past call = answers call

/-- A node that always tells the same tells nothing but that, so what it tells can
be taken for the truth. -/
theorem SteadyAt.honest {node : Node} {answers : Answers} {address : Address}
    (steady : node.SteadyAt answers address) : node.HonestAt answers address := by
  intro past call value asked told
  rw [← steady past call asked]
  exact told

/-- Constant answers are the same about every address at all times. -/
theorem constant_steady (answers : Answers) (address : Address) :
    (constant answers).SteadyAt answers address :=
  fun _ _ _ => rfl

end Node

/-! ## Look-ups without a cache -/

namespace Directory

variable (directory : Directory) (answers : Node.Answers) (address : Address)

/-- The code of the actor at an address. -/
def codeOf : Except LookupError Cid :=
  match answers (.actor address .empty) with
  | .error failure => .error (.node failure)
  | .ok none => .error (.noActor (address.text directory.network))
  | .ok (some state) => .ok state.code

/-- The kind of actor that a code stands for, if it is known. -/
def kindOf (code : Cid) : Option ActorKind :=
  (directory.registry.resolve? code).map Actor.Descriptor.kind

/-- The address that an actor of a kind is reported by. -/
def reportedOf (kind : Option ActorKind) : Except LookupError Address :=
  if reportedByNumber kind then
    if address.isId then .ok address else (answers (.idAddress address .empty)).mapError .node
  else if !address.isId then .ok address
  else if kind == some .account then (answers (.accountKey address .empty)).mapError .node
  else (answers (.robustAddress address .empty)).mapError .node

/-- The canonical form of an address. -/
def keyOf : Except LookupError String :=
  match directory.codeOf answers address with
  | .error cause => .error cause
  | .ok code =>
      match reportedOf answers address (directory.kindOf code) with
      | .error cause => .error cause
      | .ok reported => .ok (reported.text directory.network)

variable {directory answers address}

/-- True answers give true codes: a code that is found at any time is the one
that the answers give. -/
theorem codeOf_honest {node : Node} (honest : node.HonestAt answers address)
    {past : List Node.Event} {code : Cid}
    (found : directory.codeOf (node.answer past) address = .ok code) :
    directory.codeOf answers address = .ok code := by
  have asked : Node.Call.actor address .empty ∈ Node.Call.about address := by
    simp [Node.Call.about]
  unfold codeOf at found ⊢
  cases told : node.answer past (.actor address .empty) with
  | error failure => simp [told] at found
  | ok state =>
    rw [honest past _ state asked told]
    rw [told] at found
    exact found

/-- True answers give true reports: an address that is told at any time is the one
that the answers give. -/
theorem reportedOf_honest {node : Node} (honest : node.HonestAt answers address)
    {past : List Node.Event} {kind : Option ActorKind} {reported : Address}
    (found : reportedOf (node.answer past) address kind = .ok reported) :
    reportedOf answers address kind = .ok reported := by
  have answered (call : Node.Call) (asked : call ∈ Node.Call.about address) (value : call.Answer)
      (told : (node.answer past call).mapError LookupError.node = .ok value) :
      (answers call).mapError LookupError.node = .ok value := by
    cases answer : node.answer past call with
    | error failure =>
      rw [answer] at told
      cases told
    | ok other =>
      rw [honest past call other asked answer]
      rw [answer] at told
      exact told
  unfold reportedOf at found ⊢
  by_cases byNumber : reportedByNumber kind = true
  · rw [if_pos byNumber] at found ⊢
    by_cases isId : address.isId = true
    · rw [if_pos isId] at found ⊢
      exact found
    · rw [if_neg isId] at found ⊢
      exact answered (.idAddress address .empty) (by simp [Node.Call.about]) reported found
  · rw [if_neg byNumber] at found ⊢
    by_cases notId : (!address.isId) = true
    · rw [if_pos notId] at found ⊢
      exact found
    · rw [if_neg notId] at found ⊢
      by_cases account : (kind == some .account) = true
      · rw [if_pos account] at found ⊢
        exact answered (.accountKey address .empty) (by simp [Node.Call.about]) reported found
      · rw [if_neg account] at found ⊢
        exact answered (.robustAddress address .empty) (by simp [Node.Call.about]) reported found

/-- A node that is steady at an address gives the same code for it at all times. -/
theorem codeOf_steady {node : Node} (steady : node.SteadyAt answers address)
    (past : List Node.Event) :
    directory.codeOf (node.answer past) address = directory.codeOf answers address := by
  unfold codeOf
  rw [steady past _ (by simp [Node.Call.about])]

/-- A node that is steady at an address gives the same reported address for it at
all times, whatever the kind of the actor. -/
theorem reportedOf_steady {node : Node} (steady : node.SteadyAt answers address)
    (past : List Node.Event) (kind : Option ActorKind) :
    reportedOf (node.answer past) address kind = reportedOf answers address kind := by
  unfold reportedOf
  rw [steady past (.idAddress address .empty) (by simp [Node.Call.about]),
    steady past (.accountKey address .empty) (by simp [Node.Call.about]),
    steady past (.robustAddress address .empty) (by simp [Node.Call.about])]

end Directory

/-! ## Look-ups step by step -/

namespace Lookup

/-- A look into the cache finds what is kept there under a
name, and changes nothing. -/
theorem entry_run (node : Node) (name : String) (session : Session) :
    (entry name).run.run node session = (.ok (session.cache.entry name), session) :=
  rfl

/-- A call in a look-up comes to the answer of the node, and is noted as asked
whether it succeeds or fails. -/
theorem call_run (node : Node) (call : Node.Call) (session : Session) :
    (Lookup.call call).run.run node session =
      ((node.answer session.past call).mapError .node, session.asked call) :=
  rfl

end Lookup

namespace Directory

open Program Lookup

variable (directory : Directory) (node : Node) (session : Session) (address : Address)

/-- The look-up of a code, step by step: it is taken from the cache, or else asked
for and kept if there is one. -/
theorem actorCode_steps :
    (directory.actorCode address).run =
      .consult (address.text directory.network) fun entry => match entry.code with
        | some code => .done (.ok code)
        | none => .ask (.actor address .empty) fun answer => match answer with
          | .error failure => .done (.error (.node failure))
          | .ok none => .done (.error (.noActor (address.text directory.network)))
          | .ok (some state) =>
            .learn (address.text directory.network) (.code state.code)
              (.done (.ok state.code)) := by
  refine congrArg (Program.consult (address.text directory.network)) (funext fun entry => ?_)
  obtain ⟨code, canonical⟩ := entry
  cases code with
  | some code => rfl
  | none =>
    refine congrArg (Program.ask (.actor address .empty)) (funext fun answer => ?_)
    cases answer with
    | error failure => rfl
    | ok found =>
      cases found with
      | none => rfl
      | some state => rfl

/-- A known code is found at once. The node is not asked, and nothing changes. -/
theorem actorCode_known {code : Cid}
    (known : (session.cache.entry (address.text directory.network)).code = some code) :
    (directory.actorCode address).run.run node session = (.ok code, session) := by
  rw [actorCode, run_attempt, entry_run]
  simp only [known]
  rfl

/-- An unknown code is asked for, and learned if there is one. -/
theorem actorCode_unknown
    (unknown : (session.cache.entry (address.text directory.network)).code = none) :
    (directory.actorCode address).run.run node session =
      match directory.codeOf (node.answer session.past) address with
      | .error cause => (.error cause, session.asked (.actor address .empty))
      | .ok code => (.ok code, (session.asked (.actor address .empty)).learned
          (address.text directory.network) (.code code)) := by
  rw [actorCode, run_attempt, entry_run]
  simp only [unknown]
  rw [run_attempt, call_run, codeOf]
  cases node.answer session.past (.actor address .empty) with
  | error failure => rfl
  | ok found =>
    cases found with
    | none => rfl
    | some state => rfl

/-- The address to report by takes one call at most. Which one depends on the kind
of the actor alone. -/
theorem reportedAddress_run (kind : Option ActorKind) :
    ((reportedAddress kind address).run.run node session).1 =
        reportedOf (node.answer session.past) address kind ∧
      ((reportedAddress kind address).run.run node session).2.cache = session.cache := by
  unfold reportedAddress reportedOf
  split
  · split
    · exact ⟨rfl, rfl⟩
    · exact ⟨rfl, rfl⟩
  · split
    · exact ⟨rfl, rfl⟩
    · split
      · exact ⟨rfl, rfl⟩
      · exact ⟨rfl, rfl⟩

/-- A known canonical form is found at once. The node is not
asked, and nothing changes. -/
theorem canonicalText_known {text : String}
    (known : (session.cache.entry (address.text directory.network)).canonical = some text) :
    (directory.canonicalText address).run.run node session = (.ok text, session) := by
  rw [canonicalText, run_attempt, entry_run]
  simp only [known]
  rfl

/-- The canonical form of an address from the code of its actor,
learned on the way. -/
def reportedText (code : Cid) : Lookup String := do
  let reported ← reportedAddress (directory.kindOf code) address
  Lookup.keep (address.text directory.network) (.canonical (reported.text directory.network))
  return reported.text directory.network

/-- The look-up of a canonical form: what is known, or what
follows from the code. -/
theorem canonicalText_steps :
    (directory.canonicalText address).run =
      .consult (address.text directory.network) fun entry => match entry.canonical with
        | some text => .done (.ok text)
        | none => (directory.actorCode address >>= directory.reportedText address).run := by
  refine congrArg (Program.consult (address.text directory.network)) (funext fun entry => ?_)
  obtain ⟨code, canonical⟩ := entry
  cases canonical with
  | some text => rfl
  | none =>
    change ((directory.actorKind address) >>= _ : Lookup String).run = _
    unfold actorKind
    rw [LawfulMonad.bind_assoc]
    rfl

/-- The form is learned where the address to report by is found. -/
theorem reportedText_run (code : Cid) :
    (directory.reportedText address code).run.run node session =
      match (reportedAddress (directory.kindOf code) address).run.run node session with
      | (.error cause, later) => (.error cause, later)
      | (.ok reported, later) => (.ok (reported.text directory.network),
          later.learned (address.text directory.network)
            (.canonical (reported.text directory.network))) := by
  rw [reportedText, run_attempt]
  cases (reportedAddress (directory.kindOf code) address).run.run node session with
  | mk reported later =>
    cases reported with
    | error cause => rfl
    | ok reported => rfl

/-- An unknown canonical form follows from the code. Without a code there is none,
and the error is that of the code. -/
theorem canonicalText_unknown
    (unknown : (session.cache.entry (address.text directory.network)).canonical = none) :
    (directory.canonicalText address).run.run node session =
      match (directory.actorCode address).run.run node session with
      | (.error cause, later) => (.error cause, later)
      | (.ok code, later) => (directory.reportedText address code).run.run node later := by
  rw [canonicalText, run_attempt, entry_run]
  simp only [unknown]
  rw [run_attempt, actorKind, run_attempt]
  cases (directory.actorCode address).run.run node session with
  | mk found later =>
    cases found with
    | error cause => rfl
    | ok code => rfl

end Directory

end FilecoinRosetta
