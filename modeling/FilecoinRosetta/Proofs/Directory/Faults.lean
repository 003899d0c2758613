import FilecoinRosetta.Proofs.Directory.Coherence
import FilecoinRosetta.Proofs.Program.Calls

/-!
# Look-ups that fail

A node may fail at any look-up, at one time and not at another. What it does answer
stays true, so a coherent cache stays coherent, and every look-up that succeeds
finds what it would have found without faults. Where it fails, an account goes by
the address itself and a method by no name at all.
-/

namespace FilecoinRosetta

namespace Node

/-- Whether a call asks for the actor at an address or for another
address of that actor. -/
def Call.isLookUp : Call → Bool
  | .actor _ _ => true
  | .accountKey _ _ => true
  | .idAddress _ _ => true
  | .robustAddress _ _ => true
  | _ => false

/-- The node with constant answers that fails at look-ups where faults say so.
They may depend on everything that happened before, so a call that fails once
may be answered later. -/
def faulty (answers : Answers) (faults : (past : List Event) → (call : Call) → Option Failure) :
    Node where
  answer past call :=
    match if call.isLookUp then faults past call else none with
    | some failure => .error failure
    | none => answers call

/-- What a node with faults tells is true: a call fails or is answered as it
would be without them. -/
theorem faulty_honest (answers : Answers) (faults : List Event → Call → Option Failure)
    (address : Address) : (faulty answers faults).HonestAt answers address := by
  intro past call value _ told
  dsimp only [faulty] at told
  cases fault : (if call.isLookUp then faults past call else none) with
  | some failure => simp [fault] at told
  | none => simpa [fault] using told

end Node

namespace Directory

open Program

variable {directory : Directory} {node : Node} {answers : Node.Answers} {address : Address}

/-- On an honest node the code that is found is the one that the answers give. -/
theorem actorCode_honest (honest : node.HonestAt answers address) :
    Meets node (directory.Coherent node answers) (directory.actorCode address).run fun found _ =>
      ∀ code, found = .ok code → directory.codeOf answers address = .ok code := by
  intro session coherent
  obtain ⟨kept, learned⟩ := actorCode_kept address session coherent
  refine ⟨?_, kept.coherent⟩
  intro code found
  exact (kept.coherent.agrees address honest).code code (learned code found)

/-- On an honest node the canonical form that is found is the one
that the answers give. -/
theorem canonicalText_honest (honest : node.HonestAt answers address) :
    Meets node (directory.Coherent node answers) (directory.canonicalText address).run
      fun found _ =>
      ∀ text, found = .ok text → directory.keyOf answers address = .ok text := by
  intro session coherent
  obtain ⟨kept, learned⟩ := canonicalText_kept address session coherent
  refine ⟨?_, kept.coherent⟩
  intro text found
  exact (kept.coherent.agrees address honest).canonical text (learned text found)

/-- A method goes by the name that the answers give, or by none. -/
theorem methodName_honest (honest : node.HonestAt answers address) (number : UInt64) :
    Meets node (directory.Coherent node answers) (directory.methodName address number) fun name _ =>
      name = directory.nameOf answers address number ∨ name = Actor.unknownName := by
  unfold methodName nameOf
  by_cases send : number = 0
  · rw [if_pos send, if_pos send]
    exact Meets.result (.inl rfl)
  · rw [if_neg send, if_neg send]
    by_cases constructs : number = 1
    · rw [if_pos constructs, if_pos constructs]
      exact Meets.result (.inl rfl)
    · rw [if_neg constructs, if_neg constructs]
      apply (actorCode_honest honest).seq
      intro found _ isCode
      cases found with
      | ok code =>
        rw [isCode code rfl]
        exact Meets.result (.inl rfl)
      | error cause => exact Meets.result (.inr rfl)

/-- The texts that an account may go by: the one that the answers give, and that
of the address itself. -/
def MayGoBy (directory : Directory) (answers : Node.Answers) (address : Address) (text : String) :
    Prop :=
  text = directory.accountOf answers address ∨ text = address.text directory.network

/-- An account may go by its canonical form, which is what it goes by
where no look-up fails. -/
theorem mayGoBy_key {text : String} (isKey : directory.keyOf answers address = .ok text) :
    directory.MayGoBy answers address text := by
  left
  rw [accountOf, isKey]

/-- An account may always go by the text of its own address, which is what
it falls back to. -/
theorem mayGoBy_own : directory.MayGoBy answers address (address.text directory.network) :=
  .inr rfl

/-- On a node that answers honestly or fails, an account goes by one of the
texts that it may go by: its canonical form, or the text of its own address
if a question failed. -/
theorem canonicalOrOwnText_honest (honest : node.HonestAt answers address) :
    Meets node (directory.Coherent node answers) (directory.canonicalOrOwnText address)
      fun text _ =>
      directory.MayGoBy answers address text := by
  apply (canonicalText_honest honest).seq
  intro found _ isKey
  cases found with
  | ok text => exact Meets.result (mayGoBy_key (isKey text rfl))
  | error cause => exact Meets.result mayGoBy_own

end Directory

end FilecoinRosetta
