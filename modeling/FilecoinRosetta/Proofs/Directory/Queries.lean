import FilecoinRosetta.Directory

/-!
# The questions that look-ups answer

Callers look addresses up in five ways. Behind each of them is an attempt to find
the code of an actor or the canonical form of its address; two of them tell
something else where the attempt fails.
-/

namespace FilecoinRosetta

namespace AddressCache

/-- The parts of an entry. -/
inductive Part where
  /-- The code of the actor. -/
  | code
  /-- The canonical form. -/
  | canonical
  deriving DecidableEq, Repr

/-- The part that a fact is about. -/
def Fact.part : Fact → Part
  | .code _ => .code
  | .canonical _ => .canonical

/-- Whether a part is known. -/
def Entry.knows (entry : Entry) : Part → Bool
  | .code => entry.code.isSome
  | .canonical => entry.canonical.isSome

end AddressCache

/-- A question that is answered by a look-up. -/
inductive Query where
  /-- The code of the actor at an address. -/
  | code (address : Address)
  /-- Its kind. -/
  | kind (address : Address)
  /-- The canonical form of an address. -/
  | canonical (address : Address)
  /-- The canonical form, or the address itself. -/
  | canonicalOrOwn (address : Address)
  /-- The name of a method of the actor at an address. -/
  | methodName (address : Address) (number : UInt64)

namespace Query

/-- The address that is looked up. -/
def address : Query → Address
  | code address => address
  | kind address => address
  | canonical address => address
  | canonicalOrOwn address => address
  | methodName address _ => address

/-- What is found where the attempt succeeds. -/
@[reducible] def Found : Query → Type
  | code _ => Cid
  | kind _ => Option ActorKind
  | canonical _ => String
  | canonicalOrOwn _ => String
  | methodName _ _ => String

/-- What callers are told. -/
@[reducible] def Answer : Query → Type
  | code _ => Except LookupError Cid
  | kind _ => Except LookupError (Option ActorKind)
  | canonical _ => Except LookupError String
  | canonicalOrOwn _ => String
  | methodName _ _ => String

/-- What is looked up. Methods that every actor has need no look-up. -/
def needs? : Query → Option AddressCache.Part
  | code _ => some .code
  | kind _ => some .code
  | canonical _ => some .canonical
  | canonicalOrOwn _ => some .canonical
  | methodName _ number => if number = 0 ∨ number = 1 then none else some .code

variable (directory : Directory)

/-- The name of the entry that a question is about. -/
def name (query : Query) : String :=
  query.address.text directory.network

/-- The look-up that answers a question. -/
def program : (query : Query) → Program query.Answer
  | code address => (directory.actorCode address).run
  | kind address => (directory.actorKind address).run
  | canonical address => (directory.canonicalText address).run
  | canonicalOrOwn address => directory.canonicalOrOwnText address
  | methodName address number => directory.methodName address number

/-- The attempt to tell the name of a method. -/
def nameAttempt (address : Address) (number : UInt64) : Lookup String :=
  if number = 0 then return Directory.sendName
  else if number = 1 then return Directory.constructorName
  else return directory.methodOfCode (← directory.actorCode address) number

/-- The attempt behind a look-up. -/
def attempt : (query : Query) → Lookup query.Found
  | code address => directory.actorCode address
  | kind address => directory.actorKind address
  | canonical address => directory.canonicalText address
  | canonicalOrOwn address => directory.canonicalText address
  | methodName address number => nameAttempt directory address number

/-- What is told of an attempt. -/
def tell : (query : Query) → Except LookupError query.Found → query.Answer
  | code _, found => found
  | kind _, found => found
  | canonical _, found => found
  | canonicalOrOwn _, .ok text => text
  | canonicalOrOwn address, .error _ => address.text directory.network
  | methodName _ _, .ok name => name
  | methodName _ _, .error _ => Actor.unknownName

/-- A look-up is its attempt and tells what that comes to, so what holds of
attempts holds of look-ups. -/
theorem program_attempt (query : Query) :
    query.program directory = query.tell directory <$> (query.attempt directory).run := by
  cases query with
  | code address => exact (id_map _).symm
  | kind address => exact (id_map _).symm
  | canonical address => exact (id_map _).symm
  | canonicalOrOwn address =>
    rw [map_eq_pure_bind]
    apply bind_congr
    intro found
    cases found with
    | ok text => rfl
    | error cause => rfl
  | methodName address number =>
    rw [map_eq_pure_bind]
    change directory.methodName address number = (nameAttempt directory address number).run >>= _
    unfold nameAttempt Directory.methodName
    by_cases send : number = 0
    · rw [if_pos send, if_pos send]
      rfl
    · rw [if_neg send, if_neg send]
      by_cases constructs : number = 1
      · rw [if_pos constructs, if_pos constructs]
        rfl
      · rw [if_neg constructs, if_neg constructs, ExceptT.run_bind, LawfulMonad.bind_assoc]
        apply bind_congr
        intro found
        cases found with
        | ok code => rfl
        | error cause => rfl

/-- An attempt needs nothing, or it makes something of the code of the actor or of
the canonical form of the address. -/
theorem attempt_cases (query : Query) :
    (query.needs? = none ∧ ∃ found, query.attempt directory = pure found) ∨
    (query.needs? = some .code ∧
      ∃ make, query.attempt directory = make <$> directory.actorCode query.address) ∨
    (query.needs? = some .canonical ∧
      ∃ make, query.attempt directory = make <$> directory.canonicalText query.address) := by
  cases query with
  | code address => exact .inr (.inl ⟨rfl, id, (id_map _).symm⟩)
  | kind address => exact .inr (.inl ⟨rfl, _, (map_eq_pure_bind _ _).symm⟩)
  | canonical address => exact .inr (.inr ⟨rfl, id, (id_map _).symm⟩)
  | canonicalOrOwn address => exact .inr (.inr ⟨rfl, id, (id_map _).symm⟩)
  | methodName address number =>
    by_cases everyActor : number = 0 ∨ number = 1
    · refine .inl ⟨if_pos everyActor, ?_⟩
      change ∃ found, nameAttempt directory address number = pure found
      unfold nameAttempt
      by_cases send : number = 0
      · rw [if_pos send]
        exact ⟨_, rfl⟩
      · rw [if_neg send, if_pos (everyActor.resolve_left send)]
        exact ⟨_, rfl⟩
    · refine .inr (.inl ⟨if_neg everyActor, ?_⟩)
      change ∃ make, nameAttempt directory address number = make <$> directory.actorCode address
      unfold nameAttempt
      obtain ⟨notSend, notConstructor⟩ := not_or.mp everyActor
      rw [if_neg notSend, if_neg notConstructor]
      exact ⟨_, (map_eq_pure_bind _ _).symm⟩

end Query

/-- Questions one after another. -/
def Directory.answerAll (directory : Directory) : List Query → Program Unit
  | [] => return ()
  | query :: rest => do
      let _ ← query.program directory
      directory.answerAll rest

end FilecoinRosetta
