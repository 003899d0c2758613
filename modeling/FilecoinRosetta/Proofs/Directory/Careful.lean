import FilecoinRosetta.Proofs.Directory.Queries
import FilecoinRosetta.Proofs.Program.Acts

/-!
# Learning with care

Acts are careful if each fact that they learn is new, and a canonical form is
learned only where the code is known. Careful acts change nothing that is
held, leave no canonical form without a code, and learn every part of an
entry once at most. All of that follows by induction on the acts, with what
is known as their state.
-/

namespace FilecoinRosetta

open AddressCache

namespace AddressCache

/-- An entry holds a fact. -/
def Entry.Holds (entry : Entry) : Fact → Prop
  | .code code => entry.code = some code
  | .canonical text => entry.canonical = some text

/-- What a cache holds another one holds as well. -/
def Extends (before after : AddressCache) : Prop :=
  ∀ name fact, (before.entry name).Holds fact → (after.entry name).Holds fact

/-- A canonical form is held only together with the code it follows from. -/
def Complete (cache : AddressCache) : Prop :=
  ∀ name, (cache.entry name).knows .canonical = true → (cache.entry name).knows .code = true

/-- A fact is new to an entry, and if it is a canonical form, the code is there. -/
structure Entry.Wants (entry : Entry) (fact : Fact) : Prop where
  /-- The part is not known. -/
  unknown : entry.knows fact.part = false
  /-- A canonical form follows from a code. -/
  behind : fact.part = .canonical → entry.knows .code = true

/-- Whatever acts learn is wanted. -/
def Careful : AddressCache → List Act → Prop
  | _, [] => True
  | cache, .asked _ _ :: rest => Careful cache rest
  | cache, .learned name fact :: rest =>
    (cache.entry name).Wants fact ∧ Careful (cache.learn name fact) rest

/-- After a fact was learned, its part is known. Nothing else changes. -/
theorem knows_learn (entry : Entry) (fact : Fact) (part : Part) :
    (entry.learn fact).knows part = (decide (part = fact.part) || entry.knows part) := by
  cases fact with
  | code code =>
    cases part with
    | code => rfl
    | canonical => rfl
  | canonical text =>
    cases part with
    | code => rfl
    | canonical => rfl

/-- A fact that is held is known, and the other way round some fact
of that part is. -/
theorem Entry.Holds.knows {entry : Entry} {fact : Fact} (holds : entry.Holds fact) :
    entry.knows fact.part = true := by
  cases fact with
  | code code => exact Option.isSome_of_eq_some holds
  | canonical text => exact Option.isSome_of_eq_some holds

/-- A fact about one part does not touch what is held about the other one. -/
theorem Entry.Holds.learn {entry : Entry} {fact other : Fact} (holds : entry.Holds other)
    (apart : other.part ≠ fact.part) : (entry.learn fact).Holds other := by
  cases fact with
  | code code =>
    cases other with
    | code other => exact absurd rfl apart
    | canonical text => exact holds
  | canonical text =>
    cases other with
    | code code => exact holds
    | canonical other => exact absurd rfl apart

/-- Entries that hold the same are the same, as there is nothing else to them. -/
theorem Entry.same_of_holds {first second : Entry}
    (same : ∀ fact, first.Holds fact ↔ second.Holds fact) :
    first = second := by
  have codes : first.code = second.code := by
    apply Option.ext
    exact fun code => same (.code code)
  have forms : first.canonical = second.canonical := by
    apply Option.ext
    exact fun text => same (.canonical text)
  cases first
  cases second
  simp_all

/-- What was learned is held right after that, whatever was held before. -/
theorem Entry.holds_learn (entry : Entry) (fact : Fact) : (entry.learn fact).Holds fact := by
  cases fact with
  | code code => rfl
  | canonical text => rfl

/-- What an entry holds after a fact was learned is that fact or was held before. -/
theorem Entry.holds_of_learn {entry : Entry} {fact other : Fact}
    (holds : (entry.learn fact).Holds other) :
    other = fact ∨ entry.Holds other := by
  cases fact with
  | code code =>
    cases other with
    | code other => exact .inl (congrArg Fact.code (Option.some.inj holds).symm)
    | canonical text => exact .inr holds
  | canonical text =>
    cases other with
    | code code => exact .inr holds
    | canonical other => exact .inl (congrArg Fact.canonical (Option.some.inj holds).symm)

/-- What is wanted changes nothing that is held, since it concerns a part
about which nothing is. -/
theorem extends_learn {cache : AddressCache} {name : String} {fact : Fact}
    (wanted : (cache.entry name).Wants fact) : cache.Extends (cache.learn name fact) := by
  intro other held holds
  rw [entry_learn]
  by_cases same : other = name
  · subst same
    rw [if_pos rfl]
    apply holds.learn
    intro samePart
    have known := holds.knows
    rw [samePart, wanted.unknown] at known
    exact nomatch known
  · rw [if_neg same]
    exact holds

/-- What is wanted is no canonical form without a code, so completeness is
kept by careful acts. -/
theorem Complete.learn {cache : AddressCache} {name : String} {fact : Fact}
    (complete : cache.Complete) (wanted : (cache.entry name).Wants fact) :
    (cache.learn name fact).Complete := by
  intro other known
  rw [entry_learn] at known ⊢
  by_cases same : other = name
  · subst same
    rw [if_pos rfl] at known ⊢
    rw [knows_learn] at known ⊢
    cases fact with
    | code code => rfl
    | canonical text => exact (Bool.false_or _).trans (wanted.behind rfl)
  · rw [if_neg same] at known ⊢
    exact complete other known

namespace Careful

variable {cache : AddressCache} {acts first more : List Act}

/-- Careful acts followed by careful acts are careful. The second ones start from
what is known then. -/
theorem append (careful : Careful cache first) (later : Careful (cache.absorb first) more) :
    Careful cache (first ++ more) := by
  induction first generalizing cache with
  | nil => exact later
  | cons act rest ih =>
    cases act with
    | asked call answer => exact ih careful later
    | learned name fact => exact ⟨careful.1, ih careful.2 later⟩

/-- So are the parts of careful acts, and the second one again starts from what
the first one taught. -/
theorem split (careful : Careful cache (first ++ more)) :
    Careful cache first ∧ Careful (cache.absorb first) more := by
  induction first generalizing cache with
  | nil => exact ⟨trivial, careful⟩
  | cons act rest ih =>
    cases act with
    | asked call answer => exact ih careful
    | learned name fact => exact ⟨⟨careful.1, (ih careful.2).1⟩, (ih careful.2).2⟩

/-- Careful acts change nothing that is held. This is what keeps the
first answer for good. -/
theorem lasting (careful : Careful cache acts) : cache.Extends (cache.absorb acts) := by
  induction acts generalizing cache with
  | nil => exact fun _ _ holds => holds
  | cons act rest ih =>
    cases act with
    | asked call answer => exact ih careful
    | learned name fact =>
      intro other held holds
      exact ih careful.2 other held (extends_learn careful.1 other held holds)

/-- Careful acts leave no canonical form without a code, so the code is always known
where a form is. -/
theorem complete (careful : Careful cache acts) (before : cache.Complete) :
    (cache.absorb acts).Complete := by
  induction acts generalizing cache with
  | nil => exact before
  | cons act rest ih =>
    cases act with
    | asked call answer => exact ih careful before
    | learned name fact => exact ih careful.2 (before.learn careful.1)

end Careful

/-- An entry about which nothing is learned stays as it is, whatever
is learned about others. -/
theorem absorb_others {cache : AddressCache} {acts : List Act} {name : String}
    (others : ∀ fact, .learned name fact ∉ acts) :
    (cache.absorb acts).entry name = cache.entry name := by
  induction acts generalizing cache with
  | nil => rfl
  | cons act rest ih =>
    have later : ∀ fact, .learned name fact ∉ rest :=
      fun fact member => others fact (List.mem_cons_of_mem act member)
    cases act with
    | asked call answer => exact ih later
    | learned other fact =>
      have differs : name ≠ other := by
        rintro rfl
        exact others fact List.mem_cons_self
      change ((cache.learn other fact).absorb rest).entry name = _
      rw [ih later, entry_learn, if_neg differs]

end AddressCache

namespace Act

/-- Whether an act learns a part of the entry of a name. -/
def learns (name : String) (part : Part) : Act → Bool
  | asked _ _ => false
  | learned other fact => decide (other = name ∧ fact.part = part)

end Act

/-- A part that careful acts learn was not known before and is known afterwards, so
it is learned once. -/
theorem AddressCache.Careful.learned_once {cache : AddressCache} {acts : List Act}
    (careful : Careful cache acts) (name : String) (part : Part) :
    acts.countP (Act.learns name part) + ((cache.entry name).knows part).toNat ≤
      (((cache.absorb acts).entry name).knows part).toNat := by
  induction acts generalizing cache with
  | nil => simp [absorb]
  | cons act rest ih =>
    cases act with
    | asked call answer =>
      rw [List.countP_cons_of_neg (by simp [Act.learns])]
      exact ih careful
    | learned other fact =>
      have later := ih careful.2
      rw [entry_learn] at later
      by_cases here : other = name ∧ fact.part = part
      · obtain ⟨rfl, rfl⟩ := here
        rw [List.countP_cons_of_pos (by simp [Act.learns]), careful.1.unknown]
        rw [if_pos rfl, knows_learn] at later
        simpa [absorb] using later
      · rw [List.countP_cons_of_neg (by simpa [Act.learns] using here)]
        have known : (cache.entry name).knows part =
            ((if name = other then (cache.entry other).learn fact else cache.entry name)).knows
              part := by
          by_cases same : name = other
          · subst same
            have apart : part ≠ fact.part := fun same => here ⟨rfl, same.symm⟩
            simp [knows_learn, apart]
          · rw [if_neg same]
        rw [known]
        exact later

end FilecoinRosetta
