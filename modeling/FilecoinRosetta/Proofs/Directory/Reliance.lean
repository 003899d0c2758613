import FilecoinRosetta.Proofs.Directory.Careful
import FilecoinRosetta.Proofs.Directory.Coherence
import FilecoinRosetta.Proofs.Program.Interleaving

/-!
# What look-ups may rely on

On a node whose answers do not change, all that look-ups learn is true, and a fact
that is written touches its own part of an entry only. So a look-up may rely on
this: whatever others do between two of its steps, what it has read is still there,
and everything there is true. And it guarantees the same to others.

`Leads` is that argument as a form of programs. It holds of a program and
a cache if the program comes to its goal whatever others add in the
meantime. One step keeps it.
-/

namespace FilecoinRosetta

open AddressCache Program

namespace Directory

variable {directory : Directory} {answers : Node.Answers} {address : Address} {α β : Type}

/-- What answers give for a part of an entry is one fact. -/
theorem Holds.unique {fact other : Fact} (holds : directory.Holds answers address fact)
    (others : directory.Holds answers address other) (same : other.part = fact.part) :
    other = fact := by
  cases fact with
  | code code =>
    cases other with
    | code other => exact congrArg Fact.code (Except.ok.inj (others.symm.trans holds))
    | canonical text => exact nomatch same
  | canonical text =>
    cases other with
    | code code => exact nomatch same
    | canonical other => exact congrArg Fact.canonical (Except.ok.inj (others.symm.trans holds))

/-- A cache that holds what another one holds, and nothing that is not true. -/
structure Later (directory : Directory) (answers : Node.Answers) (now later : AddressCache) :
    Prop where
  /-- It holds the truth. -/
  coherent : directory.Coherent (.constant answers) answers later
  /-- It holds what was held. -/
  lasting : now.Extends later

/-- A cache that holds nothing untrue is a later one of itself. -/
theorem Later.refl {cache : AddressCache}
    (coherent : directory.Coherent (.constant answers) answers cache) :
    directory.Later answers cache cache :=
  ⟨coherent, fun _ _ holds => holds⟩

/-- What is later than a later cache is later than the first one, so that
steps can be put together.
-/
theorem Later.trans {first second third : AddressCache}
    (later : directory.Later answers first second)
    (further : directory.Later answers second third) : directory.Later answers first third :=
  ⟨further.coherent, fun name fact holds =>
    further.lasting name fact (later.lasting name fact holds)⟩

/-- What a coherent cache holds about an address is true, which is what makes it
safe to answer from it. -/
theorem Coherent.truth {cache : AddressCache}
    (coherent : directory.Coherent (.constant answers) answers cache) {fact : Fact}
    (holds : (cache.entry (address.text directory.network)).Holds fact) :
    directory.Holds answers address fact := by
  have agrees := coherent.agrees address (Node.constant_steady answers address).honest
  cases fact with
  | code code => exact agrees.code code holds
  | canonical text => exact agrees.canonical text holds

/-- The truth may be learned, a canonical form behind its code. The cache after that
is a later one. -/
theorem Later.learn {cache : AddressCache}
    (coherent : directory.Coherent (.constant answers) answers cache) {fact : Fact}
    (holds : directory.Holds answers address fact)
    (behind : fact.part = .canonical →
      (cache.entry (address.text directory.network)).knows .code = true) :
    directory.Later answers cache (cache.learn (address.text directory.network) fact) where
  coherent := by
    apply coherent.learn fun _ => holds
    rintro text rfl
    exact behind rfl
  lasting := by
    intro name other held
    rw [entry_learn]
    by_cases same : name = address.text directory.network
    · subst same
      rw [if_pos rfl]
      by_cases samePart : other.part = fact.part
      · rw [holds.unique (coherent.truth held) samePart]
        exact Entry.holds_learn _ fact
      · exact held.learn samePart
    · rw [if_neg same]
      exact held

/-- A cache holds all that answers give for a part of the entry of an address. -/
def Settled (directory : Directory) (answers : Node.Answers) (address : Address) (part : Part)
    (cache : AddressCache) : Prop :=
  ∀ fact, fact.part = part → directory.Holds answers address fact →
    (cache.entry (address.text directory.network)).Holds fact

/-- A part that is settled stays settled, since truth is only added to a cache. -/
theorem Settled.later {part : Part} {now later : AddressCache}
    (settled : directory.Settled answers address part now)
    (isLater : directory.Later answers now later) :
    directory.Settled answers address part later :=
  fun fact isPart holds => isLater.lasting _ fact (settled fact isPart holds)

/-- Where a part is held, it is settled: it is known, and the answers give no more
than one fact for it. -/
theorem Settled.of_holds {cache : AddressCache}
    (coherent : directory.Coherent (.constant answers) answers cache) {fact : Fact}
    (held : (cache.entry (address.text directory.network)).Holds fact) :
    directory.Settled answers address fact.part cache := by
  intro other isPart holds
  rw [(coherent.truth held).unique holds isPart]
  exact held

/-- What was learned is settled from then on, if it is what the answers give. -/
theorem Settled.learn {cache : AddressCache}
    (coherent : directory.Coherent (.constant answers) answers cache) {fact : Fact}
    (holds : directory.Holds answers address fact)
    (behind : fact.part = .canonical →
      (cache.entry (address.text directory.network)).knows .code = true) :
    directory.Settled answers address fact.part
      (cache.learn (address.text directory.network) fact) := by
  apply Settled.of_holds (Later.learn coherent holds behind).coherent
  rw [entry_learn, if_pos rfl]
  exact Entry.holds_learn _ fact

/-- Where answers give nothing, nothing is missing, so the part is
settled in every cache. -/
theorem Settled.of_nothing {part : Part} (cache : AddressCache)
    (nothing : ∀ fact, fact.part = part → ¬ directory.Holds answers address fact) :
    directory.Settled answers address part cache :=
  fun fact isPart holds => absurd holds (nothing fact isPart)

/-! ## Programs that come to their goal -/

/-- A program comes to its goal in a bounded number of its own steps, whatever truth
about addresses is added between them, and all it learns is true and allowed. -/
inductive Leads (directory : Directory) (answers : Node.Answers) (allowed : String → Fact → Prop)
    {α : Type} (goal : α → AddressCache → Prop) : Nat → AddressCache → Program α → Prop where
  /-- It is there, and stays there. -/
  | done {bound : Nat} {cache : AddressCache} {result : α}
      (holds : ∀ later, directory.Later answers cache later → goal result later) :
      Leads directory answers allowed goal bound cache (.done result)
  /-- It asks and gets the answer of the node. -/
  | ask {bound : Nat} {cache : AddressCache} {call : Node.Call}
      {next : Except Node.Failure call.Answer → Program α}
      (follows : Leads directory answers allowed goal bound cache (next (answers call))) :
      Leads directory answers allowed goal (bound + 1) cache (.ask call next)
  /-- It reads an entry as it is then. -/
  | consult {bound : Nat} {cache : AddressCache} {name : String} {next : Entry → Program α}
      (follows : ∀ later, directory.Later answers cache later →
        Leads directory answers allowed goal bound later (next (later.entry name))) :
      Leads directory answers allowed goal (bound + 1) cache (.consult name next)
  /-- It learns a fact, which takes nothing away from others. -/
  | learn {bound : Nat} {cache : AddressCache} {name : String} {fact : Fact} {next : Program α}
      (isAllowed : allowed name fact)
      (kept : ∀ later, directory.Later answers cache later →
        directory.Later answers later (later.learn name fact))
      (follows : ∀ later, directory.Later answers cache later →
        Leads directory answers allowed goal bound (later.learn name fact) next) :
      Leads directory answers allowed goal (bound + 1) cache (.learn name fact next)

namespace Leads

variable {allowed : String → Fact → Prop} {goal : α → AddressCache → Prop} {bound : Nat}
  {cache : AddressCache} {program : Program α} {session : Session}

/-- What others do in the meantime does not matter, as they only
add what is true. -/
theorem later {later : AddressCache}
    (leads : directory.Leads answers allowed goal bound cache program)
    (isLater : directory.Later answers cache later) :
    directory.Leads answers allowed goal bound later program := by
  induction leads with
  | done holds => exact .done fun further isFurther => holds further (isLater.trans isFurther)
  | ask follows ih => exact .ask (ih isLater)
  | consult follows ih =>
    exact .consult fun further isFurther => follows further (isLater.trans isFurther)
  | learn isAllowed kept follows ih =>
    exact .learn isAllowed (fun further isFurther => kept further (isLater.trans isFurther))
      fun further isFurther => follows further (isLater.trans isFurther)

/-- More steps may be allowed than are taken, so bounds of several cases can
be brought to one. -/
theorem loosen {more : Nat} (leads : directory.Leads answers allowed goal bound cache program)
    (atLeast : bound ≤ more) : directory.Leads answers allowed goal more cache program := by
  induction leads generalizing more with
  | done holds => exact .done holds
  | ask follows ih =>
    cases more with
    | zero => exact absurd atLeast (Nat.not_succ_le_zero _)
    | succ more => exact .ask (ih (Nat.le_of_succ_le_succ atLeast))
  | consult follows ih =>
    cases more with
    | zero => exact absurd atLeast (Nat.not_succ_le_zero _)
    | succ more =>
      exact .consult fun later isLater => ih later isLater (Nat.le_of_succ_le_succ atLeast)
  | learn isAllowed kept follows ih =>
    cases more with
    | zero => exact absurd atLeast (Nat.not_succ_le_zero _)
    | succ more =>
      exact .learn isAllowed kept fun later isLater =>
        ih later isLater (Nat.le_of_succ_le_succ atLeast)

/-- In a sequence the second part may rely on the goal of the first
one, from then on. -/
theorem seq {further : Nat} {first : Program α} {next : α → Program β}
    {last : β → AddressCache → Prop}
    (leads : directory.Leads answers allowed goal bound cache first)
    (coherent : directory.Coherent (.constant answers) answers cache)
    (follows : ∀ value later, directory.Later answers cache later →
      (∀ beyond, directory.Later answers later beyond → goal value beyond) →
        directory.Leads answers allowed last further later (next value)) :
    directory.Leads answers allowed last (bound + further) cache (first >>= next) := by
  change directory.Leads answers allowed last _ cache (first.bind next)
  induction leads with
  | @done bound cache result holds =>
    exact (follows result cache (Later.refl coherent) holds).loosen (Nat.le_add_left _ _)
  | @ask bound cache call rest _ ih =>
    rw [Nat.add_right_comm]
    exact .ask (ih coherent follows)
  | @consult bound cache name rest _ ih =>
    rw [Nat.add_right_comm]
    refine .consult fun later isLater => ih later isLater isLater.coherent ?_
    exact fun value beyond isBeyond => follows value beyond (isLater.trans isBeyond)
  | @learn bound cache name fact rest isAllowed kept _ ih =>
    rw [Nat.add_right_comm]
    refine .learn isAllowed kept fun later isLater => ?_
    have learned := kept later isLater
    refine ih later isLater learned.coherent ?_
    exact fun value beyond isBeyond => follows value beyond ((isLater.trans learned).trans isBeyond)

/-- What is made of the result takes no step, so the bound stays as it is. -/
theorem map {last : β → AddressCache → Prop}
    (leads : directory.Leads answers allowed goal bound cache program)
    (coherent : directory.Coherent (.constant answers) answers cache) (make : α → β)
    (implies : ∀ value later, goal value later → last (make value) later) :
    directory.Leads answers allowed last bound cache (make <$> program) := by
  rw [map_eq_pure_bind, ← Nat.add_zero bound]
  apply leads.seq coherent
  intro value later isLater reached
  exact .done fun beyond isBeyond => implies value beyond (reached beyond isBeyond)

/-- A step that a program takes keeps it on its way. It takes nothing away from
others, and what it adds is allowed. -/
theorem step (leads : directory.Leads answers allowed goal bound session.cache program)
    (coherent : directory.Coherent (.constant answers) answers session.cache) :
    let after := program.step (.constant answers) session
    directory.Leads answers allowed goal (bound - 1) after.2.cache after.1 ∧
      directory.Later answers session.cache after.2.cache ∧
      ∀ name fact, (after.2.cache.entry name).Holds fact →
        (session.cache.entry name).Holds fact ∨ allowed name fact := by
  have now := Later.refl coherent
  cases leads with
  | done holds => exact ⟨.done holds, now, fun _ _ held => .inl held⟩
  | ask follows => exact ⟨follows, now, fun _ _ held => .inl held⟩
  | consult follows => exact ⟨follows session.cache now, now, fun _ _ held => .inl held⟩
  | @learn bound _ name fact next isAllowed kept follows =>
    refine ⟨follows session.cache now, kept session.cache now, ?_⟩
    intro other held holds
    change ((session.cache.learn name fact).entry other).Holds held at holds
    rw [entry_learn] at holds
    by_cases same : other = name
    · subst same
      rw [if_pos rfl] at holds
      rcases Entry.holds_of_learn holds with rfl | before
      · exact .inr isAllowed
      · exact .inl before
    · rw [if_neg same] at holds
      exact .inl holds

/-- No step is left to a program that is there: it is done, and has its result. -/
theorem isDone (leads : directory.Leads answers allowed goal 0 cache program) :
    ∃ result, program = .done result := by
  cases leads with
  | done holds => exact ⟨_, rfl⟩

/-- What a program comes to alone is its goal, since nothing at all may
happen between its steps. -/
theorem run (leads : directory.Leads answers allowed goal bound session.cache program)
    (coherent : directory.Coherent (.constant answers) answers session.cache) :
    let after := program.run (.constant answers) session
    goal after.1 after.2.cache ∧ directory.Later answers session.cache after.2.cache ∧
      ∀ name fact, (after.2.cache.entry name).Holds fact →
        (session.cache.entry name).Holds fact ∨ allowed name fact := by
  induction bound generalizing session program with
  | zero =>
    have now := Later.refl coherent
    cases leads with
    | done holds => exact ⟨holds session.cache now, now, fun _ _ held => .inl held⟩
  | succ bound ih =>
    obtain ⟨leads, isLater, adds⟩ := leads.step coherent
    obtain ⟨reached, isFurther, addsMore⟩ := ih leads isLater.coherent
    rw [run_step] at reached isFurther addsMore
    refine ⟨reached, isLater.trans isFurther, ?_⟩
    intro name fact held
    rcases addsMore name fact held with before | isAllowed
    · exact adds name fact before
    · exact .inr isAllowed

end Leads

/-! ## Look-ups -/

open Lookup

variable {allowed : String → Fact → Prop} {cache : AddressCache}

/-- The look-up of a code comes to what the answers give, which is known afterwards.
-/
theorem actorCode_leads (address : Address) (cache : AddressCache)
    (may : ∀ fact, fact.part = .code → directory.Holds answers address fact →
      allowed (address.text directory.network) fact) :
    directory.Leads answers allowed
      (fun found later => found = directory.codeOf answers address ∧
        directory.Settled answers address .code later)
      3 cache (directory.actorCode address).run := by
  rw [actorCode_steps]
  refine .consult fun later isLater => ?_
  cases known : (later.entry (address.text directory.network)).code with
  | some code =>
    have held : (later.entry (address.text directory.network)).Holds (.code code) := known
    have isCode : directory.codeOf answers address = .ok code := isLater.coherent.truth held
    have settled : directory.Settled answers address .code later :=
      Settled.of_holds isLater.coherent held
    exact .done fun beyond isBeyond => ⟨isCode.symm, settled.later isBeyond⟩
  | none =>
    refine .ask ?_
    have failed (cause : LookupError) (isError : directory.codeOf answers address = .error cause) :
        directory.Leads answers allowed
          (fun found later => found = directory.codeOf answers address ∧
            directory.Settled answers address .code later)
          1 later (.done (.error cause)) := by
      refine .done fun beyond _ => ⟨isError.symm, Settled.of_nothing beyond ?_⟩
      intro fact isPart holds
      cases fact with
      | code code => cases isError.symm.trans holds
      | canonical text => cases isPart
    cases answer : answers (.actor address .empty) with
    | error failure => exact failed _ (by rw [codeOf, answer])
    | ok found =>
      cases found with
      | none => exact failed _ (by rw [codeOf, answer])
      | some state =>
        have isCode : directory.Holds answers address (.code state.code) := by
          change directory.codeOf answers address = .ok state.code
          rw [codeOf, answer]
        have noForm : (Fact.code state.code).part ≠ .canonical := by
          rintro ⟨⟩
        refine .learn (may _ rfl isCode) ?_ ?_
        · exact fun beyond isBeyond => Later.learn isBeyond.coherent isCode fun isForm =>
            absurd isForm noForm
        · intro beyond isBeyond
          have settled := Settled.learn isBeyond.coherent isCode fun isForm => absurd isForm noForm
          exact .done fun last isLast => ⟨Eq.symm isCode, settled.later isLast⟩

/-- What an actor of a known kind is reported by is found in one step at most, by a
single question or by none. Nothing is learned on the way. -/
theorem reportedAddress_leads (kind : Option ActorKind) (address : Address) (cache : AddressCache) :
    directory.Leads answers allowed (fun found _ => found = reportedOf answers address kind) 1 cache
      (reportedAddress kind address).run := by
  unfold reportedAddress reportedOf
  split
  · split
    · exact .done fun _ _ => rfl
    · exact .ask (.done fun _ _ => rfl)
  · split
    · exact .done fun _ _ => rfl
    · split
      · exact .ask (.done fun _ _ => rfl)
      · exact .ask (.done fun _ _ => rfl)

/-- A look-up of a canonical form is at its goal. -/
def FormFound (directory : Directory) (answers : Node.Answers) (address : Address)
    (found : Except LookupError String) (cache : AddressCache) : Prop :=
  found = directory.keyOf answers address ∧ directory.Settled answers address .code cache ∧
    directory.Settled answers address .canonical cache

/-- A form that was found is still the one found in a later cache, which holds all
that the earlier one does. -/
theorem FormFound.later {found : Except LookupError String} {now later : AddressCache}
    (formFound : directory.FormFound answers address found now)
    (isLater : directory.Later answers now later) :
    directory.FormFound answers address found later :=
  ⟨formFound.1, formFound.2.1.later isLater, formFound.2.2.later isLater⟩

/-- Where there is no canonical form, none is missing. The failure is
what was looked for. -/
theorem FormFound.of_error {cause : LookupError}
    (isError : directory.keyOf answers address = .error cause)
    (settled : directory.Settled answers address .code cache) :
    directory.FormFound answers address (.error cause) cache := by
  refine ⟨isError.symm, settled, Settled.of_nothing cache ?_⟩
  intro fact isPart holds
  cases fact with
  | code code => exact nomatch isPart
  | canonical text => exact nomatch isError.symm.trans holds

/-- Behind the code, the canonical form comes to what the answers give. -/
theorem reportedText_leads {code : Cid} (isCode : directory.codeOf answers address = .ok code)
    (coherent : directory.Coherent (.constant answers) answers cache)
    (settled : directory.Settled answers address .code cache)
    (may : ∀ fact, directory.Holds answers address fact →
      allowed (address.text directory.network) fact) :
    directory.Leads answers allowed (directory.FormFound answers address) 2 cache
      (directory.reportedText address code).run := by
  unfold reportedText
  rw [ExceptT.run_bind]
  change directory.Leads _ _ _ (1 + 1) _ _
  apply (reportedAddress_leads (directory.kindOf code) address cache).seq coherent
  intro found later isLater reached
  obtain rfl := reached later (Later.refl isLater.coherent)
  have settledLater := settled.later isLater
  cases reports : reportedOf answers address (directory.kindOf code) with
  | error cause =>
    have isError : directory.keyOf answers address = .error cause := by
      rw [keyOf, isCode]
      dsimp only
      rw [reports]
    exact .done fun beyond isBeyond => .of_error isError (settledLater.later isBeyond)
  | ok reported =>
    have isForm :
        directory.Holds answers address (.canonical (reported.text directory.network)) := by
      change directory.keyOf answers address = .ok _
      rw [keyOf, isCode]
      dsimp only
      rw [reports]
    have behind (beyond : AddressCache) (isBeyond : directory.Later answers later beyond) :
        (beyond.entry (address.text directory.network)).knows .code = true :=
      (settledLater.later isBeyond (.code code) rfl isCode).knows
    refine .learn (may _ isForm) ?_ ?_
    · exact fun beyond isBeyond => Later.learn isBeyond.coherent isForm fun _ =>
        behind beyond isBeyond
    · intro beyond isBeyond
      have learned := Later.learn isBeyond.coherent isForm fun _ => behind beyond isBeyond
      have formSettled := Settled.learn isBeyond.coherent isForm fun _ => behind beyond isBeyond
      have codeSettled := settledLater.later (isBeyond.trans learned)
      exact .done fun last isLast =>
        ⟨Eq.symm isForm, codeSettled.later isLast, formSettled.later isLast⟩

/-- The look-up of a canonical form comes to what the answers give, which is known
afterwards, as is the code. -/
theorem canonicalText_leads (address : Address) (cache : AddressCache)
    (may : ∀ fact, directory.Holds answers address fact →
      allowed (address.text directory.network) fact) :
    directory.Leads answers allowed (directory.FormFound answers address) 6 cache
      (directory.canonicalText address).run := by
  rw [canonicalText_steps]
  refine .consult fun later isLater => ?_
  cases known : (later.entry (address.text directory.network)).canonical with
  | some text =>
    have held : (later.entry (address.text directory.network)).Holds (.canonical text) := known
    have isForm : directory.keyOf answers address = .ok text := isLater.coherent.truth held
    have coded := isLater.coherent.complete _ (Option.isSome_of_eq_some known)
    obtain ⟨code, isCode⟩ := Option.isSome_iff_exists.mp coded
    have codeHeld : (later.entry (address.text directory.network)).Holds (.code code) := isCode
    have found : directory.FormFound answers address (.ok text) later :=
      ⟨isForm.symm, Settled.of_holds isLater.coherent codeHeld,
        Settled.of_holds isLater.coherent held⟩
    exact .done fun beyond isBeyond => found.later isBeyond
  | none =>
    rw [ExceptT.run_bind]
    change directory.Leads _ _ _ (3 + 2) _ (_ >>= _)
    apply (actorCode_leads address later fun fact _ => may fact).seq isLater.coherent
    intro found beyond isBeyond reached
    obtain ⟨rfl, settled⟩ := reached beyond (Later.refl isBeyond.coherent)
    cases isCode : directory.codeOf answers address with
    | error cause =>
      have isError : directory.keyOf answers address = .error cause := by rw [keyOf, isCode]
      exact .done fun last isLast => .of_error isError (settled.later isLast)
    | ok code => exact reportedText_leads isCode isBeyond.coherent settled may

end Directory

end FilecoinRosetta
