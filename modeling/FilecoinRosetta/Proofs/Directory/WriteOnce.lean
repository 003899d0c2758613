import FilecoinRosetta.Proofs.Directory.Careful
import FilecoinRosetta.Proofs.Directory.Seeking

/-!
# Nothing is learned twice

A node may change its mind between any two calls. Look-ups do not: what they learned
first is kept for good, and what is kept is not asked for again. A look-up that
fails on the way keeps what it was told until then and nothing else.
-/

namespace FilecoinRosetta

open AddressCache

/-- Whether an act is a successful question for a part about an address: for its
actor, or for the address to report it by. -/
def Act.succeeds (address : Address) : Part → Act → Bool
  | .code, asked (.actor other _) (.ok (some _)) => decide (other = address)
  | .canonical, asked (.idAddress other _) (.ok _) => decide (other = address)
  | .canonical, asked (.accountKey other _) (.ok _) => decide (other = address)
  | .canonical, asked (.robustAddress other _) (.ok _) => decide (other = address)
  | _, _ => false

namespace Directory

variable {directory : Directory} {address : Address} {cache : AddressCache} {acts : List Act}

/-! ## The acts of a look-up -/

/-- A code that is found is known afterwards. The canonical form is what it was. -/
theorem SeeksCode.found {code : Cid}
    (seeks : directory.SeeksCode address (cache.entry (address.text directory.network))
      (.ok code) acts) :
    (cache.absorb acts).entry (address.text directory.network) =
      { cache.entry (address.text directory.network) with code := some code } := by
  cases seeks with
  | known isKnown => rw [← isKnown]; rfl
  | told unknown =>
    change (cache.learn _ _).entry _ = _
    rw [entry_learn, if_pos rfl]
    rfl

/-- The look-up of a code learns the code only if none is known. -/
theorem SeeksCode.careful {found : Except LookupError Cid}
    (seeks : directory.SeeksCode address (cache.entry (address.text directory.network))
      found acts) :
    cache.Careful acts := by
  cases seeks with
  | known isKnown => trivial
  | untold unknown untold => trivial
  | told unknown => exact ⟨⟨unknown, fun other => nomatch other⟩, trivial⟩

/-- What follows from a code learns the form only if none is known and the code is.
Both are given where the look-up of a form has come so far. -/
theorem SeeksForm.careful {found : Except LookupError String}
    (seeks : directory.SeeksForm address found acts)
    (unknown : (cache.entry (address.text directory.network)).knows .canonical = false)
    (coded : (cache.entry (address.text directory.network)).knows .code = true) :
    cache.Careful acts := by
  cases seeks with
  | itself => exact ⟨⟨unknown, fun _ => coded⟩, trivial⟩
  | untold resolves =>
    cases resolves with
    | number | key | robust => trivial
  | told resolves =>
    cases resolves with
    | number | key | robust => exact ⟨⟨unknown, fun _ => coded⟩, trivial⟩

/-- The look-up of a canonical form learns nothing that is known already. The form
is kept behind the code, which is known by then. -/
theorem SeeksCanonical.careful {found : Except LookupError String}
    (seeks : directory.SeeksCanonical address (cache.entry (address.text directory.network))
      found acts) :
    cache.Careful acts := by
  cases seeks with
  | known isKnown => trivial
  | codeless unknown codes => exact codes.careful
  | coded unknown codes forms =>
    apply codes.careful.append
    apply forms.careful
    · rw [codes.found]
      exact unknown
    · rw [codes.found]
      rfl

/-- Every successful question is followed by what it taught. -/
def Thrifty (directory : Directory) (acts : List Act) : Prop :=
  ∀ target part, acts.countP (Act.succeeds target part) ≤
    acts.countP (Act.learns (target.text directory.network) part)

/-- Acts that are thrifty in two parts are thrifty as a whole, as
both counts add up. -/
theorem Thrifty.append {first more : List Act} (thrifty : directory.Thrifty first)
    (later : directory.Thrifty more) : directory.Thrifty (first ++ more) := by
  intro target part
  rw [List.countP_append, List.countP_append]
  exact Nat.add_le_add (thrifty target part) (later target part)

/-- The look-up of a code keeps what it is told: a success is followed by the code,
and a failure by nothing. -/
theorem SeeksCode.thrifty {entry : Entry} {found : Except LookupError Cid}
    (seeks : directory.SeeksCode address entry found acts) : directory.Thrifty acts := by
  intro target part
  cases seeks with
  | known isKnown => simp
  | @untold answer cause unknown untold =>
    have fails : Act.succeeds target part (.asked (.actor address .empty) answer) = false := by
      cases part with
      | canonical => rfl
      | code =>
        cases answer with
        | error failure => rfl
        | ok state =>
          cases state with
          | none => rfl
          | some state => exact absurd rfl (untold state)
    simp [fails]
  | told unknown =>
    cases part with
    | canonical => simp [Act.succeeds]
    | code =>
      by_cases same : address = target
      · subst same
        simp [Act.succeeds, Act.learns, Fact.part]
      · simp [Act.succeeds, same]

/-- What follows from a code keeps what it is told of the form, and asks no
successful question for a code. -/
theorem SeeksForm.thrifty {found : Except LookupError String}
    (seeks : directory.SeeksForm address found acts) : directory.Thrifty acts := by
  intro target part
  cases seeks with
  | itself => simp [Act.succeeds]
  | untold resolves =>
    cases resolves with
    | number | key | robust => simp [Act.succeeds]
  | told resolves =>
    cases part with
    | code =>
      cases resolves with
      | number | key | robust => simp [Act.succeeds]
    | canonical =>
      by_cases same : address = target
      · subst same
        cases resolves with
        | number | key | robust => simp [Act.succeeds, Act.learns, Fact.part]
      · cases resolves with
        | number | key | robust => simp [Act.succeeds, same]

/-- The look-up of a canonical form keeps all that it is told, be it the
code or the form. -/
theorem SeeksCanonical.thrifty {entry : Entry} {found : Except LookupError String}
    (seeks : directory.SeeksCanonical address entry found acts) : directory.Thrifty acts := by
  cases seeks with
  | known isKnown => exact fun _ _ => Nat.le_refl _
  | codeless unknown codes => exact codes.thrifty
  | coded unknown codes forms => exact codes.thrifty.append forms.thrifty

/-- Facts are learned about the address that is looked up and about no other. -/
def Own (directory : Directory) (address : Address) (acts : List Act) : Prop :=
  ∀ name fact, .learned name fact ∈ acts → name = address.text directory.network

/-- The look-up of a code keeps facts under the name of its own address only. -/
theorem SeeksCode.own {entry : Entry} {found : Except LookupError Cid}
    (seeks : directory.SeeksCode address entry found acts) : directory.Own address acts := by
  intro name fact member
  cases seeks with
  | known isKnown => simp at member
  | untold unknown untold => simp at member
  | told unknown => simp_all

/-- What follows from a code keeps facts under the name of its own address only,
even if the form is the text of another one. -/
theorem SeeksForm.own {found : Except LookupError String}
    (seeks : directory.SeeksForm address found acts) :
    directory.Own address acts := by
  intro name fact member
  cases seeks with
  | itself => simp_all
  | untold resolves =>
    cases resolves with
    | number | key | robust => simp at member
  | told resolves =>
    cases resolves with
    | number | key | robust => simp_all

/-- The look-up of a canonical form keeps facts under the name of
its own address only. -/
theorem SeeksCanonical.own {entry : Entry} {found : Except LookupError String}
    (seeks : directory.SeeksCanonical address entry found acts) : directory.Own address acts := by
  cases seeks with
  | known isKnown => exact fun _ _ member => nomatch member
  | codeless unknown codes => exact codes.own
  | coded unknown codes forms =>
    intro name fact member
    rcases List.mem_append.mp member with first | more
    · exact codes.own name fact first
    · exact forms.own name fact more

/-- Where no code is found, nothing changes, as there is nothing to keep. -/
theorem SeeksCode.failed {entry : Entry} {cause : LookupError}
    (seeks : directory.SeeksCode address entry (.error cause) acts) :
    cache.absorb acts = cache := by
  cases seeks with
  | untold unknown untold => rfl

/-- If what follows from a code fails, nothing is kept: the one question asked for
it was not answered. -/
theorem SeeksForm.failed {cause : LookupError}
    (seeks : directory.SeeksForm address (.error cause) acts) : cache.absorb acts = cache := by
  cases seeks with
  | untold resolves => exact resolves.absorb cache []

/-- A code that the node told, and that was learned where none was known. -/
def LearnsTold (directory : Directory) (address : Address) (before after : AddressCache)
    (acts : List Act) :
    Prop :=
  ∃ state, .asked (.actor address .empty) (.ok (some state)) ∈ acts ∧
    (before.entry (address.text directory.network)).code = none ∧
    after = before.learn (address.text directory.network) (.code state.code)

/-- Where no canonical form is found, nothing changes but that the code may be
learned that the node told. -/
theorem SeeksCanonical.failed {cause : LookupError}
    (seeks : directory.SeeksCanonical address (cache.entry (address.text directory.network))
      (.error cause) acts) :
    cache.absorb acts = cache ∨ directory.LearnsTold address cache (cache.absorb acts) acts := by
  cases seeks with
  | codeless unknown codes => exact .inl codes.failed
  | coded unknown codes forms =>
    rw [absorb_append, forms.failed]
    cases codes with
    | known isKnown => exact .inl rfl
    | told unknown =>
      refine .inr ⟨_, List.mem_append_left _ List.mem_cons_self, ?_, rfl⟩
      exact Option.isNone_iff_eq_none.mp (Option.isSome_eq_false_iff.mp unknown)

/-- Nothing is asked where the code is known, and nothing is learned. -/
theorem SeeksCode.spared {entry : Entry} {found : Except LookupError Cid}
    (seeks : directory.SeeksCode address entry found acts) (known : entry.knows .code = true) :
    acts = [] := by
  cases seeks with
  | known isKnown => rfl
  | untold unknown untold => exact nomatch unknown.symm.trans known
  | told unknown => exact nomatch unknown.symm.trans known

/-- Nothing is asked where the canonical form is known, even if the code is not. -/
theorem SeeksCanonical.spared {entry : Entry} {found : Except LookupError String}
    (seeks : directory.SeeksCanonical address entry found acts)
    (known : entry.knows .canonical = true) :
    acts = [] := by
  cases seeks with
  | known isKnown => rfl
  | codeless unknown codes => exact nomatch unknown.symm.trans known
  | coded unknown codes forms => exact nomatch unknown.symm.trans known

/-- No actor is asked for where the code is known, as the form follows from the
code by other questions. -/
theorem SeeksForm.actor_spared {found : Except LookupError String}
    (seeks : directory.SeeksForm address found acts) :
    .actor address .empty ∉ acts.filterMap Act.call? := by
  cases seeks with
  | itself => simp [Act.call?]
  | untold resolves =>
    cases resolves with
    | number | key | robust => simp [Act.call?]
  | told resolves =>
    cases resolves with
    | number | key | robust => simp [Act.call?]

/-- The look-up of a canonical form does not ask for the actor if
the code is known. -/
theorem SeeksCanonical.actor_spared {entry : Entry} {found : Except LookupError String}
    (seeks : directory.SeeksCanonical address entry found acts) (known : entry.knows .code = true) :
    .actor address .empty ∉ acts.filterMap Act.call? := by
  cases seeks with
  | known isKnown => exact List.not_mem_nil
  | codeless unknown codes =>
    rw [codes.spared known]
    exact List.not_mem_nil
  | coded unknown codes forms =>
    rw [codes.spared known]
    exact forms.actor_spared

end Directory

/-! ## Questions one after another -/

namespace Query

variable {directory : Directory} {query : Query}

namespace Seeks

variable {cache : AddressCache} {found : Except LookupError query.Found} {acts : List Act}

/-- A query learns nothing that is known already, whatever it comes to. -/
theorem careful (seeks : query.Seeks directory (cache.entry (query.name directory)) found acts) :
    cache.Careful acts := by
  cases seeks with
  | nothing needs found => trivial
  | code needs make seeks => exact seeks.careful
  | canonical needs make seeks => exact seeks.careful

/-- A query keeps all that it is told, whatever it comes to. -/
theorem thrifty {entry : Entry} (seeks : query.Seeks directory entry found acts) :
    directory.Thrifty acts := by
  cases seeks with
  | nothing needs found => exact fun _ _ => Nat.le_refl _
  | code needs make seeks => exact seeks.thrifty
  | canonical needs make seeks => exact seeks.thrifty

/-- A query keeps facts under the name of its own address only, so other
entries stay as they are.
-/
theorem own {entry : Entry} (seeks : query.Seeks directory entry found acts) :
    directory.Own query.address acts := by
  cases seeks with
  | nothing needs found => exact fun _ _ member => nomatch member
  | code needs make seeks => exact seeks.own
  | canonical needs make seeks => exact seeks.own

/-- A question that fails changes nothing but that the code may be learned
that the node told. -/
theorem failed {cause : LookupError}
    (seeks : query.Seeks directory (cache.entry (query.name directory)) found acts)
    (fails : found = .error cause) :
    cache.absorb acts = cache ∨
      directory.LearnsTold query.address cache (cache.absorb acts) acts := by
  cases seeks with
  | nothing needs found => exact nomatch fails
  | @code result _ needs make seeks =>
    cases result with
    | ok code => exact nomatch fails
    | error cause => exact .inl seeks.failed
  | @canonical result _ needs make seeks =>
    cases result with
    | ok text => exact nomatch fails
    | error cause => exact seeks.failed

/-- Nothing is asked where what is needed is known. The parts that the query does
not need may be unknown. -/
theorem spared {entry : Entry} (seeks : query.Seeks directory entry found acts)
    (known : ∀ part, query.needs? = some part → entry.knows part = true) : acts = [] := by
  cases seeks with
  | nothing needs found => rfl
  | code needs make seeks => exact seeks.spared (known _ needs)
  | canonical needs make seeks => exact seeks.spared (known _ needs)

/-- No actor is asked for where the code is known, whichever query it
is that needs it. -/
theorem actor_spared {entry : Entry} (seeks : query.Seeks directory entry found acts)
    (known : entry.knows .code = true) :
    .actor query.address .empty ∉ acts.filterMap Act.call? := by
  cases seeks with
  | nothing needs found => exact List.not_mem_nil
  | code needs make seeks =>
    rw [seeks.spared known]
    exact List.not_mem_nil
  | canonical needs make seeks => exact seeks.actor_spared known

end Seeks

end Query

namespace Directory

open Program

/-- The acts of questions one after another are careful and thrifty, by
induction on the questions. -/
theorem answerAll_acts (directory : Directory) (node : Node) (queries : List Query)
    (session : Session) :
    session.cache.Careful ((directory.answerAll queries).acts node session) ∧
      directory.Thrifty ((directory.answerAll queries).acts node session) := by
  induction queries generalizing session with
  | nil => exact ⟨trivial, fun _ _ => Nat.le_refl _⟩
  | cons query rest ih =>
    have seeks := query.seeks directory node session
    obtain ⟨careful, thrifty⟩ := ih ((query.program directory).run node session).2
    rw [run_absorb] at careful
    rw [answerAll, acts_seq]
    exact ⟨seeks.careful.append careful, seeks.thrifty.append thrifty⟩

/-- What is known after some acts was written once by them, and the next
question keeps it so. -/
structure WrittenOnce (directory : Directory) (node : Node) (acts : List Act) (session : Session) :
    Prop where
  /-- All that is known was learned by the acts. -/
  learned : session.cache = AddressCache.empty.absorb acts
  /-- What was held at any moment on the way is held still. -/
  lasting : ∀ earlier later, acts = earlier ++ later →
    (AddressCache.empty.absorb earlier).Extends session.cache
  /-- At no moment there was a canonical form without a code. -/
  complete : ∀ earlier later, acts = earlier ++ later → (AddressCache.empty.absorb earlier).Complete
  /-- For every address the actor was told at most once, and so was the address
  to report it by. -/
  once : ∀ address part, acts.countP (Act.succeeds address part) ≤ 1
  /-- The next question changes no entry but its own. -/
  others : ∀ (query : Query) name, name ≠ query.name directory →
    ((query.program directory).run node session).2.cache.entry name = session.cache.entry name
  /-- If it fails, it changes nothing, or learns the code that the node told. -/
  failed : ∀ query : Query, query.Fails directory node session →
    ((query.program directory).run node session).2.cache = session.cache ∨
      directory.LearnsTold query.address session.cache
        ((query.program directory).run node session).2.cache
        ((query.program directory).acts node session)
  /-- If what it looks up is known, it asks nothing. -/
  spared : ∀ query : Query,
    (∀ part, query.needs? = some part →
      (session.cache.entry (query.name directory)).knows part = true) →
    (query.program directory).calls node session = []
  /-- If the code is known, it does not ask for the actor. -/
  actorSpared : ∀ query : Query, (session.cache.entry (query.name directory)).knows .code = true →
    .actor query.address .empty ∉ (query.program directory).calls node session

/-- Whatever a node answers at any time, what look-ups learn of addresses is written
once: it is neither changed nor removed, a failure adds nothing that the node did
not tell, and nothing that is known is asked for again. Each query does one of a few
things, and an induction on the queries puts them together. -/
theorem entries_written_once (directory : Directory) (node : Node) (queries : List Query) :
    directory.WrittenOnce node ((directory.answerAll queries).acts node .fresh)
      ((directory.answerAll queries).run node .fresh).2 := by
  obtain ⟨careful, thrifty⟩ := directory.answerAll_acts node queries .fresh
  have learned := run_absorb node (directory.answerAll queries) .fresh
  generalize ((directory.answerAll queries).run node .fresh).2 = session at learned ⊢
  generalize (directory.answerAll queries).acts node .fresh = acts at careful thrifty learned ⊢
  constructor
  case learned => exact learned
  case lasting =>
    rintro earlier later rfl
    rw [learned, absorb_append]
    exact careful.split.2.lasting
  case complete =>
    rintro earlier later rfl
    exact careful.split.1.complete fun _ known => nomatch known
  case once =>
    intro address part
    have told := thrifty address part
    have written := careful.learned_once (address.text directory.network) part
    exact Nat.le_trans told (Nat.le_trans (Nat.le_of_add_right_le written) (Bool.toNat_le _))
  case others =>
    intro query name other
    rw [run_absorb]
    apply absorb_others
    intro fact member
    exact other ((query.seeks directory node session).own name fact member)
  case failed =>
    rintro query ⟨cause, fails⟩
    rw [run_absorb]
    exact (query.seeks directory node session).failed fails
  case spared =>
    intro query known
    rw [calls_of_acts, (query.seeks directory node session).spared known]
    rfl
  case actorSpared =>
    intro query known
    rw [calls_of_acts]
    exact (query.seeks directory node session).actor_spared known

end Directory

end FilecoinRosetta