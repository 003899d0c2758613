import FilecoinRosetta.Proofs.Directory.Lookup

/-!
# Coherent caches

A cache is coherent with the answers of a node if every entry goes by the display of
an address and holds nothing but what these answers give for it. Only truth about an
address is kept under its name, whatever else the node answers, and where the
answers are always the same, look-ups find just that truth.
-/

namespace FilecoinRosetta.Directory

open Program Lookup AddressCache

/-! ## Entries that agree with answers -/

/-- A fact about an address that follows from answers. -/
def Holds (directory : Directory) (answers : Node.Answers) (address : Address) : Fact → Prop
  | .code code => directory.codeOf answers address = .ok code
  | .canonical text => directory.keyOf answers address = .ok text

/-- An entry holds nothing about an address but what answers give. -/
structure Agrees (directory : Directory) (answers : Node.Answers) (address : Address)
    (entry : Entry) : Prop where
  /-- A known code is the one of the address. -/
  code : ∀ code, entry.code = some code → directory.codeOf answers address = .ok code
  /-- A known canonical form is the one of the address. -/
  canonical : ∀ text, entry.canonical = some text → directory.keyOf answers address = .ok text

/-- Every entry is about an address, and about addresses nothing is known that
answers do not give. -/
structure Coherent (directory : Directory) (node : Node) (answers : Node.Answers)
    (cache : AddressCache) : Prop where
  /-- Names of entries are displayed addresses. -/
  named : ∀ name, cache.entry name ≠ .unknown →
    ∃ address : Address, address.text directory.network = name
  /-- Entries hold the truth, as long as the node tells it. -/
  agrees : ∀ address, node.HonestAt answers address →
    directory.Agrees answers address (cache.entry (address.text directory.network))
  /-- Where the canonical form is known, so is the code it follows from. -/
  complete : ∀ name, (cache.entry name).canonical.isSome → (cache.entry name).code.isSome

variable {directory : Directory} {node : Node} {answers : Node.Answers} {address : Address}

/-- A fact that follows from answers may be put into an entry
that agrees with them. -/
theorem Agrees.learn {entry : Entry} {fact : Fact} (agrees : directory.Agrees answers address entry)
    (holds : directory.Holds answers address fact) :
    directory.Agrees answers address (entry.learn fact) := by
  cases fact with
  | code code =>
    refine ⟨?_, agrees.canonical⟩
    rintro _ ⟨⟩
    exact holds
  | canonical text =>
    refine ⟨agrees.code, ?_⟩
    rintro _ ⟨⟩
    exact holds

/-- Nothing is known at first, so nothing that is known is untrue. -/
theorem coherent_empty : directory.Coherent node answers .empty where
  named _ known := absurd rfl known
  agrees _ _ := ⟨fun _ known => (nomatch known), fun _ known => (nomatch known)⟩
  complete _ known := nomatch known

/-- A true fact may be learned about an address; its canonical form
only behind its code. -/
theorem Coherent.learn {cache : AddressCache} (coherent : directory.Coherent node answers cache)
    {fact : Fact} (holds : node.HonestAt answers address → directory.Holds answers address fact)
    (behind : ∀ text, fact = .canonical text →
      (cache.entry (address.text directory.network)).code.isSome) :
    directory.Coherent node answers (cache.learn (address.text directory.network) fact) where
  named := by
    intro name known
    by_cases same : name = address.text directory.network
    · exact ⟨address, same.symm⟩
    · rw [entry_learn, if_neg same] at known
      exact coherent.named name known
  agrees := by
    intro other honest
    by_cases same : other.text directory.network = address.text directory.network
    · obtain rfl := Address.display_injective directory.network other address same
      rw [entry_learn, if_pos rfl]
      exact (coherent.agrees other honest).learn (holds honest)
    · rw [entry_learn, if_neg same]
      exact coherent.agrees other honest
  complete := by
    intro name known
    by_cases same : name = address.text directory.network
    · subst same
      rw [entry_learn, if_pos rfl] at known ⊢
      cases fact with
      | code code => rfl
      | canonical text => exact behind text rfl
    · rw [entry_learn, if_neg same] at known ⊢
      exact coherent.complete name known

/-! ## What look-ups leave behind -/

/-- After a look-up of an address the cache is coherent, and only the entry
of the address changed. -/
structure Kept (directory : Directory) (node : Node) (answers : Node.Answers) (address : Address)
    (before after : AddressCache) : Prop where
  /-- The cache is coherent. -/
  coherent : directory.Coherent node answers after
  /-- Other entries are what they were. -/
  others : ∀ name, name ≠ address.text directory.network → after.entry name = before.entry name

/-- A fact changes no entry but the one it is put into. -/
theorem Kept.learn {before after : AddressCache} {fact : Fact}
    (kept : directory.Kept node answers address before after)
    (holds : node.HonestAt answers address → directory.Holds answers address fact)
    (behind : ∀ text, fact = .canonical text →
      (after.entry (address.text directory.network)).code.isSome) :
    directory.Kept node answers address before
      (after.learn (address.text directory.network) fact) where
  coherent := kept.coherent.learn holds behind
  others := by
    intro name other
    rw [entry_learn, if_neg other]
    exact kept.others name other

/-- Look-ups of one address one after another keep what each of them keeps. -/
theorem Kept.trans {before middle after : AddressCache}
    (first : directory.Kept node answers address before middle)
    (second : directory.Kept node answers address middle after) :
    directory.Kept node answers address before after where
  coherent := second.coherent
  others := fun name other => (second.others name other).trans (first.others name other)

/-- The look-up of a code keeps coherence, and the code it
finds is known afterwards. -/
theorem actorCode_kept (address : Address) (session : Session)
    (coherent : directory.Coherent node answers session.cache) :
    directory.Kept node answers address session.cache
        ((directory.actorCode address).run.run node session).2.cache ∧
      ∀ code, ((directory.actorCode address).run.run node session).1 = .ok code →
        (((directory.actorCode address).run.run node session).2.cache.entry
          (address.text directory.network)).code = some code := by
  have same : directory.Kept node answers address session.cache session.cache :=
    ⟨coherent, fun _ _ => rfl⟩
  cases known : (session.cache.entry (address.text directory.network)).code with
  | some code =>
    rw [actorCode_known directory node session address known]
    refine ⟨same, ?_⟩
    rintro _ ⟨⟩
    exact known
  | none =>
    rw [actorCode_unknown directory node session address known]
    cases found : directory.codeOf (node.answer session.past) address with
    | error cause => exact ⟨same, fun _ impossible => nomatch impossible⟩
    | ok code =>
      refine ⟨same.learn (fun honest => codeOf_honest honest found) (fun _ other => nomatch other),
        ?_⟩
      rintro _ ⟨⟩
      change (((session.cache.learn _ _).entry _).code) = _
      rw [entry_learn, if_pos rfl]
      rfl

/-- Where the code is known, the canonical form that is learned is the true one. -/
theorem reportedText_kept (address : Address) (code : Cid) (session : Session)
    (coherent : directory.Coherent node answers session.cache)
    (codeKnown : (session.cache.entry (address.text directory.network)).code = some code) :
    directory.Kept node answers address session.cache
        ((directory.reportedText address code).run.run node session).2.cache ∧
      ∀ text, ((directory.reportedText address code).run.run node session).1 = .ok text →
        (((directory.reportedText address code).run.run node session).2.cache.entry
          (address.text directory.network)).canonical = some text := by
  obtain ⟨reports, cache⟩ := reportedAddress_run node session address (directory.kindOf code)
  rw [reportedText_run]
  cases found : (reportedAddress (directory.kindOf code) address).run.run node session with
  | mk reported later =>
    rw [found] at reports cache
    dsimp only at reports cache ⊢
    rw [← cache] at coherent codeKnown ⊢
    have same : directory.Kept node answers address later.cache later.cache :=
      ⟨coherent, fun _ _ => rfl⟩
    cases reported with
    | error cause => exact ⟨same, fun _ impossible => nomatch impossible⟩
    | ok reported =>
      have truth (honest : node.HonestAt answers address) :
          directory.keyOf answers address = .ok (reported.text directory.network) := by
        have isCode := (coherent.agrees address honest).code code codeKnown
        have isReported := reportedOf_honest honest reports.symm
        rw [keyOf, isCode]
        dsimp only
        rw [isReported]
      refine ⟨same.learn truth ?_, ?_⟩
      · intro _ _
        exact Option.isSome_of_eq_some codeKnown
      · rintro _ ⟨⟩
        change (((later.cache.learn _ _).entry _).canonical) = _
        rw [entry_learn, if_pos rfl]
        rfl

/-- The look-up of a canonical form keeps coherence, and the form it
finds is known afterwards. -/
theorem canonicalText_kept (address : Address) (session : Session)
    (coherent : directory.Coherent node answers session.cache) :
    directory.Kept node answers address session.cache
        ((directory.canonicalText address).run.run node session).2.cache ∧
      ∀ text, ((directory.canonicalText address).run.run node session).1 = .ok text →
        (((directory.canonicalText address).run.run node session).2.cache.entry
          (address.text directory.network)).canonical = some text := by
  cases known : (session.cache.entry (address.text directory.network)).canonical with
  | some text =>
    rw [canonicalText_known directory node session address known]
    refine ⟨⟨coherent, fun _ _ => rfl⟩, ?_⟩
    rintro _ ⟨⟩
    exact known
  | none =>
    rw [canonicalText_unknown directory node session address known]
    obtain ⟨kept, learned⟩ := actorCode_kept address session coherent
    cases first : (directory.actorCode address).run.run node session with
    | mk found later =>
      rw [first] at kept learned
      cases found with
      | error cause => exact ⟨kept, fun _ impossible => nomatch impossible⟩
      | ok code =>
        obtain ⟨keptToo, known⟩ :=
          reportedText_kept address code later kept.coherent (learned code rfl)
        exact ⟨kept.trans keptToo, known⟩

/-! ## What look-ups find -/

/-- The name of a method, from answers. -/
def nameOf (directory : Directory) (answers : Node.Answers) (address : Address) (number : UInt64) :
    String :=
  if number = 0 then sendName
  else if number = 1 then constructorName
  else match directory.codeOf answers address with
    | .ok code => directory.methodOfCode code number
    | .error _ => Actor.unknownName

/-- The canonical form of an address, or the address itself, from answers. -/
def accountOf (directory : Directory) (answers : Node.Answers) (address : Address) : String :=
  match directory.keyOf answers address with
  | .ok text => text
  | .error _ => address.text directory.network

/-- Over a coherent cache the code is found that steady answers give. -/
theorem actorCode_yields (steady : node.SteadyAt answers address) :
    Yields node (directory.Coherent node answers) (directory.actorCode address).run
      (directory.codeOf answers address) := by
  intro session coherent
  refine ⟨?_, (actorCode_kept address session coherent).1.coherent⟩
  cases known : (session.cache.entry (address.text directory.network)).code with
  | some code =>
    rw [actorCode_known directory node session address known]
    exact ((coherent.agrees address steady.honest).code code known).symm
  | none =>
    rw [actorCode_unknown directory node session address known, codeOf_steady steady]
    cases directory.codeOf answers address with
    | error cause => rfl
    | ok code => rfl

/-- Over a coherent cache the canonical form is found that steady answers give. -/
theorem canonicalText_yields (steady : node.SteadyAt answers address) :
    Yields node (directory.Coherent node answers) (directory.canonicalText address).run
      (directory.keyOf answers address) := by
  intro session coherent
  refine ⟨?_, (canonicalText_kept address session coherent).1.coherent⟩
  cases known : (session.cache.entry (address.text directory.network)).canonical with
  | some text =>
    rw [canonicalText_known directory node session address known]
    exact ((coherent.agrees address steady.honest).canonical text known).symm
  | none =>
    rw [canonicalText_unknown directory node session address known, keyOf]
    have codes : ((directory.actorCode address).run.run node session).1 = _ :=
      (actorCode_yields steady session coherent).1
    cases first : (directory.actorCode address).run.run node session with
    | mk found later =>
      rw [first] at codes
      rw [← codes]
      cases found with
      | error cause => rfl
      | ok code =>
        have reports := (reportedAddress_run node later address (directory.kindOf code)).1
        rw [reportedOf_steady steady] at reports
        dsimp only
        rw [reportedText_run, ← reports]
        cases (reportedAddress (directory.kindOf code) address).run.run node later with
        | mk reported last =>
          cases reported with
          | error cause => rfl
          | ok reported => rfl

/-- Over a coherent cache a method has the name that steady answers give. -/
theorem methodName_yields (steady : node.SteadyAt answers address) (number : UInt64) :
    Yields node (directory.Coherent node answers) (directory.methodName address number)
      (directory.nameOf answers address number) := by
  unfold methodName nameOf
  by_cases send : number = 0
  · rw [if_pos send, if_pos send]
    exact .result _
  · rw [if_neg send, if_neg send]
    by_cases constructs : number = 1
    · rw [if_pos constructs, if_pos constructs]
      exact .result _
    · rw [if_neg constructs, if_neg constructs]
      refine (actorCode_yields steady).seq ?_
      cases directory.codeOf answers address with
      | ok code => exact .result _
      | error cause => exact .result _

/-- Over a coherent cache an account goes by the text that steady answers give. -/
theorem canonicalOrOwnText_yields (steady : node.SteadyAt answers address) :
    Yields node (directory.Coherent node answers) (directory.canonicalOrOwnText address)
      (directory.accountOf answers address) := by
  refine (canonicalText_yields steady).seq ?_
  unfold accountOf
  cases directory.keyOf answers address with
  | ok text => exact .result _
  | error cause => exact .result _

end FilecoinRosetta.Directory
