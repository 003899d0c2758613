import FilecoinRosetta.Proofs.Directory.Uses

/-!
# Programs over caches that know more

On a node whose answers depend on nothing but the call, a program that looks
addresses up comes to the same whatever is known already, as long as that is true.
It only makes fewer calls. The proof runs one program over two caches of which one
knows at least what the other one knows, and this is kept by every step.
-/

namespace FilecoinRosetta

open AddressCache

/-! ## What is known -/

namespace AddressCache

/-- Whether anything is known of the kind of a fact. -/
def Entry.known (entry : Entry) : Fact → Bool
  | .code _ => entry.code.isSome
  | .canonical _ => entry.canonical.isSome

/-- What was learned is known, be it the code or the form. -/
theorem known_learn (entry : Entry) (fact : Fact) : (entry.learn fact).known fact = true := by
  cases fact with
  | code code => rfl
  | canonical text => rfl

/-- What was known stays known, whichever fact is learned. -/
theorem known_learn_other (entry : Entry) (fact other : Fact) (known : entry.known other = true) :
    (entry.learn fact).known other = true := by
  cases fact with
  | code code =>
    cases other with
    | code other => rfl
    | canonical text => exact known
  | canonical text =>
    cases other with
    | code code => exact known
    | canonical other => rfl

/-- What is known after a fact was learned was known before, or is of the
kind of the fact. -/
theorem known_of_learn (entry rich : Entry) (fact other : Fact)
    (known : (entry.learn fact).known other = true) (learned : rich.known fact = true)
    (before : entry.known other = true → rich.known other = true) : rich.known other = true := by
  cases fact with
  | code code =>
    cases other with
    | code other => exact learned
    | canonical text => exact before known
  | canonical text =>
    cases other with
    | code code => exact before known
    | canonical other => exact learned

end AddressCache

namespace Directory

/-- Of two caches that are coherent with constant answers, one knows at least what
the other one knows. -/
structure Ahead (directory : Directory) (answers : Node.Answers)
    (warm cold : AddressCache) : Prop where
  /-- The cache that knows more is coherent. -/
  rich : directory.Coherent (.constant answers) answers warm
  /-- The cache that knows less is coherent. -/
  poor : directory.Coherent (.constant answers) answers cold
  /-- What the one knows the other one knows. -/
  knows : ∀ name fact, (cold.entry name).known fact = true → (warm.entry name).known fact = true

namespace Ahead

variable {directory : Directory} {answers : Node.Answers} {address : Address}
  {warm cold : AddressCache} {fact : Fact}

/-- What the one does not know the other one does not know. -/
theorem unknown (ahead : directory.Ahead answers warm cold) {name : String}
    (missing : (warm.entry name).known fact = false) : (cold.entry name).known fact = false := by
  cases known : (cold.entry name).known fact with
  | false => rfl
  | true => exact (ahead.knows name fact known).symm.trans missing

/-- A code that the richer cache does not know is not known to
the poorer one either. -/
theorem code_unknown (ahead : directory.Ahead answers warm cold) {name : String}
    (missing : (warm.entry name).code = none) : (cold.entry name).code = none := by
  have known : (cold.entry name).known (.code default) = false :=
    ahead.unknown (congrArg Option.isSome missing)
  exact Option.isNone_iff_eq_none.mp (Option.isSome_eq_false_iff.mp known)

/-- A canonical form that the richer cache does not know is not known to
the poorer one either. -/
theorem canonical_unknown (ahead : directory.Ahead answers warm cold) {name : String}
    (missing : (warm.entry name).canonical = none) : (cold.entry name).canonical = none := by
  have known : (cold.entry name).known (.canonical default) = false :=
    ahead.unknown (congrArg Option.isSome missing)
  exact Option.isNone_iff_eq_none.mp (Option.isSome_eq_false_iff.mp known)

/-- The cache that knows more may learn, and stays ahead. This is how it got ahead
in the first place. -/
theorem learn_warm (ahead : directory.Ahead answers warm cold)
    (holds : directory.Holds answers address fact)
    (behind : ∀ text, fact = .canonical text →
      (warm.entry (address.text directory.network)).code.isSome) :
    directory.Ahead answers (warm.learn (address.text directory.network) fact) cold where
  rich := ahead.rich.learn (fun _ => holds) behind
  poor := ahead.poor
  knows := by
    intro name other known
    have before := ahead.knows name other known
    rw [entry_learn]
    split
    · rename_i same
      subst same
      exact known_learn_other _ _ _ before
    · exact before

/-- The cache that knows less may learn what the other one knows. -/
theorem learn_cold (ahead : directory.Ahead answers warm cold)
    (holds : directory.Holds answers address fact)
    (behind : ∀ text, fact = .canonical text →
      (cold.entry (address.text directory.network)).code.isSome)
    (learned : (warm.entry (address.text directory.network)).known fact = true) :
    directory.Ahead answers warm (cold.learn (address.text directory.network) fact) where
  rich := ahead.rich
  poor := ahead.poor.learn (fun _ => holds) behind
  knows := by
    intro name other known
    rw [entry_learn] at known
    split at known
    · rename_i same
      subst same
      exact known_of_learn _ _ _ _ known learned (ahead.knows _ other)
    · exact ahead.knows name other known

/-- Both caches may learn the same, and the one stays ahead of the other. -/
theorem learn (ahead : directory.Ahead answers warm cold)
    (holds : directory.Holds answers address fact)
    (behindWarm : ∀ text, fact = .canonical text →
      (warm.entry (address.text directory.network)).code.isSome)
    (behindCold : ∀ text, fact = .canonical text →
      (cold.entry (address.text directory.network)).code.isSome) :
    directory.Ahead answers (warm.learn (address.text directory.network) fact)
      (cold.learn (address.text directory.network) fact) := by
  refine (ahead.learn_warm holds behindWarm).learn_cold holds behindCold ?_
  rw [entry_learn, if_pos rfl]
  exact known_learn _ _

end Ahead

/-! ## Two runs of one program -/

/-- Two runs from two sessions: the results are the same, what is known stays ahead,
and what the first one goes through is part of what the second one goes through. -/
structure Follows (directory : Directory) (answers : Node.Answers) {α : Type} (warm cold : Session)
    (first second : α × Session) : Prop where
  /-- The results are the same. -/
  same : first.1 = second.1
  /-- The first run knows at least as much as the second one. -/
  ahead : directory.Ahead answers first.2.cache second.2.cache
  /-- The first run leaves calls out and makes no others. -/
  fewer : ∃ made seen, first.2.past = made ++ warm.past ∧ second.2.past = seen ++ cold.past ∧
    made.Sublist seen

/-- A program that does the same over caches of which one is ahead, but for
calls it leaves out. -/
def Transparent (directory : Directory) (answers : Node.Answers) {α : Type}
    (program : Program α) : Prop :=
  ∀ warm cold, directory.Ahead answers warm.cache cold.cache →
    directory.Follows answers warm cold (program.run (.constant answers) warm)
      (program.run (.constant answers) cold)

section

open Program

variable {directory : Directory} {answers : Node.Answers} {α β : Type}

/-- Two runs of which nothing is done come to the same value and leave
the one cache ahead. -/
theorem Follows.same_result {warm cold : Session} (value : α)
    (ahead : directory.Ahead answers warm.cache cold.cache) :
    directory.Follows answers warm cold (value, warm) (value, cold) :=
  ⟨rfl, ahead, [], [], rfl, rfl, .slnil⟩

/-- Runs one after another leave calls out in the first part and in the second, so the
whole leaves out what both of them do. -/
theorem Follows.trans {warm cold : Session} {first second : α × Session}
    {third fourth : β × Session} (before : directory.Follows answers warm cold first second)
    (after : directory.Follows answers first.2 second.2 third fourth) :
    directory.Follows answers warm cold third fourth := by
  obtain ⟨made, seen, madePast, seenPast, part⟩ := before.fewer
  obtain ⟨later, others, laterPast, othersPast, laterPart⟩ := after.fewer
  refine ⟨after.same, after.ahead, later ++ made, others ++ seen, ?_, ?_, laterPart.append part⟩
  · rw [laterPast, madePast, List.append_assoc]
  · rw [othersPast, seenPast, List.append_assoc]

/-- Transparent programs make transparent sequences, as the second one starts with
one cache ahead again. -/
theorem Transparent.seq {first : Program α} {next : α → Program β}
    (transparent : directory.Transparent answers first)
    (follows : ∀ value, directory.Transparent answers (next value)) :
    directory.Transparent answers (first.bind next) := by
  intro warm cold ahead
  have before := transparent warm cold ahead
  rw [run_bind, run_bind, before.same]
  exact before.trans (follows _ _ _ before.ahead)

/-- A call with the same answer on both sides goes on in the same way on both. -/
theorem Transparent.ask (call : Node.Call) {next : Except Node.Failure call.Answer → Program α}
    (follows : ∀ answer, directory.Transparent answers (next answer)) :
    directory.Transparent answers (.ask call next) := by
  intro warm cold ahead
  have asked : directory.Follows answers warm cold ((), warm.asked call) ((), cold.asked call) :=
    ⟨rfl, ahead, [.asked call], [.asked call], rfl, rfl, List.Sublist.refl _⟩
  exact asked.trans (follows (answers call) (warm.asked call) (cold.asked call) ahead)

/-- The address to report by is found by the same call on both sides. -/
theorem reportedAddress_transparent (kind : Option ActorKind) (address : Address) :
    directory.Transparent answers (reportedAddress kind address).run := by
  have result {ε : Type} (value : Except ε Address) : directory.Transparent answers (.done value) :=
    fun _ _ ahead => .same_result value ahead
  unfold reportedAddress
  split
  · split
    · exact result _
    · exact .ask _ fun _ => result _
  · split
    · exact result _
    · split
      · exact .ask _ fun _ => result _
      · exact .ask _ fun _ => result _

/-- A code is asked for only where it is not known, and is the same in any case. -/
theorem actorCode_transparent (address : Address) :
    directory.Transparent answers (directory.actorCode address).run := by
  intro warm cold ahead
  have honest := (Node.constant_steady answers address).honest
  have asks (session : Session) :
      directory.codeOf ((Node.constant answers).answer session.past) address =
        directory.codeOf answers address := rfl
  cases warmKnown : (warm.cache.entry (address.text directory.network)).code with
  | some code =>
    have isCode := (ahead.rich.agrees address honest).code code warmKnown
    rw [actorCode_known directory _ warm address warmKnown]
    cases coldKnown : (cold.cache.entry (address.text directory.network)).code with
    | some other =>
      have isOther := (ahead.poor.agrees address honest).code other coldKnown
      have equal : other = code := Except.ok.inj (isOther.symm.trans isCode)
      rw [actorCode_known directory _ cold address coldKnown, equal]
      exact .same_result _ ahead
    | none =>
      rw [actorCode_unknown directory _ cold address coldKnown, asks, isCode]
      refine ⟨rfl, ?_, [], [.asked (.actor address .empty)], rfl, rfl, List.nil_sublist _⟩
      refine ahead.learn_cold isCode (fun _ other => nomatch other) ?_
      exact Option.isSome_of_eq_some warmKnown
  | none =>
    have coldKnown := ahead.code_unknown warmKnown
    rw [actorCode_unknown directory _ warm address warmKnown,
      actorCode_unknown directory _ cold address coldKnown, asks, asks]
    cases isCode : directory.codeOf answers address with
    | error cause =>
      exact ⟨rfl, ahead, [.asked (.actor address .empty)],
        [.asked (.actor address .empty)], rfl, rfl, List.Sublist.refl _⟩
    | ok code =>
      refine ⟨rfl, ?_, [.asked (.actor address .empty)], [.asked (.actor address .empty)], rfl, rfl,
        List.Sublist.refl _⟩
      exact ahead.learn isCode (fun _ other => nomatch other) (fun _ other => nomatch other)

/-- Where both sides know the code, both learn the same canonical form. -/
theorem reportedText_follows (address : Address) (code : Cid) (warm cold : Session)
    (ahead : directory.Ahead answers warm.cache cold.cache)
    (warmCode : (warm.cache.entry (address.text directory.network)).code = some code)
    (coldCode : (cold.cache.entry (address.text directory.network)).code = some code) :
    directory.Follows answers warm cold
      ((directory.reportedText address code).run.run (.constant answers) warm)
      ((directory.reportedText address code).run.run (.constant answers) cold) := by
  have honest := (Node.constant_steady answers address).honest
  have reports := reportedAddress_transparent (directory.kindOf code) address warm cold ahead
  obtain ⟨warmFinds, warmCache⟩ :=
    reportedAddress_run (.constant answers) warm address (directory.kindOf code)
  have coldCache :=
    (reportedAddress_run (.constant answers) cold address (directory.kindOf code)).2
  rw [reportedText_run, reportedText_run]
  cases warmRun : (reportedAddress (directory.kindOf code) address).run.run
      (.constant answers) warm with
  | mk reported warmNext =>
    cases coldRun : (reportedAddress (directory.kindOf code) address).run.run
        (.constant answers) cold with
    | mk reportedToo coldNext =>
      rw [warmRun, coldRun] at reports
      rw [warmRun] at warmFinds warmCache
      rw [coldRun] at coldCache
      obtain rfl := reports.same
      cases reported with
      | error cause => exact reports.trans (.same_result _ reports.ahead)
      | ok reported =>
        have isKey : directory.keyOf answers address = .ok (reported.text directory.network) := by
          have isReported := reportedOf_honest honest warmFinds.symm
          rw [keyOf, (ahead.rich.agrees address honest).code code warmCode]
          dsimp only
          rw [isReported]
        dsimp only at warmCache coldCache
        rw [← warmCache] at warmCode
        rw [← coldCache] at coldCode
        refine reports.trans ⟨rfl, ?_, [], [], rfl, rfl, .slnil⟩
        exact reports.ahead.learn isKey (fun _ _ => Option.isSome_of_eq_some warmCode)
          (fun _ _ => Option.isSome_of_eq_some coldCode)

/-- A canonical form is looked for only where it is not known, and is the
same in any case. -/
theorem canonicalText_transparent (address : Address) :
    directory.Transparent answers (directory.canonicalText address).run := by
  intro warm cold ahead
  have steady := Node.constant_steady answers address
  cases warmKnown : (warm.cache.entry (address.text directory.network)).canonical with
  | some text =>
    -- The second run may do everything anew; what it finds the first one knows
    -- already.
    have isKey := (ahead.rich.agrees address steady.honest).canonical text warmKnown
    have codeKnown := ahead.rich.complete _ (Option.isSome_of_eq_some warmKnown)
    have finds := (canonicalText_yields steady cold ahead.poor).1
    obtain ⟨kept, -⟩ := canonicalText_kept address cold ahead.poor
    obtain ⟨seen, past⟩ := run_past (.constant answers) (directory.canonicalText address).run cold
    rw [canonicalText_known directory _ warm address warmKnown]
    refine ⟨isKey.symm.trans finds.symm, ⟨ahead.rich, kept.coherent, ?_⟩, [], seen, rfl, past,
      List.nil_sublist _⟩
    intro name fact known
    by_cases same : name = address.text directory.network
    · subst same
      cases fact with
      | code code => exact codeKnown
      | canonical other => exact Option.isSome_of_eq_some warmKnown
    · rw [kept.others name same] at known
      exact ahead.knows name fact known
  | none =>
    have coldKnown := ahead.canonical_unknown warmKnown
    rw [canonicalText_unknown directory _ warm address warmKnown,
      canonicalText_unknown directory _ cold address coldKnown]
    have codes := actorCode_transparent address warm cold ahead
    have warmLearns := (actorCode_kept address warm ahead.rich).2
    have coldLearns := (actorCode_kept address cold ahead.poor).2
    cases warmRun : (directory.actorCode address).run.run (.constant answers) warm with
    | mk found warmNext =>
      cases coldRun : (directory.actorCode address).run.run (.constant answers) cold with
      | mk foundToo coldNext =>
        rw [warmRun, coldRun] at codes
        rw [warmRun] at warmLearns
        rw [coldRun] at coldLearns
        obtain rfl := codes.same
        cases found with
        | error cause => exact codes.trans (.same_result _ codes.ahead)
        | ok code =>
          exact codes.trans (reportedText_follows address code warmNext coldNext codes.ahead
            (warmLearns code rfl) (coldLearns code rfl))

/-- Whatever looks addresses up and nothing else is transparent, by induction
on its uses. -/
theorem Uses.transparent {program : Program α} (uses : directory.Uses program) :
    directory.Transparent answers program := by
  induction uses with
  | done result => exact fun _ _ ahead => .same_result result ahead
  | ask call _ ih => exact .ask call ih
  | wait span _ ih =>
    intro warm cold ahead
    have waited : directory.Follows answers warm cold
        ((), ⟨warm.cache, .waited span :: warm.past⟩)
        ((), ⟨cold.cache, .waited span :: cold.past⟩) :=
      ⟨rfl, ahead, [.waited span], [.waited span], rfl, rfl, List.Sublist.refl _⟩
    exact waited.trans (ih _ _ ahead)
  | code address _ ih => exact (actorCode_transparent address).seq ih
  | canonical address _ ih => exact (canonicalText_transparent address).seq ih

end

end Directory

end FilecoinRosetta
