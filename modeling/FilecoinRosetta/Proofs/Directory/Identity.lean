import FilecoinRosetta.Proofs.Directory.Uses
import FilecoinRosetta.Proofs.Program.Validity

/-!
# One actor, one canonical form

An actor has a number and may have other addresses. Of a node it is enough to
know that it tells one code for all of them, that it maps them to the number,
and the number to a key or to another of them. Then the address that an actor
is reported by is reported by itself. Where a multisig, a miner or an account
is reported by one address in particular, it is reported by that one whichever
of its addresses was used.

What look-ups learn follows from what the node tells and is the same at any time. So
it is a matter of valid facts, and balances, robust addresses and everything else
that a node tells may change in the meantime.
-/

namespace FilecoinRosetta

open AddressCache Program

/-- The actors on a chain, by number. -/
structure Population where
  /-- The actor that an address belongs to, if it belongs to one. -/
  owner : Address → Option UInt64
  /-- The code of an actor. -/
  code : UInt64 → Cid
  /-- The key of an actor that has one. -/
  key : UInt64 → Option Address
  /-- A number belongs to no other actor. -/
  owner_id : ∀ {number other : UInt64}, owner (.id number) = some other → other = number
  /-- An actor has its number, whatever other addresses it has. -/
  id_owned : ∀ {address : Address} {number : UInt64}, owner address = some number →
    owner (.id number) = some number
  /-- A key is an address of its actor, and not the number. -/
  key_owned : ∀ {number : UInt64} {address : Address}, key number = some address →
    owner address = some number ∧ address.isId = false

/-- Whenever a node is asked, what it tells about addresses fits the actors
that they belong to. -/
structure Node.Consistent (node : Node) (directory : Directory) (population : Population) :
    Prop where
  /-- All addresses of an actor give its code. -/
  code : ∀ {address : Address} {number : UInt64}, population.owner address = some number → ∀ past,
    ∃ state, node.answer past (.actor address .empty) = .ok (some state) ∧
      state.code = population.code number
  /-- Addresses other than the number are mapped to the number. -/
  number : ∀ {address : Address} {number : UInt64}, population.owner address = some number →
    address.isId = false → ∀ past, node.answer past (.idAddress address .empty) = .ok (.id number)
  /-- The number of an account is mapped to its one key. -/
  key : ∀ {number : UInt64}, population.owner (.id number) = some number →
    directory.kindOf (population.code number) = some .account →
    ∃ key, population.key number = some key ∧
      ∀ past, node.answer past (.accountKey (.id number) .empty) = .ok key
  /-- A number is mapped to another address of its actor, not always to the same. -/
  robust : ∀ {number : UInt64}, population.owner (.id number) = some number → ∀ past,
    ∃ address, node.answer past (.robustAddress (.id number) .empty) = .ok address ∧
      population.owner address = some number ∧ address.isId = false

namespace Directory

variable {directory : Directory} {population : Population} {node : Node} {address : Address}
  {number : UInt64}
  {valid : String → Fact → Prop}

/-! ## The address to report by -/

/-- An actor, asked for by one of its addresses, may be reported by another one. -/
structure Reports (directory : Directory) (population : Population) (number : UInt64)
    (address reported : Address) : Prop where
  /-- It is an address of the actor. -/
  owner : population.owner reported = some number
  /-- Multisigs and miners are reported by number. -/
  byNumber : reportedByNumber (directory.kindOf (population.code number)) = true →
    reported = .id number
  /-- Others are not. -/
  notNumber : reportedByNumber (directory.kindOf (population.code number)) = false →
    reported.isId = false
  /-- Their other addresses are reported as they are. -/
  itself : reportedByNumber (directory.kindOf (population.code number)) = false →
    address.isId = false →
    reported = address
  /-- For the number of an account its key is reported. -/
  byKey : directory.kindOf (population.code number) = some .account → address.isId = true →
    population.key number = some reported

/-- An address that is reported is reported by itself, so canonical
forms are canonical. -/
theorem Reports.again {reported last : Address}
    (reports : directory.Reports population number address reported)
    (further : directory.Reports population number reported last) : last = reported := by
  cases kind : reportedByNumber (directory.kindOf (population.code number)) with
  | true => rw [further.byNumber kind, reports.byNumber kind]
  | false => exact further.itself kind (reports.notNumber kind)

/-- An account is reported by its key, for the key and for the number. -/
theorem Reports.account_key {key reported : Address}
    (reports : directory.Reports population number address reported)
    (isAccount : directory.kindOf (population.code number) = some .account)
    (isKey : population.key number = some key) (either : address = key ∨ address = .id number) :
    reported = key := by
  have byAddress : reportedByNumber (directory.kindOf (population.code number)) = false := by
    rw [isAccount]
    rfl
  rcases either with rfl | rfl
  · exact reports.itself byAddress (population.key_owned isKey).2
  · exact Option.some.inj ((reports.byKey isAccount rfl).symm.trans isKey)

/-- An actor that is reported by number may be reported by it
for all its addresses. -/
theorem reports_number (owned : population.owner address = some number)
    (byNumber : reportedByNumber (directory.kindOf (population.code number)) = true) :
    directory.Reports population number address (.id number) where
  owner := population.id_owned owned
  byNumber _ := rfl
  notNumber other := nomatch byNumber.symm.trans other
  itself other := nomatch byNumber.symm.trans other
  byKey isAccount := by
    rw [isAccount] at byNumber
    exact nomatch byNumber

/-- Another actor may be reported for its number by another address, an
account by its key. -/
theorem reports_other {reported : Address} (owned : population.owner reported = some number)
    (notNumber : reportedByNumber (directory.kindOf (population.code number)) = false)
    (notId : reported.isId = false)
    (byKey : directory.kindOf (population.code number) = some .account →
      population.key number = some reported) :
    directory.Reports population number (.id number) reported where
  owner := owned
  byNumber other := nomatch notNumber.symm.trans other
  notNumber _ := notId
  itself _ other := nomatch other
  byKey isAccount _ := byKey isAccount

/-- For an address other than the number it may be reported by that address. -/
theorem reports_itself (owned : population.owner address = some number)
    (notNumber : reportedByNumber (directory.kindOf (population.code number)) = false)
    (notId : address.isId = false) : directory.Reports population number address address where
  owner := owned
  byNumber other := nomatch notNumber.symm.trans other
  notNumber _ := notId
  itself _ _ := rfl
  byKey _ other := nomatch notId.symm.trans other

/-- The address to report by is found, whenever it is asked for. -/
theorem reportedAddress_minds (consistent : node.Consistent directory population)
    (owned : population.owner address = some number) :
    Minds node valid (fun found => ∃ reported, found = .ok reported ∧
        directory.Reports population number address reported)
      (reportedAddress (directory.kindOf (population.code number)) address).run := by
  have numberOwned := population.id_owned owned
  have isNumber (isId : address.isId = true) : address = .id number := by
    cases address with
    | id own => rw [population.owner_id owned]
    | _ => exact nomatch isId
  unfold reportedAddress
  cases kind : reportedByNumber (directory.kindOf (population.code number)) with
  | true =>
    rw [if_pos rfl]
    by_cases isId : address.isId = true
    · obtain rfl := isNumber isId
      rw [if_pos isId]
      exact .done ⟨.id number, rfl, reports_number owned kind⟩
    · rw [if_neg isId]
      refine .ask fun past => ?_
      rw [consistent.number owned (Bool.eq_false_iff.mpr isId)]
      exact .done ⟨.id number, rfl, reports_number owned kind⟩
  | false =>
    rw [if_neg Bool.false_ne_true]
    by_cases isId : address.isId = true
    · obtain rfl := isNumber isId
      rw [isId, if_neg (by decide)]
      by_cases isAccount : directory.kindOf (population.code number) = some .account
      · obtain ⟨key, isKey, told⟩ := consistent.key numberOwned isAccount
        obtain ⟨keyOwned, notId⟩ := population.key_owned isKey
        rw [if_pos (beq_iff_eq.mpr isAccount)]
        refine .ask fun past => ?_
        rw [told]
        exact .done ⟨key, rfl, reports_other keyOwned kind notId fun _ => isKey⟩
      · rw [if_neg fun other => isAccount (beq_iff_eq.mp other)]
        refine .ask fun past => ?_
        obtain ⟨robust, told, robustOwned, notId⟩ := consistent.robust numberOwned past
        rw [told]
        exact .done ⟨robust, rfl, reports_other robustOwned kind notId fun other =>
          absurd other isAccount⟩
    · have notId : address.isId = false := Bool.eq_false_iff.mpr isId
      rw [notId, if_pos (by decide)]
      exact .done ⟨address, rfl, reports_itself owned kind notId⟩

/-- Where no actor is known, the address to report by may be any. -/
theorem reportedAddress_minds_any (kind : Option ActorKind) (address : Address) :
    Minds node valid (fun _ => True) (reportedAddress kind address).run := by
  unfold reportedAddress
  split
  · split
    · exact .done trivial
    · exact .ask fun _ => .done trivial
  · split
    · exact .done trivial
    · split
      · exact .ask fun _ => .done trivial
      · exact .ask fun _ => .done trivial

/-! ## Look-ups -/

/-- A fact fits the actors: under the name of an address of an actor it is the code
of the actor, or the form of an address that the actor is reported by. -/
def Fits (directory : Directory) (population : Population) (name : String) (fact : Fact) : Prop :=
  ∀ address number, address.text directory.network = name → population.owner address = some number →
    match fact with
    | .code code => code = population.code number
    | .canonical text => ∃ reported : Address, text = reported.text directory.network ∧
        directory.Reports population number address reported

/-- What fits one address fits under its name, which is the name of no other. -/
theorem fits_code {code : Cid}
    (isCode : ∀ number, population.owner address = some number → code = population.code number) :
    directory.Fits population (address.text directory.network) (.code code) := by
  intro other number sameText owned
  obtain rfl := Address.display_injective directory.network other address sameText
  exact isCode number owned

/-- A form that the actor of an address is reported by fits under the name of the
address. No other address has that name, so nothing else must be checked. -/
theorem fits_canonical {text : String}
    (isForm : ∀ number, population.owner address = some number →
      ∃ reported : Address, text = reported.text directory.network ∧
        directory.Reports population number address reported) :
    directory.Fits population (address.text directory.network) (.canonical text) := by
  intro other number sameText owned
  obtain rfl := Address.display_injective directory.network other address sameText
  exact isForm number owned

/-- A look-up of a code on a consistent node comes to the code of the actor if the
address belongs to one. All it learns on the way fits the actors. -/
theorem actorCode_minds (consistent : node.Consistent directory population) (address : Address) :
    Minds node (directory.Fits population)
      (fun found => ∀ number, population.owner address = some number →
        found = .ok (population.code number))
      (directory.actorCode address).run := by
  rw [actorCode_steps]
  refine .consult fun entry fits => ?_
  cases known : entry.code with
  | some code =>
    refine .done fun number owned => ?_
    have isCode : code = population.code number := fits (.code code) known address number rfl owned
    rw [isCode]
  | none =>
    refine .ask fun past => ?_
    cases told : node.answer past (.actor address .empty) with
    | error failure =>
      refine .done fun number owned => ?_
      obtain ⟨state, tells, -⟩ := consistent.code owned past
      exact nomatch told.symm.trans tells
    | ok found =>
      cases found with
      | none =>
        refine .done fun number owned => ?_
        obtain ⟨state, tells, -⟩ := consistent.code owned past
        exact nomatch told.symm.trans tells
      | some state =>
        have isCode (number : UInt64) (owned : population.owner address = some number) :
            state.code = population.code number := by
          obtain ⟨other, tells, isCode⟩ := consistent.code owned past
          obtain rfl := Option.some.inj (Except.ok.inj (told.symm.trans tells))
          exact isCode
        refine .learn (fits_code isCode) (.done fun number owned => ?_)
        rw [isCode number owned]

/-- What a look-up of a canonical form comes to: for the address of an actor it is
the form of an address that the actor is reported by. -/
def FormFits (directory : Directory) (population : Population) (address : Address)
    (found : Except LookupError String) : Prop :=
  ∀ number, population.owner address = some number →
    ∃ reported : Address, found = .ok (reported.text directory.network) ∧
      directory.Reports population number address reported

/-- What follows from the right code of an actor is a form that the actor is
reported by, or a failure. All it learns fits the actors. -/
theorem reportedText_minds (consistent : node.Consistent directory population) {code : Cid}
    (isCode : ∀ number, population.owner address = some number → code = population.code number) :
    Minds node (directory.Fits population) (directory.FormFits population address)
      (directory.reportedText address code).run := by
  have reported : Minds node (directory.Fits population)
      (fun found => ∀ number, population.owner address = some number →
        ∃ reported, found = .ok reported ∧ directory.Reports population number address reported)
      (reportedAddress (directory.kindOf code) address).run := by
    cases owned : population.owner address with
    | none => exact (reportedAddress_minds_any _ address).weaken fun _ _ _ other => nomatch other
    | some own =>
      rw [isCode own owned]
      refine (reportedAddress_minds consistent owned).weaken fun found reports number isOwn => ?_
      obtain rfl := Option.some.inj isOwn
      exact reports
  unfold reportedText
  rw [ExceptT.run_bind]
  refine reported.seq fun found reports => ?_
  cases found with
  | error cause =>
    refine .done fun number owned => ?_
    obtain ⟨_, impossible, -⟩ := reports number owned
    exact nomatch impossible
  | ok found =>
    have isReported (number : UInt64) (owned : population.owner address = some number) :
        directory.Reports population number address found := by
      obtain ⟨other, same, reports⟩ := reports number owned
      obtain rfl := Except.ok.inj same
      exact reports
    refine .learn (fits_canonical fun number owned => ⟨found, rfl, isReported number owned⟩)
      (.done ?_)
    exact fun number owned => ⟨found, rfl, isReported number owned⟩

/-- A look-up of a canonical form on a consistent node comes to a form that the
actor is reported by, or to a failure. All it learns fits the actors. -/
theorem canonicalText_minds (consistent : node.Consistent directory population)
    (address : Address) :
    Minds node (directory.Fits population) (directory.FormFits population address)
      (directory.canonicalText address).run := by
  rw [canonicalText_steps]
  refine .consult fun entry fits => ?_
  cases known : entry.canonical with
  | some text =>
    refine .done fun number owned => ?_
    obtain ⟨reported, isText, reports⟩ := fits (.canonical text) known address number rfl owned
    exact ⟨reported, congrArg Except.ok isText, reports⟩
  | none =>
    dsimp only
    rw [ExceptT.run_bind]
    refine (actorCode_minds consistent address).seq fun found isCode => ?_
    cases found with
    | ok code => exact reportedText_minds consistent fun number owned =>
        Except.ok.inj (isCode number owned)
    | error cause => exact .done fun number owned => nomatch isCode number owned

/-- Programs that look addresses up learn what fits the actors, by induction on the
look-ups that they use. -/
theorem Uses.minds {α : Type} {program : Program α} (uses : directory.Uses program)
    (consistent : node.Consistent directory population) :
    Minds node (directory.Fits population) (fun _ => True) program := by
  induction uses with
  | done result => exact .done trivial
  | ask call _ ih => exact .ask fun past => ih (node.answer past call)
  | wait span _ ih => exact .wait ih
  | code address _ ih => exact (actorCode_minds consistent address).seq fun found _ => ih found
  | canonical address _ ih =>
    exact (canonicalText_minds consistent address).seq fun found _ => ih found

end Directory

end FilecoinRosetta
