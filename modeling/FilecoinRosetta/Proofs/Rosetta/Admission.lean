import FilecoinRosetta.Proofs.Rosetta.SyncGate

/-!
# Requests that are no good have no effect

A request is looked at before anything is asked: whether it can be read, whether it
is for the network served, and whether what it says can be understood. If it is
refused then, the endpoint does nothing but refuse it. So the node is not asked, let
alone handed a message, and nothing is learned about addresses.
-/

namespace FilecoinRosetta

/-- What is not found by its name among some items is the name of none of them. -/
theorem name_ne_of_find {κ : Type} {items : List κ} {nameOf : κ → String} {name : String}
    (unknown : items.find? (fun item => nameOf item == name) = none) {item : κ}
    (listed : item ∈ items) :
    nameOf item ≠ name := by
  have differs := List.find?_eq_none.mp unknown item listed
  exact fun same => differs (beq_iff_eq.mpr same)

/-- What is found by a name among some items has that name. -/
theorem name_of_find {κ : Type} {items : List κ} {nameOf : κ → String} {name : String} {item : κ}
    (found : items.find? (fun item => nameOf item == name) = some item) : nameOf item = name := by
  have same := List.find?_some found
  exact beq_iff_eq.mp same

namespace Node.TipsetTag

/-- All tags of finality are listed, so a text is looked for among all of them. -/
theorem mem_all (tag : TipsetTag) : tag ∈ all := by
  cases tag <;> decide

/-- A text that is the name of no tag is not the name of any one of them. -/
theorem name_ne_of_ofName {name : String} (unknown : ofName? name = none) (tag : TipsetTag) :
    tag.name ≠ name :=
  name_ne_of_find unknown tag.mem_all

/-- A tag that is found by a name has that name. -/
theorem name_of_ofName {name : String} {tag : TipsetTag} (found : ofName? name = some tag) :
    tag.name = name :=
  name_of_find found

end Node.TipsetTag

end FilecoinRosetta

namespace FilecoinRosetta.Rosetta

open Program

/-! ## The network of a request -/

/-- The network that the body of a request is for: nothing if it cannot be read, and
possibly none. Lists of networks are asked for without one. -/
def Route.network? (route : Route) (body : Bytes) : Option (Option NetworkIdentifier) :=
  match route with
  | .networkList => (Json.readBytes? readListRequest body).map fun _ => none
  | .networkStatus => named readNetworkRequest
  | .networkOptions => named readNetworkRequest
  | .accountBalance => named readBalanceRequest
  | .block => named readBlockRequest
  | .blockTransaction => named readBlockTransactionRequest
  | .mempool => named readNetworkRequest
  | .mempoolTransaction => named readPendingTransactionRequest
  | .constructionMetadata => named readMetadataRequest
  | .constructionSubmit => named readSubmitRequest
  | .constructionDerive => named readOfflineRequest
  | .constructionPreprocess => named readOfflineRequest
  | .constructionPayloads => named readOfflineRequest
  | .constructionCombine => named readOfflineRequest
  | .constructionParse => named readOfflineRequest
  | .constructionHash => named readOfflineRequest
where
  named {α : Type} (reader : Json.Reader (Request α)) : Option (Option NetworkIdentifier) :=
    (Json.readBytes? reader body).map Request.network

/-- A request can be read and is for the network served, or for the part of
it that takes tags. -/
structure Addressed (service : Service) (network : Option (Option NetworkIdentifier))
    (identifier : NetworkIdentifier) : Prop where
  /-- It names a network. -/
  names : network = some (some identifier)
  /-- The blockchain is the one served. -/
  blockchain : identifier.blockchain = blockchainName
  /-- So is the network. -/
  network : identifier.network = service.networkName
  /-- A part of it is that of the tags, where tags are served. -/
  subNetwork : ∀ part, identifier.subNetwork = some part →
    part.name = taggedSubNetwork ∧ service.options.tagged = true

/-- Why a request is not for the network served: the first cause that applies. -/
inductive Misdirected (service : Service) :
    Option (Option NetworkIdentifier) → ServiceError → Prop where
  /-- It cannot be read. -/
  | unreadable : Misdirected service none (.because .malformedValue unreadableText)
  /-- It names no network. -/
  | unnamed : Misdirected service (some none) (.bare .missingNetwork)
  /-- It is for another blockchain. -/
  | blockchain {identifier : NetworkIdentifier} (other : identifier.blockchain ≠ blockchainName) :
      Misdirected service (some (some identifier))
        (.because .invalidBlockchain identifier.blockchain)
  /-- It is for another network of the blockchain. -/
  | network {identifier : NetworkIdentifier} (ours : identifier.blockchain = blockchainName)
      (other : identifier.network ≠ service.networkName) :
      Misdirected service (some (some identifier)) (.because .invalidNetwork identifier.network)
  /-- It is for a part of the network that is another one than that of the tags,
  or is not served. -/
  | subNetwork {identifier : NetworkIdentifier} {part : SubNetwork}
      (ours : identifier.blockchain = blockchainName)
      (same : identifier.network = service.networkName) (isPart : identifier.subNetwork = some part)
      (unserved : part.name ≠ taggedSubNetwork ∨ service.options.tagged = false) :
      Misdirected service (some (some identifier)) (.because .invalidSubNetwork part.name)

/-- There is a cause if a request is not for the network served. -/
theorem misdirected_or_addressed (service : Service) (network : Option (Option NetworkIdentifier)) :
    (∃ cause, Misdirected service network cause) ∨
      ∃ identifier, Addressed service network identifier := by
  cases network with
  | none => exact .inl ⟨_, .unreadable⟩
  | some named =>
    cases named with
    | none => exact .inl ⟨_, .unnamed⟩
    | some identifier =>
      by_cases ours : identifier.blockchain = blockchainName
      case neg => exact .inl ⟨_, .blockchain ours⟩
      by_cases same : identifier.network = service.networkName
      case neg => exact .inl ⟨_, .network ours same⟩
      by_cases unserved : ∃ part, identifier.subNetwork = some part ∧
          (part.name ≠ taggedSubNetwork ∨ service.options.tagged = false)
      case pos =>
        obtain ⟨part, isPart, unserved⟩ := unserved
        exact .inl ⟨_, .subNetwork ours same isPart unserved⟩
      refine .inr ⟨identifier, rfl, ours, same, fun part isPart => ?_⟩
      have served := fun other => unserved ⟨part, isPart, other⟩
      simpa using served

namespace Service

variable {service : Service}

/-- A part of the network is not served unless it is that of the tags,
and tags are served. -/
theorem serves_false_iff (part : SubNetwork) :
    service.serves part = false ↔ part.name ≠ taggedSubNetwork ∨
      service.options.tagged = false := by
  unfold serves
  rw [Bool.and_eq_false_iff, beq_eq_false_iff_ne]
  exact or_comm

/-- The gate of the network refuses what is not for the network served, for the
first cause that applies. -/
theorem accept_misdirected {network : Option NetworkIdentifier} {cause : ServiceError}
    (misdirected : Misdirected service (some network) cause) :
    service.accept network = .error cause := by
  unfold accept
  cases misdirected with
  | unnamed => rfl
  | blockchain other =>
    dsimp only
    rw [if_pos other]
  | network ours other =>
    dsimp only
    rw [if_neg (not_not_intro ours), if_pos other]
  | subNetwork ours same isPart unserved =>
    have refused := (serves_false_iff _).mpr unserved
    dsimp only
    rw [if_neg (not_not_intro ours), if_neg (not_not_intro same), isPart]
    dsimp only
    rw [refused, if_neg Bool.false_ne_true]

/-- Everything else passes it: a request that is for the network served is accepted,
for the network that it names. -/
theorem accept_addressed {network : Option NetworkIdentifier} {identifier : NetworkIdentifier}
    (addressed : Addressed service (some network) identifier) :
    service.accept network = .ok identifier := by
  obtain ⟨⟨rfl⟩, ours, same, served⟩ := addressed
  unfold accept
  dsimp only
  rw [if_neg (not_not_intro ours), if_neg (not_not_intro same)]
  cases isPart : identifier.subNetwork with
  | none => rfl
  | some part =>
    obtain ⟨isTags, tagged⟩ := served part isPart
    have isServed : service.serves part = true := by
      unfold serves
      rw [isTags, tagged]
      rfl
    dsimp only
    rw [isServed, if_pos rfl]

end Service

/-! ## Flaws of requests -/

/-- What is wrong with the tag of a request, where tags are read at all. -/
inductive TagFlaw (service : Service) (identifier : NetworkIdentifier) : ErrorKind → Prop where
  /-- It is not the name of a tag. -/
  | unknown {given : Json} (tagged : service.options.tagged = true)
      (isGiven : Service.givenTag? identifier = some given)
      (noName : ∀ tag : Node.TipsetTag, given ≠ .str tag.name) :
      TagFlaw service identifier .invalidFinalityTag

/-- What is wrong with an account. -/
inductive AccountFlaw (account : AccountIdentifier) : ErrorKind → Prop where
  /-- Its address cannot be read. -/
  | address (malformed : ∀ address, Address.parse account.address ≠ .ok address) :
      AccountFlaw account .invalidAddress
  /-- The sub-account is none of the three. -/
  | part {name : String} (isPart : account.subAccount = some name)
      (unknown : ∀ part : SubAccount, part.name ≠ name) : AccountFlaw account .unknownSubAccount

/-- A hash is no identifier. -/
inductive HashFlaw (hash : String) : ErrorKind → Prop where
  /-- It cannot be read. -/
  | malformed (noCid : ∀ cid, Cid.parse hash ≠ .ok cid) : HashFlaw hash .malformedValue

/-- A value is the text of an address. -/
def Spells (given : Json) (address : Address) : Prop :=
  ∃ text, given = .str text ∧ Address.parse text = .ok address

/-- What is not a text spells no address, be it a number, a list or a record. -/
theorem not_spells {given : Json} (noText : ∀ text, given ≠ .str text) (address : Address) :
    ¬ Spells given address := by
  rintro ⟨text, isText, -⟩
  exact noText text isText

/-- A value is not the text of an amount that may be moved. -/
def NoAmount (given : Json) : Prop :=
  ∀ text amount, given = .str text → TokenAmount.parse? text = some amount → amount.atto < 0

/-- What is wrong with the options of a new message. -/
inductive OptionFlaw (options : Metadata) : ErrorKind → Prop where
  /-- There is no sender. -/
  | noSender (missing : options.lookup Service.senderName = none) :
      OptionFlaw options .invalidAddress
  /-- The sender or the receiver is no address. -/
  | address {name : String} {given : Json}
      (isName : name = Service.senderName ∨ name = Service.receiverName)
      (isGiven : options.lookup name = some given) (malformed : ∀ address, ¬ Spells given address) :
      OptionFlaw options .invalidAddress
  /-- The value is no amount, or it is negative. -/
  | value {given : Json} (isGiven : options.lookup Service.valueName = some given)
      (malformed : NoAmount given) : OptionFlaw options .malformedValue

/-- What is wrong with the text of a signed message. -/
inductive TransactionFlaw (text : String) : ErrorKind → Prop where
  /-- There is none. -/
  | empty (isEmpty : text.isEmpty = true) : TransactionFlaw text .malformedValue
  /-- It cannot be read. -/
  | malformed (unreadable : LotusJson.read? SignedMessage text = none) :
      TransactionFlaw text .malformedTransaction

/-- What is wrong with a request to an endpoint, its network apart. -/
inductive Flaw (service : Service) (body : Bytes) : Route → ErrorKind → Prop where
  /-- The status of the network is asked for by tag. -/
  | statusTag {request : Request Unit} {identifier : NetworkIdentifier} {kind : ErrorKind}
      (isRead : Json.readBytes? readNetworkRequest body = some request)
      (names : request.network = some identifier)
      (flaw : TagFlaw service identifier kind) : Flaw service body .networkStatus kind
  /-- So are balances. -/
  | balanceTag {request : Request BalanceQuery} {identifier : NetworkIdentifier} {kind : ErrorKind}
      (isRead : Json.readBytes? readBalanceRequest body = some request)
      (names : request.network = some identifier)
      (flaw : TagFlaw service identifier kind) : Flaw service body .accountBalance kind
  /-- Balances are those of an account. -/
  | account {request : Request BalanceQuery} {kind : ErrorKind}
      (isRead : Json.readBytes? readBalanceRequest body = some request)
      (flaw : AccountFlaw request.wanted.account kind) : Flaw service body .accountBalance kind
  /-- A pending message is asked for by its hash. -/
  | hash {request : Request String} {kind : ErrorKind}
      (isRead : Json.readBytes? readPendingTransactionRequest body = some request)
      (flaw : HashFlaw request.wanted kind) : Flaw service body .mempoolTransaction kind
  /-- A new message is described by options. -/
  | options {request : Request Metadata} {kind : ErrorKind}
      (isRead : Json.readBytes? readMetadataRequest body = some request)
      (flaw : OptionFlaw request.wanted kind) : Flaw service body .constructionMetadata kind
  /-- A signed message is handed in. -/
  | transaction {request : Request String} {kind : ErrorKind}
      (isRead : Json.readBytes? readSubmitRequest body = some request)
      (flaw : TransactionFlaw request.wanted kind) : Flaw service body .constructionSubmit kind

/-! ## Checks -/

/-- A check refuses a value for one of its flaws, and lets it pass only
if it has none. -/
def Judges {α : Type} (flaw : ErrorKind → Prop) (check : Except ServiceError α) : Prop :=
  match check with
  | .ok _ => ∀ kind, ¬ flaw kind
  | .error cause => flaw cause.kind

namespace SubAccount

/-- All sub-accounts are listed, so a text is looked for among all of them. -/
theorem mem_all (part : SubAccount) : part ∈ all := by
  cases part <;> decide

/-- A text that is the name of no sub-account is not the name of any one of them. -/
theorem name_ne_of_ofName {name : String} (unknown : ofName? name = none) (part : SubAccount) :
    part.name ≠ name :=
  name_ne_of_find unknown part.mem_all

/-- A sub-account that is found by a name has that name. -/
theorem name_of_ofName {name : String} {part : SubAccount} (found : ofName? name = some part) :
    part.name = name :=
  name_of_find found

end SubAccount

namespace Service

/-- Tags are judged where they are read: the check fails exactly for the flaws, and
by the kind of error that belongs to them. -/
theorem finalityTag_judges (service : Service) (identifier : NetworkIdentifier) :
    Judges (TagFlaw service identifier) (service.finalityTag identifier) := by
  unfold finalityTag
  cases tagged : service.options.tagged with
  | false =>
    rw [Bool.not_false, if_pos rfl]
    rintro _ ⟨isTagged, -, -⟩
    exact nomatch tagged.symm.trans isTagged
  | true =>
    rw [Bool.not_true, if_neg Bool.false_ne_true]
    cases isGiven : givenTag? identifier with
    | none =>
      rintro _ ⟨-, given, -⟩
      exact nomatch isGiven.symm.trans given
    | some given =>
      cases given with
      | str name =>
        cases found : Node.TipsetTag.ofName? name with
        | some tag =>
          dsimp only
          rw [found]
          rintro _ ⟨-, given, noName⟩
          obtain rfl := Option.some.inj (isGiven.symm.trans given)
          exact noName tag (congrArg Json.str (Node.TipsetTag.name_of_ofName found).symm)
        | none =>
          dsimp only
          rw [found]
          refine .unknown tagged isGiven fun tag same => ?_
          exact Node.TipsetTag.name_ne_of_ofName found tag (Json.str.inj same).symm
      | _ => exact .unknown tagged isGiven (fun tag same => nomatch same)

/-- An address among the options is there or not, or is refused. -/
theorem addressOption_cases (options : Metadata) (name : String) :
    (options.lookup name = none ∧ addressOption options name = .ok none) ∨
      (∃ given address, options.lookup name = some given ∧ Spells given address ∧
        addressOption options name = .ok (some address)) ∨
      ∃ given cause, options.lookup name = some given ∧ (∀ address, ¬ Spells given address) ∧
        addressOption options name = .error (.because .invalidAddress cause) := by
  unfold addressOption
  cases isGiven : options.lookup name with
  | none => exact .inl ⟨rfl, rfl⟩
  | some given =>
    right
    cases given with
    | str text =>
      dsimp only
      cases parsed : Address.parse text with
      | ok address => exact .inl ⟨_, address, rfl, ⟨text, rfl, parsed⟩, rfl⟩
      | error cause =>
        refine .inr ⟨_, _, rfl, ?_, rfl⟩
        rintro address ⟨_, ⟨rfl⟩, isAddress⟩
        exact nomatch parsed.symm.trans isAddress
    | _ => exact .inr ⟨_, _, rfl, not_spells (fun text same => nomatch same), rfl⟩

/-- The value among the options is an amount that is not negative, or is refused. -/
theorem valueOption_judges (options : Metadata) :
    match valueOption options with
    | .ok _ => ∀ given, options.lookup valueName = some given → ¬ NoAmount given
    | .error cause =>
        cause.kind = .malformedValue ∧ ∃ given, options.lookup valueName = some given ∧
          NoAmount given := by
  unfold valueOption
  cases isGiven : options.lookup valueName with
  | none => exact fun _ impossible => nomatch impossible
  | some given =>
    cases given with
    | str text =>
      dsimp only
      cases parsed : TokenAmount.parse? text with
      | none =>
        refine ⟨rfl, _, rfl, ?_⟩
        rintro _ amount ⟨rfl⟩ isAmount
        exact nomatch parsed.symm.trans isAmount
      | some amount =>
        by_cases negative : amount.atto < 0
        · rw [Option.filter_some_neg (by simpa using negative)]
          refine ⟨rfl, _, rfl, ?_⟩
          rintro _ other ⟨rfl⟩ isAmount
          obtain rfl := Option.some.inj (parsed.symm.trans isAmount)
          exact negative
        · rw [Option.filter_some_pos (by simpa using negative)]
          intro given isText noAmount
          obtain rfl := Option.some.inj isText
          exact negative (noAmount text amount rfl parsed)
    | _ => exact ⟨rfl, _, rfl, fun text amount impossible => nomatch impossible⟩

/-- Options without flaws: both addresses are spelled, the sender is there, and the
value is an amount. -/
theorem options_flawless {options : Metadata} {sender : Address} {given : Json}
    (isSender : options.lookup senderName = some given) (spellsSender : Spells given sender)
    (spellsReceiver : ∀ given, options.lookup receiverName = some given →
      ∃ address, Spells given address)
    (isAmount : ∀ given, options.lookup valueName = some given → ¬ NoAmount given)
    (kind : ErrorKind) :
    ¬ OptionFlaw options kind := by
  intro flaw
  cases flaw with
  | noSender missing => exact nomatch missing.symm.trans isSender
  | address isName isGiven malformed =>
    rcases isName with rfl | rfl
    · obtain rfl := Option.some.inj (isSender.symm.trans isGiven)
      exact malformed sender spellsSender
    · obtain ⟨address, spells⟩ := spellsReceiver _ isGiven
      exact malformed address spells
  | value isGiven malformed => exact isAmount _ isGiven malformed

/-- The options of a new message are judged one after another: the sender, the
receiver, then the amount. The first flaw decides on the error. -/
theorem draft_judges (options : Metadata) : Judges (OptionFlaw options) (draft options) := by
  change Judges _ (addressOption options senderName >>= _)
  rcases addressOption_cases options senderName with ⟨missing, found⟩ |
    ⟨given, sender, isSender, spellsSender, found⟩ | ⟨given, cause, isSender, malformed, found⟩
  case inl =>
    rw [found]
    exact .noSender missing
  case inr.inr =>
    rw [found]
    exact .address (.inl rfl) isSender malformed
  case inr.inl =>
    have judged := valueOption_judges options
    -- The value is looked at last, whatever the receiver is.
    have last (receiver : Option Address)
        (spellsReceiver : ∀ given, options.lookup receiverName = some given →
          ∃ address, Spells given address) :
        Judges (OptionFlaw options)
          (valueOption options >>= fun value =>
            .ok (⟨sender, receiver.getD sender, value⟩ : Draft)) := by
      cases isValue : valueOption options with
      | error cause =>
        rw [isValue] at judged
        obtain ⟨isKind, given, isGiven, malformed⟩ := judged
        change OptionFlaw options cause.kind
        rw [isKind]
        exact .value isGiven malformed
      | ok value =>
        rw [isValue] at judged
        exact options_flawless isSender spellsSender spellsReceiver judged
    rw [found]
    change Judges _ (addressOption options receiverName >>= _)
    rcases addressOption_cases options receiverName with ⟨missing, foundReceiver⟩ |
      ⟨other, receiver, isReceiver, spells, foundReceiver⟩ |
        ⟨other, cause, isReceiver, malformed, foundReceiver⟩
    · rw [foundReceiver]
      exact last none fun given isGiven =>
        absurd (missing.symm.trans isGiven) (Option.some_ne_none given).symm
    · rw [foundReceiver]
      refine last (some receiver) fun given isGiven => ?_
      obtain rfl := Option.some.inj (isReceiver.symm.trans isGiven)
      exact ⟨receiver, spells⟩
    · rw [foundReceiver]
      exact .address (.inr rfl) isReceiver malformed

/-- The text of a signed message is judged before it is handed in. -/
theorem signedMessage_judges (text : String) :
    Judges (TransactionFlaw text) (signedMessage text) := by
  unfold signedMessage
  by_cases isEmpty : text.isEmpty = true
  · rw [if_pos isEmpty]
    exact .empty isEmpty
  · rw [if_neg isEmpty]
    cases isRead : LotusJson.read? SignedMessage text with
    | none => exact .malformed isRead
    | some message =>
      rintro _ (⟨none⟩ | ⟨unreadable⟩)
      · exact isEmpty none
      · exact nomatch isRead.symm.trans unreadable

end Service

/-! ## Endpoints -/

/-- An endpoint that looks at a request refuses it for a flaw, or there is none. -/
inductive Vetted {α : Type} (flaw : ErrorKind → Prop) : Endpoint α → Prop where
  /-- It refuses the request. -/
  | refusal {cause : ServiceError} (isFlaw : flaw cause.kind) : Vetted flaw (throw cause)
  /-- Nothing is wrong with the request. -/
  | sound {endpoint : Endpoint α} (flawless : ∀ kind, ¬ flaw kind) : Vetted flaw endpoint

namespace Vetted

variable {α β : Type} {first rest flaw : ErrorKind → Prop}

/-- An endpoint that refuses by certain kinds of errors refuses by those
that are the same. -/
theorem weaken {endpoint : Endpoint α} {other : ErrorKind → Prop} (vetted : Vetted other endpoint)
    (same : ∀ kind, other kind ↔ flaw kind) : Vetted flaw endpoint := by
  cases vetted with
  | refusal isFlaw => exact .refusal ((same _).mp isFlaw)
  | sound flawless => exact .sound fun kind isFlaw => flawless kind ((same kind).mpr isFlaw)

/-- Whatever follows makes no difference, since an endpoint that refuses at once
does not come to it. -/
theorem followed {endpoint : Endpoint α} (vetted : Vetted flaw endpoint) (next : α → Endpoint β) :
    Vetted flaw (endpoint >>= next) := by
  cases vetted with
  | refusal isFlaw => exact .refusal isFlaw
  | sound flawless => exact .sound flawless

/-- A check, and nothing else to look at: what follows may go on as it likes. -/
theorem checked {check : Except ServiceError β} (judges : Judges flaw check)
    (next : β → Endpoint α) :
    Vetted flaw ((liftM check : Endpoint β) >>= next) := by
  cases check with
  | error cause => exact .refusal judges
  | ok value => exact .sound judges

/-- A check, and others if it lets a value pass. The flaws are those of the one
and of the others. -/
theorem given {check : Except ServiceError β} {next : β → Endpoint α} (judges : Judges first check)
    (follows : ∀ value, Vetted rest (next value)) :
    Vetted (fun kind => first kind ∨ rest kind) ((liftM check : Endpoint β) >>= next) := by
  cases check with
  | error cause => exact .refusal (.inl judges)
  | ok value =>
    change Vetted _ (next value)
    have vetted := follows value
    generalize next value = endpoint at vetted ⊢
    cases vetted with
    | refusal isFlaw => exact .refusal (.inr isFlaw)
    | sound flawless =>
      refine .sound fun kind either => ?_
      exact either.elim (judges kind) (flawless kind)

/-- An account is looked at, the address before the part, so a bad address is told
even if the part is bad as well. -/
theorem account (account : AccountIdentifier) (next : Address → Option SubAccount → Endpoint α) :
    Vetted (AccountFlaw account)
      (Service.accountAddress account >>= fun address =>
        Service.accountPart account >>= next address) := by
  unfold Service.accountAddress Service.accountPart
  cases parsed : Address.parse account.address with
  | error cause =>
    exact .refusal (.address fun address isAddress => nomatch parsed.symm.trans isAddress)
  | ok address =>
    rw [pure_bind]
    cases isPart : account.subAccount with
    | none =>
      refine .sound fun kind flaw => ?_
      cases flaw with
      | address malformed => exact malformed address parsed
      | part other unknown => exact nomatch isPart.symm.trans other
    | some name =>
      cases found : SubAccount.ofName? name with
      | none =>
        dsimp only
        rw [found]
        change Vetted _ (throw (.because .unknownSubAccount name))
        exact .refusal (.part isPart (SubAccount.name_ne_of_ofName found))
      | some part =>
        refine .sound fun kind flaw => ?_
        cases flaw with
        | address malformed => exact malformed address parsed
        | part other unknown =>
          obtain rfl := Option.some.inj (isPart.symm.trans other)
          exact unknown part (SubAccount.name_of_ofName found)

/-- A hash is looked at before anything is asked for the
transaction that it names. -/
theorem hash (hash : String) (next : Cid → Endpoint α) :
    Vetted (HashFlaw hash) (Service.wantedCid hash >>= next) := by
  unfold Service.wantedCid
  cases parsed : Cid.parse hash with
  | error cause => exact .refusal (.malformed fun cid isCid => nomatch parsed.symm.trans isCid)
  | ok cid =>
    refine .sound fun kind flaw => ?_
    obtain ⟨noCid⟩ := flaw
    exact noCid cid parsed

end Vetted

/-- An answer to a request: what is not for the network served is refused for the
first cause that applies, and everything else for a flaw, if there is one. -/
structure Screened (service : Service) (network : Option (Option NetworkIdentifier))
    (flaw : ErrorKind → Prop) {α : Type} (answer : Endpoint α) : Prop where
  /-- What is not for the network served is refused. -/
  misdirected : ∀ cause, Misdirected service network cause → answer = throw cause
  /-- So is what has a flaw. -/
  vetted : (∃ cause, Misdirected service network cause) ∨ Vetted flaw answer

namespace Screened

variable {service : Service} {flaw : ErrorKind → Prop} {body : Bytes} {α β : Type}

/-- An endpoint whose first step is the gate of the network, and
its answer in JSON. -/
theorem answered {reader : Json.Reader (Request α)} {endpoint : Request α → Endpoint β}
    {json : β → Json} {rest : Request α → NetworkIdentifier → Endpoint β}
    (starts : ∀ request, endpoint request =
      (liftM (service.accept request.network) : Endpoint NetworkIdentifier) >>= rest request)
    (vets : ∀ request identifier, Json.readBytes? reader body = some request →
      request.network = some identifier → Vetted flaw (rest request identifier)) :
    Screened service ((Json.readBytes? reader body).map Request.network) flaw (do
      let request ← (liftM (readBody reader body) : Endpoint (Request α))
      let found ← endpoint request
      return json found) := by
  unfold readBody
  cases isRead : Json.readBytes? reader body with
  | none =>
    refine ⟨fun cause misdirected => ?_, .inl ⟨_, .unreadable⟩⟩
    cases misdirected
    rfl
  | some request =>
    dsimp only [Option.map_some]
    rw [Endpoint.given_ok, starts]
    refine ⟨fun cause misdirected => ?_, ?_⟩
    · rw [Service.accept_misdirected misdirected]
      rfl
    · rcases misdirected_or_addressed service (some request.network) with misdirected |
        ⟨identifier, addressed⟩
      · exact .inl misdirected
      · rw [Service.accept_addressed addressed, Endpoint.given_ok]
        exact .inr ((vets request identifier isRead (Option.some.inj addressed.names)).followed _)

/-- All endpoints that ask for a network screen their requests. The network is
looked at first, then the rest of the body, and nothing is asked before both are
found to be good. -/
theorem answer (service : Service) {route : Route} (needs : route ≠ .networkList) (body : Bytes) :
    Screened service (route.network? body) (Flaw service body route)
      (service.answer route body) := by
  cases route with
  | networkList => exact absurd rfl needs
  | networkStatus =>
    refine answered (fun _ => rfl) fun request identifier isRead names => ?_
    refine (Vetted.checked (service.finalityTag_judges identifier) _).weaken fun kind => ?_
    refine ⟨.statusTag isRead names, fun flaw => ?_⟩
    cases flaw with
    | statusTag other otherNames flaw =>
      obtain rfl := Option.some.inj (isRead.symm.trans other)
      obtain rfl := Option.some.inj (names.symm.trans otherNames)
      exact flaw
  | accountBalance =>
    refine answered (fun _ => rfl) fun request identifier isRead names => ?_
    refine (Vetted.given (service.finalityTag_judges identifier) fun _ =>
      Vetted.account request.wanted.account _).weaken fun kind => ?_
    constructor
    · rintro (flaw | flaw)
      · exact .balanceTag isRead names flaw
      · exact .account isRead flaw
    · intro flaw
      cases flaw with
      | balanceTag other otherNames flaw =>
        obtain rfl := Option.some.inj (isRead.symm.trans other)
        obtain rfl := Option.some.inj (names.symm.trans otherNames)
        exact .inl flaw
      | account other flaw =>
        obtain rfl := Option.some.inj (isRead.symm.trans other)
        exact .inr flaw
  | mempoolTransaction =>
    refine answered (fun _ => rfl) fun request identifier isRead _ => ?_
    refine (Vetted.hash request.wanted _).weaken fun kind => ⟨.hash isRead, fun flaw => ?_⟩
    cases flaw with
    | hash other flaw =>
      obtain rfl := Option.some.inj (isRead.symm.trans other)
      exact flaw
  | constructionMetadata =>
    refine answered (fun _ => rfl) fun request identifier isRead _ => ?_
    refine (Vetted.checked (Service.draft_judges request.wanted) _).weaken fun kind => ?_
    refine ⟨.options isRead, fun flaw => ?_⟩
    cases flaw with
    | options other flaw =>
      obtain rfl := Option.some.inj (isRead.symm.trans other)
      exact flaw
  | constructionSubmit =>
    refine answered (fun _ => rfl) fun request identifier isRead _ => ?_
    refine (Vetted.checked (Service.signedMessage_judges request.wanted) _).weaken fun kind => ?_
    refine ⟨.transaction isRead, fun flaw => ?_⟩
    cases flaw with
    | transaction other flaw =>
      obtain rfl := Option.some.inj (isRead.symm.trans other)
      exact flaw
  | _ => exact answered (fun _ => rfl) fun _ _ _ _ => .sound fun _ flaw => nomatch flaw

end Screened

/-! ## Requests -/

/-- A request is refused for a cause. Nothing is asked, and nothing changes. -/
structure Refused (service : Service) (anyOrigin : Bool) (node : Node) (session : Session)
    (request : HttpRequest) (cause : ServiceError) : Prop where
  /-- The answer tells the cause, and what is known stays as it is. -/
  ends : (service.serve anyOrigin request).run node session =
    (⟨500, .json cause.json, Service.allowedOrigin anyOrigin⟩, session)
  /-- The node is not asked. -/
  asks : (service.serve anyOrigin request).calls node session = []

namespace Service

variable (service : Service) (anyOrigin : Bool) (node : Node) (session : Session)
  {request : HttpRequest}
  {route : Route}

/-- An endpoint that does nothing but refuse makes the request refused: the answer
tells the cause, no call is made and nothing is learned. -/
theorem serve_refused (posted : request.Posted) (isPath : Route.ofPath? request.path = some route)
    {cause : ServiceError} (refuses : service.answer route request.body = throw cause) :
    Refused service anyOrigin node session request cause := by
  rcases service.serve_cases anyOrigin node session isPath with ⟨_, -, unposted, -⟩ |
    ⟨comesTo, asks⟩
  · exact absurd posted unposted
  · rw [refuses] at comesTo asks
    exact ⟨comesTo, asks⟩

/-- Bad requests have no effect. A request to an endpoint that asks for a network is
refused for the first cause why it is not for the network served, and otherwise for
a flaw, if it has one. Refused means that the answer tells the cause, that the node
is asked nothing, and that nothing is learned. Bodies are any bytes at all. -/
theorem bad_requests_refused (posted : request.Posted)
    (isPath : Route.ofPath? request.path = some route) (needs : route ≠ .networkList) :
    let network := route.network? request.body
    (∀ cause, Misdirected service network cause →
      Refused service anyOrigin node session request cause) ∧
    ((∀ identifier, ¬ Addressed service network identifier) →
      ∃ cause, Misdirected service network cause ∧
        Refused service anyOrigin node session request cause) ∧
    (∀ kind, Flaw service request.body route kind →
      ∃ cause, (Misdirected service network cause ∨ Flaw service request.body route cause.kind) ∧
        Refused service anyOrigin node session request cause) := by
  intro network
  have screened := Screened.answer service needs request.body
  have refused (cause : ServiceError) (misdirected : Misdirected service network cause) :
      Refused service anyOrigin node session request cause :=
    service.serve_refused anyOrigin node session posted isPath
      (screened.misdirected cause misdirected)
  refine ⟨refused, fun unaddressed => ?_, fun kind flaw => ?_⟩
  · rcases misdirected_or_addressed service network with ⟨cause, misdirected⟩ |
      ⟨identifier, addressed⟩
    · exact ⟨cause, misdirected, refused cause misdirected⟩
    · exact absurd addressed (unaddressed identifier)
  · rcases screened.vetted with ⟨cause, misdirected⟩ | vetted
    · exact ⟨cause, .inl misdirected, refused cause misdirected⟩
    · have refuses : ∃ cause, Flaw service request.body route cause.kind ∧
          service.answer route request.body = throw cause := by
        generalize service.answer route request.body = endpoint at vetted ⊢
        cases vetted with
        | @refusal cause isFlaw => exact ⟨cause, isFlaw, rfl⟩
        | sound flawless => exact absurd flaw (flawless kind)
      obtain ⟨cause, isFlaw, refuses⟩ := refuses
      exact ⟨cause, .inr isFlaw, service.serve_refused anyOrigin node session posted isPath refuses⟩

end Service

/-! ## A message for another network -/

namespace Elsewhere

/-- A signed message is handed in for another network. The body is not UTF-8,
because of a member that is skipped. -/
def request : HttpRequest where
  method := "POST"
  target := "/construction/submit"
  body := utf8 "\x7b\"memo\":\"" ++ 0xFF :: utf8
    ("\",\"network_identifier\":\x7b\"blockchain\":\"Filecoin\",\"network\":\"mainnet\"\x7d," ++
      "\"signed_transaction\":\"\"\x7d")

/-- The node takes any message. -/
def answers : Node.Answers
  | .pushMessage _ => .ok .default
  | _ => .error .unreachable

end Elsewhere

/-- The node does not get to see the message, and the answer says that the
network is another one. -/
theorem elsewhere_refused :
    let program := Underway.service.serve false Elsewhere.request
    program.run (.constant Elsewhere.answers) .fresh =
        (⟨500, .json (ServiceError.because .invalidNetwork "mainnet").json, none⟩, .fresh) ∧
      program.calls (.constant Elsewhere.answers) .fresh = [] := by
  intro program
  have posted : Elsewhere.request.Posted := ⟨rfl, by decide +kernel⟩
  have isPath : Route.ofPath? Elsewhere.request.path = some .constructionSubmit := by decide +kernel
  have names : Route.network? .constructionSubmit Elsewhere.request.body =
      some (some ⟨"Filecoin", "mainnet", none⟩) := by rfl
  have other : "mainnet" ≠ Underway.service.networkName := by decide
  have misdirected :
      Misdirected Underway.service (Route.network? .constructionSubmit Elsewhere.request.body)
      (.because .invalidNetwork "mainnet") := by
    rw [names]
    exact .network rfl other
  have refused :=
    (Service.bad_requests_refused Underway.service false (.constant Elsewhere.answers) .fresh posted
    isPath (by decide)).1 _ misdirected
  exact ⟨refused.ends, refused.asks⟩

end FilecoinRosetta.Rosetta
