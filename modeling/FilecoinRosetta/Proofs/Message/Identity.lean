import FilecoinRosetta.Message
import FilecoinRosetta.Proofs.Address.Binary
import FilecoinRosetta.Proofs.Cid.Binary
import FilecoinRosetta.Proofs.Encoding.Cbor

/-!
# What a derived identity covers

The bytes that a derived identity hashes hold all of a message, and of a signed
message all that its identity should depend on: the message under a BLS
signature, message and signature under one of secp256k1. So no field can be
changed without a change of the bytes, and two payments have the same derived
identity only if their bytes collide.

The parameters are the last item of a message. Where nothing follows them, they are
told apart whatever their size. A signature that follows them is found if their size
can be announced in 8 bytes, as that of every byte string in memory can.
-/

namespace FilecoinRosetta

open Digest.Blake2b (Collide)
open Encoding
  (Cbor.byteString Cbor.byteString_cut Cbor.byteString_injective Cbor.integerBytes Cbor.unsigned)

/-! ## Amounts and addresses as items -/

/-- The amount has a form: sign and magnitude take at most 128 bytes. -/
def TokenAmount.Encodable (amount : TokenAmount) : Prop :=
  amount.atto.natAbs < 256 ^ 127

namespace Message

/-- An amount that fits is written as a byte string with the bytes of its number. -/
theorem amountBytes_encodable {amount : TokenAmount} (fits : amount.Encodable) :
    amountBytes amount = .ok (Cbor.byteString (Cbor.integerBytes amount.atto)) := by
  rw [amountBytes, Encoding.Cbor.integer_some fits]

/-- An amount that does not fit is not written, and the error says so. -/
theorem amountBytes_large {amount : TokenAmount} (large : ¬ amount.Encodable) :
    amountBytes amount = .error .amountTooLarge := by
  rw [amountBytes, Encoding.Cbor.integer_none large]

/-- An amount that has a form shows where it ends, as its length stands
in front of it. -/
theorem amount_cut {amount other : TokenAmount} {rest more : Bytes} (fits : amount.Encodable)
    (otherFits : other.Encodable)
    (same : Cbor.byteString (Cbor.integerBytes amount.atto) ++ rest =
      Cbor.byteString (Cbor.integerBytes other.atto) ++ more) : amount = other ∧ rest = more := by
  have announced {number : Int} (small : number.natAbs < 256 ^ 127) :
      (Cbor.integerBytes number).length < 2 ^ 64 :=
    Nat.lt_of_le_of_lt ((Encoding.Cbor.integerBytes_length_le_iff number).mpr small) (by decide)
  obtain ⟨bytes, sameRest⟩ := Cbor.byteString_cut (announced fits) (announced otherFits) same
  have atto : amount.atto = other.atto := Encoding.Cbor.integerBytes_injective bytes
  exact ⟨congrArg TokenAmount.mk atto, sameRest⟩

/-- So does an address, as its length is written in front of it. -/
theorem address_delimited :
    Encoding.Delimited fun address : Address => Cbor.byteString address.toBytes := by
  intro address other rest more same
  have announced (address : Address) : address.toBytes.length < 2 ^ 64 :=
    Nat.lt_of_le_of_lt address.toBytes_length_le (by decide)
  obtain ⟨bytes, sameRest⟩ := Cbor.byteString_cut (announced address) (announced other) same
  exact ⟨Address.toBytes_injective bytes, sameRest⟩

/-! ## The form of a message -/

/-- All amounts of the message have forms. -/
structure Encodable (message : Message) : Prop where
  value : message.value.Encodable
  gasFeeCap : message.gasFeeCap.Encodable
  gasPremium : message.gasPremium.Encodable

/-- The CBOR form of a message whose amounts have forms. -/
def form (message : Message) : Bytes :=
  Encoding.Cbor.list
    [Cbor.unsigned message.version,
     Cbor.byteString message.receiver.toBytes,
     Cbor.byteString message.sender.toBytes,
     Cbor.unsigned message.nonce,
     Cbor.byteString (Cbor.integerBytes message.value.atto),
     Cbor.unsigned message.gasLimit,
     Cbor.byteString (Cbor.integerBytes message.gasFeeCap.atto),
     Cbor.byteString (Cbor.integerBytes message.gasPremium.atto),
     Cbor.unsigned message.method,
     Cbor.byteString message.params]

/-- A message whose amounts fit is written in its form, which is a list
of its ten fields. -/
theorem cborBytes_encodable {message : Message} (fits : message.Encodable) :
    message.cborBytes = .ok message.form := by
  rw [cborBytes, amountBytes_encodable fits.value, amountBytes_encodable fits.gasFeeCap,
    amountBytes_encodable fits.gasPremium]
  rfl

/-- A message with an amount that does not fit is not written, and
the error says so. -/
theorem cborBytes_large {message : Message} (large : ¬ message.Encodable) :
    message.cborBytes = .error .amountTooLarge := by
  rw [cborBytes]
  by_cases value : message.value.Encodable
  · rw [amountBytes_encodable value]
    by_cases feeCap : message.gasFeeCap.Encodable
    · rw [amountBytes_encodable feeCap]
      have premium : ¬ message.gasPremium.Encodable := fun premium => large ⟨value, feeCap, premium⟩
      rw [amountBytes_large premium]
      rfl
    · rw [amountBytes_large feeCap]
      rfl
  · rw [amountBytes_large value]
    rfl

/-- A message is written as bytes exactly if its amounts fit and the
bytes are its form. -/
theorem cborBytes_ok_iff {message : Message} {bytes : Bytes} :
    message.cborBytes = .ok bytes ↔ message.Encodable ∧ message.form = bytes := by
  by_cases fits : message.Encodable
  · rw [cborBytes_encodable fits, Except.ok.injEq]
    exact ⟨fun isForm => ⟨fits, isForm⟩, And.right⟩
  · rw [cborBytes_large fits]
    exact ⟨(nomatch ·), fun both => absurd both.1 fits⟩

/-- A message is not written exactly if one of its amounts does not fit. There
is no other cause. -/
theorem cborBytes_error_iff {message : Message} {cause : IdentityError} :
    message.cborBytes = .error cause ↔ ¬ message.Encodable ∧ cause = .amountTooLarge := by
  by_cases fits : message.Encodable
  · rw [cborBytes_encodable fits]
    exact ⟨(nomatch ·), fun both => absurd fits both.1⟩
  · rw [cborBytes_large fits, Except.error.injEq]
    exact ⟨fun isCause => ⟨fits, isCause.symm⟩, fun both => both.2.symm⟩

/-- Two messages say the same, whatever identifiers were given to them. -/
structure Agree (first second : Message) : Prop where
  version : first.version = second.version
  receiver : first.receiver = second.receiver
  sender : first.sender = second.sender
  nonce : first.nonce = second.nonce
  value : first.value = second.value
  gasLimit : first.gasLimit = second.gasLimit
  gasFeeCap : first.gasFeeCap = second.gasFeeCap
  gasPremium : first.gasPremium = second.gasPremium
  method : first.method = second.method
  params : first.params = second.params

namespace Agree

variable {first second : Message}

/-- Messages that say the same and were given the same identifier, or
none, are the same. -/
theorem eq (agree : first.Agree second) (cid : first.cid = second.cid) : first = second := by
  cases first
  cases second
  simp only [mk.injEq]
  exact ⟨agree.version, agree.receiver, agree.sender, agree.nonce, agree.value, agree.gasLimit,
    agree.gasFeeCap, agree.gasPremium, agree.method, agree.params, cid⟩

/-- Of two messages that agree in all that is encoded, the second one can be encoded
if the first one can. -/
theorem encodable (agree : first.Agree second) (fits : first.Encodable) : second.Encodable where
  value := agree.value ▸ fits.value
  gasFeeCap := agree.gasFeeCap ▸ fits.gasFeeCap
  gasPremium := agree.gasPremium ▸ fits.gasPremium

/-- Messages that agree in all that is encoded have one form. -/
theorem form (agree : first.Agree second) : first.form = second.form := by
  simp only [Message.form, agree.version, agree.receiver, agree.sender, agree.nonce, agree.value,
    agree.gasLimit, agree.gasFeeCap, agree.gasPremium, agree.method, agree.params]

end Agree

/-- Forms that begin alike agree on all that stands in front of the parameters, and
go on alike from there. -/
theorem form_cut {first second : Message} {rest more : Bytes} (fits : first.Encodable)
    (otherFits : second.Encodable) (same : first.form ++ rest = second.form ++ more) :
    ({ first with params := second.params } : Message).Agree second ∧
      Cbor.byteString first.params ++ rest = Cbor.byteString second.params ++ more := by
  simp only [form, Encoding.Cbor.list, List.flatten_cons, List.flatten_nil, List.append_nil,
    List.append_assoc] at same
  replace same := List.append_cancel_left same
  -- Every item shows where it ends, so what follows is the same after each of them.
  obtain ⟨version, same⟩ := Encoding.Cbor.unsigned_delimited same
  obtain ⟨receiver, same⟩ := address_delimited same
  obtain ⟨sender, same⟩ := address_delimited same
  obtain ⟨nonce, same⟩ := Encoding.Cbor.unsigned_delimited same
  obtain ⟨value, same⟩ := amount_cut fits.value otherFits.value same
  obtain ⟨gasLimit, same⟩ := Encoding.Cbor.unsigned_delimited same
  obtain ⟨gasFeeCap, same⟩ := amount_cut fits.gasFeeCap otherFits.gasFeeCap same
  obtain ⟨gasPremium, same⟩ := amount_cut fits.gasPremium otherFits.gasPremium same
  obtain ⟨method, same⟩ := Encoding.Cbor.unsigned_delimited same
  exact
    ⟨⟨version, receiver, sender, nonce, value, gasLimit, gasFeeCap, gasPremium, method, rfl⟩, same⟩

/-- The form covers the whole message: two messages have one form exactly if they
agree in every field that is encoded. -/
theorem form_eq_iff {first second : Message} (fits : first.Encodable)
    (otherFits : second.Encodable) :
    first.form = second.form ↔ first.Agree second := by
  refine ⟨fun same => ?_, Agree.form⟩
  obtain ⟨agree, same⟩ := form_cut fits otherFits (congrArg (· ++ []) same)
  rw [List.append_nil, List.append_nil] at same
  exact { agree with params := Cbor.byteString_injective same }

end Message

/-! ## The form of a signed message -/

namespace SignedMessage

/-- The CBOR form of a signed message whose signature has a form. -/
def form (signed : SignedMessage) : Bytes :=
  Encoding.Cbor.list [signed.message.form,
    Cbor.byteString (signed.signature.type :: signed.signature.data)]

/-- The bytes that a derived identity hashes: those of the message alone
under a BLS signature. -/
def hashedBytes (signed : SignedMessage) : Except IdentityError Bytes :=
  if signed.signature.type = Signature.bls then signed.message.cborBytes else signed.cborBytes

/-- What the identity of a signed message hashes. -/
inductive Hashes (signed : SignedMessage) : Bytes → Prop where
  | bls (isBls : signed.signature.type = Signature.bls) (fits : signed.message.Encodable) :
      signed.Hashes signed.message.form
  | secp256k1 (isSecp256k1 : signed.signature.type = Signature.secp256k1)
      (fits : signed.message.Encodable) :
      signed.Hashes signed.form

/-- A signed message whose identity is derived. Where the signature is hashed as
well, it can be told from the parameters that it follows. -/
structure Derived (signed : SignedMessage) : Prop where
  cid : signed.cid = none
  messageCid : signed.message.cid = none
  /-- CBOR announces sizes in 8 bytes at most. -/
  announced : signed.signature.type = Signature.secp256k1 → signed.message.params.length < 2 ^ 64

/-- Two signed messages should have the same identity. -/
inductive Alike (first second : SignedMessage) : Prop where
  | bls (isBls : first.signature.type = Signature.bls)
      (otherIsBls : second.signature.type = Signature.bls)
      (message : first.message = second.message)
  | secp256k1 (isSecp256k1 : first.signature.type = Signature.secp256k1)
      (otherIsSecp256k1 : second.signature.type = Signature.secp256k1)
      (message : first.message = second.message)
      (data : first.signature.data = second.signature.data)

/-- Why a signed message has no derived identity. -/
inductive Unidentifiable (signed : SignedMessage) : IdentityError → Prop where
  | amount (known : signed.signature.type = Signature.secp256k1 ∨
      signed.signature.type = Signature.bls)
      (large : ¬ signed.message.Encodable) : signed.Unidentifiable .amountTooLarge
  | delegated (isDelegated : signed.signature.type = Signature.delegated) :
      signed.Unidentifiable .delegatedSignature
  | unknown (notSecp256k1 : signed.signature.type ≠ Signature.secp256k1)
      (notBls : signed.signature.type ≠ Signature.bls)
      (notDelegated : signed.signature.type ≠ Signature.delegated) :
      signed.Unidentifiable (.unknownSignature signed.signature.type)

variable {signed first second : SignedMessage}

/-- A message without a code from the node is identified by the
hash of its bytes. -/
theorem identity_derived (derived : signed.Derived) :
    signed.identity = signed.hashedBytes.map Cid.ofCbor := by
  rw [identity, derived.cid, hashedBytes]
  dsimp only
  split
  case isTrue => rw [Message.identity, derived.messageCid]
  case isFalse => rfl

/-- The two kinds of signatures are told apart by their first bytes. -/
theorem bls_ne_secp256k1 : Signature.bls ≠ Signature.secp256k1 := by
  decide

/-- A message with an aggregated signature is hashed without the signature. -/
theorem hashedBytes_bls (isBls : signed.signature.type = Signature.bls) :
    signed.hashedBytes = signed.message.cborBytes :=
  if_pos isBls

/-- Any other message is hashed as a pair with its signature behind it, if
both can be written. -/
theorem hashedBytes_other (notBls : signed.signature.type ≠ Signature.bls) :
    signed.hashedBytes = signed.signature.cborBytes.bind fun signature =>
      signed.message.cborBytes.map fun message => Encoding.Cbor.list [message, signature] := by
  rw [hashedBytes, if_neg notBls, cborBytes]
  cases signed.signature.cborBytes with
  | error cause => rfl
  | ok signature => cases signed.message.cborBytes <;> rfl

/-- A message with a signature of its own is hashed with it: its kind in
front and its data behind.
-/
theorem hashedBytes_secp256k1 (isSecp256k1 : signed.signature.type = Signature.secp256k1) :
    signed.hashedBytes = signed.message.cborBytes.map fun message =>
      Encoding.Cbor.list
        [message, Cbor.byteString (signed.signature.type :: signed.signature.data)] := by
  have notBls : signed.signature.type ≠ Signature.bls :=
    fun isBls => bls_ne_secp256k1 (isBls.symm.trans isSecp256k1)
  rw [hashedBytes_other notBls, Signature.cborBytes, if_pos (.inl isSecp256k1)]
  rfl

/-- What has no identity fails for the reason it has none. -/
theorem hashedBytes_unidentifiable {cause : IdentityError}
    (unidentifiable : signed.Unidentifiable cause) :
    signed.hashedBytes = .error cause := by
  cases unidentifiable with
  | amount known large =>
    cases known with
    | inl isSecp256k1 =>
      rw [hashedBytes_secp256k1 isSecp256k1, Message.cborBytes_large large]
      rfl
    | inr isBls => rw [hashedBytes_bls isBls, Message.cborBytes_large large]
  | delegated isDelegated =>
    have notSecp256k1 : Signature.delegated ≠ Signature.secp256k1 := by decide
    have notBls : Signature.delegated ≠ Signature.bls := by decide
    rw [← isDelegated] at notSecp256k1 notBls
    rw [hashedBytes_other notBls, Signature.cborBytes, if_neg (not_or.mpr ⟨notSecp256k1, notBls⟩),
      if_pos isDelegated]
    rfl
  | unknown notSecp256k1 notBls notDelegated =>
    rw [hashedBytes_other notBls, Signature.cborBytes, if_neg (not_or.mpr ⟨notSecp256k1, notBls⟩),
      if_neg notDelegated]
    rfl

/-- A signed message has bytes that its identity hashes, or there is a reason
why it has none. -/
theorem hashes_or_unidentifiable (signed : SignedMessage) :
    (∃ bytes, signed.Hashes bytes) ∨ ∃ cause, signed.Unidentifiable cause := by
  by_cases isBls : signed.signature.type = Signature.bls
  · by_cases fits : signed.message.Encodable
    · exact .inl ⟨_, .bls isBls fits⟩
    · exact .inr ⟨_, .amount (.inr isBls) fits⟩
  · by_cases isSecp256k1 : signed.signature.type = Signature.secp256k1
    · by_cases fits : signed.message.Encodable
      · exact .inl ⟨_, .secp256k1 isSecp256k1 fits⟩
      · exact .inr ⟨_, .amount (.inl isSecp256k1) fits⟩
    · by_cases isDelegated : signed.signature.type = Signature.delegated
      · exact .inr ⟨_, .delegated isDelegated⟩
      · exact .inr ⟨_, .unknown isSecp256k1 isBls isDelegated⟩

/-- What a message hashes is what is hashed for it. -/
theorem Hashes.hashedBytes {bytes : Bytes} (hashes : signed.Hashes bytes) :
    signed.hashedBytes = .ok bytes := by
  cases hashes with
  | bls isBls fits => rw [hashedBytes_bls isBls, Message.cborBytes_encodable fits]
  | secp256k1 isSecp256k1 fits =>
    rw [hashedBytes_secp256k1 isSecp256k1, Message.cborBytes_encodable fits]
    rfl

/-- The bytes that are hashed for a message are exactly those that it hashes, by the
two ways there are. -/
theorem hashedBytes_ok_iff {bytes : Bytes} :
    signed.hashedBytes = .ok bytes ↔ signed.Hashes bytes := by
  refine ⟨fun found => ?_, Hashes.hashedBytes⟩
  rcases signed.hashes_or_unidentifiable with ⟨other, hashes⟩ | ⟨cause, unidentifiable⟩
  · obtain rfl : bytes = other := Except.ok.inj (found.symm.trans hashes.hashedBytes)
    exact hashes
  · rw [hashedBytes_unidentifiable unidentifiable] at found
    cases found

/-- No bytes are hashed for a message exactly if it cannot be identified, and
for the same cause. -/
theorem hashedBytes_error_iff {cause : IdentityError} :
    signed.hashedBytes = .error cause ↔ signed.Unidentifiable cause := by
  refine ⟨fun failed => ?_, hashedBytes_unidentifiable⟩
  rcases signed.hashes_or_unidentifiable with ⟨bytes, hashes⟩ | ⟨other, unidentifiable⟩
  · rw [hashes.hashedBytes] at failed
    cases failed
  · obtain rfl : cause = other :=
      Except.error.inj (failed.symm.trans (hashedBytes_unidentifiable unidentifiable))
    exact unidentifiable

/-- A message alone has ten items, a message with its signature two. -/
theorem message_form_ne_form (message : Message) (signed : SignedMessage) :
    message.form ≠ signed.form := by
  have heads : ¬ (0x8a : UInt8) = 0x82 := by decide
  intro same
  exact heads (List.cons.inj same).1

/-- The form covers message and signature, so one of them cannot be exchanged
without a change of the identity. -/
theorem form_eq_iff (derived : first.Derived) (otherDerived : second.Derived)
    (isSecp256k1 : first.signature.type = Signature.secp256k1)
    (otherIsSecp256k1 : second.signature.type = Signature.secp256k1)
    (fits : first.message.Encodable) (otherFits : second.message.Encodable) :
    first.form = second.form ↔ first.message = second.message ∧
      first.signature.data = second.signature.data := by
  constructor
  · intro same
    simp only [form, Encoding.Cbor.list, List.flatten_cons, List.flatten_nil,
      List.append_nil] at same
    replace same := List.append_cancel_left same
    obtain ⟨agree, same⟩ := Message.form_cut fits otherFits same
    obtain ⟨params, same⟩ :=
      Cbor.byteString_cut (derived.announced isSecp256k1)
        (otherDerived.announced otherIsSecp256k1) same
    have message : first.message.Agree second.message := { agree with params }
    have data := (List.cons.inj (Cbor.byteString_injective same)).2
    exact ⟨message.eq (derived.messageCid.trans otherDerived.messageCid.symm), data⟩
  · rintro ⟨message, data⟩
    rw [form, message, data, isSecp256k1, ← otherIsSecp256k1]
    rfl

/-- Messages hash the same bytes exactly if they should have the same identity. -/
theorem hashedBytes_eq_iff (derived : first.Derived) (otherDerived : second.Derived)
    {bytes : Bytes} (found : first.hashedBytes = .ok bytes) :
    second.hashedBytes = .ok bytes ↔ first.Alike second := by
  constructor
  · intro otherFound
    have hashes := hashedBytes_ok_iff.mp found
    -- The bytes are told by either message, so that they are equal is kept apart
    -- from both.
    generalize eq : bytes = other at otherFound
    cases hashes with
    | bls isBls fits =>
      cases hashedBytes_ok_iff.mp otherFound with
      | bls otherIsBls otherFits =>
        have agree := (Message.form_eq_iff fits otherFits).mp eq
        exact .bls isBls otherIsBls
          (agree.eq (derived.messageCid.trans otherDerived.messageCid.symm))
      | secp256k1 => exact absurd eq (message_form_ne_form _ _)
    | secp256k1 isSecp256k1 fits =>
      cases hashedBytes_ok_iff.mp otherFound with
      | bls => exact absurd eq.symm (message_form_ne_form _ _)
      | secp256k1 otherIsSecp256k1 otherFits =>
        obtain ⟨message, data⟩ :=
          (form_eq_iff derived otherDerived isSecp256k1 otherIsSecp256k1 fits otherFits).mp eq
        exact .secp256k1 isSecp256k1 otherIsSecp256k1 message data
  · intro alike
    rw [← found]
    cases alike with
    | bls isBls otherIsBls message =>
      rw [hashedBytes_bls isBls, hashedBytes_bls otherIsBls, message]
    | secp256k1 isSecp256k1 otherIsSecp256k1 message data =>
      rw [hashedBytes_secp256k1 isSecp256k1, hashedBytes_secp256k1 otherIsSecp256k1, message, data,
        isSecp256k1, otherIsSecp256k1]

end SignedMessage

/-! ## Identities -/

/-- Derived identities cover the values. They are taken from bytes, are
missing for given reasons only, and can be shared by values that are not alike
only if the bytes collide. -/
structure IdentityCovers {α : Type} (derived : α → Prop) (identity : α → Except IdentityError Cid)
    (hashed : α → Except IdentityError Bytes) (alike : α → α → Prop)
    (fails : α → IdentityError → Prop) : Prop where
  /-- The identity is that of the bytes. -/
  hashes : ∀ value, derived value → identity value = (hashed value).map Cid.ofCbor
  /-- It is missing for the reasons that are given, and for no other. -/
  failing : ∀ value, derived value → ∀ cause, identity value = .error cause ↔ fails value cause
  /-- The bytes of a value are those of the values that are alike,
  and of no other. -/
  same_iff : ∀ first second, derived first → derived second → ∀ bytes, hashed first = .ok bytes →
    (hashed second = .ok bytes ↔ alike first second)
  /-- Values that are not alike share an identity only if their bytes collide. -/
  shared : ∀ first second, derived first → derived second → ∀ cid, identity first = .ok cid →
    identity second = .ok cid →
    alike first second ∨ ∃ bytes other, hashed first = .ok bytes ∧ hashed second = .ok other ∧
      Collide bytes other

/-- What is known of the bytes is known of the identities, up to
collisions of the hash. -/
theorem IdentityCovers.of_hashed {α : Type} {derived : α → Prop}
    {identity : α → Except IdentityError Cid} {hashed : α → Except IdentityError Bytes}
    {alike : α → α → Prop} {fails : α → IdentityError → Prop}
    (hashes : ∀ value, derived value → identity value = (hashed value).map Cid.ofCbor)
    (failing : ∀ value cause, hashed value = .error cause ↔ fails value cause)
    (same_iff : ∀ first second, derived first → derived second → ∀ bytes, hashed first = .ok bytes →
      (hashed second = .ok bytes ↔ alike first second)) :
    IdentityCovers derived identity hashed alike fails where
  hashes := hashes
  failing value isDerived cause := by
    rw [hashes value isDerived, ← failing]
    cases hashed value <;> simp [Except.map]
  same_iff := same_iff
  shared first second isDerived otherIsDerived cid found otherFound := by
    rw [hashes first isDerived] at found
    rw [hashes second otherIsDerived] at otherFound
    cases bytesFound : hashed first with
    | error cause =>
      rw [bytesFound] at found
      cases found
    | ok bytes =>
      cases otherBytesFound : hashed second with
      | error cause =>
        rw [otherBytesFound] at otherFound
        cases otherFound
      | ok other =>
        rw [bytesFound] at found
        rw [otherBytesFound] at otherFound
        have same : Cid.ofCbor bytes = Cid.ofCbor other :=
          Except.ok.inj (found.trans otherFound.symm)
        rcases (Cid.ofCbor_eq_iff bytes other).mp same with rfl | collide
        · exact .inl ((same_iff first second isDerived otherIsDerived bytes bytesFound).mp
            otherBytesFound)
        · exact .inr ⟨bytes, other, rfl, rfl, collide⟩

/-- Derived identities cover messages and signed messages. A message has none if one
of its amounts is too large, and its bytes are those of the messages that agree with
it in every field. A signed message has none if an amount is too large or its
signature is of neither type, and its bytes are those of the same message, under a
BLS signature, or of the same message with the same signature of secp256k1. -/
theorem derived_identities_cover :
    IdentityCovers (fun message : Message => message.cid = none) Message.identity
        Message.cborBytes Message.Agree
        (fun message cause => ¬ message.Encodable ∧ cause = .amountTooLarge) ∧
      IdentityCovers SignedMessage.Derived SignedMessage.identity SignedMessage.hashedBytes
        SignedMessage.Alike
        SignedMessage.Unidentifiable := by
  constructor
  · refine .of_hashed (fun message derived => ?_)
      (fun message cause => Message.cborBytes_error_iff) ?_
    · rw [Message.identity, derived]
    · intro first second _ _ bytes found
      obtain ⟨fits, rfl⟩ := Message.cborBytes_ok_iff.mp found
      rw [Message.cborBytes_ok_iff]
      refine ⟨fun ⟨otherFits, same⟩ => (Message.form_eq_iff fits otherFits).mp same.symm,
        fun agree => ?_⟩
      exact ⟨agree.encodable fits, agree.form.symm⟩
  · exact .of_hashed (fun _ => SignedMessage.identity_derived)
      (fun _ _ => SignedMessage.hashedBytes_error_iff)
      fun _ _ derived otherDerived _ => SignedMessage.hashedBytes_eq_iff derived otherDerived

end FilecoinRosetta
