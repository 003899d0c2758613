import FilecoinRosetta.Movement
import FilecoinRosetta.Proofs.Address.Binary
import FilecoinRosetta.Proofs.Encoding.CborForms

/-!
# Payloads name two addresses

The parameters of a replaced signer and what creating an actor returns are lists
of two addresses. They are read if they are one list of exactly two byte
strings, each of which stands for an address, and nothing stands behind it.
Longer heads and byte strings in pieces are forms of the same list; but none of
its forms begins another one, so that a payload that was cut off or has
something behind it names no addresses at all. Value moves between the addresses
named, and by no payload that names none.
-/

namespace FilecoinRosetta

namespace Actor

open Encoding

/-- A payload is one list of exactly two byte strings, each of which
stands for an address. -/
inductive PairForm : Bytes → Address → Address → Prop
  | list {front left right leftContent rightContent : Bytes} {first second : Address}
      (isHead : Cbor.Head 4 front (.announced 2)) (isLeft : Cbor.ByteString left leftContent)
      (isRight : Cbor.ByteString right rightContent)
      (isFirst : Address.BinaryForm leftContent first)
      (isSecond : Address.BinaryForm rightContent second) :
      PairForm (front ++ left ++ right) first second

/-- Two byte strings are read from a payload exactly if it is an array of two
items that are byte strings with these contents. Nothing may be left over, and
nothing else is read. -/
theorem readByteStrings_pair_iff {payload leftContent rightContent : Bytes} :
    Cbor.readByteStrings? 2 payload = some [leftContent, rightContent] ↔
      ∃ front left right, Cbor.Head 4 front (.announced 2) ∧ Cbor.ByteString left leftContent ∧
        Cbor.ByteString right rightContent ∧ payload = front ++ left ++ right := by
  rw [Cbor.readByteStrings_iff]
  constructor
  · rintro ⟨-, front, items, isHead, forms, rfl⟩
    cases forms with
    | @cons left later _ _ isLeft followed =>
      cases followed with
      | @cons right later _ _ isRight followed =>
        cases followed with
        | nil => exact ⟨front, left, right, isHead, isLeft, isRight, by simp⟩
  · rintro ⟨front, left, right, isHead, isLeft, isRight, rfl⟩
    exact ⟨rfl, front, _, isHead, .cons isLeft (.cons isRight .nil), by simp⟩

/-- The content of a byte string is read as an address exactly if it is the binary
form of that address. -/
theorem readAddress_iff {content : Bytes} {address : Address} :
    (Address.ofBytes content).toOption = some address ↔ Address.BinaryForm content address := by
  rw [← Address.ofBytes_ok_iff]
  cases Address.ofBytes content <;> simp [Except.toOption]

/-- Exactly the lists of two addresses are read, from lengths in any of their forms
and byte strings in pieces too. -/
theorem readAddresses_iff {payload : Bytes} {first second : Address} :
    readAddresses? payload = some (first, second) ↔ PairForm payload first second := by
  constructor
  · intro read
    obtain ⟨contents, areItems, read⟩ := Option.bind_eq_some_iff.mp read
    split at read
    · rename_i leftContent rightContent
      obtain ⟨left, isFirst, read⟩ := Option.bind_eq_some_iff.mp read
      obtain ⟨right, isSecond, made⟩ := Option.bind_eq_some_iff.mp read
      obtain ⟨rfl, rfl⟩ := Prod.mk.inj (Option.some.inj made)
      obtain ⟨_, _, _, isHead, isLeft, isRight, rfl⟩ := readByteStrings_pair_iff.mp areItems
      exact .list isHead isLeft isRight (readAddress_iff.mp isFirst) (readAddress_iff.mp isSecond)
    · contradiction
  · rintro ⟨isHead, isLeft, isRight, isFirst, isSecond⟩
    have areItems := readByteStrings_pair_iff.mpr ⟨_, _, _, isHead, isLeft, isRight, rfl⟩
    rw [readAddresses?, areItems]
    simp [readAddress_iff.mpr isFirst, readAddress_iff.mpr isSecond]

/-- A payload is read as a swap of signers exactly if it is the pair of the two
addresses of the swap, the old one in front. -/
theorem SignerSwap.read_iff {payload : Bytes} {swap : SignerSwap} :
    SignerSwap.read? payload = some swap ↔ PairForm payload swap.old swap.new := by
  rw [← readAddresses_iff, SignerSwap.read?, Option.map_eq_some_iff]
  constructor
  · rintro ⟨⟨old, new⟩, read, rfl⟩
    exact read
  · intro read
    exact ⟨(swap.old, swap.new), read, rfl⟩

/-- A payload is read as a creation exactly if it is the pair of the two addresses
of the new actor, the one with a number in front. -/
theorem Creation.read_iff {payload : Bytes} {creation : Creation} :
    Creation.read? payload = some creation ↔
      PairForm payload creation.idAddress creation.robustAddress := by
  rw [← readAddresses_iff, Creation.read?, Option.map_eq_some_iff]
  constructor
  · rintro ⟨⟨idAddress, robustAddress⟩, read, rfl⟩
    exact read
  · intro read
    exact ⟨(creation.idAddress, creation.robustAddress), read, rfl⟩

/-- A payload that names no addresses is not read, neither as a swap of signers
nor as a creation. -/
theorem read_none {payload : Bytes} (unnamed : ∀ first second, ¬ PairForm payload first second) :
    SignerSwap.read? payload = none ∧ Creation.read? payload = none := by
  constructor
  · exact Option.eq_none_iff_forall_ne_some.mpr fun swap read =>
      unnamed _ _ (SignerSwap.read_iff.mp read)
  · exact Option.eq_none_iff_forall_ne_some.mpr fun creation read =>
      unnamed _ _ (Creation.read_iff.mp read)

/-- What is written of two addresses names them, so each pair is
read from some payload. -/
theorem writeAddresses_form (first second : Address) :
    PairForm (writeAddresses first second) first second := by
  have fits (address : Address) : address.toBytes.length < 2 ^ 64 :=
    Nat.lt_of_le_of_lt address.toBytes_length_le (by decide)
  have form := PairForm.list (Cbor.head_form (by decide)) (Cbor.byteString_form (fits first))
    (Cbor.byteString_form (fits second)) first.toBytes_form second.toBytes_form
  simpa [writeAddresses, Cbor.list] using form

/-- A payload that names two addresses names none once it is cut off, or
has something behind it. -/
theorem PairForm.alone {payload more : Bytes} {first second other another : Address}
    (form : PairForm payload first second) (longer : PairForm (payload ++ more) other another) :
    more = [] := by
  obtain ⟨isHead, isLeft, isRight, -, -⟩ := form
  generalize extended : _ ++ more = whole at longer
  obtain ⟨otherHead, otherLeft, otherRight, -, -⟩ := longer
  have read := readByteStrings_pair_iff.mpr ⟨_, _, _, isHead, isLeft, isRight, rfl⟩
  have readLonger := readByteStrings_pair_iff.mpr ⟨_, _, _, otherHead, otherLeft, otherRight, rfl⟩
  rw [← extended] at readLonger
  exact Cbor.readByteStrings_alone read readLonger

/-- A list that announces another number names no two addresses, whatever
its items are. -/
theorem PairForm.announced {size : Nat} {front items : Bytes} {first second : Address}
    (isHead : Cbor.Head 4 front (.announced size)) (form : PairForm (front ++ items) first second) :
    size = 2 := by
  generalize whole : front ++ items = payload at form
  obtain ⟨pairHead, isLeft, isRight, -, -⟩ := form
  rw [List.append_assoc] at whole
  obtain ⟨same, -, -⟩ := (Cbor.readHead_reads (by decide)).ends isHead pairHead whole
  exact Cbor.Length.announced.inj same

/-- What the two byte strings of a list hold are the addresses that it names. -/
theorem PairForm.parts {front left right leftContent rightContent : Bytes}
    {first second : Address} (isHead : Cbor.Head 4 front (.announced 2))
    (isLeft : Cbor.ByteString left leftContent) (isRight : Cbor.ByteString right rightContent)
    (form : PairForm (front ++ left ++ right) first second) :
    Address.BinaryForm leftContent first ∧ Address.BinaryForm rightContent second := by
  have read := readByteStrings_pair_iff.mpr ⟨_, _, _, isHead, isLeft, isRight, rfl⟩
  generalize front ++ left ++ right = payload at read form
  obtain ⟨pairHead, pairLeft, pairRight, isFirst, isSecond⟩ := form
  rw [readByteStrings_pair_iff.mpr ⟨_, _, _, pairHead, pairLeft, pairRight, rfl⟩] at read
  obtain ⟨rfl, rest⟩ := List.cons.inj (Option.some.inj read)
  obtain ⟨rfl, -⟩ := List.cons.inj rest
  exact ⟨isFirst, isSecond⟩

end Actor

/-! ## Value by payloads -/

namespace Movement

open Actor

/-- Replacing a signer is told as a movement of nothing from the address named first
to the one named second. -/
theorem swapSigner_iff {call : CallTrace} {result : ReturnTrace} {movement : Movement} :
    movement ∈ ofCall swapSignerName call result ↔
      ∃ old new, PairForm call.params old new ∧ movement = ⟨old, new, 0⟩ := by
  have named : ofCall swapSignerName call result =
      ((SignerSwap.read? call.params).map fun swap =>
        (⟨swap.old, swap.new, 0⟩ : Movement)).toList := by
    rw [ofCall, if_neg (by decide), if_pos rfl]
    cases SignerSwap.read? call.params <;> rfl
  rw [named, Option.mem_toList, Option.map_eq_some_iff]
  constructor
  · rintro ⟨swap, read, rfl⟩
    exact ⟨swap.old, swap.new, SignerSwap.read_iff.mp read, rfl⟩
  · rintro ⟨old, new, form, rfl⟩
    exact ⟨⟨old, new⟩, SignerSwap.read_iff.mpr form, rfl⟩

/-- The value of a successful creation is forwarded to the address
that is named second. -/
theorem forwarded_iff {call : CallTrace} {result : ReturnTrace} {movement : Movement} :
    movement ∈ forwarded call result ↔ result.isSuccess = true ∧
      ∃ idAddress robustAddress, PairForm result.data idAddress robustAddress ∧
        movement = ⟨call.receiver, robustAddress, call.value⟩ := by
  by_cases success : result.isSuccess = true
  · have named : forwarded call result = ((Creation.read? result.data).map fun creation =>
        (⟨call.receiver, creation.robustAddress, call.value⟩ : Movement)).toList := by
      rw [forwarded, if_pos success]
      cases Creation.read? result.data <;> rfl
    rw [named, Option.mem_toList, Option.map_eq_some_iff]
    constructor
    · rintro ⟨creation, read, rfl⟩
      exact ⟨success, creation.idAddress, creation.robustAddress, Creation.read_iff.mp read, rfl⟩
    · rintro ⟨-, idAddress, robustAddress, form, rfl⟩
      exact ⟨⟨idAddress, robustAddress⟩, Creation.read_iff.mpr form, rfl⟩
  · simp [forwarded, success]

end Movement

namespace Actor

open Encoding

/-- Both payloads name exactly the two addresses that are encoded in them, in
their order. Whatever is read is one list of two byte strings that stand for the
addresses, with nothing behind it: of a payload and one that has something
behind it at most one is read, none whose list announces another number of
items, and none with an item that stands for no address. So the movements that
are told of a payload are those between the addresses that it names, and there
are none if it names none. -/
theorem payloads_name_addresses :
    (∀ first second, SignerSwap.read? (writeAddresses first second) = some ⟨first, second⟩ ∧
      Creation.read? (writeAddresses first second) = some ⟨first, second⟩) ∧
    (∀ payload, (∀ swap, SignerSwap.read? payload = some swap ↔
      PairForm payload swap.old swap.new) ∧
      ∀ creation, Creation.read? payload = some creation ↔
        PairForm payload creation.idAddress creation.robustAddress) ∧
    (∀ payload more, more ≠ [] →
      (SignerSwap.read? payload = none ∨ SignerSwap.read? (payload ++ more) = none) ∧
      (Creation.read? payload = none ∨ Creation.read? (payload ++ more) = none)) ∧
    (∀ size front items, Cbor.Head 4 front (.announced size) → size ≠ 2 →
      SignerSwap.read? (front ++ items) = none ∧ Creation.read? (front ++ items) = none) ∧
    (∀ front left right leftContent rightContent, Cbor.Head 4 front (.announced 2) →
      Cbor.ByteString left leftContent → Cbor.ByteString right rightContent →
      (∀ first second,
        ¬ (Address.BinaryForm leftContent first ∧ Address.BinaryForm rightContent second)) →
      SignerSwap.read? (front ++ left ++ right) = none ∧
        Creation.read? (front ++ left ++ right) = none) ∧
    ∀ call result movement,
      (movement ∈ Movement.ofCall Movement.swapSignerName call result ↔
        ∃ old new, PairForm call.params old new ∧ movement = ⟨old, new, 0⟩) ∧
      (movement ∈ Movement.forwarded call result ↔ result.isSuccess = true ∧
        ∃ idAddress robustAddress, PairForm result.data idAddress robustAddress ∧
          movement = ⟨call.receiver, robustAddress, call.value⟩) := by
  refine ⟨fun first second => ?_, fun payload => ?_, fun payload more extended => ?_,
    fun size front items isHead other => ?_, ?_, fun call result movement => ?_⟩
  · have form := writeAddresses_form first second
    exact ⟨SignerSwap.read_iff.mpr form, Creation.read_iff.mpr form⟩
  · exact ⟨fun swap => SignerSwap.read_iff, fun creation => Creation.read_iff⟩
  · by_cases named : ∃ first second, PairForm payload first second
    · obtain ⟨first, second, form⟩ := named
      have unread := read_none fun other another longer => extended (form.alone longer)
      exact ⟨.inr unread.1, .inr unread.2⟩
    · have unread := read_none fun first second form => named ⟨first, second, form⟩
      exact ⟨.inl unread.1, .inl unread.2⟩
  · exact read_none fun first second form => other (form.announced isHead)
  · intro front left right leftContent rightContent isHead isLeft isRight noPair
    exact read_none fun first second form => noPair first second (form.parts isHead isLeft isRight)
  · exact ⟨Movement.swapSigner_iff, Movement.forwarded_iff⟩

/-- An actor's number and a delegated address are read back; behind them nothing may
stand. A list of three is not read whatever its items are, and neither is one whose
second item has no payload. -/
theorem payloads_name_number_and_delegate :
    let payload := writeAddresses (.id 1001) (.delegated 10 ⟨[1, 2], by decide⟩)
    SignerSwap.read? payload = some ⟨.id 1001, .delegated 10 ⟨[1, 2], by decide⟩⟩ ∧
      SignerSwap.read? (payload ++ [0]) = none ∧
        (∀ items, Creation.read? ([0x83] ++ items) = none) ∧
      Creation.read? [0x82, 0x42, 0, 1, 0x41, 1] = none := by
  obtain ⟨roundTrip, -, alone, announced, noAddress, -⟩ := payloads_name_addresses
  have read := (roundTrip (.id 1001) (.delegated 10 ⟨[1, 2], by decide⟩)).1
  have three : Cbor.Head 4 [0x83] (.announced 3) := .short (by decide : 3 < 24)
  have two : Cbor.Head 4 [0x82] (.announced 2) := .short (by decide : 2 < 24)
  have number : Cbor.ByteString [0x42, 0, 1] [0, 1] :=
    @Cbor.ByteString.whole [0x42] [0, 1] (.short (by decide : 2 < 24))
  have cut : Cbor.ByteString [0x41, 1] [1] :=
    @Cbor.ByteString.whole [0x41] [1] (.short (by decide : 1 < 24))
  refine ⟨read, ?_, fun items => (announced 3 [0x83] items three (by decide)).2, ?_⟩
  · exact (alone _ [0] (by decide)).1.resolve_left fun unread =>
      Option.some_ne_none _ (read.symm.trans unread)
  · refine (noAddress _ _ _ _ _ two number cut fun first second forms => ?_).2
    have impossible := Address.ofBytes_ok_iff.mpr forms.2
    exact nomatch impossible

end Actor

end FilecoinRosetta
