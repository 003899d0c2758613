import FilecoinRosetta.Proofs.Encoding.Cbor

/-!
# Which forms are read from CBOR

Heads are also read if they are longer than they have to be, and byte strings if
they come in pieces. These are all the forms there are: every form is read in
front of anything, and whatever is read has one of them. So no form begins
another, and a list of byte strings is read exactly if it announces their number,
and nothing stands behind them.
-/

namespace FilecoinRosetta.Encoding.Cbor

/-- Bytes are split off exactly if they are as many as were asked for, and what
is left follows them. -/
theorem split_some_iff {count : Nat} {bytes front rest : Bytes} :
    split? count bytes = some (front, rest) ↔ front.length = count ∧ bytes = front ++ rest := by
  constructor
  · intro isSplit
    unfold split? at isSplit
    split at isSplit
    case isTrue inside =>
      obtain ⟨rfl, rfl⟩ := Prod.mk.inj (Option.some.inj isSplit)
      exact ⟨List.length_take_of_le inside, (List.take_append_drop count bytes).symm⟩
    case isFalse => contradiction
  · rintro ⟨rfl, rfl⟩
    exact split_append front rest

/-! ## Heads -/

/-- The heads of items of a kind, with what they announce. -/
inductive Head (kind : Nat) : Bytes → Length → Prop
  /-- A small number stands in the first byte. -/
  | short {low : Nat} (small : low < 24) :
      Head kind [UInt8.ofNat (kind * 32 + low)] (.announced low)
  /-- Any number that fits may stand in the bytes behind the first one, zeros in
  front of it included. -/
  | long {long : Nat × Nat} {number : Bytes} (isLong : long ∈ longHeads)
      (places : number.length = long.2) :
      Head kind (UInt8.ofNat (kind * 32 + long.1) :: number) (.announced (natural number))
  /-- Nothing is announced. -/
  | unannounced : Head kind [UInt8.ofNat (kind * 32 + 31)] .unannounced

variable {kind : Nat}

/-- A byte is told by its three upper bits and its five lower ones. -/
theorem byte_eq {byte : UInt8} (isKind : byte.toNat / 32 = kind) :
    byte = UInt8.ofNat (kind * 32 + byte.toNat % 32) := by
  have whole : kind * 32 + byte.toNat % 32 = byte.toNat := by omega
  rw [whole, UInt8.ofNat_toNat]

/-- A head is as short as it can be in what is written. -/
theorem head_form {number : Nat} (fits : number < 2 ^ 64) :
    Head kind (head kind number) (.announced number) := by
  rcases head_cases kind number with ⟨small, isHead⟩ | ⟨long, isLong, inPlaces, isHead⟩
  · rw [isHead]
    exact .short small
  · have form : Head kind _ _ := .long isLong (big_endian_length long.2 number)
    rw [natural_bigEndian, Nat.mod_eq_of_lt (inPlaces fits)] at form
    rw [isHead]
    exact form

/-- A small length is read from the first byte alone. -/
theorem readHead_short (isKind : kind < 8) {low : Nat} (small : low < 24) (rest : Bytes) :
    readHead? kind (UInt8.ofNat (kind * 32 + low) :: rest) = some (.announced low, rest) := by
  obtain ⟨isHigh, isLow⟩ := first_byte isKind (Nat.lt_trans small (by decide))
  simp only [readHead?, isHigh, isLow, ne_eq, not_true_eq_false, if_false, if_pos small]

/-- The largest value of the five low bits says that the length is not announced. -/
theorem readHead_unannounced (isKind : kind < 8) (rest : Bytes) :
    readHead? kind (UInt8.ofNat (kind * 32 + 31) :: rest) = some (.unannounced, rest) := by
  obtain ⟨isHigh, isLow⟩ := first_byte isKind (by decide : 31 < 32)
  simp only [readHead?, isHigh, isLow, ne_eq, not_true_eq_false, if_false]
  rfl

/-- A byte of another kind does not start an item of the kind that is read. -/
theorem readHead_other {byte : UInt8} (other : byte.toNat / 32 ≠ kind) (rest : Bytes) :
    readHead? kind (byte :: rest) = none := by
  simp [readHead?, other]

/-- Three values of the lower bits are kept for later use. A head with one of
them is not read. -/
theorem readHead_reserved (isKind : kind < 8) {low : Nat} (large : 27 < low) (reserved : low < 31)
    (rest : Bytes) :
    readHead? kind (UInt8.ofNat (kind * 32 + low) :: rest) = none := by
  obtain ⟨isHigh, isLow⟩ := first_byte isKind (Nat.lt_trans reserved (by decide))
  have kept : ¬ low < 24 ∧ low ≠ 24 ∧ low ≠ 25 ∧ low ≠ 26 ∧ low ≠ 27 ∧ low ≠ 31 := by omega
  simp only [readHead?, isHigh, isLow, ne_eq, not_true_eq_false, if_false, kept]

/-- Exactly the heads of the kind are read, the longer forms of
a number among them. -/
theorem readHead_reads (isKind : kind < 8) : Reads (Head kind) (readHead? kind) := by
  intro bytes length rest
  constructor
  · intro read
    cases bytes with
    | nil => contradiction
    | cons byte later =>
      by_cases high : byte.toNat / 32 = kind
      · have bits : byte.toNat % 32 < 32 := Nat.mod_lt _ (by decide)
        rw [byte_eq high] at read ⊢
        generalize byte.toNat % 32 = low at bits read ⊢
        have cases : low < 24 ∨ (∃ long ∈ longHeads, long.1 = low) ∨ (27 < low ∧ low < 31) ∨
            low = 31 := by
          simp only [longHeads, List.mem_cons, List.not_mem_nil, or_false, exists_eq_or_imp,
            exists_eq_left]
          omega
        rcases cases with small | ⟨long, isLong, rfl⟩ | ⟨large, reserved⟩ | rfl
        · rw [readHead_short isKind small] at read
          obtain ⟨rfl, rfl⟩ := Prod.mk.inj (Option.some.inj read)
          exact ⟨_, .short small, rfl⟩
        · rw [readHead_long isKind isLong] at read
          obtain ⟨⟨number, behind⟩, isSplit, made⟩ := Option.map_eq_some_iff.mp read
          obtain ⟨rfl, rfl⟩ := Prod.mk.inj made
          obtain ⟨places, rfl⟩ := split_some_iff.mp isSplit
          exact ⟨_, .long isLong places, rfl⟩
        · rw [readHead_reserved isKind large reserved] at read
          contradiction
        · rw [readHead_unannounced isKind] at read
          obtain ⟨rfl, rfl⟩ := Prod.mk.inj (Option.some.inj read)
          exact ⟨_, .unannounced, rfl⟩
      · rw [readHead_other high] at read
        contradiction
  · rintro ⟨front, isHead, rfl⟩
    cases isHead with
    | short small => exact readHead_short isKind small rest
    | long isLong places =>
      rw [List.cons_append, readHead_long isKind isLong, split_some_iff.mpr ⟨places, rfl⟩]
      rfl
    | unannounced => exact readHead_unannounced isKind rest

/-! ## Byte strings -/

/-- The pieces of a byte string up to the break, with what they hold together.
Pieces may come in pieces themselves, as deep as the nesting goes. -/
inductive Pieces : Nat → Bytes → Bytes → Prop
  /-- The break ends them. -/
  | done (nesting : Nat) : Pieces nesting [breakByte] []
  /-- A piece that comes whole. -/
  | whole {nesting : Nat} {front piece later rest : Bytes}
      (isHead : Head 2 front (.announced piece.length))
      (followed : Pieces nesting later rest) :
      Pieces nesting (front ++ piece ++ later) (piece ++ rest)
  /-- A piece that comes in pieces. -/
  | nested {nesting : Nat} {front inner piece later rest : Bytes}
      (isHead : Head 2 front .unannounced)
      (pieces : Pieces nesting inner piece) (followed : Pieces (nesting + 1) later rest) :
      Pieces (nesting + 1) (front ++ inner ++ later) (piece ++ rest)

/-- The forms of a byte string: whole, or in pieces. -/
inductive ByteString : Bytes → Bytes → Prop
  | whole {front content : Bytes} (isHead : Head 2 front (.announced content.length)) :
      ByteString (front ++ content) content
  | inPieces {front pieces content : Bytes} (isHead : Head 2 front .unannounced)
      (isPieces : Pieces (maxNesting - 1) pieces content) : ByteString (front ++ pieces) content

/-- A head of a byte string does not begin with the break. -/
theorem head_begins {bytes rest : Bytes} {length : Length}
    (read : readHead? 2 bytes = some (length, rest)) :
    ∃ first later, bytes = first :: later ∧ first ≠ breakByte := by
  cases bytes with
  | nil => contradiction
  | cons first later =>
    refine ⟨first, later, rfl, ?_⟩
    rintro rfl
    rw [readHead_other (by decide)] at read
    contradiction

/-- Behind the head of a piece that comes whole, the piece is read and
then the other pieces. -/
theorem readPieces_whole {limit nesting size : Nat} {bytes content : Bytes}
    (read : readHead? 2 bytes = some (.announced size, content)) :
    readPieces? (limit + 1) nesting bytes = (split? size content).bind fun (piece, later) =>
      (readPieces? limit nesting later).bind fun (pieces, last) =>
        some (piece ++ pieces, last) := by
  obtain ⟨first, later, rfl, other⟩ := head_begins read
  simp only [readPieces?, if_neg other, read, Option.bind_eq_bind]

/-- Behind the head of a piece that comes in pieces, these are read and
then the other pieces. -/
theorem readPieces_nested {limit nesting : Nat} {bytes inner : Bytes}
    (read : readHead? 2 bytes = some (.unannounced, inner)) :
    readPieces? (limit + 1) (nesting + 1) bytes =
      (readPieces? limit nesting inner).bind fun (piece, later) =>
      (readPieces? limit (nesting + 1) later).bind fun (pieces, last) =>
        some (piece ++ pieces, last) := by
  obtain ⟨first, later, rfl, other⟩ := head_begins read
  simp only [readPieces?, if_neg other, read, Option.bind_eq_bind, Nat.add_one_ne_zero, if_false,
    Nat.add_sub_cancel]

/-- Whatever is read as pieces has their form, so the reader accepts no more
than is said here. -/
theorem readPieces_sound {limit nesting : Nat} {bytes content rest : Bytes}
    (read : readPieces? limit nesting bytes = some (content, rest)) :
    ∃ front, Pieces nesting front content ∧ bytes = front ++ rest := by
  induction limit generalizing nesting bytes content rest with
  | zero => contradiction
  | succ limit ih =>
    cases isHead : readHead? 2 bytes with
    | none =>
      cases bytes with
      | nil => contradiction
      | cons first later =>
        by_cases ended : first = breakByte
        · subst ended
          rw [readPieces?, if_pos rfl] at read
          obtain ⟨rfl, rfl⟩ := Prod.mk.inj (Option.some.inj read)
          exact ⟨[breakByte], .done nesting, rfl⟩
        · simp [readPieces?, ended, isHead] at read
    | some found =>
      obtain ⟨length, behind⟩ := found
      obtain ⟨front, form, rfl⟩ := (readHead_reads (by decide)).mp isHead
      cases length with
      | announced size =>
        rw [readPieces_whole isHead] at read
        obtain ⟨⟨piece, later⟩, isPiece, others⟩ := Option.bind_eq_some_iff.mp read
        obtain ⟨⟨pieces, last⟩, arePieces, made⟩ := Option.bind_eq_some_iff.mp others
        obtain ⟨rfl, rfl⟩ := Prod.mk.inj (Option.some.inj made)
        obtain ⟨rfl, rfl⟩ := split_some_iff.mp isPiece
        obtain ⟨laterFront, laterForm, rfl⟩ := ih arePieces
        exact ⟨_, .whole form laterForm, by simp⟩
      | unannounced =>
        cases nesting with
        | zero =>
          obtain ⟨first, later, begins, other⟩ := head_begins isHead
          rw [begins] at isHead read
          simp [readPieces?, other, isHead] at read
        | succ nesting =>
          rw [readPieces_nested isHead] at read
          obtain ⟨⟨piece, later⟩, isPiece, others⟩ := Option.bind_eq_some_iff.mp read
          obtain ⟨⟨pieces, last⟩, arePieces, made⟩ := Option.bind_eq_some_iff.mp others
          obtain ⟨rfl, rfl⟩ := Prod.mk.inj (Option.some.inj made)
          obtain ⟨inner, innerForm, rfl⟩ := ih isPiece
          obtain ⟨laterFront, laterForm, rfl⟩ := ih arePieces
          exact ⟨_, .nested form innerForm laterForm, by simp⟩

/-- A head takes a byte at least, so a reader that goes on behind it
comes to its end. -/
theorem Head.length_pos {front : Bytes} {length : Length} (form : Head kind front length) :
    0 < front.length := by
  cases form <;> simp

/-- All pieces are read, if no more of them are asked for than there are bytes. -/
theorem readPieces_complete {nesting : Nat} {front content : Bytes}
    (form : Pieces nesting front content) {limit : Nat} (ample : front.length ≤ limit)
    (rest : Bytes) :
    readPieces? limit nesting (front ++ rest) = some (content, rest) := by
  induction form generalizing limit rest with
  | done nesting =>
    obtain ⟨limit, rfl⟩ := Nat.exists_eq_add_of_le' ample
    rw [List.singleton_append, List.length_singleton, readPieces?, if_pos rfl]
  | @whole nesting head piece later pieces isHead followed ih =>
    have positive := isHead.length_pos
    simp only [List.length_append] at ample
    obtain ⟨limit, rfl⟩ :=
      Nat.exists_eq_add_of_le' (Nat.le_trans positive (by omega : head.length ≤ limit))
    have read := (readHead_reads (by decide)).complete isHead (piece ++ (later ++ rest))
    rw [List.append_assoc, List.append_assoc, readPieces_whole read, split_append, Option.bind_some]
    dsimp only
    rw [ih (by omega) rest]
    rfl
  | @nested nesting head inner piece later pieces isHead _ followed innerRead ih =>
    have positive := isHead.length_pos
    simp only [List.length_append] at ample
    obtain ⟨limit, rfl⟩ :=
      Nat.exists_eq_add_of_le' (Nat.le_trans positive (by omega : head.length ≤ limit))
    have read := (readHead_reads (by decide)).complete isHead (inner ++ (later ++ rest))
    rw [List.append_assoc, List.append_assoc, readPieces_nested read, innerRead (by omega),
      Option.bind_some]
    dsimp only
    rw [ih (by omega) rest]
    rfl

/-- Exactly the forms of byte strings are read, whole or in pieces. -/
theorem readByteString_reads : Reads ByteString readByteString? := by
  intro bytes content rest
  constructor
  · intro read
    unfold readByteString? at read
    split at read
    · rename_i size body isHead
      obtain ⟨front, form, rfl⟩ := (readHead_reads (by decide)).mp isHead
      obtain ⟨rfl, rfl⟩ := split_some_iff.mp read
      exact ⟨_, .whole form, (List.append_assoc ..).symm⟩
    · rename_i body isHead
      obtain ⟨front, form, rfl⟩ := (readHead_reads (by decide)).mp isHead
      obtain ⟨pieces, piecesForm, rfl⟩ := readPieces_sound read
      exact ⟨_, .inPieces form piecesForm, (List.append_assoc ..).symm⟩
    · contradiction
  · rintro ⟨front, form, rfl⟩
    cases form with
    | @whole head _ isHead =>
      rw [List.append_assoc, readByteString?, (readHead_reads (by decide)).complete isHead]
      exact split_append content rest
    | @inPieces head pieces _ isHead isPieces =>
      rw [List.append_assoc, readByteString?, (readHead_reads (by decide)).complete isHead]
      exact readPieces_complete isPieces (by simp; omega) rest

/-- A byte string is written whole, which is one of the forms that are read. -/
theorem byteString_form {content : Bytes} (fits : content.length < 2 ^ 64) :
    ByteString (byteString content) content :=
  .whole (head_form fits)

/-! ## Lists of byte strings -/

/-- The forms of byte strings one behind the other. -/
inductive ByteStrings : Bytes → List Bytes → Prop
  | nil : ByteStrings [] []
  | cons {front later content : Bytes} {contents : List Bytes} (isItem : ByteString front content)
      (followed : ByteStrings later contents) : ByteStrings (front ++ later) (content :: contents)

/-- A number of items is read from bytes exactly if the bytes are that many byte
strings in a row, with nothing behind the last one. -/
theorem items_iff {count : Nat} {bytes : Bytes} {contents : List Bytes} :
    readByteStrings?.items count bytes = some contents ↔
      contents.length = count ∧ ByteStrings bytes contents := by
  constructor
  · intro read
    induction count generalizing bytes contents with
    | zero =>
      cases bytes with
      | nil =>
        obtain rfl := Option.some.inj read
        exact ⟨rfl, .nil⟩
      | cons => contradiction
    | succ count ih =>
      obtain ⟨⟨item, rest⟩, isItem, others⟩ := Option.bind_eq_some_iff.mp read
      obtain ⟨later, isLater, made⟩ := Option.bind_eq_some_iff.mp others
      obtain rfl := Option.some.inj made
      obtain ⟨front, form, rfl⟩ := readByteString_reads.mp isItem
      obtain ⟨size, followed⟩ := ih isLater
      exact ⟨congrArg (· + 1) size, .cons form followed⟩
  · rintro ⟨rfl, forms⟩
    induction forms with
    | nil => rfl
    | cons isItem followed ih =>
      simp [readByteStrings?.items, readByteString_reads.complete isItem, ih]

/-- A list of byte strings is read exactly if its head announces their number, and
they are all that follows. -/
theorem readByteStrings_iff {count : Nat} {bytes : Bytes} {contents : List Bytes} :
    readByteStrings? count bytes = some contents ↔
      contents.length = count ∧ ∃ front items, Head 4 front (.announced count) ∧
        ByteStrings items contents ∧
        bytes = front ++ items := by
  constructor
  · intro read
    unfold readByteStrings? at read
    split at read
    · rename_i size body isHead
      obtain ⟨front, form, rfl⟩ := (readHead_reads (by decide)).mp isHead
      split at read
      · rename_i same
        subst same
        obtain ⟨size, forms⟩ := items_iff.mp read
        exact ⟨size, front, body, form, forms, rfl⟩
      · contradiction
    · contradiction
  · rintro ⟨size, front, items, form, forms, rfl⟩
    rw [readByteStrings?, (readHead_reads (by decide)).complete form]
    dsimp only
    rw [if_pos rfl, items_iff]
    exact ⟨size, forms⟩

/-- No list of byte strings begins another one of the same number of strings. -/
theorem ByteStrings.ends {bytes other rest more : Bytes} {contents otherContents : List Bytes}
    (forms : ByteStrings bytes contents) (otherForms : ByteStrings other otherContents)
    (size : contents.length = otherContents.length) (same : bytes ++ rest = other ++ more) :
    rest = more := by
  induction forms generalizing other otherContents with
  | nil =>
    cases otherForms with
    | nil => exact same
    | cons => contradiction
  | cons isItem _ ih =>
    cases otherForms with
    | nil => contradiction
    | cons otherItem otherFollowed =>
      rw [List.append_assoc, List.append_assoc] at same
      obtain ⟨-, -, later⟩ := readByteString_reads.ends isItem otherItem same
      exact ih otherFollowed (Nat.succ.inj size) later

/-- A list that is read is read no more once it is cut off, or
has something behind it. -/
theorem readByteStrings_alone {count : Nat} {bytes more : Bytes}
    {contents otherContents : List Bytes} (read : readByteStrings? count bytes = some contents)
    (longer : readByteStrings? count (bytes ++ more) = some otherContents) : more = [] := by
  obtain ⟨size, front, items, isHead, forms, rfl⟩ := readByteStrings_iff.mp read
  obtain ⟨otherSize, otherFront, otherItems, otherHead, otherForms, same⟩ :=
    readByteStrings_iff.mp longer
  rw [List.append_assoc] at same
  obtain ⟨-, -, behind⟩ := (readHead_reads (by decide)).ends isHead otherHead same
  rw [← List.append_nil otherItems] at behind
  exact forms.ends otherForms (size.trans otherSize.symm) behind

end FilecoinRosetta.Encoding.Cbor
