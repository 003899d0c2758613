/-!
# Byte strings

Addresses, content identifiers, message parameters and signatures all travel as byte
strings. A byte string is a list here, so that every codec can be stated and
reasoned about by recursion on it.
-/

namespace FilecoinRosetta

/-- A string of bytes. -/
abbrev Bytes := List UInt8

/-- A byte string of exactly `size` bytes, such as a public key hash. -/
structure SizedBytes (size : Nat) where
  /-- The bytes themselves. -/
  bytes : Bytes
  /-- Their number is fixed by the type. -/
  length_eq : bytes.length = size
  deriving DecidableEq

namespace SizedBytes

/-- Accept a byte string when it has the required size. -/
def ofBytes? (size : Nat) (bytes : Bytes) : Option (SizedBytes size) :=
  if length_eq : bytes.length = size then some ⟨bytes, length_eq⟩ else none

/-- Exactly the byte strings of the required size are accepted, and each of them
unchanged, so no size is checked twice. -/
theorem of_bytes_iff {size : Nat} {bytes : Bytes} {sized : SizedBytes size} :
    ofBytes? size bytes = some sized ↔ sized.bytes = bytes := by
  unfold ofBytes?
  split
  · rename_i length_eq
    cases sized
    simp [eq_comm]
  · rename_i wrong
    refine ⟨fun absent => by simp at absent, fun same => absurd ?_ wrong⟩
    rw [← same, sized.length_eq]

end SizedBytes

/-- The bytes of a text in UTF-8. -/
def utf8 (text : String) : Bytes :=
  text.toUTF8.data.toList

/-- The text that bytes are the UTF-8 form of, if they are one. -/
def utf8Text? (bytes : Bytes) : Option String :=
  String.fromUTF8? ⟨bytes.toArray⟩

/-- Bytes are a text exactly if they are its UTF-8 form. Others are no text at all,
and are not repaired. -/
theorem utf8_text_iff {bytes : Bytes} {text : String} :
    utf8Text? bytes = some text ↔ utf8 text = bytes := by
  unfold utf8Text? String.fromUTF8? utf8
  constructor
  · intro isText
    split at isText
    · obtain rfl := Option.some.inj isText
      rfl
    · contradiction
  · rintro rfl
    split
    · rfl
    · rename_i invalid
      exact absurd text.isValidUTF8 invalid

/-- The character whose UTF-8 form bytes begin with, if they begin with one. No form
    takes more than four bytes. -/
def leadingSign? (bytes : Bytes) : Option Char :=
  ByteArray.utf8DecodeChar? ⟨(bytes.take 4).toArray⟩ 0

/-- What bytes spell in UTF-8 once some of them are passed over. Each character
    stands for itself, and each byte that begins none stands alone, as nothing. -/
def spelledAfter : (passed : Nat) → Bytes → List (Option Char)
  | _, [] => []
  | passed + 1, _ :: rest => spelledAfter passed rest
  | 0, byte :: rest =>
      match leadingSign? (byte :: rest) with
      | some sign => some sign :: spelledAfter (sign.utf8Size - 1) rest
      | none => none :: spelledAfter 0 rest

/-- What bytes spell in UTF-8: characters, and bytes that belong to none. -/
def spelled (bytes : Bytes) : List (Option Char) :=
  spelledAfter 0 bytes

/-- A text is written character by character, so what holds of its bytes can be
shown by induction on its characters. -/
theorem utf8_cons (sign : Char) (signs : List Char) :
    utf8 (String.ofList (sign :: signs)) =
      String.utf8EncodeChar sign ++ utf8 (String.ofList signs) := by
  have parts : (sign :: signs).utf8Encode =
      (String.utf8EncodeChar sign).toByteArray ++ signs.utf8Encode := by
    rw [List.utf8Encode_cons, List.utf8Encode_singleton]
  simp only [utf8, String.toUTF8_eq_toByteArray, String.toByteArray_ofList, parts]
  simp

/-- The form of a character tells it, whatever stands behind. So texts are read from
their bytes one character after another. -/
theorem leading_sign_encoded (sign : Char) (behind : Bytes) :
    leadingSign? (String.utf8EncodeChar sign ++ behind) = some sign := by
  have short : (String.utf8EncodeChar sign).length ≤ 4 := by
    rw [String.length_utf8EncodeChar]
    exact sign.utf8Size_le_four
  have parts : (String.utf8EncodeChar sign ++ behind).take 4 =
      String.utf8EncodeChar sign ++ behind.take (4 - (String.utf8EncodeChar sign).length) := by
    rw [List.take_append, List.take_of_length_le short]
  have split : (⟨((String.utf8EncodeChar sign ++ behind).take 4).toArray⟩ : ByteArray) =
      (String.utf8EncodeChar sign).toByteArray ++
        ⟨(behind.take (4 - (String.utf8EncodeChar sign).length)).toArray⟩ := by
    rw [parts]
    apply ByteArray.ext
    simp
  rw [leadingSign?, split, ByteArray.utf8DecodeChar?_utf8EncodeChar_append]

/-- Bytes that begin with the form of a character are that form and
what stands behind it. -/
theorem encoded_of_leading {bytes : Bytes} {sign : Char} (leads : leadingSign? bytes = some sign) :
    ∃ behind, bytes = String.utf8EncodeChar sign ++ behind := by
  obtain ⟨later, taken⟩ := ByteArray.exists_of_utf8DecodeChar?_eq_some leads
  have same : bytes.take 4 = String.utf8EncodeChar sign ++ later.data.toList := by
    have := congrArg (fun array => array.data.toList) taken
    simpa using this
  exact ⟨later.data.toList ++ bytes.drop 4, by
    rw [← List.append_assoc, ← same, List.take_append_drop]⟩

/-- What is passed over in front makes no difference to what is spelled behind
it, whatever it was. -/
theorem spelled_after_passed (passed rest : Bytes) :
    spelledAfter passed.length (passed ++ rest) = spelled rest := by
  induction passed with
  | nil => rfl
  | cons byte passed ih => exact ih

/-- A character that leads is spelled first, and what stands behind it next. -/
theorem spelled_encoded (sign : Char) (behind : Bytes) :
    spelled (String.utf8EncodeChar sign ++ behind) = some sign :: spelled behind := by
  cases form : String.utf8EncodeChar sign with
  | nil => exact absurd form String.utf8EncodeChar_ne_nil
  | cons byte rest =>
    have size : sign.utf8Size - 1 = rest.length := by
      rw [← String.length_utf8EncodeChar, form, List.length_cons, Nat.add_sub_cancel]
    have leads := leading_sign_encoded sign behind
    rw [form, List.cons_append] at leads
    rw [List.cons_append, spelled, spelledAfter, leads]
    dsimp only
    rw [size, spelled_after_passed]

/-- Bytes spell the characters of a text and nothing else exactly if they
are its UTF-8 form. -/
theorem spelled_iff {bytes : Bytes} {text : String} :
    spelled bytes = text.toList.map some ↔ utf8 text = bytes := by
  obtain ⟨signs, rfl⟩ : ∃ signs, text = String.ofList signs :=
    ⟨text.toList, String.ofList_toList.symm⟩
  rw [String.toList_ofList]
  induction signs generalizing bytes with
  | nil =>
    cases bytes with
    | nil => exact ⟨fun _ => rfl, fun _ => rfl⟩
    | cons byte rest =>
      refine ⟨fun none => ?_, fun none => nomatch none⟩
      unfold spelled spelledAfter at none
      split at none <;> cases none
  | cons sign signs ih =>
    rw [utf8_cons, List.map_cons]
    constructor
    · intro spells
      have leads : leadingSign? bytes = some sign := by
        cases bytes with
        | nil => cases spells
        | cons byte rest =>
          unfold spelled spelledAfter at spells
          split at spells
          · rename_i isSign
            rw [isSign, (List.cons.inj spells).1]
          · cases (List.cons.inj spells).1
      obtain ⟨behind, rfl⟩ := encoded_of_leading leads
      rw [spelled_encoded] at spells
      rw [ih.mp (List.cons.inj spells).2]
    · rintro rfl
      rw [spelled_encoded, ih.mpr rfl]

/-- The bytes of a number in a given number of places, most significant first. -/
def bigEndian : (places : Nat) → (number : Nat) → Bytes
  | 0, _ => []
  | places + 1, number => UInt8.ofNat (number / Nat.pow 256 places) :: bigEndian places number

/-- Every place is written, also those of leading zeros, so the length is known
before the number is. -/
theorem big_endian_length (places number : Nat) : (bigEndian places number).length = places := by
  induction places with
  | zero => rfl
  | succ places ih => simp [bigEndian, ih]

end FilecoinRosetta
