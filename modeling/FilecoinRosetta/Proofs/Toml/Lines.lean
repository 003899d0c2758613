import FilecoinRosetta.Proofs.Text.Decimal
import FilecoinRosetta.Proofs.Text.Segments
import FilecoinRosetta.Proofs.Toml.Text
import FilecoinRosetta.Toml.Reader
import FilecoinRosetta.Toml.Writer

/-!
# Lines of a TOML document read back

A key is followed by its value, and a header names a table or one more table of a
list. What a line does to the tables under construction is all that reading it does;
the lines behind it do not matter.
-/

namespace FilecoinRosetta.Toml

open Text.Integer

/-! ## Values -/

/-- A value that is written behind its key and has no header: a string, a number
    that is not negative, a truth value, or a list without items. -/
inductive Plain : Toml → Prop where
  | str (value : String) : Plain (.str value)
  | int (size : Nat) : Plain (.int size)
  | bool (value : Bool) : Plain (.bool value)
  | empty : Plain (.arr [])

/-- The digits of a number are read as the number. -/
theorem decimal_written (number : Nat) : decimal? (Nat.toDigits 10 number) = some number := by
  have free : '_' ∉ Nat.toDigits 10 number := by
    intro isSign
    exact absurd (decimal_digits number '_' isSign) (by decide)
  have areDigits : (Nat.toDigits 10 number).all isDigit = true := by
    rw [List.all_eq_true]
    intro sign member
    have isDigit := decimal_digits number sign member
    simpa [Toml.isDigit, Char.isDigit, Char.le_def, UInt32.le_iff_toNat_le] using isDigit
  have grouped :
      groupedDigits? isDigit (Nat.toDigits 10 number) = some (Nat.toDigits 10 number) := by
    have nonempty : (Nat.toDigits 10 number).isEmpty = false := by simp
    simp only [groupedDigits?, Text.segments_free free, List.all_cons, List.all_nil,
      areDigits, nonempty, Bool.not_false, Bool.and_self, if_true, List.flatten_cons,
      List.flatten_nil, List.append_nil]
  have canonical :
      ¬ (1 < (Nat.toDigits 10 number).length ∧ (Nat.toDigits 10 number).head? = some '0') := by
    rintro ⟨long, leadsZero⟩
    rcases Nat.eq_zero_or_pos number with rfl | positive
    · exact absurd long (by decide)
    · obtain ⟨first, rest, written, leading⟩ := decimal_leading number positive
      rw [written] at leadsZero
      exact leading (Option.some.inj leadsZero)
  have value : (Nat.toDigits 10 number).foldl
      (fun number sign => number * 10 + (sign.toNat - '0'.toNat)) 0 = number := by
    have evaluated : Nat.ofDigitChars 10 (Nat.toDigits 10 number) 0 = number :=
      Nat.ofDigitChars_ten_toDigits
    simpa only [Nat.ofDigitChars_eq_foldl, Nat.mul_comm] using evaluated
  simp only [decimal?, grouped, Option.bind_eq_bind, Option.bind_some, if_neg canonical, value]

/-- The digits of a number are no number in another base, as no
letter stands among them. -/
theorem whole_written (number : Nat) : whole? (Nat.toDigits 10 number) = some (number : Int) := by
  have digit (sign : Char) (notDigit : sign.isDigit = false) : sign ∉ Nat.toDigits 10 number := by
    intro isSign
    rw [decimal_digits number sign isSign] at notDigit
    contradiction
  have read := decimal_written number
  rw [whole?, read]
  · rfl
  · intro rest written
    exact digit 'x' rfl (by simp [written])
  · intro rest written
    exact digit 'o' rfl (by simp [written])
  · intro rest written
    exact digit 'b' rfl (by simp [written])
  · intro rest written
    exact digit '-' rfl (by simp [written])
  · intro rest written
    exact digit '+' rfl (by simp [written])

variable {rest : List Char}

/-- A run of signs ends with its line, so a number or a word never
goes on behind it. -/
theorem scalarRun_line {run : List Char} (isRun : ∀ sign ∈ run, isScalarSign sign = true) :
    scalarRun (run ++ '\n' :: rest) = (run, '\n' :: rest) := by
  have ends : isScalarSign '\n' = false := by decide
  simp [scalarRun, List.takeWhile_append_of_pos isRun, List.dropWhile_append_of_pos isRun, ends]

/-- A value is read from a run of signs that means it. -/
theorem readValue_run {fuel : Nat} {run : List Char} {value : Toml} (nonempty : run ≠ [])
    (isRun : ∀ sign ∈ run, isScalarSign sign = true) (means : scalar? run = some value) :
    readValue? (fuel + 1) (run ++ '\n' :: rest) = some (value, '\n' :: rest) := by
  have read : scalarRun (run ++ '\n' :: rest) = (run, '\n' :: rest) := scalarRun_line isRun
  have notOpened (opening : Char) (other : isScalarSign opening = false) :
      ∀ later, run ++ '\n' :: rest ≠ opening :: later := by
    intro later same
    cases run with
    | nil => exact nonempty rfl
    | cons first more =>
      obtain rfl : first = opening := (List.cons.inj same).1
      rw [isRun first List.mem_cons_self] at other
      contradiction
  rw [readValue?, read]
  · simp only [means, Option.map_some]
  · exact notOpened '[' (by decide)
  · exact notOpened '\x7b' (by decide)
  · exact notOpened '"' (by decide)
  · exact notOpened '\'' (by decide)

/-- A string begins with a quote or an apostrophe, so it is
taken for nothing else. -/
theorem writeText_lead (value : String) :
    ∃ quote later, (writeText value).toList = quote :: later ∧ (quote = '"' ∨ quote = '\'') := by
  rw [writeText, String.toList_ofList]
  split
  · exact ⟨_, _, rfl, .inl rfl⟩
  · exact ⟨_, _, rfl, .inr rfl⟩
  · exact ⟨_, _, rfl, .inl rfl⟩
  · exact ⟨_, _, rfl, .inr rfl⟩

/-- A string is read between its quotes, in whichever of the
styles it was written. -/
theorem readValue_text {fuel : Nat} (value : String) :
    readValue? (fuel + 1) ((writeText value).toList ++ '\n' :: rest) =
      some (.str value, '\n' :: rest) := by
  have unquoted : Unquoted ('\n' :: rest) := ⟨by simp, by simp⟩
  have read := readText_writeText value unquoted
  obtain ⟨quote, later, written, isQuote⟩ := writeText_lead value
  rw [written, List.cons_append] at read ⊢
  rcases isQuote with rfl | rfl
  all_goals simp only [readValue?, read, Option.map_some, String.ofList_toList]

/-- A number is written by its digits, without a sign in front. -/
theorem writeValue_digits (size : Nat) : (writeValue (.int size)).toList = Nat.toDigits 10 size :=
  text_of_nat size

/-- No blank stands in front of a plain value, so nothing is passed over there. -/
theorem Plain.dropGap {value : Toml} (plain : Plain value) :
    dropGap ((writeValue value).toList ++ rest) = (writeValue value).toList ++ rest := by
  obtain ⟨first, later, written, noGap⟩ : ∃ first later, (writeValue value).toList =
    first :: later ∧
      isGap first = false := by
    cases plain with
    | str value =>
      obtain ⟨quote, later, written, rfl | rfl⟩ := writeText_lead value
      · exact ⟨_, later, written, rfl⟩
      · exact ⟨_, later, written, rfl⟩
    | int size =>
      cases digits : Nat.toDigits 10 size with
      | nil => exact absurd digits Nat.toDigits_ne_nil
      | cons first later =>
        refine ⟨first, later, (writeValue_digits size).trans digits, ?_⟩
        have isDigit := decimal_digits size first (digits ▸ List.mem_cons_self)
        rw [isGap, Bool.or_eq_false_iff, beq_eq_false_iff_ne, beq_eq_false_iff_ne]
        constructor
        · rintro rfl
          exact absurd isDigit (by decide)
        · rintro rfl
          exact absurd isDigit (by decide)
    | bool value =>
      cases value with
      | false => exact ⟨'f', _, rfl, rfl⟩
      | true => exact ⟨'t', _, rfl, rfl⟩
    | empty => exact ⟨'[', _, rfl, rfl⟩
  simp [Toml.dropGap, written, noGap]

/-- A plain value is read at the end of its line, be it a string, a number, a flag
or an empty list. -/
theorem readValue_plain {fuel : Nat} {value : Toml} (plain : Plain value) :
    readValue? (fuel + 2) ((writeValue value).toList ++ '\n' :: rest) =
      some (value, '\n' :: rest) := by
  cases plain with
  | str value => exact readValue_text value
  | int size =>
    have isRun : ∀ sign ∈ Nat.toDigits 10 size, isScalarSign sign = true := by
      intro sign member
      simp [isScalarSign, Char.isAlphanum, decimal_digits size sign member]
    have noWord (word : List Char) (letter : ∃ sign ∈ word, sign.isDigit = false) :
        Nat.toDigits 10 size ≠ word := by
      rintro rfl
      obtain ⟨sign, member, notDigit⟩ := letter
      rw [decimal_digits size sign member] at notDigit
      contradiction
    have means : scalar? (Nat.toDigits 10 size) = some (.int size) := by
      rw [scalar?, if_neg (by simpa using noWord "true".toList ⟨'t', by decide, by decide⟩),
        if_neg (by simpa using noWord "false".toList ⟨'f', by decide, by decide⟩), whole_written]
    rw [writeValue_digits]
    exact readValue_run Nat.toDigits_ne_nil isRun means
  | bool value =>
    cases value with
    | false =>
      exact readValue_run (by decide : "false".toList ≠ []) (List.all_eq_true.mp (by decide)) rfl
    | true =>
      exact readValue_run (by decide : "true".toList ≠ []) (List.all_eq_true.mp (by decide)) rfl
  | empty =>
    have written : (writeValue (.arr [])).toList = ['[', ']'] := rfl
    rw [written]
    simp [readValue?, readItems?, dropSpace?]
    rfl

/-! ## Keys -/

/-- A key that is written without quotes. -/
def Bare (key : String) : Prop :=
  key ≠ "" ∧ ∀ sign ∈ key.toList, isBareSign sign = true

instance (key : String) : Decidable (Bare key) :=
  decidable_of_iff (key ≠ "" ∧ key.toList.all isBareSign = true) (and_congr_right' List.all_eq_true)

/-- A key without quotes is written as it is, as all of its signs
may stand in keys. -/
theorem Bare.writeKey {key : String} (bare : Bare key) : writeKey key = key := by
  have nonempty : key.isEmpty = false := by simpa using bare.1
  have signs : key.toList.all isBareSign = true := List.all_eq_true.mpr bare.2
  simp [Toml.writeKey, nonempty, signs]

/-- A key begins with a sign of keys, and there is one at least. -/
theorem Bare.first {key : String} (bare : Bare key) :
    ∃ first later, key.toList = first :: later ∧ isBareSign first = true := by
  cases signs : key.toList with
  | nil => exact absurd (String.toList_eq_nil_iff.mp signs) bare.1
  | cons first later => exact ⟨first, later, rfl, bare.2 first (signs ▸ List.mem_cons_self)⟩

/-- A key begins with no other sign, so it is taken neither for a header
nor for a comment. -/
theorem Bare.ne_cons {key : String} (bare : Bare key) {sign : Char}
    (other : isBareSign sign = false) {more : List Char} : key.toList ++ rest ≠ sign :: more := by
  obtain ⟨first, later, signs, isFirst⟩ := bare.first
  intro same
  rw [signs] at same
  obtain rfl : first = sign := (List.cons.inj same).1
  rw [isFirst] at other
  contradiction

/-- No blank stands in front of a key, so nothing is passed over there. -/
theorem Bare.dropGap {key : String} (bare : Bare key) :
    dropGap (key.toList ++ rest) = key.toList ++ rest := by
  obtain ⟨first, later, signs, isFirst⟩ := bare.first
  have noGap : isGap first = false := by
    rw [isGap, Bool.or_eq_false_iff, beq_eq_false_iff_ne, beq_eq_false_iff_ne]
    constructor
    · rintro rfl
      exact absurd isFirst (by decide)
    · rintro rfl
      exact absurd isFirst (by decide)
  simp [Toml.dropGap, signs, noGap]

/-- No line ends in front of a key, so the key is read as the
beginning of a line. -/
theorem Bare.dropLine {key : String} (bare : Bare key) : dropLine? (key.toList ++ rest) = none := by
  rw [dropLine?, bare.dropGap]
  split
  · rename_i same
    exact absurd same (bare.ne_cons (by decide))
  · simp only [Option.bind_eq_bind, Option.bind_some]
    split
    · rename_i same
      exact absurd (String.toList_eq_nil_iff.mp (List.append_eq_nil_iff.mp same).1) bare.1
    · rename_i same
      exact absurd same (bare.ne_cons (by decide))
    · rename_i same
      exact absurd same (bare.ne_cons (by decide))
    · rfl

/-- A key is read up to a sign that is none of keys. -/
theorem Bare.readKeyPart {key : String} (bare : Bare key) {sign : Char}
    (ends : isKeySign sign = false) :
    readKeyPart? (key.toList ++ sign :: rest) = some (key, sign :: rest) := by
  have noQuote : readLine? (key.toList ++ sign :: rest) = none := by
    rw [readLine?]
    · intro more
      exact bare.ne_cons (by decide)
    · intro more
      exact bare.ne_cons (by decide)
  have isKey : ∀ sign ∈ key.toList, isKeySign sign = true := bare.2
  simp [readKeyPart?, noQuote, List.takeWhile_append_of_pos isKey,
    List.dropWhile_append_of_pos isKey, ends, bare.1]

/-- A key of one part ends where something else than a point follows. -/
theorem Bare.readKey {key : String} (bare : Bare key) {fuel : Nat} {sign : Char}
    (ends : isKeySign sign = false) (noPoint : ∀ more, Toml.dropGap (sign :: rest) ≠ '.' :: more) :
    readKey? (fuel + 1) (key.toList ++ sign :: rest) =
      some ([key], Toml.dropGap (sign :: rest)) := by
  rw [readKey?, bare.dropGap, bare.readKeyPart ends]
  simp only [Option.bind_eq_bind, Option.bind_some]

/-- A key of several parts goes on behind a point. -/
theorem Bare.readKey_point {key : String} (bare : Bare key) {fuel : Nat} :
    readKey? (fuel + 1) (key.toList ++ '.' :: rest) =
      (readKey? fuel rest).map fun (parts, behind) => (key :: parts, behind) := by
  have gapped : Toml.dropGap ('.' :: rest) = '.' :: rest := rfl
  rw [readKey?, bare.dropGap, bare.readKeyPart (by decide)]
  simp only [Option.bind_eq_bind, Option.bind_some, gapped]
  cases readKey? fuel rest with
  | none => rfl
  | some => rfl

/-! ## Lines -/

/-- A line without anything on it changes nothing. -/
theorem readLineOf_blank (reading : Reading) :
    readLineOf? reading ('\n' :: rest) = some (reading, rest) :=
  rfl

/-- A header makes a table, and what follows goes into that table. -/
theorem readLineOf_header {key : String} (bare : Bare key) {reading : Reading}
    {root : Draft.Members} (made : Draft.openAt? [key] reading.root = some root) :
    readLineOf? reading ('[' :: (key.toList ++ ']' :: '\n' :: rest)) =
      some (⟨root, [key]⟩, rest) := by
  have read (fuel : Nat) : readKey? (fuel + 1) (key.toList ++ ']' :: '\n' :: rest) =
      some ([key], ']' :: '\n' :: rest) :=
    bare.readKey (by decide) (by intro more same; exact absurd (List.cons.inj same).1 (by decide))
  obtain ⟨first, later, signs, isFirst⟩ := bare.first
  have gapped : Toml.dropGap ('[' :: (key.toList ++ ']' :: '\n' :: rest)) =
      '[' :: (key.toList ++ ']' :: '\n' :: rest) := rfl
  have ended : dropLine? ('\n' :: rest) = some rest := rfl
  rw [readLineOf?, gapped]
  rw [signs] at read ⊢
  split
  · rename_i more same
    obtain rfl := (List.cons.inj (List.cons.inj same).2).1
    exact absurd isFirst (by decide)
  · rename_i more _ same
    obtain rfl := (List.cons.inj same).2
    rw [List.cons_append, List.length_cons, ← List.cons_append, read]
    simp only [made, ended, Option.bind_eq_bind, Option.bind_some]
  · rename_i single
    exact (single _ rfl).elim

/-- A header in double brackets appends a table to a list in a table. -/
theorem readLineOf_list {name key : String} (bareName : Bare name) (bareKey : Bare key)
    {reading : Reading} {root : Draft.Members}
    (made : Draft.appendAt? [name, key] reading.root = some root) :
    readLineOf? reading
        ('[' :: '[' :: (name.toList ++ '.' :: (key.toList ++ ']' :: ']' :: '\n' :: rest))) =
      some (⟨root, [name, key]⟩, rest) := by
  have read (fuel : Nat) : readKey? (fuel + 1 + 1)
      (name.toList ++ '.' :: (key.toList ++ ']' :: ']' :: '\n' :: rest)) =
      some ([name, key], ']' :: ']' :: '\n' :: rest) := by
    rw [bareName.readKey_point, bareKey.readKey (by decide)]
    · rfl
    · intro more same
      exact absurd (List.cons.inj same).1 (by decide)
  obtain ⟨first, later, signs, -⟩ := bareName.first
  have gapped :
      Toml.dropGap
          ('[' :: '[' :: (name.toList ++ '.' :: (key.toList ++ ']' :: ']' :: '\n' :: rest))) =
        '[' :: '[' :: (name.toList ++ '.' :: (key.toList ++ ']' :: ']' :: '\n' :: rest)) := rfl
  have ended : dropLine? ('\n' :: rest) = some rest := rfl
  have count : ∃ fuel, (name.toList ++ '.' :: (key.toList ++ ']' :: ']' :: '\n' :: rest)).length =
      fuel + 1 + 1 := by
    refine ⟨later.length + (key.toList ++ ']' :: ']' :: '\n' :: rest).length, ?_⟩
    rw [signs]
    simp only [List.length_append, List.length_cons]
    omega
  obtain ⟨fuel, isLength⟩ := count
  rw [readLineOf?, gapped]
  simp only [isLength, read, made, ended, Option.bind_eq_bind, Option.bind_some]

/-- A key with its value goes into the current table, if its name is new there. -/
theorem readLineOf_member {key : String} (bare : Bare key) {value : Toml} (plain : Plain value)
    {reading : Reading} {root : Draft.Members}
    (made : Draft.descend? (Draft.insert? [key] value) reading.current reading.root = some root) :
    readLineOf? reading
      (key.toList ++ ' ' :: '=' :: ' ' :: ((writeValue value).toList ++ '\n' :: rest)) =
      some ({ reading with root }, rest) := by
  obtain ⟨first, later, signs, -⟩ := bare.first
  generalize isLine : (writeValue value).toList ++ '\n' :: rest = line
  have gapped : Toml.dropGap (key.toList ++ ' ' :: '=' :: ' ' :: line) =
      key.toList ++ ' ' :: '=' :: ' ' :: line := bare.dropGap
  have noLine : dropLine? (key.toList ++ ' ' :: '=' :: ' ' :: line) = none := bare.dropLine
  have noHeader (more : List Char) : key.toList ++ ' ' :: '=' :: ' ' :: line ≠ '[' :: more :=
    bare.ne_cons (by decide)
  have read (fuel : Nat) : readKey? (fuel + 1) (key.toList ++ ' ' :: '=' :: ' ' :: line) =
      some ([key], '=' :: ' ' :: line) := by
    rw [bare.readKey (by decide)]
    · rfl
    · intro more same
      exact absurd (List.cons.inj same).1 (by decide)
  have isValue : readValue? ((' ' :: line).length + 1) (Toml.dropGap (' ' :: line)) =
      some (value, '\n' :: rest) := by
    have valueGapped : Toml.dropGap (' ' :: line) = line := by
      have blank : Toml.dropGap (' ' :: line) = Toml.dropGap line := rfl
      rw [blank, ← isLine, plain.dropGap]
    rw [valueGapped, List.length_cons]
    conv_lhs => rw [← isLine]
    exact readValue_plain plain
  have ended : dropLine? ('\n' :: rest) = some rest := rfl
  rw [readLineOf?, gapped]
  rw [signs] at read noLine noHeader ⊢
  split
  · rename_i same
    exact absurd same (noHeader _)
  · rename_i same
    exact absurd same (noHeader _)
  · rw [noLine]
    rw [List.cons_append, List.length_cons, ← List.cons_append, read]
    simp only [isValue, made, ended, Option.bind_eq_bind, Option.bind_some]

end FilecoinRosetta.Toml
