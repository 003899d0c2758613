import FilecoinRosetta.Json.Printer
import FilecoinRosetta.Json.Token
import FilecoinRosetta.Proofs.Text.Decimal
import Mathlib.Data.List.TakeWhile

/-!
# Written values scanned

The text of a value falls into the tokens of the value. A word ends only at the sign
behind it, so this is said of a text with something behind it that belongs to no
word; everything a value is written in front of is of that kind. Strings are scanned
sign by sign, as they are written.
-/

namespace FilecoinRosetta.Json

/-! ## Values with a text of their own -/

mutual

/-- A value of integers and whole strings. All others have no text that
says what they are. -/
def Plain : Json → Prop
  | .null => True
  | .bool _ => True
  | .int _ => True
  | .real _ => False
  | .str _ => True
  | .arr items => PlainItems items
  | .obj members => PlainMembers members
  | .unreadable => False

/-- Items that are plain. -/
def PlainItems : List Json → Prop
  | [] => True
  | item :: rest => Plain item ∧ PlainItems rest

/-- Members that are plain. -/
def PlainMembers : List (String × Json) → Prop
  | [] => True
  | (_, value) :: rest => Plain value ∧ PlainMembers rest

end

mutual

/-- The tokens of a value. -/
def tokens : Json → List Token
  | .str value => [.text (some value)]
  | .arr items => .openList :: itemTokens items ++ [.closeList]
  | .obj members => .openMembers :: memberTokens members ++ [.closeMembers]
  | word => [.word word]

/-- The tokens of items with commas between them. -/
def itemTokens : List Json → List Token
  | [] => []
  | [last] => tokens last
  | item :: rest => tokens item ++ .comma :: itemTokens rest

/-- The tokens of members with commas between them. -/
def memberTokens : List (String × Json) → List Token
  | [] => []
  | [(name, last)] => .text (some name) :: .colon :: tokens last
  | (name, value) :: rest =>
    .text (some name) :: .colon :: tokens value ++ .comma :: memberTokens rest

end

/-! ## The scan -/

/-- A text that does not go on with a sign of a word. -/
def Delimited : List Char → Prop
  | [] => True
  | sign :: _ => isWordSign sign = false

namespace Scanner

/-- All tokens when the rest of a text is scanned as well. -/
def scan? (scanner : Scanner) (text : List Char) : Option (List Token) :=
  (text.foldlM step? scanner).bind finish?

/-- At the end of a text the scanner says whether what it has read is complete. -/
theorem scan_nil (scanner : Scanner) : scanner.scan? [] = scanner.finish? :=
  rfl

/-- A scan takes one character and goes on from where that leads, or fails there. -/
theorem scan_cons (scanner : Scanner) (sign : Char) (rest : List Char) :
    scanner.scan? (sign :: rest) = (scanner.step? sign).bind fun next => next.scan? rest := by
  rw [scan?, List.foldlM_cons]
  cases scanner.step? sign with
  | none => rfl
  | some next => rfl

/-- A sign that a scan takes leaves the rest of the signs to the next one. -/
theorem scan_step {scanner next : Scanner} {sign : Char} (rest : List Char)
    (step : scanner.step? sign = some next) : scanner.scan? (sign :: rest) = next.scan? rest := by
  rw [scan_cons, step, Option.bind_some]

variable {tokens : List Token} {rest : List Char}

/-! ## Words -/

/-- No word begins with a blank, so blanks between words are passed over. -/
theorem word_not_blank {sign : Char} (isSign : isWordSign sign = true) : isBlank sign = false := by
  rw [Bool.eq_false_iff]
  intro blank
  simp only [isBlank, Bool.or_eq_true, beq_iff_eq] at blank
  rcases blank with ((rfl | rfl) | rfl) | rfl
  all_goals exact absurd isSign (by decide)

/-- The signs of a word are collected until one comes that is in no word. -/
theorem scan_in_word (word found : List Char) (isWord : ∀ sign ∈ word, isWordSign sign = true) :
    scan? ⟨.inWord found, tokens⟩ (word ++ rest) =
      scan? ⟨.inWord (word.reverse ++ found), tokens⟩ rest := by
  induction word generalizing found with
  | nil => rfl
  | cons sign word ih =>
    have isSign := isWord sign List.mem_cons_self
    have later := ih (sign :: found) fun other member => isWord other
        (List.mem_cons_of_mem sign member)
    have step : step? ⟨.inWord found, tokens⟩ sign = some ⟨.inWord (sign :: found), tokens⟩ := by
      simp [step?, isSign]
    rw [List.cons_append, scan_step _ step, later]
    simp

/-- In front of what belongs to no word a word is finished. -/
theorem scan_word_end {found : List Char} {value : Json}
    (isValue : wordValue? found.reverse = some value) (delimited : Delimited rest) :
    scan? ⟨.inWord found, tokens⟩ rest = scan? ⟨.between, .word value :: tokens⟩ rest := by
  have ended : endWord? found tokens = some (.word value :: tokens) := by
    simp [endWord?, isValue]
  cases rest with
  | nil => simp [scan_nil, finish?, ended]
  | cons sign more =>
    have foreign : isWordSign sign = false := delimited
    simp [scan_cons, step?, foreign, ended]

/-- A word is scanned as the value it stands for, if what follows is in no word. -/
theorem scan_word {word : List Char} {value : Json} (isValue : wordValue? word = some value)
    (nonempty : word ≠ []) (isWord : ∀ sign ∈ word, isWordSign sign = true)
    (delimited : Delimited rest) :
    scan? ⟨.between, tokens⟩ (word ++ rest) = scan? ⟨.between, .word value :: tokens⟩ rest := by
  cases word with
  | nil => exact absurd rfl nonempty
  | cons sign word =>
    have isSign := isWord sign List.mem_cons_self
    have step : step? ⟨.between, tokens⟩ sign = some ⟨.inWord [sign], tokens⟩ := by
      simp [step?, start?, isSign, word_not_blank isSign]
    rw [List.cons_append, scan_step _ step,
      scan_in_word word [sign] fun other member => isWord other (List.mem_cons_of_mem sign member)]
    apply scan_word_end _ delimited
    simpa using isValue

end Scanner

/-! ## Integers as words -/

section

open Decimal

open Text.Integer (decimal_digits decimal_leading text_of_nat text_of_neg)

/-- The number of digits is the one that decimal digits stand for. -/
theorem natural_of_digits (digits : List Char) (higher : Nat) :
    (digits.map Numeral.digitValue).foldl (fun higher digit => higher * 10 + digit) higher =
      Nat.ofDigitChars 10 digits higher := by
  induction digits generalizing higher with
  | nil => rfl
  | cons sign rest ih =>
    rw [List.map_cons, List.foldl_cons, ih, Nat.ofDigitChars_cons, Nat.mul_comm]
    rfl

/-- The digits of a number are a literal without anything else. -/
theorem span_digits (number : Nat) :
    Numeral.spanDigits (Nat.toDigits 10 number) =
      ((Nat.toDigits 10 number).map Numeral.digitValue, []) := by
  have digits := decimal_digits number
  simp [Numeral.spanDigits, List.takeWhile_eq_self_iff.mpr digits,
    List.dropWhile_eq_nil_iff.mpr digits]

/-- The digits of a number do not begin with a superfluous zero. -/
theorem digits_lead (number : Nat) (whole : List Nat)
    (isWhole : whole = (Nat.toDigits 10 number).map Numeral.digitValue) :
    ¬ (whole.isEmpty ∨ (whole.head? = some 0 ∧ whole.length ≠ 1)) := by
  subst isWhole
  rcases Nat.eq_zero_or_pos number with rfl | positive
  · simp
  · obtain ⟨first, rest, written, leads⟩ := decimal_leading number positive
    have isDigit : first.isDigit = true :=
      decimal_digits number first (written ▸ List.mem_cons_self)
    have inRange : 48 ≤ first.val.toNat ∧ first.val.toNat ≤ 57 := by
      simpa [Char.isDigit, UInt32.le_iff_toNat_le] using isDigit
    have notZero : first.val.toNat ≠ 48 := by
      intro same
      exact leads (Char.toNat_inj.mp same)
    have digit : Numeral.digitValue first ≠ 0 := by
      change first.val.toNat - 48 ≠ 0
      omega
    simp [written, digit]

/-- The literal of the digits of a number. -/
def digitLiteral (negative : Bool) (number : Nat) : Numeral :=
  ⟨negative, (Nat.toDigits 10 number).map Numeral.digitValue, [], 0, false⟩

/-- The digits that a natural number is written as are read as that number, whatever
sign stands in front of them. -/
theorem digitLiteral_natural (negative : Bool) (number : Nat) :
    Numeral.natural (digitLiteral negative number).whole = number := by
  have value := natural_of_digits (Nat.toDigits 10 number) 0
  rw [Nat.ofDigitChars_ten_toDigits] at value
  exact value

/-- Digits behind a minus sign are a literal, with all digits in
front of the point. -/
theorem parse_negative (number : Nat) :
    Numeral.parse? ('-' :: Nat.toDigits 10 number) = some (digitLiteral true number) := by
  simp only [Numeral.parse?, span_digits, if_neg (digits_lead number _ rfl)]
  rfl

/-- Digits alone are a literal, with all digits in front of the point. -/
theorem parse_natural (number : Nat) :
    Numeral.parse? (Nat.toDigits 10 number) = some (digitLiteral false number) := by
  unfold Numeral.parse?
  split
  rename_i negative unsigned isSplit
  split at isSplit
  · rename_i rest signed
    exact absurd (decimal_digits number '-' (signed ▸ List.mem_cons_self)) (by decide)
  · obtain ⟨rfl, rfl⟩ := Prod.mk.inj isSplit
    simp only [span_digits, if_neg (digits_lead number _ rfl)]
    rfl

/-- The text of an integer is a literal of it. -/
theorem integer_literal (number : Int) :
    ∃ numeral, Numeral.parse? (toString number).toList = some numeral ∧
      numeral.integer? = some number := by
  rcases Int.lt_or_le number 0 with below | above
  · obtain ⟨size, rfl⟩ := Int.exists_eq_neg_ofNat (Int.le_of_lt below)
    have positive : 0 < size := by omega
    have written : (toString (-(size : Int))).toList = _ := text_of_neg size positive
    refine ⟨digitLiteral true size, ?_, ?_⟩
    · rw [written, parse_negative]
    · have notZero : size ≠ 0 := by omega
      rw [Numeral.integer?, digitLiteral_natural]
      simp [digitLiteral, notZero]
  · obtain ⟨size, rfl⟩ := Int.eq_ofNat_of_zero_le above
    have written : (toString (size : Int)).toList = _ := text_of_nat size
    refine ⟨digitLiteral false size, ?_, ?_⟩
    · rw [written, parse_natural]
    · rw [Numeral.integer?, digitLiteral_natural]
      simp [digitLiteral]

/-- The text of an integer is made of signs of words. -/
theorem integer_signs (number : Int) :
    ∀ sign ∈ (toString number).toList, isWordSign sign = true := by
  have digits (size : Nat) : ∀ sign ∈ Nat.toDigits 10 size, isWordSign sign = true := by
    intro sign member
    have isDigit := decimal_digits size sign member
    simp [isWordSign, Char.isAlphanum, isDigit]
  rcases Int.lt_or_le number 0 with below | above
  · obtain ⟨size, rfl⟩ := Int.exists_eq_neg_ofNat (Int.le_of_lt below)
    have written : (toString (-(size : Int))).toList = _ := text_of_neg size (by omega)
    rw [written, List.forall_mem_cons]
    exact ⟨by decide, digits size⟩
  · obtain ⟨size, rfl⟩ := Int.eq_ofNat_of_zero_le above
    have written : (toString (size : Int)).toList = _ := text_of_nat size
    rw [written]
    exact digits size

/-- The text of an integer is a word that stands for it. -/
theorem wordValue_integer (number : Int) :
    wordValue? (toString number).toList = some (.int number) := by
  obtain ⟨numeral, isLiteral, isNumber⟩ := integer_literal number
  have named (name : List Char) (isNamed : Numeral.parse? name = none) :
      (toString number).toList ≠ name := by
    rintro rfl
    rw [isLiteral] at isNamed
    exact nomatch isNamed
  simp only [wordValue?, if_neg (named "null".toList (by decide)),
    if_neg (named "true".toList (by decide)), if_neg (named "false".toList (by decide)), isLiteral,
    Option.map_some, isNumber]

end

/-! ## Strings -/

namespace Scanner

variable {tokens : List Token} {rest : List Char}

/-- A hexadecimal digit is read as it is written, which escapes
of control characters need. -/
theorem hexDigit_written : ∀ digit < 16,
    hexDigit? ("0123456789abcdef".toList.getD digit '0') = some digit := by
  decide

/-- The four digits of a unit are read as the unit, and the string
goes on behind them. -/
theorem scan_unit (draft : Draft) (unit : Nat) (bounded : unit < 65536) :
    scan? ⟨.inUnit draft 4 0, tokens⟩ (unitDigits unit ++ rest) =
      scan? ⟨.inText (draft.pushUnit unit), tokens⟩ rest := by
  have digit (part : Nat) := hexDigit_written (part % 16) (Nat.mod_lt part (by decide))
  have step (remaining number part : Nat) (more : 1 < remaining) (later : List Char) :
      scan? ⟨.inUnit draft remaining number, tokens⟩
          ("0123456789abcdef".toList.getD (part % 16) '0' :: later) =
        scan? ⟨.inUnit draft (remaining - 1) (number * 16 + part % 16), tokens⟩ later := by
    apply scan_step
    simp only [step?, digit part, Option.map_some, if_neg (Nat.not_le.mpr more)]
  have last (number part : Nat) :
      scan? ⟨.inUnit draft 1 number, tokens⟩
          ("0123456789abcdef".toList.getD (part % 16) '0' :: rest) =
        scan? ⟨.inText (draft.pushUnit (number * 16 + part % 16)), tokens⟩ rest := by
    apply scan_step
    simp only [step?, digit part, Option.map_some, Nat.le_refl, if_true]
  have whole : (((0 * 16 + unit / 4096 % 16) * 16 + unit / 256 % 16) * 16 + unit / 16 % 16) * 16 +
      unit % 16 = unit := by omega
  simp only [unitDigits, List.map_cons, List.map_nil, List.cons_append, List.nil_append]
  rw [step 4 0 _ (by decide), step 3 _ _ (by decide), step 2 _ _ (by decide), last, whole]

/-- A sign of a string is scanned as that sign, whether it is written as it is, by a
letter or by its code. -/
theorem scan_sign (sign : Char) (read : List Char) :
    scan? ⟨.inText ⟨some read, none⟩, tokens⟩ (writeSign sign ++ rest) =
      scan? ⟨.inText ⟨some (sign :: read), none⟩, tokens⟩ rest := by
  unfold writeSign
  split
  · rfl
  · rfl
  · rfl
  · rfl
  · rfl
  · rfl
  · rfl
  · rename_i notQuote notEscape _ _ _ _ _
    by_cases control : sign.toNat < 0x20
    · rw [if_pos control, List.cons_append, List.cons_append]
      have pushed : Draft.pushUnit ⟨some read, none⟩ sign.toNat = ⟨some (sign :: read), none⟩ := by
        have notHigh : ¬ (0xD800 ≤ sign.toNat ∧ sign.toNat < 0xDC00) := by omega
        have notLow : ¬ (0xDC00 ≤ sign.toNat ∧ sign.toNat < 0xE000) := by omega
        simp [Draft.pushUnit, if_neg notHigh, if_neg notLow]
      rw [scan_step _ rfl, scan_step _ rfl, scan_unit _ _ (by omega), pushed]
    · rw [if_neg control, List.singleton_append]
      apply scan_step
      simp only [step?, if_neg notQuote, if_neg notEscape, if_neg control]
      rfl

/-- The signs of a string are collected, each as it was before it was escaped. -/
theorem scan_signs (signs read : List Char) :
    scan? ⟨.inText ⟨some read, none⟩, tokens⟩ (signs.flatMap writeSign ++ rest) =
      scan? ⟨.inText ⟨some (signs.reverse ++ read), none⟩, tokens⟩ rest := by
  induction signs generalizing read with
  | nil => rfl
  | cons sign signs ih =>
    rw [List.flatMap_cons, List.append_assoc, scan_sign, ih]
    simp

/-- A string is scanned as the string, whatever follows, since the quote
behind it ends it. -/
theorem scan_text (value : String) :
    scan? ⟨.between, tokens⟩ (writeText value ++ rest) =
      scan? ⟨.between, .text (some value) :: tokens⟩ rest := by
  have opened : step? ⟨.between, tokens⟩ '"' = some ⟨.inText .empty, tokens⟩ := rfl
  have closed : step? ⟨.inText ⟨some (value.toList.reverse ++ []), none⟩, tokens⟩ '"' =
      some ⟨.between, .text (some value) :: tokens⟩ := by
    simp [step?, Draft.finish]
  rw [writeText, List.cons_append, List.cons_append, List.append_assoc, scan_step _ opened,
    Draft.empty, scan_signs, List.singleton_append, scan_step _ closed]

end Scanner

/-! ## Whole values -/

section

open Scanner

mutual

/-- A value is scanned as its tokens, by induction on the value together with its
items and its members. -/
theorem scan_write : (json : Json) → Plain json → (found : List Token) → (rest : List Char) →
    Delimited rest →
    scan? ⟨.between, found⟩ (write json ++ rest) =
      scan? ⟨.between, (tokens json).reverse ++ found⟩ rest
  | .null, _, _, _, delimited => scan_word rfl (by decide) (List.all_eq_true.mp rfl) delimited
  | .bool true, _, _, _, delimited => scan_word rfl (by decide) (List.all_eq_true.mp rfl) delimited
  | .bool false, _, _, _, delimited => scan_word rfl (by decide) (List.all_eq_true.mp rfl) delimited
  | .int value, _, _, _, delimited => by
    have nonempty : (toString value).toList ≠ [] := by
      intro empty
      have isValue := wordValue_integer value
      rw [empty] at isValue
      exact nomatch isValue
    exact scan_word (wordValue_integer value) nonempty (integer_signs value) delimited
  | .str value, _, found, rest, _ => scan_text value
  | .arr items, plain, found, rest, _ => by
    have opened : step? ⟨.between, found⟩ '[' = some ⟨.between, .openList :: found⟩ := rfl
    have inside := scan_writeItems items plain (.openList :: found) (']' :: rest) rfl
    have closed (later : List Token) :
        step? ⟨.between, later⟩ ']' = some ⟨.between, .closeList :: later⟩ := rfl
    rw [write, List.cons_append, List.cons_append, List.append_assoc, List.singleton_append,
      scan_step _ opened, inside, scan_step _ (closed _)]
    simp [tokens]
  | .obj members, plain, found, rest, _ => by
    have opened : step? ⟨.between, found⟩ '{' = some ⟨.between, .openMembers :: found⟩ := rfl
    have inside := scan_writeMembers members plain (.openMembers :: found) ('}' :: rest) rfl
    have closed (later : List Token) :
        step? ⟨.between, later⟩ '}' = some ⟨.between, .closeMembers :: later⟩ := rfl
    rw [write, List.cons_append, List.cons_append, List.append_assoc, List.singleton_append,
      scan_step _ opened, inside, scan_step _ (closed _)]
    simp [tokens]

/-- Items are scanned as their tokens, with commas between them. -/
theorem scan_writeItems : (items : List Json) → PlainItems items → (found : List Token) →
    (rest : List Char) → Delimited rest →
    scan? ⟨.between, found⟩ (writeItems items ++ rest) =
      scan? ⟨.between, (itemTokens items).reverse ++ found⟩ rest
  | [], _, _, _, _ => rfl
  | [last], plain, found, rest, delimited => scan_write last plain.1 found rest delimited
  | item :: second :: more, plain, found, rest, delimited => by
    have comma (later : List Token) :
        step? ⟨.between, later⟩ ',' = some ⟨.between, .comma :: later⟩ := rfl
    have written : writeItems (item :: second :: more) ++ rest =
        write item ++ ',' :: (writeItems (second :: more) ++ rest) := List.append_assoc _ _ _
    have goesOn : Delimited (',' :: (writeItems (second :: more) ++ rest)) := rfl
    rw [written, scan_write item plain.1 found _ goesOn, scan_step _ (comma _),
      scan_writeItems (second :: more) plain.2 _ rest delimited]
    simp [itemTokens]

/-- Members are scanned as their tokens, with colons behind the names
and commas between members. -/
theorem scan_writeMembers : (members : List (String × Json)) → PlainMembers members →
    (found : List Token) → (rest : List Char) → Delimited rest →
    scan? ⟨.between, found⟩ (writeMembers members ++ rest) =
      scan? ⟨.between, (memberTokens members).reverse ++ found⟩ rest
  | [], _, _, _, _ => rfl
  | [(name, last)], plain, found, rest, delimited => by
    have colon (later : List Token) :
        step? ⟨.between, later⟩ ':' = some ⟨.between, .colon :: later⟩ := rfl
    rw [writeMembers, List.append_assoc, List.cons_append, scan_text, scan_step _ (colon _),
      scan_write last plain.1 _ rest delimited]
    simp [memberTokens]
  | (name, value) :: second :: more, plain, found, rest, delimited => by
    have colon (later : List Token) :
        step? ⟨.between, later⟩ ':' = some ⟨.between, .colon :: later⟩ := rfl
    have comma (later : List Token) :
        step? ⟨.between, later⟩ ',' = some ⟨.between, .comma :: later⟩ := rfl
    have written : writeMembers ((name, value) :: second :: more) ++ rest =
        writeText name ++ ':' ::
          (write value ++ ',' :: (writeMembers (second :: more) ++ rest)) := by
      simp [writeMembers]
    have goesOn : Delimited (',' :: (writeMembers (second :: more) ++ rest)) := rfl
    rw [written, scan_text, scan_step _ (colon _), scan_write value plain.1 _ _ goesOn,
      scan_step _ (comma _), scan_writeMembers (second :: more) plain.2 _ rest delimited]
    simp [memberTokens]

end

/-- The text of a value falls into its tokens, all of them and nothing else. -/
theorem tokens_write (json : Json) (plain : Plain json) :
    tokens? (write json) = some (tokens json) := by
  have scanned := scan_write json plain [] [] trivial
  rw [List.append_nil, List.append_nil, scan_nil] at scanned
  rw [tokens?]
  refine scanned.trans ?_
  simp [finish?]

end

end FilecoinRosetta.Json
