import FilecoinRosetta.Toml.Text
import Mathlib.Tactic.IntervalCases
import Mathlib.Tactic.SplitIfs

/-!
# Strings written and read back

A string is written in one of four forms, each of which is chosen only where it
shows the text as it is. Reading what was written gives the text, whatever follows,
as long as what follows does not go on with a quote or an apostrophe: those may
still belong to a text of several lines.
-/

namespace FilecoinRosetta.Toml

/-- A text that does not go on with a quote of either kind. -/
def Unquoted (rest : List Char) : Prop :=
  rest.head? ≠ some '"' ∧ rest.head? ≠ some '\''

/-! ## Escapes -/

/-- A hexadecimal digit is read as it is written, in upper case. -/
theorem hexDigit_code : ∀ digit < 16,
    Internet.Ipv6.hexDigit? ("0123456789ABCDEF".toList.getD digit '0') = some digit := by
  decide

/-- A control character is read from its four digits, the first two
of which are zeros. -/
theorem coded_digits {sign : Char} (small : sign.toNat < 128) :
    coded? (codeDigits sign) = some sign := by
  have digit (part : Nat) := hexDigit_code (part % 16) (Nat.mod_lt part (by decide))
  have whole : (((0 * 16 + sign.toNat / 4096 % 16) * 16 + sign.toNat / 256 % 16) * 16 +
      sign.toNat / 16 % 16) * 16 + sign.toNat % 16 = sign.toNat := by omega
  have low : sign.toNat < 0xD800 := by omega
  simp only [coded?, codeDigits, Internet.Ipv6.hexNumber?, List.map_cons, List.map_nil,
    List.mapM_cons, List.mapM_nil, digit, Option.bind_eq_bind, Option.bind_some, Option.pure_def,
    List.foldl_cons, List.foldl_nil, whole, if_pos (Or.inl low), Char.ofNat_toNat]

/-- Only few characters need an escape, all of them among the first 128. -/
theorem needsEscape_small {sign : Char} (needs : needsEscape sign = true) : sign.toNat < 128 := by
  simp only [needsEscape, isTextSign, Bool.and_eq_true, bne_iff_ne, Bool.not_eq_true',
    Bool.or_eq_false_iff, Bool.and_eq_false_iff, decide_eq_false_iff_not] at needs
  obtain ⟨-, -, control | delete⟩ := needs
  · omega
  · have code : sign.toNat = 0x7F := by simpa using delete
    omega

/-- A character that needs no escape may stand in a text, on a line of
its own at most. -/
theorem text_of_plain {sign : Char} (plain : needsEscape sign = false) :
    sign = '\n' ∨ isTextSign sign := by
  by_cases isTab : sign = '\t'
  · subst isTab
    exact .inr rfl
  · by_cases isEnd : sign = '\n'
    · exact .inl isEnd
    · simpa [needsEscape, isTab, isEnd] using plain

/-! ## One line between quotes -/

section

variable {rest : List Char}

/-- An escape by a letter is read as the sign that it stands for, in a
string on one line. -/
theorem readBasic_letter {letter sign : Char} (escape : escaped? letter = some sign) :
    readBasic ('\\' :: letter :: rest) = (readBasic rest).map (prepend sign) := by
  rw [readBasic]
  · rw [escape]
    rfl
  all_goals
    intros
    subst_vars
    contradiction

/-- An escape by a code is read as the sign of that code, in a
string on one line. -/
theorem readBasic_code {sign : Char} (small : sign.toNat < 128) :
    readBasic ('\\' :: 'u' :: codeDigits sign ++ rest) = (readBasic rest).map (prepend sign) := by
  have code := coded_digits small
  simp only [codeDigits, List.map_cons, List.map_nil, List.cons_append, List.nil_append] at code ⊢
  rw [readBasic, code]
  rfl

/-- A sign that means nothing else is read as it is. -/
theorem readBasic_plain {sign : Char} (noQuote : sign ≠ '"') (noEscape : sign ≠ '\\')
    (isText : isTextSign sign) :
    readBasic (sign :: rest) = (readBasic rest).map (prepend sign) := by
  rw [readBasic, if_pos isText]
  all_goals
    intros
    contradiction

/-- A sign is read as it is written in a string on one line, escaped or not. -/
theorem readBasic_sign {sign : Char} (noQuote : sign ≠ '"') :
    readBasic (escapeText false sign ++ rest) = (readBasic rest).map (prepend sign) := by
  unfold escapeText
  split
  · exact readBasic_letter rfl
  · exact readBasic_letter rfl
  · exact readBasic_letter rfl
  · exact readBasic_letter rfl
  · exact readBasic_letter rfl
  · exact readBasic_letter rfl
  · rename_i noEnd _ _ noEscape
    split_ifs with needs
    · exact readBasic_code (needsEscape_small needs)
    · exact readBasic_plain noQuote noEscape
        ((text_of_plain (eq_false_of_ne_true needs)).resolve_left noEnd)

/-- A text is read as it is written, and every quote in it is escaped. -/
theorem readBasic_text (signs : List Char) (run : Nat) :
    readBasic (escapeBasic false run signs ++ '"' :: rest) = some (signs, rest) := by
  fun_induction escapeBasic false run signs with
  | case1 => rfl
  | case2 run signs many ih =>
    rw [List.cons_append, List.cons_append, readBasic_letter rfl, ih]
    rfl
  | case3 run signs few => exact absurd (Nat.zero_le run) few
  | case4 run sign signs noQuote ih =>
    have notQuote : sign ≠ '"' := fun same => noQuote same
    rw [List.append_assoc, readBasic_sign notQuote, ih]
    rfl

/-! ## Several lines between quotes -/

/-- An escape by a letter is read as the sign that it stands for, in a
string over several lines. -/
theorem readBasicLines_letter {letter sign : Char} (escape : escaped? letter = some sign) :
    readBasicLines .none ('\\' :: letter :: rest) =
      (readBasicLines .none rest).map (prepend sign) := by
  rw [readBasicLines]
  · rw [escape]
    rfl
  all_goals
    intros
    subst_vars
    contradiction

/-- An escape by a code is read as the sign of that code, in a
string over several lines. -/
theorem readBasicLines_code {sign : Char} (small : sign.toNat < 128) :
    readBasicLines .none ('\\' :: 'u' :: codeDigits sign ++ rest) =
      (readBasicLines .none rest).map (prepend sign) := by
  have code := coded_digits small
  simp only [codeDigits, List.map_cons, List.map_nil, List.cons_append, List.nil_append] at code ⊢
  rw [readBasicLines, code]
  · rfl
  · intro isEnd
    contradiction

/-- A sign that means nothing else is read as it is. Fewer than three
quotes mean nothing else. -/
theorem readBasicLines_plain {sign : Char}
    (goesOn : ∀ more, sign :: rest ≠ '"' :: '"' :: '"' :: more)
    (noEscape : sign ≠ '\\') (noReturn : sign ≠ '\r') (isText : sign = '\n' ∨ isTextSign sign) :
    readBasicLines .none (sign :: rest) = (readBasicLines .none rest).map (prepend sign) := by
  rw [readBasicLines]
  · rw [if_neg (by simp), if_pos isText]
  all_goals
    intros
    subst_vars
    first | contradiction | exact goesOn _ rfl

/-- A sign is read as it is written in a string over several
lines, escaped or not. -/
theorem readBasicLines_sign {sign : Char} (noQuote : sign ≠ '"') :
    readBasicLines .none (escapeText true sign ++ rest) =
      (readBasicLines .none rest).map (prepend sign) := by
  have goesOn (other : Char) (notQuote : other ≠ '"') (later : List Char) :
      ∀ more, other :: later ≠ '"' :: '"' :: '"' :: more := by
    intro more same
    exact notQuote (List.cons.inj same).1
  unfold escapeText
  split
  · exact readBasicLines_letter rfl
  · exact readBasicLines_letter rfl
  · exact readBasicLines_plain (goesOn _ noQuote _) (by decide) (by decide) (.inl rfl)
  · exact readBasicLines_letter rfl
  · exact readBasicLines_letter rfl
  · exact readBasicLines_letter rfl
  · rename_i noReturn noEscape
    split_ifs with needs
    · exact readBasicLines_code (needsEscape_small needs)
    · exact readBasicLines_plain (goesOn _ noQuote _) noEscape noReturn
        (text_of_plain (eq_false_of_ne_true needs))

/-- Up to two quotes in front of another sign belong to the text. -/
theorem readBasicLines_quotes {run : Nat} (few : run ≤ 2) {sign : Char} (noQuote : sign ≠ '"') :
    readBasicLines .none (List.replicate run '"' ++ sign :: rest) =
      (readBasicLines .none (sign :: rest)).map fun (text, behind) =>
        (List.replicate run '"' ++ text, behind) := by
  have quote (later : List Char) (goesOn : ∀ more, later ≠ '"' :: '"' :: more) :
      readBasicLines .none ('"' :: later) = (readBasicLines .none later).map (prepend '"') := by
    apply readBasicLines_plain _ (by decide) (by decide) (.inr rfl)
    intro more same
    exact goesOn more (List.cons.inj same).2
  interval_cases run
  · simp
  · rw [List.replicate_one, List.singleton_append,
      quote _ fun more same => noQuote (List.cons.inj same).1]
    rfl
  · rw [List.replicate_succ, List.replicate_one, List.cons_append, List.singleton_append,
      quote _ fun more same => noQuote (List.cons.inj (List.cons.inj same).2).1,
      quote _ fun more same => noQuote (List.cons.inj same).1, Option.map_map]
    rfl

/-- The three quotes behind a text end it, and those directly in front of
them belong to it. -/
theorem readBasicLines_end {run : Nat} (few : run ≤ 2) (unquoted : Unquoted rest) :
    readBasicLines .none (List.replicate run '"' ++ '"' :: '"' :: '"' :: rest) =
      some (List.replicate run '"', rest) := by
  have goesOn : ∀ more, rest ≠ '"' :: more := by
    rintro more rfl
    exact unquoted.1 rfl
  interval_cases run
  · rw [List.replicate_zero, List.nil_append, readBasicLines]
    · rfl
    all_goals
      intros
      subst_vars
      first | contradiction | exact goesOn _ rfl
  · rw [List.replicate_one, List.singleton_append, readBasicLines]
    · rfl
    all_goals
      intros
      subst_vars
      first | contradiction | exact goesOn _ rfl
  · rfl

/-- A sign is written by an escape or as it is. The sign that goes
back is always escaped. -/
theorem escapeText_forms (lines : Bool) (sign : Char) :
    (∃ later, escapeText lines sign = '\\' :: later) ∨
      (escapeText lines sign = [sign] ∧ sign ≠ '\r') := by
  unfold escapeText
  split
  · exact .inl ⟨_, rfl⟩
  · exact .inl ⟨_, rfl⟩
  · split_ifs
    · exact .inr ⟨rfl, by decide⟩
    · exact .inl ⟨_, rfl⟩
  · exact .inl ⟨_, rfl⟩
  · exact .inl ⟨_, rfl⟩
  · exact .inl ⟨_, rfl⟩
  · rename_i noReturn _
    split_ifs
    · exact .inl ⟨_, rfl⟩
    · exact .inr ⟨rfl, noReturn⟩

/-- A sign is written with something else than a quote in front. -/
theorem escapeText_lead {sign : Char} (noQuote : sign ≠ '"') (lines : Bool) :
    ∃ first later, escapeText lines sign = first :: later ∧ first ≠ '"' := by
  rcases escapeText_forms lines sign with ⟨later, written⟩ | ⟨written, -⟩
  · exact ⟨_, later, written, by decide⟩
  · exact ⟨sign, [], written, noQuote⟩

/-- A text of several lines is read as it is written. The quotes that stand
    as they are count together with those that come next, and the third one
    in a row is escaped. -/
theorem readBasicLines_text (signs : List Char) (run : Nat) (few : run ≤ 2)
    (unquoted : Unquoted rest) :
    readBasicLines .none
      (List.replicate run '"' ++ escapeBasic true run signs ++ '"' :: '"' :: '"' :: rest) =
      some (List.replicate run '"' ++ signs, rest) := by
  induction signs generalizing run with
  | nil => simpa [escapeBasic] using readBasicLines_end few unquoted
  | cons sign signs ih =>
    by_cases isQuote : sign = '"'
    · subst isQuote
      rw [escapeBasic]
      simp only [if_true]
      split_ifs with many
      · have next := ih 0 (by decide)
        simp only [List.replicate_zero, List.nil_append] at next
        rw [List.append_assoc, List.cons_append, List.cons_append,
          readBasicLines_quotes few (by decide), readBasicLines_letter rfl, next]
        rfl
      · have more : List.replicate run '"' ++ '"' :: escapeBasic true (run + 1) signs =
            List.replicate (run + 1) '"' ++ escapeBasic true (run + 1) signs := by
          rw [List.replicate_succ', List.append_assoc, List.singleton_append]
        rw [more, ih (run + 1) (by omega), List.replicate_succ', List.append_assoc,
          List.singleton_append]
    · have next := ih 0 (by decide)
      simp only [List.replicate_zero, List.nil_append] at next
      obtain ⟨first, later, written, noQuote⟩ := escapeText_lead isQuote true
      have read : readBasicLines .none (escapeText true sign ++
          (escapeBasic true 0 signs ++ '"' :: '"' :: '"' :: rest)) =
            some (sign :: signs, rest) := by
        rw [readBasicLines_sign isQuote, next]
        rfl
      rw [written, List.cons_append] at read
      rw [escapeBasic, written]
      · simp only [List.append_assoc, List.cons_append]
        rw [readBasicLines_quotes few noQuote, read]
        rfl
      · exact isQuote

/-! ## Apostrophes -/

/-- A text of one line is read as it stands between apostrophes. -/
theorem readLiteral_text (signs : List Char)
    (isText : ∀ sign ∈ signs, sign ≠ '\'' ∧ isTextSign sign) :
    readLiteral (signs ++ '\'' :: rest) = some (signs, rest) := by
  induction signs with
  | nil => rfl
  | cons sign signs ih =>
    obtain ⟨⟨other, fits⟩, restFits⟩ := List.forall_mem_cons.mp isText
    rw [List.cons_append, readLiteral, if_pos fits, ih restFits]
    · rfl
    · exact other

/-- A sign that means nothing else is read as it is. Fewer than three
apostrophes mean nothing else. -/
theorem readLiteralLines_plain {sign : Char}
    (goesOn : ∀ more, sign :: rest ≠ '\'' :: '\'' :: '\'' :: more) (noReturn : sign ≠ '\r')
    (isText : sign = '\n' ∨ isTextSign sign) :
    readLiteralLines (sign :: rest) = (readLiteralLines rest).map (prepend sign) := by
  rw [readLiteralLines, if_pos isText]
  all_goals
    intros
    subst_vars
    first | contradiction | exact goesOn _ rfl

/-- Up to two apostrophes in front of another sign belong to the text. -/
theorem readLiteralLines_apostrophes {run : Nat} (few : run ≤ 2) {sign : Char}
    (other : sign ≠ '\'') :
    readLiteralLines (List.replicate run '\'' ++ sign :: rest) =
      (readLiteralLines (sign :: rest)).map fun (text, behind) =>
        (List.replicate run '\'' ++ text, behind) := by
  have apostrophe (later : List Char) (goesOn : ∀ more, later ≠ '\'' :: '\'' :: more) :
      readLiteralLines ('\'' :: later) = (readLiteralLines later).map (prepend '\'') := by
    apply readLiteralLines_plain _ (by decide) (.inr rfl)
    intro more same
    exact goesOn more (List.cons.inj same).2
  interval_cases run
  · simp
  · rw [List.replicate_one, List.singleton_append,
      apostrophe _ fun more same => other (List.cons.inj same).1]
    rfl
  · rw [List.replicate_succ, List.replicate_one, List.cons_append, List.singleton_append,
      apostrophe _ fun more same => other (List.cons.inj (List.cons.inj same).2).1,
      apostrophe _ fun more same => other (List.cons.inj same).1, Option.map_map]
    rfl

/-- The three apostrophes behind a text end it, and those directly in front of
them belong to it. -/
theorem readLiteralLines_end {run : Nat} (few : run ≤ 2) (unquoted : Unquoted rest) :
    readLiteralLines (List.replicate run '\'' ++ '\'' :: '\'' :: '\'' :: rest) =
      some (List.replicate run '\'', rest) := by
  have goesOn : ∀ more, rest ≠ '\'' :: more := by
    rintro more rfl
    exact unquoted.2 rfl
  interval_cases run
  · rw [List.replicate_zero, List.nil_append, readLiteralLines]
    all_goals
      intros
      subst_vars
      exact goesOn _ rfl
  · rw [List.replicate_one, List.singleton_append, readLiteralLines]
    intros
    subst_vars
    exact goesOn _ rfl
  · rfl

/-- A text with at most two apostrophes in a row is read as it stands between three.
-/
theorem readLiteralLines_text (signs : List Char) (run : Nat)
    (few : longestRun '\'' run signs ≤ 2)
    (isText : ∀ sign ∈ signs, sign ≠ '\r' ∧ (sign = '\n' ∨ isTextSign sign))
    (unquoted : Unquoted rest) :
    readLiteralLines (List.replicate run '\'' ++ signs ++ '\'' :: '\'' :: '\'' :: rest) =
      some (List.replicate run '\'' ++ signs, rest) := by
  induction signs generalizing run with
  | nil =>
    rw [longestRun] at few
    simpa using readLiteralLines_end few unquoted
  | cons sign signs ih =>
    obtain ⟨⟨noReturn, fits⟩, restFits⟩ := List.forall_mem_cons.mp isText
    rw [longestRun] at few
    split_ifs at few with isApostrophe
    · subst isApostrophe
      have more :
          List.replicate run '\'' ++ '\'' :: signs = List.replicate (run + 1) '\'' ++ signs := by
        rw [List.replicate_succ', List.append_assoc, List.singleton_append]
      rw [more]
      exact ih (run + 1) few restFits
    · have next := ih 0 (by omega) restFits
      simp only [List.replicate_zero, List.nil_append] at next
      rw [List.append_assoc, List.cons_append, readLiteralLines_apostrophes (by omega) isApostrophe,
        readLiteralLines_plain (fun more same => isApostrophe (List.cons.inj same).1) noReturn fits,
        next]
      rfl

end

/-! ## Strings of any form -/

/-- A run is as long as it was at its beginning, or longer. -/
theorem le_longestRun (sign : Char) (current : Nat) (text : List Char) :
    current ≤ longestRun sign current text := by
  induction text generalizing current with
  | nil => exact Nat.le_refl current
  | cons other rest ih =>
    rw [longestRun]
    split_ifs
    · exact Nat.le_of_succ_le (ih (current + 1))
    · exact Nat.le_max_left _ _

/-- A text without runs of a sign is one without the sign. -/
theorem not_mem_of_longestRun {sign : Char} {text : List Char}
    (noRun : longestRun sign 0 text = 0) :
    sign ∉ text := by
  induction text with
  | nil => exact List.not_mem_nil
  | cons other rest ih =>
    rw [longestRun] at noRun
    split_ifs at noRun with same
    · have atLeast := le_longestRun sign (0 + 1) rest
      omega
    · have restNoRun : longestRun sign 0 rest = 0 := by omega
      simpa using And.intro (Ne.symm same) (ih restNoRun)

/-- What is written between quotes on one line begins with none. -/
theorem escapeBasic_lead (signs : List Char) : (escapeBasic false 0 signs).head? ≠ some '"' := by
  cases signs with
  | nil => simp [escapeBasic]
  | cons sign signs =>
    by_cases isQuote : sign = '"'
    · subst isQuote
      simp [escapeBasic]
    · obtain ⟨first, later, written, noQuote⟩ := escapeText_lead isQuote false
      rw [escapeBasic, written]
      · simpa using noQuote
      · exact isQuote

/-- What is written between quotes begins with the end of a line only if
the text has one. -/
theorem escapeBasic_start {signs rest : List Char} (noEnd : '\n' ∉ signs) :
    ∀ first, (escapeBasic true 0 signs ++ '"' :: rest).head? = some first →
      first ≠ '\n' ∧ first ≠ '\r' := by
  cases signs with
  | nil => simp [escapeBasic]
  | cons sign signs =>
    by_cases isQuote : sign = '"'
    · subst isQuote
      simp [escapeBasic]
    · have other : sign ≠ '\n' := fun same => noEnd (same ▸ List.mem_cons_self)
      rw [escapeBasic]
      · rcases escapeText_forms true sign with ⟨later, written⟩ | ⟨written, noReturn⟩
        · simp [written]
        · simpa [written] using And.intro other noReturn
      · exact isQuote

/-- The end of a line in front of a text of several lines is dropped,
and nothing else is. -/
theorem dropLineEnd_start (signs body : List Char)
    (noEnd : '\n' ∉ signs → ∀ first, body.head? = some first → first ≠ '\n' ∧ first ≠ '\r') :
    dropLineEnd ((if signs.contains '\n' then ['\n'] else []) ++ body) = body := by
  split_ifs with hasEnd
  · rfl
  · have free : '\n' ∉ signs := by simpa using hasEnd
    rw [List.nil_append, dropLineEnd]
    · rintro later rfl
      exact (noEnd free '\n' rfl).1 rfl
    · rintro later rfl
      exact (noEnd free '\r' rfl).2 rfl

/-- A text between quotes on one line is read on one line. -/
theorem readText_quote {later : List Char} (single : ∀ more, later ≠ '"' :: '"' :: more) :
    readText? ('"' :: later) = readBasic later := by
  rw [readText?]
  · rfl
  · intro more same
    exact single more (List.cons.inj same).2
  · intro more same
    exact absurd (List.cons.inj same).1 (by decide)

/-- A text between apostrophes on one line is read on one line. -/
theorem readText_apostrophe {later : List Char} (single : ∀ more, later ≠ '\'' :: '\'' :: more) :
    readText? ('\'' :: later) = readLiteral later := by
  rw [readText?]
  · rfl
  · intro more same
    exact absurd (List.cons.inj same).1 (by decide)
  · intro more same
    exact single more (List.cons.inj same).2

/-- A form with apostrophes is chosen only where nothing needs an escape. -/
theorem formOf_literal {signs : List Char} (form : formOf signs = .literal) :
    (∀ sign ∈ signs, needsEscape sign = false) ∧ '\'' ∉ signs ∧ '\n' ∉ signs := by
  simp only [formOf, Bool.and_eq_true, Bool.not_eq_true', beq_iff_eq] at form
  split_ifs at form with _ literal
  obtain ⟨⟨noEscape, noRun⟩, noEnd⟩ := literal
  exact ⟨by simpa using noEscape, not_mem_of_longestRun noRun, by simpa using noEnd⟩

/-- A form with apostrophes is chosen only where nothing needs an escape. -/
theorem formOf_literalLines {signs : List Char} (form : formOf signs = .literalLines) :
    (∀ sign ∈ signs, needsEscape sign = false) ∧ longestRun '\'' 0 signs ≤ 2 := by
  simp only [formOf, Bool.and_eq_true, Bool.not_eq_true', decide_eq_true_eq] at form
  split_ifs at form with _ _ _ literal
  exact ⟨by simpa using literal.1, literal.2⟩

section

variable {signs rest : List Char}

/-- A text with escapes on one line is read back, since the quote behind it is the
first that is not escaped. -/
theorem readText_escaped (unquoted : Unquoted rest) :
    readText? ('"' :: (escapeBasic false 0 signs ++ '"' :: rest)) = some (signs, rest) := by
  have single : ∀ more, escapeBasic false 0 signs ++ '"' :: rest ≠ '"' :: '"' :: more := by
    intro more same
    have lead := escapeBasic_lead signs
    cases written : escapeBasic false 0 signs with
    | nil =>
      rw [written] at same
      exact unquoted.1 (congrArg List.head? (List.cons.inj same).2)
    | cons first later =>
      rw [written] at same lead
      exact lead (congrArg some (List.cons.inj same).1)
  rw [readText_quote single, readBasic_text]

/-- A text without escapes on one line is read back, since it holds no apostrophe.
-/
theorem readText_literal (form : formOf signs = .literal) (unquoted : Unquoted rest) :
    readText? ('\'' :: (signs ++ '\'' :: rest)) = some (signs, rest) := by
  obtain ⟨noEscape, noApostrophe, noEnd⟩ := formOf_literal form
  have fits : ∀ sign ∈ signs, sign ≠ '\'' ∧ isTextSign sign := by
    intro sign member
    have other : sign ≠ '\n' := fun same => noEnd (same ▸ member)
    exact ⟨fun same => noApostrophe (same ▸ member),
      (text_of_plain (noEscape sign member)).resolve_left other⟩
  have single : ∀ more, signs ++ '\'' :: rest ≠ '\'' :: '\'' :: more := by
    intro more same
    cases signs with
    | nil => exact unquoted.2 (congrArg List.head? (List.cons.inj same).2)
    | cons first later => exact noApostrophe ((List.cons.inj same).1 ▸ List.mem_cons_self)
  rw [readText_apostrophe single, readLiteral_text signs fits]

/-- A text with escapes on several lines is read back, since no three quotes stand
in it one behind the other. -/
theorem readText_escapedLines (unquoted : Unquoted rest) :
    readText? ('"' :: '"' :: '"' :: ((if signs.contains '\n' then ['\n'] else []) ++
      (escapeBasic true 0 signs ++ '"' :: '"' :: '"' :: rest))) = some (signs, rest) := by
  have body := readBasicLines_text signs 0 (by decide) unquoted
  have start := dropLineEnd_start signs (escapeBasic true 0 signs ++ '"' :: '"' :: '"' :: rest)
    fun noEnd => escapeBasic_start noEnd
  simp only [List.replicate_zero, List.nil_append] at body
  rw [readText?, start, body]

/-- A text without escapes on several lines is read back, since no three apostrophes
stand in it one behind the other. -/
theorem readText_literalLines (form : formOf signs = .literalLines) (unquoted : Unquoted rest) :
    readText? ('\'' :: '\'' :: '\'' :: ((if signs.contains '\n' then ['\n'] else []) ++
      (signs ++ '\'' :: '\'' :: '\'' :: rest))) = some (signs, rest) := by
  obtain ⟨noEscape, few⟩ := formOf_literalLines form
  have fits : ∀ sign ∈ signs, sign ≠ '\r' ∧ (sign = '\n' ∨ isTextSign sign) := by
    intro sign member
    have plain := noEscape sign member
    refine ⟨?_, text_of_plain plain⟩
    rintro rfl
    contradiction
  have body := readLiteralLines_text signs 0 few fits unquoted
  have start := dropLineEnd_start signs (signs ++ '\'' :: '\'' :: '\'' :: rest) <| by
    intro noEnd first isFirst
    cases signs with
    | nil =>
      obtain rfl := Option.some.inj isFirst
      decide
    | cons sign signs =>
      obtain rfl := Option.some.inj isFirst
      exact ⟨fun same => noEnd (same ▸ List.mem_cons_self), (fits sign List.mem_cons_self).1⟩
  simp only [List.replicate_zero, List.nil_append] at body
  rw [readText?, start, body]

end

/-- A string is read as it is written, whatever follows. Each of the four styles has
its own lemma above. -/
theorem readText_writeText (text : String) {rest : List Char} (unquoted : Unquoted rest) :
    readText? ((writeText text).toList ++ rest) = some (text.toList, rest) := by
  rw [writeText, String.toList_ofList]
  split
  · simpa using readText_escaped unquoted
  · rename_i form
    simpa using readText_literal form unquoted
  · simpa using readText_escapedLines unquoted
  · rename_i form
    simpa using readText_literalLines form unquoted

end FilecoinRosetta.Toml
