import FilecoinRosetta.Text.Integer

/-!
# Decimal digits read back

What is written for a number is its canonical text, and every reader of decimal
digits takes it for that number: the strict one that addresses use, and the lenient
one that amounts are read by. The reader of words also takes other texts, with zeros
or a plus sign in front, and exactly those.
-/

namespace FilecoinRosetta.Text.Integer

/-- The value of a digit is its distance from zero. -/
theorem digit_exact (sign : Char) (isDigit : sign.isDigit = true) :
    digit? sign = some (sign.toNat - '0'.toNat) := by
  have inRange : '0' ≤ sign ∧ sign ≤ '9' := by
    simpa [Char.isDigit, Char.le_def, UInt32.le_iff_toNat_le] using isDigit
  simp only [digit?, inRange, and_self, if_true]

/-- Reading digits is evaluating them in base ten, on top of the number that
was read so far. -/
theorem digits_from_exact (number : Nat) (digits : List Char)
    (allDigits : ∀ sign ∈ digits, sign.isDigit = true) :
    digitsFrom number digits = some (Nat.ofDigitChars 10 digits number) := by
  induction digits generalizing number with
  | nil => rfl
  | cons sign rest ih =>
    have first : digit? sign = some (sign.toNat - '0'.toNat) :=
      digit_exact sign (allDigits sign List.mem_cons_self)
    have later := ih (number * 10 + (sign.toNat - '0'.toNat))
      (fun other member => allDigits other (List.mem_cons_of_mem sign member))
    simp only [digitsFrom, first, Option.bind_eq_bind, Option.bind_some, later,
      Nat.ofDigitChars_cons, Nat.mul_comm]

/-- A number is written with digits only, so no sign of its text is
taken for something else. -/
theorem decimal_digits (number : Nat) : ∀ sign ∈ Nat.toDigits 10 number, sign.isDigit = true :=
  fun _ member => Nat.isDigit_of_mem_toDigits (by decide) (by decide) member

/-- A number other than zero is written without leading zeros, so it
has one text only. -/
theorem decimal_leading (number : Nat) (positive : 0 < number) :
    ∃ first rest, Nat.toDigits 10 number = first :: rest ∧ first ≠ '0' := by
  induction number using Nat.strongRecOn with
  | ind number ih =>
    by_cases single : number < 10
    · refine ⟨number.digitChar, [], Nat.toDigits_of_lt_base single, ?_⟩
      intro isZero
      have value := Nat.toNat_digitChar_sub_48_of_lt_ten single
      rw [isZero] at value
      have none : 0 = number := value
      omega
    · obtain ⟨first, rest, higher, leads⟩ := ih (number / 10) (by omega) (by omega)
      refine ⟨first, rest ++ [Nat.digitChar (number % 10)], ?_, leads⟩
      rw [Nat.toDigits_of_base_le (by decide) (by omega), higher, List.cons_append]

/-- The strict reader takes the digits of a number for that number. -/
theorem natural_digits (number : Nat) : natural? (Nat.toDigits 10 number) = some number := by
  have value : digitsFrom 0 (Nat.toDigits 10 number) = some number := by
    rw [digits_from_exact 0 _ (decimal_digits number), Nat.ofDigitChars_ten_toDigits]
  cases written : Nat.toDigits 10 number with
  | nil => exact absurd written Nat.toDigits_ne_nil
  | cons first rest => simpa only [natural?, written] using value

/-- No sign stands in front of digits, so they are read as they are. -/
theorem unsigned_digits (number : Nat) : unsigned? (Nat.toDigits 10 number) = some number := by
  have value := natural_digits number
  cases written : Nat.toDigits 10 number with
  | nil => exact absurd written Nat.toDigits_ne_nil
  | cons first rest =>
    have notPlus : first ≠ '+' := by
      rintro rfl
      have isDigit := decimal_digits number '+' (written ▸ List.mem_cons_self)
      exact absurd isDigit (by decide)
    rw [written] at value
    unfold unsigned?
    split
    · rename_i rest' same
      exact absurd (List.cons.inj same).1 notPlus
    · exact value

/-- The lenient reader finds no underscores among the digits of a number. -/
theorem grouped_digits (number : Nat) : grouped? (Nat.toDigits 10 number) = some number := by
  have noGroup : ∀ sign ∈ Nat.toDigits 10 number, sign ≠ '_' := by
    rintro sign member rfl
    exact absurd (decimal_digits number '_' member) (by decide)
  have ungrouped : (Nat.toDigits 10 number).filter (· != '_') = Nat.toDigits 10 number := by
    apply List.filter_eq_self.mpr
    intro sign member
    exact bne_iff_ne.mpr (noGroup sign member)
  have value : digitsFrom 0 ((Nat.toDigits 10 number).filter (· != '_')) = some number := by
    rw [ungrouped, digits_from_exact 0 _ (decimal_digits number), Nat.ofDigitChars_ten_toDigits]
  cases written : Nat.toDigits 10 number with
  | nil => exact absurd written Nat.toDigits_ne_nil
  | cons first rest =>
    have leading : first ≠ '_' := noGroup first (written ▸ List.mem_cons_self)
    rw [written] at value
    unfold grouped?
    split
    · contradiction
    · rename_i same
      exact absurd (List.cons.inj same).1 leading
    · exact value

/-! ## Words -/

/-- A character is a digit for some units exactly if it is a decimal digit, so
many places behind zero. -/
theorem digit_some_iff {sign : Char} {units : Nat} :
    digit? sign = some units ↔ sign.isDigit = true ∧ sign.toNat - '0'.toNat = units := by
  have inRange : sign.isDigit = true ↔ '0' ≤ sign ∧ sign ≤ '9' := by
    simp [Char.isDigit, Char.le_def]
  unfold digit?
  split <;> simp_all

/-- Nothing but digits is read, and they are read as what they are worth. -/
theorem digitsFrom_some_iff {number value : Nat} {digits : List Char} :
    digitsFrom number digits = some value ↔
      (∀ sign ∈ digits, sign.isDigit = true) ∧ Nat.ofDigitChars 10 digits number = value := by
  constructor
  · intro read
    have allDigits : ∀ sign ∈ digits, sign.isDigit = true := by
      induction digits generalizing number with
      | nil => simp
      | cons sign rest ih =>
        obtain ⟨units, isDigit, later⟩ := Option.bind_eq_some_iff.mp read
        exact List.forall_mem_cons.mpr ⟨(digit_some_iff.mp isDigit).1, ih later⟩
    rw [digits_from_exact number digits allDigits] at read
    exact ⟨allDigits, Option.some.inj read⟩
  · rintro ⟨allDigits, rfl⟩
    exact digits_from_exact number digits allDigits

/-- Digits, at least one of them, that say a number. Zeros may lead. -/
structure Digits (text : List Char) (number : Nat) : Prop where
  nonempty : text ≠ []
  digits : ∀ sign ∈ text, sign.isDigit = true
  value : Nat.ofDigitChars 10 text 0 = number

/-- Digits that say a number, perhaps with one plus sign in front. -/
def WordText (text : List Char) (number : Nat) : Prop :=
  Digits text number ∨ ∃ digits, text = '+' :: digits ∧ Digits digits number

/-- A text is read as a natural number exactly if it consists of digits, one at
least, that stand for the number. -/
theorem natural_some_iff {text : List Char} {number : Nat} :
    natural? text = some number ↔ Digits text number := by
  cases text with
  | nil => exact ⟨(nomatch ·), fun digits => absurd rfl digits.nonempty⟩
  | cons sign rest =>
    rw [natural?, digitsFrom_some_iff]
    · exact ⟨fun ⟨digits, value⟩ => ⟨List.cons_ne_nil _ _, digits, value⟩,
        fun ⟨_, digits, value⟩ => ⟨digits, value⟩⟩
    · simp

/-- Numbers without a minus sign are read exactly from digits, with a plus sign
in front or not. -/
theorem unsigned_some_iff {text : List Char} {number : Nat} :
    unsigned? text = some number ↔ WordText text number := by
  unfold unsigned? WordText
  split
  · rename_i rest
    have noDigits : ¬ Digits ('+' :: rest) number := fun digits =>
      absurd (digits.digits '+' List.mem_cons_self) (by decide)
    simp [natural_some_iff, noDigits]
  · rename_i noSign
    have noPlus : ¬ ∃ digits, text = '+' :: digits ∧ Digits digits number := by
      rintro ⟨digits, rfl, -⟩
      exact noSign digits rfl
    simp [natural_some_iff, noPlus]

/-- A word is read from exactly the texts of a number that fits. -/
theorem uint32_some_iff {text : String} {number : UInt32} :
    uint32? text = some number ↔ WordText text.toList number.toNat := by
  unfold uint32? word?
  constructor
  · intro read
    obtain ⟨value, within, rfl⟩ := Option.map_eq_some_iff.mp read
    obtain ⟨isValue, fits⟩ := Option.filter_eq_some_iff.mp within
    rw [UInt32.toNat_ofNat_of_lt' (of_decide_eq_true fits)]
    exact unsigned_some_iff.mp isValue
  · intro numeral
    have fits : number.toNat < UInt32.size := number.toNat_lt
    simp [unsigned_some_iff.mpr numeral, Option.filter, fits]

/-! ## Integers -/

/-- Canonical decimal text of an integer: zero is a single digit, any other
    number starts with another digit, and a minus sign stands in front of nothing
    but such a number. -/
inductive Canonical : List Char → Prop where
  /-- Zero has no sign. -/
  | zero : Canonical ['0']
  /-- A positive number. -/
  | positive (first : Char) (rest : List Char) (leading : first ≠ '0')
      (digits : ∀ sign ∈ first :: rest, sign.isDigit = true) : Canonical (first :: rest)
  /-- A negative number. -/
  | negative (first : Char) (rest : List Char) (leading : first ≠ '0')
      (digits : ∀ sign ∈ first :: rest, sign.isDigit = true) : Canonical ('-' :: first :: rest)

/-- A number that is not negative is written by its digits. -/
theorem text_of_nat (number : Nat) : (text number).toList = Nat.toDigits 10 number := by
  simp only [text, Int.toString_eq_repr, Int.repr_eq_if, Int.natCast_nonneg, if_true,
    Int.toNat_natCast, Nat.toList_repr]

/-- A negative number is written by the digits of its size behind a sign. -/
theorem text_of_neg (number : Nat) (positive : 0 < number) :
    (text (-(number : Int))).toList = '-' :: Nat.toDigits 10 number := by
  have below : ¬ (0 : Int) ≤ -(number : Int) := by omega
  have size : (- -(number : Int)).toNat = number := by omega
  rw [text, Int.toString_eq_repr, Int.repr_eq_if, if_neg below, size, String.toList_append,
    Nat.toList_repr]
  rfl

/-- What is written is canonical: no plus sign, no zeros in front, and no
minus sign at zero. -/
theorem text_canonical (number : Int) : Canonical (text number).toList := by
  rcases Int.lt_trichotomy number 0 with below | rfl | above
  · obtain ⟨size, rfl⟩ := Int.exists_eq_neg_ofNat (Int.le_of_lt below)
    have positive : 0 < size := by omega
    obtain ⟨first, rest, written, leading⟩ := decimal_leading size positive
    rw [text_of_neg size positive, written]
    exact .negative first rest leading (written ▸ decimal_digits size)
  · exact .zero
  · obtain ⟨size, rfl⟩ := Int.eq_ofNat_of_zero_le (Int.le_of_lt above)
    obtain ⟨first, rest, written, leading⟩ := decimal_leading size (by omega)
    rw [text_of_nat, written]
    exact .positive first rest leading (written ▸ decimal_digits size)

/-- What is written reads back as the number, whatever its sign. -/
theorem integer_text (number : Int) : integer? (text number) = some number := by
  by_cases below : number < 0
  · obtain ⟨size, rfl⟩ := Int.exists_eq_neg_ofNat (Int.le_of_lt below)
    rw [integer?, text_of_neg size (by omega)]
    simp only [grouped_digits]
    rfl
  · obtain ⟨size, rfl⟩ := Int.eq_ofNat_of_zero_le (Int.not_lt.mp below)
    have value := grouped_digits size
    rw [integer?, text_of_nat]
    -- The first sign is a digit, so neither of the two signed readings applies.
    split
    · rename_i rest written
      exact absurd (decimal_digits size '-' (written ▸ List.mem_cons_self)) (by decide)
    · rename_i rest written
      exact absurd (decimal_digits size '+' (written ▸ List.mem_cons_self)) (by decide)
    · rw [value]
      rfl

end FilecoinRosetta.Text.Integer
