import FilecoinRosetta.Internet.Ipv6
import FilecoinRosetta.Proofs.Internet.Ipv4
import Mathlib.Data.List.TakeWhile
import Mathlib.Tactic.SplitIfs

/-!
# IPv6 addresses read back

Whatever is read has eight groups of sixteen bits, and every such address is read
back from its text. The zeros that are left out are counted again when the text is
read: two colons stand for as many groups as the others leave.
-/

namespace FilecoinRosetta.Internet.Ipv6

open Text Text.Integer

/-- An address that can be: eight groups of sixteen bits. -/
structure Real (address : Ipv6) : Prop where
  eight : address.groups.length = 8
  bounded : ∀ group ∈ address.groups, group < 65536

/-! ## Digits -/

/-- A digit is read as it is written, in lower case. -/
theorem hexDigit_written : ∀ digit < 16, hexDigit? (Nat.digitChar digit) = some digit := by
  decide

/-- The digits of a number are read as the number. -/
theorem hexNumber_digits (number : Nat) : hexNumber? (Nat.toDigits 16 number) = some number := by
  have values : ∃ digits, (Nat.toDigits 16 number).mapM hexDigit? = some digits ∧
      digits.foldl (fun number digit => number * 16 + digit) 0 = number := by
    induction number using Nat.strongRecOn with
    | ind number ih =>
      by_cases single : number < 16
      · refine ⟨[number], ?_, Nat.zero_add number⟩
        rw [Nat.toDigits_of_lt_base single, List.mapM_cons, hexDigit_written number single]
        rfl
      · obtain ⟨digits, read, higher⟩ := ih (number / 16) (by omega)
        refine ⟨digits ++ [number % 16], ?_, ?_⟩
        · rw [Nat.toDigits_of_base_le (by decide) (by omega), List.mapM_append, read,
            List.mapM_cons, hexDigit_written _ (Nat.mod_lt number (by decide))]
          rfl
        · rw [List.foldl_append, higher, List.foldl_cons, List.foldl_nil]
          omega
  obtain ⟨digits, read, value⟩ := values
  rw [hexNumber?, read]
  exact congrArg some value

/-- The digits of a number are digits, so none of them is a colon. -/
theorem digits_hex (number : Nat) (sign : Char) (member : sign ∈ Nat.toDigits 16 number) :
    (hexDigit? sign).isSome := by
  induction number using Nat.strongRecOn with
  | ind number ih =>
    have written (digit : Nat) (small : digit < 16) (same : sign = Nat.digitChar digit) :
        (hexDigit? sign).isSome := by
      rw [same, hexDigit_written digit small]
      rfl
    by_cases single : number < 16
    · rw [Nat.toDigits_of_lt_base single, List.mem_singleton] at member
      exact written number single member
    · rw [Nat.toDigits_of_base_le (by decide) (by omega), List.mem_append,
        List.mem_singleton] at member
      rcases member with higher | last
      · exact ih (number / 16) (by omega) higher
      · exact written _ (Nat.mod_lt number (by decide)) last

/-- A group is written in up to four digits and read as it is written. -/
theorem group_digits (group : Nat) (bounded : group < 65536) :
    group? (Nat.toDigits 16 group) = some group := by
  have short : (Nat.toDigits 16 group).length ≤ 4 :=
    (Nat.length_toDigits_le_iff (by decide) (by decide)).mpr bounded
  have nonempty : (Nat.toDigits 16 group).isEmpty = false :=
    List.isEmpty_eq_false_iff.mpr Nat.toDigits_ne_nil
  rw [group?, nonempty, if_neg (by simpa using short), hexNumber_digits]

/-! ## Groups -/

/-- Signs that separate no groups and end no address stand in none. -/
theorem digits_free {sign : Char} (other : hexDigit? sign = none) (number : Nat) :
    sign ∉ Nat.toDigits 16 number := by
  intro member
  have isDigit := digits_hex number sign member
  rw [other] at isDigit
  contradiction

/-- The signs of groups are their digits with colons between them. -/
theorem toList_groupsText (groups : List Nat) :
    (groupsText groups).toList = [':'].intercalate (groups.map (Nat.toDigits 16)) := by
  rw [groupsText, String.toList_intercalate, List.map_map]
  congr 2
  funext group
  exact String.toList_ofList

/-- Groups joined by colons hold digits and colons, and no other sign. -/
theorem groupsText_free {sign : Char} (other : hexDigit? sign = none) (notColon : sign ≠ ':')
    (groups : List Nat) : sign ∉ (groupsText groups).toList := by
  rw [toList_groupsText]
  induction groups with
  | nil => exact List.not_mem_nil
  | cons group rest ih =>
    have first := digits_free other group
    cases rest with
    | nil => simpa using first
    | cons second more =>
      rw [List.map_cons, List.map_cons, List.intercalate_cons_cons]
      simp only [List.mem_append, List.mem_singleton, not_or]
      exact ⟨⟨first, notColon⟩, ih⟩

/-- Groups are read one by one, each from its digits without leading zeros. -/
theorem groups_digits (groups : List Nat) (bounded : ∀ group ∈ groups, group < 65536) :
    groups? (groups.map (Nat.toDigits 16)) = some groups := by
  induction groups with
  | nil => rfl
  | cons group rest ih =>
    obtain ⟨small, restBounded⟩ := List.forall_mem_cons.mp bounded
    have read := group_digits group small
    cases rest with
    | nil =>
      have noPoint : (Nat.toDigits 16 group).contains '.' = false := by
        simpa using digits_free (by decide) group
      simp only [List.map_cons, List.map_nil, groups?, noPoint, read, Bool.false_eq_true, if_false,
        Option.map_some]
    | cons second more =>
      have later := ih restBounded
      rw [List.map_cons] at later
      simp only [List.map_cons, groups?, read, later, Option.bind_eq_bind, Option.bind_some]

/-- The text of groups is read as the groups, also if there are none. -/
theorem side_groupsText (groups : List Nat) (bounded : ∀ group ∈ groups, group < 65536) :
    side? (groupsText groups).toList = some groups := by
  rw [toList_groupsText]
  cases groups with
  | nil => rfl
  | cons first rest =>
    have free : ∀ part ∈ (first :: rest).map (Nat.toDigits 16), ':' ∉ part := by
      intro part member
      obtain ⟨group, -, rfl⟩ := List.mem_map.mp member
      exact digits_free (by decide) group
    have cut := segments_joined (List.map_eq_nil_iff.not.mpr (List.cons_ne_nil first rest)) free
    have nonempty :
        ([':'].intercalate ((first :: rest).map (Nat.toDigits 16))).isEmpty = false := by
      cases rest <;> simp [List.intercalate_cons_cons]
    rw [side?, nonempty, cut, groups_digits _ bounded]
    rfl

/-! ## Two colons -/

/-- A gap is looked for behind a sign that is no colon. -/
theorem splitGap_other {sign : Char} (notColon : sign ≠ ':') (rest : List Char) :
    splitGap (sign :: rest) = (splitGap rest).map fun (before, behind) =>
      (sign :: before, behind) := by
  rw [splitGap]
  intro _ isColon
  exact absurd isColon notColon

/-- A gap is looked for behind a colon that stands alone. -/
theorem splitGap_colon {sign : Char} (notColon : sign ≠ ':') (rest : List Char) :
    splitGap (':' :: sign :: rest) =
      (splitGap (sign :: rest)).map fun (before, behind) => (':' :: before, behind) := by
  rw [splitGap]
  intro _ _ same
  exact absurd (List.cons.inj same).1 notColon

/-- A gap is looked for behind a word without colons. -/
theorem splitGap_word (word rest : List Char) (free : ':' ∉ word) :
    splitGap (word ++ rest) = (splitGap rest).map fun (before, behind) =>
      (word ++ before, behind) := by
  induction word with
  | nil => simp
  | cons sign more ih =>
    obtain ⟨other, moreFree⟩ : ':' ≠ sign ∧ ':' ∉ more := by simpa using free
    rw [List.cons_append, splitGap_other (Ne.symm other), ih moreFree, Option.map_map]
    rfl

/-- The text of groups begins with a digit, so two colons in front of
it are a gap. -/
theorem groups_lead (group : Nat) (rest : List Nat) :
    ∃ sign later, [':'].intercalate ((group :: rest).map (Nat.toDigits 16)) = sign :: later ∧
      sign ≠ ':' := by
  cases written : Nat.toDigits 16 group with
  | nil => exact absurd written Nat.toDigits_ne_nil
  | cons sign digits =>
    have notColon : sign ≠ ':' := by
      rintro rfl
      exact digits_free (by decide) group (written ▸ List.mem_cons_self)
    cases rest with
    | nil => exact ⟨sign, digits, by simp [written], notColon⟩
    | cons second more =>
      exact ⟨sign, digits ++ [':'] ++ [':'].intercalate ((second :: more).map (Nat.toDigits 16)),
        by simp [List.intercalate_cons_cons, written], notColon⟩

/-- Groups joined by single colons hold no gap, so a gap is
found only behind them. -/
theorem splitGap_groups (groups : List Nat) (rest : List Char) :
    splitGap ((groupsText groups).toList ++ rest) =
      (splitGap rest).map fun (before, behind) =>
        ((groupsText groups).toList ++ before, behind) := by
  rw [toList_groupsText]
  induction groups with
  | nil => simp
  | cons group more ih =>
    have free : ':' ∉ Nat.toDigits 16 group := digits_free (by decide) group
    cases more with
    | nil => simpa using splitGap_word _ rest free
    | cons second others =>
      obtain ⟨sign, later, leads, notColon⟩ := groups_lead second others
      rw [leads] at ih
      rw [List.map_cons, List.map_cons, List.intercalate_cons_cons, ← List.map_cons, leads]
      simp only [List.append_assoc, List.cons_append, List.nil_append] at ih ⊢
      rw [splitGap_word _ _ free, splitGap_colon notColon, ih, Option.map_map, Option.map_map]
      rfl

/-! ## Runs of zeros -/

/-- The run at the beginning is one of zeros, so it can be left out and put back. -/
theorem zeroRun_zeros (groups : List Nat) :
    ∃ after, groups = List.replicate (zeroRun groups) 0 ++ after := by
  refine ⟨groups.dropWhile (· == 0), ?_⟩
  have zeros : groups.takeWhile (· == 0) = List.replicate (zeroRun groups) 0 := by
    apply List.eq_replicate_of_mem
    intro group member
    simpa using List.mem_takeWhile_imp member
  rw [← zeros, List.takeWhile_append_dropWhile]

/-- The run that is found is one of zeros, and stands where it is said to. -/
theorem longestZeroRun_zeros (position : Nat) (groups : List Nat) :
    ∃ before after, (longestZeroRun position groups).1 = position + before.length ∧
      groups = before ++ List.replicate (longestZeroRun position groups).2 0 ++ after := by
  induction groups generalizing position with
  | nil => exact ⟨[], [], rfl, rfl⟩
  | cons group rest ih =>
    simp only [longestZeroRun]
    split
    · obtain ⟨after, zeros⟩ := zeroRun_zeros (group :: rest)
      exact ⟨[], after, rfl, zeros⟩
    · obtain ⟨before, after, place, zeros⟩ := ih (position + 1)
      refine ⟨group :: before, after, ?_, ?_⟩
      · rw [place, List.length_cons]
        omega
      · conv_lhs => rw [zeros]
        rfl

/-! ## Whole addresses -/

/-- The text of an address is read as the address. Where it leaves out a run of
zeros, there is exactly one way to fill it in. -/
theorem parse_text (address : Ipv6) (real : address.Real) :
    parse? address.text.toList = some address := by
  obtain ⟨before, after, place, zeros⟩ := longestZeroRun_zeros 0 address.groups
  rw [text]
  generalize longestZeroRun 0 address.groups = run at place zeros
  obtain ⟨start, length⟩ := run
  dsimp only at place zeros
  rw [Nat.zero_add] at place
  subst place
  have bounded := real.bounded
  have eight := real.eight
  by_cases short : length < 2
  · -- Nothing is left out.
    have noGap : splitGap (groupsText address.groups).toList = none := by
      simpa [splitGap] using splitGap_groups address.groups []
    simp only [if_pos short]
    rw [parse?, noGap]
    simp only [side_groupsText _ bounded, Option.bind_eq_bind, Option.bind_some, if_pos eight]
  · simp only [if_neg short]
    have first : address.groups.take before.length = before := by
      rw [zeros, List.append_assoc, List.take_left]
    have last : address.groups.drop (before.length + length) = after := by
      have place : before.length + length = (before ++ List.replicate length 0).length := by simp
      rw [zeros, place, List.drop_left]
    have firstBounded : ∀ group ∈ before, group < 65536 := fun group member =>
      bounded group (zeros ▸ List.mem_append_left _ (List.mem_append_left _ member))
    have lastBounded : ∀ group ∈ after, group < 65536 := fun group member =>
      bounded group (zeros ▸ List.mem_append_right _ member)
    have gap : splitGap ((groupsText before).toList ++ "::".toList ++ (groupsText after).toList) =
        some ((groupsText before).toList, (groupsText after).toList) := by
      rw [List.append_assoc, splitGap_groups]
      simp [splitGap]
    have noPoint : (groupsText before).toList.contains '.' = false := by
      simpa using groupsText_free (by decide) (by decide) before
    have count : before.length + length + after.length = 8 := by
      rw [← eight, zeros]
      simp [Nat.add_assoc]
    have missing : 8 - (before.length + after.length) = length := by omega
    rw [first, last, parse?, String.toList_append, String.toList_append, gap]
    simp only [noPoint, side_groupsText _ firstBounded, side_groupsText _ lastBounded,
      Bool.false_eq_true, if_false, Option.bind_eq_bind, Option.bind_some]
    rw [if_pos (by omega), missing, ← zeros]

/-- An address that embeds another has a known beginning, and the other
one at its end. -/
theorem embedded_groups {address : Ipv6} {inner : Ipv4} (real : address.Real)
    (embeds : address.embedded? = some inner) :
    address.groups = List.replicate 5 0 ++
      [0xffff, inner.bits.toNat / 0x10000, inner.bits.toNat % 0x10000] := by
  have bounded := real.bounded
  rw [embedded?] at embeds
  split at embeds
  · rename_i high low groups
    rw [groups] at bounded ⊢
    have highBounded : high < 65536 := bounded high (by simp)
    have lowBounded : low < 65536 := bounded low (by simp)
    have bits : inner.bits.toNat = high * 0x10000 + low := by
      rw [← Option.some.inj embeds, UInt32.toNat_ofNat_of_lt']
      have size : UInt32.size = 4294967296 := rfl
      omega
    have higher : inner.bits.toNat / 0x10000 = high := by omega
    have lower : inner.bits.toNat % 0x10000 = low := by omega
    rw [higher, lower]
    rfl
  · contradiction

/-- Whatever form its text has, it is read as the address, also if its last groups
are written with points. -/
theorem parse_mixedText (address : Ipv6) (real : address.Real) :
    parse? address.mixedText.toList = some address := by
  rw [mixedText]
  split
  · rename_i inner embeds
    have groups := embedded_groups real embeds
    have noColon : ':' ∉ inner.text.toList := by
      intro isSign
      exact absurd (inner.text_signs ':' isSign) (by decide)
    have signs :
        ("::ffff:" ++ inner.text).toList =
          ':' :: ':' :: ("ffff".toList ++ ':' :: inner.text.toList) := by
      rw [String.toList_append]
      rfl
    have hasPoint : inner.text.toList.contains '.' = true := by simpa using inner.text_point
    have last : side? ("ffff".toList ++ ':' :: inner.text.toList) =
        some [0xffff, inner.bits.toNat / 0x10000, inner.bits.toNat % 0x10000] := by
      have nonempty : ("ffff".toList ++ ':' :: inner.text.toList).isEmpty = false := rfl
      have highest : group? "ffff".toList = some 0xffff := by decide
      rw [side?, nonempty, segments_append (by decide), segments_free noColon]
      simp only [Bool.false_eq_true, if_false, groups?, highest, hasPoint, if_true,
        inner.parse_text, Option.map_some, Option.bind_eq_bind, Option.bind_some]
    have first : side? [] = some [] := rfl
    rw [signs, parse?, splitGap]
    simp only [last, first, List.contains_nil, Bool.false_eq_true, if_false, Option.bind_eq_bind,
      Option.bind_some, List.length_nil, List.length_cons]
    rw [if_pos (by decide), List.nil_append, ← groups]
  · exact parse_text address real

/-- The signs of an address are digits, colons and points. -/
theorem mixedText_free (address : Ipv6) {sign : Char} (other : hexDigit? sign = none)
    (notColon : sign ≠ ':') (notPoint : sign ≠ '.') : sign ∉ address.mixedText.toList := by
  have gap : sign ∉ "::".toList := by simpa using notColon
  have notDigit : ¬ sign.isDigit := by
    intro isDigit
    have inRange : '0' ≤ sign ∧ sign ≤ '9' := by
      simpa [Char.isDigit, Char.le_def, UInt32.le_iff_toNat_le] using isDigit
    rw [hexDigit?, if_pos inRange] at other
    contradiction
  rw [mixedText]
  split
  · rename_i inner _
    have front : sign ∉ "::ffff:".toList := by
      intro member
      have known : sign = ':' ∨ sign = 'f' ∨ sign = ':' := by simpa using member
      rcases known with isColon | rfl | isColon
      · exact notColon isColon
      · contradiction
      · exact notColon isColon
    rw [String.toList_append, List.mem_append]
    rintro (isFront | isInner)
    · exact front isFront
    · rcases inner.text_signs sign isInner with isDigit | isPoint
      · exact notDigit isDigit
      · exact notPoint isPoint
  · rw [text]
    dsimp only
    split
    · exact groupsText_free other notColon _
    · simp only [String.toList_append, List.mem_append, not_or]
      exact ⟨⟨groupsText_free other notColon _, gap⟩, groupsText_free other notColon _⟩

/-! ## What is read -/

/-- A digit is below sixteen, whatever the case that it is written in. -/
theorem hexDigit_bounded {sign : Char} {digit : Nat} (read : hexDigit? sign = some digit) :
    digit < 16 := by
  have zero : '0'.toNat = 48 ∧ '9'.toNat = 57 := ⟨rfl, rfl⟩
  have lower : 'a'.toNat = 97 ∧ 'f'.toNat = 102 := ⟨rfl, rfl⟩
  have upper : 'A'.toNat = 65 ∧ 'F'.toNat = 70 := ⟨rfl, rfl⟩
  simp only [hexDigit?, Char.le_def, UInt32.le_iff_toNat_le, Char.toNat_val] at read
  split_ifs at read
  all_goals
    have value := Option.some.inj read
    omega

/-- Digits make a number below the power of their count. -/
theorem hexNumber_bounded {digits : List Char} {number : Nat}
    (read : hexNumber? digits = some number) :
    number < Nat.pow 16 digits.length := by
  have values : ∀ values start, digits.mapM hexDigit? = some values →
      values.foldl (fun number digit => number * 16 + digit) start <
        (start + 1) * Nat.pow 16 digits.length := by
    clear read
    induction digits with
    | nil =>
      rintro values start isValues
      obtain rfl := Option.some.inj isValues
      simp
    | cons sign rest ih =>
      intro values start isValues
      rw [List.mapM_cons] at isValues
      obtain ⟨digit, isDigit, more⟩ := Option.bind_eq_some_iff.mp isValues
      obtain ⟨later, isLater, whole⟩ := Option.bind_eq_some_iff.mp more
      obtain rfl := Option.some.inj whole
      have small := hexDigit_bounded isDigit
      calc (digit :: later).foldl (fun number digit => number * 16 + digit) start
          < (start * 16 + digit + 1) * Nat.pow 16 rest.length :=
            ih later (start * 16 + digit) isLater
        _ ≤ ((start + 1) * 16) * Nat.pow 16 rest.length := Nat.mul_le_mul_right _ (by omega)
        _ = (start + 1) * (Nat.pow 16 rest.length * 16) := by rw [Nat.mul_assoc, Nat.mul_comm 16]
  obtain ⟨digitValues, isValues, whole⟩ := Option.bind_eq_some_iff.mp read
  obtain rfl := Option.some.inj whole
  simpa using values digitValues 0 isValues

/-- Up to four digits make a number of sixteen bits. -/
theorem group_bounded {digits : List Char} {group : Nat} (read : group? digits = some group) :
    group < 65536 := by
  rw [group?] at read
  split_ifs at read with odd
  have short : digits.length ≤ 4 := by
    have notOdd := not_or.mp odd
    omega
  calc group < Nat.pow 16 digits.length := hexNumber_bounded read
    _ ≤ Nat.pow 16 4 := Nat.pow_le_pow_right (by decide) short

/-- Groups that are read have sixteen bits, as no more than
four digits are taken. -/
theorem groups_bounded {parts : List (List Char)} {groups : List Nat}
    (read : groups? parts = some groups) :
    ∀ group ∈ groups, group < 65536 := by
  fun_induction groups? parts generalizing groups with
  | case1 =>
    obtain rfl := Option.some.inj read
    simp
  | case2 last hasPoint =>
    obtain ⟨address, -, rfl⟩ := Option.map_eq_some_iff.mp read
    have bounded : address.bits.toNat < 4294967296 := address.bits.toNat_lt
    intro group member
    simp only [List.mem_cons, List.not_mem_nil, or_false] at member
    omega
  | case3 last =>
    obtain ⟨group, isGroup, rfl⟩ := Option.map_eq_some_iff.mp read
    simpa using group_bounded isGroup
  | case4 first rest notLast ih =>
    obtain ⟨group, isGroup, more⟩ := Option.bind_eq_some_iff.mp read
    obtain ⟨later, isLater, whole⟩ := Option.bind_eq_some_iff.mp more
    obtain rfl := Option.some.inj whole
    exact List.forall_mem_cons.mpr ⟨group_bounded isGroup, ih isLater⟩

/-- A side of a gap that is read has groups of sixteen bits. -/
theorem side_bounded {text : List Char} {groups : List Nat} (read : side? text = some groups) :
    ∀ group ∈ groups, group < 65536 := by
  rw [side?] at read
  split_ifs at read with empty
  · obtain rfl := Option.some.inj read
    simp
  · exact groups_bounded read

/-- An address that is read is real: it has eight groups, and each of them fits. -/
theorem parse_real {text : List Char} {address : Ipv6} (read : parse? text = some address) :
    address.Real := by
  rw [parse?] at read
  split at read
  · obtain ⟨groups, isGroups, whole⟩ := Option.bind_eq_some_iff.mp read
    split_ifs at whole with eight
    obtain rfl := Option.some.inj whole
    exact ⟨eight, side_bounded isGroups⟩
  · split_ifs at read with hasPoint
    obtain ⟨first, isFirst, more⟩ := Option.bind_eq_some_iff.mp read
    obtain ⟨last, isLast, whole⟩ := Option.bind_eq_some_iff.mp more
    dsimp only at whole
    split_ifs at whole with known
    obtain rfl := Option.some.inj whole
    constructor
    · simp only [List.length_append, List.length_replicate]
      omega
    · intro group member
      rcases List.mem_append.mp member with front | behind
      · rcases List.mem_append.mp front with isGroup | isZero
        · exact side_bounded isFirst group isGroup
        · obtain rfl := List.eq_of_mem_replicate isZero
          decide
      · exact side_bounded isLast group behind

end FilecoinRosetta.Internet.Ipv6
