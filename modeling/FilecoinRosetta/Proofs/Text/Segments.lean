import FilecoinRosetta.Text.Segments
import Mathlib.Data.List.Basic

/-!
# Joined texts cut again

Texts that hold no separator are what comes back when they are joined by separators
and cut there, and a text that was cut comes back when the segments are joined. What
reads each of them then reads them all.
-/

namespace FilecoinRosetta.Text

variable {separator : Char}

/-- A text without separators is a single segment, which is all of it. -/
theorem segments_free {text : List Char} (free : separator ∉ text) :
    segments separator text = [text] := by
  induction text with
  | nil => rfl
  | cons sign rest ih =>
    obtain ⟨other, restFree⟩ : separator ≠ sign ∧ separator ∉ rest := by simpa using free
    rw [segments, if_neg (Ne.symm other), ih restFree]

/-- What stands in front of the first separator is the first segment. -/
theorem segments_append {first : List Char} (free : separator ∉ first) (rest : List Char) :
    segments separator (first ++ separator :: rest) = first :: segments separator rest := by
  induction first with
  | nil => simp [segments]
  | cons sign more ih =>
    obtain ⟨other, moreFree⟩ : separator ≠ sign ∧ separator ∉ more := by simpa using free
    rw [List.cons_append, segments, if_neg (Ne.symm other), ih moreFree]

/-- Cutting undoes joining, if there is a part at least and none of
them holds a separator. -/
theorem segments_joined {parts : List (List Char)} (nonempty : parts ≠ [])
    (free : ∀ part ∈ parts, separator ∉ part) :
    segments separator ([separator].intercalate parts) = parts := by
  induction parts with
  | nil => exact absurd rfl nonempty
  | cons first rest ih =>
    obtain ⟨firstFree, restFree⟩ := List.forall_mem_cons.mp free
    cases rest with
    | nil => simpa using segments_free firstFree
    | cons second more =>
      rw [List.intercalate_cons_cons, List.append_assoc, List.singleton_append,
        segments_append firstFree, ih (List.cons_ne_nil second more) restFree]

/-- No segment holds a separator, so segments cannot be cut any further. -/
theorem segments_free_parts (text : List Char) :
    ∀ part ∈ segments separator text, separator ∉ part := by
  induction text with
  | nil => simp [segments]
  | cons sign rest ih =>
    by_cases isSeparator : sign = separator
    · rw [segments, if_pos isSeparator]
      exact List.forall_mem_cons.mpr ⟨List.not_mem_nil, ih⟩
    · rw [segments, if_neg isSeparator]
      split
      · simpa using Ne.symm isSeparator
      · rename_i first later cut
        rw [cut] at ih
        obtain ⟨firstFree, laterFree⟩ := List.forall_mem_cons.mp ih
        refine List.forall_mem_cons.mpr ⟨?_, laterFree⟩
        simpa using ⟨Ne.symm isSeparator, firstFree⟩

/-- Joining undoes cutting, so nothing of a text is lost. -/
theorem joined_segments (text : List Char) :
    [separator].intercalate (segments separator text) = text := by
  induction text with
  | nil => rfl
  | cons sign rest ih =>
    obtain ⟨first, later, cut⟩ := List.exists_cons_of_ne_nil (segments_ne_nil separator rest)
    rw [cut] at ih
    by_cases isSeparator : sign = separator
    · rw [segments, if_pos isSeparator, cut, List.intercalate_cons_cons, ih]
      simp [isSeparator]
    · rw [segments, if_neg isSeparator, cut]
      cases later with
      | nil => simpa using ih
      | cons second more =>
        rw [List.intercalate_cons_cons] at ih ⊢
        simpa using ih

/-- A text has some segments exactly if it is what they are joined to, and none of
them holds a separator. -/
theorem segments_eq_iff {text : List Char} {parts : List (List Char)} :
    segments separator text = parts ↔
      parts ≠ [] ∧ (∀ part ∈ parts, separator ∉ part) ∧ text = [separator].intercalate parts := by
  constructor
  · rintro rfl
    exact ⟨segments_ne_nil separator text, segments_free_parts text, (joined_segments text).symm⟩
  · rintro ⟨nonempty, free, rfl⟩
    exact segments_joined nonempty free

/-- What stands in front of the first separator, if what is put there holds none. -/
theorem takeWhile_separator {first : List Char} (free : separator ∉ first) (rest : List Char) :
    (first ++ separator :: rest).takeWhile (· != separator) = first := by
  have others : ∀ sign ∈ first, (sign != separator) = true := by
    intro sign member
    exact bne_iff_ne.mpr fun same => free (same ▸ member)
  rw [List.takeWhile_append_of_pos others]
  simp

/-- What stands behind it, the separator included, if what is put
in front holds none. -/
theorem dropWhile_separator {first : List Char} (free : separator ∉ first) (rest : List Char) :
    (first ++ separator :: rest).dropWhile (· != separator) = separator :: rest := by
  have others : ∀ sign ∈ first, (sign != separator) = true := by
    intro sign member
    exact bne_iff_ne.mpr fun same => free (same ▸ member)
  rw [List.dropWhile_append_of_pos others]
  simp

/-- Values whose texts are read back one by one are read back together. -/
theorem mapM_written {α β : Type} {write : α → β} {read : β → Option α} {values : List α}
    (reads : ∀ value ∈ values, read (write value) = some value) :
    (values.map write).mapM read = some values := by
  induction values with
  | nil => rfl
  | cons value rest ih =>
    obtain ⟨readsFirst, readsRest⟩ := List.forall_mem_cons.mp reads
    rw [List.map_cons, List.mapM_cons, readsFirst, ih readsRest]
    rfl

end FilecoinRosetta.Text
