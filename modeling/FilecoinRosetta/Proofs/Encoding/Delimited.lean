import FilecoinRosetta.Bytes

/-!
# Writing that shows where it ends

Values that are written one behind the other, with nothing in between, can be told
apart only if what is written of each shows where it ends. Then a list of them can
be told from any other list as well, however long both are. Where a value can be
written in more than one form, a reader that takes exactly these forms off the front
of what it is given shows the same of the forms.
-/

namespace FilecoinRosetta.Encoding

variable {α : Type} {write : α → Bytes}

/-- What is written of a value shows where it ends. Whatever may
follow, it is written of no other value, and no other value is written
in front of something else. -/
def Delimited (write : α → Bytes) : Prop :=
  ∀ ⦃value other rest more⦄, write value ++ rest = write other ++ more → value = other ∧ rest = more

namespace Delimited

/-- Different values are written differently, with nothing behind
them in particular. -/
theorem injective (delimited : Delimited write) {value other : α}
    (same : write value = write other) :
    value = other := by
  have followed : write value ++ [] = write other ++ [] := congrArg (· ++ []) same
  exact (delimited followed).1

/-- Lists of values that are written one behind the other can be told apart, if no
value is written as nothing. -/
theorem flatMap_injective (delimited : Delimited write) (written : ∀ value, write value ≠ [])
    {values others : List α} (same : values.flatMap write = others.flatMap write) :
    values = others := by
  induction values generalizing others with
  | nil =>
    cases others with
    | nil => rfl
    | cons other rest =>
      rw [List.flatMap_nil, List.flatMap_cons] at same
      exact absurd (List.append_eq_nil_iff.mp same.symm).1 (written other)
  | cons value rest ih =>
    cases others with
    | nil =>
      rw [List.flatMap_nil, List.flatMap_cons] at same
      exact absurd (List.append_eq_nil_iff.mp same).1 (written value)
    | cons other more =>
      rw [List.flatMap_cons, List.flatMap_cons] at same
      obtain ⟨rfl, later⟩ := delimited same
      rw [ih later]

end Delimited

/-- A reader takes exactly the forms of a value off the front of what it is given.
It takes every one of them whatever follows, and nothing else. -/
def Reads (form : Bytes → α → Prop) (read? : Bytes → Option (α × Bytes)) : Prop :=
  ∀ ⦃bytes value rest⦄, read? bytes = some (value, rest) ↔
    ∃ front, form front value ∧ bytes = front ++ rest

namespace Reads

variable {form : Bytes → α → Prop} {read? : Bytes → Option (α × Bytes)}

/-- What is in the form is read, and what stands behind it is left over untouched.
-/
theorem complete (reads : Reads form read?) {front : Bytes} {value : α}
    (isForm : form front value) (rest : Bytes) :
    read? (front ++ rest) = some (value, rest) :=
  reads.mpr ⟨front, isForm, rfl⟩

/-- Forms that are read show where they end: none begins another, and none
is of two values. -/
theorem ends (reads : Reads form read?) {front other rest more : Bytes} {value otherValue : α}
    (isForm : form front value) (otherForm : form other otherValue)
    (same : front ++ rest = other ++ more) :
    value = otherValue ∧ front = other ∧ rest = more := by
  have read := reads.complete isForm rest
  rw [same, reads.complete otherForm more] at read
  obtain ⟨rfl, rfl⟩ := Prod.mk.inj (Option.some.inj read)
  exact ⟨rfl, List.append_cancel_right same, rfl⟩

end Reads

end FilecoinRosetta.Encoding
