/-!
# Segments of a text

A text is cut at every occurrence of a separator; what stands between two
of them is one segment, which may be empty. There is always one segment
more than there are separators.
-/

namespace FilecoinRosetta.Text

/-- The segments between separators. -/
def segments (separator : Char) : List Char → List (List Char)
  | [] => [[]]
  | sign :: rest =>
      if sign = separator then [] :: segments separator rest
      else match segments separator rest with
        | [] => [[sign]]
        | first :: later => (sign :: first) :: later

/-- There is always a segment, if an empty one, so the first and
the last one exist. -/
theorem segments_ne_nil (separator : Char) (text : List Char) : segments separator text ≠ [] := by
  cases text with
  | nil => simp [segments]
  | cons sign rest =>
    unfold segments
    split
    · simp
    · split <;> simp

end FilecoinRosetta.Text
