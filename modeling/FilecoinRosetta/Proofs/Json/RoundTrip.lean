import FilecoinRosetta.Json.Reader
import FilecoinRosetta.Proofs.Json.Scanning

/-!
# Written values read back

The tokens of a value build that value, at any nesting and inside of any containers
that are still open. So the text of a value is read as the value.
-/

namespace FilecoinRosetta.Json

namespace Reading

/-- The reading after more tokens. -/
def follow? (reading : Reading) (tokens : List Token) : Option Reading :=
  tokens.foldlM step? reading

/-- A token that a reading takes leaves the rest of the tokens to the next one. -/
theorem follow_step {reading next : Reading} {token : Token} (rest : List Token)
    (step : reading.step? token = some next) :
    reading.follow? (token :: rest) = next.follow? rest := by
  rw [follow?, List.foldlM_cons, step]
  rfl

/-- Where a value may come. -/
def AtValue (expect : Expect) : Prop :=
  expect = .value ∨ expect = .valueOrEnd

/-- Where the name of a member may come. -/
def AtName (expect : Expect) : Prop :=
  expect = .name ∨ expect = .nameOrEnd

/-- A token that begins a value, or is all of it, does so wherever
a value may come. -/
theorem step_begin {expect : Expect} (atValue : AtValue expect) (frames : List Frame)
    {token : Token} (notEnd : token ≠ .closeList) :
    step? ⟨frames, expect⟩ token = beginValue? frames token := by
  rcases atValue with rfl | rfl
  · rfl
  · cases token with
    | closeList => exact absurd rfl notEnd
    | _ => rfl

/-- A name is taken wherever one may come, and a colon is expected behind it. -/
theorem step_name {expect : Expect} (atName : AtName expect) (found : Option (List (String × Json)))
    (before : Option String) (outer : List Frame) (name : String) :
    step? ⟨.members found before :: outer, expect⟩ (.text (some name)) =
      some ⟨.members found (some name) :: outer, .colon⟩ := by
  rcases atName with rfl | rfl
  · rfl
  · rfl

end Reading

open Reading

mutual

/-- The tokens of a value put it into the innermost open container. -/
theorem follow_tokens : (json : Json) → Plain json → (frames : List Frame) → (expect : Expect) →
    AtValue expect → (rest : List Token) →
    follow? ⟨frames, expect⟩ (tokens json ++ rest) = follow? (place frames json) rest
  | .null, _, frames, _, atValue, _ => follow_step _ (step_begin atValue frames nofun)
  | .bool _, _, frames, _, atValue, _ => follow_step _ (step_begin atValue frames nofun)
  | .int _, _, frames, _, atValue, _ => follow_step _ (step_begin atValue frames nofun)
  | .str _, _, frames, _, atValue, _ => follow_step _ (step_begin atValue frames nofun)
  | .arr items, plain, frames, expect, atValue, rest => by
    have opened : step? ⟨frames, expect⟩ .openList = some ⟨.list [] :: frames, .valueOrEnd⟩ :=
      step_begin atValue frames nofun
    simp only [tokens, List.cons_append, List.append_assoc, List.nil_append]
    rw [follow_step _ opened]
    by_cases empty : items = []
    · subst empty
      exact follow_step rest rfl
    · have inside := follow_itemTokens items plain empty [] frames .valueOrEnd (.inr rfl)
        (.closeList :: rest)
      have closed : step? ⟨.list (items.reverse ++ []) :: frames, .commaOrEnd⟩ .closeList =
          some (place frames (.arr items)) := by
        simp [step?, closeList?]
      rw [inside, follow_step _ closed]
  | .obj members, plain, frames, expect, atValue, rest => by
    have opened : step? ⟨frames, expect⟩ .openMembers =
        some ⟨.members (some []) none :: frames, .nameOrEnd⟩ := step_begin atValue frames nofun
    simp only [tokens, List.cons_append, List.append_assoc, List.nil_append]
    rw [follow_step _ opened]
    by_cases empty : members = []
    · subst empty
      exact follow_step rest rfl
    · have inside := follow_memberTokens members plain empty [] none frames .nameOrEnd (.inr rfl)
        (.closeMembers :: rest)
      have closed : step? ⟨.members (some (members.reverse ++ [])) none :: frames, .commaOrEnd⟩
          .closeMembers = some (place frames (.obj members)) := by
        simp [step?, closeMembers?]
      rw [inside, follow_step _ closed]

/-- The tokens of items put them into an open list, behind those
that are there already. -/
theorem follow_itemTokens :
    (items : List Json) → PlainItems items → items ≠ [] → (done : List Json) →
    (outer : List Frame) → (expect : Expect) → AtValue expect → (rest : List Token) →
    follow? ⟨.list done :: outer, expect⟩ (itemTokens items ++ rest) =
      follow? ⟨.list (items.reverse ++ done) :: outer, .commaOrEnd⟩ rest
  | [], _, nonempty, _, _, _, _, _ => absurd rfl nonempty
  | [last], plain, _, done, outer, expect, atValue, rest =>
    follow_tokens last plain.1 (.list done :: outer) expect atValue rest
  | first :: second :: more, plain, _, done, outer, expect, atValue, rest => by
    have written : itemTokens (first :: second :: more) ++ rest =
        tokens first ++ .comma :: (itemTokens (second :: more) ++ rest) := List.append_assoc _ _ _
    have comma : step? (place (.list done :: outer) first) .comma =
        some ⟨.list (first :: done) :: outer, .value⟩ := rfl
    have later := follow_itemTokens (second :: more) plain.2 (List.cons_ne_nil second more)
      (first :: done) outer .value (.inl rfl) rest
    rw [written, follow_tokens first plain.1 (.list done :: outer) expect atValue,
      follow_step _ comma, later]
    simp

/-- The tokens of members put them into open members, behind those
that are there already. -/
theorem follow_memberTokens :
    (members : List (String × Json)) → PlainMembers members → members ≠ [] →
    (done : List (String × Json)) → (before : Option String) → (outer : List Frame) →
    (expect : Expect) → AtName expect → (rest : List Token) →
    follow? ⟨.members (some done) before :: outer, expect⟩ (memberTokens members ++ rest) =
      follow? ⟨.members (some (members.reverse ++ done)) none :: outer, .commaOrEnd⟩ rest
  | [], _, nonempty, _, _, _, _, _, _ => absurd rfl nonempty
  | [(name, last)], plain, _, done, before, outer, expect, atName, rest => by
    have named := step_name atName (some done) before outer name
    have colon : step? ⟨.members (some done) (some name) :: outer, .colon⟩ .colon =
        some ⟨.members (some done) (some name) :: outer, .value⟩ := rfl
    have value := follow_tokens last plain.1
        (.members (some done) (some name) :: outer) .value (.inl rfl)
      rest
    rw [memberTokens, List.cons_append, List.cons_append, follow_step _ named,
      follow_step _ colon, value]
    rfl
  | (name, first) :: second :: more, plain, _, done, before, outer, expect, atName, rest => by
    have written : memberTokens ((name, first) :: second :: more) ++ rest =
        .text (some name) :: .colon ::
          (tokens first ++ .comma :: (memberTokens (second :: more) ++ rest)) := by
      simp [memberTokens]
    have named := step_name atName (some done) before outer name
    have colon : step? ⟨.members (some done) (some name) :: outer, .colon⟩ .colon =
        some ⟨.members (some done) (some name) :: outer, .value⟩ := rfl
    have value := follow_tokens first plain.1
        (.members (some done) (some name) :: outer) .value (.inl rfl)
      (.comma :: (memberTokens (second :: more) ++ rest))
    have comma : step? (place (.members (some done) (some name) :: outer) first) .comma =
        some ⟨.members (some ((name, first) :: done)) none :: outer, .name⟩ := rfl
    have later := follow_memberTokens (second :: more) plain.2 (List.cons_ne_nil second more)
      ((name, first) :: done) none outer .name (.inl rfl) rest
    rw [written, follow_step _ named, follow_step _ colon, value, follow_step _ comma, later]
    simp

end

/-- The text of a value is read as that value. The proof goes by way of tokens: the
text is scanned as them, and they are followed to the value. -/
theorem parse_text (json : Json) (plain : Plain json) : parse? json.text = some json := by
  have followed := follow_tokens json plain [] .value (.inl rfl) []
  rw [List.append_nil] at followed
  have scanned := tokens_write json plain
  have signs : json.text.toList = write json := String.toList_ofList
  have read : (tokens json).foldlM step? ⟨[], .value⟩ = some ⟨[], .done json⟩ := followed
  simp [parse?, ofTokens?, signs, scanned, read, result?]

end FilecoinRosetta.Json
