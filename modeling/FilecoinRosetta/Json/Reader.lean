import FilecoinRosetta.Json.Token

/-!
# Reading JSON texts

One pass over the tokens of a text builds its value. The containers that are still
open are kept on a stack, so that a text of any nesting is read.
-/

namespace FilecoinRosetta.Json

/-- A container that is still open. -/
inductive Frame where
  /-- A list with its items so far, last first. -/
  | list (items : List Json)
  /-- Members so far, last first, and the name of the next; nothing once
  a name is unreadable. -/
  | members (found : Option (List (String × Json))) (name : Option String)

/-- What may come next. -/
inductive Expect where
  | value
  /-- A value, or the end of an empty list. -/
  | valueOrEnd
  /-- The name of a member. -/
  | name
  /-- The name of a member, or the end of no members. -/
  | nameOrEnd
  /-- The colon behind a name. -/
  | colon
  /-- A comma or the end of the container. -/
  | commaOrEnd
  /-- Nothing more. -/
  | done (result : Json)

/-- A reading under way: what is open, innermost first, and what may come next. -/
structure Reading where
  /-- The open containers, innermost first. -/
  frames : List Frame
  /-- What may come next. -/
  expect : Expect

namespace Reading

/-- Put a finished value into the innermost open container. -/
def place (frames : List Frame) (value : Json) : Reading :=
  match frames with
  | [] => ⟨[], .done value⟩
  | .list items :: outer => ⟨.list (value :: items) :: outer, .commaOrEnd⟩
  | .members found name :: outer =>
      let found := match found, name with
        | some earlier, some name => some ((name, value) :: earlier)
        | _, _ => none
      ⟨.members found none :: outer, .commaOrEnd⟩

/-- Close the innermost container as a list. -/
def closeList? : List Frame → Option Reading
  | .list items :: outer => some (place outer (.arr items.reverse))
  | _ => none

/-- Close the innermost container as members. -/
def closeMembers? : List Frame → Option Reading
  | .members (some found) _ :: outer => some (place outer (.obj found.reverse))
  | .members none _ :: outer => some (place outer .unreadable)
  | _ => none

/-- Name the next member of the innermost container. -/
def nameMember? (name : Option String) : List Frame → Option Reading
  | .members found _ :: outer =>
      let found := if name.isSome then found else none
      some ⟨.members found name :: outer, .colon⟩
  | _ => none

/-- Begin a value. -/
def beginValue? (frames : List Frame) : Token → Option Reading
  | .word value => some (place frames value)
  | .text (some value) => some (place frames (.str value))
  | .text none => some (place frames .unreadable)
  | .openList => some ⟨.list [] :: frames, .valueOrEnd⟩
  | .openMembers => some ⟨.members (some []) none :: frames, .nameOrEnd⟩
  | _ => none

/-- Take a comma in the innermost container. -/
def afterComma? : List Frame → Option Reading
  | .list items :: outer => some ⟨.list items :: outer, .value⟩
  | .members found name :: outer => some ⟨.members found name :: outer, .name⟩
  | [] => none

/-- Look at one token. -/
def step? (reading : Reading) (token : Token) : Option Reading :=
  match reading.expect, token with
  | .value, token => beginValue? reading.frames token
  | .valueOrEnd, .closeList => closeList? reading.frames
  | .valueOrEnd, token => beginValue? reading.frames token
  | .name, .text name => nameMember? name reading.frames
  | .nameOrEnd, .text name => nameMember? name reading.frames
  | .nameOrEnd, .closeMembers => closeMembers? reading.frames
  | .colon, .colon => some ⟨reading.frames, .value⟩
  | .commaOrEnd, .comma => afterComma? reading.frames
  | .commaOrEnd, .closeList => closeList? reading.frames
  | .commaOrEnd, .closeMembers => closeMembers? reading.frames
  | _, _ => none

/-- The value of a finished reading. -/
def result? (reading : Reading) : Option Json :=
  match reading.expect with
  | .done value => some value
  | _ => none

end Reading

/-- The value that tokens make up, unless they are out of order. -/
def ofTokens? (tokens : List Token) : Option Json :=
  (tokens.foldlM Reading.step? ⟨[], .value⟩).bind Reading.result?

/-- The value of a text, unless it is malformed. -/
def parse? (text : String) : Option Json :=
  (tokens? text.toList).bind ofTokens?

/-- The value of what should be a text in UTF-8, unless it is malformed. -/
def parseBytes? (bytes : Bytes) : Option Json :=
  (byteTokens? bytes).bind ofTokens?

end FilecoinRosetta.Json
