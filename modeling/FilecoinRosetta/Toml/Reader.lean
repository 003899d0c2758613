import FilecoinRosetta.Toml.Draft
import FilecoinRosetta.Toml.Scalar
import FilecoinRosetta.Toml.Text

/-!
# Reading TOML documents

A document is a sequence of lines, each a header, a key with its value, or nothing;
any may end in a comment. Values may span lines inside brackets and braces.
-/

namespace FilecoinRosetta.Toml

/-- Whether a sign is a blank within a line. -/
def isGap (sign : Char) : Bool :=
  sign == ' ' || sign == '\t'

/-- A text without blanks in front. -/
def dropGap (text : List Char) : List Char :=
  text.dropWhile isGap

/-- Whether a sign may stand in a key without quotes. -/
def isKeySign (sign : Char) : Bool :=
  sign.isAlphanum || sign == '_' || sign == '-'

/-- Read one part of a key. -/
def readKeyPart? (text : List Char) : Option (String × Rest) :=
  match readLine? text with
  | some (key, rest) => some (String.ofList key, rest)
  | none =>
      let key := text.takeWhile isKeySign
      if key.isEmpty then none else some (String.ofList key, text.dropWhile isKeySign)

/-- Read a key whose parts are separated by points. -/
def readKey? : (fuel : Nat) → List Char → Option (List String × Rest)
  | 0, _ => none
  | fuel + 1, text => do
      let (first, rest) ← readKeyPart? (dropGap text)
      match dropGap rest with
      | '.' :: more => do
          let (parts, behind) ← readKey? fuel more
          some (first :: parts, behind)
      | behind => some ([first], behind)

/-- A comment without its mark, up to the end of its line. -/
def dropComment? : List Char → Option Rest
  | [] => some []
  | '\n' :: rest => some ('\n' :: rest)
  | '\r' :: '\n' :: rest => some ('\r' :: '\n' :: rest)
  | sign :: rest => if isTextSign sign then dropComment? rest else none

/-- What stands behind the end of a line, which may have a comment in front. -/
def dropLine? (text : List Char) : Option Rest := do
  let rest ← match dropGap text with
    | '#' :: comment => dropComment? comment
    | rest => some rest
  match rest with
  | [] => some []
  | '\n' :: behind => some behind
  | '\r' :: '\n' :: behind => some behind
  | _ => none

/-- A text without blanks, comments and ends of lines in front. -/
def dropSpace? : (fuel : Nat) → List Char → Option Rest
  | 0, text => some text
  | fuel + 1, text =>
      match dropGap text with
      | '\n' :: rest => dropSpace? fuel rest
      | '\r' :: '\n' :: rest => dropSpace? fuel rest
      | '#' :: comment => (dropComment? comment).bind (dropSpace? fuel)
      | rest => some rest

mutual

/-- Read a value. The fuel bounds the number of parts that are read. -/
def readValue? : (fuel : Nat) → List Char → Option (Toml × Rest)
  | 0, _ => none
  | fuel + 1, text =>
      match text with
      | '[' :: rest => (readItems? fuel rest).map fun (items, behind) => (.arr items, behind)
      | '\x7b' :: rest =>
          (readMembers? fuel [] rest).map fun (members, behind) =>
            (.table (Draft.settleMembers members), behind)
      | '"' :: rest =>
          (readText? ('"' :: rest)).map fun (signs, behind) => (.str (String.ofList signs), behind)
      | '\'' :: rest =>
          (readText? ('\'' :: rest)).map fun (signs, behind) => (.str (String.ofList signs), behind)
      | text =>
          let (run, behind) := scalarRun text
          (scalar? run).map fun value => (value, behind)

/-- Read the items of a list, and the bracket behind them. -/
def readItems? : (fuel : Nat) → List Char → Option (List Toml × Rest)
  | 0, _ => none
  | fuel + 1, text => do
      let start ← dropSpace? text.length text
      match start with
      | ']' :: behind => some ([], behind)
      | start => do
          let (item, rest) ← readValue? fuel start
          match ← dropSpace? rest.length rest with
          | ',' :: more => do
              let (items, behind) ← readItems? fuel more
              some (item :: items, behind)
          | ']' :: behind => some ([item], behind)
          | _ => none

/-- Read the members of a table in braces, and the brace behind them. -/
def readMembers? : (fuel : Nat) → Draft.Members → List Char → Option (Draft.Members × Rest)
  | 0, _, _ => none
  | fuel + 1, members, text => do
      let start ← dropSpace? text.length text
      match start with
      | '\x7d' :: behind => some (members, behind)
      | start => do
          let (path, afterKey) ← readKey? start.length start
          match afterKey with
          | '=' :: rest => do
              let (value, afterValue) ← readValue? fuel (dropGap rest)
              let extended ← Draft.insert? path value members
              match ← dropSpace? afterValue.length afterValue with
              | ',' :: more => readMembers? fuel extended more
              | '\x7d' :: behind => some (extended, behind)
              | _ => none
          | _ => none

end

/-- A document while it is read. -/
structure Reading where
  /-- What was read so far. -/
  root : Draft.Members
  /-- The path of the table that keys go into. -/
  current : List String

/-- Read one line. -/
def readLineOf? (reading : Reading) (text : List Char) : Option (Reading × Rest) :=
  match dropGap text with
  | '[' :: '[' :: rest => do
      let (path, behind) ← readKey? rest.length rest
      match behind with
      | ']' :: ']' :: behind => do
          let root ← Draft.appendAt? path reading.root
          some (⟨root, path⟩, ← dropLine? behind)
      | _ => none
  | '[' :: rest => do
      let (path, behind) ← readKey? rest.length rest
      match behind with
      | ']' :: behind => do
          let root ← Draft.openAt? path reading.root
          some (⟨root, path⟩, ← dropLine? behind)
      | _ => none
  | text =>
      match dropLine? text with
      | some rest => some (reading, rest)
      | none => do
          let (path, behind) ← readKey? text.length text
          match behind with
          | '=' :: rest => do
              let (value, behind) ← readValue? (rest.length + 1) (dropGap rest)
              let root ← Draft.descend? (Draft.insert? path value) reading.current reading.root
              some ({ reading with root }, ← dropLine? behind)
          | _ => none

/-- Read all lines. The fuel bounds their number. -/
def readLines? : (fuel : Nat) → Reading → List Char → Option Draft.Members
  | _, reading, [] => some reading.root
  | 0, _, _ => none
  | fuel + 1, reading, text => do
      let (next, rest) ← readLineOf? reading text
      readLines? fuel next rest

/-- A text without the mark of the order of bytes in front. -/
def dropMark : List Char → List Char
  | '\uFEFF' :: rest => rest
  | text => text

/-- Read a document as the members of its table. -/
def parse? (text : String) : Option (List (String × Toml)) :=
  let signs := dropMark text.toList
  (readLines? signs.length ⟨[], []⟩ signs).map Draft.settleMembers

end FilecoinRosetta.Toml
