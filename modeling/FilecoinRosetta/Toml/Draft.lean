import FilecoinRosetta.Toml.Basic

/-!
# Tables under construction

A document builds its tables in pieces. A table that was named by a header, or made
by a dotted key, may not be made again; one that is only a step on the way to
another may still be. What stands in braces or brackets is complete.
-/

namespace FilecoinRosetta.Toml

/-- How a table came about. -/
inductive Origin where
  /-- As a step on the way to a header. -/
  | step
  | header
  /-- By a dotted key. -/
  | dotted
  deriving DecidableEq, Repr

/-- What stands under a key while a document is read. -/
inductive Draft where
  /-- A complete value. -/
  | leaf (content : Toml)
  | table (origin : Origin) (members : List (String × Draft))
  /-- A list of tables, the last one first. -/
  | tables (listed : List (List (String × Draft)))

namespace Draft

/-- The members of a table. -/
abbrev Members := List (String × Draft)

/-- Put something under a key, replacing what is there. -/
def put (key : String) (draft : Draft) : Members → Members
  | [] => [(key, draft)]
  | (other, old) :: rest =>
      if key = other then (other, draft) :: rest else (other, old) :: put key draft rest

/-- Put a value under a dotted key. The tables on the way may not have been made
    otherwise, and the last key must be new. -/
def insert? : (path : List String) → Toml → Members → Option Members
  | [], _, _ => none
  | [key], value, members =>
      if (members.lookup key).isSome then none else some (members ++ [(key, .leaf value)])
  | key :: path, value, members =>
      match members.lookup key with
      | none => do
          let inner ← insert? path value []
          some (members ++ [(key, .table .dotted inner)])
      | some (.table .dotted inner) => do
          some (put key (.table .dotted (← insert? path value inner)) members)
      | some (.table .step inner) => do
          some (put key (.table .step (← insert? path value inner)) members)
      | some _ => none

/-- Change the table at the end of a path of headers, making the
steps on the way. -/
def descend? (change : Members → Option Members) : (path : List String) → Members → Option Members
  | [], members => change members
  | key :: path, members =>
      match members.lookup key with
      | none => do
          some (members ++ [(key, .table .step (← descend? change path []))])
      | some (.table origin inner) => do
          some (put key (.table origin (← descend? change path inner)) members)
      | some (.tables (last :: earlier)) => do
          some (put key (.tables ((← descend? change path last) :: earlier)) members)
      | some _ => none

/-- Make the table of a header, unless it was made before. -/
def openTable? (key : String) (members : Members) : Option Members :=
  match members.lookup key with
  | none => some (members ++ [(key, .table .header [])])
  | some (.table .step inner) => some (put key (.table .header inner) members)
  | some _ => none

/-- Append a table to the list of a header. -/
def appendTable? (key : String) (members : Members) : Option Members :=
  match members.lookup key with
  | none => some (members ++ [(key, .tables [[]])])
  | some (.tables earlier) => some (put key (.tables ([] :: earlier)) members)
  | some _ => none

/-- Split the last key off a path. -/
def splitLast : List String → Option (List String × String)
  | [] => none
  | [last] => some ([], last)
  | first :: rest => (splitLast rest).map fun (before, last) => (first :: before, last)

/-- Make the table of a header at a path. -/
def openAt? (path : List String) (members : Members) : Option Members := do
  let (before, last) ← splitLast path
  descend? (openTable? last) before members

/-- Append a table to the list at a path. -/
def appendAt? (path : List String) (members : Members) : Option Members := do
  let (before, last) ← splitLast path
  descend? (appendTable? last) before members

mutual

/-- What stands under a key, complete. -/
def settle : Draft → Toml
  | .leaf content => content
  | .table _ members => .table (settleMembers members)
  | .tables listed => .arr (settleTables listed).reverse

/-- Members, complete. -/
def settleMembers : List (String × Draft) → List (String × Toml)
  | [] => []
  | (key, draft) :: rest => (key, settle draft) :: settleMembers rest

/-- Tables, complete. -/
def settleTables : List (List (String × Draft)) → List Toml
  | [] => []
  | members :: rest => .table (settleMembers members) :: settleTables rest

end

end Draft

end FilecoinRosetta.Toml
