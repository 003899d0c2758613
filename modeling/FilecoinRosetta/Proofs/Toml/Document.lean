import FilecoinRosetta.Proofs.Toml.Lines

/-!
# TOML documents written and read back

A document whose tables hold plain values and, behind them, lists of tables of plain
values is read back as it was written. Its lines are read one after the other: a
header opens a table, the lines behind it fill that table and leave all others as
they are, and nothing that was read is touched again.
-/

namespace FilecoinRosetta.Toml

/-! ## Lines in a row -/

/-- The rest of a text completes a document. -/
def Completes (reading : Reading) (text : List Char) (root : Draft.Members) : Prop :=
  ∀ fuel, text.length ≤ fuel → readLines? fuel reading text = some root

/-- Reading a text leads from one point of a document to
another, whatever follows. -/
def Leads (reading : Reading) (text : List Char) (next : Reading) : Prop :=
  ∀ rest root, Completes next rest root → Completes reading (text ++ rest) root

namespace Leads

variable {reading middle next : Reading} {first second : List Char}

/-- Reading nothing leads nowhere: the reading is as it was. -/
theorem refl (reading : Reading) : Leads reading [] reading :=
  fun _ _ completes => completes

/-- Reading goes on where it stands, so two texts are read one behind the other. -/
theorem trans (begin_ : Leads reading first middle) (end_ : Leads middle second next) :
    Leads reading (first ++ second) next := by
  intro rest root completes
  rw [List.append_assoc]
  exact begin_ _ root (end_ rest root completes)

/-- A line is read at once, if it is read in front of anything. -/
theorem line {text : List Char} (nonempty : text ≠ [])
    (read : ∀ rest, readLineOf? reading (text ++ rest) = some (next, rest)) :
    Leads reading text next := by
  intro rest root completes fuel bounded
  obtain ⟨sign, later, rfl⟩ := List.exists_cons_of_ne_nil nonempty
  rw [List.cons_append, List.length_cons] at bounded
  obtain ⟨fewer, rfl⟩ : ∃ fewer, fuel = fewer + 1 := ⟨fuel - 1, by omega⟩
  have step := read rest
  rw [List.cons_append] at step ⊢
  rw [readLines?]
  · simp only [step, Option.bind_eq_bind, Option.bind_some]
    apply completes
    rw [List.length_append] at bounded
    omega
  · simp

end Leads

/-- A blank line in front of a document does not matter, so the
first table needs none. -/
theorem completes_blank {reading : Reading} {text : List Char} {root : Draft.Members}
    (completes : Completes reading ('\n' :: text) root) : Completes reading text root := by
  intro fuel bounded
  have read := completes (fuel + 1) (Nat.succ_le_succ bounded)
  simpa only [readLines?, readLineOf_blank, Option.bind_eq_bind, Option.bind_some] using read

/-! ## Tables in their places -/

namespace Draft

/-- A way to put the members of a table where a path leads. Whatever is changed
there is changed in place. -/
def Focus (path : List String) (place : Members → Members) : Prop :=
  ∀ change inner, descend? change path (place inner) = (change inner).map place

/-- A name that is not there yet. -/
def Fresh (key : String) (members : Members) : Prop :=
  members.lookup key = none

variable {key : String} {members : Members}

/-- A name is new where neither part has it, so a member of another
name may be added. -/
theorem Fresh.append {other : String} (fresh : Fresh key members) (distinct : key ≠ other)
    (draft : Draft) :
    Fresh key (members ++ [(other, draft)]) := by
  have apart : (key == other) = false := beq_eq_false_iff_ne.mpr distinct
  rw [Fresh, List.lookup_append, show members.lookup key = none from fresh, Option.none_or,
    List.lookup_cons, apart]
  rfl

/-- What was put last under a new name is found there, as no
earlier member hides it. -/
theorem Fresh.lookup (fresh : Fresh key members) (draft : Draft) :
    (members ++ [(key, draft)]).lookup key = some draft := by
  rw [List.lookup_append, show members.lookup key = none from fresh, Option.none_or,
    List.lookup_cons_self]

/-- What was put last under a new name is replaced there, and the members in
front of it stay. -/
theorem Fresh.put (fresh : Fresh key members) (old new : Draft) :
    Draft.put key new (members ++ [(key, old)]) = members ++ [(key, new)] := by
  induction members with
  | nil => simp [Draft.put]
  | cons member rest ih =>
    obtain ⟨other, draft⟩ := member
    have distinct : key ≠ other := by
      rintro rfl
      simp [Fresh] at fresh
    have restFresh : Fresh key rest := by
      simpa [Fresh, List.lookup_cons, beq_eq_false_iff_ne.mpr distinct] using fresh
    rw [List.cons_append, Draft.put, if_neg distinct, ih restFresh, List.cons_append]

/-- The members of a table that was put last under a new name. -/
theorem focus_table {root : Members} (fresh : Fresh key root) (origin : Origin) :
    Focus [key] fun inner => root ++ [(key, .table origin inner)] := by
  intro change inner
  rw [descend?, fresh.lookup]
  cases changed : change inner with
  | none => simp [descend?, changed]
  | some after => simp [descend?, changed, fresh.put]

/-- A path leads through its beginning, so a change at its end is a change at the
end of the beginning. -/
theorem descend_append (change : Members → Option Members) (path more : List String)
    (members : Members) :
    descend? change (path ++ more) members = descend? (descend? change more) path members := by
  induction path generalizing members with
  | nil => rfl
  | cons first rest ih => simp only [List.cons_append, descend?, ih]

/-- The members of the last table of a list, within a table. -/
theorem Focus.tables {path : List String} {place : Members → Members} (focus : Focus path place)
    {inner : Members} (fresh : Fresh key inner) (earlier : List Members) :
    Focus (path ++ [key]) fun last => place (inner ++ [(key, .tables (last :: earlier))]) := by
  intro change last
  rw [descend_append, focus, descend?, fresh.lookup]
  cases changed : change last with
  | none => simp [descend?, changed]
  | some after => simp [descend?, changed, fresh.put]

end Draft

/-! ## Tables of plain values -/

/-- The members of a table of plain values: keys without quotes, no two alike. -/
structure PlainTable (members : List (String × Toml)) : Prop where
  bare : ∀ member ∈ members, Bare member.1
  plain : ∀ member ∈ members, Plain member.2
  distinct : (members.map Prod.fst).Nodup

/-- A plain value has no header, so it stands on a line of its own. -/
theorem Plain.noHeader {value : Toml} (plain : Plain value) : hasHeader value = false := by
  cases plain <;> rfl

/-- The lines of a table, each with its end. -/
def linesText (lines : List String) : List Char :=
  lines.flatMap fun line => line.toList ++ ['\n']

/-- Complete members under construction. -/
def leaves (members : List (String × Toml)) : Draft.Members :=
  members.map fun (key, value) => (key, .leaf value)

/-- Complete members are settled as they are, as no table among them is open. -/
theorem settle_leaves (members : List (String × Toml)) :
    Draft.settleMembers (leaves members) = members := by
  induction members with
  | nil => rfl
  | cons member rest ih =>
    rw [leaves, List.map_cons, Draft.settleMembers, ← leaves, ih]
    rfl

namespace PlainTable

variable {member : String × Toml} {rest members : List (String × Toml)}

/-- A table without members is plain. -/
theorem nil : PlainTable [] :=
  ⟨by simp, by simp, List.nodup_nil⟩

/-- A table with one more member is plain, if its name is bare and new and
its value is plain. -/
theorem cons {key : String} {value : Toml} (bare : Bare key) (plain : Plain value)
    (new : key ∉ rest.map Prod.fst) (table : PlainTable rest) :
    PlainTable ((key, value) :: rest) where
  bare := List.forall_mem_cons.mpr ⟨bare, table.bare⟩
  plain := List.forall_mem_cons.mpr ⟨plain, table.plain⟩
  distinct := List.nodup_cons.mpr ⟨new, table.distinct⟩

/-- What stands behind a member is a table of plain values as well. -/
theorem tail (table : PlainTable (member :: rest)) : PlainTable rest where
  bare := fun other isOther => table.bare other (List.mem_cons_of_mem _ isOther)
  plain := fun other isOther => table.plain other (List.mem_cons_of_mem _ isOther)
  distinct := (List.nodup_cons.mp table.distinct).2

/-- Every member has a line, with its name and its value on it. -/
theorem lines (table : PlainTable members) :
    plainLines members = members.map fun (key, value) => key ++ " = " ++ writeValue value := by
  have all : members.filter (fun (_, value) => !hasHeader value) = members := by
    apply List.filter_eq_self.mpr
    rintro ⟨key, value⟩ isMember
    simp [(table.plain (key, value) isMember).noHeader]
  rw [plainLines, all]
  apply List.map_congr_left
  rintro ⟨key, value⟩ isMember
  have written : writeKey key = key := (table.bare (key, value) isMember).writeKey
  simp only [written]

/-- The lines of a table fill it behind what it holds, by induction on its members.
Each of them is new when its line is read. -/
theorem leads (table : PlainTable members) {path : List String}
    {place : Draft.Members → Draft.Members} (focus : Draft.Focus path place)
    {inner : Draft.Members} (fresh : ∀ member ∈ members, Draft.Fresh member.1 inner) :
    Leads ⟨place inner, path⟩ (linesText (plainLines members))
      ⟨place (inner ++ leaves members), path⟩ := by
  rw [table.lines]
  induction members generalizing inner with
  | nil => simpa [linesText, leaves] using Leads.refl ⟨place inner, path⟩
  | cons member rest ih =>
    obtain ⟨key, value⟩ := member
    obtain ⟨keyFresh, restFresh⟩ := List.forall_mem_cons.mp fresh
    have bare := table.bare (key, value) List.mem_cons_self
    have plain := table.plain (key, value) List.mem_cons_self
    have keyNew := (List.nodup_cons.mp table.distinct).1
    have inserted : Draft.insert? [key] value inner = some (inner ++ [(key, .leaf value)]) := by
      rw [Draft.insert?, show inner.lookup key = none from keyFresh]
      rfl
    have made : Draft.descend? (Draft.insert? [key] value) path (place inner) =
        some (place (inner ++ [(key, .leaf value)])) := by
      rw [focus, inserted, Option.map_some]
    have first : Leads ⟨place inner, path⟩ ((key ++ " = " ++ writeValue value).toList ++ ['\n'])
        ⟨place (inner ++ [(key, .leaf value)]), path⟩ := by
      apply Leads.line (by simp)
      intro rest
      have read : readLineOf? ⟨place inner, path⟩
          (key.toList ++ ' ' :: '=' :: ' ' :: ((writeValue value).toList ++ '\n' :: rest)) =
            some (⟨place (inner ++ [(key, .leaf value)]), path⟩, rest) :=
              readLineOf_member bare plain made
      simpa [String.toList_append] using read
    have laterFresh : ∀ member ∈ rest, Draft.Fresh member.1 (inner ++ [(key, .leaf value)]) := by
      intro other isOther
      apply (restFresh other isOther).append
      intro same
      exact keyNew (List.mem_map.mpr ⟨other, isOther, same⟩)
    have later := ih table.tail laterFresh
    have split :
        inner ++ leaves ((key, value) :: rest) = inner ++ [(key, .leaf value)] ++ leaves rest := by
      simp [leaves]
    rw [split]
    exact first.trans later

end PlainTable

/-! ## Tables with lists of tables -/

/-- A table of a document: plain values, and behind them lists of
tables of plain values. -/
structure Chapter where
  name : String
  members : List (String × Toml)
  lists : List (String × List (List (String × Toml)))

namespace Chapter

/-- The lists as members. -/
def listed (lists : List (String × List (List (String × Toml)))) : List (String × Toml) :=
  lists.map fun (key, tables) => (key, .arr (tables.map .table))

/-- The table under its name. -/
def entry (chapter : Chapter) : String × Toml :=
  (chapter.name, .table (chapter.members ++ listed chapter.lists))

/-- A table that is read back: all keys stand without quotes, no two are alike, and
no list is empty. -/
structure Sound (chapter : Chapter) : Prop where
  bare : Bare chapter.name
  plain : PlainTable chapter.members
  lists : ∀ list ∈ chapter.lists, Bare list.1 ∧ list.2 ≠ [] ∧ ∀ table ∈ list.2, PlainTable table
  distinct : (chapter.members.map Prod.fst ++ chapter.lists.map Prod.fst).Nodup

/-! ### What is written -/

/-- The lines of the tables of a list. -/
def listLines (name key : String) (tables : List (List (String × Toml))) : List (List String) :=
  tables.map fun table => ("[[" ++ name ++ "." ++ key ++ "]]") :: plainLines table

/-- The lines of a table, and of the tables of its lists. -/
def blocks (chapter : Chapter) : List (List String) :=
  (("[" ++ chapter.name ++ "]") :: plainLines chapter.members) ::
    chapter.lists.flatMap fun (key, tables) => listLines chapter.name key tables

/-- Plain values have no blocks of their own, so only the others
are written with headers. -/
theorem tableBlocks_plain {members : List (String × Toml)} (table : PlainTable members)
    (path : List String) (rest : List (String × Toml)) :
    tableBlocks path (members ++ rest) = tableBlocks path rest := by
  induction members with
  | nil => rfl
  | cons member more ih =>
    obtain ⟨key, value⟩ := member
    have later := ih table.tail
    have plain := table.plain (key, value) List.mem_cons_self
    cases plain with
    | str => rw [List.cons_append, tableBlocks, later] <;> simp
    | int => rw [List.cons_append, tableBlocks, later] <;> simp
    | bool => rw [List.cons_append, tableBlocks, later] <;> simp
    | empty => rw [List.cons_append, tableBlocks, later]; rfl

/-- The tables of a list are written in order, each with a
header in double brackets. -/
theorem listBlocks_tables (path : List String) {tables : List (List (String × Toml))}
    (plain : ∀ table ∈ tables, PlainTable table) :
    listBlocks path (tables.map .table) =
      tables.map fun table => ("[[" ++ ".".intercalate path ++ "]]") :: plainLines table := by
  induction tables with
  | nil => rw [List.map_nil, listBlocks, List.map_nil]
  | cons table rest ih =>
    obtain ⟨isPlain, restPlain⟩ := List.forall_mem_cons.mp plain
    have inner : tableBlocks path table = [] := by
      simpa [tableBlocks] using tableBlocks_plain isPlain path []
    rw [List.map_cons, listBlocks, inner, ih restPlain]
    rfl

/-- A list of tables has headers, unless it is empty. -/
theorem isTableList_tables {tables : List (List (String × Toml))} (nonempty : tables ≠ []) :
    (Toml.arr (tables.map .table)).isTableList = true := by
  obtain ⟨first, rest, rfl⟩ := List.exists_cons_of_ne_nil nonempty
  simp [isTableList, isTable]

variable {chapter : Chapter}

/-- The lists of a table are written in order, behind the lines of the table. -/
theorem tableBlocks_listed {name : String} {lists : List (String × List (List (String × Toml)))}
    (sound : ∀ list ∈ lists, Bare list.1 ∧ list.2 ≠ [] ∧ ∀ table ∈ list.2, PlainTable table) :
    tableBlocks [name] (listed lists) = lists.flatMap fun (key, tables) =>
      listLines name key tables := by
  induction lists with
  | nil => rw [listed, List.map_nil, tableBlocks, List.flatMap_nil]
  | cons list rest ih =>
    obtain ⟨key, tables⟩ := list
    obtain ⟨⟨bare, nonempty, plain⟩, restSound⟩ := List.forall_mem_cons.mp sound
    have path : ".".intercalate ([name] ++ [writeKey key]) = name ++ "." ++ key := by
      rw [bare.writeKey]
      rfl
    have later := ih restSound
    rw [listed, List.map_cons, tableBlocks, isTableList_tables nonempty, if_pos rfl,
      ← listed, later, listBlocks_tables _ plain, path, List.flatMap_cons]
    simp only [listLines, String.append_assoc]

/-- No value behind the plain ones is written among them, so lists come after all
plain members of a table. -/
theorem plainLines_members (sound : chapter.Sound) :
    plainLines (chapter.members ++ listed chapter.lists) = plainLines chapter.members := by
  have none_ : (listed chapter.lists).filter (fun (_, value) => !hasHeader value) = [] := by
    apply List.filter_eq_nil_iff.mpr
    intro member isMember
    obtain ⟨⟨key, tables⟩, isList, rfl⟩ := List.mem_map.mp isMember
    obtain ⟨-, nonempty, -⟩ := sound.lists _ isList
    simp [hasHeader, isTableList_tables nonempty]
  rw [plainLines, List.filter_append, none_, List.append_nil, ← plainLines]

/-- Tables are written one after the other, each with its lines and its lists. -/
theorem tableBlocks_entries {chapters : List Chapter}
    (sound : ∀ chapter ∈ chapters, chapter.Sound) :
    tableBlocks [] (chapters.map entry) = chapters.flatMap blocks := by
  induction chapters with
  | nil => rw [List.map_nil, tableBlocks, List.flatMap_nil]
  | cons chapter rest ih =>
    obtain ⟨isSound, restSound⟩ := List.forall_mem_cons.mp sound
    have name : ".".intercalate ([] ++ [chapter.name]) = chapter.name := by simp
    rw [List.map_cons, entry, tableBlocks, isSound.bare.writeKey, name, plainLines_members isSound,
      tableBlocks_plain isSound.plain, List.nil_append, tableBlocks_listed isSound.lists,
      ih restSound, List.flatMap_cons, blocks, List.cons_append]

/-! ### What is read -/

/-- Lines that begin with a header lead from one document to another,
whatever was read before. -/
def Extends (root : Draft.Members) (text : List Char) (next : Draft.Members) : Prop :=
  ∀ path, ∃ path', Leads ⟨root, path⟩ text ⟨next, path'⟩

/-- Blocks of lines, each behind a blank line. -/
def blocksText (blocks : List (List String)) : List Char :=
  blocks.flatMap fun block => '\n' :: linesText block

/-- Nothing is added by no lines, so this is where an induction on them starts. -/
theorem Extends.refl (root : Draft.Members) : Extends root [] root :=
  fun path => ⟨path, Leads.refl _⟩

/-- What is added by lines after others comes behind what those added. -/
theorem Extends.trans {root middle next : Draft.Members} {first later : List Char}
    (one : Extends root first middle) (two : Extends middle later next) :
    Extends root (first ++ later) next := by
  intro path
  obtain ⟨between, isFirst⟩ := one path
  obtain ⟨path', isLater⟩ := two between
  exact ⟨path', isFirst.trans isLater⟩

/-- A block is read line by line, from the blank line in front of it
and its header on. -/
theorem leads_block {reading opened next : Reading} {header : String} {lines : List String}
    (read : ∀ rest, readLineOf? reading (header.toList ++ '\n' :: rest) = some (opened, rest))
    (filled : Leads opened (linesText lines) next) :
    Leads reading (blocksText [header :: lines]) next := by
  have blank : Leads reading ['\n'] reading := Leads.line (by simp) fun rest => readLineOf_blank _
  have headed : Leads reading (header.toList ++ ['\n']) opened := by
    apply Leads.line (by simp)
    intro rest
    rw [List.append_assoc]
    exact read rest
  have text :
      blocksText [header :: lines] = ['\n'] ++ (header.toList ++ ['\n']) ++ linesText lines := by
    simp [blocksText, linesText]
  rw [text]
  exact (blank.trans headed).trans filled

/-- Blocks of lines after others are written behind them. -/
theorem blocksText_append (first later : List (List String)) :
    blocksText (first ++ later) = blocksText first ++ blocksText later :=
  List.flatMap_append

/-- A list under construction, which is not there as long as it is empty. -/
def withList (inner : Draft.Members) (key : String) : List Draft.Members → Draft.Members
  | [] => inner
  | done => inner ++ [(key, .tables done)]

/-- A table that is appended to a list is empty at first, and is filled by
the lines that follow. -/
theorem appendTable_withList {inner : Draft.Members} {key : String} (fresh : Draft.Fresh key inner)
    (done : List Draft.Members) :
    Draft.appendTable? key (withList inner key done) = some (withList inner key ([] :: done)) := by
  cases done with
  | nil =>
    rw [Draft.appendTable?, withList, show inner.lookup key = none from fresh]
    rfl
  | cons last earlier =>
    simp only [Draft.appendTable?, withList, fresh.lookup, fresh.put]

section

variable {name key : String} {place : Draft.Members → Draft.Members} {inner : Draft.Members}

/-- The lines of a table append it to its list: its header opens it there, and
its members fill it. -/
theorem extends_table (bareName : Bare name) (bareKey : Bare key) (focus : Draft.Focus [name] place)
    (fresh : Draft.Fresh key inner) {table : List (String × Toml)} (plain : PlainTable table)
    (done : List Draft.Members) :
    Extends (place (withList inner key done))
      (blocksText [("[[" ++ name ++ "." ++ key ++ "]]") :: plainLines table])
      (place (withList inner key (leaves table :: done))) := by
  intro path
  have appended : Draft.appendAt? [name, key] (place (withList inner key done)) =
      some (place (withList inner key ([] :: done))) := by
    have before : Draft.splitLast [name, key] = some ([name], key) := rfl
    rw [Draft.appendAt?, before]
    simp only [Option.bind_eq_bind, Option.bind_some]
    rw [focus, appendTable_withList fresh, Option.map_some]
  have header (rest : List Char) :
      readLineOf? ⟨place (withList inner key done), path⟩
          (("[[" ++ name ++ "." ++ key ++ "]]").toList ++ '\n' :: rest) =
        some (⟨place (withList inner key ([] :: done)), [name, key]⟩, rest) := by
    have read : readLineOf? ⟨place (withList inner key done), path⟩
        ('[' :: '[' :: (name.toList ++ '.' :: (key.toList ++ ']' :: ']' :: '\n' :: rest))) =
          some (⟨place (withList inner key ([] :: done)), [name, key]⟩, rest) :=
      readLineOf_list bareName bareKey appended
    simpa [String.toList_append] using read
  have filled : Leads ⟨place (withList inner key ([] :: done)), [name, key]⟩
      (linesText (plainLines table)) ⟨place (withList inner key (leaves table :: done)),
        [name, key]⟩ :=
    plain.leads (focus.tables fresh done) fun member _ => rfl
  exact ⟨_, leads_block header filled⟩

/-- The tables of a list are appended one after the other, by
induction on the tables. -/
theorem extends_tables (bareName : Bare name) (bareKey : Bare key)
    (focus : Draft.Focus [name] place) (fresh : Draft.Fresh key inner)
    {tables : List (List (String × Toml))} (plain : ∀ table ∈ tables, PlainTable table)
    (done : List Draft.Members) :
    Extends (place (withList inner key done)) (blocksText (listLines name key tables))
      (place (withList inner key ((tables.map leaves).reverse ++ done))) := by
  induction tables generalizing done with
  | nil => exact Extends.refl _
  | cons table rest ih =>
    obtain ⟨isPlain, restPlain⟩ := List.forall_mem_cons.mp plain
    have first := extends_table bareName bareKey focus fresh isPlain done
    have later := ih restPlain (leaves table :: done)
    have text : blocksText (listLines name key (table :: rest)) =
        blocksText [("[[" ++ name ++ "." ++ key ++ "]]") :: plainLines table] ++
          blocksText (listLines name key rest) := blocksText_append [_] _
    rw [text, List.map_cons, List.reverse_cons, List.append_assoc, List.singleton_append]
    exact first.trans later

/-- A list under construction, when it is complete. -/
def draftList (list : String × List (List (String × Toml))) : String × Draft :=
  (list.1, .tables (list.2.map leaves).reverse)

/-- The lists of a table follow each other, by induction on the lists. Each one is
new when its first header is read. -/
theorem extends_lists (bareName : Bare name) (focus : Draft.Focus [name] place)
    {lists : List (String × List (List (String × Toml)))}
    (sound : ∀ list ∈ lists, Bare list.1 ∧ list.2 ≠ [] ∧ ∀ table ∈ list.2, PlainTable table)
    (distinct : (lists.map Prod.fst).Nodup) (fresh : ∀ list ∈ lists, Draft.Fresh list.1 inner) :
    Extends (place inner)
      (blocksText (lists.flatMap fun (key, tables) => listLines name key tables))
      (place (inner ++ lists.map draftList)) := by
  induction lists generalizing inner with
  | nil =>
    rw [List.map_nil, List.append_nil]
    exact Extends.refl _
  | cons list rest ih =>
    obtain ⟨key, tables⟩ := list
    obtain ⟨⟨bareKey, nonempty, plain⟩, restSound⟩ := List.forall_mem_cons.mp sound
    obtain ⟨keyFresh, restFresh⟩ := List.forall_mem_cons.mp fresh
    obtain ⟨keyNew, restDistinct⟩ := List.nodup_cons.mp distinct
    have complete : withList inner key ((tables.map leaves).reverse ++ []) =
        inner ++ [draftList (key, tables)] := by
      rw [List.append_nil]
      cases reversed : (tables.map leaves).reverse with
      | nil => simp [nonempty] at reversed
      | cons last earlier => simp [withList, draftList, reversed]
    have first := extends_tables bareName bareKey focus keyFresh plain []
    rw [complete] at first
    have laterFresh : ∀ list ∈ rest, Draft.Fresh list.1 (inner ++ [draftList (key, tables)]) := by
      intro other isOther
      apply (restFresh other isOther).append
      intro same
      exact keyNew (List.mem_map.mpr ⟨other, isOther, same⟩)
    have later := ih restSound restDistinct laterFresh
    rw [List.append_assoc] at later
    rw [List.flatMap_cons, blocksText_append]
    exact first.trans later

end

/-- A table under construction, when it is complete. -/
def draft (chapter : Chapter) : String × Draft :=
  (chapter.name, .table .header (leaves chapter.members ++ chapter.lists.map draftList))

/-- A name is new among members that are complete, if none of them has it. -/
theorem fresh_leaves {key : String} {members : List (String × Toml)}
    (other : key ∉ members.map Prod.fst) :
    Draft.Fresh key (leaves members) := by
  rw [Draft.Fresh, List.lookup_eq_none_iff]
  rintro ⟨name, draft⟩ isMember
  obtain ⟨⟨same, value⟩, isValue, whole⟩ := List.mem_map.mp isMember
  obtain ⟨rfl, -⟩ := Prod.mk.inj whole
  exact bne_iff_ne.mpr fun isKey => other (List.mem_map.mpr ⟨_, isValue, isKey.symm⟩)

/-- The lines of a table add it to a document that has none of its name. -/
theorem extends_chapter (sound : chapter.Sound) {root : Draft.Members}
    (fresh : Draft.Fresh chapter.name root) :
    Extends root (blocksText chapter.blocks) (root ++ [chapter.draft]) := by
  intro path
  have focus := Draft.focus_table fresh .header
  obtain ⟨-, listsDistinct, apart⟩ := List.nodup_append.mp sound.distinct
  have listsFresh : ∀ list ∈ chapter.lists, Draft.Fresh list.1 (leaves chapter.members) := by
    intro list isList
    apply fresh_leaves
    intro isMember
    exact apart _ isMember _ (List.mem_map.mpr ⟨list, isList, rfl⟩) rfl
  have opened : Draft.openAt? [chapter.name] root =
      some (root ++ [(chapter.name, .table .header [])]) := by
    have before : Draft.splitLast [chapter.name] = some ([], chapter.name) := rfl
    rw [Draft.openAt?, before]
    simp only [Option.bind_eq_bind, Option.bind_some, Draft.descend?, Draft.openTable?]
    rw [show root.lookup chapter.name = none from fresh]
  have header (rest : List Char) :
      readLineOf? ⟨root, path⟩ (("[" ++ chapter.name ++ "]").toList ++ '\n' :: rest) =
        some (⟨root ++ [(chapter.name, .table .header [])], [chapter.name]⟩, rest) := by
    have read : readLineOf? ⟨root, path⟩ ('[' :: (chapter.name.toList ++ ']' :: '\n' :: rest)) =
        some (⟨root ++ [(chapter.name, .table .header [])], [chapter.name]⟩, rest) :=
      readLineOf_header sound.bare opened
    simpa [String.toList_append] using read
  have filled := leads_block header
      (sound.plain.leads focus fun member _ => (rfl : Draft.Fresh member.1 []))
  obtain ⟨path', listed⟩ :=
    extends_lists sound.bare focus sound.lists listsDistinct listsFresh [chapter.name]
  have text :
      blocksText chapter.blocks =
        blocksText [("[" ++ chapter.name ++ "]") :: plainLines chapter.members] ++
      blocksText (chapter.lists.flatMap fun (key, tables) => listLines chapter.name key tables) :=
    blocksText_append [_] _
  have whole : root ++ [chapter.draft] =
      root ++ [(chapter.name,
        .table .header (leaves chapter.members ++ chapter.lists.map draftList))] := rfl
  rw [text, whole]
  exact ⟨path', filled.trans listed⟩

/-- Tables of different names follow each other, by induction on the tables. Each
one is new when its header is read. -/
theorem extends_chapters {chapters : List Chapter} (sound : ∀ chapter ∈ chapters, chapter.Sound)
    (distinct : (chapters.map name).Nodup) {root : Draft.Members}
    (fresh : ∀ chapter ∈ chapters, Draft.Fresh chapter.name root) :
    Extends root (blocksText (chapters.flatMap blocks)) (root ++ chapters.map draft) := by
  induction chapters generalizing root with
  | nil =>
    rw [List.map_nil, List.append_nil]
    exact Extends.refl _
  | cons chapter rest ih =>
    obtain ⟨isSound, restSound⟩ := List.forall_mem_cons.mp sound
    obtain ⟨isFresh, restFresh⟩ := List.forall_mem_cons.mp fresh
    obtain ⟨isNew, restDistinct⟩ := List.nodup_cons.mp distinct
    have laterFresh : ∀ other ∈ rest, Draft.Fresh other.name (root ++ [chapter.draft]) := by
      intro other isOther
      apply (restFresh other isOther).append
      intro same
      exact isNew (List.mem_map.mpr ⟨other, isOther, same⟩)
    have later := ih restSound restDistinct laterFresh
    rw [List.append_assoc] at later
    rw [List.flatMap_cons, blocksText_append]
    exact (extends_chapter isSound isFresh).trans later

/-! ### What is complete -/

/-- Members are settled one by one, each under its own name. -/
theorem settleMembers_map (members : Draft.Members) :
    Draft.settleMembers members = members.map fun (key, draft) => (key, Draft.settle draft) := by
  induction members with
  | nil => rfl
  | cons member rest ih => rw [Draft.settleMembers, ih, List.map_cons]

/-- Tables are settled one by one, in the order that they are listed in. -/
theorem settleTables_map (listed : List Draft.Members) :
    Draft.settleTables listed = listed.map fun members => .table (Draft.settleMembers members) := by
  induction listed with
  | nil => rfl
  | cons members rest ih => rw [Draft.settleTables, ih, List.map_cons]

/-- A list is settled in its order, although its tables were collected
the other way round. -/
theorem settle_draftList (list : String × List (List (String × Toml))) :
    ((draftList list).1, Draft.settle (draftList list).2) = (list.1, .arr (list.2.map .table)) := by
  simp only [draftList, Draft.settle, settleTables_map, List.map_reverse, List.reverse_reverse,
    List.map_map]
  congr 3
  funext table
  exact congrArg Toml.table (settle_leaves table)

/-- A table is settled as it was written: plain members first, lists behind them. -/
theorem settle_draft (chapter : Chapter) :
    (chapter.draft.1, Draft.settle chapter.draft.2) = chapter.entry := by
  have lists : Draft.settleMembers (chapter.lists.map draftList) = listed chapter.lists := by
    rw [settleMembers_map, List.map_map, listed]
    exact List.map_congr_left fun list _ => settle_draftList list
  have members : Draft.settleMembers (leaves chapter.members ++ chapter.lists.map draftList) =
      chapter.members ++ listed chapter.lists := by
    rw [settleMembers_map, List.map_append, ← settleMembers_map, ← settleMembers_map,
      settle_leaves, lists]
  simp only [draft, entry, Draft.settle, members]

end Chapter

/-! ## Whole documents -/

/-- Behind the first blank line, blank lines stand between the blocks. -/
theorem Chapter.tail_blocksText (blocks : List (List String)) :
    (blocksText blocks).tail = ['\n'].intercalate (blocks.map linesText) := by
  induction blocks with
  | nil => rfl
  | cons block rest ih =>
    cases rest with
    | nil => simp [blocksText]
    | cons second more =>
      rw [List.map_cons, List.map_cons, List.intercalate_cons_cons, ← List.map_cons, ← ih]
      simp [blocksText]

/-- The text of tables, one after the other with a blank line between them. -/
theorem toList_write {chapters : List Chapter} (sound : ∀ chapter ∈ chapters, chapter.Sound) :
    (write (chapters.map Chapter.entry)).toList =
      (Chapter.blocksText (chapters.flatMap Chapter.blocks)).tail := by
  have noLines : plainLines (chapters.map Chapter.entry) = [] := by
    rw [plainLines, List.map_eq_nil_iff, List.filter_eq_nil_iff]
    intro member isMember
    obtain ⟨chapter, -, rfl⟩ := List.mem_map.mp isMember
    simp [Chapter.entry, hasHeader, isTable]
  have kept : (chapters.flatMap Chapter.blocks).filter (fun block => !block.isEmpty) =
      chapters.flatMap Chapter.blocks := by
    apply List.filter_eq_self.mpr
    intro block isBlock
    obtain ⟨chapter, -, isPart⟩ := List.mem_flatMap.mp isBlock
    rcases List.mem_cons.mp isPart with rfl | isListed
    · rfl
    · obtain ⟨⟨key, tables⟩, -, isTable⟩ := List.mem_flatMap.mp isListed
      obtain ⟨table, -, rfl⟩ := List.mem_map.mp isTable
      rfl
  have joined (block : List String) :
      (String.join (block.map fun line => line ++ "\n")).toList = linesText block := by
    rw [String.toList_join, List.flatMap_map, linesText]
    congr 1
    funext line
    rw [String.toList_append]
    rfl
  rw [write, noLines, Chapter.tableBlocks_entries sound]
  simp only [List.filter_cons, List.isEmpty_nil, Bool.not_true, Bool.false_eq_true, if_false, kept]
  rw [String.toList_intercalate, List.map_map, Chapter.tail_blocksText]
  congr 2
  funext block
  exact joined block

/-- A document is read back as it was written, if its tables are sound
and have different names. -/
theorem parse_write {chapters : List Chapter} (sound : ∀ chapter ∈ chapters, chapter.Sound)
    (distinct : (chapters.map Chapter.name).Nodup) :
    parse? (write (chapters.map Chapter.entry)) = some (chapters.map Chapter.entry) := by
  cases chapters with
  | nil =>
    have empty : write [] = "" := by simp [write, plainLines, tableBlocks]
    rw [List.map_nil, empty]
    rfl
  | cons chapter rest =>
    have fresh : ∀ other ∈ chapter :: rest, Draft.Fresh other.name [] := fun _ _ => rfl
    obtain ⟨path, leads⟩ := Chapter.extends_chapters sound distinct fresh []
    have finished : Completes ⟨[] ++ (chapter :: rest).map Chapter.draft, path⟩ []
        ((chapter :: rest).map Chapter.draft) := by
      intro fuel _
      rw [readLines?]
      rfl
    have text := toList_write sound
    obtain ⟨later, isText⟩ : ∃ later,
      Chapter.blocksText ((chapter :: rest).flatMap Chapter.blocks) =
        '\n' :: '[' :: later := by
      simp [Chapter.blocksText, Chapter.blocks, linesText]
    have complete := leads [] _ finished
    rw [List.append_nil, isText] at complete
    rw [isText, List.tail_cons] at text
    have read := completes_blank complete _ (Nat.le_refl _)
    have settled : Draft.settleMembers ((chapter :: rest).map Chapter.draft) =
        (chapter :: rest).map Chapter.entry := by
      rw [Chapter.settleMembers_map, List.map_map]
      exact List.map_congr_left fun chapter _ => chapter.settle_draft
    have unmarked : dropMark ('[' :: later) = '[' :: later := rfl
    rw [parse?, text, unmarked, read, Option.map_some, settled]

end FilecoinRosetta.Toml
