import FilecoinRosetta.Proofs.LotusJson.Depth

/-!
# Which blocks form a tipset

The blocks of a tipset share a height and parents. Whoever assembles one has the
heights compared, though not the parents. Whatever a node tells is read as it is
told. So any blocks with any height can come as a tipset, and only of those that
share both it does not matter which block is looked at.
-/

namespace FilecoinRosetta

namespace Tipset

/-- There is a header for each identifier, at least one, and all are
of the tipset's height. -/
structure Level (tipset : Tipset) : Prop where
  some : tipset.blocks ≠ []
  counted : tipset.key.cids.length = tipset.blocks.length
  height : ∀ block ∈ tipset.blocks, block.height = tipset.height

/-- The blocks share their parents as well. -/
structure Sound (tipset : Tipset) : Prop extends Level tipset where
  siblings : ∀ block ∈ tipset.blocks, ∀ other ∈ tipset.blocks, block.parents = other.parents

/-! ## Assembling -/

/-- What headers under a key are assembled to. -/
inductive Assembles (key : TipsetKey) (blocks : List BlockHeader) :
    Except AssemblyError Tipset → Prop where
  /-- They form a tipset. -/
  | tipset {height : Int64} (level : Level ⟨key, blocks, height⟩) :
      Assembles key blocks (.ok ⟨key, blocks, height⟩)
  /-- There is none. -/
  | noBlock (none : blocks = []) : Assembles key blocks (.error .noBlock)
  /-- They are more or fewer than the identifiers. -/
  | countMismatch (some : blocks ≠ []) (uncounted : key.cids.length ≠ blocks.length) :
      Assembles key blocks (.error (.countMismatch key.cids.length blocks.length))
  /-- Two of them are of different heights. -/
  | heightMismatch (counted : key.cids.length = blocks.length) {block other : BlockHeader}
      (member : block ∈ blocks)
      (memberToo : other ∈ blocks) (differ : block.height ≠ other.height) :
      Assembles key blocks (.error .heightMismatch)

/-- The check compares all other blocks with the first one. So it succeeds exactly
if all of them have its height. -/
theorem all_height (first : BlockHeader) (rest : List BlockHeader) :
    rest.all (·.height == first.height) = true ↔
      ∀ block ∈ first :: rest, block.height = first.height := by
  simp

/-- What is assembled from a key and blocks is what the rule for it
says, in all cases. -/
theorem assemble_assembles (key : TipsetKey) (blocks : List BlockHeader) :
    Assembles key blocks (assemble key blocks) := by
  unfold assemble
  split
  · exact .noBlock rfl
  · next first rest =>
    split
    case isTrue uncounted => exact .countMismatch (by simp) uncounted
    case isFalse counted =>
      have same := Decidable.not_not.mp counted
      split
      case isTrue level => exact .tipset ⟨by simp, same, (all_height first rest).mp level⟩
      case isFalse uneven =>
        rw [all_height] at uneven
        push Not at uneven
        obtain ⟨block, member, differ⟩ := uneven
        exact .heightMismatch same member List.mem_cons_self differ

/-- What headers are assembled to is told by what they are, both ways: the rule
names the outcome, and there is one only. -/
theorem assemble_eq_iff (key : TipsetKey) (blocks : List BlockHeader)
    (outcome : Except AssemblyError Tipset) :
    assemble key blocks = outcome ↔ Assembles key blocks outcome := by
  constructor
  · rintro rfl
    exact assemble_assembles key blocks
  · intro assembles
    unfold assemble
    cases assembles with
    | @tipset height level =>
      obtain ⟨some, counted, isHeight⟩ := level
      cases blocks with
      | nil => exact absurd rfl some
      | cons first rest =>
        obtain rfl : first.height = height := isHeight first List.mem_cons_self
        have even : rest.all (·.height == first.height) = true :=
          (all_height first rest).mpr isHeight
        dsimp only at counted ⊢
        rw [if_neg (not_not_intro counted), if_pos even]
    | noBlock none => rw [none]
    | countMismatch some uncounted =>
      cases blocks with
      | nil => exact absurd rfl some
      | cons first rest => exact if_pos uncounted
    | @heightMismatch counted block other member memberToo differ =>
      cases blocks with
      | nil => cases member
      | cons first rest =>
        have uneven : ¬ rest.all (·.height == first.height) = true := by
          rw [all_height]
          intro level
          exact differ ((level block member).trans (level other memberToo).symm)
        dsimp only
        rw [if_neg (not_not_intro counted), if_neg uneven]

/-- A tipset can be assembled exactly if it is level, whatever the
parents of its blocks. -/
theorem assemble_ok_iff (tipset : Tipset) :
    assemble tipset.key tipset.blocks = .ok tipset ↔ tipset.Level := by
  obtain ⟨key, blocks, height⟩ := tipset
  rw [assemble_eq_iff]
  constructor
  · intro assembles
    cases assembles with
    | tipset level => exact level
  · exact .tipset

/-! ## Looking at a block -/

/-- The time of a tipset is the earliest one of its blocks. -/
structure Earliest (tipset : Tipset) : Prop where
  taken : ∃ block ∈ tipset.blocks, block.timestamp = tipset.minTimestamp
  least : ∀ block ∈ tipset.blocks, tipset.minTimestamp ≤ block.timestamp

/-- The earlier one of a time and that of a block. -/
def earlier (least : UInt64) (block : BlockHeader) : UInt64 :=
  if block.timestamp < least then block.timestamp else least

/-- The earlier of two times is no later than either. -/
theorem earlier_le (least : UInt64) (block : BlockHeader) :
    earlier least block ≤ least ∧ earlier least block ≤ block.timestamp := by
  unfold earlier
  split
  case isTrue before => exact ⟨UInt64.le_of_lt before, UInt64.le_refl _⟩
  case isFalse after => exact ⟨UInt64.le_refl _, UInt64.not_lt.mp after⟩

/-- The earliest time of a fold is no later than the first one and all the others,
and is one of them. -/
theorem earliest_of (blocks : List BlockHeader) (least : UInt64) :
    blocks.foldl earlier least ≤ least ∧
      (∀ block ∈ blocks, blocks.foldl earlier least ≤ block.timestamp) ∧
      (blocks.foldl earlier least = least ∨
        ∃ block ∈ blocks, block.timestamp = blocks.foldl earlier least) := by
  induction blocks generalizing least with
  | nil => exact ⟨UInt64.le_refl _, List.forall_mem_nil _, .inl rfl⟩
  | cons first rest ih =>
    obtain ⟨upTo, below, taken⟩ := ih (earlier least first)
    obtain ⟨least_le, first_le⟩ := earlier_le least first
    refine ⟨UInt64.le_trans upTo least_le,
      List.forall_mem_cons.mpr ⟨UInt64.le_trans upTo first_le, below⟩, ?_⟩
    rw [List.foldl_cons]
    rcases taken with isStep | ⟨block, member, isTaken⟩
    · rw [isStep]
      unfold earlier
      split
      · exact .inr ⟨first, List.mem_cons_self, rfl⟩
      · exact .inl rfl
    · exact .inr ⟨block, List.mem_cons_of_mem first member, isTaken⟩

/-- Of any blocks the earliest time is found, wherever it stands, so it does not
matter which block comes first. -/
theorem minTimestamp_earliest {tipset : Tipset} (some : tipset.blocks ≠ []) : tipset.Earliest := by
  obtain ⟨key, blocks, height⟩ := tipset
  cases blocks with
  | nil => exact absurd rfl some
  | cons first rest =>
    obtain ⟨upTo, below, taken⟩ := earliest_of rest first.timestamp
    constructor
    case taken =>
      rcases taken with isFirst | ⟨block, member, isTaken⟩
      · exact ⟨first, List.mem_cons_self, isFirst.symm⟩
      · exact ⟨block, List.mem_cons_of_mem first member, isTaken⟩
    case least => exact List.forall_mem_cons.mpr ⟨upTo, below⟩

/-- A level tipset is sound exactly if its parents are those of each block. -/
theorem sound_iff (tipset : Tipset) :
    tipset.Sound ↔ tipset.Level ∧ ∀ block ∈ tipset.blocks,
      tipset.parents? = some block.parents := by
  have looks (first : BlockHeader) (rest : List BlockHeader)
      (same : tipset.blocks = first :: rest) :
      tipset.parents? = some first.parents := by
    rw [parents?, same]
    rfl
  constructor
  · rintro ⟨level, siblings⟩
    refine ⟨level, ?_⟩
    intro block member
    obtain ⟨first, rest, same⟩ := List.exists_cons_of_ne_nil level.some
    rw [looks first rest same, siblings block member first (same ▸ List.mem_cons_self)]
  · rintro ⟨level, parents⟩
    refine ⟨level, ?_⟩
    intro block member other memberToo
    have same := (parents block member).symm.trans (parents other memberToo)
    exact Option.some.inj same

end Tipset

/-! ## Reading -/

namespace LotusJson

open Json

/-- A key is written as a list of codes, each a record of one text. -/
theorem key_nesting (network : Network) (key : TipsetKey) : (write network key).nesting ≤ 2 :=
  each_nesting network fun cid _ => cid_nesting network (some cid)

/-- A header nests three levels at most: it is a record with the list of
the codes of its parents.
-/
theorem header_nesting (network : Network) (header : BlockHeader) :
    (write network header).nesting ≤ 3 := by
  refine record_nesting ?_
  simp only [List.forall_mem_cons, List.not_mem_nil, false_implies, implies_true, and_true]
  exact ⟨Nat.zero_le 2, key_nesting network header.parents, Nat.zero_le 2, Nat.zero_le 2⟩

/-- A tipset nests five levels at most: those of its headers within a
list within a record. -/
theorem tipset_nesting (network : Network) (tipset : Tipset) :
    (write network tipset).nesting ≤ 5 := by
  have blocks := each_nesting network fun header (_ : header ∈ tipset.blocks) =>
      header_nesting network header
  refine record_nesting ?_
  simp only [List.forall_mem_cons, List.not_mem_nil, false_implies, implies_true, and_true]
  exact ⟨Nat.le_trans (key_nesting network tipset.key) (by decide), blocks, Nat.zero_le 4⟩

/-- A worker adds one level to the tipsets that it goes from and to. -/
theorem worker_nesting (network : Network) (worker : SyncWorker) :
    (write network worker).nesting ≤ 6 := by
  have present (tipset : Option Tipset) : (write network tipset).nesting ≤ 5 := by
    cases tipset with
    | none => exact Nat.zero_le 5
    | some tipset => exact tipset_nesting network tipset
  refine record_nesting ?_
  simp only [List.forall_mem_cons, List.not_mem_nil, false_implies, implies_true, and_true]
  exact ⟨Nat.zero_le 5, present worker.base, present worker.target, Nat.zero_le 5, Nat.zero_le 5,
    Nat.zero_le 5⟩

/-- The progress of a node adds two levels: a record with the list of workers. -/
theorem progress_nesting (network : Network) (state : SyncState) :
    (write network state).nesting ≤ 8 := by
  have workers : (write network state.workers).nesting ≤ 7 :=
    list_nesting network fun worker _ => worker_nesting network worker
  refine record_nesting ?_
  simp only [List.forall_mem_cons, List.not_mem_nil, false_implies, implies_true, and_true]
  exact ⟨workers, Nat.zero_le 7⟩

/-- A tipset is read as the node tells it, whichever call it answers. -/
structure Told (network : Network) (tipset : Tipset) : Prop where
  text : read? Tipset (write network tipset).text = some tipset
  head : Lotus.answerOf .chainHead (.result (write network tipset)) = .ok tipset
  genesis : Lotus.answerOf .chainGenesis (.result (write network tipset)) = .ok tipset
  tagged : ∀ tag, Lotus.answerOf (.tipsetOfTag tag) (.result (write network tipset)) = .ok tipset
  byKey : ∀ key, Lotus.answerOf (.tipset key) (.result (write network tipset)) = .ok tipset
  atOrBelow : ∀ height key,
    Lotus.answerOf (.tipsetAtOrBelow height key) (.result (write network tipset)) = .ok tipset
  atOrAbove : ∀ height key,
    Lotus.answerOf (.tipsetAtOrAbove height key) (.result (write network tipset)) = .ok tipset

/-- What is written of a tipset is read back as that tipset by every call that
is answered with one, whatever blocks it holds. Nothing about the blocks is
checked on the way. -/
theorem tipset_told (network : Network) (tipset : Tipset) : Told network tipset := by
  have fits : (write network tipset).nesting ≤ Json.maxDepth :=
    Nat.le_trans (tipset_nesting network tipset) (by decide)
  have isRead := Faithful.reads network tipset Json.maxDepth fits
  have isAnswer : Lotus.readResult read (write network tipset) = .ok tipset := by
    rw [Lotus.readResult, isRead]
  constructor
  case text => rw [read_written, isRead]
  case head => exact isAnswer
  case genesis => exact isAnswer
  case tagged => exact fun _ => isAnswer
  case byKey => exact fun _ => isAnswer
  case atOrBelow => exact fun _ _ => isAnswer
  case atOrAbove => exact fun _ _ => isAnswer

/-- So are the tipsets that workers aim at and start from, inside of the
progress of the node. -/
theorem progress_told (network : Network) (state : SyncState) :
    Lotus.answerOf .syncState (.result (write network state)) = .ok state := by
  have fits : (write network state).nesting ≤ Json.maxDepth :=
    Nat.le_trans (progress_nesting network state) (by decide)
  change Lotus.readResult read (write network state) = _
  rw [Lotus.readResult, Faithful.reads network state Json.maxDepth fits]

end LotusJson

namespace Tipset

/-- A tipset is read as it is told, by whatever call and as the aim of whatever
worker, and nothing of it is compared. Its headers are assembled exactly if there is
one for each identifier, at least one, and all are of one height; their parents are
not compared. The earliest time is found among any blocks. But the height and the
parents are those of each block exactly if the blocks share them. -/
theorem blocks_as_told (network : Network) (tipset : Tipset) :
    LotusJson.Told network tipset ∧
    (∀ (before after : List SyncWorker) (worker : SyncWorker) (applied : UInt64),
      let state : SyncState := ⟨before ++ { worker with target := some tipset } :: after, applied⟩
      Lotus.answerOf .syncState (.result (LotusJson.write network state)) = .ok state) ∧
    (∀ outcome, assemble tipset.key tipset.blocks = outcome ↔
      Assembles tipset.key tipset.blocks outcome) ∧
    (assemble tipset.key tipset.blocks = .ok tipset ↔ tipset.Level) ∧
    (tipset.blocks = [] ∨ tipset.Earliest) ∧
    (tipset.Sound ↔ tipset.Level ∧ ∀ block ∈ tipset.blocks,
      tipset.parents? = some block.parents) := by
  have earliest : tipset.blocks = [] ∨ tipset.Earliest := by
    by_cases none : tipset.blocks = []
    · exact .inl none
    · exact .inr (minTimestamp_earliest none)
  exact ⟨LotusJson.tipset_told network tipset, fun _ _ _ _ => LotusJson.progress_told network _,
    assemble_eq_iff tipset.key tipset.blocks, assemble_ok_iff tipset, earliest, sound_iff tipset⟩

/-! ## Blocks that have nothing in common -/

namespace Forged

/-- A header of the first height, made on no blocks. -/
def early : BlockHeader := ⟨.id 1000, .empty, 3, 1⟩

/-- A header of another height, made on a block. -/
def late : BlockHeader := ⟨.id 1000, ⟨[default]⟩, 4, 2⟩

/-- Both headers, told under one identifier and a third height. -/
def text : String :=
  "\x7b\"Cids\":[\x7b\"/\":\"baeaaaaa\"\x7d],\"Blocks\":[" ++
    "\x7b\"Miner\":\"t01000\",\"Parents\":[],\"Height\":3,\"Timestamp\":1\x7d," ++
    "\x7b\"Miner\":\"t01000\",\"Parents\":[\x7b\"/\":\"baeaaaaa\"\x7d],\"Height\":4,\"Timestamp\":2\x7d]," ++
    "\"Height\":7\x7d"

/-- What is read. -/
def tipset : Tipset := ⟨⟨[default]⟩, [early, late], 7⟩

/-- Two headers of one height, made on different blocks. -/
def cousins : Tipset := ⟨⟨[default, default]⟩, [early, { late with height := 3 }], 3⟩

/-- The same in the other order. -/
def swapped : Tipset := { cousins with blocks := cousins.blocks.reverse }

end Forged

/-- Headers that share neither height nor parents are read as a tipset, and headers
that do not share their parents are assembled to one. Its parents depend on which
block is looked at. -/
theorem forged_blocks_accepted :
    LotusJson.read? Tipset Forged.text = some Forged.tipset ∧ ¬ Forged.tipset.Level ∧
      (∀ block ∈ Forged.tipset.blocks, block.height ≠ Forged.tipset.height) ∧
      assemble Forged.cousins.key Forged.cousins.blocks = .ok Forged.cousins ∧
        ¬ Forged.cousins.Sound ∧
      Forged.cousins.parents? ≠ Forged.swapped.parents? := by
  refine ⟨?_, ?_, by decide, rfl, ?_, by decide⟩
  · have written : Forged.text = (LotusJson.write .testnet Forged.tipset).text := by decide +kernel
    rw [written]
    exact (LotusJson.tipset_told .testnet Forged.tipset).text
  · intro level
    exact absurd level.counted (by decide)
  · intro sound
    have same := sound.siblings Forged.early (by decide)
        { Forged.late with height := 3 } (by decide)
    exact absurd same (by decide)

end Tipset

end FilecoinRosetta
