import FilecoinRosetta.Tipset

/-!
# Progress of a node

A node synchronises with several workers at once. Its status is folded from those
that have a target: an error of one is an error of all, the node is synced when all
are, and otherwise the furthest of the others counts.
-/

namespace FilecoinRosetta

/-- The stage of a worker. -/
inductive SyncStage where
  /-- Nothing to do yet. -/
  | idle
  /-- Fetching headers. -/
  | headers
  /-- Storing headers. -/
  | persistHeaders
  /-- Fetching and executing messages. -/
  | messages
  /-- Following the chain. -/
  | complete
  /-- Failed. -/
  | error
  deriving DecidableEq, Repr

namespace SyncStage

/-- The number a node writes for a stage. -/
def code : SyncStage → UInt8
  | idle => 0
  | headers => 1
  | persistHeaders => 2
  | messages => 3
  | complete => 4
  | error => 5

/-- The stage of a number. Fetching messages also has a number of its own. -/
def ofCode? (code : UInt8) : Option SyncStage :=
  match code.toNat with
  | 0 => some idle
  | 1 => some headers
  | 2 => some persistHeaders
  | 3 => some messages
  | 4 => some complete
  | 5 => some error
  | 6 => some messages
  | _ => none

/-- The display form. -/
def text : SyncStage → String
  | idle => "idle worker"
  | headers => "header sync"
  | persistHeaders => "persisting headers"
  | messages => "message sync"
  | complete => "complete"
  | error => "error"

/-- How far a worker is that neither completed nor failed. -/
def progress (stage : SyncStage) : Nat :=
  stage.code.toNat

/-- The further of two stages. -/
def further (first second : SyncStage) : SyncStage :=
  if first.progress ≤ second.progress then second else first

end SyncStage

/-- One worker. -/
structure SyncWorker where
  /-- Its number. -/
  worker : UInt64
  /-- Where it started. -/
  base : Option Tipset
  /-- Where it is going, if it has a target. -/
  target : Option Tipset
  stage : SyncStage
  /-- The height it reached. -/
  height : Int64
  remark : String
  deriving DecidableEq

/-- All workers of a node. -/
structure SyncState where
  workers : List SyncWorker
  /-- How many messages were executed. -/
  applied : UInt64
  deriving DecidableEq

/-- The status of a node. -/
structure SyncStatus where
  /-- The heights reached by the workers with a target. -/
  currentHeights : List Int64
  /-- The heights of their targets. -/
  targetHeights : List Int64
  /-- The common stage. -/
  stage : SyncStage
  deriving DecidableEq

namespace SyncStatus

/-- The greatest of some heights, zero if there are none. -/
def highest : List Int64 → Int64
  | [] => 0
  | first :: rest =>
      rest.foldl (fun greatest height => if greatest < height then height else greatest) first

/-- The common stage of some stages. -/
def commonStage (stages : List SyncStage) : SyncStage :=
  if stages.contains .error then .error
  else if stages.all (· == .complete) then .complete
  else (stages.filter (· != .complete)).foldl SyncStage.further .idle

/-- The status of a node, unless no worker has a target. -/
def evaluate? (state : SyncState) : Option SyncStatus :=
  let targeted := state.workers.filterMap fun worker =>
    worker.target.map fun target => (worker, target)
  if targeted.isEmpty then none
  else some
    { currentHeights := targeted.map fun (worker, _) => worker.height
      targetHeights := targeted.map fun (_, target) => target.height
      stage := commonStage (targeted.map fun (worker, _) => worker.stage) }

/-- Why a node without targets has no status. -/
def unknownMessage : String := "no sync worker has a target, sync status is unknown"

/-- Whether the node follows the chain. -/
def isSynced (status : SyncStatus) : Bool :=
  status.stage == .complete

/-- Whether the node failed. -/
def isErrored (status : SyncStatus) : Bool :=
  status.stage == .error

/-- The height reached: -1 after an error, 0 before messages are executed. -/
def currentHeight (status : SyncStatus) : Int64 :=
  match status.stage with
  | .error => -1
  | .messages => highest status.currentHeights
  | .complete => highest status.currentHeights
  | _ => 0

/-- The height aimed at. -/
def targetHeight (status : SyncStatus) : Int64 :=
  highest status.targetHeights

end SyncStatus

end FilecoinRosetta
