import FilecoinRosetta.Address
import FilecoinRosetta.Cid

/-!
# Tipsets

The blocks of one height form a tipset, which is named by the key of its blocks'
identifiers. The identifier that clients see is a hash of that key.
-/

namespace FilecoinRosetta

/-- The identifiers of the blocks of a tipset, in order. The empty key asks a node
    for the heaviest tipset. -/
structure TipsetKey where
  /-- The identifiers. -/
  cids : List Cid
  deriving DecidableEq

namespace TipsetKey

/-- The key of no blocks. -/
def empty : TipsetKey := ⟨[]⟩

instance : Inhabited TipsetKey := ⟨empty⟩

/-- Whether there are no blocks. -/
def isEmpty (key : TipsetKey) : Bool :=
  key.cids.isEmpty

/-- The binary identifiers one behind the other. -/
def bytes (key : TipsetKey) : Bytes :=
  key.cids.flatMap Cid.toBytes

/-- The identifier of the blocks as linked data: the hash that clients see, in
    hexadecimal. The empty key has none. -/
def hashText? (key : TipsetKey) : Option String :=
  if key.isEmpty then none else some (Text.hexText (Cid.ofCbor key.bytes).toBytes)

/-- Why the empty key has no hash. -/
def emptyKeyMessage : String := "cannot hash an empty tipset key"

/-- The display form. -/
def text (key : TipsetKey) : String :=
  "[" ++ ", ".intercalate (key.cids.map Cid.text) ++ "]"

end TipsetKey

/-- What is read of a block's header. -/
structure BlockHeader where
  /-- The actor that made the block. -/
  miner : Address
  /-- The key of the tipset it was made on. -/
  parents : TipsetKey
  height : Int64
  /-- Its time in seconds. -/
  timestamp : UInt64
  deriving DecidableEq

/-- The blocks of one height, as a node reports them. -/
structure Tipset where
  /-- The identifiers of the blocks. -/
  key : TipsetKey
  blocks : List BlockHeader
  height : Int64
  deriving DecidableEq

namespace Tipset

/-- Why blocks form no tipset. -/
inductive AssemblyError where
  | noBlock
  /-- There is not one header for each identifier. -/
  | countMismatch (cids headers : Nat)
  /-- The blocks are of different heights. -/
  | heightMismatch
  deriving DecidableEq, Repr

/-- The wording of an assembly error. -/
def AssemblyError.message : AssemblyError → String
  | .noBlock => "a tipset needs at least one block"
  | .countMismatch cids headers =>
      "tipset has " ++ toString cids ++ " block CIDs but " ++ toString headers ++ " headers"
  | .heightMismatch => "tipset blocks disagree on height"

/-- Assemble headers under a key. -/
def assemble (key : TipsetKey) (blocks : List BlockHeader) : Except AssemblyError Tipset :=
  match blocks with
  | [] => .error .noBlock
  | first :: rest =>
      if key.cids.length ≠ (first :: rest).length then
        .error (.countMismatch key.cids.length (first :: rest).length)
      else if rest.all (·.height == first.height) then .ok ⟨key, first :: rest, first.height⟩
      else .error .heightMismatch

/-- The key of the tipset before this one, as its first block gives it. -/
def parents? (tipset : Tipset) : Option TipsetKey :=
  tipset.blocks.head?.map BlockHeader.parents

/-- The time of the earliest block in seconds. -/
def minTimestamp (tipset : Tipset) : UInt64 :=
  match tipset.blocks with
  | [] => 0
  | first :: rest =>
      rest.foldl (fun least block => if block.timestamp < least then block.timestamp else least)
        first.timestamp

end Tipset

end FilecoinRosetta
