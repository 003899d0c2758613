import FilecoinRosetta.Bytes

/-!
# CBOR

What messages hash is written in CBOR, and the parameters and return values of a few
methods are read from it. Writing is canonical: every head is as short as it can be.
Reading also accepts longer heads and byte strings in pieces, but no list of
unannounced length and nothing behind the value.
-/

namespace FilecoinRosetta.Encoding.Cbor

/-- The head of an item: its kind and a number below `2 ^ 64`,
in the shortest form. -/
def head (kind : Nat) (number : Nat) : Bytes :=
  if number < 24 then [UInt8.ofNat (kind * 32 + number)]
  else if number < 0x100 then UInt8.ofNat (kind * 32 + 24) :: bigEndian 1 number
  else if number < 0x10000 then UInt8.ofNat (kind * 32 + 25) :: bigEndian 2 number
  else if number < 0x100000000 then UInt8.ofNat (kind * 32 + 26) :: bigEndian 4 number
  else UInt8.ofNat (kind * 32 + 27) :: bigEndian 8 number

/-- An unsigned number. -/
def unsigned (number : UInt64) : Bytes :=
  head 0 number.toNat

/-- A byte string. -/
def byteString (content : Bytes) : Bytes :=
  head 2 content.length ++ content

/-- A list of items that are already written. -/
def list (items : List Bytes) : Bytes :=
  head 4 items.length ++ items.flatten

/-- The number that bytes stand for, most significant first. -/
def natural (bytes : Bytes) : Nat :=
  bytes.foldl (fun higher byte => higher * 256 + byte.toNat) 0

/-- The bytes of a natural number, most significant first, without leading
zeros, put before others. -/
def magnitudeOnto (number : Nat) (lower : Bytes) : Bytes :=
  if number = 0 then lower else magnitudeOnto (number / 256) (UInt8.ofNat (number % 256) :: lower)
termination_by number
decreasing_by omega

/-- The bytes of an integer: a sign byte and the magnitude; none at all for zero. -/
def integerBytes (number : Int) : Bytes :=
  if number = 0 then []
  else (if number < 0 then 1 else 0) :: magnitudeOnto number.natAbs []

/-- The longest byte string of an integer. -/
def maxIntegerSize : Nat := 128

/-- An integer of any sign as a byte string, unless it is too long. -/
def integer? (number : Int) : Option Bytes :=
  let content := integerBytes number
  if maxIntegerSize < content.length then none else some (byteString content)

/-! ## Reading -/

/-- What the head of an item announces: a number, or an unannounced length. -/
inductive Length where
  | announced (number : Nat)
  /-- Pieces follow up to a break. -/
  | unannounced
  deriving DecidableEq, Repr

/-- Take a number of bytes off the front. -/
def split? (count : Nat) (bytes : Bytes) : Option (Bytes × Bytes) :=
  if count ≤ bytes.length then some (bytes.take count, bytes.drop count) else none

/-- Read a head of a given kind, and what follows it. -/
def readHead? (kind : Nat) : Bytes → Option (Length × Bytes)
  | [] => none
  | byte :: rest =>
      let wide (places : Nat) : Option (Length × Bytes) :=
        (split? places rest).map fun (number, later) => (.announced (natural number), later)
      if byte.toNat / 32 ≠ kind then none
      else
        let low := byte.toNat % 32
        if low < 24 then some (.announced low, rest)
        else if low = 24 then wide 1
        else if low = 25 then wide 2
        else if low = 26 then wide 4
        else if low = 27 then wide 8
        else if low = 31 then some (.unannounced, rest)
        else none

/-- The byte that ends pieces. -/
def breakByte : UInt8 := 0xff

/-- How deep byte strings in pieces may be nested within one another. -/
def maxNesting : Nat := 256

/-- Read pieces of a byte string up to the break, at most `limit` of them and of
    their pieces. A piece may itself come in pieces. -/
def readPieces? : (limit : Nat) → (nesting : Nat) → Bytes → Option (Bytes × Bytes)
  | 0, _, _ => none
  | limit + 1, nesting, bytes =>
      match bytes with
      | [] => none
      | first :: rest =>
          if first = breakByte then some ([], rest)
          else do
            let (piece, later) ← match readHead? 2 (first :: rest) with
              | some (.announced size, content) => split? size content
              | some (.unannounced, pieces) =>
                  if nesting = 0 then none else readPieces? limit (nesting - 1) pieces
              | none => none
            let (pieces, last) ← readPieces? limit nesting later
            some (piece ++ pieces, last)

/-- Read a byte string, whole or in pieces, and what follows it. Every piece takes
    at least one byte, so that the number of bytes bounds the number of pieces. -/
def readByteString? (bytes : Bytes) : Option (Bytes × Bytes) :=
  match readHead? 2 bytes with
  | some (.announced size, content) => split? size content
  | some (.unannounced, pieces) => readPieces? (pieces.length + 1) (maxNesting - 1) pieces
  | none => none

/-- Read exactly a list of `count` byte strings. -/
def readByteStrings? (count : Nat) (bytes : Bytes) : Option (List Bytes) :=
  match readHead? 4 bytes with
  | some (.announced size, content) => if size = count then items count content else none
  | _ => none
where
  /-- Read byte strings up to the end of the bytes. -/
  items : Nat → Bytes → Option (List Bytes)
    | 0, [] => some []
    | 0, _ :: _ => none
    | count + 1, bytes => do
        let (item, rest) ← readByteString? bytes
        let later ← items count rest
        some (item :: later)

end FilecoinRosetta.Encoding.Cbor
