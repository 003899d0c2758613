import FilecoinRosetta.Bytes

/-!
# The BLAKE2b digest

Message and tipset identities are 32-byte digests and address checksums are 4-byte
digests of this function, without key. Nothing here depends on its strength:
statements about identities speak of colliding digests where they have to.
-/

namespace FilecoinRosetta.Digest.Blake2b

/-- The initial chaining values. -/
def initial : Vector UInt64 8 :=
  #v[0x6a09e667f3bcc908, 0xbb67ae8584caa73b, 0x3c6ef372fe94f82b, 0xa54ff53a5f1d36f1,
     0x510e527fade682d1, 0x9b05688c2b3e6c1f, 0x1f83d9abfb41bd6b, 0x5be0cd19137e2179]

/-- The order in which the message words enter, one row per round. -/
def schedule : List (List (Fin 16)) :=
  [[0, 1, 2, 3, 4, 5, 6, 7, 8, 9, 10, 11, 12, 13, 14, 15],
   [14, 10, 4, 8, 9, 15, 13, 6, 1, 12, 0, 2, 11, 7, 5, 3],
   [11, 8, 12, 0, 5, 2, 15, 13, 10, 14, 3, 6, 7, 1, 9, 4],
   [7, 9, 3, 1, 13, 12, 11, 14, 2, 6, 5, 10, 4, 0, 15, 8],
   [9, 0, 5, 7, 2, 4, 10, 15, 14, 1, 11, 12, 6, 8, 3, 13],
   [2, 12, 6, 10, 0, 11, 8, 3, 4, 13, 7, 5, 15, 14, 1, 9],
   [12, 5, 1, 15, 14, 13, 4, 10, 0, 7, 6, 3, 9, 2, 8, 11],
   [13, 11, 7, 14, 12, 1, 3, 9, 5, 0, 15, 4, 8, 6, 2, 10],
   [6, 15, 14, 9, 11, 3, 0, 8, 12, 2, 13, 7, 1, 4, 10, 5],
   [10, 2, 8, 4, 7, 6, 1, 5, 15, 11, 9, 14, 3, 12, 13, 0],
   [0, 1, 2, 3, 4, 5, 6, 7, 8, 9, 10, 11, 12, 13, 14, 15],
   [14, 10, 4, 8, 9, 15, 13, 6, 1, 12, 0, 2, 11, 7, 5, 3]]

/-- The four places each of the eight mixing steps of a round works
on: columns, then diagonals. -/
def places : List (Fin 16 × Fin 16 × Fin 16 × Fin 16) :=
  [(0, 4, 8, 12), (1, 5, 9, 13), (2, 6, 10, 14), (3, 7, 11, 15),
   (0, 5, 10, 15), (1, 6, 11, 12), (2, 7, 8, 13), (3, 4, 9, 14)]

/-- Rotate a word to the right. -/
def rotate (word : UInt64) (distance : UInt64) : UInt64 :=
  (word >>> distance) ||| (word <<< (64 - distance))

/-- Mix two message words into four places of the state. -/
def mix (state : Vector UInt64 16) (place : Fin 16 × Fin 16 × Fin 16 × Fin 16) (x y : UInt64) :
    Vector UInt64 16 :=
  let (i, j, k, l) := place
  let a := state[i] + state[j] + x
  let d := rotate (state[l] ^^^ a) 32
  let c := state[k] + d
  let b := rotate (state[j] ^^^ c) 24
  let a := a + b + y
  let d := rotate (d ^^^ a) 16
  let c := c + d
  let b := rotate (b ^^^ c) 63
  (((state.set i a).set j b).set k c).set l d

/-- The message words of a round in pairs, one pair for each mixing step. -/
def pairs : List (Fin 16) → List (Fin 16 × Fin 16)
  | first :: second :: rest => (first, second) :: pairs rest
  | _ => []

/-- One round: eight mixing steps with the words in the order of its row. -/
def round (words : Vector UInt64 16) (state : Vector UInt64 16) (row : List (Fin 16)) :
    Vector UInt64 16 :=
  (places.zip (pairs row)).foldl
    (fun current (place, x, y) => mix current place words[x] words[y]) state

/-- The word that eight bytes stand for, least significant first. -/
def word (bytes : Bytes) : UInt64 :=
  bytes.foldr (fun byte higher => higher <<< 8 ||| byte.toUInt64) 0

/-- The sixteen words of a block; missing bytes count as zero. -/
def blockWords (block : Bytes) : Vector UInt64 16 :=
  Vector.ofFn fun place : Fin 16 => word ((block.drop (8 * place.val)).take 8)

/-- Fold one block of at most 128 bytes into the chaining values. `count` is the
    number of message bytes up to the end of this block. -/
def compress (chain : Vector UInt64 8) (block : Bytes) (count : Nat) (last : Bool) :
    Vector UInt64 8 :=
  let state : Vector UInt64 16 := chain ++ initial
  let state := state.set 12 (state[12] ^^^ UInt64.ofNat count)
  let state := state.set 13 (state[13] ^^^ UInt64.ofNat (count / UInt64.size))
  let state := if last then state.set 14 (~~~ state[14]) else state
  let mixed := schedule.foldl (round (blockWords block)) state
  Vector.ofFn fun place : Fin 8 =>
    chain[place] ^^^ mixed[place.val] ^^^ mixed[place.val + 8]

/-- Fold a whole message, `count` bytes of which came before. Even an empty
message has one block. -/
def absorb (chain : Vector UInt64 8) (message : Bytes) (count : Nat) : Vector UInt64 8 :=
  if message.length ≤ 128 then compress chain message (count + message.length) true
  else
    absorb (compress chain (message.take 128) (count + 128) false) (message.drop 128) (count + 128)
termination_by message.length
decreasing_by
  simp only [List.length_drop]
  omega

/-- The eight bytes of a word, least significant first. -/
def wordBytes (word : UInt64) : Bytes :=
  (List.range 8).map fun place => (word >>> UInt64.ofNat (8 * place)).toUInt8

/-- The digest of `size` bytes, at most 64. -/
def digest (size : Nat) (message : Bytes) : Bytes :=
  let chain := initial.set 0 (initial[0] ^^^ 0x01010000 ^^^ UInt64.ofNat size)
  ((absorb chain message 0).toList.flatMap wordBytes).take size

/-- A digest is never longer than asked for, so the identifiers made of it
stay within their bound. -/
theorem digest_length_le (size : Nat) (message : Bytes) : (digest size message).length ≤ size :=
  List.length_take_le ..

end FilecoinRosetta.Digest.Blake2b
