import FilecoinRosetta.Encoding.Varint
import FilecoinRosetta.Digest.Blake2b
import FilecoinRosetta.Text.Multibase

/-!
# Content identifiers

Blocks, messages, actor code and state roots are named by content identifiers.
Version 0 is a bare SHA-256 digest in base 58; version 1 carries a content codec and
a hash of any kind of at most 64 bytes. The binary form is what tipset keys hash;
the text is what the node and the clients exchange.
-/

namespace FilecoinRosetta

/-- A digest together with the code of its hash function. -/
structure Multihash where
  /-- The registered code of the hash function. -/
  code : UInt64
  digest : Bytes
  /-- Digests take at most 64 bytes. -/
  digest_le : digest.length ≤ 64
  deriving DecidableEq

/-- A content identifier. -/
inductive Cid where
  /-- Version 0: a SHA-256 digest of Protobuf-encoded content. -/
  | v0 (digest : SizedBytes 32)
  /-- Version 1: a content codec and a hash. -/
  | v1 (codec : UInt64) (hash : Multihash)
  deriving DecidableEq

namespace Cid

/-- The codec of raw bytes. -/
def rawCodec : UInt64 := 0x55

/-- The codec of linked CBOR data. -/
def dagCbor : UInt64 := 0x71

/-- The hash code under which the digest is the content itself. -/
def identityCode : UInt64 := 0x00

/-- The hash code of SHA-256. -/
def sha256Code : UInt64 := 0x12

/-- The hash code of BLAKE2b with 32 bytes. -/
def blake2b256Code : UInt64 := 0xb220

/-- The digest under a version 1 identifier of linked data: BLAKE2b with 32
bytes, as a multihash. -/
def blake2b256 (content : Bytes) : Multihash :=
  ⟨blake2b256Code, Digest.Blake2b.digest 32 content,
    Nat.le_trans (Digest.Blake2b.digest_length_le 32 content) (by decide)⟩

/-- The identifier of linked CBOR data. -/
def ofCbor (content : Bytes) : Cid :=
  .v1 dagCbor (blake2b256 content)

/-- The identifier with empty raw content and an identity hash, which stands in
where none is given. -/
def default : Cid :=
  .v1 0 ⟨identityCode, [], by decide⟩

instance : Inhabited Cid := ⟨default⟩

/-- The content codec. -/
def codec : Cid → UInt64
  | v0 _ => 0x70
  | v1 codec _ => codec

/-- The hash code. -/
def hashCode : Cid → UInt64
  | v0 _ => sha256Code
  | v1 _ hash => hash.code

/-- The digest. -/
def digest : Cid → Bytes
  | v0 digest => digest.bytes
  | v1 _ hash => hash.digest

/-- The binary form. -/
def toBytes : Cid → Bytes
  | v0 digest => 0x12 :: 0x20 :: digest.bytes
  | v1 codec hash =>
      Encoding.Varint.encode 1 ++ Encoding.Varint.encode codec.toNat ++
        Encoding.Varint.encode hash.code.toNat ++
          Encoding.Varint.encode hash.digest.length ++ hash.digest

/-- Why a text or a byte string is no content identifier. -/
inductive ParseError where
  /-- Fewer than two bytes of text. -/
  | tooShort
  /-- The text is not in a known base, or the hash is malformed or too long. -/
  | badHash
  /-- The version is neither 0 nor 1. -/
  | unknownVersion
  /-- A number is not in its shortest form, or too long. -/
  | badVarint
  /-- Version 0 has no explicit form. -/
  | explicitV0
  /-- The digest of a version 0 identifier is cut off. -/
  | shortDigest
  /-- The bytes end within a number. -/
  | unexpectedEnd
  deriving DecidableEq, Repr

/-- The wording of a parse error. -/
def ParseError.message : ParseError → String
  | .tooShort => "Input too short"
  | .badHash => "Failed to parse multihash"
  | .unknownVersion => "Unrecognized CID version"
  | .badVarint => "Failed to decode unsigned varint format"
  | .explicitV0 => "CIDv0 cannot be specified in CIDv1 format"
  | .shortDigest => "failed to fill whole buffer"
  | .unexpectedEnd => "unexpected end of file"

/-- Read a leading number of the binary form. -/
def readNumber (bytes : Bytes) : Except ParseError (UInt64 × Bytes) :=
  match Encoding.Varint.decode bytes with
  | .ok found => .ok found
  | .error .truncated => .error .unexpectedEnd
  | .error .tooLong => .error .badVarint
  | .error .notShortest => .error .badVarint

/-- Read a multihash; every fault of it has the same wording. What
follows it is ignored. -/
def readHash (bytes : Bytes) : Except ParseError Multihash :=
  match Encoding.Varint.decode bytes with
  | .error _ => .error .badHash
  | .ok (code, rest) =>
      match Encoding.Varint.decode rest with
      | .error _ => .error .badHash
      | .ok (size, content) =>
          if fits : size.toNat ≤ 64 ∧ size.toNat ≤ content.length then
            .ok ⟨code, content.take size.toNat, by rw [List.length_take]; omega⟩
          else .error .badHash

/-- Read the binary form. What follows an identifier is ignored. -/
def ofBytes (bytes : Bytes) : Except ParseError Cid := do
  let (version, afterVersion) ← readNumber bytes
  let (codec, rest) ← readNumber afterVersion
  if version = 0x12 ∧ codec = 0x20 then
    match SizedBytes.ofBytes? 32 (rest.take 32) with
    | some digest => .ok (.v0 digest)
    | none => .error .shortDigest
  else if version = 0 then .error .explicitV0
  else if version = 1 then do
    let hash ← readHash rest
    .ok (.v1 codec hash)
  else .error .unknownVersion

/-- The display form: base 58 for version 0, lower-case base 32 for version 1. -/
def text : Cid → String
  | v0 digest => String.ofList (Text.Radix.encode Text.Multibase.base58Symbols (v0 digest).toBytes)
  | v1 codec hash => String.ofList (Text.Multibase.write (v1 codec hash).toBytes)

instance : ToString Cid := ⟨text⟩

/-- The path component that may precede an identifier. -/
def pathMark : List Char := "/ipfs/".toList

/-- The text behind the first occurrence of the path component, or all of it. -/
def afterPathMark (whole : List Char) : List Char → List Char
  | [] => whole
  | sign :: rest =>
      if pathMark.isPrefixOf (sign :: rest) then (sign :: rest).drop pathMark.length
      else afterPathMark whole rest

/-- Whether a text has the shape of a version 0 identifier. -/
def looksLikeV0 (signs : List Char) : Bool :=
  Text.BitGroups.Alphabet.textSize signs == 46 && "Qm".toList.isPrefixOf signs

/-- Read the text of an identifier, alone or behind a path component. -/
def parse (source : String) : Except ParseError Cid :=
  let signs := afterPathMark source.toList source.toList
  if Text.BitGroups.Alphabet.textSize signs < 2 then .error .tooShort
  else
    let decoded :=
      if looksLikeV0 signs then Text.Radix.decode? Text.Multibase.base58Symbols signs
      else Text.Multibase.read? signs
    match decoded with
    | some bytes => ofBytes bytes
    | none => .error .badHash

end Cid

end FilecoinRosetta
