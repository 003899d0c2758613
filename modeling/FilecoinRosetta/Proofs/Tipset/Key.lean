import FilecoinRosetta.Proofs.Cid.Binary
import FilecoinRosetta.Proofs.Text.BitGroups
import FilecoinRosetta.Tipset

/-!
# What the hash of a tipset stands for

Blocks are known to clients by a hash of the key of their tipset. The key is hashed
as the binary identifiers one behind the other, without their number and without
anything in between. Each of them shows where it ends, so these bytes belong to no
other key, and a hash stands for one key unless contents collide.
-/

namespace FilecoinRosetta

/-- Hexadecimal tells its values apart, as each of its signs stands
for one value. -/
theorem Text.base16_regular : Text.BitGroups.Regular Text.base16 where
  positive := by decide
  within := by decide
  read := by decide
  narrow := by decide

/-- Different bytes have different hexadecimal texts, so the text of a hash is as
good as the hash. -/
theorem Text.hexText_injective {bytes other : Bytes} (same : hexText bytes = hexText other) :
    bytes = other := by
  have read := base16_regular.decode_encode bytes
  rw [String.ofList_injective same, base16_regular.decode_encode] at read
  exact (Except.ok.inj read).symm

namespace TipsetKey

open Digest.Blake2b (Collide)

/-- The binary form of a key is that of no other one. -/
theorem bytes_injective {key other : TipsetKey} (same : key.bytes = other.bytes) : key = other := by
  obtain ⟨cids⟩ := key
  obtain ⟨otherCids⟩ := other
  exact congrArg mk (Cid.toBytes_delimited.flatMap_injective Cid.toBytes_ne_nil same)

/-- There is no text for a key exactly if it is the empty one. -/
theorem hashText_none_iff (key : TipsetKey) : key.hashText? = none ↔ key = .empty := by
  obtain ⟨cids⟩ := key
  cases cids with
  | nil => exact ⟨fun _ => rfl, fun _ => rfl⟩
  | cons first rest => exact ⟨(nomatch ·), (nomatch ·)⟩

/-- The hash of a key that is not empty is that of the identifier
of its binary form. -/
theorem hashText_some {key : TipsetKey} (isKey : key ≠ .empty) :
    key.hashText? = some (Text.hexText (Cid.ofCbor key.bytes).toBytes) := by
  obtain ⟨cids⟩ := key
  cases cids with
  | nil => exact absurd rfl isKey
  | cons first rest => rfl

/-- Two keys have the same hash exactly if they are the same key, or if
their binary forms collide. -/
theorem hashText_eq_iff {key other : TipsetKey} (isKey : key ≠ .empty) (isOther : other ≠ .empty) :
    key.hashText? = other.hashText? ↔ key = other ∨ Collide key.bytes other.bytes := by
  rw [hashText_some isKey, hashText_some isOther, Option.some.injEq]
  constructor
  · intro same
    have sameCid := Cid.toBytes_delimited.injective (Text.hexText_injective same)
    exact ((Cid.ofCbor_eq_iff _ _).mp sameCid).imp_left bytes_injective
  · intro either
    rw [(Cid.ofCbor_eq_iff _ _).mpr (either.imp_left (congrArg bytes))]

/-- A hash identifies a key. The bytes that are hashed belong to one key only,
whatever the number and the form of its identifiers; only the empty key has no hash;
and if two others have the same hash, their bytes collide. -/
theorem hash_identifies :
    (∀ key other : TipsetKey, key.bytes = other.bytes → key = other) ∧
    (∀ key : TipsetKey, key.hashText? = none ↔ key = .empty) ∧
    ∀ key other : TipsetKey, key ≠ .empty → other ≠ .empty →
      (key.hashText? = other.hashText? ↔ key = other ∨ Collide key.bytes other.bytes) :=
  ⟨fun _ _ => bytes_injective, hashText_none_iff, fun _ _ => hashText_eq_iff⟩

end TipsetKey

end FilecoinRosetta
