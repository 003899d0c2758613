import FilecoinRosetta.Cid
import FilecoinRosetta.Proofs.Encoding.Varint

/-!
# Identifiers in binary form

The binary form of an identifier shows where it ends: the first byte tells the
version, and the size of a digest is fixed or stands in front of it. What
identifiers of linked data hash is told by them only as far as the digest tells it,
so every statement on identities names the two contents that would have to collide.
-/

namespace FilecoinRosetta

/-- Two contents that differ and have the same digest of 32 bytes. -/
structure Digest.Blake2b.Collide (first second : Bytes) : Prop where
  /-- They are not the same. -/
  differ : first ≠ second
  /-- Their digests are. -/
  digest_eq : digest 32 first = digest 32 second

namespace Cid

open Digest.Blake2b (Collide)

/-- The identifiers of linked data are the same for the same content,
or if contents collide. -/
theorem ofCbor_eq_iff (first second : Bytes) :
    ofCbor first = ofCbor second ↔ first = second ∨ Collide first second := by
  constructor
  · intro same
    by_cases equal : first = second
    · exact .inl equal
    · have sameHash : blake2b256 first = blake2b256 second := (v1.inj same).2
      exact .inr ⟨equal, congrArg Multihash.digest sameHash⟩
  · rintro (rfl | collide)
    · rfl
    · simp only [ofCbor, blake2b256, collide.digest_eq]

/-- A code is never written as nothing: its version comes first. -/
theorem toBytes_ne_nil (cid : Cid) : cid.toBytes ≠ [] := by
  cases cid with
  | v0 digest => exact List.cons_ne_nil _ _
  | v1 codec hash =>
    intro none
    simp only [toBytes, List.append_eq_nil_iff] at none
    exact Encoding.Varint.encode_ne_nil 1 none.1.1.1.1

/-- The binary form begins with the version, as which a bare digest counts too. -/
theorem encode_one : Encoding.Varint.encode 1 = [1] := by
  rw [Encoding.Varint.encode]
  rfl

/-- An identifier shows where it ends: nothing that follows is taken for
a part of it. -/
theorem toBytes_delimited : Encoding.Delimited toBytes := by
  intro cid other rest more same
  cases cid with
  | v0 digest =>
    cases other with
    | v0 otherDigest =>
      have sameSize : digest.bytes.length = otherDigest.bytes.length :=
        digest.length_eq.trans otherDigest.length_eq.symm
      simp only [toBytes, List.cons_append, List.cons.injEq, true_and] at same
      obtain ⟨sameDigest, sameRest⟩ := List.append_inj same sameSize
      cases digest
      cases otherDigest
      cases sameDigest
      exact ⟨rfl, sameRest⟩
    | v1 codec hash =>
      have impossible : ¬ (0x12 : UInt8) = 1 := by decide
      simp only [toBytes, encode_one, List.cons_append, List.cons.injEq] at same
      exact absurd same.1 impossible
  | v1 codec hash =>
    cases other with
    | v0 otherDigest =>
      have impossible : ¬ (1 : UInt8) = 0x12 := by decide
      simp only [toBytes, encode_one, List.cons_append, List.cons.injEq] at same
      exact absurd same.1 impossible
    | v1 otherCodec otherHash =>
      simp only [toBytes, List.append_assoc] at same
      obtain ⟨-, same⟩ := Encoding.Varint.delimited same
      obtain ⟨sameCodec, same⟩ := Encoding.Varint.delimited same
      obtain ⟨sameCode, same⟩ := Encoding.Varint.delimited same
      obtain ⟨sameSize, same⟩ := Encoding.Varint.delimited same
      obtain ⟨sameDigest, sameRest⟩ := List.append_inj same sameSize
      obtain rfl := UInt64.toNat_inj.mp sameCodec
      obtain ⟨code, digest, fits⟩ := hash
      obtain ⟨otherCode, otherDigest, otherFits⟩ := otherHash
      obtain rfl : code = otherCode := UInt64.toNat_inj.mp sameCode
      obtain rfl : digest = otherDigest := sameDigest
      exact ⟨rfl, sameRest⟩

end Cid

end FilecoinRosetta
