import Dirextalk.Domain.PublicKey
import Dirextalk.Lib.MerkleTree

/-!
# The tree over a recovery catalog

A manifest names the leaves of a recovery catalog in order, without repetitions, and is
bound to the catalog by the root of the tree over them.  Unless the hash collides on the
pairs that are hashed for two manifests, one root stands for one list of leaves.
-/

namespace Dirextalk.Recovery

open Domain Lib Wire

/-- A refusal with the label of the part that is wrong. -/
structure ProtocolError where
  label : String
  deriving DecidableEq, Repr

/-! ## Leaves of a manifest -/

/-- Takes a leaf that is not among the earlier ones. -/
def collectLeaf (leafDigests : List Sha256Digest) (leaf : Sha256Digest) :
    Except ProtocolError (List Sha256Digest) := do
  rejectIf (leaf ∈ leafDigests) ⟨"leaf duplicate"⟩
  return leafDigests ++ [leaf]

/-- The leaves in their order. -/
def collectLeaves (leaves : List Sha256Digest) : Except ProtocolError (List Sha256Digest) :=
  leaves.foldlM collectLeaf []

/-- A manifest may list its leaves exactly if none is repeated, and keeps their order. -/
theorem collectLeaves_eq_ok {leaves collected : List Sha256Digest} :
    collectLeaves leaves = .ok collected ↔ leaves.Nodup ∧ leaves = collected := by
  have spec (leafDigests : List Sha256Digest) (leaf : Sha256Digest)
      (result : List Sha256Digest) : collectLeaf leafDigests leaf = .ok result ↔
        ¬leaf ∈ leafDigests ∧ leafDigests ++ [leaf] = result := by
    simp only [collectLeaf, bind_eq_ok, rejectIf_eq_ok, pure_eq_ok, exists_const]
  have grows (leafDigests : List Sha256Digest) (leaf other : Sha256Digest) :
      other ∈ leafDigests ++ [leaf] ↔ other = leaf ∨ other ∈ leafDigests := by
    rw [List.mem_append, List.mem_singleton, or_comm]
  have order : leaves.foldl (fun leafDigests leaf => leafDigests ++ [leaf]) [] = leaves := by
    rw [List.foldl_append_eq_append, ← List.flatMap_def, List.flatMap_singleton', List.nil_append]
  rw [collectLeaves, foldlM_eq_ok_iff _ _ spec, order]
  apply and_congr_left
  intro
  exact (along_fresh id (fun leafDigests leaf => leaf ∈ leafDigests) grows).trans (by simp)

/-! ## The root -/

def catalogNodeDomain : List UInt8 := textBytes "dirextalk.recovery-scope-catalog-node.v2\x00"

section Root

variable [Sha256]

/-- An inner node of the tree. -/
def catalogNode (pair : Sha256Digest × Sha256Digest) : Sha256Digest :=
  .hashDomain catalogNodeDomain (pair.1.bytes.toList ++ pair.2.bytes.toList)

/-- Ordered tree root; a last node without a partner is hashed with itself. -/
def catalogMerkleRoot (leaves : List Sha256Digest) : Option Sha256Digest :=
  MerkleTree.root catalogNode leaves

/-- The pairs of digests that are hashed for the root. -/
def catalogPairs (leaves : List Sha256Digest) : List (Sha256Digest × Sha256Digest) :=
  MerkleTree.hashed catalogNode leaves

/-- One root stands for one list of leaves, among lists of one length, and among lists of
any length that a manifest may have and whose leaves are no node hashes. -/
theorem catalogMerkleRoot_eq_iff {xs ys : List Sha256Digest}
    (injective : Set.InjOn catalogNode {pair | pair ∈ catalogPairs xs ∨ pair ∈ catalogPairs ys})
    (comparable : xs.length = ys.length ∨
      collectLeaves xs = .ok xs ∧ collectLeaves ys = .ok ys ∧
        ∀ leaf ∈ xs ++ ys, ∀ pair ∈ catalogPairs xs ++ catalogPairs ys, leaf ≠ catalogNode pair) :
    catalogMerkleRoot xs = catalogMerkleRoot ys ↔ xs = ys := by
  have left : ∀ pair ∈ catalogPairs xs, pair ∈ {pair | pair ∈ catalogPairs xs ∨
      pair ∈ catalogPairs ys} := fun _ => .inl
  have right : ∀ pair ∈ catalogPairs ys, pair ∈ {pair | pair ∈ catalogPairs xs ∨
      pair ∈ catalogPairs ys} := fun _ => .inr
  constructor
  · intro same
    cases comparable with
    | inl lengths => exact MerkleTree.eq_of_root_eq_of_length injective left right lengths same
    | inr accepted =>
      obtain ⟨first, second, leaves⟩ := accepted
      apply MerkleTree.eq_of_root_eq injective left right (collectLeaves_eq_ok.mp first).1
        (collectLeaves_eq_ok.mp second).1 _ _ same
      · intro leaf listed pair paired
        exact leaves leaf (List.mem_append_left _ listed) pair (List.mem_append_right _ paired)
      · intro leaf listed pair paired
        exact leaves leaf (List.mem_append_right _ listed) pair (List.mem_append_left _ paired)
  · intro same
    rw [same]

end Root

/-! ### Three leaves and four -/

section Sample

/-- A hash for concrete trees. -/
abbrev rollingSha256 : Sha256 :=
  ⟨fun message => taggedBytes (message.foldl (fun sum byte => 31 * sum + byte) 7)⟩

attribute [local instance] rollingSha256

def sampleLeaves (count : Nat) : List Sha256Digest :=
  (List.range count).map fun index => ⟨taggedBytes (UInt8.ofNat index)⟩

/-- A tree of three or four leaves has two levels above them. -/
theorem catalogPairs_sample (leaves : List Sha256Digest)
    (few : leaves.length = 3 ∨ leaves.length = 4) :
    catalogPairs leaves = MerkleTree.pairs leaves ++
      MerkleTree.pairs (MerkleTree.parents catalogNode leaves) := by
  have below : 1 < leaves.length := by omega
  have above : 1 < (MerkleTree.parents catalogNode leaves).length := by
    rw [MerkleTree.length_parents]
    omega
  have top : ¬1 < (MerkleTree.parents catalogNode
      (MerkleTree.parents catalogNode leaves)).length := by
    rw [MerkleTree.length_parents, MerkleTree.length_parents]
    omega
  rw [catalogPairs, MerkleTree.hashed_of_several below, MerkleTree.hashed_of_several above,
    MerkleTree.hashed, dif_neg top, List.append_nil]

theorem sample_roots_differ :
    catalogMerkleRoot (sampleLeaves 3) ≠ catalogMerkleRoot (sampleLeaves 4) := by
  have three := catalogPairs_sample (sampleLeaves 3) (.inl (by decide))
  have four := catalogPairs_sample (sampleLeaves 4) (.inr (by decide))
  have collisionFree : ∀ first ∈ catalogPairs (sampleLeaves 3) ++ catalogPairs (sampleLeaves 4),
      ∀ second ∈ catalogPairs (sampleLeaves 3) ++ catalogPairs (sampleLeaves 4),
        catalogNode first = catalogNode second → first = second := by
    rw [three, four]
    decide +kernel
  have leaves : ∀ leaf ∈ sampleLeaves 3 ++ sampleLeaves 4,
      ∀ pair ∈ catalogPairs (sampleLeaves 3) ++ catalogPairs (sampleLeaves 4),
        leaf ≠ catalogNode pair := by
    rw [three, four]
    decide +kernel
  have differ : sampleLeaves 3 ≠ sampleLeaves 4 := by decide +kernel
  apply mt (catalogMerkleRoot_eq_iff _ (.inr ⟨by decide +kernel, by decide +kernel, leaves⟩)).mp
    differ
  intro first firstHashed second secondHashed
  exact collisionFree first (List.mem_append.mpr firstHashed) second
    (List.mem_append.mpr secondHashed)

end Sample

end Dirextalk.Recovery
