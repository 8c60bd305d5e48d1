import Mathlib.Data.List.Forall2
import PortMapper.Settings.Basic

/-!
# The allow list and how its addresses are written

An IPv4 address is written as it is or in its mapped form, and these are all the ways to write one host
(`sameHost_iff`). How a peer is written does not matter (`allows_sameHost`). How an entry is written matters for one
address only: 0.0.0.0 lets everyone in, and its mapped form just the host of that address (`allows_eq_iff`).
-/

namespace PortMapper

namespace IpAddress

variable {a b : IpAddress}

/-- Two addresses are the same, but for the mapping. -/
inductive SameHost : IpAddress → IpAddress → Prop
  | refl (a : IpAddress) : SameHost a a
  | map (bits : BitVec 32) : SameHost (v4 bits) (v6 (mapped bits))
  | unmap (bits : BitVec 32) : SameHost (v6 (mapped bits)) (v4 bits)

theorem mapped?_eq_some {bits : BitVec 128} {inner : BitVec 32} : mapped? bits = some inner ↔ bits = mapped inner := by
  constructor
  · intro maps
    rw [mapped?, Option.ite_none_right_eq_some] at maps
    obtain ⟨high, same⟩ := maps
    have low : inner.toNat = bits.toNat % 4294967296 := by
      rw [← Option.some.inj same, BitVec.toNat_ofNat]
    apply BitVec.eq_of_toNat_eq
    rw [mapped, BitVec.toNat_ofNat, low]
    omega
  · rintro rfl
    exact mapped?_mapped inner

theorem canonical_v6_eq_v4 {bits : BitVec 128} {inner : BitVec 32} :
    canonical (v6 bits) = v4 inner ↔ bits = mapped inner := by
  rw [← mapped?_eq_some, canonical]
  cases mapped? bits <;> simp

/-- The canonical form undoes the mapping and nothing else. -/
theorem sameHost_iff : SameHost a b ↔ a.canonical = b.canonical := by
  constructor
  · rintro (_ | bits | bits)
    · rfl
    · exact (canonical_mapped bits).symm
    · exact canonical_mapped bits
  · intro same
    match a, b with
    | v4 _, v4 _ =>
      cases same
      exact .refl _
    | v4 bits, v6 _ =>
      obtain rfl := canonical_v6_eq_v4.mp same.symm
      exact .map bits
    | v6 _, v4 bits =>
      obtain rfl := canonical_v6_eq_v4.mp same
      exact .unmap bits
    | v6 own, v6 other =>
      -- Either both are mapped forms, of the same address, or neither is.
      cases maps : mapped? own with
      | some inner =>
        obtain rfl := mapped?_eq_some.mp maps
        obtain rfl := canonical_v6_eq_v4.mp (same.symm.trans (canonical_mapped inner))
        exact .refl _
      | none =>
        cases maps' : mapped? other with
        | some inner =>
          obtain rfl := mapped?_eq_some.mp maps'
          obtain rfl := canonical_v6_eq_v4.mp (same.trans (canonical_mapped inner))
          exact .refl _
        | none =>
          simp only [canonical, maps, maps'] at same
          cases same
          exact .refl _

theorem isUnspecified_iff : a.isUnspecified = true ↔ a = v4 0 ∨ a = v6 0 := by
  cases a <;> simp [isUnspecified]

end IpAddress

namespace ServerSettings

open IpAddress (SameHost sameHost_iff)

variable {settings respelled : ServerSettings} {peer peer' : IpAddress}

/-- One of the two addresses that let everyone in is in the allow list. -/
def HasWildcard (settings : ServerSettings) : Prop :=
  .v4 0 ∈ settings.allowed ∨ .v6 0 ∈ settings.allowed

theorem hasWildcard_iff : settings.HasWildcard ↔ ∃ entry ∈ settings.allowed, entry.isUnspecified = true := by
  simp only [HasWildcard, IpAddress.isUnspecified_iff, and_or_left, exists_or, exists_eq_right]

/-- Some entry of the allow list is an address of the peer. -/
def Lists (settings : ServerSettings) (peer : IpAddress) : Prop :=
  ∃ entry ∈ settings.allowed, SameHost entry peer

theorem allows_iff : settings.allows peer = true ↔
    settings.allowed = [] ∨ settings.HasWildcard ∨ settings.Lists peer := by
  rw [allows, Bool.or_eq_true, List.isEmpty_iff, List.any_eq_true, hasWildcard_iff, Lists]
  simp only [Bool.or_eq_true, decide_eq_true_eq, ← sameHost_iff, and_or_left, exists_or]

theorem allows_sameHost (same : SameHost peer peer') : settings.allows peer = settings.allows peer' :=
  settings.allows_canonical (sameHost_iff.mp same)

/-- Lists that are the same but for the mapping list the same hosts. -/
theorem lists_iff_of_forall₂ (same : List.Forall₂ SameHost settings.allowed respelled.allowed) :
    settings.Lists peer ↔ respelled.Lists peer := by
  have hosts : settings.allowed.map IpAddress.canonical = respelled.allowed.map IpAddress.canonical := by
    rw [← List.forall₂_eq_eq_eq, List.forall₂_map_left_iff, List.forall₂_map_right_iff]
    exact same.imp fun _ _ => sameHost_iff.mp
  have lists (settings : ServerSettings) :
      settings.Lists peer ↔ peer.canonical ∈ settings.allowed.map IpAddress.canonical := by
    simp only [Lists, sameHost_iff, List.mem_map]
  rw [lists, lists, hosts]

theorem allows_eq_iff (same : List.Forall₂ SameHost settings.allowed respelled.allowed) :
    respelled.allows peer = settings.allows peer ↔
      (respelled.HasWildcard ↔ settings.HasWildcard) ∨ settings.Lists peer := by
  have length := same.length_eq
  rw [Bool.eq_iff_iff, allows_iff, allows_iff, ← lists_iff_of_forall₂ same]
  by_cases empty : settings.allowed = []
  · have empty' : respelled.allowed = [] := List.length_eq_zero_iff.mp (by rw [← length, empty, List.length_nil])
    simp only [HasWildcard, empty, empty', List.not_mem_nil, true_or, or_self]
  · have empty' : respelled.allowed ≠ [] := fun none =>
      empty (List.length_eq_zero_iff.mp (by rw [length, none, List.length_nil]))
    simp only [empty, empty', false_or]
    tauto

/-- Only as 0.0.0.0 can a wildcard be lost, since `::` is no mapped form. -/
theorem HasWildcard.of_forall₂ (wild : settings.HasWildcard)
    (same : List.Forall₂ SameHost settings.allowed respelled.allowed)
    (plain : .v6 (IpAddress.mapped 0) ∉ respelled.allowed) : respelled.HasWildcard := by
  rcases wild with listed | listed
  · obtain ⟨entry, member, host⟩ := (lists_iff_of_forall₂ same).mp ⟨_, listed, .refl _⟩
    cases host with
    | refl => exact .inl member
    | unmap => exact absurd member plain
  · obtain ⟨entry, member, host⟩ := (lists_iff_of_forall₂ same).mp ⟨_, listed, .refl _⟩
    generalize bits : (0 : BitVec 128) = zero at host
    cases host with
    | refl => exact .inr (bits ▸ member)
    | map inner => cases (IpAddress.mapped?_eq_some.mpr bits)

/-! ## What depends on the spelling -/

/-- A peer is let in if the list is empty, holds 0.0.0.0 or `::` just as these are written, or holds an address of the
peer up to the mapping. The spelling of the peer does not matter. Entries that are written in the other form answer a
peer alike exactly if both lists have a wildcard or neither has, or the peer is in the list anyway; so it is the
spelling of 0.0.0.0 alone that matters. -/
theorem spelling_matters_for_wildcard_only (settings : ServerSettings) :
    (∀ peer, settings.allows peer = true ↔
      settings.allowed = [] ∨ settings.HasWildcard ∨ settings.Lists peer) ∧
    (∀ peer peer', SameHost peer peer' → settings.allows peer = settings.allows peer') ∧
    ∀ respelled : ServerSettings, List.Forall₂ SameHost settings.allowed respelled.allowed →
      (∀ peer, respelled.allows peer = settings.allows peer ↔
        (respelled.HasWildcard ↔ settings.HasWildcard) ∨ settings.Lists peer) ∧
      (.v6 (IpAddress.mapped 0) ∉ settings.allowed → .v6 (IpAddress.mapped 0) ∉ respelled.allowed →
        ∀ peer, respelled.allows peer = settings.allows peer) := by
  refine ⟨fun _ => allows_iff, fun _ _ => allows_sameHost, fun respelled same =>
    ⟨fun _ => allows_eq_iff same, fun plain plain' peer => ?_⟩⟩
  have back : List.Forall₂ SameHost respelled.allowed settings.allowed :=
    (same.imp fun _ _ host => sameHost_iff.mpr (sameHost_iff.mp host).symm).flip
  exact (allows_eq_iff same).mpr
    (.inl ⟨fun wild => wild.of_forall₂ back plain, fun wild => wild.of_forall₂ same plain'⟩)

/-- A list of 10.0.0.1 and `::1` lets the same peers in with the first address in its mapped form. -/
theorem spelling_matters_for_wildcard_only_of_one_host :
    let settings : ServerSettings := { allowed := [.v4 0x0a000001, .loopback6] }
    let respelled : ServerSettings := { allowed := [.v6 (IpAddress.mapped 0x0a000001), .loopback6] }
    (∀ peer, respelled.allows peer = settings.allows peer) ∧
      respelled.allows (.v4 0x0a000001) = true ∧ respelled.allows (.v4 0x0a000007) = false := by
  obtain ⟨_, _, respelling⟩ := spelling_matters_for_wildcard_only { allowed := [.v4 0x0a000001, .loopback6] }
  obtain ⟨_, plain⟩ := respelling { allowed := [.v6 (IpAddress.mapped 0x0a000001), .loopback6] }
    (.cons (.map _) (.cons (.refl _) .nil))
  exact ⟨plain (by decide) (by decide), by decide, by decide⟩

/-- In its mapped form 0.0.0.0 no longer lets everyone in, although it is the same host. -/
theorem mapped_wildcard_locks_out :
    let settings : ServerSettings := { allowed := [.v4 0] }
    let respelled : ServerSettings := { allowed := [.v6 (IpAddress.mapped 0)] }
    List.Forall₂ SameHost settings.allowed respelled.allowed ∧
      settings.allows (.v4 0x0a000007) = true ∧ respelled.allows (.v4 0x0a000007) = false :=
  ⟨.cons (.map 0) .nil, by decide, by decide⟩

end ServerSettings

end PortMapper
