import Mathlib.Data.List.AList

/-! Hash maps, with their iteration order.

A hash map is an association list without repeated keys; the order of the list is
the order in which the map is iterated, which the program does not choose. What is
added to `AList` here is iteration over the values and a map over them in place. -/
namespace WsNet.Data

abbrev HashMap (κ ν : Type*) := AList fun _ : κ => ν

namespace HashMap
variable {κ ν μ : Type*}

/-- The values, in iteration order. -/
def values (m : HashMap κ ν) : List ν := m.entries.map Sigma.snd

/-- Every value replaced in place. -/
def mapValues (f : ν → μ) (m : HashMap κ ν) : HashMap κ μ where
  entries := m.entries.map fun e => ⟨e.1, f e.2⟩
  nodupKeys := by
    have h : (m.entries.map fun e => (⟨e.1, f e.2⟩ : Sigma fun _ : κ => μ)).keys = m.entries.keys := by
      simp [List.keys, Function.comp_def]
    have hn := m.nodupKeys
    unfold List.NodupKeys at hn ⊢
    rw [h]
    exact hn

@[simp] theorem keys_mapValues (f : ν → μ) (m : HashMap κ ν) : (mapValues f m).keys = m.keys := by
  simp [mapValues, AList.keys, List.keys, Function.comp_def]

@[simp] theorem mem_mapValues (f : ν → μ) (m : HashMap κ ν) (k : κ) :
    k ∈ mapValues f m ↔ k ∈ m := by
  rw [AList.mem_keys, AList.mem_keys, keys_mapValues]

variable [DecidableEq κ]

theorem lookup_eq_some_iff (m : HashMap κ ν) (k : κ) (v : ν) :
    m.lookup k = some v ↔ (⟨k, v⟩ : Sigma fun _ : κ => ν) ∈ m.entries :=
  AList.mem_lookup_iff

theorem mem_values (m : HashMap κ ν) (v : ν) : v ∈ values m ↔ ∃ k, m.lookup k = some v := by
  simp only [values, List.mem_map, lookup_eq_some_iff]
  constructor
  · intro hentry
    obtain ⟨⟨k, w⟩, hmem, rfl⟩ := hentry
    exact ⟨k, hmem⟩
  · intro hentry
    obtain ⟨k, hmem⟩ := hentry
    exact ⟨⟨k, v⟩, hmem, rfl⟩

@[simp] theorem lookup_mapValues (f : ν → μ) (m : HashMap κ ν) (k : κ) :
    (mapValues f m).lookup k = (m.lookup k).map f := by
  cases h : m.lookup k with
  | none =>
    rw [AList.lookup_eq_none] at h
    rw [Option.map_none, AList.lookup_eq_none, mem_mapValues]
    exact h
  | some v =>
    rw [Option.map_some, lookup_eq_some_iff]
    exact List.mem_map.mpr ⟨⟨k, v⟩, (lookup_eq_some_iff m k v).mp h, rfl⟩

theorem lookup_insert_some {m : HashMap κ ν} {k k' : κ} {v w : ν}
    (h : (m.insert k v).lookup k' = some w) : (k' = k ∧ w = v) ∨ (k' ≠ k ∧ m.lookup k' = some w) := by
  by_cases hk : k' = k
  · subst hk
    rw [AList.lookup_insert] at h
    exact .inl ⟨rfl, (Option.some.inj h).symm⟩
  · rw [AList.lookup_insert_ne hk] at h
    exact .inr ⟨hk, h⟩

theorem lookup_erase_some {m : HashMap κ ν} {k k' : κ} {w : ν}
    (h : (m.erase k).lookup k' = some w) : k' ≠ k ∧ m.lookup k' = some w := by
  by_cases hk : k' = k
  · subst hk
    rw [AList.lookup_erase] at h
    cases h
  · rw [AList.lookup_erase_ne hk] at h
    exact ⟨hk, h⟩

/-! ### Reordering -/

/-- The same map, iterated in another order. -/
def Reordered (m m' : HashMap κ ν) : Prop := m.entries.Perm m'.entries

namespace Reordered
variable {m m' : HashMap κ ν}

omit [DecidableEq κ] in
@[refl] theorem refl (m : HashMap κ ν) : Reordered m m := List.Perm.refl _

theorem lookup (h : Reordered m m') (k : κ) : m.lookup k = m'.lookup k := AList.perm_lookup h

theorem insert (h : Reordered m m') (k : κ) (v : ν) : Reordered (m.insert k v) (m'.insert k v) :=
  AList.perm_insert h

omit [DecidableEq κ] in
theorem keys (h : Reordered m m') : m.keys.Perm m'.keys := List.Perm.map _ h

omit [DecidableEq κ] in
theorem values (h : Reordered m m') : (values m).Perm (values m') := List.Perm.map _ h

omit [DecidableEq κ] in
theorem mapValues (h : Reordered m m') (f : ν → μ) :
    Reordered (mapValues f m) (mapValues f m') := List.Perm.map _ h

end Reordered

/-- The map iterated backwards. -/
def reverse (m : HashMap κ ν) : HashMap κ ν :=
  ⟨m.entries.reverse, (List.perm_nodupKeys (List.reverse_perm m.entries)).mpr m.nodupKeys⟩

omit [DecidableEq κ] in
theorem reordered_reverse (m : HashMap κ ν) : Reordered m (reverse m) :=
  (List.reverse_perm m.entries).symm

end HashMap

end WsNet.Data
