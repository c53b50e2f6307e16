import NwbLot.Ecs.EntityId

/-!
# Component pools

A pool keeps the components of one type densely, next to the handles of their entities; the sparse
array leads from an entity's slot to its place in the dense arrays.
-/

namespace NwbLot.Ecs

/-- The dense index of a slot without a component. -/
def noDenseIndex : UInt32 := ~~~0

/-- A sparse set of components. -/
structure ComponentPool (α : Type*) where
  sparse : List UInt32 := []
  dense : List EntityID := []
  components : List α := []
  mutationVersion : UInt64 := 0

namespace ComponentPool

variable {α β : Type*}

/-- Where the entity's component lies. -/
def findDenseIndex (pool : ComponentPool α) (entityId : EntityID) : Option UInt32 :=
  if UInt32.ofNat pool.sparse.length ≤ entityId.index then none
  else
    match pool.sparse[entityId.index.toNat]? with
    | none => none
    | some denseIndex =>
      if UInt32.ofNat pool.dense.length ≤ denseIndex then none
      else if pool.dense[denseIndex.toNat]? != some entityId then none
      else some denseIndex

/-- `m_sparse.resize(size, ~0u)` when that grows the array. -/
def growSparse (sparse : List UInt32) (size : ℕ) : List UInt32 :=
  sparse ++ List.replicate (size - sparse.length) noDenseIndex

/-- The component of an entity that has one is kept, and the new value dropped. -/
def add (pool : ComponentPool α) (entityId : EntityID) (component : α) : ComponentPool α :=
  match pool.findDenseIndex entityId with
  | some _ => pool
  | none =>
    let index := entityId.index
    let sparse :=
      if UInt32.ofNat pool.sparse.length ≤ index then growSparse pool.sparse (index.toNat + 1)
      else pool.sparse
    { sparse := sparse.set index.toNat (UInt32.ofNat pool.dense.length)
      dense := pool.dense ++ [entityId]
      components := pool.components ++ [component]
      mutationVersion := pool.mutationVersion + 1 }

/-- The component of an entity. -/
def tryGet (pool : ComponentPool α) (entityId : EntityID) : Option α :=
  match pool.findDenseIndex entityId with
  | none => none
  | some denseIndex => pool.components[denseIndex.toNat]?

/-- The entity has a component. -/
def has (pool : ComponentPool α) (entityId : EntityID) : Bool :=
  (pool.findDenseIndex entityId).isSome

/-- The last dense entry moves into the hole, unless it is the one that goes. -/
def fillHole (pool : ComponentPool α) (denseIndex lastDense : UInt32) : ComponentPool α :=
  if denseIndex != lastDense then
    match pool.dense[lastDense.toNat]?, pool.components[lastDense.toNat]? with
    | some lastEntityId, some lastComponent =>
      { pool with
        dense := pool.dense.set denseIndex.toNat lastEntityId
        components := pool.components.set denseIndex.toNat lastComponent
        sparse := pool.sparse.set lastEntityId.index.toNat denseIndex }
    | _, _ => pool
  else pool

/-- The last component fills the gap. -/
def remove (pool : ComponentPool α) (entityId : EntityID) : Bool × ComponentPool α :=
  match pool.findDenseIndex entityId with
  | none => (false, pool)
  | some denseIndex =>
    let filled := pool.fillHole denseIndex (UInt32.ofNat pool.dense.length - 1)
    (true,
      { sparse := filled.sparse.set entityId.index.toNat noDenseIndex
        dense := filled.dense.dropLast
        components := filled.components.dropLast
        mutationVersion := pool.mutationVersion + 1 })

/-! ## The sparse and dense arrays -/

/-- The sparse and the dense array are inverse to each other, and every dense entry has a
component. -/
structure Inverse (pool : ComponentPool α) : Prop where
  paired : pool.components.length = pool.dense.length
  bounded : pool.sparse.length ≤ 2 ^ 22
  toSparse : ∀ (d : ℕ) entityId, pool.dense[d]? = some entityId →
    ∃ denseIndex, pool.sparse[entityId.index.toNat]? = some denseIndex ∧ denseIndex.toNat = d
  toDense : ∀ (i : ℕ) denseIndex, pool.sparse[i]? = some denseIndex → denseIndex ≠ noDenseIndex →
    ∃ entityId, pool.dense[denseIndex.toNat]? = some entityId ∧ entityId.index.toNat = i

namespace Inverse

variable {pool : ComponentPool α}

lemma empty : ({} : ComponentPool α).Inverse where
  paired := rfl
  bounded := by simp
  toSparse := by simp
  toDense := by simp

variable {entityId : EntityID}

/-- One dense entry for every slot. -/
lemma dense_inj (h : pool.Inverse) {d d' : ℕ} {entityId' : EntityID}
    (hd : pool.dense[d]? = some entityId) (hd' : pool.dense[d']? = some entityId')
    (hindex : entityId.index = entityId'.index) : d = d' := by
  obtain ⟨denseIndex, hsparse, rfl⟩ := h.toSparse d entityId hd
  obtain ⟨denseIndex', hsparse', rfl⟩ := h.toSparse d' entityId' hd'
  rw [hindex, hsparse', Option.some.injEq] at hsparse
  rw [hsparse]

lemma dense_length_le (h : pool.Inverse) : pool.dense.length ≤ pool.sparse.length := by
  have hnodup : (pool.dense.map fun entityId => entityId.index.toNat).Nodup := by
    refine List.nodup_iff_getElem?_ne_getElem?.2 fun d d' hlt hd' heq => ?_
    rw [List.length_map] at hd'
    rw [List.getElem?_map, List.getElem?_map, List.getElem?_eq_getElem (hlt.trans hd'),
      List.getElem?_eq_getElem hd', Option.map_some, Option.map_some, Option.some.injEq] at heq
    have := h.dense_inj (List.getElem?_eq_getElem (hlt.trans hd')) (List.getElem?_eq_getElem hd')
      (UInt32.toNat_inj.1 heq)
    omega
  have hsub : (pool.dense.map fun entityId => entityId.index.toNat)
      ⊆ List.range pool.sparse.length := by
    intro i hi
    obtain ⟨entityId, hmem, rfl⟩ := List.mem_map.1 hi
    obtain ⟨d, hd⟩ := List.mem_iff_getElem?.1 hmem
    obtain ⟨denseIndex, hsparse, -⟩ := h.toSparse d entityId hd
    exact List.mem_range.2 (List.getElem?_eq_some_iff.1 hsparse).1
  have hlength := (List.subperm_of_subset hnodup hsub).length_le
  rwa [List.length_map, List.length_range] at hlength

lemma toNat_dense_length (h : pool.Inverse) :
    (UInt32.ofNat pool.dense.length).toNat = pool.dense.length := by
  have := h.dense_length_le
  have := h.bounded
  exact UInt32.toNat_ofNat_of_lt' (by simp [UInt32.size]; omega)

lemma toNat_sparse_length (h : pool.Inverse) :
    (UInt32.ofNat pool.sparse.length).toNat = pool.sparse.length := by
  have := h.bounded
  exact UInt32.toNat_ofNat_of_lt' (by simp [UInt32.size]; omega)

lemma findDenseIndex_eq_some (h : pool.Inverse) {denseIndex : UInt32} :
    pool.findDenseIndex entityId = some denseIndex ↔
      pool.dense[denseIndex.toNat]? = some entityId := by
  constructor
  · intro hfind
    unfold findDenseIndex at hfind
    split at hfind
    · cases hfind
    · split at hfind
      · cases hfind
      · split at hfind
        · cases hfind
        · split at hfind
          · cases hfind
          · next hdense =>
            obtain rfl : _ = denseIndex := Option.some.inj hfind
            simpa using hdense
  · intro hdense
    obtain ⟨denseIndex', hsparse, heq⟩ := h.toSparse _ _ hdense
    obtain rfl : denseIndex' = denseIndex := UInt32.toNat_inj.1 heq
    have hindex := (List.getElem?_eq_some_iff.1 hsparse).1
    have hlength := (List.getElem?_eq_some_iff.1 hdense).1
    have hsmall : ¬ UInt32.ofNat pool.sparse.length ≤ entityId.index := by
      rw [UInt32.le_iff_toNat_le, h.toNat_sparse_length]
      omega
    have hdenseSmall : ¬ UInt32.ofNat pool.dense.length ≤ denseIndex' := by
      rw [UInt32.le_iff_toNat_le, h.toNat_dense_length]
      omega
    simp [findDenseIndex, hsmall, hsparse, hdenseSmall, hdense]

lemma exists_findDenseIndex (h : pool.Inverse) {d : ℕ} (hd : pool.dense[d]? = some entityId) :
    ∃ denseIndex, pool.findDenseIndex entityId = some denseIndex ∧ denseIndex.toNat = d := by
  obtain ⟨denseIndex, -, rfl⟩ := h.toSparse d entityId hd
  exact ⟨denseIndex, h.findDenseIndex_eq_some.2 hd, rfl⟩

lemma findDenseIndex_eq_none (h : pool.Inverse) :
    pool.findDenseIndex entityId = none ↔ entityId ∉ pool.dense := by
  constructor
  · intro hnone hmem
    obtain ⟨d, hd⟩ := List.mem_iff_getElem?.1 hmem
    obtain ⟨denseIndex, hfind, -⟩ := h.exists_findDenseIndex hd
    rw [hnone] at hfind
    cases hfind
  · intro hnot
    cases hfind : pool.findDenseIndex entityId with
    | none => rfl
    | some denseIndex =>
      exact absurd (List.mem_of_getElem? (h.findDenseIndex_eq_some.1 hfind)) hnot

lemma has_iff (h : pool.Inverse) :
    pool.has entityId = true ↔ entityId ∈ pool.dense := by
  rw [has, ← not_iff_not, ← h.findDenseIndex_eq_none]
  simp

/-- The components as a partial map on handles. -/
lemma tryGet_eq_some (h : pool.Inverse) {component : α} :
    pool.tryGet entityId = some component ↔
      ∃ d : ℕ, pool.dense[d]? = some entityId ∧ pool.components[d]? = some component := by
  unfold tryGet
  constructor
  · intro hget
    split at hget
    · cases hget
    · next denseIndex hfind => exact ⟨_, h.findDenseIndex_eq_some.1 hfind, hget⟩
  · rintro ⟨d, hd, hcomponent⟩
    obtain ⟨denseIndex, hfind, rfl⟩ := h.exists_findDenseIndex hd
    rw [hfind]
    exact hcomponent

lemma tryGet_isSome (h : pool.Inverse) :
    (pool.tryGet entityId).isSome = true ↔ entityId ∈ pool.dense := by
  rw [Option.isSome_iff_exists]
  constructor
  · rintro ⟨component, hget⟩
    obtain ⟨d, hd, -⟩ := h.tryGet_eq_some.1 hget
    exact List.mem_of_getElem? hd
  · intro hmem
    obtain ⟨d, hd⟩ := List.mem_iff_getElem?.1 hmem
    have hlt : d < pool.components.length := by
      rw [h.paired]
      exact (List.getElem?_eq_some_iff.1 hd).1
    exact ⟨pool.components[d], h.tryGet_eq_some.2 ⟨d, hd, List.getElem?_eq_getElem hlt⟩⟩

/-- A pool is known by its dense entries. -/
lemma tryGet_eq_of_dense {pool' : ComponentPool α} (h : pool.Inverse) (h' : pool'.Inverse)
    {entityId' : EntityID} (hsame : ∀ component,
      (∃ d : ℕ, pool.dense[d]? = some entityId ∧ pool.components[d]? = some component) ↔
        ∃ d : ℕ, pool'.dense[d]? = some entityId' ∧ pool'.components[d]? = some component) :
    pool.tryGet entityId = pool'.tryGet entityId' := by
  apply Option.ext
  intro component
  rw [h.tryGet_eq_some, h'.tryGet_eq_some, hsame]

end Inverse

/-! ## Adding a component -/

section Add

variable {pool : ComponentPool α} {entityId : EntityID}

/-- The sparse array with room for a slot. -/
def roomFor (pool : ComponentPool α) (index : UInt32) : List UInt32 :=
  if UInt32.ofNat pool.sparse.length ≤ index then growSparse pool.sparse (index.toNat + 1)
  else pool.sparse

lemma length_roomFor (h : pool.Inverse) {index : UInt32} (hindex : index.toNat < 2 ^ 22) :
    index.toNat < (pool.roomFor index).length ∧ (pool.roomFor index).length ≤ 2 ^ 22 := by
  have hbounded := h.bounded
  unfold roomFor
  split
  · rw [growSparse, List.length_append, List.length_replicate]
    omega
  · next hle =>
    rw [UInt32.le_iff_toNat_le, h.toNat_sparse_length] at hle
    omega

variable {denseIndex : UInt32}

lemma getElem?_roomFor {index : UInt32} (i : ℕ) (hne : denseIndex ≠ noDenseIndex) :
    (pool.roomFor index)[i]? = some denseIndex ↔ pool.sparse[i]? = some denseIndex := by
  unfold roomFor
  split
  · rw [growSparse, List.getElem?_append]
    split
    · rfl
    · next hlt =>
      rw [List.getElem?_replicate, List.getElem?_eq_none (by omega)]
      simp [Ne.symm hne]
  · rfl

lemma add_of_new (component : α) (hnone : pool.findDenseIndex entityId = none) :
    pool.add entityId component =
      { sparse := (pool.roomFor entityId.index).set entityId.index.toNat
          (UInt32.ofNat pool.dense.length)
        dense := pool.dense ++ [entityId]
        components := pool.components ++ [component]
        mutationVersion := pool.mutationVersion + 1 } := by
  rw [add, hnone]
  rfl

lemma add_of_found (component : α) (hfind : pool.findDenseIndex entityId = some denseIndex) :
    pool.add entityId component = pool := by
  rw [add, hfind]

lemma Inverse.ne_noDenseIndex (h : pool.Inverse) {d : ℕ} (hd : d ≤ pool.dense.length)
    (heq : denseIndex.toNat = d) : denseIndex ≠ noDenseIndex := by
  rintro rfl
  have hmax : noDenseIndex.toNat = 2 ^ 32 - 1 := rfl
  have := h.dense_length_le
  have := h.bounded
  omega

/-- A pool with a new entity at the end of the dense arrays. -/
lemma Inverse.add_new (h : pool.Inverse) (component : α)
    (hslot : ∀ other ∈ pool.dense, other.index ≠ entityId.index) :
    (pool.add entityId component).Inverse := by
  have hnone : pool.findDenseIndex entityId = none :=
    h.findDenseIndex_eq_none.2 fun hmem => hslot entityId hmem rfl
  obtain ⟨hroom, hroomLe⟩ := length_roomFor h entityId.index_lt
  rw [add_of_new component hnone]
  constructor
  · simp [h.paired]
  · simpa using hroomLe
  · intro d other hd
    rw [List.getElem?_append] at hd
    split at hd
    · obtain ⟨denseIndex, hsparse, rfl⟩ := h.toSparse d other hd
      have hother : other.index.toNat ≠ entityId.index.toNat := fun heq =>
        hslot other (List.mem_of_getElem? hd) (UInt32.toNat_inj.1 heq)
      refine ⟨denseIndex, ?_, rfl⟩
      rw [List.getElem?_set_ne (Ne.symm hother)]
      exact (getElem?_roomFor _ (h.ne_noDenseIndex (Nat.le_of_lt ‹_›) rfl)).2 hsparse
    · next hlt =>
      rw [List.getElem?_singleton] at hd
      split at hd
      · obtain rfl : entityId = other := Option.some.inj hd
        refine ⟨UInt32.ofNat pool.dense.length, ?_, ?_⟩
        · rw [List.getElem?_set_self hroom]
        · rw [h.toNat_dense_length]
          omega
      · cases hd
  · intro i denseIndex hi hne
    rw [List.getElem?_set] at hi
    split at hi
    · next heq =>
      subst heq
      obtain rfl : _ = denseIndex := Option.some.inj hi
      refine ⟨entityId, ?_, rfl⟩
      rw [h.toNat_dense_length]
      simp
    · obtain ⟨other, hdense, rfl⟩ := h.toDense i denseIndex ((getElem?_roomFor i hne).1 hi) hne
      refine ⟨other, ?_, rfl⟩
      rw [List.getElem?_append_left (List.getElem?_eq_some_iff.1 hdense).1, hdense]

variable (hslot : ∀ other ∈ pool.dense, other.index = entityId.index → other = entityId)

include hslot

/-- Adding keeps the arrays inverse when the slot holds no other entity. -/
theorem Inverse.add (h : pool.Inverse) (component : α) :
    (pool.add entityId component).Inverse := by
  cases hfind : pool.findDenseIndex entityId with
  | some denseIndex => rwa [add_of_found component hfind]
  | none =>
    refine h.add_new component fun other hother heq => ?_
    obtain rfl := hslot other hother heq
    exact h.findDenseIndex_eq_none.1 hfind hother

/-- The entity has the new component, or the one it had, and no other entity is concerned. -/
theorem Inverse.tryGet_add (h : pool.Inverse) (component : α) (other : EntityID) :
    (pool.add entityId component).tryGet other =
      if other = entityId then some ((pool.tryGet entityId).getD component)
      else pool.tryGet other := by
  have hadd := h.add hslot component
  cases hfind : pool.findDenseIndex entityId with
  | some denseIndex =>
    rw [add_of_found component hfind]
    split
    · next heq =>
      subst heq
      obtain ⟨found, hfound⟩ := Option.isSome_iff_exists.1
        (h.tryGet_isSome.2 (List.mem_of_getElem? (h.findDenseIndex_eq_some.1 hfind)))
      rw [hfound, Option.getD_some]
    · rfl
  | none =>
    have hmissing : entityId ∉ pool.dense := h.findDenseIndex_eq_none.1 hfind
    have hget : pool.tryGet entityId = none := by rw [tryGet, hfind]
    have hlast := h.paired
    rw [add_of_new component hfind] at hadd ⊢
    split
    · next heq =>
      subst heq
      rw [hget, Option.getD_none]
      exact hadd.tryGet_eq_some.2 ⟨pool.dense.length, by simp, by simp [← hlast]⟩
    · next hne =>
      refine hadd.tryGet_eq_of_dense h fun found => ⟨?_, ?_⟩
      · rintro ⟨d, hd, hcomponent⟩
        rw [List.getElem?_append] at hd
        split at hd
        · next hlt =>
          refine ⟨d, hd, ?_⟩
          rwa [List.getElem?_append_left (by omega)] at hcomponent
        · rw [List.getElem?_singleton] at hd
          split at hd
          · exact absurd (Option.some.inj hd).symm hne
          · cases hd
      · rintro ⟨d, hd, hcomponent⟩
        have hlt := (List.getElem?_eq_some_iff.1 hd).1
        refine ⟨d, ?_, ?_⟩
        · rw [List.getElem?_append_left hlt, hd]
        · rw [List.getElem?_append_left (by omega), hcomponent]

omit hslot

lemma mem_dense_add (h : pool.Inverse) (component : α) {other : EntityID} :
    other ∈ (pool.add entityId component).dense ↔ other ∈ pool.dense ∨ other = entityId := by
  cases hfind : pool.findDenseIndex entityId with
  | some denseIndex =>
    rw [add_of_found component hfind]
    refine ⟨Or.inl, ?_⟩
    rintro (hmem | rfl)
    · exact hmem
    · exact List.mem_of_getElem? (h.findDenseIndex_eq_some.1 hfind)
  | none =>
    rw [add_of_new component hfind, List.mem_append, List.mem_singleton]

end Add

/-! ## Removing a component -/

section Remove

variable {pool : ComponentPool α} {entityId : EntityID}

/-- The entry `d` of a dense array whose last entry went into the hole. -/
def shifted (items : List β) (hole d : ℕ) : Option β :=
  if d + 1 < items.length then items[if d = hole then items.length - 1 else d]? else none

lemma getElem?_dropLast_set {items : List β} {hole : ℕ} {last : β}
    (hlast : items[items.length - 1]? = some last) (d : ℕ) :
    ((items.set hole last).dropLast)[d]? = shifted items hole d := by
  rw [List.getElem?_dropLast, List.length_set, shifted]
  by_cases hd : d + 1 < items.length
  · rw [if_pos (by omega), if_pos hd]
    by_cases hhole : d = hole
    · subst hhole
      rw [if_pos rfl, List.getElem?_set_self (by omega), hlast]
    · rw [if_neg hhole, List.getElem?_set_ne (Ne.symm hhole)]
  · rw [if_neg (by omega), if_neg hd]

lemma getElem?_dropLast_self {items : List β} (d : ℕ) :
    items.dropLast[d]? = shifted items (items.length - 1) d := by
  rw [List.getElem?_dropLast, shifted]
  by_cases hd : d + 1 < items.length
  · rw [if_pos (by omega), if_pos hd, if_neg (by omega)]
  · rw [if_neg (by omega), if_neg hd]

/-- What a removal leaves, whether the removed entry was the last one or not. -/
lemma Inverse.remove_eq (h : pool.Inverse) {hole : ℕ} (hhole : pool.dense[hole]? = some entityId) :
    ∃ pool', pool.remove entityId = (true, pool') ∧
      (∀ d, pool'.dense[d]? = shifted pool.dense hole d) ∧
      (∀ d, pool'.components[d]? = shifted pool.components hole d) ∧
      pool'.components.length = pool'.dense.length ∧ pool'.sparse.length = pool.sparse.length ∧
      ∃ lastEntityId, pool.dense[pool.dense.length - 1]? = some lastEntityId ∧
        ∀ i : ℕ, pool'.sparse[i]? =
          if i = entityId.index.toNat then some noDenseIndex
          else if i = lastEntityId.index.toNat then some (UInt32.ofNat hole)
          else pool.sparse[i]? := by
  obtain ⟨denseIndex, hfind, rfl⟩ := h.exists_findDenseIndex hhole
  have hlt := (List.getElem?_eq_some_iff.1 hhole).1
  have hpaired := h.paired
  obtain ⟨ownIndex, hown, -⟩ := h.toSparse _ _ hhole
  have hownLt := (List.getElem?_eq_some_iff.1 hown).1
  have hlast : (UInt32.ofNat pool.dense.length - 1).toNat = pool.dense.length - 1 := by
    rw [UInt32.toNat_sub_of_le _ _ (by
      rw [UInt32.le_iff_toNat_le, h.toNat_dense_length]
      change 1 ≤ _
      omega), h.toNat_dense_length]
    rfl
  obtain ⟨lastEntityId, hlastEntity⟩ : ∃ last, pool.dense[pool.dense.length - 1]? = some last :=
    ⟨_, List.getElem?_eq_getElem (by omega)⟩
  obtain ⟨lastComponent, hlastComponent⟩ :
      ∃ last, pool.components[pool.components.length - 1]? = some last :=
    ⟨_, List.getElem?_eq_getElem (by omega)⟩
  rw [remove, hfind]
  refine ⟨_, rfl, ?_⟩
  by_cases hsame : denseIndex = UInt32.ofNat pool.dense.length - 1
  · -- the last entry itself goes
    have hhole' : denseIndex.toNat = pool.dense.length - 1 := by rw [hsame, hlast]
    have hfilled : pool.fillHole denseIndex (UInt32.ofNat pool.dense.length - 1) = pool := by
      simp [fillHole, ← hsame]
    obtain rfl : entityId = lastEntityId := by
      rw [hhole', hlastEntity] at hhole
      exact (Option.some.inj hhole).symm
    simp only [hfilled]
    refine ⟨fun d => ?_, fun d => ?_, by simp [hpaired], by simp, entityId, hlastEntity,
      fun i => ?_⟩
    · rw [hhole', getElem?_dropLast_self]
    · rw [hhole', ← hpaired, getElem?_dropLast_self]
    · rw [List.getElem?_set]
      by_cases hi : entityId.index.toNat = i
      · rw [if_pos hi, if_pos (by omega), if_pos hi.symm]
      · rw [if_neg hi, if_neg (Ne.symm hi), if_neg (Ne.symm hi)]
  · -- the last entry moves into the hole
    obtain ⟨lastIndex, hlastSparse, -⟩ := h.toSparse _ _ hlastEntity
    have hlastLt := (List.getElem?_eq_some_iff.1 hlastSparse).1
    have hfilled : pool.fillHole denseIndex (UInt32.ofNat pool.dense.length - 1) =
        { pool with
          dense := pool.dense.set denseIndex.toNat lastEntityId
          components := pool.components.set denseIndex.toNat lastComponent
          sparse := pool.sparse.set lastEntityId.index.toNat denseIndex } := by
      rw [hpaired] at hlastComponent
      simp [fillHole, hsame, hlast, hlastEntity, hlastComponent]
    simp only [hfilled]
    refine ⟨fun d => getElem?_dropLast_set hlastEntity d,
      fun d => getElem?_dropLast_set hlastComponent d, by simp [hpaired], by simp, lastEntityId,
      hlastEntity, fun i => ?_⟩
    rw [List.getElem?_set, List.length_set, List.getElem?_set]
    by_cases hi : entityId.index.toNat = i
    · rw [if_pos hi, if_pos (by omega), if_pos hi.symm]
    · rw [if_neg hi, if_neg (Ne.symm hi)]
      by_cases hi' : lastEntityId.index.toNat = i
      · rw [if_pos hi', if_pos (by omega), if_pos hi'.symm, UInt32.ofNat_toNat]
      · rw [if_neg hi', if_neg (Ne.symm hi')]

lemma remove_of_missing (h : pool.findDenseIndex entityId = none) :
    pool.remove entityId = (false, pool) := by
  rw [remove, h]

lemma fst_remove (pool : ComponentPool α) (entityId : EntityID) :
    (pool.remove entityId).1 = pool.has entityId := by
  unfold remove has
  cases pool.findDenseIndex entityId <;> rfl

/-- Removing keeps the arrays inverse: the last entry takes the place of the removed one. -/
theorem Inverse.remove (h : pool.Inverse) : (pool.remove entityId).2.Inverse := by
  cases hfind : pool.findDenseIndex entityId with
  | none => rwa [remove_of_missing hfind]
  | some denseIndex =>
    have hhole := h.findDenseIndex_eq_some.1 hfind
    obtain ⟨pool', heq, hdense, -, hpaired, hlength, last, hlast, hsparse⟩ := h.remove_eq hhole
    have hbounded := h.bounded
    have hle := h.dense_length_le
    have hholeLt := (List.getElem?_eq_some_iff.1 hhole).1
    rw [heq]
    refine ⟨hpaired, hlength.trans_le hbounded, fun d other hd => ?_,
      fun i denseIndex' hi hne => ?_⟩
    · rw [hdense, shifted] at hd
      split at hd
      · next hlt =>
        have hother : other.index.toNat ≠ entityId.index.toNat := by
          intro hindex
          have := h.dense_inj hd hhole (UInt32.toNat_inj.1 hindex)
          split at this <;> omega
        rw [hsparse, if_neg hother]
        by_cases hmoved : d = denseIndex.toNat
        · rw [if_pos hmoved, hlast, Option.some.injEq] at hd
          subst hd
          exact ⟨_, if_pos rfl, by rw [UInt32.ofNat_toNat, hmoved]⟩
        · rw [if_neg hmoved] at hd
          have hunmoved : other.index.toNat ≠ last.index.toNat := by
            intro hindex
            have := h.dense_inj hd hlast (UInt32.toNat_inj.1 hindex)
            omega
          rw [if_neg hunmoved]
          exact h.toSparse d other hd
      · cases hd
    · rw [hsparse] at hi
      split at hi
      · exact absurd (Option.some.inj hi).symm hne
      · next hother =>
        split at hi
        · next hmoved =>
          obtain rfl : UInt32.ofNat denseIndex.toNat = denseIndex' := Option.some.inj hi
          refine ⟨last, ?_, hmoved.symm⟩
          rw [UInt32.ofNat_toNat, hdense, shifted, if_pos rfl, if_pos ?_, hlast]
          by_contra hend
          have hsame : denseIndex.toNat = pool.dense.length - 1 := by omega
          rw [hsame, hlast, Option.some.injEq] at hhole
          exact hother (by rw [hmoved, hhole])
        · next hunmoved =>
          obtain ⟨other, hother', hindex⟩ := h.toDense i denseIndex' hi hne
          have hlt := (List.getElem?_eq_some_iff.1 hother').1
          have hbefore : denseIndex'.toNat + 1 < pool.dense.length := by
            by_contra hend
            have hsame : denseIndex'.toNat = pool.dense.length - 1 := by omega
            rw [hsame, hlast, Option.some.injEq] at hother'
            exact hunmoved (by rw [hother', hindex])
          have hapart : denseIndex'.toNat ≠ denseIndex.toNat := by
            intro hsame
            rw [hsame, hhole, Option.some.injEq] at hother'
            exact hother (by rw [hother', hindex])
          refine ⟨other, ?_, hindex⟩
          rw [hdense, shifted, if_pos hbefore, if_neg hapart, hother']

/-- The removed entity has no component; every other entity keeps its own. -/
theorem Inverse.tryGet_remove (h : pool.Inverse) (other : EntityID) :
    (pool.remove entityId).2.tryGet other = if other = entityId then none else pool.tryGet other := by
  have hremove : (pool.remove entityId).2.Inverse := h.remove
  cases hfind : pool.findDenseIndex entityId with
  | none =>
    rw [remove_of_missing hfind]
    split
    · next heq => rw [heq, tryGet, hfind]
    · rfl
  | some denseIndex =>
    have hhole := h.findDenseIndex_eq_some.1 hfind
    obtain ⟨pool', heq, hdense, hcomponents, -, -, -, -, -⟩ := h.remove_eq hhole
    have hpaired := h.paired
    have hholeLt := (List.getElem?_eq_some_iff.1 hhole).1
    rw [heq] at hremove ⊢
    split
    · next hother =>
      subst hother
      rw [Option.eq_none_iff_forall_not_mem]
      rintro component hget
      obtain ⟨d, hd, -⟩ := hremove.tryGet_eq_some.1 hget
      rw [hdense, shifted] at hd
      split at hd
      · have := h.dense_inj hd hhole rfl
        split at this <;> omega
      · cases hd
    · next hother =>
      refine hremove.tryGet_eq_of_dense h fun component => ⟨?_, ?_⟩
      · rintro ⟨d, hd, hcomponent⟩
        rw [hdense, shifted] at hd
        rw [hcomponents, shifted, hpaired] at hcomponent
        split at hd
        · next hlt => exact ⟨_, hd, by rwa [if_pos hlt] at hcomponent⟩
        · cases hd
      · rintro ⟨d, hd, hcomponent⟩
        have hlt := (List.getElem?_eq_some_iff.1 hd).1
        have hne : d ≠ denseIndex.toNat := by
          rintro rfl
          exact hother (Option.some.inj (hd.symm.trans hhole))
        by_cases hend : d + 1 = pool.dense.length
        · -- the last entry is found in the hole
          refine ⟨denseIndex.toNat, ?_, ?_⟩
          · rw [hdense, shifted, if_pos rfl, if_pos (by omega), ← hd]
            congr 1
            omega
          · rw [hcomponents, shifted, if_pos rfl, if_pos (by omega), ← hcomponent]
            congr 1
            omega
        · refine ⟨d, ?_, ?_⟩
          · rw [hdense, shifted, if_neg hne, if_pos (by omega), hd]
          · rw [hcomponents, shifted, if_neg hne, if_pos (by omega), hcomponent]

lemma mem_dense_remove (h : pool.Inverse) {other : EntityID} :
    other ∈ (pool.remove entityId).2.dense ↔ other ∈ pool.dense ∧ other ≠ entityId := by
  rw [← h.remove.tryGet_isSome, h.tryGet_remove, ← h.tryGet_isSome]
  by_cases heq : other = entityId <;> simp [heq]

end Remove

end ComponentPool
end NwbLot.Ecs
