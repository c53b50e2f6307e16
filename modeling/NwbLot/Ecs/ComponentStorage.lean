import NwbLot.Ecs.ComponentLists
import NwbLot.Library.Runs

/-!
# Component storage

The pools, the slots' lists and the free list of a world agree after every sequence of calls.

`Typed` ties the pools to the lists of the slots and `Sound` adds the handles.  For every call a
theorem says what it changes and that it keeps `Sound`; runs follow by induction.
-/

namespace NwbLot.Ecs
namespace World

open IndexLists Runs

variable {TypeId : Type} {Component : TypeId → Type}

/-! ## Members of a pool -/

/-- The entities with a component of the type. -/
def members (world : World Component) (typeId : TypeId) : List EntityID :=
  match world.pools typeId with
  | none => []
  | some pool => pool.dense

/-- A world whose lists and pools agree. -/
structure Typed (world : World Component) (lists : Option ℕ → List ℕ) : Prop where
  owned : world.NodeLists lists
  keyed : ∀ index node, node ∈ lists (some index) →
    ∃ typeId, world.nodeKey node = some (typeId, typeId)
  distinct : ∀ index, ((lists (some index)).map world.nodeKey).Nodup
  listed : ∀ index typeId, some (typeId, typeId) ∈ (lists (some index)).map world.nodeKey ↔
    ∃ entityId ∈ world.members typeId, entityId.index.toNat = index

/-- The invariant of a world: only live entities have components, and a slot's list names the
types its entity has. -/
structure Sound (world : World Component) : Prop where
  slots : world.entityManager.Slots
  inverse : ∀ typeId pool, world.pools typeId = some pool → pool.Inverse
  live : ∀ typeId, ∀ entityId ∈ world.members typeId, world.entityManager.Live entityId
  lists : ∃ lists, world.Typed lists

variable {world world' : World Component} {lists : Option ℕ → List ℕ} {entityId other : EntityID}
  {typeId otherType : TypeId}

lemma members_of_pool {pool : ComponentPool (Component typeId)}
    (h : world.pools typeId = some pool) : world.members typeId = pool.dense := by
  rw [members, h]

lemma Sound.isSome_tryGetComponent (h : world.Sound) :
    (world.tryGetComponent typeId entityId).isSome = true ↔ entityId ∈ world.members typeId := by
  unfold tryGetComponent members
  cases hpool : world.pools typeId with
  | none => simp
  | some pool => exact (h.inverse typeId pool hpool).tryGet_isSome

lemma Sound.hasComponent_iff (h : world.Sound) :
    world.hasComponent typeId entityId = true ↔ entityId ∈ world.members typeId := by
  unfold hasComponent members
  cases hpool : world.pools typeId with
  | none => simp
  | some pool => exact (h.inverse typeId pool hpool).has_iff

lemma Sound.empty : ({} : World Component).Sound where
  slots := .empty
  inverse := by simp
  live := by simp [members]
  lists := by
    refine ⟨fun _ => [], ⟨fun owner => ?_, by simp, by simp [nextNode]⟩, by simp, by simp,
      by simp [members]⟩
    cases owner <;> exact .stop

/-- Pools and lists do not look at the slots. -/
lemma Typed.congr_manager (h : world.Typed lists) (manager : EntityManager) :
    { world with entityManager := manager }.Typed lists :=
  ⟨h.owned, h.keyed, h.distinct, h.listed⟩

/-! ## Creating an entity -/

lemma Sound.createEntity (h : world.Sound) : world.createEntity.2.Sound := by
  obtain ⟨lists, hlists⟩ := h.lists
  exact ⟨h.slots.create, h.inverse, fun typeId entityId hmem =>
    (h.live typeId entityId hmem).create h.slots, lists, hlists.congr_manager _⟩

/-! ## Adding a component -/

/-- The pool that `assurePool` finds or makes. -/
lemma Sound.assurePool (h : world.Sound) (typeId : TypeId) :
    ((world.pools typeId).getD {}).Inverse ∧
      ((world.pools typeId).getD {}).dense = world.members typeId := by
  unfold members
  cases hpool : world.pools typeId with
  | none => exact ⟨.empty, rfl⟩
  | some pool => exact ⟨h.inverse typeId pool hpool, rfl⟩

lemma tryGetComponent_of_pools (h : world'.pools typeId = world.pools typeId) :
    world'.tryGetComponent typeId entityId = world.tryGetComponent typeId entityId := by
  rw [tryGetComponent, tryGetComponent, h]

lemma tryGetComponent_of_pool {pool : ComponentPool (Component typeId)}
    (h : world.pools typeId = some pool) :
    world.tryGetComponent typeId entityId = pool.tryGet entityId := by
  rw [tryGetComponent, h]

lemma tryGet_assurePool (world : World Component) (typeId : TypeId) (entityId : EntityID) :
    ((world.pools typeId).getD {}).tryGet entityId = world.tryGetComponent typeId entityId := by
  unfold tryGetComponent
  cases world.pools typeId with
  | none =>
    rw [← Option.not_isSome_iff_eq_none, Option.getD_none]
    exact fun hsome => by simpa using ComponentPool.Inverse.empty.tryGet_isSome.1 hsome
  | some pool => rfl

section Calls

variable [DecidableEq TypeId]

@[simp] lemma pools_setPool_self (world : World Component)
    (pool : ComponentPool (Component typeId)) :
    (world.setPool typeId pool).pools typeId = some pool :=
  Function.update_self ..

lemma pools_setPool_of_ne (world : World Component) (pool : ComponentPool (Component typeId))
    (h : otherType ≠ typeId) : (world.setPool typeId pool).pools otherType = world.pools otherType :=
  Function.update_of_ne h ..

lemma members_setPool_of_ne (world : World Component) (pool : ComponentPool (Component typeId))
    (h : otherType ≠ typeId) :
    (world.setPool typeId pool).members otherType = world.members otherType := by
  rw [members, members, pools_setPool_of_ne world pool h]

/-- Replacing a pool by one with the same entities. -/
lemma Sound.setPool (h : world.Sound) {pool : ComponentPool (Component typeId)}
    (hpool : pool.Inverse) (hmembers : pool.dense = world.members typeId) :
    (world.setPool typeId pool).Sound := by
  have hsame : ∀ otherType, (world.setPool typeId pool).members otherType
      = world.members otherType := by
    intro otherType
    by_cases heq : otherType = typeId
    · subst heq
      rw [members_of_pool (pools_setPool_self world pool), hmembers]
    · exact members_setPool_of_ne world pool heq
  obtain ⟨lists, hlists⟩ := h.lists
  refine ⟨h.slots, fun otherType otherPool hother => ?_, fun otherType => ?_, lists, hlists.owned,
    hlists.keyed, hlists.distinct, fun index otherType => ?_⟩
  · by_cases heq : otherType = typeId
    · subst heq
      rw [pools_setPool_self, Option.some.injEq] at hother
      rwa [← hother]
    · rw [pools_setPool_of_ne world pool heq] at hother
      exact h.inverse otherType otherPool hother
  · rw [hsame]
    exact h.live otherType
  · rw [hsame]
    exact hlists.listed index otherType

/-- Entering a type into the list of an entity whose pool just got it. -/
lemma Typed.addEntityComponentType (h : world.Typed lists)
    (hroom : world.freeEntityComponentNode ≠ invalidEntityComponentNode ∨
      world.entityComponentNodes.length < 2 ^ 32 - 1)
    (hnew : ∀ entry ∈ world.members typeId, entry.index ≠ entityId.index)
    {pool : ComponentPool (Component typeId)}
    (hpool : ∀ entry, entry ∈ pool.dense ↔ entry ∈ world.members typeId ∨ entry = entityId) :
    ∃ world' lists', (world.setPool typeId pool).addEntityComponentType entityId typeId typeId =
        some world' ∧ world'.Typed lists' ∧ world'.entityManager = world.entityManager ∧
      world'.pools = (world.setPool typeId pool).pools := by
  have hfields := ensureEntityComponentHead_fields (world.setPool typeId pool) entityId
  obtain ⟨headNode, hhead⟩ :=
    exists_head_ensureEntityComponentHead (world.setPool typeId pool) entityId
  have hfirst := firstNode_ensureEntityComponentHead (world.setPool typeId pool) entityId
  generalize hensured : (world.setPool typeId pool).ensureEntityComponentHead entityId = ensured
    at hfields hhead hfirst
  obtain ⟨hnodes, hfree, hmanager, hpools⟩ := hfields
  have hnext : ensured.nextNode = world.nextNode := by
    funext node
    rw [nextNode, hnodes]
    rfl
  have hkey : ensured.nodeKey = world.nodeKey := by
    funext node
    rw [nodeKey, hnodes]
    rfl
  have howned : ensured.NodeLists lists := by
    rw [NodeLists, hnext, hfirst]
    exact h.owned
  -- the slot has no node of the type, so the search goes through its whole list
  have hmissing : ∀ node ∈ lists (some entityId.index.toNat), ∀ pool,
      world.nodeKey node ≠ some (typeId, pool) := by
    intro node hnode pool hkey
    obtain ⟨other, hother⟩ := h.keyed _ node hnode
    rw [hother, Option.some.injEq, Prod.mk.injEq] at hkey
    obtain ⟨rfl, -⟩ := hkey
    obtain ⟨entry, hentry, hindex⟩ := (h.listed _ _).1 (List.mem_map.2 ⟨node, hnode, hother⟩)
    exact hnew entry hentry (UInt32.toNat_inj.1 hindex)
  have hlinked := howned.linked (some entityId.index.toNat)
  have hstart : ensured.firstNode (some entityId.index.toNat) = headNode.toNat := by
    simp [firstNode, hhead]
  rw [hstart] at hlinked
  obtain ⟨found, hfound, hiff⟩ :=
    findNodeOfType_spec typeId hlinked (NodeLists.length_le howned _)
  have hnot : found = false := by
    rw [← Bool.not_eq_true, hiff]
    rintro ⟨node, hnode, pool, hpool⟩
    rw [hkey] at hpool
    exact hmissing node hnode pool hpool
  have hroom' : ensured.freeEntityComponentNode ≠ invalidEntityComponentNode ∨
      ensured.entityComponentNodes.length < 2 ^ 32 - 1 := by
    rw [hfree, hnodes]
    exact hroom
  obtain ⟨nodeIndex, acquired, lists', hacquire, howned', hlist, hothers, hfresh, hnodeKey,
    hotherKeys, hmanager', hpools'⟩ := acquireEntityComponentNode_spec howned hhead hroom' typeId typeId
  have hkeep : ∀ index, (lists (some index)).map acquired.nodeKey
      = (lists (some index)).map world.nodeKey := by
    intro index
    refine List.map_congr_left fun node hnode => ?_
    rw [hotherKeys node (ne_of_mem_of_not_mem hnode (hfresh index)), hkey]
  refine ⟨acquired.writeSlot nodeIndex (.head entityId.index.toNat), lists', ?_,
    ⟨howned', ?_, ?_, ?_⟩, hmanager'.trans hmanager, hpools'.trans hpools⟩
  · simp only [World.addEntityComponentType, hensured, hhead, hfound, hnot, hacquire,
      Option.bind_eq_bind, Option.bind_some, Bool.false_eq_true, if_false, Option.pure_def]
  · intro index node hnode
    by_cases hindex : index = entityId.index.toNat
    · subst hindex
      rw [hlist] at hnode
      rcases List.mem_cons.1 hnode with rfl | hnode
      · exact ⟨typeId, hnodeKey⟩
      · obtain ⟨other, hother⟩ := h.keyed _ node hnode
        refine ⟨other, (hotherKeys node (ne_of_mem_of_not_mem hnode (hfresh _))).trans ?_⟩
        rw [hkey, hother]
    · rw [hothers index hindex] at hnode
      obtain ⟨other, hother⟩ := h.keyed _ node hnode
      refine ⟨other, (hotherKeys node (ne_of_mem_of_not_mem hnode (hfresh _))).trans ?_⟩
      rw [hkey, hother]
  · intro index
    change ((lists' (some index)).map acquired.nodeKey).Nodup
    by_cases hindex : index = entityId.index.toNat
    · subst hindex
      rw [hlist, List.map_cons, hkeep, hnodeKey]
      refine List.nodup_cons.2 ⟨fun hmem => ?_, h.distinct _⟩
      obtain ⟨node, hnode, hnodeKey⟩ := List.mem_map.1 hmem
      exact hmissing node hnode typeId hnodeKey
    · rw [hothers index hindex, hkeep]
      exact h.distinct index
  · intro index otherType
    change some (otherType, otherType) ∈ (lists' (some index)).map acquired.nodeKey ↔ _
    have hmembers : ∀ entry, entry ∈ (acquired.writeSlot nodeIndex
        (.head entityId.index.toNat)).members otherType ↔
          entry ∈ world.members otherType ∨ (otherType = typeId ∧ entry = entityId) := by
      intro entry
      have hpoolsAll : (acquired.writeSlot nodeIndex (.head entityId.index.toNat)).pools
          = (world.setPool typeId pool).pools := hpools'.trans hpools
      rw [members, hpoolsAll]
      change entry ∈ (world.setPool typeId pool).members otherType ↔ _
      by_cases htype : otherType = typeId
      · subst htype
        rw [members_of_pool (pools_setPool_self world pool), hpool]
        simp
      · rw [members_setPool_of_ne world pool htype]
        simp [htype]
    have hlistedIff := h.listed index otherType
    by_cases hindex : index = entityId.index.toNat
    · subst hindex
      rw [hlist, List.map_cons, hkeep, hnodeKey, List.mem_cons, hlistedIff]
      constructor
      · rintro (hself | ⟨entry, hentry, hslot⟩)
        · rw [Option.some.injEq, Prod.mk.injEq] at hself
          exact ⟨entityId, (hmembers entityId).2 (Or.inr ⟨hself.1, rfl⟩), rfl⟩
        · exact ⟨entry, (hmembers entry).2 (Or.inl hentry), hslot⟩
      · rintro ⟨entry, hentry, hslot⟩
        rcases (hmembers entry).1 hentry with hold | ⟨rfl, -⟩
        · exact Or.inr ⟨entry, hold, hslot⟩
        · exact Or.inl rfl
    · rw [hothers index hindex, hkeep, hlistedIff]
      constructor
      · rintro ⟨entry, hentry, hslot⟩
        exact ⟨entry, (hmembers entry).2 (Or.inl hentry), hslot⟩
      · rintro ⟨entry, hentry, hslot⟩
        rcases (hmembers entry).1 hentry with hold | ⟨-, rfl⟩
        · exact ⟨entry, hold, hslot⟩
        · exact absurd hslot.symm hindex

/-- Adding a component to a live entity: it has the new one, or the one it had before, and nothing
else changes. -/
theorem Sound.addComponent (h : world.Sound) (hlive : world.entityManager.Live entityId)
    (hroom : world.freeEntityComponentNode ≠ invalidEntityComponentNode ∨
      world.entityComponentNodes.length < 2 ^ 32 - 1) (component : Component typeId) :
    ∃ world', world.addComponent entityId typeId component = some world' ∧ world'.Sound ∧
      world'.entityManager = world.entityManager ∧
      world'.tryGetComponent typeId entityId =
        some ((world.tryGetComponent typeId entityId).getD component) ∧
      ∀ otherType other, otherType ≠ typeId ∨ other ≠ entityId →
        world'.tryGetComponent otherType other = world.tryGetComponent otherType other := by
  obtain ⟨hinverse, hdense⟩ := h.assurePool typeId
  have hget := world.tryGet_assurePool typeId
  generalize hassured : (world.pools typeId).getD {} = pool at hinverse hdense hget
  have halive : world.alive entityId = true := hlive.1
  have hthere := h.setPool hinverse hdense
  cases hfound : pool.tryGet entityId with
  | some existing =>
    have hadd : world.addComponent entityId typeId component = some (world.setPool typeId pool) := by
      simp only [World.addComponent, halive, if_true, hassured, hfound]
    refine ⟨_, hadd, hthere, rfl, ?_, fun otherType other hne => ?_⟩
    · rw [tryGetComponent_of_pool (pools_setPool_self world pool), hfound,
        ← hget entityId, hfound, Option.getD_some]
    · by_cases htype : otherType = typeId
      · subst htype
        rw [tryGetComponent_of_pool (pools_setPool_self world pool), hget]
      · exact tryGetComponent_of_pools (pools_setPool_of_ne world pool htype)
  | none =>
    have hadd : world.addComponent entityId typeId component =
        ((world.setPool typeId pool).setPool typeId (pool.add entityId component)
          ).addEntityComponentType entityId typeId typeId := by
      simp only [World.addComponent, halive, if_true, hassured, hfound]
    have hmissing : entityId ∉ pool.dense := by
      rw [← hinverse.tryGet_isSome, hfound]
      simp
    -- whoever is in the pool is alive, so nobody else is in the slot
    have hslot : ∀ entry ∈ world.members typeId, entry.index ≠ entityId.index := by
      intro entry hentry hindex
      obtain rfl := (h.live typeId entry hentry).eq_of_index_eq hlive hindex
      exact hmissing (hdense ▸ hentry)
    have hslot' : ∀ entry ∈ pool.dense, entry.index = entityId.index → entry = entityId := by
      rw [hdense]
      exact fun entry hentry hindex => absurd hindex (hslot entry hentry)
    have hmembers : ∀ entry, entry ∈ (pool.add entityId component).dense ↔
        entry ∈ world.members typeId ∨ entry = entityId := by
      intro entry
      rw [ComponentPool.mem_dense_add hinverse, hdense]
    have htwice : (world.setPool typeId pool).setPool typeId (pool.add entityId component)
        = world.setPool typeId (pool.add entityId component) := by
      rw [World.setPool, World.setPool, World.setPool, Function.update_idem]
    obtain ⟨lists, hlists⟩ := h.lists
    obtain ⟨world', lists', heq, htyped, hmanager, hpools⟩ :=
      hlists.addEntityComponentType hroom hslot hmembers
    have hpoolSelf : world'.pools typeId = some (pool.add entityId component) := by
      rw [hpools, pools_setPool_self]
    have hpoolOther : ∀ otherType, otherType ≠ typeId →
        world'.pools otherType = world.pools otherType := by
      intro otherType htype
      rw [hpools, pools_setPool_of_ne world _ htype]
    refine ⟨world', by rw [hadd, htwice, heq], ⟨?_, ?_, ?_, lists', htyped⟩, hmanager, ?_, ?_⟩
    · rw [hmanager]
      exact h.slots
    · intro otherType otherPool hother
      by_cases htype : otherType = typeId
      · subst htype
        rw [hpoolSelf, Option.some.injEq] at hother
        rw [← hother]
        exact hinverse.add hslot' component
      · rw [hpoolOther otherType htype] at hother
        exact h.inverse otherType otherPool hother
    · intro otherType entry hentry
      rw [hmanager]
      by_cases htype : otherType = typeId
      · subst htype
        rw [members_of_pool hpoolSelf, hmembers] at hentry
        rcases hentry with hold | rfl
        · exact h.live _ entry hold
        · exact hlive
      · rw [members, hpoolOther otherType htype] at hentry
        exact h.live otherType entry hentry
    · rw [tryGetComponent_of_pool hpoolSelf, hinverse.tryGet_add hslot', if_pos rfl, hget]
    · intro otherType other hne
      by_cases htype : otherType = typeId
      · subst htype
        rw [tryGetComponent_of_pool hpoolSelf, hinverse.tryGet_add hslot',
          if_neg (hne.resolve_left (not_not.2 rfl)), hget]
      · exact tryGetComponent_of_pools (hpoolOther otherType htype)

/-! ## Removing a component -/

/-- Taking a type out of the list of an entity that its pool just lost. -/
lemma Sound.removeEntityComponentType (h : world.Sound)
    {pool : ComponentPool (Component typeId)} (hpool : world.pools typeId = some pool)
    (hmem : entityId ∈ world.members typeId) :
    ∃ world' lists', (world.setPool typeId (pool.remove entityId).2).removeEntityComponentType
        entityId typeId = some world' ∧ world'.Typed lists' ∧
      world'.entityManager = world.entityManager ∧
      world'.pools = (world.setPool typeId (pool.remove entityId).2).pools := by
  obtain ⟨lists, hlists⟩ := h.lists
  have hinverse := h.inverse typeId pool hpool
  have hdense := members_of_pool hpool
  -- the list of the slot, split at its one node of the type
  obtain ⟨node, hnode, hkey⟩ := List.mem_map.1
    ((hlists.listed entityId.index.toNat typeId).2 ⟨entityId, hmem, rfl⟩)
  obtain ⟨before, after, hlist⟩ := List.append_of_mem hnode
  have hdistinct := hlists.distinct entityId.index.toNat
  rw [hlist, List.map_append, List.map_cons, hkey] at hdistinct
  have hbefore : ∀ earlier ∈ before, ∀ pool, world.nodeKey earlier ≠ some (typeId, pool) := by
    intro earlier hearlier pool hsame
    obtain ⟨other, hother⟩ := hlists.keyed entityId.index.toNat earlier
      (by rw [hlist]; exact List.mem_append_left _ hearlier)
    rw [hother, Option.some.injEq, Prod.mk.injEq] at hsame
    obtain ⟨rfl, -⟩ := hsame
    exact (List.nodup_append.1 hdistinct).2.2 _ (List.mem_map.2 ⟨earlier, hearlier, hother⟩) _
      List.mem_cons_self rfl
  have hafter : some (typeId, typeId) ∉ (before ++ after).map world.nodeKey := by
    have hnodup := List.perm_middle.nodup hdistinct
    rw [List.map_append]
    exact (List.nodup_cons.1 hnodup).1
  have hlinked := hlists.owned.linked (some entityId.index.toNat)
  have hne := hlinked.ne_stop hnode
  have hhead : ∃ first, world.entityComponentHeads[entityId.index.toNat]? = some first := by
    cases hhead : world.entityComponentHeads[entityId.index.toNat]? with
    | some first => exact ⟨first, rfl⟩
    | none =>
      have hstop : world.firstNode (some entityId.index.toNat)
          = invalidEntityComponentNode.toNat := by simp [firstNode, hhead]
      rw [hstop] at hlinked
      rw [hlinked.eq_nil_of_stop] at hnode
      cases hnode
  obtain ⟨first, hfirst⟩ := hhead
  have hstart : world.firstNode (some entityId.index.toNat) = first.toNat := by
    simp [firstNode, hfirst]
  have hlt := (List.getElem?_eq_some_iff.1 hfirst).1
  have hlength := NodeLists.length_le hlists.owned (some entityId.index.toNat)
  rw [hstart, hlist] at hlinked
  rw [hlist] at hlength
  have howned : (world.setPool typeId (pool.remove entityId).2).NodeLists lists := hlists.owned
  have hslot : SlotAfter entityId.index.toNat [] (.head entityId.index.toNat) := ⟨rfl, rfl⟩
  obtain ⟨world', heq, hlists', hkeys, hmanager, hpools⟩ :=
    unlinkNodeOfType_spec howned hslot hfirst hlinked hlist hkey hbefore hlength
  rw [List.nil_append] at hlists'
  have hkeys' : world'.nodeKey = world.nodeKey := hkeys
  have hmembersSelf : ∀ entry, entry ∈ world'.members typeId ↔
      entry ∈ world.members typeId ∧ entry ≠ entityId := by
    intro entry
    have hself : world'.pools typeId = some (pool.remove entityId).2 := by
      rw [hpools, pools_setPool_self]
    rw [members_of_pool hself, ComponentPool.mem_dense_remove hinverse, hdense]
  have hmembersOther : ∀ otherType, otherType ≠ typeId →
      world'.members otherType = world.members otherType := by
    intro otherType htype
    rw [members, members, hpools, pools_setPool_of_ne world _ htype]
  have hself : Function.update (Function.update lists (some entityId.index.toNat)
      (before ++ after)) none (node :: lists none) (some entityId.index.toNat) = before ++ after := by
    rw [Function.update_of_ne (Option.some_ne_none _), Function.update_self]
  have hother : ∀ index, index ≠ entityId.index.toNat →
      Function.update (Function.update lists (some entityId.index.toNat) (before ++ after)) none
        (node :: lists none) (some index) = lists (some index) := by
    intro index hindex
    rw [Function.update_of_ne (Option.some_ne_none _), Function.update_of_ne (by simpa using hindex)]
  refine ⟨world', _, ?_, ⟨hlists', ?_, ?_, ?_⟩, hmanager, hpools⟩
  · exact (if_neg (Nat.not_le.2 hlt)).trans heq
  · intro index i hi
    rw [hkeys']
    by_cases hindex : index = entityId.index.toNat
    · subst hindex
      rw [hself] at hi
      refine hlists.keyed entityId.index.toNat i ?_
      rw [hlist]
      simp only [List.mem_append, List.mem_cons] at hi ⊢
      tauto
    · rw [hother index hindex] at hi
      exact hlists.keyed index i hi
  · intro index
    rw [hkeys']
    by_cases hindex : index = entityId.index.toNat
    · subst hindex
      rw [hself, List.map_append]
      exact (List.perm_middle.nodup hdistinct).of_cons
    · rw [hother index hindex]
      exact hlists.distinct index
  · intro index otherType
    rw [hkeys']
    have hlisted := hlists.listed index otherType
    by_cases hindex : index = entityId.index.toNat
    · subst hindex
      rw [hself]
      by_cases htype : otherType = typeId
      · subst htype
        refine iff_of_false hafter ?_
        rintro ⟨entry, hentry, hindex⟩
        obtain ⟨hentry, hne⟩ := (hmembersSelf entry).1 hentry
        exact hne ((h.live _ entry hentry).eq_of_index_eq (h.live _ entityId hmem)
          (UInt32.toNat_inj.1 hindex))
      · rw [hmembersOther otherType htype, ← hlisted, hlist]
        simp [hkey, htype]
    · rw [hother index hindex]
      by_cases htype : otherType = typeId
      · subst htype
        rw [hlisted]
        constructor
        · rintro ⟨entry, hentry, rfl⟩
          exact ⟨entry, (hmembersSelf entry).2 ⟨hentry, fun heq => hindex (by rw [heq])⟩, rfl⟩
        · rintro ⟨entry, hentry, hslot⟩
          exact ⟨entry, ((hmembersSelf entry).1 hentry).1, hslot⟩
      · rw [hmembersOther otherType htype, hlisted]

/-- Removing a component: the entity has none of the type, and nothing else changes. -/
theorem Sound.removeComponent (h : world.Sound) (typeId : TypeId)
    (halive : world.alive entityId = true) :
    ∃ world', world.removeComponent entityId typeId = some world' ∧ world'.Sound ∧
      world'.entityManager = world.entityManager ∧
      world'.tryGetComponent typeId entityId = none ∧
      ∀ otherType other, otherType ≠ typeId ∨ other ≠ entityId →
        world'.tryGetComponent otherType other = world.tryGetComponent otherType other := by
  rw [World.removeComponent, if_pos halive]
  cases hpool : world.pools typeId with
  | none => exact ⟨world, rfl, h, rfl, by rw [tryGetComponent, hpool], fun _ _ _ => rfl⟩
  | some pool =>
    have hinverse := h.inverse typeId pool hpool
    have hdense := members_of_pool hpool
    cases hfind : pool.findDenseIndex entityId with
    | none =>
      refine ⟨world, by simp [ComponentPool.remove_of_missing hfind], h, rfl, ?_, fun _ _ _ => rfl⟩
      rw [tryGetComponent_of_pool hpool, ComponentPool.tryGet, hfind]
    | some denseIndex =>
      have hmem : entityId ∈ world.members typeId := by
        rw [hdense]
        exact List.mem_of_getElem? (hinverse.findDenseIndex_eq_some.1 hfind)
      obtain ⟨world', lists', heq, htyped, hmanager, hpools⟩ :=
        h.removeEntityComponentType hpool hmem
      have htaken : pool.remove entityId = (true, (pool.remove entityId).2) := by
        have hfirst := ComponentPool.fst_remove pool entityId
        rw [hinverse.has_iff.2 (hdense ▸ hmem)] at hfirst
        exact Prod.ext hfirst rfl
      have hpoolSelf : world'.pools typeId = some (pool.remove entityId).2 := by
        rw [hpools, pools_setPool_self]
      have hpoolOther : ∀ otherType, otherType ≠ typeId →
          world'.pools otherType = world.pools otherType := by
        intro otherType htype
        rw [hpools, pools_setPool_of_ne world _ htype]
      refine ⟨world', ?_, ⟨?_, ?_, ?_, lists', htyped⟩, hmanager, ?_, ?_⟩
      · simp only []
        rw [htaken]
        exact heq
      · rw [hmanager]
        exact h.slots
      · intro otherType otherPool hother
        by_cases htype : otherType = typeId
        · subst htype
          rw [hpoolSelf, Option.some.injEq] at hother
          rw [← hother]
          exact hinverse.remove
        · rw [hpoolOther otherType htype] at hother
          exact h.inverse otherType otherPool hother
      · intro otherType entry hentry
        rw [hmanager]
        by_cases htype : otherType = typeId
        · subst htype
          rw [members_of_pool hpoolSelf, ComponentPool.mem_dense_remove hinverse] at hentry
          exact h.live _ entry (hdense ▸ hentry.1)
        · rw [members, hpoolOther otherType htype] at hentry
          exact h.live otherType entry hentry
      · rw [tryGetComponent_of_pool hpoolSelf, hinverse.tryGet_remove, if_pos rfl]
      · intro otherType other hne
        by_cases htype : otherType = typeId
        · subst htype
          rw [tryGetComponent_of_pool hpoolSelf, hinverse.tryGet_remove,
            if_neg (hne.resolve_left (not_not.2 rfl)), tryGetComponent_of_pool hpool]
        · exact tryGetComponent_of_pools (hpoolOther otherType htype)

/-! ## Destroying an entity -/

/-- What the walk through a live entity's list leaves: the entity is out of every pool. -/
lemma Sound.destroyEntityComponents (h : world.Sound)
    (hlive : world.entityManager.Live entityId) :
    ∃ world' lists', world.destroyEntityComponents entityId = some world' ∧ world'.Typed lists' ∧
      world'.entityManager = world.entityManager ∧
      ∀ typeId, world'.pools typeId = world.pools typeId ∧ entityId ∉ world.members typeId ∨
        ∃ pool, world.pools typeId = some pool ∧
          world'.pools typeId = some (pool.remove entityId).2 := by
  obtain ⟨lists, hlists⟩ := h.lists
  have hlisted := hlists.listed entityId.index.toNat
  -- a member in the slot of the entity is the entity
  have hown : ∀ typeId, (∃ entry ∈ world.members typeId, entry.index.toNat = entityId.index.toNat) ↔
      entityId ∈ world.members typeId := by
    intro typeId
    constructor
    · rintro ⟨entry, hentry, hindex⟩
      obtain rfl := (h.live typeId entry hentry).eq_of_index_eq hlive (UInt32.toNat_inj.1 hindex)
      exact hentry
    · exact fun hmem => ⟨entityId, hmem, rfl⟩
  rw [World.destroyEntityComponents]
  cases hhead : world.entityComponentHeads[entityId.index.toNat]? with
  | none =>
    have hlinked := hlists.owned.linked (some entityId.index.toNat)
    have hstop : world.firstNode (some entityId.index.toNat)
        = invalidEntityComponentNode.toNat := by simp [firstNode, hhead]
    rw [hstop] at hlinked
    refine ⟨world, lists, rfl, hlists, rfl, fun typeId => Or.inl ⟨rfl, fun hmem => ?_⟩⟩
    have hnode := (hlisted typeId).2 ((hown typeId).2 hmem)
    rw [hlinked.eq_nil_of_stop] at hnode
    cases hnode
  | some nodeIndex =>
    have hlt := (List.getElem?_eq_some_iff.1 hhead).1
    have hstart : Function.update
        (world.writeSlot invalidEntityComponentNode (.head entityId.index.toNat)).firstNode
        (some entityId.index.toNat) nodeIndex.toNat = world.firstNode := by
      rw [firstNode_writeSlot_head world hlt, Function.update_idem, Function.update_eq_self_iff]
      simp [firstNode, hhead]
    have howned : Owned
        (world.writeSlot invalidEntityComponentNode (.head entityId.index.toNat)).nextNode
        invalidEntityComponentNode.toNat (Function.update
          (world.writeSlot invalidEntityComponentNode (.head entityId.index.toNat)).firstNode
          (some entityId.index.toNat) nodeIndex.toNat) lists := by
      rw [hstart]
      exact hlists.owned
    have hkeys : ∀ node ∈ lists (some entityId.index.toNat), ∃ typeId,
        (world.writeSlot invalidEntityComponentNode (.head entityId.index.toNat)).nodeKey node =
          some (typeId, typeId) ∧ ((world.writeSlot invalidEntityComponentNode
            (.head entityId.index.toNat)).pools typeId).isSome = true := by
      intro node hnode
      obtain ⟨typeId, hkey⟩ := hlists.keyed _ node hnode
      refine ⟨typeId, hkey, ?_⟩
      have hmem := (hown typeId).1 ((hlisted typeId).1 (List.mem_map.2 ⟨node, hnode, hkey⟩))
      change (world.pools typeId).isSome = true
      cases hpool : world.pools typeId with
      | none => simp [members, hpool] at hmem
      | some pool => rfl
    obtain ⟨world', lists', hrun, howned', hempty, hothers, hkeys', hheads, hmanager, hpools⟩ :=
      destroyNodes_spec entityId howned rfl (hlists.distinct _) hkeys
        (NodeLists.length_le hlists.owned _)
    have hkeyEq : world'.nodeKey = world.nodeKey := hkeys'
    have hpoolEq : ∀ typeId, world'.pools typeId =
        if some (typeId, typeId) ∈ (lists (some entityId.index.toNat)).map world.nodeKey then
          (world.pools typeId).map fun pool => (pool.remove entityId).2
        else world.pools typeId := hpools
    have hcases : ∀ typeId, world'.pools typeId = world.pools typeId ∧
          entityId ∉ world.members typeId ∨
        ∃ pool, world.pools typeId = some pool ∧
          world'.pools typeId = some (pool.remove entityId).2 := by
      intro typeId
      rw [hpoolEq]
      by_cases hmem : entityId ∈ world.members typeId
      · rw [if_pos ((hlisted typeId).2 ((hown typeId).2 hmem))]
        cases hpool : world.pools typeId with
        | none => simp [members, hpool] at hmem
        | some pool => exact Or.inr ⟨pool, rfl, rfl⟩
      · rw [if_neg fun hnode => hmem ((hown typeId).1 ((hlisted typeId).1 hnode))]
        exact Or.inl ⟨rfl, hmem⟩
    have hmembers : ∀ typeId entry, entry ∈ world'.members typeId ↔
        entry ∈ world.members typeId ∧ entry ≠ entityId := by
      intro typeId entry
      rcases hcases typeId with ⟨hsame, hnot⟩ | ⟨pool, hpool, hpool'⟩
      · rw [members, hsame]
        exact ⟨fun hmem => ⟨hmem, fun heq => hnot (heq ▸ hmem)⟩, And.left⟩
      · rw [members_of_pool hpool', ComponentPool.mem_dense_remove (h.inverse typeId pool hpool),
          members_of_pool hpool]
    have hstop : world'.firstNode (some entityId.index.toNat)
        = invalidEntityComponentNode.toNat := by
      have hcut : world'.entityComponentHeads = world.entityComponentHeads.set
        entityId.index.toNat invalidEntityComponentNode := hheads
      simp [firstNode, hcut, hlt]
    rw [Function.update_eq_self_iff.2 hstop.symm] at howned'
    refine ⟨world', lists', hrun, ⟨howned', fun index node hnode => ?_, fun index => ?_,
      fun index typeId => ?_⟩, hmanager, hcases⟩
    · rw [hkeyEq]
      by_cases hindex : index = entityId.index.toNat
      · rw [hindex, hempty] at hnode
        cases hnode
      · rw [hothers index hindex] at hnode
        exact hlists.keyed index node hnode
    · rw [hkeyEq]
      by_cases hindex : index = entityId.index.toNat
      · rw [hindex, hempty]
        exact List.nodup_nil
      · rw [hothers index hindex]
        exact hlists.distinct index
    · rw [hkeyEq]
      by_cases hindex : index = entityId.index.toNat
      · rw [hindex, hempty]
        refine iff_of_false (by simp) ?_
        rintro ⟨entry, hentry, hslot⟩
        obtain ⟨hentry, hne⟩ := (hmembers typeId entry).1 hentry
        exact hne ((h.live typeId entry hentry).eq_of_index_eq hlive (UInt32.toNat_inj.1 hslot))
      · rw [hothers index hindex, hlists.listed index typeId]
        constructor
        · rintro ⟨entry, hentry, hslot⟩
          exact ⟨entry, (hmembers typeId entry).2 ⟨hentry, fun heq => hindex (by rw [← hslot, heq])⟩,
            hslot⟩
        · rintro ⟨entry, hentry, hslot⟩
          exact ⟨entry, ((hmembers typeId entry).1 hentry).1, hslot⟩

/-- A live entity is destroyed with all its components; no other entity loses or changes one. -/
theorem Sound.destroyEntity (h : world.Sound) (hlive : world.entityManager.Live entityId) :
    ∃ world', world.destroyEntity entityId = some world' ∧ world'.Sound ∧
      world'.entityManager = world.entityManager.destroyAlive entityId ∧
      (∀ typeId, world'.tryGetComponent typeId entityId = none) ∧
      ∀ typeId other, other ≠ entityId →
        world'.tryGetComponent typeId other = world.tryGetComponent typeId other := by
  obtain ⟨world', lists', heq, htyped, hmanager, hcases⟩ := h.destroyEntityComponents hlive
  have hget : ∀ typeId other, world'.tryGetComponent typeId other =
      if other = entityId then none else world.tryGetComponent typeId other := by
    intro typeId other
    rcases hcases typeId with ⟨hsame, hnot⟩ | ⟨pool, hpool, hpool'⟩
    · rw [tryGetComponent_of_pools hsame]
      split
      · next hother =>
        rw [hother, ← Option.not_isSome_iff_eq_none, h.isSome_tryGetComponent]
        exact hnot
      · rfl
    · rw [tryGetComponent_of_pool hpool', tryGetComponent_of_pool hpool,
        (h.inverse typeId pool hpool).tryGet_remove]
  have hdestroy : world.destroyEntity entityId =
      some { world' with entityManager := world'.entityManager.destroyAlive entityId } := by
    rw [World.destroyEntity, if_pos (show world.alive entityId = true from hlive.1), heq,
      Option.map_some]
  refine ⟨_, hdestroy, ⟨?_, ?_, ?_, lists', htyped.congr_manager _⟩, ?_, fun typeId => ?_,
    fun typeId other hne => ?_⟩
  · rw [hmanager]
    exact h.slots.destroyAlive hlive
  · intro typeId pool hpool
    rcases hcases typeId with ⟨hsame, -⟩ | ⟨before, hbefore, hpool'⟩
    · exact h.inverse typeId pool (hsame ▸ hpool)
    · obtain rfl : pool = _ := Option.some.inj (hpool.symm.trans hpool')
      exact (h.inverse typeId before hbefore).remove
  · intro typeId entry hentry
    change entry ∈ world'.members typeId at hentry
    rw [hmanager]
    rcases hcases typeId with ⟨hsame, hnot⟩ | ⟨pool, hpool, hpool'⟩
    · rw [members, hsame] at hentry
      exact (h.live typeId entry hentry).destroyAlive hlive fun heq => hnot (heq ▸ hentry)
    · rw [members_of_pool hpool', ComponentPool.mem_dense_remove (h.inverse typeId pool hpool)]
        at hentry
      exact (h.live typeId entry (members_of_pool hpool ▸ hentry.1)).destroyAlive hlive hentry.2
  · rw [hmanager]
  · exact (hget typeId entityId).trans (if_pos rfl)
  · exact (hget typeId other).trans (if_neg hne)

/-! ## Runs -/

/-- The calls of a run: a component is only added to a live entity, and the handles of the other
calls are live ones, or stale ones whose generation has not come round. The last condition on an
addition is the assertion of `acquireEntityComponentNode`. -/
def Call.Admissible (world : World Component) : Call Component → Prop
  | .createEntity | .clear => True
  | .destroyEntity entityId | .removeComponent entityId _ =>
    world.alive entityId = true → world.entityManager.Live entityId
  | .addComponent entityId _ _ => world.entityManager.Live entityId ∧
      (world.freeEntityComponentNode ≠ invalidEntityComponentNode ∨
        world.entityComponentNodes.length < 2 ^ 32 - 1)

/-- Every admissible call is carried out and keeps the invariant. -/
lemma Sound.step (h : world.Sound) {call : Call Component} (hcall : call.Admissible world) :
    ∃ world', world.step call = some world' ∧ world'.Sound := by
  cases call with
  | createEntity => exact ⟨_, rfl, h.createEntity⟩
  | destroyEntity entityId =>
    by_cases halive : world.alive entityId = true
    · obtain ⟨world', heq, hsound, -⟩ := h.destroyEntity (hcall halive)
      exact ⟨world', heq, hsound⟩
    · exact ⟨world, if_neg halive, h⟩
  | addComponent entityId typeId component =>
    obtain ⟨world', heq, hsound, -⟩ := h.addComponent hcall.1 hcall.2 component
    exact ⟨world', heq, hsound⟩
  | removeComponent entityId typeId =>
    by_cases halive : world.alive entityId = true
    · obtain ⟨world', heq, hsound, -⟩ := h.removeComponent typeId halive
      exact ⟨world', heq, hsound⟩
    · exact ⟨world, if_neg halive, h⟩
  | clear => exact ⟨_, rfl, .empty⟩

/-- The number of nodes of the type in a list. -/
def countOfType (world : World Component) (typeId : TypeId) (nodes : List ℕ) : ℕ :=
  nodes.countP fun node => (world.entityComponentNodes[node]?.map (·.typeId)) = some typeId

/-- What holds of a world's storage: inverse arrays in every pool, a node table that is made up of
the slots' lists and the free list, one node for every component of a live entity, and a
destruction that takes exactly the entity's components. -/
structure StorageAgrees (world : World Component) : Prop where
  inverse : ∀ typeId pool, world.pools typeId = some pool → pool.Inverse
  lists : ∃ lists, world.NodeLists lists ∧ ∀ entityId typeId,
    world.entityManager.Live entityId →
      (world.hasComponent typeId entityId = true ↔
        world.countOfType typeId (lists (some entityId.index.toNat)) = 1) ∧
      (world.hasComponent typeId entityId = false ↔
        world.countOfType typeId (lists (some entityId.index.toNat)) = 0)
  destroy : ∀ entityId, world.entityManager.Live entityId → ∃ world',
    world.destroyEntity entityId = some world' ∧
      (∀ typeId, world'.hasComponent typeId entityId = false) ∧
      ∀ other typeId, world.entityManager.Live other → other ≠ entityId →
        world'.entityManager.Live other ∧
        world'.tryGetComponent typeId other = world.tryGetComponent typeId other

lemma Typed.countOfType_eq (h : world.Typed lists) (index : ℕ) (typeId : TypeId) :
    world.countOfType typeId (lists (some index)) =
      if some (typeId, typeId) ∈ (lists (some index)).map world.nodeKey then 1 else 0 := by
  have hcount : world.countOfType typeId (lists (some index)) =
      ((lists (some index)).map world.nodeKey).count (some (typeId, typeId)) := by
    rw [countOfType, List.count_eq_countP, List.countP_map]
    refine List.countP_congr fun node hnode => ?_
    obtain ⟨other, hkey⟩ := h.keyed index node hnode
    obtain ⟨entry, hentry, htype, -⟩ := nodeKey_eq_some.1 hkey
    simp [hkey, hentry, htype]
  rw [hcount, (h.distinct index).count]

lemma Sound.storageAgrees (h : world.Sound) : world.StorageAgrees := by
  obtain ⟨lists, hlists⟩ := h.lists
  refine ⟨h.inverse, ⟨lists, hlists.owned, fun entityId typeId hlive => ?_⟩,
    fun entityId hlive => ?_⟩
  · have hhas : world.hasComponent typeId entityId = true ↔
        some (typeId, typeId) ∈ (lists (some entityId.index.toNat)).map world.nodeKey := by
      rw [h.hasComponent_iff, hlists.listed]
      constructor
      · exact fun hmem => ⟨entityId, hmem, rfl⟩
      · rintro ⟨entry, hentry, hindex⟩
        obtain rfl := (h.live typeId entry hentry).eq_of_index_eq hlive (UInt32.toNat_inj.1 hindex)
        exact hentry
    rw [hlists.countOfType_eq]
    by_cases hmem : some (typeId, typeId) ∈ (lists (some entityId.index.toNat)).map world.nodeKey
    · simp [hhas.2 hmem, hmem]
    · have hnot : world.hasComponent typeId entityId = false := by
        rw [← Bool.not_eq_true]
        exact fun hhas' => hmem (hhas.1 hhas')
      simp [hnot, hmem]
  · obtain ⟨world', heq, hsound, hmanager, hgone, hothers⟩ := h.destroyEntity hlive
    refine ⟨world', heq, fun typeId => ?_,
      fun other typeId hother hne => ⟨?_, hothers typeId other hne⟩⟩
    · rw [← Bool.not_eq_true, hsound.hasComponent_iff, ← hsound.isSome_tryGetComponent, hgone]
      simp
    · rw [hmanager]
      exact hother.destroyAlive hlive hne

/-- The invariant holds after every sequence of admissible calls on a new world. -/
lemma Sound.of_run {calls : List (Call Component)}
    (hrun : Run World.step (fun world call => Call.Admissible world call) {} calls world) :
    world.Sound :=
  hrun.invariant .empty fun world call world' hcall hstep hsound => by
    obtain ⟨world'', heq, hsound'⟩ := hsound.step hcall
    obtain rfl : world'' = world' := Option.some.inj (heq.symm.trans hstep)
    exact hsound'

/-- After every sequence of admissible calls on a new world the storage agrees, and every
admissible call is carried out. -/
theorem componentStorage_agrees (calls : List (Call Component)) (world : World Component)
    (hrun : Run World.step (fun world call => Call.Admissible world call) {} calls world) :
    world.StorageAgrees ∧
      ∀ call, Call.Admissible world call → ∃ world', world.step call = some world' := by
  have hsound : world.Sound := .of_run hrun
  exact ⟨hsound.storageAgrees, fun call hcall =>
    (hsound.step hcall).imp fun world' h => h.1⟩

instance (world : World Component) : (call : Call Component) → Decidable (call.Admissible world)
  | .createEntity | .clear => inferInstanceAs (Decidable True)
  | .destroyEntity entityId | .removeComponent entityId _ =>
    inferInstanceAs (Decidable (world.alive entityId = true → world.entityManager.Live entityId))
  | .addComponent entityId _ _ => inferInstanceAs (Decidable (world.entityManager.Live entityId ∧ _))

end Calls

/-- Two entities with components of two types; the first one goes, and its place in the pool of the
first type is taken by the second one's component. -/
def swappedOut : List (Call fun _ : ℕ => ℕ) :=
  [.createEntity, .createEntity, .addComponent (.make 0 0) 0 5, .addComponent (.make 1 0) 0 7,
   .addComponent (.make 0 0) 1 6, .removeComponent (.make 0 0) 1, .destroyEntity (.make 0 0)]

theorem componentStorage_agrees_swappedOut : ∃ world : World fun _ : ℕ => ℕ,
    Run World.step (fun world call => Call.Admissible world call) {} swappedOut world ∧
      world.StorageAgrees := by
  have hafter : (after World.step (fun world call => decide (Call.Admissible world call)) {}
      swappedOut).isSome = true := by decide
  obtain ⟨world, hworld⟩ := Option.isSome_iff_exists.1 hafter
  have hrun := run_of_after (fun _ _ => of_decide_eq_true) hworld
  exact ⟨world, hrun, (componentStorage_agrees swappedOut world hrun).1⟩

end World
end NwbLot.Ecs
