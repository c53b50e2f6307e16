import NwbLot.Ecs.World
import NwbLot.Library.IndexLists

/-!
# The lists of the node table

What the operations on the node table do to the lists of the slots and to the list of free nodes.

`NodeLists` names the nodes of every slot and of the free list in their order.  Each operation
links, unlinks or moves nodes of one list and leaves the others alone.
-/

namespace NwbLot.Ecs
namespace World

open IndexLists

variable {TypeId : Type} {Component : TypeId → Type}

/-! ## The table as lists -/

def nextNode (world : World Component) (node : ℕ) : Option ℕ :=
  world.entityComponentNodes[node]?.map fun entry => entry.next.toNat

/-- The type and the pool of a node. -/
def nodeKey (world : World Component) (node : ℕ) : Option (TypeId × TypeId) :=
  world.entityComponentNodes[node]?.map fun entry => (entry.typeId, entry.pool)

/-- The first node of a slot's list, or of the free list. -/
def firstNode (world : World Component) : Option ℕ → ℕ
  | none => world.freeEntityComponentNode.toNat
  | some index => (world.entityComponentHeads[index]?.getD invalidEntityComponentNode).toNat

/-- The node table is made up of the given lists: one for every slot, and the free list. -/
abbrev NodeLists (world : World Component) (lists : Option ℕ → List ℕ) : Prop :=
  Owned world.nextNode invalidEntityComponentNode.toNat world.firstNode lists

variable {world : World Component} {lists : Option ℕ → List ℕ}

lemma toNat_ne_invalid {node : UInt32} :
    node.toNat ≠ invalidEntityComponentNode.toNat ↔ node ≠ invalidEntityComponentNode := by
  rw [Ne, UInt32.toNat_inj]

lemma nextNode_eq_some {node after : ℕ} : world.nextNode node = some after ↔
    ∃ entry, world.entityComponentNodes[node]? = some entry ∧ entry.next.toNat = after := by
  rw [nextNode, Option.map_eq_some_iff]

lemma nodeKey_eq_some {node : ℕ} {typeId pool : TypeId} : world.nodeKey node = some (typeId, pool) ↔
    ∃ entry, world.entityComponentNodes[node]? = some entry ∧ entry.typeId = typeId ∧
      entry.pool = pool := by
  rw [nodeKey, Option.map_eq_some_iff]
  simp only [Prod.mk.injEq]

lemma NodeLists.length_le (h : world.NodeLists lists) (owner : Option ℕ) :
    (lists owner).length ≤ world.entityComponentNodes.length := by
  refine Owned.length_le h (fun node after hnext => ?_) owner
  obtain ⟨entry, hentry, -⟩ := nextNode_eq_some.1 hnext
  exact (List.getElem?_eq_some_iff.1 hentry).1

/-- Rewriting the link of one node. -/
lemma nextNode_modify {node : ℕ} (h : node < world.entityComponentNodes.length) (next : UInt32)
    {world' : World Component}
    (hnodes : world'.entityComponentNodes = world.entityComponentNodes.modify node
      fun entry => { entry with next := next }) :
    world'.nextNode = Function.update world.nextNode node (some next.toNat) := by
  funext i
  rw [nextNode, hnodes, List.getElem?_modify, Option.map_eq_map, Option.map_map]
  by_cases hi : i = node
  · subst hi
    rw [Function.update_self, List.getElem?_eq_getElem h]
    simp
  · rw [Function.update_of_ne hi, nextNode]
    congr 1
    funext entry
    simp [Ne.symm hi]

lemma nodeKey_modify {node : ℕ} (next : UInt32) {world' : World Component}
    (hnodes : world'.entityComponentNodes = world.entityComponentNodes.modify node
      fun entry => { entry with next := next }) : world'.nodeKey = world.nodeKey := by
  funext i
  rw [nodeKey, hnodes, List.getElem?_modify, Option.map_eq_map, Option.map_map, nodeKey]
  congr 1
  funext entry
  by_cases hi : node = i <;> simp [hi]

/-! ## Releasing and acquiring nodes -/

/-- A released node, seen as links: it becomes the first free node. -/
lemma releaseEntityComponentNode_spec (world : World Component) {nodeIndex : UInt32}
    (h : nodeIndex.toNat < world.entityComponentNodes.length) :
    ∃ world', world.releaseEntityComponentNode nodeIndex = some world' ∧
      world'.nextNode =
        Function.update world.nextNode nodeIndex.toNat (some (world.firstNode none)) ∧
      world'.firstNode = Function.update world.firstNode none nodeIndex.toNat ∧
      world'.nodeKey = world.nodeKey ∧
      world'.entityComponentNodes.length = world.entityComponentNodes.length ∧
      world'.entityComponentHeads = world.entityComponentHeads ∧
      world'.entityManager = world.entityManager ∧ world'.pools = world.pools := by
  refine ⟨_, if_pos h, nextNode_modify h _ rfl, ?_, nodeKey_modify _ rfl, List.length_modify _ _ _,
    rfl, rfl, rfl⟩
  funext owner
  cases owner with
  | none => exact (Function.update_self none _ world.firstNode).symm
  | some index => rw [Function.update_of_ne (Option.some_ne_none index)]; rfl

lemma firstNode_writeSlot_head (world : World Component) {index : ℕ}
    (h : index < world.entityComponentHeads.length) (value : UInt32) :
    (world.writeSlot value (.head index)).firstNode =
      Function.update world.firstNode (some index) value.toNat := by
  funext owner
  cases owner with
  | none => rw [Function.update_of_ne (by simp)]; rfl
  | some i =>
    by_cases hi : i = index
    · subst hi
      rw [Function.update_self]
      simp [firstNode, writeSlot, h]
    · rw [Function.update_of_ne (by simpa using hi)]
      simp [firstNode, writeSlot, Ne.symm hi]

lemma nextNode_appendNode (world : World Component) (entry : EntityComponentNode TypeId) :
    (world.appendNode entry).nextNode = Function.update world.nextNode
      world.entityComponentNodes.length (some entry.next.toNat) := by
  funext i
  rw [nextNode, appendNode, List.getElem?_append]
  by_cases hi : i = world.entityComponentNodes.length
  · subst hi
    simp
  · rw [Function.update_of_ne hi, nextNode]
    split
    · rfl
    · rw [List.getElem?_eq_none (by simp; omega), List.getElem?_eq_none (by omega)]

lemma nextNode_takeFreeNode (world : World Component)
    (h : world.firstNode none < world.entityComponentNodes.length) (nextFree : UInt32)
    (entry : EntityComponentNode TypeId) :
    (world.takeFreeNode nextFree entry).nextNode =
      Function.update world.nextNode (world.firstNode none) (some entry.next.toNat) := by
  funext i
  rw [nextNode, takeFreeNode, List.getElem?_set]
  by_cases hi : i = world.firstNode none
  · subst hi
    change world.freeEntityComponentNode.toNat < _ at h
    simp [firstNode, h]
  · rw [Function.update_of_ne hi, nextNode, if_neg fun heq => hi heq.symm]

lemma firstNode_takeFreeNode (world : World Component) (nextFree : UInt32)
    (entry : EntityComponentNode TypeId) : (world.takeFreeNode nextFree entry).firstNode =
      Function.update world.firstNode none nextFree.toNat := by
  funext owner
  cases owner with
  | none => exact (Function.update_self none _ world.firstNode).symm
  | some index => rw [Function.update_of_ne (Option.some_ne_none index)]; rfl

/-- The lists after a node went to the front of a slot's list: one that was free, or a new one. -/
lemma acquireEntityComponentNode_spec (h : world.NodeLists lists) {index : ℕ}
    {headNode : UInt32} (hhead : world.entityComponentHeads[index]? = some headNode)
    (hroom : world.freeEntityComponentNode ≠ invalidEntityComponentNode ∨
      world.entityComponentNodes.length < 2 ^ 32 - 1) (typeId pool : TypeId) :
    ∃ nodeIndex world' lists', world.acquireEntityComponentNode typeId pool headNode =
        some (nodeIndex, world') ∧
      (world'.writeSlot nodeIndex (.head index)).NodeLists lists' ∧
      lists' (some index) = nodeIndex.toNat :: lists (some index) ∧
      (∀ i, i ≠ index → lists' (some i) = lists (some i)) ∧
      (∀ i, nodeIndex.toNat ∉ lists (some i)) ∧
      world'.nodeKey nodeIndex.toNat = some (typeId, pool) ∧
      (∀ node, node ≠ nodeIndex.toNat → world'.nodeKey node = world.nodeKey node) ∧
      world'.entityManager = world.entityManager ∧ world'.pools = world.pools := by
  have hindex := (List.getElem?_eq_some_iff.1 hhead).1
  have hfirst : world.firstNode (some index) = headNode.toNat := by simp [firstNode, hhead]
  by_cases hfree : world.freeEntityComponentNode = invalidEntityComponentNode
  · -- no node is free
    have hlength : world.entityComponentNodes.length < 2 ^ 32 - 1 :=
      hroom.resolve_left (not_not.2 hfree)
    have hnat : (UInt32.ofNat world.entityComponentNodes.length).toNat
        = world.entityComponentNodes.length :=
      UInt32.toNat_ofNat_of_lt' (by simp [UInt32.size]; omega)
    have hstop : world.entityComponentNodes.length ≠ invalidEntityComponentNode.toNat := by
      have hmax : invalidEntityComponentNode.toNat = 2 ^ 32 - 1 := rfl
      omega
    have hnone : world.nextNode world.entityComponentNodes.length = none := by simp [nextNode]
    have hpush : Owned _ _ (Function.update _ (some index) _) _ := Owned.pushFresh h hnone hstop
    have heq : world.acquireEntityComponentNode typeId pool headNode =
        some (UInt32.ofNat world.entityComponentNodes.length,
          world.appendNode ⟨typeId, pool, headNode⟩) := by
      simp only [acquireEntityComponentNode, hfree, bne_self_eq_false, Bool.false_eq_true,
        if_false, if_pos hlength]
    refine ⟨_, _, Function.update lists (some index)
      (world.entityComponentNodes.length :: lists (some index)), heq, ?_,
      by rw [hnat, Function.update_self], fun i hi => ?_, fun i hmem => ?_,
      by simp [nodeKey, appendNode, hnat], fun node hne => ?_, rfl, rfl⟩
    · have hnext : ((world.appendNode ⟨typeId, pool, headNode⟩).writeSlot
          (UInt32.ofNat world.entityComponentNodes.length) (.head index)).nextNode =
          Function.update world.nextNode world.entityComponentNodes.length (some headNode.toNat) :=
        nextNode_appendNode world _
      rw [NodeLists, firstNode_writeSlot_head (world.appendNode _) hindex, hnat, hnext, ← hfirst]
      exact hpush
    · rw [Function.update_of_ne (by simpa using hi)]
    · rw [hnat] at hmem
      obtain ⟨after, hnext⟩ := (h.linked (some i)).exists_next hmem
      rw [hnone] at hnext
      cases hnext
    · rw [hnat] at hne
      rw [nodeKey, appendNode, List.getElem?_append]
      split
      · rfl
      · rw [nodeKey, List.getElem?_eq_none (by simp; omega), List.getElem?_eq_none (by omega)]
  · -- the first free node is reused
    have hlinked := h.linked none
    obtain ⟨after, rest, hnext, hlist, hrest⟩ := hlinked.eq_cons (toNat_ne_invalid.2 hfree)
    obtain ⟨entry, hentry, rfl⟩ := nextNode_eq_some.1 hnext
    have hlt := (List.getElem?_eq_some_iff.1 hentry).1
    have hmem : world.firstNode none ∈ lists none := by rw [hlist]; exact List.mem_cons_self
    have hmove := Owned.moveHead h (Option.some_ne_none index).symm hlist hnext
    have heq : world.acquireEntityComponentNode typeId pool headNode =
        some (world.freeEntityComponentNode,
          world.takeFreeNode entry.next ⟨typeId, pool, headNode⟩) := by
      change world.entityComponentNodes[world.freeEntityComponentNode.toNat]? = some entry at hentry
      simp [acquireEntityComponentNode, hfree, hentry]
    refine ⟨_, _, Function.update (Function.update lists none rest) (some index)
      (world.firstNode none :: lists (some index)), heq, ?_, by rw [Function.update_self]; rfl,
      fun i hi => ?_, fun i => Owned.not_mem h (Option.some_ne_none i).symm hmem, ?_,
      fun node hne => by simp [nodeKey, takeFreeNode, Ne.symm hne], rfl, rfl⟩
    · have hnext : ((world.takeFreeNode entry.next ⟨typeId, pool, headNode⟩).writeSlot
          world.freeEntityComponentNode (.head index)).nextNode =
          Function.update world.nextNode (world.firstNode none) (some headNode.toNat) :=
        nextNode_takeFreeNode world hlt entry.next ⟨typeId, pool, headNode⟩
      rw [NodeLists,
        firstNode_writeSlot_head (world.takeFreeNode entry.next ⟨typeId, pool, headNode⟩) hindex,
        firstNode_takeFreeNode, hnext, ← hfirst]
      exact hmove
    · rw [Function.update_of_ne (by simpa using hi), Function.update_of_ne (by simp)]
    · change world.freeEntityComponentNode.toNat < _ at hlt
      simp [nodeKey, takeFreeNode, hlt]

lemma firstNode_ensureEntityComponentHead (world : World Component) (entityId : EntityID) :
    (world.ensureEntityComponentHead entityId).firstNode = world.firstNode := by
  funext owner
  rw [ensureEntityComponentHead]
  split
  · cases owner with
    | none => rfl
    | some index =>
      rw [firstNode, firstNode, List.getElem?_append]
      split
      · rfl
      · rw [List.getElem?_replicate, List.getElem?_eq_none (by omega)]
        split <;> rfl
  · rfl

lemma exists_head_ensureEntityComponentHead (world : World Component) (entityId : EntityID) :
    ∃ headNode, (world.ensureEntityComponentHead entityId).entityComponentHeads[
      entityId.index.toNat]? = some headNode := by
  have hlt : entityId.index.toNat
      < (world.ensureEntityComponentHead entityId).entityComponentHeads.length := by
    rw [ensureEntityComponentHead]
    split
    · simp only [List.length_append, List.length_replicate]
      omega
    · omega
  exact ⟨_, List.getElem?_eq_getElem hlt⟩

lemma ensureEntityComponentHead_fields (world : World Component) (entityId : EntityID) :
    (world.ensureEntityComponentHead entityId).entityComponentNodes = world.entityComponentNodes ∧
    (world.ensureEntityComponentHead entityId).freeEntityComponentNode
      = world.freeEntityComponentNode ∧
    (world.ensureEntityComponentHead entityId).entityManager = world.entityManager ∧
    (world.ensureEntityComponentHead entityId).pools = world.pools := by
  rw [ensureEntityComponentHead]
  split <;> exact ⟨rfl, rfl, rfl, rfl⟩

/-! ## Walking a list -/

section Walks

variable {typeId : TypeId}

/-- A link that does not end its list leads to a node of the table. -/
lemma exists_entry {nodeIndex : UInt32} {nodes : List ℕ}
    (h : Linked world.nextNode invalidEntityComponentNode.toNat nodeIndex.toNat nodes)
    (hne : nodeIndex ≠ invalidEntityComponentNode) : ∃ entry rest,
      world.entityComponentNodes[nodeIndex.toNat]? = some entry ∧
      nodes = nodeIndex.toNat :: rest ∧
      Linked world.nextNode invalidEntityComponentNode.toNat entry.next.toNat rest := by
  obtain ⟨after, rest, hnext, rfl, hrest⟩ := h.eq_cons (toNat_ne_invalid.2 hne)
  obtain ⟨entry, hentry, rfl⟩ := nextNode_eq_some.1 hnext
  exact ⟨entry, rest, hentry, rfl, hrest⟩

section Search

variable [DecidableEq TypeId]

/-- The search tells whether the list has a node of the type. -/
lemma findNodeOfType_spec (typeId : TypeId) {nodes : List ℕ} {nodeIndex : UInt32} {fuel : ℕ}
    (h : Linked world.nextNode invalidEntityComponentNode.toNat nodeIndex.toNat nodes)
    (hfuel : nodes.length ≤ fuel) : ∃ found, world.findNodeOfType typeId fuel nodeIndex = some found ∧
      (found = true ↔ ∃ node ∈ nodes, ∃ pool, world.nodeKey node = some (typeId, pool)) := by
  induction nodes generalizing nodeIndex fuel with
  | nil =>
    have hstop : nodeIndex = invalidEntityComponentNode := UInt32.toNat_inj.1 h.start_eq_of_nil
    exact ⟨false, by unfold findNodeOfType; rw [if_pos hstop], by simp⟩
  | cons node nodes ih =>
    have hnode := h.start_eq
    have hne : nodeIndex ≠ invalidEntityComponentNode :=
      toNat_ne_invalid.1 (hnode ▸ h.ne_stop List.mem_cons_self)
    obtain ⟨entry, rest, hentry, heq, hrest⟩ := exists_entry h hne
    obtain rfl : nodes = rest := (List.cons.inj heq).2
    have hkey : world.nodeKey node = some (entry.typeId, entry.pool) :=
      nodeKey_eq_some.2 ⟨entry, hnode ▸ hentry, rfl, rfl⟩
    cases fuel with
    | zero => simp at hfuel
    | succ fuel =>
      by_cases htype : entry.typeId = typeId
      · refine ⟨true, by simp [findNodeOfType, hne, hentry, htype], iff_of_true rfl ?_⟩
        exact ⟨node, List.mem_cons_self, entry.pool, htype ▸ hkey⟩
      · obtain ⟨found, hfound, hiff⟩ := ih hrest (by simpa using hfuel)
        refine ⟨found, by simp [findNodeOfType, hne, hentry, htype, hfound], hiff.trans ?_⟩
        constructor
        · rintro ⟨other, hother, hpool⟩
          exact ⟨other, List.mem_cons_of_mem _ hother, hpool⟩
        · rintro ⟨other, hother, pool, hpool⟩
          rcases List.mem_cons.1 hother with rfl | hother
          · rw [hkey, Option.some.injEq, Prod.mk.injEq] at hpool
            exact absurd hpool.1 htype
          · exact ⟨other, hother, pool, hpool⟩

end Search

/-- The slot that links to what is left of a list after some of its nodes. -/
def SlotAfter (index : ℕ) (visited : List ℕ) : NextNodeSlot → Prop
  | .head i => visited = [] ∧ i = index
  | .link nodeIndex => ∃ before, visited = before ++ [nodeIndex.toNat]

/-- Unlinking and releasing the node that a slot links to. -/
lemma unlink_spec (h : world.NodeLists lists) {index : ℕ} {visited after : List ℕ}
    {slot : NextNodeSlot} (hslot : SlotAfter index visited slot) {nodeIndex : UInt32}
    {entry : EntityComponentNode TypeId}
    (hread : world.readSlot slot = some nodeIndex)
    (hentry : world.entityComponentNodes[nodeIndex.toNat]? = some entry)
    (hlist : lists (some index) = visited ++ nodeIndex.toNat :: after) :
    ∃ world', (world.writeSlot entry.next slot).releaseEntityComponentNode nodeIndex = some world' ∧
      world'.NodeLists (Function.update (Function.update lists (some index) (visited ++ after)) none
        (nodeIndex.toNat :: lists none)) ∧
      world'.nodeKey = world.nodeKey ∧ world'.entityManager = world.entityManager ∧
      world'.pools = world.pools := by
  have hlt := (List.getElem?_eq_some_iff.1 hentry).1
  have hnext : world.nextNode nodeIndex.toNat = some entry.next.toNat :=
    nextNode_eq_some.2 ⟨entry, hentry, rfl⟩
  cases slot with
  | head i =>
    obtain ⟨rfl, rfl⟩ := hslot
    have hi : i < world.entityComponentHeads.length := (List.getElem?_eq_some_iff.1 hread).1
    obtain ⟨world', heq, hlinks, hfirst, hkey, -, -, hmanager, hpools⟩ :=
      releaseEntityComponentNode_spec (world.writeSlot entry.next (.head i)) hlt
    refine ⟨world', heq, ?_, hkey, hmanager, hpools⟩
    have hmove := Owned.moveHead h (Option.some_ne_none i) hlist hnext
    rw [NodeLists, hlinks, hfirst, firstNode_writeSlot_head world hi]
    exact hmove
  | link prevIndex =>
    obtain ⟨before, rfl⟩ := hslot
    rw [List.append_assoc, List.singleton_append] at hlist
    obtain ⟨prevEntry, hprev, -⟩ := Option.map_eq_some_iff.1 hread
    have hprevLt := (List.getElem?_eq_some_iff.1 hprev).1
    have hlength : nodeIndex.toNat
        < (world.writeSlot entry.next (.link prevIndex)).entityComponentNodes.length := by
      rw [writeSlot, List.length_modify]
      exact hlt
    obtain ⟨world', heq, hlinks, hfirst, hkey, -, -, hmanager, hpools⟩ :=
      releaseEntityComponentNode_spec _ hlength
    refine ⟨world', heq, ?_, hkey.trans (nodeKey_modify entry.next rfl), hmanager, hpools⟩
    have hmove := Owned.moveInner h (Option.some_ne_none index) hlist hnext
    have hlinks' : (world.writeSlot entry.next (.link prevIndex)).nextNode =
        Function.update world.nextNode prevIndex.toNat (some entry.next.toNat) :=
      nextNode_modify hprevLt entry.next rfl
    rw [NodeLists, hlinks, hfirst, hlinks', List.append_assoc, List.singleton_append]
    exact hmove

variable [DecidableEq TypeId]

/-- The loop unlinks the first node of the type. -/
lemma unlinkNodeOfType_spec (h : world.NodeLists lists) {index : ℕ} {before after : List ℕ}
    {node : ℕ} {pool : TypeId} {visited : List ℕ} {slot : NextNodeSlot} {fuel : ℕ}
    (hslot : SlotAfter index visited slot) {first : UInt32}
    (hread : world.readSlot slot = some first)
    (hlinked : Linked world.nextNode invalidEntityComponentNode.toNat first.toNat
      (before ++ node :: after))
    (hlist : lists (some index) = visited ++ (before ++ node :: after))
    (hnode : world.nodeKey node = some (typeId, pool))
    (hbefore : ∀ other ∈ before, ∀ pool, world.nodeKey other ≠ some (typeId, pool))
    (hfuel : (before ++ node :: after).length ≤ fuel) :
    ∃ world', world.unlinkNodeOfType typeId fuel slot = some world' ∧
      world'.NodeLists (Function.update (Function.update lists (some index)
        (visited ++ (before ++ after))) none (node :: lists none)) ∧
      world'.nodeKey = world.nodeKey ∧ world'.entityManager = world.entityManager ∧
      world'.pools = world.pools := by
  induction before generalizing visited slot fuel first with
  | nil =>
    have hstart := hlinked.start_eq
    have hne : first ≠ invalidEntityComponentNode :=
      toNat_ne_invalid.1 (hstart ▸ hlinked.ne_stop List.mem_cons_self)
    obtain ⟨entry, hentry, htype, -⟩ := nodeKey_eq_some.1 hnode
    rw [List.nil_append, ← hstart] at hlist
    rw [← hstart] at hentry ⊢
    obtain ⟨world', heq, hlists⟩ := unlink_spec h hslot hread hentry hlist
    cases fuel with
    | zero => simp at hfuel
    | succ fuel => exact ⟨world', by simp [unlinkNodeOfType, hread, hne, hentry, htype, heq], hlists⟩
  | cons other before ih =>
    have hstart := hlinked.start_eq
    have hne : first ≠ invalidEntityComponentNode :=
      toNat_ne_invalid.1 (hstart ▸ hlinked.ne_stop List.mem_cons_self)
    obtain ⟨entry, rest, hentry, heq, hrest⟩ := exists_entry hlinked hne
    obtain rfl : before ++ node :: after = rest := (List.cons.inj heq).2
    have htype : entry.typeId ≠ typeId := by
      intro htype
      exact hbefore other List.mem_cons_self entry.pool
        (nodeKey_eq_some.2 ⟨entry, hstart ▸ hentry, htype, rfl⟩)
    cases fuel with
    | zero => simp at hfuel
    | succ fuel =>
      have hread' : world.readSlot (.link first) = some entry.next := by simp [readSlot, hentry]
      have hslot' : SlotAfter index (visited ++ [other]) (.link first) := ⟨visited, by rw [hstart]⟩
      have hfuel' : (before ++ node :: after).length ≤ fuel := by simpa using hfuel
      obtain ⟨world', heq, hlists, hrest⟩ := ih hslot' hread' hrest (by simpa using hlist)
        (fun i hi => hbefore i (List.mem_cons_of_mem _ hi)) hfuel'
      refine ⟨world', by simp [unlinkNodeOfType, hread, hne, hentry, htype, heq], ?_, hrest⟩
      simpa using hlists

/-- The loop of a destroyed entity: the nodes of its list, which no slot holds any more, are all
released, and the entity is removed from the pools they name. -/
lemma destroyNodes_spec (entityId : EntityID) {index : ℕ} {nodes : List ℕ} {nodeIndex : UInt32}
    {fuel : ℕ} (h : Owned world.nextNode invalidEntityComponentNode.toNat
      (Function.update world.firstNode (some index) nodeIndex.toNat) lists)
    (hlist : lists (some index) = nodes) (hdistinct : (nodes.map world.nodeKey).Nodup)
    (hkeys : ∀ node ∈ nodes, ∃ typeId, world.nodeKey node = some (typeId, typeId) ∧
      (world.pools typeId).isSome = true) (hfuel : nodes.length ≤ fuel) :
    ∃ world' lists', world.destroyNodes entityId fuel nodeIndex = some world' ∧
      Owned world'.nextNode invalidEntityComponentNode.toNat (Function.update world'.firstNode
        (some index) invalidEntityComponentNode.toNat) lists' ∧
      lists' (some index) = [] ∧ (∀ i, i ≠ index → lists' (some i) = lists (some i)) ∧
      world'.nodeKey = world.nodeKey ∧
      world'.entityComponentHeads = world.entityComponentHeads ∧
      world'.entityManager = world.entityManager ∧
      ∀ typeId, world'.pools typeId =
        if some (typeId, typeId) ∈ nodes.map world.nodeKey then
          (world.pools typeId).map fun pool => (pool.remove entityId).2
        else world.pools typeId := by
  induction nodes generalizing world nodeIndex fuel lists with
  | nil =>
    have hlinked := h.linked (some index)
    rw [hlist, Function.update_self] at hlinked
    have hstop := UInt32.toNat_inj.1 hlinked.start_eq_of_nil
    rw [hstop] at h
    exact ⟨world, lists, by unfold destroyNodes; rw [if_pos hstop], h, hlist, fun _ _ => rfl, rfl,
      rfl, rfl, by simp⟩
  | cons node nodes ih =>
    have hlinked := h.linked (some index)
    rw [hlist, Function.update_self] at hlinked
    have hnode := hlinked.start_eq
    have hne : nodeIndex ≠ invalidEntityComponentNode :=
      toNat_ne_invalid.1 (hnode ▸ hlinked.ne_stop List.mem_cons_self)
    obtain ⟨entry, rest, hentry, heq, -⟩ := exists_entry hlinked hne
    obtain rfl : nodes = rest := (List.cons.inj heq).2
    obtain ⟨typeId, hkey, hpool⟩ := hkeys node List.mem_cons_self
    obtain ⟨entry', hentry', htype, hentryPool⟩ := nodeKey_eq_some.1 hkey
    obtain rfl : entry = entry' := by
      rw [← hnode, hentry, Option.some.injEq] at hentry'
      exact hentry'
    obtain ⟨pool, hpool⟩ := Option.isSome_iff_exists.1 hpool
    have hremoved : world.removeFromPool entityId entry.pool =
        some (world.setPool typeId (pool.remove entityId).2) := by
      rw [removeFromPool, hentryPool, hpool, Option.map_some]
    have hlt := (List.getElem?_eq_some_iff.1 hentry).1
    obtain ⟨released, hreleased, hlinks, hfirst, hkeys', -, hheads, hmanager, hpools⟩ :=
      releaseEntityComponentNode_spec (world.setPool typeId (pool.remove entityId).2) hlt
    have hmove := Owned.moveHead h (Option.some_ne_none index) hlist
      (nextNode_eq_some.2 ⟨entry, hnode ▸ hentry, rfl⟩)
    rw [Function.update_of_ne (Option.some_ne_none index).symm, Function.update_idem,
      Function.update_comm (Option.some_ne_none index), ← hnode] at hmove
    have howned : Owned released.nextNode invalidEntityComponentNode.toNat
        (Function.update released.firstNode (some index) entry.next.toNat)
        (Function.update (Function.update lists (some index) nodes) none
          (nodeIndex.toNat :: lists none)) := by
      rw [hlinks, hfirst]
      exact hmove
    have hkeyEq : released.nodeKey = world.nodeKey := hkeys'
    have hpoolEq : released.pools
        = Function.update world.pools typeId (some (pool.remove entityId).2) :=
      hpools
    obtain ⟨hfresh, hdistinct⟩ := List.nodup_cons.1 hdistinct
    cases fuel with
    | zero => simp at hfuel
    | succ fuel =>
      obtain ⟨world', lists', hrun, howned', hempty, hothers, hkeys'', hheads', hmanager', hpools'⟩ :=
        ih howned (by rw [Function.update_of_ne (Option.some_ne_none index), Function.update_self])
          (by rwa [hkeyEq]) (by
            intro other hother
            obtain ⟨otherType, hotherKey, hotherPool⟩ := hkeys other (List.mem_cons_of_mem _ hother)
            refine ⟨otherType, hkeyEq ▸ hotherKey, ?_⟩
            rw [hpoolEq]
            by_cases hsame : otherType = typeId
            · subst hsame
              rw [Function.update_self]
              rfl
            · rwa [Function.update_of_ne hsame])
          (by simpa using hfuel)
      refine ⟨world', lists', ?_, howned', hempty, fun i hi => ?_, hkeys''.trans hkeyEq,
        hheads'.trans hheads, hmanager'.trans hmanager, fun otherType => ?_⟩
      · unfold destroyNodes
        rw [if_neg hne]
        simp only [hentry, hremoved, hreleased, Option.bind_eq_bind, Option.bind_some, hrun]
      · rw [hothers i hi, Function.update_of_ne (Option.some_ne_none i),
          Function.update_of_ne (by simpa using hi)]
      · rw [hpools', hkeyEq, hpoolEq, List.map_cons, hkey]
        by_cases hsame : otherType = typeId
        · subst hsame
          rw [hkey] at hfresh
          rw [if_neg hfresh, if_pos List.mem_cons_self, Function.update_self, hpool,
            Option.map_some]
        · rw [Function.update_of_ne hsame]
          congr 1
          simp [hsame]

end Walks

end World
end NwbLot.Ecs
