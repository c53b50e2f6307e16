import NwbLot.Ecs.World
import NwbLot.Library.Runs

/-!
# Entity handles over a run

Entities created and destroyed any number of times, with handles that are kept after their entity
is gone.  The generation of a slot wraps after 1024 releases, and a handle from before is then
taken for a current one.
-/

namespace NwbLot.Ecs

open Runs

/-! ## Histories -/

/-- What a call of `createEntity` returned, and how many entities had been destroyed before it. -/
structure CreatedEntity where
  handle : EntityID
  born : ℕ
  deriving DecidableEq, Repr

/-- A world and the calls so far: what the creations returned, which of their entities have not
been destroyed, and the slots of those that have, in order. -/
structure EntityHistory {TypeId : Type} (Component : TypeId → Type) where
  world : World Component := {}
  created : List CreatedEntity := []
  live : List ℕ := []
  released : List UInt32 := []

/-- A call of a client; the handle passed to `destroyEntity` is the one that an earlier
`createEntity` returned. -/
inductive EntityCall
  | createEntity
  | destroyEntity (creation : ℕ)
  deriving DecidableEq, Repr

namespace EntityHistory

variable {TypeId : Type} {Component : TypeId → Type}

section Step

variable [DecidableEq TypeId]

def step (history : EntityHistory Component) : EntityCall → Option (EntityHistory Component)
  | .createEntity =>
    let (entityId, world) := history.world.createEntity
    some { history with
      world := world
      created := history.created ++ [⟨entityId, history.released.length⟩]
      live := if entityId.valid then history.live ++ [history.created.length] else history.live }
  | .destroyEntity creation =>
    match history.created[creation]? with
    | none => none
    | some entity =>
      (history.world.destroyEntity entity.handle).map fun world =>
        if creation ∈ history.live then
          { history with
            world := world
            live := history.live.erase creation
            released := history.released ++ [entity.handle.index] }
        else { history with world := world }

end Step

/-- The releases of an entity's slot since the entity was created. -/
def releasesSince (history : EntityHistory Component) (entity : CreatedEntity) : ℕ :=
  (history.released.drop entity.born).count entity.handle.index

/-- The handles of live entities are unique, the free list holds every free slot once, and the
entities alive are counted. -/
structure HandlesUnique (history : EntityHistory Component) : Prop where
  distinct : ∀ (creation creation' : ℕ) (entity entity' : CreatedEntity), creation ∈ history.live →
    creation' ∈ history.live → creation ≠ creation' → history.created[creation]? = some entity →
    history.created[creation']? = some entity' → entity.handle ≠ entity'.handle
  free_nodup : history.world.entityManager.freeIndices.Nodup
  free_not_live : ∀ (creation : ℕ) (entity : CreatedEntity), creation ∈ history.live →
    history.created[creation]? = some entity →
    entity.handle.index ∉ history.world.entityManager.freeIndices
  counted : history.world.entityManager.aliveCount.toNat + history.released.length =
    history.created.countP fun entity => entity.handle.valid

/-- Destroying an entity that is gone changes nothing. -/
def KeepsWorld [DecidableEq TypeId] (history : EntityHistory Component) (call : EntityCall) : Prop :=
  ∀ creation, call = .destroyEntity creation → creation ∉ history.live →
    ∀ history', history.step call = some history' → history'.world = history.world

/-- The handle of an entity that is gone is not passed when its slot has been released a multiple
of 1024 times since the entity was created. -/
def NotWrapped (history : EntityHistory Component) (call : EntityCall) : Prop :=
  ∀ creation, call = .destroyEntity creation → creation ∉ history.live →
    ∀ entity, history.created[creation]? = some entity → entity.handle.valid = true →
      ¬ 1024 ∣ history.releasesSince entity

/-! ## The invariant -/

/-- The generation of a slot counts its releases, and every handle carries the count from when it
was made. -/
structure Counts (history : EntityHistory Component) : Prop where
  heads : history.world.entityComponentHeads = []
  slots : history.world.entityManager.Slots
  generation : ∀ (index : UInt32) generation,
    history.world.entityManager.generations[index.toNat]? = some generation →
      generation.toNat = history.released.count index % 1024
  released_lt : ∀ index ∈ history.released,
    index.toNat < history.world.entityManager.generations.length
  made : ∀ (creation : ℕ) entity, history.created[creation]? = some entity →
    entity.handle.valid = true →
      entity.handle.index.toNat < history.world.entityManager.generations.length ∧
      entity.born ≤ history.released.length ∧
      entity.handle.generation.toNat =
        (history.released.take entity.born).count entity.handle.index % 1024 ∧
      (creation ∉ history.live → 0 < history.releasesSince entity)
  live : ∀ creation ∈ history.live, ∃ entity, history.created[creation]? = some entity ∧
    entity.handle.valid = true ∧
    entity.handle.index ∉ history.world.entityManager.freeIndices ∧
    history.releasesSince entity = 0
  live_nodup : history.live.Nodup
  slot_inj : ∀ (creation creation' : ℕ) entity entity', creation ∈ history.live →
    creation' ∈ history.live → history.created[creation]? = some entity →
    history.created[creation']? = some entity' → entity.handle.index = entity'.handle.index →
    creation = creation'
  occupied : history.world.entityManager.freeIndices.length + history.live.length =
    history.world.entityManager.generations.length
  alive_count : history.world.entityManager.aliveCount.toNat = history.live.length
  balance : history.live.length + history.released.length =
    history.created.countP fun entity => entity.handle.valid

variable {history history' : EntityHistory Component}

lemma Counts.initial : ({} : EntityHistory Component).Counts where
  heads := rfl
  slots := .empty
  generation := by simp
  released_lt := by simp
  made := by simp
  live := by simp
  live_nodup := List.nodup_nil
  slot_inj := by simp
  occupied := rfl
  alive_count := rfl
  balance := rfl

lemma Counts.handlesUnique (h : history.Counts) : history.HandlesUnique where
  distinct := by
    intro creation creation' entity entity' hlive hlive' hne hentity hentity' heq
    exact hne (h.slot_inj creation creation' entity entity' hlive hlive' hentity hentity' (by rw [heq]))
  free_nodup := h.slots.free_nodup
  free_not_live := by
    intro creation entity hlive hentity
    obtain ⟨entity', hentity', -, hfree, -⟩ := h.live creation hlive
    rwa [← Option.some.inj (hentity.symm.trans hentity')] at hfree
  counted := by
    rw [h.alive_count, h.balance]

/-- A handle is taken for a current one exactly when its slot has been released a multiple of 1024
times since. -/
lemma Counts.alive_iff (h : history.Counts) {creation : ℕ} {entity : CreatedEntity}
    (hentity : history.created[creation]? = some entity) (hvalid : entity.handle.valid = true) :
    history.world.alive entity.handle = true ↔ 1024 ∣ history.releasesSince entity := by
  obtain ⟨hlt, hborn, hgeneration, -⟩ := h.made creation entity hentity hvalid
  obtain ⟨generation, hslot⟩ : ∃ generation,
      history.world.entityManager.generations[entity.handle.index.toNat]? = some generation :=
    ⟨_, List.getElem?_eq_getElem hlt⟩
  have hcount := h.generation entity.handle.index generation hslot
  have hsplit : history.released.count entity.handle.index =
      (history.released.take entity.born).count entity.handle.index
        + history.releasesSince entity := by
    rw [releasesSince, ← List.count_append, List.take_append_drop]
  rw [World.alive, EntityManager.alive_iff]
  constructor
  · rintro ⟨generation', hslot', hsame⟩
    rw [hslot, Option.some.injEq] at hslot'
    subst hslot'
    omega
  · intro hdvd
    refine ⟨generation, hslot, ?_⟩
    omega

lemma Counts.alive_of_live (h : history.Counts) {creation : ℕ} {entity : CreatedEntity}
    (hlive : creation ∈ history.live) (hentity : history.created[creation]? = some entity) :
    history.world.entityManager.Live entity.handle := by
  obtain ⟨entity', hentity', hvalid, hfree, hsince⟩ := h.live creation hlive
  obtain rfl : entity = entity' := Option.some.inj (hentity.symm.trans hentity')
  refine ⟨(h.alive_iff hentity hvalid).2 ?_, hfree⟩
  rw [hsince]
  exact dvd_zero _

/-! ## Creating -/

section Create

variable {entityId : EntityID} {manager : EntityManager}

/-- The history after a creation that gave an entity to a slot. -/
def withEntity (history : EntityHistory Component) (entityId : EntityID) (manager : EntityManager) :
    EntityHistory Component :=
  { history with
    world := { history.world with entityManager := manager }
    created := history.created ++ [⟨entityId, history.released.length⟩]
    live := history.live ++ [history.created.length] }

/-- A slot that no live entity has is given to a new one. -/
lemma Counts.withEntity (h : history.Counts) (hvalid : entityId.valid = true)
    (hslots : manager.Slots) (hunused : ∀ creation ∈ history.live, ∀ entity,
      history.created[creation]? = some entity → entity.handle.index ≠ entityId.index)
    (hgrown : history.world.entityManager.generations.length ≤ manager.generations.length)
    (hindex : entityId.index.toNat < manager.generations.length)
    (hgeneration : ∀ (index : UInt32) generation,
      manager.generations[index.toNat]? = some generation →
        generation.toNat = history.released.count index % 1024)
    (hnew : entityId.generation.toNat = history.released.count entityId.index % 1024)
    (hfree : ∀ index ∈ manager.freeIndices,
      index ∈ history.world.entityManager.freeIndices ∧ index ≠ entityId.index)
    (hoccupied : manager.freeIndices.length + (history.live.length + 1)
      = manager.generations.length)
    (hcount : manager.aliveCount = history.world.entityManager.aliveCount + 1) :
    (history.withEntity entityId manager).Counts := by
  have hbounded := hslots.bounded
  have hfreshCreation : history.created.length ∉ history.live := by
    intro hmem
    obtain ⟨entity, hentity, -⟩ := h.live _ hmem
    have := (List.getElem?_eq_some_iff.1 hentity).1
    omega
  have hlast : (history.created ++ [⟨entityId, history.released.length⟩])[history.created.length]?
      = some ⟨entityId, history.released.length⟩ := by simp
  have hold : ∀ {creation : ℕ} {entity : CreatedEntity},
      (history.created ++ [⟨entityId, history.released.length⟩])[creation]? = some entity →
        history.created[creation]? = some entity ∨
          (creation = history.created.length ∧ entity = ⟨entityId, history.released.length⟩) := by
    intro creation entity hentity
    rw [List.getElem?_append] at hentity
    split at hentity
    · exact Or.inl hentity
    · rw [List.getElem?_singleton] at hentity
      split at hentity
      · exact Or.inr ⟨by omega, (Option.some.inj hentity).symm⟩
      · cases hentity
  refine ⟨h.heads, hslots, hgeneration, fun index hmem => (h.released_lt index hmem).trans_le hgrown,
    ?_, ?_, ?_, ?_, ?_, ?_, ?_⟩
  · intro creation entity hentity hentityValid
    rcases hold hentity with hbefore | ⟨rfl, rfl⟩
    · obtain ⟨hlt, hborn, hcarried, hstale⟩ := h.made creation entity hbefore hentityValid
      refine ⟨hlt.trans_le hgrown, hborn, hcarried, fun hnot => hstale fun hmem => hnot ?_⟩
      exact List.mem_append_left _ hmem
    · refine ⟨hindex, le_rfl, ?_, fun hnot => absurd ?_ hnot⟩
      · change _ = (history.released.take history.released.length).count _ % 1024
        rw [List.take_length]
        exact hnew
      · exact List.mem_append_right _ (List.mem_singleton_self _)
  · intro creation hmem
    rcases List.mem_append.1 hmem with hmem | hmem
    · obtain ⟨entity, hentity, hentityValid, hnotFree, hsince⟩ := h.live creation hmem
      refine ⟨entity, ?_, hentityValid, fun hin => hnotFree (hfree _ hin).1, hsince⟩
      change (history.created ++ _)[creation]? = _
      rw [List.getElem?_append_left (List.getElem?_eq_some_iff.1 hentity).1, hentity]
    · obtain rfl := List.mem_singleton.1 hmem
      refine ⟨_, hlast, hvalid, fun hin => (hfree _ hin).2 rfl, ?_⟩
      change (history.released.drop history.released.length).count _ = 0
      simp
  · exact List.nodup_append.2 ⟨h.live_nodup, List.nodup_singleton _, fun creation hmem creation' hmem'
      heq => hfreshCreation (by rwa [← List.mem_singleton.1 hmem', ← heq])⟩
  · -- the new entity shares its slot with no other
    have hapart : ∀ (creation : ℕ) entity, creation ∈ history.live ++ [history.created.length] →
        (history.created ++ [⟨entityId, history.released.length⟩])[creation]? = some entity →
        entity.handle.index = entityId.index → creation = history.created.length := by
      intro creation entity hmem hentity hsame
      rcases List.mem_append.1 hmem with hmem | hmem
      · rcases hold hentity with hbefore | ⟨rfl, -⟩
        · exact absurd hsame (hunused creation hmem entity hbefore)
        · rfl
      · exact List.mem_singleton.1 hmem
    intro creation creation' entity entity' hmem hmem' hentity hentity' hsame
    rcases hold hentity with hbefore | ⟨hat, rfl⟩
    · rcases hold hentity' with hbefore' | ⟨hat', rfl⟩
      · rcases List.mem_append.1 hmem with hlive | hlive
        · rcases List.mem_append.1 hmem' with hlive' | hlive'
          · exact h.slot_inj creation creation' entity entity' hlive hlive' hbefore hbefore' hsame
          · have := (List.getElem?_eq_some_iff.1 hbefore').1
            have := List.mem_singleton.1 hlive'
            omega
        · have := (List.getElem?_eq_some_iff.1 hbefore).1
          have := List.mem_singleton.1 hlive
          omega
      · rw [hat']
        exact hapart creation entity hmem hentity hsame
    · rw [hat]
      exact (hapart creation' entity' hmem' hentity' hsame.symm).symm
  · change manager.freeIndices.length + (history.live ++ [history.created.length]).length = _
    rw [List.length_append, List.length_singleton]
    exact hoccupied
  · change manager.aliveCount.toNat = (history.live ++ [history.created.length]).length
    have halive := h.alive_count
    have hone : (1 : UInt64).toNat = 1 := rfl
    rw [hcount, UInt64.toNat_add, List.length_append, List.length_singleton]
    omega
  · change (history.live ++ [history.created.length]).length + history.released.length =
      (history.created ++ _).countP _
    have hbalance := h.balance
    rw [List.length_append, List.countP_append, List.length_singleton]
    simp only [List.countP_singleton, hvalid, if_true]
    omega

/-- The history after a creation that found every slot in use. -/
def withoutEntity (history : EntityHistory Component) : EntityHistory Component :=
  { history with created := history.created ++ [⟨entityIdInvalid, history.released.length⟩] }

/-- When every slot is in use the assertion fails, and the invalid handle is returned. -/
lemma Counts.withoutEntity (h : history.Counts) : history.withoutEntity.Counts := by
  have hold : ∀ {creation : ℕ} {entity : CreatedEntity},
      (history.created ++ [⟨entityIdInvalid, history.released.length⟩])[creation]? = some entity →
        entity.handle.valid = true → history.created[creation]? = some entity := by
    intro creation entity hentity hvalid
    rw [List.getElem?_append] at hentity
    split at hentity
    · exact hentity
    · rw [List.getElem?_singleton] at hentity
      split at hentity
      · obtain rfl := Option.some.inj hentity
        simp at hvalid
      · cases hentity
  have hkeep : ∀ {creation : ℕ} {entity : CreatedEntity}, history.created[creation]? = some entity →
      (history.created ++ [⟨entityIdInvalid, history.released.length⟩])[creation]? = some entity := by
    intro creation entity hentity
    rw [List.getElem?_append_left (List.getElem?_eq_some_iff.1 hentity).1, hentity]
  refine ⟨h.heads, h.slots, h.generation, h.released_lt,
    fun creation entity hentity hvalid => h.made creation entity (hold hentity hvalid) hvalid, ?_,
    h.live_nodup, ?_, h.occupied, h.alive_count, ?_⟩
  · intro creation hmem
    obtain ⟨entity, hentity, hrest⟩ := h.live creation hmem
    exact ⟨entity, hkeep hentity, hrest⟩
  · intro creation creation' entity entity' hmem hmem' hentity hentity'
    obtain ⟨made, hmade, -⟩ := h.live creation hmem
    obtain ⟨made', hmade', -⟩ := h.live creation' hmem'
    obtain rfl : entity = made := Option.some.inj (hentity.symm.trans (hkeep hmade))
    obtain rfl : entity' = made' := Option.some.inj (hentity'.symm.trans (hkeep hmade'))
    exact h.slot_inj creation creation' entity entity' hmem hmem' hmade hmade'
  · change history.live.length + history.released.length = (history.created ++ _).countP _
    rw [List.countP_append, h.balance]
    simp

lemma Counts.createEntity [DecidableEq TypeId] (h : history.Counts) :
    ∃ history', history.step .createEntity = some history' ∧ history'.Counts := by
  rcases h.slots.create_cases with heq | ⟨free, index, generation, hlast, hslot, heq⟩ |
    ⟨hnil, hlt, heq⟩
  · refine ⟨history.withoutEntity, ?_, h.withoutEntity⟩
    simp [step, World.createEntity, heq, EntityHistory.withoutEntity]
  · -- the top of the free stack
    have hindex := (List.getElem?_eq_some_iff.1 hslot).1
    have hbounded := h.slots.bounded
    have hgenerationLt := h.slots.generation_lt generation (List.mem_of_getElem? hslot)
    have hsame : (EntityID.make index generation.toUInt32).index = index :=
      EntityID.index_make _ (by omega)
    have hcarried : (EntityID.make index generation.toUInt32).generation = generation.toUInt32 :=
      EntityID.generation_make index (by rwa [UInt16.toNat_toUInt32])
    have hvalid : (EntityID.make index generation.toUInt32).valid = true :=
      EntityID.valid_make _ (by omega)
    have hnodup := h.slots.free_nodup
    have hslots := h.slots.create
    rw [heq] at hslots
    rw [hlast] at hnodup
    have hmem : index ∈ history.world.entityManager.freeIndices := by simp [hlast]
    refine ⟨_, ?_, h.withEntity hvalid hslots ?_ le_rfl ?_ h.generation ?_ ?_ ?_ rfl⟩
    · simp [step, World.createEntity, heq, hvalid, EntityHistory.withEntity]
    · intro creation hlive entity hentity hslotSame
      obtain ⟨entity', hentity', -, hnotFree, -⟩ := h.live creation hlive
      obtain rfl : entity = entity' := Option.some.inj (hentity.symm.trans hentity')
      exact hnotFree (by rwa [hslotSame, hsame])
    · rwa [hsame]
    · rw [hcarried, hsame, UInt16.toNat_toUInt32]
      exact h.generation index generation hslot
    · intro other hother
      rw [hsame]
      refine ⟨?_, ?_⟩
      · rw [hlast]
        exact List.mem_append_left _ hother
      · exact (List.nodup_append.1 hnodup).2.2 other hother index (List.mem_singleton_self _)
    · have hoccupied := h.occupied
      rw [hlast, List.length_append, List.length_singleton] at hoccupied
      change free.length + (history.live.length + 1) = history.world.entityManager.generations.length
      omega
  · -- a new slot
    have hindex : (UInt32.ofNat history.world.entityManager.generations.length).toNat
        = history.world.entityManager.generations.length :=
      UInt32.toNat_ofNat_of_lt' (by simp [UInt32.size]; omega)
    have hsame : (EntityID.make (UInt32.ofNat history.world.entityManager.generations.length) 0).index
        = UInt32.ofNat history.world.entityManager.generations.length :=
      EntityID.index_make _ (by omega)
    have hcarried : (EntityID.make
        (UInt32.ofNat history.world.entityManager.generations.length) 0).generation = 0 :=
      EntityID.generation_make _ (by decide)
    have hvalid : (EntityID.make
        (UInt32.ofNat history.world.entityManager.generations.length) 0).valid = true :=
      EntityID.valid_make _ (by omega)
    have hunreleased : ∀ index : UInt32,
        index.toNat = history.world.entityManager.generations.length →
          history.released.count index = 0 := by
      intro index heq
      rw [List.count_eq_zero]
      intro hmem
      have := h.released_lt index hmem
      omega
    have hslots := h.slots.create
    rw [heq] at hslots
    refine ⟨_, ?_, h.withEntity hvalid hslots ?_ ?_ ?_ ?_ ?_ ?_ ?_ rfl⟩
    · simp [step, World.createEntity, heq, hvalid, EntityHistory.withEntity]
    · intro creation hlive entity hentity hslotSame
      obtain ⟨entity', hentity', hentityValid, -, -⟩ := h.live creation hlive
      obtain rfl : entity = entity' := Option.some.inj (hentity.symm.trans hentity')
      have := (h.made creation entity hentity hentityValid).1
      rw [hslotSame, hsame] at this
      omega
    · simp
    · rw [hsame, hindex]
      simp
    · intro index generation hslot
      rw [List.getElem?_append] at hslot
      split at hslot
      · exact h.generation index generation hslot
      · rw [List.getElem?_singleton] at hslot
        split at hslot
        · obtain rfl := Option.some.inj hslot
          rw [hunreleased index (by omega)]
          rfl
        · cases hslot
    · rw [hcarried, hsame, hunreleased _ hindex]
      rfl
    · simp [hnil]
    · have hoccupied := h.occupied
      rw [hnil, List.length_nil] at hoccupied
      simp [hnil]
      omega

end Create

/-! ## Destroying -/

section Destroy

/-- A live entity is destroyed: its slot is free and its generation counts one release more. -/
lemma Counts.destroyLive (h : history.Counts) {creation : ℕ} {entity : CreatedEntity}
    (hentity : history.created[creation]? = some entity) (hlive : creation ∈ history.live) :
    ({ history with
      world := { history.world with
        entityManager := history.world.entityManager.destroyAlive entity.handle }
      live := history.live.erase creation
      released := history.released ++ [entity.handle.index] } : EntityHistory Component).Counts := by
  obtain ⟨entity', hentity', hvalid, hfree, hsince⟩ := h.live creation hlive
  obtain rfl : entity = entity' := Option.some.inj (hentity.symm.trans hentity')
  have hin := h.alive_of_live hlive hentity
  have hslots := h.slots.destroyAlive hin
  obtain ⟨hindex, hborn, -, -⟩ := h.made creation entity hentity hvalid
  have hpositive : 0 < history.live.length := List.length_pos_of_mem hlive
  have hlength : (history.live.erase creation).length = history.live.length - 1 :=
    List.length_erase_of_mem hlive
  have hmodified : (history.world.entityManager.destroyAlive entity.handle).generations.length
      = history.world.entityManager.generations.length := List.length_modify _ _ _
  -- other live entities are in other slots
  have hapart : ∀ (other : ℕ) entity', other ∈ history.live.erase creation →
      history.created[other]? = some entity' → entity'.handle.index ≠ entity.handle.index := by
    intro other entity' hother hentity'' hsame
    obtain ⟨hne, hotherLive⟩ := h.live_nodup.mem_erase_iff.1 hother
    exact hne (h.slot_inj other creation entity' entity hotherLive hlive hentity'' hentity hsame)
  have hcount : ∀ entity' : CreatedEntity, entity'.born ≤ history.released.length →
      ((history.released ++ [entity.handle.index]).drop entity'.born).count entity'.handle.index =
        history.releasesSince entity' +
          if entity.handle.index = entity'.handle.index then 1 else 0 := by
    intro entity' hborn'
    rw [List.drop_append_of_le_length hborn', List.count_append, List.count_singleton]
    simp only [releasesSince, beq_iff_eq]
  refine ⟨h.heads, hslots, ?_, ?_, ?_, ?_, h.live_nodup.erase _, ?_, ?_, ?_, ?_⟩
  · intro index generation hslot
    change (history.world.entityManager.generations.modify _ _)[_]? = _ at hslot
    rw [List.getElem?_modify, Option.map_eq_map, Option.map_eq_some_iff] at hslot
    obtain ⟨before, hbefore, rfl⟩ := hslot
    have hold := h.generation index before hbefore
    rw [List.count_append, List.count_singleton]
    by_cases hsame : entity.handle.index = index
    · subst hsame
      rw [if_pos rfl, EntityManager.toNat_nextGeneration, hold]
      simp
    · have hne : entity.handle.index.toNat ≠ index.toNat := fun heq => hsame (UInt32.toNat_inj.1 heq)
      simp [hne, hsame, hold]
  · intro index hmem
    rw [hmodified]
    rcases List.mem_append.1 hmem with hmem | hmem
    · exact h.released_lt index hmem
    · rwa [List.mem_singleton.1 hmem]
  · intro other entity' hentity'' hvalid'
    obtain ⟨hlt, hborn', hcarried, hstale⟩ := h.made other entity' hentity'' hvalid'
    refine ⟨by rwa [hmodified], ?_, ?_, ?_⟩
    · rw [List.length_append]
      omega
    · rw [List.take_append_of_le_length hborn']
      exact hcarried
    · intro hnot
      change 0 < ((history.released ++ [entity.handle.index]).drop entity'.born).count _
      rw [hcount entity' hborn']
      by_cases hsame : other = creation
      · subst hsame
        obtain rfl : entity = entity' := Option.some.inj (hentity.symm.trans hentity'')
        rw [if_pos rfl]
        omega
      · have := hstale fun hmem => hnot (h.live_nodup.mem_erase_iff.2 ⟨hsame, hmem⟩)
        omega
  · intro other hother
    obtain ⟨hne, hotherLive⟩ := h.live_nodup.mem_erase_iff.1 hother
    obtain ⟨entity', hentity'', hvalid', hnotFree, hnone⟩ := h.live other hotherLive
    have hslotNe := hapart other entity' hother hentity''
    refine ⟨entity', hentity'', hvalid', ?_, ?_⟩
    · intro hmem
      rcases List.mem_append.1 hmem with hmem | hmem
      · exact hnotFree hmem
      · exact hslotNe (List.mem_singleton.1 hmem)
    · change ((history.released ++ [entity.handle.index]).drop entity'.born).count _ = 0
      rw [hcount entity' (h.made other entity' hentity'' hvalid').2.1, if_neg (Ne.symm hslotNe), hnone]
  · intro other other' entity' entity'' hother hother'
    exact h.slot_inj other other' entity' entity'' (List.mem_of_mem_erase hother)
      (List.mem_of_mem_erase hother')
  · have hoccupied := h.occupied
    rw [hmodified]
    change (history.world.entityManager.freeIndices ++ [_]).length + _ = _
    rw [List.length_append, List.length_singleton]
    simp only [hlength]
    omega
  · have halive := h.alive_count
    have hone : (1 : UInt64).toNat = 1 := rfl
    change (history.world.entityManager.aliveCount - 1).toNat = (history.live.erase creation).length
    rw [UInt64.toNat_sub_of_le _ _ (by rw [UInt64.le_iff_toNat_le]; omega), hlength]
    omega
  · have hbalance := h.balance
    rw [List.length_append, List.length_singleton]
    simp only [hlength]
    omega

variable [DecidableEq TypeId]

/-- Without components there is no list to walk. -/
lemma destroyEntity_of_no_heads {world : World Component} {entityId : EntityID}
    (hheads : world.entityComponentHeads = []) : world.destroyEntity entityId =
      some { world with entityManager := world.entityManager.destroy entityId } := by
  have hcomponents : world.destroyEntityComponents entityId = some world := by
    simp [World.destroyEntityComponents, hheads]
  rw [World.destroyEntity, hcomponents, World.alive, EntityManager.destroy]
  split
  · rfl
  · rfl

lemma Counts.step_destroyEntity (h : history.Counts) {creation : ℕ} {entity : CreatedEntity}
    (hentity : history.created[creation]? = some entity) :
    history.step (.destroyEntity creation) = some
      (let world := { history.world with
        entityManager := history.world.entityManager.destroy entity.handle }
      if creation ∈ history.live then
        { history with
          world := world
          live := history.live.erase creation
          released := history.released ++ [entity.handle.index] }
      else { history with world := world }) := by
  simp only [step, hentity, destroyEntity_of_no_heads h.heads, Option.map_some]

/-- What a call does to the invariant, and when it destroys an entity that is gone. -/
lemma Counts.destroyEntity (h : history.Counts) {creation : ℕ} {entity : CreatedEntity}
    (hentity : history.created[creation]? = some entity) :
    ∃ history', history.step (.destroyEntity creation) = some history' ∧
      (creation ∈ history.live → history'.Counts) ∧
      (creation ∉ history.live → history.world.alive entity.handle = false → history' = history) ∧
      (creation ∉ history.live → history.world.alive entity.handle = true →
        history'.world ≠ history.world) := by
  refine ⟨_, h.step_destroyEntity hentity, fun hlive => ?_, fun hnot halive => ?_,
    fun hnot halive => ?_⟩
  · have halive : history.world.entityManager.alive entity.handle = true :=
      (h.alive_of_live hlive hentity).1
    simp only [if_pos hlive, EntityManager.destroy, if_pos halive]
    exact h.destroyLive hentity hlive
  · have hsame : history.world.entityManager.alive entity.handle = false := halive
    simp [hnot, EntityManager.destroy, hsame]
  · have hsame : history.world.entityManager.alive entity.handle = true := halive
    simp only [if_neg hnot, EntityManager.destroy, if_pos hsame]
    intro heq
    have hfree := congrArg (fun world => world.entityManager.freeIndices.length) heq
    simp [EntityManager.destroyAlive] at hfree

/-! ## Runs -/

/-- A call changes nothing for an entity that is gone exactly when its handle has not wrapped. -/
lemma Counts.keepsWorld_iff (h : history.Counts) (call : EntityCall) :
    history.KeepsWorld call ↔ history.NotWrapped call := by
  constructor
  · intro hkeeps creation hcall hnot entity hentity hvalid hdvd
    obtain ⟨history', hstep, -, -, hchanges⟩ := h.destroyEntity hentity
    exact hchanges hnot ((h.alive_iff hentity hvalid).2 hdvd)
      (hkeeps creation hcall hnot history' (hcall ▸ hstep))
  · rintro hwrapped creation rfl hnot history' hstep
    cases hentity : history.created[creation]? with
    | none => simp [step, hentity] at hstep
    | some entity =>
      obtain ⟨history'', hstep', -, hkeeps, -⟩ := h.destroyEntity hentity
      have hgone : history.world.alive entity.handle = false := by
        cases hvalid : entity.handle.valid with
        | false => exact h.slots.alive_of_not_valid hvalid
        | true =>
          rw [← Bool.not_eq_true, h.alive_iff hentity hvalid]
          exact hwrapped creation rfl hnot entity hentity hvalid
      obtain rfl : history'' = history' := Option.some.inj (hstep'.symm.trans hstep)
      rw [hkeeps hnot hgone]

lemma Counts.step (h : history.Counts) {call : EntityCall} (hcall : history.KeepsWorld call)
    (hstep : history.step call = some history') : history'.Counts := by
  cases call with
  | createEntity =>
    obtain ⟨history'', heq, hcounts⟩ := h.createEntity
    rwa [← Option.some.inj (heq.symm.trans hstep)]
  | destroyEntity creation =>
    cases hentity : history.created[creation]? with
    | none => simp [EntityHistory.step, hentity] at hstep
    | some entity =>
      obtain ⟨history'', heq, hlive, hkeeps, hchanges⟩ := h.destroyEntity hentity
      obtain rfl : history'' = history' := Option.some.inj (heq.symm.trans hstep)
      by_cases hmem : creation ∈ history.live
      · exact hlive hmem
      · cases halive : history.world.alive entity.handle with
        | false => rwa [hkeeps hmem halive]
        | true => exact absurd (hcall creation rfl hmem history'' hstep) (hchanges hmem halive)

/-- In a run on a new world every call is carried out, and the handles stay unique, with every
destruction of an entity that is gone changing nothing, exactly when no such destruction gets a
handle whose slot has been released a multiple of 1024 times since. -/
theorem entityHandles_unique_iff (calls : List EntityCall) (history : EntityHistory Component) :
    (Run EntityHistory.step (fun history call => history.HandlesUnique ∧ history.KeepsWorld call) {}
        calls history ∧ history.HandlesUnique ∧
      ∀ creation < history.created.length,
        (history.step (.destroyEntity creation)).isSome = true) ↔
      Run EntityHistory.step (fun history call => history.NotWrapped call) {} calls history := by
  have hstep : ∀ (history : EntityHistory Component) call history',
      history.KeepsWorld call → history.step call = some history' → history.Counts →
        history'.Counts := fun _ _ _ hcall hnext hcounts => hcounts.step hcall hnext
  have hruns : Run EntityHistory.step
      (fun history call => history.HandlesUnique ∧ history.KeepsWorld call) {} calls history ↔
      Run EntityHistory.step (fun history call => history.NotWrapped call) {} calls history :=
    Run.congr_of_invariant .initial
      (fun _ call hcounts =>
        (and_iff_right hcounts.handlesUnique).trans (hcounts.keepsWorld_iff call))
      (fun _ call _ hcall hnext hcounts => hstep _ call _ hcall.2 hnext hcounts)
  constructor
  · exact fun h => hruns.1 h.1
  · intro hrun
    have hcounts : history.Counts := (hruns.2 hrun).invariant .initial
      fun _ call _ hcall hnext hcounts => hstep _ call _ hcall.2 hnext hcounts
    refine ⟨hruns.2 hrun, hcounts.handlesUnique, fun creation hlt => ?_⟩
    obtain ⟨history', heq, -⟩ := hcounts.destroyEntity (List.getElem?_eq_getElem hlt)
    rw [heq]
    rfl

end Destroy

/-! ## A slot released 1024 times -/

/-- Entities created and destroyed one after the other, all in the first slot. -/
def cycles (count : ℕ) : List EntityCall :=
  (List.range count).flatMap fun creation => [.createEntity, .destroyEntity creation]

/-- The history after some of these, at least one. -/
def cycled (count : ℕ) : EntityHistory (fun _ : Unit => Unit) where
  world := { entityManager :=
    { generations := [UInt16.ofNat ((count + 1) % 1024)], freeIndices := [0], aliveCount := 0 } }
  created := (List.range (count + 1)).map fun i => ⟨.make 0 (UInt32.ofNat (i % 1024)), i⟩
  live := []
  released := List.replicate (count + 1) 0

/-- The history between the creation and the destruction of the next one. -/
def reused (count : ℕ) : EntityHistory (fun _ : Unit => Unit) :=
  { cycled count with
    world := { entityManager :=
      { generations := [UInt16.ofNat ((count + 1) % 1024)], freeIndices := [], aliveCount := 1 } }
    created := (cycled (count + 1)).created
    live := [count + 1] }

lemma getElem?_created_cycled {count i : ℕ} (h : i ≤ count) :
    (cycled count).created[i]? = some ⟨.make 0 (UInt32.ofNat (i % 1024)), i⟩ := by
  rw [cycled, List.getElem?_map, List.getElem?_range (by omega)]
  rfl

lemma toNat_wrapped (count : ℕ) : (UInt16.ofNat (count % 1024)).toNat = count % 1024 ∧
    (UInt32.ofNat (count % 1024)).toNat = count % 1024 :=
  ⟨UInt16.toNat_ofNat_of_lt' (by simp [UInt16.size]; omega),
    UInt32.toNat_ofNat_of_lt' (by simp [UInt32.size]; omega)⟩

lemma step_createEntity_cycled (count : ℕ) :
    (cycled count).step .createEntity = some (reused count) := by
  have hcarried : (UInt16.ofNat ((count + 1) % 1024)).toUInt32
      = UInt32.ofNat ((count + 1) % 1024) := by
    rw [← UInt32.toNat_inj, UInt16.toNat_toUInt32, (toNat_wrapped _).1, (toNat_wrapped _).2]
  have hvalid : (EntityID.make 0 (UInt32.ofNat ((count + 1) % 1024))).valid = true :=
    EntityID.valid_make _ (by decide)
  simp [step, World.createEntity, EntityManager.create, EntityManager.generationAt, reused, cycled,
    hcarried, hvalid, List.range_succ]

lemma step_destroyEntity_reused (count : ℕ) :
    (reused count).step (.destroyEntity (count + 1)) = some (cycled (count + 1)) := by
  have hentity : (reused count).created[count + 1]? =
      some ⟨.make 0 (UInt32.ofNat ((count + 1) % 1024)), count + 1⟩ :=
    getElem?_created_cycled le_rfl
  have hindex : (EntityID.make 0 (UInt32.ofNat ((count + 1) % 1024))).index = 0 :=
    EntityID.index_make _ (by decide)
  have hgeneration : (EntityID.make 0 (UInt32.ofNat ((count + 1) % 1024))).generation
      = UInt32.ofNat ((count + 1) % 1024) := by
    apply EntityID.generation_make
    rw [(toNat_wrapped _).2]
    omega
  have halive : (reused count).world.entityManager.alive
      (.make 0 (UInt32.ofNat ((count + 1) % 1024))) = true := by
    rw [EntityManager.alive_iff, hindex, hgeneration]
    exact ⟨_, rfl, by rw [(toNat_wrapped _).1, (toNat_wrapped _).2]⟩
  have hnext : EntityManager.nextGeneration (UInt16.ofNat ((count + 1) % 1024))
      = UInt16.ofNat ((count + 1 + 1) % 1024) := by
    rw [← UInt16.toNat_inj, EntityManager.toNat_nextGeneration, (toNat_wrapped _).1,
      (toNat_wrapped _).1]
    omega
  have hreleased : List.replicate (count + 1) (0 : UInt32) ++ [0]
      = List.replicate (count + 1 + 1) 0 := List.replicate_succ'.symm
  have hdestroyed : (reused count).world.destroyEntity
      (.make 0 (UInt32.ofNat ((count + 1) % 1024))) = some (cycled (count + 1)).world := by
    rw [destroyEntity_of_no_heads rfl, EntityManager.destroy, if_pos halive]
    simp [EntityManager.destroyAlive, hindex, reused, cycled, hnext]
  have hlive : count + 1 ∈ (reused count).live := List.mem_singleton_self _
  simp only [step, hentity, hdestroyed, Option.map_some, if_pos hlive, hindex]
  simp [reused, cycled, hreleased]

lemma run_cycles (count : ℕ) : FreeRun step {} (cycles (count + 1)) (cycled count) := by
  induction count with
  | zero => exact .snoc (.snoc .refl trivial rfl) trivial rfl
  | succ count ih =>
    have hsplit : cycles (count + 1 + 1)
        = cycles (count + 1) ++ [.createEntity] ++ [.destroyEntity (count + 1)] := by
      rw [cycles, List.range_succ (n := count + 1), List.flatMap_append, cycles]
      simp
    rw [hsplit]
    exact .snoc (.snoc ih trivial (step_createEntity_cycled count)) trivial
      (step_destroyEntity_reused count)

/-- After 1024 releases of the slot the first handle is taken for a current one although no entity
is alive, and the slot gets on the free list twice. -/
theorem staleHandle_frees_twice : ¬ ∀ (calls : List EntityCall)
    (history : EntityHistory (fun _ : Unit => Unit)), FreeRun step {} calls history →
      Run step (fun history call => history.HandlesUnique ∧ history.KeepsWorld call) {} calls
        history ∧ history.HandlesUnique := by
  intro h
  have hentity : (cycled 1023).created[0]? = some ⟨.make 0 0, 0⟩ :=
    getElem?_created_cycled (Nat.zero_le _)
  have hdestroyed : ∃ world, (cycled 1023).world.destroyEntity (.make 0 0) = some world ∧
      world.entityManager.freeIndices = [0, 0] := ⟨_, rfl, rfl⟩
  obtain ⟨world, hdestroyed, hfree⟩ := hdestroyed
  have hgone : 0 ∉ (cycled 1023).live := List.not_mem_nil
  have hstep : (cycled 1023).step (.destroyEntity 0) = some { cycled 1023 with world := world } := by
    simp only [step, hentity, hdestroyed, Option.map_some, if_neg hgone]
  have hunique := (h _ _ (.snoc (run_cycles 1023) trivial hstep)).2
  have hnodup := hunique.free_nodup
  rw [hfree] at hnodup
  simp at hnodup

end EntityHistory
end NwbLot.Ecs
