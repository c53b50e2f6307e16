import Mathlib.Algebra.Order.Ring.Nat
import Mathlib.Data.List.Basic
import Mathlib.Data.Nat.Bitwise
import Mathlib.Data.UInt

/-!
# Entity handles

The packed handle of an entity and the manager that hands handles out: a generation for every
slot, and a stack of the slots that are free.

The words and masks are the source's.  A generation wraps at its ten bits, and `alive` compares
generations only.
-/

namespace NwbLot.Ecs

/-! ## Handles -/

/-- The bits of the index. -/
def entityIndexBits : UInt32 := 22
/-- The bits of the generation. -/
def entityGenerationBits : UInt32 := 10
/-- The largest index. -/
def entityIndexMask : UInt32 := (1 <<< entityIndexBits) - 1
/-- The largest generation. -/
def entityGenerationMask : UInt32 := (1 <<< entityGenerationBits) - 1
/-- The index of no entity. -/
def entityInvalidIndex : UInt32 := entityIndexMask

/-- An entity handle: the slot in the low 22 bits, the generation in the 10 bits above. -/
structure EntityID where
  id : UInt32
  deriving DecidableEq, Repr

namespace EntityID

/-- The handle of a slot in a generation. -/
def make (index generation : UInt32) : EntityID where
  id := ((generation &&& entityGenerationMask) <<< entityIndexBits) ||| (index &&& entityIndexMask)

/-- The index part. -/
def index (entityId : EntityID) : UInt32 := entityId.id &&& entityIndexMask

/-- The generation part. -/
def generation (entityId : EntityID) : UInt32 :=
  (entityId.id >>> entityIndexBits) &&& entityGenerationMask

/-- The handle may name an entity. -/
def valid (entityId : EntityID) : Bool := entityId.index != entityInvalidIndex

end EntityID

/-- The handle of no entity. -/
def entityIdInvalid : EntityID := ⟨~~~0⟩

namespace EntityID

lemma toNat_id_make (index generation : UInt32) :
    (make index generation).id.toNat
      = generation.toNat % 2 ^ 10 * 2 ^ 22 + index.toNat % 2 ^ 22 := by
  have hmask : entityIndexMask.toNat = 2 ^ 22 - 1 := rfl
  have hgeneration : entityGenerationMask.toNat = 2 ^ 10 - 1 := rfl
  have hbits : entityIndexBits.toNat % 32 = 22 := rfl
  have hlow : index.toNat % 2 ^ 22 < 2 ^ 22 := Nat.mod_lt _ (by decide)
  have hhigh : generation.toNat % 2 ^ 10 < 2 ^ 10 := Nat.mod_lt _ (by decide)
  rw [make, UInt32.toNat_or, UInt32.toNat_shiftLeft, UInt32.toNat_and, UInt32.toNat_and, hmask,
    hgeneration, hbits, Nat.and_two_pow_sub_one_eq_mod, Nat.and_two_pow_sub_one_eq_mod,
    Nat.mod_eq_of_lt (b := 2 ^ 32) (by rw [Nat.shiftLeft_eq]; omega),
    ← Nat.shiftLeft_add_eq_or_of_lt hlow, Nat.shiftLeft_eq]

lemma toNat_index (entityId : EntityID) : entityId.index.toNat = entityId.id.toNat % 2 ^ 22 := by
  have hmask : entityIndexMask.toNat = 2 ^ 22 - 1 := rfl
  rw [index, UInt32.toNat_and, hmask, Nat.and_two_pow_sub_one_eq_mod]

lemma toNat_generation (entityId : EntityID) :
    entityId.generation.toNat = entityId.id.toNat / 2 ^ 22 := by
  have hmask : entityGenerationMask.toNat = 2 ^ 10 - 1 := rfl
  have hbits : entityIndexBits.toNat % 32 = 22 := rfl
  have hlt : entityId.id.toNat < 2 ^ 32 := entityId.id.toNat_lt
  rw [generation, UInt32.toNat_and, UInt32.toNat_shiftRight, hmask, hbits,
    Nat.and_two_pow_sub_one_eq_mod, Nat.shiftRight_eq_div_pow]
  exact Nat.mod_eq_of_lt (by omega)

lemma index_make {index : UInt32} (generation : UInt32) (h : index.toNat < 2 ^ 22) :
    (make index generation).index = index := by
  rw [← UInt32.toNat_inj, toNat_index, toNat_id_make]
  omega

lemma generation_make (index : UInt32) {generation : UInt32} (h : generation.toNat < 2 ^ 10) :
    (make index generation).generation = generation := by
  have hlow : index.toNat % 2 ^ 22 < 2 ^ 22 := Nat.mod_lt _ (by decide)
  rw [← UInt32.toNat_inj, toNat_generation, toNat_id_make]
  omega

/-- A handle is determined by its slot and its generation. -/
lemma ext_index_generation {entityId entityId' : EntityID}
    (hindex : entityId.index = entityId'.index)
    (hgeneration : entityId.generation = entityId'.generation) : entityId = entityId' := by
  have hlow := congrArg UInt32.toNat hindex
  have hhigh := congrArg UInt32.toNat hgeneration
  rw [toNat_index, toNat_index] at hlow
  rw [toNat_generation, toNat_generation] at hhigh
  have hid : entityId.id = entityId'.id := UInt32.toNat_inj.1 (by omega)
  exact congrArg EntityID.mk hid

lemma index_lt (entityId : EntityID) : entityId.index.toNat < 2 ^ 22 := by
  rw [toNat_index]
  exact Nat.mod_lt _ (by decide)

@[simp] lemma index_entityIdInvalid : entityIdInvalid.index = entityInvalidIndex := rfl

@[simp] lemma valid_entityIdInvalid : entityIdInvalid.valid = false := rfl

lemma valid_make {index : UInt32} (generation : UInt32) (h : index.toNat < 2 ^ 22 - 1) :
    (make index generation).valid = true := by
  have hindex : (make index generation).index = index := index_make generation (by omega)
  have hne : index ≠ entityInvalidIndex := by
    rintro rfl
    exact absurd h (by decide)
  simpa [valid, hindex] using hne

end EntityID

/-! ## The manager -/

/-- The generation of every slot, the stack of free slots and the number of entities alive. -/
structure EntityManager where
  generations : List UInt16 := []
  freeIndices : List UInt32 := []
  aliveCount : UInt64 := 0
  deriving DecidableEq, Repr

namespace EntityManager

/-- The generation after a release of the slot. -/
def nextGeneration (generation : UInt16) : UInt16 :=
  ((generation.toUInt32 + 1) &&& entityGenerationMask).toUInt16

/-- `m_generations[index]` for a slot that exists. -/
def generationAt (manager : EntityManager) (index : UInt32) : UInt32 :=
  (manager.generations.getD index.toNat 0).toUInt32

/-- A free slot is taken from the top of the stack; without one a slot is added, up to the
invalid index, where the assertion fails and the invalid handle is returned. -/
def create (manager : EntityManager) : EntityID × EntityManager :=
  match manager.freeIndices.getLast? with
  | some index =>
    (.make index (manager.generationAt index),
      { manager with
        freeIndices := manager.freeIndices.dropLast
        aliveCount := manager.aliveCount + 1 })
  | none =>
    if entityInvalidIndex.toNat ≤ manager.generations.length then (entityIdInvalid, manager)
    else
      (.make (UInt32.ofNat manager.generations.length) 0,
        { manager with
          generations := manager.generations ++ [0]
          aliveCount := manager.aliveCount + 1 })

/-- Only the generation is compared: a slot that is free is not told from one in use. -/
def alive (manager : EntityManager) (entityId : EntityID) : Bool :=
  match manager.generations[entityId.index.toNat]? with
  | none => false
  | some generation => generation.toUInt32 == entityId.generation

/-- The index is free, under its next generation. -/
def destroyAlive (manager : EntityManager) (entityId : EntityID) : EntityManager where
  generations := manager.generations.modify entityId.index.toNat nextGeneration
  freeIndices := manager.freeIndices ++ [entityId.index]
  aliveCount := manager.aliveCount - 1

/-- A handle that is not alive changes nothing. -/
def destroy (manager : EntityManager) (entityId : EntityID) : EntityManager :=
  if manager.alive entityId then manager.destroyAlive entityId else manager

lemma toNat_nextGeneration (generation : UInt16) :
    (nextGeneration generation).toNat = (generation.toNat + 1) % 2 ^ 10 := by
  have hmask : entityGenerationMask.toNat = 2 ^ 10 - 1 := rfl
  rw [nextGeneration, UInt32.toNat_toUInt16, UInt32.toNat_and, UInt32.toNat_add,
    UInt16.toNat_toUInt32, hmask, Nat.and_two_pow_sub_one_eq_mod]
  have hone : UInt32.toNat 1 = 1 := rfl
  omega

lemma alive_iff {manager : EntityManager} {entityId : EntityID} :
    manager.alive entityId = true ↔ ∃ generation,
      manager.generations[entityId.index.toNat]? = some generation ∧
        generation.toNat = entityId.generation.toNat := by
  unfold alive
  cases manager.generations[entityId.index.toNat]? with
  | none => simp
  | some generation => simp [← UInt32.toNat_inj]

/-! ## Slots -/

/-- Every slot's generation fits a handle, and the free slots are slots. -/
structure Slots (manager : EntityManager) : Prop where
  bounded : manager.generations.length ≤ 2 ^ 22 - 1
  generation_lt : ∀ generation ∈ manager.generations, generation.toNat < 2 ^ 10
  free_lt : ∀ index ∈ manager.freeIndices, index.toNat < manager.generations.length
  free_nodup : manager.freeIndices.Nodup

/-- The handle of an entity in use: of the current generation, and of a slot that is not free. -/
def Live (manager : EntityManager) (entityId : EntityID) : Prop :=
  manager.alive entityId = true ∧ entityId.index ∉ manager.freeIndices

variable {manager : EntityManager} {entityId other : EntityID}

lemma Slots.empty : ({} : EntityManager).Slots where
  bounded := by simp
  generation_lt := by simp
  free_lt := by simp
  free_nodup := List.nodup_nil

/-- What `create` does. -/
lemma Slots.create_cases (h : manager.Slots) :
    (manager.create = (entityIdInvalid, manager)) ∨
    (∃ free index generation, manager.freeIndices = free ++ [index] ∧
      manager.generations[index.toNat]? = some generation ∧
      manager.create = (.make index generation.toUInt32,
        { manager with freeIndices := free, aliveCount := manager.aliveCount + 1 })) ∨
    (manager.freeIndices = [] ∧ manager.generations.length < 2 ^ 22 - 1 ∧
      manager.create = (.make (UInt32.ofNat manager.generations.length) 0,
        { manager with
          generations := manager.generations ++ [0], aliveCount := manager.aliveCount + 1 })) := by
  rcases List.eq_nil_or_concat' manager.freeIndices with hnil | ⟨free, index, hfree⟩
  · by_cases hroom : entityInvalidIndex.toNat ≤ manager.generations.length
    · exact Or.inl (by simp [create, hnil, hroom])
    · have hlt : manager.generations.length < 2 ^ 22 - 1 := Nat.lt_of_not_le hroom
      exact Or.inr (Or.inr ⟨hnil, hlt, by simp [create, hnil, hroom]⟩)
  · have hlt : index.toNat < manager.generations.length := h.free_lt index (by simp [hfree])
    refine Or.inr (Or.inl ⟨free, index, manager.generations[index.toNat], hfree,
      List.getElem?_eq_getElem hlt, ?_⟩)
    simp [create, hfree, generationAt, hlt]

instance : Decidable (manager.Live entityId) := inferInstanceAs (Decidable (_ ∧ _))

/-- Two entities in use have different slots. -/
lemma Live.eq_of_index_eq (h : manager.Live entityId) (h' : manager.Live other)
    (hindex : entityId.index = other.index) : entityId = other := by
  obtain ⟨generation, hslot, hsame⟩ := alive_iff.1 h.1
  obtain ⟨generation', hslot', hsame'⟩ := alive_iff.1 h'.1
  rw [hindex, hslot', Option.some.injEq] at hslot
  subst hslot
  exact EntityID.ext_index_generation hindex (UInt32.toNat_inj.1 (hsame.symm.trans hsame'))

/-- No slot belongs to the invalid handle. -/
lemma Slots.alive_of_not_valid (h : manager.Slots) (hvalid : entityId.valid = false) :
    manager.alive entityId = false := by
  have hindex : entityId.index = entityInvalidIndex := by simpa [EntityID.valid] using hvalid
  have hnone : manager.generations[entityId.index.toNat]? = none := by
    rw [hindex]
    exact List.getElem?_eq_none h.bounded
  rw [alive, hnone]

lemma Slots.create (h : manager.Slots) : manager.create.2.Slots := by
  have hnodup := h.free_nodup
  rcases h.create_cases with heq | ⟨free, index, generation, hfree, -, heq⟩ | ⟨hnil, hlt, heq⟩
  · rwa [heq]
  · rw [heq]
    rw [hfree] at hnodup
    refine ⟨h.bounded, h.generation_lt, fun i hi => h.free_lt i ?_, ?_⟩
    · rw [hfree]
      exact List.mem_append_left _ hi
    · exact (List.nodup_append.1 hnodup).1
  · rw [heq]
    refine ⟨?_, ?_, ?_, ?_⟩
    · simp only [List.length_append, List.length_cons, List.length_nil]
      omega
    · intro generation hgeneration
      rcases List.mem_append.1 hgeneration with hold | hnew
      · exact h.generation_lt generation hold
      · rw [List.mem_singleton.1 hnew]
        decide
    · simp [hnil]
    · exact hnodup

lemma Live.create (h : manager.Live entityId) (hslots : manager.Slots) :
    manager.create.2.Live entityId := by
  obtain ⟨halive, hfree⟩ := h
  obtain ⟨generation, hslot, hsame⟩ := alive_iff.1 halive
  rcases hslots.create_cases with heq | ⟨free, index, _, hlast, -, heq⟩ | ⟨hnil, -, heq⟩
  · rw [heq]
    exact ⟨halive, hfree⟩
  · rw [heq]
    refine ⟨halive, fun hmem => hfree ?_⟩
    rw [hlast]
    exact List.mem_append_left _ hmem
  · rw [heq]
    refine ⟨alive_iff.2 ⟨generation, ?_, hsame⟩, hfree⟩
    rw [List.getElem?_append_left (List.getElem?_eq_some_iff.1 hslot).1, hslot]

lemma Slots.destroyAlive (h : manager.Slots) (hlive : manager.Live entityId) :
    (manager.destroyAlive entityId).Slots := by
  obtain ⟨generation, hslot, -⟩ := alive_iff.1 hlive.1
  have hlt := (List.getElem?_eq_some_iff.1 hslot).1
  refine ⟨?_, ?_, ?_, ?_⟩
  · rw [EntityManager.destroyAlive, List.length_modify]
    exact h.bounded
  · intro generation hgeneration
    obtain ⟨i, hi⟩ := List.mem_iff_getElem?.1 hgeneration
    rw [EntityManager.destroyAlive, List.getElem?_modify] at hi
    obtain ⟨before, hbefore, rfl⟩ := Option.map_eq_some_iff.1 hi
    split
    · rw [toNat_nextGeneration]
      exact Nat.mod_lt _ (by decide)
    · exact h.generation_lt before (List.mem_of_getElem? hbefore)
  · intro index hindex
    rw [EntityManager.destroyAlive, List.length_modify]
    rcases List.mem_append.1 hindex with hold | hnew
    · exact h.free_lt index hold
    · rwa [List.mem_singleton.1 hnew]
  · exact List.nodup_append.2 ⟨h.free_nodup, List.nodup_singleton _, fun i hi j hj heq =>
      hlive.2 (by rwa [← List.mem_singleton.1 hj, ← heq])⟩

lemma Live.destroyAlive (h : manager.Live other) (hlive : manager.Live entityId)
    (hne : other ≠ entityId) : (manager.destroyAlive entityId).Live other := by
  have hindex : other.index ≠ entityId.index := fun heq => hne (h.eq_of_index_eq hlive heq)
  obtain ⟨generation, hslot, hsame⟩ := alive_iff.1 h.1
  refine ⟨alive_iff.2 ⟨generation, ?_, hsame⟩, fun hmem => ?_⟩
  · rw [EntityManager.destroyAlive, List.getElem?_modify_ne, hslot]
    exact fun heq => hindex (UInt32.toNat_inj.1 heq.symm)
  · rcases List.mem_append.1 hmem with hold | hnew
    · exact h.2 hold
    · exact hindex (List.mem_singleton.1 hnew)

end EntityManager
end NwbLot.Ecs
