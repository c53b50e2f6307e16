import NwbLot.TaskGraph.StateFragments
import NwbLot.TaskGraph.ResourceState
import NwbLot.TaskGraph.ValidAnalysis

/-!
# State planning seen from one cell

Restricted to one cell of one resource, everything a task's uses append comes from the first use
of the task over the cell, planned once against the newest earlier state over the cell
(`CellEntries`); later uses of the task over the cell append nothing there.
-/

namespace NwbLot.TaskGraph

/-- One cell of one resource. -/
structure ResourceCell where
  resource : GpuGraphResourceId
  cell : Cell
  deriving DecidableEq

variable (graph : GpuTaskGraph)

/-- The type of the cell's resource. -/
def ResourceCell.type (x : ResourceCell) : GpuGraphResourceType :=
  (graph.resourceAt x.resource.index).type

/-- A range of a resource covers the cell. -/
def ResourceCell.within (x : ResourceCell) (resource : GpuGraphResourceId)
    (range : GpuTaskResourceRange) : Bool :=
  resource == x.resource && rangeCovers (x.type graph) range x.cell

/-- The range a use is planned on: resolved for textures, as declared otherwise. -/
def plannedRange (use : GpuTaskResourceUse) : Option GpuTaskResourceRange :=
  if (graph.resourceAt use.resource.index).type = .texture then
    resolveTextureRangeForPlanning (graph.textureForResource use.resource) use.range
  else some use.range

/-- The use takes part in state planning. -/
def isStatePlanned (use : GpuTaskResourceUse) : Bool :=
  (graph.resourceAt use.resource.index).type != .hazardDomain
    && use.requiredState != ResourceStates.unknown

/-- A planned use whose planned range covers the cell. -/
def useCovers (x : ResourceCell) (use : GpuTaskResourceUse) : Bool :=
  isStatePlanned graph use && (plannedRange graph use).any (x.within graph use.resource)

/-- A tracked state over the cell. -/
def stateCovers (x : ResourceCell) (state : TrackedCompiledResourceState) : Bool :=
  x.within graph state.resource state.range

/-- A barrier over the cell. -/
def barrierCovers (x : ResourceCell) (barrier : GpuCompiledBarrier) : Bool :=
  x.within graph barrier.resource barrier.range

/-- A state seed over the cell. -/
def seedCovers (x : ResourceCell) (seed : GpuPacketStateSeed) : Bool :=
  x.within graph seed.resource seed.range

/-- The newest tracked state over the cell. -/
def latestState (x : ResourceCell) (tracked : List TrackedCompiledResourceState) :
    Option TrackedCompiledResourceState :=
  tracked.reverse.find? (stateCovers graph x)

/-- The entries over the cell. -/
def StatePlanEntries.restrict (x : ResourceCell) (entries : StatePlanEntries) :
    StatePlanEntries where
  prologueStateSeeds := entries.prologueStateSeeds.filter (seedCovers graph x)
  prologueBarriers := entries.prologueBarriers.filter (barrierCovers graph x)
  pendingEpilogueBarriers :=
    entries.pendingEpilogueBarriers.filter fun pending => barrierCovers graph x pending.barrier

/-- The entries that name a range. -/
def StatePlanEntries.ranged (entries : StatePlanEntries) : StatePlanEntries :=
  { entries with initialOwnershipDependencies := [] }

/-- Every entry names exactly this range of this resource. -/
structure StatePlanEntries.On (resource : GpuGraphResourceId) (range : GpuTaskResourceRange)
    (entries : StatePlanEntries) : Prop where
  seeds : ∀ seed ∈ entries.prologueStateSeeds, seed.resource = resource ∧ seed.range = range
  barriers : ∀ barrier ∈ entries.prologueBarriers,
    barrier.resource = resource ∧ barrier.range = range
  pending : ∀ pending ∈ entries.pendingEpilogueBarriers,
    pending.barrier.resource = resource ∧ pending.barrier.range = range

/-! ## Restriction -/

@[ext] lemma StatePlanEntries.ext_iff' {a b : StatePlanEntries}
    (h₁ : a.prologueStateSeeds = b.prologueStateSeeds)
    (h₂ : a.prologueBarriers = b.prologueBarriers)
    (h₃ : a.pendingEpilogueBarriers = b.pendingEpilogueBarriers)
    (h₄ : a.initialOwnershipDependencies = b.initialOwnershipDependencies) : a = b := by
  cases a
  cases b
  simp_all

@[simp] lemma StatePlanEntries.append_empty (a : StatePlanEntries) :
    a ++ ({} : StatePlanEntries) = a := by
  ext1 <;> simp

@[simp] lemma StatePlanEntries.empty_append (a : StatePlanEntries) :
    ({} : StatePlanEntries) ++ a = a := by
  ext1 <;> simp

@[simp] lemma StatePlanEntries.restrict_empty (x : ResourceCell) :
    ({} : StatePlanEntries).restrict graph x = {} := rfl

@[simp] lemma StatePlanEntries.restrict_append (x : ResourceCell) (a b : StatePlanEntries) :
    (a ++ b).restrict graph x = a.restrict graph x ++ b.restrict graph x := by
  ext1 <;> simp [StatePlanEntries.restrict]

lemma filter_all {α : Type*} {p : α → Bool} {b : Bool} {xs : List α} (h : ∀ x ∈ xs, p x = b) :
    xs.filter p = if b then xs else [] := by
  cases b
  · simpa using h
  · simpa using h

/-- Entries on one range are kept or dropped together. -/
lemma StatePlanEntries.On.restrict {resource : GpuGraphResourceId} {range : GpuTaskResourceRange}
    {entries : StatePlanEntries} (h : entries.On resource range) (x : ResourceCell) :
    entries.restrict graph x
      = if x.within graph resource range then entries.ranged else {} := by
  have hseeds : ∀ seed ∈ entries.prologueStateSeeds,
      seedCovers graph x seed = x.within graph resource range := fun seed hmem => by
    rw [seedCovers, (h.seeds seed hmem).1, (h.seeds seed hmem).2]
  have hbarriers : ∀ barrier ∈ entries.prologueBarriers,
      barrierCovers graph x barrier = x.within graph resource range := fun barrier hmem => by
    rw [barrierCovers, (h.barriers barrier hmem).1, (h.barriers barrier hmem).2]
  have hpending : ∀ pending ∈ entries.pendingEpilogueBarriers,
      barrierCovers graph x pending.barrier = x.within graph resource range :=
    fun pending hmem => by
      rw [barrierCovers, (h.pending pending hmem).1, (h.pending pending hmem).2]
  rw [StatePlanEntries.restrict, filter_all hseeds, filter_all hbarriers, filter_all hpending]
  cases x.within graph resource range <;> rfl

/-! ## One range -/

section Range

variable {graph} {topology : GpuTaskGraphQueueTopology} {plan : GpuCompiledGraph}
  {resource : GpuTaskGraphResourceView} {use : GpuTaskResourceUse} {task : GpuCompiledTask}
  {range : GpuTaskResourceRange}

lemma StatePlanEntries.On.append {a b : StatePlanEntries} (ha : a.On use.resource range)
    (hb : b.On use.resource range) : (a ++ b).On use.resource range where
  seeds := fun seed hmem => (List.mem_append.1 hmem).elim (ha.seeds seed) (hb.seeds seed)
  barriers := fun barrier hmem =>
    (List.mem_append.1 hmem).elim (ha.barriers barrier) (hb.barriers barrier)
  pending := fun pending hmem =>
    (List.mem_append.1 hmem).elim (ha.pending pending) (hb.pending pending)

end Range

end NwbLot.TaskGraph
