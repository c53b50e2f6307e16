import NwbLot.Ecs.ComponentStorage
import NwbLot.Library.FallibleLists

/-!
# Views

`query.h`: a view over the pools of a list of component types, the choice of its anchor and the
three enumerations, `each`, the iterator and `parallelEach`; and the way `ThreadPool::parallelFor`
of `thread.h` cuts a range into chunks.

A reference to a component is its type and its place in the dense arrays of that type's pool.
-/

namespace NwbLot.Ecs

/-! ## Chunks of a parallel loop -/

namespace ThreadPool

/-- Chunks per thread. -/
def chunkOversubscription : ℕ := 4

/-- How many chunks a view is split into. -/
def computeChunkCount (maxChunks totalThreads : ℕ) : ℕ :=
  let targetChunks :=
    if totalThreads ≤ (2 ^ 64 - 1) / chunkOversubscription then totalThreads * chunkOversubscription
    else totalThreads
  if maxChunks < targetChunks then maxChunks else targetChunks

/-- `DivideUp`. -/
def divideUp (value divisor : ℕ) : ℕ :=
  if value = 0 || divisor = 0 then 0 else 1 + (value - 1) / divisor

/-- The indices of chunk `c` of a range from zero, as `processParallelFor` computes them. -/
def chunk (chunkSize remainder c : ℕ) : List ℕ :=
  let chunkBegin := c * chunkSize + if c < remainder then c else remainder
  List.range' chunkBegin (chunkSize + if c < remainder then 1 else 0)

/-- `runParallelForChunks`: one serial range, or chunks that the workers take one by one. -/
def runParallelForChunks (count numChunks : ℕ) : List (List ℕ) :=
  if numChunks ≤ 1 then [List.range count]
  else (List.range numChunks).map (chunk (count / numChunks) (count % numChunks))

/-- The chunks of `parallelFor` over `[0, count)`; `nested` when the pool already executes one on
this thread, `grainSize` when the caller gives one. -/
def parallelFor (threadCount : ℕ) (nested : Bool) (grainSize : Option ℕ) (count : ℕ) :
    List (List ℕ) :=
  if count = 0 then []
  else
    match grainSize with
    | none =>
        if threadCount = 0 || count = 1 || nested then [List.range count]
        else runParallelForChunks count (computeChunkCount count (threadCount + 1))
    | some grainSize =>
        let effectiveGrainSize := if 0 < grainSize then grainSize else 1
        if threadCount = 0 || count ≤ effectiveGrainSize || nested then [List.range count]
        else
          runParallelForChunks count
            (computeChunkCount (divideUp count effectiveGrainSize) (threadCount + 1))

/-- The orders in which the indices of the chunks may be visited. -/
def Order (chunks : List (List ℕ)) (order : List ℕ) : Prop := order.Perm chunks.flatten

end ThreadPool

/-! ## The view -/

/-- One call of the function: the entity and a reference for every listed type. -/
structure Visit (TypeId : Type) where
  entity : EntityID
  references : List (TypeId × UInt32)
  deriving Repr

/-- A view over the smallest pool of its types. -/
structure View (TypeId : Type) where
  types : List TypeId
  anchorEntities : List EntityID := []
  anchorPoolIndex : ℕ := 0
  count : ℕ := 0
  valid : Bool := true
  deriving Repr

/-- A place in the anchor's entities. -/
structure ViewIterator where
  index : ℕ
  entity : EntityID := entityIdInvalid
  denseIndices : List UInt32 := []
  deriving Repr

namespace View

variable {TypeId : Type} {Component : TypeId → Type} (world : World Component)

/-- `updateAnchor` of one pool. -/
def updateAnchor (view : View TypeId) (pool : TypeId × ℕ) : View TypeId :=
  match world.pools pool.1 with
  | none => { view with valid := false }
  | some components =>
      if components.dense.length < view.count then
        { view with
          count := components.dense.length
          anchorEntities := components.dense
          anchorPoolIndex := pool.2 }
      else view

/-- `World::view` and `initializeAnchor`: the smallest pool is the anchor, and a missing pool makes
the view empty. -/
def initializeAnchor (types : List TypeId) : View TypeId :=
  let anchored := types.zipIdx.foldl (updateAnchor world)
    { types, count := 2 ^ 64 - 1, valid := true }
  if anchored.valid then anchored else { anchored with anchorEntities := [], count := 0 }

section Enumerations

variable (view : View TypeId)

/-- `entityAt`; `none` where an assertion fails. -/
def entityAt (denseIndex : ℕ) : Option EntityID := view.anchorEntities[denseIndex]?

/-- `ViewTupleAccess::findDenseIndex`: the anchor needs no search. -/
def findDenseIndex (pool : TypeId × ℕ) (anchorDenseIndex : ℕ) (entityId : EntityID) :
    Option UInt32 :=
  if pool.2 = view.anchorPoolIndex then some (UInt32.ofNat anchorDenseIndex)
  else (world.pools pool.1).bind (·.findDenseIndex entityId)

/-- The references to the components of an entity, if it has them all. -/
def resolveDenseIndices (entityId : EntityID) (anchorDenseIndex : ℕ) :
    Option (List (TypeId × UInt32)) :=
  view.types.zipIdx.mapM fun pool =>
    (view.findDenseIndex world pool anchorDenseIndex entityId).map (pool.1, ·)

/-- `applyFunc`: the call for one entity of the anchor, if there is one. -/
def applyFunc (denseIndex : ℕ) : Option (Option (Visit TypeId)) := do
  let entity ← view.entityAt denseIndex
  match view.types with
  | [typeId] => some (some { entity, references := [(typeId, UInt32.ofNat denseIndex)] })
  | _ =>
      some ((view.resolveDenseIndices world entity denseIndex).map fun references =>
        { entity, references })

/-- The calls for a list of dense indices of the anchor. -/
def applyAll (order : List ℕ) : Option (List (Visit TypeId)) :=
  if view.valid then (order.mapM (view.applyFunc world)).map fun visits => visits.filterMap id
  else some []

/-- The visits of the whole view. -/
def each : Option (List (Visit TypeId)) := view.applyAll world (List.range view.count)

/-- `parallelEach` with the indices visited in the given order. -/
def parallelEach (order : List ℕ) : Option (List (Visit TypeId)) := view.applyAll world order

/-! ## The iterator -/

/-- The loop of `skipInvalid`. -/
def skipMissing : ℕ → ViewIterator → Option ViewIterator
  | fuel, iterator =>
      if iterator.index < view.count then
        match fuel with
        | 0 => none
        | fuel + 1 => do
            let entityId ← view.entityAt iterator.index
            match view.resolveDenseIndices world entityId iterator.index with
            | some references =>
                some { iterator with entity := entityId, denseIndices := references.map (·.2) }
            | none => skipMissing fuel { iterator with index := iterator.index + 1 }
      else some { iterator with entity := entityIdInvalid }

/-- The first entity from here on that has every type. -/
def skipInvalid (fuel : ℕ) (iterator : ViewIterator) : Option ViewIterator :=
  match view.types with
  | [_] =>
      if iterator.index < view.count then do
        let entityId ← view.entityAt iterator.index
        some { iterator with
          entity := entityId, denseIndices := [UInt32.ofNat iterator.index] }
      else some { iterator with entity := entityIdInvalid }
  | _ => view.skipMissing world fuel iterator

/-- `begin`. -/
def first (fuel : ℕ) : Option ViewIterator :=
  if view.valid then view.skipInvalid world fuel { index := 0 } else some { index := view.count }

/-- `operator++`. -/
def next (fuel : ℕ) (iterator : ViewIterator) : Option ViewIterator :=
  view.skipInvalid world fuel { iterator with index := iterator.index + 1 }

/-- `operator*`. -/
def deref (iterator : ViewIterator) : Visit TypeId :=
  { entity := iterator.entity, references := view.types.zip iterator.denseIndices }

/-- The loop from an iterator to `end`, at most `fuel` steps long. -/
def iterateFrom : ℕ → ViewIterator → Option (List (Visit TypeId))
  | fuel, iterator =>
      if iterator.index = view.count then some []
      else
        match fuel with
        | 0 => none
        | fuel + 1 => do
            let following ← view.next world view.count iterator
            let visits ← iterateFrom fuel following
            some (view.deref iterator :: visits)

/-- The loop from `begin` to `end`. -/
def iterate : Option (List (Visit TypeId)) := do
  let iterator ← view.first world view.count
  view.iterateFrom world view.count iterator

end Enumerations

end View

end NwbLot.Ecs
