import NwbLot.Library.FirstFit

/-!
# The system scheduler

`system.cpp`: the access lists that systems declare, the greedy filling of stages by
`SystemScheduler::rebuild` and the run of the stages by `execute`.

A system is known by its identity only; the accesses each has declared are a parameter, as is what
`prepare` and `update` do to the world.
-/

namespace NwbLot.Ecs

/-! ## Declared accesses -/

/-- How a system uses a component. -/
inductive AccessMode
  | read
  | write
  deriving DecidableEq, Repr

/-- A component type and how it is used. -/
structure ComponentAccess (TypeId : Type) where
  typeId : TypeId
  mode : AccessMode
  deriving DecidableEq, Repr

section Accesses

variable {TypeId : Type} [DecidableEq TypeId]

/-- `accessesCanShareStage`. -/
def accessesCanShareStage (stageAccess systemAccess : ComponentAccess TypeId) : Bool :=
  if stageAccess.typeId ≠ systemAccess.typeId then true
  else stageAccess.mode != .write && systemAccess.mode != .write

/-- The access conflicts with none of the stage. -/
def stageCanAddAccess (stageAccesses : List (ComponentAccess TypeId))
    (systemAccess : ComponentAccess TypeId) : Bool :=
  stageAccesses.all (accessesCanShareStage · systemAccess)

/-- No access of the system conflicts with the stage. -/
def stageCanAddSystem (stageAccesses systemAccesses : List (ComponentAccess TypeId)) : Bool :=
  systemAccesses.all (stageCanAddAccess stageAccesses)

/-- `mergeStageAccess`: the first entry of the type is strengthened, or the access is appended. -/
def mergeStageAccess : List (ComponentAccess TypeId) → ComponentAccess TypeId →
    List (ComponentAccess TypeId)
  | [], systemAccess => [systemAccess]
  | stageAccess :: rest, systemAccess =>
      if stageAccess.typeId ≠ systemAccess.typeId then
        stageAccess :: mergeStageAccess rest systemAccess
      else if systemAccess.mode = .write then { stageAccess with mode := .write } :: rest
      else stageAccess :: rest

/-- The accesses of the stage with the system in it. -/
def mergeSystemAccess (stageAccesses systemAccesses : List (ComponentAccess TypeId)) :
    List (ComponentAccess TypeId) :=
  systemAccesses.foldl mergeStageAccess stageAccesses

/-- `ISystem::registerAccess`: the same rule on the list of one system. -/
def registerAccess (access : List (ComponentAccess TypeId)) (typeId : TypeId) (mode : AccessMode) :
    List (ComponentAccess TypeId) :=
  mergeStageAccess access { typeId, mode }

/-- The list a system holds after the `readAccess` and `writeAccess` calls it has made. -/
def registeredAccess (declared : List (ComponentAccess TypeId)) : List (ComponentAccess TypeId) :=
  declared.foldl (fun access call => registerAccess access call.typeId call.mode) []

end Accesses

/-! ## The scheduler -/

/-- The systems, and their stages once they are built. -/
structure SystemScheduler (System : Type) where
  stages : List (List System) := []
  allSystems : List System := []
  dirty : Bool := false
  deriving Repr

namespace SystemScheduler

variable {System TypeId : Type} [DecidableEq System] [DecidableEq TypeId]

/-- A new system makes the stages stale. -/
def addSystem (scheduler : SystemScheduler System) (system : System) : SystemScheduler System :=
  if system ∈ scheduler.allSystems then scheduler
  else { scheduler with allSystems := scheduler.allSystems ++ [system], dirty := true }

/-- A system less makes the stages stale. -/
def removeSystem (scheduler : SystemScheduler System) (system : System) : SystemScheduler System :=
  if system ∈ scheduler.allSystems then
    { scheduler with allSystems := scheduler.allSystems.erase system, dirty := true }
  else scheduler

/-- No systems are left. -/
def clear (_ : SystemScheduler System) : SystemScheduler System := {}

section Rebuild

variable (access : System → List (ComponentAccess TypeId))

/-- One pass of the `for` loop over the systems with their `assignedSystems` flags: the flags after
it and the systems it put into the stage. -/
def fillStage : List (System × Bool) → List (ComponentAccess TypeId) →
    List (System × Bool) × List System
  | [], _ => ([], [])
  | (system, assigned) :: rest, stageAccesses =>
      if assigned || !stageCanAddSystem stageAccesses (access system) then
        ((system, assigned) :: (fillStage rest stageAccesses).1, (fillStage rest stageAccesses).2)
      else
        let filled := fillStage rest (mergeSystemAccess stageAccesses (access system))
        ((system, true) :: filled.1, system :: filled.2)

/-- The `while` loop; `none` when it has not ended after `fuel` passes. -/
def fillStages : ℕ → List (System × Bool) → ℕ → Option (List (List System))
  | fuel, systems, numAssigned =>
      if numAssigned < systems.length then
        match fuel with
        | 0 => none
        | fuel + 1 =>
            let filled := fillStage access systems []
            (fillStages fuel filled.1 (numAssigned + filled.2.length)).map (filled.2 :: ·)
      else some []

/-- `rebuild`, with a bound on the passes of its loop. -/
def rebuild (fuel : ℕ) (scheduler : SystemScheduler System) : Option (SystemScheduler System) :=
  match scheduler.allSystems with
  | [] => some { scheduler with stages := [], dirty := false }
  | [system] => some { scheduler with stages := [[system]], dirty := false }
  | systems =>
      (fillStages access fuel (systems.map (·, false)) 0).map fun stages =>
        { scheduler with stages, dirty := false }

/-- The calls on a scheduler. -/
inductive Call (System : Type)
  | addSystem (system : System)
  | removeSystem (system : System)
  | clear
  | rebuild
  deriving Repr

/-- One call; a rebuild may make as many passes as there are systems. -/
def step (scheduler : SystemScheduler System) : Call System → Option (SystemScheduler System)
  | .addSystem system => some (scheduler.addSystem system)
  | .removeSystem system => some (scheduler.removeSystem system)
  | .clear => some scheduler.clear
  | .rebuild => scheduler.rebuild access scheduler.allSystems.length

end Rebuild

/-! ## Execution -/

/-- An order in which the stages may run their systems: one stage behind the other, the systems of
a stage in any order (`parallelFor`). -/
def UpdateOrder (stages : List (List System)) (order : List System) : Prop :=
  ∃ orders, List.Forall₂ List.Perm orders stages ∧ order = orders.flatten

/-- `execute` with the updates in the given order. -/
def runUpdates {World : Type} (prepare update : System → World → World)
    (scheduler : SystemScheduler System) (order : List System) (world : World) : World :=
  order.foldl (fun world system => update system world)
    (scheduler.allSystems.foldl (fun world system => prepare system world) world)

/-- The scheduler that `execute` runs: rebuilt if it is dirty. -/
def executed (access : System → List (ComponentAccess TypeId)) (fuel : ℕ)
    (scheduler : SystemScheduler System) : Option (SystemScheduler System) :=
  if scheduler.dirty then scheduler.rebuild access fuel else some scheduler

end SystemScheduler

end NwbLot.Ecs
