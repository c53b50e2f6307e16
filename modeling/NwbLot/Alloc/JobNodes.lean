import Mathlib.Algebra.Order.Group.Nat
import Mathlib.Data.List.Nodup
import NwbLot.TaskGraph.Types

/-!
# The nodes of the job system

A job occupies a node from its submission until it has completed.  Handles name a node with the
generation of its current use, and a node that is recycled moves on to the next generation.
-/

namespace NwbLot.Alloc

open TaskGraph

/-- A node in one of its uses. -/
structure JobHandle where
  index : ℕ := u32Max
  generation : ℕ := 0
  deriving DecidableEq, Repr, Inhabited

/-- The handle may name a job. -/
def JobHandle.valid (handle : JobHandle) : Bool :=
  handle.index != u32Max && handle.generation != 0

/-- A node.  `func` is the job whose function the node holds, until a thread moves it out, and
`completedGeneration` is the value of the completion signal. -/
structure JobNode where
  func : Option ℕ := none
  dependents : List JobHandle := []
  completedGeneration : ℕ := 0
  generation : ℕ := 1
  remainingDependencies : ℕ := 0
  completed : Bool := true
  scheduled : Bool := false
  deriving DecidableEq, Repr, Inhabited

/-- How deep a thread runs jobs that it released. -/
def workFirstDepthLimit : ℕ := 8

/-! ## Handles -/

/-- `tryResolveNodeLocked`. -/
def tryResolveNode (nodes : List JobNode) (handle : JobHandle) : Option JobNode :=
  if handle.valid then
    match nodes[handle.index]? with
    | none => none
    | some node =>
      if node.generation ≠ handle.generation ∨ node.completed = true then none else some node
  else none

/-- `isPendingLocked`. -/
def isPending (nodes : List JobNode) (handle : JobHandle) : Bool :=
  match nodes[handle.index]? with
  | none => false
  | some node => if node.generation ≠ handle.generation then false else !node.completed

/-- The handle names no pending job. -/
def isComplete (nodes : List JobNode) (handle : JobHandle) : Bool :=
  if handle.valid then !isPending nodes handle else true

/-! ## Acquiring and recycling -/

/-- The generation after the next recycling: zero is left out. -/
def nextGeneration (generation : ℕ) : ℕ :=
  if (generation + 1) % 2 ^ 32 = 0 then 1 else (generation + 1) % 2 ^ 32

/-- A node as `acquireNodeLocked` hands it out. -/
def JobNode.acquired (task : ℕ) (node : JobNode) : JobNode :=
  { node with
    func := some task
    dependents := []
    remainingDependencies := 0
    completed := false
    scheduled := false }

/-- `acquireNodeLocked`: the nodes, the free nodes with the back of the list first, and the handle;
none when there are too many nodes. -/
def acquireNode (task : ℕ) (nodes : List JobNode) (freeNodes : List ℕ) :
    Option (List JobNode × List ℕ × JobHandle) :=
  match freeNodes with
  | index :: rest =>
    let node := nodes.getD index {}
    some (nodes.set index (node.acquired task), rest, ⟨index, node.generation⟩)
  | [] =>
    if u32Max ≤ nodes.length then none
    else
      let node : JobNode := {}
      some (nodes ++ [node.acquired task], [], ⟨nodes.length, node.generation⟩)

/-- A node as `recycleNodeLocked` leaves it. -/
def JobNode.recycled (node : JobNode) : JobNode :=
  { node with
    func := none
    dependents := []
    remainingDependencies := 0
    completed := true
    scheduled := false
    generation := nextGeneration node.generation }

/-! ## The locked sections -/

/-- One dependency in the loop of `submitWithDependencies`.  `unresolved` has 32 bits. -/
def registerDependency (output : JobHandle) (state : List JobNode × ℕ) (dependency : JobHandle) :
    List JobNode × ℕ :=
  match tryResolveNode state.1 dependency with
  | none => state
  | some node =>
    (state.1.set dependency.index { node with dependents := node.dependents ++ [output] },
      (state.2 + 1) % 2 ^ 32)

/-- The locked section of `submitWithDependencies` behind `acquireNodeLocked`: the nodes, and
whether the job is scheduled. -/
def registerDependencies (nodes : List JobNode) (output : JobHandle)
    (dependencies : List JobHandle) : List JobNode × Bool :=
  let registered := dependencies.foldl (registerDependency output) (nodes, 0)
  let node := registered.1.getD output.index {}
  (registered.1.set output.index { node with
      remainingDependencies := registered.2
      scheduled := if registered.2 = 0 then true else node.scheduled },
    registered.2 = 0)

/-- The locked section of `execute`: the moved function, or none when the thread returns. -/
def takeFunction (nodes : List JobNode) (current : JobHandle) :
    Option (Option ℕ × List JobNode) :=
  match tryResolveNode nodes current with
  | none => none
  | some node =>
    if node.scheduled then some (node.func, nodes.set current.index { node with func := none })
    else none

/-- What `complete` collects while it releases the dependents. -/
structure ReadyJobs where
  nodes : List JobNode
  inlineContinuation : JobHandle := {}
  readyJobs : List JobHandle := []

/-- One dependent in the loop of `complete`. -/
def releaseDependent (allowInline : Bool) (state : ReadyJobs) (dependentHandle : JobHandle) :
    ReadyJobs :=
  match tryResolveNode state.nodes dependentHandle with
  | none => state
  | some node =>
    if node.remainingDependencies = 0 then state
    else if node.remainingDependencies - 1 = 0 ∧ node.scheduled = false then
      let nodes := state.nodes.set dependentHandle.index { node with
        remainingDependencies := node.remainingDependencies - 1
        scheduled := true }
      if allowInline && !state.inlineContinuation.valid then
        { state with nodes := nodes, inlineContinuation := dependentHandle }
      else { state with nodes := nodes, readyJobs := state.readyJobs ++ [dependentHandle] }
    else
      { state with
        nodes := state.nodes.set dependentHandle.index
          { node with remainingDependencies := node.remainingDependencies - 1 } }

/-- The locked section of `complete`, or none when the handle does not resolve. -/
def completeNode (nodes : List JobNode) (handle : JobHandle) (allowInline : Bool) :
    Option ReadyJobs :=
  match tryResolveNode nodes handle with
  | none => none
  | some node =>
    let released := node.dependents.foldl (releaseDependent allowInline) { nodes := nodes }
    let node := released.nodes.getD handle.index {}
    some { released with
      nodes := released.nodes.set handle.index
        { node with completedGeneration := handle.generation }.recycled }

end NwbLot.Alloc
