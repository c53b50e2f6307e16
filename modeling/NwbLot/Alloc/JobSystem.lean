import NwbLot.Alloc.JobNodes
import NwbLot.Library.Runs

/-!
# The job system among its threads

The locked sections of submit, execute and complete as steps of any number of threads.  Between
two of them a thread touches nothing that the others read: a job that is scheduled counts as queued
from the section that schedules it, and any thread may take it.  This covers a pool with any number
of workers, and none, where the queued jobs are taken by the thread that queues them.
-/

namespace NwbLot.Alloc

open TaskGraph Runs

/-- Where a thread stands in `execute`. -/
inductive ExecutePoint
  /-- before the locked section of the loop -/
  | starting (current : JobHandle) (workFirstDepth : ℕ)
  /-- the function that was moved out runs -/
  | running (current : JobHandle) (workFirstDepth : ℕ) (task : Option ℕ)
  /-- the function has returned, before the locked section of `complete` -/
  | returned (current : JobHandle) (workFirstDepth : ℕ) (task : Option ℕ)
  /-- `complete` has yet to count the job off -/
  | leaving (inlineContinuation : JobHandle) (workFirstDepth : ℕ)
  deriving DecidableEq, Repr

/-- What has happened to a job: the jobs it depends on that had not finished when it was submitted,
how often its function was started, whether it has returned, and whether its node is recycled. -/
structure JobRecord where
  handle : JobHandle
  dependencies : List ℕ
  starts : ℕ := 0
  returned : Bool := false
  recycled : Bool := false
  deriving DecidableEq, Repr

/-- The nodes, the queue, the threads, and the jobs so far. -/
structure JobSystem where
  nodes : List JobNode := []
  freeNodes : List ℕ := []
  pendingJobCount : ℕ := 0
  queued : List JobHandle := []
  threads : List ExecutePoint := []
  jobs : List JobRecord := []
  deriving DecidableEq, Repr

/-- `submit` may come from any thread, also from a job that runs; the other steps are those of a
thread of `threads`. -/
inductive JobEvent
  | submit (task : Bool) (dependencies : List JobHandle)
  | take (position : ℕ)
  | execute (thread : ℕ)
  | finish (thread : ℕ)
  | complete (thread : ℕ)
  | countOff (thread : ℕ)
  deriving DecidableEq, Repr

/-- The jobs with one of the handles whose functions have not returned. -/
def unfinishedJobs (jobs : List JobRecord) (handles : List JobHandle) : List ℕ :=
  (List.range jobs.length).filter fun job =>
    match jobs[job]? with
    | none => false
    | some record => handles.contains record.handle && !record.returned

/-- The record of the job that a thread has moved out of its node. -/
def modifyJob (task : Option ℕ) (change : JobRecord → JobRecord) (jobs : List JobRecord) :
    List JobRecord :=
  match task with
  | none => jobs
  | some job => jobs.modify job change

namespace JobSystem

/-- `submitWithDependencies`, up to the point where the job is queued. -/
def submit (system : JobSystem) (dependencies : List JobHandle) : JobSystem :=
  match acquireNode system.jobs.length system.nodes system.freeNodes with
  | none => system
  | some (nodes, freeNodes, output) =>
    let registered := registerDependencies nodes output dependencies
    { system with
      nodes := registered.1
      freeNodes := freeNodes
      pendingJobCount := system.pendingJobCount + 1
      queued := if registered.2 then system.queued ++ [output] else system.queued
      jobs := system.jobs ++
        [{ handle := output, dependencies := unfinishedJobs system.jobs dependencies }] }

/-- The step of an event, if it can happen. -/
def step (system : JobSystem) : JobEvent → Option JobSystem
  | .submit task dependencies => some (if task then system.submit dependencies else system)
  | .take position =>
    match system.queued[position]? with
    | none => none
    | some handle => some { system with
        queued := system.queued.eraseIdx position
        threads := .starting handle 0 :: system.threads }
  | .execute thread =>
    match system.threads[thread]? with
    | some (.starting current workFirstDepth) =>
      match takeFunction system.nodes current with
      | none => some { system with threads := system.threads.eraseIdx thread }
      | some (task, nodes) => some { system with
          nodes := nodes
          threads := system.threads.set thread (.running current workFirstDepth task)
          jobs := modifyJob task (fun job => { job with starts := job.starts + 1 }) system.jobs }
    | _ => none
  | .finish thread =>
    match system.threads[thread]? with
    | some (.running current workFirstDepth task) => some { system with
        threads := system.threads.set thread (.returned current workFirstDepth task)
        jobs := modifyJob task (fun job => { job with returned := true }) system.jobs }
    | _ => none
  | .complete thread =>
    match system.threads[thread]? with
    | some (.returned current workFirstDepth task) =>
      match completeNode system.nodes current (workFirstDepth < workFirstDepthLimit) with
      | none => some { system with threads := system.threads.eraseIdx thread }
      | some released => some { system with
          nodes := released.nodes
          freeNodes := current.index :: system.freeNodes
          queued := system.queued ++ released.readyJobs
          threads := system.threads.set thread
            (.leaving released.inlineContinuation workFirstDepth)
          jobs := modifyJob task (fun job => { job with recycled := true }) system.jobs }
    | _ => none
  | .countOff thread =>
    match system.threads[thread]? with
    | some (.leaving inlineContinuation workFirstDepth) => some { system with
        pendingJobCount := system.pendingJobCount - 1
        threads :=
          if inlineContinuation.valid then
            system.threads.set thread (.starting inlineContinuation (workFirstDepth + 1))
          else system.threads.eraseIdx thread }
    | _ => none

/-- How often a node has been used. -/
def uses (jobs : List JobRecord) (index : ℕ) : ℕ :=
  jobs.countP fun job => job.handle.index = index

/-- The dependencies of a submission are handles that were returned before. -/
def EarlierHandles (system : JobSystem) : JobEvent → Prop
  | .submit _ dependencies => ∀ dependency ∈ dependencies, dependency.valid = true →
    ∃ job ∈ system.jobs, job.handle = dependency
  | _ => True

/-- Fewer than `2 ^ 32` entries of a submission's list are still pending. -/
def CountsDependencies (system : JobSystem) : JobEvent → Prop
  | .submit _ dependencies => (dependencies.filter fun dependency =>
      (tryResolveNode system.nodes dependency).isSome).length < 2 ^ 32
  | _ => True

/-- What the callers of the job system promise. -/
def Admissible (system : JobSystem) (event : JobEvent) : Prop :=
  EarlierHandles system event ∧ CountsDependencies system event

end JobSystem

end NwbLot.Alloc
