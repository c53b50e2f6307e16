import NwbLot.Library.KahnOrder
import NwbLot.TaskGraph.ResourceRanges

/-!
# Graph analysis

`GpuTaskGraphCompiler::analyze` of `compiler_analysis.cpp`: declaration checks, explicit edges and
their stable order, hazard edges inferred along that order, the order of all edges, and the
presentation endpoint.

The analysis is a value: a failing analysis keeps what it had built and a diagnostic, a successful
one has `valid` set.
-/

namespace NwbLot.TaskGraph

/-- How analysis ended. -/
inductive GpuTaskGraphAnalysisStatus
  | notAnalyzed
  | success
  | invalidTask
  | missingTaskRecordPayload
  | invalidResource
  | invalidTaskDependency
  | invalidExternalCompletionDependency
  | invalidResourceUse
  | cycle
  | invalidPresentationEndpoint
  deriving DecidableEq, Repr, Inhabited

/-- What analysis failed at. -/
structure GpuTaskGraphAnalysisDiagnostic where
  status : GpuTaskGraphAnalysisStatus := .notAnalyzed
  task : GpuTaskId := {}
  relatedTask : GpuTaskId := {}
  resource : GpuGraphResourceId := {}
  deriving DecidableEq, Repr, Inhabited

/-- `GpuTaskGraphAnalysis` without the identity of the graph it was made for. -/
structure GpuTaskGraphAnalysis where
  edges : List GpuTaskDependencyEdge := []
  inferredEdges : List GpuTaskDependencyEdge := []
  externalDependencies : List GpuTaskExternalDependencyEdge := []
  topologicalOrder : List GpuTaskId := []
  cyclePath : List GpuTaskId := []
  cycleEdges : List GpuTaskDependencyEdge := []
  diagnostic : GpuTaskGraphAnalysisDiagnostic := {}
  explicitEdgeCount : ℕ := 0
  inferredEdgeCount : ℕ := 0
  valid : Bool := false
  deriving Repr, Inhabited

/-! ## Declaration checks -/

section Validation

variable (graph : GpuTaskGraph)

/-- The checks of a resource. -/
def validateResource (resource : GpuTaskGraphResourceView) :
    Option GpuTaskGraphAnalysisDiagnostic :=
  if resource.identity = 0 then some { status := .invalidResource, resource := resource.id }
  else none

/-- The checks of an external completion. -/
def validateExternalCompletion (identity : Name) : Option GpuTaskGraphAnalysisDiagnostic :=
  if identity = 0 then some { status := .invalidExternalCompletionDependency } else none

/-- The declared range of a use is acceptable for its resource's type. -/
def isValidUseRange (type : GpuGraphResourceType) (range : GpuTaskResourceRange) : Bool :=
  match type with
  | .texture => isValidTextureRange range.textureSubresources
  | .buffer => isValidBufferRange range.bufferRange
  | _ => true

/-- The checks of a use. -/
def validateResourceUse (task : GpuTaskId) (use : GpuTaskResourceUse) :
    Option GpuTaskGraphAnalysisDiagnostic :=
  if !graph.validResource use.resource || use.requiredState == ResourceStates.unknown then
    some { status := .invalidResourceUse, task, resource := use.resource }
  else if !isValidUseRange (graph.resourceAt use.resource.index).type use.range then
    some { status := .invalidResourceUse, task, resource := use.resource }
  else none

/-- The checks of a task. -/
def validateTask (task : GpuTaskGraphTaskView) : Option GpuTaskGraphAnalysisDiagnostic :=
  if task.identity = 0 || !isValidQueueRequest task.queue then
    some { status := .invalidTask, task := task.id }
  else
    (task.dependencies.findSome? fun dependency =>
      if graph.validTask dependency then none
      else some { status := .invalidTaskDependency, task := task.id, relatedTask := dependency })
    <|> (task.externalDependencies.findSome? fun completion =>
      if graph.validExternalCompletion completion then none
      else some { status := .invalidExternalCompletionDependency, task := task.id })
    <|> (task.externalStateSources.findSome? fun states =>
      if states.isSome then none else some { status := .invalidTask, task := task.id })
    <|> task.resourceUses.findSome? (validateResourceUse graph task.id)

/-- The first refused declaration, in the order of the source. -/
def validateDeclarations : Option GpuTaskGraphAnalysisDiagnostic :=
  ((List.range graph.resourceCount).findSome? fun index => validateResource (graph.resourceAt index))
  <|> graph.externalCompletions.findSome? validateExternalCompletion
  <|> (List.range graph.taskCount).findSome? fun index => validateTask graph (graph.taskAt index)

end Validation

/-! ## Edge tables -/

/-- The scheduling edges, one per task pair, and the inferred reasons, one per pair, resource and
hazard. -/
structure EdgeTable where
  edges : List GpuTaskDependencyEdge := []
  inferredEdges : List GpuTaskDependencyEdge := []
  explicitEdgeCount : ℕ := 0
  inferredEdgeCount : ℕ := 0
  deriving Repr, Inhabited

/-- Both edges join the same tasks. -/
def GpuTaskDependencyEdge.samePair (lhs rhs : GpuTaskDependencyEdge) : Bool :=
  lhs.producer == rhs.producer && lhs.consumer == rhs.consumer

/-- Push the edge, or let an explicit edge replace the inferred one of its pair. -/
def mergeSchedulingEdge (edge : GpuTaskDependencyEdge) :
    List GpuTaskDependencyEdge → List GpuTaskDependencyEdge
  | [] => [edge]
  | existing :: rest =>
      if !existing.samePair edge then existing :: mergeSchedulingEdge edge rest
      else if edge.hazard == .explicit && existing.hazard != .explicit then edge :: rest
      else existing :: rest

namespace EdgeTable

/-- An edge joins those of its pair. -/
def appendSchedulingEdge (table : EdgeTable) (edge : GpuTaskDependencyEdge) : EdgeTable :=
  let alreadyExplicit := table.edges.any fun existing =>
    existing.samePair edge && existing.hazard == .explicit
  { table with
    edges := mergeSchedulingEdge edge table.edges
    explicitEdgeCount := table.explicitEdgeCount +
      if edge.hazard == .explicit && !alreadyExplicit then 1 else 0 }

/-- A hazard is listed once for each resource. -/
def appendInferredEdge (table : EdgeTable) (edge : GpuTaskDependencyEdge) : EdgeTable :=
  let hasTaskPair := table.inferredEdges.any (·.samePair edge)
  if table.inferredEdges.any fun existing =>
      existing.samePair edge && existing.resource == edge.resource && existing.hazard == edge.hazard
  then table
  else
    ({ table with
      inferredEdges := table.inferredEdges ++ [edge]
      inferredEdgeCount := table.inferredEdgeCount + if hasTaskPair then 0 else 1 }
        : EdgeTable).appendSchedulingEdge edge

end EdgeTable

/-- The explicit edges of one task. -/
def declareTaskDependencies (table : EdgeTable) (task : GpuTaskGraphTaskView) : EdgeTable :=
  task.dependencies.foldl
    (fun table dependency => table.appendSchedulingEdge
      { producer := dependency, consumer := task.id, hazard := .explicit }) table

/-- An external dependency is listed once. -/
def appendExternalDependency (dependencies : List GpuTaskExternalDependencyEdge)
    (edge : GpuTaskExternalDependencyEdge) : List GpuTaskExternalDependencyEdge :=
  if dependencies.contains edge then dependencies else dependencies ++ [edge]

section Declared

variable (graph : GpuTaskGraph)

/-- The declared edges of all tasks. -/
def declareDependencies : EdgeTable :=
  (List.range graph.taskCount).foldl
    (fun table index => declareTaskDependencies table (graph.taskAt index)) {}

/-- The external dependencies of all tasks. -/
def declareExternalDependencies : List GpuTaskExternalDependencyEdge :=
  (List.range graph.taskCount).foldl
    (fun dependencies index =>
      (graph.taskAt index).externalDependencies.foldl
        (fun dependencies completion => appendExternalDependency dependencies
          { completion, consumer := graph.taskIdAt index }) dependencies) []

end Declared

/-! ## Orders and cycles -/

/-- `IncludesEdge`. -/
def includesEdge (edge : GpuTaskDependencyEdge) (explicitOnly : Bool) : Bool :=
  !explicitOnly || edge.hazard == .explicit

/-- What a failed ordering reports. -/
structure GpuTaskGraphCycle where
  path : List GpuTaskId := []
  edges : List GpuTaskDependencyEdge := []
  deriving Repr, Inhabited

/-- How far the search has come with a task. -/
inductive VisitState
  | unvisited
  | onStack
  | done
  deriving DecidableEq, Repr

/-- The depth-first search's marks and stack, and the cycle once one is closed. -/
structure CycleSearch where
  visitState : ℕ → VisitState
  visitStack : List ℕ
  found : Option (List ℕ)

section Order

variable (graph : GpuTaskGraph) (edges : List GpuTaskDependencyEdge)

/-- The edge loop of `visit`; `visit` is the recursive call. -/
def visitEdges (visit : ℕ → CycleSearch → CycleSearch) :
    List GpuTaskDependencyEdge → CycleSearch → CycleSearch
  | [], search => search
  | edge :: rest, search =>
      let consumerIndex := edge.consumer.index
      match search.visitState consumerIndex with
      | .onStack =>
          { search with
            found := some (search.visitStack.dropWhile (· ≠ consumerIndex) ++ [consumerIndex]) }
      | .unvisited =>
          let visited := visit consumerIndex search
          if visited.found.isSome then visited else visitEdges visit rest visited
      | .done => visitEdges visit rest search

/-- `visit`: `included` are the edges the search follows; the fuel bounds the stack, which never
holds a task twice. -/
def visit (included : List GpuTaskDependencyEdge) : ℕ → ℕ → CycleSearch → CycleSearch
  | 0, _, search => search
  | fuel + 1, taskIndex, search =>
      let entered := { search with
        visitState := Function.update search.visitState taskIndex .onStack
        visitStack := search.visitStack ++ [taskIndex] }
      let left := visitEdges (visit included fuel)
        (included.filter fun edge => edge.producer.index == taskIndex) entered
      if left.found.isSome then left
      else
        { left with
          visitState := Function.update left.visitState taskIndex .done
          visitStack := left.visitStack.dropLast }

/-- The first edge between consecutive tasks of the cycle. -/
def cycleEdgesOf (included : List GpuTaskDependencyEdge) (path : List ℕ) :
    List GpuTaskDependencyEdge :=
  (path.zip path.tail).filterMap fun pair =>
    included.find? fun edge => edge.producer.index == pair.1 && edge.consumer.index == pair.2

/-- The cycle the depth-first search reports when source removal gets stuck. -/
def findCycle (explicitOnly : Bool) : GpuTaskGraphCycle :=
  let included := edges.filter (includesEdge · explicitOnly)
  let search := (List.range graph.taskCount).foldl
    (fun search index =>
      if search.found.isNone && search.visitState index == .unvisited then
        visit included graph.taskCount index search
      else search)
    { visitState := fun _ => .unvisited, visitStack := [], found := none }
  match search.found with
  | none => {}
  | some path => { path := path.map graph.taskIdAt, edges := cycleEdgesOf included path }

/-- The included edges as index pairs. -/
def indexPairs (explicitOnly : Bool) : List (ℕ × ℕ) :=
  (edges.filter (includesEdge · explicitOnly)).map fun edge =>
    (edge.producer.index, edge.consumer.index)

/-- `BuildTopologicalOrder`: stable source removal, or the cycle that prevented it. -/
def buildTopologicalOrder (explicitOnly : Bool) : Except GpuTaskGraphCycle (List GpuTaskId) :=
  match KahnOrder.stableOrder graph.taskCount (indexPairs edges explicitOnly) with
  | some order => .ok (order.map graph.taskIdAt)
  | none => .error (findCycle graph edges explicitOnly)

end Order

/-! ## Hazards -/

/-- An access that later ones are held against. -/
structure TrackedResourceAccess where
  task : GpuTaskId := {}
  resource : GpuGraphResourceId := {}
  range : GpuTaskResourceRange := {}
  active : Bool := true
  deriving DecidableEq, Repr, Inhabited

/-- The reader and writer lists with the edges found so far. -/
structure HazardState where
  table : EdgeTable := {}
  writers : List TrackedResourceAccess := []
  readers : List TrackedResourceAccess := []
  deriving Repr, Inhabited

section Hazards

variable (type : GpuGraphResourceType) (task : GpuTaskId) (use : GpuTaskResourceUse)

/-- The `overlaps` predicate of the use loop. -/
def TrackedResourceAccess.overlaps (access : TrackedResourceAccess) : Bool :=
  access.active && access.task != task && access.resource == use.resource
    && rangesOverlap type access.range use.range

/-- Edges from every listed access that overlaps the use. -/
def appendHazardEdges (hazard : GpuTaskHazardType) (accesses : List TrackedResourceAccess)
    (table : EdgeTable) : EdgeTable :=
  (accesses.filter (·.overlaps type task use)).foldl
    (fun table access => table.appendInferredEdge
      { producer := access.task, consumer := task, resource := use.resource, hazard }) table

/-- A write retires the active accesses its range contains. -/
def deactivateContained (accesses : List TrackedResourceAccess) : List TrackedResourceAccess :=
  accesses.map fun access =>
    if access.active && access.resource == use.resource
        && rangeContains type use.range access.range then
      { access with active := false }
    else access

/-- The task already wrote everything this read covers. -/
def alreadyWrittenByTask (writers : List TrackedResourceAccess) : Bool :=
  writers.any fun writer =>
    writer.active && writer.task == task && writer.resource == use.resource
      && rangeContains type writer.range use.range

/-- The body of the use loop. -/
def inferUseHazards (state : HazardState) : HazardState :=
  let readTable :=
    if isReadAccess use.access then
      appendHazardEdges type task use .readAfterWrite state.writers state.table
    else state.table
  let access : TrackedResourceAccess := { task, resource := use.resource, range := use.range }
  if isWriteAccess use.access then
    let writeTable := appendHazardEdges type task use .writeAfterWrite state.writers readTable
    { table := appendHazardEdges type task use .writeAfterRead state.readers writeTable
      writers := deactivateContained type use state.writers ++ [access]
      readers := deactivateContained type use state.readers }
  else if alreadyWrittenByTask type task use state.writers then { state with table := readTable }
  else { state with table := readTable, readers := state.readers ++ [access] }

end Hazards

section Analyze

variable (graph : GpuTaskGraph)

/-- All uses of one task. -/
def inferTaskHazards (state : HazardState) (task : GpuTaskId) : HazardState :=
  (graph.taskAt task.index).resourceUses.foldl
    (fun state use =>
      inferUseHazards (graph.resourceAt use.resource.index).type task use state) state

/-- The hazard loop along an order. -/
def inferHazards (order : List GpuTaskId) (table : EdgeTable) : HazardState :=
  order.foldl (inferTaskHazards graph) { table }

/-! ## The presentation endpoint -/

/-- Tasks with a path of edges to the producer, found against the order. -/
def reachesProducer (edges : List GpuTaskDependencyEdge) (order : List GpuTaskId)
    (producer : GpuTaskId) : ℕ → Bool :=
  order.reverse.foldl
    (fun marks consumer =>
      if marks consumer.index then
        edges.foldl
          (fun marks edge =>
            if edge.consumer = consumer then Function.update marks edge.producer.index true
            else marks) marks
      else marks)
    (Function.update (fun _ => false) producer.index true)

/-- The endpoint names a Graphics producer and a presentable resource, some task writes the back
buffer, and every writer reaches the producer. -/
def validatePresentEndpoint (edges : List GpuTaskDependencyEdge) (order : List GpuTaskId)
    (endpoint : GpuPresentEndpoint) : Option GpuTaskGraphAnalysisDiagnostic :=
  if !graph.validTask endpoint.producer || !graph.validResource endpoint.backBuffer then
    some { status := .invalidPresentationEndpoint, task := endpoint.producer,
           resource := endpoint.backBuffer }
  else
    let producer := graph.taskAt endpoint.producer.index
    let backBuffer := graph.resourceAt endpoint.backBuffer.index
    if (backBuffer.type != .texture && backBuffer.type != .hazardDomain)
        || !hasCapabilities producer.queue.requiredCapabilities GpuQueueCapability.graphics then
      some { status := .invalidPresentationEndpoint, task := producer.id, resource := backBuffer.id }
    else
      let marks := reachesProducer edges order endpoint.producer
      let writes (index : ℕ) := (graph.taskAt index).resourceUses.any fun use =>
        use.resource == endpoint.backBuffer && isWriteAccess use.access
      match (List.range graph.taskCount).find? fun index => writes index && !marks index with
      | some index =>
          some { status := .invalidPresentationEndpoint, task := endpoint.producer,
                 relatedTask := graph.taskIdAt index, resource := endpoint.backBuffer }
      | none =>
          if (List.range graph.taskCount).any writes then none
          else some { status := .invalidPresentationEndpoint, task := endpoint.producer,
                      resource := endpoint.backBuffer }

/-! ## The analysis -/

/-- The diagnostic of a cycle names its first edge. -/
def cycleDiagnostic (cycle : GpuTaskGraphCycle) : GpuTaskGraphAnalysisDiagnostic :=
  match cycle.edges with
  | [] => { status := .cycle }
  | edge :: _ =>
      { status := .cycle, task := edge.consumer, relatedTask := edge.producer,
        resource := edge.resource }

/-- An analysis carrying an edge table. -/
def EdgeTable.analysis (table : EdgeTable) : GpuTaskGraphAnalysis :=
  { edges := table.edges
    inferredEdges := table.inferredEdges
    externalDependencies := declareExternalDependencies graph
    explicitEdgeCount := table.explicitEdgeCount
    inferredEdgeCount := table.inferredEdgeCount }

/-- `GpuTaskGraphCompiler::analyze`. -/
def analyze : GpuTaskGraphAnalysis :=
  match validateDeclarations graph with
  | some diagnostic => { diagnostic }
  | none =>
    let declared := declareDependencies graph
    match buildTopologicalOrder graph declared.edges true with
    | .error cycle =>
        { declared.analysis graph with
          cyclePath := cycle.path, cycleEdges := cycle.edges, diagnostic := cycleDiagnostic cycle }
    | .ok explicitOrder =>
      let table := (inferHazards graph explicitOrder declared).table
      match buildTopologicalOrder graph table.edges false with
      | .error cycle =>
          { table.analysis graph with
            cyclePath := cycle.path, cycleEdges := cycle.edges,
            diagnostic := cycleDiagnostic cycle }
      | .ok order =>
        let ordered := { table.analysis graph with topologicalOrder := order }
        match graph.presentEndpoint.bind (validatePresentEndpoint graph table.edges order) with
        | some diagnostic => { ordered with diagnostic }
        | none => { ordered with diagnostic := { status := .success }, valid := true }

/-- The stable order of the explicit edges, along which hazards are inferred. -/
def explicitOrder : List GpuTaskId :=
  match buildTopologicalOrder graph (declareDependencies graph).edges true with
  | .ok order => order
  | .error _ => []

end Analyze

end NwbLot.TaskGraph
