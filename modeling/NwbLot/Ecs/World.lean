import NwbLot.Ecs.ComponentPool

/-!
# The world

Entities and their components.  Next to the pools the world keeps, for every slot, an intrusive
list of the component types of its entity; the nodes of all the lists, and of the list of free
nodes, are entries of one table.
-/

namespace NwbLot.Ecs

/-- The index that ends a list of nodes. -/
def invalidEntityComponentNode : UInt32 := ~~~0

/-- A node names its pool by the pool's key in the pool map. -/
structure EntityComponentNode (TypeId : Type) where
  typeId : TypeId
  pool : TypeId
  next : UInt32
  deriving DecidableEq, Repr

/-- The entities, their component lists and the pools. -/
structure World {TypeId : Type} (Component : TypeId → Type) where
  entityManager : EntityManager := {}
  entityComponentHeads : List UInt32 := []
  entityComponentNodes : List (EntityComponentNode TypeId) := []
  freeEntityComponentNode : UInt32 := invalidEntityComponentNode
  pools : (typeId : TypeId) → Option (ComponentPool (Component typeId)) := fun _ => none

namespace World

variable {TypeId : Type} {Component : TypeId → Type}

/-- The entity is alive. -/
def alive (world : World Component) (entityId : EntityID) : Bool :=
  world.entityManager.alive entityId

/-- A new entity without components. -/
def createEntity (world : World Component) : EntityID × World Component :=
  let (entityId, entityManager) := world.entityManager.create
  (entityId, { world with entityManager := entityManager })

/-! ## The node table -/

/-- The assertion that the node exists is the `none` branch. -/
def releaseEntityComponentNode (world : World Component) (nodeIndex : UInt32) :
    Option (World Component) :=
  if nodeIndex.toNat < world.entityComponentNodes.length then
    some { world with
      entityComponentNodes := world.entityComponentNodes.modify nodeIndex.toNat
        fun node => { node with next := world.freeEntityComponentNode }
      freeEntityComponentNode := nodeIndex }
  else none

/-- The first free node gets a new entry. -/
def takeFreeNode (world : World Component) (nextFree : UInt32)
    (entry : EntityComponentNode TypeId) : World Component :=
  { world with
    freeEntityComponentNode := nextFree
    entityComponentNodes :=
      world.entityComponentNodes.set world.freeEntityComponentNode.toNat entry }

/-- One more node in the table. -/
def appendNode (world : World Component) (entry : EntityComponentNode TypeId) : World Component :=
  { world with entityComponentNodes := world.entityComponentNodes ++ [entry] }

/-- A free node is reused; the assertion that the table has room is the last branch. -/
def acquireEntityComponentNode (world : World Component) (typeId pool : TypeId)
    (nextNode : UInt32) : Option (UInt32 × World Component) :=
  let nodeIndex := world.freeEntityComponentNode
  if nodeIndex != invalidEntityComponentNode then
    match world.entityComponentNodes[nodeIndex.toNat]? with
    | none => none
    | some node => some (nodeIndex, world.takeFreeNode node.next ⟨typeId, pool, nextNode⟩)
  else if world.entityComponentNodes.length < 2 ^ 32 - 1 then
    some (UInt32.ofNat world.entityComponentNodes.length,
      world.appendNode ⟨typeId, pool, nextNode⟩)
  else none

/-- The entity has a head. -/
def ensureEntityComponentHead (world : World Component) (entityId : EntityID) : World Component :=
  let index := entityId.index.toNat
  if world.entityComponentHeads.length ≤ index then
    { world with
      entityComponentHeads := world.entityComponentHeads ++
        List.replicate (index + 1 - world.entityComponentHeads.length) invalidEntityComponentNode }
  else world

/-- What `nextNodeSlot` points to: the head of an entity's list or the link of a node. -/
inductive NextNodeSlot
  | head (index : ℕ)
  | link (nodeIndex : UInt32)

/-- The node that a slot names. -/
def readSlot (world : World Component) : NextNodeSlot → Option UInt32
  | .head index => world.entityComponentHeads[index]?
  | .link nodeIndex => world.entityComponentNodes[nodeIndex.toNat]?.map (·.next)

/-- The slot names another node. -/
def writeSlot (world : World Component) (value : UInt32) : NextNodeSlot → World Component
  | .head index =>
    { world with entityComponentHeads := world.entityComponentHeads.set index value }
  | .link nodeIndex =>
    { world with
      entityComponentNodes := world.entityComponentNodes.modify nodeIndex.toNat
        fun node => { node with next := value } }

section Types

variable [DecidableEq TypeId]

/-- The search of `addEntityComponentType` for a node of the type. -/
def findNodeOfType (world : World Component) (typeId : TypeId) : ℕ → UInt32 → Option Bool
  | fuel, nodeIndex =>
    if nodeIndex = invalidEntityComponentNode then some false
    else
      match fuel, world.entityComponentNodes[nodeIndex.toNat]? with
      | _, none => none
      | 0, _ => none
      | fuel + 1, some node =>
        if node.typeId = typeId then some true else world.findNodeOfType typeId fuel node.next

/-- The type joins the entity's list. -/
def addEntityComponentType (world : World Component) (entityId : EntityID)
    (typeId pool : TypeId) : Option (World Component) := do
  let world := world.ensureEntityComponentHead entityId
  let headNode ← world.entityComponentHeads[entityId.index.toNat]?
  if ← world.findNodeOfType typeId world.entityComponentNodes.length headNode then
    return world
  else
    let (nodeIndex, world) ← world.acquireEntityComponentNode typeId pool headNode
    return world.writeSlot nodeIndex (.head entityId.index.toNat)

/-- The loop of `removeEntityComponentType`. -/
def unlinkNodeOfType (world : World Component) (typeId : TypeId) :
    ℕ → NextNodeSlot → Option (World Component)
  | fuel, slot =>
    match world.readSlot slot with
    | none => none
    | some nodeIndex =>
      if nodeIndex = invalidEntityComponentNode then some world
      else
        match fuel, world.entityComponentNodes[nodeIndex.toNat]? with
        | _, none => none
        | 0, _ => none
        | fuel + 1, some node =>
          if node.typeId = typeId then
            (world.writeSlot node.next slot).releaseEntityComponentNode nodeIndex
          else world.unlinkNodeOfType typeId fuel (.link nodeIndex)

/-- The type leaves the entity's list. -/
def removeEntityComponentType (world : World Component) (entityId : EntityID) (typeId : TypeId) :
    Option (World Component) :=
  let index := entityId.index.toNat
  if world.entityComponentHeads.length ≤ index then some world
  else world.unlinkNodeOfType typeId world.entityComponentNodes.length (.head index)

/-! ## Components -/

/-- The pool of a type is replaced. -/
def setPool (world : World Component) (typeId : TypeId)
    (pool : ComponentPool (Component typeId)) : World Component :=
  { world with pools := Function.update world.pools typeId (some pool) }

/-- The component of an entity. -/
def tryGetComponent (world : World Component) (typeId : TypeId) (entityId : EntityID) :
    Option (Component typeId) :=
  match world.pools typeId with
  | none => none
  | some pool => pool.tryGet entityId

/-- The entity has a component of the type. -/
def hasComponent (world : World Component) (typeId : TypeId) (entityId : EntityID) : Bool :=
  match world.pools typeId with
  | none => false
  | some pool => pool.has entityId

/-- A missing pool is created first; the assertion that the entity is alive is the `none` branch.
An entity that has the component keeps it. -/
def addComponent (world : World Component) (entityId : EntityID) (typeId : TypeId)
    (component : Component typeId) : Option (World Component) :=
  if world.alive entityId then
    let pool := (world.pools typeId).getD {}
    let world := world.setPool typeId pool
    match pool.tryGet entityId with
    | some _ => some world
    | none =>
      (world.setPool typeId (pool.add entityId component)).addEntityComponentType entityId typeId
        typeId
  else none

/-- The component goes, with its node. -/
def removeComponent (world : World Component) (entityId : EntityID) (typeId : TypeId) :
    Option (World Component) :=
  if world.alive entityId then
    match world.pools typeId with
    | none => some world
    | some pool =>
      match pool.remove entityId with
      | (false, _) => some world
      | (true, pool) => (world.setPool typeId pool).removeEntityComponentType entityId typeId
  else some world

/-! ## Destroying an entity -/

/-- `node.pool->remove(entityId)` -/
def removeFromPool (world : World Component) (entityId : EntityID) (pool : TypeId) :
    Option (World Component) :=
  (world.pools pool).map fun components => world.setPool pool (components.remove entityId).2

/-- The loop of `destroyEntityComponents`. -/
def destroyNodes (world : World Component) (entityId : EntityID) :
    ℕ → UInt32 → Option (World Component)
  | fuel, nodeIndex =>
    if nodeIndex = invalidEntityComponentNode then some world
    else
      match fuel, world.entityComponentNodes[nodeIndex.toNat]? with
      | _, none => none
      | 0, _ => none
      | fuel + 1, some node => do
        let world ← world.removeFromPool entityId node.pool
        let world ← world.releaseEntityComponentNode nodeIndex
        world.destroyNodes entityId fuel node.next

/-- Every component of the entity goes. -/
def destroyEntityComponents (world : World Component) (entityId : EntityID) :
    Option (World Component) :=
  match world.entityComponentHeads[entityId.index.toNat]? with
  | none => some world
  | some nodeIndex =>
    { world with
      entityComponentHeads :=
        world.entityComponentHeads.set entityId.index.toNat invalidEntityComponentNode }.destroyNodes
      entityId world.entityComponentNodes.length nodeIndex

/-- The entity goes, with its components. -/
def destroyEntity (world : World Component) (entityId : EntityID) : Option (World Component) :=
  if world.alive entityId then
    (world.destroyEntityComponents entityId).map fun world =>
      { world with entityManager := world.entityManager.destroyAlive entityId }
  else some world

/-- Systems and messages aside, a cleared world is a new one. -/
def clear (_ : World Component) : World Component := {}

/-- A call of a client. -/
inductive Call (Component : TypeId → Type)
  | createEntity
  | destroyEntity (entityId : EntityID)
  | addComponent (entityId : EntityID) (typeId : TypeId) (component : Component typeId)
  | removeComponent (entityId : EntityID) (typeId : TypeId)
  | clear

/-- The world after a call. -/
def step (world : World Component) : Call Component → Option (World Component)
  | .createEntity => some world.createEntity.2
  | .destroyEntity entityId => world.destroyEntity entityId
  | .addComponent entityId typeId component => world.addComponent entityId typeId component
  | .removeComponent entityId typeId => world.removeComponent entityId typeId
  | .clear => some world.clear

end Types
end World
end NwbLot.Ecs
