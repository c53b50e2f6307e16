import NwbLot.TaskGraph.ResourceRanges

/-!
# Tracked texture states

`state_tracking.cpp` and `CommandList::setTextureState` of `state_tracking_barriers.cpp`: the states
a command list tracks for the subresources of its textures, and the image barriers of a transition.
-/

namespace NwbLot.Vulkan
namespace StateTracking

open TaskGraph

/-- The fields of a texture that the tracked states depend on. -/
structure Texture where
  desc : TextureDesc := {}
  initialState : ResourceStates := ResourceStates.unknown
  keepInitialState : Bool := false
  retainedSubresourceStates : List Bool := []
  deriving DecidableEq, Repr

/-- Whether the subresource is known to be back in the initial state. -/
def Texture.isRetainedSubresourceStateKnown (texture : Texture) (cell : Cell) : Bool :=
  if !texture.keepInitialState || texture.desc.arraySize.toNat ≤ cell.2
      || texture.desc.mipLevels.toNat ≤ cell.1 then false
  else
    (texture.retainedSubresourceStates[cell.2 * texture.desc.mipLevels.toNat + cell.1]?).getD false

/-- The subresources of a resolved range in the order of the loops: slice by slice. -/
def cells (subresources : TextureSubresourceSet) : List Cell :=
  let mipEnd := subresources.baseMipLevel + subresources.numMipLevels
  let arrayEnd := subresources.baseArraySlice + subresources.numArraySlices
  (List.range' subresources.baseArraySlice.toNat
      (arrayEnd.toNat - subresources.baseArraySlice.toNat)).flatMap fun arraySlice =>
    (List.range' subresources.baseMipLevel.toNat
      (mipEnd.toNat - subresources.baseMipLevel.toNat)).map fun mipLevel => (mipLevel, arraySlice)

/-! ## The tracker -/

/-- One mip level of one slice. -/
structure TextureSubresourceStateKey (TextureId : Type) where
  texture : TextureId
  cell : Cell
  deriving DecidableEq, Repr

/-- The states that a command list knows. -/
structure StateTracker (TextureId : Type) where
  permanentTextureStates : TextureId → Option ResourceStates := fun _ => none
  textureStates : TextureSubresourceStateKey TextureId → Option ResourceStates := fun _ => none
  textureUavBarriers : TextureId → Option Bool := fun _ => none

namespace StateTracker

variable {TextureId : Type} [DecidableEq TextureId]

/-- The texture has a permanent state. -/
def isPermanentTexture (tracker : StateTracker TextureId) (texture : TextureId) : Bool :=
  (tracker.permanentTextureStates texture).isSome

/-- The texture keeps this state for ever. -/
def setPermanentTextureState (tracker : StateTracker TextureId) (texture : TextureId)
    (state : ResourceStates) : StateTracker TextureId :=
  { tracker with
    permanentTextureStates := Function.update tracker.permanentTextureStates texture (some state) }

/-- `getResolvedTransientTextureState`, which never fails. -/
def getResolvedTransientTextureState (tracker : StateTracker TextureId)
    (textures : TextureId → Texture) (texture : TextureId) (cell : Cell) : ResourceStates :=
  match tracker.textureStates { texture, cell } with
  | some state => state
  | none =>
      if (textures texture).isRetainedSubresourceStateKnown cell then
        (textures texture).initialState
      else ResourceStates.unknown

/-- Barriers are on unless they were turned off. -/
def isUavBarrierEnabledForTexture (tracker : StateTracker TextureId) (texture : TextureId) : Bool :=
  (tracker.textureUavBarriers texture).getD true

/-- The subresources start in a state. -/
def beginTrackingResolvedTransientTexture (tracker : StateTracker TextureId) (texture : TextureId)
    (resolvedSubresources : TextureSubresourceSet) (state : ResourceStates) :
    StateTracker TextureId :=
  (cells resolvedSubresources).foldl
    (fun tracker cell =>
      { tracker with
        textureStates := Function.update tracker.textureStates { texture, cell } (some state) })
    tracker

end StateTracker

/-! ## The command list -/

/-- The arguments of `BuildTextureStateBarrier`, from which all fields of the barrier follow. -/
structure TextureStateBarrier (TextureId : Type) where
  texture : TextureId
  subresources : TextureSubresourceSet
  oldState : ResourceStates
  stateBits : ResourceStates
  deriving DecidableEq, Repr

/-- A command list with its barriers. -/
structure CommandList (TextureId : Type) where
  textures : TextureId → Texture
  stateTracker : StateTracker TextureId := {}
  enableAutomaticBarriers : Bool := true
  pendingImageBarriers : List (TextureStateBarrier TextureId) := []
  /-- The barriers of every pipeline barrier command recorded so far. -/
  pipelineBarriers : List (List (TextureStateBarrier TextureId)) := []

/-- `NeedsTextureStateBarrier`. -/
def needsTextureStateBarrier (oldState stateBits : ResourceStates) (uavBarrierEnabled : Bool) :
    Bool :=
  oldState != stateBits || (oldState == stateBits && uavBarrierEnabled)

section Barriers

variable {TextureId : Type} (texture : TextureId) (stateBits : ResourceStates)

/-- The barrier that `AppendTextureStateBarrier` appends. -/
def cellBarrier (cell : Cell) (oldState : ResourceStates) : TextureStateBarrier TextureId :=
  { texture
    subresources :=
      { baseMipLevel := UInt32.ofNat cell.1, numMipLevels := 1
        baseArraySlice := UInt32.ofNat cell.2, numArraySlices := 1 }
    oldState, stateBits }

/-- The subresources that `AppendTextureStateBarriersBefore` visits. -/
def cellsBefore (subresources : TextureSubresourceSet) (current : Cell) : List Cell :=
  let mipEnd := subresources.baseMipLevel + subresources.numMipLevels
  (List.range' subresources.baseArraySlice.toNat
      (current.2 + 1 - subresources.baseArraySlice.toNat)).flatMap fun arraySlice =>
    let previousMipEnd := if arraySlice = current.2 then current.1 else mipEnd.toNat
    (List.range' subresources.baseMipLevel.toNat
      (previousMipEnd - subresources.baseMipLevel.toNat)).map fun mipLevel => (mipLevel, arraySlice)

/-- The variables of the scan. -/
structure Scan (TextureId : Type) where
  oldState : ResourceStates := ResourceStates.unknown
  firstSubresource : Bool := true
  needsBarrier : Bool := false
  usePerSubresourceBarriers : Bool := false
  firstBarrierIndex : ℕ
  pendingImageBarriers : List (TextureStateBarrier TextureId)

variable (resolvedSubresources : TextureSubresourceSet) (uavBarrierEnabled : Bool)
  (stateOf : Cell → ResourceStates)

/-- The branches on the first subresource and on the first one in another state. -/
def Scan.compare (scan : Scan TextureId) (cell : Cell) : Scan TextureId :=
  if scan.firstSubresource then
    { scan with oldState := stateOf cell, firstSubresource := false }
  else if stateOf cell != scan.oldState && !scan.usePerSubresourceBarriers then
    { scan with
      usePerSubresourceBarriers := true
      firstBarrierIndex := scan.pendingImageBarriers.length
      pendingImageBarriers :=
        if needsTextureStateBarrier scan.oldState stateBits uavBarrierEnabled then
          scan.pendingImageBarriers ++ (cellsBefore resolvedSubresources cell).map fun before =>
            cellBarrier texture stateBits before scan.oldState
        else scan.pendingImageBarriers }
  else scan

/-- The barrier of the subresource itself. -/
def Scan.append (scan : Scan TextureId) (cell : Cell) : Scan TextureId :=
  if needsTextureStateBarrier (stateOf cell) stateBits uavBarrierEnabled then
    { scan with
      needsBarrier := true
      pendingImageBarriers :=
        if scan.usePerSubresourceBarriers then
          scan.pendingImageBarriers ++ [cellBarrier texture stateBits cell (stateOf cell)]
        else scan.pendingImageBarriers }
  else scan

/-- The body of the loops. -/
def Scan.visit (scan : Scan TextureId) (cell : Cell) : Scan TextureId :=
  (scan.compare texture stateBits resolvedSubresources uavBarrierEnabled stateOf cell).append
    texture stateBits uavBarrierEnabled stateOf cell

end Barriers

namespace CommandList

variable {TextureId : Type} [DecidableEq TextureId]

/-- The barriers are recorded. -/
def executePipelineBarrier (list : CommandList TextureId)
    (barriers : List (TextureStateBarrier TextureId)) : CommandList TextureId :=
  { list with pipelineBarriers := list.pipelineBarriers ++ [barriers] }

/-- The state of a subresource as `setTextureState` reads it. -/
def stateOf (list : CommandList TextureId) (texture : TextureId) (cell : Cell) : ResourceStates :=
  list.stateTracker.getResolvedTransientTextureState list.textures texture cell

/-- The state is unordered access, and barriers are on for the texture. -/
def uavBarrierEnabled (list : CommandList TextureId) (texture : TextureId)
    (stateBits : ResourceStates) : Bool :=
  ResourceStates.hasUnorderedAccess stateBits
    && list.stateTracker.isUavBarrierEnabledForTexture texture

/-- The barriers that the subresources need, one by one. -/
def scanTexture (list : CommandList TextureId) (texture : TextureId)
    (resolvedSubresources : TextureSubresourceSet) (stateBits : ResourceStates) : Scan TextureId :=
  (cells resolvedSubresources).foldl
    (Scan.visit texture stateBits resolvedSubresources (list.uavBarrierEnabled texture stateBits)
      (list.stateOf texture))
    { firstBarrierIndex := list.pendingImageBarriers.length
      pendingImageBarriers := list.pendingImageBarriers }

/-- `beginTrackingResolvedTransientTexture` of the tracker. -/
def track (list : CommandList TextureId) (texture : TextureId)
    (resolvedSubresources : TextureSubresourceSet) (stateBits : ResourceStates) :
    CommandList TextureId :=
  { list with
    stateTracker :=
      list.stateTracker.beginTrackingResolvedTransientTexture texture resolvedSubresources
        stateBits }

/-- What follows the scan. -/
def finishScan (list : CommandList TextureId) (texture : TextureId)
    (resolvedSubresources : TextureSubresourceSet) (stateBits : ResourceStates)
    (scan : Scan TextureId) : CommandList TextureId :=
  let scanned := { list with pendingImageBarriers := scan.pendingImageBarriers }
  if !scan.needsBarrier then scanned
  else
    let tracked := scanned.track texture resolvedSubresources stateBits
    if !scan.usePerSubresourceBarriers then
      let barrier : TextureStateBarrier TextureId :=
        { texture, subresources := resolvedSubresources, oldState := scan.oldState, stateBits }
      if !list.enableAutomaticBarriers then
        { tracked with pendingImageBarriers := tracked.pendingImageBarriers ++ [barrier] }
      else tracked.executePipelineBarrier [barrier]
    else if !list.enableAutomaticBarriers then tracked
    else
      let newBarriers := tracked.pendingImageBarriers.drop scan.firstBarrierIndex
      if newBarriers.length = 0 then tracked
      else
        { tracked.executePipelineBarrier newBarriers with
          pendingImageBarriers := tracked.pendingImageBarriers.take scan.firstBarrierIndex }

/-- `setTextureState` of a texture; `debug` for the builds that validate the range. -/
def setTextureState (debug : Bool) (list : CommandList TextureId) (texture : TextureId)
    (subresources : TextureSubresourceSet) (stateBits : ResourceStates) : CommandList TextureId :=
  if list.stateTracker.isPermanentTexture texture then list
  else
    let resolvedSubresources := subresources.resolve (list.textures texture).desc
    if debug && (resolvedSubresources.numMipLevels == 0 || resolvedSubresources.numArraySlices == 0)
    then list
    else
      list.finishScan texture resolvedSubresources stateBits
        (list.scanTexture texture resolvedSubresources stateBits)

end CommandList

end StateTracking
end NwbLot.Vulkan
