import NwbLot.Ecs.View

/-!
# What a view enumerates

Looking an entity up in every listed pool does not depend on the anchor: the anchor's own place is
what a search in its pool would find.  So every enumeration is the look-up of the anchor's entities
in turn, and another anchor only changes the order.
-/

namespace NwbLot.Ecs

/-! ## Chunks -/

namespace ThreadPool

lemma flatten_chunks (chunkSize remainder n : ℕ) :
    ((List.range n).map (chunk chunkSize remainder)).flatten
      = List.range (n * chunkSize + min n remainder) := by
  induction n with
  | zero => simp
  | succ n ih =>
    rw [List.range_succ, List.map_append, List.flatten_append, ih, List.map_singleton,
      List.flatten_singleton, chunk, List.range_eq_range', List.range_eq_range']
    by_cases hlt : n < remainder
    · have hbegin : n * chunkSize + min n remainder = n * chunkSize + n := by omega
      have hsum : (n + 1) * chunkSize + min (n + 1) remainder
          = n * chunkSize + n + (chunkSize + 1) := by
        rw [Nat.succ_mul]
        omega
      have hjoin : List.range' 0 (n * chunkSize + n)
          ++ List.range' (0 + (n * chunkSize + n)) (chunkSize + 1)
          = List.range' 0 (n * chunkSize + n + (chunkSize + 1)) := List.range'_append_1
      rw [if_pos hlt, if_pos hlt, hbegin, hsum, ← hjoin, Nat.zero_add]
    · have hbegin : n * chunkSize + min n remainder = n * chunkSize + remainder := by omega
      have hsum : (n + 1) * chunkSize + min (n + 1) remainder
          = n * chunkSize + remainder + (chunkSize + 0) := by
        rw [Nat.succ_mul]
        omega
      have hjoin : List.range' 0 (n * chunkSize + remainder)
          ++ List.range' (0 + (n * chunkSize + remainder)) (chunkSize + 0)
          = List.range' 0 (n * chunkSize + remainder + (chunkSize + 0)) := List.range'_append_1
      rw [if_neg hlt, if_neg hlt, hbegin, hsum, ← hjoin, Nat.zero_add]

lemma flatten_runParallelForChunks (count numChunks : ℕ) :
    (runParallelForChunks count numChunks).flatten = List.range count := by
  rw [runParallelForChunks]
  split
  · simp
  · have hmod := Nat.mod_lt count (show 0 < numChunks by omega)
    rw [flatten_chunks, Nat.min_eq_right hmod.le, Nat.div_add_mod]

/-- A parallel loop visits every index once. -/
theorem flatten_parallelFor (threadCount : ℕ) (nested : Bool) (grainSize : Option ℕ) (count : ℕ) :
    (parallelFor threadCount nested grainSize count).flatten = List.range count := by
  unfold parallelFor
  split
  · next hzero => simp [hzero]
  · split
    · split
      · simp
      · exact flatten_runParallelForChunks _ _
    · next size =>
        generalize (if 0 < size then size else 1) = effectiveGrainSize
        dsimp only
        split
        · simp
        · exact flatten_runParallelForChunks _ _

end ThreadPool

namespace View

open Runs

variable {TypeId : Type} {Component : TypeId → Type} {world : World Component}

/-! ## Looking an entity up -/

/-- Every pool keeps its sparse and dense arrays inverse. -/
def InversePools (world : World Component) : Prop :=
  ∀ typeId pool, world.pools typeId = some pool → pool.Inverse

/-- The place of an entity's component of one type. -/
def locate (world : World Component) (entityId : EntityID) (typeId : TypeId) :
    Option (TypeId × UInt32) :=
  ((world.pools typeId).bind (·.findDenseIndex entityId)).map (typeId, ·)

/-- The visit of an entity that has all listed components. -/
def lookup (world : World Component) (types : List TypeId) (entityId : EntityID) :
    Option (Visit TypeId) :=
  (types.mapM (locate world entityId)).map fun references => { entity := entityId, references }

/-- A reference leads to the entity's own component. -/
def OwnComponent (world : World Component) (entityId : EntityID)
    (reference : TypeId × UInt32) : Prop :=
  ∃ pool component, world.pools reference.1 = some pool
    ∧ pool.dense[reference.2.toNat]? = some entityId
    ∧ pool.components[reference.2.toNat]? = some component
    ∧ world.tryGetComponent reference.1 entityId = some component

variable {entityId : EntityID}

lemma ownComponent_of_locate (h : InversePools world) {typeId : TypeId}
    {reference : TypeId × UInt32} (hlocate : locate world entityId typeId = some reference) :
    reference.1 = typeId ∧ OwnComponent world entityId reference := by
  obtain ⟨denseIndex, hfind, rfl⟩ := Option.map_eq_some_iff.1 hlocate
  obtain ⟨pool, hpool, hfind⟩ := Option.bind_eq_some_iff.1 hfind
  have hinverse := h typeId pool hpool
  have hdense := hinverse.findDenseIndex_eq_some.1 hfind
  have hlt : denseIndex.toNat < pool.components.length := by
    rw [hinverse.paired]
    exact (List.getElem?_eq_some_iff.1 hdense).1
  refine ⟨rfl, pool, pool.components[denseIndex.toNat], hpool, hdense,
    List.getElem?_eq_getElem hlt, ?_⟩
  rw [World.tryGetComponent, hpool]
  exact hinverse.tryGet_eq_some.2 ⟨_, hdense, List.getElem?_eq_getElem hlt⟩

lemma locate_isSome {typeId : TypeId} :
    (locate world entityId typeId).isSome = world.hasComponent typeId entityId := by
  unfold locate World.hasComponent ComponentPool.has
  cases world.pools typeId <;> simp

lemma mapM_isSome {α β : Type*} {f : α → Option β} {xs : List α} :
    (xs.mapM f).isSome = true ↔ ∀ x ∈ xs, (f x).isSome = true := by
  induction xs with
  | nil => simp
  | cons x rest ih =>
    rw [List.mapM_cons, List.forall_mem_cons, ← ih]
    cases f x with
    | none => simp
    | some y => cases rest.mapM f <;> simp

variable {types : List TypeId}

lemma lookup_isSome :
    (lookup world types entityId).isSome = true
      ↔ ∀ typeId ∈ types, world.hasComponent typeId entityId = true := by
  rw [lookup, Option.isSome_map, mapM_isSome]
  simp only [locate_isSome]

/-- A visit shows the entity and, for every listed type, its own component. -/
lemma lookup_spec (h : InversePools world) {visit : Visit TypeId}
    (hlookup : lookup world types entityId = some visit) :
    visit.entity = entityId ∧ visit.references.map (·.1) = types
      ∧ ∀ reference ∈ visit.references, OwnComponent world entityId reference := by
  obtain ⟨references, hreferences, rfl⟩ := Option.map_eq_some_iff.1 hlookup
  refine ⟨rfl, ?_, fun reference hmem => ?_⟩
  · have hmap := OptionList.mapM_eq_some_iff.1 hreferences
    refine List.map_injective_iff.2 (Option.some_injective TypeId) ?_
    rw [List.map_map]
    have hfirst : ∀ (xs : List TypeId) (ys : List (TypeId × UInt32)),
        xs.map (locate world entityId) = ys.map some →
          ys.map (some ∘ (·.1)) = xs.map some := by
      intro xs ys hxy
      induction xs generalizing ys with
      | nil =>
        rw [List.map_nil, eq_comm, List.map_eq_nil_iff] at hxy
        simp [hxy]
      | cons x rest ih =>
        cases ys with
        | nil => simp at hxy
        | cons y more =>
          simp only [List.map_cons, List.cons.injEq] at hxy ⊢
          exact ⟨congrArg some (ownComponent_of_locate h hxy.1).1, ih more hxy.2⟩
    exact hfirst types references hmap
  · obtain ⟨typeId, -, hlocate⟩ := OptionList.exists_of_mem_mapM hreferences hmem
    exact (ownComponent_of_locate h hlocate).2

/-! ## Anchors -/

/-- A view whose listed pools exist, anchored at one of them. -/
structure Anchored (world : World Component) (view : View TypeId) : Prop where
  valid : view.valid = true
  anchor : ∃ typeId pool, view.types[view.anchorPoolIndex]? = some typeId
    ∧ world.pools typeId = some pool ∧ view.anchorEntities = pool.dense
    ∧ view.count = pool.dense.length

/-- A view with a missing pool. -/
structure Missing (world : World Component) (view : View TypeId) : Prop where
  invalid : view.valid = false
  count_eq : view.count = 0
  missing : ∃ typeId ∈ view.types, world.pools typeId = none

/-- What the scan for the anchor has found among the pools so far. -/
def ScannedAnchor (world : World Component) (types : List TypeId) (scanned : List (TypeId × ℕ))
    (view : View TypeId) : Prop :=
  view.types = types ∧
    ((view.valid = false ∧ ∃ pool ∈ scanned, world.pools pool.1 = none) ∨
      (view.valid = true ∧
        ((scanned = [] ∧ view.count = 2 ^ 64 - 1) ∨
          ∃ pool ∈ scanned, pool.2 = view.anchorPoolIndex ∧
            ∃ components, world.pools pool.1 = some components
              ∧ view.anchorEntities = components.dense
              ∧ view.count = components.dense.length)))

lemma scannedAnchor (h : InversePools world) (types : List TypeId)
    (scanned : List (TypeId × ℕ)) :
    ScannedAnchor world types scanned (scanned.foldl (updateAnchor world)
      { types, count := 2 ^ 64 - 1, valid := true }) := by
  induction scanned using List.reverseRecOn with
  | nil => exact ⟨rfl, Or.inr ⟨rfl, Or.inl ⟨rfl, rfl⟩⟩⟩
  | append_singleton scanned pool ih =>
    rw [List.foldl_append]
    generalize scanned.foldl (updateAnchor world)
      { types, count := 2 ^ 64 - 1, valid := true } = view at ih
    obtain ⟨htypes, hscan⟩ := ih
    have hwiden : ∀ {p}, p ∈ scanned → p ∈ scanned ++ [pool] := fun hp =>
      List.mem_append_left _ hp
    simp only [List.foldl_cons, List.foldl_nil, updateAnchor]
    cases hpool : world.pools pool.1 with
    | none => exact ⟨htypes, Or.inl ⟨rfl, pool, by simp, hpool⟩⟩
    | some components =>
      have hsmall : components.dense.length < 2 ^ 64 - 1 := by
        have := (h _ _ hpool).dense_length_le
        have := (h _ _ hpool).bounded
        omega
      dsimp only
      split
      · refine ⟨htypes, ?_⟩
        rcases hscan with ⟨hinvalid, other, hother, hmissing⟩ | ⟨hvalid, -⟩
        · exact Or.inl ⟨hinvalid, other, hwiden hother, hmissing⟩
        · exact Or.inr ⟨hvalid, Or.inr ⟨pool, by simp, rfl, components, hpool, rfl, rfl⟩⟩
      · next hlarge =>
          refine ⟨htypes, ?_⟩
          rcases hscan with ⟨hinvalid, other, hother, hmissing⟩ | ⟨hvalid, hempty | hfound⟩
          · exact Or.inl ⟨hinvalid, other, hwiden hother, hmissing⟩
          · exact absurd (hempty.2 ▸ hsmall) hlarge
          · obtain ⟨other, hother, hrest⟩ := hfound
            exact Or.inr ⟨hvalid, Or.inr ⟨other, hwiden hother, hrest⟩⟩

/-- A new view is anchored at one of its pools, or misses one. -/
lemma initializeAnchor_cases (h : InversePools world) (htypes : types ≠ []) :
    (initializeAnchor world types).types = types
      ∧ (Anchored world (initializeAnchor world types)
        ∨ Missing world (initializeAnchor world types)) := by
  have hscan := scannedAnchor h types types.zipIdx
  rw [initializeAnchor]
  generalize types.zipIdx.foldl (updateAnchor world)
    { types, count := 2 ^ 64 - 1, valid := true } = view at hscan
  obtain ⟨hsame, ⟨hinvalid, pool, hpool, hmissing⟩ | ⟨hvalid, ⟨hempty, -⟩ | hfound⟩⟩ := hscan
  · simp only [hinvalid, Bool.false_eq_true, if_false]
    exact ⟨hsame, Or.inr ⟨rfl, rfl, pool.1, hsame ▸ List.fst_mem_of_mem_zipIdx hpool, hmissing⟩⟩
  · exact absurd (List.zipIdx_eq_nil_iff.1 hempty) htypes
  · simp only [hvalid, if_true]
    obtain ⟨pool, hpool, hindex, components, hcomponents, hentities, hcount⟩ := hfound
    refine ⟨hsame, Or.inl ⟨hvalid, pool.1, components, ?_, hcomponents, hentities, hcount⟩⟩
    rw [hsame, ← hindex]
    exact List.mem_zipIdx_iff_getElem?.1 hpool

/-! ## Enumerations of an anchored view -/

lemma mapM_zipIdx {α β : Type*} {f : α × ℕ → Option β} {g : α → Option β} {xs : List α} {n : ℕ}
    (h : ∀ p ∈ xs.zipIdx n, f p = g p.1) : (xs.zipIdx n).mapM f = xs.mapM g := by
  induction xs generalizing n with
  | nil => rfl
  | cons x rest ih =>
    rw [List.zipIdx_cons, List.mapM_cons, List.mapM_cons, h (x, n) List.mem_cons_self,
      ih fun p hp => h p (List.mem_cons_of_mem _ hp)]

/-- The look-ups from an index on. -/
def rest (world : World Component) (view : View TypeId) (i : ℕ) : List (Visit TypeId) :=
  (view.anchorEntities.drop i).filterMap (lookup world view.types)

/-- An iterator at the first entity from an index on that has all components, or at the end. -/
def StopsAt (world : World Component) (view : View TypeId) (i : ℕ) (iterator : ViewIterator) :
    Prop :=
  i ≤ iterator.index ∧
    ((iterator.index = view.count ∧ rest world view i = []) ∨
      (iterator.index < view.count
        ∧ rest world view i = view.deref iterator :: rest world view (iterator.index + 1)))

namespace Anchored

variable {view : View TypeId} (hview : Anchored world view) (h : InversePools world)
include hview h

variable {i : ℕ} {entityId : EntityID}

/-- The anchor's own place is what the search in its pool finds. -/
lemma findDenseIndex_eq (hentity : view.entityAt i = some entityId) {pool : TypeId × ℕ}
    (hpool : pool ∈ view.types.zipIdx) :
    view.findDenseIndex world pool i entityId
      = (world.pools pool.1).bind (·.findDenseIndex entityId) := by
  rw [findDenseIndex]
  split
  · next hanchor =>
      obtain ⟨typeId, components, htype, hcomponents, hentities, -⟩ := hview.anchor
      have hsame : pool.1 = typeId := by
        have := List.mem_zipIdx_iff_getElem?.1 hpool
        rw [hanchor, htype] at this
        exact (Option.some.inj this).symm
      have hinverse := h typeId components hcomponents
      rw [entityAt, hentities] at hentity
      have hlt := (List.getElem?_eq_some_iff.1 hentity).1
      have hindex : (UInt32.ofNat i).toNat = i := by
        have := hinverse.dense_length_le
        have := hinverse.bounded
        exact UInt32.toNat_ofNat_of_lt' (by simp [UInt32.size]; omega)
      rw [hsame, hcomponents, Option.bind_some, eq_comm, hinverse.findDenseIndex_eq_some, hindex]
      exact hentity
  · rfl

lemma resolveDenseIndices_eq (hentity : view.entityAt i = some entityId) :
    view.resolveDenseIndices world entityId i = view.types.mapM (locate world entityId) := by
  refine mapM_zipIdx fun pool hpool => ?_
  rw [hview.findDenseIndex_eq h hentity hpool]
  rfl

lemma applyFunc_eq (hentity : view.entityAt i = some entityId) :
    view.applyFunc world i = some (lookup world view.types entityId) := by
  have hresolve := hview.resolveDenseIndices_eq h hentity
  rw [applyFunc, hentity, Option.bind_eq_bind, Option.bind_some]
  split
  · next typeId htypes =>
      have hpool : (typeId, 0) ∈ view.types.zipIdx := by simp [htypes]
      obtain ⟨anchorType, pool, hanchor, -⟩ := hview.anchor
      have hzero : view.anchorPoolIndex = 0 := by
        have := (List.getElem?_eq_some_iff.1 hanchor).1
        rw [htypes, List.length_singleton] at this
        omega
      have hfind := hview.findDenseIndex_eq h hentity hpool
      rw [findDenseIndex, hzero, if_pos rfl] at hfind
      simp [lookup, htypes, locate, ← hfind]
  · rw [hresolve]
    rfl

omit h in
lemma entityAt_of_lt (hi : i < view.count) :
    ∃ entityId, view.entityAt i = some entityId := by
  obtain ⟨typeId, pool, -, -, hentities, hcount⟩ := hview.anchor
  rw [hcount] at hi
  exact ⟨pool.dense[i], by rw [entityAt, hentities]; exact List.getElem?_eq_getElem hi⟩

/-- The calls for a list of indices are the look-ups of the entities there. -/
lemma applyAll_eq {order : List ℕ} (horder : ∀ i ∈ order, i < view.count) :
    view.applyAll world order
      = some (order.filterMap fun i =>
          view.anchorEntities[i]?.bind (lookup world view.types)) := by
  rw [applyAll, if_pos hview.valid]
  induction order with
  | nil => rfl
  | cons i rest ih =>
    obtain ⟨entityId, hentity⟩ := hview.entityAt_of_lt (horder i List.mem_cons_self)
    have hrest := ih fun j hj => horder j (List.mem_cons_of_mem i hj)
    obtain ⟨visits, hvisits, hfilter⟩ := Option.map_eq_some_iff.1 hrest
    rw [List.mapM_cons, hview.applyFunc_eq h hentity, hvisits]
    rw [entityAt] at hentity
    cases hlookup : lookup world view.types entityId with
    | none => simpa [hentity, hlookup] using hfilter
    | some visit => simpa [hentity, hlookup] using hfilter

lemma each_eq :
    view.each world = some (view.anchorEntities.filterMap (lookup world view.types)) := by
  obtain ⟨typeId, pool, -, -, hentities, hcount⟩ := hview.anchor
  rw [each, hview.applyAll_eq h (fun i hi => List.mem_range.1 hi), hcount, ← hentities]
  congr 1
  have hread : ∀ xs : List EntityID,
      (List.range xs.length).filterMap (fun i => xs[i]?.bind (lookup world view.types))
        = xs.filterMap (lookup world view.types) := by
    intro xs
    induction xs using List.reverseRecOn with
    | nil => rfl
    | append_singleton xs x ih =>
      rw [List.length_append, List.length_singleton, List.range_succ, List.filterMap_append,
        List.filterMap_append, ← ih]
      congr 1
      · refine List.filterMap_congr fun i hi => ?_
        rw [List.getElem?_append_left (List.mem_range.1 hi)]
      · simp only [List.filterMap_cons, List.filterMap_nil, List.getElem?_concat_length,
          Option.bind_some]
  exact hread view.anchorEntities

omit h in
lemma rest_count : rest world view view.count = [] := by
  obtain ⟨typeId, pool, -, -, hentities, hcount⟩ := hview.anchor
  rw [rest, hentities, hcount, List.drop_length, List.filterMap_nil]

omit hview h in
lemma rest_of_entityAt (world : World Component) (hentity : view.entityAt i = some entityId) :
    rest world view i
      = (lookup world view.types entityId).toList ++ rest world view (i + 1) := by
  obtain ⟨hlt, hget⟩ := List.getElem?_eq_some_iff.1 hentity
  rw [rest, List.drop_eq_getElem_cons hlt, hget, List.filterMap_cons]
  cases lookup world view.types entityId <;> rfl

lemma skipMissing_stopsAt (fuel : ℕ) (iterator : ViewIterator)
    (hindex : iterator.index ≤ view.count)
    (hfuel : view.count - iterator.index ≤ fuel) :
    ∃ stopped, view.skipMissing world fuel iterator = some stopped
      ∧ StopsAt world view iterator.index stopped := by
  induction fuel generalizing iterator with
  | zero =>
    have hend : iterator.index = view.count := by omega
    refine ⟨{ iterator with entity := entityIdInvalid }, ?_, le_rfl, Or.inl ⟨hend, ?_⟩⟩
    · rw [skipMissing, if_neg (by omega)]
    · rw [hend, hview.rest_count]
  | succ fuel ih =>
    rw [skipMissing]
    split
    · next hlt =>
        obtain ⟨entityId, hentity⟩ := hview.entityAt_of_lt hlt
        have hresolve := hview.resolveDenseIndices_eq h hentity
        have hrest := rest_of_entityAt world hentity
        rw [hentity, Option.bind_eq_bind, Option.bind_some, hresolve]
        rw [lookup] at hrest
        cases hreferences : view.types.mapM (locate world entityId) with
        | some references =>
          rw [hreferences] at hrest
          refine ⟨_, rfl, le_rfl, Or.inr ⟨hlt, ?_⟩⟩
          have hlookup : lookup world view.types entityId
              = some { entity := entityId, references } := by
            rw [lookup, hreferences, Option.map_some]
          obtain ⟨-, htypes, -⟩ := lookup_spec h hlookup
          rw [hrest, deref, ← List.zip_of_prod htypes rfl]
          rfl
        | none =>
          rw [hreferences] at hrest
          obtain ⟨stopped, hskip, hle, hstop⟩ :=
            ih { iterator with index := iterator.index + 1 } hlt (by simp only; omega)
          refine ⟨stopped, hskip, by simp only at hle; omega, ?_⟩
          rw [hrest]
          exact hstop
    · have hend : iterator.index = view.count := by omega
      refine ⟨_, rfl, le_rfl, Or.inl ⟨hend, ?_⟩⟩
      rw [hend, hview.rest_count]

lemma skipInvalid_stopsAt (fuel : ℕ) (iterator : ViewIterator)
    (hindex : iterator.index ≤ view.count)
    (hfuel : view.count - iterator.index ≤ fuel) :
    ∃ stopped, view.skipInvalid world fuel iterator = some stopped
      ∧ StopsAt world view iterator.index stopped := by
  unfold skipInvalid
  split
  · next typeId htypes =>
      split
      · next hlt =>
          obtain ⟨entityId, hentity⟩ := hview.entityAt_of_lt hlt
          have happly := hview.applyFunc_eq h hentity
          rw [applyFunc, hentity, htypes] at happly
          rw [hentity]
          refine ⟨_, rfl, le_rfl, Or.inr ⟨hlt, ?_⟩⟩
          rw [rest_of_entityAt world hentity, htypes, ← Option.some.inj happly, deref, htypes]
          rfl
      · have hend : iterator.index = view.count := by omega
        refine ⟨_, rfl, le_rfl, Or.inl ⟨hend, ?_⟩⟩
        rw [hend, hview.rest_count]
  · exact hview.skipMissing_stopsAt h fuel iterator hindex hfuel

lemma iterateFrom_eq {fuel : ℕ} {iterator : ViewIterator} (hstop : StopsAt world view i iterator)
    (hfuel : view.count - iterator.index ≤ fuel) :
    view.iterateFrom world fuel iterator = some (rest world view i) := by
  induction fuel generalizing i iterator with
  | zero =>
    obtain ⟨-, ⟨hend, hrest⟩ | ⟨hlt, -⟩⟩ := hstop
    · rw [iterateFrom, if_pos hend, hrest]
    · omega
  | succ fuel ih =>
    obtain ⟨-, ⟨hend, hrest⟩ | ⟨hlt, hrest⟩⟩ := hstop
    · rw [iterateFrom, if_pos hend, hrest]
    · obtain ⟨following, hnext, hfollowing⟩ := hview.skipInvalid_stopsAt h
        view.count { iterator with index := iterator.index + 1 } hlt (by simp only; omega)
      have hle := hfollowing.1
      rw [iterateFrom, if_neg (by omega), next, hnext, Option.bind_eq_bind, Option.bind_some,
        ih hfollowing (by simp only at hle; omega), hrest]
      rfl

lemma iterate_eq :
    view.iterate world = some (view.anchorEntities.filterMap (lookup world view.types)) := by
  obtain ⟨iterator, hfirst, hstop⟩ := hview.skipInvalid_stopsAt h view.count { index := 0 }
    (Nat.zero_le _) (by simp only; omega)
  rw [iterate, first, if_pos hview.valid, hfirst, Option.bind_eq_bind, Option.bind_some,
    hview.iterateFrom_eq h hstop (by omega)]
  rfl

end Anchored

/-! ## Every enumeration of every view -/

/-- A view of the listed types: the one the world gives, or one with another of the pools as its
anchor. -/
def ViewOf (world : World Component) (types : List TypeId) (view : View TypeId) : Prop :=
  view = initializeAnchor world types ∨ view.types = types ∧ Anchored world view

/-- Visits of exactly the entities with all listed components, each once, with references to its
own components. -/
structure Enumerates (world : World Component) (types : List TypeId)
    (visits : List (Visit TypeId)) : Prop where
  once : (visits.map (·.entity)).Nodup
  complete : ∀ entityId, entityId ∈ visits.map (·.entity)
    ↔ ∀ typeId ∈ types, world.hasComponent typeId entityId = true
  listed : ∀ visit ∈ visits, visit.references.map (·.1) = types
  own : ∀ visit ∈ visits, ∀ reference ∈ visit.references,
    OwnComponent world visit.entity reference

/-- The visits are the look-ups that succeed. -/
def Visits (world : World Component) (types : List TypeId) (visits : List (Visit TypeId)) : Prop :=
  (visits.map (·.entity)).Nodup
    ∧ ∀ visit, visit ∈ visits ↔ lookup world types visit.entity = some visit

lemma Visits.perm {visits visits' : List (Visit TypeId)} (h : Visits world types visits)
    (h' : Visits world types visits') : visits.Perm visits' :=
  (List.perm_ext_iff_of_nodup h.1.of_map h'.1.of_map).2 fun visit =>
    (h.2 visit).trans (h'.2 visit).symm

lemma Visits.enumerates {visits : List (Visit TypeId)} (hvisits : Visits world types visits)
    (h : InversePools world) :
    Enumerates world types visits where
  once := hvisits.1
  complete entityId := by
    rw [← lookup_isSome]
    constructor
    · intro hmem
      obtain ⟨visit, hvisit, rfl⟩ := List.mem_map.1 hmem
      rw [(hvisits.2 visit).1 hvisit]
      rfl
    · intro hsome
      obtain ⟨visit, hlookup⟩ := Option.isSome_iff_exists.1 hsome
      have hentity := (lookup_spec h hlookup).1
      exact List.mem_map.2 ⟨visit, (hvisits.2 visit).2 (hentity ▸ hlookup), hentity⟩
  listed visit hvisit := (lookup_spec h ((hvisits.2 visit).1 hvisit)).2.1
  own visit hvisit := (lookup_spec h ((hvisits.2 visit).1 hvisit)).2.2

variable {view : View TypeId}

/-- The look-ups of the entities of one listed pool. -/
lemma visits_of_anchor (h : InversePools world) (hview : Anchored world view) :
    Visits world view.types (view.anchorEntities.filterMap (lookup world view.types)) := by
  obtain ⟨typeId, pool, htype, hpool, hentities, -⟩ := hview.anchor
  have hinverse := h typeId pool hpool
  have hnodup : view.anchorEntities.Nodup := by
    rw [hentities]
    refine List.nodup_iff_getElem?_ne_getElem?.2 fun d d' hlt hd' heq => ?_
    have hget := List.getElem?_eq_getElem hd'
    have := hinverse.dense_inj (heq.trans hget) hget rfl
    omega
  constructor
  · have hsub : ∀ xs : List EntityID,
        ((xs.filterMap (lookup world view.types)).map (·.entity)).Sublist xs := by
      intro xs
      induction xs with
      | nil => exact .slnil
      | cons entityId rest ih =>
        rw [List.filterMap_cons]
        cases hlookup : lookup world view.types entityId with
        | none => exact ih.cons _
        | some visit =>
          dsimp only
          rw [List.map_cons, (lookup_spec h hlookup).1]
          exact ih.cons_cons _
    exact hnodup.sublist (hsub _)
  · intro visit
    rw [List.mem_filterMap]
    constructor
    · rintro ⟨entityId, -, hlookup⟩
      rwa [(lookup_spec h hlookup).1]
    · intro hlookup
      refine ⟨visit.entity, ?_, hlookup⟩
      have hhas := lookup_isSome.1 (Option.isSome_iff_exists.2 ⟨visit, hlookup⟩) typeId
        (List.mem_of_getElem? htype)
      rw [World.hasComponent, hpool] at hhas
      rw [hentities]
      exact hinverse.has_iff.1 hhas

lemma visits_of_missing (hview : Missing world view) : Visits world view.types [] := by
  refine ⟨List.nodup_nil, fun visit => ⟨by simp, fun hlookup => ?_⟩⟩
  obtain ⟨typeId, hmem, hpool⟩ := hview.missing
  have hhas := lookup_isSome.1 (Option.isSome_iff_exists.2 ⟨visit, hlookup⟩) typeId hmem
  rw [World.hasComponent, hpool] at hhas
  exact absurd hhas (by simp)

lemma enumerations_of_missing (hview : Missing world view) (order : List ℕ) :
    view.each world = some [] ∧ view.iterate world = some []
      ∧ view.parallelEach world order = some [] := by
  have hinvalid : ¬ view.valid = true := by simp [hview.invalid]
  have hall : ∀ indices, view.applyAll world indices = some [] := fun indices => by
    rw [applyAll, if_neg hinvalid]
  refine ⟨hall _, ?_, hall order⟩
  rw [iterate, first, if_neg hinvalid, Option.bind_eq_bind, Option.bind_some]
  unfold iterateFrom
  rw [if_pos rfl]

lemma Anchored.parallelEach_perm (hview : Anchored world view) (h : InversePools world)
    {order : List ℕ} (horder : order.Perm (List.range view.count)) :
    ∃ visits, view.parallelEach world order = some visits
      ∧ visits.Perm (view.anchorEntities.filterMap (lookup world view.types)) := by
  have hall : ∀ i ∈ order, i < view.count := fun i hi => List.mem_range.1 (horder.mem_iff.1 hi)
  refine ⟨_, hview.applyAll_eq h hall, ?_⟩
  have heach := hview.each_eq h
  rw [each, hview.applyAll_eq h (fun i hi => List.mem_range.1 hi)] at heach
  rw [← Option.some.inj heach]
  exact horder.filterMap _

/-- Whichever pool is the anchor and however the loop is cut into chunks, every enumeration visits
exactly the entities with all listed components, once each. -/
def EnumerationsAgree (world : World Component) (types : List TypeId) : Prop :=
  ∃ visits, Enumerates world types visits ∧ ∀ view, ViewOf world types view →
    (∃ visited, view.each world = some visited ∧ view.iterate world = some visited
      ∧ visited.Perm visits)
    ∧ ∀ threadCount nested grainSize order,
        ThreadPool.Order (ThreadPool.parallelFor threadCount nested grainSize view.count) order →
          ∃ visited, view.parallelEach world order = some visited ∧ visited.Perm visits

lemma enumerationsAgree_of_inverse (h : InversePools world) (htypes : types ≠ []) :
    EnumerationsAgree world types := by
  have hcases : ∀ view, ViewOf world types view →
      view.types = types ∧ (Anchored world view ∨ Missing world view) := by
    rintro view (rfl | ⟨hsame, hview⟩)
    · exact initializeAnchor_cases h htypes
    · exact ⟨hsame, Or.inl hview⟩
  have hvisits : ∀ view, ViewOf world types view → ∃ visited, Visits world types visited
      ∧ view.each world = some visited ∧ view.iterate world = some visited
      ∧ ∀ order : List ℕ, order.Perm (List.range view.count) →
          ∃ parallel, view.parallelEach world order = some parallel ∧ parallel.Perm visited := by
    intro view hview
    obtain ⟨rfl, hanchored | hmissing⟩ := hcases view hview
    · exact ⟨_, visits_of_anchor h hanchored, hanchored.each_eq h, hanchored.iterate_eq h,
        fun order horder => hanchored.parallelEach_perm h horder⟩
    · have henumerations := enumerations_of_missing hmissing
      exact ⟨[], visits_of_missing hmissing, (henumerations []).1, (henumerations []).2.1,
        fun order _ => ⟨[], (henumerations order).2.2, .refl _⟩⟩
  obtain ⟨visits, hall, -⟩ := hvisits _ (Or.inl rfl)
  refine ⟨visits, hall.enumerates h, fun view hview => ?_⟩
  obtain ⟨visited, hthese, heach, hiterate, hparallel⟩ := hvisits view hview
  refine ⟨⟨visited, heach, hiterate, hthese.perm hall⟩, ?_⟩
  intro threadCount nested grainSize order horder
  rw [ThreadPool.Order, ThreadPool.flatten_parallelFor] at horder
  obtain ⟨parallel, heq, hperm⟩ := hparallel order horder
  exact ⟨parallel, heq, hperm.trans (hthese.perm hall)⟩

theorem enumerations_agree [DecidableEq TypeId] (calls : List (World.Call Component))
    (world : World Component)
    (hrun : Run World.step (fun world call => World.Call.Admissible world call) {} calls world)
    (types : List TypeId) (htypes : types ≠ []) : EnumerationsAgree world types :=
  enumerationsAgree_of_inverse (World.Sound.of_run hrun).inverse htypes

/-- Two entities, of which the second one has no component of the second type. -/
def twoEntities : List (World.Call fun _ : ℕ => ℕ) :=
  [.createEntity, .createEntity, .addComponent (.make 0 0) 0 5, .addComponent (.make 1 0) 0 7,
   .addComponent (.make 0 0) 1 6]

theorem enumerations_agree_twoEntities : ∃ world : World fun _ : ℕ => ℕ,
    Run World.step (fun world call => World.Call.Admissible world call) {} twoEntities world ∧
      EnumerationsAgree world [0, 1] := by
  have hafter : (after World.step (fun world call => decide (World.Call.Admissible world call)) {}
      twoEntities).isSome = true := by decide
  obtain ⟨world, hworld⟩ := Option.isSome_iff_exists.1 hafter
  have hrun := run_of_after (fun _ _ => of_decide_eq_true) hworld
  exact ⟨world, hrun, enumerations_agree twoEntities world hrun [0, 1] (by simp)⟩

end View

end NwbLot.Ecs
