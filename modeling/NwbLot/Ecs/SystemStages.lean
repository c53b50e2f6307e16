import NwbLot.Ecs.SystemScheduler

/-!
# Stages of systems

`rebuild` is first-fit staging: a stage's merged access list answers for every system in it, so the
loop takes what conflicts with no system of the stage.  Hence the stages hold every registered
system once, and conflicting systems never share one.

First fit does not keep the registration order of conflicting systems in general: a system that was
passed over does not hold back later ones that depend on it.  It does exactly when there are no gaps
(`FirstFit.NoGaps`), and then running the stages is running the systems in registration order.
-/

namespace NwbLot.Ecs

open FirstFit

/-! ## Conflicts -/

section Conflicts

variable {System TypeId : Type} [DecidableEq TypeId]

/-- One system writes a component type that the other reads or writes. -/
def conflicting (declared : System → List (ComponentAccess TypeId)) (a b : System) : Bool :=
  (declared a).any fun x => (declared b).any fun y =>
    x.typeId = y.typeId && (x.mode == .write || y.mode == .write)

lemma conflicting_comm (declared : System → List (ComponentAccess TypeId)) (a b : System) :
    conflicting declared a b = conflicting declared b a := by
  rw [Bool.eq_iff_iff]
  simp only [conflicting, List.any_eq_true, Bool.and_eq_true, decide_eq_true_eq, Bool.or_eq_true]
  constructor
  · rintro ⟨x, hx, y, hy, htype, hmode⟩
    exact ⟨y, hy, x, hx, htype.symm, hmode.symm⟩
  · rintro ⟨x, hx, y, hy, htype, hmode⟩
    exact ⟨y, hy, x, hx, htype.symm, hmode.symm⟩

lemma accessesCanShareStage_eq (x y : ComponentAccess TypeId) :
    accessesCanShareStage x y
      = !(decide (x.typeId = y.typeId) && (x.mode == .write || y.mode == .write)) := by
  unfold accessesCanShareStage
  by_cases htype : x.typeId = y.typeId
  · simp [htype, bne]
  · simp [htype]

/-- A merged access answers for the list and for the access. -/
lemma stageCanAddAccess_merge (stageAccesses : List (ComponentAccess TypeId))
    (a x : ComponentAccess TypeId) :
    stageCanAddAccess (mergeStageAccess stageAccesses a) x
      = (stageCanAddAccess stageAccesses x && accessesCanShareStage a x) := by
  induction stageAccesses with
  | nil => simp [mergeStageAccess, stageCanAddAccess]
  | cons entry rest ih =>
    simp only [stageCanAddAccess] at ih ⊢
    rw [mergeStageAccess]
    split
    · rw [List.all_cons, List.all_cons, ih, Bool.and_assoc]
    · next hsame =>
        rw [not_not] at hsame
        split
        · next hwrite =>
            simp only [List.all_cons, accessesCanShareStage_eq, hsame, hwrite]
            cases decide (a.typeId = x.typeId) <;> simp
        · next hread =>
            have hmode : a.mode = .read := by
              cases hm : a.mode
              · rfl
              · exact absurd hm hread
            simp only [List.all_cons, accessesCanShareStage_eq, hsame, hmode]
            cases decide (a.typeId = x.typeId) <;> cases entry.mode <;> cases x.mode <;> simp

lemma stageCanAddAccess_mergeSystem (stageAccesses systemAccesses : List (ComponentAccess TypeId))
    (x : ComponentAccess TypeId) :
    stageCanAddAccess (mergeSystemAccess stageAccesses systemAccesses) x
      = (stageCanAddAccess stageAccesses x && stageCanAddAccess systemAccesses x) := by
  induction systemAccesses generalizing stageAccesses with
  | nil => simp [mergeSystemAccess, stageCanAddAccess]
  | cons a rest ih =>
    simp only [mergeSystemAccess, List.foldl_cons] at ih ⊢
    rw [ih, stageCanAddAccess_merge, Bool.and_assoc]
    simp [stageCanAddAccess]

/-- Merging a system into a stage's list adds exactly its conflicts. -/
lemma stageCanAddSystem_mergeSystem
    (stageAccesses merged accesses : List (ComponentAccess TypeId)) :
    stageCanAddSystem (mergeSystemAccess stageAccesses merged) accesses
      = (stageCanAddSystem stageAccesses accesses && stageCanAddSystem merged accesses) := by
  induction accesses with
  | nil => rfl
  | cons x rest ih =>
    simp only [stageCanAddSystem, List.all_cons] at ih ⊢
    rw [ih, stageCanAddAccess_mergeSystem]
    cases stageCanAddAccess stageAccesses x <;> cases stageCanAddAccess merged x <;> simp

/-- The list of a system allows an access that all its declarations allow. -/
lemma stageCanAddAccess_registered (declared : List (ComponentAccess TypeId))
    (x : ComponentAccess TypeId) :
    stageCanAddAccess (registeredAccess declared) x = declared.all (accessesCanShareStage · x) :=
  (stageCanAddAccess_mergeSystem [] declared x).trans (by simp [stageCanAddAccess])

lemma all_registered (declared : List (ComponentAccess TypeId))
    (stageAccesses : List (ComponentAccess TypeId)) :
    stageCanAddSystem stageAccesses (registeredAccess declared)
      = stageCanAddSystem stageAccesses declared := by
  have hcomm : ∀ x y : ComponentAccess TypeId,
      accessesCanShareStage x y = accessesCanShareStage y x := by
    intro x y
    rw [accessesCanShareStage_eq, accessesCanShareStage_eq, Bool.or_comm]
    by_cases htype : x.typeId = y.typeId
    · simp [htype]
    · simp [htype, Ne.symm htype]
  have hswap : ∀ xs ys : List (ComponentAccess TypeId),
      stageCanAddSystem xs ys = stageCanAddSystem ys xs := by
    intro xs ys
    rw [Bool.eq_iff_iff]
    simp only [stageCanAddSystem, stageCanAddAccess, List.all_eq_true]
    exact ⟨fun h x hx y hy => hcomm y x ▸ h y hy x hx, fun h x hx y hy => hcomm y x ▸ h y hy x hx⟩
  rw [hswap, hswap stageAccesses]
  exact List.all_congr rfl fun x => stageCanAddAccess_registered declared x

/-- Two systems may share a stage unless their declarations conflict. -/
lemma stageCanAddSystem_registered (declared : System → List (ComponentAccess TypeId))
    (a b : System) :
    stageCanAddSystem (registeredAccess (declared a)) (registeredAccess (declared b))
      = !conflicting declared a b := by
  rw [all_registered, Bool.eq_iff_iff]
  simp only [stageCanAddSystem, stageCanAddAccess_registered, List.all_eq_true, conflicting,
    Bool.not_eq_true', List.any_eq_false, List.any_eq_true, not_exists, not_and,
    accessesCanShareStage_eq, Bool.not_eq_true]
  exact ⟨fun h x hx y hy => h y hy x hx, fun h y hy x hx => h x hx y hy⟩

end Conflicts

namespace SystemScheduler

variable {System TypeId : Type} [DecidableEq System] [DecidableEq TypeId]
  (declared : System → List (ComponentAccess TypeId))

/-- The access lists the scheduler reads. -/
abbrev accessOf (system : System) : List (ComponentAccess TypeId) :=
  registeredAccess (declared system)

/-! ## Filling stages -/

/-- The systems whose flag is not set. -/
def unassigned (systems : List (System × Bool)) : List System :=
  (systems.filter fun entry => !entry.2).map (·.1)

/-- The stage's list answers for its systems. -/
def Summarises (stageAccesses : List (ComponentAccess TypeId)) (stage : List System) : Prop :=
  ∀ system, stageCanAddSystem stageAccesses (accessOf declared system)
    = !stage.any (conflicting declared · system)

variable {declared}

omit [DecidableEq System] in
lemma Summarises.append {stageAccesses : List (ComponentAccess TypeId)} {stage : List System}
    (h : Summarises declared stageAccesses stage) (system : System) :
    Summarises declared (mergeSystemAccess stageAccesses (accessOf declared system))
      (stage ++ [system]) := by
  intro other
  rw [stageCanAddSystem_mergeSystem, h other, stageCanAddSystem_registered]
  simp [Bool.not_or]

variable {stage : List System}

omit [DecidableEq System] in
/-- A pass over the flags is a first-fit pass over the systems without one. -/
lemma fillStage_pass (systems : List (System × Bool))
    {stageAccesses : List (ComponentAccess TypeId)} (h : Summarises declared stageAccesses stage) :
    (fillStage (accessOf declared) systems stageAccesses).2
        = (pass (conflicting declared) stage (unassigned systems)).1
      ∧ unassigned (fillStage (accessOf declared) systems stageAccesses).1
        = (pass (conflicting declared) stage (unassigned systems)).2
      ∧ (fillStage (accessOf declared) systems stageAccesses).1.length = systems.length := by
  induction systems generalizing stageAccesses stage with
  | nil => exact ⟨rfl, rfl, rfl⟩
  | cons entry rest ih =>
    obtain ⟨system, assigned⟩ := entry
    rw [fillStage]
    cases assigned with
    | true =>
      obtain ⟨htaken, hleft, hlength⟩ := ih h
      simpa [unassigned] using ⟨htaken, hleft, hlength⟩
    | false =>
      have hunassigned : unassigned ((system, false) :: rest) = system :: unassigned rest := rfl
      rw [hunassigned, FirstFit.pass, h system, Bool.not_not, Bool.false_or]
      split
      · obtain ⟨htaken, hleft, hlength⟩ := ih h
        refine ⟨htaken, ?_, by simp [hlength]⟩
        rw [← hleft]
        rfl
      · obtain ⟨htaken, hleft, hlength⟩ := ih (h.append system)
        refine ⟨by rw [← htaken], ?_, by simp [hlength]⟩
        rw [← hleft]
        rfl

variable {fuel : ℕ}

omit [DecidableEq System] in
/-- With as many passes as there are systems left, the loop ends in first-fit stages. -/
lemma fillStages_total (declared : System → List (ComponentAccess TypeId)) {numAssigned : ℕ}
    {systems : List (System × Bool)}
    (hcount : numAssigned + (unassigned systems).length = systems.length)
    (hfuel : (unassigned systems).length ≤ fuel) :
    ∃ stages, fillStages (accessOf declared) fuel systems numAssigned = some stages
      ∧ Stages (conflicting declared) (unassigned systems) stages := by
  induction fuel generalizing numAssigned systems with
  | zero =>
    have hnil : unassigned systems = [] := List.length_eq_zero_iff.1 (Nat.le_zero.1 hfuel)
    rw [hnil, List.length_nil] at hcount
    rw [fillStages, if_neg (by omega), hnil]
    exact ⟨[], rfl, .done⟩
  | succ fuel ih =>
    rw [fillStages]
    cases hleft : unassigned systems with
    | nil =>
      rw [hleft, List.length_nil] at hcount
      rw [if_neg (by omega)]
      exact ⟨[], rfl, .done⟩
    | cons system rest =>
      rw [hleft, List.length_cons] at hcount hfuel
      rw [if_pos (by omega)]
      have hempty : Summarises declared ([] : List (ComponentAccess TypeId)) [] := fun other => by
        simp [stageCanAddSystem, stageCanAddAccess]
      obtain ⟨htaken, hremaining, hlength⟩ := fillStage_pass systems hempty
      rw [hleft] at htaken hremaining
      have hsplit := (pass_perm (conflicting declared) []
        (system :: rest)).length_eq
      rw [List.length_append, List.length_cons] at hsplit
      have hless := length_pass_lt (conflicting declared) system rest
      have hcount' : numAssigned + (fillStage (accessOf declared) systems []).2.length
          + (unassigned (fillStage (accessOf declared) systems []).1).length
          = (fillStage (accessOf declared) systems []).1.length := by
        rw [hremaining, htaken, hlength]
        omega
      obtain ⟨stages, hstages, hfirstFit⟩ := ih hcount' (by rw [hremaining]; omega)
      dsimp only
      rw [hstages]
      refine ⟨_, rfl, ?_⟩
      rw [htaken]
      rw [hremaining] at hfirstFit
      exact .pass hfirstFit

variable {scheduler : SystemScheduler System}

omit [DecidableEq System] in
/-- `rebuild` ends after at most as many passes as there are systems, in first-fit stages. -/
theorem rebuild_total (declared : System → List (ComponentAccess TypeId))
    (hfuel : scheduler.allSystems.length ≤ fuel) :
    ∃ stages, scheduler.rebuild (accessOf declared) fuel
        = some { stages, allSystems := scheduler.allSystems, dirty := false }
      ∧ Stages (conflicting declared) scheduler.allSystems stages := by
  obtain ⟨stages, allSystems, dirty⟩ := scheduler
  match allSystems with
  | [] => exact ⟨[], rfl, .done⟩
  | [system] =>
    refine ⟨[[system]], rfl, ?_⟩
    have hone : pass (conflicting declared) [] [system] = ([system], []) := rfl
    have hdone : Stages (conflicting declared) (pass (conflicting declared) [] [system]).2 [] := by
      rw [hone]
      exact .done
    exact .pass hdone
  | first :: second :: rest =>
    have hunassigned : unassigned ((first :: second :: rest).map (·, false))
        = first :: second :: rest := by
      simp [unassigned, List.filter_map, Function.comp_def]
    have hcount : 0 + (unassigned ((first :: second :: rest).map (·, false))).length
        = ((first :: second :: rest).map (·, false)).length := by
      rw [hunassigned]
      simp
    have hpasses : (unassigned ((first :: second :: rest).map (·, false))).length ≤ fuel := by
      rw [hunassigned]
      exact hfuel
    obtain ⟨built, hbuilt, hfirstFit⟩ := fillStages_total declared hcount hpasses
    rw [hunassigned] at hfirstFit
    refine ⟨built, ?_, hfirstFit⟩
    show ((fillStages (accessOf declared) fuel ((first :: second :: rest).map (·, false)) 0).map
      _) = _
    rw [hbuilt]
    rfl

/-! ## Sequences of calls -/

/-- The system was added after every removal and every clearing. -/
def Registered (calls : List (Call System)) (system : System) : Prop :=
  ∃ before after, calls = before ++ Call.addSystem system :: after
    ∧ Call.removeSystem system ∉ after ∧ Call.clear ∉ after

/-- What holds of a scheduler after the calls. -/
structure Sound (declared : System → List (ComponentAccess TypeId)) (calls : List (Call System))
    (scheduler : SystemScheduler System) : Prop where
  nodup : scheduler.allSystems.Nodup
  registered : ∀ system, system ∈ scheduler.allSystems ↔ Registered calls system
  current : scheduler.dirty = false →
    Stages (conflicting declared) scheduler.allSystems scheduler.stages

variable {calls : List (Call System)}

omit [DecidableEq System] in
lemma registered_append_singleton {call : Call System} {system : System} :
    Registered (calls ++ [call]) system
      ↔ call = .addSystem system
        ∨ (Registered calls system ∧ call ≠ .removeSystem system ∧ call ≠ .clear) := by
  constructor
  · rintro ⟨before, after, hcalls, hremove, hclear⟩
    rcases List.eq_nil_or_concat after with rfl | ⟨front, last, rfl⟩
    · obtain ⟨-, hlast⟩ := List.append_inj' hcalls rfl
      exact Or.inl (List.cons.inj hlast).1
    · have hcalls' : calls ++ [call] = (before ++ Call.addSystem system :: front) ++ [last] := by
        simpa using hcalls
      obtain ⟨hfront, hlast⟩ := List.append_inj' hcalls' rfl
      obtain rfl := (List.cons.inj hlast).1
      simp only [List.concat_eq_append, List.mem_append, List.mem_singleton, not_or]
        at hremove hclear
      exact Or.inr ⟨⟨before, front, hfront, hremove.1, hclear.1⟩, Ne.symm hremove.2,
        Ne.symm hclear.2⟩
  · rintro (rfl | ⟨⟨before, after, rfl, hremove, hclear⟩, hnotRemove, hnotClear⟩)
    · exact ⟨calls, [], rfl, by simp, by simp⟩
    · refine ⟨before, after ++ [call], by simp, ?_, ?_⟩
      · simpa [hremove] using hnotRemove.symm
      · simpa [hclear] using hnotClear.symm

/-- Every call succeeds and keeps the scheduler sound. -/
lemma Sound.step (h : Sound declared calls scheduler) (call : Call System) :
    ∃ next, scheduler.step (accessOf declared) call = some next
      ∧ Sound declared (calls ++ [call]) next := by
  cases call with
  | addSystem added =>
    refine ⟨_, rfl, ?_⟩
    have hregistered : ∀ system, Registered (calls ++ [Call.addSystem added]) system
        ↔ added = system ∨ Registered calls system := by
      intro system
      rw [registered_append_singleton]
      simp
    rw [SystemScheduler.addSystem]
    split
    · next hmem =>
        refine ⟨h.nodup, fun system => ?_, h.current⟩
        rw [hregistered, ← h.registered]
        exact ⟨Or.inr, fun hor => hor.elim (fun heq => heq ▸ hmem) id⟩
    · next hnew =>
        refine ⟨?_, fun system => ?_, fun hclean => by cases hclean⟩
        · exact List.nodup_append.2 ⟨h.nodup, List.nodup_singleton added, fun a ha b hb heq =>
            hnew (List.mem_singleton.1 hb ▸ heq ▸ ha)⟩
        · rw [hregistered, ← h.registered, List.mem_append, List.mem_singleton, or_comm,
            eq_comm (a := added)]
  | removeSystem removed =>
    refine ⟨_, rfl, ?_⟩
    have hregistered : ∀ system, Registered (calls ++ [Call.removeSystem removed]) system
        ↔ Registered calls system ∧ removed ≠ system := by
      intro system
      rw [registered_append_singleton]
      simp
    rw [SystemScheduler.removeSystem]
    split
    · refine ⟨h.nodup.erase removed, fun system => ?_, fun hclean => by cases hclean⟩
      rw [hregistered, ← h.registered, h.nodup.mem_erase_iff, and_comm, ne_comm]
    · next hmissing =>
        refine ⟨h.nodup, fun system => ?_, h.current⟩
        rw [hregistered, ← h.registered]
        exact ⟨fun hmem => ⟨hmem, fun heq => hmissing (heq ▸ hmem)⟩, And.left⟩
  | clear =>
    refine ⟨_, rfl, List.nodup_nil, fun system => ?_, fun _ => .done⟩
    rw [registered_append_singleton]
    simp [SystemScheduler.clear]
  | rebuild =>
    obtain ⟨stages, hstages, hfirstFit⟩ :=
      rebuild_total declared (Nat.le_refl scheduler.allSystems.length)
    refine ⟨_, hstages, h.nodup, fun system => ?_, fun _ => hfirstFit⟩
    rw [h.registered, registered_append_singleton]
    simp

/-- The scheduler after any calls is sound. -/
theorem sound_after (declared : System → List (ComponentAccess TypeId))
    (calls : List (Call System)) :
    ∃ scheduler, calls.foldlM (SystemScheduler.step (accessOf declared)) {} = some scheduler
      ∧ Sound declared calls scheduler := by
  induction calls using List.reverseRecOn with
  | nil =>
    refine ⟨{}, rfl, List.nodup_nil, fun system => ?_, fun _ => .done⟩
    simp [Registered]
  | append_singleton calls call ih =>
    obtain ⟨scheduler, hscheduler, hsound⟩ := ih
    obtain ⟨next, hnext, hsound'⟩ := hsound.step call
    exact ⟨next, by simp [List.foldlM_append, hscheduler, hnext], hsound'⟩

omit [DecidableEq System] in
/-- No two systems of a stage conflict. -/
lemma not_conflicting_of_stage {systems : List System} {stages : List (List System)}
    (h : Stages (conflicting declared) systems stages) (hstage : stage ∈ stages) {a b : System}
    (ha : a ∈ stage) (hb : b ∈ stage) (hne : a ≠ b) :
    conflicting declared a b = false := by
  have hpairs := h.apart stage hstage
  rw [List.pairwise_iff_forall_sublist] at hpairs
  rcases precedes_or ha hb hne with hab | hba
  · exact hpairs hab
  · rw [conflicting_comm]
    exact hpairs hba

/-- After any calls, `rebuild` ends and its stages hold every registered system exactly once and no
other; no stage has two systems of which one writes what the other accesses. -/
theorem systemStages_conflictFree (declared : System → List (ComponentAccess TypeId))
    (calls : List (Call System)) :
    ∃ scheduler, calls.foldlM (SystemScheduler.step (accessOf declared)) {} = some scheduler
      ∧ ∀ fuel ≥ scheduler.allSystems.length,
        ∃ built, scheduler.rebuild (accessOf declared) fuel = some built
          ∧ built.stages.flatten.Nodup
          ∧ (∀ system, system ∈ built.stages.flatten ↔ Registered calls system)
          ∧ ∀ stage ∈ built.stages, ∀ a ∈ stage, ∀ b ∈ stage, a ≠ b →
            conflicting declared a b = false := by
  obtain ⟨scheduler, hscheduler, hsound⟩ := sound_after declared calls
  refine ⟨scheduler, hscheduler, fun fuel hfuel => ?_⟩
  obtain ⟨stages, hstages, hfirstFit⟩ := rebuild_total declared hfuel
  refine ⟨_, hstages, hfirstFit.perm.nodup_iff.2 hsound.nodup, fun system => ?_, ?_⟩
  · rw [hfirstFit.perm.mem_iff, hsound.registered]
  · intro stage hstage a ha b hb hne
    exact not_conflicting_of_stage hfirstFit hstage ha hb hne

/-! ## Effects -/

/-- What systems act on: the components of each type and the systems' own members. -/
structure SystemWorld (TypeId System Components Members : Type) where
  components : TypeId → Components
  members : System → Members

/-- The updates touch what they declare: a system changes only the types it writes and its own
members, and what it puts there depends only on the types it accesses and its own members. -/
structure RespectsAccess {Components Members : Type}
    (declared : System → List (ComponentAccess TypeId))
    (update : System → SystemWorld TypeId System Components Members →
      SystemWorld TypeId System Components Members) : Prop where
  components_frame : ∀ system world typeId, ⟨typeId, .write⟩ ∉ declared system →
    (update system world).components typeId = world.components typeId
  members_frame : ∀ system world other, other ≠ system →
    (update system world).members other = world.members other
  components_local : ∀ system world world',
    (∀ access ∈ declared system,
      world.components access.typeId = world'.components access.typeId) →
    world.members system = world'.members system →
    ∀ typeId, ⟨typeId, .write⟩ ∈ declared system →
      (update system world).components typeId = (update system world').components typeId
  members_local : ∀ system world world',
    (∀ access ∈ declared system,
      world.components access.typeId = world'.components access.typeId) →
    world.members system = world'.members system →
      (update system world).members system = (update system world').members system

namespace RespectsAccess

variable {Components Members : Type} {declared : System → List (ComponentAccess TypeId)}
  {update : System → SystemWorld TypeId System Components Members →
    SystemWorld TypeId System Components Members}

variable {a b : System}

omit [DecidableEq System] in
/-- A system without a conflict finds what it accesses unchanged. -/
lemma unread (h : RespectsAccess declared update) (hfree : conflicting declared a b = false)
    (world : SystemWorld TypeId System Components Members) :
    ∀ access ∈ declared b,
      (update a world).components access.typeId = world.components access.typeId := by
  intro access haccess
  refine h.components_frame a world access.typeId fun hwrite => ?_
  simp only [conflicting, List.any_eq_false] at hfree
  have := hfree _ hwrite
  simp only [List.any_eq_true, not_exists, not_and] at this
  exact this access haccess (by simp)

omit [DecidableEq System] in
lemma members_commute (h : RespectsAccess declared update) (hne : a ≠ b)
    (hfree : conflicting declared a b = false)
    (world : SystemWorld TypeId System Components Members) :
    (update b (update a world)).members b = (update a (update b world)).members b := by
  rw [h.members_frame a (update b world) b hne.symm]
  exact h.members_local b _ _ (h.unread hfree world) (h.members_frame a world b hne.symm)

omit [DecidableEq System] in
lemma components_commute (h : RespectsAccess declared update) (hne : a ≠ b)
    (hfree : conflicting declared a b = false)
    (world : SystemWorld TypeId System Components Members) {typeId : TypeId}
    (hwrite : ⟨typeId, .write⟩ ∈ declared b) :
    (update b (update a world)).components typeId
      = (update a (update b world)).components typeId := by
  have hkept : (update a (update b world)).components typeId
      = (update b world).components typeId := by
    refine h.components_frame a _ typeId fun hother => ?_
    simp only [conflicting, List.any_eq_false] at hfree
    have := hfree _ hother
    simp only [List.any_eq_true, not_exists, not_and] at this
    exact this _ hwrite (by simp)
  rw [hkept]
  exact h.components_local b _ _ (h.unread hfree world) (h.members_frame a world b hne.symm)
    typeId hwrite

omit [DecidableEq System] in
/-- Updates of two systems without a conflict commute. -/
theorem commute (h : RespectsAccess declared update) (hne : a ≠ b)
    (hfree : conflicting declared a b = false)
    (world : SystemWorld TypeId System Components Members) :
    update b (update a world) = update a (update b world) := by
  have hfree' : conflicting declared b a = false := conflicting_comm declared a b ▸ hfree
  have hcomponents : (update b (update a world)).components
      = (update a (update b world)).components := by
    funext typeId
    by_cases hb : ⟨typeId, .write⟩ ∈ declared b
    · exact h.components_commute hne hfree world hb
    by_cases ha : ⟨typeId, .write⟩ ∈ declared a
    · exact (h.components_commute hne.symm hfree' world ha).symm
    rw [h.components_frame b _ typeId hb, h.components_frame a _ typeId ha,
      h.components_frame a _ typeId ha, h.components_frame b _ typeId hb]
  have hmembers : (update b (update a world)).members = (update a (update b world)).members := by
    funext other
    by_cases hb : other = b
    · rw [hb]
      exact h.members_commute hne hfree world
    by_cases ha : other = a
    · rw [ha]
      exact (h.members_commute hne.symm hfree' world).symm
    rw [h.members_frame b _ other hb, h.members_frame a _ other ha,
      h.members_frame a _ other ha, h.members_frame b _ other hb]
  cases hleft : update b (update a world)
  cases hright : update a (update b world)
  rw [hleft, hright] at hcomponents hmembers
  cases hcomponents
  cases hmembers
  rfl

end RespectsAccess

/-- Where the stages keep the order of conflicting systems, running them has the effect of updating
the systems one by one in registration order. -/
lemma runUpdates_of_ordered {Components Members : Type}
    {prepare update : System → SystemWorld TypeId System Components Members →
      SystemWorld TypeId System Components Members} (hupdate : RespectsAccess declared update)
    (hnodup : scheduler.allSystems.Nodup)
    (hstages : Stages (conflicting declared) scheduler.allSystems scheduler.stages)
    (hordered : ∀ a b, Precedes scheduler.allSystems a b → conflicting declared a b = true →
      stageIndex scheduler.stages a < stageIndex scheduler.stages b) {order : List System}
    (horder : UpdateOrder scheduler.stages order)
    (world : SystemWorld TypeId System Components Members) :
    runUpdates prepare update scheduler order world
      = runUpdates prepare update scheduler scheduler.allSystems world := by
  obtain ⟨orders, horders, rfl⟩ := horder
  have hflat : orders.flatten.Perm scheduler.stages.flatten := List.Perm.flatten_congr horders
  have hmem : ∀ {a}, a ∈ scheduler.allSystems → a ∈ scheduler.stages.flatten :=
    fun ha => hstages.perm.mem_iff.2 ha
  refine foldl_eq_of_order (conflicting declared) hnodup
    (hflat.trans hstages.perm).symm (fun a _ b _ hne hfree w => hupdate.commute hne hfree w)
    (fun a b hab hconflict => ?_) _
  exact Stages.precedes_of_stageIndex_lt horders (hmem hab.left) (hmem hab.right)
    (hordered a b hab hconflict)

/-- After any calls, the stages that `execute` runs separate conflicting systems.  They keep the
registration order of all of them exactly when there are no gaps, and then executing them, in any
order inside each stage, is updating the systems in registration order. -/
theorem systemStages_ordered_iff (declared : System → List (ComponentAccess TypeId))
    (calls : List (Call System)) :
    ∃ scheduler, calls.foldlM (SystemScheduler.step (accessOf declared)) {} = some scheduler
      ∧ ∀ fuel ≥ scheduler.allSystems.length,
        ∃ built, scheduler.executed (accessOf declared) fuel = some built
          ∧ built.allSystems = scheduler.allSystems
          ∧ (∀ a b, Precedes built.allSystems a b → conflicting declared a b = true →
            stageIndex built.stages a ≠ stageIndex built.stages b)
          ∧ ((∀ a b, Precedes built.allSystems a b → conflicting declared a b = true →
              stageIndex built.stages a < stageIndex built.stages b)
            ↔ NoGaps (conflicting declared) built.allSystems)
          ∧ (NoGaps (conflicting declared) built.allSystems →
            ∀ (Components Members : Type)
              (prepare update : System → SystemWorld TypeId System Components Members →
                SystemWorld TypeId System Components Members),
              RespectsAccess declared update →
              ∀ order, UpdateOrder built.stages order → ∀ world,
                runUpdates prepare update built order world
                  = runUpdates prepare update built built.allSystems world) := by
  obtain ⟨scheduler, hscheduler, hsound⟩ := sound_after declared calls
  refine ⟨scheduler, hscheduler, fun fuel hfuel => ?_⟩
  have hbuilt : ∃ built, scheduler.executed (accessOf declared) fuel = some built
      ∧ built.allSystems = scheduler.allSystems
      ∧ Stages (conflicting declared) scheduler.allSystems built.stages := by
    rw [executed]
    split
    · obtain ⟨stages, hstages, hfirstFit⟩ := rebuild_total declared hfuel
      exact ⟨_, hstages, rfl, hfirstFit⟩
    · next hclean => exact ⟨scheduler, rfl, rfl, hsound.current (by simpa using hclean)⟩
  obtain ⟨built, hexecuted, hsystems, hstages⟩ := hbuilt
  rw [← hsystems] at hstages
  have hnodup : built.allSystems.Nodup := hsystems ▸ hsound.nodup
  have hassignment := hstages.assignment hnodup
  refine ⟨built, hexecuted, hsystems, hassignment.apart, hassignment.ordered_iff hnodup, ?_⟩
  intro hgaps Components Members prepare update hupdate order horder world
  exact runUpdates_of_ordered hupdate hnodup hstages
    ((hassignment.ordered_iff hnodup).2 hgaps) horder world

/-! ## Small schedulers -/

/-- A writer of type 0, a system that reads it and writes type 1, and a reader of type 1. -/
def relayAccess : ℕ → List (ComponentAccess ℕ)
  | 0 => [⟨0, .write⟩]
  | 1 => [⟨0, .read⟩, ⟨1, .write⟩]
  | _ => [⟨1, .read⟩]

/-- The writer counts up its type, and the relay keeps what it reads. -/
def relayUpdate (system : ℕ) (world : SystemWorld ℕ ℕ ℕ ℕ) : SystemWorld ℕ ℕ ℕ ℕ :=
  if system = 0 then
    { world with components := fun typeId =>
        if typeId = 0 then world.components 0 + 1 else world.components typeId }
  else if system = 1 then
    { world with members := fun other =>
        if other = 1 then world.components 0 else world.members other }
  else world

lemma relayUpdate_respects : RespectsAccess relayAccess relayUpdate where
  components_frame := by
    intro system world typeId hunwritten
    match system with
    | 0 =>
      have hother : typeId ≠ 0 := fun heq => hunwritten (by simp [relayAccess, heq])
      simp [relayUpdate, hother]
    | 1 => simp [relayUpdate]
    | n + 2 => simp [relayUpdate]
  members_frame := by
    intro system world other hother
    match system with
    | 0 => simp [relayUpdate]
    | 1 => simp [relayUpdate, hother]
    | n + 2 => simp [relayUpdate]
  components_local := by
    intro system world world' hsame _ typeId hwrite
    match system with
    | 0 =>
      simp only [relayAccess, List.mem_singleton, ComponentAccess.mk.injEq, and_true] at hwrite
      have hzero := hsame _ (List.mem_singleton_self _)
      simpa [relayUpdate, hwrite] using hzero
    | 1 =>
      simp only [relayAccess, List.mem_cons, ComponentAccess.mk.injEq, List.not_mem_nil,
        or_false, reduceCtorEq, and_false, false_or, and_true] at hwrite
      have hone := hsame ⟨1, .write⟩ (by simp [relayAccess])
      simpa [relayUpdate, hwrite] using hone
    | n + 2 => simp [relayAccess] at hwrite
  members_local := by
    intro system world world' hsame hmembers
    match system with
    | 0 => simpa [relayUpdate] using hmembers
    | 1 =>
      have hzero := hsame ⟨0, .read⟩ (by simp [relayAccess])
      simpa [relayUpdate] using hzero
    | n + 2 => simpa [relayUpdate] using hmembers

/-- The writer is updated before the relay. -/
theorem systemStages_ordered_iff_relay : ∃ scheduler built : SystemScheduler ℕ,
    [Call.addSystem 0, .addSystem 1].foldlM (SystemScheduler.step (accessOf relayAccess)) {}
        = some scheduler
      ∧ scheduler.executed (accessOf relayAccess) 2 = some built
      ∧ stageIndex built.stages 0 < stageIndex built.stages 1
      ∧ ∀ order, UpdateOrder built.stages order → ∀ world,
        runUpdates (fun _ world => world) relayUpdate built order world
          = runUpdates (fun _ world => world) relayUpdate built [0, 1] world := by
  obtain ⟨scheduler, hscheduler, hbuilt⟩ :=
    systemStages_ordered_iff relayAccess [Call.addSystem 0, .addSystem 1]
  obtain rfl : { allSystems := [0, 1], dirty := true } = scheduler := Option.some.inj hscheduler
  obtain ⟨built, hexecuted, hsystems, -, hordered, heffect⟩ := hbuilt 2 (Nat.le_refl 2)
  have hgaps : NoGaps (conflicting relayAccess) built.allSystems := by
    rw [hsystems]
    rintro earlier s later hsplit before t after rfl - d hd
    have hlength := congrArg List.length hsplit
    simp only [List.length_append, List.length_cons, List.length_nil] at hlength
    obtain rfl : before = [] := List.length_eq_zero_iff.1 (by omega)
    exact absurd hd (Nat.not_lt_zero d)
  refine ⟨_, built, hscheduler, hexecuted, hordered.2 hgaps 0 1 ?_ (by decide), ?_⟩
  · rw [hsystems]
    exact List.Sublist.refl _
  · have hrun := heffect hgaps ℕ ℕ (fun _ world => world) relayUpdate relayUpdate_respects
    rw [hsystems] at hrun
    exact hrun

/-- The relay, which the writer keeps out of the first stage, does not hold back the reader: the
reader is registered after the relay it conflicts with and is updated before it. -/
theorem relay_not_ordered :
    ¬ ∀ (declared : ℕ → List (ComponentAccess ℕ)) (calls : List (Call ℕ))
        (scheduler built : SystemScheduler ℕ),
      calls.foldlM (SystemScheduler.step (accessOf declared)) {} = some scheduler →
      scheduler.rebuild (accessOf declared) scheduler.allSystems.length = some built →
      ∀ a b, Precedes scheduler.allSystems a b → conflicting declared a b = true →
        stageIndex built.stages a < stageIndex built.stages b := by
  intro hordered
  have hlt := hordered relayAccess [.addSystem 0, .addSystem 1, .addSystem 2]
    { allSystems := [0, 1, 2], dirty := true }
    { stages := [[0, 2], [1]], allSystems := [0, 1, 2], dirty := false } rfl rfl 1 2
    (List.sublist_cons_self 0 [1, 2]) (by decide)
  exact absurd hlt (by decide)

end SystemScheduler

end NwbLot.Ecs
