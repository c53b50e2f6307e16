import NwbLot.Shader.VariantText
import Mathlib.Data.List.Sections
import Mathlib.Algebra.BigOperators.Group.List.Basic

/-!
# Combinations of defines

`CountShaderVariants` announces how many variants a shader has, `expandDefineCombinations` lists
them and `buildVariantName` names each; `BuildClipDefineCombo` adds the defines of a clip variant.

`choices` is the specification of the expansion: one value for every define, each choice once. 
Counts and expansions refuse what would not fit a word.
-/

namespace NwbLot.Shader

open Crash (Text ascii)

/-- The largest 64-bit value. -/
def u64Max : ℕ := 2 ^ 64 - 1
/-- The largest size. -/
def usizeMax : ℕ := 2 ^ 64 - 1

/-- Why variants are not counted. -/
inductive CountFault
  | noValues (defineName : Text)
  | overflow
  deriving DecidableEq, Repr

/-- The loop of `CountShaderVariants`. -/
def countDefines : List (Text × List Text) → ℕ → Except CountFault ℕ
  | [], variantCount => .ok variantCount
  | (defineName, values) :: rest, variantCount =>
    if values.length = 0 then .error (.noValues defineName)
    else if variantCount > u64Max / values.length then .error .overflow
    else countDefines rest (variantCount * values.length)

/-- The number of combinations, with the checks of `CountShaderVariants`. -/
def countShaderVariants (defineValues : CookMap (List Text)) : Except CountFault ℕ :=
  countDefines defineValues.entries 1

/-! ## Expansion -/

/-- A value for each define. -/
abbrev DefineCombo := CookMap Text

/-- A copy of the combination with one more define. -/
def cloneComboWithEntry (source : DefineCombo) (defineName defineValue : Text) : DefineCombo :=
  (source.copyEntries.tryEmplace defineName defineValue).1

/-- One combination for every value: the clones, and the combination itself for the last value. -/
def expandCombo (defineName : Text) (values : List Text) (combo : DefineCombo) :
    List DefineCombo :=
  values.dropLast.map (cloneComboWithEntry combo defineName) ++
    values.getLast?.toList.map fun lastValue => (combo.tryEmplace defineName lastValue).1

/-- The loop of `expandDefineCombinations`; it is `none` where the function returns false. -/
def expandEntries : List (Text × List Text) → List DefineCombo → Option (List DefineCombo)
  | [], outCombinations => some outCombinations
  | (defineName, values) :: rest, outCombinations =>
    match values with
    | [] => some []
    | [value] =>
      expandEntries rest (outCombinations.map fun combo => (combo.tryEmplace defineName value).1)
    | first :: second :: others =>
      let values := first :: second :: others
      if outCombinations.length > usizeMax / values.length then none
      else
        expandEntries rest (outCombinations.flatMap (expandCombo defineName values))

/-- Every combination of the define values, by the names' order. -/
def expandDefineCombinations (defineValues : CookMap (List Text)) : Option (List DefineCombo) :=
  expandEntries defineValues.entries.sortByKey [CookMap.empty]

/-! ## Names -/

/-- The name of the variant that a combination selects. -/
def buildVariantName (combo : DefineCombo) : Text :=
  match combo.entries with
  | [] => defaultVariant
  | [entry] => assignmentText entry
  | entries => joinAssignments entries.sortByKey

/-! ## Clip variants -/

/-- The define that a clip variant adds. -/
def clipImplicitDefineName : Text := ascii "NWB_CSG_ENABLED"
/-- The define that a clip variant adds for interval samples. -/
def intervalSampleEnabledImplicitDefineName : Text := ascii "NWB_CSG_INTERVAL_SAMPLE_ENABLED"
/-- Its value. -/
def enabledImplicitDefineValue : Text := ascii "1"
/-- Its value. -/
def intervalSampleEnabledImplicitDefineValue : Text := ascii "1"

/-- Why a combination has no clip variant. -/
inductive ClipFault
  | sizeOverflow
  | reservedDefine (defineName : Text)
  deriving DecidableEq, Repr

/-- How many defines a clip variant adds. -/
def addedDefineCount : ℕ := 2

/-- The combination of the clip variant. -/
def buildClipDefineCombo (sourceCombo : DefineCombo) : Except ClipFault DefineCombo :=
  if sourceCombo.size > usizeMax - addedDefineCount then .error .sizeOverflow
  else
    match sourceCombo.copyEntries.tryEmplace intervalSampleEnabledImplicitDefineName
        intervalSampleEnabledImplicitDefineValue with
    | (_, false) => .error (.reservedDefine intervalSampleEnabledImplicitDefineName)
    | (sampled, true) =>
      match sampled.tryEmplace clipImplicitDefineName enabledImplicitDefineValue with
      | (_, false) => .error (.reservedDefine clipImplicitDefineName)
      | (clipped, true) => .ok clipped

/-! ## One combination for every choice -/

/-- The choices of one value for every define, in the order of the expansion. -/
def choices : List (Text × List Text) → List (List (Text × Text))
  | [] => [[]]
  | (defineName, values) :: rest =>
    values.flatMap fun value => (choices rest).map ((defineName, value) :: ·)

lemma length_choices (defines : List (Text × List Text)) :
    (choices defines).length = (defines.map fun define => define.2.length).prod := by
  induction defines with
  | nil => rfl
  | cons define rest ih =>
    rw [choices, List.length_flatMap, List.map_cons, List.prod_cons, ← ih]
    simp

variable {defines : List (Text × List Text)}

lemma choices_ne_nil (h : ∀ define ∈ defines, define.2 ≠ []) : choices defines ≠ [] := by
  induction defines with
  | nil => exact List.cons_ne_nil _ _
  | cons define rest ih =>
    obtain ⟨hdefine, hrest⟩ := List.forall_mem_cons.1 h
    obtain ⟨value, others, hvalues⟩ := List.exists_cons_of_ne_nil hdefine
    rw [choices, hvalues, List.flatMap_cons]
    exact List.append_ne_nil_of_left_ne_nil (mt List.map_eq_nil_iff.1 (ih hrest)) _

lemma expandCombo_eq (defineName : Text) (values : List Text) (combo : DefineCombo) :
    expandCombo defineName values combo =
      values.map fun value => (combo.tryEmplace defineName value).1 := by
  have hclone : ∀ value, cloneComboWithEntry combo defineName value =
      (combo.tryEmplace defineName value).1 := fun value => by
    rw [cloneComboWithEntry, CookMap.copyEntries_eq]
  rw [expandCombo, List.map_congr_left fun value _ => hclone value, ← List.map_append]
  congr 1
  rcases List.eq_nil_or_concat values with rfl | ⟨front, last, rfl⟩
  · rfl
  · simp

variable {combos : List DefineCombo}

/-- A define multiplies the combinations by its values. -/
lemma expandEntries_cons {defineName : Text} {values : List Text} (rest : List (Text × List Text))
    (hvalues : values ≠ []) (hcount : combos.length * values.length ≤ usizeMax) :
    expandEntries ((defineName, values) :: rest) combos =
      expandEntries rest (combos.flatMap fun combo =>
        values.map fun value => (combo.tryEmplace defineName value).1) := by
  match values with
  | [] => exact absurd rfl hvalues
  | [value] =>
    rw [expandEntries]
    congr 1
    exact List.map_eq_flatMap
  | first :: second :: others =>
    have hfits : ¬combos.length > usizeMax / (first :: second :: others).length := by
      have hpos : 0 < (first :: second :: others).length := Nat.succ_pos _
      rw [gt_iff_lt, Nat.not_lt, Nat.le_div_iff_mul_le hpos]
      exact hcount
    rw [expandEntries, if_neg hfits]
    congr 1
    exact List.flatMap_congr fun combo _ => expandCombo_eq defineName _ combo

/-- Each combination so far is followed by every choice for the defines that remain. -/
lemma expandEntries_spec (hnodup : (defines.map Prod.fst).Nodup)
    (hvalues : ∀ define ∈ defines, define.2 ≠ [])
    (hfresh : ∀ combo ∈ combos, ∀ define ∈ defines, define.1 ∉ combo.keys)
    (hcount : combos.length * (choices defines).length ≤ usizeMax) :
    ∃ out, expandEntries defines combos = some out ∧
      out.map CookMap.entries =
        combos.flatMap fun combo => (choices defines).map (combo.entries ++ ·) := by
  induction defines generalizing combos with
  | nil =>
    refine ⟨combos, rfl, ?_⟩
    rw [List.map_eq_flatMap]
    refine List.flatMap_congr fun combo _ => ?_
    show [combo.entries] = [combo.entries ++ []]
    rw [List.append_nil]
  | cons define rest ih =>
    obtain ⟨defineName, values⟩ := define
    obtain ⟨hname, hnodup⟩ := List.nodup_cons.1 hnodup
    obtain ⟨hvalue, hvalues⟩ := List.forall_mem_cons.1 hvalues
    have hlength : (choices ((defineName, values) :: rest)).length =
        values.length * (choices rest).length := by
      rw [length_choices, length_choices, List.map_cons, List.prod_cons]
    rw [hlength, ← Nat.mul_assoc] at hcount
    have hexpand : ∀ combo ∈ combos, ∀ value,
        (combo.tryEmplace defineName value).1.entries = combo.entries ++ [(defineName, value)] :=
      fun combo hcombo value =>
        (CookMap.tryEmplace_of_notMem (hfresh combo hcombo _ List.mem_cons_self) value).1
    have hchoice : 0 < (choices rest).length := List.length_pos_of_ne_nil (choices_ne_nil hvalues)
    rw [expandEntries_cons rest hvalue ((Nat.le_mul_of_pos_right _ hchoice).trans hcount)]
    generalize hnextEq : (combos.flatMap fun combo =>
      values.map fun value => (combo.tryEmplace defineName value).1) = next
    have hnextFresh : ∀ combo ∈ next, ∀ define ∈ rest, define.1 ∉ combo.keys := by
      intro extended hextended define hdefine hkey
      rw [← hnextEq] at hextended
      obtain ⟨combo, hcombo, hmem⟩ := List.mem_flatMap.1 hextended
      obtain ⟨value, -, rfl⟩ := List.mem_map.1 hmem
      rw [CookMap.keys, hexpand combo hcombo value, List.map_append] at hkey
      rcases List.mem_append.1 hkey with hkey | hkey
      · exact hfresh combo hcombo define (List.mem_cons_of_mem _ hdefine) hkey
      · exact hname (List.mem_singleton.1 hkey ▸ List.mem_map_of_mem hdefine)
    have hnextCount : next.length * (choices rest).length ≤ usizeMax := by
      have hlength : next.length = combos.length * values.length := by
        rw [← hnextEq, List.length_flatMap]
        simp
      rw [hlength]
      exact hcount
    obtain ⟨out, hout, hentries⟩ := ih hnodup hvalues hnextFresh hnextCount
    refine ⟨out, hout, hentries.trans ?_⟩
    rw [← hnextEq, List.flatMap_assoc]
    refine List.flatMap_congr fun combo hcombo => ?_
    rw [choices, List.map_flatMap, List.flatMap_map]
    refine List.flatMap_congr fun value _ => ?_
    rw [hexpand combo hcombo value, List.map_map]
    refine List.map_congr_left fun choice _ => ?_
    exact List.append_assoc _ _ _

/-- The choices are the sections of the lists of assignments, in another order. -/
lemma choices_perm_sections (defines : List (Text × List Text)) :
    (choices defines).Perm
      (defines.map fun define => define.2.map fun value => (define.1, value)).sections := by
  induction defines with
  | nil => exact List.Perm.refl _
  | cons define rest ih =>
    rw [choices, List.map_cons, List.sections]
    have hrest := List.Perm.flatMap_left define.2 fun value _ => ih.map ((define.1, value) :: ·)
    refine hrest.trans ((List.flatMap_map_perm_swap _ _ _).trans ?_)
    refine List.Perm.flatMap_left _ fun choice _ => ?_
    rw [List.map_map]
    exact List.Perm.refl _

lemma countDefines_eq {variantCount : ℕ} (hvalues : ∀ define ∈ defines, define.2 ≠ [])
    (hcount : variantCount * (choices defines).length ≤ u64Max) :
    countDefines defines variantCount = .ok (variantCount * (choices defines).length) := by
  induction defines generalizing variantCount with
  | nil => exact congrArg Except.ok (Nat.mul_one _).symm
  | cons define rest ih =>
    obtain ⟨defineName, values⟩ := define
    obtain ⟨hvalue, hvalues⟩ := List.forall_mem_cons.1 hvalues
    have hlength : (choices ((defineName, values) :: rest)).length =
        values.length * (choices rest).length := by
      rw [length_choices, length_choices, List.map_cons, List.prod_cons]
    rw [hlength, ← Nat.mul_assoc] at hcount ⊢
    have hpos : 0 < values.length := List.length_pos_of_ne_nil hvalue
    have hchoice : 0 < (choices rest).length := List.length_pos_of_ne_nil (choices_ne_nil hvalues)
    have hfits : ¬variantCount > u64Max / values.length := by
      rw [gt_iff_lt, Nat.not_lt, Nat.le_div_iff_mul_le hpos]
      exact (Nat.le_mul_of_pos_right _ hchoice).trans hcount
    rw [countDefines, if_neg (Nat.ne_of_gt hpos), if_neg hfits]
    exact ih hvalues hcount

/-- The number of combinations does not depend on the order of the defines. -/
lemma length_choices_perm {left right : List (Text × List Text)} (h : left.Perm right) :
    (choices left).length = (choices right).length := by
  rw [length_choices, length_choices]
  exact (h.map _).prod_eq

variable {combo : DefineCombo}

lemma buildVariantName_eq (h : combo.entries ≠ []) :
    buildVariantName combo = joinAssignments combo.entries.sortByKey := by
  rw [buildVariantName]
  match hentries : combo.entries with
  | [] => exact absurd hentries h
  | [entry] =>
    show assignmentText entry = joinAssignments [entry]
    rw [joinAssignments, List.map_singleton, List.intercalate_singleton]
  | first :: second :: others => rfl

/-- A combination without the reserved defines gets both, when its size does not overflow. -/
lemma buildClipDefineCombo_eq (hinterval : intervalSampleEnabledImplicitDefineName ∉ combo.keys)
    (hclip : clipImplicitDefineName ∉ combo.keys) :
    ∃ clipped : DefineCombo, clipped.entries = combo.entries ++
        [(intervalSampleEnabledImplicitDefineName, intervalSampleEnabledImplicitDefineValue),
          (clipImplicitDefineName, enabledImplicitDefineValue)] ∧
      buildClipDefineCombo combo =
        if combo.size > usizeMax - addedDefineCount then .error .sizeOverflow else .ok clipped := by
  obtain ⟨hsampled, hadded⟩ := CookMap.tryEmplace_of_notMem hinterval
    intervalSampleEnabledImplicitDefineValue
  rw [buildClipDefineCombo, CookMap.copyEntries_eq]
  generalize combo.tryEmplace intervalSampleEnabledImplicitDefineName
    intervalSampleEnabledImplicitDefineValue = added at hsampled hadded ⊢
  obtain ⟨sampled, inserted⟩ := added
  obtain rfl : inserted = true := hadded
  have hclip' : clipImplicitDefineName ∉ sampled.keys := by
    intro hkey
    rw [CookMap.keys, hsampled, List.map_append] at hkey
    rcases List.mem_append.1 hkey with hkey | hkey
    · exact hclip hkey
    · exact absurd (List.mem_singleton.1 hkey) (by decide)
  obtain ⟨hclipped, hadded⟩ := CookMap.tryEmplace_of_notMem hclip' enabledImplicitDefineValue
  dsimp only
  generalize sampled.tryEmplace clipImplicitDefineName enabledImplicitDefineValue = added
    at hclipped hadded ⊢
  obtain ⟨clipped, inserted⟩ := added
  obtain rfl : inserted = true := hadded
  refine ⟨clipped, ?_, rfl⟩
  rw [hclipped, hsampled, List.append_assoc]
  rfl

lemma map_fst_of_mem_choices {choice : List (Text × Text)} (h : choice ∈ choices defines) :
    choice.map Prod.fst = defines.map Prod.fst := by
  induction defines generalizing choice with
  | nil =>
    rw [List.mem_singleton.1 h]
    rfl
  | cons define rest ih =>
    obtain ⟨value, -, hmem⟩ := List.mem_flatMap.1 h
    obtain ⟨others, hothers, rfl⟩ := List.mem_map.1 hmem
    rw [List.map_cons, List.map_cons, ih hothers]

end NwbLot.Shader
