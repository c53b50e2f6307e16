import NwbLot.Shader.VariantField

/-!
# A validated variant is cooked

A material names the variant of its shaders, the cook compiles one shader for every combination of
defines, and the renderer looks the shader up by a name that it builds itself.  The names agree.

The assignments of a validated variant are one of the combinations that the cook expands, and the
name that it has there is the canonical text of the variant.
-/

namespace NwbLot.Shader

open Crash (Text ascii)

/-! ## The combination that a variant names -/

lemma keySorted_map_fst {left : List (Text × Text)} {defines : List (Text × List Text)}
    (hleft : left.KeySorted) (hdefines : defines.KeySorted)
    (h : (left.map Prod.fst).Perm (defines.map Prod.fst)) :
    left.map Prod.fst = defines.map Prod.fst := by
  have hsorted : (left.map Prod.fst).Pairwise (· < ·) := List.pairwise_map.2 hleft
  have hsorted' : (defines.map Prod.fst).Pairwise (· < ·) := List.pairwise_map.2 hdefines
  exact h.eq_of_pairwise (fun a b _ _ hlt hgt => absurd (Std.lt_trans hlt hgt) Std.lt_irrefl)
    hsorted hsorted'

/-- Assignments of listed values to all the defines are one of the choices. -/
lemma mem_choices {assignments : List (Text × Text)} {defines : List (Text × List Text)}
    (hnodup : (defines.map Prod.fst).Nodup)
    (hkeys : assignments.map Prod.fst = defines.map Prod.fst)
    (hvalues : ∀ assignment ∈ assignments, ∃ values,
      (assignment.1, values) ∈ defines ∧ assignment.2 ∈ values) : assignments ∈ choices defines := by
  induction defines generalizing assignments with
  | nil =>
    obtain rfl := List.map_eq_nil_iff.1 hkeys
    exact List.mem_cons_self
  | cons define rest ih =>
    obtain ⟨defineName, listed⟩ := define
    obtain ⟨hfresh, hrestNodup⟩ := List.nodup_cons.1 hnodup
    cases assignments with
    | nil => exact nomatch hkeys
    | cons assignment others =>
      obtain ⟨name, value⟩ := assignment
      obtain ⟨hname, hothers⟩ := List.cons.inj hkeys
      obtain rfl : name = defineName := hname
      obtain ⟨hfirst, hvalues⟩ := List.forall_mem_cons.1 hvalues
      have hvalue : value ∈ listed := by
        obtain ⟨values, hmem, hin⟩ := hfirst
        rcases List.mem_cons.1 hmem with heq | hmem
        · exact (Prod.mk.inj heq).2 ▸ hin
        · exact absurd (List.mem_map_of_mem (f := Prod.fst) hmem) hfresh
      have hrest : others ∈ choices rest := by
        refine ih hrestNodup hothers fun other hother => ?_
        obtain ⟨values, hmem, hin⟩ := hvalues other hother
        rcases List.mem_cons.1 hmem with heq | hmem
        · have hkey : other.1 ∈ rest.map Prod.fst := hothers ▸ List.mem_map_of_mem hother
          exact absurd ((Prod.mk.inj heq).1 ▸ hkey) hfresh
        · exact ⟨values, hmem, hin⟩
      exact List.mem_flatMap.2 ⟨value, hvalue, List.mem_map_of_mem hrest⟩

/-- The combinations are the choices for the defines by increasing names. -/
lemma expandDefineCombinations_spec {defines : CookMap (List Text)}
    (hwell : WellFormedDefines defines)
    (hcount : (defines.entries.map fun define => define.2.length).prod < 2 ^ 64) :
    ∃ combos, expandDefineCombinations defines = some combos ∧
      combos.map CookMap.entries = choices defines.entries.sortByKey ∧
      countShaderVariants defines = .ok combos.length := by
  have hperm := List.perm_sortByKey defines.entries
  have hlength : (choices defines.entries.sortByKey).length = (choices defines.entries).length :=
    length_choices_perm hperm
  have hfits : (choices defines.entries).length ≤ usizeMax := by
    rw [length_choices]
    exact Nat.le_of_lt_succ hcount
  have hnodup : (defines.entries.sortByKey.map Prod.fst).Nodup :=
    (hperm.map Prod.fst).nodup_iff.2 defines.nodup
  have hfresh : ∀ combo ∈ [(CookMap.empty : DefineCombo)],
      ∀ define ∈ defines.entries.sortByKey, define.1 ∉ combo.keys := by
    intro combo hcombo define _ hkey
    rw [List.mem_singleton.1 hcombo] at hkey
    exact List.not_mem_nil hkey
  have hsorted : [(CookMap.empty : DefineCombo)].length *
      (choices defines.entries.sortByKey).length ≤ usizeMax := by
    rw [hlength, List.length_singleton, Nat.one_mul]
    exact hfits
  obtain ⟨combos, hexpand, hentries⟩ := expandEntries_spec hnodup
    (fun define hdefine => (hwell define (List.mem_sortByKey.1 hdefine)).2.1) hfresh hsorted
  have hchoices : combos.map CookMap.entries = choices defines.entries.sortByKey := by
    rw [hentries, List.flatMap_singleton]
    exact List.map_id _
  refine ⟨combos, hexpand, hchoices, ?_⟩
  have hcombos : combos.length = (choices defines.entries).length := by
    rw [← hlength, ← hchoices, List.length_map]
  rw [countShaderVariants, countDefines_eq (fun define hdefine => (hwell define hdefine).2.1)
    (by rw [Nat.one_mul]; exact hfits), Nat.one_mul, hcombos]

/-! ## The names of a combination -/

/-- The run time and the cook give a clip variant the same name. -/
lemma buildCsgClipShaderVariantName_eq {combo : DefineCombo}
    (hclean : ∀ entry ∈ combo.entries, CleanAssignment entry)
    (hinterval : intervalSampleEnabledImplicitDefineName ∉ combo.keys)
    (hclip : clipImplicitDefineName ∉ combo.keys) {clipped : DefineCombo}
    (hclipped : clipped.entries = combo.entries ++
      [(intervalSampleEnabledImplicitDefineName, intervalSampleEnabledImplicitDefineValue),
        (clipImplicitDefineName, enabledImplicitDefineValue)]) :
    buildCsgClipShaderVariantName (buildVariantName combo) csgDefineAssignments =
      some (buildVariantName clipped) := by
  -- the run time lists the two assignments by their names
  generalize hpending : [(clipImplicitDefineName, enabledImplicitDefineValue),
    (intervalSampleEnabledImplicitDefineName, intervalSampleEnabledImplicitDefineValue)] = pending
  have hassignments : csgDefineAssignments = pending.map defineAssignment := by
    rw [← hpending]
    decide
  have hsorted : pending.KeySorted := by
    rw [← hpending]
    refine List.pairwise_pair.2 ?_
    decide
  have hmem : ∀ entry, entry ∈ pending ∨ entry ∈ combo.entries ↔ entry ∈ clipped.entries := by
    intro entry
    rw [hclipped, ← hpending, List.mem_append, or_comm]
    exact or_congr_right (List.Perm.swap _ _ []).mem_iff
  have hclippedName : buildVariantName clipped = joinAssignments clipped.entries.sortByKey :=
    buildVariantName_eq (hclipped ▸ List.append_ne_nil_of_right_ne_nil _ (List.cons_ne_nil _ _))
  rw [hclippedName]
  by_cases hempty : combo.entries = []
  · have hname : buildVariantName combo = defaultVariant := by
      rw [buildVariantName, hempty]
    rw [hname, hclipped, hempty]
    decide
  · have hsortedClean : ∀ entry ∈ combo.entries.sortByKey, CleanAssignment entry :=
      fun entry hentry => hclean entry (List.mem_sortByKey.1 hentry)
    have hne : combo.entries.sortByKey ≠ [] := by
      rw [← List.length_pos_iff_ne_nil, List.length_sortByKey]
      exact List.length_pos_of_ne_nil hempty
    have hequals := charEquals_mem_joinAssignments hne
    have hnonempty : ¬(joinAssignments combo.entries.sortByKey = [] ∨
        csgDefineAssignments.length = 0) := by
      rintro (hnil | hnil)
      · rw [hnil] at hequals
        exact List.not_mem_nil hequals
      · exact absurd hnil (by decide)
    have hcount : ¬csgDefineAssignments.length > maxCsgClipShaderVariantDefineAssignments := by
      decide
    have hdefault : joinAssignments combo.entries.sortByKey ≠ defaultVariant := by
      intro heq
      rw [heq] at hequals
      exact absurd hequals (by decide)
    have hfresh : ∀ other ∈ pending, ∀ entry ∈ combo.entries.sortByKey, other.1 ≠ entry.1 := by
      intro other hother entry hentry heq
      have hkey : other.1 ∈ combo.keys :=
        heq ▸ List.mem_map_of_mem (List.mem_sortByKey.1 hentry)
      rw [← hpending] at hother
      rcases List.mem_cons.1 hother with rfl | hother
      · exact hclip hkey
      · rw [List.mem_singleton.1 hother] at hkey
        exact hinterval hkey
    have hdefines : ∀ entry ∈ combo.entries.sortByKey, ∀ define ∈ csgDefineAssignments,
        entry.1 ≠ define.name := by
      intro entry hentry define hdefine
      rw [hassignments] at hdefine
      obtain ⟨other, hother, rfl⟩ := List.mem_map.1 hdefine
      exact (hfresh other hother entry hentry).symm
    have hmerged : pending.mergeByKey combo.entries.sortByKey = clipped.entries.sortByKey := by
      refine (hsorted.mergeByKey (List.keySorted_sortByKey combo.nodup) hfresh).eq_sortByKey
        clipped.nodup fun entry => ?_
      rw [List.mem_mergeByKey, List.mem_sortByKey]
      exact hmem entry
    have hmerge : (mergeSegments csgDefineAssignments
        (combo.entries.sortByKey.map assignmentText) (pending.map defineAssignment) []).map
          (fun merged => appendAssignments merged.2 merged.1) = some _ :=
      mergeSegments_eq hsortedClean hdefines
    have hwritten : (pending.mergeByKey combo.entries.sortByKey).foldl _ (joinAssignments []) =
        joinAssignments ([] ++ pending.mergeByKey combo.entries.sortByKey) :=
      foldl_appendSegment _
    rw [← hassignments] at hmerge
    rw [buildVariantName_eq hempty, buildCsgClipShaderVariantName, if_neg hnonempty, if_neg hcount,
      if_neg hdefault, variantSegments_joinAssignments hne hsortedClean]
    refine hmerge.trans (congrArg some ?_)
    rw [← hmerged]
    exact hwritten

/-! ## The contract -/

/-- The combination that a validated variant names. -/
lemma exists_combo_of_valid {defines : CookMap (List Text)} {combos : List DefineCombo}
    (hentries : combos.map CookMap.entries = choices defines.entries.sortByKey)
    {assignments : CookMap Text} (hne : assignments.entries ≠ [])
    (hclean : ∀ assignment ∈ assignments.entries, CleanAssignment assignment)
    (hvalid : validateVariantSignature (joinAssignments assignments.entries.sortByKey) defines =
      .ok ()) :
    ∃ combo ∈ combos, combo.entries = assignments.entries.sortByKey := by
  have hsortedNe : assignments.entries.sortByKey ≠ [] := by
    rw [← List.length_pos_iff_ne_nil, List.length_sortByKey]
    exact List.length_pos_of_ne_nil hne
  obtain ⟨hlength, hvalues⟩ := validateVariantSignature_spec hsortedNe
    (fun assignment hmem => hclean assignment (List.mem_sortByKey.1 hmem)) hvalid
  have hsorted := List.keySorted_sortByKey assignments.nodup
  have hdefines := List.keySorted_sortByKey defines.nodup
  have hnodup : (defines.entries.sortByKey.map Prod.fst).Nodup :=
    ((List.perm_sortByKey _).map Prod.fst).nodup_iff.2 defines.nodup
  have hnodupLeft : (assignments.entries.sortByKey.map Prod.fst).Nodup :=
    ((List.perm_sortByKey _).map Prod.fst).nodup_iff.2 assignments.nodup
  have hsubset : assignments.entries.sortByKey.map Prod.fst ⊆
      defines.entries.sortByKey.map Prod.fst := by
    intro name hname
    obtain ⟨assignment, hassignment, rfl⟩ := List.mem_map.1 hname
    obtain ⟨values, hmem, -⟩ := hvalues assignment hassignment
    exact List.mem_map_of_mem (f := Prod.fst) (List.mem_sortByKey.2 hmem)
  have hperm : (assignments.entries.sortByKey.map Prod.fst).Perm
      (defines.entries.sortByKey.map Prod.fst) := by
    refine (List.subperm_of_subset hnodupLeft hsubset).perm_of_length_le ?_
    rw [List.length_map, List.length_map, hlength, List.length_sortByKey]
    exact Nat.le_refl _
  have hchoice : assignments.entries.sortByKey ∈ choices defines.entries.sortByKey := by
    refine mem_choices hnodup (keySorted_map_fst hsorted hdefines hperm) fun assignment hmem => ?_
    obtain ⟨values, hlisted, hvalue⟩ := hvalues assignment hmem
    exact ⟨values, List.mem_sortByKey.2 hlisted, hvalue⟩
  rw [← hentries] at hchoice
  exact List.mem_map.1 hchoice

/-- A define map that was parsed, without the defines of the clip variants, expands to one
combination for every choice of a listed value for every define.  A material variant that is parsed
and validated for it is the name of one of these, the one that assigns what the text says, and the
name of its clip variant is the one that the cook gives. -/
theorem shaderVariant_contract {definesVal : Option Value} {defines : CookMap (List Text)}
    (hparse : parseDefines definesVal = .ok defines)
    (hreserved : ∀ name ∈ defines.keys,
      name ≠ clipImplicitDefineName ∧ name ≠ intervalSampleEnabledImplicitDefineName)
    (hcount : (defines.entries.map fun define => define.2.length).prod < 2 ^ 64) :
    ∃ combos, expandDefineCombinations defines = some combos ∧
      countShaderVariants defines = .ok combos.length ∧
      (combos.map fun combo => combo.entries.sortByKey).Perm
        (defines.entries.sortByKey.map fun define =>
          define.2.map fun value => (define.1, value)).sections ∧
      ∀ shaderVariant variant, parseVariantField shaderVariant = .ok variant →
        validateVariantSignature variant defines = .ok () →
        ∃ value text, shaderVariant = some value ∧ rawVariantText value = .ok text ∧
          ∃ combo ∈ combos, variant = buildVariantName combo ∧
            (∀ defineName defineValue, combo.find defineName = some defineValue ↔
              Assigns text defineName defineValue) ∧
            ∃ clipName,
              buildCsgClipShaderVariantName variant csgDefineAssignments = some clipName ∧
              (∀ clipped, buildClipDefineCombo combo = .ok clipped →
                clipName = buildVariantName clipped) ∧
              (combo.size ≤ usizeMax - addedDefineCount →
                ∃ clipped, buildClipDefineCombo combo = .ok clipped) := by
  obtain ⟨combos, hexpand, hentries, hannounced⟩ :=
    expandDefineCombinations_spec (parseDefines_wellFormed hparse) hcount
  have hdefines := List.keySorted_sortByKey defines.nodup
  have hkeys : ∀ combo ∈ combos,
      combo.entries.map Prod.fst = defines.entries.sortByKey.map Prod.fst := fun combo hcombo =>
    map_fst_of_mem_choices (hentries ▸ List.mem_map_of_mem hcombo)
  have hsorted : ∀ combo ∈ combos, combo.entries.KeySorted := by
    intro combo hcombo
    have hnames : (combo.entries.map Prod.fst).Pairwise (· < ·) := by
      rw [hkeys combo hcombo]
      exact List.pairwise_map.2 hdefines
    exact List.pairwise_map.1 hnames
  refine ⟨combos, hexpand, hannounced, ?_, ?_⟩
  · have hlisted : (combos.map fun combo => combo.entries.sortByKey) =
        combos.map CookMap.entries :=
      List.map_congr_left fun combo hcombo => (hsorted combo hcombo).sortByKey_eq
    rw [hlisted, hentries]
    exact choices_perm_sections _
  · intro shaderVariant variant hfield hvalid
    obtain ⟨value, text, hvalue, htext, assignments, hclean, hassigns, hvariant⟩ :=
      parseVariantField_spec hfield
    refine ⟨value, text, hvalue, htext, ?_⟩
    obtain ⟨combo, hcombo, hcomboEntries, hname⟩ : ∃ combo ∈ combos,
        combo.entries = assignments.entries.sortByKey ∧ variant = buildVariantName combo := by
      rcases hvariant with ⟨hempty, rfl⟩ | ⟨hne, rfl⟩
      · have hsize : defines.entries = [] := by
          rw [validateVariantSignature, if_neg (by decide), if_pos rfl] at hvalid
          split_ifs at hvalid with hsize
          exact List.length_eq_zero_iff.1 hsize
        rw [hsize] at hentries
        have hmem : [] ∈ combos.map CookMap.entries := hentries ▸ List.mem_cons_self
        obtain ⟨combo, hcombo, hnil⟩ := List.mem_map.1 hmem
        refine ⟨combo, hcombo, by rw [hnil, hempty]; rfl, ?_⟩
        rw [buildVariantName, hnil]
      · obtain ⟨combo, hcombo, heq⟩ := exists_combo_of_valid hentries hne hclean hvalid
        have hcomboNe : combo.entries ≠ [] := by
          rw [heq, ← List.length_pos_iff_ne_nil, List.length_sortByKey]
          exact List.length_pos_of_ne_nil hne
        refine ⟨combo, hcombo, heq, ?_⟩
        rw [buildVariantName_eq hcomboNe, (hsorted combo hcombo).sortByKey_eq, heq]
    have hunreserved : ∀ name ∈ combo.keys,
        name ≠ clipImplicitDefineName ∧ name ≠ intervalSampleEnabledImplicitDefineName := by
      intro name hmem
      rw [CookMap.keys, hkeys combo hcombo] at hmem
      exact hreserved name (((List.perm_sortByKey _).map Prod.fst).mem_iff.1 hmem)
    have hinterval : intervalSampleEnabledImplicitDefineName ∉ combo.keys :=
      fun hmem => (hunreserved _ hmem).2 rfl
    have hclip : clipImplicitDefineName ∉ combo.keys := fun hmem => (hunreserved _ hmem).1 rfl
    have hcomboClean : ∀ entry ∈ combo.entries, CleanAssignment entry := by
      intro entry hentry
      rw [hcomboEntries] at hentry
      exact hclean entry (List.mem_sortByKey.1 hentry)
    refine ⟨combo, hcombo, hname, ?_, ?_⟩
    · intro defineName defineValue
      rw [CookMap.find_eq_some_iff, hcomboEntries, List.mem_sortByKey]
      exact (hassigns defineName defineValue).symm
    · obtain ⟨clipped, hclippedEntries, hbuild⟩ := buildClipDefineCombo_eq hinterval hclip
      refine ⟨buildVariantName clipped, ?_, ?_, ?_⟩
      · rw [hname]
        exact buildCsgClipShaderVariantName_eq hcomboClean hinterval hclip hclippedEntries
      · intro other hother
        rw [hbuild] at hother
        split_ifs at hother
        exact congrArg buildVariantName (Except.ok.inj hother)
      · intro hsize
        exact ⟨clipped, by rw [hbuild, if_neg (Nat.not_lt.2 hsize)]⟩

/-- A shader with two values for each of two names, in a meta document. -/
def shadowDefines : Value :=
  .map [(ascii "MODE", .list [.string (ascii "0"), .string (ascii "1")]),
    (ascii "SHADOW", .list [.string (ascii "OFF"), .string (ascii "ON")])]

/-- A variant that a material writes in its own order and with blanks is one of the four that are
cooked, and with clipping it is found under the name it is cooked by. -/
theorem shaderVariant_contract_shadow : ∃ defines combos,
    parseDefines (some shadowDefines) = .ok defines ∧
      expandDefineCombinations defines = some combos ∧ combos.length = 4 ∧
      parseVariantField (some (.string (ascii "SHADOW = ON ; MODE = 1 ;")))
        = .ok (ascii "MODE=1;SHADOW=ON") ∧
      ∃ combo ∈ combos, ascii "MODE=1;SHADOW=ON" = buildVariantName combo ∧
        combo.find (ascii "SHADOW") = some (ascii "ON") ∧
        ∃ clipped, buildClipDefineCombo combo = .ok clipped ∧
          buildCsgClipShaderVariantName (ascii "MODE=1;SHADOW=ON") csgDefineAssignments
            = some (buildVariantName clipped) := by
  have hparse : parseDefines (some shadowDefines) = .ok
      { entries :=
          [(ascii "MODE", [ascii "0", ascii "1"]), (ascii "SHADOW", [ascii "OFF", ascii "ON"])]
        nodup := by decide } := rfl
  obtain ⟨combos, hexpand, hcount, -, hvariants⟩ :=
    shaderVariant_contract hparse (by decide) (by decide)
  have hfield : parseVariantField (some (.string (ascii "SHADOW = ON ; MODE = 1 ;"))) =
      .ok (ascii "MODE=1;SHADOW=ON") := by decide
  obtain ⟨value, text, hvalue, htext, combo, hcombo, hname, hassigns, clipName, hclip, hcooked,
    hfits⟩ := hvariants _ _ hfield (by decide)
  obtain rfl := Option.some.inj hvalue
  obtain rfl := Except.ok.inj htext
  have hsmall : combo.size ≤ usizeMax - addedDefineCount := by
    have hall : (expandDefineCombinations
        { entries :=
            [(ascii "MODE", [ascii "0", ascii "1"]), (ascii "SHADOW", [ascii "OFF", ascii "ON"])]
          nodup := by decide }).all (fun combos => combos.all fun combo =>
        decide (combo.size ≤ usizeMax - addedDefineCount)) = true := by decide
    rw [hexpand, Option.all_some] at hall
    exact of_decide_eq_true (List.all_eq_true.1 hall combo hcombo)
  obtain ⟨clipped, hclipped⟩ := hfits hsmall
  refine ⟨_, combos, hparse, hexpand, (Except.ok.inj hcount).symm, hfield, combo, hcombo, hname,
    (hassigns _ _).2 ?_, clipped, hclipped, hcooked clipped hclipped ▸ hclip⟩
  exact ⟨ascii "SHADOW = ON ", by decide, ascii "SHADOW ", ascii " ON ", rfl, by decide, by decide,
    by decide⟩

end NwbLot.Shader
