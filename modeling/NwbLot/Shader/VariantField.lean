import NwbLot.Shader.DefineCombos

/-!
# The variant of a material

`ParseVariantField` brings the `shader_variant` of a material into its canonical form, and
`ValidateVariantSignature` checks a variant against the defines of a shader.

Both walk the segments of a text.  What a text `Assigns` does not depend on the order of its
segments, and a validated text assigns a listed value to every define of the shader.
-/

namespace NwbLot.Shader

open Crash (Text ascii)

/-- Why a variant field is refused. -/
inductive VariantFieldFault
  | required
  | listElementsNotStrings
  | notStringOrList
  | empty
  | invalidSignature (rawVariant : Text)
  deriving DecidableEq, Repr

/-- The text of the field; the elements of a list become segments. -/
def rawVariantText : Value → Except VariantFieldFault Text
  | .list elements =>
    match elements.mapM Value.asString with
    | none => .error .listElementsNotStrings
    | some texts => .ok ([charSemicolon].intercalate texts)
  | .string text => .ok text
  | _ => .error .notStringOrList

/-- The loop of `ParseVariantField` over the segments. -/
def collectAssignments : List Text → CookMap Text → Option (CookMap Text)
  | [], assignments => some assignments
  | segment :: rest, assignments =>
    match parseAssignment segment with
    | .error _ => none
    | .ok (defineName, defineValue) =>
      match assignments.tryEmplace defineName defineValue with
      | (_, false) => none
      | (emplaced, true) => collectAssignments rest emplaced

/-- The assignments in the order of their names. -/
def canonicalVariant (assignments : CookMap Text) : Text :=
  match assignments.entries with
  | [assignment] => assignmentText assignment
  | entries => joinAssignments entries.sortByKey

/-- `ParseVariantField`, where `variantValue` is the field of the asset. -/
def parseVariantField (variantValue : Option Value) : Except VariantFieldFault Text :=
  match variantValue with
  | none => .error .required
  | some value =>
    match rawVariantText value with
    | .error fault => .error fault
    | .ok rawVariant =>
      let rawVariantView := trimView rawVariant
      if rawVariantView = [] then .error .empty
      else if rawVariantView = defaultVariant then .ok defaultVariant
      else
        match collectAssignments (variantSegments rawVariantView) .empty with
        | none => .error (.invalidSignature rawVariantView)
        | some assignments => .ok (canonicalVariant assignments)

/-- Why a signature is refused. -/
inductive SignatureFault
  | defaultWithDefines
  | definesRequired
  | emptySegment
  | invalidAssignment (segment : Text)
  | unknownDefine (defineName : Text)
  | unsupportedValue (defineValue defineName : Text)
  | assignedTwice (defineName : Text)
  | notAllAssigned
  deriving DecidableEq, Repr

section Segments

local instance lawfulTextComparison : LawfulBEq Text := inferInstance

/-- The loop of `ValidateVariantSignature`: the defines that the segments assign. -/
def validateSegments (defineValues : CookMap (List Text)) :
    List Text → List Text → Except SignatureFault (List Text)
  | [], seenDefines => .ok seenDefines
  | rawSegment :: rest, seenDefines =>
    match parseAssignment rawSegment with
    | .error .empty => .error .emptySegment
    | .error (.invalidAssignment segment) => .error (.invalidAssignment segment)
    | .ok (defineName, defineValue) =>
      match defineValues.find defineName with
      | none => .error (.unknownDefine defineName)
      | some values =>
        if defineValue ∉ values then .error (.unsupportedValue defineValue defineName)
        else if defineName ∈ seenDefines then .error (.assignedTwice defineName)
        else validateSegments defineValues rest (defineName :: seenDefines)

end Segments

/-- The signature assigns every define one of its values. -/
def validateVariantSignature (variantSignature : Text) (defineValues : CookMap (List Text)) :
    Except SignatureFault Unit :=
  if variantSignature = [] then .ok ()
  else if variantSignature = defaultVariant then
    if defineValues.size = 0 then .ok () else .error .defaultWithDefines
  else if defineValues.size = 0 then .error .definesRequired
  else
    match validateSegments defineValues (variantSegments variantSignature) [] with
    | .error fault => .error fault
    | .ok seenDefines =>
      if seenDefines.length ≠ defineValues.size then .error .notAllAssigned else .ok ()

/-! ## What a text assigns -/

/-- A segment of the text gives the value to the name. -/
def Assigns (text defineName defineValue : Text) : Prop :=
  ∃ segment ∈ text.splitOn charSemicolon, ∃ left right,
    segment = left ++ charEquals :: right ∧ charEquals ∉ left ∧
      trimView left = defineName ∧ trimView right = defineValue

/-- The assignments that are collected are those of the segments. -/
lemma collectAssignments_spec {segments : List Text} {assignments out : CookMap Text}
    (h : collectAssignments segments assignments = some out) :
    ∃ read, segments.map parseAssignment = read.map Except.ok ∧
      out.entries = assignments.entries ++ read := by
  induction segments generalizing assignments with
  | nil => exact ⟨[], rfl, by rw [Option.some.inj h, List.append_nil]⟩
  | cons segment rest ih =>
    rw [collectAssignments] at h
    cases hparse : parseAssignment segment with
    | error fault =>
      rw [hparse] at h
      exact nomatch h
    | ok assignment =>
      obtain ⟨defineName, defineValue⟩ := assignment
      rw [hparse] at h
      dsimp only at h
      by_cases hkey : defineName ∈ assignments.keys
      · rw [CookMap.tryEmplace_of_mem hkey] at h
        exact nomatch h
      · obtain ⟨hentries, hinserted⟩ := CookMap.tryEmplace_of_notMem hkey defineValue
        generalize assignments.tryEmplace defineName defineValue = added at hentries hinserted h
        obtain ⟨emplaced, inserted⟩ := added
        obtain rfl : inserted = true := hinserted
        obtain ⟨read, hread, hout⟩ := ih h
        refine ⟨(defineName, defineValue) :: read, ?_, ?_⟩
        · rw [List.map_cons, List.map_cons, hparse, hread]
        · rw [hout, hentries, List.append_assoc]
          rfl

/-- Trimming the text first does not change what its segments say. -/
lemma exists_segment_trimView {text segment : Text} :
    (segment ∈ text.splitOn charSemicolon →
      ∃ other ∈ (trimView text).splitOn charSemicolon, trimView other = trimView segment) ∧
    (segment ∈ (trimView text).splitOn charSemicolon →
      ∃ other ∈ text.splitOn charSemicolon, trimView other = trimView segment) := by
  have hsegments : ((trimView text).splitOn charSemicolon).map trimView =
      (text.splitOn charSemicolon).map trimView :=
    List.map_trimWhile_splitOn (by rfl) text
  constructor
  · intro h
    exact List.mem_map.1 (hsegments ▸ List.mem_map_of_mem h)
  · intro h
    exact List.mem_map.1 (hsegments.symm ▸ List.mem_map_of_mem h)

/-- When every visited segment is read, what is read is what the text assigns. -/
lemma assigns_iff_mem {text : Text} {read : List (Text × Text)}
    (hread : (variantSegments (trimView text)).map parseAssignment = read.map Except.ok)
    (defineName defineValue : Text) :
    Assigns text defineName defineValue ↔ (defineName, defineValue) ∈ read := by
  constructor
  · rintro ⟨segment, hsegment, left, right, rfl, hleft, rfl, rfl⟩
    obtain ⟨other, hother, htrim⟩ := exists_segment_trimView.1 hsegment
    have hne : other ≠ [] := by
      rintro rfl
      have hequals : charEquals ∈ trimView (left ++ charEquals :: right) :=
        List.mem_trimWhile_of_neg isAsciiSpace_charEquals
          (List.mem_append_right _ List.mem_cons_self)
      rw [← htrim] at hequals
      exact List.not_mem_nil hequals
    have hparsed : parseAssignment other ∈ read.map Except.ok :=
      hread ▸ List.mem_map_of_mem (mem_variantSegments_of_ne_nil hother hne)
    obtain ⟨assignment, hmem, hparse⟩ := List.mem_map.1 hparsed
    rw [parseAssignment_congr htrim] at hparse
    rw [((parseAssignment_append hleft right assignment).1 hparse.symm).1]
    exact hmem
  · intro hmem
    have hparsed : Except.ok (defineName, defineValue) ∈
        (variantSegments (trimView text)).map parseAssignment :=
      hread.symm ▸ List.mem_map_of_mem hmem
    obtain ⟨segment, hsegment, hparse⟩ := List.mem_map.1 hparsed
    obtain ⟨other, hother, htrim⟩ :=
      exists_segment_trimView.2 (mem_splitOn_of_mem_variantSegments hsegment)
    rw [← parseAssignment_congr htrim] at hparse
    obtain ⟨left, right, hsplit, hleft, hname, hvalue, -⟩ := parseAssignment_eq_ok_iff.1 hparse
    exact ⟨other, hother, left, right, hsplit, hleft, hname, hvalue⟩

lemma canonicalVariant_eq (assignments : CookMap Text) :
    canonicalVariant assignments = joinAssignments assignments.entries.sortByKey := by
  rw [canonicalVariant]
  match assignments.entries with
  | [assignment] =>
    show assignmentText assignment = joinAssignments [assignment]
    rw [joinAssignments, List.map_singleton, List.intercalate_singleton]
  | [] => rfl
  | first :: second :: others => rfl

/-- What `ParseVariantField` accepts is a map of clean assignments, written by increasing names. -/
lemma parseVariantField_spec {variantValue : Option Value} {variant : Text}
    (h : parseVariantField variantValue = .ok variant) :
    ∃ value text, variantValue = some value ∧ rawVariantText value = .ok text ∧
      ∃ assignments : CookMap Text,
        (∀ assignment ∈ assignments.entries, CleanAssignment assignment) ∧
        (∀ defineName defineValue, Assigns text defineName defineValue ↔
          (defineName, defineValue) ∈ assignments.entries) ∧
        (assignments.entries = [] ∧ variant = defaultVariant ∨
          assignments.entries ≠ [] ∧ variant = joinAssignments assignments.entries.sortByKey) := by
  cases variantValue with
  | none => exact nomatch h
  | some value =>
    rw [parseVariantField] at h
    cases htext : rawVariantText value with
    | error fault =>
      rw [htext] at h
      exact nomatch h
    | ok text =>
      rw [htext] at h
      dsimp only at h
      refine ⟨value, text, rfl, htext, ?_⟩
      split_ifs at h with hempty hdefault
      · -- the text of the default variant has no `=`
        refine ⟨.empty, fun _ hmem => absurd hmem List.not_mem_nil, ?_,
          Or.inl ⟨rfl, (Except.ok.inj h).symm⟩⟩
        intro defineName defineValue
        refine iff_of_false ?_ List.not_mem_nil
        rintro ⟨segment, hsegment, left, right, rfl, -⟩
        obtain ⟨other, hother, htrim⟩ := exists_segment_trimView.1 hsegment
        have hequals : charEquals ∈ trimView (left ++ charEquals :: right) :=
          List.mem_trimWhile_of_neg isAsciiSpace_charEquals
            (List.mem_append_right _ List.mem_cons_self)
        rw [hdefault] at hother
        have hsplit : defaultVariant.splitOn charSemicolon = [defaultVariant] :=
          List.splitOn_eq_singleton (by decide)
        rw [hsplit, List.mem_singleton] at hother
        subst hother
        rw [← htrim] at hequals
        exact absurd hequals (by decide)
      · cases hcollect : collectAssignments (variantSegments (trimView text)) .empty with
        | none =>
          rw [hcollect] at h
          exact nomatch h
        | some assignments =>
          rw [hcollect] at h
          obtain ⟨read, hread, hentries⟩ := collectAssignments_spec hcollect
          have hentries : assignments.entries = read := hentries
          refine ⟨assignments, ?_, ?_, Or.inr ⟨?_, ?_⟩⟩
          · intro assignment hmem
            rw [hentries] at hmem
            have hparsed : Except.ok assignment ∈
                (variantSegments (trimView text)).map parseAssignment :=
              hread.symm ▸ List.mem_map_of_mem hmem
            obtain ⟨segment, hsegment, hparse⟩ := List.mem_map.1 hparsed
            exact CleanAssignment.of_parse (semicolon_notMem_of_mem hsegment) hparse
          · intro defineName defineValue
            rw [hentries]
            exact assigns_iff_mem hread defineName defineValue
          · rw [hentries]
            rintro rfl
            exact variantSegments_ne_nil hempty (List.map_eq_nil_iff.1 hread)
          · rw [← canonicalVariant_eq]
            exact (Except.ok.inj h).symm

/-! ## What the validation checks -/

lemma validateSegments_spec {defineValues : CookMap (List Text)} {assignments : List (Text × Text)}
    {seenDefines out : List Text}
    (hclean : ∀ assignment ∈ assignments, CleanAssignment assignment)
    (h : validateSegments defineValues (assignments.map assignmentText) seenDefines = .ok out) :
    out.length = seenDefines.length + assignments.length ∧
      ∀ assignment ∈ assignments, ∃ values, (assignment.1, values) ∈ defineValues.entries ∧
        assignment.2 ∈ values := by
  induction assignments generalizing seenDefines with
  | nil => exact ⟨by rw [Except.ok.inj h]; rfl, fun _ hmem => absurd hmem List.not_mem_nil⟩
  | cons assignment rest ih =>
    obtain ⟨hfirst, hrest⟩ := List.forall_mem_cons.1 hclean
    rw [List.map_cons, validateSegments, hfirst.parse] at h
    dsimp only at h
    cases hfind : defineValues.find assignment.1 with
    | none =>
      rw [hfind] at h
      cases h
    | some values =>
      rw [hfind] at h
      dsimp only at h
      split_ifs at h with hvalue hseen
      obtain ⟨hlength, hvalues⟩ := ih hrest h
      refine ⟨?_, List.forall_mem_cons.2 ⟨⟨values, CookMap.find_eq_some_iff.1 hfind, hvalue⟩,
        hvalues⟩⟩
      rw [hlength, List.length_cons, List.length_cons]
      omega

/-- A written variant that passes assigns every define one of its values. -/
lemma validateVariantSignature_spec {defineValues : CookMap (List Text)}
    {assignments : List (Text × Text)} (hne : assignments ≠ [])
    (hclean : ∀ assignment ∈ assignments, CleanAssignment assignment)
    (h : validateVariantSignature (joinAssignments assignments) defineValues = .ok ()) :
    assignments.length = defineValues.size ∧
      ∀ assignment ∈ assignments, ∃ values, (assignment.1, values) ∈ defineValues.entries ∧
        assignment.2 ∈ values := by
  have hequals := charEquals_mem_joinAssignments hne
  have hempty : joinAssignments assignments ≠ [] := List.ne_nil_of_mem hequals
  have hdefault : joinAssignments assignments ≠ defaultVariant := by
    intro heq
    rw [heq] at hequals
    exact absurd hequals (by decide)
  rw [validateVariantSignature, if_neg hempty, if_neg hdefault] at h
  split_ifs at h with hsize
  rw [variantSegments_joinAssignments hne hclean] at h
  cases hsegments : validateSegments defineValues (assignments.map assignmentText) [] with
  | error fault =>
    rw [hsegments] at h
    exact nomatch h
  | ok seenDefines =>
    rw [hsegments] at h
    dsimp only at h
    split_ifs at h with hlength
    obtain ⟨hcount, hvalues⟩ := validateSegments_spec hclean hsegments
    refine ⟨?_, hvalues⟩
    rw [← not_not.1 hlength, hcount]
    exact (Nat.zero_add _).symm

/-! ## Clip variants at run time

`BuildCsgClipShaderVariantName` merges the assignments of a clip variant into the name of the base
variant, without building a combination of defines. -/

/-- `ShaderVariantDefineAssignment`. -/
structure ShaderVariantDefineAssignment where
  name : Text
  assignment : Text
  deriving DecidableEq, Repr

/-- The define that a clip variant sets. -/
def csgEnabledDefineName : Text := ascii "NWB_CSG_ENABLED"
/-- Its assignment. -/
def csgEnabledDefineAssignment : Text := ascii "NWB_CSG_ENABLED=1"
/-- The define for interval samples. -/
def csgIntervalSampleEnabledDefineName : Text := ascii "NWB_CSG_INTERVAL_SAMPLE_ENABLED"
/-- Its assignment. -/
def csgIntervalSampleEnabledDefineAssignment : Text := ascii "NWB_CSG_INTERVAL_SAMPLE_ENABLED=1"

/-- The longest list of assignments. -/
def maxCsgClipShaderVariantDefineAssignments : ℕ := 3

/-- The name in front of the sign of equality, if there is one. -/
def variantSegmentDefineName (segment : Text) : Text :=
  let equalPos := segment.idxOf charEquals
  if equalPos = segment.length then [] else segment.take equalPos

/-- `if(!outVariant.empty()) outVariant += ';'; outVariant += text;` -/
def appendSegment (outVariant text : Text) : Text :=
  if outVariant = [] then text else outVariant ++ charSemicolon :: text

/-- The assignments that are left, behind a name. -/
def appendAssignments (outVariant : Text) (assignments : List ShaderVariantDefineAssignment) :
    Text :=
  assignments.foldl (fun outVariant define => appendSegment outVariant define.assignment) outVariant

/-- The inner loop over the assignments of the default variant: the first with the least name. -/
def selectAssignment (selected : ShaderVariantDefineAssignment) :
    List ShaderVariantDefineAssignment → ShaderVariantDefineAssignment
  | [] => selected
  | next :: rest => selectAssignment (if next.name < selected.name then next else selected) rest

/-- The outer loop of the default variant, where `pending` are the assignments that are not in
`insertedDefines`. -/
def appendByName : ℕ → List ShaderVariantDefineAssignment → Text → Option Text
  | 0, _, outVariant => some outVariant
  | _ + 1, [], _ => none
  | outputCount + 1, first :: rest, outVariant =>
    let selected := selectAssignment first rest
    appendByName outputCount ((first :: rest).erase selected)
      (appendSegment outVariant selected.assignment)

/-- The loop over the segments of the base variant, with the assignments that are not in
`insertedDefines`. -/
def mergeSegments (defineAssignments : List ShaderVariantDefineAssignment) :
    List Text → List ShaderVariantDefineAssignment → Text →
      Option (List ShaderVariantDefineAssignment × Text)
  | [], pending, outVariant => some (pending, outVariant)
  | segment :: rest, pending, outVariant =>
    let defineName := variantSegmentDefineName segment
    if defineName = [] then none
    else
      let inserted :=
        appendAssignments outVariant (pending.filter fun define => define.name < defineName)
      if defineAssignments.any fun define => defineName = define.name then none
      else
        mergeSegments defineAssignments rest
          (pending.filter fun define => ¬define.name < defineName) (appendSegment inserted segment)

/-- `BuildCsgClipShaderVariantName`. -/
def buildCsgClipShaderVariantName (baseVariant : Text)
    (defineAssignments : List ShaderVariantDefineAssignment) : Option Text :=
  if baseVariant = [] ∨ defineAssignments.length = 0 then none
  else if defineAssignments.length > maxCsgClipShaderVariantDefineAssignments then none
  else if baseVariant = defaultVariant then
    appendByName defineAssignments.length defineAssignments []
  else
    (mergeSegments defineAssignments (variantSegments baseVariant) defineAssignments []).map
      fun merged => appendAssignments merged.2 merged.1

/-- The two assignments with which `BuildCsgShaderVariantName` calls it for no project evaluator. -/
def csgDefineAssignments : List ShaderVariantDefineAssignment :=
  [{ name := csgEnabledDefineName, assignment := csgEnabledDefineAssignment },
    { name := csgIntervalSampleEnabledDefineName
      assignment := csgIntervalSampleEnabledDefineAssignment }]

/-! ## The merge -/

/-- An assignment of a name to a value, as the run time holds it. -/
def defineAssignment (entry : Text × Text) : ShaderVariantDefineAssignment where
  name := entry.1
  assignment := assignmentText entry

lemma variantSegmentDefineName_assignmentText {entry : Text × Text}
    (h : charEquals ∉ entry.1) : variantSegmentDefineName (assignmentText entry) = entry.1 := by
  have hlength : entry.1.length ≠ (entry.1 ++ charEquals :: entry.2).length := by
    rw [List.length_append, List.length_cons]
    omega
  rw [variantSegmentDefineName, assignmentText, idxOf_charEquals h, if_neg hlength]
  exact List.take_left

/-- Writing behind what is written. -/
lemma foldl_appendSegment (entries : List (Text × Text)) {front : List (Text × Text)} :
    entries.foldl (fun outVariant entry => appendSegment outVariant (assignmentText entry))
      (joinAssignments front) = joinAssignments (front ++ entries) := by
  induction entries generalizing front with
  | nil => rw [List.append_nil]; rfl
  | cons entry rest ih =>
    have happend : appendSegment (joinAssignments front) (assignmentText entry) =
        joinAssignments (front ++ [entry]) := by
      rw [appendSegment]
      by_cases hfront : front = []
      · subst hfront
        rw [if_pos (by rfl), joinAssignments, List.nil_append, List.map_singleton,
          List.intercalate_singleton]
      · have hne : joinAssignments front ≠ [] :=
          List.ne_nil_of_mem (charEquals_mem_joinAssignments hfront)
        have hmap : front.map assignmentText ≠ [] := mt List.map_eq_nil_iff.1 hfront
        rw [if_neg hne, joinAssignments, joinAssignments, List.map_append, List.map_singleton,
          List.intercalate_append hmap (List.cons_ne_nil _ _), List.intercalate_singleton]
    rw [List.foldl_cons, happend, ih, List.append_assoc]
    rfl

lemma appendAssignments_map (outVariant : Text) (entries : List (Text × Text)) :
    appendAssignments outVariant (entries.map defineAssignment) =
      entries.foldl (fun outVariant entry => appendSegment outVariant (assignmentText entry))
        outVariant :=
  List.foldl_map

/-- The segments of a variant and the assignments are merged by their names. -/
lemma mergeSegments_eq {defineAssignments : List ShaderVariantDefineAssignment}
    {entries pending : List (Text × Text)} {outVariant : Text}
    (hclean : ∀ entry ∈ entries, CleanAssignment entry)
    (hfresh : ∀ entry ∈ entries, ∀ define ∈ defineAssignments, entry.1 ≠ define.name) :
    (mergeSegments defineAssignments (entries.map assignmentText) (pending.map defineAssignment)
        outVariant).map (fun merged => appendAssignments merged.2 merged.1) =
      some ((pending.mergeByKey entries).foldl
        (fun outVariant entry => appendSegment outVariant (assignmentText entry)) outVariant) := by
  induction entries generalizing pending outVariant with
  | nil => exact congrArg some (appendAssignments_map outVariant pending)
  | cons entry rest ih =>
    obtain ⟨hentry, hclean⟩ := List.forall_mem_cons.1 hclean
    obtain ⟨hnew, hfresh⟩ := List.forall_mem_cons.1 hfresh
    have hany : ¬(defineAssignments.any fun define => entry.1 = define.name) = true := by
      rw [List.any_eq_true]
      rintro ⟨define, hdefine, heq⟩
      exact hnew define hdefine (of_decide_eq_true heq)
    have hless : (pending.map defineAssignment).filter (fun define => define.name < entry.1) =
        (pending.filter fun other => other.1 < entry.1).map defineAssignment :=
      List.filter_map
    have hrest : (pending.map defineAssignment).filter (fun define => ¬define.name < entry.1) =
        (pending.filter fun other => ¬other.1 < entry.1).map defineAssignment :=
      List.filter_map
    rw [List.map_cons, mergeSegments, variantSegmentDefineName_assignmentText hentry.equals_notMem,
      if_neg hentry.name_ne_nil, if_neg hany, hless, hrest, ih hclean hfresh, List.mergeByKey,
      List.foldl_append, List.foldl_cons, appendAssignments_map]

end NwbLot.Shader
