import NwbLot.Crash.ArchivePaths
import NwbLot.Library.KeyedEntries
import NwbLot.Library.TextSegments

/-!
# Texts of shader variants

A variant names a value for every define of a shader, as `name=value` segments between `;`.
`ParseVariantField` and `ValidateVariantSignature` walk the segments of such a text in the same
way, and two writers build it.

A segment is trimmed before it is split at its `=`; `CleanAssignment` says which assignments are
read back from the text that is written for them.  `CookMap` is the map of defines that keeps the
order of insertion.
-/

namespace NwbLot.Shader

open Crash (Text ascii charSpace charLf charCr)

/-- The tab. -/
def charTab : UInt8 := 9
/-- The vertical tab. -/
def charVt : UInt8 := 11
/-- The form feed. -/
def charFf : UInt8 := 12
/-- The separator of segments. -/
def charSemicolon : UInt8 := 59
/-- The sign between name and value. -/
def charEquals : UInt8 := 61

/-- `IsAsciiSpace`. -/
def isAsciiSpace (ch : UInt8) : Bool :=
  ch == charSpace || ch == charTab || ch == charLf || ch == charCr || ch == charFf || ch == charVt

/-- A text without the spaces around it. -/
def trimView (text : Text) : Text := text.trimWhile isAsciiSpace

/-- `Core::ShaderArchive::s_DefaultVariant`. -/
def defaultVariant : Text := ascii "default"

/-! ## Reading -/

/-- The segments that `while(begin < variant.size())` visits: those between `;`, but none behind a
`;` that ends the text. -/
def variantSegments (variant : Text) : List Text :=
  let segments := variant.splitOn charSemicolon
  if segments.getLast? = some [] then segments.dropLast else segments

/-- Why a segment is no assignment. -/
inductive SegmentFault
  | empty
  | invalidAssignment (segment : Text)
  deriving DecidableEq, Repr

/-- One step of the loops over the segments: the name and the value of an assignment. -/
def parseAssignment (rawSegment : Text) : Except SegmentFault (Text × Text) :=
  let segment := trimView rawSegment
  if segment = [] then .error .empty
  else
    -- `find` gives `npos` where `idxOf` gives the length
    let equalPos := segment.idxOf charEquals
    if equalPos = segment.length ∨ equalPos = 0 ∨ segment.length ≤ equalPos + 1 then
      .error (.invalidAssignment segment)
    else
      let defineName := trimView (segment.take equalPos)
      let defineValue := trimView (segment.drop (equalPos + 1))
      if defineName = [] ∨ defineValue = [] then .error (.invalidAssignment segment)
      else .ok (defineName, defineValue)

/-! ## Writing -/

/-- `name += '='; name += value`. -/
def assignmentText (assignment : Text × Text) : Text :=
  assignment.1 ++ charEquals :: assignment.2

/-- The loop that writes assignments with a `;` before every one but the first. -/
def joinAssignments (assignments : List (Text × Text)) : Text :=
  [charSemicolon].intercalate (assignments.map assignmentText)

/-! ## What an assignment says -/

lemma isAsciiSpace_charEquals : isAsciiSpace charEquals = false := rfl

variable {left : Text}

lemma idxOf_charEquals (h : charEquals ∉ left) (right : Text) :
    (left ++ charEquals :: right).idxOf charEquals = left.length := by
  have hself : (charEquals :: right).idxOf charEquals = 0 := List.idxOf_cons_self
  rw [List.idxOf_append_of_notMem h, hself, Nat.add_zero]

/-- A text has one first `=`. -/
lemma append_charEquals_inj {right left' right' : Text} (hleft : charEquals ∉ left)
    (hleft' : charEquals ∉ left')
    (h : left ++ charEquals :: right = left' ++ charEquals :: right') :
    left = left' ∧ right = right' := by
  have hlength : left.length = left'.length := by
    rw [← idxOf_charEquals hleft right, h, idxOf_charEquals hleft']
  obtain ⟨hside, hrest⟩ := List.append_inj h hlength
  exact ⟨hside, (List.cons.inj hrest).2⟩

lemma parseAssignment_of_notMem {rawSegment : Text} (h : charEquals ∉ rawSegment)
    (assignment : Text × Text) : parseAssignment rawSegment ≠ .ok assignment := by
  have htrimmed : charEquals ∉ trimView rawSegment := fun hin =>
    h (List.trimWhile_subset _ _ hin)
  have hidx : (trimView rawSegment).idxOf charEquals = (trimView rawSegment).length :=
    List.idxOf_of_notMem htrimmed
  rw [parseAssignment]
  dsimp only
  rw [if_pos (Or.inl hidx)]
  split_ifs
  · exact nofun
  · exact nofun

/-- The name is what stands before the first `=` and the value what stands behind it, both
trimmed. -/
lemma parseAssignment_append (hleft : charEquals ∉ left) (right : Text) (assignment : Text × Text) :
    parseAssignment (left ++ charEquals :: right) = .ok assignment ↔
      (trimView left, trimView right) = assignment ∧ trimView left ≠ [] ∧ trimView right ≠ [] := by
  have htrim : trimView (left ++ charEquals :: right) =
      left.dropWhile isAsciiSpace ++ charEquals :: right.rdropWhile isAsciiSpace :=
    List.trimWhile_append_cons isAsciiSpace_charEquals left right
  have hname : trimView (left.dropWhile isAsciiSpace) = trimView left :=
    List.trimWhile_dropWhile _ left
  have hvalue : trimView (right.rdropWhile isAsciiSpace) = trimView right :=
    List.trimWhile_rdropWhile _ right
  rw [parseAssignment, htrim]
  generalize hleftEq : left.dropWhile isAsciiSpace = name at hname ⊢
  generalize right.rdropWhile isAsciiSpace = value at hvalue ⊢
  have hnot : charEquals ∉ name := fun hin =>
    hleft ((List.dropWhile_suffix _).subset (hleftEq ▸ hin))
  have hnonempty : name ++ charEquals :: value ≠ [] := List.append_ne_nil_of_right_ne_nil _ (by simp)
  have hlength : (name ++ charEquals :: value).length = name.length + value.length + 1 := by
    rw [List.length_append, List.length_cons, Nat.add_assoc]
  have htake : (name ++ charEquals :: value).take name.length = name := List.take_left
  have hdrop : (name ++ charEquals :: value).drop (name.length + 1) = value := by
    rw [← List.drop_drop, List.drop_left]
    rfl
  dsimp only
  rw [if_neg hnonempty, idxOf_charEquals hnot, hlength, htake, hdrop, hname, hvalue]
  have hnil : trimView [] = [] := rfl
  split_ifs with hshort hempty
  · refine iff_of_false nofun fun h => ?_
    rcases hshort with hlong | hname0 | hvalue0
    · omega
    · rw [List.length_eq_zero_iff.1 hname0, hnil] at hname
      exact h.2.1 hname.symm
    · have hvalue1 : value = [] := List.length_eq_zero_iff.1 (by omega)
      rw [hvalue1, hnil] at hvalue
      exact h.2.2 hvalue.symm
  · refine iff_of_false nofun fun h => ?_
    rcases hempty with hempty | hempty
    · exact h.2.1 hempty
    · exact h.2.2 hempty
  · rw [not_or] at hempty
    constructor
    · intro h
      exact ⟨Except.ok.inj h, hempty⟩
    · rintro ⟨h, -⟩
      exact congrArg Except.ok h

/-- A segment gives a name and a value on the two sides of its first `=`. -/
lemma parseAssignment_eq_ok_iff {rawSegment defineName defineValue : Text} :
    parseAssignment rawSegment = .ok (defineName, defineValue) ↔
      ∃ left right, rawSegment = left ++ charEquals :: right ∧ charEquals ∉ left ∧
        trimView left = defineName ∧ trimView right = defineValue ∧
        defineName ≠ [] ∧ defineValue ≠ [] := by
  by_cases hmem : charEquals ∈ rawSegment
  · obtain ⟨left, right, rfl, hleft⟩ := List.eq_append_cons_of_mem hmem
    rw [parseAssignment_append hleft, Prod.mk.injEq]
    constructor
    · rintro ⟨⟨hname, hvalue⟩, hnonempty⟩
      exact ⟨left, right, rfl, hleft, hname, hvalue, hname ▸ hnonempty.1, hvalue ▸ hnonempty.2⟩
    · rintro ⟨left', right', heq, hleft', hname, hvalue, hnonempty⟩
      obtain ⟨rfl, rfl⟩ := append_charEquals_inj hleft hleft' heq
      exact ⟨⟨hname, hvalue⟩, hname.symm ▸ hnonempty.1, hvalue.symm ▸ hnonempty.2⟩
  · refine iff_of_false (parseAssignment_of_notMem hmem _) ?_
    rintro ⟨left, right, rfl, -⟩
    exact hmem (List.mem_append_right _ List.mem_cons_self)

/-- An assignment that reads back as it is written. -/
structure CleanAssignment (assignment : Text × Text) : Prop where
  name_ne_nil : assignment.1 ≠ []
  value_ne_nil : assignment.2 ≠ []
  trim_name : trimView assignment.1 = assignment.1
  trim_value : trimView assignment.2 = assignment.2
  equals_notMem : charEquals ∉ assignment.1
  semicolon_notMem : charSemicolon ∉ assignmentText assignment

lemma CleanAssignment.parse {assignment : Text × Text} (h : CleanAssignment assignment) :
    parseAssignment (assignmentText assignment) = .ok assignment := by
  rw [assignmentText, parseAssignment_append h.equals_notMem, h.trim_name, h.trim_value]
  exact ⟨rfl, h.name_ne_nil, h.value_ne_nil⟩

variable {segment : Text}

/-- What is read of a segment is clean. -/
lemma CleanAssignment.of_parse {assignment : Text × Text} (hsegment : charSemicolon ∉ segment)
    (h : parseAssignment segment = .ok assignment) :
    CleanAssignment assignment := by
  obtain ⟨defineName, defineValue⟩ := assignment
  obtain ⟨left, right, rfl, hleft, rfl, rfl, hname, hvalue⟩ := parseAssignment_eq_ok_iff.1 h
  have hsubset : ∀ text, trimView text ⊆ text := List.trimWhile_subset isAsciiSpace
  refine
    { name_ne_nil := hname
      value_ne_nil := hvalue
      trim_name := List.trimWhile_trimWhile _ left
      trim_value := List.trimWhile_trimWhile _ right
      equals_notMem := fun hin => hleft (hsubset _ hin)
      semicolon_notMem := fun hin => hsegment ?_ }
  rcases List.mem_append.1 hin with hin | hin
  · exact List.mem_append_left _ (hsubset _ hin)
  · rcases List.mem_cons.1 hin with hin | hin
    · exact absurd hin (by decide)
    · exact List.mem_append_right _ (List.mem_cons_of_mem _ (hsubset _ hin))

lemma parseAssignment_congr {right : Text} (h : trimView left = trimView right) :
    parseAssignment left = parseAssignment right := by
  rw [parseAssignment, parseAssignment, h]

/-! ## The segments of a variant -/

lemma getLast?_splitOn (variant : Text) :
    ∃ last, (variant.splitOn charSemicolon).getLast? = some last ∧
      variant.splitOn charSemicolon = (variant.splitOn charSemicolon).dropLast ++ [last] := by
  have hne := List.splitOn_ne_nil charSemicolon variant
  exact ⟨_, List.getLast?_eq_some_getLast hne, (List.dropLast_append_getLast hne).symm⟩

variable {variant : Text}

lemma mem_splitOn_of_mem_variantSegments (h : segment ∈ variantSegments variant) :
    segment ∈ variant.splitOn charSemicolon := by
  rw [variantSegments] at h
  split_ifs at h
  · exact List.mem_of_mem_dropLast h
  · exact h

/-- The one segment that is not visited is empty. -/
lemma mem_variantSegments_of_ne_nil (h : segment ∈ variant.splitOn charSemicolon)
    (hne : segment ≠ []) :
    segment ∈ variantSegments variant := by
  rw [variantSegments]
  split_ifs with hlast
  · obtain ⟨last, hget, hsplit⟩ := getLast?_splitOn variant
    obtain rfl := Option.some.inj (hget.symm.trans hlast)
    rw [hsplit] at h
    rcases List.mem_append.1 h with h | h
    · exact h
    · exact absurd (List.mem_singleton.1 h) hne
  · exact h

lemma semicolon_notMem_of_mem (h : segment ∈ variantSegments variant) :
    charSemicolon ∉ segment :=
  List.notMem_of_mem_splitOn (mem_splitOn_of_mem_variantSegments h)

lemma variantSegments_ne_nil (h : variant ≠ []) :
    variantSegments variant ≠ [] := by
  intro hnil
  rw [variantSegments] at hnil
  split_ifs at hnil with hlast
  · obtain ⟨last, hget, hsplit⟩ := getLast?_splitOn variant
    obtain rfl := Option.some.inj (hget.symm.trans hlast)
    rw [hnil] at hsplit
    have hjoin : [charSemicolon].intercalate (variant.splitOn charSemicolon) = variant :=
      List.intercalate_splitOn charSemicolon
    rw [hsplit] at hjoin
    exact h hjoin.symm
  · exact List.splitOn_ne_nil _ _ hnil

lemma assignmentText_ne_nil (assignment : Text × Text) : assignmentText assignment ≠ [] :=
  List.append_ne_nil_of_right_ne_nil _ (List.cons_ne_nil _ _)

/-- The segments of a written variant are its assignments. -/
lemma variantSegments_joinAssignments {assignments : List (Text × Text)} (hne : assignments ≠ [])
    (hclean : ∀ assignment ∈ assignments, CleanAssignment assignment) :
    variantSegments (joinAssignments assignments) = assignments.map assignmentText := by
  have hsplit : (joinAssignments assignments).splitOn charSemicolon =
      assignments.map assignmentText := by
    refine List.splitOn_intercalate _ ?_ (mt List.map_eq_nil_iff.1 hne)
    intro segment hsegment
    obtain ⟨assignment, hassignment, rfl⟩ := List.mem_map.1 hsegment
    exact (hclean assignment hassignment).semicolon_notMem
  rw [variantSegments, hsplit]
  rw [if_neg]
  intro hlast
  obtain ⟨assignment, -, hnil⟩ := List.mem_map.1 (List.mem_of_getLast? hlast)
  exact assignmentText_ne_nil assignment hnil

lemma charEquals_mem_joinAssignments {assignments : List (Text × Text)} (hne : assignments ≠ []) :
    charEquals ∈ joinAssignments assignments := by
  obtain ⟨first, others, rfl⟩ := List.exists_cons_of_ne_nil hne
  have hfirst : charEquals ∈ assignmentText first :=
    List.mem_append_right _ List.mem_cons_self
  cases others with
  | nil =>
    rw [joinAssignments, List.map_singleton, List.intercalate_singleton]
    exact hfirst
  | cons next others =>
    rw [joinAssignments, List.map_cons, List.intercalate_cons_of_ne_nil (by exact nofun)]
    exact List.mem_append_left _ (List.mem_append_left _ hfirst)

/-! ## Define maps of shaders

The hash maps of the cook, and `ParseDefines`, which fills one from the `defines` of a meta
document. -/

/-- A hash map with text keys, as the entries in the order in which it is iterated. -/
structure CookMap (β : Type) where
  entries : List (Text × β)
  nodup : (entries.map Prod.fst).Nodup

namespace CookMap

variable {β : Type}

/-- The map without entries. -/
def empty : CookMap β := ⟨[], List.nodup_nil⟩

/-- The number of entries. -/
def size (map : CookMap β) : ℕ := map.entries.length

/-- The names, in the order of the entries. -/
def keys (map : CookMap β) : List Text := map.entries.map Prod.fst

/-- The value of a name. -/
def find (map : CookMap β) (name : Text) : Option β := map.entries.lookup name

/-- `try_emplace` and `emplace`: an entry that is there stays. -/
def tryEmplace (map : CookMap β) (name : Text) (value : β) : CookMap β × Bool :=
  if h : name ∈ map.keys then (map, false)
  else
    ({ entries := map.entries ++ [(name, value)]
       nodup := by
         rw [List.map_append]
         exact List.nodup_append.2 ⟨map.nodup, List.nodup_singleton _, by
           rintro key hkey other hother rfl
           obtain rfl : key = name := List.mem_singleton.1 hother
           exact h hkey⟩ }, true)

/-- `insert_or_assign`. -/
def insertOrAssign (map : CookMap β) (name : Text) (value : β) : CookMap β :=
  if name ∈ map.keys then
    { entries := map.entries.map fun entry => if entry.1 = name then (name, value) else entry
      nodup := by
        have hkeys : (map.entries.map fun entry => if entry.1 = name then (name, value) else entry).map
            Prod.fst = map.entries.map Prod.fst := by
          rw [List.map_map]
          refine List.map_congr_left fun entry _ => ?_
          show (if entry.1 = name then (name, value) else entry).1 = entry.1
          split_ifs with heq
          · exact heq.symm
          · rfl
        rw [hkeys]
        exact map.nodup }
  else (map.tryEmplace name value).1

/-- The loops that copy a map entry by entry. -/
def copyEntries (source : CookMap β) : CookMap β :=
  source.entries.foldl (fun (copy : CookMap β) entry => (copy.tryEmplace entry.1 entry.2).1) empty

lemma ext {left right : CookMap β} (h : left.entries = right.entries) : left = right := by
  cases left
  cases right
  cases h
  rfl

variable {map : CookMap β} {name : Text}

lemma tryEmplace_of_notMem (h : name ∉ map.keys) (value : β) :
    (map.tryEmplace name value).1.entries = map.entries ++ [(name, value)] ∧
      (map.tryEmplace name value).2 = true := by
  rw [tryEmplace, dif_neg h]
  exact ⟨rfl, rfl⟩

lemma tryEmplace_of_mem (h : name ∈ map.keys) (value : β) :
    map.tryEmplace name value = (map, false) := by
  rw [tryEmplace, dif_pos h]

lemma copyEntries_eq (source : CookMap β) : source.copyEntries = source := by
  suffices hfold : ∀ (entries : List (Text × β)) (copy : CookMap β),
      ((copy.entries ++ entries).map Prod.fst).Nodup →
      (entries.foldl (fun (copy : CookMap β) entry =>
        (copy.tryEmplace entry.1 entry.2).1) copy).entries = copy.entries ++ entries from
    ext (hfold source.entries empty source.nodup)
  intro entries
  induction entries with
  | nil => exact fun copy _ => (List.append_nil _).symm
  | cons entry rest ih =>
    intro copy hnodup
    have hfresh : entry.1 ∉ copy.keys := by
      intro hkey
      rw [List.map_append, List.map_cons] at hnodup
      exact (List.nodup_append.1 hnodup).2.2 _ hkey _ List.mem_cons_self rfl
    have hentries := (tryEmplace_of_notMem hfresh entry.2).1
    have hassoc : copy.entries ++ [(entry.1, entry.2)] ++ rest = copy.entries ++ entry :: rest :=
      List.append_assoc _ _ _
    rw [List.foldl_cons, ih, hentries, hassoc]
    rw [hentries, hassoc]
    exact hnodup

lemma find_eq_some_iff {value : β} :
    map.find name = some value ↔ (name, value) ∈ map.entries := by
  obtain ⟨entries, hnodup⟩ := map
  show entries.lookup name = some value ↔ (name, value) ∈ entries
  induction entries with
  | nil => exact iff_of_false nofun List.not_mem_nil
  | cons entry entries ih =>
    obtain ⟨key, found⟩ := entry
    obtain ⟨hfresh, hrest⟩ := List.nodup_cons.1 hnodup
    rw [List.lookup_cons, List.mem_cons, Prod.mk.injEq]
    cases hkey : name == key with
    | false =>
      rw [beq_eq_false_iff_ne] at hkey
      rw [ih hrest]
      exact (or_iff_right fun h => hkey h.1).symm
    | true =>
      obtain rfl := beq_iff_eq.1 hkey
      constructor
      · intro h
        exact Or.inl ⟨rfl, (Option.some.inj h).symm⟩
      · rintro (⟨-, rfl⟩ | h)
        · rfl
        · exact absurd (List.mem_map_of_mem (f := Prod.fst) h) hfresh

end CookMap

/-! ## `ParseDefines` -/

/-- A metascript value, as far as the parsers look into it. -/
inductive Value
  | string (text : Text)
  | list (elements : List Value)
  | map (entries : List (Text × Value))
  | other

namespace Value

/-- `asString`, for a value that `isString`. -/
def asString : Value → Option Text
  | .string text => some text
  | _ => none

/-- The texts of a list of texts. -/
def copyStringList : Value → Option (List Text)
  | .list elements => elements.mapM asString
  | _ => none

end Value

/-- Why a `defines` field is refused. -/
inductive DefinesFault
  | notAMap
  | emptyName
  | valuesNotStrings (defineName : Text)
  | noValues (defineName : Text)
  | emptyValue (defineName : Text)
  deriving DecidableEq, Repr

/-- The loop of `ParseDefines` over the entries of the map. -/
def parseDefineEntries :
    List (Text × Value) → CookMap (List Text) → Except DefinesFault (CookMap (List Text))
  | [], outDefineValues => .ok outDefineValues
  | (defineName, val) :: rest, outDefineValues =>
    if defineName = [] then .error .emptyName
    else
      match val.copyStringList with
      | none => .error (.valuesNotStrings defineName)
      | some defineValues =>
        if defineValues = [] then .error (.noValues defineName)
        else if [] ∈ defineValues then .error (.emptyValue defineName)
        else parseDefineEntries rest (outDefineValues.insertOrAssign defineName defineValues)

/-- `ParseDefines`, where `definesVal` is the field `defines` of the asset. -/
def parseDefines (definesVal : Option Value) : Except DefinesFault (CookMap (List Text)) :=
  match definesVal with
  | none => .ok .empty
  | some (.map definesMap) => parseDefineEntries definesMap .empty
  | some _ => .error .notAMap

/-- Every define has a value, and no name or value is empty. -/
def WellFormedDefines (defines : CookMap (List Text)) : Prop :=
  ∀ define ∈ defines.entries, define.1 ≠ [] ∧ define.2 ≠ [] ∧ [] ∉ define.2

variable {defines : CookMap (List Text)}

lemma WellFormedDefines.insertOrAssign (h : WellFormedDefines defines) {name : Text}
    {values : List Text} (hnew : name ≠ [] ∧ values ≠ [] ∧ [] ∉ values) :
    WellFormedDefines (defines.insertOrAssign name values) := by
  intro define hdefine
  rw [CookMap.insertOrAssign] at hdefine
  split_ifs at hdefine with hkey
  · obtain ⟨entry, hentry, rfl⟩ := List.mem_map.1 hdefine
    split_ifs
    · exact hnew
    · exact h entry hentry
  · rw [(CookMap.tryEmplace_of_notMem hkey values).1] at hdefine
    rcases List.mem_append.1 hdefine with hdefine | hdefine
    · exact h define hdefine
    · rw [List.mem_singleton.1 hdefine]
      exact hnew

lemma parseDefineEntries_wellFormed {entries : List (Text × Value)} {parsed : CookMap (List Text)}
    (h : WellFormedDefines defines) (hparse : parseDefineEntries entries defines = .ok parsed) :
    WellFormedDefines parsed := by
  induction entries generalizing defines with
  | nil => exact Except.ok.inj hparse ▸ h
  | cons entry rest ih =>
    obtain ⟨name, val⟩ := entry
    rw [parseDefineEntries] at hparse
    split_ifs at hparse with hname
    cases hvalues : val.copyStringList with
    | none =>
      rw [hvalues] at hparse
      exact nomatch hparse
    | some values =>
      rw [hvalues] at hparse
      dsimp only at hparse
      split_ifs at hparse with hnil hempty
      exact ih (h.insertOrAssign ⟨hname, hnil, hempty⟩) hparse

/-- What `ParseDefines` accepts is well formed. -/
lemma parseDefines_wellFormed {definesVal : Option Value}
    (h : parseDefines definesVal = .ok defines) : WellFormedDefines defines := by
  have hempty : WellFormedDefines .empty := fun _ hdefine => absurd hdefine List.not_mem_nil
  match definesVal with
  | none => exact Except.ok.inj h ▸ hempty
  | some (.map definesMap) => exact parseDefineEntries_wellFormed hempty h
  | some (.string _) => exact nomatch h
  | some (.list _) => exact nomatch h
  | some .other => exact nomatch h

end NwbLot.Shader
