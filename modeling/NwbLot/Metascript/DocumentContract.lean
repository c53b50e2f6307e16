import NwbLot.Metascript.Progress

/-!
# The contract of metascript parsing

Parsing a document returns, it accepts when no error has been recorded, and in an accepted document
the declared names are different and every reference begins with one of them.
-/

namespace NwbLot.Metascript

open Crash (Text ascii)
open StateComputation

namespace Value

variable {F : Type} {names : List Text}

variable {entries : List (Text × Value F)} {name : Text} {value : Value F}

lemma map_fst_setEntry (h : name ∈ entries.map Prod.fst) :
    (setEntry entries name value).map Prod.fst = entries.map Prod.fst := by
  induction entries with
  | nil => exact absurd h List.not_mem_nil
  | cons entry entries ih =>
    rw [setEntry]
    split
    · next hname => rw [List.map_cons, List.map_cons, hname]
    · next hname =>
      rw [List.map_cons, List.map_cons, ih]
      exact (List.mem_cons.1 h).resolve_left (Ne.symm hname)

lemma mem_setEntry {entry : Text × Value F} (h : entry ∈ setEntry entries name value) :
    entry = (name, value) ∨ entry ∈ entries := by
  induction entries with
  | nil => exact .inl (List.mem_singleton.1 h)
  | cons first entries ih =>
    rw [setEntry] at h
    split at h
    · exact (List.mem_cons.1 h).imp_right (List.mem_cons_of_mem _)
    · rcases List.mem_cons.1 h with rfl | h
      · exact .inr List.mem_cons_self
      · exact (ih h).imp_right (List.mem_cons_of_mem _)

lemma exists_of_findEntry (h : findEntry entries name = some value) :
    ∃ entry ∈ entries, entry = (name, value) := by
  obtain ⟨entry, hfind, rfl⟩ := Option.map_eq_some_iff.1 h
  have hname : entry.1 = name := by
    have htrue := List.find?_some hfind
    exact of_decide_eq_true htrue
  exact ⟨entry, List.mem_of_find?_eq_some hfind, by rw [← hname]⟩

lemma not_mem_of_findEntry (h : (findEntry entries name).isSome = false) :
    name ∉ entries.map Prod.fst := by
  intro hmem
  obtain ⟨entry, hentry, rfl⟩ := List.mem_map.1 hmem
  rw [findEntry, Option.isSome_map, List.find?_isSome.2 ⟨entry, hentry, decide_eq_true rfl⟩] at h
  exact Bool.noConfusion h

lemma rootedIn_findEntryD {fields : List (Text × Value F)} (h : (map fields).RootedIn names) :
    ((findEntry fields name).getD null).RootedIn names :=
  rootedIn_getD (fun _ hfound => RootedIn.findEntry h hfound) rootedIn_null

lemma RootedIn.openPath (path : List Text) (h : value.RootedIn names) :
    (value.openPath path).1.RootedIn names ∧
      ∀ target, (value.openPath path).2 = some target → target.RootedIn names := by
  induction path generalizing value with
  | nil =>
    cases value <;> exact ⟨h, fun target htarget => Option.some.inj htarget ▸ h⟩
  | cons name path ih =>
    cases value with
    | null =>
      obtain ⟨hinner, htarget⟩ := ih (rootedIn_null (F := F))
      exact ⟨rootedIn_map_cons.2 ⟨hinner, rootedIn_emptyMap⟩, htarget⟩
    | map fields =>
      obtain ⟨hinner, htarget⟩ := ih (rootedIn_findEntryD h)
      exact ⟨h.setEntry hinner, htarget⟩
    | _ => exact ⟨h, fun _ htarget => nomatch htarget⟩

lemma RootedIn.setPath {target : Value F} (path : List Text) (h : value.RootedIn names)
    (htarget : target.RootedIn names) : (value.setPath path target).RootedIn names := by
  induction path generalizing value with
  | nil => cases value <;> exact htarget
  | cons name path ih =>
    cases value with
    | map fields => exact h.setEntry (ih (rootedIn_findEntryD h))
    | _ => exact h

lemma RootedIn.ensureMap {map : Value F} (h : value.RootedIn names)
    (hmap : value.ensureMap = some map) : map.RootedIn names := by
  cases value <;> cases hmap
  · exact rootedIn_emptyMap
  · exact h

lemma RootedIn.ensureList {list : Value F} (h : value.RootedIn names)
    (hlist : value.ensureList = some list) : list.RootedIn names := by
  cases value <;> cases hlist
  · exact rootedIn_emptyList
  · exact h

lemma RootedIn.findFieldD (h : value.RootedIn names) :
    ((value.findField name).getD null).RootedIn names := by
  cases value with
  | map fields => exact (rootedIn_findEntryD h)
  | _ => exact rootedIn_null

lemma rootedIn_assigned [DoubleArithmetic F] (op : TokenType) {target rhs : Value F}
    (htarget : target.RootedIn names) (hrhs : rhs.RootedIn names) :
    (Parser.assigned op target rhs).RootedIn names := by
  have hnumber {result : Option (Value F)}
      (h : ∀ other, result = some other → other.references = []) :
      (result.getD target).RootedIn names :=
    rootedIn_getD (fun other hother => rootedIn_of_noReferences (h other hother)) htarget
  unfold Parser.assigned
  split
  · exact hrhs
  · exact htarget.addAssign hrhs
  · exact hnumber fun _ h => references_arithmetic h
  · exact hnumber fun _ h => references_arithmetic h
  · exact hnumber fun _ h => references_dividedBy h
  · exact htarget

end Value

namespace Parser

variable {F : Type} {s : Parser F}

/-! ## Attributes -/

lemma parseAttributeArgument_proceeds :
    Proceeds parseAttributeArgument s
      fun value t => t.left < s.left ∧ value.RootedIn t.names := by
  rw [parseAttributeArgument]
  refine Proceeds.inspect (Proceeds.ite (fun htype => ?_) fun _ => Proceeds.errorExpected)
  have hlt : s.advanced.left < s.left := left_advanced_lt (by rw [htype]; decide)
  exact Proceeds.advance (Proceeds.pure fun _ => ⟨hlt, Value.rootedIn_string⟩)

lemma parseAttributeArguments_proceeds (fuel : ℕ) {arguments : Value F} (hfuel : s.left < fuel)
    (h : arguments.RootedIn s.names) :
    Proceeds (parseAttributeArguments fuel arguments) s
      fun result t => ∃ values, result = some values ∧ values.RootedIn t.names := by
  induction fuel generalizing arguments s with
  | zero => exact absurd hfuel (Nat.not_lt_zero _)
  | succ fuel ih =>
    rw [parseAttributeArguments]
    refine parseAttributeArgument_proceeds.bind fun argument t ht hargument => ?_
    refine Proceeds.unlessErrors fun herrors => ?_
    obtain ⟨hlt, hargument⟩ := hargument herrors
    have happend : (arguments.append argument).RootedIn t.names :=
      (h.mono ht.names).append hargument
    refine Proceeds.inspect (Proceeds.ite (fun _ => ?_) fun _ => ?_)
    · exact Proceeds.pure fun _ => ⟨_, rfl, happend⟩
    · refine Proceeds.expect fun _ => ih ?_ happend
      have hle := t.later_advanced.left
      omega

variable {fuel : ℕ}

lemma parseAttributeArgumentList_proceeds (hfuel : s.left < fuel) :
    Proceeds (parseAttributeArgumentList fuel) s
      fun result t => ∃ values, result = some values ∧ values.RootedIn t.names := by
  rw [parseAttributeArgumentList]
  refine Proceeds.inspect (Proceeds.ite (fun _ => ?_) fun _ => ?_)
  · exact Proceeds.pure fun _ => ⟨_, rfl, Value.rootedIn_emptyList⟩
  refine Proceeds.advance (Proceeds.inspect (Proceeds.ite (fun _ => ?_) fun _ => ?_))
  · exact Proceeds.expect fun _ => Proceeds.pure fun _ => ⟨_, rfl, Value.rootedIn_emptyList⟩
  · refine (parseAttributeArguments_proceeds fuel (s.later_advanced.left.trans_lt hfuel)
      Value.rootedIn_emptyList).bind fun result t ht hresult => ?_
    cases result with
    | none =>
      refine Proceeds.pure fun herrors => ?_
      obtain ⟨_, hnone, -⟩ := hresult herrors
      exact nomatch hnone
    | some arguments =>
      refine Proceeds.expect fun _ => Proceeds.pure fun herrors => ⟨_, rfl, ?_⟩
      obtain ⟨_, hsome, hrooted⟩ := hresult (t.later_advanced.errors_nil herrors)
      obtain rfl := Option.some.inj hsome
      exact hrooted

lemma parseAttribute_proceeds (hfuel : s.left < fuel) :
    Proceeds (parseAttribute fuel) s
      fun value t => t.left < s.left ∧ value.RootedIn t.names := by
  rw [parseAttribute]
  refine Proceeds.expect fun htype => ?_
  have hlt : s.advanced.left < s.left := left_advanced_lt (by rw [htype]; decide)
  refine Proceeds.inspect (Proceeds.ite (fun _ => Proceeds.errorExpected) fun _ => ?_)
  have hname := s.advanced.later_advanced.left
  refine Proceeds.advance ?_
  refine (parseAttributeArgumentList_proceeds (by omega)).bind fun result t ht hresult => ?_
  cases result with
  | none =>
    refine Proceeds.pure fun herrors => ?_
    obtain ⟨_, hnone, -⟩ := hresult herrors
    exact nomatch hnone
  | some arguments =>
    refine Proceeds.expect fun _ => Proceeds.pure fun herrors => ?_
    obtain ⟨_, hsome, hrooted⟩ := hresult (t.later_advanced.errors_nil herrors)
    obtain rfl := Option.some.inj hsome
    have hlist := ht.left
    have hlast := t.later_advanced.left
    refine ⟨by omega, Value.rootedIn_map_cons.2 ⟨Value.rootedIn_string, ?_⟩⟩
    exact Value.rootedIn_map_cons.2 ⟨hrooted, Value.rootedIn_emptyMap⟩

variable {attributes : Value F}

lemma parseAttributeList_proceeds (fuel : ℕ) (hfuel : s.left < fuel)
    (h : attributes.RootedIn s.names) :
    Proceeds (parseAttributeList fuel attributes) s fun value t => value.RootedIn t.names := by
  induction fuel generalizing attributes s with
  | zero => exact absurd hfuel (Nat.not_lt_zero _)
  | succ fuel ih =>
    rw [parseAttributeList]
    refine Proceeds.inspect (Proceeds.ite (fun _ => Proceeds.pure fun _ => h) fun _ => ?_)
    refine (parseAttribute_proceeds hfuel).bind fun parsed t ht hparsed => ?_
    refine Proceeds.unlessErrors fun herrors => ?_
    obtain ⟨hlt, hparsed⟩ := hparsed herrors
    exact ih (by omega) ((h.mono ht.names).append hparsed)

/-! ## Structs -/

lemma parseStructField_proceeds {fieldNames : List Text} (h : attributes.RootedIn s.names) :
    Proceeds (parseStructField attributes fieldNames) s fun result t =>
      ∃ field name, result = some (field, name) ∧ t.left < s.left ∧ field.RootedIn t.names := by
  rw [parseStructField]
  refine Proceeds.inspect (Proceeds.ite (fun _ => Proceeds.errorExpected) fun htype => ?_)
  rw [not_not] at htype
  have hlt : s.advanced.left < s.left := left_advanced_lt (by rw [htype]; decide)
  refine Proceeds.advance (Proceeds.inspect ?_)
  refine Proceeds.ite (fun _ => Proceeds.errorExpected) fun _ => Proceeds.advance ?_
  refine Proceeds.ite (fun _ => Proceeds.error) fun _ => Proceeds.expect fun _ => ?_
  have hname := s.advanced.later_advanced.left
  have hlast := s.advanced.advanced.later_advanced.left
  refine Proceeds.pure fun _ => ⟨_, _, rfl, by omega, ?_⟩
  refine Value.rootedIn_map_cons.2 ⟨Value.rootedIn_string, ?_⟩
  refine Value.rootedIn_map_cons.2 ⟨Value.rootedIn_string, ?_⟩
  exact Value.rootedIn_map_cons.2 ⟨h, Value.rootedIn_emptyMap⟩

/-- The loop over the fields goes on as long as a field consumes something. -/
lemma parseStructFields_proceeds (fuel : ℕ) {fields : Value F} (fieldNames : List Text)
    (hfuel : s.left < fuel) (h : fields.RootedIn s.names) :
    Proceeds (parseStructFields fuel fields fieldNames) s
      fun result t => ∃ values, result = some values ∧ values.RootedIn t.names := by
  induction fuel generalizing fields fieldNames s with
  | zero => exact absurd hfuel (Nat.not_lt_zero _)
  | succ fuel ih =>
    rw [parseStructFields]
    refine Proceeds.inspect (Proceeds.ite (fun _ => Proceeds.pure fun _ => ⟨_, rfl, h⟩) fun _ => ?_)
    refine Proceeds.inspect (Proceeds.ite (fun _ => Proceeds.errorExpected) fun _ => ?_)
    refine (parseAttributeList_proceeds (fuel + 1) hfuel Value.rootedIn_emptyList).bind
      fun attributes t ht hattributes => ?_
    refine Proceeds.unlessErrors fun herrors => ?_
    have hfields := h.mono ht.names
    refine Proceeds.inspect (Proceeds.ite (fun _ => ?_) fun _ => ?_)
    · exact Proceeds.ite (fun _ => Proceeds.errorExpected) fun _ =>
        Proceeds.pure fun _ => ⟨_, rfl, hfields⟩
    · refine (parseStructField_proceeds (hattributes herrors)).bind fun result u hu hresult => ?_
      cases result with
      | none =>
        refine Proceeds.pure fun herrors => ?_
        obtain ⟨_, _, hnone, -⟩ := hresult herrors
        exact nomatch hnone
      | some result =>
        refine Proceeds.unlessErrors fun herrors => ?_
        obtain ⟨field, name, hsome, hlt, hfield⟩ := hresult herrors
        obtain rfl := Option.some.inj hsome
        have hle := ht.left
        exact ih _ (by omega) ((hfields.mono hu.names).append hfield)

lemma rootedIn_withBindStruct {assetRoot updated fields : Value F} {structName : Text}
    {names : List Text} (hroot : assetRoot.RootedIn names) (hattributes : attributes.RootedIn names)
    (hfields : fields.RootedIn names)
    (h : withBindStruct assetRoot structName attributes fields = .ok updated) :
    updated.RootedIn names := by
  unfold withBindStruct at h
  split at h
  · cases h
  next root hensured =>
  split at h
  · cases h
  next structs hstructs =>
  split at h
  · cases h
  · cases h
    have hensured := hroot.ensureMap hensured
    have hstructs := hensured.findFieldD.ensureMap hstructs
    refine hensured.setField (hstructs.setField ?_)
    refine Value.rootedIn_map_cons.2 ⟨hattributes, ?_⟩
    exact Value.rootedIn_map_cons.2 ⟨hfields, Value.rootedIn_emptyMap⟩

variable {typeName : Text}

lemma rootedIn_withBindInstance {assetRoot updated : Value F} {instanceName : Text}
    {names : List Text} (hroot : assetRoot.RootedIn names)
    (h : withBindInstance assetRoot typeName instanceName = .ok updated) :
    updated.RootedIn names := by
  unfold withBindInstance at h
  split at h
  · cases h
  next root hensured =>
  split at h
  · cases h
  next instances hinstances =>
  split at h
  · cases h
  · cases h
    have hensured := hroot.ensureMap hensured
    have hinstances := hensured.findFieldD.ensureList hinstances
    refine hensured.setField (hinstances.append ?_)
    refine Value.rootedIn_map_cons.2 ⟨Value.rootedIn_string, ?_⟩
    exact Value.rootedIn_map_cons.2 ⟨Value.rootedIn_string, Value.rootedIn_emptyMap⟩

/-! ## Variables -/

variable {name : Text} {value : Value F}

lemma WellFormed.rootedIn_findEntry (h : s.WellFormed)
    (hfound : Value.findEntry s.variableMap name = some value) :
    name ∈ s.names ∧ value.RootedIn s.names := by
  obtain ⟨entry, hentry, rfl⟩ := Value.exists_of_findEntry hfound
  exact ⟨h.keys ▸ List.mem_map_of_mem hentry, h.rooted _ hentry⟩

lemma WellFormed.rootedIn_findEntryD (h : s.WellFormed) :
    ((Value.findEntry s.variableMap name).getD .null).RootedIn s.names :=
  Value.rootedIn_getD (fun _ hfound => (h.rootedIn_findEntry hfound).2) Value.rootedIn_null

/-- A declared variable takes another value. -/
lemma later_setEntry (h : s.errors = [] → name ∈ s.names ∧ value.RootedIn s.names) :
    Later s { s with variableMap := Value.setEntry s.variableMap name value } := by
  refine ⟨List.prefix_rfl, Nat.le_refl _, List.Subset.refl _, fun hsound herrors => ?_⟩
  have hs := hsound herrors
  obtain ⟨hname, hvalue⟩ := h herrors
  refine ⟨hs.identifier, ?_, hs.nodup, fun entry hentry => ?_⟩
  · exact (Value.map_fst_setEntry (by rw [hs.keys]; exact hname)).trans hs.keys
  · rcases Value.mem_setEntry hentry with rfl | hentry
    · exact hvalue
    · exact hs.rooted entry hentry

/-- A new variable is declared. -/
lemma later_declared {type assetVariable : Text}
    (hnew : (Value.findEntry s.variableMap name).isSome = false)
    (hvalue : s.errors = [] → value.RootedIn s.names) :
    Later s { s with
      variableMap := s.variableMap ++ [(name, value)]
      declarations := s.declarations ++ [{ type, variableName := name }]
      declaredAssetVariable := assetVariable } := by
  have hnames : ∀ names : List Text, names ⊆ names ++ [name] := fun names other hother =>
    List.mem_append_left _ hother
  refine ⟨List.prefix_rfl, Nat.le_refl _, ?_, fun hsound herrors => ?_⟩
  · show s.names ⊆ (s.declarations ++ [_]).map Declaration.variableName
    rw [List.map_append]
    exact hnames _
  have hs := hsound herrors
  have hfresh : name ∉ s.names := hs.keys ▸ Value.not_mem_of_findEntry hnew
  have happend : (s.declarations ++ [(⟨type, name⟩ : Declaration)]).map
      Declaration.variableName = s.names ++ [name] := List.map_append
  refine ⟨hs.identifier, ?_, ?_, fun entry hentry => ?_⟩
  · show (s.variableMap ++ [(name, value)]).map Prod.fst = List.map Declaration.variableName _
    rw [happend, List.map_append, hs.keys]
    rfl
  · show (List.map Declaration.variableName _).Nodup
    rw [happend]
    refine List.nodup_append.2 ⟨hs.nodup, List.nodup_singleton _, fun other hother last hlast => ?_⟩
    rintro rfl
    exact hfresh (List.mem_singleton.1 hlast ▸ hother)
  · show entry.2.RootedIn (List.map Declaration.variableName _)
    rw [happend]
    rcases List.mem_append.1 hentry with hentry | hentry
    · exact (hs.rooted entry hentry).mono (hnames _)
    · rw [List.mem_singleton.1 hentry]
      exact (hvalue herrors).mono (hnames _)

variable {line column : UInt32}

lemma updateAssetRoot_proceeds {update : Value F → Except Text (Value F)} (hsound : s.Sound)
    (h : s.errors = [] → ∀ root updated, root.RootedIn s.names → update root = .ok updated →
      updated.RootedIn s.names) :
    Proceeds (updateAssetRoot update line column) s fun accepted _ => accepted = true := by
  rw [updateAssetRoot]
  refine Proceeds.inspect (Proceeds.inspect ?_)
  cases hfound : Value.findEntry s.variableMap s.declaredAssetVariable with
  | none => exact Proceeds.error
  | some assetRoot =>
    dsimp only
    cases hupdate : update assetRoot with
    | error message => exact Proceeds.error
    | ok updated =>
      refine Proceeds.change (later_setEntry fun herrors => ?_) (Proceeds.pure fun _ => rfl)
      obtain ⟨hname, hroot⟩ := (hsound herrors).rootedIn_findEntry hfound
      exact ⟨hname, h herrors _ _ hroot hupdate⟩

/-- The struct becomes a declared one. -/
lemma later_declaredStruct (name : Text) :
    Later s { s with declaredStructs := s.declaredStructs ++ [name] } :=
  ⟨List.prefix_rfl, Nat.le_refl _, List.Subset.refl _, fun h herrors =>
    ⟨(h herrors).identifier, (h herrors).keys, (h herrors).nodup, (h herrors).rooted⟩⟩

lemma parseStructDeclaration_proceeds (hsound : s.Sound) (hfuel : s.left < fuel)
    (hattributes : attributes.RootedIn s.names) :
    Proceeds (parseStructDeclaration fuel attributes line column) s
      fun accepted _ => accepted = true := by
  rw [parseStructDeclaration]
  refine Proceeds.inspect (Proceeds.advance (Proceeds.inspect ?_))
  refine Proceeds.ite (fun _ => Proceeds.error) fun _ => Proceeds.expect fun _ => ?_
  have hname := s.later_advanced.left
  have hbrace := s.advanced.later_advanced.left
  refine (parseStructFields_proceeds fuel [] (by omega) Value.rootedIn_emptyList).bind
    fun result t ht hresult => ?_
  cases result with
  | none =>
    refine Proceeds.pure fun herrors => ?_
    obtain ⟨_, hnone, -⟩ := hresult herrors
    exact nomatch hnone
  | some fields =>
    have hclosed : Later t t.advanced.advanced :=
      t.later_advanced.trans t.advanced.later_advanced
    have hbehind := (ht.sound (sound_advanced (sound_advanced hsound)))
    refine Proceeds.expect fun _ => Proceeds.expect fun _ => ?_
    refine Proceeds.check (updateAssetRoot_proceeds (hclosed.sound hbehind)
      fun herrors root updated hroot hupdate => ?_) fun u hu => ?_
    · obtain ⟨_, hsome, hfields⟩ := hresult (hclosed.errors_nil herrors)
      obtain rfl := Option.some.inj hsome
      exact rootedIn_withBindStruct hroot (hattributes.mono ht.names) hfields hupdate
    · exact Proceeds.change (later_declaredStruct _) (Proceeds.pure fun _ => rfl)

lemma parseStructInstanceDeclaration_proceeds (hsound : s.Sound) :
    Proceeds (parseStructInstanceDeclaration typeName) s fun accepted _ => accepted = true := by
  rw [parseStructInstanceDeclaration]
  refine Proceeds.inspect (Proceeds.advance (Proceeds.expect fun _ => ?_))
  exact updateAssetRoot_proceeds (sound_advanced (sound_advanced hsound))
    fun _ root updated hroot hupdate => rootedIn_withBindInstance hroot hupdate

lemma declareVariable_proceeds {initialValue : Value F} {variableToken : Token}
    (h : s.errors = [] → initialValue.RootedIn s.names) :
    Proceeds (declareVariable typeName initialValue line column variableToken) s
      fun accepted _ => accepted = true := by
  rw [declareVariable]
  refine Proceeds.ite (fun _ => Proceeds.error) fun _ => ?_
  refine Proceeds.ite (fun _ => Proceeds.error) fun _ => Proceeds.inspect ?_
  refine Proceeds.ite (fun _ => Proceeds.error) fun hnew => ?_
  rw [Bool.not_eq_true] at hnew
  exact Proceeds.change (later_declared hnew h) (Proceeds.pure fun _ => rfl)

/-- The target of an assignment is in a declared variable. -/
lemma resolveTarget_proceeds {rootName : Text} {path : List Text} {allowCreateRoot : Bool}
    (hsound : s.Sound) :
    Proceeds (resolveTarget rootName path allowCreateRoot line column) s fun result t =>
      rootName ∈ t.names ∧ ∃ target, result = some target ∧ target.RootedIn t.names := by
  rw [resolveTarget]
  refine Proceeds.inspect (Proceeds.ite (fun _ => Proceeds.error) fun hdeclared => ?_)
  rw [Bool.not_eq_false, isDeclaredVariable, List.any_eq_true] at hdeclared
  obtain ⟨declaration, hmem, hname⟩ := hdeclared
  have hroot : rootName ∈ s.names := List.mem_map.2 ⟨declaration, hmem, of_decide_eq_true hname⟩
  refine Proceeds.inspect (Proceeds.ite (fun _ => Proceeds.error) fun _ => ?_)
  have hopened (herrors : s.errors = []) :
      (((Value.findEntry s.variableMap rootName).getD .null).openPath path).1.RootedIn s.names ∧
        ∀ target, (((Value.findEntry s.variableMap rootName).getD .null).openPath path).2 =
          some target → target.RootedIn s.names :=
    (hsound herrors).rootedIn_findEntryD.openPath path
  refine Proceeds.change (later_setEntry fun herrors => ⟨hroot, (hopened herrors).1⟩) ?_
  cases htarget : (((Value.findEntry s.variableMap rootName).getD .null).openPath path).2 with
  | none => exact Proceeds.error
  | some target =>
    exact Proceeds.pure fun herrors => ⟨hroot, target, rfl, (hopened herrors).2 target htarget⟩

/-! ## Statements -/

variable [DoubleArithmetic F]

lemma parseDeclaration_proceeds (hsound : s.Sound) (hfuel : s.left < fuel) :
    Proceeds (parseDeclaration fuel typeName line column) s fun accepted _ => accepted = true := by
  have hname := s.later_advanced.left
  rw [parseDeclaration]
  refine Proceeds.inspect (Proceeds.advance (Proceeds.inspect ?_))
  refine Proceeds.ite (fun _ => ?_) fun _ => ?_
  · have hequal := s.advanced.later_advanced.left
    refine Proceeds.advance ?_
    refine ((parseExpression_parses fuel).proceeds (sound_advanced (sound_advanced hsound))
      (by omega)).bind fun value t ht hvalue => ?_
    refine Proceeds.unlessErrors fun herrors => Proceeds.expect fun _ => ?_
    exact declareVariable_proceeds fun _ => (hvalue herrors).2
  · exact Proceeds.expect fun _ => declareVariable_proceeds fun _ => Value.rootedIn_null

lemma parseAssignment_proceeds {first : Token} {path : List Text} (hsound : s.Sound)
    (hfuel : s.left < fuel) :
    Proceeds (parseAssignment fuel first path) s fun accepted _ => accepted = true := by
  have hoperator := s.later_advanced.left
  rw [parseAssignment]
  refine Proceeds.inspect (Proceeds.ite (fun _ => Proceeds.errorExpected) fun _ => ?_)
  refine Proceeds.advance ?_
  refine ((parseExpression_parses fuel).proceeds (sound_advanced hsound) (by omega)).bind
    fun rhs t ht hrhs => ?_
  refine Proceeds.unlessErrors fun herrors => Proceeds.expect fun _ => ?_
  have hrhs := (hrhs herrors).2
  have ht' : t.advanced.Sound := sound_advanced (ht.sound (sound_advanced hsound))
  refine (resolveTarget_proceeds ht').bind fun result u hu hresult => ?_
  cases result with
  | none =>
    refine Proceeds.pure fun herrors => ?_
    obtain ⟨-, _, hnone, -⟩ := hresult herrors
    exact nomatch hnone
  | some target =>
    refine Proceeds.check (validateAssignment_proceeds _) fun v hv => ?_
    refine Proceeds.change (later_setEntry fun herrors => ?_) (Proceeds.pure fun _ => rfl)
    obtain ⟨hroot, _, hsome, htarget⟩ := hresult (hv.errors_nil herrors)
    obtain rfl := Option.some.inj hsome
    have hv' := hv.sound (hu.sound ht') herrors
    refine ⟨hv.names hroot, hv'.rootedIn_findEntryD.setPath path ?_⟩
    exact Value.rootedIn_assigned _ (htarget.mono hv.names)
      ((hrhs.mono hu.names).mono hv.names)

/-- A statement consumes something, or records an error. -/
lemma parseStatement_proceeds (hsound : s.Sound) (hfuel : s.left < fuel) :
    Proceeds (parseStatement fuel) s fun accepted t => accepted = true ∧ t.left < s.left := by
  rw [parseStatement]
  refine (parseAttributeList_proceeds fuel hfuel Value.rootedIn_emptyList).bind
    fun attributes t ht hattributes => ?_
  refine Proceeds.unlessErrors fun herrors => ?_
  have hattributes := hattributes herrors
  refine Proceeds.inspect (Proceeds.ite (fun _ => Proceeds.errorExpected) fun htype => ?_)
  rw [not_not] at htype
  have hlt : t.advanced.left < t.left := left_advanced_lt (by rw [htype]; decide)
  have hle := ht.left
  have ht' : t.advanced.Sound := sound_advanced (ht.sound hsound)
  refine Proceeds.advance ?_
  have hconsumed {p : ParserM F Bool}
      (hp : Proceeds p t.advanced fun accepted _ => accepted = true) :
      Proceeds p t.advanced fun accepted u => accepted = true ∧ u.left < s.left :=
    hp.mono fun accepted u hu haccepted =>
      ⟨haccepted, hu.left.trans_lt (hlt.trans_le hle)⟩
  refine Proceeds.inspect (Proceeds.ite (fun _ => hconsumed ?_) fun _ => ?_)
  · exact parseStructDeclaration_proceeds ht' (by omega) hattributes
  refine Proceeds.ite (fun _ => Proceeds.error) fun _ => ?_
  refine Proceeds.inspect (Proceeds.ite (fun _ => Proceeds.inspect ?_) fun _ => hconsumed ?_)
  · refine Proceeds.ite (fun _ => hconsumed ?_) fun _ => hconsumed ?_
    · exact parseStructInstanceDeclaration_proceeds ht'
    · exact parseDeclaration_proceeds ht' (by omega)
  · refine (parsePath_proceeds fuel [] (by omega)).bind fun path u hu hpath => ?_
    cases path with
    | none => exact Proceeds.pure fun herrors => Bool.noConfusion (hpath herrors)
    | some path =>
      have hleft := hu.left
      exact parseAssignment_proceeds (hu.sound ht') (by omega)

/-- Behind an error no statement is accepted. -/
lemma parseStatement_of_errors (hfuel : s.left < fuel) (herrors : s.errors ≠ []) :
    Returns (parseStatement fuel) s fun accepted t => Later s t ∧ accepted = false := by
  rw [parseStatement]
  refine Returns.bind (parseAttributeList_proceeds fuel hfuel Value.rootedIn_emptyList)
    fun attributes t ⟨ht, _⟩ => ?_
  have hfailed : (!t.errors.isEmpty) = true := by
    rw [Bool.not_eq_true', List.isEmpty_eq_false_iff]
    exact fun hnone => herrors (ht.errors_nil hnone)
  refine returns_bind.2 (returns_inspect.2 ?_)
  rw [if_pos hfailed]
  exact returns_pure.2 ⟨ht, rfl⟩

lemma returns_endOfFile (hend : s.current.type = .endOfFile) (steps fuel : ℕ) :
    Returns (parseStatements (F := F) fuel (steps + 1)) s fun accepted t =>
      Later s t ∧ (accepted = true ↔ t.errors = []) := by
  rw [parseStatements]
  refine returns_bind.2 (returns_inspect.2 ?_)
  rw [if_pos hend]
  refine returns_bind.2 (returns_inspect.2 (returns_pure.2 ⟨Later.refl s, ?_⟩))
  rw [Bool.not_not]
  exact List.isEmpty_iff

/-- The loop over the statements ends at the end of the text, or at the first error. -/
lemma parseStatements_returns (steps : ℕ) (hsound : s.Sound) (hfuel : s.left < fuel)
    (hsteps : s.left < steps) :
    Returns (parseStatements fuel steps) s fun accepted t =>
      Later s t ∧ (accepted = true ↔ t.errors = []) := by
  induction steps generalizing s with
  | zero => exact absurd hsteps (Nat.not_lt_zero _)
  | succ steps ih =>
    by_cases hend : s.current.type = .endOfFile
    · exact returns_endOfFile hend steps fuel
    rw [parseStatements]
    refine returns_bind.2 (returns_inspect.2 ?_)
    rw [if_neg hend]
    refine Returns.bind (parseStatement_proceeds hsound hfuel) fun accepted t ⟨ht, haccepted⟩ => ?_
    have hrejected {u : Parser F} (hu : Later t u) (herrors : u.errors ≠ []) :
        Later s u ∧ (false = true ↔ u.errors = []) :=
      ⟨ht.trans hu, ⟨fun h => Bool.noConfusion h, fun h => absurd h herrors⟩⟩
    cases accepted with
    | false =>
      rw [if_pos rfl]
      exact returns_pure.2 (hrejected (Later.refl t) fun herrors =>
        Bool.noConfusion (haccepted herrors).1)
    | true =>
      rw [if_neg Bool.noConfusion]
      by_cases herrors : t.errors = []
      · have hlt := (haccepted herrors).2
        exact Returns.mono (ih (ht.sound hsound) (by omega) (by omega))
          fun accepted u ⟨hu, h⟩ => ⟨ht.trans hu, h⟩
      -- an accepted statement may have read an error token behind it
      have hpositive : 0 < s.left := by
        show 0 < s.lexer.rest.length + _
        rw [if_neg hend]
        exact Nat.succ_pos _
      obtain ⟨steps, rfl⟩ : ∃ fewer, steps = fewer + 1 := ⟨steps - 1, by omega⟩
      by_cases hend' : t.current.type = .endOfFile
      · exact Returns.mono (returns_endOfFile hend' steps fuel)
          fun accepted u ⟨hu, h⟩ => ⟨ht.trans hu, h⟩
      rw [parseStatements]
      refine returns_bind.2 (returns_inspect.2 ?_)
      rw [if_neg hend']
      refine Returns.bind (parseStatement_of_errors (ht.left.trans_lt hfuel) herrors)
        fun accepted u ⟨hu, haccepted⟩ => ?_
      rw [if_pos haccepted]
      exact returns_pure.2 (hrejected hu fun hnone => herrors (hu.errors_nil hnone))

omit [DoubleArithmetic F] in
/-- The asset is what was declared first, or there is an error. -/
lemma finalizeExplicitDeclaration_returns (h : s.errors = []) :
    Returns finalizeExplicitDeclaration s fun accepted t =>
      Later s t ∧ (accepted = true ↔ t.errors = []) := by
  rw [finalizeExplicitDeclaration]
  refine returns_bind.2 (returns_inspect.2 ?_)
  split
  · refine returns_bind.2 (returns_modify.2 (returns_pure.2 ⟨s.later_withError _, ?_⟩))
    exact ⟨fun h => Bool.noConfusion h, fun h => absurd h (s.errors_withError _)⟩
  · refine returns_bind.2 (returns_modify.2 (returns_pure.2 ⟨?_, ?_⟩))
    · exact ⟨List.prefix_rfl, Nat.le_refl _, List.Subset.refl _, fun hsound herrors =>
        ⟨(hsound herrors).identifier, (hsound herrors).keys, (hsound herrors).nodup,
          (hsound herrors).rooted⟩⟩
    · exact ⟨fun _ => h, fun _ => rfl⟩

omit [DoubleArithmetic F] in
/-- The constructor has read the first token. -/
lemma sound_start (source : Text) : (start (F := F) source).Sound := by
  refine (later_advanced _).sound fun _ => ⟨fun h => TokenType.noConfusion h, rfl, List.nodup_nil,
    fun entry hentry => absurd hentry List.not_mem_nil⟩

omit [DoubleArithmetic F] in
lemma left_start (source : Text) : (start (F := F) source).left < source.length + 1 :=
  Nat.lt_succ_of_le (left_advanced_le_length _)

lemma parseInto_returns (source : Text) :
    Returns (parseInto (F := F) (source.length + 1)) (start source) fun accepted t =>
      Later (start source) t ∧ (accepted = true ↔ t.errors = []) := by
  rw [parseInto]
  refine Returns.bind (parseStatements_returns _ (sound_start source) (left_start source)
    (left_start source)) fun accepted t ⟨ht, haccepted⟩ => ?_
  refine returns_ite.2 ⟨fun hrejected => returns_pure.2 ⟨ht, ?_⟩, fun hnot => ?_⟩
  · rw [← haccepted, hrejected]
  · have herrors := haccepted.1 (Bool.eq_true_of_not_eq_false hnot)
    exact Returns.mono (finalizeExplicitDeclaration_returns herrors)
      fun accepted u ⟨hu, h⟩ => ⟨ht.trans hu, h⟩

omit [DoubleArithmetic F] in
/-- The implicit asset is the first declaration, unless it has no type or no name. -/
lemma declareImplicitAsset_returns {assetType assetVariable : Text} (hnames : s.names = []) :
    Returns (declareImplicitAsset assetType assetVariable) s fun accepted t =>
      Later s t ∧ (accepted = false → t.errors ≠ []) := by
  rw [declareImplicitAsset]
  refine returns_ite.2 ⟨fun _ => ?_, fun _ => ?_⟩
  · exact returns_bind.2 (returns_modify.2 (returns_pure.2
      ⟨s.later_withError _, fun _ => s.errors_withError _⟩))
  refine returns_bind.2 (returns_modify.2 (returns_pure.2 ⟨?_, fun h => Bool.noConfusion h⟩))
  have hdeclarations : s.declarations = [] := List.map_eq_nil_iff.1 hnames
  refine ⟨List.prefix_rfl, Nat.le_refl _, hnames ▸ List.nil_subset _, fun hsound herrors => ?_⟩
  have hs := hsound herrors
  have hvariables : s.variableMap = [] := List.map_eq_nil_iff.1 (hs.keys.trans hnames)
  refine ⟨hs.identifier, ?_, ?_, ?_⟩
  · simp [names, hdeclarations, hvariables]
  · simp [names, hdeclarations]
  · intro entry hentry
    obtain rfl : entry = (assetVariable, .null) := by simpa [hvariables] using hentry
    exact Value.rootedIn_null

lemma parseWithImplicitAsset_returns (source assetType assetVariable : Text) :
    Returns (parseWithImplicitAsset (F := F) (source.length + 1) assetType assetVariable)
      (start source) fun accepted t =>
        Later (start source) t ∧ (accepted = true ↔ t.errors = []) := by
  rw [parseWithImplicitAsset]
  refine Returns.bind (declareImplicitAsset_returns rfl) fun declared t ⟨ht, hdeclared⟩ => ?_
  refine returns_ite.2 ⟨fun hrejected => returns_pure.2 ⟨ht, ?_⟩, fun _ => ?_⟩
  · exact ⟨fun h => Bool.noConfusion h, fun h => absurd h (hdeclared hrejected)⟩
  · have hleft := ht.left.trans_lt (left_start source)
    exact Returns.mono (parseStatements_returns _ (ht.sound (sound_start source)) hleft hleft)
      fun accepted u ⟨hu, h⟩ => ⟨ht.trans hu, h⟩

end Parser

/-! ## Documents -/

/-- The variables are the declared ones, each declared once, and every reference begins with the
name of one of them. -/
structure Document.Consistent {F : Type} (document : Document F) : Prop where
  keys : document.variableMap.map Prod.fst =
    document.declarations.map Declaration.variableName
  nodup : (document.declarations.map Declaration.variableName).Nodup
  rooted : ∀ entry ∈ document.variableMap, ∀ text ∈ entry.2.references,
    referenceRoot text ∈ document.declarations.map Declaration.variableName

lemma Parser.consistent_document {F : Type} {s : Parser F} (h : s.Sound) (herrors : s.errors = []) :
    s.document.Consistent :=
  ⟨(h herrors).keys, (h herrors).nodup, (h herrors).rooted⟩

/-- Every token consumes text unless it is the end, parsing returns on every source text, it accepts
if and only if no error has been recorded, and what it accepts is consistent. -/
theorem parse_total {F : Type} [DoubleArithmetic F] (source : Text) :
    (∀ lexer : Lexer, (lexer.next.1.type = .endOfFile ∧ lexer.next.2.rest = []) ∨
      (lexer.next.1.type ≠ .endOfFile ∧ lexer.next.2.rest.length < lexer.rest.length)) ∧
    ∃ (accepted : Bool) (document : Document F),
      Document.parse source = some (accepted, document) ∧
      (accepted = true ↔ document.errors = []) ∧ (accepted = true → document.Consistent) := by
  refine ⟨Lexer.length_next, ?_⟩
  obtain ⟨accepted, t, hparse, ht, haccepted⟩ := Parser.parseInto_returns (F := F) source
  refine ⟨accepted, t.document, ?_, haccepted, fun h => ?_⟩
  · rw [Document.parse, hparse]
    rfl
  · exact Parser.consistent_document (ht.sound (Parser.sound_start source)) (haccepted.1 h)

/-- So is it behind an asset that the caller declares. -/
theorem parseWithImplicitAsset_total {F : Type} [DoubleArithmetic F]
    (source assetType assetVariable : Text) : ∃ (accepted : Bool) (document : Document F),
      Document.parseWithImplicitAsset source assetType assetVariable = some (accepted, document) ∧
      (accepted = true ↔ document.errors = []) ∧ (accepted = true → document.Consistent) := by
  obtain ⟨accepted, t, hparse, ht, haccepted⟩ :=
    Parser.parseWithImplicitAsset_returns (F := F) source assetType assetVariable
  refine ⟨accepted, t.document, ?_, haccepted, fun h => ?_⟩
  · rw [Document.parseWithImplicitAsset, hparse]
    rfl
  · exact Parser.consistent_document (ht.sound (Parser.sound_start source)) (haccepted.1 h)

end NwbLot.Metascript
