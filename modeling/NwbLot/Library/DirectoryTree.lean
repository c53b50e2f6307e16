import Mathlib.Data.List.Basic

/-!
# Directories of named files

A file system as directories with named contents, the operations on it, and the state after a list
of files has been renamed from one directory to another.
-/

namespace DirectoryTree

/-- What a directory path names. -/
inductive Node (ν κ : Type*)
  | file
  | directory (listing : ν → Option κ)

/-- The nodes of all directory paths. -/
abbrev Tree (δ ν κ : Type*) := δ → Option (Node ν κ)

/-- A file in a directory. -/
structure Place (δ ν : Type*) where
  directory : δ
  name : ν
  deriving DecidableEq

variable {δ ν κ : Type*}

/-- The contents of a place. -/
def read (tree : Tree δ ν κ) (place : Place δ ν) : Option κ :=
  match tree place.directory with
  | some (.directory listing) => listing place.name
  | _ => none

def isDirectory (tree : Tree δ ν κ) (directory : δ) : Bool :=
  match tree directory with
  | some (.directory _) => true
  | _ => false

section Operations

variable [DecidableEq δ] [DecidableEq ν] (tree : Tree δ ν κ)

/-- New contents, or none, at a place of an existing directory. -/
def put (place : Place δ ν) (contents : Option κ) : Tree δ ν κ := fun directory =>
  match tree directory with
  | some (.directory listing) =>
    if directory = place.directory then
      some (.directory fun name => if name = place.name then contents else listing name)
    else some (.directory listing)
  | node => node

/-- The directory, created empty where nothing is. -/
def make (directory : δ) : Option (Tree δ ν κ) :=
  match tree directory with
  | some .file => none
  | some (.directory _) => some tree
  | none => some fun other =>
    if other = directory then some (.directory fun _ => none) else tree other

/-- Without the directory and what is in it. -/
def drop (directory : δ) : Tree δ ν κ :=
  fun other => if other = directory then none else tree other

/-- The file at the source goes to the destination, in the place of what was there. -/
def rename (source destination : Place δ ν) : Option (Tree δ ν κ) :=
  if isDirectory tree destination.directory then
    (read tree source).map fun contents =>
      put (put tree source none) destination (some contents)
  else none

end Operations

section Laws

variable [DecidableEq δ] [DecidableEq ν] {tree tree' : Tree δ ν κ}

@[simp] lemma isDirectory_put (place : Place δ ν) (contents : Option κ) (directory : δ) :
    isDirectory (put tree place contents) directory = isDirectory tree directory := by
  unfold isDirectory put
  cases tree directory with
  | none => rfl
  | some node =>
    cases node with
    | file => rfl
    | directory listing =>
      by_cases hsame : directory = place.directory <;> simp [hsame]

lemma put_ne_file {place : Place δ ν} {contents : Option κ} {directory : δ}
    (h : tree directory ≠ some .file) : put tree place contents directory ≠ some .file := by
  unfold put
  cases hnode : tree directory with
  | none => simp
  | some node =>
    cases node with
    | file => exact absurd hnode h
    | directory listing => by_cases hsame : directory = place.directory <;> simp [hsame]

lemma read_put (place other : Place δ ν) (contents : Option κ)
    (h : isDirectory tree place.directory = true) :
    read (put tree place contents) other = if other = place then contents else read tree other := by
  obtain ⟨directory, name⟩ := other
  unfold read put
  cases hnode : tree directory with
  | none =>
    have hne : (⟨directory, name⟩ : Place δ ν) ≠ place := by
      rintro rfl
      simp [isDirectory, hnode] at h
    simp [hne]
  | some node =>
    cases node with
    | file =>
      have hne : (⟨directory, name⟩ : Place δ ν) ≠ place := by
        rintro rfl
        simp [isDirectory, hnode] at h
      simp [hne]
    | directory listing =>
      obtain ⟨placeDirectory, placeName⟩ := place
      by_cases hdirectory : directory = placeDirectory <;> by_cases hname : name = placeName <;>
        simp [hdirectory, hname]

omit [DecidableEq δ] [DecidableEq ν] in
/-- A directory that holds a file is one. -/
lemma isDirectory_of_read {place : Place δ ν} {contents : κ} (h : read tree place = some contents) :
    isDirectory tree place.directory = true := by
  unfold read at h
  split at h
  · next heq => simp [isDirectory, heq]
  · cases h

/-- What a successful rename found and did. -/
lemma rename_eq_some {source destination : Place δ ν}
    (h : rename tree source destination = some tree') :
    (read tree source).isSome = true ∧
      (∀ place, read tree' place = if place = destination then read tree source
        else if place = source then none else read tree place) ∧
      (∀ directory, isDirectory tree' directory = isDirectory tree directory) ∧
      ∀ directory, tree directory ≠ some .file → tree' directory ≠ some .file := by
  unfold rename at h
  split at h
  · next hdestination =>
    obtain ⟨contents, hcontents, rfl⟩ := Option.map_eq_some_iff.1 h
    refine ⟨by rw [hcontents]; rfl, ?_, ?_, fun directory h => put_ne_file (put_ne_file h)⟩
    · intro place
      rw [read_put _ _ _ (by simpa using hdestination),
        read_put _ _ _ (isDirectory_of_read hcontents), hcontents]
    · intro directory
      simp
  · cases h

lemma rename_isSome {source destination : Place δ ν} (hsource : (read tree source).isSome = true)
    (hdestination : isDirectory tree destination.directory = true) :
    ∃ tree', rename tree source destination = some tree' := by
  obtain ⟨contents, hcontents⟩ := Option.isSome_iff_exists.1 hsource
  exact ⟨_, by rw [rename, if_pos hdestination, hcontents]; rfl⟩

end Laws

section Directories

variable [DecidableEq δ] {tree tree' : Tree δ ν κ}

lemma make_eq_some {directory : δ} (h : make tree directory = some tree') :
    isDirectory tree' directory = true ∧ (∀ place, read tree' place = read tree place) ∧
      (∀ other, isDirectory tree other = true → isDirectory tree' other = true) ∧
      ∀ other, tree other ≠ some .file → tree' other ≠ some .file := by
  unfold make at h
  split at h
  · cases h
  · next listing hnode =>
    cases h
    exact ⟨by simp [isDirectory, hnode], fun _ => rfl, fun _ h => h, fun _ h => h⟩
  · next hnode =>
    cases h
    refine ⟨by simp [isDirectory], ?_, ?_, ?_⟩
    · intro place
      unfold read
      by_cases hplace : place.directory = directory
      · simp [hplace, hnode]
      · simp [hplace]
    · intro other hother
      unfold isDirectory at hother ⊢
      split
      · rfl
      · next hnot =>
        by_cases heq : other = directory
        · simp [heq, hnode] at hother
        · simp only [heq, if_false] at hnot
          split at hother
          · next listing hlisting => exact absurd hlisting (hnot listing)
          · exact hother
    · intro other hother
      by_cases heq : other = directory
      · simp [heq]
      · simpa [heq] using hother

lemma make_isSome {directory : δ} (h : tree directory ≠ some .file) :
    ∃ tree', make tree directory = some tree' := by
  unfold make
  split
  · next hfile => exact absurd hfile h
  · exact ⟨_, rfl⟩
  · exact ⟨_, rfl⟩

lemma read_drop (directory : δ) (place : Place δ ν) :
    read (drop tree directory) place
      = if place.directory = directory then none else read tree place := by
  unfold read drop
  split <;> simp_all

end Directories

/-! ## Moving files -/

section Moves

variable [DecidableEq δ] [DecidableEq ν] {names : List ν} {source destination : δ}
  {before after after' : Tree δ ν κ}

/-- The named files have been moved from one directory to another, and nothing else changed. -/
structure Moved (names : List ν) (source destination : δ) (before after : Tree δ ν κ) : Prop where
  at_source : ∀ name, read after ⟨source, name⟩
    = if name ∈ names then none else read before ⟨source, name⟩
  at_destination : ∀ name, read after ⟨destination, name⟩
    = if name ∈ names then read before ⟨source, name⟩ else read before ⟨destination, name⟩
  elsewhere : ∀ directory, directory ≠ source → directory ≠ destination → ∀ name,
    read after ⟨directory, name⟩ = read before ⟨directory, name⟩
  directories : ∀ directory, isDirectory before directory = true →
    isDirectory after directory = true
  files : ∀ directory, before directory ≠ some .file → after directory ≠ some .file

namespace Moved

omit [DecidableEq δ] in
lemma nil (source destination : δ) (tree : Tree δ ν κ) :
    Moved ([] : List ν) source destination tree tree :=
  ⟨fun _ => by simp, fun _ => by simp, fun _ _ _ _ => rfl, fun _ h => h, fun _ h => h⟩

/-- Making a directory moves no file. -/
lemma make (h : Moved names source destination before after) {directory : δ}
    (hmake : DirectoryTree.make after directory = some after') :
    Moved names source destination before after' ∧ isDirectory after' directory = true := by
  obtain ⟨hmade, hread, hkept, hfiles⟩ := make_eq_some hmake
  refine ⟨⟨?_, ?_, ?_, fun other hother => hkept other (h.directories other hother),
    fun other hother => hfiles other (h.files other hother)⟩, hmade⟩
  · intro name
    rw [hread, h.at_source]
  · intro name
    rw [hread, h.at_destination]
  · intro other hsource hdestination name
    rw [hread, h.elsewhere other hsource hdestination]

/-- One more file.  It cannot have been moved before. -/
lemma snoc (h : Moved names source destination before after) (hapart : source ≠ destination)
    {name : ν} (hrename : rename after ⟨source, name⟩ ⟨destination, name⟩ = some after') :
    Moved (names ++ [name]) source destination before after' ∧ name ∉ names := by
  obtain ⟨hfound, hread, hdirectories, hfiles⟩ := rename_eq_some hrename
  have hfresh : name ∉ names := by
    intro hmem
    rw [h.at_source, if_pos hmem] at hfound
    cases hfound
  have hcontents : read after ⟨source, name⟩ = read before ⟨source, name⟩ := by
    rw [h.at_source, if_neg hfresh]
  refine ⟨⟨?_, ?_, ?_, fun directory hdirectory =>
    (hdirectories directory).trans (h.directories directory hdirectory),
    fun directory hdirectory => hfiles directory (h.files directory hdirectory)⟩, hfresh⟩
  · intro other
    by_cases hsame : other = name
    · simp [hread, hsame, hapart]
    · simp [hread, hsame, hapart, h.at_source other]
  · intro other
    by_cases hsame : other = name
    · simp [hread, hcontents, hsame]
    · simp [hread, hsame, hapart.symm, h.at_destination other]
  · intro directory hsource hdestination other
    rw [hread, h.elsewhere directory hsource hdestination]
    simp [hsource, hdestination]

/-- The files can all be moved when each of them is there once. -/
lemma rename_isSome (h : Moved names source destination before after) {name : ν}
    (hfresh : name ∉ names) (hfound : (read before ⟨source, name⟩).isSome = true)
    (hdirectory : isDirectory after destination = true) :
    ∃ tree', rename after ⟨source, name⟩ ⟨destination, name⟩ = some tree' := by
  apply DirectoryTree.rename_isSome _ hdirectory
  rw [h.at_source, if_neg hfresh]
  exact hfound

end Moved

end Moves

end DirectoryTree
