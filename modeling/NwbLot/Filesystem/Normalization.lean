import NwbLot.Filesystem.PathForms

/-!
# Normalisation of forms

Filename and parent of a form are its last name and the form without it, so normalisation is a fold
over names: a name is added, `..` takes the last one away.
-/

namespace NwbLot.Filesystem

open Crash (Text Platform ascii charColon charSlash isSeparator preferredSeparator rootNameLength
  rootDirectoryLength isAbsolute appendComponent components)

namespace PathForm

variable {platform : Platform} {form front : PathForm} {last : Text}

/-! ## The last name -/

section Snoc

variable (h : (front.snoc last).Proper platform)
include h

end Snoc

/-! ## Forms without names -/

/-- What a component does to a form. -/
def step (form : PathForm) (component : Text) : PathForm :=
  if component = dot then form
  else if component = dotDot then
    if form.names ≠ [] ∧ form.names.getLast? ≠ some dotDot then form.pop
    else if form.rooted then form else form.snoc dotDot
  else form.snoc component

lemma Proper.step (h : form.Proper platform) {component : Text}
    (hcomponent : PlainName platform component) : (form.step component).Proper platform := by
  unfold PathForm.step
  split_ifs
  · exact h
  · exact h.pop
  · exact h
  · exact h.snoc (plainName_dotDot platform).toPathName (Or.inr (plainName_dotDot platform).noDrive)
  · exact h.snoc hcomponent.toPathName (Or.inr hcomponent.noDrive)

lemma Proper.foldl (h : form.Proper platform) {names : List Text}
    (hnames : ∀ name ∈ names, PlainName platform name) :
    (names.foldl PathForm.step form).Proper platform := by
  induction names generalizing form with
  | nil => exact h
  | cons name names ih =>
    obtain ⟨hname, hrest⟩ := List.forall_mem_cons.1 hnames
    exact ih (h.step hname) hrest

end PathForm

end NwbLot.Filesystem
