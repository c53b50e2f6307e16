import Mathlib.Tactic.Lemma
import Mathlib.Tactic.TypeStar
import Mathlib.Data.List.Induction

/-!
# Runs of a step function

Runs of a partial step function whose steps meet a side condition, and the rules that carry an
invariant along them.
-/

namespace Runs

variable {σ ε : Type*}

/-- `Run step ok s events t`: the events lead from `s` to `t`, and every step meets `ok` in the
state before it. -/
inductive Run (step : σ → ε → Option σ) (ok : σ → ε → Prop) (s : σ) : List ε → σ → Prop
  | refl : Run step ok s [] s
  | snoc {events : List ε} {t u : σ} {event : ε} (run : Run step ok s events t)
      (admitted : ok t event) (next : step t event = some u) : Run step ok s (events ++ [event]) u

/-- A run without a side condition. -/
abbrev FreeRun (step : σ → ε → Option σ) (s : σ) : List ε → σ → Prop :=
  Run step (fun _ _ => True) s

/-- The state after a list of events whose steps pass a check. -/
def after (step : σ → ε → Option σ) (check : σ → ε → Bool) (s : σ) (events : List ε) : Option σ :=
  events.foldlM (fun t event => if check t event then step t event else none) s

variable {step : σ → ε → Option σ} {ok : σ → ε → Prop} {s t : σ} {events : List ε}

/-- A run with one more step at its start. -/
theorem Run.cons {event : ε} (admitted : ok s event) (next : step s event = some t) {u : σ}
    (hrun : Run step ok t events u) : Run step ok s (event :: events) u := by
  induction hrun with
  | refl => exact .snoc .refl admitted next
  | snoc run admitted' next' ih => exact .snoc ih admitted' next'

/-- One run after another. -/
theorem Run.append {events' : List ε} {u : σ} (hrun : Run step ok s events t)
    (hrun' : Run step ok t events' u) : Run step ok s (events ++ events') u := by
  induction hrun' with
  | refl =>
    rw [List.append_nil]
    exact hrun
  | snoc run admitted next ih =>
    rw [← List.append_assoc]
    exact .snoc ih admitted next

/-- What holds at the start and is kept by every admitted step holds at the end. -/
theorem Run.invariant {P : σ → Prop} (hrun : Run step ok s events t) (hstart : P s)
    (hstep : ∀ t event u, ok t event → step t event = some u → P t → P u) : P t := by
  induction hrun with
  | refl => exact hstart
  | snoc run admitted next ih => exact hstep _ _ _ admitted next ih

/-- The rule for invariants that speak about the events so far. -/
theorem Run.history_invariant {P : List ε → σ → Prop} (hrun : Run step ok s events t)
    (hstart : P [] s)
    (hstep : ∀ events t event u, ok t event → step t event = some u → P events t →
      P (events ++ [event]) u) : P events t := by
  induction hrun with
  | refl => exact hstart
  | snoc run admitted next ih => exact hstep _ _ _ _ admitted next ih

/-- Two side conditions that agree wherever an invariant holds have the same runs. -/
theorem Run.congr_of_invariant {ok' : σ → ε → Prop} {P : σ → Prop} (hstart : P s)
    (hok : ∀ t event, P t → (ok t event ↔ ok' t event))
    (hstep : ∀ t event u, ok t event → step t event = some u → P t → P u) :
    Run step ok s events t ↔ Run step ok' s events t := by
  constructor
  · intro hrun
    induction hrun with
    | refl => exact .refl
    | snoc run admitted next ih =>
      exact .snoc ih ((hok _ _ (run.invariant hstart hstep)).1 admitted) next
  · intro hrun
    induction hrun with
    | refl => exact .refl
    | snoc run admitted next ih =>
      exact .snoc ih ((hok _ _ (ih.invariant hstart hstep)).2 admitted) next

/-- A computed sequence of states is a run when the check implies the side condition. -/
theorem run_of_after {check : σ → ε → Bool} (hcheck : ∀ t event, check t event = true → ok t event)
    (h : after step check s events = some t) : Run step ok s events t := by
  induction events using List.reverseRecOn generalizing t with
  | nil =>
    obtain rfl : s = t := by simpa [after] using h
    exact .refl
  | append_singleton events event ih =>
    simp only [after, List.foldlM_append, List.foldlM_cons, List.foldlM_nil, Option.bind_eq_bind,
      Option.bind_eq_some_iff, Option.pure_def, Option.some.injEq] at h
    obtain ⟨u, hu, v, hv, rfl⟩ := h
    split at hv
    · next hchecked => exact .snoc (ih hu) (hcheck u event hchecked) hv
    · cases hv

end Runs
