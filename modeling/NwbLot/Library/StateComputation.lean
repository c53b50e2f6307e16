import Mathlib.Tactic.Lemma

/-!
# Computations on a state that may not return

A computation without a result is one that has run out of fuel.  `Returns` says that a computation
returns from a state, and what its result and its state are then like: total correctness, with one
rule for each way to build a computation.
-/

namespace StateComputation

variable {σ α β : Type}

/-- What the state says, without changing it. -/
def inspect (f : σ → α) : StateT σ Option α := fun s => some (f s, s)

/-- The computation returns from the state with this property. -/
def Returns (p : StateT σ Option α) (s : σ) (Q : α → σ → Prop) : Prop :=
  ∃ a t, p s = some (a, t) ∧ Q a t

variable {p : StateT σ Option α} {f : α → StateT σ Option β} {s : σ} {Q R : α → σ → Prop}

@[simp] lemma returns_pure {a : α} : Returns (pure a) s Q ↔ Q a s := by
  constructor
  · rintro ⟨a, t, h, hQ⟩
    obtain ⟨rfl, rfl⟩ := Prod.mk.inj (Option.some.inj h)
    exact hQ
  · exact fun hQ => ⟨a, s, rfl, hQ⟩

@[simp] lemma returns_inspect {g : σ → α} : Returns (inspect g) s Q ↔ Q (g s) s := by
  constructor
  · rintro ⟨a, t, h, hQ⟩
    obtain ⟨rfl, rfl⟩ := Prod.mk.inj (Option.some.inj h)
    exact hQ
  · exact fun hQ => ⟨_, s, rfl, hQ⟩

@[simp] lemma returns_modify {g : σ → σ} {Q : PUnit → σ → Prop} :
    Returns (modify g : StateT σ Option PUnit) s Q ↔ Q ⟨⟩ (g s) := by
  constructor
  · rintro ⟨a, t, h, hQ⟩
    obtain ⟨rfl, rfl⟩ := Prod.mk.inj (Option.some.inj h)
    exact hQ
  · exact fun hQ => ⟨_, g s, rfl, hQ⟩

/-- The rule of composition. -/
@[simp] lemma returns_bind {Q : β → σ → Prop} :
    Returns (p >>= f) s Q ↔ Returns p s fun a t => Returns (f a) t Q := by
  constructor
  · rintro ⟨b, u, h, hQ⟩
    obtain ⟨⟨a, t⟩, hp, hf⟩ := Option.bind_eq_some_iff.1 h
    exact ⟨a, t, hp, b, u, hf, hQ⟩
  · rintro ⟨a, t, hp, b, u, hf, hQ⟩
    exact ⟨b, u, Option.bind_eq_some_iff.2 ⟨(a, t), hp, hf⟩, hQ⟩

lemma returns_ite {c : Prop} [Decidable c] {q : StateT σ Option α} :
    Returns (if c then p else q) s Q ↔ (c → Returns p s Q) ∧ (¬c → Returns q s Q) := by
  by_cases h : c
  · simp [h]
  · simp [h]

/-- The rule of consequence. -/
lemma Returns.mono (h : Returns p s Q) (hQR : ∀ a t, Q a t → R a t) : Returns p s R := by
  obtain ⟨a, t, hp, hQ⟩ := h
  exact ⟨a, t, hp, hQR a t hQ⟩

lemma Returns.bind {Q : α → σ → Prop} {R : β → σ → Prop} (h : Returns p s Q)
    (hf : ∀ a t, Q a t → Returns (f a) t R) : Returns (p >>= f) s R :=
  returns_bind.2 (h.mono hf)

end StateComputation
