import Mathlib.Data.List.Basic
import Mathlib.Logic.Function.Basic

/-!
# Callback ledgers

Cells that are to receive one callback each.  An owner claims unclaimed cells, calls each of them
and settles what it claimed; rearming starts over with an empty log.  The ledger is the bookkeeping
of such a protocol, and `Records` says that a log of callbacks is the one the ledger accounts for.
-/

namespace CallbackLedger

variable {ι τ κ : Type*}

/-- What has happened to one cell since the last rearming. -/
inductive CellStatus (τ κ : Type*)
  | unclaimed
  | claimed (owner : τ) (kind : κ) (called : Bool)
  | settled (kind : κ)

namespace CellStatus

/-- The callback a cell has had. -/
def received : CellStatus τ κ → Option κ
  | .claimed _ kind true => some kind
  | .settled kind => some kind
  | _ => none

/-- The cell after its callback. -/
def call : CellStatus τ κ → CellStatus τ κ
  | .claimed owner kind _ => .claimed owner kind true
  | status => status

/-- The cell after its owner finished. -/
def settle [DecidableEq τ] (owner : τ) : CellStatus τ κ → CellStatus τ κ
  | .claimed o kind called => if o = owner then .settled kind else .claimed o kind called
  | status => status

end CellStatus

/-- A status for every cell. -/
abbrev Ledger (ι τ κ : Type*) := ι → CellStatus τ κ

section Steps

variable [DecidableEq ι]

/-- The cells are claimed for callbacks of a kind. -/
def claim (owner : τ) (kind : κ) (cells : List ι) (ledger : Ledger ι τ κ) : Ledger ι τ κ :=
  fun i => if i ∈ cells then .claimed owner kind false else ledger i

/-- The callback of a cell is made. -/
def call (i : ι) (ledger : Ledger ι τ κ) : Ledger ι τ κ :=
  Function.update ledger i (ledger i).call

end Steps

/-- The owner's cells are settled. -/
def settle [DecidableEq τ] (owner : τ) (ledger : Ledger ι τ κ) : Ledger ι τ κ :=
  fun i => (ledger i).settle owner

lemma settle_ne_claimed [DecidableEq τ] {owner : τ} {ledger : Ledger ι τ κ} (i : ι) (kind : κ)
    (called : Bool) : settle owner ledger i ≠ .claimed owner kind called := by
  unfold settle
  cases hstatus : ledger i with
  | unclaimed => simp [CellStatus.settle]
  | settled kind => simp [CellStatus.settle]
  | claimed o kind called =>
    by_cases howner : o = owner
    · simp [CellStatus.settle, howner]
    · simp [CellStatus.settle, howner]

/-- A cell that the owner does not hold stays as it is. -/
lemma settle_eq_self [DecidableEq τ] {owner : τ} {ledger : Ledger ι τ κ} {i : ι}
    (h : ∀ kind called, ledger i ≠ .claimed owner kind called) :
    settle owner ledger i = ledger i := by
  unfold settle
  cases hstatus : ledger i with
  | unclaimed => rfl
  | settled kind => rfl
  | claimed o kind called =>
    have howner : o ≠ owner := by
      rintro rfl
      exact h kind called hstatus
    simp [CellStatus.settle, howner]

/-- Nothing has been claimed since the rearming. -/
def rearmed : Ledger ι τ κ := fun _ => .unclaimed

/-- What a log of callbacks shows for one cell: a callback is logged when the cell has one to
run. -/
def shown (emits : ι → κ → Bool) (i : ι) : Option κ → List (ι × κ)
  | some kind => if emits i kind then [(i, kind)] else []
  | none => []

/-- The log holds what the ledger accounts for, cell by cell. -/
def Records [DecidableEq ι] (emits : ι → κ → Bool) (ledger : Ledger ι τ κ) (log : List (ι × κ)) :
    Prop :=
  ∀ i, log.filter (fun entry => entry.1 = i) = shown emits i (ledger i).received

section Records

variable [DecidableEq ι] {emits : ι → κ → Bool} {ledger : Ledger ι τ κ} {log : List (ι × κ)}

/-- No cell is called twice. -/
lemma Records.length_le_one (h : Records emits ledger log) (i : ι) :
    (log.filter (fun entry => entry.1 = i)).length ≤ 1 := by
  rw [h i]
  unfold shown
  split
  · split <;> simp
  · simp

lemma Records.rearm : Records emits (rearmed : Ledger ι τ κ) [] := by
  intro i
  rfl

lemma Records.claim (h : Records emits ledger log) {owner : τ} {kind : κ} {cells : List ι}
    (hcells : ∀ i ∈ cells, ledger i = .unclaimed) :
    Records emits (claim owner kind cells ledger) log := by
  intro i
  rw [h i]
  unfold CallbackLedger.claim
  by_cases hi : i ∈ cells
  · rw [if_pos hi, hcells i hi]
    rfl
  · rw [if_neg hi]

lemma Records.call (h : Records emits ledger log) {owner : τ} {kind : κ} {i : ι}
    (hi : ledger i = .claimed owner kind false) :
    Records emits (call i ledger) (if emits i kind then (i, kind) :: log else log) := by
  intro j
  have hj := h j
  unfold CallbackLedger.call
  by_cases hij : j = i
  · subst hij
    rw [hi] at hj
    simp only [CellStatus.received, shown] at hj
    rw [Function.update_self, hi]
    by_cases hemits : emits j kind = true
    · simp [hemits, CellStatus.call, CellStatus.received, shown, hj]
    · simp [hemits, CellStatus.call, CellStatus.received, shown, hj]
  · rw [Function.update_of_ne hij, ← hj]
    by_cases hemits : emits i kind = true
    · simp [hemits, Ne.symm hij]
    · simp [hemits]

lemma Records.settle [DecidableEq τ] (h : Records emits ledger log) {owner : τ}
    (hcalled : ∀ i kind called, ledger i = .claimed owner kind called → called = true) :
    Records emits (settle owner ledger) log := by
  intro i
  rw [h i]
  unfold CallbackLedger.settle
  cases hstatus : ledger i with
  | unclaimed => rfl
  | settled kind => rfl
  | claimed o kind called =>
    by_cases howner : o = owner
    · subst howner
      rw [hcalled i kind called hstatus]
      simp [CellStatus.settle, CellStatus.received]
    · simp [CellStatus.settle, howner]

/-- Cells without a callback so far may change what they emit. -/
lemma Records.congr_emits {emits' : ι → κ → Bool} (h : Records emits ledger log)
    (hsame : ∀ i kind, (ledger i).received = some kind → emits' i kind = emits i kind) :
    Records emits' ledger log := by
  intro i
  rw [h i]
  cases hreceived : (ledger i).received with
  | none => rfl
  | some kind => simp [shown, hsame i kind hreceived]

end Records

end CallbackLedger
