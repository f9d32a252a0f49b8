import Mathlib.Data.List.Perm.Basic
import Mathlib.Logic.Function.Basic

namespace DongleRescue.Data

/-! Stores of cells under actions that each touch one cell: what a cell holds
after a run depends on its own actions only, whatever ran in between. -/

/-- Lists that agree on every key hold the same. -/
theorem perm_of_filter_eq {α κ : Type} [DecidableEq κ] {key : α → κ} {first second : List α}
    (same : ∀ k, first.filter (fun item => key item = k) = second.filter fun item => key item = k) :
    first.Perm second := by
  classical
  rw [List.perm_iff_count]
  intro item
  have own : ∀ items : List α,
      items.count item = (items.filter fun other => key other = key item).count item := by
    intro items
    rw [List.count_filter (by simp)]
  rw [own first, own second, same]

/-- Which cell an action touches, and how. -/
structure Cellwise (α κ ν : Type) where
  key : α → κ
  change : α → ν → ν

namespace Cellwise

variable {α κ ν σ : Type} [DecidableEq κ] {cells : Cellwise α κ ν} {store : κ → ν} {key : κ}
  {actions first second : List α}

def step (cells : Cellwise α κ ν) (store : κ → ν) (action : α) : κ → ν :=
  Function.update store (cells.key action) (cells.change action (store (cells.key action)))

def run (cells : Cellwise α κ ν) (store : κ → ν) (actions : List α) : κ → ν :=
  actions.foldl cells.step store

/-- The actions on one cell, in order. -/
def project (cells : Cellwise α κ ν) (key : κ) (actions : List α) : List α :=
  actions.filter fun action => cells.key action = key

theorem step_apply (cells : Cellwise α κ ν) (store : κ → ν) (action : α) (key : κ) :
    cells.step store action key =
      if cells.key action = key then cells.change action (store key) else store key := by
  unfold step
  by_cases same : cells.key action = key
  · subst same
    rw [Function.update_self, if_pos rfl]
  · rw [Function.update_of_ne (Ne.symm same), if_neg same]

theorem project_cons (cells : Cellwise α κ ν) (key : κ) (action : α) (actions : List α) :
    cells.project key (action :: actions) =
      if cells.key action = key then action :: cells.project key actions
      else cells.project key actions := by
  rw [project, List.filter_cons]
  simp only [decide_eq_true_eq, project]

theorem run_apply (cells : Cellwise α κ ν) (store : κ → ν) (actions : List α) (key : κ) :
    cells.run store actions key =
      (cells.project key actions).foldl (fun value action => cells.change action value) (store key) := by
  induction actions generalizing store with
  | nil => rfl
  | cons action actions ih =>
      have split : cells.run store (action :: actions) = cells.run (cells.step store action) actions := rfl
      rw [split, ih, step_apply, project_cons]
      by_cases same : cells.key action = key
      · rw [if_pos same, if_pos same, List.foldl_cons]
      · rw [if_neg same, if_neg same]

/-- Any two orders that keep the order on each cell end in the same store. -/
theorem run_congr (same : ∀ key, cells.project key first = cells.project key second)
    (store : κ → ν) : cells.run store first = cells.run store second := by
  funext key
  rw [run_apply, run_apply, same]

theorem run_frame (untouched : ∀ action ∈ actions, cells.key action ≠ key) :
    cells.run store actions key = store key := by
  have none : cells.project key actions = [] := by
    rw [project, List.filter_eq_nil_iff]
    simpa using untouched
  rw [run_apply, none, List.foldl_nil]

/-- A machine whose every step is the step of one cell, in the runs it is used in. -/
theorem view_run (next : σ → α → σ) (view : σ → κ → ν) (good : α → Prop) (invariant : σ → Prop)
    (step : ∀ {state action}, invariant state → good action →
      invariant (next state action) ∧ view (next state action) = cells.step (view state) action)
    {state : σ} (start : invariant state) (all : ∀ action ∈ actions, good action) :
    invariant (actions.foldl next state) ∧
      view (actions.foldl next state) = cells.run (view state) actions := by
  induction actions generalizing state with
  | nil => exact ⟨start, rfl⟩
  | cons action actions ih =>
      rw [List.forall_mem_cons] at all
      obtain ⟨kept, here⟩ := step start all.1
      obtain ⟨last, later⟩ := ih kept all.2
      refine ⟨last, ?_⟩
      rw [List.foldl_cons, later, here]
      rfl

end Cellwise

end DongleRescue.Data
