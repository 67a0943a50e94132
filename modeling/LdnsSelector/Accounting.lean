import LdnsSelector.Ui
import Mathlib.Algebra.BigOperators.Group.List.Basic
import Mathlib.Tactic.Abel

set_option autoImplicit true

namespace LdnsSelector

/-- What the unfinished work of the window counts for, in a commutative monoid: a call of the
notifyer, a worker that is back from it, a posted task, and any other action. -/
structure Weighing (M : Type) where
  running : Operation → M
  returned : Operation → M
  task : Task → M
  own : Action → M

/-- A sum over a list, split at one entry, and what replacing the entry makes of it. -/
theorem exists_sum_map [AddCommMonoid M] (f : α → M) {l : List α} {i : Nat}
    (h : l[i]? = some a) :
    ∃ r, (l.map f).sum = r + f a ∧ ∀ b, ((l.set i b).map f).sum = r + f b := by
  induction l generalizing i with
  | nil => cases h
  | cons c l ih =>
    cases i with
    | zero =>
      cases h
      exact ⟨(l.map f).sum, by simp [add_comm], fun b => by simp [add_comm]⟩
    | succ i =>
      obtain ⟨r, hr, hset⟩ := ih h
      refine ⟨f c + r, ?_, ?_⟩
      · simp only [List.map_cons, List.sum_cons, hr, add_assoc]
      · intro b
        simp only [List.set_cons_succ, List.map_cons, List.sum_cons, hset, add_assoc]

theorem sum_map_set [AddCommMonoid M] {f : α → M} {l : List α} {i : Nat} (h : l[i]? = some a)
    (b : α) : ((l.set i b).map f).sum + f a = (l.map f).sum + f b := by
  obtain ⟨r, hr, hset⟩ := exists_sum_map f h
  rw [hr, hset, add_right_comm]

theorem map_set_of_eq {f : α → β} {l : List α} {i : Nat} (h : l[i]? = some a) (hf : f b = f a) :
    (l.set i b).map f = l.map f := by
  induction l generalizing i with
  | nil => cases h
  | cons c l ih =>
    cases i with
    | zero =>
      cases h
      rw [List.set_cons_zero, List.map_cons, List.map_cons, hf]
    | succ i => rw [List.set_cons_succ, List.map_cons, List.map_cons, ih h]

namespace Weighing

variable [AddCommMonoid M] (w : Weighing M)

def action : Action → M
  | .post task => w.task task
  | .spawn op => w.running op
  | action => w.own action

/-- What is gone once an action is performed: a post and a spawn only move their weight. -/
def spent : Action → M
  | .post _ => 0
  | .spawn _ => 0
  | action => w.own action

def actions (l : List Action) : M := (l.map w.action).sum

def worker : Worker → M
  | .running op => w.running op
  | .finishing op _ rest => w.returned op + w.actions rest

def total (s : Ui) : M :=
  (s.workers.map w.worker).sum + w.actions s.handling + (s.queue.map w.task).sum

@[simp] theorem actions_nil : w.actions [] = 0 := rfl

@[simp] theorem actions_cons (a : Action) (l : List Action) :
    w.actions (a :: l) = w.action a + w.actions l := List.sum_cons

variable {w}

theorem total_perform (s : Ui) (a : Action) :
    w.total (s.perform a) + w.spent a = w.total s + w.action a := by
  cases a with
  | post task =>
    simp only [total, Ui.perform, spent, action, List.map_append, List.sum_append, List.map_cons,
      List.map_nil, List.sum_cons, List.sum_nil]
    abel
  | spawn op =>
    simp only [total, Ui.perform, spent, action, List.map_append, List.sum_append, List.map_cons,
      List.map_nil, List.sum_cons, List.sum_nil, worker]
    abel
  | _ => rfl

theorem total_dispatch (h : s.dispatch = some s') :
    ∃ task queue, s.queue = task :: queue ∧
      w.total s' + w.task task = w.total s + w.actions (handle task) := by
  rw [Ui.dispatch] at h
  split at h
  · next task queue hh hq =>
    cases h
    refine ⟨task, queue, hq, ?_⟩
    simp only [total, hh, hq, List.map_cons, List.sum_cons, actions_nil]
    abel
  · cases h

theorem total_handleNext (h : s.handleNext = some s') :
    ∃ a rest, s.handling = a :: rest ∧ w.total s' + w.spent a = w.total s := by
  rw [Ui.handleNext] at h
  split at h
  · cases h
  · next a rest hh =>
    cases h
    refine ⟨a, rest, hh, ?_⟩
    rw [total_perform]
    simp only [total, hh, actions_cons]
    abel

theorem total_input (h : s.handling = []) (script : List Action) :
    w.total { s with handling := script } = w.total s + w.actions script := by
  simp only [total, h, actions_nil]
  abel

theorem total_returns (h : s.returns i outcome = some s') :
    ∃ op, s.workers[i]? = some (.running op) ∧
      w.total s' + w.running op =
        w.total s + (w.returned op + w.actions (afterOperation op outcome)) := by
  rw [Ui.returns] at h
  split at h
  · next op hw =>
    cases h
    refine ⟨op, hw, ?_⟩
    obtain ⟨r, hr, hset⟩ := exists_sum_map w.worker hw
    simp only [total, hr, hset, worker]
    abel
  · cases h

theorem total_work (h : s.work i = some s') :
    ∃ op outcome a rest, s.workers[i]? = some (.finishing op outcome (a :: rest)) ∧
      w.total s' + w.spent a = w.total s := by
  rw [Ui.work] at h
  split at h
  · next op outcome a rest hw =>
    cases h
    refine ⟨op, outcome, a, rest, hw, ?_⟩
    obtain ⟨r, hr, hset⟩ := exists_sum_map w.worker hw
    rw [total_perform]
    simp only [total, hr, hset, worker, actions_cons]
    abel
  · cases h

end Weighing

end LdnsSelector
