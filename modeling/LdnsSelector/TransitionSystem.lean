import Mathlib.Data.List.Basic

set_option autoImplicit true

/-- A labelled transition system whose steps can be computed. -/
structure TransitionSystem (σ ι : Type) where
  initial : σ → Prop
  step : σ → ι → Option σ

namespace TransitionSystem

/-- The states reached by runs all of whose steps meet the condition `C`. -/
inductive Reachable (S : TransitionSystem σ ι) (C : σ → ι → Prop) : σ → Prop where
  | initial (h : S.initial s) : Reachable S C s
  | step (h : Reachable S C s) (hc : C s i) (hs : S.step s i = some s') : Reachable S C s'

theorem Reachable.mono {S : TransitionSystem σ ι} {C C' : σ → ι → Prop}
    (hs : Reachable S C s) (h : ∀ s i, C s i → C' s i) : Reachable S C' s := by
  induction hs with
  | initial hi => exact .initial hi
  | step _ hc he ih => exact .step ih (h _ _ hc) he

structure Invariant (S : TransitionSystem σ ι) (C : σ → ι → Prop) (I : σ → Prop) : Prop where
  initial : ∀ s, S.initial s → I s
  step : ∀ s i s', I s → C s i → S.step s i = some s' → I s'

theorem Invariant.reachable {S : TransitionSystem σ ι} {C : σ → ι → Prop} {I : σ → Prop}
    (h : Invariant S C I) (hs : Reachable S C s) : I s := by
  induction hs with
  | initial hi => exact h.initial _ hi
  | step _ hc he ih => exact h.step _ _ _ ih hc he

def exec (S : TransitionSystem σ ι) (C : σ → ι → Prop) [∀ s i, Decidable (C s i)] :
    σ → List ι → Option σ
  | s, [] => some s
  | s, i :: is => if C s i then (S.step s i).bind fun s' => exec S C s' is else none

theorem Reachable.exec {S : TransitionSystem σ ι} {C : σ → ι → Prop}
    [∀ s i, Decidable (C s i)] (hs : Reachable S C s) (he : S.exec C s is = some s') :
    Reachable S C s' := by
  induction is generalizing s with
  | nil =>
    cases he
    exact hs
  | cons i is ih =>
    rw [TransitionSystem.exec] at he
    split at he
    · next hc =>
      obtain ⟨s₁, h₁, h₂⟩ := Option.bind_eq_some_iff.1 he
      exact ih (.step hs hc h₁) h₂
    · cases he

end TransitionSystem
