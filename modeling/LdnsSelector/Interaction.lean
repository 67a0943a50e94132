import Mathlib.Data.List.Basic

set_option autoImplicit true

/-- The calls a program may make of its surroundings, each with the type of its answers. -/
structure Interface where
  Call : Type
  Answer : Call → Type

abbrev Event (I : Interface) := (c : I.Call) × I.Answer c

/-- A terminating sequential program over an interface. Its next call may depend on every
earlier answer, and it may stop abnormally instead of returning. -/
inductive Prog (I : Interface) (ε α : Type) where
  | ret : α → Prog I ε α
  | crash : ε → Prog I ε α
  | call : (c : I.Call) → (I.Answer c → Prog I ε α) → Prog I ε α

namespace Prog

variable {I J : Interface}

def bind : Prog I ε α → (α → Prog I ε β) → Prog I ε β
  | .ret a, f => f a
  | .crash e, _ => .crash e
  | .call c k, f => .call c fun x => (k x).bind f

instance : Monad (Prog I ε) where
  pure := .ret
  bind := Prog.bind

theorem bind_assoc (p : Prog I ε α) (f : α → Prog I ε β) (g : β → Prog I ε γ) :
    (p.bind f).bind g = p.bind fun a => (f a).bind g := by
  induction p with
  | ret a => rfl
  | crash e => rfl
  | call c k ih =>
    simp only [bind]
    congr
    funext x
    exact ih x

theorem bind_ret (p : Prog I ε α) : p.bind .ret = p := by
  induction p with
  | ret a => rfl
  | crash e => rfl
  | call c k ih => exact congrArg (Prog.call c) (funext ih)

def perform (c : I.Call) : Prog I ε (I.Answer c) :=
  .call c .ret

@[simp] theorem pure_eq (a : α) : (pure a : Prog I ε α) = .ret a := rfl

@[simp] theorem bind_eq (p : Prog I ε α) (f : α → Prog I ε β) : p >>= f = p.bind f := rfl

@[simp] theorem ret_bind (a : α) (f : α → Prog I ε β) : (Prog.ret a).bind f = f a := rfl

@[simp] theorem call_bind (c : I.Call) (k : I.Answer c → Prog I ε α)
    (f : α → Prog I ε β) : (Prog.call c k).bind f = .call c fun x => (k x).bind f := rfl

/-- A run records every answered call, in order, and how the program ended. The answers are
unconstrained: what is known of the surroundings is a predicate on the recorded events. -/
inductive Runs : Prog I ε α → List (Event I) → Except ε α → Prop where
  | ret (a : α) : Runs (.ret a) [] (.ok a)
  | crash (e : ε) : Runs (.crash e) [] (.error e)
  | call {c : I.Call} {k : I.Answer c → Prog I ε α} (x : I.Answer c)
      (h : Runs (k x) tr o) : Runs (.call c k) (⟨c, x⟩ :: tr) o

theorem runs_ret_iff : Runs (.ret a : Prog I ε α) tr o ↔ tr = [] ∧ o = .ok a := by
  apply Iff.intro
  · intro h
    cases h
    exact ⟨rfl, rfl⟩
  · intro hx
    obtain ⟨rfl, rfl⟩ := hx
    exact .ret a

theorem runs_crash_iff : Runs (.crash e : Prog I ε α) tr o ↔ tr = [] ∧ o = .error e := by
  apply Iff.intro
  · intro h
    cases h
    exact ⟨rfl, rfl⟩
  · intro hx
    obtain ⟨rfl, rfl⟩ := hx
    exact .crash e

theorem runs_call_iff {c : I.Call} {k : I.Answer c → Prog I ε α} :
    Runs (.call c k) tr o ↔ ∃ x tr', tr = ⟨c, x⟩ :: tr' ∧ Runs (k x) tr' o := by
  apply Iff.intro
  · intro h
    cases h with
    | call x h => exact ⟨x, _, rfl, h⟩
  · intro h
    obtain ⟨x, tr', rfl, h⟩ := h
    exact .call x h

theorem runs_perform_iff {c : I.Call} {f : I.Answer c → Prog I ε β} :
    Runs ((perform c).bind f) tr o ↔ ∃ x tr', tr = ⟨c, x⟩ :: tr' ∧ Runs (f x) tr' o :=
  runs_call_iff

theorem Runs.bind {p : Prog I ε α} {f : α → Prog I ε β} (hp : Runs p tr (.ok a))
    (hf : Runs (f a) tr' o) : Runs (p.bind f) (tr ++ tr') o := by
  induction p generalizing tr with
  | ret b =>
    obtain ⟨rfl, h⟩ := runs_ret_iff.1 hp
    cases h
    exact hf
  | crash e =>
    obtain ⟨_, h⟩ := runs_crash_iff.1 hp
    cases h
  | call c k ih =>
    obtain ⟨x, tr₁, rfl, h⟩ := runs_call_iff.1 hp
    exact .call x (ih x h)

theorem Runs.bind_inv {p : Prog I ε α} {f : α → Prog I ε β} (h : Runs (p.bind f) tr o) :
    (∃ e, o = .error e ∧ Runs p tr (.error e)) ∨
      ∃ a tr₁ tr₂, tr = tr₁ ++ tr₂ ∧ Runs p tr₁ (.ok a) ∧ Runs (f a) tr₂ o := by
  induction p generalizing tr with
  | ret a => exact .inr ⟨a, [], tr, rfl, .ret a, h⟩
  | crash e =>
    obtain ⟨rfl, rfl⟩ := runs_crash_iff.1 h
    exact .inl ⟨e, rfl, .crash e⟩
  | call c k ih =>
    obtain ⟨x, tr', rfl, h'⟩ := runs_call_iff.1 h
    rcases ih x h' with ⟨e, he, hp⟩ | ⟨a, tr₁, tr₂, rfl, hp, hf⟩
    · exact .inl ⟨e, he, .call x hp⟩
    · exact .inr ⟨a, ⟨c, x⟩ :: tr₁, tr₂, rfl, .call x hp, hf⟩

theorem Runs.bind_ok {p : Prog I ε α} {f : α → Prog I ε β}
    (h : Runs (p.bind f) tr (.ok b)) :
    ∃ a tr₁ tr₂, tr = tr₁ ++ tr₂ ∧ Runs p tr₁ (.ok a) ∧ Runs (f a) tr₂ (.ok b) := by
  rcases h.bind_inv with ⟨e, he, _⟩ | h
  · cases he
  · exact h

/-- No run of a program is a proper prefix of another. -/
theorem Runs.prefix_unique {p : Prog I ε α} (h : Runs p tr o) (h' : Runs p tr' o')
    (he : tr ++ s = tr' ++ s') : tr = tr' ∧ o = o' := by
  induction h generalizing tr' with
  | ret a =>
    obtain ⟨rfl, rfl⟩ := runs_ret_iff.1 h'
    exact ⟨rfl, rfl⟩
  | crash e =>
    obtain ⟨rfl, rfl⟩ := runs_crash_iff.1 h'
    exact ⟨rfl, rfl⟩
  | call x h ih =>
    obtain ⟨x', tr₁, rfl, h₁⟩ := runs_call_iff.1 h'
    injection he with hev htail
    cases hev
    obtain ⟨rfl, ho⟩ := ih h₁ htail
    exact ⟨rfl, ho⟩

theorem Runs.bind_split {p : Prog I ε α} {f : α → Prog I ε β} (hp : Runs p tr (.ok a))
    (h : Runs (p.bind f) (tr ++ tr') o) : Runs (f a) tr' o := by
  rcases h.bind_inv with ⟨e, _, h₁⟩ | ⟨b, tr₁, tr₂, he, h₁, h₂⟩
  · have he : tr ++ tr' = (tr ++ tr') ++ [] := (List.append_nil _).symm
    obtain ⟨_, ho⟩ := hp.prefix_unique h₁ he
    cases ho
  · obtain ⟨rfl, ho⟩ := hp.prefix_unique h₁ he
    cases ho
    rw [List.append_cancel_left he]
    exact h₂

/-- Follow a recorded list of events, and find how the program ends when it ends there. -/
def replay [DecidableEq I.Call] : Prog I ε α → List (Event I) → Option (Except ε α)
  | .ret a, [] => some (.ok a)
  | .crash e, [] => some (.error e)
  | .call c k, ⟨c', x⟩ :: tr => if h : c' = c then replay (k (h ▸ x)) tr else none
  | _, _ => none

theorem runs_of_replay [DecidableEq I.Call] {p : Prog I ε α}
    (h : replay p tr = some o) : Runs p tr o := by
  induction p generalizing tr with
  | ret a =>
    cases tr with
    | nil =>
      cases h
      exact .ret a
    | cons ev tr => cases h
  | crash e =>
    cases tr with
    | nil =>
      cases h
      exact .crash e
    | cons ev tr => cases h
  | call c k ih =>
    cases tr with
    | nil => cases h
    | cons ev tr =>
      obtain ⟨c', x⟩ := ev
      by_cases he : c' = c
      · subst he
        rw [replay, dif_pos rfl] at h
        exact .call x (ih x h)
      · rw [replay, dif_neg he] at h
        cases h

theorem exists_runs_of_replay [DecidableEq I.Call] {p : Prog I ε α}
    (h : (replay p tr).any Except.isOk = true) : ∃ a, Runs p tr (.ok a) := by
  obtain ⟨o, hr, ho⟩ := (Option.any_eq_true ..).1 h
  cases o with
  | error e => cases ho
  | ok a => exact ⟨a, runs_of_replay hr⟩

theorem replay_of_runs [DecidableEq I.Call] {p : Prog I ε α} (h : Runs p tr o) :
    replay p tr = some o := by
  induction h with
  | ret a => rfl
  | crash e => rfl
  | call x h ih =>
    rw [replay, dif_pos rfl]
    exact ih

theorem runs_total (p : Prog I ε α) (answer : (c : I.Call) → I.Answer c) :
    ∃ tr o, Runs p tr o ∧ ∀ ev ∈ tr, ev.2 = answer ev.1 := by
  induction p with
  | ret a => exact ⟨[], .ok a, .ret a, by simp⟩
  | crash e => exact ⟨[], .error e, .crash e, by simp⟩
  | call c k ih =>
    obtain ⟨tr, o, h, ha⟩ := ih (answer c)
    refine ⟨⟨c, answer c⟩ :: tr, o, .call _ h, ?_⟩
    intro ev hev
    rcases List.mem_cons.1 hev with rfl | hev
    · rfl
    · exact ha ev hev

/-- Carry out each call by a program over a lower interface, threading a private state. -/
def interp (serve : (c : I.Call) → σ → Prog J ε (I.Answer c × σ)) :
    Prog I ε α → σ → Prog J ε (α × σ)
  | .ret a, s => .ret (a, s)
  | .crash e, _ => .crash e
  | .call c k, s => (serve c s).bind fun x => interp serve (k x.1) x.2

theorem interp_bind (serve : (c : I.Call) → σ → Prog J ε (I.Answer c × σ)) (p : Prog I ε α)
    (f : α → Prog I ε β) (s : σ) :
    interp serve (p.bind f) s =
      (interp serve p s).bind fun x => interp serve (f x.1) x.2 := by
  induction p generalizing s with
  | ret a => rfl
  | crash e => rfl
  | call c k ih =>
    simp only [call_bind, interp, bind_assoc]
    congr
    funext x
    exact ih x.1 x.2

theorem interp_perform (serve : (c : I.Call) → σ → Prog J ε (I.Answer c × σ)) (c : I.Call)
    (s : σ) : interp serve (perform c) s = serve c s := bind_ret _

end Prog
