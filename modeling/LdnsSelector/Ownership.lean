import Mathlib.Algebra.Order.Group.Multiset
import Mathlib.Control.Monad.Writer

set_option autoImplicit true

/-- What a program does with counted references to resources. -/
inductive RefEvent (ρ : Type) where
  | acquire (r : ρ)
  | use (r : ρ)
  | release (r : ρ)
  deriving DecidableEq, Repr

namespace RefEvent

variable [DecidableEq ρ]

/-- The references held after an event: nothing is used or released that is not held. -/
def step (held : Multiset ρ) : RefEvent ρ → Option (Multiset ρ)
  | .acquire r => some (r ::ₘ held)
  | .use r => if r ∈ held then some held else none
  | .release r => if r ∈ held then some (held.erase r) else none

def settle (held : Multiset ρ) : List (RefEvent ρ) → Option (Multiset ρ)
  | [] => some held
  | e :: trace => (step held e).bind fun held => settle held trace

/-- Every reference is released exactly once, and not used afterwards. -/
def Settled (trace : List (RefEvent ρ)) : Prop := settle 0 trace = some 0

instance (trace : List (RefEvent ρ)) : Decidable (Settled trace) :=
  inferInstanceAs (Decidable (_ = _))

theorem settle_append (held : Multiset ρ) (trace trace' : List (RefEvent ρ)) :
    settle held (trace ++ trace') = (settle held trace).bind fun held => settle held trace' := by
  induction trace generalizing held with
  | nil => rfl
  | cons e trace ih =>
    rw [List.cons_append, settle, settle, Option.bind_assoc]
    congr 1
    funext held'
    exact ih held'

theorem step_count (h : step held e = some held') (r : ρ) :
    held'.count r + [e].count (.release r) = held.count r + [e].count (.acquire r) := by
  cases e with
  | acquire r' =>
    cases h
    by_cases he : r = r'
    · subst he
      simp
    · simp [he, Ne.symm he]
  | use r' =>
    obtain ⟨_, h⟩ := Option.ite_none_right_eq_some.1 h
    cases h
    simp
  | release r' =>
    obtain ⟨hm, h⟩ := Option.ite_none_right_eq_some.1 h
    cases h
    by_cases he : r = r'
    · subst he
      have hpos := Multiset.count_pos.2 hm
      simp only [Multiset.count_erase_self, List.count_singleton_self]
      simp
      omega
    · simp [he, Ne.symm he]

theorem settle_count (h : settle held trace = some held') (r : ρ) :
    held'.count r + trace.count (.release r) = held.count r + trace.count (.acquire r) := by
  induction trace generalizing held with
  | nil =>
    cases h
    rfl
  | cons e trace ih =>
    obtain ⟨held₁, hs, ht⟩ := Option.bind_eq_some_iff.1 h
    have hstep := step_count hs r
    have hrest := ih ht
    rw [← List.singleton_append, List.count_append, List.count_append]
    omega

theorem Settled.count_eq {trace : List (RefEvent ρ)} (h : Settled trace) (r : ρ) :
    trace.count (.release r) = trace.count (.acquire r) := by
  have hc := settle_count h r
  rw [Multiset.count_zero, Nat.zero_add, Nat.zero_add] at hc
  exact hc

end RefEvent

/-- A program that records what it does with its references. -/
abbrev Tracked (ρ α : Type) := Writer (List (RefEvent ρ)) α

namespace Tracked

def value (x : Tracked ρ α) : α := (WriterT.run x).1

def trace (x : Tracked ρ α) : List (RefEvent ρ) := (WriterT.run x).2

def acquire (r : ρ) : Tracked ρ Unit := tell [.acquire r]

def use (r : ρ) : Tracked ρ Unit := tell [.use r]

def release (r : ρ) : Tracked ρ Unit := tell [.release r]

@[simp] theorem value_pure (a : α) : (pure a : Tracked ρ α).value = a := rfl

@[simp] theorem trace_pure (a : α) : (pure a : Tracked ρ α).trace = [] := rfl

@[simp] theorem value_bind (x : Tracked ρ α) (f : α → Tracked ρ β) :
    (x >>= f).value = (f x.value).value := rfl

@[simp] theorem trace_bind (x : Tracked ρ α) (f : α → Tracked ρ β) :
    (x >>= f).trace = x.trace ++ (f x.value).trace := rfl

@[simp] theorem trace_acquire (r : ρ) : (acquire r).trace = [.acquire r] := rfl

@[simp] theorem trace_use (r : ρ) : (use r).trace = [.use r] := rfl

@[simp] theorem trace_release (r : ρ) : (release r).trace = [.release r] := rfl

variable [DecidableEq ρ]

/-- Started with the references `held`, the program uses and releases only what it holds, and
ends as `Q` allows. -/
def Leaves (x : Tracked ρ α) (held : Multiset ρ) (Q : α → Multiset ρ → Prop) : Prop :=
  ∃ held', RefEvent.settle held x.trace = some held' ∧ Q x.value held'

namespace Leaves

variable {held : Multiset ρ}

theorem pure {Q : α → Multiset ρ → Prop} (h : Q a held) :
    Leaves (Pure.pure a : Tracked ρ α) held Q := ⟨held, rfl, h⟩

theorem bind {x : Tracked ρ α} {f : α → Tracked ρ β} {P : α → Multiset ρ → Prop}
    {Q : β → Multiset ρ → Prop} (hx : Leaves x held P)
    (hf : ∀ a held', P a held' → Leaves (f a) held' Q) : Leaves (x >>= f) held Q := by
  obtain ⟨held₁, h₁, hp⟩ := hx
  obtain ⟨held₂, h₂, hq⟩ := hf _ _ hp
  refine ⟨held₂, ?_, hq⟩
  rw [trace_bind, RefEvent.settle_append, h₁]
  exact h₂

theorem settled {x : Tracked ρ α} (h : Leaves x 0 fun _ held => held = 0) :
    RefEvent.Settled x.trace := by
  obtain ⟨_, hs, rfl⟩ := h
  exact hs

theorem release (r : ρ) (held : Multiset ρ) :
    Leaves (Tracked.release r) (r ::ₘ held) fun _ held' => held' = held := by
  refine ⟨held, ?_, rfl⟩
  rw [trace_release, RefEvent.settle, RefEvent.step, if_pos (Multiset.mem_cons_self r held),
    Multiset.erase_cons_head]
  rfl

theorem bind_acquire {r : ρ} {f : Unit → Tracked ρ β} {Q : β → Multiset ρ → Prop}
    (hf : Leaves (f ()) (r ::ₘ held) Q) : Leaves (acquire r >>= f) held Q := by
  apply bind (P := fun _ held' => held' = r ::ₘ held) ⟨_, rfl, rfl⟩
  intro _ _ he
  obtain rfl := he
  exact hf

theorem bind_release {r : ρ} {f : Unit → Tracked ρ β} {Q : β → Multiset ρ → Prop}
    (hf : Leaves (f ()) held Q) : Leaves (Tracked.release r >>= f) (r ::ₘ held) Q := by
  apply bind (release r held)
  intro _ _ he
  obtain rfl := he
  exact hf

end Leaves

/-- The program gives back whatever it acquires. -/
def Keeps (x : Tracked ρ α) (held : Multiset ρ) : Prop := Leaves x held fun _ held' => held' = held

theorem Leaves.bind_keeps {held : Multiset ρ} {x : Tracked ρ α} {f : α → Tracked ρ β}
    {Q : β → Multiset ρ → Prop} (hx : Keeps x held) (hf : ∀ a, Leaves (f a) held Q) :
    Leaves (x >>= f) held Q := by
  apply Leaves.bind hx
  intro a _ he
  obtain rfl := he
  exact hf a

namespace Keeps

variable {held : Multiset ρ}

theorem pure (a : α) : Keeps (Pure.pure a : Tracked ρ α) held := Leaves.pure rfl

theorem bind {x : Tracked ρ α} {f : α → Tracked ρ β} (hx : Keeps x held)
    (hf : ∀ a, Keeps (f a) held) : Keeps (x >>= f) held := Leaves.bind_keeps hx hf

theorem use {r : ρ} (hr : r ∈ held) : Keeps (Tracked.use r) held := by
  refine ⟨held, ?_, rfl⟩
  rw [trace_use, RefEvent.settle, RefEvent.step, if_pos hr]
  rfl

end Keeps

end Tracked
