import LdnsSelector.Serving

set_option autoImplicit true

namespace Prog

/-- What is remembered of the events so far, and the calls that are allowed then. -/
structure Monitor (I : Interface) (σ : Type) where
  next : σ → Event I → σ
  allows : σ → I.Call → Prop

def Monitor.after (M : Monitor I σ) (s : σ) (tr : List (Event I)) : σ := tr.foldl M.next s

/-- Whatever is answered, every call is allowed when it is made. -/
def Monitored (M : Monitor I σ) : σ → Prog I ε α → Prop
  | _, .ret _ => True
  | _, .crash _ => True
  | s, .call c k => M.allows s c ∧ ∀ x, Monitored M (M.next s ⟨c, x⟩) (k x)

namespace Monitored

variable {M : Monitor I σ} {s : σ}

theorem perform (h : M.allows s c) : Monitored M s (perform c : Prog I ε (I.Answer c)) :=
  ⟨h, fun _ => trivial⟩

theorem ite [Decidable C] {p q : Prog I ε α} (hp : C → Monitored M s p)
    (hq : ¬C → Monitored M s q) : Monitored M s (if C then p else q) := by
  split
  · next hc => exact hp hc
  · next hc => exact hq hc

theorem bind {p : Prog I ε α} {f : α → Prog I ε β} (hp : Monitored M s p)
    (hf : ∀ a tr, Runs p tr (.ok a) → Monitored M (M.after s tr) (f a)) :
    Monitored M s (p.bind f) := by
  induction p generalizing s with
  | ret a => exact hf a [] (.ret a)
  | crash e => trivial
  | call c k ih => exact ⟨hp.1, fun x => ih x (hp.2 x) fun a tr h => hf a _ (.call x h)⟩

theorem of_within {P : I.Call → Prop} {p : Prog I ε α} (hp : Within P E p)
    (hP : ∀ s c, P c → M.allows s c) : Monitored M s p := by
  induction p generalizing s with
  | ret a => trivial
  | crash e => trivial
  | call c k ih => exact ⟨hP s c hp.1, fun x => ih x (hp.2 x)⟩

theorem allows {p : Prog I ε α} (hp : Monitored M s p) (h : Runs p (pre ++ ev :: post) o) :
    M.allows (M.after s pre) ev.1 := by
  induction pre generalizing s p with
  | nil =>
    cases h with
    | call x h => exact hp.1
  | cons ev' pre ih =>
    cases h with
    | call x h => exact ih (hp.2 x) h

end Monitored

theorem Monitor.after_eq {M : Monitor I σ} {tr : List (Event I)}
    (h : ∀ ev ∈ tr, ∀ s, M.next s ev = s) (s : σ) : M.after s tr = s := by
  induction tr with
  | nil => rfl
  | cons ev tr ih =>
    rw [Monitor.after, List.foldl_cons, h ev List.mem_cons_self]
    exact ih fun ev' hev => h ev' (List.mem_cons_of_mem _ hev)

end Prog
