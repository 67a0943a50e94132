import LdnsSelector.Interaction

set_option autoImplicit true

namespace Prog

/-- How runs over the interface `J` are taken for runs over `I`, of those that are admitted. -/
structure Abstraction (I J : Interface) where
  admits : List (Event J) → Prop
  relates : List (Event I) → List (Event J) → Prop
  admits_append {low low' : List (Event J)} :
    admits (low ++ low') → admits low ∧ admits low'
  nil : relates [] []
  append {tr tr' : List (Event I)} {low low' : List (Event J)} :
    relates tr low → relates tr' low' → relates (tr ++ tr') (low ++ low')

/-- Every admitted run of `p` that returns is taken for a run of `q`, with results that `S`
relates. -/
def Refines (A : Abstraction I J) (S : β → α → Prop) (p : Prog J ε' β) (q : Prog I ε α) : Prop :=
  ∀ low b, Runs p low (.ok b) → A.admits low →
    ∃ tr a, Runs q tr (.ok a) ∧ A.relates tr low ∧ S b a

namespace Refines

variable {A : Abstraction I J} {S : β → α → Prop}

theorem ret (h : S b a) : Refines A S (.ret b : Prog J ε' β) (.ret a : Prog I ε α) := by
  intro low b' hr _
  obtain ⟨rfl, ho⟩ := runs_ret_iff.1 hr
  cases ho
  exact ⟨[], a, .ret a, A.nil, h⟩

theorem crash (e : ε') : Refines A S (.crash e : Prog J ε' β) (q : Prog I ε α) := by
  intro low b hr _
  obtain ⟨_, ho⟩ := runs_crash_iff.1 hr
  cases ho

theorem bind {T : δ → γ → Prop} {p : Prog J ε' β} {q : Prog I ε α} {f : β → Prog J ε' δ}
    {g : α → Prog I ε γ} (h : Refines A S p q)
    (hf : ∀ b a, S b a → Refines A T (f b) (g a)) : Refines A T (p.bind f) (q.bind g) := by
  intro low d hr ha
  obtain ⟨b, low₁, low₂, rfl, h₁, h₂⟩ := hr.bind_ok
  obtain ⟨ha₁, ha₂⟩ := A.admits_append ha
  obtain ⟨tr₁, a, hq, hrel, hs⟩ := h low₁ b h₁ ha₁
  obtain ⟨tr₂, c, hg, hrel', ht⟩ := hf b a hs low₂ d h₂ ha₂
  exact ⟨tr₁ ++ tr₂, c, hq.bind hg, A.append hrel hrel', ht⟩

/-- A part that is taken for no call at all may stand anywhere. -/
theorem silent_bind {p : Prog J ε' δ} {f : δ → Prog J ε' β} {q : Prog I ε α}
    (hp : ∀ low d, Runs p low (.ok d) → A.relates [] low) (hf : ∀ d, Refines A S (f d) q) :
    Refines A S (p.bind f) q := by
  have hsilent : Refines A (fun _ (_ : Unit) => True) p (.ret () : Prog I ε Unit) :=
    fun low d hr _ => ⟨[], (), .ret (), hp low d hr, trivial⟩
  exact hsilent.bind fun d _ _ => hf d

theorem ite [Decidable C] [Decidable D] {p p' : Prog J ε' β} {q q' : Prog I ε α} (hiff : C ↔ D)
    (hp : C → Refines A S p q) (hp' : ¬C → Refines A S p' q') :
    Refines A S (if C then p else p') (if D then q else q') := by
  by_cases hc : C
  · rw [if_pos hc, if_pos (hiff.1 hc)]
    exact hp hc
  · rw [if_neg hc, if_neg (fun hd => hc (hiff.2 hd))]
    exact hp' hc

end Refines

end Prog
