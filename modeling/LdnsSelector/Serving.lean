import LdnsSelector.Interaction

set_option autoImplicit true

namespace Prog

variable {I J : Interface}

/-- All the calls a program can make satisfy `P`, and all the ways it can crash satisfy `E`. -/
def Within (P : I.Call → Prop) (E : ε → Prop) : Prog I ε α → Prop
  | .ret _ => True
  | .crash e => E e
  | .call c k => P c ∧ ∀ x, Within P E (k x)

section Footprint

variable {P P' : I.Call → Prop} {Q : J.Call → Prop} {E E' : ε → Prop}

theorem Within.mono {p : Prog I ε α} (hp : Within P E p) (hP : ∀ c, P c → P' c)
    (hE : ∀ e, E e → E' e) : Within P' E' p := by
  induction p with
  | ret a => exact trivial
  | crash e => exact hE e hp
  | call c k ih => exact ⟨hP c hp.1, fun x => ih x (hp.2 x)⟩

theorem Within.perform {c : I.Call} (h : P c) : Within P E (perform c : Prog I ε (I.Answer c)) :=
  ⟨h, fun _ => trivial⟩

theorem Within.ite [Decidable C] {p q : Prog I ε α} (hp : C → Within P E p)
    (hq : ¬C → Within P E q) : Within P E (if C then p else q) := by
  split
  · next hc => exact hp hc
  · next hc => exact hq hc

theorem Within.bind {p : Prog I ε α} {f : α → Prog I ε β} (hp : Within P E p)
    (hf : ∀ a, Within P E (f a)) : Within P E (p.bind f) := by
  induction p with
  | ret a => exact hf a
  | crash e => exact hp
  | call c k ih => exact ⟨hp.1, fun x => ih x (hp.2 x)⟩

theorem Within.bind_runs {p : Prog I ε α} {f : α → Prog I ε β} (hp : Within P E p)
    (hf : ∀ a tr, Runs p tr (.ok a) → Within P E (f a)) : Within P E (p.bind f) := by
  induction p with
  | ret a => exact hf a [] (.ret a)
  | crash e => exact hp
  | call c k ih => exact ⟨hp.1, fun x => ih x (hp.2 x) fun a tr h => hf a _ (.call x h)⟩

theorem Within.events {p : Prog I ε α} (hp : Within P E p) (h : Runs p tr o) :
    ∀ ev ∈ tr, P ev.1 := by
  induction h with
  | ret a => exact fun ev hev => absurd hev List.not_mem_nil
  | crash e => exact fun ev hev => absurd hev List.not_mem_nil
  | call x h ih =>
    intro ev hev
    rcases List.mem_cons.1 hev with rfl | hev
    · exact hp.1
    · exact ih (hp.2 x) ev hev

theorem Within.crashes {p : Prog I ε α} (hp : Within P E p) (h : Runs p tr (.error e)) : E e := by
  induction p generalizing tr with
  | ret a => cases h
  | crash e' =>
    obtain ⟨_, he⟩ := runs_crash_iff.1 h
    cases he
    exact hp
  | call c k ih =>
    obtain ⟨x, tr', _, h'⟩ := runs_call_iff.1 h
    exact ih x (hp.2 x) h'

/-- What the service of every call does, the interpreted program does. -/
theorem Within.interp {serve : (c : I.Call) → σ → Prog J ε (I.Answer c × σ)} {p : Prog I ε α}
    (hp : Within P E p) (hserve : ∀ c s, P c → Within Q E (serve c s)) (s : σ) :
    Within Q E (p.interp serve s) := by
  induction p generalizing s with
  | ret a => exact trivial
  | crash e => exact hp
  | call c k ih => exact (hserve c s hp.1).bind fun x => ih x.1 (hp.2 x.1) x.2

end Footprint

/-- All the values a program can return satisfy `Q`. -/
def Yields (Q : α → Prop) : Prog I ε α → Prop
  | .ret a => Q a
  | .crash _ => True
  | .call _ k => ∀ x, Yields Q (k x)

section Yielding

variable {Q : α → Prop} {R : β → Prop}

theorem Yields.perform (c : I.Call) :
    Yields (fun _ => True) (perform c : Prog I ε (I.Answer c)) := fun _ => trivial

theorem Yields.ite [Decidable C] {p q : Prog I ε α} (hp : C → Yields Q p)
    (hq : ¬C → Yields Q q) : Yields Q (if C then p else q) := by
  split
  · next hc => exact hp hc
  · next hc => exact hq hc

theorem Yields.bind {p : Prog I ε α} {f : α → Prog I ε β} (hp : Yields Q p)
    (hf : ∀ a, Q a → Yields R (f a)) : Yields R (p.bind f) := by
  induction p with
  | ret a => exact hf a hp
  | crash e => exact trivial
  | call c k ih => exact fun x => ih x (hp x)

theorem Yields.runs {p : Prog I ε α} (hp : Yields Q p) (h : Runs p tr (.ok a)) : Q a := by
  induction p generalizing tr with
  | ret b =>
    obtain ⟨_, ho⟩ := runs_ret_iff.1 h
    cases ho
    exact hp
  | crash e =>
    obtain ⟨_, ho⟩ := runs_crash_iff.1 h
    cases ho
  | call c k ih =>
    obtain ⟨x, tr', _, h'⟩ := runs_call_iff.1 h
    exact ih x (hp x) h'

end Yielding

/-- Of every run in which the program stops abnormally, `Q` holds. -/
def Stops (Q : List (Event I) → ε → Prop) (p : Prog I ε α) : Prop :=
  ∀ tr e, Runs p tr (.error e) → Q tr e

section Stopping

variable {Q : List (Event I) → ε → Prop}

theorem Stops.ret (a : α) : Stops Q (.ret a : Prog I ε α) := by
  intro tr e h
  obtain ⟨_, ho⟩ := runs_ret_iff.1 h
  cases ho

theorem Stops.of_within {p : Prog I ε α} (hp : Within P (fun _ => False) p) : Stops Q p :=
  fun _ _ h => (hp.crashes h).elim

/-- The run so far may be left out when what holds of the rest holds of the whole. -/
theorem Stops.bind {p : Prog I ε α} {f : α → Prog I ε β}
    (hQ : ∀ tr tr' e, Q tr' e → Q (tr ++ tr') e) (hp : Stops Q p)
    (hf : ∀ a tr, Runs p tr (.ok a) → Stops Q (f a)) : Stops Q (p.bind f) := by
  intro tr e h
  rcases h.bind_inv with ⟨e', he, h₁⟩ | ⟨a, tr₁, tr₂, rfl, h₁, h₂⟩
  · cases he
    exact hp tr e h₁
  · exact hQ tr₁ tr₂ e (hf a tr₁ h₁ tr₂ e h₂)

theorem Stops.ite [Decidable C] {p q : Prog I ε α} (hp : C → Stops Q p) (hq : ¬C → Stops Q q) :
    Stops Q (if C then p else q) := by
  split
  · next hc => exact hp hc
  · next hc => exact hq hc

end Stopping

/-- The calls of `tr`, answered as it says, are carried out in turn by the events `low`. -/
inductive Served (serve : (c : I.Call) → σ → Prog J ε (I.Answer c × σ)) :
    List (Event I) → σ → List (Event J) → σ → Prop where
  | nil (s : σ) : Served serve [] s [] s
  | cons {c : I.Call} {x : I.Answer c} (h : Runs (serve c s) low (.ok (x, s₁)))
      (hrest : Served serve tr s₁ low' s') : Served serve (⟨c, x⟩ :: tr) s (low ++ low') s'

section Simulation

variable {serve : (c : I.Call) → σ → Prog J ε (I.Answer c × σ)}

/-- A run of an interpreted program is a run of the program whose calls are served. -/
theorem Runs.served {p : Prog I ε α} (h : Runs (p.interp serve s) low (.ok (a, s'))) :
    ∃ tr, Runs p tr (.ok a) ∧ Served serve tr s low s' := by
  induction p generalizing s low with
  | ret b =>
    obtain ⟨rfl, ho⟩ := runs_ret_iff.1 h
    cases ho
    exact ⟨[], .ret a, .nil s'⟩
  | crash e =>
    obtain ⟨_, ho⟩ := runs_crash_iff.1 h
    cases ho
  | call c k ih =>
    obtain ⟨⟨x, s₁⟩, low₁, low₂, rfl, h₁, h₂⟩ := h.bind_ok
    obtain ⟨tr, hr, hs⟩ := ih x h₂
    exact ⟨⟨c, x⟩ :: tr, .call x hr, .cons h₁ hs⟩

theorem Served.cons_inv {c : I.Call} {x : I.Answer c}
    (h : Served serve (⟨c, x⟩ :: tr) s low s') :
    ∃ low₁ low₂ s₁, low = low₁ ++ low₂ ∧ Runs (serve c s) low₁ (.ok (x, s₁)) ∧
      Served serve tr s₁ low₂ s' := by
  cases h with
  | cons h hrest => exact ⟨_, _, _, rfl, h, hrest⟩

theorem Served.append_inv (h : Served serve (tr ++ tr') s low s') :
    ∃ low₁ low₂ s₁, low = low₁ ++ low₂ ∧ Served serve tr s low₁ s₁ ∧
      Served serve tr' s₁ low₂ s' := by
  induction tr generalizing s low with
  | nil => exact ⟨[], low, s, rfl, .nil s, h⟩
  | cons ev tr ih =>
    obtain ⟨low₁, low₂, s₁, rfl, h₁, h₂⟩ := Served.cons_inv h
    obtain ⟨low₃, low₄, s₂, rfl, h₃, h₄⟩ := ih h₂
    exact ⟨low₁ ++ low₃, low₄, s₂, (List.append_assoc ..).symm, .cons h₁ h₃, h₄⟩

theorem Served.mem {ev : Event J} (h : Served serve tr s low s') (hm : ev ∈ low) :
    ∃ c x s₁ low₁ s₂, ⟨c, x⟩ ∈ tr ∧ Runs (serve c s₁) low₁ (.ok (x, s₂)) ∧ ev ∈ low₁ := by
  induction h with
  | nil s => cases hm
  | @cons s low s₁ tr low' s' c x h hrest ih =>
    rcases List.mem_append.1 hm with hm | hm
    · exact ⟨c, x, s, low, s₁, List.mem_cons_self, h, hm⟩
    · obtain ⟨c', x', s₂, low₁, s₃, htr, hr, hev⟩ := ih hm
      exact ⟨c', x', s₂, low₁, s₃, List.mem_cons_of_mem _ htr, hr, hev⟩

end Simulation

end Prog
