import Mathlib.Data.Finset.Card
import Mathlib.Data.Nat.Find
import Mathlib.Logic.Function.Iterate

set_option autoImplicit true

variable {α : Type}

/-- A loop that goes on from `a` to `f a` until it comes to `z`. -/
def Arrives (f : α → α) (z a : α) : Prop := ∃ k, f^[k] a = z

namespace Arrives

variable {f : α → α} {z a : α}

/-- The first time, if any. -/
def First (f : α → α) (z a : α) (k : Nat) : Prop := f^[k] a = z ∧ ∀ i < k, f^[i] a ≠ z

theorem exists_first [DecidableEq α] (h : Arrives f z a) : ∃ k, First f z a k :=
  ⟨Nat.find h, Nat.find_spec h, fun _ hi => Nat.find_min h hi⟩

theorem iterate_add_eq (h : f^[i] a = f^[j] a) (n : Nat) : f^[n + i] a = f^[n + j] a := by
  rw [Function.iterate_add_apply, Function.iterate_add_apply, h]

/-- Nothing is met twice on the way. -/
theorem First.injective (h : First f z a k) (hij : i < j) (hj : j ≤ k) : f^[i] a ≠ f^[j] a := by
  intro he
  have hz := iterate_add_eq he (k - j)
  rw [Nat.sub_add_cancel hj, h.1] at hz
  exact h.2 (k - j + i) (by omega) hz

theorem First.lt_card (h : First f z a k) (s : Finset α) (hs : ∀ i, f^[i] a ∈ s) :
    k < s.card := by
  by_contra hle
  have hcard : s.card < (Finset.range (k + 1)).card := by
    rw [Finset.card_range]
    omega
  obtain ⟨i, hi, j, hj, hne, he⟩ :=
    Finset.exists_ne_map_eq_of_card_lt_of_maps_to (f := fun i => f^[i] a) hcard fun i _ => hs i
  rw [Finset.mem_range] at hi hj
  rcases Nat.lt_or_gt_of_ne hne with hlt | hlt
  · exact h.injective hlt (by omega) he
  · exact h.injective hlt (by omega) he.symm

/-- What is met a second time before the end is met again for ever. -/
theorem not_of_repeats (hij : i < j) (he : f^[i] a = f^[j] a) (hz : ∀ k < j, f^[k] a ≠ z) :
    ¬ Arrives f z a := by
  classical
  intro h
  obtain ⟨k, hk⟩ := h.exists_first
  have hjk : j ≤ k := by
    by_contra hlt
    exact hz k (by omega) hk.1
  exact hk.injective hij hjk he

theorem repeats_of_not (h : ¬ Arrives f z a) (s : Finset α) (hs : ∀ i, f^[i] a ∈ s) :
    ∃ i j, i < j ∧ f^[i] a = f^[j] a ∧ ∀ k < j, f^[k] a ≠ z := by
  have hcard : s.card < (Finset.range (s.card + 1)).card := by
    rw [Finset.card_range]
    omega
  obtain ⟨i, _, j, _, hne, he⟩ :=
    Finset.exists_ne_map_eq_of_card_lt_of_maps_to (f := fun i => f^[i] a) hcard fun i _ => hs i
  have hz : ∀ k, f^[k] a ≠ z := fun k hk => h ⟨k, hk⟩
  rcases Nat.lt_or_gt_of_ne hne with hlt | hlt
  · exact ⟨i, j, hlt, he, fun k _ => hz k⟩
  · exact ⟨j, i, hlt, he.symm, fun k _ => hz k⟩

end Arrives

/-- What is computed with any number of rounds is computed with `n` of them. It is computed unless
one of the places that it comes to is bad. -/
structure SettlesBy (n : Nat) (bad : ι → Prop) (places : List ι) (f : Nat → Option α) : Prop where
  enough : ∀ ⦃rounds x⦄, f rounds = some x → f n = some x
  none_iff : f n = none ↔ ∃ a ∈ places, bad a

namespace SettlesBy

variable {β ι : Type} {n : Nat} {bad : ι → Prop} {places : List ι} {f : Nat → Option α}

theorem const (x : α) : SettlesBy n bad [] fun _ => some x where
  enough _ _ h := h
  none_iff := iff_of_false nofun fun ⟨_, h, _⟩ => List.not_mem_nil h

theorem map (hf : SettlesBy n bad places f) (g : α → β) :
    SettlesBy n bad places fun rounds => (f rounds).map g where
  enough rounds y h := by
    obtain ⟨x, hx, rfl⟩ := Option.map_eq_some_iff.1 h
    exact Option.map_eq_some_iff.2 ⟨x, hf.enough hx, rfl⟩
  none_iff := Option.map_eq_none_iff.trans hf.none_iff

theorem bind {g : α → Nat → Option β} {rest : α → List ι} (hf : SettlesBy n bad places f)
    (hg : ∀ x, SettlesBy n bad (rest x) (g x)) :
    SettlesBy n bad (places ++ (f n).elim [] rest)
      fun rounds => (f rounds).bind fun x => g x rounds where
  enough rounds y h := by
    obtain ⟨x, hx, hy⟩ := Option.bind_eq_some_iff.1 h
    exact Option.bind_eq_some_iff.2 ⟨x, hf.enough hx, (hg x).enough hy⟩
  none_iff := by
    have hnone := hf.none_iff
    cases hx : f n with
    | none =>
      rw [hx] at hnone
      rw [Option.bind_none, Option.elim_none, List.append_nil]
      exact iff_of_true rfl (hnone.1 rfl)
    | some x =>
      rw [hx] at hnone
      have hgood : ¬∃ a ∈ places, bad a := fun h => Option.some_ne_none x (hnone.2 h)
      rw [Option.bind_some, Option.elim_some, (hg x).none_iff]
      simp only [List.mem_append, or_and_right, exists_or, hgood, false_or]

theorem bind_const {g : α → Nat → Option β} (hf : SettlesBy n bad places f)
    (hg : ∀ x, ∃ y, ∀ rounds, g x rounds = some y) :
    SettlesBy n bad places fun rounds => (f rounds).bind fun x => g x rounds := by
  have hg' (x : α) : SettlesBy n bad [] (g x) := by
    obtain ⟨y, hy⟩ := hg x
    rw [funext hy]
    exact .const y
  have h := hf.bind hg'
  have hnil : (f n).elim [] (fun _ => []) = ([] : List ι) := by cases f n <;> rfl
  rwa [hnil, List.append_nil] at h

theorem ite [Decidable c] {places' : List ι} {g : Nat → Option α}
    (hf : SettlesBy n bad places f) (hg : SettlesBy n bad places' g) :
    SettlesBy n bad (if c then places else places')
      fun rounds => if c then f rounds else g rounds := by
  by_cases hc : c
  · simpa only [if_pos hc] using hf
  · simpa only [if_neg hc] using hg

theorem forever_iff (hf : SettlesBy n bad places f) : (∀ rounds, f rounds = none) ↔ f n = none := by
  apply Iff.intro
  · exact fun h => h n
  · intro h rounds
    apply Option.eq_none_iff_forall_ne_some.2
    intro x hx
    rw [hf.enough hx] at h
    cases h

end SettlesBy
