import Mathlib.Data.List.Perm.Basic
import Mathlib.Data.List.Sort

set_option autoImplicit true

/-- A reordering of `l` by ascending key. Elements with equal keys stand in any order. -/
structure Ranking [LinearOrder κ] (key : α → κ) (l r : List α) : Prop where
  perm : r.Perm l
  ordered : r.Pairwise fun a b => key a ≤ key b

namespace Ranking

variable [LinearOrder κ] {key : α → κ} {l r t : List α} {a b x : α}

theorem mem_iff (h : Ranking key l r) : x ∈ r ↔ x ∈ l := h.perm.mem_iff

theorem head_mem (h : Ranking key l (a :: t)) : a ∈ l := h.mem_iff.1 List.mem_cons_self

theorem head_le (h : Ranking key l (a :: t)) (hx : x ∈ l) : key a ≤ key x := by
  rcases List.mem_cons.1 (h.mem_iff.2 hx) with rfl | hx
  · exact le_rfl
  · exact List.rel_of_pairwise_cons h.ordered hx

theorem second_le (h : Ranking key l (a :: b :: t)) (hx : x ∈ b :: t) : key b ≤ key x := by
  rcases List.mem_cons.1 hx with rfl | hx
  · exact le_rfl
  · exact List.rel_of_pairwise_cons (List.pairwise_cons.1 h.ordered).2 hx

theorem exists_map {f : β → α} {l : List β} (h : Ranking key (l.map f) r) :
    ∃ l' : List β, l'.Perm l ∧ r = l'.map f := by
  have hcomp : Relation.Comp (fun r l' => r = List.map f l') List.Perm r l := by
    rw [List.eq_map_comp_perm]
    exact h.perm
  obtain ⟨l', he, hp⟩ := hcomp
  exact ⟨l', hp, he⟩

theorem cons (h : Ranking key l r) (hp : t.Perm (a :: l)) (ha : ∀ x ∈ l, key a ≤ key x) :
    Ranking key t (a :: r) where
  perm := (h.perm.cons a).trans hp.symm
  ordered := List.pairwise_cons.2 ⟨fun x hx => ha x (h.mem_iff.1 hx), h.ordered⟩

end Ranking

/-- A sorting routine that promises nothing about the order of equal keys. -/
structure StdSort [LinearOrder κ] (key : α → κ) where
  sort : List α → List α
  ranking : ∀ l, Ranking key l (sort l)

namespace StdSort

variable [LinearOrder κ] {key : α → κ}

def insertion (key : α → κ) : StdSort key where
  sort := List.insertionSort fun a b => key a ≤ key b
  ranking l := by
    have : Std.Total fun a b : α => key a ≤ key b := ⟨fun a b => le_total _ _⟩
    have : IsTrans α fun a b => key a ≤ key b := ⟨fun _ _ _ => le_trans⟩
    exact ⟨List.perm_insertionSort _ l, List.pairwise_insertionSort _ l⟩

/-- A routine that answers one chosen input by a chosen ranking of it. -/
def prefer [DecidableEq α] (s : StdSort key) (h : Ranking key l r) : StdSort key where
  sort x := if x = l then r else s.sort x
  ranking x := by
    split
    · rename_i he
      exact he ▸ h
    · exact s.ranking x

@[simp] theorem prefer_sort [DecidableEq α] (s : StdSort key) (h : Ranking key l r) :
    (s.prefer h).sort l = r := if_pos rfl

/-- Every ranking of a list is the answer of some routine. -/
theorem exists_sort_eq [DecidableEq α] (h : Ranking key l r) :
    ∃ s : StdSort key, s.sort l = r :=
  ⟨(insertion key).prefer h, prefer_sort _ h⟩

end StdSort

namespace Ranking

variable [LinearOrder κ] {key : α → κ} {l l' : List α} {a b : α}

theorem exists_of (key : α → κ) (l : List α) : ∃ r, Ranking key l r :=
  ⟨_, (StdSort.insertion key).ranking l⟩

theorem exists_first (hp : l.Perm (a :: l')) (ha : ∀ x ∈ l', key a ≤ key x) :
    ∃ t, Ranking key l (a :: t) := by
  obtain ⟨t, ht⟩ := exists_of key l'
  exact ⟨t, ht.cons hp ha⟩

end Ranking
