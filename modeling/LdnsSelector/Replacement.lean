import Mathlib.Data.List.Basic

set_option autoImplicit true

/-- A loop that ends when `step` has nothing more to do. -/
def exhaust (step : α → Option α) (μ : α → Nat) (h : ∀ s s', step s = some s' → μ s' < μ s)
    (s : α) : α :=
  match _hs : step s with
  | none => s
  | some s' => exhaust step μ h s'
termination_by μ s
decreasing_by exact h s s' _hs

section Exhaust

variable {step : α → Option α} {μ : α → Nat} {h : ∀ s s', step s = some s' → μ s' < μ s}

theorem exhaust_of_none (hs : step s = none) : exhaust step μ h s = s := by
  rw [exhaust]
  split
  · rfl
  · next s' hs' => exact absurd (hs.symm.trans hs') (Option.some_ne_none s').symm

theorem exhaust_of_some (hs : step s = some s') :
    exhaust step μ h s = exhaust step μ h s' := by
  rw [exhaust]
  split
  · next hs' => exact absurd (hs.symm.trans hs') (Option.some_ne_none s')
  · next s'' hs' =>
    cases hs.symm.trans hs'
    rfl

theorem exhaust_normal (s : α) : step (exhaust step μ h s) = none := by
  induction s using exhaust.induct step μ h with
  | case1 s hs => rwa [exhaust_of_none hs]
  | case2 s s' hs ih => rwa [exhaust_of_some hs]

theorem exhaust_invariant {f : α → β} (hf : ∀ s s', step s = some s' → f s' = f s) (s : α) :
    f (exhaust step μ h s) = f s := by
  induction s using exhaust.induct step μ h with
  | case1 s hs => rw [exhaust_of_none hs]
  | case2 s s' hs ih => rw [exhaust_of_some hs, ih, hf s s' hs]

end Exhaust

section Replace

variable [DecidableEq α] {pat new : List α}

/-- `new` in place of the first `pat`, if there is one. -/
def replaceFirst (pat new : List α) : List α → Option (List α)
  | [] => if pat = [] then some new else none
  | c :: s =>
    if pat <+: c :: s then some (new ++ (c :: s).drop pat.length)
    else (replaceFirst pat new s).map (c :: ·)

theorem replaceFirst_split (h : replaceFirst pat new s = some s') :
    ∃ l r, s = l ++ (pat ++ r) ∧ s' = l ++ (new ++ r) := by
  induction s generalizing s' with
  | nil =>
    rw [replaceFirst] at h
    split at h
    · next hp =>
      cases h
      exact ⟨[], [], by simp [hp]⟩
    · cases h
  | cons c s ih =>
    rw [replaceFirst] at h
    split at h
    · next hp =>
      cases h
      obtain ⟨r, hr⟩ := hp
      exact ⟨[], r, hr.symm, by simp [← hr]⟩
    · obtain ⟨t, ht, rfl⟩ := Option.map_eq_some_iff.1 h
      obtain ⟨l, r, rfl, rfl⟩ := ih ht
      exact ⟨c :: l, r, rfl, rfl⟩

theorem replaceFirst_none (h : replaceFirst pat new s = none) : ¬ pat <:+: s := by
  induction s with
  | nil =>
    intro hp
    rw [replaceFirst, if_pos (List.infix_nil.1 hp)] at h
    cases h
  | cons c s ih =>
    rw [replaceFirst] at h
    split at h
    · cases h
    · next hp =>
      intro hi
      rcases List.infix_cons_iff.1 hi with hi | hi
      · exact hp hi
      · exact ih (Option.map_eq_none_iff.1 h) hi

theorem replaceFirst_length_lt (hn : new.length < pat.length)
    (h : replaceFirst pat new s = some s') : s'.length < s.length := by
  obtain ⟨l, r, rfl, rfl⟩ := replaceFirst_split h
  simp only [List.length_append]
  omega

/-- `new` in place of `pat`, as long as there is one. -/
def replaceAll (pat new : List α) (hn : new.length < pat.length) : List α → List α :=
  exhaust (replaceFirst pat new) List.length fun _ _ h => replaceFirst_length_lt hn h

theorem replaceFirst_singleton (hx : x ∉ p) (new q : List α) :
    replaceFirst [x] new (p ++ x :: q) = some (p ++ (new ++ q)) := by
  induction p with
  | nil =>
    have hp : [x] <+: x :: q := List.prefix_append [x] q
    rw [List.nil_append, replaceFirst, if_pos hp]
    rfl
  | cons c p ih =>
    rw [List.mem_cons, not_or] at hx
    obtain ⟨hc, hp⟩ := hx
    have hne : ¬ [x] <+: c :: (p ++ x :: q) := fun h => hc (List.cons_prefix_cons.1 h).1
    rw [List.cons_append, replaceFirst, if_neg hne, ih hp, Option.map_some]
    rfl

end Replace

section Tail

def mapTail (f : α → α) : List α → List α
  | [] => []
  | a :: as => a :: as.map f

theorem mapTail_append {f : α → α} (h : xs ≠ []) (ys : List α) :
    mapTail f (xs ++ ys) = mapTail f xs ++ ys.map f := by
  cases xs with
  | nil => exact absurd rfl h
  | cons x xs => rw [List.cons_append, mapTail, mapTail, List.map_append, List.cons_append]

theorem mapTail_eq_self {f : α → α} (h : ∀ a ∈ xs.tail, f a = a) : mapTail f xs = xs := by
  cases xs with
  | nil => rfl
  | cons x xs =>
    rw [List.tail_cons] at h
    rw [mapTail, List.map_congr_left h, List.map_id']

theorem mapTail_mapTail (f g : α → α) (xs : List α) :
    mapTail f (mapTail g xs) = mapTail (fun a => f (g a)) xs := by
  cases xs with
  | nil => rfl
  | cons x xs => simp [mapTail]

theorem map_mapTail {f : α → α} {g : α → β} (h : ∀ a, g (f a) = g a) (xs : List α) :
    (mapTail f xs).map g = xs.map g := by
  cases xs with
  | nil => rfl
  | cons x xs => simp [mapTail, h]

theorem mem_mapTail {f : α → α} (h : a ∈ mapTail f xs) :
    xs.head? = some a ∨ ∃ x ∈ xs, a = f x := by
  cases xs with
  | nil => exact absurd h List.not_mem_nil
  | cons x xs =>
    rcases List.mem_cons.1 h with rfl | h
    · exact .inl rfl
    · obtain ⟨y, hy, rfl⟩ := List.mem_map.1 h
      exact .inr ⟨y, List.mem_cons_of_mem x hy, rfl⟩

theorem length_mapTail (f : α → α) (xs : List α) : (mapTail f xs).length = xs.length := by
  cases xs with
  | nil => rfl
  | cons x xs => simp [mapTail]

end Tail
