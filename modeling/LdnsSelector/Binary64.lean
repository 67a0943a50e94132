import Mathlib.Algebra.Order.Field.Power
import Mathlib.Data.Rat.Floor
import Mathlib.Tactic.Linarith

set_option autoImplicit true

namespace Binary64

/-- The exponent of the power of two at or below a number that is not zero. -/
def exponent (x : ℚ) : ℤ :=
  let k : ℤ := x.num.natAbs.log2 - x.den.log2
  if (2 : ℚ) ^ k ≤ |x| then k else k - 1

/-- The distance of the numbers of 53 bits from one power of two to the next. -/
def ulp (x : ℚ) : ℚ := 2 ^ (exponent x - 52)

/-- The nearest integer, and of two the even one. -/
def nearest (x : ℚ) : ℤ :=
  if x - ⌊x⌋ < 1 / 2 ∨ x - ⌊x⌋ = 1 / 2 ∧ ⌊x⌋ % 2 = 0 then ⌊x⌋ else ⌊x⌋ + 1

/-- The nearest number of 53 bits. Exponents are not bounded. -/
def round (x : ℚ) : ℚ := nearest (x / ulp x) * ulp x

def add (x y : ℚ) : ℚ := round (x + y)

def sub (x y : ℚ) : ℚ := round (x - y)

def mul (x y : ℚ) : ℚ := round (x * y)

def div (x y : ℚ) : ℚ := round (x / y)

def sum (xs : List ℚ) : ℚ := xs.foldl add 0

def mean (xs : List ℚ) : ℚ := div (sum xs) xs.length

section Exponent

theorem log2_bounds {n : Nat} (hn : n ≠ 0) :
    (2 : ℚ) ^ (n.log2 : ℤ) ≤ n ∧ (n : ℚ) < 2 ^ (n.log2 + 1 : ℤ) := by
  have hle : 2 ^ n.log2 ≤ n := Nat.log2_self_le hn
  have hlt : n < 2 ^ (n.log2 + 1) := Nat.lt_log2_self
  apply And.intro
  · rw [zpow_natCast]
    exact_mod_cast hle
  · rw [← Nat.cast_succ, zpow_natCast]
    exact_mod_cast hlt

/-- The exponents of numerator and denominator fix the exponent of a quotient up to one. -/
theorem div_bounds {n d : Nat} (hn : n ≠ 0) (hd : d ≠ 0) :
    (2 : ℚ) ^ ((n.log2 : ℤ) - d.log2 - 1) < n / d ∧
      (n / d : ℚ) < 2 ^ ((n.log2 : ℤ) - d.log2 + 1) := by
  have hnum := log2_bounds hn
  have hden := log2_bounds hd
  have hpos : (0 : ℚ) < d := by exact_mod_cast Nat.pos_of_ne_zero hd
  rw [lt_div_iff₀ hpos, div_lt_iff₀ hpos]
  apply And.intro
  · calc (2 : ℚ) ^ ((n.log2 : ℤ) - d.log2 - 1) * d
        < 2 ^ ((n.log2 : ℤ) - d.log2 - 1) * 2 ^ (d.log2 + 1 : ℤ) :=
          mul_lt_mul_of_pos_left hden.2 (zpow_pos two_pos _)
      _ = 2 ^ (n.log2 : ℤ) := by
          rw [← zpow_add₀ two_ne_zero]
          congr 1
          omega
      _ ≤ n := hnum.1
  · calc (n : ℚ) < 2 ^ (n.log2 + 1 : ℤ) := hnum.2
      _ = 2 ^ ((n.log2 : ℤ) - d.log2 + 1) * 2 ^ (d.log2 : ℤ) := by
          rw [← zpow_add₀ two_ne_zero]
          congr 1
          omega
      _ ≤ 2 ^ ((n.log2 : ℤ) - d.log2 + 1) * d :=
          mul_le_mul_of_nonneg_left hden.1 (zpow_pos two_pos _).le

theorem exponent_spec (hx : 0 < x) : (2 : ℚ) ^ exponent x ≤ x ∧ x < 2 ^ (exponent x + 1) := by
  have hnum := Rat.num_pos.2 hx
  have hbounds := div_bounds (n := x.num.natAbs) (by omega) x.den_ne_zero
  have hquotient : (x.num.natAbs / x.den : ℚ) = x := by
    rw [Nat.cast_natAbs, abs_of_pos hnum, Rat.num_div_den]
  rw [hquotient] at hbounds
  rw [exponent, abs_of_pos hx]
  split
  · next hle => exact ⟨hle, hbounds.2⟩
  · next hlt =>
    rw [sub_add_cancel]
    exact ⟨hbounds.1.le, not_le.1 hlt⟩

theorem exponent_mono (hx : 0 < x) (hxy : x ≤ y) : exponent x ≤ exponent y := by
  have hle : (2 : ℚ) ^ exponent x < 2 ^ (exponent y + 1) :=
    ((exponent_spec hx).1.trans hxy).trans_lt (exponent_spec (hx.trans_le hxy)).2
  exact Int.lt_add_one_iff.1 ((zpow_lt_zpow_iff_right₀ one_lt_two).1 hle)

theorem ulp_pos (x : ℚ) : 0 < ulp x := zpow_pos two_pos _

theorem two_pow_mul_ulp (x : ℚ) (k : Nat) : 2 ^ k * ulp x = 2 ^ (exponent x - 52 + k) := by
  rw [ulp, ← zpow_natCast, ← zpow_add₀ two_ne_zero, add_comm]

theorem div_ulp_bounds (hx : 0 < x) : 2 ^ 52 ≤ x / ulp x ∧ x / ulp x < 2 ^ 53 := by
  obtain ⟨hlow, hhigh⟩ := exponent_spec hx
  rw [le_div_iff₀ (ulp_pos x), div_lt_iff₀ (ulp_pos x), two_pow_mul_ulp, two_pow_mul_ulp]
  rw [Nat.cast_ofNat, Nat.cast_ofNat, sub_add_cancel]
  refine ⟨hlow, hhigh.trans_eq ?_⟩
  congr 1
  omega

end Exponent

section Nearest

theorem nearest_intCast (n : ℤ) : nearest n = n := by
  rw [nearest, Int.floor_intCast, sub_self, if_pos (.inl (by norm_num))]

theorem nearest_bounds (x : ℚ) : ⌊x⌋ ≤ nearest x ∧ nearest x ≤ ⌊x⌋ + 1 := by
  rw [nearest]
  split <;> omega

theorem nearest_mono (h : x ≤ y) : nearest x ≤ nearest y := by
  rcases (Int.floor_le_floor h).lt_or_eq with hlt | heq
  · have hx := nearest_bounds x
    have hy := nearest_bounds y
    omega
  · rw [nearest, nearest, ← heq]
    split
    · split <;> omega
    · next hx =>
      rw [if_neg]
      intro hy
      apply hx
      rcases hy with hy | hy
      · exact .inl (by linarith)
      · rcases h.lt_or_eq with hlt | rfl
        · exact .inl (by linarith [hy.1])
        · exact .inr hy

end Nearest

section Round

theorem round_zero : round 0 = 0 := by
  rw [round, zero_div, ← Int.cast_zero, nearest_intCast, Int.cast_zero, zero_mul]

theorem round_eq {m : Nat} (hm : m < 2 ^ 53) (e : ℤ) : round (m * 2 ^ e) = m * 2 ^ e := by
  rcases m.eq_zero_or_pos with rfl | hpos
  · rw [Nat.cast_zero, zero_mul, round_zero]
  let x : ℚ := m * 2 ^ e
  have hx : 0 < x := mul_pos (by exact_mod_cast hpos) (zpow_pos two_pos e)
  have hexponent : exponent x < 53 + e := by
    rw [← zpow_lt_zpow_iff_right₀ (one_lt_two (α := ℚ))]
    calc (2 : ℚ) ^ exponent x ≤ m * 2 ^ e := (exponent_spec hx).1
      _ < 2 ^ (53 : ℤ) * 2 ^ e :=
        mul_lt_mul_of_pos_right (by exact_mod_cast hm) (zpow_pos two_pos e)
      _ = 2 ^ (53 + e) := (zpow_add₀ two_ne_zero _ _).symm
  have hquotient : x / ulp x = ((m * 2 ^ (e - (exponent x - 52)).toNat : ℤ) : ℚ) := by
    rw [div_eq_iff (ulp_pos x).ne', Int.cast_mul, Int.cast_natCast, Int.cast_pow, Int.cast_ofNat,
      mul_assoc, two_pow_mul_ulp]
    show (m * 2 ^ e : ℚ) = _
    congr 2
    omega
  show round x = x
  rw [round, hquotient, nearest_intCast, ← hquotient, div_mul_cancel₀ _ (ulp_pos x).ne']

theorem nearest_div_ulp_bounds (hx : 0 < x) :
    2 ^ 52 ≤ nearest (x / ulp x) ∧ nearest (x / ulp x) ≤ 2 ^ 53 := by
  obtain ⟨hlow, hhigh⟩ := div_ulp_bounds hx
  have hlow' : ((2 ^ 52 : ℤ) : ℚ) ≤ x / ulp x := by exact_mod_cast hlow
  have hhigh' : x / ulp x ≤ ((2 ^ 53 : ℤ) : ℚ) := by exact_mod_cast hhigh.le
  have hmono := And.intro (nearest_mono hlow') (nearest_mono hhigh')
  rwa [nearest_intCast, nearest_intCast] at hmono

theorem round_le_of_exponent_lt (hx : 0 < x) (hy : 0 < y) (h : exponent x < exponent y) :
    round x ≤ round y := by
  have hhigh : (nearest (x / ulp x) : ℚ) ≤ 2 ^ 53 := by
    exact_mod_cast (nearest_div_ulp_bounds hx).2
  have hlow : (2 : ℚ) ^ 52 ≤ nearest (y / ulp y) := by
    exact_mod_cast (nearest_div_ulp_bounds hy).1
  calc round x ≤ 2 ^ 53 * ulp x := mul_le_mul_of_nonneg_right hhigh (ulp_pos x).le
    _ = 2 ^ (exponent x - 52 + (53 : Nat)) := two_pow_mul_ulp x 53
    _ ≤ 2 ^ (exponent y - 52 + (52 : Nat)) := zpow_le_zpow_right₀ one_le_two (by omega)
    _ = 2 ^ 52 * ulp y := (two_pow_mul_ulp y 52).symm
    _ ≤ round y := mul_le_mul_of_nonneg_right hlow (ulp_pos y).le

theorem round_nonneg (hx : 0 ≤ x) : 0 ≤ round x := by
  have hnearest : nearest ((0 : ℤ) : ℚ) ≤ nearest (x / ulp x) :=
    nearest_mono (by simpa using div_nonneg hx (ulp_pos x).le)
  rw [nearest_intCast] at hnearest
  exact mul_nonneg (by exact_mod_cast hnearest) (ulp_pos x).le

theorem round_mono (hx : 0 ≤ x) (h : x ≤ y) : round x ≤ round y := by
  rcases hx.eq_or_lt with rfl | hx
  · rw [round_zero]
    exact round_nonneg h
  rcases (exponent_mono hx h).lt_or_eq with hlt | heq
  · exact round_le_of_exponent_lt hx (hx.trans_le h) hlt
  · have hulp : ulp x = ulp y := by rw [ulp, ulp, heq]
    have hnearest := nearest_mono (div_le_div_of_nonneg_right h (ulp_pos y).le)
    rw [round, round, hulp]
    exact mul_le_mul_of_nonneg_right (by exact_mod_cast hnearest) (ulp_pos y).le

end Round

section Mean

variable {x : ℚ} {xs : List ℚ}

theorem foldl_add_nonneg (hx : 0 ≤ x) (hxs : ∀ y ∈ xs, 0 ≤ y) : 0 ≤ xs.foldl add x := by
  induction xs generalizing x with
  | nil => exact hx
  | cons y xs ih =>
    obtain ⟨hy, hxs⟩ := List.forall_mem_cons.1 hxs
    exact ih (round_nonneg (add_nonneg hx hy)) hxs

/-- Numbers up to a power of two add up to no more than as many times the power: rounding
does not go past it. -/
theorem foldl_add_le {n : Nat} {e : ℤ} (hx : 0 ≤ x) (hle : x ≤ n * 2 ^ e)
    (hxs : ∀ y ∈ xs, 0 ≤ y ∧ y ≤ 2 ^ e) (hn : n + xs.length < 2 ^ 53) :
    xs.foldl add x ≤ (n + xs.length : Nat) * 2 ^ e := by
  induction xs generalizing x n with
  | nil => exact hle
  | cons y xs ih =>
    obtain ⟨⟨hy, hye⟩, hxs⟩ := List.forall_mem_cons.1 hxs
    rw [List.length_cons] at hn
    have hnext : add x y ≤ (n + 1 : Nat) * 2 ^ e := by
      rw [← round_eq (m := n + 1) (by omega) e]
      apply round_mono (add_nonneg hx hy)
      rw [Nat.cast_succ, add_mul, one_mul]
      exact add_le_add hle hye
    have hrest := ih (round_nonneg (add_nonneg hx hy)) hnext hxs (by omega)
    rwa [List.length_cons, Nat.add_comm xs.length 1, ← Nat.add_assoc]

theorem mean_nonneg (hxs : ∀ y ∈ xs, 0 ≤ y) : 0 ≤ mean xs :=
  round_nonneg (div_nonneg (foldl_add_nonneg le_rfl hxs) (Nat.cast_nonneg _))

theorem mean_le {e : ℤ} (hne : xs ≠ []) (hxs : ∀ y ∈ xs, 0 ≤ y ∧ y ≤ 2 ^ e)
    (hn : xs.length < 2 ^ 53) : mean xs ≤ 2 ^ e := by
  have hpos : (0 : ℚ) < xs.length := by exact_mod_cast List.length_pos_iff.2 hne
  have hsum : sum xs ≤ xs.length * 2 ^ e := by
    have hle := foldl_add_le (n := 0) le_rfl (by simp) hxs (by omega)
    rwa [Nat.zero_add] at hle
  have hexact : round (2 ^ e) = 2 ^ e := by simpa using round_eq (m := 1) (by norm_num) e
  rw [← hexact]
  apply round_mono (div_nonneg (foldl_add_nonneg le_rfl fun y hy => (hxs y hy).1) hpos.le)
  rw [div_le_iff₀ hpos, mul_comm]
  exact hsum

end Mean

end Binary64
