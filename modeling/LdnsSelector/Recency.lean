import Mathlib.Data.List.Basic

set_option autoImplicit true

namespace Recency

variable [DecidableEq α]

/-- The latest entry of a history, newest first, that is neither `a` nor blank. -/
def lastOther (blank a : α) (history : List α) : Option α :=
  history.find? fun b => b ≠ a ∧ b ≠ blank

/-- The pair after `a` is used: `a` in front, and behind it the older of the two entries that
is still another one. -/
def use (blank : α) (pair : α × α) (a : α) : α × α :=
  if pair.1 = blank then (a, a)
  else if pair.1 ≠ a then (a, pair.1)
  else if pair.2 = blank then (a, a)
  else if pair.2 ≠ a then (a, pair.2)
  else (a, a)

/-- The pair remembers of the history all that later uses can ask for. -/
structure Remembers (blank : α) (pair : α × α) (history : List α) : Prop where
  first : ∃ earlier, history = pair.1 :: earlier
  second : lastOther blank pair.1 history =
    if pair.2 ≠ pair.1 ∧ pair.2 ≠ blank then some pair.2 else none

variable {blank a b : α} {pair : α × α} {history : List α}

theorem lastOther_cons (h : b ≠ a ∧ b ≠ blank) :
    lastOther blank a (b :: history) = some b :=
  List.find?_cons_of_pos (decide_eq_true h)

theorem lastOther_cons_skip (h : ¬(b ≠ a ∧ b ≠ blank)) :
    lastOther blank a (b :: history) = lastOther blank a history :=
  List.find?_cons_of_neg fun hd => h (of_decide_eq_true hd)

theorem lastOther_ne (h : lastOther blank a history = some b) : b ≠ a ∧ b ≠ blank := by
  have hd := List.find?_some h
  exact of_decide_eq_true hd

theorem lastOther_of_blank (h : lastOther blank blank history = none) :
    lastOther blank a history = none := by
  apply List.find?_eq_none.2
  intro b hb hd
  have hn := List.find?_eq_none.1 h b hb
  have hne := (of_decide_eq_true hd).2
  exact hn (decide_eq_true ⟨hne, hne⟩)

/-- Using `a` puts the latest other entry behind it, or `a` again when there is none. -/
theorem Remembers.use_eq (h : Remembers blank pair history)
    (hb : pair.1 = blank → pair.2 = blank) :
    use blank pair a = (a, (lastOther blank a history).getD a) := by
  obtain ⟨earlier, he⟩ := h.first
  have hs := h.second
  by_cases h₁ : pair.1 = blank
  · have hn : ¬(pair.2 ≠ pair.1 ∧ pair.2 ≠ blank) := fun hc => hc.2 (hb h₁)
    rw [if_neg hn, h₁] at hs
    rw [use, if_pos h₁, lastOther_of_blank hs]
    rfl
  · by_cases h₂ : pair.1 = a
    · rw [use, if_neg h₁, if_neg (not_not_intro h₂), ← h₂, hs]
      by_cases h₃ : pair.2 = blank
      · rw [if_pos h₃, if_neg fun hc => hc.2 h₃]
        rfl
      · by_cases h₄ : pair.2 = pair.1
        · rw [if_neg h₃, if_neg (not_not_intro h₄), if_neg fun hc => hc.1 h₄]
          rfl
        · rw [if_neg h₃, if_pos h₄, if_pos ⟨h₄, h₃⟩]
          rfl
    · rw [use, if_neg h₁, if_pos h₂, he, lastOther_cons ⟨h₂, h₁⟩]
      rfl

theorem Remembers.use (h : Remembers blank pair history)
    (hb : pair.1 = blank → pair.2 = blank) :
    Remembers blank (use blank pair a) (a :: history) := by
  rw [h.use_eq hb]
  refine ⟨⟨history, rfl⟩, ?_⟩
  have ha : ¬(a ≠ a ∧ a ≠ blank) := fun hc => hc.1 rfl
  change lastOther blank a (a :: history) = _
  rw [lastOther_cons_skip ha]
  cases hl : lastOther blank a history with
  | none => rw [Option.getD_none, if_neg ha]
  | some b => rw [Option.getD_some, if_pos (lastOther_ne hl)]

end Recency
