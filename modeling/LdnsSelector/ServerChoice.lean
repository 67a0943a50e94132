import Mathlib.Data.Fintype.EquivFin
import Mathlib.Data.List.Count
import LdnsSelector.AutoSelectRuns

set_option autoImplicit true

namespace LdnsSelector

def Responsive (os : List (WString × Option UInt32)) (vip : WString) : Prop :=
  ∃ t, (vip, some t) ∈ os

instance : Decidable (Responsive os vip) :=
  decidable_of_iff (∃ e ∈ os, e.1 = vip ∧ e.2.isSome) <| by
    apply Iff.intro
    · intro ⟨(v, x), he, hv, hx⟩
      obtain ⟨t, ht⟩ := Option.isSome_iff_exists.1 hx
      simp only at hv ht
      subst hv ht
      exact ⟨t, he⟩
    · intro ⟨t, ht⟩
      exact ⟨_, ht, rfl, rfl⟩

section Candidates

variable {os : List (WString × Option UInt32)} {c d : Candidate} {t r : List Candidate}

theorem mem_candidates_of_some (h : (vip, some ms) ∈ os) : ⟨ms, vip⟩ ∈ candidates os :=
  List.mem_map.2 ⟨_, h, rfl⟩

theorem mem_candidates_of_none (h : (vip, none) ∈ os) : ⟨timeOut, vip⟩ ∈ candidates os :=
  List.mem_map.2 ⟨_, h, rfl⟩

theorem mem_candidates_cases (h : c ∈ candidates os) :
    (c.strVip, some c.timeMs) ∈ os ∨ (c.timeMs = timeOut ∧ (c.strVip, none) ∈ os) := by
  obtain ⟨⟨vip, x⟩, he, rfl⟩ := List.mem_map.1 h
  cases x with
  | none => exact .inr ⟨rfl, he⟩
  | some ms => exact .inl he

theorem mem_of_lt_timeOut (h : c ∈ candidates os) (hc : c.timeMs < timeOut) :
    (c.strVip, some c.timeMs) ∈ os := by
  rcases mem_candidates_cases h with h | ⟨ht, _⟩
  · exact h
  · rw [ht] at hc
    exact absurd hc (UInt32.lt_irrefl _)

theorem Candidate.key_le_iff : c.key ≤ d.key ↔ c.timeMs ≤ d.timeMs := UInt32.le_iff_toNat_le.symm

theorem lt_timeOut_ne (h : c.timeMs < timeOut) : c.timeMs ≠ pingTimeout := by
  intro he
  rw [he] at h
  exact absurd h (by decide)

def runnerUp : List Candidate → WString
  | [] => []
  | second :: _ => if second.timeMs ≠ pingTimeout then second.strVip else []

theorem runnerUp_cons (hd : d.timeMs ≠ pingTimeout) : runnerUp (d :: t) = d.strVip :=
  if_pos hd

theorem runnerUp_ne_nil (h : runnerUp r ≠ []) :
    ∃ d t, r = d :: t ∧ d.timeMs ≠ pingTimeout ∧ runnerUp r = d.strVip := by
  cases r with
  | nil => exact absurd rfl h
  | cons d t =>
    by_cases hd : d.timeMs = pingTimeout
    · exact absurd (if_neg (not_not_intro hd)) h
    · exact ⟨d, t, rfl, hd, runnerUp_cons hd⟩

theorem runnerUp_of_forall {P : WString → Prop} (h : ∀ d ∈ t.head?, d.strVip ≠ [] → P d.strVip)
    (hne : runnerUp t ≠ []) : P (runnerUp t) := by
  obtain ⟨d, t', rfl, _, hu⟩ := runnerUp_ne_nil hne
  rw [hu] at hne ⊢
  exact h d rfl hne

theorem selectDns_cons (hc : c.timeMs ≠ pingTimeout) :
    selectDns (c :: t) = .ok (c.strVip, runnerUp t) := by
  cases t with
  | nil => simp only [selectDns, if_neg hc, runnerUp]
  | cons d t =>
    simp only [selectDns, if_neg hc, runnerUp]
    split
    · rfl
    · rfl

theorem selectDns_timeout (hc : c.timeMs = pingTimeout) :
    selectDns (c :: t) = .error .noValidDnsForSwitching := by
  simp only [selectDns, if_pos hc]

theorem selectDns_eq_ok_iff :
    selectDns r = .ok (dns1, s) ↔
      ∃ c t, r = c :: t ∧ c.timeMs ≠ pingTimeout ∧ dns1 = c.strVip ∧ s = runnerUp t := by
  apply Iff.intro
  · intro h
    cases r with
    | nil => cases h
    | cons c t =>
      by_cases hc : c.timeMs = pingTimeout
      · rw [selectDns_timeout hc] at h
        cases h
      · rw [selectDns_cons hc] at h
        cases h
        exact ⟨c, t, rfl, hc, rfl, rfl⟩
  · intro ⟨c, t, hr, hc, hd, hs⟩
    rw [hr, hd, hs]
    exact selectDns_cons hc

theorem selectDns_error (h : selectDns r = .error res) : res = .noValidDnsForSwitching := by
  cases r with
  | nil => exact (Except.error.inj h).symm
  | cons c t =>
    by_cases hc : c.timeMs = pingTimeout
    · rw [selectDns_timeout hc] at h
      exact (Except.error.inj h).symm
    · rw [selectDns_cons hc] at h
      cases h

end Candidates

/-- A ping that succeeded in less than the time that stands in for a failure. -/
def quick (e : WString × Option UInt32) : Bool :=
  e.2.any fun ms => ms < timeOut

section Quick

variable {os : List (WString × Option UInt32)} {c d : Candidate} {t r : List Candidate}

theorem quick_iff : quick e = true ↔ (candidateOf e.1 e.2).timeMs < timeOut := by
  obtain ⟨vip, x⟩ := e
  cases x with
  | none => exact iff_of_false Bool.false_ne_true (UInt32.lt_irrefl _)
  | some ms => exact decide_eq_true_iff

theorem countP_quick (os : List (WString × Option UInt32)) :
    (candidates os).countP (fun c => c.timeMs < timeOut) = os.countP quick := by
  rw [candidates, List.countP_map]
  apply List.countP_congr
  intro e _
  exact decide_eq_true_iff.trans quick_iff.symm

theorem first_quick (h : Ranking Candidate.key (candidates os) (c :: t))
    (hq : 0 < os.countP quick) : c.timeMs < timeOut := by
  rw [← countP_quick, List.countP_pos_iff] at hq
  obtain ⟨x, hx, hlt⟩ := hq
  have hle := Candidate.key_le_iff.1 (h.head_le hx)
  exact UInt32.lt_of_le_of_lt hle (of_decide_eq_true hlt)

theorem second_quick (h : Ranking Candidate.key (candidates os) (c :: d :: t))
    (hq : 2 ≤ os.countP quick) : d.timeMs < timeOut := by
  rw [← countP_quick, ← h.perm.countP_eq, List.countP_cons] at hq
  have hpos : 0 < (d :: t).countP fun c => c.timeMs < timeOut := by
    split at hq
    · omega
    · omega
  obtain ⟨x, hx, hlt⟩ := List.countP_pos_iff.1 hpos
  have hle := Candidate.key_le_iff.1 (h.second_le hx)
  exact UInt32.lt_of_le_of_lt hle (of_decide_eq_true hlt)

theorem timeOut_le_of_not_quick (h : ¬quick e = true) :
    timeOut ≤ (candidateOf e.1 e.2).timeMs :=
  UInt32.not_lt.1 fun hlt => h (quick_iff.2 hlt)

theorem exists_perm_cons {l : List α} (h : a ∈ l) : ∃ l', l.Perm (a :: l') := by
  obtain ⟨s, t, rfl⟩ := List.append_of_mem h
  exact ⟨s ++ t, List.perm_middle⟩

theorem exists_ranking_failed (hq : os.countP quick = 0) (hv : (vip, none) ∈ os) :
    ∃ t, Ranking Candidate.key (candidates os) (⟨timeOut, vip⟩ :: t) := by
  obtain ⟨cs, hp⟩ := exists_perm_cons (mem_candidates_of_none hv)
  apply Ranking.exists_first hp
  intro x hx
  obtain ⟨e, he, rfl⟩ := List.mem_map.1 (hp.mem_iff.2 (List.mem_cons_of_mem _ hx))
  exact Candidate.key_le_iff.2 (timeOut_le_of_not_quick (List.countP_eq_zero.1 hq e he))

theorem exists_ranking_second_failed (hq : os.countP quick = 1) (hv : (vip, none) ∈ os) :
    ∃ c t, Ranking Candidate.key (candidates os) (c :: ⟨timeOut, vip⟩ :: t) ∧
      c.timeMs < timeOut := by
  obtain ⟨f, hf, hfq⟩ := List.countP_pos_iff.1 (hq ▸ Nat.one_pos)
  obtain ⟨os₁, hp₁⟩ := exists_perm_cons hf
  have hrest : os₁.countP quick = 0 := by
    rw [hp₁.countP_eq, List.countP_cons_of_pos hfq] at hq
    omega
  have hv₁ : (vip, none) ∈ os₁ := by
    rcases List.mem_cons.1 (hp₁.mem_iff.1 hv) with he | hv
    · rw [← he] at hfq
      cases hfq
    · exact hv
  obtain ⟨t, ht⟩ := exists_ranking_failed hrest hv₁
  have hlt := quick_iff.1 hfq
  refine ⟨_, t, ht.cons (hp₁.map _) ?_, hlt⟩
  intro x hx
  obtain ⟨e, he, rfl⟩ := List.mem_map.1 hx
  apply Candidate.key_le_iff.2
  have hle := timeOut_le_of_not_quick (List.countP_eq_zero.1 hrest e he)
  exact UInt32.le_of_lt (UInt32.lt_of_lt_of_le hlt hle)

end Quick

section OnlyResponsive

variable {layout : Layout} {m : DnsMap}

/-- The second address came from the list, not from the defaults or from the adapter. -/
def FromList (vec : List Candidate) (dns2 : WString) : Prop :=
  dns2 ≠ [] ∧ ∃ dns1, selectDns vec = .ok (dns1, dns2)

/-- No run with these ping outcomes sets an unresponsive server of the list, and none sets any
when no server responds. -/
def OnlyResponsive (os : PingOutcomes layout m) : Prop :=
  ∀ sorter tr rest o, SelectionRun layout sorter os tr rest o →
    (∀ id dns1 dns2 res, switched id dns1 dns2 res ∈ rest →
      Responsive os.outcomes dns1 ∧
        (FromList (sorter.sort (candidates os.outcomes)) dns2 →
          Responsive os.outcomes dns2)) ∧
    ((∀ vip, ¬Responsive os.outcomes vip) →
      o = .ok .noValidDnsForSwitching ∧
        ∀ id dns1 dns2 res, switched id dns1 dns2 res ∉ rest)

/-- The failed pings cannot come first or second in the sort, or do no harm there. -/
def FailuresBehind (os : List (WString × Option UInt32)) : Prop :=
  (∀ e ∈ os, Responsive os e.1) ∨ 2 ≤ os.countP quick ∨
    (os.countP quick = 1 ∧ ∀ e ∈ os, ¬Responsive os e.1 → e.1 = [])

theorem responsive_or_failed {os : List (WString × Option UInt32)} (he : e ∈ os) :
    Responsive os e.1 ∨ (e.1, none) ∈ os := by
  obtain ⟨vip, x⟩ := e
  cases x with
  | none => exact .inr he
  | some ms => exact .inl ⟨ms, he⟩

theorem selectionRun_of_ranking (os : PingOutcomes layout m) (info : AdapterInfo)
    (hr : Ranking Candidate.key (candidates os.outcomes) (c :: t))
    (hc : c.timeMs ≠ pingTimeout) :
    ∃ sorter : StdSort Candidate.key,
      selectDns (sorter.sort (candidates os.outcomes)) = .ok (c.strVip, runnerUp t) ∧
      SelectionRun layout sorter os [fetched ∅ .success m]
        [listed .success [info],
          switched info.id c.strVip (secondDns info c.strVip (runnerUp t)) .success]
        (.ok .success) := by
  obtain ⟨sorter, hs⟩ := StdSort.exists_sort_eq hr
  have hsel : selectDns (sorter.sort (candidates os.outcomes)) = .ok (c.strVip, runnerUp t) :=
    hs ▸ selectDns_cons hc
  exact ⟨sorter, hsel, selectionRun_of_select os info hsel⟩

theorem OnlyResponsive.of_ranking {os : PingOutcomes layout m} (h : OnlyResponsive os)
    (hr : Ranking Candidate.key (candidates os.outcomes) (c :: t))
    (hc : c.timeMs ≠ pingTimeout) :
    Responsive os.outcomes c.strVip ∧
      (runnerUp t ≠ [] → Responsive os.outcomes (runnerUp t)) := by
  obtain ⟨sorter, hsel, hrun⟩ :=
    selectionRun_of_ranking os ⟨0, [], [], false, [], [], 0, 0⟩ hr hc
  obtain ⟨h₁, h₂⟩ := (h _ _ _ _ hrun).1 _ _ _ _ (List.mem_cons_of_mem _ List.mem_cons_self)
  apply And.intro h₁
  intro hne
  rw [secondDns, if_neg hne] at h₂
  exact h₂ ⟨hne, _, hsel⟩

theorem OnlyResponsive.failuresBehind {os : PingOutcomes layout m} (h : OnlyResponsive os) :
    FailuresBehind os.outcomes := by
  have hlate : timeOut ≠ pingTimeout := by decide
  by_cases h₂ : 2 ≤ os.outcomes.countP quick
  · exact .inr (.inl h₂)
  · by_cases h₁ : os.outcomes.countP quick = 1
    · right; right
      apply And.intro h₁
      intro e he hn
      by_contra hne
      have hf := (responsive_or_failed he).resolve_left hn
      obtain ⟨c, t, hr, hc⟩ := exists_ranking_second_failed h₁ hf
      apply hn
      have hu := (h.of_ranking hr (lt_timeOut_ne hc)).2
      rw [runnerUp_cons hlate] at hu
      exact hu hne
    · have h₀ : os.outcomes.countP quick = 0 := by omega
      left
      intro e he
      rcases responsive_or_failed he with hr | hf
      · exact hr
      · obtain ⟨t, hr⟩ := exists_ranking_failed h₀ hf
        exact (h.of_ranking hr hlate).1

theorem FailuresBehind.ranking {os : List (WString × Option UInt32)} (h : FailuresBehind os)
    (hr : Ranking Candidate.key (candidates os) (c :: t)) :
    Responsive os c.strVip ∧ (runnerUp t ≠ [] → Responsive os (runnerUp t)) := by
  have hlisted : ∀ d ∈ c :: t, ∃ e ∈ os, e.1 = d.strVip := by
    intro d hd
    rcases mem_candidates_cases (hr.mem_iff.1 hd) with hd | ⟨_, hd⟩
    · exact ⟨_, hd, rfl⟩
    · exact ⟨_, hd, rfl⟩
  have hbehind : ∀ d ∈ t.head?, d ∈ c :: t := fun d hd =>
    List.mem_cons_of_mem _ (List.mem_of_mem_head? hd)
  rcases h with hall | hq | ⟨hq, hempty⟩
  · have hresp : ∀ d ∈ c :: t, Responsive os d.strVip := by
      intro d hd
      obtain ⟨e, he, hv⟩ := hlisted d hd
      exact hv ▸ hall e he
    apply And.intro (hresp c List.mem_cons_self)
    apply runnerUp_of_forall
    intro d hd _
    exact hresp d (hbehind d hd)
  · have hc := mem_of_lt_timeOut hr.head_mem (first_quick hr (by omega))
    apply And.intro ⟨_, hc⟩
    apply runnerUp_of_forall
    intro d hd _
    obtain ⟨t', rfl⟩ := List.head?_eq_some_iff.1 hd
    exact ⟨_, mem_of_lt_timeOut (hr.mem_iff.1 (hbehind d hd)) (second_quick hr hq)⟩
  · have hc := mem_of_lt_timeOut hr.head_mem (first_quick hr (by omega))
    apply And.intro ⟨_, hc⟩
    apply runnerUp_of_forall
    intro d hd hne
    obtain ⟨e, he, hv⟩ := hlisted d (hbehind d hd)
    rw [← hv] at hne ⊢
    by_contra hn
    exact hne (hempty e he hn)

theorem FailuresBehind.onlyResponsive {os : PingOutcomes layout m}
    (h : FailuresBehind os.outcomes) : OnlyResponsive os := by
  intro sorter tr rest o hrun
  have hchosen : ∀ dns1 s, selectDns (sorter.sort (candidates os.outcomes)) = .ok (dns1, s) →
      Responsive os.outcomes dns1 ∧ (s ≠ [] → Responsive os.outcomes s) := by
    intro dns1 s hsel
    obtain ⟨c, t, he, _, rfl, rfl⟩ := selectDns_eq_ok_iff.1 hsel
    exact h.ranking (he ▸ sorter.ranking _)
  apply And.intro
  · intro id dns1 dns2 res hm
    obtain ⟨info, s, hsel, _⟩ := hrun.switched_mem hm
    apply And.intro (hchosen _ _ hsel).1
    intro ⟨hne, dns1', hsel'⟩
    exact (hchosen _ _ hsel').2 hne
  · intro hnone
    obtain ⟨res, rfl, hf⟩ := hrun.final
    cases hf with
    | noValidDns hsel =>
      rw [selectDns_error hsel]
      exact ⟨rfl, fun _ _ _ _ hm => nomatch hm⟩
    | chosen hsel _ => exact absurd (hchosen _ _ hsel).1 (hnone _)

theorem onlyResponsive_iff (os : PingOutcomes layout m) :
    OnlyResponsive os ↔ FailuresBehind os.outcomes :=
  ⟨OnlyResponsive.failuresBehind, FailuresBehind.onlyResponsive⟩

end OnlyResponsive

def loneVip : DnsMap :=
  AList.insert (wide "telecom") (AList.insert (wide "203.0.113.1") (wide "99.9%") ∅) ∅

/-- The lone server does not answer, and is set all the same. -/
theorem not_onlyResponsive_lone : ¬OnlyResponsive
    (⟨[(wide "203.0.113.1", none)], by decide⟩ : PingOutcomes .stored loneVip) := by
  intro h
  have hb := h.failuresBehind
  revert hb
  rw [FailuresBehind]
  decide

end LdnsSelector
