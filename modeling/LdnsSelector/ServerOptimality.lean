import LdnsSelector.ServerChoice

set_option autoImplicit true

namespace LdnsSelector

/-- Among the vips in `S`, `vip` is a responsive one with the least ping time. -/
def Fastest (os : List (WString × Option UInt32)) (S : WString → Prop) (vip : WString) : Prop :=
  S vip ∧ ∃ ms, (vip, some ms) ∈ os ∧ ∀ v ms', S v → (v, some ms') ∈ os → ms ≤ ms'

def Timely (os : List (WString × Option UInt32)) : Prop :=
  (∃ vip, Responsive os vip) ∧ ∀ vip ms, (vip, some ms) ∈ os → ms < timeOut

section Backup

variable {info : AdapterInfo} {dns1 : WString}

theorem backupDns_dhcp (h : info.dhcp) :
    backupDns info dns1 = if dns1 ≠ defaultDns1 then defaultDns1 else defaultDns2 := by
  by_cases h₁ : dns1 = defaultDns1
  · subst dns1
    simp [backupDns, h, defaultDns_ne]
  · simp [backupDns, h, h₁]

theorem backupDns_static (h : info.dhcp = false) :
    backupDns info dns1 =
      if info.strDns1 ≠ dns1 then info.strDns1
      else if info.strDns2 ≠ dns1 then info.strDns2 else [] := by
  simp [backupDns, h]

theorem backupDns_ne (h : dns1 ≠ []) : backupDns info dns1 ≠ dns1 := by
  cases hd : info.dhcp with
  | true =>
    rw [backupDns_dhcp hd]
    split
    · exact Ne.symm ‹_›
    · have he : dns1 = defaultDns1 := not_not.1 ‹_›
      rw [he]
      exact defaultDns_ne.symm
  | false =>
    rw [backupDns_static hd]
    split
    · assumption
    · split
      · assumption
      · exact h.symm

theorem secondDns_ne (h : dns1 ≠ []) (hs : s ≠ dns1) : secondDns info dns1 s ≠ dns1 := by
  rw [secondDns]
  split
  · exact backupDns_ne h
  · exact hs

end Backup

section ChoosesBest

variable {layout : Layout} {m : DnsMap}

/-- Every run with these ping outcomes that sets a pair sets two different addresses, and the
fastest two when the pings are timely. -/
def ChoosesBest (os : PingOutcomes layout m) : Prop :=
  ∀ sorter tr rest o, SelectionRun layout sorter os tr rest o →
    ∀ id dns1 dns2 res, switched id dns1 dns2 res ∈ rest →
      (Timely os.outcomes → Fastest os.outcomes (fun _ => True) dns1 ∧
        ((∃ vip, vip ≠ dns1 ∧ Responsive os.outcomes vip) →
          Fastest os.outcomes (fun vip => vip ≠ dns1) dns2)) ∧
      dns2 ≠ dns1

/-- However equal times are ordered, the two candidates in front differ, and an empty vip
stands neither alone in front nor behind the first when it counts as an answer. -/
structure DistinctFront (os : List (WString × Option UInt32)) : Prop where
  pair : ∀ c d t, Ranking Candidate.key (candidates os) (c :: d :: t) →
    d.timeMs ≠ pingTimeout →
      d.strVip ≠ c.strVip ∧ (d.strVip = [] → Timely os → ¬Responsive os [])
  alone : ∀ c t, Ranking Candidate.key (candidates os) (c :: t) → c.timeMs ≠ pingTimeout →
    (∀ d ∈ t.head?, d.timeMs = pingTimeout) → c.strVip ≠ []

theorem ChoosesBest.of_ranking {os : PingOutcomes layout m} (h : ChoosesBest os)
    (info : AdapterInfo) (hr : Ranking Candidate.key (candidates os.outcomes) (c :: t))
    (hc : c.timeMs ≠ pingTimeout) :
    (Timely os.outcomes → (∃ vip, vip ≠ c.strVip ∧ Responsive os.outcomes vip) →
      Responsive os.outcomes (secondDns info c.strVip (runnerUp t))) ∧
    secondDns info c.strVip (runnerUp t) ≠ c.strVip := by
  obtain ⟨sorter, _, hrun⟩ := selectionRun_of_ranking os info hr hc
  obtain ⟨hbest, hne⟩ := h _ _ _ _ hrun _ _ _ _ (List.mem_cons_of_mem _ List.mem_cons_self)
  apply And.intro _ hne
  intro ht hv
  obtain ⟨_, ms, hmem, _⟩ := (hbest ht).2 hv
  exact ⟨ms, hmem⟩

def staticAdapter (dns1 dns2 : WString) : AdapterInfo :=
  ⟨0, [], [], false, dns1, dns2, 0, 0⟩

theorem secondDns_static_self (dns1 : WString) :
    secondDns (staticAdapter [] []) dns1 dns1 = dns1 := by
  rw [secondDns]
  split
  · rw [‹dns1 = []›]
    rfl
  · rfl

theorem secondDns_static (h : w ≠ dns1) : secondDns (staticAdapter w []) dns1 [] = w := by
  rw [secondDns, if_pos rfl, backupDns_static rfl]
  exact if_pos h

theorem runnerUp_eq_nil {t : List Candidate} (h : ∀ d ∈ t.head?, d.timeMs = pingTimeout) :
    runnerUp t = [] := by
  cases t with
  | nil => rfl
  | cons d t => exact if_neg (not_not_intro (h d rfl))

theorem ne_pingTimeout_of_le {a b : UInt32} (h : a ≤ b) (hb : b ≠ pingTimeout) :
    a ≠ pingTimeout := by
  intro he
  apply hb
  rw [he] at h
  have hmax := b.toNat_lt
  have hle := UInt32.le_iff_toNat_le.1 h
  apply UInt32.toNat_inj.1
  change 4294967295 ≤ b.toNat at hle
  change b.toNat = 4294967295
  omega

theorem mem_listed {os : List (WString × Option UInt32)} (h : c ∈ candidates os) :
    c.strVip ∈ os.map Prod.fst := by
  rcases mem_candidates_cases h with h | ⟨_, h⟩
  · exact List.mem_map_of_mem h
  · exact List.mem_map_of_mem h

theorem Responsive.mem_listed {os : List (WString × Option UInt32)} (h : Responsive os vip) :
    vip ∈ os.map Prod.fst := by
  obtain ⟨ms, h⟩ := h
  exact List.mem_map_of_mem h

theorem exists_unlisted (os : List (WString × Option UInt32)) : ∃ w, w ∉ os.map Prod.fst := by
  obtain ⟨w, hw⟩ := Infinite.exists_notMem_finset (os.map Prod.fst).toFinset
  exact ⟨w, fun h => hw (List.mem_toFinset.2 h)⟩

theorem ChoosesBest.distinctFront {os : PingOutcomes layout m} (h : ChoosesBest os) :
    DistinctFront os.outcomes where
  pair := by
    intro c d t hr hd
    have hdm := hr.mem_iff.1 (List.mem_cons_of_mem _ List.mem_cons_self)
    have hc := ne_pingTimeout_of_le (Candidate.key_le_iff.1 (hr.head_le hdm)) hd
    have hne : d.strVip ≠ c.strVip := by
      intro he
      have hsecond := (h.of_ranking (staticAdapter [] []) hr hc).2
      rw [runnerUp_cons hd, he] at hsecond
      exact hsecond (secondDns_static_self _)
    apply And.intro hne
    intro hempty ht hresp
    -- the backup can be an address outside the list
    obtain ⟨w, hw⟩ := exists_unlisted os.outcomes
    have hwc : w ≠ c.strVip := by
      intro he
      exact hw (he ▸ mem_listed hr.head_mem)
    have hsecond := (h.of_ranking (staticAdapter w []) hr hc).1 ht ⟨[], hempty ▸ hne, hresp⟩
    rw [runnerUp_cons hd, hempty, secondDns_static hwc] at hsecond
    exact hw hsecond.mem_listed
  alone := by
    intro c t hr hc ht he
    have hsecond := (h.of_ranking (staticAdapter [] []) hr hc).2
    rw [runnerUp_eq_nil ht, he] at hsecond
    exact hsecond (secondDns_static_self _)

theorem Timely.first_fastest {os : List (WString × Option UInt32)} (ht : Timely os)
    (hr : Ranking Candidate.key (candidates os) (c :: t)) :
    Fastest os (fun _ => True) c.strVip := by
  obtain ⟨⟨v, ms, hv⟩, hlt⟩ := ht
  have hle : ∀ v' ms', (v', some ms') ∈ os → c.timeMs ≤ ms' := by
    intro v' ms' hm
    exact Candidate.key_le_iff.1 (hr.head_le (mem_candidates_of_some hm))
  have hc : c.timeMs < timeOut := UInt32.lt_of_le_of_lt (hle v ms hv) (hlt v ms hv)
  refine ⟨trivial, _, mem_of_lt_timeOut hr.head_mem hc, ?_⟩
  intro v' ms' _ hm
  exact hle v' ms' hm

theorem mem_behind {os : List (WString × Option UInt32)}
    (hr : Ranking Candidate.key (candidates os) (c :: t)) (hne : v ≠ c.strVip)
    (hv : (v, some ms) ∈ os) : ⟨ms, v⟩ ∈ t := by
  rcases List.mem_cons.1 (hr.mem_iff.2 (mem_candidates_of_some hv)) with he | hm
  · exact absurd (congrArg Candidate.strVip he) hne
  · exact hm

theorem Timely.second_fastest {os : List (WString × Option UInt32)} (ht : Timely os)
    (hr : Ranking Candidate.key (candidates os) (c :: d :: t)) (hne : d.strVip ≠ c.strVip)
    (hv : ∃ vip, vip ≠ c.strVip ∧ Responsive os vip) :
    Fastest os (fun vip => vip ≠ c.strVip) d.strVip := by
  obtain ⟨v, hvc, ms, hv⟩ := hv
  have hle : ∀ v' ms', v' ≠ c.strVip → (v', some ms') ∈ os → d.timeMs ≤ ms' := by
    intro v' ms' hne' hm
    exact Candidate.key_le_iff.1 (hr.second_le (mem_behind hr hne' hm))
  have hd : d.timeMs < timeOut := UInt32.lt_of_le_of_lt (hle v ms hvc hv) (ht.2 v ms hv)
  have hdm := hr.mem_iff.1 (List.mem_cons_of_mem _ List.mem_cons_self)
  exact ⟨hne, _, mem_of_lt_timeOut hdm hd, hle⟩

theorem Timely.runnerUp_usable {os : List (WString × Option UInt32)} (ht : Timely os)
    (hr : Ranking Candidate.key (candidates os) (c :: t))
    (hv : ∃ vip, vip ≠ c.strVip ∧ Responsive os vip) :
    ∃ d t', t = d :: t' ∧ d.timeMs ≠ pingTimeout := by
  obtain ⟨v, hvc, ms, hv⟩ := hv
  have hm := mem_behind hr hvc hv
  cases t with
  | nil => cases hm
  | cons d t' =>
    have hle := Candidate.key_le_iff.1 (hr.second_le hm)
    have hd : d.timeMs < timeOut := UInt32.lt_of_le_of_lt hle (ht.2 v ms hv)
    exact ⟨d, t', rfl, lt_timeOut_ne hd⟩

theorem DistinctFront.second_ne {os : List (WString × Option UInt32)} (h : DistinctFront os)
    (hr : Ranking Candidate.key (candidates os) (c :: t)) (hc : c.timeMs ≠ pingTimeout) :
    secondDns info c.strVip (runnerUp t) ≠ c.strVip := by
  by_cases hu : ∀ d ∈ t.head?, d.timeMs = pingTimeout
  · have hne := h.alone c t hr hc hu
    rw [runnerUp_eq_nil hu]
    exact secondDns_ne hne hne.symm
  · cases t with
    | nil => exact absurd (fun d hd => nomatch hd) hu
    | cons d t =>
      have hd : d.timeMs ≠ pingTimeout := by
        intro he
        exact hu fun d' hd' => Option.some.inj hd' ▸ he
      have hne := (h.pair c d t hr hd).1
      rw [runnerUp_cons hd]
      by_cases hempty : c.strVip = []
      · rw [hempty] at hne ⊢
        rw [secondDns, if_neg hne]
        exact hne
      · exact secondDns_ne hempty hne

theorem DistinctFront.choosesBest {os : PingOutcomes layout m}
    (h : DistinctFront os.outcomes) : ChoosesBest os := by
  intro sorter tr rest o hrun id dns1 dns2 res hm
  obtain ⟨info, s, hsel, rfl⟩ := hrun.switched_mem hm
  obtain ⟨c, t, he, hc, rfl, rfl⟩ := selectDns_eq_ok_iff.1 hsel
  have hr : Ranking Candidate.key (candidates os.outcomes) (c :: t) := he ▸ sorter.ranking _
  apply And.intro _ (h.second_ne hr hc)
  intro ht
  apply And.intro (ht.first_fastest hr)
  intro hv
  obtain ⟨d, t', rfl, hd⟩ := ht.runnerUp_usable hr hv
  obtain ⟨hne, hempty⟩ := h.pair c d t' hr hd
  have hfast := ht.second_fastest hr hne hv
  have hd' : d.strVip ≠ [] := by
    intro he'
    obtain ⟨_, ms, hmem, _⟩ := hfast
    exact hempty he' ht ⟨ms, he' ▸ hmem⟩
  rw [runnerUp_cons hd, secondDns, if_neg hd']
  exact hfast

theorem choosesBest_iff (os : PingOutcomes layout m) :
    ChoosesBest os ↔ DistinctFront os.outcomes :=
  ⟨ChoosesBest.distinctFront, DistinctFront.choosesBest⟩

end ChoosesBest

def sharedVip : DnsMap :=
  AList.insert (wide "telecom") (AList.insert (wide "203.0.113.1") (wide "99.9%") ∅)
    (AList.insert (wide "unicom") (AList.insert (wide "203.0.113.1") (wide "99.9%")
      (AList.insert (wide "203.0.113.2") (wide "98%") ∅)) ∅)

/-- The shared vip answers fastest both times and becomes its own backup. -/
theorem not_choosesBest_shared : ¬ChoosesBest
    (⟨[(wide "203.0.113.1", some 10), (wide "203.0.113.1", some 12),
      (wide "203.0.113.2", some 30)], by decide⟩ : PingOutcomes .stored sharedVip) := by
  intro h
  have hr : Ranking Candidate.key
      (candidates [(wide "203.0.113.1", some 10), (wide "203.0.113.1", some 12),
        (wide "203.0.113.2", some 30)])
      [⟨10, wide "203.0.113.1"⟩, ⟨12, wide "203.0.113.1"⟩, ⟨30, wide "203.0.113.2"⟩] :=
    ⟨.refl _, by decide⟩
  exact (h.distinctFront.pair _ _ _ hr (by decide)).1 rfl

end LdnsSelector
