import LdnsSelector.DnsSelector

set_option autoImplicit true

namespace LdnsSelector

open Prog

abbrev fetched (m : DnsMap) (res : Result) (m' : DnsMap) : Event Services :=
  ⟨.fetchDnsInfo m, (res, m')⟩

abbrev pinged (e : WString × Option UInt32) : Event Services := ⟨.pingTime e.1, e.2⟩

abbrev listed (res : Result) (vec : List AdapterInfo) : Event Services :=
  ⟨.getAdapterList, (res, vec)⟩

abbrev switched (id : UInt32) (dns1 dns2 : WString) (res : Result) : Event Services :=
  ⟨.switchAdapterDns id dns1 dns2, res⟩

/-- `n` requests in a row that failed in the network, the last one leaving the map `m'`. -/
inductive Refusals : Nat → DnsMap → DnsMap → List (Event Services) → Prop where
  | nil (m : DnsMap) : Refusals 0 m m []
  | cons (m : DnsMap) (h : Refusals n m₁ m' tr) :
      Refusals (n + 1) m m'
        (fetched ∅ .networkInterfaceHttpRequestFail m₁ :: tr)

/-- What the retry loop can do: give up after `n` refusals, or end with another answer. -/
inductive RequestRun : Nat → List (Event Services) → Except Result (Result × DnsMap) → Prop where
  | exhausted (h : Refusals n ∅ m' tr) (hn : n ≠ 0) :
      RequestRun n tr (.ok (.networkInterfaceHttpRequestFail, m'))
  | accepted (h : Refusals k ∅ m₁ tr) (hk : k < n) :
      RequestRun n (tr ++ [fetched ∅ .success m']) (.ok (.success, m'))
  | rejected (h : Refusals k ∅ m₁ tr) (hk : k < n) (hs : res ≠ .success)
      (hh : res ≠ .networkInterfaceHttpRequestFail) :
      RequestRun n (tr ++ [fetched ∅ res m']) (.error res)

theorem Refusals.again (h : Refusals n ∅ m' tr) (m₁ : DnsMap) :
    ∃ m'', (n ≠ 0 → m'' = m') ∧
      Refusals (n + 1) ∅ m'' (fetched ∅ .networkInterfaceHttpRequestFail m₁ :: tr) := by
  cases h with
  | nil => exact ⟨m₁, fun hn => absurd rfl hn, .cons ∅ (.nil m₁)⟩
  | cons m h => exact ⟨m', fun _ => rfl, .cons ∅ (.cons m₁ h)⟩

theorem RequestRun.again (h : RequestRun n tr o) (m₁ : DnsMap) :
    RequestRun (n + 1) (fetched ∅ .networkInterfaceHttpRequestFail m₁ :: tr) o := by
  cases h with
  | exhausted h hn =>
    obtain ⟨m'', he, h'⟩ := h.again m₁
    obtain rfl := he hn
    exact .exhausted h' (Nat.succ_ne_zero _)
  | accepted h hk =>
    obtain ⟨_, _, h'⟩ := h.again m₁
    exact .accepted h' (Nat.succ_lt_succ hk)
  | rejected h hk hs hh =>
    obtain ⟨_, _, h'⟩ := h.again m₁
    exact .rejected h' (Nat.succ_lt_succ hk) hs hh

theorem requestDnsInfo_step (h : Runs (requestDnsInfo (n + 1) res m) tr o) :
    ∃ r m' tr', tr = fetched ∅ r m' :: tr' ∧
      ((r = .success ∧ tr' = [] ∧ o = .ok (.ok (r, m'))) ∨
        (r ≠ .success ∧ r ≠ .networkInterfaceHttpRequestFail ∧ tr' = [] ∧
          o = .ok (.error r)) ∨
        (r = .networkInterfaceHttpRequestFail ∧ Runs (requestDnsInfo n r m') tr' o)) := by
  obtain ⟨⟨r, m'⟩, tr', rfl, h'⟩ := runs_perform_iff.1 h
  simp only [pure_eq, ne_eq, ite_not] at h'
  refine ⟨r, m', tr', rfl, ?_⟩
  by_cases hs : r = .success
  · rw [if_pos hs] at h'
    obtain ⟨rfl, rfl⟩ := runs_ret_iff.1 h'
    exact .inl ⟨hs, rfl, rfl⟩
  · rw [if_neg hs] at h'
    by_cases hh : r = .networkInterfaceHttpRequestFail
    · rw [if_pos hh] at h'
      exact .inr (.inr ⟨hh, h'⟩)
    · rw [if_neg hh] at h'
      obtain ⟨rfl, rfl⟩ := runs_ret_iff.1 h'
      exact .inr (.inl ⟨hs, hh, rfl, rfl⟩)

theorem requestDnsInfo_runs (h : Runs (requestDnsInfo (n + 1) res m) tr o) :
    ∃ r, o = .ok r ∧ RequestRun (n + 1) tr r := by
  induction n generalizing res m tr with
  | zero =>
    obtain ⟨r, m', tr', rfl, ⟨rfl, rfl, rfl⟩ | ⟨hs, hh, rfl, rfl⟩ | ⟨rfl, h'⟩⟩ :=
      requestDnsInfo_step h
    · exact ⟨_, rfl, .accepted (.nil ∅) Nat.one_pos⟩
    · exact ⟨_, rfl, .rejected (.nil ∅) Nat.one_pos hs hh⟩
    · obtain ⟨rfl, rfl⟩ := runs_ret_iff.1 h'
      exact ⟨_, rfl, .exhausted (.cons ∅ (.nil m')) Nat.one_ne_zero⟩
  | succ n ih =>
    obtain ⟨r, m', tr', rfl, ⟨rfl, rfl, rfl⟩ | ⟨hs, hh, rfl, rfl⟩ | ⟨rfl, h'⟩⟩ :=
      requestDnsInfo_step h
    · exact ⟨_, rfl, .accepted (.nil ∅) (Nat.succ_pos _)⟩
    · exact ⟨_, rfl, .rejected (.nil ∅) (Nat.succ_pos _) hs hh⟩
    · obtain ⟨r, rfl, hr⟩ := ih h'
      exact ⟨r, rfl, hr.again m'⟩

inductive FallbackRun (m : DnsMap) : List (Event Services) → Result × DnsMap → Prop where
  | unlisted (hr : res ≠ .success) : FallbackRun m [listed res vec] (res, m)
  | noAdapter : FallbackRun m [listed .success []] (.noValidAdapterForSwitching, m)
  | unswitched (hr : res ≠ .success) :
      FallbackRun m [listed .success (info :: vec),
        switched info.id defaultDns1 defaultDns2 res] (res, m)
  | refetched :
      FallbackRun m [listed .success (info :: vec),
        switched info.id defaultDns1 defaultDns2 .success, fetched m res m'] (res, m')

theorem switchToPublicDns_runs
    (h : Runs (switchToPublicDns .networkInterfaceHttpRequestFail m) tr o) :
    ∃ r, o = .ok r ∧ FallbackRun m tr r := by
  obtain ⟨⟨res, vec⟩, tr', rfl, h'⟩ := runs_perform_iff.1 h
  simp only [pure_eq, bind_eq, ne_eq, ite_not] at h'
  by_cases hr : res = .success
  · rw [if_pos hr] at h'
    subst res
    cases vec with
    | nil =>
      obtain ⟨rfl, rfl⟩ := runs_ret_iff.1 h'
      exact ⟨_, rfl, .noAdapter⟩
    | cons info vec =>
      obtain ⟨res, tr₁, rfl, h₁⟩ := runs_perform_iff.1 h'
      by_cases hs : res = .success
      · rw [if_pos hs] at h₁
        subst res
        obtain ⟨r, tr₂, rfl, h₂⟩ := runs_call_iff.1 h₁
        obtain ⟨rfl, rfl⟩ := runs_ret_iff.1 h₂
        exact ⟨r, rfl, .refetched⟩
      · rw [if_neg hs] at h₁
        obtain ⟨rfl, rfl⟩ := runs_ret_iff.1 h₁
        exact ⟨_, rfl, .unswitched hs⟩
  · rw [if_neg hr] at h'
    obtain ⟨rfl, rfl⟩ := runs_ret_iff.1 h'
    exact ⟨_, rfl, .unlisted hr⟩

inductive ObtainRun : List (Event Services) → Except Result DnsMap → Prop where
  | accepted (h : Refusals k ∅ m₁ tr) (hk : k < networkInterfaceRequestMaxTime) :
      ObtainRun (tr ++ [fetched ∅ .success m]) (.ok m)
  | rejected (h : Refusals k ∅ m₁ tr) (hk : k < networkInterfaceRequestMaxTime)
      (hs : res ≠ .success) (hh : res ≠ .networkInterfaceHttpRequestFail) :
      ObtainRun (tr ++ [fetched ∅ res m]) (.error res)
  | fellBack (h : Refusals networkInterfaceRequestMaxTime ∅ m₁ tr)
      (hf : FallbackRun m₁ tr' (.success, m)) : ObtainRun (tr ++ tr') (.ok m)
  | failed (h : Refusals networkInterfaceRequestMaxTime ∅ m₁ tr)
      (hf : FallbackRun m₁ tr' (res, m)) (hr : res ≠ .success) :
      ObtainRun (tr ++ tr') (.error res)

theorem obtainDnsInfo_runs (h : Runs obtainDnsInfo tr o) : ∃ r, o = .ok r ∧ ObtainRun tr r := by
  rcases Runs.bind_inv h with ⟨e, rfl, h₁⟩ | ⟨r, tr₁, tr₂, rfl, h₁, h₂⟩
  · obtain ⟨_, he, _⟩ := requestDnsInfo_runs h₁
    cases he
  · obtain ⟨_, he, hr⟩ := requestDnsInfo_runs h₁
    cases he
    cases hr with
    | exhausted hr hn =>
      rcases Runs.bind_inv h₂ with ⟨e, rfl, h₃⟩ | ⟨⟨res, m⟩, tr₃, tr₄, rfl, h₃, h₄⟩
      · obtain ⟨_, he, _⟩ := switchToPublicDns_runs h₃
        cases he
      · obtain ⟨_, he, hf⟩ := switchToPublicDns_runs h₃
        cases he
        by_cases hs : res = .success
        · subst res
          obtain ⟨rfl, rfl⟩ := runs_ret_iff.1 h₄
          rw [List.append_nil]
          exact ⟨_, rfl, .fellBack hr hf⟩
        · simp only [ne_eq, hs, not_false_eq_true, if_true] at h₄
          obtain ⟨rfl, rfl⟩ := runs_ret_iff.1 h₄
          rw [List.append_nil]
          exact ⟨_, rfl, .failed hr hf hs⟩
    | accepted hr hk =>
      obtain ⟨rfl, rfl⟩ := runs_ret_iff.1 h₂
      rw [List.append_nil]
      exact ⟨_, rfl, .accepted hr hk⟩
    | rejected hr hk hs hh =>
      obtain ⟨rfl, rfl⟩ := runs_ret_iff.1 h₂
      rw [List.append_nil]
      exact ⟨_, rfl, .rejected hr hk hs hh⟩

/-- The vips of a list, in the order a run pings them. -/
def listedVips (layout : Layout) (m : DnsMap) : List WString :=
  (layout.walk m).flatMap fun view => (layout.walk view.2).map Prod.fst

def candidates (os : List (WString × Option UInt32)) : List Candidate :=
  os.map fun e => candidateOf e.1 e.2

theorem pingView_runs_iff :
    Runs (pingView items vec) tr o ↔ ∃ os, os.map Prod.fst = items.map Prod.fst ∧
      tr = os.map pinged ∧ o = .ok (vec ++ candidates os) := by
  induction items generalizing vec tr with
  | nil =>
    apply runs_ret_iff.trans
    apply Iff.intro
    · intro ⟨htr, ho⟩
      exact ⟨[], rfl, htr, by simpa [candidates] using ho⟩
    · intro ⟨os, hos, htr, ho⟩
      obtain rfl := List.map_eq_nil_iff.1 hos
      exact ⟨htr, by simpa [candidates] using ho⟩
  | cons item items ih =>
    apply runs_perform_iff.trans
    apply Iff.intro
    · intro ⟨x, tr', htr, h⟩
      obtain ⟨os, hos, rfl, rfl⟩ := ih.1 h
      refine ⟨(item.1, x) :: os, ?_, htr, ?_⟩
      · rw [List.map_cons, List.map_cons, hos]
      · simp [candidates]
    · intro ⟨os, hos, htr, ho⟩
      obtain ⟨e, os, rfl, he, hos'⟩ := List.map_eq_cons_iff.1 hos
      cases e
      subst he
      refine ⟨_, os.map pinged, htr, ih.2 ⟨os, hos', rfl, ?_⟩⟩
      rw [ho]
      simp [candidates]

theorem pingViews_runs_iff :
    Runs (pingViews layout views vec) tr o ↔
      ∃ os, os.map Prod.fst = (views.flatMap fun view => (layout.walk view.2).map Prod.fst) ∧
        tr = os.map pinged ∧ o = .ok (vec ++ candidates os) := by
  induction views generalizing vec tr with
  | nil =>
    change Runs (pingView [] vec) tr o ↔ _
    exact pingView_runs_iff
  | cons view views ih =>
    apply Iff.intro
    · intro h
      rcases Runs.bind_inv h with ⟨e, _, h₁⟩ | ⟨a, tr₁, tr₂, rfl, h₁, h₂⟩
      · obtain ⟨_, _, _, he⟩ := pingView_runs_iff.1 h₁
        cases he
      · obtain ⟨os₁, hos₁, rfl, ha⟩ := pingView_runs_iff.1 h₁
        cases ha
        obtain ⟨os₂, hos₂, rfl, rfl⟩ := ih.1 h₂
        refine ⟨os₁ ++ os₂, ?_, (List.map_append ..).symm, ?_⟩
        · rw [List.map_append, hos₁, hos₂, List.flatMap_cons]
        · simp [candidates]
    · intro ⟨os, hos, htr, ho⟩
      rw [List.flatMap_cons] at hos
      obtain ⟨os₁, os₂, rfl, hos₁, hos₂⟩ := List.map_eq_append_iff.1 hos
      rw [htr, List.map_append]
      refine Runs.bind (pingView_runs_iff.2 ⟨os₁, hos₁, rfl, rfl⟩)
        (ih.2 ⟨os₂, hos₂, rfl, ?_⟩)
      rw [ho]
      simp [candidates]

inductive SwitchRun (dns1 dns2 : WString) : List (Event Services) → Result → Prop where
  | unlisted (hr : res ≠ .success) : SwitchRun dns1 dns2 [listed res vec] res
  | noAdapter : SwitchRun dns1 dns2 [listed .success []] .noValidAdapterForSwitching
  | switched : SwitchRun dns1 dns2 [listed .success (info :: vec),
      switched info.id dns1 (secondDns info dns1 dns2) res] res

theorem switchFirstAdapter_runs (h : Runs (switchFirstAdapter dns1 dns2) tr o) :
    ∃ res, o = .ok res ∧ SwitchRun dns1 dns2 tr res := by
  obtain ⟨⟨res, vec⟩, tr', rfl, h'⟩ := runs_perform_iff.1 h
  simp only [pure_eq, ne_eq, ite_not] at h'
  by_cases hr : res = .success
  · rw [if_pos hr] at h'
    subst res
    cases vec with
    | nil =>
      obtain ⟨rfl, rfl⟩ := runs_ret_iff.1 h'
      exact ⟨_, rfl, .noAdapter⟩
    | cons info vec =>
      obtain ⟨res, tr₁, rfl, h₁⟩ := runs_call_iff.1 h'
      obtain ⟨rfl, rfl⟩ := runs_ret_iff.1 h₁
      exact ⟨res, rfl, .switched⟩
  · rw [if_neg hr] at h'
    obtain ⟨rfl, rfl⟩ := runs_ret_iff.1 h'
    exact ⟨res, rfl, .unlisted hr⟩

theorem SwitchRun.runs (h : SwitchRun dns1 dns2 tr res) :
    Runs (switchFirstAdapter dns1 dns2) tr (.ok res) := by
  cases h with
  | unlisted hr =>
    refine runs_perform_iff.2 ⟨(_, _), [], rfl, ?_⟩
    simp only [if_pos hr]
    exact .ret _
  | noAdapter => exact runs_perform_iff.2 ⟨(_, _), [], rfl, .ret _⟩
  | switched =>
    exact runs_perform_iff.2 ⟨(_, _), _, rfl, runs_call_iff.2 ⟨_, [], rfl, .ret _⟩⟩

inductive FinalRun : List Candidate → List (Event Services) → Result → Prop where
  | noValidDns (h : selectDns vec = .error res) : FinalRun vec [] res
  | chosen (h : selectDns vec = .ok (dns1, dns2)) (hs : SwitchRun dns1 dns2 tr res) :
      FinalRun vec tr res

theorem switchToBestDns_runs_iff :
    Runs (switchToBestDns layout sorter m) tr o ↔
      ∃ os rest res, os.map Prod.fst = listedVips layout m ∧ tr = os.map pinged ++ rest ∧
        o = .ok res ∧ FinalRun (sorter.sort (candidates os)) rest res := by
  apply Iff.intro
  · intro h
    rcases Runs.bind_inv h with ⟨e, _, h₁⟩ | ⟨a, tr₁, tr₂, rfl, h₁, h₂⟩
    · obtain ⟨_, _, _, he⟩ := pingViews_runs_iff.1 h₁
      cases he
    · obtain ⟨os, hos, rfl, ha⟩ := pingViews_runs_iff.1 h₁
      cases ha
      cases hsel : selectDns (sorter.sort (candidates os)) with
      | error res =>
        simp only [List.nil_append, hsel] at h₂
        obtain ⟨rfl, rfl⟩ := runs_ret_iff.1 h₂
        exact ⟨os, [], res, hos, rfl, rfl, .noValidDns hsel⟩
      | ok dns =>
        simp only [List.nil_append, hsel] at h₂
        obtain ⟨res, rfl, hs⟩ := switchFirstAdapter_runs h₂
        exact ⟨os, tr₂, res, hos, rfl, rfl, .chosen hsel hs⟩
  · intro ⟨os, rest, res, hos, htr, ho, hf⟩
    subst htr ho
    apply Runs.bind (pingViews_runs_iff.2 ⟨os, hos, rfl, rfl⟩)
    rw [List.nil_append]
    cases hf with
    | noValidDns h =>
      rw [h]
      exact .ret res
    | chosen h hs =>
      rw [h]
      exact hs.runs

inductive AutoSelectRun (layout : Layout) (sorter : StdSort Candidate.key) :
    List (Event Services) → Result → Prop where
  | unobtained (h : ObtainRun tr (.error res)) : AutoSelectRun layout sorter tr res
  | obtained {os : List (WString × Option UInt32)} (h : ObtainRun tr (.ok m))
      (hos : os.map Prod.fst = listedVips layout m)
      (hf : FinalRun (sorter.sort (candidates os)) rest res) :
      AutoSelectRun layout sorter (tr ++ os.map pinged ++ rest) res

theorem autoSelectDns_runs (h : Runs (autoSelectDns layout sorter) tr o) :
    ∃ res, o = .ok res ∧ AutoSelectRun layout sorter tr res := by
  rcases Runs.bind_inv h with ⟨e, rfl, h₁⟩ | ⟨r, tr₁, tr₂, rfl, h₁, h₂⟩
  · obtain ⟨_, he, _⟩ := obtainDnsInfo_runs h₁
    cases he
  · obtain ⟨_, he, hr⟩ := obtainDnsInfo_runs h₁
    cases he
    cases r with
    | error res =>
      obtain ⟨rfl, rfl⟩ := runs_ret_iff.1 h₂
      rw [List.append_nil]
      exact ⟨res, rfl, .unobtained hr⟩
    | ok m =>
      obtain ⟨os, rest, res, hos, rfl, rfl, hf⟩ := switchToBestDns_runs_iff.1 h₂
      rw [← List.append_assoc]
      exact ⟨res, rfl, .obtained hr hos hf⟩

/-- The outcomes of the pings a run makes over the list `m`, in order. -/
structure PingOutcomes (layout : Layout) (m : DnsMap) where
  outcomes : List (WString × Option UInt32)
  asked : outcomes.map Prod.fst = listedVips layout m

/-- A run of `auto_select_dns` that obtained the list `m` by the events `tr`, saw the ping
outcomes `os` and went on with the events `rest`. -/
structure SelectionRun (layout : Layout) (sorter : StdSort Candidate.key) {m : DnsMap}
    (os : PingOutcomes layout m) (tr rest : List (Event Services))
    (o : Except CppException Result) : Prop where
  obtained : Runs obtainDnsInfo tr (.ok (.ok m))
  selected : Runs (autoSelectDns layout sorter) (tr ++ (os.outcomes.map pinged ++ rest)) o

theorem pinged_append_cancel {os os' : List (WString × Option UInt32)}
    (h : os.map pinged ++ rest = os'.map pinged ++ rest')
    (hos : os.map Prod.fst = os'.map Prod.fst) : os = os' ∧ rest = rest' := by
  have hl : (os.map pinged).length = (os'.map pinged).length := by
    have := congrArg List.length hos
    simpa using this
  obtain ⟨hp, hr⟩ := List.append_inj h hl
  refine ⟨List.map_injective_iff.2 ?_ hp, hr⟩
  intro a b hab
  cases a
  cases b
  cases hab
  rfl

theorem SelectionRun.final {os : PingOutcomes layout m}
    (h : SelectionRun layout sorter os tr rest o) :
    ∃ res, o = .ok res ∧ FinalRun (sorter.sort (candidates os.outcomes)) rest res := by
  have h₁ := Runs.bind_split h.obtained h.selected
  obtain ⟨os', rest', res, hos, he, rfl, hf⟩ := switchToBestDns_runs_iff.1 h₁
  obtain ⟨rfl, rfl⟩ := pinged_append_cancel he (os.asked.trans hos.symm)
  exact ⟨res, rfl, hf⟩

theorem FinalRun.selectionRun {os : PingOutcomes layout m}
    (hf : FinalRun (sorter.sort (candidates os.outcomes)) rest res)
    (ho : Runs obtainDnsInfo tr (.ok (.ok m))) :
    SelectionRun layout sorter os tr rest (.ok res) where
  obtained := ho
  selected :=
    ho.bind (switchToBestDns_runs_iff.2 ⟨os.outcomes, rest, res, os.asked, rfl, rfl, hf⟩)

theorem SelectionRun.switched_mem {os : PingOutcomes layout m}
    {id : UInt32} (h : SelectionRun layout sorter os tr rest o)
    (hm : switched id dns1 dns2 res ∈ rest) :
    ∃ info s, selectDns (sorter.sort (candidates os.outcomes)) = .ok (dns1, s) ∧
      dns2 = secondDns info dns1 s := by
  obtain ⟨res', _, hf⟩ := h.final
  cases hf with
  | noValidDns _ => cases hm
  | chosen hsel hs =>
    cases hs with
    | unlisted _ => simp at hm
    | noAdapter => simp at hm
    | switched =>
      rcases List.mem_cons.1 hm with he | hm
      · cases he
      · cases List.mem_singleton.1 hm
        exact ⟨_, _, hsel, rfl⟩

theorem obtainDnsInfo_accepts (m : DnsMap) :
    Runs obtainDnsInfo [fetched ∅ .success m] (.ok (.ok m)) :=
  runs_call_iff.2 ⟨(_, _), [], rfl, .ret _⟩

theorem selectionRun_of_select (os : PingOutcomes layout m) (info : AdapterInfo)
    (h : selectDns (sorter.sort (candidates os.outcomes)) = .ok (dns1, s)) :
    SelectionRun layout sorter os [fetched ∅ .success m]
      [listed .success [info], switched info.id dns1 (secondDns info dns1 s) .success]
      (.ok .success) :=
  (FinalRun.chosen h .switched).selectionRun (obtainDnsInfo_accepts m)

end LdnsSelector
