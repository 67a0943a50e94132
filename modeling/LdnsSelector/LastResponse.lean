import LdnsSelector.AdapterEffects
import LdnsSelector.ServiceRuns
import LdnsSelector.SwitchAddresses

set_option autoImplicit true

namespace LdnsSelector

open Prog

def pingAnswer? : Event Platform → Option (WString × Option UInt32)
  | ⟨.ping strDnsIp, answer⟩ => some (strDnsIp, answer)
  | _ => none

def pingAnswers (low : List (Event Platform)) : List (WString × Option UInt32) :=
  low.filterMap pingAnswer?

def NoPing (c : ServiceCall) : Prop := ∀ strIp, c ≠ .pingTime strIp

def NoFetch (c : ServiceCall) : Prop := ∀ m, c ≠ .fetchDnsInfo m

/-- The run of `low` splits at its last response. Only failed requests stand before it, and all
that is pinged or selected after it is in the map `m` that it parses to. -/
structure LastResponse (layout : Layout) (s : UInt32) (resp : JsonValue) (m : DnsMap)
    (pre post : List (Event Platform)) : Prop where
  refused : ∀ outcome, requested outcome ∈ pre → Refused outcome
  unpinged : pingAnswers pre = []
  last : ∀ outcome, requested outcome ∉ post
  parsed : ∃ s', parseRespond resp ⟨∅, s⟩ = .ok .success ⟨m, s'⟩
  pinged : (pingAnswers post).map Prod.fst = listedVips layout m
  selected : ∀ index dns1 dns2 res, dnsSet index dns1 dns2 res ∈ post →
    dns1 ∈ listedVips layout m ∧ (dns2 ∈ listedVips layout m ∨ ∃ recs counters r,
      enumerated .success recs ∈ post ∧ measured .success counters ∈ post ∧ r ∈ recs ∧
        dns2 = backupDns (adapterInfoOf counters r) dns1)

section Services

variable {sorter : StdSort AdapterInfo.key} {m m' : DnsMap} {s s' : UInt32}

theorem obtainDnsInfo_within : Within NoPing E obtainDnsInfo := by
  have hfetch (m : DnsMap) :
      Within NoPing E (fetchDnsInfo m) := .perform nofun
  have hend {α : Type} (a : α) :
      Within NoPing E (.ret a : Selector α) := trivial
  have hrequest (n : Nat) (res : Result) (m : DnsMap) :
      Within NoPing E (requestDnsInfo n res m) := by
    induction n generalizing res m with
    | zero => exact trivial
    | succ n ih =>
      apply (hfetch ∅).bind
      intro (res, m)
      exact .ite (fun _ => hend _) fun _ => .ite (fun _ => hend _) fun _ => ih res m
  have hfallback (res : Result) (m : DnsMap) :
      Within NoPing E (switchToPublicDns res m) := by
    apply Within.ite fun _ => hend _
    intro _
    apply Within.bind (p := getAdapterList) (.perform nofun)
    intro (res, vec)
    apply Within.ite fun _ => hend _
    intro _
    cases vec with
    | nil => exact hend _
    | cons info vec =>
      apply Within.bind (p := switchAdapterDns info.id defaultDns1 defaultDns2) (.perform nofun)
      intro res
      exact .ite (fun _ => hend _) fun _ => hfetch m
  apply (hrequest _ _ _).bind
  intro r
  cases r with
  | error res => exact hend _
  | ok x =>
    apply Within.ite fun _ => hend _
    intro _
    apply (hfallback _ _).bind
    intro (res, m)
    exact .ite (fun _ => hend _) fun _ => hend _

theorem switchToBestDns_within :
    Within NoFetch E (switchToBestDns layout csorter m) := by
  have hend {α : Type} (a : α) :
      Within NoFetch E (.ret a : Selector α) := trivial
  have hview (items : List (WString × WString)) (vec : List Candidate) :
      Within NoFetch E (pingView items vec) := by
    induction items generalizing vec with
    | nil => exact hend _
    | cons item items ih =>
      apply Within.bind (p := pingTime item.1) (.perform nofun)
      intro answer
      exact ih _
  have hviews (views : List (WString × VipMap)) (vec : List Candidate) :
      Within NoFetch E (pingViews layout views vec) := by
    induction views generalizing vec with
    | nil => exact hend _
    | cons view views ih => exact (hview _ _).bind fun vec => ih vec
  apply (hviews _ _).bind
  intro vec
  cases hsel : selectDns (csorter.sort vec) with
  | error res => exact hend _
  | ok dns =>
    apply Within.bind (p := getAdapterList) (.perform nofun)
    intro (res, vec)
    apply Within.ite fun _ => hend _
    intro _
    cases vec with
    | nil => exact hend _
    | cons info vec => exact .perform nofun

end Services

abbrev answered (e : WString × Option UInt32) : Event Platform := ⟨.ping e.1, e.2⟩

section Served

variable {sorter : StdSort AdapterInfo.key} {tr : List (Event Services)} {m m' : DnsMap}
  {id s s' : UInt32} {os : List (WString × Option UInt32)}

theorem Served.asked {ev : Event Platform} (h : Served (serve sorter) tr s low s')
    (hm : ev ∈ low) : ∃ c x, ⟨c, x⟩ ∈ tr ∧ Asks c ev.1 := by
  obtain ⟨c, x, s₁, low₁, s₂, htr, hr, hev⟩ := h.mem hm
  exact ⟨c, x, htr, (serve_within sorter c s₁).events hr ev hev⟩

theorem served_pings (h : Served (serve sorter) (os.map pinged) s low s') :
    low = os.map answered := by
  induction os generalizing s low with
  | nil =>
    cases h
    rfl
  | cons e os ih =>
    obtain ⟨low₁, low₂, s₁, rfl, h₁, h₂⟩ := Served.cons_inv h
    obtain ⟨x, low₃, rfl, h₃⟩ := runs_perform_iff.1 h₁
    obtain ⟨rfl, ho⟩ := runs_ret_iff.1 h₃
    cases ho
    exact congrArg (answered e :: ·) (ih h₂)

theorem pingAnswers_answered (os : List (WString × Option UInt32)) :
    pingAnswers (os.map answered) = os := by
  induction os with
  | nil => rfl
  | cons e os ih => exact congrArg (e :: ·) ih

theorem pingAnswers_append (low low' : List (Event Platform)) :
    pingAnswers (low ++ low') = pingAnswers low ++ pingAnswers low' :=
  List.filterMap_append

theorem pingAnswers_eq_nil {low : List (Event Platform)}
    (h : ∀ ev ∈ low, ∀ ip, ev.1 ≠ .ping ip) : pingAnswers low = [] := by
  apply List.filterMap_eq_nil_iff.2
  intro ev hev
  obtain ⟨c, x⟩ := ev
  cases c with
  | ping ip => exact absurd rfl (h _ hev ip)
  | _ => rfl

theorem Refusals.served (h : Refusals n m m' tr) (hs : Served (serve sorter) tr s low s')
    (hm : m = ∅) : m' = ∅ ∧ s' = s ∧
      ∃ outs : List HttpOutcome, low = outs.map requested ∧ ∀ x ∈ outs, Refused x := by
  induction h generalizing s low with
  | nil m =>
    cases hs
    exact ⟨hm, rfl, [], rfl, fun x hx => absurd hx List.not_mem_nil⟩
  | cons m h ih =>
    obtain ⟨low₁, low₂, s₁, rfl, h₁, h₂⟩ := Served.cons_inv hs
    obtain ⟨outcome, rfl, hf⟩ := serve_fetch h₁
    obtain ⟨hr, he⟩ := fetch_fail (hf _ _ _ rfl)
    cases he
    obtain ⟨hm', rfl, outs, rfl, hall⟩ := ih h₂ rfl
    refine ⟨hm', rfl, outcome :: outs, rfl, ?_⟩
    intro x hx
    rcases List.mem_cons.1 hx with rfl | hx
    · exact hr
    · exact hall x hx

theorem requested_mem_iff {outs : List HttpOutcome} :
    requested outcome ∈ outs.map requested ↔ outcome ∈ outs := by
  apply Iff.intro
  · intro hm
    obtain ⟨x, hx, he⟩ := List.mem_map.1 hm
    cases he
    exact hx
  · exact List.mem_map_of_mem

/-- The list of a run is what its last response parses to, from an empty map. -/
theorem ObtainRun.served (h : ObtainRun tr (.ok m)) (hs : Served (serve sorter) tr s low s') :
    ∃ pre resp, low = pre ++ [requested (.response 200 (.ok resp))] ∧
      (∀ outcome, requested outcome ∈ pre → Refused outcome) ∧
      parseRespond resp ⟨∅, s⟩ = .ok .success ⟨m, s'⟩ := by
  cases h with
  | accepted h hk =>
    obtain ⟨low₁, low₂, s₁, rfl, h₁, h₂⟩ := Served.append_inv hs
    obtain ⟨_, rfl, outs, rfl, hall⟩ := h.served h₁ rfl
    obtain ⟨low₃, low₄, s₂, rfl, h₃, h₄⟩ := Served.cons_inv h₂
    cases h₄
    obtain ⟨outcome, rfl, hf⟩ := serve_fetch h₃
    obtain ⟨resp, rfl, hp⟩ := fetch_success (hf _ _ _ rfl)
    exact ⟨_, resp, rfl, fun _ hm => hall _ (requested_mem_iff.1 hm), hp⟩
  | fellBack h hf =>
    obtain ⟨low₁, low₂, s₁, rfl, h₁, h₂⟩ := Served.append_inv hs
    obtain ⟨rfl, rfl, outs, rfl, hall⟩ := h.served h₁ rfl
    cases hf with
    | unlisted hr => exact absurd rfl hr
    | unswitched hr => exact absurd rfl hr
    | refetched =>
      obtain ⟨low₃, low₄, s₂, rfl, h₃, h₄⟩ := Served.cons_inv h₂
      obtain ⟨rfl, recs, counters, rfl, _⟩ := serve_listed h₃
      obtain ⟨low₅, low₆, s₃, rfl, h₅, h₆⟩ := Served.cons_inv h₄
      obtain ⟨low₇, low₈, s₄, rfl, h₇, h₈⟩ := Served.cons_inv h₆
      cases h₈
      obtain ⟨_, ho, hset⟩ := serve_switch_iff.1 h₅
      cases ho
      obtain ⟨outcome, rfl, hfetch⟩ := serve_fetch h₇
      obtain ⟨resp, rfl, hp⟩ := fetch_success (hfetch _ _ _ rfl)
      refine ⟨outs.map requested ++ ([enumerated .success recs, measured .success counters] ++
        low₅), resp, by simp, ?_, hp⟩
      intro outcome hm
      rcases List.mem_append.1 hm with hm | hm
      · exact hall _ (requested_mem_iff.1 hm)
      · cases hset with
        | set h₁ h₂ => simp at hm

theorem FinalRun.served {vec : List Candidate} (h : FinalRun vec tr res)
    (hs : Served (serve sorter) tr s low s') (hm : dnsSet index dns1 dns2 res' ∈ low) :
    ∃ recs counters info vec' next, selectDns vec = .ok (dns1, next) ∧
      low = [enumerated .success recs, measured .success counters, dnsSet index dns1 dns2 res'] ∧
      info :: vec' = sorter.sort (recs.map (adapterInfoOf counters)) ∧
      index = loword info.id ∧ dns2 = secondDns info dns1 next ∧ res = res' := by
  cases h with
  | noValidDns h =>
    cases hs
    cases hm
  | chosen hsel h =>
    cases h with
    | unlisted hr =>
      obtain ⟨c, x, htr, hask⟩ := Served.asked hs hm
      cases List.mem_singleton.1 htr
      obtain ⟨_, he, _⟩ := hask.askedBy
      cases he
    | noAdapter =>
      obtain ⟨c, x, htr, hask⟩ := Served.asked hs hm
      cases List.mem_singleton.1 htr
      obtain ⟨_, he, _⟩ := hask.askedBy
      cases he
    | switched =>
      obtain ⟨low₁, low₂, s₁, rfl, h₁, h₂⟩ := Served.cons_inv hs
      obtain ⟨rfl, recs, counters, rfl, hvec⟩ := serve_listed h₁
      obtain ⟨low₃, low₄, s₂, rfl, h₃, h₄⟩ := Served.cons_inv h₂
      cases h₄
      obtain ⟨_, ho, hset⟩ := serve_switch_iff.1 h₃
      cases ho
      cases hset with
      | invalid => simp at hm
      | set h₁ h₂ res =>
        simp only [List.append_nil, List.mem_append, List.mem_cons, List.not_mem_nil,
          or_false] at hm
        rcases hm with (hm | hm) | hm
        · cases hm
        · cases hm
        · cases hm
          exact ⟨recs, counters, _, _, _, hsel, rfl, hvec, rfl, rfl, rfl⟩

theorem FinalRun.noPing {vec : List Candidate} (h : FinalRun vec tr res) :
    ∀ ev ∈ tr, NoPing ev.1 := by
  have hlisted (res : Result) (vec : List AdapterInfo) : NoPing (listed res vec).1 := nofun
  cases h with
  | noValidDns h => exact fun ev hev => absurd hev List.not_mem_nil
  | chosen hsel h =>
    intro ev hev
    cases h with
    | unlisted hr =>
      rw [List.mem_singleton.1 hev]
      exact hlisted _ _
    | noAdapter =>
      rw [List.mem_singleton.1 hev]
      exact hlisted _ _
    | switched =>
      rcases List.mem_cons.1 hev with rfl | hev
      · exact hlisted _ _
      · rw [List.mem_singleton.1 hev]
        exact nofun

theorem selectDns_mem {os : List (WString × Option UInt32)} {csorter : StdSort Candidate.key}
    (h : selectDns (csorter.sort (candidates os)) = .ok (dns1, next)) :
    dns1 ∈ os.map Prod.fst ∧ (next ≠ [] → next ∈ os.map Prod.fst) := by
  have hmem : ∀ c ∈ csorter.sort (candidates os), c.strVip ∈ os.map Prod.fst := by
    intro c hc
    have hc' := (csorter.ranking _).mem_iff.1 hc
    obtain ⟨e, he, rfl⟩ := List.mem_map.1 hc'
    obtain ⟨vip, x⟩ := e
    cases x with
    | none => exact List.mem_map_of_mem he
    | some timeMs => exact List.mem_map_of_mem he
  obtain ⟨c, t, hsort, _, rfl, rfl⟩ := selectDns_eq_ok_iff.1 h
  rw [hsort] at hmem
  apply And.intro (hmem c List.mem_cons_self)
  intro hne
  cases t with
  | nil => exact absurd rfl hne
  | cons d t =>
    by_cases hd : d.timeMs ≠ pingTimeout
    · rw [runnerUp_cons hd]
      exact hmem d (List.mem_cons_of_mem _ List.mem_cons_self)
    · exact absurd (if_neg hd) hne

theorem FinalRun.selects {os : List (WString × Option UInt32)} {csorter : StdSort Candidate.key}
    (h : FinalRun (csorter.sort (candidates os)) tr res)
    (hs : Served (serve sorter) tr s low s') (hm : dnsSet index dns1 dns2 res' ∈ low) :
    dns1 ∈ os.map Prod.fst ∧ (dns2 ∈ os.map Prod.fst ∨ ∃ recs counters r,
      enumerated .success recs ∈ os.map answered ++ low ∧
        measured .success counters ∈ os.map answered ++ low ∧ r ∈ recs ∧
        dns2 = backupDns (adapterInfoOf counters r) dns1) := by
  obtain ⟨recs, counters, info, vec', next, hsel, rfl, hvec, _, rfl, _⟩ := h.served hs hm
  obtain ⟨h₁, h₂⟩ := selectDns_mem hsel
  apply And.intro h₁
  by_cases hn : next = []
  · have hinfo : info ∈ recs.map (adapterInfoOf counters) := by
      rw [← (sorter.ranking _).mem_iff, ← hvec]
      exact List.mem_cons_self
    obtain ⟨r, hr, rfl⟩ := List.mem_map.1 hinfo
    refine .inr ⟨recs, counters, r, ?_, ?_, hr, if_pos hn⟩
    · exact List.mem_append_right _ List.mem_cons_self
    · exact List.mem_append_right _ (List.mem_cons_of_mem _ List.mem_cons_self)
  · rw [secondDns, if_neg hn]
    exact .inl (h₂ hn)

theorem dnsSet_mem_answered {os : List (WString × Option UInt32)}
    (hm : dnsSet index dns1 dns2 res ∈ os.map answered ++ low) :
    dnsSet index dns1 dns2 res ∈ low := by
  rcases List.mem_append.1 hm with hm | hm
  · obtain ⟨e, _, he⟩ := List.mem_map.1 hm
    cases he
  · exact hm

end Served

section Runs

variable {sorter : StdSort AdapterInfo.key} {csorter : StdSort Candidate.key} {layout : Layout}
  {m : DnsMap} {s s' : UInt32}

theorem obtainDnsInfo_unpinged (h : Runs (onMachine sorter obtainDnsInfo s) low o) :
    pingAnswers low = [] := by
  have hwithin : Within (fun c => ∀ ip, c ≠ PlatformCall.ping ip) (fun _ => True)
      (onMachine sorter obtainDnsInfo s) := by
    apply obtainDnsInfo_within.interp
    intro c s hc
    apply (serve_within sorter c s).mono
    · intro c' hask ip he
      rw [he] at hask
      exact hc ip hask.askedBy
    · exact fun _ _ => trivial
  exact pingAnswers_eq_nil (hwithin.events h)

theorem switchToBestDns_unrequested
    (h : Runs (onMachine sorter (switchToBestDns layout csorter m) s) low o) :
    (∀ outcome, requested outcome ∉ low) ∧ ∃ answer, o = .ok answer := by
  have hwithin : Within (fun c => c ≠ PlatformCall.request) (fun _ => False)
      (onMachine sorter (switchToBestDns layout csorter m) s) := by
    apply switchToBestDns_within.interp
    intro c s hc
    apply (serve_within sorter c s).mono
    · intro c' hask he
      rw [he] at hask
      obtain ⟨m, hm⟩ := hask.askedBy
      exact hc m hm
    · intro _ hx
      obtain ⟨m, he⟩ := hx
      exact hc m he
  apply And.intro
  · intro outcome hm
    exact hwithin.events h _ hm rfl
  · cases o with
    | ok answer => exact ⟨answer, rfl⟩
    | error e => exact (hwithin.crashes h).elim

theorem switchToBestDns_machine
    (h : Runs (onMachine sorter (switchToBestDns layout csorter m) s) low (.ok (res, s'))) :
    ∃ os rest, low = os.map answered ++ rest ∧ os.map Prod.fst = listedVips layout m ∧
      pingAnswers rest = [] ∧ ∃ tr s₁, Served (serve sorter) tr s₁ rest s' ∧
        FinalRun (csorter.sort (candidates os)) tr res := by
  obtain ⟨tr, hr, hs⟩ := Runs.served h
  obtain ⟨os, tr', res', hos, rfl, ho, hf⟩ := switchToBestDns_runs_iff.1 hr
  cases ho
  obtain ⟨low₁, low₂, s₁, rfl, h₁, h₂⟩ := Served.append_inv hs
  obtain rfl := served_pings h₁
  refine ⟨os, low₂, rfl, hos, ?_, tr', s₁, h₂, hf⟩
  apply pingAnswers_eq_nil
  intro ev hev ip he
  obtain ⟨c, x, htr, hask⟩ := Served.asked h₂ hev
  rw [he] at hask
  exact hf.noPing _ htr ip hask.askedBy

/-- A run that pings or succeeds has obtained a list, and the second half starts from it. -/
theorem autoSelectDns_halves
    (h : Runs (onMachine sorter (autoSelectDns layout csorter) s) low o) :
    (pingAnswers low = [] ∧ ∀ s', o ≠ .ok (.success, s')) ∨
      ∃ m s₁ tr low₁ low₂, low = low₁ ++ low₂ ∧ pingAnswers low₁ = [] ∧ ObtainRun tr (.ok m) ∧
        Served (serve sorter) tr s low₁ s₁ ∧
        Runs (onMachine sorter (switchToBestDns layout csorter m) s₁) low₂ o := by
  change Runs (Prog.interp _ (Prog.bind obtainDnsInfo _) s) low o at h
  rw [interp_bind] at h
  rcases h.bind_inv with ⟨e, rfl, h₁⟩ | ⟨⟨r, s₁⟩, low₁, low₂, rfl, h₁, h₂⟩
  · exact .inl ⟨obtainDnsInfo_unpinged h₁, nofun⟩
  · have hquiet := obtainDnsInfo_unpinged h₁
    obtain ⟨tr, hr, hs⟩ := Runs.served h₁
    obtain ⟨_, he, hobtain⟩ := obtainDnsInfo_runs hr
    cases he
    cases r with
    | error res =>
      left
      obtain ⟨rfl, rfl⟩ := runs_ret_iff.1 h₂
      rw [List.append_nil]
      apply And.intro hquiet
      intro s' ho
      cases ho
      exact hobtain.error_ne rfl
    | ok m => exact .inr ⟨m, s₁, tr, low₁, low₂, rfl, hquiet, hobtain, hs, h₂⟩

/-- A run that pings got its list from its last response alone. -/
theorem autoSelectDns_lastResponse (layout : Layout) (csorter : StdSort Candidate.key)
    (sorter : StdSort AdapterInfo.key)
    (h : Runs (onMachine sorter (autoSelectDns layout csorter) s) low o)
    (hping : pingAnswers low ≠ []) :
    ∃ pre resp post m, low = pre ++ requested (.response 200 (.ok resp)) :: post ∧
      LastResponse layout s resp m pre post := by
  rcases autoSelectDns_halves h with
    ⟨hquiet, _⟩ | ⟨m, s₁, tr, low₁, low₂, rfl, hquiet, hobtain, hs, h₂⟩
  · exact absurd hquiet hping
  · obtain ⟨hrequests, answer, rfl⟩ := switchToBestDns_unrequested h₂
    obtain ⟨pre, resp, rfl, hrefused, hparsed⟩ := hobtain.served hs
    obtain ⟨os, rest, rfl, hos, hrest, tr', s₂, hs', hf⟩ := switchToBestDns_machine h₂
    refine ⟨pre, resp, _, m, by simp, hrefused, ?_, hrequests, ⟨s₁, hparsed⟩, ?_, ?_⟩
    · rw [pingAnswers_append] at hquiet
      exact (List.append_eq_nil_iff.1 hquiet).1
    · rw [pingAnswers_append, pingAnswers_answered, hrest, List.append_nil]
      exact hos
    · intro index dns1 dns2 res hm
      rw [← hos]
      exact hf.selects hs' (dnsSet_mem_answered hm)

def wiredRecord (dns1 dns2 : WString) : WmiAdapterInfo :=
  ⟨1, 7, wide "Ethernet", wide "00-00-00-00-00-00", false, dns1, dns2⟩

def thirdAnswered : List (Event Platform) :=
  [requested .failed, requested (.response 503 (.ok .null)),
    requested (.response 200 (.ok loneRespond)), answered (wide "203.0.113.1", some 20),
    enumerated .success [wiredRecord (wide "192.0.2.1") []], measured .success [],
    dnsSet 1 (wide "203.0.113.1") (wide "192.0.2.1") .success]

theorem thirdAnswered_runs :
    Runs (onMachine (.insertion _) (autoSelectDns .stored (.insertion _)) 0) thirdAnswered
      (.ok (.success, 0)) :=
  runs_of_replay rfl

theorem autoSelectDns_lastResponse_third : ∃ pre resp post m,
    thirdAnswered = pre ++ requested (.response 200 (.ok resp)) :: post ∧
      LastResponse .stored 0 resp m pre post :=
  autoSelectDns_lastResponse .stored (.insertion _) (.insertion _) thirdAnswered_runs
    (List.cons_ne_nil _ _)

end Runs

end LdnsSelector
