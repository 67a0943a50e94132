import LdnsSelector.PingCalls

set_option autoImplicit true

open EStateM Prog

namespace LdnsSelector

section Calls

variable {call : PingCall} {cfg : ConfigurationTable}

theorem PingMachine.narrow_fits (machine : PingMachine) (h : Fits s) :
    (machine.wideCharToMultiByte (cStr s)).length ≤ addrStringMaxsize :=
  (machine.narrow_le _).trans h

theorem PingCall.prepare_cases (hu : namesArgumentOption call.env call.url = false)
    (hip : Fits call.strDnsIp) (hs : Pristine cfg.toStlBlock) :
    (∃ e e' cfg₁ cfg', beforeConversions call.env call.argv cfg = .error e cfg₁ ∧
      prepare call.env call.argv cfg = .error e' cfg' ∧ Pristine cfg'.toStlBlock) ∨
    ∃ cfg₁ cfg', beforeConversions call.env call.argv cfg = .ok () cfg₁ ∧
      prepare call.env call.argv cfg = .ok () cfg' ∧ cfg₁.toStlBlock = cfg'.toStlBlock ∧
        Direct cfg' ∧ cfg'.target.1 ≠ 0 :=
  prepare_pristine call.machine.moduleFileName hu (call.machine.narrow_fits hip) hs

theorem TargetGiven.prepares (h : TargetGiven call.env call.ip call.url cfg) :
    ∃ cfg', prepare call.env call.argv cfg = .ok () cfg' := by
  have hr : Returns (prepare call.env call.argv) cfg fun _ cfg' => cfg'.target.1 ≠ 0 :=
    (returns_prepare_iff call.machine.moduleFileName).2 h
  rw [Returns, Ensures] at hr
  cases hp : prepare call.env call.argv cfg with
  | ok u cfg' => exact ⟨cfg', rfl⟩
  | error e cfg' =>
    rw [hp] at hr
    exact hr.elim

theorem targetGiven_of_first (hs : Pristine cfg.toStlBlock)
    (h : TargetGiven call.env call.ip call.url {}) :
    TargetGiven call.env call.ip call.url cfg := by
  refine { h with passes := ?_, opened := .inl hs.wOutputFileName }
  rcases h.passes with hu | hu | ⟨hu, hd⟩
  · exact .inl hu
  · exact .inr (.inl hu)
  · exact .inr (.inr ⟨hu, fun _ _ => hd rfl rfl⟩)

theorem Undisturbed.url_length (hu : Undisturbed call cfg) (hs : Pristine cfg.toStlBlock)
    (hurl : Fits call.strUrl) (ht : TargetGiven call.env call.ip call.url cfg) :
    2 < call.url.length ∧ call.url.length ≤ 256 := by
  have hle : call.url.length < 64 := hurl
  obtain ⟨hhelp, hswitch, _⟩ := hu.operand ht
  rcases hu.domain ht with hd | ⟨_, hl⟩
  · rcases ht.passes with hp | hp | ⟨_, hp⟩
    · exact absurd (hhelp.symm.trans hp) Bool.noConfusion
    · exact absurd (hswitch.symm.trans hp) Bool.noConfusion
    · exact hp hs.rawData hd
  · exact ⟨hl, by omega⟩

theorem Undisturbed.first (hu : Undisturbed call cfg) (hs : Pristine cfg.toStlBlock)
    (hurl : Fits call.strUrl) (ht : TargetGiven call.env call.ip call.url cfg) :
    TargetGiven call.env call.ip call.url {} :=
  { ht with
    passes := .inr (.inr ⟨hu.noArgument, fun _ _ => hu.url_length hs hurl ht⟩)
    opened := .inl rfl }

theorem prepare_read (ht : TargetGiven call.env call.ip call.url cfg)
    (hread : readCommands call.env [call.url, call.ip] (opening call.env cfg.toStlBlock) =
      readTarget call.env call.ip (opening call.env strings)) :
    prepare call.env call.argv cfg = (do
      readTarget call.env call.ip
      finish call.env) (opening call.env strings) := by
  obtain ⟨cfg', hp⟩ := ht.prepares
  rw [prepare_eq] at hp
  rcases readArguments_cases call.env call.machine.moduleFileName call.url call.ip cfg with
    ⟨e, cfg₁, he, _⟩ | he
  · rw [bind_apply_error he] at hp
    cases hp
  · rw [prepare_eq]
    exact bind_apply_congr (he.trans hread) _

/-- What an undisturbed call has prepared when it sends its queries: its own url, a text of the
target that the buffer has room for, and but for the texts what the first call would have. -/
structure Prepared (call : PingCall) (cfg cfg' first : ConfigurationTable) : Prop where
  prepare : prepare call.env call.argv cfg = .ok () cfg'
  prepareFirst : LdnsSelector.prepare call.env call.argv {} = .ok () first
  observed : cfg'.observed = first.observed
  direct : Direct cfg'
  target_ne : cfg'.target.1 ≠ 0
  testDomain : cfg'.testDomain = call.env.wideCharToMultiByte call.url
  room : cfg'.targetStringNormal.length ≤ largePacketMaxsize

theorem addrStringMaxsize_le : addrStringMaxsize ≤ largePacketMaxsize := by decide

theorem TextRead.text (h : TextRead env ip (opening env strings) cfg') (hne : cfg'.target.1 ≠ 0) :
    if appendedText env ip = [] then cfg'.targetStringNormal.length ≤ addrStringMaxsize
    else cfg'.targetStringNormal = strings.targetStringNormal ++ appendedText env ip := by
  rcases h.2 with h | h
  · rw [h] at hne
    exact absurd rfl hne
  · exact h

theorem TextRead.room (hu : Undisturbed call cfg)
    (ht : TargetGiven call.env call.ip call.url cfg)
    (h : TextRead call.env call.ip (opening call.env (cfg.asking domain)) cfg')
    (hne : cfg'.target.1 ≠ 0) : cfg'.targetStringNormal.length ≤ largePacketMaxsize := by
  have htext := h.text hne
  split at htext
  · exact htext.trans addrStringMaxsize_le
  · next happ =>
    rw [htext, List.length_append]
    exact (hu.room ht).resolve_left happ

theorem finish_texts (hs : Pristine strings) (hip : Fits call.strDnsIp)
    (hp : (do
      readTarget call.env call.ip
      finish call.env) (opening call.env strings) = .ok u cfg') :
    Direct cfg' ∧ cfg'.target.1 ≠ 0 ∧
      TextRead call.env call.ip (opening call.env strings) cfg' := by
  have hl := call.machine.narrow_fits hip
  have hdirect := readTarget_direct hl _ (direct_opening call.env hs)
  have htext := readTarget_text strings call.machine.address_lt hl
  rw [Ensures] at hdirect htext
  cases hr : readTarget call.env call.ip (opening call.env strings) with
  | error e cfg₀ =>
    rw [bind_apply_error hr] at hp
    cases hp
  | ok u cfg₀ =>
    rw [hr] at hdirect htext
    rw [bind_apply_ok hr] at hp
    rcases finish_cases call.env hdirect with
      ⟨e, _, hf⟩ | ⟨cfg₁, cfg₂, _, hf, _, hstrings, hd, heq, hne⟩
    · cases hp.symm.trans hf
    · cases hp.symm.trans hf
      apply And.intro hd
      rw [TextRead, heq, congrArg StlBlock.testDomain hstrings,
        congrArg StlBlock.targetStringNormal hstrings]
      exact ⟨hne, htext⟩

theorem ping_crashes (h : ¬(Fits call.strDnsIp ∧ Fits call.strUrl)) (cfg : ConfigurationTable)
    (hr : Runs (call.ping cfg) tr o) : tr = [] ∧ o = .error .invalidParameter := by
  have hover : Runs (call.ping cfg) [] (.error .invalidParameter) := ping_overlong h
  have he : [] ++ tr = tr ++ [] := (List.append_nil tr).symm
  obtain ⟨htr, ho⟩ := hover.prefix_unique hr he
  exact ⟨htr.symm, ho.symm⟩

theorem ping_unsent (hip : Fits call.strDnsIp) (hurl : Fits call.strUrl)
    (hp : prepare call.env call.argv cfg = .error e cfg') :
    call.ping cfg = .ret (.reachable none, cfg') := by
  have hping : call.ping cfg = .ret (verdictOf cfg', cfg') := ping_unprepared hip hurl hp
  rcases prepare_cases call.env call.machine.moduleFileName call.strDnsIp call.strUrl cfg with
    ⟨e₁, cfg₁, hp₁, hc⟩ | ⟨cfg₁, hp₁, _⟩
  · cases hp.symm.trans hp₁
    rw [hping, verdictOf_unsent hc]
  · cases hp.symm.trans hp₁

theorem ping_sends (hip : Fits call.strDnsIp) (hurl : Fits call.strUrl)
    (hp : prepare call.env call.argv cfg = .ok u cfg') :
    call.ping cfg = (sendRequests cfg').bind fun x => .ret (verdictOf x.2, x.2) := by
  have hping : call.ping cfg = _ := ping_eq hip hurl
  rw [hping, dnspingMain, if_neg (by simp [pingArguments]), hp]

theorem ping_runs (hip : Fits call.strDnsIp) (hurl : Fits call.strUrl)
    (hp : prepare call.env call.argv cfg = .ok u cfg') (hr : Runs (call.ping cfg) tr o) :
    o = .ok (verdictOf (cfg'.after tr), cfg'.after tr) ∧
      (∀ ev ∈ tr, ev.1.configuration.target = cfg'.target) ∧ tr ≠ [] := by
  rcases prepare_cases call.env call.machine.moduleFileName call.strDnsIp call.strUrl cfg with
    ⟨e₁, cfg₁, hp₁, _⟩ | ⟨cfg₁, hp₁, hc, _⟩
  · cases hp.symm.trans hp₁
  · cases hp.symm.trans hp₁
    obtain ⟨ho, ht, _, hne⟩ := ping_prepared hip hurl hp hc hr
    exact ⟨ho, ht, hne⟩

theorem ping_carries (hip : Fits call.strDnsIp) (hurl : Fits call.strUrl)
    (hp : prepare call.env call.argv cfg = .ok u cfg') :
    Carries cfg'.toStlBlock (call.ping cfg) := by
  rw [ping_sends hip hurl hp]
  exact Within.bind (sendRequests_carries cfg') fun _ => trivial

theorem Prepared.own (h : Prepared call cfg cfg' first) (hip : Fits call.strDnsIp)
    (hurl : Fits call.strUrl) (hr : Runs (call.ping cfg) tr o) (hev : ev ∈ tr) :
    call.Own ev.1.configuration := by
  have hstrings := (ping_carries hip hurl h.prepare).events hr ev hev
  have ht := (ping_runs hip hurl h.prepare hr).2.1 ev hev
  rcases prepare_cases call.env call.machine.moduleFileName call.strDnsIp call.strUrl cfg with
    ⟨e₁, cfg₁, hp₁, _⟩ | ⟨cfg₁, hp₁, _, hd⟩
  · cases h.prepare.symm.trans hp₁
  · cases h.prepare.symm.trans hp₁
    constructor
    · rw [congrArg StlBlock.testDomain hstrings]
      exact h.testDomain
    · rw [congrArg StlBlock.rawData hstrings]
      exact h.direct.1.rawData
    · rw [ht]
      exact hd.resolve_left h.target_ne

theorem Prepared.within (h : Prepared call cfg cfg' first) (hip : Fits call.strDnsIp)
    (hurl : Fits call.strUrl)
    (hb : beforeConversions call.env call.argv cfg = .ok u cfg₁)
    (hstrings : cfg₁.toStlBlock = cfg'.toStlBlock) (htext : text ∈ call.conversions cfg) :
    call.stored text ≤ largePacketMaxsize := by
  apply (min_le_right _ _).trans
  have hname := h.direct.1.targetAddressString_length.trans addrStringMaxsize_le
  have hdomain := (call.machine.narrow_fits hurl).trans addrStringMaxsize_le
  have htexts : text = cfg'.targetStringNormal ∨ text = cfg'.testDomain ∨
      text = cfg'.targetAddressString := by
    rw [PingCall.conversions, if_pos ⟨hip, hurl⟩, hb] at htext
    dsimp only at htext
    rw [hstrings] at htext
    split at htext
    · simp at htext
      tauto
    · simp at htext
      tauto
  rcases htexts with rfl | rfl | rfl
  · exact h.room
  · rw [h.testDomain]
    exact hdomain
  · exact hname

theorem ping_pristine (hu : namesArgumentOption call.env call.url = false)
    (hs : Pristine cfg.toStlBlock) (hr : Runs (call.ping cfg) tr (.ok (res, cfg'))) :
    Pristine cfg'.toStlBlock := by
  have hf : Fits call.strDnsIp ∧ Fits call.strUrl := by
    by_contra hf
    obtain ⟨_, ho⟩ := ping_crashes hf cfg hr
    cases ho
  obtain ⟨hip, hurl⟩ := hf
  rcases PingCall.prepare_cases hu hip hs with
    ⟨e₁, e₂, cfg₁, cfg₂, _, hp, hs'⟩ | ⟨cfg₁, cfg₂, _, hp, _, hd, _⟩
  · rw [ping_unsent hip hurl hp] at hr
    obtain ⟨_, ho⟩ := runs_ret_iff.1 hr
    cases ho
    exact hs'
  · obtain ⟨ho, _⟩ := ping_runs hip hurl hp hr
    cases ho
    rw [after_strings]
    exact hd.1

theorem prepare_appends (hs : Pristine cfg.toStlBlock) (hip : Fits call.strDnsIp)
    (ht : TargetGiven call.env call.ip call.url cfg) (hoperand : IsOperand call.env call.url)
    (hl : 2 < call.url.length ∧ call.url.length ≤ 256)
    (hd : cfg.testDomain = [] ∨ cfg.testDomain = call.env.wideCharToMultiByte call.url)
    (happ : appendedText call.env call.ip ≠ []) :
    ∃ cfg', prepare call.env call.argv cfg = .ok () cfg' ∧
      cfg'.testDomain = call.env.wideCharToMultiByte call.url ∧
      cfg'.targetStringNormal = cfg.targetStringNormal ++ appendedText call.env call.ip := by
  have hread := prepare_read ht (readUrl_eq hoperand ht.operand hs.rawData hl hd)
  obtain ⟨cfg', hp⟩ := ht.prepares
  obtain ⟨_, hne, htext⟩ := finish_texts (hs.asking _) hip (hread.symm.trans hp)
  have hn := htext.text hne
  rw [if_neg happ] at hn
  exact ⟨cfg', hp, htext.1, hn⟩

theorem reachable_of_runs {C : ConfigurationTable → PingCall × List (Event Network) → Prop}
    (h : pingProcess.Reachable C cfg) (hc : C cfg (call, tr))
    (hr : Runs (call.ping cfg) tr (.ok x)) : pingProcess.Reachable C x.2 := by
  apply h.step hc
  simp only [pingProcess, replay_of_runs hr]

end Calls

def plainMachineBuffers : PingMachine where
  toSurroundings := plainMachine
  moduleFileName := wide "dns_selector.exe"
  multiByteToWideChar s := s.map UInt8.toUInt16
  narrow_le _ := (List.length_map _).le.trans (Nat.le_succ _)
  address_lt _ := Nat.succ_pos 63

theorem targetGiven_plain (hurl : IsOperand plainMachine url)
    (hl : 2 < url.length ∧ url.length ≤ 256) (hip : IsOperand plainMachine ip)
    (ha : TargetAccepted plainMachine 0 ip) : TargetGiven plainMachine ip url {} where
  started := ⟨rfl, rfl⟩
  typed := by decide
  passes := .inr (.inr ⟨hurl.2.2, fun _ _ => hl⟩)
  operand := hip
  accepted := by
    rw [requestedProtocol_of_operand hurl.2.1]
    exact ha
  opened := .inl rfl

theorem isOperand_dnsPingUrl : IsOperand plainMachine (cStr dnsPingUrl) :=
  isOperand_of_undashed (by decide) (by decide)

def ipv6Ping : PingCall := ⟨plainMachineBuffers, wide "2001:db8::1", dnsPingUrl⟩

theorem targetGiven_ipv6Ping : TargetGiven ipv6Ping.env ipv6Ping.ip ipv6Ping.url {} := by
  apply targetGiven_plain isOperand_dnsPingUrl (by decide)
  · exact isOperand_of_undashed (by decide) (by decide)
  · refine ⟨by decide, by decide, ?_⟩
    rw [if_pos (by decide)]
    exact ⟨by decide, by decide, _, rfl, rfl⟩

theorem ipv6Ping_appends (hs : Pristine cfg.toStlBlock) (hd : cfg.testDomain = [] ∨
    cfg.testDomain = ipv6Ping.env.wideCharToMultiByte ipv6Ping.url) :
    ∃ cfg', prepare ipv6Ping.env ipv6Ping.argv cfg = .ok () cfg' ∧
      cfg'.testDomain = ipv6Ping.env.wideCharToMultiByte ipv6Ping.url ∧
      cfg'.targetStringNormal =
        cfg.targetStringNormal ++ appendedText ipv6Ping.env ipv6Ping.ip :=
  prepare_appends hs (by decide) (targetGiven_of_first hs targetGiven_ipv6Ping)
    isOperand_dnsPingUrl (by decide) hd (by decide)

/-- Calls with one IPv6 address make the text of the target as long as one likes. -/
theorem text_unbounded (n : Nat) :
    ∃ cfg, pingProcess.Reachable (fun _ i => i.1 = ipv6Ping) cfg ∧ Pristine cfg.toStlBlock ∧
      (cfg.testDomain = [] ∨
        cfg.testDomain = ipv6Ping.env.wideCharToMultiByte ipv6Ping.url) ∧
      n ≤ cfg.targetStringNormal.length := by
  induction n with
  | zero => exact ⟨{}, .initial rfl, pristine_initial, .inl rfl, Nat.zero_le _⟩
  | succ n ih =>
    obtain ⟨cfg, hreach, hs, hd, hn⟩ := ih
    obtain ⟨cfg', hp, hdomain, htext⟩ := ipv6Ping_appends hs hd
    obtain ⟨tr, o, hr, _⟩ := runs_total (ipv6Ping.ping cfg) fun _ => .silent
    obtain ⟨rfl, _⟩ := ping_runs (by decide) fits_dnsPingUrl hp hr
    refine ⟨_, reachable_of_runs hreach rfl hr,
      ping_pristine isOperand_dnsPingUrl.2.2 hs hr, ?_, ?_⟩
    · right
      rw [congrArg StlBlock.testDomain (after_strings cfg' tr)]
      exact hdomain
    · rw [congrArg StlBlock.targetStringNormal (after_strings cfg' tr), htext,
        List.length_append]
      have hpos : 0 < (appendedText ipv6Ping.env ipv6Ping.ip).length := by decide
      omega

theorem ipv6Ping_overruns :
    ∃ cfg, pingProcess.Reachable (fun _ i => i.1 = ipv6Ping) cfg ∧
      ∃ text ∈ ipv6Ping.conversions cfg, largePacketMaxsize < ipv6Ping.stored text := by
  obtain ⟨cfg, hreach, hs, hd, hn⟩ := text_unbounded (largePacketMaxsize + 1)
  obtain ⟨cfg', hp, _, htext⟩ := ipv6Ping_appends hs hd
  have hip : Fits ipv6Ping.strDnsIp := by decide
  rcases PingCall.prepare_cases isOperand_dnsPingUrl.2.2 hip hs with
    ⟨e₁, e₂, cfg₁, cfg₂, _, hp', _⟩ | ⟨cfg₁, cfg₂, hb, hp', hstrings, _⟩
  · cases hp.symm.trans hp'
  · cases hp.symm.trans hp'
    refine ⟨cfg, hreach, cfg₁.targetStringNormal, ?_, ?_⟩
    · rw [PingCall.conversions, if_pos (by decide), hb]
      exact List.mem_cons_self
    · rw [PingCall.stored, congrArg StlBlock.targetStringNormal hstrings, htext]
      have hlong : largePacketMaxsize <
          (cfg.targetStringNormal ++ appendedText ipv6Ping.env ipv6Ping.ip).length := by
        rw [List.length_append]
        omega
      apply lt_min _ hlong
      apply Nat.lt_succ_of_le
      apply hlong.le.trans_eq
      exact (List.length_map _).symm

end LdnsSelector
