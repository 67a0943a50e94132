import LdnsSelector.PingTarget

set_option autoImplicit true

open EStateM

namespace LdnsSelector

def ParameterBlock.kept (block : ParameterBlock) : UInt32 × Bool × UInt32 × UInt16 :=
  (block.bufferSize, block.outputFile, block.statisticsSend, block.sockAddrSocks.ssFamily)

/-- What the options keep: the bounds, no file open, and no proxy unless one may be asked for. -/
structure Bounded (proxied : Bool) (block : ParameterBlock) : Prop where
  least : 512 ≤ block.bufferSize
  most : block.bufferSize ≤ 4096
  closed : block.outputFile = false
  sends : block.statisticsSend ≤ 0xFFFF
  direct : proxied = false → block.sockAddrSocks.ssFamily = 0

theorem Bounded.of_kept (h : Bounded proxied block) (hk : block'.kept = block.kept) :
    Bounded proxied block' := by
  simp only [ParameterBlock.kept, Prod.mk.injEq] at hk
  obtain ⟨hsize, hfile, hsend, hsocks⟩ := hk
  exact ⟨hsize ▸ h.least, hsize ▸ h.most, hfile.trans h.closed, hsend ▸ h.sends,
    fun hp => hsocks.trans (h.direct hp)⟩

/-- The parameters are in their bounds, and nothing has been sent. -/
structure Ready (proxied : Bool) (cfg : ConfigurationTable) : Prop where
  bounded : Bounded proxied cfg.toParameterBlock
  unsent : cfg.tally = (0, 0, 0)
  untimed : cfg.statisticsMaxTime = 0

abbrev KeepsReady (proxied : Bool) (x : Dnsping α) : Prop := Maintains (Ready proxied) x

namespace KeepsReady

variable {proxied : Bool}

theorem setParameters {f : ParameterBlock → ParameterBlock}
    (h : ∀ block, Bounded proxied block → Bounded proxied (f block)) :
    KeepsReady proxied (setParameters f) :=
  Maintains.modify fun cfg hc => ⟨h cfg.toParameterBlock hc.bounded, hc.unsent, hc.untimed⟩

theorem setStrings (g : StlBlock → StlBlock) : KeepsReady proxied (setStrings g) :=
  Maintains.modify fun _ hc => ⟨hc.bounded, hc.unsent, hc.untimed⟩

theorem assign {f : ParameterBlock → ParameterBlock} (h : ∀ block, (f block).kept = block.kept) :
    KeepsReady proxied (LdnsSelector.setParameters f) :=
  setParameters fun block hb => hb.of_kept (h block)

theorem switchOptions_kept : ∀ opt ∈ switchOptions, ∀ block, (opt.store block).kept = block.kept ∨
    (opt.store block).kept = { block with statisticsSend := 0 : ParameterBlock }.kept := by
  simp [switchOptions, toggleFlag, ParameterBlock.kept]

theorem switchOption (h : opt ∈ switchOptions) :
    KeepsReady proxied (LdnsSelector.setParameters opt.store) := by
  apply setParameters
  intro block hb
  rcases switchOptions_kept opt h block with hk | hk
  · exact hb.of_kept hk
  · have hb' : Bounded proxied { block with statisticsSend := 0 } :=
      ⟨hb.least, hb.most, hb.closed, UInt32.zero_le, hb.direct⟩
    exact hb'.of_kept hk

theorem numberOptions_kept : ∀ opt ∈ numberOptions, ∀ result block,
    (opt.store result block).kept = block.kept ∨
      opt.accepts result = (512 ≤ result.toUInt32 && result.toUInt32 ≤ 4096) ∧
        (opt.store result block).kept =
          { block with bufferSize := result.toUInt32 : ParameterBlock }.kept ∨
      opt.accepts result = within 1 0xFFFF result ∧
        (opt.store result block).kept =
          { block with statisticsSend := result.toUInt32 : ParameterBlock }.kept := by
  simp [numberOptions, ParameterBlock.kept]

theorem toUInt32_le_of_within {result : Int32} (h : within 1 0xFFFF result = true) :
    result.toUInt32 ≤ 0xFFFF := by
  simp only [within, Bool.and_eq_true, decide_eq_true_eq] at h
  have hpos : 0 ≤ result := Int32.le_trans (by decide) h.1
  exact Int32.toUInt32_le hpos h.2

theorem numberOption (h : opt ∈ numberOptions) (parameter : WString) :
    KeepsReady proxied (readNumberOption opt parameter) := by
  rw [readNumberOption]
  split
  · next ha =>
    apply setParameters
    intro block hb
    rcases numberOptions_kept opt h (readNumber parameter) block with hk | ⟨hacc, hk⟩ | ⟨hacc, hk⟩
    · exact hb.of_kept hk
    · rw [hacc, Bool.and_eq_true, decide_eq_true_eq, decide_eq_true_eq] at ha
      have hb' : Bounded proxied { block with bufferSize := (readNumber parameter).toUInt32 } :=
        ⟨ha.1, ha.2, hb.closed, hb.sends, hb.direct⟩
      exact hb'.of_kept hk
    · rw [hacc] at ha
      have hb' : Bounded proxied
          { block with statisticsSend := (readNumber parameter).toUInt32 } :=
        ⟨hb.least, hb.most, hb.closed, toUInt32_le_of_within ha, hb.direct⟩
      exact hb'.of_kept hk
  · exact Maintains.throw _

theorem nameOption (env : Surroundings) (h : opt ∈ nameOptions) (parameter : WString) :
    KeepsReady proxied (readNameOption env opt parameter) := by
  have hstore (result : UInt16) :
      KeepsReady proxied (LdnsSelector.setParameters (opt.store result)) := by
    apply assign
    revert opt
    simp [nameOptions, ParameterBlock.kept]
  unfold readNameOption
  dsimp only
  split
  · exact hstore _
  split
  · exact hstore _
  · exact Maintains.throw _

theorem rawData (env : Surroundings) (parameter : WString) :
    KeepsReady proxied (readRawData env parameter) := by
  apply Maintains.bind (setStrings _)
  intro _
  apply Maintains.bind
  · exact assign fun _ => rfl
  intro _
  split
  · exact Maintains.pure _
  · exact Maintains.throw _

theorem raw (env : Surroundings) (parameter : WString) :
    KeepsReady proxied (readRaw env parameter) := by
  apply Maintains.bind
  · exact assign fun _ => rfl
  intro _
  dsimp only
  split
  · exact assign fun _ => rfl
  split
  · exact assign fun _ => rfl
  split
  · exact assign fun _ => rfl
  · exact Maintains.throw _

theorem socks (env : Surroundings) (parameter : WString) :
    KeepsReady true (readSocks env parameter) := by
  apply Maintains.bind (setStrings _)
  intro _
  apply Maintains.bind Maintains.get
  intro cfg
  cases env.readSocksTarget parameter cfg.protocol with
  | ok target =>
    apply setParameters
    exact fun block hb => ⟨hb.least, hb.most, hb.closed, hb.sends, Bool.noConfusion⟩
  | error text => exact Maintains.throw _

theorem socksUsername (env : Surroundings) (parameter : WString) :
    KeepsReady proxied (readSocksUsername env parameter) := by
  apply Maintains.bind (setStrings _)
  intro _
  split
  · exact Maintains.throw _
  · exact Maintains.pure _

theorem socksPassword (env : Surroundings) (parameter : WString) :
    KeepsReady proxied (readSocksPassword env parameter) := by
  apply Maintains.bind (setStrings _)
  intro _
  split
  · exact Maintains.throw _
  · exact Maintains.pure _

theorem showResponse (parameter : WString) : KeepsReady proxied (readShow parameter) := by
  rw [readShow]
  split
  · exact assign fun _ => rfl
  split
  · exact assign fun _ => rfl
  · exact Maintains.throw _

theorem outputFileName (parameter : WString) : KeepsReady proxied (readOutputFile parameter) := by
  rw [readOutputFile]
  split
  · exact setStrings _
  · exact Maintains.throw _

theorem argumentOption {read : WString → Dnsping Unit}
    (h : argumentOption env parameter = some read)
    (hs : proxied = false → parameter ≠ wide "-socks") (argument : WString) :
    KeepsReady proxied (read argument) := by
  rw [LdnsSelector.argumentOption] at h
  split at h
  case h_1 opt hopt =>
    cases h
    exact numberOption (List.mem_of_find?_eq_some hopt) argument
  split at h
  case h_1 opt hopt =>
    cases h
    exact nameOption env (List.mem_of_find?_eq_some hopt) argument
  split_ifs at h
  · cases h
    exact rawData env argument
  · cases h
    exact raw env argument
  · next hname =>
    cases h
    cases proxied with
    | true => exact socks env argument
    | false =>
      rw [named, Bool.or_self, decide_eq_true_eq] at hname
      exact absurd hname (hs rfl)
  · cases h
    exact socksUsername env argument
  · cases h
    exact socksPassword env argument
  · cases h
    exact showResponse argument
  · cases h
    exact outputFileName argument

theorem convert {env : Surroundings} {text : NarrowString} {g : StlBlock → StlBlock} :
    KeepsReady proxied (match env.addressStringToBinary text family with
      | none => throw e
      | some addr => do
        LdnsSelector.setParameters fun block => { block with sockAddrNormal.addr := addr }
        LdnsSelector.setStrings g : Dnsping Unit) := by
  cases env.addressStringToBinary text family with
  | none => exact Maintains.throw _
  | some addr =>
    apply Maintains.bind
    · exact assign fun _ => rfl
    · exact fun _ => setStrings _

theorem ipv6 (env : Surroundings) (parameter : WString) (text : NarrowString) :
    KeepsReady proxied (readIpv6 env parameter text) := by
  rw [readIpv6]
  split
  · exact Maintains.throw _
  apply Maintains.bind Maintains.get
  intro cfg
  split
  · exact Maintains.throw _
  apply Maintains.bind
  · exact assign fun _ => rfl
  · exact fun _ => convert

theorem ipv4 (env : Surroundings) (parameter : WString) (text : NarrowString) :
    KeepsReady proxied (readIpv4 env parameter text) := by
  rw [readIpv4]
  split
  · exact Maintains.throw _
  apply Maintains.bind Maintains.get
  intro cfg
  split
  · exact Maintains.throw _
  apply Maintains.bind
  · exact assign fun _ => rfl
  · exact fun _ => convert

theorem resolveTarget (env : Surroundings) (text : NarrowString) :
    KeepsReady proxied (resolveTarget env text) := by
  apply Maintains.bind Maintains.get
  intro cfg
  cases env.getaddrinfo text cfg.protocol with
  | none => exact Maintains.throw _
  | some infos =>
    cases infos with
    | nil => exact Maintains.throw _
    | cons info infos =>
      simp only
      cases (info :: infos).find? AddrInfo.usable with
      | none => exact Maintains.pure _
      | some info' =>
        apply Maintains.bind
        · exact assign fun _ => rfl
        · exact fun _ => Maintains.bind Maintains.get fun _ => setStrings _

theorem domain (env : Surroundings) (parameter : WString) (text : NarrowString) :
    KeepsReady proxied (readDomain env parameter text) := by
  rw [readDomain]
  split
  · exact Maintains.throw _
  apply Maintains.bind Maintains.get
  intro cfg
  split
  · exact setStrings _
  · exact resolveTarget env text

theorem operand (env : Surroundings) (parameter : WString) (remaining : Nat) :
    KeepsReady proxied (readOperand env parameter remaining) := by
  apply Maintains.bind Maintains.get
  intro cfg
  split
  · rw [readTestDomain]
    split
    · exact Maintains.throw _
    · exact setStrings _
  split
  · rw [readTarget]
    dsimp only
    split
    · exact Maintains.throw _
    split
    · exact ipv6 env parameter _
    split
    · exact domain env parameter _
    split
    · exact ipv4 env parameter _
    · exact Maintains.pure _
  · exact Maintains.pure _

theorem commands (env : Surroundings) (params : List WString)
    (h : proxied = false → wide "-socks" ∉ params) :
    KeepsReady proxied (readCommands env params) := by
  have htail {parameter : WString} {rest : List WString}
      (h : proxied = false → wide "-socks" ∉ parameter :: rest) :
      proxied = false → wide "-socks" ∉ rest :=
    fun hp hm => h hp (List.mem_cons_of_mem _ hm)
  induction params using readCommands.induct env with
  | case1 => exact Maintains.pure _
  | case2 parameter rest hh ih =>
    rw [readCommands, if_pos hh]
    exact ih (htail h)
  | case3 parameter rest hh opt ho ih =>
    simp only [readCommands, hh, ho]
    exact Maintains.bind (switchOption (List.mem_of_find?_eq_some ho)) fun _ => ih (htail h)
  | case4 parameter rest hh ho ha ih =>
    simp only [readCommands, hh, ho, ha]
    exact Maintains.bind (operand env parameter rest.length) fun _ => ih (htail h)
  | case5 parameter hh ho read ha =>
    simp only [readCommands, hh, ho, ha]
    exact Maintains.throw _
  | case6 parameter hh ho read ha argument rest ih =>
    simp only [readCommands, hh, ho, ha]
    have hs : proxied = false → parameter ≠ wide "-socks" :=
      fun hp he => h hp (he ▸ List.mem_cons_self)
    exact Maintains.bind (argumentOption ha hs argument) fun _ => ih (htail (htail h))

theorem target : KeepsReady proxied checkTarget := by
  apply Maintains.bind Maintains.get
  intro cfg
  split
  · split
    · exact Maintains.throw _
    · apply assign
      intro block
      rw [markPort]
      split <;> rfl
  split
  · exact Maintains.throw _
  · apply assign
    intro block
    rw [markSocksPort]
    split <;> rfl

theorem timeout (env : Surroundings) : KeepsReady proxied (checkTimeout env) := by
  apply Maintains.bind
  · apply assign
    intro block
    rw [shortenTimeout]
    split_ifs <;> rfl
  · exact fun _ => Maintains.modify fun _ hc => ⟨hc.bounded, hc.unsent, hc.untimed⟩

end KeepsReady

/-- What `dnsping_main` has made sure of when it sends the first query. -/
structure Accepted (cfg : ConfigurationTable) : Prop where
  least : 512 ≤ cfg.bufferSize
  most : cfg.bufferSize ≤ 4096
  sends : cfg.statisticsSend ≤ 0xFFFF
  questions : cfg.parameterHeader.questions ≠ 0
  additional : cfg.edns = true → cfg.parameterHeader.additional = htons 1

theorem orDefault_ne (n : UInt16) (h : htons fallback ≠ 0) : orDefault n fallback ≠ 0 := by
  rw [orDefault]
  split
  · exact h
  · next hn => exact hn

theorem checkEdns_questions (block : ParameterBlock) :
    (checkEdns block).parameterHeader.questions = block.parameterHeader.questions := by
  rw [checkEdns]
  split
  · dsimp only
    split <;> rfl
  · rfl

theorem checkEdns_additional (block : ParameterBlock) (h : (checkEdns block).edns = true) :
    (checkEdns block).parameterHeader.additional = htons 1 := by
  rw [checkEdns] at h ⊢
  split
  · dsimp only
    split <;> rfl
  · next hn =>
    rw [if_neg hn] at h
    rw [h] at hn
    exact absurd rfl hn

theorem checkEdns_kept (block : ParameterBlock) : (checkEdns block).kept = block.kept := by
  rw [checkEdns]
  split
  · dsimp only
    split <;> rfl
  · rfl

structure Begun (proxied : Bool) (cfg : ConfigurationTable) : Prop extends Accepted cfg where
  unsent : cfg.tally = (0, 0, 0)
  untimed : cfg.statisticsMaxTime = 0
  direct : proxied = false → cfg.sockAddrSocks.ssFamily = 0

/-- However the preparation ends, a file is open only when it succeeds, and then all is prepared
for the first query. -/
theorem prepare_ensures (env : Surroundings) (argv : List WString) (cfg : ConfigurationTable)
    (h : proxied = false → wide "-socks" ∉ argv.tail) :
    Ensures (prepare env argv) cfg (fun _ cfg' => Begun proxied cfg') fun _ cfg' =>
      cfg'.outputFile = false := by
  have hinit : Ensures (configurationInitialization env) cfg
      (fun _ cfg' => Ready proxied cfg') fun _ cfg' => cfg'.outputFile = false := by
    apply Ensures.bind (Q := fun _ cfg' => Ready proxied cfg')
    · refine ⟨⟨?_, ?_, rfl, ?_, fun _ => rfl⟩, rfl, rfl⟩
      · exact (by decide : (512 : UInt32) ≤ 1500)
      · exact (by decide : (1500 : UInt32) ≤ 4096)
      · exact (by decide : (4 : UInt32) ≤ 0xFFFF)
    intro _ cfg' hc
    split
    · exact hc.bounded.closed
    split
    · exact hc.bounded.closed
    · exact hc
  have hkeep {x : Dnsping Unit} (hx : KeepsReady proxied x) (cfg' : ConfigurationTable)
      (hc : Ready proxied cfg') : Ensures x cfg' (fun _ cfg' => Ready proxied cfg')
        fun _ cfg' => cfg'.outputFile = false :=
    (hx cfg' hc).mono (fun _ _ h => h) fun _ _ h => h.bounded.closed
  apply Ensures.bind hinit
  intro _ cfg₁ h₁
  apply Ensures.bind (hkeep (KeepsReady.commands env argv.tail h) cfg₁ h₁)
  intro _ cfg₂ h₂
  apply Ensures.bind (hkeep KeepsReady.target cfg₂ h₂)
  intro _ cfg₃ h₃
  apply Ensures.bind (hkeep (KeepsReady.timeout env) cfg₃ h₃)
  intro _ cfg₄ h₄
  have hbound := h₄.bounded.of_kept
    (checkEdns_kept (checkQuery (checkHeader cfg₄.toParameterBlock)))
  apply Ensures.bind (Q := fun _ cfg' => Begun proxied cfg' ∧ cfg'.outputFile = false)
  · refine ⟨⟨⟨hbound.least, hbound.most, hbound.sends, ?_, checkEdns_additional _⟩, h₄.unsent,
      h₄.untimed, hbound.direct⟩, hbound.closed⟩
    exact (checkEdns_questions _).trans_ne (orDefault_ne _ (by decide))
  intro _ cfg₅ h₅
  obtain ⟨hprep, hclosed⟩ := h₅
  apply Ensures.get_bind
  split
  · exact hprep
  split
  · exact ⟨⟨hprep.least, hprep.most, hprep.sends, hprep.questions, hprep.additional⟩, hprep.unsent,
      hprep.untimed, hprep.direct⟩
  · exact hclosed

theorem prepared_of_ok (hp : prepare env argv cfg₀ = .ok () cfg)
    (h : proxied = false → wide "-socks" ∉ argv.tail) : Begun proxied cfg := by
  have hpre := prepare_ensures env argv cfg₀ h
  rw [Ensures, hp] at hpre
  exact hpre

end LdnsSelector
