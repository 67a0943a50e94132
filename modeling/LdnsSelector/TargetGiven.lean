import LdnsSelector.PingTarget

set_option autoImplicit true

open EStateM

namespace LdnsSelector

def namesSwitch (parameter : WString) : Bool :=
  (switchOptions.find? fun opt => named opt.short opt.long parameter).isSome

def namesArgumentOption (env : Surroundings) (parameter : WString) : Bool :=
  (argumentOption env parameter).isSome

/-- A parameter that is neither an option nor a request for help. -/
def IsOperand (env : Surroundings) (parameter : WString) : Prop :=
  asksHelp parameter = false ∧ namesSwitch parameter = false ∧
    namesArgumentOption env parameter = false

/-- The family a url asks for when it reads as an option. -/
def requestedProtocol (url : WString) : UInt16 :=
  if named "-6" "--ipv6" url then afInet6
  else if named "-4" "--ipv4" url then afInet
  else 0

/-- The url asks for help, is an option, or can be the test domain. It is not taken for one
when an earlier call has left a test domain or raw data. -/
def UrlPasses (env : Surroundings) (url : WString) (cfg : ConfigurationTable) : Prop :=
  asksHelp url = true ∨ namesSwitch url = true ∨
    (namesArgumentOption env url = false ∧
      (cfg.rawData = none → cfg.testDomain = [] → 2 < url.length ∧ url.length ≤ 256))

def Usable (addr : Option (List UInt8)) : Prop :=
  ∃ bytes ∈ addr, checkEmptyBuffer bytes = false

/-- The last parameter is an address or a name of the family asked for: with a colon, with
another character that no dotted address has, or neither. -/
def TargetAccepted (env : Surroundings) (protocol : UInt16) (ip : WString) : Prop :=
  2 ≤ ip.length ∧ ip.length ≤ 256 ∧
    if asciiColon ∈ env.wideCharToMultiByte ip then
      ip.length ≤ 40 ∧ protocol ≠ afInet ∧
        Usable (env.addressStringToBinary (env.wideCharToMultiByte ip) afInet6)
    else if (env.wideCharToMultiByte ip).any domainChar then
      2 < ip.length ∧
        ∃ infos ∈ env.getaddrinfo (env.wideCharToMultiByte ip) protocol,
          Usable ((infos.find? AddrInfo.usable).map AddrInfo.addr)
    else
      env.wideCharToMultiByte ip ≠ [] ∧ 7 ≤ ip.length ∧ ip.length ≤ 15 ∧ protocol ≠ afInet6 ∧
        Usable (env.addressStringToBinary (env.wideCharToMultiByte ip) afInet)

/-- A file named by an earlier call can be opened. -/
def Opened (env : Surroundings) (cfg : ConfigurationTable) : Prop :=
  cfg.wOutputFileName = [] ∨ env.openOutputFile cfg.wOutputFileName = true

/-- The system starts up, the arguments are accepted and name a target, and a file named by
an earlier call can be opened. -/
structure TargetGiven (env : Surroundings) (ip url : WString) (cfg : ConfigurationTable) :
    Prop where
  started : env.setConsoleCtrlHandler = true ∧ env.wsaStartup = true
  typed : env.dnsTypeNameToHex (wide "A") ≠ 0
  passes : UrlPasses env url cfg
  operand : IsOperand env ip
  accepted : TargetAccepted env (requestedProtocol url) ip
  opened : Opened env cfg

section Reading

variable {env : Surroundings} {cfg : ConfigurationTable} {ip url : WString}

theorem returns_setParameters_iff {f : ParameterBlock → ParameterBlock}
    {Q : Unit → ConfigurationTable → Prop} :
    Returns (setParameters f) cfg Q ↔
      Q () { cfg with toParameterBlock := f cfg.toParameterBlock } := Iff.rfl

theorem returns_setStrings_iff {f : StlBlock → StlBlock}
    {Q : Unit → ConfigurationTable → Prop} :
    Returns (setStrings f) cfg Q ↔ Q () { cfg with toStlBlock := f cfg.toStlBlock } := Iff.rfl

def Finishes (env : Surroundings) (cfg : ConfigurationTable) : Prop :=
  Returns (finish env) cfg fun _ cfg' => cfg'.target.1 ≠ 0

theorem Finishes.target_ne (h : Finishes env cfg) : cfg.target.1 ≠ 0 := by
  obtain ⟨_, cfg', hf, ht⟩ := (finish_frame env).returns h
  have he : cfg'.target.1 = cfg.target.1 := congrArg (fun x => x.2.1) hf
  exact he ▸ ht

theorem returns_outputResultToFile_iff (h : cfg.target.1 ≠ 0) :
    Returns (outputResultToFile env) cfg (fun _ cfg' => cfg'.target.1 ≠ 0) ↔ Opened env cfg := by
  rw [outputResultToFile, returns_bind_iff, returns_get_iff]
  by_cases hn : cfg.wOutputFileName = []
  · rw [if_pos hn, returns_pure_iff]
    exact iff_of_true h (.inl hn)
  · rw [if_neg hn]
    by_cases ho : env.openOutputFile cfg.wOutputFileName = true
    · rw [if_pos ho, returns_setParameters_iff]
      exact iff_of_true h (.inr ho)
    · rw [if_neg ho, returns_throw_iff]
      exact iff_of_false id fun hc => hc.elim hn ho

theorem returns_checks_iff (h : cfg.target.1 ≠ 0) :
    Returns (do
      checkTimeout env
      setParameters fun block => checkEdns (checkQuery (checkHeader block))
      outputResultToFile env) cfg (fun _ cfg' => cfg'.target.1 ≠ 0) ↔ Opened env cfg := by
  simp only [checkTimeout, returns_bind_iff, returns_setParameters_iff, returns_modify_iff]
  apply returns_outputResultToFile_iff
  change (checkEdns (checkQuery (checkHeader (shortenTimeout env cfg.toParameterBlock)))).target.1
    ≠ 0
  rw [checkParameters_target, shortenTimeout_target]
  exact h

theorem finishes_iff (hs : cfg.sockAddrSocks.ssFamily = 0) :
    Finishes env cfg ↔ (cfg.target.1 = afInet6 ∨ cfg.target.1 = afInet) ∧
      checkEmptyBuffer cfg.target.2 = false ∧ Opened env cfg := by
  rw [Finishes, finish, checkTarget, returns_bind_iff, returns_bind_iff, returns_get_iff]
  by_cases hf : cfg.sockAddrNormal.ssFamily = afInet6 ∨ cfg.sockAddrNormal.ssFamily = afInet
  · rw [if_pos hf]
    by_cases he : checkEmptyBuffer cfg.sockAddrNormal.addr = true
    · rw [if_pos he, returns_throw_iff]
      apply iff_of_false id
      intro hr
      exact absurd (he.symm.trans hr.2.1) Bool.noConfusion
    · have hne : (markPort cfg.toParameterBlock).target.1 ≠ 0 := by
        rw [markPort_target]
        rcases hf with hf | hf
        · exact ne_of_eq_of_ne hf (by decide)
        · exact ne_of_eq_of_ne hf (by decide)
      rw [if_neg he, returns_setParameters_iff, returns_checks_iff hne]
      exact ⟨fun ho => ⟨hf, Bool.eq_false_iff.2 he, ho⟩, fun hr => hr.2.2⟩
  · rw [if_neg hf, if_pos hs, returns_throw_iff]
    exact iff_of_false id fun hr => hf hr.1

theorem finishes_of_family (hs : cfg.sockAddrSocks.ssFamily = 0)
    (hf : cfg.target.1 = afInet6 ∨ cfg.target.1 = afInet) :
    Finishes env cfg ↔ checkEmptyBuffer cfg.target.2 = false ∧ Opened env cfg := by
  rw [finishes_iff hs]
  exact and_iff_right hf

theorem usable_some_iff : Usable (some bytes) ↔ checkEmptyBuffer bytes = false := by
  simp [Usable]

theorem not_usable_none : ¬Usable none := by
  simp [Usable]

theorem returns_convert_iff {f : ParameterBlock → ParameterBlock} {g : StlBlock → StlBlock}
    {text : NarrowString} (hfam : family = afInet6 ∨ family = afInet)
    (hf : (f cfg.toParameterBlock).sockAddrNormal.ssFamily = family)
    (hs : (f cfg.toParameterBlock).sockAddrSocks.ssFamily = 0)
    (hg : (g cfg.toStlBlock).wOutputFileName = cfg.wOutputFileName) :
    Returns (convertText env f text family e g) cfg (fun _ cfg' => Finishes env cfg') ↔
      Usable (env.addressStringToBinary text family) ∧ Opened env cfg := by
  rw [convertText, returns_bind_iff, returns_setParameters_iff]
  cases ha : env.addressStringToBinary text family with
  | none => exact iff_of_false id fun h => not_usable_none h.1
  | some addr =>
    simp only [returns_bind_iff, returns_setParameters_iff, returns_setStrings_iff]
    rw [usable_some_iff, finishes_of_family hs (hf ▸ hfam)]
    rw [Opened, Opened, hg]
    rfl

theorem returns_readIpv6_iff (hs : cfg.sockAddrSocks.ssFamily = 0) :
    Returns (readIpv6 env ip (env.wideCharToMultiByte ip)) cfg
        (fun _ cfg' => Finishes env cfg') ↔
      ¬(ip.length < 2 ∨ 40 < ip.length) ∧ cfg.protocol ≠ afInet ∧
        Usable (env.addressStringToBinary (env.wideCharToMultiByte ip) afInet6) ∧
        Opened env cfg := by
  rw [readIpv6]
  by_cases hl : ip.length < 2 ∨ 40 < ip.length
  · rw [if_pos hl]
    exact iff_of_false id fun h => h.1 hl
  · rw [if_neg hl, returns_bind_iff, returns_get_iff]
    by_cases hp : cfg.protocol = afInet
    · rw [if_pos hp]
      exact iff_of_false id fun h => h.2.1 hp
    · rw [if_neg hp]
      apply (returns_convert_iff (.inl rfl) rfl hs rfl).trans
      exact ⟨fun h => ⟨hl, hp, h⟩, fun h => h.2.2⟩

theorem returns_readIpv4_iff (hs : cfg.sockAddrSocks.ssFamily = 0) :
    Returns (readIpv4 env ip (env.wideCharToMultiByte ip)) cfg
        (fun _ cfg' => Finishes env cfg') ↔
      ¬(ip.length < 7 ∨ 15 < ip.length) ∧ cfg.protocol ≠ afInet6 ∧
        Usable (env.addressStringToBinary (env.wideCharToMultiByte ip) afInet) ∧
        Opened env cfg := by
  rw [readIpv4]
  by_cases hl : ip.length < 7 ∨ 15 < ip.length
  · rw [if_pos hl]
    exact iff_of_false id fun h => h.1 hl
  · rw [if_neg hl, returns_bind_iff, returns_get_iff]
    by_cases hp : cfg.protocol = afInet6
    · rw [if_pos hp]
      exact iff_of_false id fun h => h.2.1 hp
    · rw [if_neg hp]
      apply (returns_convert_iff (.inr rfl) rfl hs rfl).trans
      exact ⟨fun h => ⟨hl, hp, h⟩, fun h => h.2.2⟩

theorem returns_resolveTarget_iff (hs : cfg.sockAddrSocks.ssFamily = 0)
    (hz : cfg.target.1 = 0) (text : NarrowString) :
    Returns (resolveTarget env text) cfg (fun _ cfg' => Finishes env cfg') ↔
      (∃ infos ∈ env.getaddrinfo text cfg.protocol,
        Usable ((infos.find? AddrInfo.usable).map AddrInfo.addr)) ∧ Opened env cfg := by
  rw [resolveTarget, returns_bind_iff, returns_get_iff]
  cases hi : env.getaddrinfo text cfg.protocol with
  | none =>
    apply iff_of_false id
    intro hx
    obtain ⟨⟨infos, hm, _⟩, _⟩ := hx
    cases hm
  | some infos =>
    cases infos with
    | nil =>
      apply iff_of_false id
      intro hx
      obtain ⟨⟨infos, hm, hu⟩, _⟩ := hx
      cases hm
      exact not_usable_none hu
    | cons info infos =>
      simp only
      cases hu : (info :: infos).find? AddrInfo.usable with
      | none =>
        rw [returns_pure_iff]
        apply iff_of_false
        · exact fun hf => hf.target_ne hz
        · intro h
          obtain ⟨⟨infos, hm, h⟩, _⟩ := h
          cases hm
          rw [hu] at h
          exact not_usable_none h
      | some info' =>
        have hfam := AddrInfo.usable_family (List.find?_some hu)
        simp only [returns_bind_iff, returns_setParameters_iff, returns_setStrings_iff,
          returns_get_iff]
        have husable : (∃ infos' ∈ some (info :: infos),
            Usable ((infos'.find? AddrInfo.usable).map AddrInfo.addr)) ↔
            checkEmptyBuffer info'.addr = false := by
          simp [hu, usable_some_iff]
        rw [husable]
        exact finishes_of_family hs hfam

theorem returns_readDomain_iff (hs : cfg.sockAddrSocks.ssFamily = 0) (hz : cfg.target.1 = 0) :
    Returns (readDomain env ip (env.wideCharToMultiByte ip)) cfg
        (fun _ cfg' => Finishes env cfg') ↔
      2 < ip.length ∧ (∃ infos ∈ env.getaddrinfo (env.wideCharToMultiByte ip) cfg.protocol,
        Usable ((infos.find? AddrInfo.usable).map AddrInfo.addr)) ∧ Opened env cfg := by
  rw [readDomain]
  by_cases hl : ip.length ≤ 2
  · rw [if_pos hl]
    exact iff_of_false id fun h => absurd hl (Nat.not_le.2 h.1)
  · have hn : ¬0 < cfg.sockAddrSocks.ssFamily := by
      rw [hs]
      exact UInt16.lt_irrefl 0
    rw [if_neg hl, returns_bind_iff, returns_get_iff, if_neg hn, returns_resolveTarget_iff hs hz]
    exact ⟨fun h => ⟨Nat.not_le.1 hl, h⟩, fun h => h.2⟩

theorem returns_readTarget_iff (hs : cfg.sockAddrSocks.ssFamily = 0) (hz : cfg.target.1 = 0) :
    Returns (readTarget env ip) cfg (fun _ cfg' => Finishes env cfg') ↔
      TargetAccepted env cfg.protocol ip ∧ Opened env cfg := by
  rw [readTarget, TargetAccepted]
  by_cases hl : ip.length < 2 ∨ 256 < ip.length
  · rw [if_pos hl]
    apply iff_of_false id
    intro h
    obtain ⟨⟨h₁, h₂, _⟩, _⟩ := h
    omega
  · rw [if_neg hl]
    dsimp only
    by_cases hc : asciiColon ∈ env.wideCharToMultiByte ip
    · rw [if_pos hc, if_pos hc, returns_readIpv6_iff hs]
      apply Iff.intro
      · intro h
        obtain ⟨hl', hp, hu, ho⟩ := h
        exact ⟨⟨by omega, by omega, by omega, hp, hu⟩, ho⟩
      · intro h
        obtain ⟨⟨_, _, hl', hp, hu⟩, ho⟩ := h
        exact ⟨by omega, hp, hu, ho⟩
    · rw [if_neg hc, if_neg hc]
      by_cases hd : (env.wideCharToMultiByte ip).any domainChar = true
      · rw [if_pos hd, if_pos hd, returns_readDomain_iff hs hz]
        apply Iff.intro
        · intro h
          obtain ⟨hl', hu, ho⟩ := h
          exact ⟨⟨by omega, by omega, hl', hu⟩, ho⟩
        · intro h
          obtain ⟨⟨_, _, hl', hu⟩, ho⟩ := h
          exact ⟨hl', hu, ho⟩
      · rw [if_neg hd, if_neg hd]
        by_cases he : env.wideCharToMultiByte ip ≠ []
        · rw [if_pos he, returns_readIpv4_iff hs]
          apply Iff.intro
          · intro h
            obtain ⟨hl', hp, hu, ho⟩ := h
            exact ⟨⟨by omega, by omega, he, by omega, by omega, hp, hu⟩, ho⟩
          · intro h
            obtain ⟨⟨_, _, _, h₇, h₁₅, hp, hu⟩, ho⟩ := h
            exact ⟨by omega, hp, hu, ho⟩
        · rw [if_neg he, returns_pure_iff]
          apply iff_of_false
          · exact fun hf => hf.target_ne hz
          · intro h
            obtain ⟨⟨_, _, he', _⟩, _⟩ := h
            exact he he'

theorem returns_readLast_iff (hs : cfg.sockAddrSocks.ssFamily = 0) (hz : cfg.target.1 = 0) :
    Returns (readCommands env [ip]) cfg (fun _ cfg' => Finishes env cfg') ↔
      IsOperand env ip ∧ TargetAccepted env cfg.protocol ip ∧ Opened env cfg := by
  by_cases hh : asksHelp ip = true
  · rw [readCommands, if_pos hh, readCommands, returns_pure_iff]
    apply iff_of_false
    · exact fun hf => hf.target_ne hz
    · intro hx
      obtain ⟨⟨hn, _⟩, _⟩ := hx
      exact absurd (hh.symm.trans hn) Bool.noConfusion
  · cases ho : switchOptions.find? fun opt => named opt.short opt.long ip with
    | some opt =>
      have hsw := switchOptions_target opt (List.mem_of_find?_eq_some ho)
      simp only [readCommands, if_neg hh, ho, returns_bind_iff, returns_setParameters_iff,
        returns_pure_iff]
      apply iff_of_false
      · intro hf
        apply hf.target_ne
        exact (congrArg Prod.fst (hsw cfg.toParameterBlock)).trans hz
      · intro hx
        obtain ⟨⟨_, hn, _⟩, _⟩ := hx
        rw [namesSwitch, ho] at hn
        cases hn
    | none =>
      cases ha : argumentOption env ip with
      | some read =>
        simp only [readCommands, if_neg hh, ho, ha]
        apply iff_of_false id
        intro hx
        obtain ⟨⟨_, _, hn⟩, _⟩ := hx
        rw [namesArgumentOption, ha] at hn
        cases hn
      | none =>
        have hoperand : IsOperand env ip := by
          simp [IsOperand, hh, namesSwitch, namesArgumentOption, ho, ha]
        simp only [readCommands, if_neg hh, ho, ha, returns_bind_iff, returns_pure_iff]
        rw [readOperand, returns_bind_iff, returns_get_iff]
        have hlast : ¬(cfg.rawData = none ∧ cfg.testDomain = [] ∧ ([] : List WString).length = 1) :=
          fun h => absurd h.2.2 (by decide)
        rw [if_neg hlast, if_pos List.length_nil, returns_readTarget_iff hs hz]
        exact ⟨fun h => ⟨hoperand, h⟩, fun h => h.2⟩

theorem named_cases (h : named short long parameter = true) :
    parameter = wide short ∨ parameter = wide long := by
  simpa [named] using h

def Dashed (name : String) : Prop := (wide name).head? = some 0x2D

instance (name : String) : Decidable (Dashed name) := inferInstanceAs (Decidable (_ = _))

theorem not_named (hs : Dashed short) (hl : Dashed long) (h : parameter.head? ≠ some 0x2D) :
    ¬named short long parameter = true := by
  intro hn
  rcases named_cases hn with rfl | rfl
  · exact h hs
  · exact h hl

theorem switchOptions_dashed : ∀ opt ∈ switchOptions, Dashed opt.short ∧ Dashed opt.long := by
  decide

theorem numberOptions_dashed : ∀ opt ∈ numberOptions, Dashed opt.short ∧ Dashed opt.long := by
  decide

theorem nameOptions_dashed : ∀ opt ∈ nameOptions, Dashed opt.short ∧ Dashed opt.long := by
  decide

theorem argumentOption_undashed (h : parameter.head? ≠ some 0x2D) :
    argumentOption env parameter = none := by
  have hnumber : (numberOptions.find? fun opt => named opt.short opt.long parameter) = none :=
    List.find?_eq_none.2 fun opt ho =>
      not_named (numberOptions_dashed opt ho).1 (numberOptions_dashed opt ho).2 h
  have hname : (nameOptions.find? fun opt => named opt.short opt.long parameter) = none :=
    List.find?_eq_none.2 fun opt ho =>
      not_named (nameOptions_dashed opt ho).1 (nameOptions_dashed opt ho).2 h
  rw [argumentOption, hnumber, hname]
  dsimp only
  rw [if_neg (not_named (by decide) (by decide) h), if_neg (not_named (by decide) (by decide) h),
    if_neg (not_named (by decide) (by decide) h), if_neg (not_named (by decide) (by decide) h),
    if_neg (not_named (by decide) (by decide) h), if_neg (not_named (by decide) (by decide) h),
    if_neg (not_named (by decide) (by decide) h)]

theorem isOperand_of_undashed (h : parameter.head? ≠ some 0x2D) (hq : 0x3F ∉ parameter) :
    IsOperand env parameter := by
  have hswitch : (switchOptions.find? fun opt => named opt.short opt.long parameter) = none :=
    List.find?_eq_none.2 fun opt ho =>
      not_named (switchOptions_dashed opt ho).1 (switchOptions_dashed opt ho).2 h
  have hhelp : ¬named "-h" "--help" parameter = true :=
    not_named (by decide) (by decide) h
  refine ⟨?_, ?_, ?_⟩
  · simp [asksHelp, hq, hhelp]
  · rw [namesSwitch, hswitch]
    rfl
  · rw [namesArgumentOption, argumentOption_undashed h]
    rfl

theorem requestedProtocol_eq_zero
    (h : ∀ s ∈ ["-6", "--ipv6", "-4", "--ipv4"], url ≠ wide s) : requestedProtocol url = 0 := by
  have h₆ : ¬named "-6" "--ipv6" url = true := by
    intro hn
    rcases named_cases hn with hn | hn
    · exact h _ (by decide) hn
    · exact h _ (by decide) hn
  have h₄ : ¬named "-4" "--ipv4" url = true := by
    intro hn
    rcases named_cases hn with hn | hn
    · exact h _ (by decide) hn
    · exact h _ (by decide) hn
  rw [requestedProtocol, if_neg h₆, if_neg h₄]

theorem requestedProtocol_of_asksHelp (h : asksHelp url = true) : requestedProtocol url = 0 := by
  have hnames : ∀ s ∈ ["-6", "--ipv6", "-4", "--ipv4"], asksHelp (wide s) = false := by decide
  apply requestedProtocol_eq_zero
  intro s hs he
  obtain rfl := he
  exact absurd (h.symm.trans (hnames s hs)) Bool.noConfusion

theorem requestedProtocol_of_operand (h : namesSwitch url = false) :
    requestedProtocol url = 0 := by
  have hnames : ∀ s ∈ ["-6", "--ipv6", "-4", "--ipv4"], namesSwitch (wide s) = true := by decide
  apply requestedProtocol_eq_zero
  intro s hs he
  obtain rfl := he
  exact absurd (h.symm.trans (hnames s hs)) Bool.noConfusion

theorem switchOptions_requested : ∀ opt ∈ switchOptions,
    requestedProtocol (wide opt.short) = (opt.store {}).protocol ∧
      requestedProtocol (wide opt.long) = (opt.store {}).protocol := by decide

theorem switchOptions_protocol : ∀ opt ∈ switchOptions, ∀ block : ParameterBlock,
    block.protocol = 0 → (opt.store block).protocol = (opt.store {}).protocol := by
  simp [switchOptions, toggleFlag]

theorem switchOptions_socks : ∀ opt ∈ switchOptions, ∀ block : ParameterBlock,
    (opt.store block).sockAddrSocks = block.sockAddrSocks := by
  simp [switchOptions, toggleFlag]

theorem requestedProtocol_of_switch {block : ParameterBlock}
    (ho : (switchOptions.find? fun opt => named opt.short opt.long url) = some opt)
    (hp : block.protocol = 0) : (opt.store block).protocol = requestedProtocol url := by
  have hm := List.mem_of_find?_eq_some ho
  have hn := List.find?_some ho
  obtain ⟨hshort, hlong⟩ := switchOptions_requested opt hm
  rw [switchOptions_protocol opt hm block hp]
  rcases named_cases hn with rfl | rfl
  · exact hshort.symm
  · exact hlong.symm

theorem not_returns_argument {read : WString → Dnsping Unit} (hz : cfg.target.1 = 0)
    (ha : argumentOption env url = some read) (argument : WString) :
    ¬Returns (read argument) cfg fun _ cfg' => Finishes env cfg' := by
  intro h
  obtain ⟨_, cfg', hf, hfin⟩ := (argumentOption_frame ha argument).returns h
  have he : cfg'.target.1 = cfg.target.1 := congrArg (fun x => x.2.1) hf
  exact hfin.target_ne (he.trans hz)

theorem returns_readOperand_iff {rest : Dnsping Unit} {Q : Unit → ConfigurationTable → Prop}
    (hr : ∀ domain, Returns rest { cfg with testDomain := domain } Q ↔ Returns rest cfg Q) :
    Returns (do
      readOperand env url 1
      rest) cfg Q ↔
      (cfg.rawData = none → cfg.testDomain = [] → 2 < url.length ∧ url.length ≤ 256) ∧
        Returns rest cfg Q := by
  rw [returns_bind_iff, readOperand, returns_bind_iff, returns_get_iff]
  by_cases hfresh : cfg.rawData = none ∧ cfg.testDomain = []
  · rw [if_pos ⟨hfresh.1, hfresh.2, rfl⟩, readTestDomain]
    by_cases hl : url.length ≤ 2 ∨ 256 < url.length
    · rw [if_pos hl]
      apply iff_of_false id
      intro h
      obtain ⟨h, _⟩ := h
      have := h hfresh.1 hfresh.2
      omega
    · rw [if_neg hl, returns_setStrings_iff]
      rw [hr]
      exact ⟨fun h => ⟨fun _ _ => by omega, h⟩, fun h => h.2⟩
  · rw [if_neg fun h => hfresh ⟨h.1, h.2.1⟩, if_neg (by decide), returns_pure_iff]
    exact ⟨fun h => ⟨fun h₁ h₂ => absurd ⟨h₁, h₂⟩ hfresh, h⟩, fun h => h.2⟩

theorem returns_readUrl_iff (hs : cfg.sockAddrSocks.ssFamily = 0) (hz : cfg.target.1 = 0)
    (hp : cfg.protocol = 0) :
    Returns (readCommands env [url, ip]) cfg (fun _ cfg' => Finishes env cfg') ↔
      UrlPasses env url cfg ∧ IsOperand env ip ∧
        TargetAccepted env (requestedProtocol url) ip ∧ Opened env cfg := by
  by_cases hh : asksHelp url = true
  · rw [readCommands, if_pos hh, returns_readLast_iff hs hz, hp,
      requestedProtocol_of_asksHelp hh]
    exact ⟨fun h => ⟨.inl hh, h⟩, fun h => h.2⟩
  · cases ho : switchOptions.find? fun opt => named opt.short opt.long url with
    | some opt =>
      have hm := List.mem_of_find?_eq_some ho
      have hpass : UrlPasses env url cfg := .inr (.inl (by rw [namesSwitch, ho]; rfl))
      have hs' : (opt.store cfg.toParameterBlock).sockAddrSocks.ssFamily = 0 := by
        rw [switchOptions_socks opt hm]
        exact hs
      have hz' : (opt.store cfg.toParameterBlock).target.1 = 0 := by
        rw [switchOptions_target opt hm]
        exact hz
      have hlast : Returns (readCommands env [ip])
          { cfg with toParameterBlock := opt.store cfg.toParameterBlock }
            (fun _ cfg' => Finishes env cfg') ↔ _ := returns_readLast_iff hs' hz'
      rw [readCommands, if_neg hh]
      simp only [ho]
      rw [returns_bind_iff, returns_setParameters_iff, hlast,
        ← requestedProtocol_of_switch ho hp]
      exact ⟨fun h => ⟨hpass, h⟩, fun h => h.2⟩
    | none =>
      cases ha : argumentOption env url with
      | some read =>
        simp only [readCommands, if_neg hh, ho, ha, returns_bind_iff, returns_pure_iff]
        apply iff_of_false (not_returns_argument hz ha ip)
        intro hx
        obtain ⟨hu | hu | ⟨hu, _⟩, _⟩ := hx
        · exact hh hu
        · rw [namesSwitch, ho] at hu
          cases hu
        · rw [namesArgumentOption, ha] at hu
          cases hu
      | none =>
        have hsw : namesSwitch url = false := by
          rw [namesSwitch, ho]
          rfl
        have harg : namesArgumentOption env url = false := by
          rw [namesArgumentOption, ha]
          rfl
        have hrest : ∀ domain, Returns (readCommands env [ip]) { cfg with testDomain := domain }
            (fun _ cfg' => Finishes env cfg') ↔
            Returns (readCommands env [ip]) cfg fun _ cfg' => Finishes env cfg' := by
          intro domain
          have hd : Returns (readCommands env [ip]) { cfg with testDomain := domain }
            (fun _ cfg' => Finishes env cfg') ↔ _ := returns_readLast_iff hs hz
          exact hd.trans (returns_readLast_iff hs hz).symm
        rw [readCommands, if_neg hh]
        simp only [ho, ha]
        apply (returns_readOperand_iff hrest).trans
        rw [returns_readLast_iff hs hz, hp, requestedProtocol_of_operand hsw]
        apply Iff.intro
        · intro h
          obtain ⟨hd, h⟩ := h
          exact ⟨.inr (.inr ⟨harg, hd⟩), h⟩
        · intro h
          obtain ⟨hu | hu | ⟨_, hd⟩, h⟩ := h
          · exact absurd hu hh
          · exact absurd (hu.symm.trans hsw) Bool.noConfusion
          · exact ⟨hd, h⟩

theorem returns_readOption_iff {read : WString → Dnsping Unit}
    {Q : Unit → ConfigurationTable → Prop} (hh : asksHelp parameter = false)
    (ho : (switchOptions.find? fun opt => named opt.short opt.long parameter) = none)
    (ha : argumentOption env parameter = some read) (argument : WString)
    (rest : List WString) :
    Returns (readCommands env (parameter :: argument :: rest)) cfg Q ↔
      Returns (read argument) cfg fun _ cfg' => Returns (readCommands env rest) cfg' Q := by
  rw [readCommands, if_neg (Bool.eq_false_iff.1 hh)]
  simp only [ho, ha]
  exact returns_bind_iff

theorem returns_readNumberOption_iff {Q : Unit → ConfigurationTable → Prop}
    (h : opt.accepts (readNumber parameter) = true) :
    Returns (readNumberOption opt parameter) cfg Q ↔
      Q () { cfg with
        toParameterBlock := opt.store (readNumber parameter) cfg.toParameterBlock } := by
  rw [readNumberOption, if_pos h]
  exact returns_setParameters_iff

/-- `A` is no number: the option of the type needs the name in the table. -/
theorem returns_readTypeA_iff {opt : NameOption} {Q : Unit → ConfigurationTable → Prop} :
    Returns (readNameOption env opt (wide "A")) cfg Q ↔
      opt.lookup env (wide "A") ≠ 0 ∧ Q () { cfg with
        toParameterBlock := opt.store (opt.lookup env (wide "A")) cfg.toParameterBlock } := by
  have hn : ¬within 1 0xFFFF (readNumber (wide "A")) = true := by decide
  rw [readNameOption]
  dsimp only
  by_cases ht : opt.lookup env (wide "A") ≠ 0
  · rw [if_pos ht, returns_setParameters_iff]
    exact ⟨fun h => ⟨ht, h⟩, fun h => h.2⟩
  · rw [if_neg ht, if_neg hn, returns_throw_iff]
    exact iff_of_false id fun h => ht h.1

theorem returns_readArguments_iff (hs : cfg.sockAddrSocks.ssFamily = 0) (hz : cfg.target.1 = 0)
    (hp : cfg.protocol = 0) :
    Returns (readCommands env [wide "-qt", wide "A", wide "-n", wide "3", wide "-w", wide "500",
        url, ip]) cfg (fun _ cfg' => Finishes env cfg') ↔
      env.dnsTypeNameToHex (wide "A") ≠ 0 ∧ UrlPasses env url cfg ∧ IsOperand env ip ∧
        TargetAccepted env (requestedProtocol url) ip ∧ Opened env cfg := by
  apply (returns_readOption_iff rfl rfl rfl _ _).trans
  apply returns_readTypeA_iff.trans
  apply and_congr_right'
  apply (returns_readOption_iff rfl rfl rfl _ _).trans
  apply (returns_readNumberOption_iff rfl).trans
  apply (returns_readOption_iff rfl rfl rfl _ _).trans
  apply (returns_readNumberOption_iff rfl).trans
  exact returns_readUrl_iff hs hz hp

theorem returns_configurationInitialization_iff {Q : Unit → ConfigurationTable → Prop} :
    Returns (configurationInitialization env) cfg Q ↔
      (env.setConsoleCtrlHandler = true ∧ env.wsaStartup = true) ∧ Q () { cfg with
        toParameterBlock :=
          { statisticsSend := 4, bufferSize := 1500, validate := true, socketTimeout := 2000 }
        toResultBlock := {} } := by
  rw [configurationInitialization, returns_bind_iff, returns_modify_iff]
  cases env.setConsoleCtrlHandler with
  | false => exact iff_of_false id fun h => Bool.noConfusion h.1.1
  | true =>
    cases env.wsaStartup with
    | false => exact iff_of_false id fun h => Bool.noConfusion h.1.2
    | true => exact ⟨fun h => ⟨⟨rfl, rfl⟩, h⟩, fun h => h.2⟩

/-- The preparation of a ping leaves a target exactly when one is given. -/
theorem returns_prepare_iff (moduleFileName : WString) :
    Returns (prepare env [moduleFileName, wide "-qt", wide "A", wide "-n", wide "3", wide "-w",
        wide "500", url, ip]) cfg (fun _ cfg' => cfg'.target.1 ≠ 0) ↔
      TargetGiven env ip url cfg := by
  rw [prepare, returns_bind_iff, returns_configurationInitialization_iff]
  have hread : Returns (readCommands env [wide "-qt", wide "A", wide "-n", wide "3", wide "-w",
      wide "500", url, ip]) { cfg with
        toParameterBlock :=
          { statisticsSend := 4, bufferSize := 1500, validate := true, socketTimeout := 2000 }
        toResultBlock := {} } (fun _ cfg' => Finishes env cfg') ↔ _ :=
    returns_readArguments_iff rfl rfl rfl
  apply Iff.intro
  · intro h
    obtain ⟨hstart, h⟩ := h
    obtain ⟨ht, hu, hoperand, hacc, ho⟩ := hread.1 (returns_bind_iff.1 h)
    exact ⟨hstart, ht, hu, hoperand, hacc, ho⟩
  · intro h
    apply And.intro h.started
    exact returns_bind_iff.2 (hread.2 ⟨h.typed, h.passes, h.operand, h.accepted, h.opened⟩)

end Reading

end LdnsSelector
