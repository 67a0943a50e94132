import LdnsSelector.PingVerdict

set_option autoImplicit true

open EStateM

namespace LdnsSelector

/-- The configuration when the options of a ping have been read. The members with constructors
are as an earlier call left them. -/
def opening (env : Surroundings) (strings : StlBlock) : ConfigurationTable where
  statisticsSend := 3
  bufferSize := 1500
  validate := true
  socketTimeout := 500
  parameterQuery := { type := env.dnsTypeNameToHex (wide "A") }
  toStlBlock := strings

/-- `dnsping_main` up to the end of `ReadCommands`. -/
def readArguments (env : Surroundings) (argv : List WString) : Dnsping Unit := do
  configurationInitialization env
  readCommands env argv.tail

theorem prepare_eq (env : Surroundings) (argv : List WString) :
    prepare env argv = (do
      readArguments env argv
      finish env) := by
  rw [prepare, readArguments, bind_assoc]
  rfl

theorem readCommands_option {read : WString → Dnsping Unit} (hh : asksHelp parameter = false)
    (ho : (switchOptions.find? fun opt => named opt.short opt.long parameter) = none)
    (ha : argumentOption env parameter = some read) (argument : WString) (rest : List WString) :
    readCommands env (parameter :: argument :: rest) = (do
      read argument
      readCommands env rest) := by
  rw [readCommands, if_neg (Bool.eq_false_iff.1 hh)]
  simp only [ho, ha]

theorem readNumberOption_accepted (h : opt.accepts (readNumber parameter) = true) :
    readNumberOption opt parameter = setParameters (opt.store (readNumber parameter)) :=
  if_pos h

theorem readOptions_cases (env : Surroundings) (rest : List WString) (cfg : ConfigurationTable) :
    (∃ e, readCommands env (wide "-qt" :: wide "A" :: wide "-n" :: wide "3" :: wide "-w" ::
      wide "500" :: rest) cfg = .error e cfg) ∨
    readCommands env (wide "-qt" :: wide "A" :: wide "-n" :: wide "3" :: wide "-w" ::
      wide "500" :: rest) cfg = readCommands env rest { cfg with
        parameterQuery.type := env.dnsTypeNameToHex (wide "A")
        statisticsSend := 3
        socketTimeout := 500 } := by
  rw [readCommands_option rfl rfl rfl, readCommands_option rfl rfl rfl,
    readCommands_option rfl rfl rfl]
  have hn : ¬within 1 0xFFFF (readNumber (wide "A")) = true := by decide
  rw [readNameOption]
  dsimp only
  by_cases ht : env.dnsTypeNameToHex (wide "A") ≠ 0
  · right
    rw [if_pos ht, readNumberOption_accepted rfl, readNumberOption_accepted rfl]
    rfl
  · left
    rw [if_neg ht, if_neg hn]
    exact ⟨_, rfl⟩

theorem configurationInitialization_cases (env : Surroundings) (cfg : ConfigurationTable) :
    (∃ e cfg', configurationInitialization env cfg = .error e cfg' ∧
      cfg'.toStlBlock = cfg.toStlBlock) ∨
    configurationInitialization env cfg = .ok () { cfg with
      toParameterBlock :=
        { statisticsSend := 4, bufferSize := 1500, validate := true, socketTimeout := 2000 }
      toResultBlock := {} } := by
  cases hc : env.setConsoleCtrlHandler with
  | false =>
    left
    simp only [configurationInitialization, hc]
    exact ⟨_, _, rfl, rfl⟩
  | true =>
    cases hw : env.wsaStartup with
    | false =>
      left
      simp only [configurationInitialization, hc, hw]
      exact ⟨_, _, rfl, rfl⟩
    | true =>
      right
      simp only [configurationInitialization, hc, hw]
      rfl

theorem readArguments_cases (env : Surroundings) (moduleFileName url ip : WString)
    (cfg : ConfigurationTable) :
    (∃ e cfg', readArguments env (pingArguments moduleFileName url ip) cfg = .error e cfg' ∧
      cfg'.toStlBlock = cfg.toStlBlock) ∨
    readArguments env (pingArguments moduleFileName url ip) cfg =
      readCommands env [url, ip] (opening env cfg.toStlBlock) := by
  rw [readArguments]
  rcases configurationInitialization_cases env cfg with ⟨e, cfg', hi, hs⟩ | hi
  · exact .inl ⟨e, cfg', bind_apply_error hi _, hs⟩
  · rw [bind_apply_ok hi]
    rcases readOptions_cases env [url, ip] _ with ⟨e, he⟩ | he
    · exact .inl ⟨e, _, he, rfl⟩
    · exact .inr he

/-- The strings without the two texts of the target, which are only printed. -/
def StlBlock.observed (strings : StlBlock) : StlBlock :=
  { strings with targetStringNormal := [], targetAddressString := [] }

def ConfigurationTable.observed (cfg : ConfigurationTable) : ConfigurationTable :=
  { cfg with toStlBlock := cfg.toStlBlock.observed }

/-- What has to be known of a property of programs for reading the target `text` to have it. -/
structure TargetSteps (K : {α : Type} → Dnsping α → Prop) (text : NarrowString) : Prop where
  pure : ∀ {α : Type} (a : α), K (Pure.pure a)
  throw : ∀ {α : Type} (e : String), K (MonadExcept.throw e : Dnsping α)
  bind : ∀ {α β : Type} {x : Dnsping α} {f : α → Dnsping β}, K x → (∀ a, K (f a)) → K (x >>= f)
  get_bind : ∀ {α : Type} {f : ConfigurationTable → Dnsping α}, (∀ cfg, K (f cfg)) →
    (∀ s s' : ConfigurationTable, s.toParameterBlock = s'.toParameterBlock → f s = f s') →
    K (MonadState.get >>= f)
  setParameters : ∀ {f : ParameterBlock → ParameterBlock},
    (∀ block, (f block).sockAddrSocks = block.sockAddrSocks) → K (setParameters f)
  setTexts : ∀ {g : StlBlock → StlBlock}, (∀ strings, (g strings).observed = strings.observed ∧
    ((g strings).targetAddressString = strings.targetAddressString ∨
      (g strings).targetAddressString = text)) → K (setStrings g)

namespace TargetSteps

variable {env : Surroundings} {K : {α : Type} → Dnsping α → Prop} {text : NarrowString}

theorem setTarget (h : TargetSteps K text) (target : StlBlock → NarrowString) :
    K (setStrings fun strings => { strings with targetStringNormal := target strings }) :=
  h.setTexts fun _ => ⟨rfl, .inl rfl⟩

theorem convert (h : TargetSteps K text) {f : ParameterBlock → ParameterBlock}
    (hf : ∀ block, (f block).sockAddrSocks = block.sockAddrSocks)
    (target : StlBlock → NarrowString) :
    K (convertText env f text' family e fun strings =>
      { strings with targetStringNormal := target strings }) := by
  rw [convertText]
  apply h.bind (h.setParameters hf)
  intro _
  cases env.addressStringToBinary text' family with
  | none => exact h.throw _
  | some addr =>
    apply h.bind
    · exact h.setParameters fun _ => rfl
    intro _
    exact h.setTarget target

theorem readIpv6 (h : TargetSteps K text) (ip : WString) :
    K (LdnsSelector.readIpv6 env ip text) := by
  rw [LdnsSelector.readIpv6]
  split
  · exact h.throw _
  apply h.get_bind
  · intro cfg
    split
    · exact h.throw _
    · apply h.convert
      exact fun _ => rfl
  · intro s s' hs
    rw [hs]

theorem readIpv4 (h : TargetSteps K text) (ip : WString) :
    K (LdnsSelector.readIpv4 env ip text) := by
  rw [LdnsSelector.readIpv4]
  split
  · exact h.throw _
  apply h.get_bind
  · intro cfg
    split
    · exact h.throw _
    · apply h.convert
      exact fun _ => rfl
  · intro s s' hs
    rw [hs]

theorem resolveTarget (h : TargetSteps K text) : K (LdnsSelector.resolveTarget env text) := by
  apply h.get_bind
  · intro cfg
    cases env.getaddrinfo text cfg.protocol with
    | none => exact h.throw _
    | some infos =>
      cases infos with
      | nil => exact h.throw _
      | cons info infos =>
        simp only
        cases (info :: infos).find? AddrInfo.usable with
        | none => exact h.pure _
        | some info' =>
          apply h.bind
          · exact h.setParameters fun _ => rfl
          intro _
          apply h.get_bind
          · intro cfg'
            exact h.setTexts fun _ => ⟨rfl, .inr rfl⟩
          · intro s s' hs
            rw [hs]
  · intro s s' hs
    rw [hs]

theorem readDomain (h : TargetSteps K text) (ip : WString) :
    K (LdnsSelector.readDomain env ip text) := by
  rw [LdnsSelector.readDomain]
  split
  · exact h.throw _
  apply h.get_bind
  · intro cfg
    split
    · exact h.setTarget _
    · exact h.resolveTarget
  · intro s s' hs
    rw [hs]

theorem readTarget (h : TargetSteps K (env.wideCharToMultiByte ip)) :
    K (LdnsSelector.readTarget env ip) := by
  rw [LdnsSelector.readTarget]
  dsimp only
  split
  · exact h.throw _
  split
  · exact h.readIpv6 ip
  split
  · exact h.readDomain ip
  split
  · exact h.readIpv4 ip
  · exact h.pure _

end TargetSteps

/-- The members that only an option sets are as when the process began, and the name of the
target is one that an argument has room for. -/
structure Pristine (strings : StlBlock) : Prop where
  socksUsername : strings.socksUsername = []
  socksPassword : strings.socksPassword = []
  targetStringSocks : strings.targetStringSocks = []
  wOutputFileName : strings.wOutputFileName = []
  rawData : strings.rawData = none
  targetAddressString_length : strings.targetAddressString.length ≤ 64

theorem pristine_initial : Pristine {} := ⟨rfl, rfl, rfl, rfl, rfl, Nat.zero_le _⟩

def Direct (cfg : ConfigurationTable) : Prop :=
  Pristine cfg.toStlBlock ∧ cfg.sockAddrSocks.ssFamily = 0

theorem direct_opening (env : Surroundings) (h : Pristine strings) :
    Direct (opening env strings) := ⟨h, rfl⟩

section Reading

variable {env : Surroundings}

theorem setParameters_direct {f : ParameterBlock → ParameterBlock}
    (h : ∀ block, (f block).sockAddrSocks = block.sockAddrSocks) :
    Maintains Direct (setParameters f) := by
  apply Maintains.modify
  intro cfg hc
  exact ⟨hc.1, (congrArg SockAddr.ssFamily (h cfg.toParameterBlock)).trans hc.2⟩

theorem setStrings_direct {g : StlBlock → StlBlock} (h : ∀ strings, Pristine strings →
    Pristine (g strings)) : Maintains Direct (setStrings g) :=
  Maintains.modify fun cfg hc => ⟨h cfg.toStlBlock hc.1, hc.2⟩

theorem directSteps (hl : text.length ≤ 64) : TargetSteps (Maintains Direct) text where
  pure := Maintains.pure
  throw := Maintains.throw
  bind := Maintains.bind
  get_bind hf _ := Maintains.bind Maintains.get hf
  setParameters := setParameters_direct
  setTexts hg := setStrings_direct fun strings h => {
    socksUsername := (congrArg StlBlock.socksUsername (hg strings).1).trans h.socksUsername
    socksPassword := (congrArg StlBlock.socksPassword (hg strings).1).trans h.socksPassword
    targetStringSocks :=
      (congrArg StlBlock.targetStringSocks (hg strings).1).trans h.targetStringSocks
    wOutputFileName := (congrArg StlBlock.wOutputFileName (hg strings).1).trans h.wOutputFileName
    rawData := (congrArg StlBlock.rawData (hg strings).1).trans h.rawData
    targetAddressString_length := by
      rcases (hg strings).2 with he | he
      · rw [he]
        exact h.targetAddressString_length
      · rw [he]
        exact hl }

theorem readTarget_direct (hl : (env.wideCharToMultiByte ip).length ≤ 64) :
    Maintains Direct (readTarget env ip) :=
  (directSteps hl).readTarget

theorem readTestDomain_direct (parameter : WString) :
    Maintains Direct (readTestDomain env parameter) := by
  rw [readTestDomain]
  split
  · exact Maintains.throw _
  · exact setStrings_direct fun _ h => ⟨h.1, h.2, h.3, h.4, h.5, h.6⟩

theorem readOperand_direct
    (hl : remaining = 0 → (env.wideCharToMultiByte parameter).length ≤ 64) :
    Maintains Direct (readOperand env parameter remaining) := by
  apply Maintains.bind Maintains.get
  intro cfg
  split
  · exact readTestDomain_direct parameter
  split
  · next hr => exact readTarget_direct (hl hr)
  · exact Maintains.pure _

theorem readSwitch_direct
    (ho : (switchOptions.find? fun opt => named opt.short opt.long parameter) = some opt) :
    Maintains Direct (setParameters opt.store) :=
  setParameters_direct (switchOptions_socks opt (List.mem_of_find?_eq_some ho))

theorem readLast_direct (hl : (env.wideCharToMultiByte ip).length ≤ 64) :
    Maintains Direct (readCommands env [ip]) := by
  rw [readCommands]
  split
  · exact Maintains.pure _
  cases ho : switchOptions.find? fun opt => named opt.short opt.long ip with
  | some opt => exact Maintains.bind (readSwitch_direct ho) fun _ => Maintains.pure _
  | none =>
    cases argumentOption env ip with
    | none => exact Maintains.bind (readOperand_direct fun _ => hl) fun _ => Maintains.pure _
    | some read => exact Maintains.throw _

theorem readUrl_direct (hurl : namesArgumentOption env url = false)
    (hl : (env.wideCharToMultiByte ip).length ≤ 64) :
    Maintains Direct (readCommands env [url, ip]) := by
  rw [readCommands]
  split
  · exact readLast_direct hl
  cases ho : switchOptions.find? fun opt => named opt.short opt.long url with
  | some opt => exact Maintains.bind (readSwitch_direct ho) fun _ => readLast_direct hl
  | none =>
    cases ha : argumentOption env url with
    | none =>
      apply Maintains.bind (readOperand_direct fun hr => absurd hr (Nat.succ_ne_zero 0))
      intro _
      exact readLast_direct hl
    | some read =>
      rw [namesArgumentOption, ha] at hurl
      cases hurl

end Reading

/-- `dnsping_main` up to the conversions of its strings. -/
def beforeConversions (env : Surroundings) (argv : List WString) : Dnsping Unit := do
  readArguments env argv
  checkTarget
  checkTimeout env

section Preparation

variable {env : Surroundings}

theorem checkTarget_cases (hc : cfg.sockAddrSocks.ssFamily = 0) :
    (∃ e, checkTarget cfg = .error e cfg) ∨
      (checkTarget cfg = .ok () { cfg with toParameterBlock := markPort cfg.toParameterBlock } ∧
        cfg.target.1 ≠ 0) := by
  rw [checkTarget, get_bind_apply]
  by_cases hf : cfg.sockAddrNormal.ssFamily = afInet6 ∨ cfg.sockAddrNormal.ssFamily = afInet
  · rw [if_pos hf]
    by_cases he : checkEmptyBuffer cfg.sockAddrNormal.addr = true
    · rw [if_pos he]
      exact .inl ⟨_, rfl⟩
    · rw [if_neg he]
      right
      apply And.intro rfl
      rcases hf with hf | hf
      · exact ne_of_eq_of_ne hf (by decide)
      · exact ne_of_eq_of_ne hf (by decide)
  · rw [if_neg hf, if_pos hc]
    exact .inl ⟨_, rfl⟩

theorem markPort_socks (block : ParameterBlock) :
    (markPort block).sockAddrSocks = block.sockAddrSocks := by
  rw [markPort]
  split
  · rfl
  · rfl

theorem shortenTimeout_socks (env : Surroundings) (block : ParameterBlock) :
    (shortenTimeout env block).sockAddrSocks = block.sockAddrSocks := by
  rw [shortenTimeout]
  split_ifs <;> rfl

theorem checkEdns_socks (block : ParameterBlock) :
    (checkEdns block).sockAddrSocks = block.sockAddrSocks := by
  rw [checkEdns]
  split
  · dsimp only
    split
    · rfl
    · rfl
  · rfl

theorem checkParameters_socks (block : ParameterBlock) :
    (checkEdns (checkQuery (checkHeader block))).sockAddrSocks = block.sockAddrSocks := by
  rw [checkEdns_socks]
  rfl

def checkedBlock (env : Surroundings) (block : ParameterBlock) : ParameterBlock :=
  checkEdns (checkQuery (checkHeader (shortenTimeout env (markPort block))))

theorem checkedBlock_socks (env : Surroundings) (block : ParameterBlock) :
    (checkedBlock env block).sockAddrSocks = block.sockAddrSocks := by
  rw [checkedBlock, checkParameters_socks, shortenTimeout_socks, markPort_socks]

theorem checkedBlock_target (env : Surroundings) (block : ParameterBlock) :
    (checkedBlock env block).target = block.target := by
  rw [checkedBlock, checkParameters_target, shortenTimeout_target, markPort_target]

theorem outputResultToFile_unnamed (h : cfg.wOutputFileName = []) :
    outputResultToFile env cfg = .ok () cfg := by
  rw [outputResultToFile, get_bind_apply, if_pos h]
  rfl

theorem finish_cases (env : Surroundings) (hc : Direct cfg) :
    (∃ e, checkTarget cfg = .error e cfg ∧ finish env cfg = .error e cfg) ∨
      ∃ cfg₁ cfg', checkTarget cfg = .ok () cfg₁ ∧ finish env cfg = .ok () cfg' ∧
        cfg₁.toStlBlock = cfg.toStlBlock ∧ cfg'.toStlBlock = cfg.toStlBlock ∧ Direct cfg' ∧
        cfg'.target = cfg.target ∧ cfg.target.1 ≠ 0 := by
  obtain ⟨hs, hz⟩ := hc
  rcases checkTarget_cases hz with ⟨e, he⟩ | ⟨he, ht⟩
  · left
    rw [finish]
    exact ⟨e, he, bind_apply_error he _⟩
  · right
    have hf : finish env cfg = .ok () { cfg with
        toParameterBlock := checkedBlock env cfg.toParameterBlock
        statisticsMinTime :=
          (shortenTimeout env (markPort cfg.toParameterBlock)).socketTimeout.toInt } := by
      rw [finish, bind_apply_ok he]
      change outputResultToFile env _ = _
      exact outputResultToFile_unnamed hs.wOutputFileName
    have hz' := congrArg SockAddr.ssFamily (checkedBlock_socks env cfg.toParameterBlock)
    have ht' := checkedBlock_target env cfg.toParameterBlock
    exact ⟨_, _, he, hf, rfl, rfl, ⟨hs, hz'.trans hz⟩, ht', ht⟩

variable {url ip : WString}

/-- A ping of a url that reads as no option with an argument either fails in the preparation or
is prepared with a target. In both cases it leaves the members pristine. -/
theorem prepare_pristine (moduleFileName : WString) (hurl : namesArgumentOption env url = false)
    (hl : (env.wideCharToMultiByte ip).length ≤ 64) (hs : Pristine cfg.toStlBlock) :
    (∃ e e' cfg₁ cfg', beforeConversions env (pingArguments moduleFileName url ip) cfg =
      .error e cfg₁ ∧ prepare env (pingArguments moduleFileName url ip) cfg = .error e' cfg' ∧
        Pristine cfg'.toStlBlock) ∨
    ∃ cfg₁ cfg', beforeConversions env (pingArguments moduleFileName url ip) cfg =
      .ok () cfg₁ ∧ prepare env (pingArguments moduleFileName url ip) cfg = .ok () cfg' ∧
        cfg₁.toStlBlock = cfg'.toStlBlock ∧ Direct cfg' ∧ cfg'.target.1 ≠ 0 := by
  rw [prepare_eq, beforeConversions]
  rcases readArguments_cases env moduleFileName url ip cfg with ⟨e, cfg', he, hs'⟩ | he
  · left
    refine ⟨e, e, cfg', cfg', bind_apply_error he _, bind_apply_error he _, ?_⟩
    rw [hs']
    exact hs
  · have hdirect := readUrl_direct hurl hl _ (direct_opening env hs)
    rw [Ensures, ← he] at hdirect
    cases hr : readArguments env (pingArguments moduleFileName url ip) cfg with
    | error e cfg' =>
      rw [hr] at hdirect
      exact .inl ⟨e, e, cfg', cfg', bind_apply_error hr _, bind_apply_error hr _, hdirect.1⟩
    | ok u cfg₀ =>
      rw [hr] at hdirect
      rw [bind_apply_ok hr, bind_apply_ok hr]
      rcases finish_cases env hdirect with
        ⟨e, hce, hfe⟩ | ⟨cfg₁, cfg', hc, hf, h₁, h', hd, ht, hne⟩
      · exact .inl ⟨e, e, cfg₀, cfg₀, bind_apply_error hce _, hfe, hdirect.1⟩
      · right
        rw [bind_apply_ok hc]
        rw [← ht] at hne
        exact ⟨_, cfg', rfl, hf, h₁.trans h'.symm, hd, hne⟩

end Preparation

section Hidden

variable {env : Surroundings}

open ConfigurationTable

end Hidden

end LdnsSelector
