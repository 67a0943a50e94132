import LdnsSelector.DnspingMain

set_option autoImplicit true

open EStateM

namespace LdnsSelector

def ConfigurationTable.tally (cfg : ConfigurationTable) : UInt32 × UInt32 × ℚ :=
  (cfg.statisticsRealSend, cfg.statisticsRecvNum, cfg.statisticsTotalTime)

def ParameterBlock.target (block : ParameterBlock) : UInt16 × List UInt8 :=
  (block.sockAddrNormal.ssFamily, block.sockAddrNormal.addr)

/-- What the options leave alone. -/
def ConfigurationTable.frame (cfg : ConfigurationTable) :
    (UInt32 × UInt32 × ℚ) × UInt16 × List UInt8 := (cfg.tally, cfg.target)

/-- The addresses a string stands for: as an address of either family, or as a host name. -/
inductive Denotes (env : Surroundings) (s : WString) : UInt16 × List UInt8 → Prop where
  | ipv6 (h : env.addressStringToBinary (env.wideCharToMultiByte s) afInet6 = some addr) :
      Denotes env s (afInet6, addr)
  | ipv4 (h : env.addressStringToBinary (env.wideCharToMultiByte s) afInet = some addr) :
      Denotes env s (afInet, addr)
  | resolved (h : env.getaddrinfo (env.wideCharToMultiByte s) protocol = some infos)
      (hm : info ∈ infos) (hf : info.aiFamily = afInet6 ∨ info.aiFamily = afInet) :
      Denotes env s (info.aiFamily, info.addr)

theorem Denotes.family_ne_zero (h : Denotes env s target) : target.1 ≠ 0 := by
  have h6 : afInet6 ≠ 0 := by decide
  have h4 : afInet ≠ 0 := by decide
  cases h with
  | ipv6 => exact h6
  | ipv4 => exact h4
  | resolved _ _ hf =>
    rcases hf with hf | hf
    · exact ne_of_eq_of_ne hf h6
    · exact ne_of_eq_of_ne hf h4

section Options

theorem setStrings_frame (f : StlBlock → StlBlock) :
    Preserves ConfigurationTable.frame (setStrings f) :=
  Preserves.modify fun _ => rfl

theorem setParameters_frame {f : ParameterBlock → ParameterBlock}
    (h : ∀ block, (f block).target = block.target) :
    Preserves ConfigurationTable.frame (setParameters f) :=
  Preserves.modify fun cfg => Prod.ext rfl (h cfg.toParameterBlock)

theorem switchOptions_target :
    ∀ opt ∈ switchOptions, ∀ block, (opt.store block).target = block.target := by
  simp [switchOptions, toggleFlag, ParameterBlock.target]

theorem numberOptions_target :
    ∀ opt ∈ numberOptions, ∀ result block, (opt.store result block).target = block.target := by
  simp [numberOptions, ParameterBlock.target]

theorem nameOptions_target :
    ∀ opt ∈ nameOptions, ∀ result block, (opt.store result block).target = block.target := by
  simp [nameOptions, ParameterBlock.target]

theorem readNumberOption_frame (h : opt ∈ numberOptions) (parameter : WString) :
    Preserves ConfigurationTable.frame (readNumberOption opt parameter) := by
  rw [readNumberOption]
  split
  · exact setParameters_frame (numberOptions_target opt h _)
  · exact Preserves.throw _ _

theorem readNameOption_frame (env : Surroundings) (h : opt ∈ nameOptions)
    (parameter : WString) :
    Preserves ConfigurationTable.frame (readNameOption env opt parameter) := by
  unfold readNameOption
  dsimp only
  split
  · exact setParameters_frame (nameOptions_target opt h _)
  split
  · exact setParameters_frame (nameOptions_target opt h _)
  · exact Preserves.throw _ _

theorem readRawData_frame (env : Surroundings) (parameter : WString) :
    Preserves ConfigurationTable.frame (readRawData env parameter) := by
  apply Preserves.bind (setStrings_frame _)
  intro _
  apply Preserves.bind
  · exact setParameters_frame fun _ => rfl
  intro _
  split
  · exact Preserves.pure _ _
  · exact Preserves.throw _ _

theorem readRaw_frame (env : Surroundings) (parameter : WString) :
    Preserves ConfigurationTable.frame (readRaw env parameter) := by
  apply Preserves.bind
  · exact setParameters_frame fun _ => rfl
  intro _
  dsimp only
  split
  · exact setParameters_frame fun _ => rfl
  split
  · exact setParameters_frame fun _ => rfl
  split
  · exact setParameters_frame fun _ => rfl
  · exact Preserves.throw _ _

theorem readSocks_frame (env : Surroundings) (parameter : WString) :
    Preserves ConfigurationTable.frame (readSocks env parameter) := by
  apply Preserves.bind (setStrings_frame _)
  intro _
  apply Preserves.bind (Preserves.get _)
  intro cfg
  cases env.readSocksTarget parameter cfg.protocol with
  | ok target => exact setParameters_frame fun _ => rfl
  | error text => exact Preserves.throw _ _

theorem readSocksUsername_frame (env : Surroundings) (parameter : WString) :
    Preserves ConfigurationTable.frame (readSocksUsername env parameter) := by
  apply Preserves.bind (setStrings_frame _)
  intro _
  split
  · exact Preserves.throw _ _
  · exact Preserves.pure _ _

theorem readSocksPassword_frame (env : Surroundings) (parameter : WString) :
    Preserves ConfigurationTable.frame (readSocksPassword env parameter) := by
  apply Preserves.bind (setStrings_frame _)
  intro _
  split
  · exact Preserves.throw _ _
  · exact Preserves.pure _ _

theorem readShow_frame (parameter : WString) :
    Preserves ConfigurationTable.frame (readShow parameter) := by
  rw [readShow]
  split
  · exact setParameters_frame fun _ => rfl
  split
  · exact setParameters_frame fun _ => rfl
  · exact Preserves.throw _ _

theorem readOutputFile_frame (parameter : WString) :
    Preserves ConfigurationTable.frame (readOutputFile parameter) := by
  rw [readOutputFile]
  split
  · exact setStrings_frame _
  · exact Preserves.throw _ _

theorem argumentOption_frame {read : WString → Dnsping Unit}
    (h : argumentOption env parameter = some read) (argument : WString) :
    Preserves ConfigurationTable.frame (read argument) := by
  rw [argumentOption] at h
  split at h
  case h_1 opt hopt =>
    cases h
    exact readNumberOption_frame (List.mem_of_find?_eq_some hopt) argument
  split at h
  case h_1 opt hopt =>
    cases h
    exact readNameOption_frame env (List.mem_of_find?_eq_some hopt) argument
  split_ifs at h
  · cases h
    exact readRawData_frame env argument
  · cases h
    exact readRaw_frame env argument
  · cases h
    exact readSocks_frame env argument
  · cases h
    exact readSocksUsername_frame env argument
  · cases h
    exact readSocksPassword_frame env argument
  · cases h
    exact readShow_frame argument
  · cases h
    exact readOutputFile_frame argument

end Options

section Target

/-- After reading from `cfg` the counters are as before, and the target is as before or what
`last` stands for. -/
def Aimed (env : Surroundings) (last : WString) (cfg cfg' : ConfigurationTable) : Prop :=
  cfg'.tally = cfg.tally ∧ (cfg'.target = cfg.target ∨ Denotes env last cfg'.target)

theorem Aimed.of_frame (h : cfg'.frame = cfg.frame) : Aimed env last cfg cfg' :=
  ⟨congrArg Prod.fst h, .inl (congrArg Prod.snd h)⟩

theorem Aimed.trans (h : Aimed env last cfg₁ cfg₂) (h' : Aimed env last cfg₂ cfg₃) :
    Aimed env last cfg₁ cfg₃ := by
  obtain ⟨ht, ha⟩ := h
  obtain ⟨ht', ha'⟩ := h'
  apply And.intro (ht'.trans ht)
  rcases ha' with ha' | ha'
  · rw [ha']
    exact ha
  · exact .inr ha'

/-- A step aims at what `last` stands for, or keeps the target. When it fails it only keeps
the counters. -/
def Aims (env : Surroundings) (last : WString) (x : Dnsping α) : Prop :=
  ∀ cfg, Ensures x cfg (fun _ cfg' => Aimed env last cfg cfg') fun _ cfg' =>
    cfg'.tally = cfg.tally

theorem Aims.of_frame {x : Dnsping α} (h : Preserves ConfigurationTable.frame x) :
    Aims env last x := fun cfg =>
  (h cfg).mono (fun _ _ hf => .of_frame hf) fun _ _ hf => congrArg Prod.fst hf

theorem Aims.bind {x : Dnsping α} {f : α → Dnsping β} (hx : Aims env last x)
    (hf : ∀ a, Aims env last (f a)) : Aims env last (x >>= f) := by
  intro cfg
  have hx' : Ensures x cfg (fun _ cfg' => Aimed env last cfg cfg') fun _ cfg' =>
      cfg'.tally = cfg.tally := hx cfg
  apply Ensures.bind hx'
  intro a cfg' ha
  apply (hf a cfg').mono
  · intro b cfg'' hb
    exact ha.trans hb
  · intro e cfg'' he
    exact he.trans ha.1

theorem Aims.throw (e : String) : Aims env last (throw e : Dnsping α) :=
  .of_frame (Preserves.throw _ _)

/-- How `readIpv6` and `readIpv4` end: the family is noted and the text converted. -/
def convertText (env : Surroundings) (f : ParameterBlock → ParameterBlock) (text : NarrowString)
    (family : UInt16) (e : String) (g : StlBlock → StlBlock) : Dnsping Unit := do
  setParameters f
  match env.addressStringToBinary text family with
  | none => throw e
  | some addr =>
    setParameters fun block => { block with sockAddrNormal.addr := addr }
    setStrings g

theorem aims_convert {f : ParameterBlock → ParameterBlock} (g : StlBlock → StlBlock)
    (hf : ∀ block, (f block).sockAddrNormal.ssFamily = family)
    (h : ∀ addr, env.addressStringToBinary text family = some addr →
      Denotes env last (family, addr)) :
    Aims env last (convertText env f text family e g) := by
  intro cfg
  rw [convertText]
  cases ha : env.addressStringToBinary text family with
  | none => exact (rfl : _ = cfg.tally)
  | some addr =>
    have hd := h addr ha
    rw [← hf cfg.toParameterBlock] at hd
    exact ⟨rfl, .inr hd⟩

theorem readIpv6_aims (env : Surroundings) (parameter : WString) :
    Aims env parameter (readIpv6 env parameter (env.wideCharToMultiByte parameter)) := by
  rw [readIpv6]
  split
  · exact .throw _
  apply Aims.bind (.of_frame (Preserves.get _))
  intro cfg
  split
  · exact .throw _
  · exact aims_convert _ (fun _ => rfl) fun addr ha => .ipv6 ha

theorem readIpv4_aims (env : Surroundings) (parameter : WString) :
    Aims env parameter (readIpv4 env parameter (env.wideCharToMultiByte parameter)) := by
  rw [readIpv4]
  split
  · exact .throw _
  apply Aims.bind (.of_frame (Preserves.get _))
  intro cfg
  split
  · exact .throw _
  · exact aims_convert _ (fun _ => rfl) fun addr ha => .ipv4 ha

theorem AddrInfo.usable_family (h : AddrInfo.usable info) :
    info.aiFamily = afInet6 ∨ info.aiFamily = afInet := by
  simp only [AddrInfo.usable, Bool.or_eq_true, Bool.and_eq_true, decide_eq_true_eq] at h
  rcases h with h | h
  · exact .inl h.1
  · exact .inr h.1.1

theorem resolveTarget_aims (env : Surroundings) (parameter : WString) :
    Aims env parameter (resolveTarget env (env.wideCharToMultiByte parameter)) := by
  apply Aims.bind (.of_frame (Preserves.get _))
  intro cfg₀
  cases hi : env.getaddrinfo (env.wideCharToMultiByte parameter) cfg₀.protocol with
  | none => exact .throw _
  | some infos =>
    cases infos with
    | nil => exact .throw _
    | cons info infos =>
      simp only
      cases hu : (info :: infos).find? AddrInfo.usable with
      | none => exact .of_frame (Preserves.pure _ _)
      | some info' =>
        intro cfg
        have hd : Denotes env parameter (info'.aiFamily, info'.addr) :=
          .resolved hi (List.mem_of_find?_eq_some hu)
            (AddrInfo.usable_family (List.find?_some hu))
        exact ⟨rfl, .inr hd⟩

theorem readDomain_aims (env : Surroundings) (parameter : WString) :
    Aims env parameter (readDomain env parameter (env.wideCharToMultiByte parameter)) := by
  rw [readDomain]
  split
  · exact .throw _
  apply Aims.bind (.of_frame (Preserves.get _))
  intro cfg
  split
  · exact .of_frame (setStrings_frame _)
  · exact resolveTarget_aims env parameter

theorem readTarget_aims (env : Surroundings) (parameter : WString) :
    Aims env parameter (readTarget env parameter) := by
  rw [readTarget]
  dsimp only
  split
  · exact .throw _
  split
  · exact readIpv6_aims env parameter
  split
  · exact readDomain_aims env parameter
  split
  · exact readIpv4_aims env parameter
  · exact .of_frame (Preserves.pure _ _)

theorem readTestDomain_frame (env : Surroundings) (parameter : WString) :
    Preserves ConfigurationTable.frame (readTestDomain env parameter) := by
  rw [readTestDomain]
  split
  · exact Preserves.throw _ _
  · exact setStrings_frame _

theorem readOperand_aims (env : Surroundings) (h : remaining = 0 → parameter = last) :
    Aims env last (readOperand env parameter remaining) := by
  apply Aims.bind (.of_frame (Preserves.get _))
  intro cfg
  split
  · exact .of_frame (readTestDomain_frame env parameter)
  split
  · next hr =>
    rw [← h hr]
    exact readTarget_aims env parameter
  · exact .of_frame (Preserves.pure _ _)

theorem last_of_cons {parameter : WString} (h : ∀ x ∈ (parameter :: rest).getLast?, x = last) :
    ∀ x ∈ rest.getLast?, x = last := by
  intro x hx
  apply h
  rw [List.getLast?_cons, Option.mem_def.1 hx]
  rfl

theorem readCommands_aims (env : Surroundings) (params : List WString)
    (h : ∀ x ∈ params.getLast?, x = last) : Aims env last (readCommands env params) := by
  induction params using readCommands.induct env with
  | case1 => exact .of_frame (Preserves.pure _ _)
  | case2 parameter rest hh ih =>
    rw [readCommands, if_pos hh]
    exact ih (last_of_cons h)
  | case3 parameter rest hh opt ho ih =>
    have hs := switchOptions_target opt (List.mem_of_find?_eq_some ho)
    simp only [readCommands, hh, ho]
    exact Aims.bind (.of_frame (setParameters_frame hs)) fun _ => ih (last_of_cons h)
  | case4 parameter rest hh ho ha ih =>
    simp only [readCommands, hh, ho, ha]
    apply Aims.bind (readOperand_aims env _) fun _ => ih (last_of_cons h)
    intro hr
    rw [List.length_eq_zero_iff.1 hr] at h
    exact h parameter rfl
  | case5 parameter hh ho read ha =>
    simp only [readCommands, hh, ho, ha]
    exact .throw _
  | case6 parameter hh ho read ha argument rest ih =>
    simp only [readCommands, hh, ho, ha]
    exact Aims.bind (.of_frame (argumentOption_frame ha argument))
      fun _ => ih (last_of_cons (last_of_cons h))

end Target

section Preparation

theorem markPort_target (block : ParameterBlock) : (markPort block).target = block.target := by
  rw [markPort]
  split
  · rfl
  · rfl

theorem checkTarget_frame : Preserves ConfigurationTable.frame checkTarget := by
  apply Preserves.bind (Preserves.get _)
  intro cfg
  split
  · split
    · exact Preserves.throw _ _
    · exact setParameters_frame markPort_target
  split
  · exact Preserves.throw _ _
  · apply setParameters_frame
    intro block
    rw [markSocksPort]
    split <;> rfl

theorem shortenTimeout_target (env : Surroundings) (block : ParameterBlock) :
    (shortenTimeout env block).target = block.target := by
  rw [shortenTimeout]
  split_ifs <;> rfl

theorem checkTimeout_frame (env : Surroundings) :
    Preserves ConfigurationTable.frame (checkTimeout env) := by
  apply Preserves.bind (setParameters_frame (shortenTimeout_target env))
  intro _
  exact Preserves.modify fun _ => rfl

theorem checkEdns_target (block : ParameterBlock) :
    (checkEdns block).target = block.target := by
  rw [checkEdns]
  split
  · dsimp only
    split
    · rfl
    · rfl
  · rfl

theorem checkParameters_target (block : ParameterBlock) :
    (checkEdns (checkQuery (checkHeader block))).target = block.target := by
  rw [checkEdns_target]
  rfl

theorem outputResultToFile_frame (env : Surroundings) :
    Preserves ConfigurationTable.frame (outputResultToFile env) := by
  apply Preserves.bind (Preserves.get _)
  intro cfg
  split
  · exact Preserves.pure _ _
  split
  · exact setParameters_frame fun _ => rfl
  · exact Preserves.throw _ _

/-- The steps of the preparation after `ReadCommands`. -/
def finish (env : Surroundings) : Dnsping Unit := do
  checkTarget
  checkTimeout env
  setParameters fun block => checkEdns (checkQuery (checkHeader block))
  outputResultToFile env

theorem finish_frame (env : Surroundings) : Preserves ConfigurationTable.frame (finish env) := by
  apply Preserves.bind checkTarget_frame
  intro _
  apply Preserves.bind (checkTimeout_frame env)
  intro _
  apply Preserves.bind (setParameters_frame checkParameters_target)
  intro _
  exact outputResultToFile_frame env

/-- However the preparation ends, nothing is counted. When it succeeds, it aims at nothing or
at what the last parameter stands for. -/
theorem prepare_aims (env : Surroundings) {argv : List WString}
    (h : ∀ x ∈ argv.tail.getLast?, x = last) (cfg : ConfigurationTable) :
    Ensures (prepare env argv) cfg
      (fun _ cfg' => cfg'.tally = (0, 0, 0) ∧ (cfg'.target.1 = 0 ∨ Denotes env last cfg'.target))
      fun _ cfg' => cfg'.tally = (0, 0, 0) := by
  have hsteps : Aims env last (do
      readCommands env argv.tail
      finish env) :=
    Aims.bind (readCommands_aims env _ h) fun _ => .of_frame (finish_frame env)
  have hinit : Ensures (configurationInitialization env) cfg
      (fun _ cfg' => cfg'.tally = (0, 0, 0) ∧ cfg'.target = (0, []))
      fun _ cfg' => cfg'.tally = (0, 0, 0) := by
    apply Ensures.bind (Q := fun _ cfg' => cfg'.tally = (0, 0, 0) ∧ cfg'.target = (0, []))
    · exact ⟨rfl, rfl⟩
    intro _ cfg' hc
    split
    · exact hc.1
    split
    · exact hc.1
    · exact hc
  apply Ensures.bind hinit
  intro _ cfg' hc
  apply (hsteps cfg').mono
  · intro _ cfg'' ha
    apply And.intro (ha.1.trans hc.1)
    rcases ha.2 with ht | hd
    · left
      rw [ht, hc.2]
    · exact .inr hd
  · intro _ cfg'' ht
    exact ht.trans hc.1

end Preparation

end LdnsSelector
