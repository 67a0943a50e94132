import LdnsSelector.Serving
import LdnsSelector.SurvivingMembers
import LdnsSelector.TransitionSystem

set_option autoImplicit true

open EStateM Prog

namespace LdnsSelector

def addrStringMaxsize : Nat := 64

def largePacketMaxsize : Nat := 4096

/-- A machine whose conversions stay in the buffers that they are given. -/
structure PingMachine extends Surroundings where
  moduleFileName : WString
  multiByteToWideChar : NarrowString → WString
  narrow_le : ∀ s, (wideCharToMultiByte s).length ≤ s.length + 1
  address_lt : ∀ addr, (wsaAddressToString addr).length < addrStringMaxsize

/-- A call of `Ping`, on the machine and the network as they are then. -/
structure PingCall where
  machine : PingMachine
  strDnsIp : WString
  strUrl : WString

namespace PingCall

abbrev env (call : PingCall) : Surroundings := call.machine.toSurroundings

abbrev url (call : PingCall) : WString := cStr call.strUrl

abbrev ip (call : PingCall) : WString := cStr call.strDnsIp

abbrev argv (call : PingCall) : List WString :=
  pingArguments call.machine.moduleFileName call.url call.ip

def ping (call : PingCall) (cfg : ConfigurationTable) :
    Pinging (PingResult × ConfigurationTable) :=
  LdnsSelector.ping call.env call.machine.moduleFileName call.strDnsIp call.strUrl cfg

def conversions (call : PingCall) (cfg : ConfigurationTable) : List NarrowString :=
  if Fits call.strDnsIp ∧ Fits call.strUrl then
    match beforeConversions call.env call.argv cfg with
    | .error _ _ => []
    | .ok _ cfg' =>
      [cfg'.targetStringNormal, cfg'.testDomain] ++
        if cfg'.targetAddressString = [] then [] else [cfg'.targetAddressString]
  else []

/-- How many characters a conversion stores. It is told that the buffer has as many as the text
has bytes, and stops there. -/
def stored (call : PingCall) (text : NarrowString) : Nat :=
  min ((call.machine.multiByteToWideChar text).length + 1) text.length

end PingCall

/-- What a query depends on. The text of the target is sent to a proxy only. -/
def SendCall.query (call : SendCall) : SendCall :=
  { call with configuration :=
    if call.configuration.sockAddrSocks.ssFamily = 0 then call.configuration.observed
    else { call.configuration with targetAddressString := [] } }

def exchange (ev : Event Network) : SendCall × SendOutcome := (ev.1.query, ev.2)

/-- The query is for the url of the call, at its address. -/
structure PingCall.Own (call : PingCall) (cfg : ConfigurationTable) : Prop where
  testDomain : cfg.testDomain = call.env.wideCharToMultiByte call.url
  rawData : cfg.rawData = none
  target : Denotes call.env call.ip cfg.target

/-- The text that reading the target adds to what is there: that of an IPv6 address. -/
def appendedText (env : Surroundings) (ip : WString) : NarrowString :=
  let text := env.wideCharToMultiByte ip
  if asciiColon ∈ text then bracketed text
  else if text.any domainChar then
    match (env.getaddrinfo text 0).bind fun infos => infos.find? AddrInfo.usable with
    | none => []
    | some info =>
      if info.aiFamily = afInet6 then
        bracketed (caseConvert (env.wsaAddressToString ⟨info.aiFamily, info.addr, 0⟩))
      else []
  else []

/-- The url is no option with an argument. If there is a target to send to, the url is no option
at all, an earlier call has left no other url, and has left room for the text of the target. -/
structure Undisturbed (call : PingCall) (cfg : ConfigurationTable) : Prop where
  noArgument : namesArgumentOption call.env call.url = false
  operand : TargetGiven call.env call.ip call.url cfg → IsOperand call.env call.url
  domain : TargetGiven call.env call.ip call.url cfg → cfg.testDomain = [] ∨
    cfg.testDomain = call.env.wideCharToMultiByte call.url ∧ 2 < call.url.length
  room : TargetGiven call.env call.ip call.url cfg → appendedText call.env call.ip = [] ∨
    cfg.targetStringNormal.length + (appendedText call.env call.ip).length ≤ largePacketMaxsize

/-- The calls of `Ping` in a process, each with the queries it sends and their outcomes. A call
that does not return ends the process. -/
def pingProcess : TransitionSystem ConfigurationTable (PingCall × List (Event Network)) where
  initial cfg := cfg = {}
  step cfg i :=
    match replay (i.1.ping cfg) i.2 with
    | some (.ok x) => some x.2
    | _ => none

def StlBlock.asking (strings : StlBlock) (domain : NarrowString) : StlBlock :=
  { strings with testDomain := domain }

theorem Pristine.asking (h : Pristine strings) (domain : NarrowString) :
    Pristine (strings.asking domain) := ⟨h.1, h.2, h.3, h.4, h.5, h.6⟩

section Operands

variable {env : Surroundings} {url ip : WString}

theorem readCommands_operand (h : IsOperand env parameter) (rest : List WString) :
    readCommands env (parameter :: rest) = (do
      readOperand env parameter rest.length
      readCommands env rest) := by
  obtain ⟨hh, hs, ha⟩ := h
  rw [namesSwitch, Option.isSome_eq_false_iff, Option.isNone_iff_eq_none] at hs
  rw [namesArgumentOption, Option.isSome_eq_false_iff, Option.isNone_iff_eq_none] at ha
  rw [readCommands, if_neg (Bool.eq_false_iff.1 hh)]
  simp only [hs, ha]

theorem readLast_eq (hip : IsOperand env ip) (cfg : ConfigurationTable) :
    readCommands env [ip] cfg = readTarget env ip cfg := by
  have hn : ¬(cfg.rawData = none ∧ cfg.testDomain = [] ∧ ([] : List WString).length = 1) :=
    fun h => absurd h.2.2 (by decide)
  have he : readOperand env ip ([] : List WString).length cfg = readTarget env ip cfg := by
    rw [readOperand, get_bind_apply, if_neg hn, if_pos List.length_nil]
  rw [readCommands_operand hip, readCommands]
  cases hr : readTarget env ip cfg with
  | ok u cfg' => exact bind_apply_ok (he.trans hr) _
  | error e cfg' => exact bind_apply_error (he.trans hr) _

theorem readUrl_stale (hurl : IsOperand env url) (hip : IsOperand env ip)
    (hn : strings.testDomain ≠ []) :
    readCommands env [url, ip] (opening env strings) =
      readTarget env ip (opening env strings) := by
  have hlast : ¬[ip].length = 0 := Nat.succ_ne_zero 0
  have he : readOperand env url [ip].length (opening env strings) =
      .ok () (opening env strings) := by
    rw [readOperand, get_bind_apply, if_neg fun h => hn h.2.1, if_neg hlast]
    rfl
  rw [readCommands_operand hurl, bind_apply_ok he, readLast_eq hip]

theorem readUrl_fresh (hurl : IsOperand env url) (hip : IsOperand env ip)
    (hr : strings.rawData = none) (hl : 2 < url.length ∧ url.length ≤ 256)
    (hn : strings.testDomain = []) :
    readCommands env [url, ip] (opening env strings) = readTarget env ip
      (opening env (strings.asking (env.wideCharToMultiByte url))) := by
  have he : readOperand env url [ip].length (opening env strings) =
      .ok () (opening env (strings.asking (env.wideCharToMultiByte url))) := by
    rw [readOperand, get_bind_apply, if_pos ⟨hr, hn, rfl⟩, readTestDomain, if_neg (by omega)]
    rfl
  rw [readCommands_operand hurl, bind_apply_ok he, readLast_eq hip]

theorem readUrl_eq (hurl : IsOperand env url) (hip : IsOperand env ip)
    (hr : strings.rawData = none) (hl : 2 < url.length ∧ url.length ≤ 256)
    (hd : strings.testDomain = [] ∨ strings.testDomain = env.wideCharToMultiByte url) :
    readCommands env [url, ip] (opening env strings) = readTarget env ip
      (opening env (strings.asking (env.wideCharToMultiByte url))) := by
  by_cases hn : strings.testDomain = []
  · exact readUrl_fresh hurl hip hr hl hn
  · rw [readUrl_stale hurl hip hn, StlBlock.asking, ← hd.resolve_left hn]

end Operands

section Texts

variable {env : Surroundings} {ip : WString} {cfg : ConfigurationTable}

theorem convert_strings {f : ParameterBlock → ParameterBlock} (g : StlBlock → StlBlock) :
    Ensures (convertText env f text family e g) cfg
      (fun _ cfg' => cfg'.toStlBlock = g cfg.toStlBlock) fun _ _ => True := by
  rw [convertText]
  cases env.addressStringToBinary text family with
  | none => exact trivial
  | some addr => exact (rfl : _ = g cfg.toStlBlock)

theorem readIpv6_strings (text : NarrowString) : Ensures (readIpv6 env ip text) cfg
    (fun _ cfg' => cfg'.toStlBlock = { cfg.toStlBlock with
      targetStringNormal := cfg.targetStringNormal ++ bracketed text })
    fun _ _ => True := by
  rw [readIpv6]
  split
  · exact trivial
  apply Ensures.get_bind
  split
  · exact trivial
  · exact convert_strings _

theorem readIpv4_strings (text : NarrowString) : Ensures (readIpv4 env ip text) cfg
    (fun _ cfg' => cfg'.toStlBlock = { cfg.toStlBlock with targetStringNormal := text })
    fun _ _ => True := by
  rw [readIpv4]
  split
  · exact trivial
  apply Ensures.get_bind
  split
  · exact trivial
  · exact convert_strings _

/-- What reading the target `ip` makes of the texts, unless it finds no address: the text of the
target is short, or is added to what is there. -/
def TextRead (env : Surroundings) (ip : WString) (cfg cfg' : ConfigurationTable) : Prop :=
  cfg'.testDomain = cfg.testDomain ∧ (cfg'.target = cfg.target ∨
    if appendedText env ip = [] then cfg'.targetStringNormal.length ≤ addrStringMaxsize
    else cfg'.targetStringNormal = cfg.targetStringNormal ++ appendedText env ip)

theorem bracketed_ne_nil (text : NarrowString) : bracketed text ≠ [] := List.cons_ne_nil _ _

theorem resolveTarget_text
    (ha : ∀ addr, (env.wsaAddressToString addr).length < addrStringMaxsize)
    (hc : asciiColon ∉ env.wideCharToMultiByte ip)
    (hd : (env.wideCharToMultiByte ip).any domainChar = true) :
    Ensures (resolveTarget env (env.wideCharToMultiByte ip)) (opening env strings)
      (fun _ cfg' => TextRead env ip (opening env strings) cfg') fun _ _ => True := by
  have hp : (opening env strings).protocol = 0 := rfl
  apply Ensures.get_bind
  rw [hp]
  cases hi : env.getaddrinfo (env.wideCharToMultiByte ip) 0 with
  | none => exact trivial
  | some infos =>
    cases infos with
    | nil => exact trivial
    | cons info infos =>
      simp only
      cases hu : (info :: infos).find? AddrInfo.usable with
      | none => exact ⟨rfl, .inl rfl⟩
      | some info' =>
        have happ : appendedText env ip = if info'.aiFamily = afInet6 then
            bracketed (caseConvert (env.wsaAddressToString ⟨info'.aiFamily, info'.addr, 0⟩))
            else [] := by
          simp only [appendedText, if_neg hc, if_pos hd, hi, Option.bind_some, hu]
        apply And.intro rfl
        right
        by_cases hf : info'.aiFamily = afInet6
        · rw [if_pos hf] at happ
          rw [happ, if_neg (bracketed_ne_nil _)]
          exact if_pos hf
        · rw [if_neg hf] at happ
          rw [if_pos happ]
          apply le_of_eq_of_le (congrArg List.length (if_neg hf))
          exact (ha _).le

theorem readDomain_text (ha : ∀ addr, (env.wsaAddressToString addr).length < addrStringMaxsize)
    (hc : asciiColon ∉ env.wideCharToMultiByte ip)
    (hd : (env.wideCharToMultiByte ip).any domainChar = true) :
    Ensures (readDomain env ip (env.wideCharToMultiByte ip)) (opening env strings)
      (fun _ cfg' => TextRead env ip (opening env strings) cfg') fun _ _ => True := by
  have hn : ¬0 < (opening env strings).sockAddrSocks.ssFamily := UInt16.lt_irrefl 0
  rw [readDomain]
  split
  · exact trivial
  apply Ensures.get_bind
  rw [if_neg hn]
  exact resolveTarget_text ha hc hd

theorem readTarget_text (strings : StlBlock)
    (ha : ∀ addr, (env.wsaAddressToString addr).length < addrStringMaxsize)
    (hl : (env.wideCharToMultiByte ip).length ≤ addrStringMaxsize) :
    Ensures (readTarget env ip) (opening env strings)
      (fun _ cfg' => TextRead env ip (opening env strings) cfg') fun _ _ => True := by
  rw [readTarget]
  dsimp only
  split
  · exact trivial
  split
  · next hc =>
    have happ : appendedText env ip = bracketed (env.wideCharToMultiByte ip) := if_pos hc
    apply (readIpv6_strings _).mono _ fun _ _ h => h
    intro _ cfg' hs
    apply And.intro (congrArg StlBlock.testDomain hs)
    right
    rw [happ, if_neg (bracketed_ne_nil _)]
    exact congrArg StlBlock.targetStringNormal hs
  split
  · next hc hd => exact readDomain_text ha hc hd
  split
  · next hc hd _ =>
    have happ : appendedText env ip = [] := (if_neg hc).trans (if_neg hd)
    apply (readIpv4_strings _).mono _ fun _ _ h => h
    intro _ cfg' hs
    apply And.intro (congrArg StlBlock.testDomain hs)
    right
    rw [if_pos happ, congrArg StlBlock.targetStringNormal hs]
    exact hl
  · exact ⟨rfl, .inl rfl⟩

end Texts

section Sending

open ConfigurationTable

variable {cfg cfg' : ConfigurationTable}

theorem observed_socks (h : cfg.observed = cfg'.observed) :
    cfg.sockAddrSocks = cfg'.sockAddrSocks :=
  congrArg (fun cfg => cfg.sockAddrSocks) h

theorem query_of_direct (cfg : ConfigurationTable) (hz : cfg.sockAddrSocks.ssFamily = 0)
    (lastSend : Bool) :
    SendCall.query ⟨cfg, lastSend⟩ = ⟨cfg.observed, lastSend⟩ := by
  rw [SendCall.query]
  dsimp only
  rw [if_pos hz]

theorem query_congr (h : cfg.observed = cfg'.observed) (hz : cfg.sockAddrSocks.ssFamily = 0)
    (lastSend : Bool) :
    SendCall.query ⟨cfg.counted, lastSend⟩ = SendCall.query ⟨cfg'.counted, lastSend⟩ := by
  have hz' : cfg'.sockAddrSocks.ssFamily = 0 := by
    rw [← observed_socks h]
    exact hz
  have hc : cfg.counted.observed = cfg'.counted.observed := congrArg counted h
  rw [query_of_direct cfg.counted hz, query_of_direct cfg'.counted hz', hc]

/-- For every run of the first program the second returns from one with the same exchanges. -/
def Mirrored (p p' : Pinging α) : Prop :=
  ∀ tr o, Runs p tr o → ∃ tr' a', Runs p' tr' (.ok a') ∧ tr.map exchange = tr'.map exchange

theorem Mirrored.ret (a a' : α) : Mirrored (.ret a) (.ret a') := by
  intro tr o hr
  obtain ⟨rfl, _⟩ := runs_ret_iff.1 hr
  exact ⟨[], a', .ret a', rfl⟩

theorem Mirrored.send {k k' : SendOutcome → Pinging α}
    (h : cfg.observed = cfg'.observed)
    (hz : cfg.sockAddrSocks.ssFamily = 0) (hk : ∀ outcome, Mirrored (k outcome) (k' outcome)) :
    Mirrored ((sendProcess cfg.counted lastSend).bind k)
      ((sendProcess cfg'.counted lastSend).bind k') := by
  intro tr o hr
  obtain ⟨outcome, tr, rfl, hs⟩ := runs_perform_iff.1 hr
  obtain ⟨tr', a', hr', he⟩ := hk outcome tr o hs
  have hq := congrArg (fun query => (query, outcome)) (query_congr h hz lastSend)
  exact ⟨⟨⟨cfg'.counted, lastSend⟩, outcome⟩ :: tr', a',
    runs_perform_iff.2 ⟨outcome, tr', rfl, hr'⟩, congrArg₂ List.cons hq he⟩

theorem received_strings (cfg : ConfigurationTable) (outcome : SendOutcome) :
    (cfg.counted.received outcome).toStlBlock = cfg.toStlBlock := by
  cases outcome <;> rfl

theorem after_strings (cfg : ConfigurationTable) (tr : List (Event Network)) :
    (cfg.after tr).toStlBlock = cfg.toStlBlock := by
  induction tr generalizing cfg with
  | nil => rfl
  | cons ev tr ih => exact (ih _).trans (received_strings cfg ev.2)

def Carries (strings : StlBlock) (p : Pinging α) : Prop :=
  Within (fun call : SendCall => call.configuration.toStlBlock = strings) (fun _ => False) p

theorem sendTimes_carries (hs : cfg.toStlBlock = strings) :
    Carries strings (sendTimes n cfg) := by
  induction n generalizing cfg with
  | zero => exact trivial
  | succ n ih =>
    apply Within.bind (Within.perform hs)
    intro outcome
    apply Within.ite
    · exact fun _ => trivial
    · exact fun _ => ih ((received_strings cfg outcome).trans hs)

theorem sendUntilFull_carries (hs : cfg.toStlBlock = strings) :
    Carries strings (sendUntilFull cfg) := by
  induction cfg using sendUntilFull.induct with
  | case1 cfg hc ih =>
    rw [sendUntilFull, dif_pos hc]
    apply Within.bind (Within.perform hs)
    intro outcome
    apply Within.ite
    · exact fun _ => trivial
    · exact fun _ => ih outcome ((received_strings cfg outcome).trans hs)
  | case2 cfg hc =>
    rw [sendUntilFull, dif_neg hc]
    exact trivial

theorem sendRequests_carries (cfg : ConfigurationTable) :
    Carries cfg.toStlBlock (sendRequests cfg) := by
  rw [sendRequests]
  split
  · exact sendUntilFull_carries rfl
  · exact sendTimes_carries rfl

end Sending

end LdnsSelector
