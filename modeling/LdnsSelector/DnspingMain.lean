import LdnsSelector.Binary64
import LdnsSelector.Interaction
import LdnsSelector.ReadCommands

set_option autoImplicit true

namespace LdnsSelector

/-- `ConfigurationInitialization`: the members with constructors keep what an earlier call
left in them. -/
def configurationInitialization (env : Surroundings) : Dnsping Unit := do
  modify fun cfg => { cfg with
    toParameterBlock :=
      { statisticsSend := 4, bufferSize := 1500, validate := true, socketTimeout := 2000 }
    toResultBlock := {} }
  if !env.setConsoleCtrlHandler then
    throw "\nSet console ctrl handler error, error code is %lu.\n"
  else if !env.wsaStartup then throw "\nWinsock initialization error, error code is %d.\n"
  else return

def markPort (block : ParameterBlock) : ParameterBlock :=
  if block.serviceType = 0 then
    { block with serviceType := htons ipportDns, sockAddrNormal.port := htons ipportDns }
  else { block with sockAddrNormal.port := block.serviceType }

/-- In SOCKS mode only the service type is set. -/
def markSocksPort (block : ParameterBlock) : ParameterBlock :=
  if block.serviceType = 0 then { block with serviceType := htons ipportDns } else block

def checkEmptyBuffer (buffer : List UInt8) : Bool := buffer.all (· = 0)

def checkTarget : Dnsping Unit := do
  let cfg ← get
  if cfg.sockAddrNormal.ssFamily = afInet6 ∨ cfg.sockAddrNormal.ssFamily = afInet then
    if checkEmptyBuffer cfg.sockAddrNormal.addr then throw "\nTarget is empty.\n"
    else setParameters markPort
  else if cfg.sockAddrSocks.ssFamily = 0 then throw "\nTarget is empty.\n"
  else setParameters markSocksPort

/-- Older systems add half a second to a socket timeout. -/
def shortenTimeout (env : Surroundings) (block : ParameterBlock) : ParameterBlock :=
  if env.isLowerThanWin8 then
    if 500 < block.socketTimeout.toUInt32 then
      { block with socketTimeout := block.socketTimeout - 500 }
    else if block.socketTimeout = 500 then { block with socketTimeout := 1 }
    else block
  else block

def checkTimeout (env : Surroundings) : Dnsping Unit := do
  setParameters (shortenTimeout env)
  modify fun cfg => { cfg with statisticsMinTime := cfg.socketTimeout.toInt }

def dnsStandard : UInt16 := 0x0100

def dnsClassIn : UInt16 := 1

def dnsRecordA : UInt16 := 1

def dnsRecordAaaa : UInt16 := 0x1C

def dnsRecordOpt : UInt16 := 0x29

def edns0Minsize : UInt16 := 1220

def orDefault (n fallback : UInt16) : UInt16 := if n = 0 then htons fallback else n

def checkHeader (block : ParameterBlock) : ParameterBlock :=
  { block with
    parameterHeader.flags := orDefault block.parameterHeader.flags dnsStandard
    parameterHeader.questions := orDefault block.parameterHeader.questions 1 }

def checkQuery (block : ParameterBlock) : ParameterBlock :=
  { block with
    parameterQuery.classes := orDefault block.parameterQuery.classes dnsClassIn
    parameterQuery.type := orDefault block.parameterQuery.type
      (if block.sockAddrNormal.ssFamily = afInet6 then dnsRecordAaaa else dnsRecordA) }

def checkEdns (block : ParameterBlock) : ParameterBlock :=
  if block.edns || block.dnssec then
    let block := { block with
      edns := true
      parameterHeader.additional := htons 1
      parameterEdns.type := htons dnsRecordOpt
      parameterEdns.udpPayloadSize :=
        if block.ednsPayloadSize = 0 then htons edns0Minsize
        else htons block.ednsPayloadSize.toUInt16 }
    if block.dnssec then
      { toggleFlag 0x1000 (toggleFlag 0x2000 block) with
        parameterEdns.zField := block.parameterEdns.zField ^^^ 0x0080 }
    else block
  else block

def outputResultToFile (env : Surroundings) : Dnsping Unit := do
  let cfg ← get
  if cfg.wOutputFileName = [] then return
  else if env.openOutputFile cfg.wOutputFileName then
    setParameters fun block => { block with outputFile := true }
  else throw "Create output result file %ls error, error code is %d.\n"

/-- `dnsping_main` up to the first query. -/
def prepare (env : Surroundings) (argv : List WString) : Dnsping Unit := do
  configurationInitialization env
  readCommands env argv.tail
  checkTarget
  checkTimeout env
  setParameters fun block => checkEdns (checkQuery (checkHeader block))
  outputResultToFile env

/-- The time a reply took, in milliseconds. A reply is waited for with a timeout of at most
some minutes, and time does not run backwards. -/
structure WaitTime where
  ms : ℚ
  nonneg : 0 ≤ ms
  lt : ms < 2 ^ 32
  deriving DecidableEq

/-- What `SendProcess` comes to: it fails, sees no valid reply in time, or sees one. -/
inductive SendOutcome where
  | failed
  | silent
  | answered (time : WaitTime)
  deriving DecidableEq

structure SendCall where
  configuration : ConfigurationTable
  lastSend : Bool
  deriving DecidableEq

abbrev Network : Interface := ⟨SendCall, fun _ => SendOutcome⟩

/-- The invalid parameter handler of the runtime ends the process. -/
inductive Abort where
  | invalidParameter
  deriving DecidableEq, Repr

abbrev Pinging (α : Type) := Prog Network Abort α

inductive ExitCode where
  | success
  | failure
  deriving DecidableEq, Repr

abbrev sendProcess (configuration : ConfigurationTable) (lastSend : Bool) :
    Pinging SendOutcome :=
  Prog.perform (I := Network) ⟨configuration, lastSend⟩

namespace ConfigurationTable

def counted (cfg : ConfigurationTable) : ConfigurationTable :=
  { cfg with statisticsRealSend := cfg.statisticsRealSend + 1 }

def received (cfg : ConfigurationTable) : SendOutcome → ConfigurationTable
  | .failed => cfg
  | .silent => cfg
  | .answered time => { cfg with
      statisticsTotalTime := Binary64.add cfg.statisticsTotalTime time.ms
      statisticsRecvNum := cfg.statisticsRecvNum + 1
      statisticsMinTime :=
        if cfg.statisticsMaxTime = 0 ∨ time.ms < cfg.statisticsMinTime then time.ms
        else cfg.statisticsMinTime
      statisticsMaxTime :=
        if cfg.statisticsMaxTime = 0 ∨
          cfg.statisticsMinTime ≤ time.ms ∧ cfg.statisticsMaxTime < time.ms then time.ms
        else cfg.statisticsMaxTime }

@[simp] theorem received_realSend (cfg : ConfigurationTable) (outcome : SendOutcome) :
    (cfg.received outcome).statisticsRealSend = cfg.statisticsRealSend := by
  cases outcome <;> rfl

end ConfigurationTable

def sendTimes : Nat → ConfigurationTable → Pinging (ExitCode × ConfigurationTable)
  | 0, cfg => return (.success, cfg)
  | n + 1, cfg => do
    let outcome ← sendProcess cfg.counted (n = 0)
    if outcome = .failed then return (.failure, cfg.counted.received outcome)
    else sendTimes n (cfg.counted.received outcome)

theorem realSend_counted {n : UInt32} (h : n ≤ 0xFFFF) : (n + 1).toNat = n.toNat + 1 := by
  have h : n.toNat ≤ 65535 := UInt32.le_iff_toNat_le.1 h
  rw [UInt32.toNat_add, UInt32.toNat_one]
  omega

def sendUntilFull (cfg : ConfigurationTable) : Pinging (ExitCode × ConfigurationTable) :=
  if _h : cfg.statisticsRealSend ≤ 0xFFFF then do
    let outcome ← sendProcess cfg.counted false
    if outcome = .failed then return (.failure, cfg.counted.received outcome)
    else sendUntilFull (cfg.counted.received outcome)
  else return (.success, cfg)
termination_by 0x10000 - cfg.statisticsRealSend.toNat
decreasing_by
  have hn : cfg.statisticsRealSend.toNat ≤ 65535 := UInt32.le_iff_toNat_le.1 ‹_›
  have hc := realSend_counted ‹cfg.statisticsRealSend ≤ 0xFFFF›
  simp only [ConfigurationTable.received_realSend, ConfigurationTable.counted]
  omega

def sendRequests (cfg : ConfigurationTable) : Pinging (ExitCode × ConfigurationTable) :=
  if cfg.statisticsSend = 0 then sendUntilFull cfg
  else sendTimes cfg.statisticsSend.toNat cfg

def dnspingMain (env : Surroundings) (argv : List WString) (cfg : ConfigurationTable) :
    Pinging (ExitCode × ConfigurationTable) :=
  if argv.length ≤ 2 then return (.success, cfg)
  else
    match prepare env argv cfg with
    | .error _ cfg => return (.failure, cfg)
    | .ok _ cfg => sendRequests cfg

end LdnsSelector
