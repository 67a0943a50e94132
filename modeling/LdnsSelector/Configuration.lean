import LdnsSelector.Define
import LdnsSelector.Throwing
import Mathlib.Data.Rat.Floor

set_option autoImplicit true

namespace LdnsSelector

/-- `std::string`. -/
abbrev NarrowString := List UInt8

def afInet : UInt16 := 2

def afInet6 : UInt16 := 23

def ipportDns : UInt16 := 53

def htons (n : UInt16) : UInt16 := (n <<< 8) ||| (n >>> 8)

/-- `sockaddr_storage`, the address as its bytes. -/
structure SockAddr where
  ssFamily : UInt16 := 0
  addr : List UInt8 := []
  port : UInt16 := 0
  deriving DecidableEq, Repr

/-- `dns_hdr`, the fields in network order. -/
structure DnsHdr where
  id : UInt16 := 0
  flags : UInt16 := 0
  questions : UInt16 := 0
  answer : UInt16 := 0
  authority : UInt16 := 0
  additional : UInt16 := 0
  deriving DecidableEq, Repr

structure DnsQry where
  type : UInt16 := 0
  classes : UInt16 := 0
  deriving DecidableEq, Repr

structure DnsOptRecord where
  type : UInt16 := 0
  udpPayloadSize : UInt16 := 0
  zField : UInt16 := 0
  deriving DecidableEq, Repr

/-- The parameter block of `ConfigurationTable`, with the number of queries asked for. -/
structure ParameterBlock where
  outputFile : Bool := false
  transmissionInterval : UInt32 := 0
  bufferSize : UInt32 := 0
  rawDataLen : UInt32 := 0
  ednsPayloadSize : UInt32 := 0
  protocol : UInt16 := 0
  serviceType : UInt16 := 0
  reverseLookup : Bool := false
  rawSocket : Bool := false
  edns : Bool := false
  dnssec : Bool := false
  validate : Bool := false
  showResponse : Bool := false
  showResponseHex : Bool := false
  ipHopLimits : Int32 := 0
  socketTimeout : Int32 := 0
  ipv4Df : Bool := false
  sockAddrNormal : SockAddr := {}
  sockAddrSocks : SockAddr := {}
  parameterHeader : DnsHdr := {}
  parameterQuery : DnsQry := {}
  parameterEdns : DnsOptRecord := {}
  statisticsSend : UInt32 := 0
  deriving DecidableEq, Repr

/-- The result block of `ConfigurationTable`. Times are in milliseconds. -/
structure ResultBlock where
  statisticsRealSend : UInt32 := 0
  statisticsRecvNum : UInt32 := 0
  statisticsTotalTime : ℚ := 0
  statisticsMaxTime : ℚ := 0
  statisticsMinTime : ℚ := 0
  deriving DecidableEq

/-- The members of `ConfigurationTable` with constructors of their own. -/
structure StlBlock where
  testDomain : NarrowString := []
  targetStringNormal : NarrowString := []
  targetAddressString : NarrowString := []
  socksUsername : NarrowString := []
  socksPassword : NarrowString := []
  targetStringSocks : WString := []
  wOutputFileName : WString := []
  rawData : Option (List UInt8) := none
  deriving DecidableEq, Repr

structure ConfigurationTable extends ParameterBlock, ResultBlock, StlBlock
  deriving DecidableEq

structure AddrInfo where
  aiFamily : UInt16
  addr : List UInt8
  scopeId : UInt32
  deriving DecidableEq, Repr

/-- What `dnsping_main` depends on before it sends: the system, the code page and the tables
of names. -/
structure Surroundings where
  setConsoleCtrlHandler : Bool
  wsaStartup : Bool
  isLowerThanWin8 : Bool
  wideCharToMultiByte : WString → NarrowString
  getaddrinfo : NarrowString → UInt16 → Option (List AddrInfo)
  addressStringToBinary : NarrowString → UInt16 → Option (List UInt8)
  wsaAddressToString : SockAddr → NarrowString
  dnsTypeNameToHex : WString → UInt16
  dnsClassesNameToHex : WString → UInt16
  serviceNameToPort : WString → UInt16
  internetProtocolNameToPort : WString → UInt16
  readSocksTarget : WString → UInt16 → Except String SockAddr
  openOutputFile : WString → Bool

/-- The steps before the first query. `return EXIT_FAILURE` throws the text it prints. -/
abbrev Dnsping := EStateM String ConfigurationTable

def setParameters (f : ParameterBlock → ParameterBlock) : Dnsping Unit :=
  modify fun cfg => { cfg with toParameterBlock := f cfg.toParameterBlock }

def setStrings (f : StlBlock → StlBlock) : Dnsping Unit :=
  modify fun cfg => { cfg with toStlBlock := f cfg.toStlBlock }

/-- White space as `iswspace` has it in the C locale. -/
def isWspace (c : UInt16) : Bool := c = 0x20 || 0x09 ≤ c && c ≤ 0x0D

def digitValue (c : UInt16) : Nat :=
  if 0x30 ≤ c ∧ c ≤ 0x39 then (c - 0x30).toNat
  else if 0x41 ≤ c ∧ c ≤ 0x5A then (c - 0x41).toNat + 10
  else if 0x61 ≤ c ∧ c ≤ 0x7A then (c - 0x61).toNat + 10
  else 36

def readSign : WString → Bool × WString
  | 0x2D :: s => (true, s)
  | 0x2B :: s => (false, s)
  | s => (false, s)

def readBase : WString → Nat × WString
  | 0x30 :: 0x78 :: s => (16, s)
  | 0x30 :: 0x58 :: s => (16, s)
  | 0x30 :: s => (8, s)
  | s => (10, s)

/-- `wcstoul` with base 0: saturates, and negates modulo `2 ^ 32` after a minus sign. -/
def wcstoul (s : WString) : UInt32 :=
  let (negative, s) := readSign (s.dropWhile isWspace)
  let (base, s) := readBase s
  let digits := (s.map digitValue).takeWhile (· < base)
  let value := digits.foldl (fun n d => base * n + d) 0
  if 2 ^ 32 ≤ value then 0xFFFFFFFF
  else if negative then 0 - UInt32.ofNat value else UInt32.ofNat value

/-- `Result`, a signed word, after `wcstoul`. -/
def readNumber (s : WString) : Int32 := (wcstoul s).toInt32

example : (readNumber (wide "500"), readNumber (wide " -0x1g"), readNumber (wide "010")) =
    (500, -1, 8) := by decide

end LdnsSelector
