import LdnsSelector.Configuration

set_option autoImplicit true

namespace LdnsSelector

structure SwitchOption where
  short : String
  long : String
  store : ParameterBlock → ParameterBlock

def toggleFlag (mask : UInt16) (block : ParameterBlock) : ParameterBlock :=
  { block with parameterHeader.flags := block.parameterHeader.flags ^^^ mask }

def switchOptions : List SwitchOption := [
  ⟨"-t", "--until-break", fun block => { block with statisticsSend := 0 }⟩,
  ⟨"-a", "--reverse-lookup", fun block => { block with reverseLookup := true }⟩,
  ⟨"-f", "--do-not-fragment", fun block => { block with ipv4Df := true }⟩,
  ⟨"-qr", "--flags-qr", toggleFlag 0x0080⟩,
  ⟨"-aa", "--flags-aa", toggleFlag 0x0004⟩,
  ⟨"-tc", "--flags-tc", toggleFlag 0x0002⟩,
  ⟨"-rd", "--flags-rd", toggleFlag 0x0001⟩,
  ⟨"-ra", "--flags-ra", toggleFlag 0x8000⟩,
  ⟨"-ad", "--flags-ad", toggleFlag 0x1000⟩,
  ⟨"-cd", "--flags-cd", toggleFlag 0x2000⟩,
  ⟨"-edns", "-edns", fun block => { block with edns := true }⟩,
  ⟨"-dnssec", "-dnssec", fun block => { block with edns := true, dnssec := true }⟩,
  ⟨"-dv", "--disable-validate", fun block => { block with validate := false }⟩,
  ⟨"-6", "--ipv6", fun block => { block with protocol := afInet6 }⟩,
  ⟨"-4", "--ipv4", fun block => { block with protocol := afInet }⟩]

structure NumberOption where
  short : String
  long : String
  accepts : Int32 → Bool
  store : Int32 → ParameterBlock → ParameterBlock
  error : String

def within (low high : Int32) (result : Int32) : Bool := low ≤ result && result ≤ high

def toUInt16 (result : Int32) : UInt16 := result.toUInt32.toUInt16

/-- Some bounds are unsigned constants: the comparison with them is unsigned. -/
def numberOptions : List NumberOption := [
  ⟨"-n", "--number", within 1 0xFFFF,
    fun result block => { block with statisticsSend := result.toUInt32 },
    "\nParameter [-n count] error.\n"⟩,
  ⟨"-i", "--hop-limits", within 1 0xFF,
    fun result block => { block with ipHopLimits := result },
    "\nParameter [-i hoplimit/ttl] error.\n"⟩,
  ⟨"-w", "--waiting-time", fun result => 500 ≤ result.toUInt32 && result < 0xFFFF,
    fun result block => { block with socketTimeout := result },
    "\nParameter [-w timeout] error.\n"⟩,
  ⟨"-id", "--dns-id", within 1 0xFFFF,
    fun result block => { block with parameterHeader.id := htons (toUInt16 result) },
    "\nParameter [-id dns_id] error.\n"⟩,
  ⟨"-opcode", "--flags-opcode", within 1 0xF,
    fun result block => { block with
      parameterHeader.flags := block.parameterHeader.flags ||| htons (toUInt16 result <<< 11) },
    "\nParameter [-opcode opcode] error.\n"⟩,
  ⟨"-rcode", "--flags-rcode", within 1 0xF,
    fun result block => { block with
      parameterHeader.flags := block.parameterHeader.flags ||| htons (toUInt16 result) },
    "\nParameter [-rcode rcode] error.\n"⟩,
  ⟨"-qn", "--dns-qn", within 1 0xFFFF,
    fun result block => { block with parameterHeader.questions := htons (toUInt16 result) },
    "\nParameter [-qn count] error.\n"⟩,
  ⟨"-ann", "--dns-ann", within 1 0xFFFF,
    fun result block => { block with parameterHeader.answer := htons (toUInt16 result) },
    "\nParameter [-ann count] error.\n"⟩,
  ⟨"-aun", "--dns-aun", within 1 0xFFFF,
    fun result block => { block with parameterHeader.authority := htons (toUInt16 result) },
    "\nParameter [-aun count] error.\n"⟩,
  ⟨"-adn", "--dns-adn", within 1 0xFFFF,
    fun result block => { block with parameterHeader.additional := htons (toUInt16 result) },
    "\nParameter [-adn count] error.\n"⟩,
  ⟨"-ti", "--transmission-interval", fun result => 0 ≤ result,
    fun result block => { block with transmissionInterval := result.toUInt32 },
    "\nParameter [-ti interval_time] error.\n"⟩,
  ⟨"-payload", "-payload", fun result => 512 < result.toUInt32 && result ≤ 0xFFFF,
    fun result block => { block with ednsPayloadSize := result.toUInt32, edns := true },
    "\nParameter [-payload length] error.\n"⟩,
  ⟨"-buf", "--buffer-size", fun result => 512 ≤ result.toUInt32 && result.toUInt32 ≤ 4096,
    fun result block => { block with bufferSize := result.toUInt32 },
    "\nParameter [-buf size] error.\n"⟩]

def readNumberOption (opt : NumberOption) (parameter : WString) : Dnsping Unit :=
  if opt.accepts (readNumber parameter) then setParameters (opt.store (readNumber parameter))
  else throw opt.error

structure NameOption where
  short : String
  long : String
  lookup : Surroundings → WString → UInt16
  store : UInt16 → ParameterBlock → ParameterBlock
  error : String

def nameOptions : List NameOption := [
  ⟨"-qt", "--query-type", Surroundings.dnsTypeNameToHex,
    fun result block => { block with parameterQuery.type := result },
    "\nParameter [-qt type] error.\n"⟩,
  ⟨"-qc", "--query-classes", Surroundings.dnsClassesNameToHex,
    fun result block => { block with parameterQuery.classes := result },
    "\nParameter [-qc classes] error.\n"⟩,
  ⟨"-p", "--port", Surroundings.serviceNameToPort,
    fun result block => { block with serviceType := result },
    "\nParameter [-p service_type/protocol] error.\n"⟩]

def readNameOption (env : Surroundings) (opt : NameOption) (parameter : WString) :
    Dnsping Unit :=
  let result := opt.lookup env parameter
  if result ≠ 0 then setParameters (opt.store result)
  else if within 1 0xFFFF (readNumber parameter) then
    setParameters (opt.store (htons (toUInt16 (readNumber parameter))))
  else throw opt.error

/-- `strtoul` of two characters after `0x`. -/
def hexByte (high low : UInt8) : Nat :=
  (([high, low].map fun c => digitValue c.toUInt16).takeWhile (· < 16)).foldl
    (fun n d => 16 * n + d) 0

/-- The bytes of the raw data up to the first pair that is not a positive byte, and whether
there is none such. An odd length pairs the last character with the terminator. -/
def hexBytes : NarrowString → List UInt8 × Bool
  | [] => ([], true)
  | [c] =>
    if hexByte c 0 = 0 then ([], false) else ([UInt8.ofNat (hexByte c 0)], true)
  | high :: low :: s =>
    if hexByte high low = 0 then ([], false)
    else
      let (bytes, ok) := hexBytes s
      (UInt8.ofNat (hexByte high low) :: bytes, ok)

/-- The length of the text is not restricted: the source asks it to be both under the minimum
and over the maximum. -/
def readRawData (env : Surroundings) (parameter : WString) : Dnsping Unit := do
  let (bytes, ok) := hexBytes (env.wideCharToMultiByte parameter)
  setStrings fun strings => { strings with rawData := some bytes }
  setParameters fun block =>
    { block with rawDataLen := block.rawDataLen + UInt32.ofNat bytes.length }
  if ok then return else throw "\nParameter [-rawdata raw_data] error.\n"

def ipprotoUdp : UInt16 := 17

def readRaw (env : Surroundings) (parameter : WString) : Dnsping Unit := do
  setParameters fun block => { block with rawSocket := true }
  let result := env.internetProtocolNameToPort parameter
  let number := readNumber parameter
  if result = ipprotoUdp ∨ result = 0 ∧ number = 17 then
    setParameters fun block => { block with rawSocket := false }
  else if result ≠ 0 then
    setParameters fun block => { block with serviceType := result.toUInt8.toUInt16 }
  else if within 1 0xF number then
    setParameters fun block => { block with serviceType := toUInt16 number }
  else throw "\nParameter [-raw service_type] error.\n"

def readSocks (env : Surroundings) (parameter : WString) : Dnsping Unit := do
  setStrings fun strings => { strings with targetStringSocks := parameter }
  match env.readSocksTarget parameter (← get).protocol with
  | .ok target => setParameters fun block => { block with sockAddrSocks := target }
  | .error text => throw text

def readSocksUsername (env : Surroundings) (parameter : WString) : Dnsping Unit := do
  let socksUsername := env.wideCharToMultiByte parameter
  setStrings fun strings => { strings with socksUsername := socksUsername }
  if 255 < socksUsername.length then throw "\nParameter [-socks_username] error.\n" else return

def readSocksPassword (env : Surroundings) (parameter : WString) : Dnsping Unit := do
  let socksPassword := env.wideCharToMultiByte parameter
  setStrings fun strings => { strings with socksPassword := socksPassword }
  if 255 < socksPassword.length then throw "\nParameter [-socks_password] error.\n" else return

def readShow (parameter : WString) : Dnsping Unit :=
  if parameter = wide "result" then
    setParameters fun block => { block with showResponse := true }
  else if parameter = wide "hex" ∨ parameter = wide "hexadecimal" then
    setParameters fun block => { block with showResponseHex := true }
  else throw "\nParameter [-show type] error.\n"

def readOutputFile (parameter : WString) : Dnsping Unit :=
  if parameter.length ≤ 260 then
    setStrings fun strings => { strings with wOutputFileName := parameter }
  else throw "\nParameter [-of file_name] error.\n"

def named (short long : String) (parameter : WString) : Bool :=
  parameter = wide short || parameter = wide long

def argumentOption (env : Surroundings) (parameter : WString) :
    Option (WString → Dnsping Unit) :=
  match numberOptions.find? fun opt => named opt.short opt.long parameter with
  | some opt => some (readNumberOption opt)
  | none =>
    match nameOptions.find? fun opt => named opt.short opt.long parameter with
    | some opt => some (readNameOption env opt)
    | none =>
      if named "-rawdata" "-rawdata" parameter then some (readRawData env)
      else if named "-raw" "-raw" parameter then some (readRaw env)
      else if named "-socks" "-socks" parameter then some (readSocks env)
      else if named "-socks_username" "-socks_username" parameter then
        some (readSocksUsername env)
      else if named "-socks_password" "-socks_password" parameter then
        some (readSocksPassword env)
      else if named "-show" "--show-response" parameter then some readShow
      else if named "-of" "--output-file" parameter then some readOutputFile
      else none

def readTestDomain (env : Surroundings) (parameter : WString) : Dnsping Unit :=
  if parameter.length ≤ 2 ∨ 256 < parameter.length then
    throw "\nTest domain length error.\n"
  else setStrings fun strings => { strings with testDomain := env.wideCharToMultiByte parameter }

def asciiColon : UInt8 := 58

/-- A character that no dotted address has. -/
def domainChar (c : UInt8) : Bool := c < 46 || c = 47 || 57 < c

def caseConvert (s : NarrowString) : NarrowString :=
  s.map fun c => if 96 < c && c < 123 then c - 32 else c

def bracketed (s : NarrowString) : NarrowString := 91 :: (s ++ [93])

def readIpv6 (env : Surroundings) (parameter : WString) (parameterString : NarrowString) :
    Dnsping Unit := do
  if parameter.length < 2 ∨ 40 < parameter.length then throw "\nTarget length error.\n"
  else if (← get).protocol = afInet then throw "\nTarget protocol error.\n"
  else
    setParameters fun block =>
      { block with protocol := afInet6, sockAddrNormal.ssFamily := afInet6 }
    match env.addressStringToBinary parameterString afInet6 with
    | none => throw "\nTarget format error, error code is %d.\n"
    | some addr =>
      setParameters fun block => { block with sockAddrNormal.addr := addr }
      setStrings fun strings => { strings with
        targetStringNormal := strings.targetStringNormal ++ bracketed parameterString }

def readIpv4 (env : Surroundings) (parameter : WString) (parameterString : NarrowString) :
    Dnsping Unit := do
  if parameter.length < 7 ∨ 15 < parameter.length then throw "\nTarget length error.\n"
  else if (← get).protocol = afInet6 then throw "\nTarget protocol error.\n"
  else
    setParameters fun block =>
      { block with protocol := afInet, sockAddrNormal.ssFamily := afInet }
    match env.addressStringToBinary parameterString afInet with
    | none => throw "\nTarget format error, error code is %d.\n"
    | some addr =>
      setParameters fun block => { block with sockAddrNormal.addr := addr }
      setStrings fun strings => { strings with targetStringNormal := parameterString }

/-- The entries a target is taken from. The link-local test of the source reads the start of
the `sockaddr`, where the family is, and the loopback constant is in host order: it stands for
1.0.0.127 here. -/
def AddrInfo.usable (info : AddrInfo) : Bool :=
  info.aiFamily = afInet6 && info.scopeId ≠ 0 ||
    info.aiFamily = afInet && info.addr ≠ [1, 0, 0, 127] && info.addr ≠ [255, 255, 255, 255]

def resolveTarget (env : Surroundings) (parameterString : NarrowString) : Dnsping Unit := do
  match env.getaddrinfo parameterString (← get).protocol with
  | none | some [] => throw "\nResolve domain name error, error code is %d.\n"
  | some infos =>
    match infos.find? AddrInfo.usable with
    | none => return
    | some info =>
      setParameters fun block => { block with
        protocol := info.aiFamily
        sockAddrNormal.ssFamily := info.aiFamily
        sockAddrNormal.addr := info.addr }
      let text := env.wsaAddressToString (← get).sockAddrNormal
      setStrings fun strings => { strings with
        targetAddressString := parameterString
        targetStringNormal :=
          if info.aiFamily = afInet6 then
            strings.targetStringNormal ++ bracketed (caseConvert text)
          else text }

def readDomain (env : Surroundings) (parameter : WString) (parameterString : NarrowString) :
    Dnsping Unit := do
  if parameter.length ≤ 2 then throw "\nTarget length error.\n"
  else if 0 < (← get).sockAddrSocks.ssFamily then
    setStrings fun strings => { strings with
      targetStringNormal := strings.targetStringNormal ++ parameterString }
  else resolveTarget env parameterString

def readTarget (env : Surroundings) (parameter : WString) : Dnsping Unit :=
  if parameter.length < 2 ∨ 256 < parameter.length then throw "\nTarget length error.\n"
  else
    let parameterString := env.wideCharToMultiByte parameter
    if asciiColon ∈ parameterString then readIpv6 env parameter parameterString
    else if parameterString.any domainChar then readDomain env parameter parameterString
    else if parameterString ≠ [] then readIpv4 env parameter parameterString
    else return

/-- A parameter that names no option, with `remaining` parameters after it. -/
def readOperand (env : Surroundings) (parameter : WString) (remaining : Nat) :
    Dnsping Unit := do
  let cfg ← get
  if cfg.rawData = none ∧ cfg.testDomain = [] ∧ remaining = 1 then readTestDomain env parameter
  else if remaining = 0 then readTarget env parameter
  else return

/-- A question mark or a request for help prints the description and is passed over. -/
def asksHelp (parameter : WString) : Bool :=
  0x3F ∈ parameter || named "-h" "--help" parameter

/-- `ReadCommands`, given the parameters after the name of the program. -/
def readCommands (env : Surroundings) : List WString → Dnsping Unit
  | [] => return
  | parameter :: rest =>
    if asksHelp parameter then readCommands env rest
    else
      match switchOptions.find? fun opt => named opt.short opt.long parameter with
      | some opt => do
        setParameters opt.store
        readCommands env rest
      | none =>
        match argumentOption env parameter with
        | none => do
          readOperand env parameter rest.length
          readCommands env rest
        | some read =>
          match rest with
          | [] => throw "\nNot enough parameters error.\n"
          | argument :: rest => do
            read argument
            readCommands env rest

end LdnsSelector
