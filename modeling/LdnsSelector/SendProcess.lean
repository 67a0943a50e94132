import LdnsSelector.ResponseText
import LdnsSelector.SocksUdpAssociate

set_option autoImplicit true

namespace LdnsSelector

open Memory

def DnsHdr.bytes (hdr : DnsHdr) : List UInt8 :=
  le16 hdr.id ++ le16 hdr.flags ++ le16 hdr.questions ++ le16 hdr.answer ++ le16 hdr.authority ++
    le16 hdr.additional

def DnsQry.bytes (qry : DnsQry) : List UInt8 := le16 qry.type ++ le16 qry.classes

/-- The root name, the extended code, the version and the length of the data are zero. -/
def DnsOptRecord.bytes (opt : DnsOptRecord) : List UInt8 :=
  0 :: le16 opt.type ++ le16 opt.udpPayloadSize ++ [0, 0] ++ le16 opt.zField ++ [0, 0]

def dnsPacketMinsize : Int := 20

/-- The time after which a ping is repeated without an interval. -/
def standardTimeOut : ℚ := 1000

/-- `ValidatePacket`. The number of additional records is compared in network order. -/
def validatePacket (cfg : ConfigurationTable) (buffer : Memory) (length : Nat)
    (dnsId : UInt16) : Bool :=
  if readLe16 buffer 0 ≠ dnsId ∨ readLe16 buffer 4 = 0 then false
  else if cfg.edns then
    if readLe16 buffer 10 = 0 then false
    else if readLe16 buffer 10 = 1 then
      if 11 < length then
        !(readLe16 buffer (length - 11 + 3) = 0 ∨
          cfg.dnssec ∧ readLe16 buffer (length - 11 + 7) = 0)
      else false
    else true
  else true

/-- The sockets of a query. `Socket_SOCKS` is zero outside SOCKS mode. -/
structure Sockets where
  normal : Socket
  socks : Socket
  deriving DecidableEq, Repr

namespace ConfigurationTable

variable (cfg : ConfigurationTable)

def inSocks : Bool := 0 < cfg.sockAddrSocks.ssFamily

def isRaw : Bool := cfg.sockAddrSocks.ssFamily = 0 && cfg.rawData.isSome

def family : UInt16 :=
  if cfg.protocol = afInet6 ∨ cfg.sockAddrSocks.ssFamily = afInet6 then afInet6 else afInet

def addrLen : Nat := if cfg.family = afInet6 then 28 else 16

/-- `Socket_Exchange`. -/
def exchangeSocket (sockets : Sockets) : Socket :=
  if cfg.inSocks then sockets.socks else sockets.normal

/-- What `RawData` points to: the data read last stands after as many zeros as were read
before. -/
def rawBuffer : List UInt8 :=
  let data := cfg.rawData.getD []
  List.replicate (cfg.rawDataLen.toNat - data.length) 0 ++ data

def markTime (result : ℚ) : ConfigurationTable :=
  let cfg := { cfg with
    statisticsTotalTime := Binary64.add cfg.statisticsTotalTime result
    statisticsRecvNum := cfg.statisticsRecvNum + 1 }
  if cfg.statisticsMaxTime = 0 then
    { cfg with statisticsMinTime := result, statisticsMaxTime := result }
  else if result < cfg.statisticsMinTime then { cfg with statisticsMinTime := result }
  else if cfg.statisticsMaxTime < result then { cfg with statisticsMaxTime := result }
  else cfg

end ConfigurationTable

def openSockets (cfg : ConfigurationTable) : Exchange Sockets := do
  if cfg.isRaw && cfg.rawSocket then
    return ⟨← winsock (.socket cfg.family (.raw cfg.serviceType)), 0⟩
  else if cfg.inSocks then
    let normal ← winsock (.socket cfg.family .stream)
    let socks ← winsock (.socket cfg.family .datagram)
    return ⟨normal, socks⟩
  else return ⟨← winsock (.socket cfg.family .datagram), 0⟩

def setTimeouts (cfg : ConfigurationTable) (s : Socket) : Exchange Bool := do
  if ← winsock (.setsockopt s (.sndTimeo cfg.socketTimeout)) then
    winsock (.setsockopt s (.rcvTimeo cfg.socketTimeout))
  else return false

def setHopLimits (cfg : ConfigurationTable) (s : Socket) : Exchange Bool :=
  if cfg.ipHopLimits = 0 then return true
  else if cfg.protocol = afInet6 then winsock (.setsockopt s (.unicastHops cfg.ipHopLimits))
  else winsock (.setsockopt s (.ttl cfg.ipHopLimits))

def setDontFragment (cfg : ConfigurationTable) (s : Socket) : Exchange Bool :=
  if cfg.protocol ≠ afInet6 ∧ cfg.ipv4Df then winsock (.setsockopt s .dontFragment)
  else return true

/-- A packet to send, with the id to look for in the reply when the reply is to be validated. -/
structure Packet where
  buffer : Memory
  dataLength : Nat
  dnsId : Option UInt16

/-- The header of a query, and the id if the process gives it one. -/
def makeHeader (cfg : ConfigurationTable) (buffer : Memory) : Exchange (Memory × Option UInt16) :=
  if cfg.parameterHeader.id = 0 then do
    let pid ← winsock .getCurrentProcessId
    let dnsId := htons pid.toUInt16
    return (buffer.write 0 (le16 dnsId), some dnsId)
  else return (buffer, none)

def makePacket (cfg : ConfigurationTable) : Exchange Packet :=
  if cfg.isRaw then
    return ⟨zeros.write 0 (cfg.rawBuffer.take (min cfg.rawDataLen.toNat cfg.bufferSize.toNat)),
      min cfg.rawDataLen.toNat cfg.bufferSize.toNat, none⟩
  else do
    let buffer ← memcpyS zeros 0 cfg.bufferSize cfg.parameterHeader.bytes
    let (buffer, dnsId) ← makeHeader cfg buffer
    let (buffer, nameLength) := charToDnsQuery (charPtr cfg.testDomain) buffer 12
    let dataLength := 12 + nameLength
    let buffer ← memcpyS buffer dataLength (cfg.bufferSize - UInt32.ofNat dataLength)
      cfg.parameterQuery.bytes
    let dataLength := dataLength + 4
    if cfg.edns then
      let buffer ← memcpyS buffer dataLength (cfg.bufferSize - UInt32.ofNat dataLength)
        cfg.parameterEdns.bytes
      return ⟨buffer, dataLength + 11, dnsId⟩
    else return ⟨buffer, dataLength, dnsId⟩

def fixed (size : Nat) (bytes : List UInt8) : List UInt8 :=
  (bytes ++ List.replicate size 0).take size

/-- The header of a datagram to be relayed, without its port, and the port. -/
def relayHeader (cfg : ConfigurationTable) (target : SockAddr) : Option (List UInt8 × UInt16) :=
  if target.ssFamily = afInet6 then
    some ([0, 0, 0, socks5AddressIpv6] ++ fixed 16 target.addr, target.port)
  else if target.ssFamily = afInet then
    some ([0, 0, 0, socks5AddressIpv4] ++ fixed 4 target.addr, target.port)
  else if cfg.targetStringNormal ≠ [] then
    some ([0, 0, 0, socks5AddressDomain, UInt8.ofNat cfg.targetStringNormal.length] ++
      cfg.targetStringNormal, cfg.serviceType)
  else none

/-- The packet is moved up, and the header put before it. -/
def makeRelayed (cfg : ConfigurationTable) (target : SockAddr) (packet : Packet) :
    Exchange (Option Packet) :=
  match relayHeader cfg target with
  | none => report "Make SOCKS packet header error.\n"
  | some (header, port) => do
    let size := header.length + 2
    let buffer ← memcpyS packet.buffer size (cfg.bufferSize - UInt32.ofNat size)
      (packet.buffer.read 0 packet.dataLength)
    let buffer ← memcpyS buffer 0 cfg.bufferSize header
    return some { packet with
      buffer := buffer.write header.length (le16 port)
      dataLength := packet.dataLength + size }

def connectErrorText : String := "Connecting error, error code is %d.\n"

/-- `connect` and `getsockname`: the local port of the socket for the datagrams. -/
def connectLocal (s : Socket) (udp : SockAddr) (addrLen : Nat) : Exchange (Option UInt16) :=
  andThen (check (winsock (.connect s udp addrLen)) connectErrorText) fun _ => do
    match ← winsock (.getsockname s) with
    | none => report connectErrorText
    | some addr => return some addr.port

def makeConnection (cfg : ConfigurationTable) (sockets : Sockets) (target : SockAddr)
    (packet : Packet) : Exchange (Option Packet) :=
  if cfg.inSocks then
    let udp : SockAddr := { cfg.sockAddrSocks with port := 0 }
    let addrLen := if udp.ssFamily = afInet6 then 28 else 16
    andThen (connectLocal sockets.socks udp addrLen) fun localPort =>
    andThen (socksUdpAssociate cfg udp localPort sockets.normal cfg.sockAddrSocks cfg.addrLen)
      fun udp =>
    andThen (check (winsock (.connect sockets.socks udp addrLen)) connectErrorText) fun _ =>
    makeRelayed cfg target packet
  else
    andThen (check (winsock (.connect sockets.normal target cfg.addrLen)) connectErrorText)
      fun _ => return some packet

structure Reply where
  buffer : Memory
  dataLength : Int
  waiting : ℚ

def timerErrorText : String :=
  "Get current time from High Precision Event Timer/HPET error, error code is %d.\n"

structure Clock where
  frequency : Nat
  before : Int

def Clock.elapsed (clock : Clock) (after : Int) : ℚ :=
  Binary64.div (Binary64.mul (Binary64.round (after - clock.before : Int)) 1000)
    (Binary64.round clock.frequency)

def startClock : Exchange (Option Clock) := do
  match ← winsock .queryPerformanceFrequency with
  | none => report timerErrorText
  | some frequency =>
    match ← winsock .queryPerformanceCounter with
    | none => report timerErrorText
    | some before => return some ⟨frequency, before⟩

/-- `recv` into a buffer of zeros, and the time it took. -/
def receiveReply (cfg : ConfigurationTable) (s : Socket) (clock : Clock) :
    Exchange (Option Reply) := do
  let (buffer, dataLength) ← receive s cfg.bufferSize.toNat zeros
  match ← winsock .queryPerformanceCounter with
  | none => report timerErrorText
  | some after => return some ⟨buffer, dataLength, clock.elapsed after⟩

/-- The loop that waits for a correct packet, given up unfinished after `rounds`. -/
def awaitCorrect (cfg : ConfigurationTable) (s : Socket) (clock : Clock) (dnsId : UInt16) :
    Nat → Reply → Exchange (Option Reply)
  | rounds, reply =>
    if (cfg.socketTimeout.toInt : ℚ) ≤ reply.waiting then return some reply
    else
      match rounds with
      | 0 => .crash .unfinished
      | rounds + 1 =>
        andThen (receiveReply cfg s clock) fun reply =>
          if reply.dataLength ≤ 0 then return some reply
          else if validatePacket cfg reply.buffer reply.dataLength.toNat dnsId then
            return some reply
          else do
            winsock (.print (.validateError reply.dataLength.toNat reply.waiting))
            awaitCorrect cfg s clock dnsId rounds reply

def socksFormatErrorText : String := "SOCKS receive data format error.\n"

/-- A relayed reply without its header, the length as it was received. -/
def unwrapReply (reply : Reply) : Exchange (Option Reply) :=
  let buffer := reply.buffer
  let length := reply.dataLength.toNat
  if 0 < readLe16 buffer 0 ∨ 0 < buffer 2 ∨ reply.dataLength < 4 then
    report socksFormatErrorText
  else if buffer 3 = socks5AddressIpv6 ∧ 22 < reply.dataLength then
    return some { reply with buffer := buffer.write 0 (buffer.read 22 (length - 22)) }
  else if buffer 3 = socks5AddressIpv4 ∧ 10 < reply.dataLength then
    return some { reply with buffer := buffer.write 0 (buffer.read 10 (length - 10)) }
  else report socksFormatErrorText

/-- What a query has come to: a reply that counts, none, or none in place of a wrong one. -/
inductive Verdict where
  | counted (reply : Reply)
  | unanswered (reply : Reply)
  | givenUp (reply : Reply)

def judge (cfg : ConfigurationTable) (s : Socket) (clock : Clock) (dnsId : Option UInt16)
    (rounds : Nat) (reply : Reply) : Exchange (Option Verdict) :=
  if reply.dataLength < dnsPacketMinsize then return some (.unanswered reply)
  else if cfg.inSocks then andThen (unwrapReply reply) fun reply => return some (.counted reply)
  else
    match dnsId with
    | none => return some (.counted reply)
    | some dnsId =>
      if cfg.validate && !validatePacket cfg reply.buffer reply.dataLength.toNat dnsId then do
        winsock (.print (.validateError reply.dataLength.toNat reply.waiting))
        andThen (awaitCorrect cfg s clock dnsId rounds reply) fun reply =>
          if reply.dataLength ≤ 0 then return some (.givenUp reply)
          else return some (.counted reply)
      else return some (.counted reply)

def awaitReply (cfg : ConfigurationTable) (s : Socket) (clock : Clock) (dnsId : Option UInt16)
    (rounds : Nat) : Exchange (Option Verdict) :=
  andThen (receiveReply cfg s clock) fun reply => judge cfg s clock dnsId rounds reply

def printIf (shown : Bool) (line : Line) : Exchange Unit :=
  if shown then winsock (.print line) else return

/-- `PrintResponse`, which goes on for ever where the pointers of a name come back. -/
def printReply (shown : Bool) (buffer : Memory) (length : Nat) : Exchange Unit :=
  if shown then do
    winsock (.print (.response (buffer.read 0 length)))
    if printResponse buffer length 0x3FFF = none then .crash .unfinished else return
  else return

def showReply (cfg : ConfigurationTable) (reply : Reply) : Exchange Unit := do
  let length := reply.dataLength.toNat
  winsock (.print (.receiveFrom length reply.waiting))
  printReply cfg.showResponse reply.buffer length
  printIf cfg.showResponseHex (.responseHex (reply.buffer.read 0 length))

def pause (cfg : ConfigurationTable) (lastSend : Bool) (result : ℚ) : Exchange Unit :=
  if lastSend then return
  else if cfg.transmissionInterval ≠ 0 ∧ result < cfg.transmissionInterval.toNat then
    winsock (.sleep (UInt32.ofNat ⌊Binary64.sub cfg.transmissionInterval.toNat result⌋₊))
  else if result ≤ standardTimeOut then winsock (.sleep 1000)
  else return

def conclude (cfg : ConfigurationTable) (lastSend : Bool) :
    Verdict → Exchange ConfigurationTable
  | .counted reply => do
    showReply cfg reply
    pause cfg lastSend reply.waiting
    return cfg.markTime reply.waiting
  | .unanswered reply => do
    winsock (.print (.receiveError reply.dataLength reply.waiting))
    pause cfg lastSend reply.waiting
    return cfg
  | .givenUp reply => do
    winsock (.print (.correctAnswersTimeout reply.dataLength reply.waiting))
    return cfg

def transact (cfg : ConfigurationTable) (target : SockAddr) (lastSend : Bool) (rounds : Nat)
    (sockets : Sockets) (packet : Packet) : Exchange (Option ConfigurationTable) :=
  let s := cfg.exchangeSocket sockets
  andThen (makeConnection cfg sockets target packet) fun packet =>
  andThen startClock fun clock =>
  andThen (check (winsock (.send s (packet.buffer.read 0 packet.dataLength))) sendErrorText)
    fun _ =>
  andThen (awaitReply cfg s clock packet.dnsId rounds) fun verdict => do
    return some (← conclude cfg lastSend verdict)

/-- What `SendProcess` does between opening the sockets and closing them. -/
def exchangePackets (cfg : ConfigurationTable) (target : SockAddr) (lastSend : Bool)
    (rounds : Nat) (sockets : Sockets) : Exchange (Option ConfigurationTable) :=
  let s := cfg.exchangeSocket sockets
  andThen (check (setTimeouts cfg s) "Set UDP socket timeout error, error code is %d.\n") fun _ =>
  andThen (check (setHopLimits cfg s) "Set HopLimit or TTL flag error, error code is %d.\n")
    fun _ =>
  andThen (check (setDontFragment cfg s)
    "Set \"Don't Fragment\" flag error, error code is %d.\n") fun _ => do
  transact cfg target lastSend rounds sockets (← makePacket cfg)

def opened (cfg : ConfigurationTable) (sockets : Sockets) : Bool :=
  sockets.normal ≠ invalidSocket && !(cfg.inSocks && sockets.socks = invalidSocket)

namespace Winsock

/-- `SendProcess`, on the configuration as it is. -/
def sendProcess (rounds : Nat) (cfg : ConfigurationTable) (target : SockAddr) (lastSend : Bool) :
    Exchange (ExitCode × ConfigurationTable) := do
  let sockets ← openSockets cfg
  if opened cfg sockets then
    let result ← exchangePackets cfg target lastSend rounds sockets
    winsock (.closesocket sockets.normal)
    winsock (.closesocket sockets.socks)
    match result with
    | none => return (.failure, cfg)
    | some cfg => return (.success, cfg)
  else
    winsock (.print (.error "Socket initialization error, error code is %d.\n"))
    return (.failure, cfg)

end Winsock

end LdnsSelector
