import LdnsSelector.Winsock

set_option autoImplicit true

namespace LdnsSelector

open Memory

def socksVersion5 : UInt8 := 5

def socksMethodNoAuthenticationRequired : UInt8 := 0

def socksMethodUsernamePassword : UInt8 := 2

def socksUsernamePasswordVersion : UInt8 := 1

def socksUsernamePasswordSuccess : UInt8 := 0

def socksCommandUdpAssociate : UInt8 := 3

def socks5AddressIpv4 : UInt8 := 1

def socks5AddressDomain : UInt8 := 3

def socks5AddressIpv6 : UInt8 := 4

def socks5ReplySuccess : UInt8 := 0

def socksBufferSize : Nat := 4096

def sendErrorText : String := "Send packet error, error code is %d.\n"

def socksReceiveErrorText : String := "SOCKS server receive error, error code is %d.\n"

def socksReplyErrorText : String := "SOCKS server reply message error.\n"

/-- `recv` from the server, which has to answer something. -/
def receiveSocks (s : Socket) (buffer : Memory) : Exchange (Option Memory) := do
  let (buffer, result) ← receive s socksBufferSize buffer
  if 0 < result then return some buffer else report socksReceiveErrorText

/-- The client selection: no authentication, or a username and password. -/
def clientSelection : List UInt8 :=
  [socksVersion5, 2, socksMethodNoAuthenticationRequired, socksMethodUsernamePassword]

/-- The length of an empty password is left out. -/
def authenticationRequest (username password : NarrowString) : List UInt8 :=
  socksUsernamePasswordVersion :: UInt8.ofNat username.length :: username ++
    if 0 < password.length then UInt8.ofNat password.length :: password else []

/-- The request is put together in the buffer, and what the server answers is received over
it. -/
def authenticate (cfg : ConfigurationTable) (s : Socket) : Exchange (Option Unit) := do
  let request := authenticationRequest cfg.socksUsername cfg.socksPassword
  if socksBufferSize < request.length then .crash (.aborted .invalidParameter)
  else
    andThen (check (winsock (.send s request)) sendErrorText) fun _ =>
      andThen (receiveSocks s (zeros.write 0 request)) fun buffer =>
        if buffer 0 ≠ socksUsernamePasswordVersion ∨ buffer 1 ≠ socksUsernamePasswordSuccess then
          report "SOCKS server authentication error, error code is %u.\n"
        else return some ()

def negotiate (cfg : ConfigurationTable) (s : Socket) (buffer : Memory) :
    Exchange (Option Unit) :=
  if buffer 0 ≠ socksVersion5 then report "SOCKS server selection error.\n"
  else if buffer 1 ≠ socksMethodNoAuthenticationRequired then
    if buffer 1 = socksMethodUsernamePassword then authenticate cfg s
    else report "SOCKS server require a not support authentication.\n"
  else return some ()

/-- The request to associate, from any address. -/
def associateRequest (cfg : ConfigurationTable) (localPort : UInt16) : List UInt8 :=
  if cfg.sockAddrNormal.ssFamily = afInet6 then
    [socksVersion5, socksCommandUdpAssociate, 0, socks5AddressIpv6] ++ List.replicate 16 0 ++
      le16 localPort
  else
    [socksVersion5, socksCommandUdpAssociate, 0, socks5AddressIpv4] ++ List.replicate 4 0 ++
      le16 localPort

/-- The address the server answers is not used, and a port of zero neither. -/
def boundAddress (udp server : SockAddr) (buffer : Memory) (portAt : Nat) : SockAddr :=
  let port := readLe16 buffer portAt
  { udp with addr := server.addr, port := if 0 < port then port else udp.port }

def readReply (udp server : SockAddr) (buffer : Memory) : Exchange (Option SockAddr) :=
  if buffer 0 ≠ socksVersion5 ∨ buffer 1 ≠ socks5ReplySuccess then report socksReplyErrorText
  else if udp.ssFamily = afInet6 ∧ buffer 3 = socks5AddressIpv6 then
    return some (boundAddress udp server buffer 20)
  else if udp.ssFamily = afInet ∧ buffer 3 = socks5AddressIpv4 then
    return some (boundAddress udp server buffer 8)
  else report socksReplyErrorText

/-- `SOCKS_UDP_ASSOCIATE`: the address that datagrams are relayed by. -/
def socksUdpAssociate (cfg : ConfigurationTable) (udp : SockAddr) (localPort : UInt16)
    (s : Socket) (server : SockAddr) (addrLen : Nat) : Exchange (Option SockAddr) :=
  andThen (check (winsock (.connect s server addrLen))
    "SOCKS server connecting error, error code is %d.\n") fun _ =>
  andThen (check (winsock (.send s clientSelection)) sendErrorText) fun _ =>
  andThen (receiveSocks s zeros) fun buffer =>
  andThen (negotiate cfg s buffer) fun _ =>
  andThen (check (winsock (.send s (associateRequest cfg localPort))) sendErrorText) fun _ =>
  andThen (receiveSocks s zeros) fun buffer => readReply udp server buffer

end LdnsSelector
