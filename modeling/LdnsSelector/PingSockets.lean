import LdnsSelector.QueryRefinement
import LdnsSelector.SentMessages

set_option autoImplicit true

open Prog

namespace LdnsSelector

namespace Winsock

def wcscpyS (size : Nat) (s : WString) : Exchange WString :=
  if (cStr s).length < size then return cStr s else .crash (.aborted .invalidParameter)

/-- `DNSPingInterface::Ping`, over the sockets. -/
def ping (rounds : Nat) (env : Surroundings) (moduleFileName strDnsIp strUrl : WString)
    (cfg : ConfigurationTable) : Exchange (PingResult × ConfigurationTable) := do
  let argv8 ← Winsock.wcscpyS 64 strUrl
  let argv9 ← Winsock.wcscpyS 64 strDnsIp
  let (_, cfg) ← Winsock.dnspingMain rounds env (pingArguments moduleFileName argv8 argv9) cfg
  if 0 < cfg.statisticsRealSend - cfg.statisticsRecvNum then return (.unreachable, cfg)
  else return (.reachable cfg.averageTime, cfg)

end Winsock

section Reaching

variable {env : Surroundings} {cfg : ConfigurationTable}

end Reaching

end LdnsSelector
