import LdnsSelector.Interaction
import LdnsSelector.Define

set_option autoImplicit true

namespace LdnsSelector

structure AdapterInfo where
  id : UInt32
  strDescription : WString
  strMacAddress : WString
  dhcp : Bool
  strDns1 : WString
  strDns2 : WString
  recvBytesTotal : UInt32
  sendBytesTotal : UInt32
  deriving DecidableEq, Repr

/-- The private members through which `dns_selector` reaches its parts. -/
inductive ServiceCall where
  | fetchDnsInfo (mapDnsInfo : DnsMap)
  | pingTime (strIp : WString)
  | getAdapterList
  | switchAdapterDns (adapterId : UInt32) (strDnsIp1 strDnsIp2 : WString)
  deriving DecidableEq

/-- A reference parameter is answered by its value after the call. A ping answers its time,
or nothing when it reports `result_dnsping_fail`. -/
abbrev ServiceCall.Answer : ServiceCall → Type
  | .fetchDnsInfo _ => Result × DnsMap
  | .pingTime _ => Option UInt32
  | .getAdapterList => Result × List AdapterInfo
  | .switchAdapterDns _ _ _ => Result

abbrev Services : Interface := ⟨ServiceCall, ServiceCall.Answer⟩

/-- The exceptions that matter here, by family. -/
inductive CppException where
  | httpException
  | jsonException
  | rangeError
  deriving DecidableEq, Repr

/-- A member of `dns_selector`. An exception nobody catches ends the process. -/
abbrev Selector (α : Type) := Prog Services CppException α

abbrev fetchDnsInfo (mapDnsInfo : DnsMap) : Selector (Result × DnsMap) :=
  Prog.perform (I := Services) (.fetchDnsInfo mapDnsInfo)

abbrev pingTime (strIp : WString) : Selector (Option UInt32) :=
  Prog.perform (I := Services) (.pingTime strIp)

abbrev getAdapterList : Selector (Result × List AdapterInfo) :=
  Prog.perform (I := Services) .getAdapterList

abbrev switchAdapterDns (adapterId : UInt32) (strDnsIp1 strDnsIp2 : WString) :
    Selector Result :=
  Prog.perform (I := Services) (.switchAdapterDns adapterId strDnsIp1 strDnsIp2)

end LdnsSelector
