import LdnsSelector.IpFetcher
import LdnsSelector.Ranking

set_option autoImplicit true

namespace LdnsSelector

structure WmiAdapterInfo where
  index : UInt32
  interfaceIndex : UInt32
  strDescription : WString
  strMacAddress : WString
  dhcp : Bool
  strDns1 : WString
  strDns2 : WString
  deriving DecidableEq, Repr

structure AdapterPerformanceCounter where
  adapterInterfaceIndex : UInt32
  recvBytesTotal : UInt32
  sendBytesTotal : UInt32
  deriving DecidableEq, Repr

/-- What the program asks of the machine it runs on: the service, the name servers, WMI and
the interface table. -/
inductive PlatformCall where
  | request
  | ping (strDnsIp : WString)
  | wmiAdapterList
  | adapterPerformance
  | setDnsServerSearchOrder (index : UInt32) (strDns1 strDns2 : WString)
  deriving DecidableEq

abbrev PlatformCall.Answer : PlatformCall → Type
  | .request => HttpOutcome
  | .ping _ => Option UInt32
  | .wmiAdapterList => Result × List WmiAdapterInfo
  | .adapterPerformance => Result × List AdapterPerformanceCounter
  | .setDnsServerSearchOrder _ _ _ => Result

abbrev Platform : Interface := ⟨PlatformCall, PlatformCall.Answer⟩

abbrev Machine (α : Type) := Prog Platform CppException α

abbrev ask (c : PlatformCall) : Machine c.Answer :=
  Prog.perform (I := Platform) c

abbrev requested (outcome : HttpOutcome) : Event Platform := ⟨.request, outcome⟩

abbrev enumerated (res : Result) (recs : List WmiAdapterInfo) : Event Platform :=
  ⟨.wmiAdapterList, (res, recs)⟩

abbrev measured (res : Result) (counters : List AdapterPerformanceCounter) : Event Platform :=
  ⟨.adapterPerformance, (res, counters)⟩

abbrev dnsSet (index : UInt32) (dns1 dns2 : WString) (res : Result) : Event Platform :=
  ⟨.setDnsServerSearchOrder index dns1 dns2, res⟩

def makelong (low high : UInt32) : UInt32 :=
  (low &&& (0xFFFF : UInt32)) ||| ((high &&& (0xFFFF : UInt32)) <<< (16 : UInt32))

def loword (l : UInt32) : UInt32 := l &&& 0xFFFF

theorem lowBits_clear : ∀ k : Fin 32, ¬k.1 < 16 → (65535#32)[k.1] = false := by decide

theorem and_or_shift (x y : UInt32) :
    ((x ||| (y <<< (16 : UInt32))) &&& 0xFFFF) = x &&& 0xFFFF := by
  apply UInt32.toBitVec_inj.1
  ext k hk
  by_cases h : k < 16
  · simp [h]
  · simp [lowBits_clear ⟨k, hk⟩ h]

theorem loword_makelong (low high : UInt32) : loword (makelong low high) = loword low := by
  simp only [loword, makelong]
  rw [and_or_shift, UInt32.and_assoc, UInt32.and_self]

theorem toNat_loword (l : UInt32) : (loword l).toNat = l.toNat % 65536 := by
  rw [loword, UInt32.toNat_and]
  exact Nat.and_two_pow_sub_one_eq_mod _ 16

theorem loword_lt (l : UInt32) : loword l < 65536 := by
  rw [UInt32.lt_iff_toNat_lt, toNat_loword]
  exact Nat.mod_lt _ (by decide)

theorem loword_eq_iff (l : UInt32) : loword l = l ↔ l < 65536 := by
  rw [UInt32.lt_iff_toNat_lt, ← UInt32.toNat_inj, toNat_loword]
  change _ ↔ l.toNat < 65536
  omega

/-- The low word gives the index back exactly when the index fits in it. -/
theorem loword_makelong_eq_iff (low high : UInt32) :
    loword (makelong low high) = low ↔ low < 65536 := by
  rw [loword_makelong, loword_eq_iff]

def adapterInfoOf (counters : List AdapterPerformanceCounter) (wmiInfo : WmiAdapterInfo) :
    AdapterInfo :=
  let counter := counters.find? fun r => wmiInfo.interfaceIndex = r.adapterInterfaceIndex
  { id := makelong wmiInfo.index wmiInfo.interfaceIndex
    strDescription := wmiInfo.strDescription
    strMacAddress := wmiInfo.strMacAddress
    dhcp := wmiInfo.dhcp
    strDns1 := wmiInfo.strDns1
    strDns2 := wmiInfo.strDns2
    recvBytesTotal := (counter.map (·.recvBytesTotal)).getD 0
    sendBytesTotal := (counter.map (·.sendBytesTotal)).getD 0 }

/-- The comparison of the adapter sort: most bytes received first. -/
def AdapterInfo.key (info : AdapterInfo) : ℕᵒᵈ := OrderDual.toDual info.recvBytesTotal.toNat

/-- `dns_switcher::get_adapter_list`, called with an empty vector. -/
def readAdapterList (sorter : StdSort AdapterInfo.key) : Machine (Result × List AdapterInfo) := do
  let (res, vecWmiAdapterInfo) ← ask .wmiAdapterList
  if res ≠ .success then return (res, [])
  else
    let (res, vecCounter) ← ask .adapterPerformance
    if res ≠ .success then return (res, [])
    else return (.success, sorter.sort (vecWmiAdapterInfo.map (adapterInfoOf vecCounter)))

/-- `wmi_interface::switch_adapter_dns`, its assertions compiled away. -/
def wmiSwitchAdapterDns (index : UInt32) (strDns1 strDns2 : WString) : Machine Result :=
  if strDns1 = [] ∨ strDns2 = [] then return .dnsIpInvalid
  else ask (.setDnsServerSearchOrder index strDns1 strDns2)

/-- The services of `dns_selector` on the machine, threading the static counter of
`parse_respond`. -/
def serve (sorter : StdSort AdapterInfo.key) :
    (c : ServiceCall) → UInt32 → Machine (c.Answer × UInt32)
  | .fetchDnsInfo mapDnsInfo, sSuffix => do
    let outcome ← ask .request
    match fetch outcome ⟨mapDnsInfo, sSuffix⟩ with
    | .ok res s => return ((res, s.mapDnsInfo), s.sSuffix)
    | .error e _ => .crash e
  | .pingTime strIp, sSuffix => do
    let answer ← ask (.ping strIp)
    return (answer, sSuffix)
  | .getAdapterList, sSuffix => do
    let answer ← readAdapterList sorter
    return (answer, sSuffix)
  | .switchAdapterDns adapterId strDns1 strDns2, sSuffix => do
    let res ← wmiSwitchAdapterDns (loword adapterId) strDns1 strDns2
    return (res, sSuffix)

def onMachine (sorter : StdSort AdapterInfo.key) (p : Selector α) (sSuffix : UInt32) :
    Machine (α × UInt32) :=
  Prog.interp (serve sorter) p sSuffix

end LdnsSelector
