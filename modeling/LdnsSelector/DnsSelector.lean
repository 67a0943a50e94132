import LdnsSelector.Ranking
import LdnsSelector.Services

set_option autoImplicit true

namespace LdnsSelector

/-- One entry of `vec_tp_ping_t_ms_vip`. -/
structure Candidate where
  timeMs : UInt32
  strVip : WString
  deriving DecidableEq, Repr

def Candidate.key (c : Candidate) : Nat := c.timeMs.toNat

/-- `time_out`, the time that stands in for a failed ping. -/
def timeOut : UInt32 := 9999999

def candidateOf (strVip : WString) : Option UInt32 → Candidate
  | some timeMs => ⟨timeMs, strVip⟩
  | none => ⟨timeOut, strVip⟩

/-- The retry loop with `n` attempts to go. `.error` is a `return` inside the loop. -/
def requestDnsInfo : Nat → Result → DnsMap → Selector (Except Result (Result × DnsMap))
  | 0, res, mapDnsInfo => return .ok (res, mapDnsInfo)
  | n + 1, _, _ => do
    let (res, mapDnsInfo) ← fetchDnsInfo ∅
    if res = .success then return .ok (res, mapDnsInfo)
    else if res ≠ .networkInterfaceHttpRequestFail then return .error res
    else requestDnsInfo n res mapDnsInfo

/-- Set public servers on the first adapter and fetch once more, into the same map. -/
def switchToPublicDns (res : Result) (mapDnsInfo : DnsMap) : Selector (Result × DnsMap) := do
  if res ≠ .networkInterfaceHttpRequestFail then return (res, mapDnsInfo)
  else
    let (res, vec) ← getAdapterList
    if res ≠ .success then return (res, mapDnsInfo)
    else
      match vec with
      | [] => return (.noValidAdapterForSwitching, mapDnsInfo)
      | info :: _ =>
        let res ← switchAdapterDns info.id defaultDns1 defaultDns2
        if res ≠ .success then return (res, mapDnsInfo)
        else fetchDnsInfo mapDnsInfo

/-- The first half of `auto_select_dns`: obtain a list of servers, or return early. -/
def obtainDnsInfo : Selector (Except Result DnsMap) := do
  match ← requestDnsInfo networkInterfaceRequestMaxTime .success ∅ with
  | .error res => return .error res
  | .ok (res, mapDnsInfo) =>
    if res = .success then return .ok mapDnsInfo
    else
      let (res, mapDnsInfo) ← switchToPublicDns res mapDnsInfo
      if res ≠ .success then return .error res
      else return .ok mapDnsInfo

def pingView : List (WString × WString) → List Candidate → Selector (List Candidate)
  | [], vec => return vec
  | (strVip, _) :: items, vec => do
    let answer ← pingTime strVip
    pingView items (vec ++ [candidateOf strVip answer])

def pingViews (layout : Layout) :
    List (WString × VipMap) → List Candidate → Selector (List Candidate)
  | [], vec => return vec
  | (_, items) :: views, vec => do
    let vec ← pingView (layout.walk items) vec
    pingViews layout views vec

/-- Choose from the sorted candidates. An empty second address stands for "none". -/
def selectDns : List Candidate → Except Result (WString × WString)
  | [] => .error .noValidDnsForSwitching
  | first :: rest =>
    if first.timeMs = pingTimeout then .error .noValidDnsForSwitching
    else
      match rest with
      | [] => .ok (first.strVip, [])
      | second :: _ =>
        if second.timeMs ≠ pingTimeout then .ok (first.strVip, second.strVip)
        else .ok (first.strVip, [])

/-- The second address when the list supplied none. -/
def backupDns (info : AdapterInfo) (strPreSwitchDns1 : WString) : WString :=
  if info.dhcp ∧ strPreSwitchDns1 ≠ defaultDns1 then defaultDns1
  else if info.dhcp ∧ strPreSwitchDns1 ≠ defaultDns2 then defaultDns2
  else if info.strDns1 ≠ strPreSwitchDns1 then info.strDns1
  else if info.strDns2 ≠ strPreSwitchDns1 then info.strDns2
  else []

def secondDns (info : AdapterInfo) (strPreSwitchDns1 strPreSwitchDns2 : WString) : WString :=
  if strPreSwitchDns2 = [] then backupDns info strPreSwitchDns1 else strPreSwitchDns2

def switchFirstAdapter (strPreSwitchDns1 strPreSwitchDns2 : WString) : Selector Result := do
  let (res, vec) ← getAdapterList
  if res ≠ .success then return res
  else
    match vec with
    | [] => return .noValidAdapterForSwitching
    | info :: _ =>
      switchAdapterDns info.id strPreSwitchDns1
        (secondDns info strPreSwitchDns1 strPreSwitchDns2)

/-- The second half of `auto_select_dns`: ping, sort, choose and switch. -/
def switchToBestDns (layout : Layout) (sorter : StdSort Candidate.key) (mapDnsInfo : DnsMap) :
    Selector Result := do
  let vec ← pingViews layout (layout.walk mapDnsInfo) []
  match selectDns (sorter.sort vec) with
  | .error res => return res
  | .ok (strPreSwitchDns1, strPreSwitchDns2) =>
    switchFirstAdapter strPreSwitchDns1 strPreSwitchDns2

def autoSelectDns (layout : Layout) (sorter : StdSort Candidate.key) : Selector Result := do
  match ← obtainDnsInfo with
  | .error res => return res
  | .ok mapDnsInfo => switchToBestDns layout sorter mapDnsInfo

/-- The second address of a manual switch, from the enumerated adapters. -/
def manualBackup (vec : List AdapterInfo) (adapterId : UInt32) (strIp : WString) : WString :=
  match vec.find? fun r => adapterId = r.id with
  | none => strIp
  | some info =>
    if info.strDns1 = [] then strIp
    else if info.strDns1 ≠ strIp then info.strDns1
    else if info.strDns2 = [] then strIp
    else if info.strDns2 ≠ strIp then info.strDns2
    else strIp

def onSwitchDns (adapterId : UInt32) (strIp : WString) : Selector Result := do
  let (res, vec) ← getAdapterList
  let strDns2 := if res = .success then manualBackup vec adapterId strIp else strIp
  switchAdapterDns adapterId strIp strDns2

end LdnsSelector
