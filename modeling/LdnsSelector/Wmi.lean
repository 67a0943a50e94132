import LdnsSelector.Ownership
import LdnsSelector.Platform

set_option autoImplicit true

namespace LdnsSelector

abbrev HResult := UInt32

def rpcETooLate : HResult := 0x80010119

/-- The COM apartment of the thread, and the interface pointers by their address. -/
inductive ComResource where
  | apartment
  | pointer (address : Nat)
  deriving DecidableEq, Repr

abbrev Com (α : Type) := Tracked ComResource α

abbrev Pointer := Nat

/-- What `Get` answers for a property: a failure, `VT_NULL`, or the member of the variant that
is read. -/
inductive Reading (α : Type) where
  | failed (hres : HResult)
  | null
  | value (a : α)

/-- A vector of strings. Elements that `SafeArrayGetElement` cannot read are missing. -/
structure SafeArray where
  cbElements : UInt32
  elements : List (Option WString)

/-- An adapter configuration. A string or an array of a variant may be a null pointer. -/
structure ClassObject where
  pointer : Pointer
  ipEnabled : Reading Int16
  index : Reading UInt32
  interfaceIndex : Reading UInt32
  description : Reading (Option WString)
  macAddress : Reading (Option WString)
  dhcpEnabled : Reading Int16
  dnsServerSearchOrder : Reading (Option SafeArray)

inductive Enumeration where
  | endOfList
  | failed (hres : HResult)
  | object (clsObj : ClassObject) (rest : Enumeration)

structure Enumerator where
  pointer : Pointer
  results : Enumeration

/-- The outcomes of the calls in `initliaze_wmi`. A pointer is obtained with success only. -/
structure WmiStart where
  coInitializeEx : Except HResult Unit
  coInitializeSecurity : Except HResult Unit
  coCreateInstance : Except HResult Pointer
  connectServer : Except HResult Pointer
  coSetProxyBlanket : Except HResult Unit

/-- The outcomes of the calls that set the servers of an adapter, which may depend on the
arguments. -/
structure WmiMethod where
  getObject : WString → Except HResult Pointer
  getMethod : WString → Except HResult Pointer
  spawnInstance : Except HResult Pointer
  put : WString → WString × WString → Except HResult Unit
  execMethod : WString → WString → Except HResult (Option Pointer)

def securityFails : Except HResult Unit → Bool
  | .ok _ => false
  | .error hres => hres ≠ rpcETooLate

def releasePointer : Option Pointer → Com Unit
  | none => return
  | some p => Tracked.release (.pointer p)

def usePointer : Option Pointer → Com Unit
  | none => return
  | some p => Tracked.use (.pointer p)

/-- The steps of `initliaze_wmi` with `pSvc` and `pLoc` as they leave them. -/
def initializeSteps (start : WmiStart) : Com (Result × Option Pointer × Option Pointer) :=
  match start.coInitializeEx with
  | .error _ => return (.wmiInitializeFail, none, none)
  | .ok _ => do
    Tracked.acquire .apartment
    if securityFails start.coInitializeSecurity then return (.wmiInitializeFail, none, none)
    else match start.coCreateInstance with
      | .error _ => return (.wmiInitializeFail, none, none)
      | .ok pLoc => do
        Tracked.acquire (.pointer pLoc)
        Tracked.use (.pointer pLoc)
        match start.connectServer with
        | .error _ => return (.wmiInitializeFail, none, some pLoc)
        | .ok pSvc => do
          Tracked.acquire (.pointer pSvc)
          Tracked.use (.pointer pSvc)
          match start.coSetProxyBlanket with
          | .error _ => return (.wmiInitializeFail, some pSvc, some pLoc)
          | .ok _ => return (.success, some pSvc, some pLoc)

def uninitializeWmi (pSvc pLoc : Option Pointer) : Com Unit := do
  releasePointer pLoc
  releasePointer pSvc
  Tracked.release .apartment

/-- The pointers are passed by reference and keep their values when a step fails. -/
def initliazeWmi (start : WmiStart) : Com (Result × Option Pointer × Option Pointer) := do
  let (res, pSvc, pLoc) ← initializeSteps start
  if res ≠ .success then
    releasePointer pLoc
    releasePointer pSvc
    Tracked.release .apartment
    return (res, pSvc, pLoc)
  else return (res, pSvc, pLoc)

def SafeArray.getElement (parray : SafeArray) (n : Nat) : Option WString :=
  (parray.elements[n]?).join

/-- The loop over the configured servers, from the element `n` on, with `steps` still to go. -/
def readDns (parray : SafeArray) : (steps n validDnsIp : Nat) → WString × WString →
    WString × WString
  | 0, _, _, dns => dns
  | steps + 1, n, validDnsIp, dns =>
    match parray.getElement n with
    | none => readDns parray steps (n + 1) validDnsIp dns
    | some strDnsIp =>
      if validDnsIp + 1 = 1 then
        readDns parray steps (n + 1) (validDnsIp + 1) (strDnsIp, dns.2)
      else if validDnsIp + 1 = 2 then (dns.1, strDnsIp)
      else readDns parray steps (n + 1) (validDnsIp + 1) dns

def strUnknown : WString := [0x672A, 0x77E5]

def stringOfReading (value : Option (Option WString)) : WString := value.join.getD strUnknown

def dhcpOfReading : Option Int16 → Bool
  | some boolVal => if boolVal ≠ -1 then boolVal = -1 else true
  | none => true

def dnsOfReading (value : Option (Option SafeArray)) : WString × WString :=
  match value.join with
  | none => ([], [])
  | some parray => readDns parray parray.cbElements.toNat 0 0 ([], [])

/-- Read a property, and go on with its value unless that fails. Null is no value. -/
def getProperty (pclsObj : Pointer) (reading : Reading α) (next : Option α → Com (Option β)) :
    Com (Option β) := do
  Tracked.use (.pointer pclsObj)
  match reading with
  | .failed _ => return none
  | .null => next none
  | .value a => next (some a)

def readObject (clsObj : ClassObject) : Com (Option WmiAdapterInfo) :=
  getProperty clsObj.pointer clsObj.ipEnabled fun ipEnabled =>
  if ipEnabled = some 0 then return none
  else getProperty clsObj.pointer clsObj.index fun index =>
    match index with
    | none => return none
    | some index =>
      if index = 0xFFFFFFFF then return none
      else getProperty clsObj.pointer clsObj.interfaceIndex fun interfaceIndex =>
        match interfaceIndex with
        | none => return none
        | some interfaceIndex =>
          if interfaceIndex = 0xFFFFFFFF then return none
          else
            getProperty clsObj.pointer clsObj.description fun description =>
            getProperty clsObj.pointer clsObj.macAddress fun macAddress =>
            getProperty clsObj.pointer clsObj.dhcpEnabled fun dhcpEnabled =>
            getProperty clsObj.pointer clsObj.dnsServerSearchOrder fun dnsServerSearchOrder =>
            return some {
              index := index
              interfaceIndex := interfaceIndex
              strDescription := stringOfReading description
              strMacAddress := stringOfReading macAddress
              dhcp := dhcpOfReading dhcpEnabled
              strDns1 := (dnsOfReading dnsServerSearchOrder).1
              strDns2 := (dnsOfReading dnsServerSearchOrder).2 }

/-- The loop over the enumerator. Both a failure of `Next` and the end of the list end it. -/
def enumAdapters (pEnumerator : Pointer) :
    Enumeration → List WmiAdapterInfo → Com (List WmiAdapterInfo)
  | .endOfList, vec => do
    Tracked.use (.pointer pEnumerator)
    return vec
  | .failed _, vec => do
    Tracked.use (.pointer pEnumerator)
    return vec
  | .object clsObj rest, vec => do
    Tracked.use (.pointer pEnumerator)
    Tracked.acquire (.pointer clsObj.pointer)
    let info ← readObject clsObj
    Tracked.release (.pointer clsObj.pointer)
    enumAdapters pEnumerator rest (vec ++ info.toList)

def queryAdapters (pSvc : Option Pointer) (query : Except HResult (Option Enumerator))
    (vec : List WmiAdapterInfo) : Com (Result × List WmiAdapterInfo) := do
  usePointer pSvc
  match query with
  | .error _ => return (.enumAdapterFail, vec)
  | .ok none => return (.enumAdapterFail, vec)
  | .ok (some enumerator) =>
    Tracked.acquire (.pointer enumerator.pointer)
    let vec ← enumAdapters enumerator.pointer enumerator.results vec
    Tracked.release (.pointer enumerator.pointer)
    return (.success, vec)

/-- The frame of both members: the clean-up follows whatever the initialization returns. -/
def betweenWmi (start : WmiStart) (body : Result → Option Pointer → Com α) : Com α := do
  let (res, pSvc, pLoc) ← initliazeWmi start
  let answer ← body res pSvc
  uninitializeWmi pSvc pLoc
  return answer

/-- `wmi_interface::get_adapter_list`, where `query` is what `ExecQuery` comes to. -/
def wmiGetAdapterList (start : WmiStart) (query : Except HResult (Option Enumerator))
    (vec : List WmiAdapterInfo) : Com (Result × List WmiAdapterInfo) :=
  betweenWmi start fun res pSvc =>
    if res ≠ .success then return (res, vec) else queryAdapters pSvc query vec

def instancePath (index : UInt32) : WString :=
  wide ("Win32_NetworkAdapterConfiguration.index=" ++ toString index.toInt32.toInt)

/-- The calls that set the servers, with the pointers they leave set. -/
def setDnsSteps (pSvc : Option Pointer) (method : WmiMethod) (index : UInt32)
    (strDns1 strDns2 : WString) :
    Com (Result × Option Pointer × Option Pointer × Option Pointer × Option Pointer) := do
  usePointer pSvc
  match method.getObject (wide "Win32_NetworkAdapterConfiguration") with
  | .error _ => return (.switchDnsIpFail, none, none, none, none)
  | .ok pClsObj =>
    Tracked.acquire (.pointer pClsObj)
    Tracked.use (.pointer pClsObj)
    match method.getMethod (wide "SetDNSServerSearchOrder") with
    | .error _ => return (.switchDnsIpFail, some pClsObj, none, none, none)
    | .ok pInParamsDefinition =>
      Tracked.acquire (.pointer pInParamsDefinition)
      Tracked.use (.pointer pInParamsDefinition)
      match method.spawnInstance with
      | .error _ => return (.switchDnsIpFail, some pClsObj, some pInParamsDefinition, none, none)
      | .ok pClassInstance =>
        Tracked.acquire (.pointer pClassInstance)
        Tracked.use (.pointer pClassInstance)
        match method.put (wide "DNSServerSearchOrder") (strDns1, strDns2) with
        | .error _ =>
          return (.switchDnsIpFail, some pClsObj, some pInParamsDefinition, some pClassInstance,
            none)
        | .ok _ =>
          usePointer pSvc
          Tracked.use (.pointer pClassInstance)
          match method.execMethod (instancePath index) (wide "SetDNSServerSearchOrder") with
          | .error _ =>
            return (.switchDnsIpFail, some pClsObj, some pInParamsDefinition,
              some pClassInstance, none)
          | .ok none =>
            return (.success, some pClsObj, some pInParamsDefinition, some pClassInstance, none)
          | .ok (some pOutParams) =>
            Tracked.acquire (.pointer pOutParams)
            return (.success, some pClsObj, some pInParamsDefinition, some pClassInstance,
              some pOutParams)

def setDns (pSvc : Option Pointer) (method : WmiMethod) (index : UInt32)
    (strDns1 strDns2 : WString) : Com Result := do
  let (res, pClsObj, pInParamsDefinition, pClassInstance, pOutParams) ←
    setDnsSteps pSvc method index strDns1 strDns2
  releasePointer pClsObj
  releasePointer pInParamsDefinition
  releasePointer pClassInstance
  releasePointer pOutParams
  return res

/-- `wmi_interface::switch_adapter_dns`, its assertions compiled away. -/
def wmiSwitchDns (start : WmiStart) (method : WmiMethod) (index : UInt32)
    (strDns1 strDns2 : WString) : Com Result :=
  if strDns1 = [] ∨ strDns2 = [] then return .dnsIpInvalid
  else betweenWmi start fun res pSvc =>
    if res ≠ .success then return res else setDns pSvc method index strDns1 strDns2

end LdnsSelector
