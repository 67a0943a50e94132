import Mathlib.Data.List.AList

set_option autoImplicit true

namespace LdnsSelector

inductive Result where
  | success
  | comInitializeFail
  | mainFrameWndCreateFail
  | dnspingFail
  | wmiInitializeFail
  | enumAdapterFail
  | dnsIpInvalid
  | switchDnsIpFail
  | networkInterfaceHttpRequestFail
  | networkInterfaceRespondParseFail
  | networkInterfaceRespondStatusNotExist
  | networkInterfaceRespondStatusNotSuccess
  | networkInterfaceRespondDataNotExist
  | getiftalbeMallocFail
  | getiftalbeFail
  | noValidDnsForSwitching
  | noValidAdapterForSwitching
  | tempAdUriInvalid
  | tempAdHtmlFileCreateFile
  deriving DecidableEq, Repr

/-- `std::wstring`: a sequence of UTF-16 code units. -/
abbrev WString := List UInt16

def wide (s : String) : WString :=
  s.toList.map fun c => c.toNat.toUInt16

def pingTimeout : UInt32 := 0xFFFFFFFF

def defaultDns1 : WString := wide "180.76.76.76"

def defaultDns2 : WString := wide "114.114.114.114"

def networkInterfaceRequestMaxTime : Nat := 3

@[simp] theorem defaultDns1_ne_nil : defaultDns1 ≠ [] := by decide

@[simp] theorem defaultDns2_ne_nil : defaultDns2 ≠ [] := by decide

theorem defaultDns_ne : defaultDns1 ≠ defaultDns2 := by decide

/-- `std::unordered_map`, keys distinct. The order of the entries carries no meaning:
iteration is through a `Layout`. -/
abbrev UnorderedMap (κ ν : Type) := AList fun _ : κ => ν

instance [DecidableEq κ] [DecidableEq ν] : DecidableEq (UnorderedMap κ ν) :=
  fun m m' => decidable_of_iff (m.entries = m'.entries) AList.ext_iff.symm

/-- `insert` leaves an existing entry alone. -/
def UnorderedMap.tryInsert [DecidableEq κ] (m : UnorderedMap κ ν) (k : κ) (v : ν) :
    UnorderedMap κ ν :=
  if k ∈ m then m else m.insert k v

/-- The order in which a program run walks its hash tables. -/
structure Layout where
  walk : {ν : Type} → UnorderedMap WString ν → List (WString × ν)
  perm : ∀ {ν : Type} (m : UnorderedMap WString ν),
    (walk m).Perm (m.entries.map fun e => (e.1, e.2))

def Layout.stored : Layout where
  walk m := m.entries.map fun e => (e.1, e.2)
  perm _ := .refl _

abbrev VipMap := UnorderedMap WString WString

/-- `map_dns_info`: the views with their vips. -/
abbrev DnsMap := UnorderedMap WString VipMap

end LdnsSelector
