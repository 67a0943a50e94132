import LdnsSelector.ServiceRuns
import Mathlib.Algebra.Group.Nat.Defs

set_option autoImplicit true

namespace LdnsSelector

open Prog

def errorInsufficientBuffer : UInt32 := 122

def noError : UInt32 := 0

structure MibIfRow where
  dwIndex : UInt32
  dwInOctets : UInt32
  dwOutOctets : UInt32
  deriving DecidableEq, Repr

/-- The outcomes of the allocations and of the two calls of `GetIfTable`, with the table that
the second one fills in. -/
structure IfTableCalls where
  malloc : Bool
  firstCall : UInt32
  mallocAgain : Bool
  secondCall : UInt32
  table : List MibIfRow

def pfmcCounter (row : MibIfRow) : AdapterPerformanceCounter where
  adapterInterfaceIndex := row.dwIndex
  recvBytesTotal := row.dwInOctets
  sendBytesTotal := row.dwOutOctets

/-- `performance_counter::get_adapter_performance`. -/
def getAdapterPerformance (calls : IfTableCalls) (vec : List AdapterPerformanceCounter) :
    Result × List AdapterPerformanceCounter :=
  if calls.malloc = false then (.getiftalbeMallocFail, vec)
  else if calls.firstCall = errorInsufficientBuffer ∧ calls.mallocAgain = false then
    (.getiftalbeMallocFail, vec)
  else if calls.secondCall ≠ noError then (.getiftalbeFail, vec)
  else (.success, vec ++ calls.table.map pfmcCounter)

/-- The table has every adapter of the list, and its counters are the true numbers of bytes
modulo `2 ^ 32`. -/
structure Reports (recvBytes : UInt32 → Nat) (recs : List WmiAdapterInfo)
    (table : List MibIfRow) : Prop where
  covers : ∀ r ∈ recs, ∃ row ∈ table, row.dwIndex = r.interfaceIndex
  counts : ∀ row ∈ table, row.dwInOctets.toNat = recvBytes row.dwIndex % 2 ^ 32

def Busiest (recvBytes : UInt32 → Nat) (recs : List WmiAdapterInfo) (r : WmiAdapterInfo) : Prop :=
  ∀ r' ∈ recs, recvBytes r'.interfaceIndex ≤ recvBytes r.interfaceIndex

/-- The list of adapters starts with the busiest one, whatever table reports the numbers and
however equal counters are sorted. -/
def BusiestFirst (recvBytes : UInt32 → Nat) (recs : List WmiAdapterInfo) : Prop :=
  ∀ (sorter : StdSort AdapterInfo.key) calls counters first rest,
    Reports recvBytes recs calls.table →
    getAdapterPerformance calls [] = (.success, counters) →
    Runs (readAdapterList sorter) [enumerated .success recs, measured .success counters]
      (.ok (.success, first :: rest)) →
    ∀ r ∈ recs, adapterInfoOf counters r = first → Busiest recvBytes recs r

section Ranks

variable {recvBytes : UInt32 → Nat} {recs : List WmiAdapterInfo} {table : List MibIfRow}

theorem getAdapterPerformance_success
    (h : getAdapterPerformance calls [] = (.success, counters)) :
    counters = calls.table.map pfmcCounter := by
  rw [getAdapterPerformance] at h
  split at h
  · cases h
  · split at h
    · cases h
    · split at h
      · cases h
      · exact (Prod.mk.inj h).2.symm

theorem recvBytesTotal_toNat (h : Reports recvBytes recs table) (hr : r ∈ recs) :
    (adapterInfoOf (table.map pfmcCounter) r).recvBytesTotal.toNat =
      recvBytes r.interfaceIndex % 2 ^ 32 := by
  rw [adapterInfoOf]
  cases hf : (table.map pfmcCounter).find? fun c => r.interfaceIndex = c.adapterInterfaceIndex with
  | none =>
    obtain ⟨row, hm, he⟩ := h.covers r hr
    have hne := List.find?_eq_none.1 hf _ (List.mem_map_of_mem hm)
    exact absurd (decide_eq_true he.symm) hne
  | some counter =>
    obtain ⟨row, hm, rfl⟩ := List.mem_map.1 (List.mem_of_find?_eq_some hf)
    have hd := List.find?_some hf
    have he : r.interfaceIndex = row.dwIndex := of_decide_eq_true hd
    rw [he]
    exact h.counts row hm

theorem readAdapterList_sort {sorter : StdSort AdapterInfo.key} :
    Runs (readAdapterList sorter) [enumerated .success recs, measured .success counters]
        (.ok (.success, vec)) ↔ vec = sorter.sort (recs.map (adapterInfoOf counters)) := by
  apply Iff.intro
  · intro h
    obtain ⟨answer, ho, hrun⟩ := readAdapterList_runs_iff.1 h
    cases ho
    cases hrun with
    | notMeasured hr => exact absurd rfl hr
    | joined => rfl
  · intro heq
    obtain rfl := heq
    exact (AdapterListRun.joined recs counters).runs

def tableOf (recvBytes : UInt32 → Nat) (recs : List WmiAdapterInfo) : List MibIfRow :=
  recs.map fun r => ⟨r.interfaceIndex, UInt32.ofNat (recvBytes r.interfaceIndex), 0⟩

theorem reports_tableOf (recvBytes : UInt32 → Nat) (recs : List WmiAdapterInfo) :
    Reports recvBytes recs (tableOf recvBytes recs) where
  covers r hr := ⟨_, List.mem_map_of_mem hr, rfl⟩
  counts row hm := by
    obtain ⟨r, _, rfl⟩ := List.mem_map.1 hm
    exact UInt32.toNat_ofNat'

theorem exists_first (hr : r ∈ recs)
    (hmax : Busiest (fun i => recvBytes i % 2 ^ 32) recs r) :
    ∃ (sorter : StdSort AdapterInfo.key) (rest : List AdapterInfo),
      sorter.sort (recs.map (adapterInfoOf ((tableOf recvBytes recs).map pfmcCounter))) =
        adapterInfoOf ((tableOf recvBytes recs).map pfmcCounter) r :: rest := by
  have hreports := reports_tableOf recvBytes recs
  obtain ⟨pre, post, rfl⟩ := List.append_of_mem hr
  have hp : ((pre ++ r :: post).map
      (adapterInfoOf ((tableOf recvBytes (pre ++ r :: post)).map pfmcCounter))).Perm
      (adapterInfoOf ((tableOf recvBytes (pre ++ r :: post)).map pfmcCounter) r ::
        (pre ++ post).map
          (adapterInfoOf ((tableOf recvBytes (pre ++ r :: post)).map pfmcCounter))) :=
    List.perm_middle.map _
  have hfirst : ∀ x ∈ (pre ++ post).map
      (adapterInfoOf ((tableOf recvBytes (pre ++ r :: post)).map pfmcCounter)),
      AdapterInfo.key (adapterInfoOf ((tableOf recvBytes (pre ++ r :: post)).map pfmcCounter) r) ≤
        AdapterInfo.key x := by
    intro x hx
    obtain ⟨r', hm, rfl⟩ := List.mem_map.1 hx
    have hm' : r' ∈ pre ++ r :: post := by
      rcases List.mem_append.1 hm with hm | hm
      · exact List.mem_append_left _ hm
      · exact List.mem_append_right _ (List.mem_cons_of_mem _ hm)
    change (adapterInfoOf _ r').recvBytesTotal.toNat ≤ (adapterInfoOf _ r).recvBytesTotal.toNat
    rw [recvBytesTotal_toNat hreports hm', recvBytesTotal_toNat hreports hr]
    exact hmax r' hm'
  obtain ⟨t, ht⟩ := Ranking.exists_first hp hfirst
  obtain ⟨sorter, hs⟩ := StdSort.exists_sort_eq ht
  exact ⟨sorter, _, hs⟩

/-- The first adapter is the busiest exactly when the greatest counter always stands for the
greatest number of bytes. -/
theorem busiestFirst_iff (recvBytes : UInt32 → Nat) (recs : List WmiAdapterInfo) :
    BusiestFirst recvBytes recs ↔
      ∀ r ∈ recs, Busiest (fun i => recvBytes i % 2 ^ 32) recs r → Busiest recvBytes recs r := by
  apply Iff.intro
  · intro h r hr hmax
    obtain ⟨sorter, rest, hs⟩ := exists_first hr hmax
    exact h sorter ⟨true, noError, true, noError, tableOf recvBytes recs⟩ _ _ rest
      (reports_tableOf recvBytes recs) rfl (readAdapterList_sort.2 hs.symm) r hr rfl
  · intro h sorter calls counters first rest hreports hcounters hrun r hr he
    obtain rfl := getAdapterPerformance_success hcounters
    have hranking := sorter.ranking (recs.map (adapterInfoOf (calls.table.map pfmcCounter)))
    rw [← readAdapterList_sort.1 hrun] at hranking
    apply h r hr
    intro r' hr'
    have hle := hranking.head_le (List.mem_map_of_mem hr')
    rw [← he] at hle
    change (adapterInfoOf _ r').recvBytesTotal.toNat ≤
      (adapterInfoOf _ r).recvBytesTotal.toNat at hle
    rw [recvBytesTotal_toNat hreports hr, recvBytesTotal_toNat hreports hr'] at hle
    exact hle

def wrappedBytes (interfaceIndex : UInt32) : Nat := if interfaceIndex = 7 then 2 ^ 32 else 1

def twoAdapters : List WmiAdapterInfo :=
  [⟨1, 7, wide "busy", [], false, [], []⟩, ⟨2, 8, wide "idle", [], false, [], []⟩]

/-- The counter of the busy adapter is zero, so the idle one comes first. -/
theorem not_busiestFirst_wrapped : ¬∀ recvBytes recs, BusiestFirst recvBytes recs := by
  intro h
  have hsort : (StdSort.insertion AdapterInfo.key).sort (twoAdapters.map
      (adapterInfoOf ((tableOf wrappedBytes twoAdapters).map pfmcCounter))) =
      [⟨makelong 2 8, wide "idle", [], false, [], [], 1, 0⟩,
        ⟨makelong 1 7, wide "busy", [], false, [], [], 0, 0⟩] := by
    decide
  have hbusiest := h wrappedBytes twoAdapters (.insertion _)
    ⟨true, noError, true, noError, tableOf wrappedBytes twoAdapters⟩ _ _ _
    (reports_tableOf wrappedBytes twoAdapters) rfl (readAdapterList_sort.2 hsort.symm)
    _ (List.mem_cons_of_mem _ List.mem_cons_self) rfl
  exact absurd (hbusiest _ List.mem_cons_self) (by decide)

end Ranks

end LdnsSelector
