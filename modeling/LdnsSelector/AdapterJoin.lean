import LdnsSelector.PerformanceCounter

set_option autoImplicit true

namespace LdnsSelector

open Prog

/-- The counters of an adapter: those of the first row of its interface, or zeros when the table
has no such row. -/
inductive Counted (interfaceIndex : UInt32) : List MibIfRow → AdapterInfo → Prop where
  | found {info : AdapterInfo} (hrow : row.dwIndex = interfaceIndex)
      (hfirst : ∀ row' ∈ pre, row'.dwIndex ≠ interfaceIndex)
      (hrecv : info.recvBytesTotal = row.dwInOctets)
      (hsend : info.sendBytesTotal = row.dwOutOctets) :
      Counted interfaceIndex (pre ++ row :: post) info
  | missing {info : AdapterInfo} (hnone : ∀ row ∈ table, row.dwIndex ≠ interfaceIndex)
      (hrecv : info.recvBytesTotal = 0) (hsend : info.sendBytesTotal = 0) :
      Counted interfaceIndex table info

/-- An adapter of the list stands for a WMI record, with the counters of its interface. -/
structure Joins (table : List MibIfRow) (wmiInfo : WmiAdapterInfo) (info : AdapterInfo) :
    Prop where
  id : info.id = makelong wmiInfo.index wmiInfo.interfaceIndex
  description : info.strDescription = wmiInfo.strDescription
  macAddress : info.strMacAddress = wmiInfo.strMacAddress
  dhcp : info.dhcp = wmiInfo.dhcp
  dns : (info.strDns1, info.strDns2) = (wmiInfo.strDns1, wmiInfo.strDns2)
  counters : Counted wmiInfo.interfaceIndex table info

/-- The records joined with the table, each once, the most received bytes first. -/
structure Joined (recs : List WmiAdapterInfo) (table : List MibIfRow) (vec : List AdapterInfo) :
    Prop where
  joins : ∃ recs' : List WmiAdapterInfo, recs'.Perm recs ∧ List.Forall₂ (Joins table) recs' vec
  ordered : vec.Pairwise fun info info' => info'.recvBytesTotal ≤ info.recvBytesTotal

/-- What the call reports for the records and the calls of the interface table. -/
inductive AdapterListResult (recs : Result × List WmiAdapterInfo) (calls : IfTableCalls) :
    Result × List AdapterInfo → Prop where
  | notEnumerated (h : recs.1 ≠ .success) : AdapterListResult recs calls (recs.1, [])
  | notMeasured (h : recs.1 = .success) (h' : (getAdapterPerformance calls []).1 ≠ .success) :
      AdapterListResult recs calls ((getAdapterPerformance calls []).1, [])
  | joined (h : recs.1 = .success) (h' : (getAdapterPerformance calls []).1 = .success)
      (hj : Joined recs.2 calls.table vec) : AdapterListResult recs calls (.success, vec)

section Join

variable {recs : List WmiAdapterInfo} {table : List MibIfRow}

theorem find_counter (table : List MibIfRow) (i : UInt32) :
    (table.map pfmcCounter).find? (fun r => i = r.adapterInterfaceIndex) =
      (table.find? fun row => i = row.dwIndex).map pfmcCounter :=
  List.find?_map

theorem adapterInfoOf_counted (table : List MibIfRow) (r : WmiAdapterInfo) :
    Counted r.interfaceIndex table (adapterInfoOf (table.map pfmcCounter) r) := by
  have hfind := find_counter table r.interfaceIndex
  cases hrow : table.find? fun row => r.interfaceIndex = row.dwIndex with
  | none =>
    rw [hrow] at hfind
    apply Counted.missing
    · intro row hm he
      exact absurd (decide_eq_true he.symm) (List.find?_eq_none.1 hrow row hm)
    · rw [adapterInfoOf, hfind]
      rfl
    · rw [adapterInfoOf, hfind]
      rfl
  | some row =>
    rw [hrow] at hfind
    obtain ⟨he, pre, post, rfl, hpre⟩ := List.find?_eq_some_iff_append.1 hrow
    apply Counted.found
    · exact (of_decide_eq_true he).symm
    · intro row' hm he'
      simpa [he'] using hpre row' hm
    · rw [adapterInfoOf, hfind]
      rfl
    · rw [adapterInfoOf, hfind]
      rfl

theorem joins_adapterInfoOf (table : List MibIfRow) (r : WmiAdapterInfo) :
    Joins table r (adapterInfoOf (table.map pfmcCounter) r) where
  id := rfl
  description := rfl
  macAddress := rfl
  dhcp := rfl
  dns := rfl
  counters := adapterInfoOf_counted table r

theorem joined_sort (sorter : StdSort AdapterInfo.key) (recs : List WmiAdapterInfo)
    (table : List MibIfRow) :
    Joined recs table (sorter.sort (recs.map (adapterInfoOf (table.map pfmcCounter)))) := by
  have hranking := sorter.ranking (recs.map (adapterInfoOf (table.map pfmcCounter)))
  constructor
  · obtain ⟨recs', hp, he⟩ := hranking.exists_map
    refine ⟨recs', hp, ?_⟩
    rw [he, List.forall₂_map_right_iff, List.forall₂_same]
    intro r _
    exact joins_adapterInfoOf table r
  · apply hranking.ordered.imp
    intro info info' hle
    exact UInt32.le_iff_toNat_le.2 hle

/-- For every list of records and every table, the list is their join or the error of the
source that failed. -/
theorem readAdapterList_result (sorter : StdSort AdapterInfo.key)
    (recs : Result × List WmiAdapterInfo) (calls : IfTableCalls)
    (h : Runs (readAdapterList sorter) tr o)
    (hrecs : ∀ x, ⟨.wmiAdapterList, x⟩ ∈ tr → x = recs)
    (hcounters : ∀ x, ⟨.adapterPerformance, x⟩ ∈ tr → x = getAdapterPerformance calls []) :
    ∃ answer, o = .ok answer ∧ AdapterListResult recs calls answer := by
  obtain ⟨answer, rfl, hrun⟩ := readAdapterList_runs_iff.1 h
  refine ⟨answer, rfl, ?_⟩
  cases hrun with
  | notEnumerated hr =>
    obtain rfl := hrecs _ List.mem_cons_self
    exact .notEnumerated hr
  | notMeasured hr =>
    obtain rfl := hrecs _ List.mem_cons_self
    have hp := hcounters _ (List.mem_cons_of_mem _ List.mem_cons_self)
    obtain ⟨hres, _⟩ := Prod.mk.inj hp
    subst hres
    exact .notMeasured rfl hr
  | joined recs' counters =>
    obtain rfl := hrecs _ List.mem_cons_self
    have hp := hcounters _ (List.mem_cons_of_mem _ List.mem_cons_self)
    obtain ⟨hres, _⟩ := Prod.mk.inj hp
    obtain rfl := getAdapterPerformance_success hp.symm
    exact .joined rfl hres.symm (joined_sort sorter recs' calls.table)

def crookedTable : List MibIfRow := [⟨8, 5, 6⟩, ⟨9, 1, 1⟩, ⟨8, 50, 60⟩]

theorem readAdapterList_result_crooked : ∃ answer,
    Except.ok (ε := CppException) (.success, [⟨makelong 2 8, wide "idle", [], false, [], [], 5, 6⟩,
      ⟨makelong 1 7, wide "busy", [], false, [], [], 0, 0⟩]) = .ok answer ∧
      AdapterListResult (.success, twoAdapters) ⟨true, noError, true, noError, crookedTable⟩
        answer := by
  have hrun : Runs (readAdapterList (.insertion _)) [enumerated .success twoAdapters,
      measured .success (crookedTable.map pfmcCounter)] _ := readAdapterList_sort.2 rfl
  apply readAdapterList_result (.insertion _) _ _ hrun
  · intro x hx
    rcases List.mem_cons.1 hx with he | hx
    · cases he
      rfl
    · cases List.mem_singleton.1 hx
  · intro x hx
    rcases List.mem_cons.1 hx with he | hx
    · cases he
    · cases List.mem_singleton.1 hx
      rfl

end Join

end LdnsSelector
