import LdnsSelector.PerformanceCounter
import LdnsSelector.ReferenceBalance

set_option autoImplicit true

namespace LdnsSelector

open Prog Tracked

namespace Reading

def Succeeded : Reading α → Prop
  | .failed _ => False
  | _ => True

instance : DecidablePred (@Succeeded α)
  | .failed _ => isFalse not_false
  | .null => isTrue trivial
  | .value _ => isTrue trivial

def value? : Reading α → Option α
  | .value a => some a
  | _ => none

end Reading

namespace Enumeration

def objects : Enumeration → List ClassObject
  | .object clsObj rest => clsObj :: rest.objects
  | _ => []

def Completes : Enumeration → Prop
  | .endOfList => True
  | .failed _ => False
  | .object _ rest => rest.Completes

end Enumeration

/-- The objects to list: every property is read, IP is not reported as disabled, and both
indices are there. -/
structure Admitted (clsObj : ClassObject) : Prop where
  ipEnabled : clsObj.ipEnabled.Succeeded
  index : clsObj.index.Succeeded
  interfaceIndex : clsObj.interfaceIndex.Succeeded
  description : clsObj.description.Succeeded
  macAddress : clsObj.macAddress.Succeeded
  dhcpEnabled : clsObj.dhcpEnabled.Succeeded
  dnsServerSearchOrder : clsObj.dnsServerSearchOrder.Succeeded
  notDisabled : clsObj.ipEnabled.value? ≠ some 0
  hasIndex : clsObj.index.value? ≠ none ∧ clsObj.index.value? ≠ some 0xFFFFFFFF
  hasInterfaceIndex :
    clsObj.interfaceIndex.value? ≠ none ∧ clsObj.interfaceIndex.value? ≠ some 0xFFFFFFFF

def adapterOf (clsObj : ClassObject) : WmiAdapterInfo where
  index := clsObj.index.value?.getD 0xFFFFFFFF
  interfaceIndex := clsObj.interfaceIndex.value?.getD 0xFFFFFFFF
  strDescription := stringOfReading clsObj.description.value?
  strMacAddress := stringOfReading clsObj.macAddress.value?
  dhcp := dhcpOfReading clsObj.dhcpEnabled.value?
  strDns1 := (dnsOfReading clsObj.dnsServerSearchOrder.value?).1
  strDns2 := (dnsOfReading clsObj.dnsServerSearchOrder.value?).2

instance : DecidablePred Admitted := fun clsObj =>
  decidable_of_iff ((clsObj.ipEnabled.Succeeded ∧ clsObj.index.Succeeded ∧
      clsObj.interfaceIndex.Succeeded ∧ clsObj.description.Succeeded ∧
      clsObj.macAddress.Succeeded ∧ clsObj.dhcpEnabled.Succeeded ∧
      clsObj.dnsServerSearchOrder.Succeeded) ∧ clsObj.ipEnabled.value? ≠ some 0 ∧
      (clsObj.index.value? ≠ none ∧ clsObj.index.value? ≠ some 0xFFFFFFFF) ∧
      clsObj.interfaceIndex.value? ≠ none ∧ clsObj.interfaceIndex.value? ≠ some 0xFFFFFFFF)
    ⟨fun ⟨⟨h₁, h₂, h₃, h₄, h₅, h₆, h₇⟩, h₈, h₉, h₁₀⟩ => ⟨h₁, h₂, h₃, h₄, h₅, h₆, h₇, h₈, h₉, h₁₀⟩,
      fun h => ⟨⟨h.1, h.2, h.3, h.4, h.5, h.6, h.7⟩, h.8, h.9, h.10⟩⟩

def adaptersOf (results : Enumeration) : List WmiAdapterInfo :=
  (results.objects.filter fun clsObj => Admitted clsObj).map adapterOf

/-- The call reports success exactly for a complete enumeration, and then lists its adapters. -/
structure CompleteOrFailed (start : WmiStart) (query : Except HResult (Option Enumerator)) :
    Prop where
  reported : (wmiGetAdapterList start query []).value.1 = .success ↔
    start.Succeeds ∧ ∃ enumerator, query = .ok (some enumerator) ∧ enumerator.results.Completes
  listed : (wmiGetAdapterList start query []).value.1 = .success →
    ∃ enumerator, query = .ok (some enumerator) ∧
      (wmiGetAdapterList start query []).value.2 = adaptersOf enumerator.results

section Objects

variable {clsObj : ClassObject}

theorem value_getProperty_eq_some_iff {reading : Reading α} {next : Option α → Com (Option β)} :
    (getProperty p reading next).value = some b ↔
      reading.Succeeded ∧ (next reading.value?).value = some b := by
  cases reading with
  | failed hres =>
    apply Iff.intro
    · intro h
      cases h
    · intro h
      exact h.1.elim
  | null => exact (and_iff_right trivial).symm
  | value a => exact (and_iff_right trivial).symm

/-- The reads are made in turn, and the object is skipped at the first that fails or rules it
out. -/
theorem value_readObject_eq_some_iff :
    (readObject clsObj).value = some info ↔ Admitted clsObj ∧ info = adapterOf clsObj := by
  rw [readObject, value_getProperty_eq_some_iff]
  apply Iff.intro
  · intro h
    obtain ⟨hip, h⟩ := h
    split at h
    · cases h
    · next hdisabled =>
      obtain ⟨hindex, h⟩ := value_getProperty_eq_some_iff.1 h
      split at h
      · cases h
      · next index hi =>
        split at h
        · cases h
        · next hi' =>
          obtain ⟨hinterface, h⟩ := value_getProperty_eq_some_iff.1 h
          split at h
          · cases h
          · next interfaceIndex hn =>
            split at h
            · cases h
            · next hn' =>
              obtain ⟨hdescription, h⟩ := value_getProperty_eq_some_iff.1 h
              obtain ⟨hmac, h⟩ := value_getProperty_eq_some_iff.1 h
              obtain ⟨hdhcp, h⟩ := value_getProperty_eq_some_iff.1 h
              obtain ⟨hdns, h⟩ := value_getProperty_eq_some_iff.1 h
              cases h
              refine ⟨⟨hip, hindex, hinterface, hdescription, hmac, hdhcp, hdns, hdisabled, ?_, ?_⟩,
                ?_⟩
              · simpa [hi] using hi'
              · simpa [hn] using hn'
              · simp [adapterOf, hi, hn]
  · intro hx
    obtain ⟨ha, rfl⟩ := hx
    obtain ⟨index, hi⟩ := Option.ne_none_iff_exists'.1 ha.hasIndex.1
    obtain ⟨interfaceIndex, hn⟩ := Option.ne_none_iff_exists'.1 ha.hasInterfaceIndex.1
    have hi' : index ≠ 0xFFFFFFFF := by
      intro he
      obtain rfl := he
      exact ha.hasIndex.2 hi
    have hn' : interfaceIndex ≠ 0xFFFFFFFF := by
      intro he
      obtain rfl := he
      exact ha.hasInterfaceIndex.2 hn
    refine ⟨ha.ipEnabled, ?_⟩
    rw [if_neg ha.notDisabled, value_getProperty_eq_some_iff]
    refine ⟨ha.index, ?_⟩
    simp only [hi]
    rw [if_neg hi', value_getProperty_eq_some_iff]
    refine ⟨ha.interfaceIndex, ?_⟩
    simp only [hn]
    rw [if_neg hn', value_getProperty_eq_some_iff]
    refine ⟨ha.description, value_getProperty_eq_some_iff.2 ⟨ha.macAddress,
      value_getProperty_eq_some_iff.2 ⟨ha.dhcpEnabled,
        value_getProperty_eq_some_iff.2 ⟨ha.dnsServerSearchOrder, ?_⟩⟩⟩⟩
    simp [adapterOf, hi, hn]

theorem value_readObject (clsObj : ClassObject) :
    (readObject clsObj).value = if Admitted clsObj then some (adapterOf clsObj) else none := by
  split
  · next ha => exact value_readObject_eq_some_iff.2 ⟨ha, rfl⟩
  · next ha =>
    apply Option.eq_none_iff_forall_ne_some.2
    intro info h
    exact ha (value_readObject_eq_some_iff.1 h).1

theorem value_enumAdapters (results : Enumeration) (vec : List WmiAdapterInfo) :
    (enumAdapters p results vec).value = vec ++ adaptersOf results := by
  induction results generalizing vec with
  | endOfList => exact (List.append_nil vec).symm
  | failed hres => exact (List.append_nil vec).symm
  | object clsObj rest ih =>
    have hrest : (enumAdapters p (.object clsObj rest) vec).value =
        (enumAdapters p rest (vec ++ (readObject clsObj).value.toList)).value := rfl
    rw [hrest, ih, List.append_assoc, value_readObject, adaptersOf, adaptersOf,
      Enumeration.objects, List.filter_cons]
    by_cases ha : Admitted clsObj
    · simp [ha]
    · simp [ha]

end Objects

section Calls

variable {start : WmiStart} {query : Except HResult (Option Enumerator)}

theorem value_initliazeWmi (h : start.Succeeds) :
    ∃ pSvc pLoc, (initliazeWmi start).value = (.success, some pSvc, some pLoc) := by
  obtain ⟨pSvc, pLoc, _, _, hvalue, _⟩ := leaves_initliazeWmi h 0
  exact ⟨pSvc, pLoc, hvalue⟩

theorem value_failed (h : ¬start.Succeeds) (query : Except HResult (Option Enumerator))
    (vec : List WmiAdapterInfo) :
    (wmiGetAdapterList start query vec).value.1 ≠ .success := by
  obtain ⟨hres, _⟩ := initialize_fails h
  rw [wmiGetAdapterList, betweenWmi, value_bind, value_bind, if_pos hres]
  exact hres

theorem value_unanswered (h : start.Succeeds)
    (hq : ∀ enumerator, query ≠ .ok (some enumerator)) (vec : List WmiAdapterInfo) :
    (wmiGetAdapterList start query vec).value = (.enumAdapterFail, vec) := by
  obtain ⟨pSvc, pLoc, hvalue⟩ := value_initliazeWmi h
  rw [wmiGetAdapterList, betweenWmi, value_bind, hvalue]
  change (queryAdapters (some pSvc) query vec).value = _
  cases query with
  | error hres => rfl
  | ok pEnumerator =>
    cases pEnumerator with
    | none => rfl
    | some enumerator => exact absurd rfl (hq enumerator)

theorem value_enumerated (h : start.Succeeds) (enumerator : Enumerator)
    (vec : List WmiAdapterInfo) : (wmiGetAdapterList start (.ok (some enumerator)) vec).value =
      (.success, vec ++ adaptersOf enumerator.results) := by
  obtain ⟨pSvc, pLoc, hvalue⟩ := value_initliazeWmi h
  rw [wmiGetAdapterList, betweenWmi, value_bind, hvalue]
  change (queryAdapters (some pSvc) (.ok (some enumerator)) vec).value = _
  exact congrArg (Prod.mk Result.success) (value_enumAdapters enumerator.results vec)

/-- The call tells a complete enumeration from a failed one, unless it is the enumeration itself
that fails. -/
theorem complete_or_failed_iff (start : WmiStart)
    (query : Except HResult (Option Enumerator)) : CompleteOrFailed start query ↔
      ¬(start.Succeeds ∧
        ∃ enumerator, query = .ok (some enumerator) ∧ ¬enumerator.results.Completes) := by
  apply Iff.intro
  · intro hc hx
    obtain ⟨hs, enumerator, rfl, hn⟩ := hx
    have hvalue : (wmiGetAdapterList start (.ok (some enumerator)) []).value.1 = .success := by
      rw [value_enumerated hs]
    obtain ⟨_, enumerator', he, hcompletes⟩ := hc.reported.1 hvalue
    cases he
    exact hn hcompletes
  · intro h
    by_cases hs : start.Succeeds
    · by_cases hq : ∃ enumerator, query = .ok (some enumerator)
      · obtain ⟨enumerator, rfl⟩ := hq
        have hvalue := value_enumerated hs enumerator []
        have hcompletes : enumerator.results.Completes := by
          by_contra hn
          exact h ⟨hs, enumerator, rfl, hn⟩
        constructor
        · rw [hvalue]
          exact iff_of_true rfl ⟨hs, enumerator, rfl, hcompletes⟩
        · intro _
          rw [hvalue]
          exact ⟨enumerator, rfl, rfl⟩
      · have hne : (wmiGetAdapterList start query []).value.1 ≠ .success := by
          rw [value_unanswered hs (fun enumerator he => hq ⟨enumerator, he⟩) []]
          exact nofun
        exact ⟨iff_of_false hne fun ⟨_, enumerator, he, _⟩ => hq ⟨enumerator, he⟩,
          fun he => absurd he hne⟩
    · have hne := value_failed hs query []
      exact ⟨iff_of_false hne fun ⟨hs', _⟩ => hs hs', fun he => absurd he hne⟩

theorem readAdapterList_objects {sorter : StdSort AdapterInfo.key} {enumerator : Enumerator}
    (hs : start.Succeeds) (hp : getAdapterPerformance calls [] = (.success, counters)) :
    Runs (readAdapterList sorter)
      [⟨.wmiAdapterList, (wmiGetAdapterList start (.ok (some enumerator)) []).value⟩,
        ⟨.adapterPerformance, getAdapterPerformance calls []⟩]
      (.ok (.success, sorter.sort ((adaptersOf enumerator.results).map
        (adapterInfoOf (calls.table.map pfmcCounter))))) := by
  rw [value_enumerated hs, hp, getAdapterPerformance_success hp]
  exact readAdapterList_sort.2 rfl

def fullStart : WmiStart where
  coInitializeEx := .ok ()
  coInitializeSecurity := .ok ()
  coCreateInstance := .ok 1
  connectServer := .ok 2
  coSetProxyBlanket := .ok ()

/-- The first call of `Next` fails, and the call reports an empty list of adapters. -/
theorem not_complete_or_failed : ¬∀ start query, CompleteOrFailed start query := by
  intro h
  have hc := h fullStart (.ok (some ⟨3, .failed 0x80041001⟩))
  obtain ⟨_, enumerator, he, hc⟩ := hc.reported.1 rfl
  cases he
  exact hc

end Calls

end LdnsSelector
