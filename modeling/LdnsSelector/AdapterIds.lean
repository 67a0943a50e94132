import LdnsSelector.ManualSwitch

set_option autoImplicit true

namespace LdnsSelector

open Prog

/-- The ids of the listed adapters differ, a switch by an id addresses the instance with the
record's index, and the search for the id finds the record. -/
structure IdsIdentify (recs : List WmiAdapterInfo) : Prop where
  distinct : ∀ (sorter : StdSort AdapterInfo.key) counters,
    ((sorter.sort (recs.map (adapterInfoOf counters))).map AdapterInfo.id).Nodup
  addressed : ∀ r ∈ recs, ∀ sorter sSuffix dns1 dns2 low o, dns1 ≠ [] → dns2 ≠ [] →
    Runs (onMachine sorter (switchAdapterDns r.adapterId dns1 dns2) sSuffix) low o →
    ∃ res, low = [dnsSet r.index dns1 dns2 res]
  found : ∀ r ∈ recs, ∀ (sorter : StdSort AdapterInfo.key) counters,
    ((sorter.sort (recs.map (adapterInfoOf counters))).find? fun info => r.adapterId = info.id) =
      some (adapterInfoOf counters r)

section Ids

variable {recs : List WmiAdapterInfo}

theorem adapterId_nodup (hn : (recs.map WmiAdapterInfo.index).Nodup)
    (hlt : ∀ r ∈ recs, r.index < 65536) : (recs.map WmiAdapterInfo.adapterId).Nodup := by
  have hlow : (recs.map WmiAdapterInfo.adapterId).map loword =
      recs.map WmiAdapterInfo.index := by
    rw [List.map_map]
    apply List.map_congr_left
    intro r hr
    exact (loword_makelong_eq_iff _ _).2 (hlt r hr)
  exact List.Nodup.of_map loword (hlow ▸ hn)

/-- The ids identify the adapters exactly when every index fits in the low word. -/
theorem idsIdentify_iff (hn : (recs.map WmiAdapterInfo.index).Nodup) :
    IdsIdentify recs ↔ ∀ r ∈ recs, r.index < 65536 := by
  apply Iff.intro
  · intro h r hr
    have hip : wide "203.0.113.1" ≠ [] := by decide
    have hrun := (switch_addresses (.insertion _) r.adapterId 0 hip hip).2
      ⟨.success, rfl, rfl⟩
    obtain ⟨res, he⟩ := h.addressed r hr _ _ _ _ _ _ hip hip hrun
    have hindex : loword r.adapterId = r.index := by
      injection (List.cons.inj he).1 with hcall
      injection hcall
    exact (loword_makelong_eq_iff _ _).1 hindex
  · intro hlt
    have hids := adapterId_nodup hn hlt
    refine ⟨fun sorter counters => sorted_ids_nodup sorter counters hids, ?_, ?_⟩
    · intro r hr sorter sSuffix dns1 dns2 low o h₁ h₂ h
      obtain ⟨res, rfl, _⟩ := (switch_addresses sorter _ _ h₁ h₂).1 h
      rw [WmiAdapterInfo.adapterId, (loword_makelong_eq_iff _ _).2 (hlt r hr)]
      exact ⟨res, rfl⟩
    · intro r hr sorter counters
      have hm : adapterInfoOf counters r ∈ sorter.sort (recs.map (adapterInfoOf counters)) :=
        (sorter.ranking _).mem_iff.2 (List.mem_map_of_mem hr)
      exact find?_id (sorted_ids_nodup sorter counters hids) hm

theorem idsIdentify_iff_two : IdsIdentify [bareRecord 1 7, bareRecord 2 7] ↔
    ∀ r ∈ [bareRecord 1 7, bareRecord 2 7], r.index < 65536 :=
  idsIdentify_iff (by decide)

/-- Two adapters whose indices agree in the low word have one id. -/
theorem not_idsIdentify_wide :
    ¬∀ recs : List WmiAdapterInfo, (recs.map WmiAdapterInfo.index).Nodup → IdsIdentify recs := by
  intro h
  have hn := (h [bareRecord 1 7, bareRecord 65537 7] (by decide)).distinct (.insertion _) []
  rw [((StdSort.insertion AdapterInfo.key).ranking _ |>.perm.map AdapterInfo.id).nodup_iff] at hn
  exact absurd hn (by decide)

end Ids

end LdnsSelector
