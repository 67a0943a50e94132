import LdnsSelector.DnsSelector
import LdnsSelector.Recency
import LdnsSelector.ServiceRuns

set_option autoImplicit true

namespace LdnsSelector

open Prog Recency

section Backup

variable {vec : List AdapterInfo} {info : AdapterInfo}

theorem find?_id (hn : (vec.map AdapterInfo.id).Nodup) (hm : info ∈ vec) :
    (vec.find? fun r => info.id = r.id) = some info := by
  cases hf : vec.find? fun r => info.id = r.id with
  | none =>
    have hne := List.find?_eq_none.1 hf info hm
    exact absurd (decide_eq_true rfl) hne
  | some r =>
    have hd := List.find?_some hf
    have hr : info.id = r.id := of_decide_eq_true hd
    have he := List.inj_on_of_nodup_map hn hm (List.mem_of_find?_eq_some hf) hr
    rw [he]

theorem manualBackup_eq (hn : (vec.map AdapterInfo.id).Nodup) (hm : info ∈ vec)
    (strIp : WString) :
    (strIp, manualBackup vec info.id strIp) =
      use [] (info.strDns1, info.strDns2) strIp := by
  rw [manualBackup, use]
  rw [find?_id hn hm]
  by_cases h₁ : info.strDns1 = []
  · simp only [if_pos h₁]
  · by_cases h₂ : info.strDns1 = strIp
    · by_cases h₃ : info.strDns2 = []
      · simp only [if_neg h₁, if_neg (not_not_intro h₂), if_pos h₃]
      · by_cases h₄ : info.strDns2 = strIp
        · simp only [if_neg h₁, if_neg (not_not_intro h₂), if_neg h₃,
            if_neg (not_not_intro h₄)]
        · simp only [if_neg h₁, if_neg (not_not_intro h₂), if_neg h₃, if_pos h₄]
    · simp only [if_neg h₁, if_pos h₂]

end Backup

/-- `MAKELONG` of a record's two indices: the id it will be known by. -/
def WmiAdapterInfo.adapterId (r : WmiAdapterInfo) : UInt32 :=
  makelong r.index r.interfaceIndex

/-- The enumeration lists the adapter with the given pair of servers, under an id of its own. -/
structure Lists (index interfaceIndex : UInt32) (pair : WString × WString)
    (recs : List WmiAdapterInfo) : Prop where
  unique : (recs.map WmiAdapterInfo.adapterId).Nodup
  present : ∃ r ∈ recs, r.index = index ∧ r.interfaceIndex = interfaceIndex ∧
    (r.strDns1, r.strDns2) = pair

def pairStep (index : UInt32) (pair : WString × WString) : Event Platform → WString × WString
  | ⟨.setDnsServerSearchOrder i dns1 dns2, res⟩ =>
    if res = .success ∧ i = index then (dns1, dns2) else pair
  | _ => pair

/-- A successful call of `on_switch_dns` on the adapter, which takes its pair to `pair'`. -/
def SwitchCall (index interfaceIndex : UInt32) (pair : WString × WString) (strIp : WString)
    (pair' : WString × WString) : Prop :=
  ∃ sorter sSuffix s' low,
    Runs (onMachine sorter (onSwitchDns (makelong index interfaceIndex) strIp) sSuffix) low
      (.ok (.success, s')) ∧
    (∀ res recs, enumerated res recs ∈ low →
      res = .success ∧ Lists index interfaceIndex pair recs) ∧
    (∀ res counters, measured res counters ∈ low → res = .success) ∧
    pair' = low.foldl (pairStep index) pair

section Machine

variable {sorter : StdSort AdapterInfo.key} {id s s' : UInt32} {dns1 dns2 ip : WString}

theorem switch_machine_iff (sorter : StdSort AdapterInfo.key) :
    Runs (onMachine sorter (switchAdapterDns id dns1 dns2) s) low o ↔
      ∃ res, o = .ok (res, s) ∧ SettingRun (loword id) dns1 dns2 low res := by
  rw [onMachine, switchAdapterDns, interp_perform]
  exact serve_switch_iff

theorem switch_addresses (sorter : StdSort AdapterInfo.key) (id s : UInt32)
    (h₁ : dns1 ≠ []) (h₂ : dns2 ≠ []) :
    Runs (onMachine sorter (switchAdapterDns id dns1 dns2) s) low o ↔
      ∃ res, low = [dnsSet (loword id) dns1 dns2 res] ∧ o = .ok (res, s) := by
  rw [switch_machine_iff]
  apply Iff.intro
  · intro hx
    obtain ⟨res, rfl, hrun⟩ := hx
    cases hrun with
    | invalid he => exact absurd he (not_or.2 ⟨h₁, h₂⟩)
    | set h₁ h₂ res => exact ⟨res, rfl, rfl⟩
  · intro hx
    obtain ⟨res, rfl, rfl⟩ := hx
    exact ⟨res, rfl, .set h₁ h₂ res⟩

theorem switch_machine
    (h : Runs (onMachine sorter (switchAdapterDns id dns1 dns2) s) low (.ok (.success, s'))) :
    dns1 ≠ [] ∧ low = [dnsSet (loword id) dns1 dns2 .success] := by
  obtain ⟨res, ho, hrun⟩ := (switch_machine_iff sorter).1 h
  cases ho
  cases hrun with
  | set h₁ h₂ => exact ⟨h₁, rfl⟩

theorem onSwitchDns_machine
    (h : Runs (onMachine sorter (onSwitchDns id ip) s) low (.ok (.success, s')))
    (henum : ∀ res recs, enumerated res recs ∈ low → res = .success)
    (hmeas : ∀ res counters, measured res counters ∈ low → res = .success) :
    ∃ recs counters, ip ≠ [] ∧ low = [enumerated .success recs, measured .success counters,
      dnsSet (loword id) ip
        (manualBackup (sorter.sort (recs.map (adapterInfoOf counters))) id ip) .success] := by
  obtain ⟨⟨res, recs⟩, low₁, rfl, h₁⟩ := runs_call_iff.1 h
  obtain rfl := henum res recs List.mem_cons_self
  obtain ⟨⟨res, counters⟩, low₂, rfl, h₂⟩ := runs_call_iff.1 h₁
  obtain rfl := hmeas res counters (List.mem_cons_of_mem _ List.mem_cons_self)
  change Runs (onMachine sorter (switchAdapterDns id ip _) s) _ _ at h₂
  obtain ⟨hip, rfl⟩ := switch_machine h₂
  exact ⟨recs, counters, hip, rfl⟩

theorem onSwitchDns_machine_exists (sorter : StdSort AdapterInfo.key) (id s : UInt32)
    (hip : ip ≠ []) (recs : List WmiAdapterInfo) (counters : List AdapterPerformanceCounter)
    (hb : manualBackup (sorter.sort (recs.map (adapterInfoOf counters))) id ip ≠ []) :
    Runs (onMachine sorter (onSwitchDns id ip) s)
      [enumerated .success recs, measured .success counters,
        dnsSet (loword id) ip
          (manualBackup (sorter.sort (recs.map (adapterInfoOf counters))) id ip) .success]
      (.ok (.success, s)) := by
  have hswitch := (switch_addresses sorter id s hip hb).2 ⟨.success, rfl, rfl⟩
  exact runs_call_iff.2 ⟨(_, _), _, rfl, runs_call_iff.2 ⟨(_, _), _, rfl, hswitch⟩⟩

end Machine

theorem sorted_ids_nodup {recs : List WmiAdapterInfo} (sorter : StdSort AdapterInfo.key)
    (counters : List AdapterPerformanceCounter)
    (h : (recs.map WmiAdapterInfo.adapterId).Nodup) :
    ((sorter.sort (recs.map (adapterInfoOf counters))).map AdapterInfo.id).Nodup := by
  have hp := (sorter.ranking (recs.map (adapterInfoOf counters))).perm
  rw [(hp.map AdapterInfo.id).nodup_iff, List.map_map]
  exact h

theorem Lists.sorted (h : Lists index interfaceIndex pair recs)
    (sorter : StdSort AdapterInfo.key) (counters : List AdapterPerformanceCounter) :
    ((sorter.sort (recs.map (adapterInfoOf counters))).map AdapterInfo.id).Nodup ∧
      ∃ info ∈ sorter.sort (recs.map (adapterInfoOf counters)),
        info.id = makelong index interfaceIndex ∧ (info.strDns1, info.strDns2) = pair := by
  apply And.intro (sorted_ids_nodup sorter counters h.unique)
  obtain ⟨r, hm, rfl, rfl, hp⟩ := h.present
  exact ⟨_, (sorter.ranking _).mem_iff.2 (List.mem_map_of_mem hm), rfl, hp⟩

theorem SwitchCall.ne_nil (h : SwitchCall index interfaceIndex pair ip pair') : ip ≠ [] := by
  obtain ⟨sorter, s, s', low, hrun, henum, hmeas, _⟩ := h
  obtain ⟨_, _, hip, _⟩ :=
    onSwitchDns_machine hrun (fun res recs hm => (henum res recs hm).1) hmeas
  exact hip

inductive SwitchCalls (index interfaceIndex : UInt32) :
    WString × WString → List WString → WString × WString → Prop where
  | nil : SwitchCalls index interfaceIndex pair [] pair
  | cons (h : SwitchCalls index interfaceIndex pair ips pair')
      (hc : SwitchCall index interfaceIndex pair' ip pair'') :
      SwitchCalls index interfaceIndex pair (ip :: ips) pair''

/-- After any calls the pair is the latest address and, behind it, the latest other address
that was first, the initial pair counting as history. -/
def MostRecentPair (index interfaceIndex : UInt32) : Prop :=
  ∀ dns1 dns2, (dns1 = [] → dns2 = []) →
    ∀ ip ips pair, SwitchCalls index interfaceIndex (dns1, dns2) (ip :: ips) pair →
      pair = (ip, (lastOther [] ip (ips ++ [dns1, dns2])).getD ip)

def bareRecord (index interfaceIndex : UInt32) : WmiAdapterInfo :=
  ⟨index, interfaceIndex, [], [], false, [], []⟩

theorem switchCall_bare (index interfaceIndex : UInt32) (hip : ip ≠ []) :
    SwitchCall index interfaceIndex ([], []) ip
      (pairStep index ([], [])
        (dnsSet (loword (makelong index interfaceIndex)) ip ip .success)) := by
  have hl : Lists index interfaceIndex ([], []) [bareRecord index interfaceIndex] :=
    ⟨List.nodup_singleton _, _, List.mem_singleton_self _, rfl, rfl, rfl⟩
  obtain ⟨hn, info, hm, hid, hp⟩ := hl.sorted (.insertion _) []
  have hb := manualBackup_eq hn hm ip
  rw [hid, hp, use, if_pos rfl] at hb
  replace hb := (Prod.mk.inj hb).2
  have hrun := onSwitchDns_machine_exists (.insertion _) (makelong index interfaceIndex) 0 hip
    [bareRecord index interfaceIndex] [] (hb.symm ▸ hip)
  rw [hb] at hrun
  refine ⟨_, _, _, _, hrun, ?_, ?_, rfl⟩
  · intro res recs hm
    rcases List.mem_cons.1 hm with hm | hm
    · cases hm
      exact ⟨rfl, hl⟩
    · simp at hm
  · intro res counters hm
    rcases List.mem_cons.1 hm with hm | hm
    · cases hm
    · rcases List.mem_cons.1 hm with hm | hm
      · cases hm
        rfl
      · simp at hm

theorem MostRecentPair.lt (h : MostRecentPair index interfaceIndex) : index < 65536 := by
  by_contra hi
  have hip : wide "203.0.113.1" ≠ [] := by decide
  have hc := switchCall_bare index interfaceIndex hip
  have hp := h [] [] (fun _ => rfl) _ [] _ (.cons .nil hc)
  have hne : loword (makelong index interfaceIndex) ≠ index :=
    fun he => hi ((loword_makelong_eq_iff _ _).1 he)
  rw [pairStep, if_neg fun hs => hne hs.2] at hp
  exact hip (Prod.mk.inj hp).1.symm

theorem MostRecentPair.again (h : MostRecentPair index interfaceIndex) (hne : dns2 ≠ dns1)
    (hd : dns2 ≠ []) (hc : SwitchCall index interfaceIndex (dns1, dns2) dns1 pair) :
    pair = (dns1, dns2) := by
  have hp := h dns1 dns2 (fun he => absurd he hc.ne_nil) dns1 [] pair (.cons .nil hc)
  have hs : ¬(dns1 ≠ dns1 ∧ dns1 ≠ []) := fun hn => hn.1 rfl
  rw [List.nil_append, lastOther_cons_skip hs, lastOther_cons ⟨hne, hd⟩] at hp
  exact hp

end LdnsSelector
