import LdnsSelector.AdapterEffects
import LdnsSelector.IpFetcher
import LdnsSelector.ServerOptimality

set_option autoImplicit true

namespace LdnsSelector

open Prog

/-- Every switch of these events passes two addresses: the precondition that
`wmi_interface::switch_adapter_dns` asserts. -/
def AddressesGiven (tr : List (Event Services)) : Prop :=
  ∀ id dns1 dns2 res, switched id dns1 dns2 res ∈ tr → dns1 ≠ [] ∧ dns2 ≠ []

/-- The adapter's own servers hold a second address next to `dns1`. -/
def Spare (info : AdapterInfo) (dns1 : WString) : Prop :=
  if info.strDns1 ≠ dns1 then info.strDns1 ≠ []
  else info.strDns2 ≠ dns1 ∧ info.strDns2 ≠ []

/-- However equal times are ordered, an address stands in front, and there is a second one:
behind it in the list, among the defaults, or on the adapter. -/
def FrontGiven (os : List (WString × Option UInt32)) (info : AdapterInfo) : Prop :=
  ∀ c t, Ranking Candidate.key (candidates os) (c :: t) → c.timeMs ≠ pingTimeout →
    c.strVip ≠ [] ∧ ((∃ d ∈ t.head?, d.timeMs ≠ pingTimeout ∧ d.strVip ≠ []) ∨
      info.dhcp = true ∨ Spare info c.strVip)

section Addresses

variable {layout : Layout} {m : DnsMap} {info : AdapterInfo} {id : UInt32}

theorem Quiet.addressesGiven (h : Quiet tr) : AddressesGiven tr := by
  intro id dns1 dns2 res hm
  exact absurd (h _ hm) Bool.noConfusion

theorem AddressesGiven.append (h : AddressesGiven tr) (h' : AddressesGiven tr') :
    AddressesGiven (tr ++ tr') := by
  intro id dns1 dns2 res hm
  rcases List.mem_append.1 hm with hm | hm
  · exact h id dns1 dns2 res hm
  · exact h' id dns1 dns2 res hm

theorem AddressesGiven.of_around (hpre : Quiet pre) (hpost : Quiet post) (h₁ : dns1 ≠ [])
    (h₂ : dns2 ≠ []) : AddressesGiven (pre ++ switched id dns1 dns2 res :: post) := by
  intro id' dns1' dns2' res' hm
  cases switched_mem_cases hpre hpost hm
  exact ⟨h₁, h₂⟩

theorem obtainDnsInfo_addressesGiven (h : Runs obtainDnsInfo tr o) : AddressesGiven tr := by
  obtain ⟨r, _, hr⟩ := obtainDnsInfo_runs h
  cases hr.effect with
  | quiet hq => exact hq.addressesGiven
  | refused hpre _ => exact .of_around hpre .nil defaultDns1_ne_nil defaultDns2_ne_nil
  | set hpre hpost _ => exact .of_around hpre hpost defaultDns1_ne_nil defaultDns2_ne_nil

/-- Every run with these ping outcomes whose last list starts with `info` passes two addresses
in each of its switches. -/
def AutoAddresses (os : PingOutcomes layout m) (info : AdapterInfo) : Prop :=
  ∀ sorter tr rest o, SelectionRun layout sorter os tr rest o →
    (∀ vec, listed .success vec ∈ rest → vec.head? = some info) →
    AddressesGiven (tr ++ (os.outcomes.map pinged ++ rest))

theorem backupDns_ne_nil_iff (dns1 : WString) :
    backupDns info dns1 ≠ [] ↔ info.dhcp = true ∨ Spare info dns1 := by
  cases hd : info.dhcp with
  | true =>
    rw [backupDns_dhcp hd]
    apply iff_of_true
    · split
      · exact defaultDns1_ne_nil
      · exact defaultDns2_ne_nil
    · exact .inl rfl
  | false =>
    have hs : Spare info dns1 ↔ backupDns info dns1 ≠ [] := by
      rw [backupDns_static hd, Spare]
      by_cases h₁ : info.strDns1 = dns1
      · by_cases h₂ : info.strDns2 = dns1
        · simp [h₁, h₂]
        · simp [h₁, h₂]
      · simp [h₁]
    rw [← hs]
    simp

theorem runnerUp_ne_nil_iff {t : List Candidate} :
    runnerUp t ≠ [] ↔ ∃ d ∈ t.head?, d.timeMs ≠ pingTimeout ∧ d.strVip ≠ [] := by
  apply Iff.intro
  · intro h
    obtain ⟨d, t', rfl, hd, hu⟩ := runnerUp_ne_nil h
    exact ⟨d, rfl, hd, hu ▸ h⟩
  · intro ⟨d, hm, hd, hv⟩
    cases t with
    | nil => cases hm
    | cons d' t =>
      cases hm
      rw [runnerUp_cons hd]
      exact hv

theorem secondDns_ne_nil_iff (dns1 s : WString) :
    secondDns info dns1 s ≠ [] ↔ s ≠ [] ∨ info.dhcp = true ∨ Spare info dns1 := by
  rw [secondDns]
  split
  · rw [backupDns_ne_nil_iff]
    simp [*]
  · simp [*]

theorem AutoAddresses.frontGiven {os : PingOutcomes layout m} (h : AutoAddresses os info) :
    FrontGiven os.outcomes info := by
  intro c t hr hc
  obtain ⟨sorter, _, hrun⟩ := selectionRun_of_ranking os info hr hc
  have hhead : ∀ vec, listed .success vec ∈ [listed .success [info],
      switched info.id c.strVip (secondDns info c.strVip (runnerUp t)) .success] →
      vec.head? = some info := by
    intro vec hm
    rcases List.mem_cons.1 hm with hm | hm
    · cases hm
      rfl
    · cases List.mem_singleton.1 hm
  obtain ⟨h₁, h₂⟩ := h _ _ _ _ hrun hhead _ _ _ _ (List.mem_append_right _
    (List.mem_append_right _ (List.mem_cons_of_mem _ List.mem_cons_self)))
  rw [secondDns_ne_nil_iff, runnerUp_ne_nil_iff] at h₂
  exact ⟨h₁, h₂⟩

theorem FrontGiven.autoAddresses {os : PingOutcomes layout m}
    (h : FrontGiven os.outcomes info) : AutoAddresses os info := by
  intro sorter tr rest o hrun hhead
  apply (obtainDnsInfo_addressesGiven hrun.obtained).append
  apply (Quiet.pings _).addressesGiven.append
  obtain ⟨res, _, hf⟩ := hrun.final
  rcases hf.effect with ⟨hq, _⟩ | ⟨info', vec, dns1, s, hsel, rfl⟩
  · exact hq.addressesGiven
  · cases hhead _ List.mem_cons_self
    obtain ⟨c, t, he, hc, rfl, rfl⟩ := selectDns_eq_ok_iff.1 hsel
    have hr : Ranking Candidate.key (candidates os.outcomes) (c :: t) := he ▸ sorter.ranking _
    obtain ⟨h₁, h₂⟩ := h c t hr hc
    rw [← runnerUp_ne_nil_iff, ← secondDns_ne_nil_iff] at h₂
    exact .of_around (.listed _ _) .nil h₁ h₂

theorem manualBackup_ne_nil (h : ip ≠ []) : manualBackup vec id ip ≠ [] := by
  rw [manualBackup]
  split
  · exact h
  · split
    · exact h
    · split
      · assumption
      · split
        · exact h
        · split
          · assumption
          · exact h

theorem onSwitchDns_runs (h : Runs (onSwitchDns id ip) tr o) :
    ∃ res vec res', tr = [listed res vec, switched id ip
      (if res = .success then manualBackup vec id ip else ip) res'] := by
  obtain ⟨⟨res, vec⟩, tr₁, rfl, h₁⟩ := runs_call_iff.1 h
  obtain ⟨res', tr₂, rfl, h₂⟩ := runs_call_iff.1 h₁
  obtain ⟨rfl, _⟩ := runs_ret_iff.1 h₂
  exact ⟨res, vec, res', rfl⟩

theorem onSwitchDns_addressesGiven_iff :
    (∀ id tr o, Runs (onSwitchDns id ip) tr o → AddressesGiven tr) ↔ ip ≠ [] := by
  apply Iff.intro
  · intro h
    have hrun : Runs (onSwitchDns 0 ip) [listed .success [], switched 0 ip ip .success]
        (.ok .success) :=
      runs_call_iff.2 ⟨(_, _), _, rfl, runs_call_iff.2 ⟨_, [], rfl, .ret _⟩⟩
    exact (h _ _ _ hrun _ _ _ _ (List.mem_cons_of_mem _ List.mem_cons_self)).1
  · intro h id tr o hrun
    obtain ⟨res, vec, res', rfl⟩ := onSwitchDns_runs hrun
    apply AddressesGiven.of_around (.listed _ _) .nil h
    split
    · exact manualBackup_ne_nil h
    · exact h

/-- When each kind of switch passes two addresses: that of the fallback always does. -/
theorem switch_addressesGiven (os : PingOutcomes layout m) (info : AdapterInfo) (ip : WString) :
    (∀ tr o, Runs obtainDnsInfo tr o → AddressesGiven tr) ∧
    (AutoAddresses os info ↔ FrontGiven os.outcomes info) ∧
    ((∀ id tr o, Runs (onSwitchDns id ip) tr o → AddressesGiven tr) ↔ ip ≠ []) :=
  ⟨fun _ _ h => obtainDnsInfo_addressesGiven h,
    ⟨AutoAddresses.frontGiven, FrontGiven.autoAddresses⟩,
    onSwitchDns_addressesGiven_iff⟩

end Addresses

def loneRespond : JsonValue :=
  .object [(wide "data", .array [.object [
      (wide "info", .array [.object [(wide "uptime", .string (wide "99.9%")),
        (wide "vip", .string (wide "203.0.113.1"))]]),
      (wide "view_name", .string (wide "telecom"))]]),
    (wide "status", .string (wide "success"))]

/-- One responsive server, and a static adapter without any: the second address is empty. -/
theorem not_autoAddresses_lone :
    parseRespond loneRespond ⟨∅, 0⟩ = .ok .success ⟨loneVip, 0⟩ ∧
      ¬AutoAddresses (⟨[(wide "203.0.113.1", some 20)], by decide⟩ :
        PingOutcomes .stored loneVip) (staticAdapter [] []) := by
  apply And.intro rfl
  intro h
  have hr : Ranking Candidate.key (candidates [(wide "203.0.113.1", some 20)])
      [⟨20, wide "203.0.113.1"⟩] := ⟨.refl _, by decide⟩
  rcases (h.frontGiven _ _ hr (by decide)).2 with ⟨d, hd, _⟩ | hd | hs
  · cases hd
  · cases hd
  · exact absurd rfl hs

end LdnsSelector
