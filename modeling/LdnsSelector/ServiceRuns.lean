import LdnsSelector.Platform
import LdnsSelector.Serving

set_option autoImplicit true

namespace LdnsSelector

open Prog

def fetchAnswer : EStateM.Result CppException FetchState Result →
    Machine ((Result × DnsMap) × UInt32)
  | .ok res s => .ret ((res, s.mapDnsInfo), s.sSuffix)
  | .error e _ => .crash e

inductive AdapterListRun (sorter : StdSort AdapterInfo.key) :
    List (Event Platform) → Result × List AdapterInfo → Prop where
  | notEnumerated (hr : res ≠ .success) :
    AdapterListRun sorter [enumerated res recs] (res, [])
  | notMeasured (hr : res ≠ .success) :
    AdapterListRun sorter [enumerated .success recs, measured res counters] (res, [])
  | joined (recs : List WmiAdapterInfo) (counters : List AdapterPerformanceCounter) :
    AdapterListRun sorter [enumerated .success recs, measured .success counters]
      (.success, sorter.sort (recs.map (adapterInfoOf counters)))

inductive SettingRun (index : UInt32) (dns1 dns2 : WString) :
    List (Event Platform) → Result → Prop where
  | invalid (h : dns1 = [] ∨ dns2 = []) : SettingRun index dns1 dns2 [] .dnsIpInvalid
  | set (h₁ : dns1 ≠ []) (h₂ : dns2 ≠ []) (res : Result) :
    SettingRun index dns1 dns2 [dnsSet index dns1 dns2 res] res

def Asks : ServiceCall → PlatformCall → Prop
  | .fetchDnsInfo _, c => c = .request
  | .pingTime strIp, c => c = .ping strIp
  | .getAdapterList, c => c = .wmiAdapterList ∨ c = .adapterPerformance
  | .switchAdapterDns id dns1 dns2, c => c = .setDnsServerSearchOrder (loword id) dns1 dns2

/-- The service that asks for a step of the machine. -/
def AskedBy : PlatformCall → ServiceCall → Prop
  | .request, c => ∃ m, c = .fetchDnsInfo m
  | .ping strIp, c => c = .pingTime strIp
  | .wmiAdapterList, c => c = .getAdapterList
  | .adapterPerformance, c => c = .getAdapterList
  | .setDnsServerSearchOrder index dns1 dns2, c =>
    ∃ id, c = .switchAdapterDns id dns1 dns2 ∧ index = loword id

theorem Asks.askedBy {c' : PlatformCall} (h : Asks c c') : AskedBy c' c := by
  cases c with
  | fetchDnsInfo m =>
    cases h
    exact ⟨m, rfl⟩
  | pingTime strIp =>
    cases h
    exact rfl
  | getAdapterList =>
    rcases h with rfl | rfl
    · exact rfl
    · exact rfl
  | switchAdapterDns id dns1 dns2 =>
    cases h
    exact ⟨id, rfl, rfl⟩

section Runs

variable {sorter : StdSort AdapterInfo.key} {low : List (Event Platform)} {m : DnsMap}
  {id s s' : UInt32} {dns1 dns2 : WString}

theorem serve_fetch (h : Runs (serve sorter (.fetchDnsInfo m) s) low o) :
    ∃ outcome, low = [requested outcome] ∧
      ∀ res m' s', o = .ok ((res, m'), s') → fetch outcome ⟨m, s⟩ = .ok res ⟨m', s'⟩ := by
  obtain ⟨outcome, low₁, rfl, h₁⟩ := runs_call_iff.1 h
  change Runs (fetchAnswer (fetch outcome ⟨m, s⟩)) low₁ o at h₁
  cases hf : fetch outcome ⟨m, s⟩ with
  | ok r st =>
    rw [hf] at h₁
    obtain ⟨rfl, rfl⟩ := runs_ret_iff.1 h₁
    refine ⟨outcome, rfl, ?_⟩
    intro res m' s' ho
    cases ho
    exact hf
  | error e st =>
    rw [hf] at h₁
    obtain ⟨rfl, rfl⟩ := runs_crash_iff.1 h₁
    refine ⟨outcome, rfl, ?_⟩
    intro res m' s' ho
    cases ho

theorem AdapterListRun.runs (h : AdapterListRun sorter low answer) :
    Runs (readAdapterList sorter) low (.ok answer) := by
  cases h with
  | notEnumerated hr =>
    refine runs_perform_iff.2 ⟨_, [], rfl, ?_⟩
    dsimp only
    rw [if_pos hr]
    exact .ret _
  | notMeasured hr =>
    refine runs_perform_iff.2 ⟨_, _, rfl, runs_perform_iff.2 ⟨_, [], rfl, ?_⟩⟩
    dsimp only
    rw [if_pos hr]
    exact .ret _
  | joined recs counters =>
    exact runs_perform_iff.2 ⟨(_, _), _, rfl, runs_perform_iff.2 ⟨(_, _), [], rfl, .ret _⟩⟩

theorem readAdapterList_runs_iff : Runs (readAdapterList sorter) low o ↔
    ∃ answer, o = .ok answer ∧ AdapterListRun sorter low answer := by
  apply Iff.intro
  · intro h
    obtain ⟨⟨res, recs⟩, low₁, rfl, h₁⟩ := runs_perform_iff.1 h
    by_cases hr : res = .success
    · subst hr
      obtain ⟨⟨res, counters⟩, low₂, rfl, h₂⟩ := runs_perform_iff.1 h₁
      by_cases hc : res = .success
      · subst hc
        obtain ⟨rfl, rfl⟩ := runs_ret_iff.1 h₂
        exact ⟨_, rfl, .joined recs counters⟩
      · simp only [ne_eq, hc, not_false_eq_true, if_true] at h₂
        obtain ⟨rfl, rfl⟩ := runs_ret_iff.1 h₂
        exact ⟨_, rfl, .notMeasured hc⟩
    · simp only [ne_eq, hr, not_false_eq_true, if_true] at h₁
      obtain ⟨rfl, rfl⟩ := runs_ret_iff.1 h₁
      exact ⟨_, rfl, .notEnumerated hr⟩
  · intro hx
    obtain ⟨answer, rfl, h⟩ := hx
    exact h.runs

theorem serve_list (h : Runs (serve sorter .getAdapterList s) low o) :
    ∃ answer, o = .ok (answer, s) ∧ AdapterListRun sorter low answer := by
  rcases Runs.bind_inv h with ⟨e, rfl, h₁⟩ | ⟨answer, low₁, low₂, rfl, h₁, h₂⟩
  · obtain ⟨_, ho, _⟩ := readAdapterList_runs_iff.1 h₁
    cases ho
  · obtain ⟨_, ho, hrun⟩ := readAdapterList_runs_iff.1 h₁
    cases ho
    obtain ⟨rfl, rfl⟩ := runs_ret_iff.1 h₂
    rw [List.append_nil]
    exact ⟨answer, rfl, hrun⟩

theorem serve_listed (h : Runs (serve sorter .getAdapterList s) low (.ok ((.success, vec), s'))) :
    s' = s ∧ ∃ recs counters, low = [enumerated .success recs, measured .success counters] ∧
      vec = sorter.sort (recs.map (adapterInfoOf counters)) := by
  obtain ⟨answer, ho, hrun⟩ := serve_list h
  cases ho
  cases hrun with
  | notEnumerated hr => exact absurd rfl hr
  | notMeasured hr => exact absurd rfl hr
  | joined recs counters => exact ⟨rfl, recs, counters, rfl, rfl⟩

theorem wmiSwitchAdapterDns_runs_iff : Runs (wmiSwitchAdapterDns id dns1 dns2) low o ↔
    ∃ res, o = .ok res ∧ SettingRun id dns1 dns2 low res := by
  rw [wmiSwitchAdapterDns]
  by_cases he : dns1 = [] ∨ dns2 = []
  · rw [if_pos he]
    apply Iff.intro
    · intro h
      obtain ⟨rfl, rfl⟩ := runs_ret_iff.1 h
      exact ⟨_, rfl, .invalid he⟩
    · intro hx
      obtain ⟨res, rfl, h⟩ := hx
      cases h with
      | invalid => exact .ret _
      | set h₁ h₂ res => exact absurd he (not_or.2 ⟨h₁, h₂⟩)
  · rw [if_neg he]
    apply Iff.intro
    · intro h
      obtain ⟨res, low₁, rfl, h₁⟩ := runs_call_iff.1 h
      obtain ⟨rfl, rfl⟩ := runs_ret_iff.1 h₁
      obtain ⟨h₁, h₂⟩ := not_or.1 he
      exact ⟨res, rfl, .set h₁ h₂ res⟩
    · intro hx
      obtain ⟨res, rfl, h⟩ := hx
      cases h with
      | invalid h => exact absurd h he
      | set h₁ h₂ res => exact runs_call_iff.2 ⟨res, [], rfl, .ret _⟩

theorem serve_switch_iff : Runs (serve sorter (.switchAdapterDns id dns1 dns2) s) low o ↔
    ∃ res, o = .ok (res, s) ∧ SettingRun (loword id) dns1 dns2 low res := by
  apply Iff.intro
  · intro h
    rcases Runs.bind_inv h with ⟨e, rfl, h₁⟩ | ⟨res, low₁, low₂, rfl, h₁, h₂⟩
    · obtain ⟨_, ho, _⟩ := wmiSwitchAdapterDns_runs_iff.1 h₁
      cases ho
    · obtain ⟨_, ho, hrun⟩ := wmiSwitchAdapterDns_runs_iff.1 h₁
      cases ho
      obtain ⟨rfl, rfl⟩ := runs_ret_iff.1 h₂
      rw [List.append_nil]
      exact ⟨res, rfl, hrun⟩
  · intro hx
    obtain ⟨res, rfl, hrun⟩ := hx
    change Runs ((wmiSwitchAdapterDns (loword id) dns1 dns2).bind fun res => .ret (res, s)) low _
    rw [← List.append_nil low]
    exact (wmiSwitchAdapterDns_runs_iff.2 ⟨res, rfl, hrun⟩).bind (.ret _)

theorem readAdapterList_within (sorter : StdSort AdapterInfo.key) :
    Within (Asks .getAdapterList) E (readAdapterList sorter) := by
  have hend (answer : Result × List AdapterInfo) :
      Within (Asks .getAdapterList) E (.ret answer : Machine _) := trivial
  apply Within.bind (p := ask .wmiAdapterList) (.perform (.inl rfl))
  intro (res, recs)
  apply Within.ite fun _ => hend _
  intro _
  apply Within.bind (p := ask .adapterPerformance) (.perform (.inr rfl))
  intro (res, counters)
  exact .ite (fun _ => hend _) fun _ => hend _

theorem wmiSwitchAdapterDns_within (id : UInt32) (dns1 dns2 : WString) :
    Within (Asks (.switchAdapterDns id dns1 dns2)) E
      (wmiSwitchAdapterDns (loword id) dns1 dns2) :=
  .ite (fun _ => trivial) fun _ => .perform rfl

/-- Only the service of a request can throw. -/
theorem serve_within (sorter : StdSort AdapterInfo.key) (c : ServiceCall) (s : UInt32) :
    Within (Asks c) (fun _ => ∃ m, c = .fetchDnsInfo m) (serve sorter c s) := by
  cases c with
  | fetchDnsInfo m =>
    apply And.intro rfl
    intro outcome
    change Within _ _ (fetchAnswer (fetch outcome ⟨m, s⟩))
    cases fetch outcome ⟨m, s⟩ with
    | ok res st => exact trivial
    | error e st => exact ⟨m, rfl⟩
  | pingTime strIp => exact ⟨rfl, fun _ => trivial⟩
  | getAdapterList => exact (readAdapterList_within sorter).bind fun _ => trivial
  | switchAdapterDns id dns1 dns2 =>
    exact (wmiSwitchAdapterDns_within id dns1 dns2).bind fun _ => trivial

end Runs

end LdnsSelector
