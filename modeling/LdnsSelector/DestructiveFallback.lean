import LdnsSelector.DnsSelector
import LdnsSelector.ServiceRuns

set_option autoImplicit true

namespace LdnsSelector

open Prog

/-- The outcomes of the requests made before servers are first set on an adapter. -/
def attempts : List (Event Platform) → List HttpOutcome
  | [] => []
  | ⟨.request, outcome⟩ :: low => outcome :: attempts low
  | ⟨.setDnsServerSearchOrder _ _ _, _⟩ :: _ => []
  | _ :: low => attempts low

def Unreachable : HttpOutcome → Prop
  | .failed => True
  | .response statusCode _ => statusCode ≠ 200

section Fallback

variable {sorter : StdSort AdapterInfo.key} {m : DnsMap} {s : UInt32}
  {outs http : List HttpOutcome}

theorem attempts_requested (outs : List HttpOutcome) (low : List (Event Platform)) :
    attempts (outs.map requested ++ low) = outs ++ attempts low := by
  induction outs with
  | nil => rfl
  | cons x outs ih => exact congrArg (x :: ·) ih

theorem dnsSet_mem_requested (hm : dnsSet index dns1 dns2 r ∈ outs.map requested ++ low) :
    dnsSet index dns1 dns2 r ∈ low := by
  rcases List.mem_append.1 hm with hm | hm
  · obtain ⟨x, _, he⟩ := List.mem_map.1 hm
    cases he
  · exact hm

theorem fetchDnsInfo_machine (h : Runs (onMachine sorter (fetchDnsInfo m) s) low o) :
    ∃ outcome, low = [requested outcome] ∧
      ∀ m' s', o = .ok ((.networkInterfaceHttpRequestFail, m'), s') → Refused outcome := by
  rw [onMachine, fetchDnsInfo, interp_perform] at h
  obtain ⟨outcome, rfl, hf⟩ := serve_fetch h
  refine ⟨outcome, rfl, ?_⟩
  intro m' s' ho
  exact (fetch_fail (hf _ m' s' ho)).1

theorem requestDnsInfo_machine
    (h : Runs (onMachine sorter (requestDnsInfo n res m) s) low o) :
    ∃ outs : List HttpOutcome, low = outs.map requested ∧
      ∀ m' s', o = .ok (.ok (.networkInterfaceHttpRequestFail, m'), s') →
        outs.length = n ∧ ∀ x ∈ outs, Refused x := by
  induction n generalizing res m s low with
  | zero =>
    obtain ⟨rfl, rfl⟩ := runs_ret_iff.1 h
    exact ⟨[], rfl, fun _ _ _ => ⟨rfl, fun x hx => nomatch hx⟩⟩
  | succ n ih =>
    change Runs (Prog.interp _ (Prog.bind (fetchDnsInfo ∅) _) s) low o at h
    rw [interp_bind] at h
    rcases h.bind_inv with ⟨e, rfl, h₁⟩ | ⟨⟨⟨r, m₁⟩, s₁⟩, low₁, low₂, rfl, h₁, h₂⟩
    · obtain ⟨x, rfl, _⟩ := fetchDnsInfo_machine h₁
      exact ⟨[x], rfl, fun _ _ ho => nomatch ho⟩
    · obtain ⟨x, rfl, hx⟩ := fetchDnsInfo_machine h₁
      by_cases hs : r = .success
      · simp only [if_pos hs] at h₂
        obtain ⟨rfl, rfl⟩ := runs_ret_iff.1 h₂
        refine ⟨[x], rfl, ?_⟩
        intro m' s' ho
        cases ho
        cases hs
      · by_cases hh : r = .networkInterfaceHttpRequestFail
        · simp only [if_neg hs, if_neg (not_not_intro hh)] at h₂
          obtain ⟨outs, rfl, hall⟩ := ih h₂
          refine ⟨x :: outs, rfl, ?_⟩
          intro m' s' ho
          obtain ⟨hl, hr⟩ := hall m' s' ho
          subst hh
          apply And.intro (congrArg Nat.succ hl)
          intro y hy
          rcases List.mem_cons.1 hy with rfl | hy
          · exact hx m₁ s₁ rfl
          · exact hr y hy
        · simp only [if_neg hs, if_pos hh] at h₂
          obtain ⟨rfl, rfl⟩ := runs_ret_iff.1 h₂
          exact ⟨[x], rfl, fun _ _ ho => nomatch ho⟩

theorem AdapterListRun.attempts_append (h : AdapterListRun sorter low answer)
    (low' : List (Event Platform)) : attempts (low ++ low') = attempts low' := by
  cases h with
  | notEnumerated hr => rfl
  | notMeasured hr => rfl
  | joined recs counters => rfl

theorem getAdapterList_machine (h : Runs (onMachine sorter getAdapterList s) low o) :
    (∃ x, o = .ok (x, s)) ∧ ∀ low', attempts (low ++ low') = attempts low' := by
  rw [onMachine, getAdapterList, interp_perform] at h
  obtain ⟨answer, rfl, hrun⟩ := serve_list h
  exact ⟨⟨answer, rfl⟩, hrun.attempts_append⟩

theorem switchToPublicDns_machine
    (h : Runs (onMachine sorter (switchToPublicDns .networkInterfaceHttpRequestFail m) s) low o) :
    attempts low = [] := by
  change Runs (Prog.interp _ (Prog.bind getAdapterList _) s) low o at h
  rw [interp_bind] at h
  rcases h.bind_inv with ⟨e, rfl, h₁⟩ | ⟨⟨⟨res, vec⟩, s₁⟩, low₁, low₂, rfl, h₁, h₂⟩
  · obtain ⟨⟨_, ho⟩, _⟩ := getAdapterList_machine h₁
    cases ho
  · rw [(getAdapterList_machine h₁).2]
    by_cases hr : res = .success
    · subst hr
      cases vec with
      | nil =>
        obtain ⟨rfl, _⟩ := runs_ret_iff.1 h₂
        rfl
      | cons info vec =>
        obtain ⟨r, low₃, rfl, _⟩ := runs_call_iff.1 h₂
        rfl
    · simp only [if_pos hr] at h₂
      obtain ⟨rfl, _⟩ := runs_ret_iff.1 h₂
      rfl

theorem obtainDnsInfo_machine (h : Runs (onMachine sorter obtainDnsInfo s) low o)
    (hm : dnsSet index dns1 dns2 r ∈ low) :
    (attempts low).length = networkInterfaceRequestMaxTime ∧
      ∀ x ∈ attempts low, Refused x := by
  change Runs (Prog.interp _ (Prog.bind (requestDnsInfo _ _ _) _) s) low o at h
  rw [interp_bind] at h
  rcases h.bind_inv with ⟨e, rfl, h₁⟩ | ⟨⟨x, s₁⟩, low₁, low₂, rfl, h₁, h₂⟩
  · obtain ⟨outs, rfl, _⟩ := requestDnsInfo_machine h₁
    rw [← List.append_nil (outs.map requested)] at hm
    cases dnsSet_mem_requested hm
  · obtain ⟨outs, rfl, hall⟩ := requestDnsInfo_machine h₁
    have hm₂ := dnsSet_mem_requested hm
    cases x with
    | error res =>
      obtain ⟨rfl, _⟩ := runs_ret_iff.1 h₂
      cases hm₂
    | ok x =>
      obtain ⟨res, m'⟩ := x
      by_cases hs : res = .success
      · simp only [if_pos hs] at h₂
        obtain ⟨rfl, _⟩ := runs_ret_iff.1 h₂
        cases hm₂
      · simp only [if_neg hs] at h₂
        change Runs (Prog.interp _ (Prog.bind (switchToPublicDns res m') _) s₁) low₂ o at h₂
        rw [interp_bind] at h₂
        by_cases hh : res = .networkInterfaceHttpRequestFail
        · subst hh
          have hquiet : attempts low₂ = [] := by
            rcases h₂.bind_inv with ⟨e, _, h₃⟩ | ⟨⟨⟨res, m₂⟩, s₂⟩, low₃, low₄, rfl, h₃, h₄⟩
            · exact switchToPublicDns_machine h₃
            · have hend : low₄ = [] := by
                by_cases hr : res = .success
                · simp only [hr, ne_eq, not_true_eq_false, if_false] at h₄
                  exact (runs_ret_iff.1 h₄).1
                · simp only [hr, ne_eq, not_false_eq_true, if_true] at h₄
                  exact (runs_ret_iff.1 h₄).1
              rw [hend, List.append_nil]
              exact switchToPublicDns_machine h₃
          rw [attempts_requested, hquiet, List.append_nil]
          exact hall m' s₁ rfl
        · have hstop : switchToPublicDns res m' = .ret (res, m') := if_pos hh
          rw [hstop] at h₂
          simp only [interp, ret_bind, hs, ne_eq, not_false_eq_true, if_true] at h₂
          obtain ⟨rfl, _⟩ := runs_ret_iff.1 h₂
          cases hm₂

theorem fetchDnsInfo_refused (hx : Refused outcome) :
    Runs (onMachine sorter (fetchDnsInfo m) s) [requested outcome]
      (.ok ((.networkInterfaceHttpRequestFail, m), s)) := by
  refine runs_call_iff.2 ⟨outcome, [], rfl, ?_⟩
  change Runs ((fetchAnswer (fetch outcome ⟨m, s⟩)).bind _) [] _
  rw [fetch_refused hx]
  exact .ret _

theorem requestDnsInfo_refused (hall : ∀ x ∈ outs, Refused x) :
    Runs (onMachine sorter
        (requestDnsInfo outs.length .networkInterfaceHttpRequestFail ∅) s)
      (outs.map requested) (.ok (.ok (.networkInterfaceHttpRequestFail, ∅), s)) := by
  induction outs with
  | nil => exact .ret _
  | cons x outs ih =>
    have hx : Runs (onMachine sorter (fetchDnsInfo ∅) s) [requested x] _ :=
      fetchDnsInfo_refused (hall x List.mem_cons_self)
    have hrest := ih fun y hy => hall y (List.mem_cons_of_mem _ hy)
    change Runs (Prog.interp _ (Prog.bind (fetchDnsInfo ∅) _) s) ([requested x] ++ _) _
    rw [interp_bind]
    exact hx.bind hrest

def fallbackEvents (outs : List HttpOutcome) : List (Event Platform) :=
  outs.map requested ++ [enumerated .success [⟨1, 7, [], [], false, [], []⟩],
    measured .success [], dnsSet 1 defaultDns1 defaultDns2 .success, requested .failed]

theorem fallbackEvents_runs (hl : outs.length = networkInterfaceRequestMaxTime)
    (hall : ∀ x ∈ outs, Refused x) (s : UInt32) :
    Runs (onMachine (.insertion _) obtainDnsInfo s) (fallbackEvents outs)
      (.ok (.error .networkInterfaceHttpRequestFail, s)) := by
  have hreq : Runs (onMachine (.insertion _)
      (requestDnsInfo networkInterfaceRequestMaxTime .success ∅) s) _ _ :=
    hl ▸ requestDnsInfo_refused hall
  change Runs (Prog.interp _ (Prog.bind (requestDnsInfo _ _ _) _) s) _ _
  rw [interp_bind]
  exact hreq.bind (runs_of_replay rfl)

/-- Whenever a run sets the default servers in its first half, having seen the outcomes `http`
before, these are three attempts that did not reach the service. -/
def FallbackWhenUnreachable (http : List HttpOutcome) : Prop :=
  ∀ layout candidateSorter sorter sSuffix low low' o o' index res,
    Runs (onMachine sorter obtainDnsInfo sSuffix) low o →
    Runs (onMachine sorter (autoSelectDns layout candidateSorter) sSuffix) (low ++ low') o' →
    dnsSet index defaultDns1 defaultDns2 res ∈ low → attempts low = http →
    http.length = networkInterfaceRequestMaxTime ∧ ∀ x ∈ http, Unreachable x

theorem fallbackEvents_autoSelect (hl : outs.length = networkInterfaceRequestMaxTime)
    (hall : ∀ x ∈ outs, Refused x) (layout : Layout) (candidateSorter : StdSort Candidate.key)
    (s : UInt32) :
    Runs (onMachine (.insertion _) (autoSelectDns layout candidateSorter) s)
      (fallbackEvents outs ++ []) (.ok (.networkInterfaceHttpRequestFail, s)) := by
  change Runs (Prog.interp _ (Prog.bind obtainDnsInfo _) s) _ _
  rw [interp_bind]
  exact (fallbackEvents_runs hl hall s).bind (.ret _)

theorem attempts_fallbackEvents (outs : List HttpOutcome) :
    attempts (fallbackEvents outs) = outs := by
  rw [fallbackEvents, attempts_requested]
  exact List.append_nil outs

theorem FallbackWhenUnreachable.unreachable (h : FallbackWhenUnreachable http)
    (hl : http.length = networkInterfaceRequestMaxTime) (hall : ∀ x ∈ http, Refused x) :
    ∀ x ∈ http, Unreachable x := by
  have hm : dnsSet 1 defaultDns1 defaultDns2 .success ∈ fallbackEvents http := by
    apply List.mem_append_right
    exact List.mem_cons_of_mem _ (List.mem_cons_of_mem _ List.mem_cons_self)
  exact (h .stored (.insertion _) _ 0 _ [] _ _ 1 .success (fallbackEvents_runs hl hall 0)
    (fallbackEvents_autoSelect hl hall _ _ 0) hm (attempts_fallbackEvents http)).2

/-- The fallback is for an unreachable service unless a response body of `null`, which counts
as a refusal, completes three of them. -/
theorem fallbackWhenUnreachable_iff (http : List HttpOutcome) :
    FallbackWhenUnreachable http ↔
      (http.length = networkInterfaceRequestMaxTime → (∀ x ∈ http, Refused x) →
        ∀ body, .response 200 body ∉ http) := by
  apply Iff.intro
  · intro h hl hall body hm
    exact h.unreachable hl hall _ hm rfl
  · intro h layout candidateSorter sorter sSuffix low low' o o' index res hrun _ hm he
    obtain ⟨hl, hall⟩ := obtainDnsInfo_machine hrun hm
    rw [he] at hl hall
    apply And.intro hl
    intro x hx
    cases x with
    | failed => exact trivial
    | response statusCode body =>
      intro hc
      rw [hc] at hx
      exact h hl hall body hx

theorem not_fallbackWhenUnreachable_null : ¬FallbackWhenUnreachable
    [.response 200 (.ok .null), .response 200 (.ok .null), .response 200 (.ok .null)] := by
  intro h
  have hall : ∀ x ∈ [HttpOutcome.response 200 (.ok .null), .response 200 (.ok .null),
      .response 200 (.ok .null)], Refused x := by
    intro x hx
    simp only [List.mem_cons, List.not_mem_nil, or_false, or_self] at hx
    rw [hx]
    exact .inr rfl
  exact h.unreachable rfl hall _ List.mem_cons_self rfl

end Fallback

end LdnsSelector
