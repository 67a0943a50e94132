import Mathlib.Logic.Function.Basic
import LdnsSelector.ServerChoice
import LdnsSelector.Platform

set_option autoImplicit true

namespace LdnsSelector

open Prog

/-- The pair of servers of every adapter, by its WMI index. -/
abbrev Configuration := UInt32 → WString × WString

/-- A successful switch sets the addressed adapter and nothing else changes one. -/
def Configuration.step (cfg : Configuration) : Event Services → Configuration
  | ⟨.switchAdapterDns id dns1 dns2, res⟩ =>
    if res = .success then Function.update cfg (loword id) (dns1, dns2) else cfg
  | _ => cfg

def Configuration.after (cfg : Configuration) (tr : List (Event Services)) : Configuration :=
  tr.foldl Configuration.step cfg

def FellBack (tr : List (Event Services)) (id : UInt32) : Prop :=
  ∃ m pre info vec post, Refusals networkInterfaceRequestMaxTime ∅ m pre ∧ id = info.id ∧
    tr = pre ++ listed .success (info :: vec) ::
      switched id defaultDns1 defaultDns2 .success :: post

def isSwitch : Event Services → Bool
  | ⟨.switchAdapterDns _ _ _, _⟩ => true
  | _ => false

def Quiet (tr : List (Event Services)) : Prop :=
  ∀ ev ∈ tr, isSwitch ev = false

/-- The first half switches nothing, fails to, or makes the one switch of the fallback. -/
inductive ObtainEffect : List (Event Services) → Except Result DnsMap → Prop where
  | quiet (h : Quiet tr) : ObtainEffect tr r
  | refused (h : Quiet pre) (hr : res ≠ .success) :
      ObtainEffect (pre ++ [switched i defaultDns1 defaultDns2 res]) (.error res)
  | set (h : Quiet pre) (h' : Quiet post)
      (hf : FellBack (pre ++ switched i defaultDns1 defaultDns2 .success :: post) i) :
      ObtainEffect (pre ++ switched i defaultDns1 defaultDns2 .success :: post) r

def Chosen (vec : List Candidate) (info : AdapterInfo) (dns1 dns2 : WString) : Prop :=
  ∃ s, selectDns vec = .ok (dns1, s) ∧ dns2 = secondDns info dns1 s

section Effects

variable {cfg : Configuration} {id : UInt32}

theorem Quiet.nil : Quiet [] := by
  intro ev hm
  cases hm

theorem Quiet.append (h : Quiet tr) (h' : Quiet tr') : Quiet (tr ++ tr') := by
  intro ev hm
  rcases List.mem_append.1 hm with hm | hm
  · exact h ev hm
  · exact h' ev hm

theorem Quiet.one {ev : Event Services} (h : isSwitch ev = false) : Quiet [ev] := by
  intro ev' hm
  rw [List.mem_singleton.1 hm]
  exact h

theorem Quiet.listed (res : Result) (vec : List AdapterInfo) : Quiet [listed res vec] :=
  .one rfl

theorem Quiet.fetched (m : DnsMap) (res : Result) (m' : DnsMap) : Quiet [fetched m res m'] :=
  .one rfl

theorem Quiet.pings (os : List (WString × Option UInt32)) : Quiet (os.map pinged) := by
  intro ev hm
  obtain ⟨e, _, rfl⟩ := List.mem_map.1 hm
  rfl

theorem Quiet.refusals (h : Refusals n m m' tr) : Quiet tr := by
  induction h with
  | nil m => exact .nil
  | cons m h ih => exact (Quiet.fetched ∅ _ _).append ih

theorem after_append : cfg.after (tr ++ tr') = (cfg.after tr).after tr' := List.foldl_append

theorem Quiet.countP (h : Quiet tr) : tr.countP isSwitch = 0 :=
  List.countP_eq_zero.2 fun ev hm => by rw [h ev hm]; exact Bool.false_ne_true

theorem Quiet.after (h : Quiet tr) : cfg.after tr = cfg := by
  induction tr with
  | nil => rfl
  | cons ev tr ih =>
    have hev := h ev List.mem_cons_self
    have hstep : cfg.step ev = cfg := by
      obtain ⟨c, x⟩ := ev
      cases c with
      | switchAdapterDns _ _ _ => cases hev
      | _ => rfl
    change (cfg.step ev).after tr = cfg
    rw [hstep]
    exact ih fun ev' hm => h ev' (List.mem_cons_of_mem _ hm)

theorem after_switch (hpre : Quiet pre) (hpost : Quiet post) :
    cfg.after (pre ++ switched id dns1 dns2 res :: post) =
      if res = .success then Function.update cfg (loword id) (dns1, dns2) else cfg := by
  rw [after_append, hpre.after]
  exact hpost.after

theorem FellBack.append (h : FellBack tr id) (tr' : List (Event Services)) :
    FellBack (tr ++ tr') id := by
  obtain ⟨m, pre, info, vec, post, hr, he, rfl⟩ := h
  refine ⟨m, pre, info, vec, post ++ tr', hr, he, ?_⟩
  rw [List.append_assoc, List.cons_append, List.cons_append]

theorem FallbackRun.effect (hr : Refusals networkInterfaceRequestMaxTime ∅ m pre)
    (hf : FallbackRun m tr o) (h : o.1 ≠ .success → r = .error o.1) :
    ObtainEffect (pre ++ tr) r := by
  have hpre := Quiet.refusals hr
  cases hf with
  | unlisted hs => exact .quiet (hpre.append (.listed _ _))
  | noAdapter => exact .quiet (hpre.append (.listed _ _))
  | @unswitched res info vec hs =>
    have he := h hs
    subst he
    rw [← List.singleton_append, ← List.append_assoc]
    exact .refused (hpre.append (.listed _ _)) hs
  | @refetched info vec res m' =>
    have hset : FellBack (pre ++ [listed .success (info :: vec),
        switched info.id defaultDns1 defaultDns2 .success, fetched m res m']) info.id :=
      ⟨m, pre, info, vec, [fetched m res m'], hr, rfl, rfl⟩
    rw [← List.singleton_append, ← List.append_assoc] at hset ⊢
    exact .set (hpre.append (.listed _ _)) (.fetched _ _ _) hset

theorem ObtainRun.effect (h : ObtainRun tr r) : ObtainEffect tr r := by
  cases h with
  | accepted h hk => exact .quiet ((Quiet.refusals h).append (.fetched _ _ _))
  | rejected h hk hs hh => exact .quiet ((Quiet.refusals h).append (.fetched _ _ _))
  | fellBack h hf => exact hf.effect h fun hs => absurd rfl hs
  | failed h hf hr => exact hf.effect h fun _ => rfl

theorem ObtainRun.error_ne (h : ObtainRun tr (.error res)) : res ≠ .success := by
  cases h with
  | rejected h hk hs hh => exact hs
  | failed h hf hr => exact hr

theorem ObtainEffect.after (h : ObtainEffect tr r) :
    cfg.after tr = cfg ∨ ∃ id, FellBack tr id ∧
      cfg.after tr = Function.update cfg (loword id) (defaultDns1, defaultDns2) := by
  cases h with
  | quiet h => exact .inl h.after
  | refused h hr =>
    rw [after_switch h .nil, if_neg hr]
    exact .inl rfl
  | @set pre post i r h h' hf =>
    refine .inr ⟨i, hf, ?_⟩
    rw [after_switch h h', if_pos rfl]

theorem countP_quiet_around {ev : Event Services} (hpre : Quiet pre) (hpost : Quiet post) :
    (pre ++ ev :: post).countP isSwitch ≤ 1 := by
  rw [List.countP_append, hpre.countP, List.countP_cons, hpost.countP]
  split
  · omega
  · omega

theorem ObtainEffect.countP (h : ObtainEffect tr r) : tr.countP isSwitch ≤ 1 := by
  cases h with
  | quiet h =>
    rw [h.countP]
    exact Nat.zero_le 1
  | refused h hr => exact countP_quiet_around h .nil
  | set h h' hf => exact countP_quiet_around h h'

theorem switched_mem_cases (hpre : Quiet pre) (hpost : Quiet post)
    (hm : switched id dns1 dns2 res ∈ pre ++ ev :: post) : switched id dns1 dns2 res = ev := by
  rcases List.mem_append.1 hm with hm | hm
  · exact absurd (hpre _ hm) Bool.noConfusion
  · rcases List.mem_cons.1 hm with he | hm
    · exact he
    · exact absurd (hpost _ hm) Bool.noConfusion

theorem FellBack.mem (h : FellBack tr id) :
    switched id defaultDns1 defaultDns2 .success ∈ tr := by
  obtain ⟨m, pre, info, vec, post, _, rfl, rfl⟩ := h
  exact List.mem_append_right _ (List.mem_cons_of_mem _ List.mem_cons_self)

theorem ObtainEffect.after_fellBack (h : ObtainEffect tr r) (hf : FellBack tr id) :
    cfg.after tr (loword id) = (defaultDns1, defaultDns2) := by
  cases h with
  | quiet h => exact absurd (h _ hf.mem) Bool.noConfusion
  | refused h hr =>
    cases switched_mem_cases h .nil hf.mem
    exact absurd rfl hr
  | set h h' _ =>
    cases switched_mem_cases h h' hf.mem
    rw [after_switch h h', if_pos rfl, Function.update_self]

theorem ObtainEffect.switched_mem (h : ObtainEffect tr (.ok m))
    (hm : switched id dns1 dns2 res ∈ tr) :
    FellBack tr id ∧ dns1 = defaultDns1 ∧ dns2 = defaultDns2 ∧ res = .success := by
  cases h with
  | quiet h => exact absurd (h _ hm) Bool.noConfusion
  | set h h' hf =>
    cases switched_mem_cases h h' hm
    exact ⟨hf, rfl, rfl, rfl⟩

theorem FinalRun.effect (h : FinalRun vec rest res) :
    Quiet rest ∧ res ≠ .success ∨
      ∃ info vec' dns1 s, selectDns vec = .ok (dns1, s) ∧
        rest = [listed .success (info :: vec'),
          switched info.id dns1 (secondDns info dns1 s) res] := by
  cases h with
  | noValidDns h =>
    rw [selectDns_error h]
    exact .inl ⟨.nil, Result.noConfusion⟩
  | chosen h hs =>
    cases hs with
    | unlisted hr => exact .inl ⟨.listed _ _, hr⟩
    | noAdapter => exact .inl ⟨.listed _ _, Result.noConfusion⟩
    | switched => exact .inr ⟨_, _, _, _, h, rfl⟩

theorem FinalRun.after_failure (h : FinalRun vec rest res) (hr : res ≠ .success) :
    cfg.after rest = cfg := by
  rcases h.effect with ⟨hq, _⟩ | ⟨info, vec', dns1, s, _, rfl⟩
  · exact hq.after
  · have he : cfg.after ([listed .success (info :: vec')] ++
        [switched info.id dns1 (secondDns info dns1 s) res]) = _ :=
      after_switch (.listed _ _) .nil
    rw [if_neg hr] at he
    exact he

/-- A run that does not succeed leaves every adapter alone, except the one that the
public-DNS fallback has set. -/
theorem autoSelectDns_failure (h : Runs (autoSelectDns layout sorter) tr (.ok res))
    (hr : res ≠ .success) (cfg : Configuration) :
    cfg.after tr = cfg ∨ ∃ id, FellBack tr id ∧
      cfg.after tr = Function.update cfg (loword id) (defaultDns1, defaultDns2) := by
  obtain ⟨_, he, hrun⟩ := autoSelectDns_runs h
  cases he
  cases hrun with
  | unobtained h' => exact h'.effect.after
  | @obtained tr m rest _ os h' hos hf =>
    rw [after_append, hf.after_failure hr, after_append, (Quiet.pings os).after]
    rcases h'.effect.after with ha | ⟨id, hb, ha⟩
    · exact .inl ha
    · rw [List.append_assoc]
      exact .inr ⟨id, hb.append _, ha⟩

theorem autoSelectDns_selection (h : Runs (autoSelectDns layout sorter) tr (.ok .success)) :
    ∃ (m : DnsMap) (os : PingOutcomes layout m) (pre rest : List (Event Services)),
      tr = pre ++ (os.outcomes.map pinged ++ rest) ∧
      SelectionRun layout sorter os pre rest (.ok .success) := by
  obtain ⟨r, pre, post, rfl, h₁, h₂⟩ := Runs.bind_ok h
  obtain ⟨_, he, hrun⟩ := obtainDnsInfo_runs h₁
  cases he
  cases r with
  | error res =>
    obtain ⟨_, he⟩ := runs_ret_iff.1 h₂
    cases he
    exact absurd rfl hrun.error_ne
  | ok m =>
    obtain ⟨os, rest, res, hos, rfl, _, _⟩ := switchToBestDns_runs_iff.1 h₂
    exact ⟨m, ⟨os, hos⟩, pre, rest, rfl, h₁, h⟩

/-- A run that succeeds sets the pair chosen from its pings on the first adapter of its last
list, and before that at most the default pair on the adapter of the fallback, the first of an
earlier list. -/
theorem autoSelectDns_success (h : Runs (autoSelectDns layout sorter) tr (.ok .success)) :
    ∃ (m : DnsMap) (os : PingOutcomes layout m) (pre : List (Event Services))
      (info : AdapterInfo) (vec : List AdapterInfo) (dns1 dns2 : WString),
      Runs obtainDnsInfo pre (.ok (.ok m)) ∧
      tr = pre ++ (os.outcomes.map pinged ++
        [listed .success (info :: vec), switched info.id dns1 dns2 .success]) ∧
      Chosen (sorter.sort (candidates os.outcomes)) info dns1 dns2 ∧
      pre.countP isSwitch ≤ 1 ∧
      (∀ id dns1' dns2' res, switched id dns1' dns2' res ∈ pre →
        FellBack pre id ∧ dns1' = defaultDns1 ∧ dns2' = defaultDns2 ∧ res = .success) ∧
      (∀ cfg : Configuration, cfg.after tr (loword info.id) = (dns1, dns2) ∧
        (∀ id, FellBack pre id → loword id ≠ loword info.id →
          cfg.after tr (loword id) = (defaultDns1, defaultDns2)) ∧
        ∀ k, k ≠ loword info.id → (∀ id, FellBack pre id → k ≠ loword id) →
          cfg.after tr k = cfg k) ∧
      ((∀ id, FellBack pre id → id = info.id) →
        ∀ id dns1' dns2' res, switched id dns1' dns2' res ∈ tr → id = info.id) := by
  obtain ⟨m, os, pre, rest, rfl, hsel⟩ := autoSelectDns_selection h
  obtain ⟨_, he, hf⟩ := hsel.final
  cases he
  obtain ⟨_, he, hrun⟩ := obtainDnsInfo_runs hsel.obtained
  cases he
  rcases hf.effect with ⟨_, hne⟩ | ⟨info, vec, dns1, s, hchosen, rfl⟩
  · exact absurd rfl hne
  · have hafter (cfg : Configuration) :
        cfg.after (pre ++ (os.outcomes.map pinged ++ [listed .success (info :: vec),
          switched info.id dns1 (secondDns info dns1 s) .success])) =
        Function.update (cfg.after pre) (loword info.id) (dns1, secondDns info dns1 s) := by
      rw [after_append, after_append, (Quiet.pings os.outcomes).after]
      rfl
    refine ⟨m, os, pre, info, vec, dns1, secondDns info dns1 s, hsel.obtained, rfl,
      ⟨s, hchosen, rfl⟩, hrun.effect.countP, fun _ _ _ _ hm => hrun.effect.switched_mem hm,
      fun cfg => ⟨?_, ?_, ?_⟩, ?_⟩
    · rw [hafter, Function.update_self]
    · intro id hb hne
      rw [hafter, Function.update_of_ne hne, hrun.effect.after_fellBack hb]
    · intro k hk hfell
      rw [hafter, Function.update_of_ne hk]
      rcases hrun.effect.after with ha | ⟨id, hb, ha⟩
      · rw [ha]
      · rw [ha, Function.update_of_ne (hfell id hb)]
    · intro hsame id dns1' dns2' res hm
      rcases List.mem_append.1 hm with hm | hm
      · exact hsame id (hrun.effect.switched_mem hm).1
      · rcases List.mem_append.1 hm with hm | hm
        · exact absurd (Quiet.pings os.outcomes _ hm) Bool.noConfusion
        · cases switched_mem_cases (.listed .success (info :: vec)) .nil hm
          rfl

end Effects

section Examples

def ethernet (id : UInt32) : AdapterInfo :=
  ⟨id, wide "Ethernet", wide "00-00-00-00-00-00", false, wide "192.0.2.1", [], 0, 0⟩

def refusal : Event Services := fetched ∅ .networkInterfaceHttpRequestFail ∅

def strandedRun : List (Event Services) :=
  [refusal, refusal, refusal, listed .success [ethernet 1],
    switched 1 defaultDns1 defaultDns2 .success, refusal]

theorem strandedRun_runs : Runs (autoSelectDns .stored (.insertion _)) strandedRun
    (.ok .networkInterfaceHttpRequestFail) :=
  runs_of_replay rfl

theorem not_failure_harmless : ¬∀ layout sorter tr res (cfg : Configuration),
    Runs (autoSelectDns layout sorter) tr (.ok res) → res ≠ .success → cfg.after tr = cfg := by
  intro h
  have he := h _ _ _ _ (fun _ => ([], [])) strandedRun_runs (by decide)
  exact absurd (congrFun he 1) (by decide)

theorem autoSelectDns_failure_stranded :
    Configuration.after (fun _ => ([], [])) strandedRun = (fun _ => ([], [])) ∨
      ∃ id, FellBack strandedRun id ∧ Configuration.after (fun _ => ([], [])) strandedRun =
        Function.update (fun _ => ([], [])) (loword id) (defaultDns1, defaultDns2) :=
  autoSelectDns_failure strandedRun_runs (by decide) _

def obtainedByFallback : List (Event Services) :=
  [refusal, refusal, refusal, listed .success [ethernet 1, ethernet 2],
    switched 1 defaultDns1 defaultDns2 .success, fetched ∅ .success loneVip]

def lonePing : List (WString × Option UInt32) := [(wide "203.0.113.1", some 20)]

def switchingTo (info : AdapterInfo) (vec : List AdapterInfo) : List (Event Services) :=
  [listed .success (info :: vec),
    switched info.id (wide "203.0.113.1") (wide "192.0.2.1") .success]

/-- Between the fallback and the end another adapter has become the busiest. -/
def driftingRun : List (Event Services) :=
  obtainedByFallback ++ (lonePing.map pinged ++ switchingTo (ethernet 2) [ethernet 1])

theorem driftingRun_runs :
    Runs (autoSelectDns .stored (.insertion _)) driftingRun (.ok .success) :=
  runs_of_replay rfl

def steadyRun : List (Event Services) :=
  obtainedByFallback ++ (lonePing.map pinged ++ switchingTo (ethernet 1) [ethernet 2])

theorem steadyRun_runs :
    Runs (autoSelectDns .stored (.insertion _)) steadyRun (.ok .success) :=
  runs_of_replay rfl

theorem not_success_one_adapter : ¬∀ layout sorter tr,
    Runs (autoSelectDns layout sorter) tr (.ok .success) →
      ∃ i, ∀ id dns1 dns2 res, switched id dns1 dns2 res ∈ tr → id = i := by
  intro h
  obtain ⟨i, hi⟩ := h _ _ _ driftingRun_runs
  have h₁ : 1 = i :=
    hi 1 defaultDns1 defaultDns2 .success (by simp [driftingRun, obtainedByFallback])
  have h₂ : 2 = i := hi 2 (wide "203.0.113.1") (wide "192.0.2.1") .success
    (by simp [driftingRun, switchingTo, ethernet])
  exact absurd (h₁.trans h₂.symm) (by decide)

theorem obtainedByFallback_split {os : PingOutcomes .stored m}
    (h : Runs obtainDnsInfo pre (.ok (.ok m)))
    (he : obtainedByFallback ++ (lonePing.map pinged ++ rest) =
      pre ++ (os.outcomes.map pinged ++ rest')) :
    pre = obtainedByFallback ∧ os.outcomes = lonePing ∧ rest' = rest := by
  have hobt : Runs obtainDnsInfo obtainedByFallback (.ok (.ok loneVip)) := runs_of_replay rfl
  obtain ⟨rfl, hm⟩ := hobt.prefix_unique h he
  cases hm
  have hasked : lonePing.map Prod.fst = listedVips .stored loneVip := by decide
  obtain ⟨hos, hrest⟩ :=
    pinged_append_cancel (List.append_cancel_left he) (hasked.trans os.asked.symm)
  exact ⟨rfl, hos.symm, hrest.symm⟩

theorem fellBack_obtainedByFallback : FellBack obtainedByFallback 1 :=
  ⟨∅, [refusal, refusal, refusal], ethernet 1, [ethernet 2], [fetched ∅ .success loneVip],
    .cons ∅ (.cons ∅ (.cons ∅ (.nil ∅))), rfl, rfl⟩

theorem FellBack.eq_one {id : UInt32} (h : FellBack obtainedByFallback id) : id = 1 := by
  simpa [obtainedByFallback, refusal] using h.mem

theorem autoSelectDns_success_drifting :
    Chosen ((StdSort.insertion Candidate.key).sort (candidates lonePing)) (ethernet 2)
      (wide "203.0.113.1") (wide "192.0.2.1") ∧
    obtainedByFallback.countP isSwitch ≤ 1 ∧
    (∀ id dns1 dns2 res, switched id dns1 dns2 res ∈ obtainedByFallback →
      FellBack obtainedByFallback id ∧ dns1 = defaultDns1 ∧ dns2 = defaultDns2 ∧
        res = .success) ∧
    (∀ cfg : Configuration,
      cfg.after driftingRun 2 = (wide "203.0.113.1", wide "192.0.2.1") ∧
      cfg.after driftingRun 1 = (defaultDns1, defaultDns2) ∧
      ∀ k, k ≠ 2 → k ≠ 1 → cfg.after driftingRun k = cfg k) ∧
    ∀ id dns1 dns2 res, switched id dns1 dns2 res ∈ steadyRun → id = 1 := by
  obtain ⟨m, os, pre, info, vec, dns1, dns2, hpre, he, hchosen, hcount, hswitched, hafter, _⟩ :=
    autoSelectDns_success driftingRun_runs
  obtain ⟨rfl, hos, hrest⟩ := obtainedByFallback_split hpre he
  cases hrest
  rw [hos] at hchosen
  refine ⟨hchosen, hcount, hswitched, fun cfg => ?_, ?_⟩
  · obtain ⟨hset, hfell, hleft⟩ := hafter cfg
    refine ⟨hset, hfell 1 fellBack_obtainedByFallback (by decide), ?_⟩
    intro k h₂ h₁
    apply hleft k h₂
    intro id hb
    rw [hb.eq_one]
    exact h₁
  · obtain ⟨m, os, pre, info, vec, dns1, dns2, hpre, he, _, _, _, _, hsame⟩ :=
      autoSelectDns_success steadyRun_runs
    obtain ⟨rfl, _, hrest⟩ := obtainedByFallback_split hpre he
    cases hrest
    exact hsame fun id hb => hb.eq_one

end Examples

end LdnsSelector
