import LdnsSelector.LastResponse
import LdnsSelector.ServerOptimality

set_option autoImplicit true

namespace LdnsSelector

open Prog

structure Settings where
  dhcp : Bool
  dns : WString × WString

abbrev AdapterSettings := UInt32 → Settings

namespace AdapterSettings

def step (cfg : AdapterSettings) : Event Platform → AdapterSettings
  | ⟨.setDnsServerSearchOrder index dns1 dns2, res⟩ =>
    if res = .success then Function.update cfg index { cfg index with dns := (dns1, dns2) }
    else cfg
  | _ => cfg

def after (cfg : AdapterSettings) (low : List (Event Platform)) : AdapterSettings :=
  low.foldl step cfg

/-- An enumeration lists adapters as they are configured. -/
def Shows (cfg : AdapterSettings) : Event Platform → Prop
  | ⟨.wmiAdapterList, answer⟩ => answer.1 = .success →
    ∀ r ∈ answer.2, cfg r.index = ⟨r.dhcp, (r.strDns1, r.strDns2)⟩
  | _ => True

/-- Nothing but the events of the run changes the adapters. -/
def Holds : AdapterSettings → List (Event Platform) → Prop
  | _, [] => True
  | cfg, ev :: low => cfg.Shows ev ∧ (cfg.step ev).Holds low

end AdapterSettings

/-- The run ends by setting the pair on the first adapter of its last list, the one of the
record `r`. -/
def SetsLast (sorter : StdSort AdapterInfo.key) (low pre : List (Event Platform))
    (r : WmiAdapterInfo) (dns1 dns2 : WString) : Prop :=
  ∃ recs counters, r ∈ recs ∧
    (sorter.sort (recs.map (adapterInfoOf counters))).head? = some (adapterInfoOf counters r) ∧
    low = pre ++ [enumerated .success recs, measured .success counters,
      dnsSet (loword r.index) dns1 dns2 .success]

/-- The server of a pair that can stand behind `dns1`, the first one if it is another. -/
def spareOf (pair : WString × WString) (dns1 : WString) : WString :=
  if pair.1 ≠ dns1 then pair.1 else pair.2

section Settings

variable {cfg : AdapterSettings} {low low' : List (Event Platform)} {index : UInt32}

namespace AdapterSettings

theorem Holds.append_inv (h : cfg.Holds (low ++ low')) : (cfg.after low).Holds low' := by
  induction low generalizing cfg with
  | nil => exact h
  | cons ev low ih => exact ih h.2

theorem step_dnsSet (cfg : AdapterSettings) (index : UInt32) (dns1 dns2 : WString) :
    cfg.step (dnsSet index dns1 dns2 .success) index =
      { cfg index with dns := (dns1, dns2) } := by
  rw [step, if_pos rfl, Function.update_self]

theorem step_other {ev : Event Platform} (h : ∀ dns1 dns2, ev ≠ dnsSet index dns1 dns2 .success)
    (cfg : AdapterSettings) : cfg.step ev index = cfg index := by
  obtain ⟨c, x⟩ := ev
  cases c with
  | setDnsServerSearchOrder i dns1 dns2 =>
    rw [step]
    by_cases hx : x = .success
    · subst hx
      have hi : index ≠ i := by
        intro he
        subst he
        exact h dns1 dns2 rfl
      rw [if_pos rfl, Function.update_of_ne hi]
    · rw [if_neg hx]
  | _ => rfl

theorem after_dhcp (cfg : AdapterSettings) (low : List (Event Platform)) (index : UInt32) :
    (cfg.after low index).dhcp = (cfg index).dhcp := by
  induction low generalizing cfg with
  | nil => rfl
  | cons ev low ih =>
    apply (ih (cfg.step ev)).trans
    by_cases he : ∃ dns1 dns2, ev = dnsSet index dns1 dns2 .success
    · obtain ⟨dns1, dns2, rfl⟩ := he
      rw [step_dnsSet]
    · rw [step_other fun dns1 dns2 heq => he ⟨dns1, dns2, heq⟩]

theorem after_unset (h : ∀ dns1 dns2, dnsSet index dns1 dns2 .success ∉ low)
    (cfg : AdapterSettings) : cfg.after low index = cfg index := by
  induction low generalizing cfg with
  | nil => rfl
  | cons ev low ih =>
    have hrest := ih (fun dns1 dns2 hm => h dns1 dns2 (List.mem_cons_of_mem _ hm)) (cfg.step ev)
    apply hrest.trans
    apply step_other
    intro dns1 dns2 he
    exact h dns1 dns2 (he ▸ List.mem_cons_self)

theorem after_set (h : ∀ dns1 dns2, dnsSet index dns1 dns2 .success ∈ low → (dns1, dns2) = pair)
    (hm : dnsSet index pair.1 pair.2 .success ∈ low) (cfg : AdapterSettings) :
    cfg.after low index = { cfg index with dns := pair } := by
  induction low generalizing cfg with
  | nil => cases hm
  | cons ev low ih =>
    change (cfg.step ev).after low index = _
    by_cases hlow : dnsSet index pair.1 pair.2 .success ∈ low
    · rw [ih (fun dns1 dns2 hm => h dns1 dns2 (List.mem_cons_of_mem _ hm)) hlow]
      by_cases he : ∃ dns1 dns2, ev = dnsSet index dns1 dns2 .success
      · obtain ⟨dns1, dns2, rfl⟩ := he
        rw [step_dnsSet]
      · rw [step_other fun dns1 dns2 heq => he ⟨dns1, dns2, heq⟩]
    · obtain rfl := (List.mem_cons.1 hm).resolve_right hlow
      rw [after_unset, step_dnsSet]
      intro dns1 dns2 hm'
      have heq := h dns1 dns2 (List.mem_cons_of_mem _ hm')
      subst heq
      exact hlow hm'

end AdapterSettings

end Settings

/-- What a successful run does: obtain the list by the events `low`, ping, select and set. -/
structure Switches (sorter : StdSort AdapterInfo.key) (csorter : StdSort Candidate.key)
    (low : List (Event Platform)) (os : List (WString × Option UInt32))
    (recs : List WmiAdapterInfo) (counters : List AdapterPerformanceCounter) (info : AdapterInfo)
    (dns1 next : WString) : Prop where
  unpinged : pingAnswers low = []
  fallback : ∀ index dns1 dns2, dnsSet index dns1 dns2 .success ∈ low →
    index < 65536 ∧ (dns1, dns2) = (defaultDns1, defaultDns2)
  selected : selectDns (csorter.sort (candidates os)) = .ok (dns1, next)
  first : (sorter.sort (recs.map (adapterInfoOf counters))).head? = some info
  given : secondDns info dns1 next ≠ []

section Runs

variable {sorter : StdSort AdapterInfo.key} {csorter : StdSort Candidate.key} {layout : Layout}
  {cfg : AdapterSettings} {tr : List (Event Services)} {low pre : List (Event Platform)}
  {s s' : UInt32}

theorem ObtainRun.sets (h : ObtainRun tr (.ok m)) (hs : Served (serve sorter) tr s low s')
    (hm : dnsSet index dns1 dns2 .success ∈ low) :
    index < 65536 ∧ (dns1, dns2) = (defaultDns1, defaultDns2) := by
  obtain ⟨c, x, htr, hask⟩ := Served.asked hs hm
  obtain ⟨id, rfl, rfl⟩ := hask.askedBy
  obtain ⟨_, h₁, h₂, _⟩ := h.effect.switched_mem htr
  rw [h₁, h₂]
  exact ⟨loword_lt id, rfl⟩

theorem autoSelectDns_switches
    (h : Runs (onMachine sorter (autoSelectDns layout csorter) s) low (.ok (.success, s'))) :
    ∃ low₁ os recs counters info dns1 next,
      Switches sorter csorter low₁ os recs counters info dns1 next ∧
      low = (low₁ ++ os.map answered) ++ [enumerated .success recs, measured .success counters,
        dnsSet (loword info.id) dns1 (secondDns info dns1 next) .success] := by
  rcases autoSelectDns_halves h with
    ⟨_, hne⟩ | ⟨m, s₁, tr, low₁, low₂, rfl, hquiet, hobtain, hs, h₂⟩
  · exact absurd rfl (hne s')
  · obtain ⟨os, rest, rfl, _, _, tr', s₂, hs', hf⟩ := switchToBestDns_machine h₂
    rcases hf.effect with ⟨_, hne⟩ | ⟨info, vec, dns1, next, hsel, rfl⟩
    · exact absurd rfl hne
    · obtain ⟨low₃, low₄, s₃, rfl, h₃, h₄⟩ := Served.cons_inv hs'
      obtain ⟨rfl, recs, counters, rfl, hvec⟩ := serve_listed h₃
      obtain ⟨low₅, low₆, s₄, rfl, h₅, h₆⟩ := Served.cons_inv h₄
      cases h₆
      obtain ⟨_, ho, hset⟩ := serve_switch_iff.1 h₅
      cases ho
      cases hset with
      | set _ hne =>
        refine ⟨low₁, os, recs, counters, info, dns1, next, ⟨hquiet, ?_, hsel, ?_, hne⟩, ?_⟩
        · exact fun _ _ _ hm => hobtain.sets hs hm
        · rw [← hvec]
          rfl
        · rw [List.append_assoc]
          rfl

/-- Every successful run ends by setting a pair on the first adapter of its last list. -/
theorem autoSelectDns_setsLast
    (h : Runs (onMachine sorter (autoSelectDns layout csorter) s) low (.ok (.success, s'))) :
    ∃ pre r dns1 dns2, SetsLast sorter low pre r dns1 dns2 := by
  obtain ⟨low₁, os, recs, counters, info, dns1, next, hsw, rfl⟩ := autoSelectDns_switches h
  have hinfo : info ∈ recs.map (adapterInfoOf counters) := by
    rw [← (sorter.ranking _).mem_iff]
    exact List.mem_of_mem_head? hsw.first
  obtain ⟨r, hr, rfl⟩ := List.mem_map.1 hinfo
  have hid : loword r.index = loword (adapterInfoOf counters r).id :=
    (loword_makelong r.index r.interfaceIndex).symm
  refine ⟨low₁ ++ os.map answered, r, dns1, secondDns (adapterInfoOf counters r) dns1 next, recs,
    counters, hr, hsw.first, ?_⟩
  rw [hid]

theorem backupDns_eq_spareOf {info : AdapterInfo} (hd : info.dhcp = false)
    (h : backupDns info dns1 ≠ []) :
    backupDns info dns1 = spareOf (info.strDns1, info.strDns2) dns1 := by
  rw [backupDns_static hd] at h ⊢
  rw [spareOf]
  by_cases h₁ : info.strDns1 ≠ dns1
  · rw [if_pos h₁, if_pos h₁]
  · rw [if_neg h₁] at h
    rw [if_neg h₁, if_neg h₁]
    by_cases h₂ : info.strDns2 ≠ dns1
    · exact if_pos h₂
    · exact absurd (if_neg h₂) h

theorem dnsSet_inj {index index' : UInt32} {res res' : Result}
    (h : dnsSet index dns1 dns2 res = dnsSet index' dns1' dns2' res') :
    index = index' ∧ dns1 = dns1' ∧ dns2 = dns2' := by
  cases h
  exact ⟨rfl, rfl, rfl⟩

theorem SetsLast.switches (hl : SetsLast sorter low pre r dns1 dns2)
    (h : Runs (onMachine sorter (autoSelectDns layout csorter) s) low (.ok (.success, s'))) :
    ∃ low₁ os recs counters next,
      Switches sorter csorter low₁ os recs counters (adapterInfoOf counters r) dns1 next ∧
      pre = low₁ ++ os.map answered ∧ pingAnswers low = os ∧
      dns2 = secondDns (adapterInfoOf counters r) dns1 next := by
  obtain ⟨recs, counters, hr, hfirst, hlow⟩ := hl
  obtain ⟨low₁, os, recs', counters', info, dns1', next, hsw, hlow'⟩ := autoSelectDns_switches h
  obtain ⟨rfl, he⟩ := List.append_inj' (hlow.symm.trans hlow') rfl
  obtain ⟨henum, he⟩ := List.cons.inj he
  obtain ⟨hmeas, he⟩ := List.cons.inj he
  obtain ⟨_, rfl, rfl⟩ := dnsSet_inj (List.cons.inj he).1
  cases henum
  cases hmeas
  obtain rfl := Option.some.inj (hsw.first.symm.trans hfirst)
  refine ⟨low₁, os, recs, counters, next, hsw, rfl, ?_, rfl⟩
  rw [hlow, pingAnswers_append, pingAnswers_append, hsw.unpinged, pingAnswers_answered]
  exact List.append_nil os

theorem SetsLast.sets (hl : SetsLast sorter low pre r dns1 dns2)
    (h : Runs (onMachine sorter (autoSelectDns layout csorter) s) low (.ok (.success, s')))
    (hm : dnsSet index dns1' dns2' .success ∈ pre) :
    index < 65536 ∧ (dns1', dns2') = (defaultDns1, defaultDns2) := by
  obtain ⟨low₁, os, recs, counters, next, hsw, rfl, _, _⟩ := hl.switches h
  rcases List.mem_append.1 hm with hm | hm
  · exact hsw.fallback index dns1' dns2' hm
  · obtain ⟨e, _, he⟩ := List.mem_map.1 hm
    cases he

/-- The first adapter gets the spare of the pair that it has when the last list is read. -/
theorem SetsLast.spare (hl : SetsLast sorter low pre r dns1 dns2)
    (h : Runs (onMachine sorter (autoSelectDns layout csorter) s) low (.ok (.success, s')))
    (hsel : selectDns (csorter.sort (candidates (pingAnswers low))) = .ok (dns1, []))
    (hd : r.dhcp = false) : dns2 = spareOf (r.strDns1, r.strDns2) dns1 := by
  obtain ⟨low₁, os, recs, counters, next, hsw, _, hos, rfl⟩ := hl.switches h
  rw [hos, hsw.selected] at hsel
  cases hsel
  have hgiven := hsw.given
  rw [secondDns, if_pos rfl] at hgiven ⊢
  exact backupDns_eq_spareOf hd hgiven

theorem SetsLast.shown (hl : SetsLast sorter low pre r dns1 dns2) (hcfg : cfg.Holds low) :
    cfg.after pre r.index = ⟨r.dhcp, (r.strDns1, r.strDns2)⟩ := by
  obtain ⟨recs, counters, hr, _, rfl⟩ := hl
  exact hcfg.append_inv.1 rfl r hr

/-- The last setting reaches the adapter exactly when its index is a low word. -/
theorem SetsLast.after (hl : SetsLast sorter low pre r dns1 dns2) (cfg : AdapterSettings) :
    (cfg.after low r.index).dns =
      if r.index < 65536 then (dns1, dns2) else (cfg.after pre r.index).dns := by
  obtain ⟨recs, counters, _, _, rfl⟩ := hl
  have hlast : cfg.after (pre ++ [enumerated .success recs, measured .success counters,
      dnsSet (loword r.index) dns1 dns2 .success]) =
      (cfg.after pre).step (dnsSet (loword r.index) dns1 dns2 .success) :=
    List.foldl_append
  rw [hlast]
  by_cases hi : r.index < 65536
  · rw [if_pos hi, (loword_eq_iff _).2 hi, AdapterSettings.step_dnsSet]
  · rw [if_neg hi, AdapterSettings.step_other]
    intro dns1' dns2' he
    exact hi ((loword_eq_iff _).1 (dnsSet_inj he).1)

/-- The original pair supplies the second server unless the fallback has overwritten it with a
pair that supplies another one. -/
theorem SetsLast.original_iff (hl : SetsLast sorter low pre r dns1 dns2)
    (h : Runs (onMachine sorter (autoSelectDns layout csorter) s) low (.ok (.success, s')))
    (hcfg : cfg.Holds low) (hstatic : cfg r.index = ⟨false, pair⟩)
    (hsel : selectDns (csorter.sort (candidates (pingAnswers low))) = .ok (dns1, [])) :
    dns2 = spareOf pair dns1 ↔ dnsSet r.index defaultDns1 defaultDns2 .success ∉ pre ∨
      spareOf (defaultDns1, defaultDns2) dns1 = spareOf pair dns1 := by
  have hshown := hl.shown hcfg
  have hd : r.dhcp = false := by
    have hdhcp := AdapterSettings.after_dhcp cfg pre r.index
    rw [hshown, hstatic] at hdhcp
    exact hdhcp
  have hspare := hl.spare h hsel hd
  by_cases hm : dnsSet r.index defaultDns1 defaultDns2 .success ∈ pre
  · rw [AdapterSettings.after_set (fun _ _ hm => (hl.sets h hm).2) hm, hstatic] at hshown
    injection hshown with _ hdns
    rw [hspare, ← hdns]
    exact (or_iff_right (not_not_intro hm)).symm
  · rw [AdapterSettings.after_unset ?_, hstatic] at hshown
    · injection hshown with _ hdns
      rw [hspare, ← hdns]
      exact iff_of_true rfl (.inl hm)
    · intro dns1' dns2' hm'
      cases (hl.sets h hm').2
      exact hm hm'

theorem eq_spareOf_iff {pair : WString × WString} :
    pair = (dns1, spareOf pair dns1) ↔ pair.1 = dns1 := by
  obtain ⟨p, s⟩ := pair
  rw [Prod.mk.injEq]
  apply Iff.intro
  · exact And.left
  · intro (he : p = dns1)
    exact ⟨he, (if_neg (not_not_intro he)).symm⟩

/-- In the end the adapter has the selected server and the spare of its original pair exactly
when the setting reaches it and the fallback has not overwritten that pair with one that has
another spare, or when no setting reaches it and its first server was the selected one. -/
theorem original_backup_iff (layout : Layout) (csorter : StdSort Candidate.key)
    (sorter : StdSort AdapterInfo.key) (cfg : AdapterSettings)
    (h : Runs (onMachine sorter (autoSelectDns layout csorter) s) low (.ok (.success, s')))
    (hcfg : cfg.Holds low) (hl : SetsLast sorter low pre r dns1 dns2)
    (hstatic : cfg r.index = ⟨false, pair⟩)
    (hsel : selectDns (csorter.sort (candidates (pingAnswers low))) = .ok (dns1, [])) :
    (cfg.after low r.index).dns = (dns1, spareOf pair dns1) ↔
      (r.index < 65536 ∧ (dnsSet r.index defaultDns1 defaultDns2 .success ∉ pre ∨
        spareOf (defaultDns1, defaultDns2) dns1 = spareOf pair dns1)) ∨
      (65536 ≤ r.index ∧ pair.1 = dns1) := by
  rw [hl.after cfg]
  by_cases hi : r.index < 65536
  · have hreached : ¬(65536 ≤ r.index ∧ pair.1 = dns1) :=
      fun hge => UInt32.not_le.2 hi hge.1
    rw [if_pos hi, or_iff_left hreached, and_iff_right hi,
      ← hl.original_iff h hcfg hstatic hsel, Prod.mk.injEq]
    exact and_iff_right rfl
  · have hunset : ∀ dns1 dns2, dnsSet r.index dns1 dns2 .success ∉ pre :=
      fun _ _ hm => hi (hl.sets h hm).1
    rw [if_neg hi, AdapterSettings.after_unset hunset, hstatic, eq_spareOf_iff,
      or_iff_right fun hlt => hi hlt.1, and_iff_right (UInt32.not_lt.1 hi)]

def overwritingPre : List (Event Platform) :=
  [requested .failed, requested .failed, requested .failed,
    enumerated .success [wiredRecord (wide "192.0.2.1") []], measured .success [],
    dnsSet 1 defaultDns1 defaultDns2 .success, requested (.response 200 (.ok loneRespond)),
    answered (wide "203.0.113.1", some 20)]

def overwritingRun : List (Event Platform) :=
  overwritingPre ++ [enumerated .success [wiredRecord defaultDns1 defaultDns2],
    measured .success [], dnsSet 1 (wide "203.0.113.1") defaultDns1 .success]

theorem overwritingRun_runs :
    Runs (onMachine (.insertion _) (autoSelectDns .stored (.insertion _)) 0) overwritingRun
      (.ok (.success, 0)) :=
  runs_of_replay rfl

def wiredSettings : AdapterSettings := fun _ => ⟨false, (wide "192.0.2.1", [])⟩

theorem overwritingRun_holds : wiredSettings.Holds overwritingRun := by
  simp [overwritingRun, overwritingPre, AdapterSettings.Holds, AdapterSettings.Shows,
    AdapterSettings.step, wiredSettings, wiredRecord]

theorem overwritingRun_setsLast : SetsLast (.insertion _) overwritingRun overwritingPre
    (wiredRecord defaultDns1 defaultDns2) (wide "203.0.113.1") defaultDns1 :=
  ⟨[wiredRecord defaultDns1 defaultDns2], [], List.mem_singleton_self _, rfl, rfl⟩

theorem original_backup_iff_overwriting :
    (wiredSettings.after overwritingRun 1).dns =
        (wide "203.0.113.1", spareOf (wide "192.0.2.1", []) (wide "203.0.113.1")) ↔
      ((1 : UInt32) < 65536 ∧ (dnsSet 1 defaultDns1 defaultDns2 .success ∉ overwritingPre ∨
        spareOf (defaultDns1, defaultDns2) (wide "203.0.113.1") =
          spareOf (wide "192.0.2.1", []) (wide "203.0.113.1"))) ∨
      ((65536 : UInt32) ≤ 1 ∧ wide "192.0.2.1" = wide "203.0.113.1") :=
  original_backup_iff .stored (.insertion _) (.insertion _) wiredSettings overwritingRun_runs
    overwritingRun_holds overwritingRun_setsLast rfl rfl

/-- The server `192.0.2.1` is lost: the backup is a default one. -/
theorem not_original_backup : ¬∀ layout csorter sorter cfg s s' low pre r dns1 dns2 pair,
    Runs (onMachine sorter (autoSelectDns layout csorter) s) low (.ok (.success, s')) →
    AdapterSettings.Holds cfg low → SetsLast sorter low pre r dns1 dns2 →
    cfg r.index = ⟨false, pair⟩ → pair.1 ≠ [] →
    selectDns (csorter.sort (candidates (pingAnswers low))) = .ok (dns1, []) →
    (AdapterSettings.after cfg low r.index).dns = (dns1, spareOf pair dns1) := by
  intro h
  have he := h _ _ _ _ _ _ _ _ _ _ _ _ overwritingRun_runs overwritingRun_holds
    overwritingRun_setsLast rfl (by decide) rfl
  exact absurd he (by decide)

end Runs

end LdnsSelector
