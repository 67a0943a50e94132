import LdnsSelector.QueryRuns
import LdnsSelector.Refinement
import LdnsSelector.ReplyCounting

set_option autoImplicit true

open Prog

namespace LdnsSelector

def SendOutcome.shown : SendOutcome → QueryResult
  | .failed => .failed
  | .silent => .silent
  | .answered time => .answered time.ms

/-- The counter does not run backwards, and no reply takes weeks. -/
structure Punctual (tr : List (Event Winsock)) : Prop where
  sorted : (readings tr).Pairwise (· ≤ ·)
  short : ∀ waiting, .answered waiting ∈ shownIn tr → waiting < 2 ^ 32

theorem Punctual.append (h : Punctual (tr ++ tr')) : Punctual tr ∧ Punctual tr' := by
  have hs := h.sorted
  have ht := h.short
  rw [readings_append, List.pairwise_append] at hs
  simp only [shownIn_append, List.mem_append] at ht
  exact ⟨⟨hs.1, fun w hw => ht w (.inl hw)⟩, ⟨hs.2.1, fun w hw => ht w (.inr hw)⟩⟩

/-- A run over the sockets is taken for the queries whose outcomes it shows. -/
def queriesShown : Abstraction Network Winsock where
  admits := Punctual
  relates tr low := tr.map (fun ev => SendOutcome.shown ev.2) = shownIn low
  admits_append := Punctual.append
  nil := rfl
  append h h' := by rw [List.map_append, shownIn_append, h, h']

section Steps

variable {cfg : ConfigurationTable}

theorem markTime_eq (cfg : ConfigurationTable) (time : WaitTime) :
    cfg.markTime time.ms = cfg.received (.answered time) := by
  rw [ConfigurationTable.markTime, ConfigurationTable.received]
  dsimp only
  by_cases hz : cfg.statisticsMaxTime = 0
  · simp only [hz, if_true, true_or]
  by_cases hmin : time.ms < cfg.statisticsMinTime
  · simp [hz, hmin, not_le.2 hmin]
  by_cases hmax : cfg.statisticsMaxTime < time.ms
  · simp [hz, hmin, hmax, not_lt.1 hmin]
  · simp [hz, hmin, hmax]

theorem sendProcess_outcome
    (h : Runs (Winsock.sendProcess rounds cfg target lastSend) tr (.ok (code, cfg')))
    (ht : Punctual tr) : ∃ outcome : SendOutcome, shownIn tr = [outcome.shown] ∧
      (code = .failure ↔ outcome = .failed) ∧ cfg' = cfg.received outcome := by
  obtain ⟨shown, hs, hc, rfl⟩ := sendProcess_shown h
  cases shown with
  | failed => exact ⟨.failed, hs, hc.trans (iff_of_true rfl rfl), rfl⟩
  | silent => exact ⟨.silent, hs, hc.trans (iff_of_false nofun nofun), rfl⟩
  | answered waiting =>
    have hsuccess : code = .success := by
      cases code with
      | success => rfl
      | failure => cases hc.1 rfl
    subst hsuccess
    have hmem : QueryResult.answered waiting ∈ shownIn tr := by
      rw [hs]
      exact List.mem_singleton_self _
    have hnonneg := answered_nonneg h ht.sorted hmem
    refine ⟨.answered ⟨waiting, hnonneg, ht.short waiting hmem⟩, hs, iff_of_false nofun nofun, ?_⟩
    exact markTime_eq cfg ⟨waiting, hnonneg, ht.short waiting hmem⟩

/-- A query over the sockets refines a query, and goes on as it does. -/
theorem sendProcess_refines (cfg : ConfigurationTable) (target : SockAddr) (lastSend : Bool) :
    Refines queriesShown
      (fun x outcome => (x.1 = .failure ↔ outcome = .failed) ∧ x.2 = cfg.received outcome)
      (Winsock.sendProcess rounds cfg target lastSend) (sendProcess cfg lastSend) := by
  intro low x hr ht
  obtain ⟨outcome, hs, hc, he⟩ := sendProcess_outcome hr ht
  have hq : Runs (sendProcess cfg lastSend) [⟨⟨cfg, lastSend⟩, outcome⟩] (.ok outcome) :=
    runs_call_iff.2 ⟨outcome, [], rfl, .ret outcome⟩
  exact ⟨_, outcome, hq, hs.symm, hc, he⟩

end Steps

abbrev Matches (p : Exchange α) (q : Pinging α) : Prop := Refines queriesShown (· = ·) p q

theorem sendTimes_refines (rounds n : Nat) (cfg : ConfigurationTable) :
    Matches (Winsock.sendTimes rounds n cfg) (sendTimes n cfg) := by
  induction n generalizing cfg with
  | zero => exact .ret rfl
  | succ n ih =>
    apply (sendProcess_refines cfg.counted cfg.sockAddrNormal (n = 0)).bind
    rintro ⟨code, _⟩ outcome ⟨hc, rfl⟩
    apply Refines.ite hc
    · exact fun _ => .ret rfl
    · exact fun _ => ih _

theorem sendUntilFull_refines (rounds fuel : Nat) (cfg : ConfigurationTable) :
    Matches (Winsock.sendUntilFull rounds fuel cfg) (sendUntilFull cfg) := by
  induction fuel generalizing cfg with
  | zero =>
    rw [Winsock.sendUntilFull, sendUntilFull]
    split
    · exact .crash _
    · exact .ret rfl
  | succ fuel ih =>
    rw [Winsock.sendUntilFull, sendUntilFull]
    split
    · apply (sendProcess_refines cfg.counted cfg.sockAddrNormal false).bind
      rintro ⟨code, _⟩ outcome ⟨hc, rfl⟩
      apply Refines.ite hc
      · exact fun _ => .ret rfl
      · exact fun _ => ih _
    · exact .ret rfl

theorem finish_refines (cfg : ConfigurationTable) :
    Matches ((printProcess cfg).bind fun _ => (closeOutputFile cfg).bind fun _ =>
      .ret (ExitCode.success, cfg)) (.ret (.success, cfg)) := by
  apply Refines.silent_bind
  · exact fun _ _ h => (printProcess_unshown h).symm
  intro _
  apply Refines.silent_bind
  · exact fun _ _ h => (closeOutputFile_unshown h).symm
  · exact fun _ => .ret rfl

theorem sendRequests_refines (rounds : Nat) (cfg : ConfigurationTable) :
    Matches (Winsock.sendRequests rounds cfg) (sendRequests cfg) := by
  rw [Winsock.sendRequests, sendRequests]
  apply Refines.ite Iff.rfl
  · intro _
    rw [← bind_ret (sendUntilFull cfg)]
    apply (sendUntilFull_refines rounds 0x10000 cfg).bind
    rintro ⟨code, cfg'⟩ _ rfl
    cases code with
    | failure => exact .ret rfl
    | success =>
      apply Refines.silent_bind
      · intro low _ h
        obtain rfl := runs_winsock h
        rfl
      · exact fun _ => finish_refines cfg'
  · intro _
    rw [← bind_ret (sendTimes cfg.statisticsSend.toNat cfg)]
    apply (sendTimes_refines rounds cfg.statisticsSend.toNat cfg).bind
    rintro ⟨code, cfg'⟩ _ rfl
    cases code with
    | failure =>
      apply Refines.silent_bind
      · exact fun _ _ h => (closeOutputFile_unshown h).symm
      · exact fun _ => .ret rfl
    | success => exact finish_refines cfg'

theorem dnspingMain_refines (rounds : Nat) (env : Surroundings) (argv : List WString)
    (cfg : ConfigurationTable) :
    Matches (Winsock.dnspingMain rounds env argv cfg) (dnspingMain env argv cfg) := by
  rw [Winsock.dnspingMain, dnspingMain]
  apply Refines.ite Iff.rfl
  · exact fun _ => .ret rfl
  · intro _
    cases prepare env argv cfg with
    | error e cfg' => exact .ret rfl
    | ok u cfg' => exact sendRequests_refines rounds cfg'

/-- The queries that are shown in a run over the sockets are a run of `dnsping_main` with their
outcomes, and come to the same. -/
theorem dnspingMain_queries (h : Runs (Winsock.dnspingMain rounds env argv cfg) low (.ok x))
    (ht : Punctual low) : ∃ tr, Runs (dnspingMain env argv cfg) tr (.ok x) ∧
      tr.map (fun ev => SendOutcome.shown ev.2) = shownIn low := by
  obtain ⟨tr, _, hr, hshown, rfl⟩ := dnspingMain_refines rounds env argv cfg low x h ht
  exact ⟨tr, hr, hshown⟩

theorem dnspingMain_queries_answered : ∃ x tr,
    Runs (Winsock.dnspingMain 0 plainMachine plainCommand {}) answeredQuery (.ok x) ∧
      Runs (dnspingMain plainMachine plainCommand {}) tr (.ok x) ∧
        tr.map (fun ev => SendOutcome.shown ev.2) = [.answered 20] := by
  have ht : Punctual answeredQuery := by
    refine ⟨by decide, fun waiting hw => ?_⟩
    have hs : shownIn answeredQuery = [.answered 20] := rfl
    rw [hs, List.mem_singleton] at hw
    cases hw
    norm_num
  have hr : ∃ x, Runs (Winsock.dnspingMain 0 plainMachine plainCommand {}) answeredQuery (.ok x) :=
    exists_runs_of_replay (by decide +kernel)
  obtain ⟨x, hr⟩ := hr
  obtain ⟨tr, hq, hshown⟩ := dnspingMain_queries hr ht
  exact ⟨x, tr, hr, hq, hshown⟩

end LdnsSelector
