import LdnsSelector.TargetGiven
import Mathlib.Algebra.Order.BigOperators.Group.List
import Mathlib.Algebra.Order.Floor.Ring
import Mathlib.Tactic.Linarith

set_option autoImplicit true

open EStateM Prog

namespace LdnsSelector

/-- What a C string holds of a wide string. -/
def cStr (s : WString) : WString := s.takeWhile (· ≠ 0)

/-- `wcscpy_s` into an array of `size` characters. -/
def wcscpyS (size : Nat) (s : WString) : Pinging WString :=
  if (cStr s).length < size then return cStr s else .crash .invalidParameter

def Fits (s : WString) : Prop := (cStr s).length < 64

instance (s : WString) : Decidable (Fits s) := inferInstanceAs (Decidable (_ < _))

/-- What `Ping` returns, with `t_ms` when it sets it to a number. -/
inductive PingResult where
  | unreachable
  | reachable (tMs : Option UInt32)
  deriving DecidableEq, Repr

/-- The conversion of a floating-point number, undefined outside the range of the type. -/
def unsignedOf (x : ℚ) : Option UInt32 :=
  if -1 < x ∧ x < 2 ^ 32 then some (UInt32.ofNat ⌊x⌋₊) else none

def ConfigurationTable.averageTime (cfg : ConfigurationTable) : Option UInt32 :=
  if cfg.statisticsRecvNum = 0 then none
  else unsignedOf (Binary64.div cfg.statisticsTotalTime cfg.statisticsRecvNum.toNat)

/-- The arguments of a release build. -/
def pingArguments (moduleFileName strUrl strDnsIp : WString) : List WString :=
  [moduleFileName, wide "-qt", wide "A", wide "-n", wide "3", wide "-w", wide "500", strUrl,
    strDnsIp]

/-- `DNSPingInterface::Ping`. -/
def ping (env : Surroundings) (moduleFileName strDnsIp strUrl : WString)
    (cfg : ConfigurationTable) : Pinging (PingResult × ConfigurationTable) := do
  let argv8 ← wcscpyS 64 strUrl
  let argv9 ← wcscpyS 64 strDnsIp
  let (_, cfg) ← dnspingMain env (pingArguments moduleFileName argv8 argv9) cfg
  if 0 < cfg.statisticsRealSend - cfg.statisticsRecvNum then return (.unreachable, cfg)
  else return (.reachable cfg.averageTime, cfg)

section Statistics

def SendOutcome.time? : SendOutcome → Option WaitTime
  | .failed => none
  | .silent => none
  | .answered time => some time

def answers (tr : List (Event Network)) : List ℚ :=
  tr.filterMap fun ev => (SendOutcome.time? ev.2).map WaitTime.ms

def ConfigurationTable.after (cfg : ConfigurationTable) (tr : List (Event Network)) :
    ConfigurationTable :=
  tr.foldl (fun cfg ev => cfg.counted.received ev.2) cfg

theorem realSend_after (cfg : ConfigurationTable) (tr : List (Event Network)) :
    (cfg.after tr).statisticsRealSend = cfg.statisticsRealSend + UInt32.ofNat tr.length := by
  induction tr generalizing cfg with
  | nil => simp [ConfigurationTable.after]
  | cons ev tr ih =>
    change ((cfg.counted.received ev.2).after tr).statisticsRealSend = _
    rw [ih, ConfigurationTable.received_realSend, List.length_cons, Nat.add_comm,
      UInt32.ofNat_add, ← UInt32.add_assoc]
    rfl

theorem recvNum_after (cfg : ConfigurationTable) (tr : List (Event Network)) :
    (cfg.after tr).statisticsRecvNum =
      cfg.statisticsRecvNum + UInt32.ofNat (answers tr).length := by
  induction tr generalizing cfg with
  | nil => simp [ConfigurationTable.after, answers]
  | cons ev tr ih =>
    obtain ⟨query, outcome⟩ := ev
    change ((cfg.counted.received outcome).after tr).statisticsRecvNum = _
    rw [ih]
    cases outcome with
    | failed => rfl
    | silent => rfl
    | answered time =>
      change cfg.statisticsRecvNum + 1 + _ = cfg.statisticsRecvNum +
        UInt32.ofNat ((answers tr).length + 1)
      rw [Nat.add_comm, UInt32.ofNat_add, ← UInt32.add_assoc]
      rfl

theorem totalTime_after (cfg : ConfigurationTable) (tr : List (Event Network)) :
    (cfg.after tr).statisticsTotalTime =
      (answers tr).foldl Binary64.add cfg.statisticsTotalTime := by
  induction tr generalizing cfg with
  | nil => simp [ConfigurationTable.after, answers]
  | cons ev tr ih =>
    obtain ⟨query, outcome⟩ := ev
    change ((cfg.counted.received outcome).after tr).statisticsTotalTime = _
    rw [ih]
    cases outcome with
    | failed => rfl
    | silent => rfl
    | answered time => rfl

theorem answers_length_le (tr : List (Event Network)) :
    (answers tr).length ≤ tr.length :=
  List.length_filterMap_le _ _

theorem answers_length_eq_iff (tr : List (Event Network)) :
    (answers tr).length = tr.length ↔ ∀ ev ∈ tr, ∃ time, ev.2 = .answered time := by
  rw [answers]
  rw [List.filterMap_length_eq_length]
  apply forall₂_congr
  intro ev _
  obtain ⟨query, outcome⟩ := ev
  cases outcome <;> simp [SendOutcome.time?]

theorem mem_answers (h : x ∈ answers tr) : 0 ≤ x ∧ x < 2 ^ 32 := by
  obtain ⟨ev, _, he⟩ := List.mem_filterMap.1 h
  obtain ⟨time, _, rfl⟩ := Option.map_eq_some_iff.1 he
  exact ⟨time.nonneg, time.lt⟩

theorem mean_answers_mem (hne : answers tr ≠ []) (hl : (answers tr).length < 2 ^ 32)
    (hle : ∀ x ∈ answers tr, x ≤ 2 ^ 31) :
    0 ≤ Binary64.mean (answers tr) ∧ Binary64.mean (answers tr) < 2 ^ 32 := by
  apply And.intro
  · exact Binary64.mean_nonneg fun x hx => (mem_answers hx).1
  · have hmean : Binary64.mean (answers tr) ≤ 2 ^ (31 : ℤ) :=
      Binary64.mean_le hne (fun x hx => ⟨(mem_answers hx).1, hle x hx⟩) (hl.trans (by norm_num))
    exact hmean.trans_lt (by norm_num)

end Statistics

section Loops

/-- The run of a loop over queries: it returns with every query entered in the statistics, and
every query goes to the target the loop began with. -/
def Sent (cfg : ConfigurationTable) (tr : List (Event Network))
    (o : Except Abort (ExitCode × ConfigurationTable)) : Prop :=
  (∃ code, o = .ok (code, cfg.after tr)) ∧ ∀ ev ∈ tr, ev.1.configuration.target = cfg.target

theorem Sent.nil (code : ExitCode) : Sent cfg [] (.ok (code, cfg)) :=
  ⟨⟨code, rfl⟩, fun _ hev => absurd hev List.not_mem_nil⟩

theorem received_target (cfg : ConfigurationTable) (outcome : SendOutcome) :
    (cfg.counted.received outcome).target = cfg.target := by
  cases outcome <;> rfl

theorem Sent.cons (outcome : SendOutcome) (h : Sent (cfg.counted.received outcome) tr o) :
    Sent cfg (⟨⟨cfg.counted, lastSend⟩, outcome⟩ :: tr) o := by
  obtain ⟨⟨code, ho⟩, ht⟩ := h
  apply And.intro ⟨code, ho⟩
  intro ev hev
  rcases List.mem_cons.1 hev with rfl | hev
  · rfl
  · rw [ht ev hev, received_target]

theorem sendTimes_runs (h : Runs (sendTimes n cfg) tr o) :
    Sent cfg tr o ∧ tr.length ≤ n ∧ (0 < n → tr ≠ []) := by
  induction n generalizing cfg tr with
  | zero =>
    obtain ⟨rfl, rfl⟩ := runs_ret_iff.1 h
    exact ⟨.nil _, le_rfl, fun hn => absurd hn (lt_irrefl 0)⟩
  | succ n ih =>
    obtain ⟨outcome, tr, rfl, hr⟩ := runs_perform_iff.1 h
    by_cases hf : outcome = .failed
    · rw [if_pos hf] at hr
      obtain ⟨rfl, rfl⟩ := runs_ret_iff.1 hr
      exact ⟨.cons outcome (.nil _), by simp, fun _ => List.cons_ne_nil _ _⟩
    · rw [if_neg hf] at hr
      obtain ⟨hs, hl, _⟩ := ih hr
      exact ⟨.cons outcome hs, Nat.succ_le_succ hl, fun _ => List.cons_ne_nil _ _⟩

theorem sendUntilFull_runs (h : Runs (sendUntilFull cfg) tr o) :
    Sent cfg tr o ∧ tr.length ≤ 0x10000 - cfg.statisticsRealSend.toNat ∧
      (cfg.statisticsRealSend ≤ 0xFFFF → tr ≠ []) := by
  induction cfg using sendUntilFull.induct generalizing tr with
  | case1 cfg hc ih =>
    rw [sendUntilFull, dif_pos hc] at h
    obtain ⟨outcome, tr, rfl, hr⟩ := runs_perform_iff.1 h
    have hn := realSend_counted hc
    have hle : cfg.statisticsRealSend.toNat ≤ 65535 := UInt32.le_iff_toNat_le.1 hc
    by_cases hf : outcome = .failed
    · rw [if_pos hf] at hr
      obtain ⟨rfl, rfl⟩ := runs_ret_iff.1 hr
      refine ⟨.cons outcome (.nil _), ?_, fun _ => List.cons_ne_nil _ _⟩
      simp only [List.length_cons, List.length_nil]
      omega
    · rw [if_neg hf] at hr
      obtain ⟨hs, hl, _⟩ := ih outcome hr
      refine ⟨.cons outcome hs, ?_, fun _ => List.cons_ne_nil _ _⟩
      simp only [ConfigurationTable.received_realSend, ConfigurationTable.counted] at hl
      simp only [List.length_cons]
      omega
  | case2 cfg hc =>
    rw [sendUntilFull, dif_neg hc] at h
    obtain ⟨rfl, rfl⟩ := runs_ret_iff.1 h
    exact ⟨.nil _, Nat.zero_le _, fun hc' => absurd hc' hc⟩

theorem sendRequests_runs (hc : cfg.tally = (0, 0, 0)) (h : Runs (sendRequests cfg) tr o) :
    Sent cfg tr o ∧ tr.length < 2 ^ 32 ∧ tr ≠ [] := by
  have hr : cfg.statisticsRealSend = 0 := congrArg Prod.fst hc
  rw [sendRequests] at h
  split at h
  · obtain ⟨hs, hl, hne⟩ := sendUntilFull_runs h
    refine ⟨hs, ?_, hne ?_⟩
    · omega
    · rw [hr]
      decide
  · next hn =>
    obtain ⟨hs, hl, hne⟩ := sendTimes_runs h
    have hlt := cfg.statisticsSend.toNat_lt
    refine ⟨hs, by omega, hne ?_⟩
    apply Nat.pos_of_ne_zero
    intro hz
    exact hn (UInt32.toNat_inj.1 hz)

end Loops

section Verdict

/-- The verdict of a run of `Ping`: the call returned, and when it says the address answers,
at least one query was sent to it, every query was answered, and the time is the mean in doubles,
a number unless a reply took weeks. -/
def SoundVerdict (env : Surroundings) (strDnsIp : WString) (tr : List (Event Network))
    (o : Except Abort (PingResult × ConfigurationTable)) : Prop :=
  ∃ res cfg, o = .ok (res, cfg) ∧ ∀ tMs, res = .reachable tMs →
    tr ≠ [] ∧
    (∀ ev ∈ tr, Denotes env (cStr strDnsIp) ev.1.configuration.target ∧
      ∃ time, ev.2 = .answered time) ∧
    tMs = unsignedOf (Binary64.mean (answers tr)) ∧
    ((∀ x ∈ answers tr, x ≤ 2 ^ 31) →
      ∃ t : UInt32, tMs = some t ∧ t.toNat = ⌊Binary64.mean (answers tr)⌋₊)

/-- The preparation ends with a target of its own, rather than early or with nothing but a
proxy to send to. -/
def ReachesTarget (env : Surroundings) (moduleFileName strDnsIp strUrl : WString)
    (cfg : ConfigurationTable) : Prop :=
  match prepare env (pingArguments moduleFileName (cStr strUrl) (cStr strDnsIp)) cfg with
  | .ok _ cfg' => cfg'.sockAddrNormal.ssFamily ≠ 0
  | .error _ _ => False

theorem pingArguments_last (moduleFileName strUrl strDnsIp : WString) :
    ∀ x ∈ (pingArguments moduleFileName strUrl strDnsIp).tail.getLast?, x = strDnsIp := by
  intro x hx
  exact (Option.some.inj hx).symm

theorem prepare_cases (env : Surroundings) (moduleFileName strDnsIp strUrl : WString)
    (cfg : ConfigurationTable) :
    (∃ e cfg', prepare env (pingArguments moduleFileName (cStr strUrl) (cStr strDnsIp)) cfg =
      .error e cfg' ∧ cfg'.tally = (0, 0, 0)) ∨
    ∃ cfg', prepare env (pingArguments moduleFileName (cStr strUrl) (cStr strDnsIp)) cfg =
      .ok () cfg' ∧ cfg'.tally = (0, 0, 0) ∧
        (cfg'.target.1 = 0 ∨ Denotes env (cStr strDnsIp) cfg'.target) := by
  have ha := prepare_aims env (pingArguments_last moduleFileName (cStr strUrl) (cStr strDnsIp)) cfg
  rw [Ensures] at ha
  cases hp : prepare env (pingArguments moduleFileName (cStr strUrl) (cStr strDnsIp)) cfg with
  | error e cfg' =>
    rw [hp] at ha
    exact .inl ⟨e, cfg', rfl, ha⟩
  | ok _ cfg' =>
    rw [hp] at ha
    exact .inr ⟨cfg', rfl, ha⟩

def verdictOf (cfg : ConfigurationTable) : PingResult :=
  if 0 < cfg.statisticsRealSend - cfg.statisticsRecvNum then .unreachable
  else .reachable cfg.averageTime

theorem ping_overlong (h : ¬(Fits strDnsIp ∧ Fits strUrl)) :
    Runs (ping env moduleFileName strDnsIp strUrl cfg) [] (.error .invalidParameter) := by
  simp only [ping, wcscpyS]
  by_cases hurl : (cStr strUrl).length < 64
  · have hip : ¬(cStr strDnsIp).length < 64 := fun hip => h ⟨hip, hurl⟩
    rw [if_pos hurl, if_neg hip]
    exact .crash _
  · rw [if_neg hurl]
    exact .crash _

theorem ping_eq (hip : Fits strDnsIp) (hurl : Fits strUrl) :
    ping env moduleFileName strDnsIp strUrl cfg =
      (dnspingMain env (pingArguments moduleFileName (cStr strUrl) (cStr strDnsIp)) cfg).bind
        fun x => .ret (verdictOf x.2, x.2) := by
  rw [Fits] at hip hurl
  simp only [ping, wcscpyS]
  rw [if_pos hip, if_pos hurl]
  simp only [pure_eq, bind_eq, ret_bind]
  congr
  funext x
  rw [verdictOf]
  split <;> rfl

theorem ping_unprepared (hip : Fits strDnsIp) (hurl : Fits strUrl)
    (hp : prepare env (pingArguments moduleFileName (cStr strUrl) (cStr strDnsIp)) cfg =
      .error e cfg') :
    ping env moduleFileName strDnsIp strUrl cfg = .ret (verdictOf cfg', cfg') := by
  rw [ping_eq hip hurl]
  rw [dnspingMain]
  rw [if_neg (by simp [pingArguments]), hp]
  rfl

theorem ping_prepared (hip : Fits strDnsIp) (hurl : Fits strUrl)
    (hp : prepare env (pingArguments moduleFileName (cStr strUrl) (cStr strDnsIp)) cfg =
      .ok u cfg') (hc : cfg'.tally = (0, 0, 0))
    (h : Runs (ping env moduleFileName strDnsIp strUrl cfg) tr o) :
    o = .ok (verdictOf (cfg'.after tr), cfg'.after tr) ∧
      (∀ ev ∈ tr, ev.1.configuration.target = cfg'.target) ∧ tr.length < 2 ^ 32 ∧ tr ≠ [] := by
  rw [ping_eq hip hurl] at h
  rw [dnspingMain] at h
  rw [if_neg (by simp [pingArguments]), hp] at h
  rcases h.bind_inv with ⟨e, _, hs⟩ | ⟨x, tr₁, tr₂, rfl, hs, hr⟩
  · obtain ⟨⟨⟨code, ho⟩, _⟩, _⟩ := sendRequests_runs hc hs
    cases ho
  · obtain ⟨⟨⟨code, ho⟩, ht⟩, hl, hne⟩ := sendRequests_runs hc hs
    obtain ⟨rfl, rfl⟩ := runs_ret_iff.1 hr
    cases ho
    rw [List.append_nil]
    exact ⟨rfl, ht, hl, hne⟩

theorem sub_pos_iff_ne (a b : UInt32) : 0 < a - b ↔ a ≠ b := by
  rw [UInt32.lt_iff_toNat_lt, UInt32.toNat_sub, ne_eq, ← UInt32.toNat_inj]
  have ha := a.toNat_lt
  have hb := b.toNat_lt
  change 0 < _ ↔ _
  omega

theorem unsignedOf_eq (h : 0 ≤ x ∧ x < 2 ^ 32) :
    ∃ t : UInt32, unsignedOf x = some t ∧ t.toNat = ⌊x⌋₊ := by
  have hx : -1 < x := by linarith
  have hlt : ⌊x⌋₊ < 2 ^ 32 := by
    rw [Nat.floor_lt h.1]
    exact_mod_cast h.2
  exact ⟨UInt32.ofNat ⌊x⌋₊, if_pos ⟨hx, h.2⟩, UInt32.toNat_ofNat_of_lt' hlt⟩

theorem tally_eq_zero_iff (cfg : ConfigurationTable) :
    cfg.tally = (0, 0, 0) ↔ cfg.statisticsRealSend = 0 ∧ cfg.statisticsRecvNum = 0 ∧
      cfg.statisticsTotalTime = 0 := by
  simp only [ConfigurationTable.tally, Prod.mk.injEq]

theorem verdictOf_reachable (h : verdictOf cfg = .reachable tMs) :
    cfg.statisticsRealSend = cfg.statisticsRecvNum ∧ tMs = cfg.averageTime := by
  rw [verdictOf] at h
  split at h
  · cases h
  · next hn =>
    rw [sub_pos_iff_ne, not_not] at hn
    injection h with h
    exact ⟨hn, h.symm⟩

theorem averageTime_after {cfg : ConfigurationTable} (hc : cfg.tally = (0, 0, 0))
    (hl : (answers tr).length < 2 ^ 32) (hne : answers tr ≠ []) :
    (cfg.after tr).averageTime = unsignedOf (Binary64.mean (answers tr)) := by
  obtain ⟨_, hrecv, htotal⟩ := (tally_eq_zero_iff cfg).1 hc
  have hnum : (UInt32.ofNat (answers tr).length).toNat = (answers tr).length :=
    UInt32.toNat_ofNat_of_lt' hl
  have hz : UInt32.ofNat (answers tr).length ≠ 0 := by
    intro hz
    rw [hz] at hnum
    exact hne (List.length_eq_zero_iff.1 hnum.symm)
  rw [ConfigurationTable.averageTime]
  rw [recvNum_after, hrecv, UInt32.zero_add, if_neg hz, totalTime_after, htotal, hnum]
  rfl

theorem verdictOf_after {cfg : ConfigurationTable} (hc : cfg.tally = (0, 0, 0))
    (hl : tr.length < 2 ^ 32) (hv : verdictOf (cfg.after tr) = .reachable tMs) :
    (∀ ev ∈ tr, ∃ time, ev.2 = .answered time) ∧
      (tr ≠ [] → tMs = unsignedOf (Binary64.mean (answers tr)) ∧
        ((∀ x ∈ answers tr, x ≤ 2 ^ 31) →
          ∃ t : UInt32, tMs = some t ∧ t.toNat = ⌊Binary64.mean (answers tr)⌋₊)) := by
  obtain ⟨hsend, hrecv, _⟩ := (tally_eq_zero_iff cfg).1 hc
  obtain ⟨hn, rfl⟩ := verdictOf_reachable hv
  have hla : (answers tr).length < 2 ^ 32 := (answers_length_le tr).trans_lt hl
  have heq : (answers tr).length = tr.length := by
    rw [realSend_after, recvNum_after, hsend, hrecv] at hn
    have h := congrArg UInt32.toNat hn
    rw [UInt32.zero_add, UInt32.zero_add, UInt32.toNat_ofNat_of_lt' hl,
      UInt32.toNat_ofNat_of_lt' hla] at h
    exact h.symm
  apply And.intro ((answers_length_eq_iff tr).1 heq)
  intro hne
  have hanswers : answers tr ≠ [] := by
    intro ha
    rw [ha] at heq
    exact hne (List.length_eq_zero_iff.1 heq.symm)
  rw [averageTime_after hc hla hanswers]
  exact ⟨rfl, fun hle => unsignedOf_eq (mean_answers_mem hanswers hla hle)⟩

theorem verdictOf_answered {cfg : ConfigurationTable} (hc : cfg.tally = (0, 0, 0))
    (h : ∀ ev ∈ tr, ∃ time, ev.2 = SendOutcome.answered time) :
    verdictOf (cfg.after tr) = .reachable (cfg.after tr).averageTime := by
  obtain ⟨hsend, hrecv, _⟩ := (tally_eq_zero_iff cfg).1 hc
  have hn : (cfg.after tr).statisticsRealSend = (cfg.after tr).statisticsRecvNum := by
    rw [realSend_after, recvNum_after, hsend, hrecv, (answers_length_eq_iff tr).2 h]
  rw [verdictOf]
  rw [if_neg]
  rw [sub_pos_iff_ne]
  exact fun hne => hne hn

theorem verdictOf_unsent (hc : cfg.tally = (0, 0, 0)) : verdictOf cfg = .reachable none := by
  obtain ⟨hsend, hrecv, _⟩ := (tally_eq_zero_iff cfg).1 hc
  rw [verdictOf, ConfigurationTable.averageTime]
  rw [hsend, hrecv, if_neg (by decide), if_pos rfl]

end Verdict

def PingSound (env : Surroundings) (moduleFileName strDnsIp strUrl : WString)
    (cfg : ConfigurationTable) : Prop :=
  ∀ tr o, Runs (ping env moduleFileName strDnsIp strUrl cfg) tr o →
    SoundVerdict env strDnsIp tr o

section Sound

variable {env : Surroundings} {moduleFileName strDnsIp strUrl : WString}
  {cfg : ConfigurationTable}

theorem PingSound.fits (h : PingSound env moduleFileName strDnsIp strUrl cfg) :
    Fits strDnsIp ∧ Fits strUrl := by
  by_contra hf
  obtain ⟨res, cfg', ho, _⟩ := h _ _ (ping_overlong hf)
  cases ho

/-- In the run in which every query is answered at once, the verdict is that the address
answers: there has to be a target. -/
theorem PingSound.reachesTarget (h : PingSound env moduleFileName strDnsIp strUrl cfg) :
    ReachesTarget env moduleFileName strDnsIp strUrl cfg := by
  obtain ⟨hip, hurl⟩ := h.fits
  rw [ReachesTarget]
  rcases prepare_cases env moduleFileName strDnsIp strUrl cfg with
    ⟨e, cfg', hp, hc⟩ | ⟨cfg', hp, hc, _⟩
  · have hr := h [] (.ok (verdictOf cfg', cfg')) (by
      rw [ping_unprepared hip hurl hp]
      exact .ret _)
    obtain ⟨res, cfg'', ho, hs⟩ := hr
    cases ho
    exact ((hs none (verdictOf_unsent hc)).1 rfl).elim
  · rw [hp]
    intro hz
    obtain ⟨tr, o, hr, hall⟩ := runs_total (ping env moduleFileName strDnsIp strUrl cfg)
      fun _ => .answered ⟨0, le_rfl, by norm_num⟩
    obtain ⟨rfl, htarget, _, hne⟩ := ping_prepared hip hurl hp hc hr
    have hv := verdictOf_answered hc fun ev hev => ⟨_, hall ev hev⟩
    obtain ⟨res, cfg'', ho, hs⟩ := h tr _ hr
    cases ho
    obtain ⟨ev, hev⟩ := List.exists_mem_of_ne_nil tr hne
    have hd := ((hs _ hv).2.1 ev hev).1
    rw [htarget ev hev] at hd
    exact hd.family_ne_zero hz

theorem pingSound_of_reachesTarget (hip : Fits strDnsIp) (hurl : Fits strUrl)
    (ht : ReachesTarget env moduleFileName strDnsIp strUrl cfg) :
    PingSound env moduleFileName strDnsIp strUrl cfg := by
  intro tr o h
  rw [ReachesTarget] at ht
  rcases prepare_cases env moduleFileName strDnsIp strUrl cfg with
    ⟨e, cfg', hp, _⟩ | ⟨cfg', hp, hc, hd⟩
  · rw [hp] at ht
    exact ht.elim
  · rw [hp] at ht
    obtain ⟨ho, htarget, hl, hne⟩ := ping_prepared hip hurl hp hc h
    apply Exists.intro (verdictOf (cfg'.after tr))
    apply Exists.intro (cfg'.after tr)
    apply And.intro ho
    intro tMs hv
    obtain ⟨hanswered, htime⟩ := verdictOf_after hc hl hv
    apply And.intro hne
    apply And.intro _ (htime hne)
    intro ev hev
    apply And.intro _ (hanswered ev hev)
    rw [htarget ev hev]
    exact hd.resolve_left ht

theorem reachesTarget_iff : ReachesTarget env moduleFileName strDnsIp strUrl cfg ↔
    TargetGiven env (cStr strDnsIp) (cStr strUrl) cfg := by
  rw [← returns_prepare_iff moduleFileName, ReachesTarget, pingArguments, Returns, Ensures]
  cases prepare env [moduleFileName, wide "-qt", wide "A", wide "-n", wide "3", wide "-w",
    wide "500", cStr strUrl, cStr strDnsIp] cfg with
  | ok _ cfg' => rfl
  | error e cfg' => rfl

/-- The verdict is sound exactly when the strings fit and the arguments give a target. -/
theorem pingSound_iff :
    PingSound env moduleFileName strDnsIp strUrl cfg ↔
      Fits strDnsIp ∧ Fits strUrl ∧ TargetGiven env (cStr strDnsIp) (cStr strUrl) cfg := by
  rw [← reachesTarget_iff]
  apply Iff.intro
  · intro h
    exact ⟨h.fits.1, h.fits.2, h.reachesTarget⟩
  · intro h
    exact pingSound_of_reachesTarget h.1 h.2.1 h.2.2

end Sound

def dnsPingUrl : WString := wide "www.qq.com"

/-- `dns_ping::ping`. An undefined conversion leaves some time or other. -/
def dnsPing (env : Surroundings) (moduleFileName : WString) (undefinedTime : UInt32)
    (strDnsIp : WString) (cfg : ConfigurationTable) :
    Pinging (Option UInt32 × ConfigurationTable) := do
  let (res, cfg) ← ping env moduleFileName strDnsIp dnsPingUrl cfg
  match res with
  | .unreachable => return (none, cfg)
  | .reachable tMs => return (some (tMs.getD undefinedTime), cfg)

theorem fits_dnsPingUrl : Fits dnsPingUrl := by decide

theorem dnsPing_time (hip : Fits strDnsIp)
    (ht : TargetGiven env (cStr strDnsIp) (cStr dnsPingUrl) cfg)
    (h : Runs (dnsPing env moduleFileName undefinedTime strDnsIp cfg) tr (.ok (some t, cfg'))) :
    (∀ ev ∈ tr, ∃ time, ev.2 = SendOutcome.answered time) ∧
      t = (unsignedOf (Binary64.mean (answers tr))).getD undefinedTime := by
  obtain ⟨⟨res, cfg''⟩, tr₁, tr₂, rfl, hp, hr⟩ := Runs.bind_ok h
  obtain ⟨res', cfg₁, ho, hs⟩ := pingSound_iff.2 ⟨hip, fits_dnsPingUrl, ht⟩ tr₁ _ hp
  cases ho
  cases res with
  | unreachable =>
    obtain ⟨_, ho⟩ := runs_ret_iff.1 hr
    cases ho
  | reachable tMs =>
    obtain ⟨rfl, ho⟩ := runs_ret_iff.1 hr
    obtain ⟨_, hanswered, rfl, _⟩ := hs tMs rfl
    cases ho
    rw [List.append_nil]
    exact ⟨fun ev hev => (hanswered ev hev).2, rfl⟩

/-- An address to which nothing could be sent is given a time all the same. -/
theorem dnsPing_unprepared (hip : Fits strDnsIp)
    (hp : prepare env (pingArguments moduleFileName (cStr dnsPingUrl) (cStr strDnsIp)) cfg =
      .error e cfg')
    (h : Runs (dnsPing env moduleFileName undefinedTime strDnsIp cfg) tr o) :
    tr = [] ∧ o = .ok (some undefinedTime, cfg') := by
  rcases prepare_cases env moduleFileName strDnsIp dnsPingUrl cfg with
    ⟨e', cfg'', hp', hc⟩ | ⟨cfg'', hp', _⟩
  · cases hp.symm.trans hp'
    rw [dnsPing, ping_unprepared hip fits_dnsPingUrl hp, verdictOf_unsent hc] at h
    exact runs_ret_iff.1 h
  · cases hp.symm.trans hp'

def plainMachine : Surroundings where
  setConsoleCtrlHandler := true
  wsaStartup := true
  isLowerThanWin8 := false
  wideCharToMultiByte s := s.map fun c => c.toUInt8
  getaddrinfo _ _ := none
  addressStringToBinary _ _ := some [10, 0, 0, 1]
  wsaAddressToString _ := []
  dnsTypeNameToHex s := if s = wide "A" then htons dnsRecordA else 0
  dnsClassesNameToHex _ := 0
  serviceNameToPort _ := 0
  internetProtocolNameToPort _ := 0
  readSocksTarget _ _ := .error "\nParameter [-socks target] error.\n"
  openOutputFile _ := true

example : ReachesTarget plainMachine (wide "dns_selector.exe") (wide "10.0.0.1") dnsPingUrl {} :=
  (by decide : afInet ≠ 0)

/-- The empty address is refused before anything is sent, and counts as answering. -/
theorem not_pingSound_empty :
    ¬PingSound plainMachine (wide "dns_selector.exe") [] dnsPingUrl {} :=
  fun h => h.reachesTarget

end LdnsSelector
