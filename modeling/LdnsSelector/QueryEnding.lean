import LdnsSelector.AcceptedCommands
import LdnsSelector.QueryRuns
import LdnsSelector.ReplyCounting

set_option autoImplicit true

open Prog

namespace LdnsSelector

def ConfigurationTable.tallied (cfg : ConfigurationTable) (shown : List QueryResult) :
    ConfigurationTable :=
  shown.foldl (fun cfg shown => cfg.counted.entered shown) cfg

/-- The statistics of what is shown. The minimum and the maximum leave out the replies that took
no time at all before the first that did, and none are given when one later took no time. -/
def statistics (shown : List QueryResult) : List Line :=
  let sent := shown.length
  let received := (times shown).length
  .packetStatistics (UInt32.ofNat sent) (UInt32.ofNat received) (UInt32.ofNat (sent - received))
      (some (UInt32.ofNat ((sent - received) * 100 / sent))) ::
    match (times shown).dropWhile (· = 0) with
    | [] => []
    | t :: ts =>
      if 0 ∈ t :: ts then []
      else [.timeStatistics (ts.foldl min t) (ts.foldl max t) (Binary64.mean (times shown))]

section Tally

theorem tallied_realSend (cfg : ConfigurationTable) (shown : List QueryResult) :
    (cfg.tallied shown).statisticsRealSend =
      cfg.statisticsRealSend + UInt32.ofNat shown.length := by
  induction shown generalizing cfg with
  | nil => simp [ConfigurationTable.tallied]
  | cons r shown ih =>
    change ((cfg.counted.entered r).tallied shown).statisticsRealSend = _
    rw [ih, entered_realSend, List.length_cons, Nat.add_comm, UInt32.ofNat_add, ← UInt32.add_assoc]
    rfl

theorem markTime_total (cfg : ConfigurationTable) (result : ℚ) :
    (cfg.markTime result).statisticsTotalTime = Binary64.add cfg.statisticsTotalTime result ∧
      (cfg.markTime result).statisticsRecvNum = cfg.statisticsRecvNum + 1 := by
  rw [ConfigurationTable.markTime]
  dsimp only
  split_ifs <;> exact ⟨rfl, rfl⟩

theorem tallied_total (cfg : ConfigurationTable) (shown : List QueryResult) :
    (cfg.tallied shown).statisticsTotalTime =
        (times shown).foldl Binary64.add cfg.statisticsTotalTime ∧
      (cfg.tallied shown).statisticsRecvNum =
        cfg.statisticsRecvNum + UInt32.ofNat (times shown).length := by
  induction shown generalizing cfg with
  | nil => simp [ConfigurationTable.tallied, times]
  | cons r shown ih =>
    obtain ⟨htotal, hnum⟩ := ih (cfg.counted.entered r)
    cases r with
    | failed => exact ⟨htotal, hnum⟩
    | silent => exact ⟨htotal, hnum⟩
    | answered waiting =>
      obtain ⟨ht, hn⟩ := markTime_total cfg.counted waiting
      apply And.intro
      · apply htotal.trans
        change (times shown).foldl Binary64.add
          (cfg.counted.markTime waiting).statisticsTotalTime = _
        rw [ht]
        rfl
      · apply hnum.trans
        change (cfg.counted.markTime waiting).statisticsRecvNum + _ =
          _ + UInt32.ofNat ((times shown).length + 1)
        rw [hn, Nat.add_comm, UInt32.ofNat_add, ← UInt32.add_assoc]
        rfl

theorem markTime_bounds (cfg : ConfigurationTable) (hmax : cfg.statisticsMaxTime ≠ 0)
    (hle : cfg.statisticsMinTime ≤ cfg.statisticsMaxTime) (result : ℚ) :
    (cfg.markTime result).statisticsMinTime = min cfg.statisticsMinTime result ∧
      (cfg.markTime result).statisticsMaxTime = max cfg.statisticsMaxTime result := by
  rw [ConfigurationTable.markTime]
  dsimp only
  rw [if_neg hmax]
  by_cases hlt : result < cfg.statisticsMinTime
  · rw [if_pos hlt, min_eq_right hlt.le, max_eq_left (hlt.le.trans hle)]
    exact ⟨rfl, rfl⟩
  rw [if_neg hlt, min_eq_left (not_lt.1 hlt)]
  by_cases hgt : cfg.statisticsMaxTime < result
  · rw [if_pos hgt, max_eq_right hgt.le]
    exact ⟨rfl, rfl⟩
  · rw [if_neg hgt, max_eq_left (not_lt.1 hgt)]
    exact ⟨rfl, rfl⟩

theorem tallied_bounds (cfg : ConfigurationTable) (hmax : 0 < cfg.statisticsMaxTime)
    (hle : cfg.statisticsMinTime ≤ cfg.statisticsMaxTime) (shown : List QueryResult) :
    (cfg.tallied shown).statisticsMinTime = (times shown).foldl min cfg.statisticsMinTime ∧
      (cfg.tallied shown).statisticsMaxTime =
        (times shown).foldl max cfg.statisticsMaxTime := by
  induction shown generalizing cfg with
  | nil => exact ⟨rfl, rfl⟩
  | cons r shown ih =>
    cases r with
    | failed => exact ih cfg.counted hmax hle
    | silent => exact ih cfg.counted hmax hle
    | answered waiting =>
      have hbounds : (cfg.counted.markTime waiting).statisticsMinTime =
          min cfg.statisticsMinTime waiting ∧ (cfg.counted.markTime waiting).statisticsMaxTime =
            max cfg.statisticsMaxTime waiting := markTime_bounds cfg.counted hmax.ne' hle waiting
      obtain ⟨hmin', hmax'⟩ := hbounds
      have hpos : 0 < (cfg.counted.markTime waiting).statisticsMaxTime := by
        rw [hmax']
        exact lt_max_of_lt_left hmax
      have hle' : (cfg.counted.markTime waiting).statisticsMinTime ≤
          (cfg.counted.markTime waiting).statisticsMaxTime := by
        rw [hmin', hmax']
        exact (min_le_left _ _).trans (hle.trans (le_max_left _ _))
      obtain ⟨h₁, h₂⟩ := ih (cfg.counted.markTime waiting) hpos hle'
      rw [hmin'] at h₁
      rw [hmax'] at h₂
      exact ⟨h₁, h₂⟩

theorem markTime_first (cfg : ConfigurationTable) (hmax : cfg.statisticsMaxTime = 0)
    (result : ℚ) : (cfg.markTime result).statisticsMinTime = result ∧
      (cfg.markTime result).statisticsMaxTime = result := by
  rw [ConfigurationTable.markTime]
  dsimp only
  rw [if_pos hmax]
  exact ⟨rfl, rfl⟩

theorem tallied_slow (cfg : ConfigurationTable) (hmax : cfg.statisticsMaxTime = 0)
    (hnonneg : ∀ t ∈ times shown, 0 ≤ t) :
    match (times shown).dropWhile (· = 0) with
    | [] => (cfg.tallied shown).statisticsMaxTime = 0
    | t :: ts => (cfg.tallied shown).statisticsMinTime = ts.foldl min t ∧
        (cfg.tallied shown).statisticsMaxTime = ts.foldl max t := by
  induction shown generalizing cfg with
  | nil => exact hmax
  | cons r shown ih =>
    cases r with
    | failed => exact ih cfg.counted hmax hnonneg
    | silent => exact ih cfg.counted hmax hnonneg
    | answered waiting =>
      have htimes : times (.answered waiting :: shown) = waiting :: times shown := rfl
      have hstep : cfg.tallied (.answered waiting :: shown) =
          (cfg.counted.markTime waiting).tallied shown := rfl
      rw [htimes] at hnonneg ⊢
      obtain ⟨hw, hrest⟩ := List.forall_mem_cons.1 hnonneg
      have hfirst : (cfg.counted.markTime waiting).statisticsMinTime = waiting ∧
          (cfg.counted.markTime waiting).statisticsMaxTime = waiting :=
        markTime_first cfg.counted hmax waiting
      rw [hstep]
      by_cases hz : waiting = 0
      · rw [List.dropWhile_cons_of_pos (by simpa using hz)]
        exact ih _ (hfirst.2.trans hz) hrest
      · rw [List.dropWhile_cons_of_neg (by simpa using hz)]
        have hpos : 0 < (cfg.counted.markTime waiting).statisticsMaxTime := by
          rw [hfirst.2]
          exact lt_of_le_of_ne hw (Ne.symm hz)
        have hb := tallied_bounds (cfg.counted.markTime waiting) hpos
          (hfirst.1.trans hfirst.2.symm).le shown
        rwa [hfirst.1, hfirst.2] at hb

theorem foldl_min_pos_iff (t : ℚ) (ts : List ℚ) : 0 < ts.foldl min t ↔ ∀ x ∈ t :: ts, 0 < x := by
  induction ts generalizing t with
  | nil => simp
  | cons u ts ih =>
    rw [List.foldl_cons, ih]
    simp only [List.forall_mem_cons, lt_min_iff, and_assoc]

theorem foldl_min_pos_iff_of_nonneg (hnonneg : ∀ x ∈ t :: ts, (0 : ℚ) ≤ x) :
    0 < ts.foldl min t ↔ 0 ∉ t :: ts := by
  rw [foldl_min_pos_iff]
  apply Iff.intro
  · exact fun hall h0 => lt_irrefl _ (hall 0 h0)
  · intro h0 x hx
    exact lt_of_le_of_ne (hnonneg x hx) fun he => h0 (he ▸ hx)

theorem le_foldl_max (t : ℚ) (ts : List ℚ) : t ≤ ts.foldl max t := by
  induction ts generalizing t with
  | nil => exact le_rfl
  | cons u ts ih => exact (le_max_left t u).trans (ih (max t u))

end Tally

section Printing

variable {cfg : ConfigurationTable} {shown : List QueryResult}

theorem toNat_ofNat_of_le (h : n ≤ 0x10000) : (UInt32.ofNat n).toNat = n :=
  UInt32.toNat_ofNat_of_lt' (Nat.lt_of_le_of_lt h (by decide))

theorem times_length_le (shown : List QueryResult) : (times shown).length ≤ shown.length :=
  List.length_filterMap_le _ _

theorem ofNat_sub_ofNat (hle : m ≤ n) (hn : n ≤ 0x10000) :
    UInt32.ofNat n - UInt32.ofNat m = UInt32.ofNat (n - m) := by
  apply UInt32.toNat_inj.1
  rw [UInt32.toNat_sub_of_le, toNat_ofNat_of_le hn, toNat_ofNat_of_le (hle.trans hn),
    toNat_ofNat_of_le ((Nat.sub_le n m).trans hn)]
  rw [UInt32.le_iff_toNat_le, toNat_ofNat_of_le hn, toNat_ofNat_of_le (hle.trans hn)]
  exact hle

theorem percent_eq (hle : m ≤ n) (hn : n ≤ 0x10000) :
    UInt32.ofNat m * 100 / UInt32.ofNat n = UInt32.ofNat (m * 100 / n) := by
  have hm : m ≤ 0x10000 := hle.trans hn
  have hquot : m * 100 / n < UInt32.size := by
    apply Nat.lt_of_le_of_lt (Nat.div_le_self _ _)
    change m * 100 < 4294967296
    omega
  apply UInt32.toNat_inj.1
  rw [UInt32.toNat_div, UInt32.toNat_mul, toNat_ofNat_of_le hm, toNat_ofNat_of_le hn,
    UInt32.toNat_ofNat_of_lt' hquot]
  change m * 100 % 2 ^ 32 / n = m * 100 / n
  rw [Nat.mod_eq_of_lt (by omega)]

theorem printPackets_eq (hsend : cfg.statisticsRealSend = UInt32.ofNat n)
    (hrecv : cfg.statisticsRecvNum = UInt32.ofNat m) (hle : m ≤ n) (hpos : 0 < n)
    (hn : n ≤ 0x10000) : printPackets cfg = winsock (.print (.packetStatistics (UInt32.ofNat n)
      (UInt32.ofNat m) (UInt32.ofNat (n - m)) (some (UInt32.ofNat ((n - m) * 100 / n))))) := by
  have hlost : 0 ≤ (UInt32.ofNat (n - m)).toInt32 := by
    rw [UInt32.toInt32_ofNat', Int32.le_iff_toInt_le, Int32.toInt_ofNat_of_lt (by omega)]
    exact Int.natCast_nonneg _
  have hsent : 0 < UInt32.ofNat n := by
    rw [UInt32.lt_iff_toNat_lt, toNat_ofNat_of_le hn]
    exact hpos
  rw [printPackets, hsend, hrecv, ofNat_sub_ofNat hle hn, if_pos hlost, if_pos hsent,
    percent_eq (Nat.sub_le n m) hn]

def callsOf (tr : List (Event Winsock)) : List WinsockCall := tr.map fun ev => ev.1

@[simp] theorem callsOf_append (tr tr' : List (Event Winsock)) :
    callsOf (tr ++ tr') = callsOf tr ++ callsOf tr' := List.map_append

theorem calls_print {f : Unit → Exchange α}
    (h : Runs ((winsock (.print line)).bind f) tr o) :
    ∃ tr', Runs (f ()) tr' o ∧ callsOf tr = .print line :: callsOf tr' := by
  obtain ⟨_, tr', rfl, h'⟩ := runs_perform_iff.1 h
  exact ⟨tr', h', rfl⟩

theorem printTimes_calls (hc : cfg.tally = (0, 0, 0)) (hmax : cfg.statisticsMaxTime = 0)
    (hlen : shown.length ≤ 0x10000) (hnonneg : ∀ t ∈ times shown, 0 ≤ t)
    (h : Runs (printTimes (cfg.tallied shown)) tr o) :
    callsOf tr = (statistics shown).tail.map .print ∧ o = .ok () := by
  obtain ⟨hsend, hrecv, htotal⟩ := (tally_eq_zero_iff cfg).1 hc
  obtain ⟨ht, hr⟩ := tallied_total cfg shown
  rw [htotal] at ht
  rw [hrecv, UInt32.zero_add] at hr
  have hslow := tallied_slow cfg hmax hnonneg
  rw [printTimes] at h
  rw [statistics, List.tail_cons]
  have hnum : (UInt32.ofNat (times shown).length).toNat = (times shown).length :=
    toNat_ofNat_of_le ((times_length_le shown).trans hlen)
  cases hd : (times shown).dropWhile (· = 0) with
  | nil =>
    rw [hd] at hslow
    have hmax' : (cfg.tallied shown).statisticsMaxTime = 0 := hslow
    rw [if_neg fun hpos => lt_irrefl _ (hmax' ▸ hpos.2.1)] at h
    obtain ⟨rfl, ho⟩ := runs_ret_iff.1 h
    exact ⟨rfl, ho⟩
  | cons t ts =>
    rw [hd] at hslow
    obtain ⟨hmin, hmax'⟩ := hslow
    have hsuffix : ∀ x ∈ t :: ts, x ∈ times shown :=
      fun x hx => (List.dropWhile_suffix _).subset (hd ▸ hx)
    have hpos : 0 < UInt32.ofNat (times shown).length := by
      rw [UInt32.lt_iff_toNat_lt, hnum]
      exact List.length_pos_of_mem (hsuffix t List.mem_cons_self)
    have hiff := foldl_min_pos_iff_of_nonneg fun x hx => hnonneg x (hsuffix x hx)
    rw [hr, hmin, hmax', ht, hnum] at h
    dsimp only
    by_cases h0 : 0 ∈ t :: ts
    · rw [if_neg fun hc => hiff.1 hc.2.2 h0] at h
      obtain ⟨rfl, ho⟩ := runs_ret_iff.1 h
      rw [if_pos h0]
      exact ⟨rfl, ho⟩
    · have hmin' := hiff.2 h0
      have htpos := (foldl_min_pos_iff t ts).1 hmin' t List.mem_cons_self
      rw [if_pos ⟨hpos, htpos.trans_le (le_foldl_max t ts), hmin'⟩] at h
      obtain ⟨_, tr', rfl, h'⟩ := runs_call_iff.1 h
      obtain ⟨rfl, ho⟩ := runs_ret_iff.1 h'
      rw [if_neg h0]
      exact ⟨rfl, ho⟩

theorem printProcess_calls (hc : cfg.tally = (0, 0, 0)) (hmax : cfg.statisticsMaxTime = 0)
    (hne : shown ≠ []) (hlen : shown.length ≤ 0x10000) (hnonneg : ∀ t ∈ times shown, 0 ≤ t)
    (h : Runs (printProcess (cfg.tallied shown)) tr o) :
    callsOf tr = (statistics shown).map .print ∧ o = .ok () := by
  obtain ⟨hsend, hrecv, _⟩ := (tally_eq_zero_iff cfg).1 hc
  have hs := tallied_realSend cfg shown
  have hr := (tallied_total cfg shown).2
  rw [hsend, UInt32.zero_add] at hs
  rw [hrecv, UInt32.zero_add] at hr
  rw [printProcess, printPackets_eq hs hr (times_length_le shown) (List.length_pos_iff.2 hne)
    hlen] at h
  obtain ⟨tr', h', hcalls⟩ := calls_print h
  obtain ⟨htimes, ho⟩ := printTimes_calls hc hmax hlen hnonneg h'
  rw [hcalls, htimes]
  exact ⟨rfl, ho⟩

end Printing

section Loops

/-- All of `n` queries are sent unless one fails, which is then the last. -/
def Completes (n : Nat) (shown : List QueryResult) : ExitCode → Prop
  | .success => shown.length = n ∧ .failed ∉ shown
  | .failure => ∃ earlier, shown = earlier ++ [.failed] ∧ .failed ∉ earlier ∧ earlier.length < n

/-- A run of a loop that is to send `n` queries: it ends with what is shown of them entered. -/
structure Queries (cfg : ConfigurationTable) (n : Nat) (tr : List (Event Winsock))
    (x : ExitCode × ConfigurationTable) : Prop where
  completes : Completes n (shownIn tr) x.1
  entered : x.2 = cfg.tallied (shownIn tr)
  nonneg : (readings tr).Pairwise (· ≤ ·) → ∀ t ∈ times (shownIn tr), 0 ≤ t

theorem Queries.nil (cfg : ConfigurationTable) : Queries cfg 0 [] (.success, cfg) where
  completes := ⟨rfl, List.not_mem_nil⟩
  entered := rfl
  nonneg _ _ ht := absurd ht List.not_mem_nil

theorem Queries.failed
    (h : Runs (Winsock.sendProcess rounds cfg.counted target lastSend) tr (.ok (.failure, cfg'))) :
    Queries cfg (n + 1) tr (.failure, cfg') := by
  obtain ⟨shown, hs, hc, rfl⟩ := sendProcess_shown h
  obtain rfl := hc.1 rfl
  refine ⟨⟨[], hs, List.not_mem_nil, Nat.succ_pos n⟩, ?_, fun _ t ht => ?_⟩
  · rw [hs]
    rfl
  · rw [hs] at ht
    exact absurd ht List.not_mem_nil

theorem Completes.cons (hs : shown ≠ .failed) (h : Completes n rest code) :
    Completes (n + 1) (shown :: rest) code := by
  cases code with
  | success =>
    refine ⟨congrArg Nat.succ h.1, fun hm => ?_⟩
    rcases List.mem_cons.1 hm with he | hm
    · exact hs he.symm
    · exact h.2 hm
  | failure =>
    obtain ⟨earlier, rfl, hm, hlt⟩ := h
    refine ⟨shown :: earlier, rfl, fun hm' => ?_, Nat.succ_lt_succ hlt⟩
    rcases List.mem_cons.1 hm' with he | hm'
    · exact hs he.symm
    · exact hm hm'

theorem Queries.cons
    (h : Runs (Winsock.sendProcess rounds cfg.counted target lastSend) tr₁ (.ok (.success, cfg')))
    (hrest : Queries cfg' n tr₂ x) : Queries cfg (n + 1) (tr₁ ++ tr₂) x := by
  obtain ⟨shown, hs, hc, rfl⟩ := sendProcess_shown h
  have hne : shown ≠ .failed := fun he => ExitCode.noConfusion (hc.2 he)
  have hshown : shownIn (tr₁ ++ tr₂) = shown :: shownIn tr₂ := by
    rw [shownIn_append, hs, List.singleton_append]
  refine ⟨?_, ?_, fun hsorted t ht => ?_⟩
  · rw [hshown]
    exact hrest.completes.cons hne
  · rw [hshown]
    exact hrest.entered
  · rw [readings_append, List.pairwise_append] at hsorted
    have ht : t ∈ times (shownIn tr₁) ++ times (shownIn tr₂) := by
      rwa [times, times, ← List.filterMap_append, ← shownIn_append]
    rcases List.mem_append.1 ht with ht | ht
    · obtain ⟨r, hr, he⟩ := List.mem_filterMap.1 ht
      cases r with
      | failed => cases he
      | silent => cases he
      | answered waiting =>
        cases he
        exact answered_nonneg h hsorted.1 hr
    · exact hrest.nonneg hsorted.2.1 t ht

theorem sendTimes_queries (h : Runs (Winsock.sendTimes rounds n cfg) tr (.ok x)) :
    Queries cfg n tr x := by
  induction n generalizing cfg tr with
  | zero =>
    obtain ⟨rfl, ho⟩ := runs_ret_iff.1 h
    cases ho
    exact .nil cfg
  | succ n ih =>
    obtain ⟨⟨code, cfg'⟩, tr₁, tr₂, rfl, h₁, h₂⟩ := h.bind_ok
    cases code with
    | failure =>
      obtain ⟨rfl, ho⟩ := runs_ret_iff.1 h₂
      cases ho
      rw [List.append_nil]
      exact .failed h₁
    | success => exact .cons h₁ (ih h₂)

theorem sendUntilFull_queries (h : Runs (Winsock.sendUntilFull rounds fuel cfg) tr (.ok x)) :
    Queries cfg (0x10000 - cfg.statisticsRealSend.toNat) tr x := by
  have hfull {cfg : ConfigurationTable} {tr : List (Event Winsock)}
      (hlt : ¬cfg.statisticsRealSend ≤ 0xFFFF)
      (h : Runs (.ret (.success, cfg) : Exchange (ExitCode × ConfigurationTable)) tr (.ok x)) :
      Queries cfg (0x10000 - cfg.statisticsRealSend.toNat) tr x := by
    have hlt : ¬cfg.statisticsRealSend.toNat ≤ 65535 := fun hn => hlt (UInt32.le_iff_toNat_le.2 hn)
    obtain ⟨rfl, ho⟩ := runs_ret_iff.1 h
    cases ho
    rw [Nat.sub_eq_zero_of_le (by omega)]
    exact .nil cfg
  induction fuel generalizing cfg tr with
  | zero =>
    rw [Winsock.sendUntilFull] at h
    split at h
    · obtain ⟨_, ho⟩ := runs_crash_iff.1 h
      cases ho
    · next hlt => exact hfull hlt h
  | succ fuel ih =>
    rw [Winsock.sendUntilFull] at h
    split at h
    · next hle =>
      have hnat : cfg.statisticsRealSend.toNat ≤ 65535 := UInt32.le_iff_toNat_le.1 hle
      have hnext := realSend_counted hle
      have hsucc : 0x10000 - cfg.statisticsRealSend.toNat =
          0x10000 - (cfg.statisticsRealSend + 1).toNat + 1 := by
        omega
      rw [hsucc]
      obtain ⟨⟨code, cfg'⟩, tr₁, tr₂, rfl, h₁, h₂⟩ := h.bind_ok
      cases code with
      | failure =>
        obtain ⟨rfl, ho⟩ := runs_ret_iff.1 h₂
        cases ho
        rw [List.append_nil]
        exact .failed h₁
      | success =>
        have hrest := ih h₂
        have hreal : cfg'.statisticsRealSend = cfg.statisticsRealSend + 1 := sendProcess_realSend h₁
        rw [hreal] at hrest
        exact .cons h₁ hrest
    · next hlt => exact hfull hlt h

end Loops

section Ending

def Querying : WinsockCall → Prop
  | .print line => line.isStatistics = false
  | .fclose => False
  | _ => True

theorem sendProcess_querying (cfg : ConfigurationTable) (target : SockAddr) (lastSend : Bool) :
    Within Querying (fun _ => True) (Winsock.sendProcess rounds cfg target lastSend) := by
  apply sendProcess_within (fun _ _ => trivial) (fun _ => trivial) (fun _ h => h)
  intro sockets
  have hall := exchangePackets_uses (E := fun _ => True) trivial lastSend rounds
    (equipped_openFor cfg target sockets) (Passes.makePacket cfg trivial).uses (.inl trivial)
      fun _ _ _ _ _ _ => trivial
  apply hall.mono _ fun _ _ => trivial
  intro c hc
  cases c with
  | print line => exact hc
  | fclose => exact hc
  | _ => trivial

def ConfigurationTable.requested (cfg : ConfigurationTable) : Nat :=
  if cfg.statisticsSend = 0 then 0x10000 else cfg.statisticsSend.toNat

/-- What a run ends with after the queries: the statistics, unless one has failed, and the output
file is closed, unless one has failed in the loop that goes on until the statistics are full. -/
def ending (cfg : ConfigurationTable) (shown : List QueryResult) : ExitCode → List WinsockCall
  | .success => (if cfg.statisticsSend = 0 then [.print .statisticsFull] else []) ++
      (statistics shown).map .print ++ if cfg.outputFile then [.fclose] else []
  | .failure => if cfg.statisticsSend ≠ 0 ∧ cfg.outputFile then [.fclose] else []

theorem closeOutputFile_calls (h : Runs (closeOutputFile cfg) tr o) :
    callsOf tr = (if cfg.outputFile then [.fclose] else []) ∧ o = .ok () := by
  rw [closeOutputFile] at h
  split at h
  · next hfile =>
    obtain ⟨_, tr', rfl, h'⟩ := runs_call_iff.1 h
    obtain ⟨rfl, ho⟩ := runs_ret_iff.1 h'
    rw [if_pos hfile]
    exact ⟨rfl, ho⟩
  · next hfile =>
    obtain ⟨rfl, ho⟩ := runs_ret_iff.1 h
    rw [if_neg hfile]
    exact ⟨rfl, ho⟩

theorem tallied_parameters (cfg : ConfigurationTable) (shown : List QueryResult) :
    (cfg.tallied shown).toParameterBlock = cfg.toParameterBlock := by
  induction shown generalizing cfg with
  | nil => rfl
  | cons r shown ih =>
    obtain ⟨results, he⟩ := entered_results cfg.counted r
    change ((cfg.counted.entered r).tallied shown).toParameterBlock = _
    rw [ih, he]
    rfl

theorem finish_calls (hc : cfg.tally = (0, 0, 0)) (hmax : cfg.statisticsMaxTime = 0)
    (hq : Queries cfg n tr₁ (.success, cfg')) (hn : 0 < n) (hle : n ≤ 0x10000)
    (hsorted : (readings tr₁).Pairwise (· ≤ ·))
    (h : Runs ((printProcess cfg').bind fun _ => (closeOutputFile cfg').bind fun _ =>
      .ret (ExitCode.success, cfg')) tr (.ok x)) :
    x = (.success, cfg') ∧ shownIn tr = [] ∧ callsOf tr =
      (statistics (shownIn tr₁)).map .print ++ if cfg.outputFile then [.fclose] else [] := by
  obtain ⟨_, tr₂, tr₃, rfl, h₂, h₃⟩ := h.bind_ok
  obtain ⟨_, tr₄, tr₅, rfl, h₄, h₅⟩ := h₃.bind_ok
  obtain ⟨rfl, ho⟩ := runs_ret_iff.1 h₅
  cases ho
  have hlen : (shownIn tr₁).length = n := hq.completes.1
  have hentered : cfg' = cfg.tallied (shownIn tr₁) := hq.entered
  have hne : shownIn tr₁ ≠ [] := List.length_pos_iff.1 (hlen ▸ hn)
  refine ⟨rfl, ?_, ?_⟩
  · rw [shownIn_append, printProcess_unshown h₂, shownIn_append, closeOutputFile_unshown h₄]
    rfl
  · have hclose := (closeOutputFile_calls h₄).1
    rw [hentered] at h₂ hclose
    have hprint := (printProcess_calls hc hmax hne (hlen.trans_le hle) (hq.nonneg hsorted) h₂).1
    rw [callsOf_append, hprint, callsOf_append, hclose, tallied_parameters]
    simp [callsOf]

theorem querying_calls (hw : Within Querying (fun _ => True) p) (h : Runs p tr o) :
    ∀ c ∈ callsOf tr, Querying c := by
  intro c hc
  obtain ⟨ev, hev, rfl⟩ := List.mem_map.1 hc
  exact hw.events h ev hev

structure Ends (cfg : ConfigurationTable) (tr : List (Event Winsock))
    (x : ExitCode × ConfigurationTable) : Prop where
  completes : Completes cfg.requested (shownIn tr) x.1
  entered : x.2 = cfg.tallied (shownIn tr)
  ends : ∃ queries, callsOf tr = queries ++ ending cfg (shownIn tr) x.1 ∧ ∀ c ∈ queries, Querying c

theorem Queries.ends (hq : Queries cfg cfg.requested tr₁ (code, cfg'))
    (hquery : ∀ c ∈ callsOf tr₁, Querying c) (hnone : shownIn tr₂ = [])
    (hcalls : callsOf tr₂ = ending cfg (shownIn tr₁) code) :
    Ends cfg (tr₁ ++ tr₂) (code, cfg') := by
  have hshown : shownIn (tr₁ ++ tr₂) = shownIn tr₁ := by
    rw [shownIn_append, hnone, List.append_nil]
  refine ⟨?_, ?_, callsOf tr₁, ?_, hquery⟩
  · rw [hshown]
    exact hq.completes
  · rw [hshown]
    exact hq.entered
  · rw [hshown, callsOf_append, hcalls]

theorem sendRequests_ends (hc : cfg.tally = (0, 0, 0)) (hmax : cfg.statisticsMaxTime = 0)
    (hsend : cfg.statisticsSend ≤ 0xFFFF) (hsorted : (readings tr).Pairwise (· ≤ ·))
    (h : Runs (Winsock.sendRequests rounds cfg) tr (.ok x)) : Ends cfg tr x := by
  have hall (results : ResultBlock) (lastSend : Bool) : Within Querying (fun _ => True)
      (Winsock.sendProcess rounds { cfg with toResultBlock := results } cfg.sockAddrNormal
        lastSend) :=
    sendProcess_querying _ _ lastSend
  rw [Winsock.sendRequests] at h
  split at h
  · next hz =>
    have hreq : cfg.requested = 0x10000 := if_pos hz
    obtain ⟨⟨code, cfg'⟩, tr₁, tr₂, rfl, h₁, h₂⟩ := h.bind_ok
    rw [readings_append, List.pairwise_append] at hsorted
    have hq := sendUntilFull_queries h₁
    rw [((tally_eq_zero_iff cfg).1 hc).1] at hq
    have hquery := querying_calls (composes_within.sendUntilFull 0x10000 cfg (by omega) hall) h₁
    cases code with
    | failure =>
      obtain ⟨rfl, ho⟩ := runs_ret_iff.1 h₂
      cases ho
      have hending : [] = ending cfg (shownIn tr₁) .failure := (if_neg fun hn => hn.1 hz).symm
      exact (hreq ▸ hq).ends hquery rfl hending
    | success =>
      obtain ⟨_, tr₃, rfl, h₃⟩ := runs_perform_iff.1 h₂
      obtain ⟨rfl, hnone, hcalls⟩ := finish_calls hc hmax hq (by decide) le_rfl hsorted.1 h₃
      apply (hreq ▸ hq).ends hquery
      · rw [shownIn_cons_none rfl, hnone]
      · rw [ending, if_pos hz, List.append_assoc, ← hcalls]
        rfl
  · next hz =>
    have hreq : cfg.requested = cfg.statisticsSend.toNat := if_neg hz
    have hpos : 0 < cfg.statisticsSend.toNat := by
      apply Nat.pos_of_ne_zero
      exact fun h0 => hz (UInt32.toNat_inj.1 h0)
    have hle : cfg.statisticsSend.toNat ≤ 65535 := UInt32.le_iff_toNat_le.1 hsend
    obtain ⟨⟨code, cfg'⟩, tr₁, tr₂, rfl, h₁, h₂⟩ := h.bind_ok
    rw [readings_append, List.pairwise_append] at hsorted
    have hq := sendTimes_queries h₁
    have hquery := querying_calls (composes_within.sendTimes _ cfg hall) h₁
    cases code with
    | failure =>
      obtain ⟨_, tr₃, tr₄, rfl, h₃, h₄⟩ := h₂.bind_ok
      obtain ⟨rfl, ho⟩ := runs_ret_iff.1 h₄
      cases ho
      have hentered : cfg' = cfg.tallied (shownIn tr₁) := hq.entered
      have hfile : cfg'.outputFile = cfg.outputFile := by rw [hentered, tallied_parameters]
      rw [List.append_nil]
      apply (hreq ▸ hq).ends hquery (closeOutputFile_unshown h₃)
      rw [(closeOutputFile_calls h₃).1, hfile, ending]
      simp only [ne_eq, hz, not_false_eq_true, true_and]
    | success =>
      obtain ⟨rfl, hnone, hcalls⟩ := finish_calls hc hmax hq hpos (by omega) hsorted.1 h₂
      apply (hreq ▸ hq).ends hquery hnone
      rw [ending, if_neg hz, hcalls, List.nil_append]

/-- A run of `dnsping_main` sends as many queries as it is asked to unless one fails, enters what
is shown of each, and ends with the statistics of all that is shown and the output file closed. -/
theorem dnspingMain_ends (hp : prepare env argv cfg₀ = .ok () cfg) (hargs : 2 < argv.length)
    (hsorted : (readings tr).Pairwise (· ≤ ·))
    (h : Runs (Winsock.dnspingMain rounds env argv cfg₀) tr (.ok x)) : Ends cfg tr x := by
  have hprep : Begun true cfg := prepared_of_ok hp nofun
  rw [Winsock.dnspingMain, hp, if_neg (not_le.2 hargs)] at h
  exact sendRequests_ends hprep.unsent hprep.untimed hprep.sends hsorted h

theorem dnspingMain_ends_answered : ∃ x,
    Runs (Winsock.dnspingMain 0 plainMachine plainCommand {}) answeredQuery (.ok x) ∧
      Ends plainSetting answeredQuery x := by
  have hr : ∃ x, Runs (Winsock.dnspingMain 0 plainMachine plainCommand {}) answeredQuery (.ok x) :=
    exists_runs_of_replay (by decide +kernel)
  obtain ⟨x, hr⟩ := hr
  exact ⟨x, hr, dnspingMain_ends rfl (by decide) (by decide) hr⟩

end Ending

end LdnsSelector
