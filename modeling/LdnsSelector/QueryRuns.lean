import LdnsSelector.PingVerdict
import LdnsSelector.SocketBalance

set_option autoImplicit true

open Prog

namespace LdnsSelector

def printPackets (cfg : ConfigurationTable) : Exchange Unit :=
  let lost := cfg.statisticsRealSend - cfg.statisticsRecvNum
  if 0 ≤ lost.toInt32 then
    winsock (.print (.packetStatistics cfg.statisticsRealSend cfg.statisticsRecvNum lost
      (if 0 < cfg.statisticsRealSend then some (lost * 100 / cfg.statisticsRealSend) else none)))
  else
    winsock (.print (.packetStatistics cfg.statisticsRealSend cfg.statisticsRecvNum 0 (some 0)))

def printTimes (cfg : ConfigurationTable) : Exchange Unit :=
  if 0 < cfg.statisticsRecvNum ∧ 0 < cfg.statisticsMaxTime ∧ 0 < cfg.statisticsMinTime then
    winsock (.print (.timeStatistics cfg.statisticsMinTime cfg.statisticsMaxTime
      (Binary64.div cfg.statisticsTotalTime cfg.statisticsRecvNum.toNat)))
  else return

/-- `PrintProcess(true, true)`. -/
def printProcess (cfg : ConfigurationTable) : Exchange Unit := do
  printPackets cfg
  printTimes cfg

def closeOutputFile (cfg : ConfigurationTable) : Exchange Unit :=
  if cfg.outputFile then winsock .fclose else return

namespace Winsock

def sendTimes (rounds : Nat) : Nat → ConfigurationTable → Exchange (ExitCode × ConfigurationTable)
  | 0, cfg => return (.success, cfg)
  | n + 1, cfg => do
    let (code, cfg) ← Winsock.sendProcess rounds cfg.counted cfg.sockAddrNormal (n = 0)
    if code = .failure then return (.failure, cfg)
    else sendTimes rounds n cfg

/-- The loop that ends when the statistics are full, given up unfinished after `fuel` queries. -/
def sendUntilFull (rounds : Nat) : Nat → ConfigurationTable →
    Exchange (ExitCode × ConfigurationTable)
  | fuel, cfg =>
    if cfg.statisticsRealSend ≤ 0xFFFF then
      match fuel with
      | 0 => .crash .unfinished
      | fuel + 1 => do
        let (code, cfg) ← Winsock.sendProcess rounds cfg.counted cfg.sockAddrNormal false
        if code = .failure then return (.failure, cfg)
        else sendUntilFull rounds fuel cfg
    else return (.success, cfg)

/-- The output file is not closed when a query fails in the loop that goes on until the
statistics are full. -/
def sendRequests (rounds : Nat) (cfg : ConfigurationTable) :
    Exchange (ExitCode × ConfigurationTable) := do
  if cfg.statisticsSend = 0 then
    let (code, cfg) ← sendUntilFull rounds 0x10000 cfg
    if code = .failure then return (.failure, cfg)
    else
      winsock (.print .statisticsFull)
      printProcess cfg
      closeOutputFile cfg
      return (.success, cfg)
  else
    let (code, cfg) ← sendTimes rounds cfg.statisticsSend.toNat cfg
    if code = .failure then
      closeOutputFile cfg
      return (.failure, cfg)
    else
      printProcess cfg
      closeOutputFile cfg
      return (.success, cfg)

/-- `dnsping_main`, over the sockets. -/
def dnspingMain (rounds : Nat) (env : Surroundings) (argv : List WString)
    (cfg : ConfigurationTable) : Exchange (ExitCode × ConfigurationTable) :=
  if argv.length ≤ 2 then return (.success, cfg)
  else
    match prepare env argv cfg with
    | .error _ cfg => return (.failure, cfg)
    | .ok _ cfg => sendRequests rounds cfg

end Winsock

theorem printProcess_unshown (h : Runs (printProcess cfg) tr o) : shownIn tr = [] := by
  have hw : Within Unshown (fun _ => True) (printProcess cfg) := by
    apply Within.bind
    · exact .ite (fun _ => .perform rfl) fun _ => .perform rfl
    · exact fun _ => .ite (fun _ => .perform rfl) fun _ => trivial
  exact shownIn_unshown (hw.events h)

theorem closeOutputFile_unshown (h : Runs (closeOutputFile cfg) tr o) : shownIn tr = [] := by
  have hw : Within Unshown (fun _ => True) (closeOutputFile cfg) :=
    .ite (fun _ => .perform trivial) fun _ => trivial
  exact shownIn_unshown (hw.events h)

section Frame

variable {cfg : ConfigurationTable}

theorem entered_results (cfg : ConfigurationTable) (shown : QueryResult) :
    ∃ results, cfg.entered shown = { cfg with toResultBlock := results } := by
  cases shown with
  | answered waiting =>
    rw [ConfigurationTable.entered, ConfigurationTable.markTime]
    split_ifs <;> exact ⟨_, rfl⟩
  | _ => exact ⟨cfg.toResultBlock, rfl⟩

@[simp] theorem entered_realSend (cfg : ConfigurationTable) (shown : QueryResult) :
    (cfg.entered shown).statisticsRealSend = cfg.statisticsRealSend := by
  cases shown with
  | answered waiting =>
    rw [ConfigurationTable.entered, ConfigurationTable.markTime]
    split_ifs <;> rfl
  | _ => rfl

theorem sendProcess_results
    (h : Runs (Winsock.sendProcess rounds cfg target lastSend) tr (.ok x)) :
    ∃ results, x.2 = { cfg with toResultBlock := results } := by
  obtain ⟨shown, _, _, he⟩ := sendProcess_shown h
  rw [he]
  exact entered_results cfg shown

theorem sendProcess_realSend
    (h : Runs (Winsock.sendProcess rounds cfg target lastSend) tr (.ok x)) :
    x.2.statisticsRealSend = cfg.statisticsRealSend := by
  obtain ⟨shown, _, _, he⟩ := sendProcess_shown h
  rw [he, entered_realSend]

end Frame

section Within

/-- A property of programs that send queries which a sequence of them has when its parts do. -/
structure Composes (C : Exchange (ExitCode × ConfigurationTable) → Prop) : Prop where
  ret (x : ExitCode × ConfigurationTable) : C (.ret x)
  bind {p f} : C p → (∀ a tr, Runs p tr (.ok a) → C (f a)) → C (p.bind f)

variable {C : Exchange (ExitCode × ConfigurationTable) → Prop} {rounds : Nat}

theorem Composes.ite [Decidable D] (hp : D → C p) (hq : ¬D → C q) : C (if D then p else q) := by
  split
  · next hd => exact hp hd
  · next hd => exact hq hd

theorem Composes.sendTimes (hC : Composes C) (n : Nat) (cfg : ConfigurationTable)
    (hsend : ∀ results lastSend, C (Winsock.sendProcess rounds
      { cfg with toResultBlock := results } cfg.sockAddrNormal lastSend)) :
    C (Winsock.sendTimes rounds n cfg) := by
  induction n generalizing cfg with
  | zero => exact hC.ret _
  | succ n ih =>
    apply hC.bind (hsend cfg.counted.toResultBlock _)
    intro x tr hr
    obtain ⟨results, hx⟩ := sendProcess_results hr
    obtain ⟨code, cfg'⟩ := x
    obtain rfl : cfg' = _ := hx
    exact Composes.ite (fun _ => hC.ret _) fun _ => ih _ hsend

theorem Composes.sendUntilFull (hC : Composes C) (fuel : Nat) (cfg : ConfigurationTable)
    (hfuel : 0x10000 ≤ fuel + cfg.statisticsRealSend.toNat)
    (hsend : ∀ results lastSend, C (Winsock.sendProcess rounds
      { cfg with toResultBlock := results } cfg.sockAddrNormal lastSend)) :
    C (Winsock.sendUntilFull rounds fuel cfg) := by
  induction fuel generalizing cfg with
  | zero =>
    rw [Winsock.sendUntilFull]
    apply Composes.ite
    · intro hle
      have hle : cfg.statisticsRealSend.toNat ≤ 65535 := UInt32.le_iff_toNat_le.1 hle
      omega
    · exact fun _ => hC.ret _
  | succ fuel ih =>
    rw [Winsock.sendUntilFull]
    apply Composes.ite
    · intro hle
      apply hC.bind (hsend cfg.counted.toResultBlock _)
      intro x tr hr
      have hreal := sendProcess_realSend hr
      obtain ⟨results, hx⟩ := sendProcess_results hr
      obtain ⟨code, cfg'⟩ := x
      obtain rfl : cfg' = _ := hx
      apply Composes.ite
      · exact fun _ => hC.ret _
      · intro _
        have hcount : results.statisticsRealSend = cfg.statisticsRealSend + 1 := hreal
        have hfull : 0x10000 ≤ fuel + results.statisticsRealSend.toNat := by
          rw [hcount, realSend_counted hle]
          omega
        exact ih { cfg with toResultBlock := results } hfull hsend
    · exact fun _ => hC.ret _

variable {P : WinsockCall → Prop} {E : Stop → Prop}

theorem composes_within : Composes (Within P E) where
  ret _ := trivial
  bind := Within.bind_runs

/-- What holds of all calls that open, close and print holds of all calls of a query when it
does once the sockets are open. -/
theorem sendProcess_within (hsocket : ∀ family type, P (.socket family type))
    (hclose : ∀ s, P (.closesocket s))
    (hprint : ∀ line : Line, line.isStatistics = false → P (.print line))
    (hex : ∀ sockets, Within P E (exchangePackets cfg target lastSend rounds sockets)) :
    Within P E (Winsock.sendProcess rounds cfg target lastSend) := by
  apply Within.bind (openSockets_within cfg hsocket)
  intro sockets
  apply Within.ite
  · intro _
    apply Within.bind (hex sockets)
    intro result
    apply Within.bind (.perform (hclose _))
    intro _
    apply Within.bind (.perform (hclose _))
    intro _
    cases result <;> trivial
  · exact fun _ => Within.bind (.perform (hprint _ rfl)) fun _ => trivial

end Within

section Resources

open RefEvent

def Idles (x : ExitCode × ConfigurationTable) (p : Exchange (ExitCode × ConfigurationTable)) :
    Prop :=
  ∀ tr o, Runs p tr o → socketTrace tr = [] ∧ tr.countP socketFailed = 0 ∧ o = .ok x

/-- The program closes all the sockets it opens, unless just one of the two for a query could be
opened: then it fails, and leaves that one open. -/
def Balances (cfg : ConfigurationTable) (p : Exchange (ExitCode × ConfigurationTable)) : Prop :=
  ∀ tr o, Runs p tr o → (∀ ev ∈ tr, NonzeroSocket ev) → ∀ held,
    ∃ held', settle held (socketTrace tr) = some held' ∧ ∀ x, o = .ok x →
      x.2.toParameterBlock = cfg.toParameterBlock ∧
      (x.1 = .success → tr.countP socketFailed = 0) ∧
      if HalfOpened cfg tr then x.1 = .failure ∧ ∃ s, held' = s ::ₘ held else held' = held

theorem Idles.ret (x : ExitCode × ConfigurationTable) : Idles x (.ret x) := by
  intro tr o h
  obtain ⟨rfl, rfl⟩ := runs_ret_iff.1 h
  exact ⟨rfl, rfl, rfl⟩

def Outputs : WinsockCall → Prop
  | .print _ => True
  | .fclose => True
  | _ => False

theorem Outputs.idle {ev : Event Winsock} (h : Outputs ev.1) :
    socketRefs ev = [] ∧ socketFailed ev = false ∧ socketOpened ev = false ∧
      closesZero ev = false := by
  obtain ⟨c, a⟩ := ev
  cases c with
  | print line => exact ⟨rfl, rfl, rfl, rfl⟩
  | fclose => exact ⟨rfl, rfl, rfl, rfl⟩
  | _ => exact h.elim

theorem Idles.bind {p : Exchange Unit} (hp : Within Outputs (fun _ => False) p)
    (hq : Idles x q) : Idles x (p.bind fun _ => q) := by
  intro tr o h
  rcases h.bind_inv with ⟨e, _, h₁⟩ | ⟨_, tr₁, tr₂, rfl, h₁, h₂⟩
  · exact (hp.crashes h₁).elim
  · obtain ⟨hr, hf, ho⟩ := hq tr₂ o h₂
    have hev := hp.events h₁
    refine ⟨?_, ?_, ho⟩
    · rw [socketTrace_append, hr, List.append_nil, socketTrace, List.flatMap_eq_nil_iff]
      exact fun ev hm => (hev ev (List.mem_of_mem_filter hm)).idle.1
    · rw [List.countP_append, hf, Nat.add_zero, List.countP_eq_zero]
      exact fun ev hm => Bool.eq_false_iff.1 (hev ev hm).idle.2.1

theorem Idles.balances (h : Idles x p) (hx : x.2.toParameterBlock = cfg.toParameterBlock) :
    Balances cfg p := by
  intro tr o hr _ held
  obtain ⟨hrefs, hf, rfl⟩ := h tr o hr
  rw [hrefs]
  refine ⟨held, rfl, fun y hy => ?_⟩
  cases hy
  refine ⟨hx, fun _ => hf, ?_⟩
  rw [if_neg]
  intro hh
  rw [HalfOpened, hf] at hh
  exact absurd hh.2 (by decide)

theorem Balances.crash (e : Stop) : Balances cfg (.crash e) := by
  intro tr o h _ held
  obtain ⟨rfl, rfl⟩ := runs_crash_iff.1 h
  refine ⟨held, rfl, fun x hx => ?_⟩
  cases hx

theorem halfOpened_congr (h : cfg'.toParameterBlock = cfg.toParameterBlock) :
    HalfOpened cfg' tr ↔ HalfOpened cfg tr := by
  rw [HalfOpened, HalfOpened, ConfigurationTable.inSocks, ConfigurationTable.inSocks, h]

theorem Balances.of_parameters (h : cfg'.toParameterBlock = cfg.toParameterBlock)
    (hp : Balances cfg' p) : Balances cfg p := by
  intro tr o hr hz held
  obtain ⟨held', hs, hx⟩ := hp tr o hr hz held
  refine ⟨held', hs, fun x ho => ?_⟩
  obtain ⟨hpar, hsucc, hif⟩ := hx x ho
  simp only [halfOpened_congr h] at hif
  exact ⟨hpar.trans h, hsucc, hif⟩

/-- After a query that does not fail the program goes on as if it had just begun. -/
theorem Balances.bind (hp : Balances cfg p)
    (hs : ∀ cfg', cfg'.toParameterBlock = cfg.toParameterBlock →
      Balances cfg (f (.success, cfg')))
    (hf : ∀ cfg', Idles (.failure, cfg') (f (.failure, cfg'))) : Balances cfg (p.bind f) := by
  intro tr o h hz held
  rcases h.bind_inv with ⟨e, rfl, h₁⟩ | ⟨⟨code, cfg'⟩, tr₁, tr₂, rfl, h₁, h₂⟩
  · obtain ⟨held', hset, _⟩ := hp tr _ h₁ hz held
    refine ⟨held', hset, fun x hx => ?_⟩
    cases hx
  · have hz₁ : ∀ ev ∈ tr₁, NonzeroSocket ev := fun ev hev => hz ev (List.mem_append_left _ hev)
    have hz₂ : ∀ ev ∈ tr₂, NonzeroSocket ev := fun ev hev => hz ev (List.mem_append_right _ hev)
    obtain ⟨held₁, hset₁, hx₁⟩ := hp tr₁ _ h₁ hz₁ held
    obtain ⟨hpar, hsucc, hif⟩ := hx₁ _ rfl
    rw [socketTrace_append, settle_append, hset₁, Option.bind_some]
    cases code with
    | success =>
      have hzero := hsucc rfl
      have hhalf : HalfOpened cfg (tr₁ ++ tr₂) ↔ HalfOpened cfg tr₂ := by
        rw [HalfOpened, HalfOpened, List.countP_append, hzero, Nat.zero_add]
      rw [if_neg (fun hh => absurd (hzero ▸ hh.2) (by decide))] at hif
      rw [hif]
      obtain ⟨held₂, hset₂, hx₂⟩ := hs cfg' hpar tr₂ o h₂ hz₂ held
      refine ⟨held₂, hset₂, fun x hx => ?_⟩
      obtain ⟨hpar₂, hsucc₂, hif₂⟩ := hx₂ x hx
      simp only [hhalf, List.countP_append, hzero, Nat.zero_add]
      exact ⟨hpar₂, hsucc₂, hif₂⟩
    | failure =>
      obtain ⟨hrefs, hfail, rfl⟩ := hf cfg' tr₂ o h₂
      rw [hrefs]
      refine ⟨held₁, rfl, fun x hx => ?_⟩
      cases hx
      have hhalf : HalfOpened cfg (tr₁ ++ tr₂) ↔ HalfOpened cfg tr₁ := by
        rw [HalfOpened, HalfOpened, List.countP_append, hfail, Nat.add_zero]
      exact ⟨hpar, ExitCode.noConfusion, (if_congr hhalf rfl rfl).mpr hif⟩

theorem sendProcess_balances (cfg : ConfigurationTable) :
    Balances cfg (Winsock.sendProcess rounds cfg target lastSend) := by
  intro tr o h hz held
  obtain ⟨held', hset, hx⟩ := sendProcess_settles h hz held
  refine ⟨held', hset, fun x ho => ?_⟩
  obtain rfl := ho
  obtain ⟨results, hresults⟩ := sendProcess_results h
  exact ⟨by rw [hresults], hx x rfl⟩

theorem sendTimes_balances (rounds n : Nat) (cfg : ConfigurationTable) :
    Balances cfg (Winsock.sendTimes rounds n cfg) := by
  induction n generalizing cfg with
  | zero => exact (Idles.ret _).balances rfl
  | succ n ih =>
    apply Balances.bind
    · exact (sendProcess_balances cfg.counted).of_parameters rfl
    · intro cfg' hc
      exact (ih cfg').of_parameters hc
    · exact fun cfg' => .ret _

theorem sendUntilFull_balances (rounds fuel : Nat) (cfg : ConfigurationTable) :
    Balances cfg (Winsock.sendUntilFull rounds fuel cfg) := by
  induction fuel generalizing cfg with
  | zero =>
    rw [Winsock.sendUntilFull]
    split
    · exact .crash _
    · exact (Idles.ret _).balances rfl
  | succ fuel ih =>
    rw [Winsock.sendUntilFull]
    split
    · apply Balances.bind
      · exact (sendProcess_balances cfg.counted).of_parameters rfl
      · intro cfg' hc
        exact (ih cfg').of_parameters hc
      · exact fun cfg' => .ret _
    · exact (Idles.ret _).balances rfl

theorem printProcess_outputs (cfg : ConfigurationTable) :
    Within Outputs (fun _ => False) (printProcess cfg) := by
  apply Within.bind
  · exact .ite (fun _ => .perform trivial) fun _ => .perform trivial
  · exact fun _ => .ite (fun _ => .perform trivial) fun _ => trivial

theorem closeOutputFile_outputs (cfg : ConfigurationTable) :
    Within Outputs (fun _ => False) (closeOutputFile cfg) :=
  .ite (fun _ => .perform trivial) fun _ => trivial

theorem sendRequests_balances (rounds : Nat) (cfg : ConfigurationTable) :
    Balances cfg (Winsock.sendRequests rounds cfg) := by
  have hend (cfg' : ConfigurationTable) : Idles (.success, cfg') ((printProcess cfg').bind fun _ =>
      (closeOutputFile cfg').bind fun _ => .ret (.success, cfg')) :=
    .bind (printProcess_outputs cfg') (.bind (closeOutputFile_outputs cfg') (.ret _))
  rw [Winsock.sendRequests]
  split
  · apply (sendUntilFull_balances rounds 0x10000 cfg).bind
    · intro cfg' hc
      have hfull : Idles (.success, cfg') ((winsock (.print .statisticsFull)).bind fun _ =>
          (printProcess cfg').bind fun _ =>
            (closeOutputFile cfg').bind fun _ => .ret (.success, cfg')) :=
        .bind (.perform trivial) (hend cfg')
      exact hfull.balances hc
    · exact fun cfg' => .ret _
  · apply (sendTimes_balances rounds cfg.statisticsSend.toNat cfg).bind
    · exact fun cfg' hc => (hend cfg').balances hc
    · intro cfg'
      exact .bind (closeOutputFile_outputs cfg') (.ret _)

/-- The program closes the socket zero once for each socket that it opens, unless its queries are
sent by a proxy. -/
def ClosesZero (cfg : ConfigurationTable) (p : Exchange α) : Prop :=
  ∀ tr a, Runs p tr (.ok a) → (∀ ev ∈ tr, NonzeroSocket ev) →
    tr.countP closesZero = if cfg.inSocks = true then 0 else tr.countP socketOpened

theorem ClosesZero.ret (a : α) : ClosesZero cfg (.ret a) := by
  intro tr b h _
  obtain ⟨rfl, _⟩ := runs_ret_iff.1 h
  exact (ite_self 0).symm

theorem ClosesZero.bind {p : Exchange α} {f : α → Exchange β} (hp : ClosesZero cfg p)
    (hf : ∀ a tr, Runs p tr (.ok a) → ClosesZero cfg (f a)) : ClosesZero cfg (p.bind f) := by
  intro tr b h hz
  obtain ⟨a, tr₁, tr₂, rfl, h₁, h₂⟩ := h.bind_ok
  have hz₁ := hp tr₁ a h₁ fun ev hev => hz ev (List.mem_append_left _ hev)
  have hz₂ := hf a tr₁ h₁ tr₂ b h₂ fun ev hev => hz ev (List.mem_append_right _ hev)
  rw [List.countP_append, List.countP_append, hz₁, hz₂]
  split <;> rfl

theorem ClosesZero.outputs {p : Exchange α} (hp : Within Outputs (fun _ => False) p) :
    ClosesZero cfg p := by
  intro tr a h _
  have hev := hp.events h
  have hcloses : tr.countP closesZero = 0 :=
    List.countP_eq_zero.2 fun ev hm => Bool.eq_false_iff.1 (hev ev hm).idle.2.2.2
  have hopened : tr.countP socketOpened = 0 :=
    List.countP_eq_zero.2 fun ev hm => Bool.eq_false_iff.1 (hev ev hm).idle.2.2.1
  rw [hcloses, hopened, ite_self]

theorem composes_closesZero (cfg : ConfigurationTable) : Composes (ClosesZero cfg) where
  ret := .ret
  bind := .bind

theorem sendRequests_closesZero (rounds : Nat) (cfg : ConfigurationTable) :
    ClosesZero cfg (Winsock.sendRequests rounds cfg) := by
  have hsend (results : ResultBlock) (lastSend : Bool) : ClosesZero cfg
      (Winsock.sendProcess rounds { cfg with toResultBlock := results } cfg.sockAddrNormal
        lastSend) := by
    intro tr a h hz
    have hcount := sendProcess_closesZero h hz
    exact hcount
  have hclose (x : ExitCode × ConfigurationTable) (code : ExitCode) : ClosesZero cfg
      ((closeOutputFile x.2).bind fun _ => .ret (code, x.2)) :=
    .bind (.outputs (closeOutputFile_outputs x.2)) fun _ _ _ => .ret _
  have hend (x : ExitCode × ConfigurationTable) : ClosesZero cfg ((printProcess x.2).bind fun _ =>
      (closeOutputFile x.2).bind fun _ => .ret (ExitCode.success, x.2)) :=
    .bind (.outputs (printProcess_outputs x.2)) fun _ _ _ => hclose x .success
  have hC := composes_closesZero cfg
  rw [Winsock.sendRequests]
  apply Composes.ite (C := ClosesZero cfg)
  · intro _
    apply (hC.sendUntilFull 0x10000 cfg (by omega) hsend).bind
    intro x _ _
    apply Composes.ite (C := ClosesZero cfg)
    · exact fun _ => .ret _
    · exact fun _ => .bind (.outputs (.perform trivial)) fun _ _ _ => hend x
  · intro _
    apply (hC.sendTimes _ cfg hsend).bind
    intro x _ _
    apply Composes.ite (C := ClosesZero cfg)
    · exact fun _ => hclose x .failure
    · exact fun _ => hend x

/-- On a system that gives out no socket with the number zero, nothing is used or closed that is
not open but for the socket zero, which is closed once with each other socket when there is no
proxy. A run leaves no socket open unless just one of the two for a query in SOCKS mode could be
opened. -/
theorem dnspingMain_sockets
    (h : Runs (Winsock.dnspingMain rounds env argv cfg) tr o)
    (hz : ∀ ev ∈ tr, NonzeroSocket ev) :
    ∃ held, settle 0 (socketTrace tr) = some held ∧ ∀ x, o = .ok x →
      (tr.countP closesZero = if x.2.inSocks = true then 0 else tr.countP socketOpened) ∧
      if HalfOpened x.2 tr then x.1 = .failure ∧ ∃ s, held = {s} else held = 0 := by
  have hb : ∃ cfg', Balances cfg' (Winsock.dnspingMain rounds env argv cfg) ∧
      ClosesZero cfg' (Winsock.dnspingMain rounds env argv cfg) := by
    rw [Winsock.dnspingMain]
    split
    · exact ⟨cfg, (Idles.ret _).balances rfl, .ret _⟩
    split
    · next cfg' _ => exact ⟨cfg', (Idles.ret _).balances rfl, .ret _⟩
    · next cfg' _ => exact ⟨cfg', sendRequests_balances rounds cfg', sendRequests_closesZero _ _⟩
  obtain ⟨cfg', hb, hcloses⟩ := hb
  obtain ⟨held, hset, hx⟩ := hb tr o h hz 0
  refine ⟨held, hset, fun x ho => ?_⟩
  obtain ⟨hpar, _, hif⟩ := hx x ho
  have hin : x.2.inSocks = cfg'.inSocks := by
    rw [ConfigurationTable.inSocks, ConfigurationTable.inSocks, hpar]
  apply And.intro
  · rw [hin]
    exact hcloses tr x (ho ▸ h) hz
  · exact (if_congr (halfOpened_congr hpar) rfl rfl).mpr hif

def proxiedMachine : Surroundings :=
  { plainMachine with readSocksTarget := fun _ _ => .ok ⟨afInet, [10, 0, 0, 2], htons 1080⟩ }

def proxiedCommand : List WString :=
  [wide "dnsping", wide "-n", wide "1", wide "-socks", wide "10.0.0.2", wide "www",
    wide "10.0.0.1"]

def halfOpening : List (Event Winsock) :=
  [⟨.socket afInet .stream, 7⟩, ⟨.socket afInet .datagram, invalidSocket⟩,
    ⟨.print (.error "Socket initialization error, error code is %d.\n"), ()⟩]

theorem dnspingMain_sockets_half : ∃ x held,
    Runs (Winsock.dnspingMain 0 proxiedMachine proxiedCommand {}) halfOpening (.ok x) ∧
      settle 0 (socketTrace halfOpening) = some held ∧
        (halfOpening.countP closesZero =
          if x.2.inSocks = true then 0 else halfOpening.countP socketOpened) ∧
        if HalfOpened x.2 halfOpening then x.1 = .failure ∧ ∃ s, held = {s} else held = 0 := by
  have hr : ∃ x, Runs (Winsock.dnspingMain 0 proxiedMachine proxiedCommand {}) halfOpening
      (.ok x) := exists_runs_of_replay (by decide +kernel)
  obtain ⟨x, hr⟩ := hr
  have hz : ∀ ev ∈ halfOpening, NonzeroSocket ev := by
    simp [halfOpening, NonzeroSocket, invalidSocket]
  obtain ⟨held, hset, h⟩ := dnspingMain_sockets hr hz
  exact ⟨x, held, hr, hset, h x rfl⟩

end Resources

def plainCommand : List WString :=
  [wide "dnsping", wide "-n", wide "1", wide "www", wide "10.0.0.1"]

def plainSetting : ConfigurationTable :=
  { bufferSize := 1500, validate := true, socketTimeout := 2000, statisticsSend := 1,
    statisticsMinTime := 2000, protocol := afInet, serviceType := htons ipportDns,
    sockAddrNormal := ⟨afInet, [10, 0, 0, 1], htons ipportDns⟩, testDomain := [119, 119, 119],
    targetStringNormal := [49, 48, 46, 48, 46, 48, 46, 49],
    parameterHeader := { flags := 1, questions := 256 },
    parameterQuery := { type := 256, classes := 256 } }

def plainQuery : List UInt8 :=
  [0x12, 0x34, 1, 0, 0, 1, 0, 0, 0, 0, 0, 0, 3, 119, 119, 119, 0, 0, 1, 0, 1]

def plainReply : { bytes : List UInt8 // bytes.length ≤ 1500 } :=
  ⟨[0x12, 0x34, 0, 0, 0, 1] ++ List.replicate 14 0, by decide⟩

def answeredQuery : List (Event Winsock) :=
  [⟨.socket afInet .datagram, 7⟩, ⟨.setsockopt 7 (.sndTimeo 2000), true⟩,
    ⟨.setsockopt 7 (.rcvTimeo 2000), true⟩, ⟨.getCurrentProcessId, 0x1234⟩,
    ⟨.connect 7 ⟨afInet, [10, 0, 0, 1], htons ipportDns⟩ 16, true⟩,
    ⟨.queryPerformanceFrequency, some 1000⟩, ⟨.queryPerformanceCounter, some 5⟩,
    ⟨.send 7 plainQuery, true⟩,
    ⟨.recv 7 1500, some plainReply⟩,
    ⟨.queryPerformanceCounter, some 25⟩, ⟨.print (.receiveFrom 20 20), ()⟩,
    ⟨.closesocket 7, ()⟩, ⟨.closesocket 0, ()⟩,
    ⟨.print (.packetStatistics 1 1 0 (some 0)), ()⟩, ⟨.print (.timeStatistics 20 20 20), ()⟩]

end LdnsSelector
