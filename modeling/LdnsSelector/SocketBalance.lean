import LdnsSelector.Ownership
import LdnsSelector.Reporting

set_option autoImplicit true

open Prog

namespace LdnsSelector

def socketRefs : Event Winsock → List (RefEvent Socket)
  | ⟨.socket _ _, s⟩ => if s = invalidSocket then [] else [.acquire s]
  | ⟨.setsockopt s _, _⟩ => [.use s]
  | ⟨.connect s _ _, _⟩ => [.use s]
  | ⟨.getsockname s, _⟩ => [.use s]
  | ⟨.send s _, _⟩ => [.use s]
  | ⟨.recv s _, _⟩ => [.use s]
  | ⟨.closesocket s, _⟩ => [.release s]
  | ⟨.getCurrentProcessId, _⟩ => []
  | ⟨.queryPerformanceFrequency, _⟩ => []
  | ⟨.queryPerformanceCounter, _⟩ => []
  | ⟨.sleep _, _⟩ => []
  | ⟨.print _, _⟩ => []
  | ⟨.fclose, _⟩ => []

def closesZero : Event Winsock → Bool
  | ⟨.closesocket s, _⟩ => s = 0
  | _ => false

/-- What a run does with sockets, but for closing the socket zero. -/
def socketTrace (tr : List (Event Winsock)) : List (RefEvent Socket) :=
  (tr.filter fun ev => !closesZero ev).flatMap socketRefs

@[simp] theorem socketTrace_append (tr tr' : List (Event Winsock)) :
    socketTrace (tr ++ tr') = socketTrace tr ++ socketTrace tr' := by
  rw [socketTrace, List.filter_append, List.flatMap_append]
  rfl

theorem socketTrace_cons (ev : Event Winsock) (tr : List (Event Winsock)) :
    socketTrace (ev :: tr) = socketTrace [ev] ++ socketTrace tr := socketTrace_append [ev] tr

/-- The system gives out no socket with the number zero. -/
def NonzeroSocket : Event Winsock → Prop
  | ⟨.socket _ _, s⟩ => s ≠ 0
  | _ => True

section Settling

open RefEvent

variable {held : Multiset Socket} {cfg : ConfigurationTable}

theorem settle_use {ev : Event Winsock} (h : Uses (.of sockets) ev.1)
    (hm : ∀ s ∈ sockets, s ∈ held) : settle held (socketTrace [ev]) = some held := by
  have huse : ∀ s ∈ sockets, settle held [.use s] = some held := by
    intro s hs
    rw [settle, step, if_pos (hm s hs)]
    rfl
  obtain ⟨c, x⟩ := ev
  cases c with
  | socket family type => exact h.elim
  | closesocket s => exact h.elim
  | fclose => exact h.elim
  | setsockopt s option => exact huse s h
  | connect s addr addrLen => exact huse s h.1
  | getsockname s => exact huse s h
  | send s data => exact huse s h.1
  | recv s size => exact huse s h
  | _ => rfl

theorem settle_uses {tr : List (Event Winsock)} (h : ∀ ev ∈ tr, Uses (.of sockets) ev.1)
    (hm : ∀ s ∈ sockets, s ∈ held) : settle held (socketTrace tr) = some held := by
  induction tr with
  | nil => rfl
  | cons ev tr ih =>
    rw [socketTrace_cons, settle_append, settle_use (h ev List.mem_cons_self) hm]
    exact ih fun ev' hev => h ev' (List.mem_cons_of_mem _ hev)

def socketFailed : Event Winsock → Bool
  | ⟨.socket _ _, s⟩ => s = invalidSocket
  | _ => false

def socketOpened : Event Winsock → Bool
  | ⟨.socket _ _, s⟩ => s ≠ invalidSocket
  | _ => false

theorem uses_idle {ev : Event Winsock} (h : Uses (.of sockets) ev.1) :
    socketFailed ev = false ∧ socketOpened ev = false ∧ closesZero ev = false := by
  obtain ⟨c, x⟩ := ev
  cases c with
  | socket family type => exact h.elim
  | closesocket s => exact h.elim
  | _ => exact ⟨rfl, rfl, rfl⟩

theorem countP_uses {tr : List (Event Winsock)} (h : ∀ ev ∈ tr, Uses (.of sockets) ev.1) :
    tr.countP socketFailed = 0 ∧ tr.countP socketOpened = 0 ∧ tr.countP closesZero = 0 := by
  refine ⟨?_, ?_, ?_⟩ <;> rw [List.countP_eq_zero] <;> intro ev hev
  · exact Bool.eq_false_iff.1 (uses_idle (h ev hev)).1
  · exact Bool.eq_false_iff.1 (uses_idle (h ev hev)).2.1
  · exact Bool.eq_false_iff.1 (uses_idle (h ev hev)).2.2

/-- In SOCKS mode just one of the sockets for a query could not be opened. -/
def HalfOpened (cfg : ConfigurationTable) (tr : List (Event Winsock)) : Prop :=
  cfg.inSocks = true ∧ tr.countP socketFailed = 1

instance : Decidable (HalfOpened cfg tr) := inferInstanceAs (Decidable (_ ∧ _))

def Opening (cfg : ConfigurationTable) (sockets : Sockets) (tr : List (Event Winsock)) : Prop :=
  if cfg.inSocks = true then
    tr = [⟨.socket cfg.family .stream, sockets.normal⟩,
      ⟨.socket cfg.family .datagram, sockets.socks⟩]
  else sockets.socks = 0 ∧ ∃ type, tr = [⟨.socket cfg.family type, sockets.normal⟩]

theorem runs_openSockets (h : Runs (openSockets cfg) tr o) :
    ∃ sockets, o = .ok sockets ∧ Opening cfg sockets tr := by
  rw [openSockets] at h
  split at h
  · next hr =>
    have hin : ¬cfg.inSocks = true := by
      simp only [ConfigurationTable.isRaw, ConfigurationTable.inSocks, Bool.and_eq_true,
        decide_eq_true_eq] at hr ⊢
      rw [hr.1.1]
      exact UInt16.lt_irrefl 0
    obtain ⟨s, tr₁, rfl, h₁⟩ := runs_perform_iff.1 h
    obtain ⟨rfl, rfl⟩ := runs_ret_iff.1 h₁
    refine ⟨_, rfl, ?_⟩
    rw [Opening, if_neg hin]
    exact ⟨rfl, _, rfl⟩
  split at h
  · next hin =>
    obtain ⟨s, tr₁, rfl, h₁⟩ := runs_perform_iff.1 h
    obtain ⟨s', tr₂, rfl, h₂⟩ := runs_perform_iff.1 h₁
    obtain ⟨rfl, rfl⟩ := runs_ret_iff.1 h₂
    refine ⟨_, rfl, ?_⟩
    rw [Opening, if_pos hin]
  · next hin =>
    obtain ⟨s, tr₁, rfl, h₁⟩ := runs_perform_iff.1 h
    obtain ⟨rfl, rfl⟩ := runs_ret_iff.1 h₁
    refine ⟨_, rfl, ?_⟩
    rw [Opening, if_neg hin]
    exact ⟨rfl, _, rfl⟩

theorem uses_openFor (h : Runs (exchangePackets cfg target lastSend rounds sockets) tr o) :
    ∀ ev ∈ tr, Uses (.of (openFor cfg sockets)) ev.1 := by
  have hw : Within (Uses (.of (openFor cfg sockets))) (fun _ => True)
      (exchangePackets cfg target lastSend rounds sockets) :=
    exchangePackets_uses trivial lastSend rounds (equipped_openFor cfg target sockets)
      (Passes.makePacket cfg trivial).uses (.inl trivial) fun _ _ _ _ _ _ => trivial
  exact hw.events h

theorem settle_socket (held : Multiset Socket) (family : UInt16) (type : SocketType)
    (s : Socket) :
    settle held (socketTrace [⟨.socket family type, s⟩]) =
      some (if s = invalidSocket then held else s ::ₘ held) := by
  change settle held (socketRefs ⟨.socket family type, s⟩ ++ []) = _
  rw [List.append_nil, socketRefs]
  split <;> rfl

theorem Opening.settle_opened (h : Opening cfg sockets tr) (ho : opened cfg sockets = true)
    (held : Multiset Socket) :
    settle held (socketTrace tr) =
      some ((openFor cfg sockets : Multiset Socket) + held) := by
  simp only [opened, Bool.and_eq_true, Bool.not_eq_true', Bool.and_eq_false_imp,
    decide_eq_true_eq, decide_eq_false_iff_not] at ho
  rw [Opening] at h
  rw [openFor]
  split at h
  · next hin =>
    obtain rfl := h
    rw [if_pos hin, socketTrace_cons, settle_append, settle_socket,
      if_neg ho.1, Option.bind_some, settle_socket, if_neg (ho.2 hin), Multiset.cons_swap,
      ← Multiset.cons_coe, Multiset.cons_add, ← Multiset.cons_coe, Multiset.cons_add,
      Multiset.coe_nil, zero_add]
  · next hin =>
    obtain ⟨_, type, rfl⟩ := h
    rw [if_neg hin, settle_socket, if_neg ho.1, ← Multiset.cons_coe,
      Multiset.cons_add, Multiset.coe_nil, zero_add]

theorem Opening.failed_opened (h : Opening cfg sockets tr) (ho : opened cfg sockets = true) :
    tr.countP socketFailed = 0 := by
  simp only [opened, Bool.and_eq_true, Bool.not_eq_true', Bool.and_eq_false_imp,
    decide_eq_true_eq, decide_eq_false_iff_not] at ho
  rw [Opening] at h
  split at h
  · next hin =>
    obtain rfl := h
    simp [socketFailed, ho.1, ho.2 hin]
  · next hin =>
    obtain ⟨_, type, rfl⟩ := h
    simp [socketFailed, ho.1]

theorem Opening.settle_unopened (h : Opening cfg sockets tr) (ho : opened cfg sockets = false)
    (held : Multiset Socket) : 0 < tr.countP socketFailed ∧
      ∃ held', settle held (socketTrace tr) = some held' ∧
        if HalfOpened cfg tr then ∃ s, held' = s ::ₘ held else held' = held := by
  rw [Opening] at h
  split at h
  · next hin =>
    obtain rfl := h
    have hor : sockets.normal = invalidSocket ∨ sockets.socks = invalidSocket := by
      simpa [opened, hin, or_iff_not_imp_left] using ho
    rw [socketTrace_cons, settle_append, settle_socket, Option.bind_some, settle_socket]
    by_cases hn : sockets.normal = invalidSocket
    · by_cases hs : sockets.socks = invalidSocket
      · simp [HalfOpened, socketFailed, hn, hs]
      · simp [HalfOpened, socketFailed, hn, hs, hin]
    · have hs := hor.resolve_left hn
      simp [HalfOpened, socketFailed, hn, hs, hin]
  · next hin =>
    obtain ⟨_, type, rfl⟩ := h
    have hn : sockets.normal = invalidSocket := by
      simpa [opened, hin] using ho
    rw [settle_socket]
    simp [HalfOpened, socketFailed, hn, hin]

theorem Opening.nonzero (h : Opening cfg sockets tr) (hz : ∀ ev ∈ tr, NonzeroSocket ev) :
    sockets.normal ≠ 0 ∧
      if cfg.inSocks = true then sockets.socks ≠ 0 else sockets.socks = 0 := by
  rw [Opening] at h
  split at h
  · next hin =>
    obtain rfl := h
    rw [if_pos hin]
    exact ⟨hz _ List.mem_cons_self, hz _ (List.mem_cons_of_mem _ List.mem_cons_self)⟩
  · next hin =>
    obtain ⟨hs, type, rfl⟩ := h
    rw [if_neg hin]
    exact ⟨hz _ List.mem_cons_self, hs⟩

theorem settle_closesocket (hs : s ≠ 0) (held : Multiset Socket) :
    settle (s ::ₘ held) (socketTrace [⟨.closesocket s, ()⟩]) = some held := by
  have htrace : socketTrace [⟨.closesocket s, ()⟩] = [.release s] := by
    simp [socketTrace, closesZero, hs, socketRefs]
  rw [htrace, settle, step, if_pos (Multiset.mem_cons_self s held), Multiset.erase_cons_head]
  rfl

theorem settle_both (hn : sockets.normal ≠ 0)
    (hs : if cfg.inSocks = true then sockets.socks ≠ 0 else sockets.socks = 0)
    (held : Multiset Socket) :
    settle ((openFor cfg sockets : Multiset Socket) + held)
      (socketTrace
        [⟨.closesocket sockets.normal, ()⟩, ⟨.closesocket sockets.socks, ()⟩]) = some held := by
  rw [socketTrace_cons, settle_append, openFor]
  split
  · next hin =>
    rw [if_pos hin] at hs
    rw [← Multiset.cons_coe, Multiset.cons_add, ← Multiset.cons_coe, Multiset.cons_add,
      Multiset.coe_nil, zero_add, settle_closesocket hn]
    exact settle_closesocket hs held
  · next hin =>
    rw [if_neg hin] at hs
    rw [← Multiset.cons_coe, Multiset.cons_add, Multiset.coe_nil, zero_add,
      settle_closesocket hn, hs]
    rfl

/-- What `SendProcess` does once the sockets are open: however it returns, they are closed. -/
theorem settle_exchange {f : Option ConfigurationTable → Exchange α}
    (hret : ∀ result, ∃ a, f result = .ret a) (hn : sockets.normal ≠ 0)
    (hs : if cfg.inSocks = true then sockets.socks ≠ 0 else sockets.socks = 0)
    (h : Runs ((exchangePackets cfg target lastSend rounds sockets).bind fun result =>
      (winsock (.closesocket sockets.normal)).bind fun _ =>
        (winsock (.closesocket sockets.socks)).bind fun _ => f result) tr o)
    (held : Multiset Socket) : tr.countP socketFailed = 0 ∧
      ∃ held', settle ((openFor cfg sockets : Multiset Socket) + held)
        (socketTrace tr) = some held' ∧ ∀ x, o = .ok x → held' = held := by
  have hm : ∀ s ∈ openFor cfg sockets,
      s ∈ (openFor cfg sockets : Multiset Socket) + held :=
    fun s hs => Multiset.mem_add.2 (.inl (Multiset.mem_coe.2 hs))
  rcases h.bind_inv with ⟨e, rfl, hp⟩ | ⟨result, tr₁, tr₂, rfl, hp, hf⟩
  · have ht := uses_openFor hp
    refine ⟨(countP_uses ht).1, _, settle_uses ht hm, fun x hx => ?_⟩
    cases hx
  · have ht := uses_openFor hp
    obtain ⟨_, tr₃, rfl, hf₁⟩ := runs_perform_iff.1 hf
    obtain ⟨_, tr₄, rfl, hf₂⟩ := runs_perform_iff.1 hf₁
    obtain ⟨a, ha⟩ := hret result
    rw [ha] at hf₂
    obtain ⟨rfl, _⟩ := runs_ret_iff.1 hf₂
    apply And.intro
    · rw [List.countP_append, (countP_uses ht).1]
      rfl
    · refine ⟨held, ?_, fun _ _ => rfl⟩
      rw [socketTrace_append, settle_append, settle_uses ht hm]
      exact settle_both hn hs held

theorem sendProcess_settles
    (h : Runs (Winsock.sendProcess rounds cfg target lastSend) tr o)
    (hz : ∀ ev ∈ tr, NonzeroSocket ev) (held : Multiset Socket) :
    ∃ held', settle held (socketTrace tr) = some held' ∧ ∀ x, o = .ok x →
      (x.1 = .success → tr.countP socketFailed = 0) ∧
        if HalfOpened cfg tr then x.1 = .failure ∧ ∃ s, held' = s ::ₘ held
        else held' = held := by
  rw [Winsock.sendProcess] at h
  rcases h.bind_inv with ⟨e, rfl, h₁⟩ | ⟨sockets, tr₁, tr₂, rfl, h₁, h₂⟩
  · obtain ⟨_, ho, _⟩ := runs_openSockets h₁
    cases ho
  obtain ⟨_, hs, hopen⟩ := runs_openSockets h₁
  cases hs
  rw [socketTrace_append, settle_append]
  simp only [HalfOpened, List.countP_append]
  by_cases ho : opened cfg sockets = true
  · rw [if_pos ho] at h₂
    obtain ⟨hn, hs⟩ := hopen.nonzero fun ev hev => hz ev (List.mem_append_left _ hev)
    obtain ⟨hc, held', hset, hret⟩ := settle_exchange (fun result => by
      cases result with
      | none => exact ⟨_, rfl⟩
      | some cfg => exact ⟨_, rfl⟩) hn hs h₂ held
    have hz : tr₁.countP socketFailed + tr₂.countP socketFailed = 0 := by
      rw [hopen.failed_opened ho, hc]
    rw [hopen.settle_opened ho, Option.bind_some, hz]
    refine ⟨held', hset, fun x hx => ⟨fun _ => rfl, ?_⟩⟩
    rw [if_neg fun hh => absurd hh.2 (by decide)]
    exact hret x hx
  · rw [if_neg ho] at h₂
    obtain ⟨_, tr₃, rfl, h₃⟩ := runs_perform_iff.1 h₂
    obtain ⟨rfl, rfl⟩ := runs_ret_iff.1 h₃
    obtain ⟨hpos, held', hset, hif⟩ := hopen.settle_unopened (Bool.eq_false_iff.2 ho) held
    rw [hset]
    refine ⟨held', rfl, fun x hx => ?_⟩
    cases hx
    apply And.intro
    · intro hx
      cases hx
    · simp only [HalfOpened] at hif
      split
      · next hh => exact ⟨rfl, (if_pos hh).mp hif⟩
      · next hh => exact (if_neg hh).mp hif

theorem Opening.counts (h : Opening cfg sockets tr) : tr.countP closesZero = 0 ∧
    (¬cfg.inSocks = true →
      tr.countP socketOpened = if sockets.normal = invalidSocket then 0 else 1) := by
  rw [Opening] at h
  split at h
  · next hin =>
    obtain rfl := h
    exact ⟨rfl, fun hn => absurd hin hn⟩
  · next hin =>
    obtain ⟨_, type, rfl⟩ := h
    refine ⟨rfl, fun _ => ?_⟩
    split
    · next hi => simp [socketOpened, hi]
    · next hi => simp [socketOpened, hi]

/-- A query closes the socket zero once, unless it is sent by a proxy or its socket could not be
opened. -/
theorem sendProcess_closesZero
    (h : Runs (Winsock.sendProcess rounds cfg target lastSend) tr (.ok x))
    (hz : ∀ ev ∈ tr, NonzeroSocket ev) :
    tr.countP closesZero = if cfg.inSocks = true then 0 else tr.countP socketOpened := by
  obtain ⟨sockets, tr₁, tr₂, rfl, h₁, h₂⟩ := h.bind_ok
  obtain ⟨_, hs, hopen⟩ := runs_openSockets h₁
  cases hs
  have hnonzero := hopen.nonzero fun ev hev => hz ev (List.mem_append_left _ hev)
  obtain ⟨hzero, hcount⟩ := hopen.counts
  by_cases ho : opened cfg sockets = true
  · rw [if_pos ho] at h₂
    obtain ⟨result, tr₃, tr₄, rfl, h₃, h₄⟩ := h₂.bind_ok
    obtain ⟨_, tr₅, rfl, h₅⟩ := runs_perform_iff.1 h₄
    obtain ⟨_, tr₆, rfl, h₆⟩ := runs_perform_iff.1 h₅
    obtain rfl : tr₆ = [] := by
      cases result with
      | none => exact (runs_ret_iff.1 h₆).1
      | some cfg' => exact (runs_ret_iff.1 h₆).1
    obtain ⟨_, hopened, hcloses⟩ := countP_uses (uses_openFor h₃)
    simp only [List.countP_append, hopened, hcloses, hzero]
    by_cases hin : cfg.inSocks = true
    · rw [if_pos hin] at hnonzero
      simp [closesZero, hnonzero.1, hnonzero.2, hin]
    · rw [if_neg hin] at hnonzero
      have hnormal : sockets.normal ≠ invalidSocket := by
        intro he
        simp [opened, he] at ho
      rw [hcount hin, if_neg hnormal]
      simp [closesZero, socketOpened, hnonzero.1, hnonzero.2, hin]
  · rw [if_neg ho] at h₂
    obtain ⟨_, tr₃, rfl, h₃⟩ := runs_perform_iff.1 h₂
    obtain ⟨rfl, _⟩ := runs_ret_iff.1 h₃
    rw [List.countP_append, List.countP_append, hzero]
    by_cases hin : cfg.inSocks = true
    · rw [if_pos hin]
      rfl
    · have hnormal : sockets.normal = invalidSocket := by
        simpa [opened, hin] using ho
      rw [if_neg hin, hcount hin, if_pos hnormal]
      rfl

end Settling

end LdnsSelector
