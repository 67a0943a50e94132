import LdnsSelector.SendProcess
import LdnsSelector.Serving

set_option autoImplicit true

open Prog

namespace LdnsSelector

/-- What a line that is printed says of a query. -/
inductive QueryResult where
  | failed
  | silent
  | answered (waiting : ℚ)
  deriving DecidableEq

def QueryResult.time? : QueryResult → Option ℚ
  | .failed => none
  | .silent => none
  | .answered waiting => some waiting

def times (shown : List QueryResult) : List ℚ := shown.filterMap QueryResult.time?

def Line.shown : Line → Option QueryResult
  | .error _ => some .failed
  | .receiveFrom _ waiting => some (.answered waiting)
  | .receiveError _ _ => some .silent
  | .correctAnswersTimeout _ _ => some .silent
  | .validateError _ _ => none
  | .response _ => none
  | .responseHex _ => none
  | .statisticsFull => none
  | .packetStatistics _ _ _ _ => none
  | .timeStatistics _ _ _ => none

def Line.isStatistics : Line → Bool
  | .statisticsFull => true
  | .packetStatistics _ _ _ _ => true
  | .timeStatistics _ _ _ => true
  | _ => false

def shownBy : Event Winsock → Option QueryResult
  | ⟨.print line, _⟩ => line.shown
  | _ => none

def shownIn (tr : List (Event Winsock)) : List QueryResult := tr.filterMap shownBy

@[simp] theorem shownIn_nil : shownIn [] = [] := rfl

@[simp] theorem shownIn_append (tr tr' : List (Event Winsock)) :
    shownIn (tr ++ tr') = shownIn tr ++ shownIn tr' := List.filterMap_append

theorem shownIn_cons_none {ev : Event Winsock} (h : shownBy ev = none)
    (tr : List (Event Winsock)) : shownIn (ev :: tr) = shownIn tr := List.filterMap_cons_none h

theorem shownIn_cons_some {ev : Event Winsock} (h : shownBy ev = some shown)
    (tr : List (Event Winsock)) : shownIn (ev :: tr) = shown :: shownIn tr :=
  List.filterMap_cons_some h

/-- What a part of a query may do: the sockets it may use, the addresses it may connect them to,
and what it may send. -/
structure Permit where
  held : List Socket
  reached : SockAddr → Prop
  sent : List UInt8 → Prop

def Permit.of (held : List Socket) : Permit := ⟨held, fun _ => True, fun _ => True⟩

/-- A call that opens and closes nothing, does with a socket what is permitted, and prints no
statistics. -/
def Uses (l : Permit) : WinsockCall → Prop
  | .socket _ _ => False
  | .closesocket _ => False
  | .fclose => False
  | .setsockopt s _ => s ∈ l.held
  | .connect s addr _ => s ∈ l.held ∧ l.reached addr
  | .getsockname s => s ∈ l.held
  | .send s data => s ∈ l.held ∧ l.sent data
  | .recv s _ => s ∈ l.held
  | .getCurrentProcessId => True
  | .queryPerformanceFrequency => True
  | .queryPerformanceCounter => True
  | .sleep _ => True
  | .print line => line.isStatistics = false

/-- The call prints nothing of what a query has come to. -/
def Unshown : WinsockCall → Prop
  | .print line => line.shown = none
  | _ => True

/-- The call neither receives anything nor reads the counter. -/
def Blind : WinsockCall → Prop
  | .recv _ _ => False
  | .queryPerformanceFrequency => False
  | .queryPerformanceCounter => False
  | _ => True

/-- A call on the way, before it is known what a query comes to. -/
def Passing (l : Permit) (c : WinsockCall) : Prop := Uses l c ∧ Unshown c

/-- A call from which nothing is learned of the reply. -/
def Plain (l : Permit) (c : WinsockCall) : Prop := Passing l c ∧ Blind c

theorem Unshown.shownBy {ev : Event Winsock} (h : Unshown ev.1) : shownBy ev = none := by
  obtain ⟨c, x⟩ := ev
  cases c with
  | print line => exact h
  | _ => rfl

theorem shownIn_unshown {tr : List (Event Winsock)} (h : ∀ ev ∈ tr, Unshown ev.1) :
    shownIn tr = [] := List.filterMap_eq_nil_iff.2 fun ev hev => (h ev hev).shownBy

theorem andThen_ok {p : Exchange (Option α)} {f : α → Exchange (Option β)}
    (h : Runs (andThen p f) tr (.ok (some b))) :
    ∃ a tr₁ tr₂, tr = tr₁ ++ tr₂ ∧ Runs p tr₁ (.ok (some a)) ∧ Runs (f a) tr₂ (.ok (some b)) := by
  obtain ⟨a, tr₁, tr₂, rfl, h₁, h₂⟩ := h.bind_ok
  cases a with
  | none =>
    obtain ⟨_, ho⟩ := runs_ret_iff.1 h₂
    cases ho
  | some a => exact ⟨a, tr₁, tr₂, rfl, h₁, h₂⟩

theorem runs_report {P : Prop} (h : Runs (report text) tr (.ok (some a))) : P := by
  obtain ⟨_, tr₁, rfl, h₁⟩ := runs_perform_iff.1 h
  obtain ⟨_, ho⟩ := runs_ret_iff.1 h₁
  cases ho

theorem within_andThen {P : WinsockCall → Prop} {E : Stop → Prop} {p : Exchange (Option α)}
    {f : α → Exchange (Option β)} (hp : Within P E p)
    (hf : ∀ a tr, Runs p tr (.ok (some a)) → Within P E (f a)) : Within P E (andThen p f) := by
  apply Within.bind_runs hp
  intro a tr hr
  cases a with
  | none => trivial
  | some a => exact hf a tr hr

/-- A part of a query that reports when it fails, once, and only then. It uses the sockets
`held`, and ends the process only as `E` allows. -/
def Reporting (l : Permit) (E : Stop → Prop) : Exchange (Option α) → Prop
  | .ret a => a.isSome = true
  | .crash e => E e
  | .call c k => (Passing l c ∧ ∀ x, Reporting l E (k x)) ∨
      ∃ text, c = .print (.error text) ∧ ∀ x, k x = .ret none

namespace Reporting

variable {l : Permit} {E : Stop → Prop}

theorem report (text : String) :
    Reporting l E (LdnsSelector.report text : Exchange (Option α)) :=
  .inr ⟨text, rfl, fun _ => rfl⟩

theorem ite [Decidable C] {p q : Exchange (Option α)} (hp : C → Reporting l E p)
    (hq : ¬C → Reporting l E q) : Reporting l E (if C then p else q) := by
  split
  · next hc => exact hp hc
  · next hc => exact hq hc

theorem bind {p : Exchange α} {f : α → Exchange (Option β)} (hp : Within (Passing l) E p)
    (hf : ∀ a, Reporting l E (f a)) : Reporting l E (p.bind f) := by
  induction p with
  | ret a => exact hf a
  | crash e => exact hp
  | call c k ih => exact .inl ⟨hp.1, fun x => ih x (hp.2 x)⟩

theorem andThen_runs {p : Exchange (Option α)} {f : α → Exchange (Option β)}
    (hp : Reporting l E p) (hf : ∀ a tr, Runs p tr (.ok (some a)) → Reporting l E (f a)) :
    Reporting l E (andThen p f) := by
  induction p with
  | ret a =>
    cases a with
    | none => cases hp
    | some a => exact hf a [] (.ret _)
  | crash e => exact hp
  | call c k ih =>
    rcases hp with ⟨hc, hk⟩ | ⟨text, hc, hk⟩
    · exact .inl ⟨hc, fun x => ih x (hk x) fun a tr h => hf a _ (.call x h)⟩
    · have hnone : ∀ x, LdnsSelector.andThen (k x) f = .ret none := by
        intro x
        rw [hk x]
        rfl
      exact .inr ⟨text, hc, hnone⟩

theorem andThen {p : Exchange (Option α)} {f : α → Exchange (Option β)}
    (hp : Reporting l E p) (hf : ∀ a, Reporting l E (f a)) : Reporting l E (andThen p f) :=
  hp.andThen_runs fun a _ _ => hf a

theorem check {p : Exchange Bool} (hp : Within (Passing l) E p) (text : String) :
    Reporting l E (check p text) :=
  bind hp fun _ => .ite (fun _ => rfl) fun _ => report text

theorem uses {p : Exchange (Option α)} (hp : Reporting l E p) : Within (Uses l) E p := by
  induction p with
  | ret a => trivial
  | crash e => exact hp
  | call c k ih =>
    rcases hp with ⟨hc, hk⟩ | ⟨text, rfl, hk⟩
    · exact ⟨hc.1, fun x => ih x (hk x)⟩
    · refine ⟨rfl, fun x => ?_⟩
      rw [hk x]
      trivial

theorem shown {p : Exchange (Option α)} (hp : Reporting l E p) (h : Runs p tr (.ok a)) :
    shownIn tr = if a.isSome then [] else [.failed] := by
  induction p generalizing tr with
  | ret b =>
    obtain ⟨rfl, hb⟩ := runs_ret_iff.1 h
    cases hb
    have hs : a.isSome = true := hp
    rw [if_pos hs]
    rfl
  | crash e =>
    obtain ⟨_, ho⟩ := runs_crash_iff.1 h
    cases ho
  | call c k ih =>
    obtain ⟨x, tr', rfl, h'⟩ := runs_call_iff.1 h
    rcases hp with ⟨hc, hk⟩ | ⟨text, rfl, hk⟩
    · rw [shownIn_cons_none hc.2.shownBy]
      exact ih x (hk x) h'
    · rw [hk x] at h'
      obtain ⟨rfl, ho⟩ := runs_ret_iff.1 h'
      cases ho
      rfl

end Reporting

/-- A part of a query that does not report and learns nothing of the reply. -/
abbrev Passes (l : Permit) (E : Stop → Prop) (p : Exchange α) : Prop :=
  Within (Plain l) E p

namespace Passes

variable {l : Permit} {E : Stop → Prop}

theorem passing {p : Exchange α} (hp : Passes l E p) : Within (Passing l) E p :=
  hp.mono (fun _ hc => hc.1) fun _ he => he

theorem uses {p : Exchange α} (hp : Passes l E p) : Within (Uses l) E p :=
  hp.mono (fun _ hc => hc.1.1) fun _ he => he

theorem shown {p : Exchange α} (hp : Passes l E p) (h : Runs p tr o) : shownIn tr = [] :=
  shownIn_unshown fun ev hev => (hp.events h ev hev).1.2

theorem memcpyS {size : UInt32} (m : Memory) (a : Nat) {bytes : List UInt8}
    (h : E (.aborted .invalidParameter) ∨ bytes.length ≤ size.toNat) :
    Passes l E (memcpyS m a size bytes) := by
  apply Within.ite
  · exact fun _ => trivial
  · intro hn
    rcases h with h | h
    · exact h
    · exact absurd h hn

theorem setTimeouts (cfg : ConfigurationTable) (hs : s ∈ l.held) :
    Passes l E (setTimeouts cfg s) := by
  apply Within.bind (.perform ⟨⟨hs, trivial⟩, trivial⟩)
  exact fun _ => .ite (fun _ => .perform ⟨⟨hs, trivial⟩, trivial⟩) fun _ => trivial

theorem setHopLimits (cfg : ConfigurationTable) (hs : s ∈ l.held) :
    Passes l E (setHopLimits cfg s) := by
  apply Within.ite
  · exact fun _ => trivial
  · intro _
    exact .ite (fun _ => .perform ⟨⟨hs, trivial⟩, trivial⟩) fun _ =>
      .perform ⟨⟨hs, trivial⟩, trivial⟩

theorem setDontFragment (cfg : ConfigurationTable) (hs : s ∈ l.held) :
    Passes l E (setDontFragment cfg s) :=
  .ite (fun _ => .perform ⟨⟨hs, trivial⟩, trivial⟩) fun _ => trivial

theorem makeHeader (cfg : ConfigurationTable) (buffer : Memory) :
    Passes l E (makeHeader cfg buffer) :=
  .ite (fun _ => Within.bind (.perform ⟨⟨trivial, trivial⟩, trivial⟩) fun _ => trivial) fun _ =>
    trivial

theorem makePacket (cfg : ConfigurationTable) (h : E (.aborted .invalidParameter)) :
    Passes l E (makePacket cfg) := by
  apply Within.ite
  · exact fun _ => trivial
  · intro _
    apply Within.bind (memcpyS _ _ (.inl h))
    intro buffer
    apply Within.bind (makeHeader cfg buffer)
    intro header
    apply Within.bind (memcpyS _ _ (.inl h))
    intro buffer
    exact .ite (fun _ => (memcpyS _ _ (.inl h)).bind fun _ => trivial) fun _ => trivial

theorem pause (cfg : ConfigurationTable) (lastSend : Bool) (result : ℚ) :
    Passes l E (pause cfg lastSend result) := by
  apply Within.ite
  · exact fun _ => trivial
  · intro _
    apply Within.ite
    · exact fun _ => .perform ⟨⟨trivial, trivial⟩, trivial⟩
    · exact fun _ => .ite (fun _ => .perform ⟨⟨trivial, trivial⟩, trivial⟩) fun _ => trivial

theorem printIf (shown : Bool) (h : line.shown = none) (hs : line.isStatistics = false) :
    Passes l E (printIf shown line) :=
  .ite (fun _ => .perform ⟨⟨hs, h⟩, trivial⟩) fun _ => trivial

end Passes

theorem receive_passing {l : Permit} {E : Stop → Prop} (hs : s ∈ l.held) (size : Nat)
    (buffer : Memory) : Within (Passing l) E (receive s size buffer) := by
  apply Within.bind (.perform ⟨hs, trivial⟩)
  intro answer
  cases answer with
  | none => trivial
  | some bytes => trivial

namespace Reporting

variable {l : Permit} {E : Stop → Prop}

section Handshake

structure Greets (l : Permit) (cfg : ConfigurationTable) (s : Socket) : Prop where
  held : s ∈ l.held
  selection : l.sent clientSelection
  authentication : l.sent (authenticationRequest cfg.socksUsername cfg.socksPassword)
  association : ∀ localPort, l.sent (associateRequest cfg localPort)

variable {cfg : ConfigurationTable} (ha : E (.aborted .invalidParameter) ∨
  (authenticationRequest cfg.socksUsername cfg.socksPassword).length ≤ socksBufferSize)

theorem receiveSocks (hs : s ∈ l.held) (buffer : Memory) :
    Reporting l E (receiveSocks s buffer) :=
  bind (receive_passing hs _ buffer) fun _ => .ite (fun _ => rfl) fun _ => report _

theorem readReply (udp server : SockAddr) (buffer : Memory) :
    Reporting l E (readReply udp server buffer) := by
  apply ite
  · exact fun _ => report _
  · intro _
    apply ite
    · exact fun _ => rfl
    · exact fun _ => .ite (fun _ => rfl) fun _ => report _

include ha

theorem authenticate (hs : Greets l cfg s) : Reporting l E (authenticate cfg s) := by
  apply ite
  · intro hlt
    rcases ha with ha | ha
    · exact ha
    · exact absurd ha (Nat.not_le.2 hlt)
  · intro _
    apply andThen (check (.perform ⟨⟨hs.held, hs.authentication⟩, trivial⟩) _)
    intro _
    apply andThen (receiveSocks hs.held _)
    exact fun _ => .ite (fun _ => report _) fun _ => rfl

theorem negotiate (hs : Greets l cfg s) (buffer : Memory) :
    Reporting l E (negotiate cfg s buffer) := by
  apply ite
  · exact fun _ => report _
  · intro _
    apply ite
    · exact fun _ => .ite (fun _ => authenticate ha hs) fun _ => report _
    · exact fun _ => rfl

theorem socksUdpAssociate (udp : SockAddr) (localPort : UInt16) (hs : Greets l cfg s)
    (hr : l.reached server) (addrLen : Nat) :
    Reporting l E (socksUdpAssociate cfg udp localPort s server addrLen) := by
  apply andThen (check (.perform ⟨⟨hs.held, hr⟩, trivial⟩) _)
  intro _
  apply andThen (check (.perform ⟨⟨hs.held, hs.selection⟩, trivial⟩) _)
  intro _
  apply andThen (receiveSocks hs.held _)
  intro buffer
  apply andThen (negotiate ha hs buffer)
  intro _
  apply andThen (check (.perform ⟨⟨hs.held, hs.association localPort⟩, trivial⟩) _)
  intro _
  exact andThen (receiveSocks hs.held _) fun buffer => readReply udp server buffer

end Handshake

/-- Datagrams are relayed by the proxy itself, at whatever port it answers. -/
theorem socksUdpAssociate_bound
    (h : Runs (LdnsSelector.socksUdpAssociate cfg { server with port := 0 } localPort s server
      addrLen) tr (.ok (some udp))) : ∃ port, udp = { server with port := port } := by
  obtain ⟨_, _, _, rfl, _, h₁⟩ := andThen_ok h
  obtain ⟨_, _, _, rfl, _, h₂⟩ := andThen_ok h₁
  obtain ⟨_, _, _, rfl, _, h₃⟩ := andThen_ok h₂
  obtain ⟨_, _, _, rfl, _, h₄⟩ := andThen_ok h₃
  obtain ⟨_, _, _, rfl, _, h₅⟩ := andThen_ok h₄
  obtain ⟨buffer, _, _, rfl, _, h₆⟩ := andThen_ok h₅
  rw [LdnsSelector.readReply] at h₆
  split_ifs at h₆
  · exact runs_report h₆
  · obtain ⟨_, ho⟩ := runs_ret_iff.1 h₆
    cases ho
    exact ⟨_, rfl⟩
  · obtain ⟨_, ho⟩ := runs_ret_iff.1 h₆
    cases ho
    exact ⟨_, rfl⟩
  · exact runs_report h₆

def Relayable (cfg : ConfigurationTable) (target : SockAddr) (dataLength : Nat) : Prop :=
  ∀ header port, relayHeader cfg target = some (header, port) →
    header.length + 2 + dataLength ≤ cfg.bufferSize.toNat

theorem makeRelayed (cfg : ConfigurationTable) (target : SockAddr) (packet : Packet)
    (h : E (.aborted .invalidParameter) ∨ Relayable cfg target packet.dataLength) :
    Reporting l E (makeRelayed cfg target packet) := by
  rw [LdnsSelector.makeRelayed]
  cases hr : relayHeader cfg target with
  | none => exact report _
  | some header =>
    have hbuf : cfg.bufferSize.toNat < UInt32.size := cfg.bufferSize.toNat_lt
    apply bind
    · apply Passes.passing
      apply Passes.memcpyS
      apply h.imp_right
      intro h
      have hle := h header.1 header.2 hr
      rw [Memory.length_read, UInt32.toNat_sub_of_le, UInt32.toNat_ofNat_of_lt' (by omega)]
      · omega
      · rw [UInt32.le_iff_toNat_le, UInt32.toNat_ofNat_of_lt' (by omega)]
        omega
    · intro buffer
      apply bind
      · apply Passes.passing
        apply Passes.memcpyS
        apply h.imp_right
        intro h
        have hle := h header.1 header.2 hr
        omega
      · exact fun _ => rfl

theorem connectLocal (hs : s ∈ l.held) (hr : l.reached udp) (addrLen : Nat) :
    Reporting l E (connectLocal s udp addrLen) := by
  apply andThen (check (.perform ⟨⟨hs, hr⟩, trivial⟩) _)
  intro _
  apply bind
  · exact .perform ⟨hs, trivial⟩
  intro answer
  cases answer with
  | none => exact report _
  | some addr => rfl

def Proxied (cfg : ConfigurationTable) (target : SockAddr) (dataLength : Nat) : Prop :=
  (authenticationRequest cfg.socksUsername cfg.socksPassword).length ≤ socksBufferSize ∧
    Relayable cfg target dataLength

/-- The sockets for a query are there, and may be connected to the target, or to a proxy that may
be greeted. -/
structure Equipped (l : Permit) (cfg : ConfigurationTable) (target : SockAddr)
    (sockets : Sockets) : Prop where
  normal : sockets.normal ∈ l.held
  socks : cfg.inSocks = true → sockets.socks ∈ l.held
  direct : cfg.inSocks = false → l.reached target
  proxy : cfg.inSocks = true → ∀ port, l.reached { cfg.sockAddrSocks with port := port }
  greets : cfg.inSocks = true → Greets l cfg sockets.normal

theorem makeConnection {cfg : ConfigurationTable} {target : SockAddr} {sockets : Sockets}
    (he : Equipped l cfg target sockets) (packet : Packet)
    (h : E (.aborted .invalidParameter) ∨
      (cfg.inSocks = true → Proxied cfg target packet.dataLength)) :
    Reporting l E (makeConnection cfg sockets target packet) := by
  apply ite
  · intro hin
    apply andThen (connectLocal (he.socks hin) (he.proxy hin 0) _)
    intro localPort
    apply andThen_runs
    · exact socksUdpAssociate (h.imp_right fun h => (h hin).1) _ localPort (he.greets hin)
        (he.proxy hin cfg.sockAddrSocks.port) _
    intro udp tr hr
    obtain ⟨port, rfl⟩ := socksUdpAssociate_bound hr
    apply andThen (check (.perform ⟨⟨he.socks hin, he.proxy hin port⟩, trivial⟩) _)
    exact fun _ => makeRelayed cfg target packet (h.imp_right fun h => (h hin).2)
  · intro hin
    apply andThen (check (.perform ⟨⟨he.normal, he.direct (Bool.eq_false_iff.2 hin)⟩, trivial⟩) _)
    exact fun _ => rfl

theorem Equipped.exchangeSocket {cfg : ConfigurationTable} {target : SockAddr}
    {sockets : Sockets} (he : Equipped l cfg target sockets) :
    cfg.exchangeSocket sockets ∈ l.held := by
  rw [ConfigurationTable.exchangeSocket]
  split
  · next hin => exact he.socks hin
  · exact he.normal

theorem startClock : Reporting l E startClock := by
  apply bind
  · exact .perform ⟨trivial, trivial⟩
  intro frequency
  cases frequency with
  | none => exact report _
  | some frequency =>
    apply bind
    · exact .perform ⟨trivial, trivial⟩
    intro before
    cases before with
    | none => exact report _
    | some before => rfl

theorem receiveReply (cfg : ConfigurationTable) (hs : s ∈ l.held) (clock : Clock) :
    Reporting l E (receiveReply cfg s clock) := by
  apply bind (receive_passing hs _ _)
  intro received
  apply bind
  · exact .perform ⟨trivial, trivial⟩
  intro after
  cases after with
  | none => exact report _
  | some after => rfl

theorem awaitCorrect (hE : E .unfinished) (cfg : ConfigurationTable) (hs : s ∈ l.held)
    (clock : Clock) (dnsId : UInt16) (rounds : Nat) (reply : Reply) :
    Reporting l E (awaitCorrect cfg s clock dnsId rounds reply) := by
  induction rounds generalizing reply with
  | zero => exact .ite (fun _ => rfl) fun _ => hE
  | succ rounds ih =>
    apply ite
    · exact fun _ => rfl
    · intro _
      apply andThen (receiveReply cfg hs clock)
      intro reply
      apply ite
      · exact fun _ => rfl
      · intro _
        apply ite
        · exact fun _ => rfl
        · exact fun _ => bind (.perform ⟨rfl, rfl⟩) fun _ => ih reply

theorem unwrapReply (reply : Reply) : Reporting l E (unwrapReply reply) := by
  apply ite
  · exact fun _ => report _
  · intro _
    apply ite
    · exact fun _ => rfl
    · exact fun _ => .ite (fun _ => rfl) fun _ => report _

theorem judge (hE : E .unfinished) (cfg : ConfigurationTable) (hs : s ∈ l.held) (clock : Clock)
    (dnsId : Option UInt16) (rounds : Nat) (reply : Reply) :
    Reporting l E (judge cfg s clock dnsId rounds reply) := by
  apply ite
  · exact fun _ => rfl
  · intro _
    apply ite
    · exact fun _ => andThen (unwrapReply reply) fun _ => rfl
    · intro _
      cases dnsId with
      | none => rfl
      | some dnsId =>
        apply ite
        · intro _
          apply bind
          · exact .perform ⟨rfl, rfl⟩
          intro _
          apply andThen (awaitCorrect hE cfg hs clock dnsId rounds reply)
          exact fun _ => .ite (fun _ => rfl) fun _ => rfl
        · exact fun _ => rfl

theorem awaitReply (hE : E .unfinished) (cfg : ConfigurationTable) (hs : s ∈ l.held)
    (clock : Clock) (dnsId : Option UInt16) (rounds : Nat) :
    Reporting l E (awaitReply cfg s clock dnsId rounds) :=
  andThen (receiveReply cfg hs clock) fun reply => judge hE cfg hs clock dnsId rounds reply

end Reporting

section Conclusion

variable {l : Permit} {E : Stop → Prop}

def ConfigurationTable.entered (cfg : ConfigurationTable) : QueryResult → ConfigurationTable
  | .failed => cfg
  | .silent => cfg
  | .answered waiting => cfg.markTime waiting

def Concluded (cfg : ConfigurationTable) (tr : List (Event Winsock)) :
    Option ConfigurationTable → Prop
  | none => shownIn tr = [.failed]
  | some cfg' => ∃ shown, shownIn tr = [shown] ∧ shown ≠ .failed ∧ cfg' = cfg.entered shown

theorem Concluded.append_left (h : Concluded cfg tr' r) (htr : shownIn tr = []) :
    Concluded cfg (tr ++ tr') r := by
  have he : shownIn (tr ++ tr') = shownIn tr' := by
    rw [shownIn_append, htr, List.nil_append]
  cases r with
  | none => exact he.trans h
  | some cfg' =>
    obtain ⟨shown, hs, hn, hc⟩ := h
    exact ⟨shown, he.trans hs, hn, hc⟩

theorem Reporting.concluded {p : Exchange (Option α)}
    {f : α → Exchange (Option ConfigurationTable)} (hp : Reporting l E p)
    (hf : ∀ a tr r, Runs (f a) tr (.ok r) → Concluded cfg tr r)
    (h : Runs (LdnsSelector.andThen p f) tr (.ok r)) : Concluded cfg tr r := by
  obtain ⟨a, tr₁, tr₂, rfl, h₁, h₂⟩ := h.bind_ok
  have hs := hp.shown h₁
  cases a with
  | none =>
    obtain ⟨rfl, ho⟩ := runs_ret_iff.1 h₂
    cases ho
    rw [List.append_nil]
    exact hs
  | some a => exact (hf a tr₂ r h₂).append_left hs

theorem printReply_within {P : WinsockCall → Prop} (hE : E .unfinished)
    (hprint : ∀ data, P (.print (.response data))) (shown : Bool) (buffer : Memory)
    (length : Nat) : Within P E (printReply shown buffer length) := by
  apply Within.ite
  · intro _
    apply Within.bind (.perform (hprint _))
    exact fun _ => .ite (fun _ => hE) fun _ => trivial
  · exact fun _ => trivial

theorem conclude_within {P : WinsockCall → Prop} (hE : E .unfinished)
    (hprint : ∀ line : Line, line.isStatistics = false → P (.print line))
    (hsleep : ∀ ms, P (.sleep ms)) (cfg : ConfigurationTable) (lastSend : Bool)
    (verdict : Verdict) : Within P E (conclude cfg lastSend verdict) := by
  have hif (shown : Bool) {line : Line} (h : line.isStatistics = false) :
      Within P E (printIf shown line) :=
    .ite (fun _ => .perform (hprint line h)) fun _ => trivial
  have hpause (result : ℚ) : Within P E (pause cfg lastSend result) := by
    apply Within.ite
    · exact fun _ => trivial
    · intro _
      apply Within.ite
      · exact fun _ => .perform (hsleep _)
      · exact fun _ => .ite (fun _ => .perform (hsleep _)) fun _ => trivial
  cases verdict with
  | counted reply =>
    apply Within.bind
    · apply Within.bind (.perform (hprint _ rfl))
      intro _
      apply Within.bind (printReply_within hE (fun _ => hprint _ rfl) _ _ _)
      exact fun _ => hif _ rfl
    · exact fun _ => (hpause _).bind fun _ => trivial
  | unanswered reply =>
    apply Within.bind (.perform (hprint _ rfl))
    exact fun _ => (hpause _).bind fun _ => trivial
  | givenUp reply => exact Within.bind (.perform (hprint _ rfl)) fun _ => trivial

theorem shown_pause (h : Runs ((pause cfg lastSend result).bind fun _ => .ret cfg') tr o) :
    shownIn tr = [] ∧ o = .ok cfg' := by
  have hp : Passes (.of []) (fun _ => False) (pause cfg lastSend result) :=
    .pause cfg lastSend result
  rcases h.bind_inv with ⟨e, _, h₁⟩ | ⟨_, tr₁, tr₂, rfl, h₁, h₂⟩
  · exact (hp.crashes h₁).elim
  · obtain ⟨rfl, rfl⟩ := runs_ret_iff.1 h₂
    rw [List.append_nil]
    exact ⟨hp.shown h₁, rfl⟩

def Verdict.shown : Verdict → QueryResult
  | .counted reply => .answered reply.waiting
  | .unanswered _ => .silent
  | .givenUp _ => .silent

theorem Verdict.shown_ne (verdict : Verdict) : verdict.shown ≠ .failed := by
  cases verdict <;> exact QueryResult.noConfusion

theorem conclude_shown (h : Runs (conclude cfg lastSend verdict) tr (.ok cfg')) :
    shownIn tr = [verdict.shown] ∧ cfg' = cfg.entered verdict.shown := by
  cases verdict with
  | counted reply =>
    obtain ⟨_, tr₁, tr₂, rfl, h₁, h₂⟩ := h.bind_ok
    obtain ⟨_, tr₃, rfl, h₃⟩ := runs_perform_iff.1 h₁
    have hp : Passes (.of []) (fun _ => True)
        ((printReply cfg.showResponse reply.buffer reply.dataLength.toNat).bind fun _ =>
          printIf cfg.showResponseHex
            (.responseHex (reply.buffer.read 0 reply.dataLength.toNat))) :=
      Within.bind (printReply_within trivial (fun _ => ⟨⟨rfl, rfl⟩, trivial⟩) _ _ _) fun _ =>
        Passes.printIf _ rfl rfl
    obtain ⟨hs, ho⟩ := shown_pause h₂
    cases ho
    rw [shownIn_append, shownIn_cons_some rfl, hp.shown h₃, hs]
    exact ⟨rfl, rfl⟩
  | unanswered reply =>
    obtain ⟨_, tr₁, rfl, h₁⟩ := runs_perform_iff.1 h
    obtain ⟨hs, ho⟩ := shown_pause h₁
    cases ho
    rw [shownIn_cons_some rfl, hs]
    exact ⟨rfl, rfl⟩
  | givenUp reply =>
    obtain ⟨_, tr₁, rfl, h₁⟩ := runs_perform_iff.1 h
    obtain ⟨rfl, ho⟩ := runs_ret_iff.1 h₁
    cases ho
    exact ⟨rfl, rfl⟩

end Conclusion

section Exchanging

open Reporting (Proxied Equipped)

variable {l : Permit} {E : Stop → Prop} {cfg : ConfigurationTable} {sockets : Sockets}

theorem transact_uses (hE : E .unfinished) (lastSend : Bool) (rounds : Nat)
    (he : Equipped l cfg target sockets) (packet : Packet)
    (h : E (.aborted .invalidParameter) ∨
      (cfg.inSocks = true → Proxied cfg target packet.dataLength))
    (hsent : ∀ packet' tr, Runs (makeConnection cfg sockets target packet) tr (.ok (some packet')) →
      l.sent (packet'.buffer.read 0 packet'.dataLength)) :
    Within (Uses l) E (transact cfg target lastSend rounds sockets packet) := by
  apply within_andThen (Reporting.makeConnection he packet h).uses
  intro packet' tr hr
  apply within_andThen Reporting.startClock.uses
  intro clock _ _
  apply within_andThen
  · exact (Reporting.check (.perform ⟨⟨he.exchangeSocket, hsent packet' tr hr⟩, trivial⟩) _).uses
  intro _ _ _
  apply within_andThen
    (Reporting.awaitReply hE cfg he.exchangeSocket clock packet'.dnsId rounds).uses
  intro verdict _ _
  apply Within.bind
  · exact conclude_within hE (fun _ h => h) (fun _ => trivial) cfg lastSend verdict
  · exact fun _ => trivial

theorem exchangePackets_uses (hE : E .unfinished) (lastSend : Bool) (rounds : Nat)
    (he : Equipped l cfg target sockets) (hp : Within (Uses l) E (makePacket cfg))
    (h : E (.aborted .invalidParameter) ∨ (cfg.inSocks = true → ∀ packet tr,
      Runs (makePacket cfg) tr (.ok packet) → Proxied cfg target packet.dataLength))
    (hsent : ∀ packet tr, Runs (makePacket cfg) tr (.ok packet) → ∀ packet' tr',
      Runs (makeConnection cfg sockets target packet) tr' (.ok (some packet')) →
        l.sent (packet'.buffer.read 0 packet'.dataLength)) :
    Within (Uses l) E (exchangePackets cfg target lastSend rounds sockets) := by
  apply within_andThen (Reporting.check (Passes.setTimeouts cfg he.exchangeSocket).passing _).uses
  intro _ _ _
  apply within_andThen (Reporting.check (Passes.setHopLimits cfg he.exchangeSocket).passing _).uses
  intro _ _ _
  apply within_andThen
    (Reporting.check (Passes.setDontFragment cfg he.exchangeSocket).passing _).uses
  intro _ _ _
  apply Within.bind_runs hp
  intro packet tr hr
  exact transact_uses hE lastSend rounds he packet
    (h.imp_right fun h hin => h hin packet tr hr) (hsent packet tr hr)

def openFor (cfg : ConfigurationTable) (sockets : Sockets) : List Socket :=
  if cfg.inSocks then [sockets.normal, sockets.socks] else [sockets.normal]

theorem normal_mem_openFor (cfg : ConfigurationTable) (sockets : Sockets) :
    sockets.normal ∈ openFor cfg sockets := by
  rw [openFor]
  split <;> exact List.mem_cons_self

theorem socks_mem_openFor (sockets : Sockets) (h : cfg.inSocks = true) :
    sockets.socks ∈ openFor cfg sockets := by
  rw [openFor, if_pos h]
  exact List.mem_cons_of_mem _ List.mem_cons_self

theorem equipped_openFor (cfg : ConfigurationTable) (target : SockAddr) (sockets : Sockets) :
    Equipped (.of (openFor cfg sockets)) cfg target sockets where
  normal := normal_mem_openFor cfg sockets
  socks := socks_mem_openFor sockets
  direct _ := trivial
  proxy _ _ := trivial
  greets _ := ⟨normal_mem_openFor cfg sockets, trivial, trivial, fun _ => trivial⟩

theorem transact_concluded
    (h : Runs (transact cfg target lastSend rounds sockets packet) tr (.ok r)) :
    Concluded cfg tr r := by
  have he := equipped_openFor cfg target sockets
  apply (Reporting.makeConnection (E := fun _ => True) he packet (.inl trivial)).concluded _ h
  intro packet tr r h
  have hc : Reporting (.of []) (fun _ => True) startClock := .startClock
  apply hc.concluded _ h
  intro clock tr r h
  apply (Reporting.check (E := fun _ => True)
    (.perform ⟨⟨he.exchangeSocket, trivial⟩, trivial⟩) _).concluded _ h
  intro _ tr r h
  apply (Reporting.awaitReply (E := fun _ => True) trivial cfg he.exchangeSocket clock packet.dnsId
    rounds).concluded _ h
  intro verdict tr r h
  obtain ⟨cfg', tr₁, tr₂, rfl, h₁, h₂⟩ := h.bind_ok
  obtain ⟨rfl, ho⟩ := runs_ret_iff.1 h₂
  cases ho
  rw [List.append_nil]
  obtain ⟨hs, rfl⟩ := conclude_shown h₁
  exact ⟨verdict.shown, hs, verdict.shown_ne, rfl⟩

theorem exchangePackets_concluded
    (h : Runs (exchangePackets cfg target lastSend rounds sockets) tr (.ok r)) :
    Concluded cfg tr r := by
  have he := (equipped_openFor cfg target sockets).exchangeSocket
  apply (Reporting.check (E := fun _ => True) (Passes.setTimeouts cfg he).passing _).concluded _ h
  intro _ tr r h
  apply (Reporting.check (E := fun _ => True) (Passes.setHopLimits cfg he).passing _).concluded _ h
  intro _ tr r h
  apply (Reporting.check (E := fun _ => True)
    (Passes.setDontFragment cfg he).passing _).concluded _ h
  intro _ tr r h
  obtain ⟨packet, tr₁, tr₂, rfl, h₁, h₂⟩ := h.bind_ok
  have hp : Passes (.of []) (fun _ => True) (makePacket cfg) := .makePacket cfg trivial
  exact (transact_concluded h₂).append_left (hp.shown h₁)

end Exchanging

theorem openSockets_within {P : WinsockCall → Prop} {E : Stop → Prop} (cfg : ConfigurationTable)
    (hsocket : ∀ family type, P (.socket family type)) : Within P E (openSockets cfg) := by
  apply Within.ite
  · exact fun _ => Within.bind (.perform (hsocket _ _)) fun _ => trivial
  · intro _
    apply Within.ite
    · intro _
      apply Within.bind (.perform (hsocket _ _))
      exact fun _ => Within.bind (.perform (hsocket _ _)) fun _ => trivial
    · exact fun _ => Within.bind (.perform (hsocket _ _)) fun _ => trivial

theorem openSockets_unshown (cfg : ConfigurationTable) :
    Within Unshown (fun _ => False) (openSockets cfg) :=
  openSockets_within cfg fun _ _ => trivial

/-- A query is shown once, as what it came to, and counts as that. -/
theorem sendProcess_shown
    (h : Runs (Winsock.sendProcess rounds cfg target lastSend) tr (.ok (code, cfg'))) :
    ∃ shown, shownIn tr = [shown] ∧ (code = .failure ↔ shown = .failed) ∧
      cfg' = cfg.entered shown := by
  obtain ⟨sockets, tr₁, tr₂, rfl, h₁, h₂⟩ := h.bind_ok
  rw [shownIn_append, shownIn_unshown ((openSockets_unshown cfg).events h₁), List.nil_append]
  split at h₂
  · obtain ⟨r, tr₃, tr₄, rfl, h₃, h₄⟩ := h₂.bind_ok
    obtain ⟨_, tr₅, rfl, h₅⟩ := runs_perform_iff.1 h₄
    obtain ⟨_, tr₆, rfl, h₆⟩ := runs_perform_iff.1 h₅
    have hc := exchangePackets_concluded h₃
    cases r with
    | none =>
      obtain ⟨rfl, ho⟩ := runs_ret_iff.1 h₆
      cases ho
      have hs : shownIn tr₃ = [.failed] := hc
      rw [shownIn_append, hs]
      exact ⟨.failed, rfl, iff_of_true rfl rfl, rfl⟩
    | some cfg₁ =>
      obtain ⟨rfl, ho⟩ := runs_ret_iff.1 h₆
      cases ho
      obtain ⟨shown, hs, hn, rfl⟩ := hc
      rw [shownIn_append, hs]
      exact ⟨shown, rfl, iff_of_false ExitCode.noConfusion hn, rfl⟩
  · obtain ⟨_, tr₃, rfl, h₃⟩ := runs_perform_iff.1 h₂
    obtain ⟨rfl, ho⟩ := runs_ret_iff.1 h₃
    cases ho
    exact ⟨.failed, rfl, iff_of_true rfl rfl, rfl⟩

end LdnsSelector
