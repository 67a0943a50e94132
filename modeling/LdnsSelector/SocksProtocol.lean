import LdnsSelector.Monitor
import LdnsSelector.QueryPacket
import LdnsSelector.QueryRuns
import LdnsSelector.ReplyCounting

set_option autoImplicit true

open Prog Memory

namespace LdnsSelector

def Selects (selection : List UInt8) (method : UInt8) : Prop :=
  selection[0]? = some socksVersion5 ∧ selection[1]? = some method

def Authenticated (answer : List UInt8) : Prop :=
  answer[0]? = some socksUsernamePasswordVersion ∧ answer[1]? = some socksUsernamePasswordSuccess

/-- One byte of a selection is enough: behind it the buffer is clear, and reads as the method that
requires no authentication. -/
def CutSelection (selection : List UInt8) : Prop := selection = [socksVersion5]

/-- One byte of an answer is enough when the length of the username was sent as zero: behind it the
request still stands, and reads as success. -/
def CutAnswer (cfg : ConfigurationTable) (answer : List UInt8) : Prop :=
  answer = [socksUsernamePasswordVersion] ∧ UInt8.ofNat cfg.socksUsername.length = 0

/-- The proxy may be asked to associate after these answers. -/
def Negotiated (cfg : ConfigurationTable) : List (List UInt8) → Prop
  | [selection] => Selects selection socksMethodNoAuthenticationRequired ∨ CutSelection selection
  | [selection, answer] =>
    Selects selection socksMethodUsernamePassword ∧ (Authenticated answer ∨ CutAnswer cfg answer)
  | _ => False

/-- The proxy grants the association, with an address of its own family. -/
def Granted (cfg : ConfigurationTable) (reply : List UInt8) : Prop :=
  reply[0]? = some socksVersion5 ∧ reply[1]? = some socks5ReplySuccess ∧
    (cfg.sockAddrSocks.ssFamily = afInet6 ∧ reply[3]? = some socks5AddressIpv6 ∨
      cfg.sockAddrSocks.ssFamily = afInet ∧ reply[3]? = some socks5AddressIpv4)

def Relays (cfg : ConfigurationTable) (target : SockAddr) (data : List UInt8) : Prop :=
  ∃ header port query, relayHeader cfg target = some (header, port) ∧
    data = header ++ (le16 port ++ query)

/-- What may be said to the proxy after it has given the answers. -/
def Prescribed (cfg : ConfigurationTable) (target : SockAddr) (heard : List (List UInt8))
    (data : List UInt8) : Prop :=
  (heard = [] ∧ data = clientSelection) ∨
  (∃ selection, heard = [selection] ∧ Selects selection socksMethodUsernamePassword ∧
    data = authenticationRequest cfg.socksUsername cfg.socksPassword) ∨
  (Negotiated cfg heard ∧ ∃ localPort, data = associateRequest cfg localPort) ∨
  ∃ earlier reply, heard = earlier ++ [reply] ∧ Negotiated cfg earlier ∧ Granted cfg reply ∧
    Relays cfg target data

/-- The answers since the connection to the proxy was last opened. -/
def hear (heard : List (List UInt8)) : Event Winsock → List (List UInt8)
  | ⟨.socket _ .stream, _⟩ => []
  | ⟨.recv _ _, some bytes⟩ => heard ++ [bytes.1]
  | _ => heard

def proxyMonitor (cfg : ConfigurationTable) (target : SockAddr) :
    Monitor Winsock (List (List UInt8)) where
  next := hear
  allows heard
    | .send _ data => Prescribed cfg target heard data
    | _ => True

theorem zeros_write (bytes : List UInt8) (i : Nat) : zeros.write 0 bytes i = bytes.getD i 0 := by
  have h := write_apply_add zeros 0 bytes i
  rwa [Nat.zero_add] at h

theorem getElem?_of_getD {bytes : List UInt8} (h : bytes.getD i 0 = b) (hi : i < bytes.length) :
    bytes[i]? = some b := by
  rw [List.getD_eq_getElem?_getD, List.getElem?_eq_getElem hi, Option.getD_some] at h
  rw [List.getElem?_eq_getElem hi, h]

theorem lt_length_of_getD {bytes : List UInt8} (h : bytes.getD i 0 ≠ 0) : i < bytes.length := by
  by_contra hle
  rw [List.getD_eq_getElem?_getD, List.getElem?_eq_none (not_lt.1 hle)] at h
  exact h rfl

theorem selects_or_cut (hversion : selection.getD 0 0 = socksVersion5)
    (hmethod : selection.getD 1 0 = method) :
    Selects selection method ∨ CutSelection selection ∧
      method = socksMethodNoAuthenticationRequired := by
  have hpos : 0 < selection.length := lt_length_of_getD (hversion ▸ by decide)
  by_cases hlen : 1 < selection.length
  · exact .inl ⟨getElem?_of_getD hversion hpos, getElem?_of_getD hmethod hlen⟩
  · obtain ⟨b, rfl⟩ := List.length_eq_one_iff.1 (by omega : selection.length = 1)
    exact .inr ⟨congrArg (fun b => [b]) hversion, hmethod.symm⟩

/-- What is received over the request goes for acceptance. -/
theorem authenticated_or_cut
    (hversion : (zeros.write 0 (authenticationRequest cfg.socksUsername cfg.socksPassword)).write
      0 answer 0 = socksUsernamePasswordVersion)
    (hstatus : (zeros.write 0 (authenticationRequest cfg.socksUsername cfg.socksPassword)).write
      0 answer 1 = socksUsernamePasswordSuccess) (hne : answer ≠ []) :
    Authenticated answer ∨ CutAnswer cfg answer := by
  have hread (i : Nat) : (zeros.write 0 (authenticationRequest cfg.socksUsername
      cfg.socksPassword)).write 0 answer i =
        answer.getD i ((authenticationRequest cfg.socksUsername cfg.socksPassword).getD i 0) := by
    have h := write_apply_add (zeros.write 0 (authenticationRequest cfg.socksUsername
      cfg.socksPassword)) 0 answer i
    rwa [Nat.zero_add, zeros_write] at h
  rw [hread] at hversion hstatus
  match answer with
  | [] => exact absurd rfl hne
  | [b] => exact .inr ⟨congrArg (fun b => [b]) hversion, hstatus⟩
  | b :: c :: rest => exact .inl ⟨congrArg some hversion, congrArg some hstatus⟩

section Conversation

variable {cfg : ConfigurationTable} {target : SockAddr} {heard : List (List UInt8)}

theorem monitored_of_uses (hp : Within (Uses ⟨held, fun _ => True, fun _ => False⟩) E p) :
    Monitored (proxyMonitor cfg target) heard p := by
  apply Monitored.of_within hp
  intro s c hc
  cases c with
  | send s data => exact hc.2.elim
  | _ => trivial

theorem heard_append (heard : List (List UInt8)) (tr tr' : List (Event Winsock)) :
    (tr ++ tr').foldl hear heard = tr'.foldl hear (tr.foldl hear heard) := List.foldl_append

theorem heard_passes (hp : Passes l E p) (h : Runs p tr o) (heard : List (List UInt8)) :
    tr.foldl hear heard = heard := by
  apply Monitor.after_eq (M := proxyMonitor {} {})
  intro ev hev s
  obtain ⟨⟨huses, _⟩, hblind⟩ := hp.events h ev hev
  obtain ⟨c, x⟩ := ev
  cases c with
  | socket family type => exact huses.elim
  | recv s size => exact hblind.elim
  | _ => rfl

theorem receiveSocks_heard
    (h : Runs (receiveSocks s buffer) tr (.ok (some buffer'))) :
    ∃ bytes, (∀ heard, tr.foldl hear heard = heard ++ [bytes]) ∧
      buffer' = buffer.write 0 bytes ∧ bytes ≠ [] := by
  obtain ⟨⟨m, n⟩, tr₁, tr₂, rfl, h₁, h₂⟩ := h.bind_ok
  obtain ⟨answer, tr₃, rfl, h₃⟩ := runs_perform_iff.1 h₁
  dsimp only at h₂
  split at h₂
  · next hpos =>
    obtain ⟨rfl, ho⟩ := runs_ret_iff.1 h₂
    cases ho
    cases answer with
    | none =>
      obtain ⟨_, ho⟩ := runs_ret_iff.1 h₃
      cases ho
      exact absurd hpos (by decide)
    | some bytes =>
      obtain ⟨rfl, ho⟩ := runs_ret_iff.1 h₃
      cases ho
      refine ⟨bytes.1, fun _ => rfl, rfl, fun he => ?_⟩
      rw [he] at hpos
      exact absurd hpos (by decide)
  · exact runs_report h₂

theorem monitored_of_reporting {p : Exchange (Option α)}
    (hp : Reporting ⟨held, fun _ => True, fun _ => False⟩ (fun _ => True) p) :
    Monitored (proxyMonitor cfg target) heard p := monitored_of_uses hp.uses

theorem monitored_andThen {p : Exchange (Option α)} {f : α → Exchange (Option β)}
    (hp : Monitored (proxyMonitor cfg target) heard p)
    (hf : ∀ a tr, Runs p tr (.ok (some a)) →
      Monitored (proxyMonitor cfg target) ((proxyMonitor cfg target).after heard tr) (f a)) :
    Monitored (proxyMonitor cfg target) heard (andThen p f) := by
  apply hp.bind
  intro a tr hr
  cases a with
  | none => trivial
  | some a => exact hf a tr hr

theorem monitored_check {p : Exchange Bool} (hp : Monitored (proxyMonitor cfg target) heard p)
    (text : String) : Monitored (proxyMonitor cfg target) heard (check p text) := by
  apply hp.bind
  intro b tr hr
  cases b with
  | false => exact ⟨trivial, fun _ => trivial⟩
  | true => trivial

theorem monitored_send (h : Prescribed cfg target heard data) (s : Socket) (text : String) :
    Monitored (proxyMonitor cfg target) heard (check (winsock (.send s data)) text) :=
  monitored_check (.perform h) text

theorem authenticate_speaks (s : Socket)
    (hs : Selects selection socksMethodUsernamePassword) :
    Monitored (proxyMonitor cfg target) [selection] (authenticate cfg s) := by
  apply Monitored.ite
  · exact fun _ => trivial
  · intro _
    apply monitored_andThen
    · exact monitored_send (.inr (.inl ⟨selection, rfl, hs, rfl⟩)) s _
    · intro _ _ _
      apply monitored_of_reporting
      apply Reporting.andThen (Reporting.receiveSocks (List.mem_singleton_self s) _)
      exact fun _ => .ite (fun _ => .report _) fun _ => rfl

theorem authenticate_admits (hs : Selects selection socksMethodUsernamePassword)
    (h : Runs (authenticate cfg s) tr (.ok (some u))) :
    Negotiated cfg (tr.foldl hear [selection]) := by
  rw [authenticate] at h
  split at h
  · obtain ⟨_, ho⟩ := runs_crash_iff.1 h
    cases ho
  · obtain ⟨_, tr₁, tr₂, rfl, h₁, h₂⟩ := andThen_ok h
    obtain ⟨buffer, tr₃, tr₄, rfl, h₃, h₄⟩ := andThen_ok h₂
    obtain rfl := runs_winsock (check_ok h₁)
    obtain ⟨answer, hheard, rfl, hne⟩ := receiveSocks_heard h₃
    split at h₄
    · exact runs_report h₄
    · next haccept =>
      obtain ⟨rfl, _⟩ := runs_ret_iff.1 h₄
      rw [not_or, not_not, not_not] at haccept
      rw [heard_append, heard_append, hheard]
      exact ⟨hs, authenticated_or_cut haccept.1 haccept.2 hne⟩

theorem negotiate_speaks (s : Socket) (selection : List UInt8) :
    Monitored (proxyMonitor cfg target) [selection]
      (negotiate cfg s (zeros.write 0 selection)) := by
  rw [negotiate, zeros_write, zeros_write]
  apply Monitored.ite
  · exact fun _ => ⟨trivial, fun _ => trivial⟩
  · intro hversion
    apply Monitored.ite
    · intro _
      apply Monitored.ite
      · intro hmethod
        rcases selects_or_cut (not_not.1 hversion) hmethod with hs | ⟨_, hm⟩
        · exact authenticate_speaks s hs
        · exact absurd hm (by decide)
      · exact fun _ => ⟨trivial, fun _ => trivial⟩
    · exact fun _ => trivial

theorem negotiate_admits (h : Runs (negotiate cfg s (zeros.write 0 selection)) tr (.ok (some u))) :
    Negotiated cfg (tr.foldl hear [selection]) := by
  rw [negotiate, zeros_write, zeros_write] at h
  split at h
  · exact runs_report h
  next hversion =>
  split at h
  · split at h
    · next hmethod =>
      rcases selects_or_cut (not_not.1 hversion) hmethod with hs | ⟨_, hm⟩
      · exact authenticate_admits hs h
      · exact absurd hm (by decide)
    · exact runs_report h
  · next hmethod =>
    obtain ⟨rfl, _⟩ := runs_ret_iff.1 h
    exact (selects_or_cut (not_not.1 hversion) (not_not.1 hmethod)).imp_right And.left

theorem readReply_granted (hf : udp.ssFamily = cfg.sockAddrSocks.ssFamily)
    (h : Runs (readReply udp server (zeros.write 0 reply)) tr (.ok (some udp'))) :
    tr = [] ∧ Granted cfg reply := by
  rw [readReply, zeros_write, zeros_write, zeros_write, hf] at h
  split at h
  · exact runs_report h
  next haccept =>
  rw [not_or, not_not, not_not] at haccept
  -- the address type is not zero, so that it was received with all that stands before it
  have hheader (hlen : 3 < reply.length) :
      reply[0]? = some socksVersion5 ∧ reply[1]? = some socks5ReplySuccess :=
    ⟨getElem?_of_getD haccept.1 (by omega), getElem?_of_getD haccept.2 (by omega)⟩
  split at h
  · next hfamily =>
    obtain ⟨rfl, _⟩ := runs_ret_iff.1 h
    have hlen : 3 < reply.length := lt_length_of_getD (hfamily.2 ▸ by decide)
    exact ⟨rfl, (hheader hlen).1, (hheader hlen).2,
      .inl ⟨hfamily.1, getElem?_of_getD hfamily.2 hlen⟩⟩
  split at h
  · next hfamily =>
    obtain ⟨rfl, _⟩ := runs_ret_iff.1 h
    have hlen : 3 < reply.length := lt_length_of_getD (hfamily.2 ▸ by decide)
    exact ⟨rfl, (hheader hlen).1, (hheader hlen).2,
      .inr ⟨hfamily.1, getElem?_of_getD hfamily.2 hlen⟩⟩
  · exact runs_report h

theorem socksUdpAssociate_speaks (udp server : SockAddr) (localPort : UInt16) (s : Socket)
    (addrLen : Nat) : Monitored (proxyMonitor cfg target) []
      (socksUdpAssociate cfg udp localPort s server addrLen) := by
  apply monitored_andThen (monitored_check (.perform trivial) _)
  intro _ tr₁ h₁
  obtain rfl := runs_winsock (check_ok h₁)
  apply monitored_andThen (monitored_send (.inl ⟨rfl, rfl⟩) s _)
  intro _ tr₂ h₂
  obtain rfl := runs_winsock (check_ok h₂)
  apply monitored_andThen
  · exact monitored_of_reporting (Reporting.receiveSocks (List.mem_singleton_self s) _)
  intro buffer tr₃ h₃
  obtain ⟨selection, hheard, rfl, _⟩ := receiveSocks_heard h₃
  change Monitored _ (tr₃.foldl hear []) _
  rw [hheard, List.nil_append]
  apply monitored_andThen (negotiate_speaks s selection)
  intro _ tr₄ h₄
  have hadmitted := negotiate_admits h₄
  apply monitored_andThen (monitored_send (.inr (.inr (.inl ⟨hadmitted, localPort, rfl⟩))) s _)
  intro _ _ _
  apply monitored_of_reporting
  exact Reporting.andThen (Reporting.receiveSocks (List.mem_singleton_self s) _) fun _ =>
    Reporting.readReply udp server _

theorem socksUdpAssociate_grants (hf : udp.ssFamily = cfg.sockAddrSocks.ssFamily)
    (h : Runs (socksUdpAssociate cfg udp localPort s server addrLen) tr (.ok (some udp'))) :
    ∃ earlier reply, tr.foldl hear [] = earlier ++ [reply] ∧ Negotiated cfg earlier ∧
      Granted cfg reply := by
  obtain ⟨_, tr₁, r₁, rfl, h₁, k₁⟩ := andThen_ok h
  obtain ⟨_, tr₂, r₂, rfl, h₂, k₂⟩ := andThen_ok k₁
  obtain ⟨_, tr₃, r₃, rfl, h₃, k₃⟩ := andThen_ok k₂
  obtain ⟨_, tr₄, r₄, rfl, h₄, k₄⟩ := andThen_ok k₃
  obtain ⟨_, tr₅, r₅, rfl, h₅, k₅⟩ := andThen_ok k₄
  obtain ⟨_, tr₆, r₆, rfl, h₆, k₆⟩ := andThen_ok k₅
  obtain rfl := runs_winsock (check_ok h₁)
  obtain rfl := runs_winsock (check_ok h₂)
  obtain rfl := runs_winsock (check_ok h₅)
  obtain ⟨selection, hselection, rfl, _⟩ := receiveSocks_heard h₃
  obtain ⟨reply, hreply, rfl, _⟩ := receiveSocks_heard h₆
  obtain ⟨rfl, hgranted⟩ := readReply_granted hf k₆
  refine ⟨tr₄.foldl hear [selection], reply, ?_, negotiate_admits h₄, hgranted⟩
  simp only [heard_append, hreply, hselection]
  rfl

theorem connectLocal_heard (h : Runs (connectLocal s udp addrLen) tr (.ok (some localPort)))
    (heard : List (List UInt8)) : tr.foldl hear heard = heard := by
  obtain ⟨_, tr₁, tr₂, rfl, h₁, h₂⟩ := andThen_ok h
  obtain rfl := runs_winsock (check_ok h₁)
  obtain ⟨answer, tr₃, rfl, h₃⟩ := runs_perform_iff.1 h₂
  cases answer with
  | none => exact runs_report h₃
  | some addr =>
    obtain ⟨rfl, _⟩ := runs_ret_iff.1 h₃
    rfl

theorem makeConnection_speaks (hin : cfg.inSocks = true) (sockets : Sockets) (packet : Packet) :
    Monitored (proxyMonitor cfg target) [] (makeConnection cfg sockets target packet) := by
  rw [makeConnection, if_pos hin]
  apply monitored_andThen
  · exact monitored_of_reporting (Reporting.connectLocal (List.mem_singleton_self _) trivial _)
  intro localPort tr₁ h₁
  change Monitored _ (tr₁.foldl hear []) _
  rw [connectLocal_heard h₁]
  apply monitored_andThen (socksUdpAssociate_speaks _ _ localPort _ _)
  intro udp _ _
  apply monitored_of_reporting
  apply Reporting.andThen
  · exact Reporting.check (.perform ⟨⟨List.mem_singleton_self _, trivial⟩, trivial⟩) _
  · exact fun _ => Reporting.makeRelayed cfg target packet (.inl trivial)

theorem makeConnection_prescribed (hin : cfg.inSocks = true)
    (h : Runs (makeConnection cfg sockets target packet) tr (.ok (some packet'))) :
    Prescribed cfg target (tr.foldl hear []) (packet'.buffer.read 0 packet'.dataLength) := by
  rw [makeConnection, if_pos hin] at h
  obtain ⟨localPort, tr₁, r₁, rfl, h₁, k₁⟩ := andThen_ok h
  obtain ⟨udp, tr₂, r₂, rfl, h₂, k₂⟩ := andThen_ok k₁
  obtain ⟨_, tr₃, r₃, rfl, h₃, k₃⟩ := andThen_ok k₂
  obtain rfl := runs_winsock (check_ok h₃)
  have hf : { cfg.sockAddrSocks with port := 0 : SockAddr }.ssFamily =
      cfg.sockAddrSocks.ssFamily := rfl
  obtain ⟨earlier, reply, hheard, hadmitted, hgranted⟩ := socksUdpAssociate_grants hf h₂
  obtain ⟨rfl, header, port, hr, hdata⟩ := makeRelayed_ok k₃
  have hrelays : Relays cfg target (packet'.buffer.read 0 packet'.dataLength) :=
    ⟨header, port, packet.buffer.read 0 packet.dataLength, hr, hdata⟩
  refine .inr (.inr (.inr ⟨earlier, reply, ?_, hadmitted, hgranted, hrelays⟩))
  rw [heard_append, connectLocal_heard h₁, heard_append, hheard]
  rfl

theorem startClock_heard (h : Runs startClock tr (.ok (some clock))) (heard : List (List UInt8)) :
    tr.foldl hear heard = heard := by
  rw [startClock_ok h]
  rfl

theorem transact_speaks (hin : cfg.inSocks = true) (lastSend : Bool) (rounds : Nat)
    (sockets : Sockets) (packet : Packet) : Monitored (proxyMonitor cfg target) []
      (transact cfg target lastSend rounds sockets packet) := by
  have he : cfg.exchangeSocket sockets ∈ [cfg.exchangeSocket sockets] := List.mem_singleton_self _
  apply monitored_andThen (makeConnection_speaks hin sockets packet)
  intro packet' tr₁ h₁
  change Monitored _ (tr₁.foldl hear []) _
  have hp := makeConnection_prescribed hin h₁
  apply monitored_andThen
  · have hclock : Reporting ⟨[], fun _ => True, fun _ => False⟩ (fun _ => True) startClock :=
      Reporting.startClock
    exact monitored_of_reporting hclock
  intro clock tr₂ h₂
  change Monitored _ (tr₂.foldl hear _) _
  rw [startClock_heard h₂]
  apply monitored_andThen (monitored_send hp _ _)
  intro _ _ _
  apply monitored_andThen
  · exact monitored_of_reporting (Reporting.awaitReply trivial cfg he clock _ rounds)
  intro verdict _ _
  have hconclude : Within (Uses ⟨[], fun _ => True, fun _ => False⟩) (fun _ => True)
      (conclude cfg lastSend verdict) :=
    conclude_within trivial (fun _ h => h) (fun _ => trivial) cfg lastSend verdict
  exact monitored_of_uses (hconclude.bind fun _ => trivial)

theorem monitored_passes {p : Exchange Bool} {f : Unit → Exchange (Option β)}
    (hp : Passes ⟨held, fun _ => True, fun _ => False⟩ (fun _ => True) p) (text : String)
    (hf : Monitored (proxyMonitor cfg target) heard (f ())) :
    Monitored (proxyMonitor cfg target) heard (andThen (check p text) f) := by
  apply monitored_andThen (monitored_of_reporting (Reporting.check hp.passing text))
  intro _ tr h
  change Monitored _ (tr.foldl hear heard) _
  rw [heard_passes hp (check_ok h)]
  exact hf

theorem exchangePackets_speaks (hin : cfg.inSocks = true) (lastSend : Bool) (rounds : Nat)
    (sockets : Sockets) : Monitored (proxyMonitor cfg target) []
      (exchangePackets cfg target lastSend rounds sockets) := by
  have he : cfg.exchangeSocket sockets ∈ [cfg.exchangeSocket sockets] := List.mem_singleton_self _
  apply monitored_passes (Passes.setTimeouts cfg he)
  apply monitored_passes (Passes.setHopLimits cfg he)
  apply monitored_passes (Passes.setDontFragment cfg he)
  have hmake : Passes ⟨[], fun _ => True, fun _ => False⟩ (fun _ => True) (makePacket cfg) :=
    Passes.makePacket cfg trivial
  apply (monitored_of_uses hmake.uses).bind
  intro packet tr h
  change Monitored _ (tr.foldl hear []) _
  rw [heard_passes hmake h]
  exact transact_speaks hin lastSend rounds sockets packet

theorem sendProcess_speaks (hin : cfg.inSocks = true) (rounds : Nat) (lastSend : Bool)
    (heard : List (List UInt8)) : Monitored (proxyMonitor cfg target) heard
      (Winsock.sendProcess rounds cfg target lastSend) := by
  apply Monitored.bind
  · have hopen : Within (fun c : WinsockCall => ∃ family type, c = .socket family type)
        (fun _ => True) (openSockets cfg) :=
      openSockets_within cfg fun family type => ⟨family, type, rfl⟩
    apply Monitored.of_within hopen
    rintro s _ ⟨family, type, rfl⟩
    trivial
  intro sockets tr h
  obtain ⟨_, ho, hopening⟩ := runs_openSockets h
  cases ho
  rw [Opening, if_pos hin] at hopening
  obtain rfl := hopening
  change Monitored _ [] _
  apply Monitored.ite
  · intro _
    apply (exchangePackets_speaks hin lastSend rounds sockets).bind
    intro result _ _
    cases result with
    | none => exact ⟨trivial, fun _ => ⟨trivial, fun _ => trivial⟩⟩
    | some cfg' => exact ⟨trivial, fun _ => ⟨trivial, fun _ => trivial⟩⟩
  · exact fun _ => ⟨trivial, fun _ => trivial⟩

theorem monitored_outputs (hp : Within Outputs E p) :
    Monitored (proxyMonitor cfg target) heard p := by
  apply Monitored.of_within hp
  intro s c hc
  cases c with
  | send s data => exact hc.elim
  | _ => trivial

theorem proxyMonitor_results (cfg : ConfigurationTable) (results : ResultBlock) :
    proxyMonitor { cfg with toResultBlock := results } = proxyMonitor cfg := rfl

theorem composes_speaking (cfg : ConfigurationTable) (target : SockAddr) :
    Composes fun p => ∀ heard, Monitored (proxyMonitor cfg target) heard p where
  ret _ _ := trivial
  bind hp hf heard := (hp heard).bind fun a tr hr => hf a tr hr _

theorem sendRequests_speaks (hin : cfg.inSocks = true) (rounds : Nat)
    (heard : List (List UInt8)) : Monitored (proxyMonitor cfg cfg.sockAddrNormal) heard
      (Winsock.sendRequests rounds cfg) := by
  have hC := composes_speaking cfg cfg.sockAddrNormal
  -- only results change from a query to the next, and what may be said does not depend on them
  have hsend (results : ResultBlock) (lastSend : Bool) (heard : List (List UInt8)) :
      Monitored (proxyMonitor cfg cfg.sockAddrNormal) heard
        (Winsock.sendProcess rounds { cfg with toResultBlock := results } cfg.sockAddrNormal
          lastSend) := by
    rw [← proxyMonitor_results cfg results]
    apply sendProcess_speaks
    exact hin
  have hend (cfg' : ConfigurationTable) (x : ExitCode × ConfigurationTable)
      (heard : List (List UInt8)) : Monitored (proxyMonitor cfg cfg.sockAddrNormal) heard
        ((closeOutputFile cfg').bind fun _ => .ret x) :=
    (monitored_outputs (closeOutputFile_outputs cfg')).bind fun _ _ _ => trivial
  have hprint (cfg' : ConfigurationTable) (heard : List (List UInt8)) :
      Monitored (proxyMonitor cfg cfg.sockAddrNormal) heard ((printProcess cfg').bind fun _ =>
        (closeOutputFile cfg').bind fun _ => .ret (ExitCode.success, cfg')) :=
    (monitored_outputs (printProcess_outputs cfg')).bind fun _ _ _ => hend cfg' _ _
  rw [Winsock.sendRequests]
  apply Monitored.ite
  · intro _
    apply (hC.sendUntilFull 0x10000 cfg (by omega) hsend heard).bind
    intro x _ _
    apply Monitored.ite
    · exact fun _ => trivial
    · exact fun _ => ⟨trivial, fun _ => hprint x.2 _⟩
  · intro _
    apply (hC.sendTimes _ cfg hsend heard).bind
    intro x _ _
    exact Monitored.ite (fun _ => hend x.2 _ _) fun _ => hprint x.2 _

/-- Whatever a proxy answers, all that is said to it is what is prescribed after the answers: one
that is cut short may go for one that selects no authentication or accepts the credentials. -/
theorem dnspingMain_speaks (hp : prepare env argv cfg₀ = .ok () cfg) (hin : cfg.inSocks = true)
    (h : Runs (Winsock.dnspingMain rounds env argv cfg₀)
      (pre ++ ⟨.send s data, sent⟩ :: post) o) :
    Prescribed cfg cfg.sockAddrNormal (pre.foldl hear []) data := by
  have hm : Monitored (proxyMonitor cfg cfg.sockAddrNormal) []
      (Winsock.dnspingMain rounds env argv cfg₀) := by
    rw [Winsock.dnspingMain, hp]
    exact Monitored.ite (fun _ => trivial) fun _ => sendRequests_speaks hin rounds []
  exact hm.allows h

end Conversation

def associating : List (Event Winsock) :=
  [⟨.socket afInet .stream, 7⟩, ⟨.socket afInet .datagram, 8⟩,
    ⟨.setsockopt 8 (.sndTimeo 2000), true⟩, ⟨.setsockopt 8 (.rcvTimeo 2000), true⟩,
    ⟨.getCurrentProcessId, 0x1234⟩, ⟨.connect 8 ⟨afInet, [10, 0, 0, 2], 0⟩ 16, true⟩,
    ⟨.getsockname 8, some ⟨afInet, [10, 0, 0, 3], 0x1234⟩⟩,
    ⟨.connect 7 ⟨afInet, [10, 0, 0, 2], htons 1080⟩ 16, true⟩,
    ⟨.send 7 [5, 2, 0, 2], true⟩, ⟨.recv 7 4096, some ⟨[5, 0], by decide⟩⟩,
    ⟨.send 7 [5, 3, 0, 1, 0, 0, 0, 0, 0x34, 0x12], true⟩,
    ⟨.recv 7 4096, some ⟨[5, 0, 0, 1, 10, 0, 0, 2, 4, 210], by decide⟩⟩,
    ⟨.connect 8 ⟨afInet, [10, 0, 0, 2], htons 1234⟩ 16, true⟩,
    ⟨.queryPerformanceFrequency, some 1000⟩, ⟨.queryPerformanceCounter, some 5⟩]

def relayedQuery : List UInt8 := [0, 0, 0, 1, 10, 0, 0, 1, 0, 53] ++ plainQuery

theorem dnspingMain_speaks_associating : ∃ cfg x,
    Runs (Winsock.dnspingMain 0 proxiedMachine proxiedCommand {})
      (associating ++ [⟨.send 8 relayedQuery, false⟩, ⟨.print (.error sendErrorText), ()⟩,
        ⟨.closesocket 7, ()⟩, ⟨.closesocket 8, ()⟩]) (.ok x) ∧
      associating.foldl hear [] = [[5, 0], [5, 0, 0, 1, 10, 0, 0, 2, 4, 210]] ∧
      Prescribed cfg cfg.sockAddrNormal (associating.foldl hear []) relayedQuery := by
  have hr : ∃ x, Runs (Winsock.dnspingMain 0 proxiedMachine proxiedCommand {})
      (associating ++ [⟨.send 8 relayedQuery, false⟩, ⟨.print (.error sendErrorText), ()⟩,
        ⟨.closesocket 7, ()⟩, ⟨.closesocket 8, ()⟩]) (.ok x) :=
    exists_runs_of_replay (by decide +kernel)
  obtain ⟨x, hr⟩ := hr
  have hp : prepare proxiedMachine proxiedCommand {} =
      .ok () { plainSetting with
        sockAddrSocks := ⟨afInet, [10, 0, 0, 2], htons 1080⟩
        targetStringSocks := wide "10.0.0.2" } := rfl
  exact ⟨_, x, hr, rfl, dnspingMain_speaks hp (by decide) hr⟩

end LdnsSelector
