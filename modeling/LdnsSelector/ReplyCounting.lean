import LdnsSelector.Reporting

set_option autoImplicit true

open Prog

namespace LdnsSelector

def receipt : Event Winsock → Option (Option (List UInt8))
  | ⟨.recv _ _, none⟩ => some none
  | ⟨.recv _ _, some bytes⟩ => some (some bytes.1)
  | _ => none

def reading : Event Winsock → Option Int
  | ⟨.queryPerformanceCounter, after⟩ => after
  | _ => none

def frequency : Event Winsock → Option Nat
  | ⟨.queryPerformanceFrequency, frequency⟩ => frequency
  | _ => none

def receipts (tr : List (Event Winsock)) : List (Option (List UInt8)) := tr.filterMap receipt

/-- What the counter showed, from the first reading to the last. -/
def readings (tr : List (Event Winsock)) : List Int := tr.filterMap reading

@[simp] theorem receipts_append (tr tr' : List (Event Winsock)) :
    receipts (tr ++ tr') = receipts tr ++ receipts tr' := List.filterMap_append

@[simp] theorem readings_append (tr tr' : List (Event Winsock)) :
    readings (tr ++ tr') = readings tr ++ readings tr' := List.filterMap_append

def replyOf (clock : Clock) (answer : Option (List UInt8)) (after : Int) : Reply :=
  match answer with
  | none => ⟨zeros, -1, clock.elapsed after⟩
  | some bytes => ⟨zeros.write 0 bytes, bytes.length, clock.elapsed after⟩

def repliesIn (clock : Clock) (tr : List (Event Winsock)) : List Reply :=
  List.zipWith (replyOf clock) (receipts tr) (readings tr)

/-- The replies to a query. Their times are from the first reading of the counter. -/
def repliesTo (tr : List (Event Winsock)) : List Reply :=
  match tr.filterMap frequency, readings tr with
  | frequency :: _, before :: afters =>
    List.zipWith (replyOf ⟨frequency, before⟩) (receipts tr) afters
  | _, _ => []

theorem Blind.unseen {ev : Event Winsock} (h : Blind ev.1) :
    receipt ev = none ∧ frequency ev = none ∧ reading ev = none := by
  obtain ⟨c, x⟩ := ev
  cases c with
  | recv s size => exact h.elim
  | queryPerformanceFrequency => exact h.elim
  | queryPerformanceCounter => exact h.elim
  | _ => exact ⟨rfl, rfl, rfl⟩

structure Unseen (tr : List (Event Winsock)) : Prop where
  receipts : receipts tr = []
  frequencies : tr.filterMap frequency = []
  readings : readings tr = []

theorem Unseen.of_blind {tr : List (Event Winsock)} (h : ∀ ev ∈ tr, Blind ev.1) :
    Unseen tr where
  receipts := List.filterMap_eq_nil_iff.2 fun ev hev => (h ev hev).unseen.1
  frequencies := List.filterMap_eq_nil_iff.2 fun ev hev => (h ev hev).unseen.2.1
  readings := List.filterMap_eq_nil_iff.2 fun ev hev => (h ev hev).unseen.2.2

theorem Unseen.append (h : Unseen tr) (h' : Unseen tr') : Unseen (tr ++ tr') where
  receipts := by rw [receipts_append, h.receipts, h'.receipts, List.append_nil]
  frequencies := by rw [List.filterMap_append, h.frequencies, h'.frequencies, List.append_nil]
  readings := by rw [readings_append, h.readings, h'.readings, List.append_nil]

theorem Passes.unseen {p : Exchange α} (hp : Passes l E p) (h : Runs p tr o) : Unseen tr :=
  .of_blind fun ev hev => (hp.events h ev hev).2

theorem receiveReply_ok (h : Runs (receiveReply cfg s clock) tr (.ok (some reply))) :
    ∃ answer after, receipts tr = [answer] ∧ readings tr = [after] ∧
      reply = replyOf clock answer after := by
  obtain ⟨received, tr₁, tr₂, rfl, h₁, h₂⟩ := h.bind_ok
  obtain ⟨answer, tr₃, rfl, h₃⟩ := runs_perform_iff.1 h₁
  obtain ⟨after, tr₄, rfl, h₄⟩ := runs_perform_iff.1 h₂
  cases after with
  | none =>
    obtain ⟨_, tr₅, rfl, h₅⟩ := runs_perform_iff.1 h₄
    obtain ⟨_, ho⟩ := runs_ret_iff.1 h₅
    cases ho
  | some after =>
    obtain ⟨rfl, ho⟩ := runs_ret_iff.1 h₄
    cases ho
    cases answer with
    | none =>
      obtain ⟨rfl, ho⟩ := runs_ret_iff.1 h₃
      cases ho
      exact ⟨none, after, rfl, rfl, rfl⟩
    | some bytes =>
      obtain ⟨rfl, ho⟩ := runs_ret_iff.1 h₃
      cases ho
      exact ⟨some bytes.1, after, rfl, rfl, rfl⟩

/-- Each `recv` of a part of a run is followed by a reading of the counter. -/
def Paired (tr : List (Event Winsock)) : Prop := (receipts tr).length = (readings tr).length

theorem repliesIn_append (clock : Clock) (h : Paired tr) (tr' : List (Event Winsock)) :
    repliesIn clock (tr ++ tr') = repliesIn clock tr ++ repliesIn clock tr' := by
  rw [repliesIn, receipts_append, readings_append, List.zipWith_append h]
  rfl

theorem Paired.append (h : Paired tr) (h' : Paired tr') : Paired (tr ++ tr') := by
  rw [Paired, receipts_append, readings_append, List.length_append, List.length_append, h, h']

theorem receiveReply_replies (h : Runs (receiveReply cfg s clock) tr (.ok (some reply))) :
    Paired tr ∧ repliesIn clock tr = [reply] := by
  obtain ⟨answer, after, hr, ha, rfl⟩ := receiveReply_ok h
  rw [Paired, repliesIn, hr, ha]
  exact ⟨rfl, rfl⟩

/-- The packet is not valid, and there is time to wait for another one. -/
structure PassedOver (cfg : ConfigurationTable) (dnsId : UInt16) (reply : Reply) : Prop where
  early : reply.waiting < cfg.socketTimeout.toInt
  filled : 0 < reply.dataLength
  invalid : validatePacket cfg reply.buffer reply.dataLength.toNat dnsId = false

/-- Nothing more is waited for: it is too late, nothing has come, or a valid packet has. -/
def Final (cfg : ConfigurationTable) (dnsId : UInt16) (reply : Reply) : Prop :=
  (cfg.socketTimeout.toInt : ℚ) ≤ reply.waiting ∨ reply.dataLength ≤ 0 ∨
    validatePacket cfg reply.buffer reply.dataLength.toNat dnsId = true

/-- The replies that are passed over, and the one that ends the waiting. -/
structure Awaited (cfg : ConfigurationTable) (dnsId : UInt16) (replies : List Reply)
    (last : Reply) : Prop where
  ends : ∃ earlier, replies = earlier ++ [last] ∧ ∀ reply ∈ earlier, PassedOver cfg dnsId reply
  final : Final cfg dnsId last

theorem Awaited.single (h : Final cfg dnsId reply) : Awaited cfg dnsId [reply] reply := by
  refine ⟨⟨[], rfl, ?_⟩, h⟩
  intro reply hr
  cases hr

theorem Awaited.cons (hp : PassedOver cfg dnsId reply) (h : Awaited cfg dnsId replies last) :
    Awaited cfg dnsId (reply :: replies) last := by
  obtain ⟨⟨earlier, rfl, he⟩, hf⟩ := h
  refine ⟨⟨reply :: earlier, rfl, ?_⟩, hf⟩
  intro r hr
  rcases List.mem_cons.1 hr with rfl | hr
  · exact hp
  · exact he r hr

theorem awaitCorrect_awaited (hf : 0 < reply.dataLength)
    (hv : validatePacket cfg reply.buffer reply.dataLength.toNat dnsId = false)
    (h : Runs (awaitCorrect cfg s clock dnsId rounds reply) tr (.ok (some last))) :
    Paired tr ∧ Awaited cfg dnsId (reply :: repliesIn clock tr) last := by
  induction rounds generalizing reply tr with
  | zero =>
    rw [awaitCorrect] at h
    split at h
    · next hlate =>
      obtain ⟨rfl, ho⟩ := runs_ret_iff.1 h
      cases ho
      exact ⟨rfl, .single (.inl hlate)⟩
    · obtain ⟨_, ho⟩ := runs_crash_iff.1 h
      cases ho
  | succ rounds ih =>
    rw [awaitCorrect] at h
    split at h
    · next hlate =>
      obtain ⟨rfl, ho⟩ := runs_ret_iff.1 h
      cases ho
      exact ⟨rfl, .single (.inl hlate)⟩
    · next hearly =>
      have hpass : PassedOver cfg dnsId reply := ⟨not_le.1 hearly, hf, hv⟩
      obtain ⟨reply', tr₁, tr₂, rfl, h₁, h₂⟩ := andThen_ok h
      obtain ⟨hpair, hone⟩ := receiveReply_replies h₁
      rw [repliesIn_append clock hpair, hone]
      split at h₂
      · next hempty =>
        obtain ⟨rfl, ho⟩ := runs_ret_iff.1 h₂
        cases ho
        rw [List.append_nil]
        exact ⟨hpair, .cons hpass (.single (.inr (.inl hempty)))⟩
      split at h₂
      · next hvalid =>
        obtain ⟨rfl, ho⟩ := runs_ret_iff.1 h₂
        cases ho
        rw [List.append_nil]
        exact ⟨hpair, .cons hpass (.single (.inr (.inr hvalid)))⟩
      · next hfilled hinvalid =>
        obtain ⟨_, tr₃, rfl, h₃⟩ := runs_perform_iff.1 h₂
        obtain ⟨hpair', hawait⟩ := ih (not_le.1 hfilled) (Bool.eq_false_iff.2 hinvalid) h₃
        exact ⟨hpair.append hpair', .cons hpass hawait⟩

def Verdict.reply : Verdict → Reply
  | .counted reply => reply
  | .unanswered reply => reply
  | .givenUp reply => reply

theorem waiting_of_mem (h : reply ∈ repliesIn clock tr) :
    ∃ after ∈ readings tr, reply.waiting = clock.elapsed after := by
  rw [repliesIn, ← List.map_uncurry_zip_eq_zipWith] at h
  obtain ⟨⟨answer, after⟩, hm, rfl⟩ := List.mem_map.1 h
  refine ⟨after, (List.of_mem_zip hm).2, ?_⟩
  cases answer <;> rfl

theorem Awaited.mem (h : Awaited cfg dnsId replies last) : last ∈ replies := by
  obtain ⟨earlier, rfl, _⟩ := h.ends
  exact List.mem_append_right _ (List.mem_singleton_self last)

/-- What a query comes to once a reply is there that is not too short. -/
def settledBy (last : Reply) : Verdict :=
  if last.dataLength ≤ 0 then .givenUp last else .counted last

theorem judge_checked (hin : cfg.inSocks = false) (hv : cfg.validate = true)
    (hlen : ¬reply.dataLength < dnsPacketMinsize)
    (h : Runs (judge cfg s clock (some dnsId) rounds reply) tr (.ok (some verdict))) :
    Paired tr ∧ ∃ last, Awaited cfg dnsId (reply :: repliesIn clock tr) last ∧
      verdict = settledBy last := by
  have hpos : 0 < reply.dataLength := by
    rw [dnsPacketMinsize] at hlen
    omega
  have hin : ¬cfg.inSocks = true := Bool.eq_false_iff.1 hin
  rw [judge, if_neg hlen, if_neg hin] at h
  simp only [hv, Bool.true_and, Bool.not_eq_true'] at h
  split at h
  · next hinvalid =>
    obtain ⟨_, tr₁, rfl, h₁⟩ := runs_perform_iff.1 h
    obtain ⟨last, tr₂, tr₃, rfl, h₂, h₃⟩ := andThen_ok h₁
    obtain ⟨hpair, hawait⟩ := awaitCorrect_awaited hpos hinvalid h₂
    have hrest : tr₃ = [] ∧ verdict = settledBy last := by
      rw [settledBy]
      split at h₃
      · next hempty =>
        obtain ⟨rfl, ho⟩ := runs_ret_iff.1 h₃
        cases ho
        exact ⟨rfl, (if_pos hempty).symm⟩
      · next hfilled =>
        obtain ⟨rfl, ho⟩ := runs_ret_iff.1 h₃
        cases ho
        exact ⟨rfl, (if_neg hfilled).symm⟩
    obtain ⟨rfl, hverdict⟩ := hrest
    rw [List.append_nil]
    exact ⟨hpair, last, hawait, hverdict⟩
  · next hvalid =>
    obtain ⟨rfl, ho⟩ := runs_ret_iff.1 h
    cases ho
    refine ⟨rfl, reply, .single (.inr (.inr ?_)), (if_neg (not_le.2 hpos)).symm⟩
    exact Bool.not_eq_false _ ▸ hvalid

theorem unwrapReply_waiting (h : Runs (unwrapReply reply) tr (.ok (some reply'))) :
    reply'.waiting = reply.waiting := by
  rw [unwrapReply] at h
  split at h
  · exact runs_report h
  split at h
  · obtain ⟨_, ho⟩ := runs_ret_iff.1 h
    cases ho
    rfl
  split at h
  · obtain ⟨_, ho⟩ := runs_ret_iff.1 h
    cases ho
    rfl
  · exact runs_report h

theorem judge_waiting (h : Runs (judge cfg s clock dnsId rounds reply) tr (.ok (some verdict))) :
    verdict.reply.waiting = reply.waiting ∨
      ∃ after ∈ readings tr, verdict.reply.waiting = clock.elapsed after := by
  by_cases hlen : reply.dataLength < dnsPacketMinsize
  · rw [judge.eq_def, if_pos hlen] at h
    obtain ⟨_, ho⟩ := runs_ret_iff.1 h
    cases ho
    exact .inl rfl
  by_cases hin : cfg.inSocks = true
  · rw [judge.eq_def, if_neg hlen, if_pos hin] at h
    obtain ⟨reply', tr₁, tr₂, rfl, h₁, h₂⟩ := andThen_ok h
    obtain ⟨_, ho⟩ := runs_ret_iff.1 h₂
    cases ho
    exact .inl (unwrapReply_waiting h₁)
  cases dnsId with
  | none =>
    rw [judge, if_neg hlen, if_neg hin] at h
    obtain ⟨_, ho⟩ := runs_ret_iff.1 h
    cases ho
    exact .inl rfl
  | some dnsId =>
    by_cases hv : cfg.validate = true
    · obtain ⟨_, last, hawait, rfl⟩ := judge_checked (Bool.eq_false_iff.2 hin) hv hlen h
      have hlast : (settledBy last).reply = last := by
        rw [settledBy]
        split <;> rfl
      rw [hlast]
      rcases List.mem_cons.1 hawait.mem with rfl | hm
      · exact .inl rfl
      · exact .inr (waiting_of_mem hm)
    · rw [judge, if_neg hlen, if_neg hin] at h
      simp only [hv, Bool.false_and] at h
      obtain ⟨_, ho⟩ := runs_ret_iff.1 h
      cases ho
      exact .inl rfl

theorem awaitReply_waiting
    (h : Runs (awaitReply cfg s clock dnsId rounds) tr (.ok (some verdict))) :
    ∃ after ∈ readings tr, verdict.reply.waiting = clock.elapsed after := by
  obtain ⟨reply, tr₁, tr₂, rfl, h₁, h₂⟩ := andThen_ok h
  rw [readings_append]
  rcases judge_waiting h₂ with hw | ⟨after, ha, hw⟩
  · obtain ⟨answer, after, _, hr, rfl⟩ := receiveReply_ok h₁
    refine ⟨after, List.mem_append_left _ ?_, hw.trans ?_⟩
    · rw [hr]
      exact List.mem_singleton_self after
    · cases answer <;> rfl
  · exact ⟨after, List.mem_append_right _ ha, hw⟩

/-- What the replies to a query make of the configuration when they are checked. -/
def Tallied (cfg : ConfigurationTable) (dnsId : UInt16) (replies : List Reply)
    (cfg' : ConfigurationTable) : Prop :=
  ∃ first rest, replies = first :: rest ∧
    if first.dataLength < dnsPacketMinsize then rest = [] ∧ cfg' = cfg
    else ∃ last, Awaited cfg dnsId (first :: rest) last ∧
      cfg' = if last.dataLength ≤ 0 then cfg else cfg.markTime last.waiting

theorem check_ok {p : Exchange Bool} (h : Runs (check p text) tr (.ok (some u))) :
    Runs p tr (.ok true) := by
  obtain ⟨b, tr₁, tr₂, rfl, h₁, h₂⟩ := h.bind_ok
  split at h₂
  · next hb =>
    obtain ⟨rfl, _⟩ := runs_ret_iff.1 h₂
    obtain rfl : b = true := hb
    rwa [List.append_nil]
  · obtain ⟨_, tr₃, rfl, h₃⟩ := runs_perform_iff.1 h₂
    obtain ⟨_, ho⟩ := runs_ret_iff.1 h₃
    cases ho

theorem runs_winsock {c : WinsockCall} {x : c.Answer} (h : Runs (winsock c) tr (.ok x)) :
    tr = [⟨c, x⟩] := by
  obtain ⟨x', tr', rfl, h'⟩ := runs_call_iff.1 h
  obtain ⟨rfl, ho⟩ := runs_ret_iff.1 h'
  cases ho
  rfl

theorem startClock_ok (h : Runs startClock tr (.ok (some clock))) :
    tr = [⟨.queryPerformanceFrequency, some clock.frequency⟩,
      ⟨.queryPerformanceCounter, some clock.before⟩] := by
  obtain ⟨frequency, tr₁, rfl, h₁⟩ := runs_perform_iff.1 h
  cases frequency with
  | none =>
    obtain ⟨_, tr₂, rfl, h₂⟩ := runs_perform_iff.1 h₁
    obtain ⟨_, ho⟩ := runs_ret_iff.1 h₂
    cases ho
  | some frequency =>
    obtain ⟨before, tr₂, rfl, h₂⟩ := runs_perform_iff.1 h₁
    cases before with
    | none =>
      obtain ⟨_, tr₃, rfl, h₃⟩ := runs_perform_iff.1 h₂
      obtain ⟨_, ho⟩ := runs_ret_iff.1 h₃
      cases ho
    | some before =>
      obtain ⟨rfl, ho⟩ := runs_ret_iff.1 h₂
      cases ho
      rfl

theorem transact_ok
    (h : Runs (transact cfg target lastSend rounds sockets packet) tr (.ok (some cfg'))) :
    ∃ packet' clock verdict tr₁ tr₂ tr₃, tr = tr₁ ++
        ([⟨.queryPerformanceFrequency, some clock.frequency⟩,
          ⟨.queryPerformanceCounter, some clock.before⟩,
          ⟨.send (cfg.exchangeSocket sockets) (packet'.buffer.read 0 packet'.dataLength), true⟩] ++
        (tr₂ ++ tr₃)) ∧
      Runs (makeConnection cfg sockets target packet) tr₁ (.ok (some packet')) ∧
      Runs (awaitReply cfg (cfg.exchangeSocket sockets) clock packet'.dnsId rounds) tr₂
        (.ok (some verdict)) ∧
      Runs (conclude cfg lastSend verdict) tr₃ (.ok cfg') := by
  obtain ⟨packet', tr₁, s₁, rfl, h₁, k₁⟩ := andThen_ok h
  obtain ⟨clock, tr₂, s₂, rfl, h₂, k₂⟩ := andThen_ok k₁
  obtain ⟨_, tr₃, s₃, rfl, h₃, k₃⟩ := andThen_ok k₂
  obtain ⟨verdict, tr₄, s₄, rfl, h₄, k₄⟩ := andThen_ok k₃
  obtain ⟨cfg₁, tr₅, s₅, rfl, h₅, k₅⟩ := k₄.bind_ok
  obtain ⟨rfl, ho⟩ := runs_ret_iff.1 k₅
  cases ho
  rw [List.append_nil]
  obtain rfl := startClock_ok h₂
  obtain rfl := runs_winsock (check_ok h₃)
  exact ⟨packet', clock, verdict, tr₁, tr₄, tr₅, rfl, h₁, h₄, h₅⟩

theorem exchangePackets_ok
    (h : Runs (exchangePackets cfg target lastSend rounds sockets) tr (.ok (some cfg'))) :
    ∃ packet tr₁ tr₂ tr₃, tr = tr₁ ++ (tr₂ ++ tr₃) ∧ Unseen tr₁ ∧
      Runs (makePacket cfg) tr₂ (.ok packet) ∧
      Runs (transact cfg target lastSend rounds sockets packet) tr₃ (.ok (some cfg')) := by
  have he : cfg.exchangeSocket sockets ∈ (Permit.of [cfg.exchangeSocket sockets]).held :=
    List.mem_singleton_self _
  obtain ⟨_, tr₁, s₁, rfl, h₁, k₁⟩ := andThen_ok h
  obtain ⟨_, tr₂, s₂, rfl, h₂, k₂⟩ := andThen_ok k₁
  obtain ⟨_, tr₃, s₃, rfl, h₃, k₃⟩ := andThen_ok k₂
  obtain ⟨packet, tr₄, s₄, rfl, h₄, k₄⟩ := k₃.bind_ok
  have hu₁ := (Passes.setTimeouts (E := fun _ => True) cfg he).unseen (check_ok h₁)
  have hu₂ := (Passes.setHopLimits (E := fun _ => True) cfg he).unseen (check_ok h₂)
  have hu₃ := (Passes.setDontFragment (E := fun _ => True) cfg he).unseen (check_ok h₃)
  refine ⟨packet, tr₁ ++ (tr₂ ++ tr₃), tr₄, s₄, ?_, hu₁.append (hu₂.append hu₃), h₄, k₄⟩
  simp only [List.append_assoc]

theorem sendProcess_ok
    (h : Runs (Winsock.sendProcess rounds cfg target lastSend) tr (.ok (.success, cfg'))) :
    ∃ sockets tr₁ tr₂, tr = tr₁ ++ (tr₂ ++
        [⟨.closesocket sockets.normal, ()⟩, ⟨.closesocket sockets.socks, ()⟩]) ∧
      Runs (openSockets cfg) tr₁ (.ok sockets) ∧
      Runs (exchangePackets cfg target lastSend rounds sockets) tr₂ (.ok (some cfg')) := by
  obtain ⟨sockets, tr₁, tr₂, rfl, h₁, h₂⟩ := h.bind_ok
  split at h₂
  · obtain ⟨r, tr₃, tr₄, rfl, h₃, h₄⟩ := h₂.bind_ok
    obtain ⟨_, tr₅, rfl, h₅⟩ := runs_perform_iff.1 h₄
    obtain ⟨_, tr₆, rfl, h₆⟩ := runs_perform_iff.1 h₅
    cases r with
    | none =>
      obtain ⟨_, ho⟩ := runs_ret_iff.1 h₆
      cases ho
    | some cfg₁ =>
      obtain ⟨rfl, ho⟩ := runs_ret_iff.1 h₆
      cases ho
      exact ⟨sockets, tr₁, tr₃, rfl, h₁, h₃⟩
  · obtain ⟨_, tr₃, rfl, h₃⟩ := runs_perform_iff.1 h₂
    obtain ⟨_, ho⟩ := runs_ret_iff.1 h₃
    cases ho

theorem Verdict.waiting_of_shown {verdict : Verdict} (h : verdict.shown = .answered waiting) :
    verdict.reply.waiting = waiting := by
  cases verdict with
  | counted reply =>
    cases h
    rfl
  | unanswered reply => cases h
  | givenUp reply => cases h

theorem answered_waiting
    (h : Runs (Winsock.sendProcess rounds cfg target lastSend) tr (.ok (.success, cfg')))
    (hs : .answered waiting ∈ shownIn tr) :
    ∃ (clock : Clock) (pre afters post : List Int),
      readings tr = pre ++ clock.before :: (afters ++ post) ∧
        ∃ after ∈ afters, waiting = clock.elapsed after := by
  obtain ⟨shown, hshown, _, _⟩ := sendProcess_shown h
  obtain ⟨sockets, tr₁, tr₂, rfl, h₁, h₂⟩ := sendProcess_ok h
  obtain ⟨packet, tr₃, tr₄, tr₅, rfl, _, h₄, h₅⟩ := exchangePackets_ok h₂
  obtain ⟨packet', clock, verdict, tr₆, tr₇, tr₈, rfl, h₆, h₇, h₈⟩ := transact_ok h₅
  have hv := (conclude_shown h₈).1
  obtain ⟨after, ha, hw⟩ := awaitReply_waiting h₇
  have hmem : verdict.shown ∈ [shown] := by
    rw [← hshown]
    simp only [shownIn_append, List.mem_append, hv, List.mem_singleton, true_or, or_true]
  rw [hshown, List.mem_singleton] at hs
  rw [List.mem_singleton, ← hs] at hmem
  refine ⟨clock, readings (tr₁ ++ (tr₃ ++ (tr₄ ++ tr₆))), readings tr₇, readings (tr₈ ++
    [⟨.closesocket sockets.normal, ()⟩, ⟨.closesocket sockets.socks, ()⟩]), ?_, after, ha,
    (Verdict.waiting_of_shown hmem).symm.trans hw⟩
  simp only [readings_append, List.append_assoc]
  rfl

theorem elapsed_nonneg (clock : Clock) (h : clock.before ≤ after) : 0 ≤ clock.elapsed after := by
  have hticks : (0 : ℚ) ≤ (after - clock.before : Int) := by exact_mod_cast sub_nonneg.2 h
  have hms : 0 ≤ Binary64.mul (Binary64.round (after - clock.before : Int)) 1000 :=
    Binary64.round_nonneg (mul_nonneg (Binary64.round_nonneg hticks) (by norm_num))
  exact Binary64.round_nonneg (div_nonneg hms (Binary64.round_nonneg (Nat.cast_nonneg _)))

theorem answered_nonneg
    (h : Runs (Winsock.sendProcess rounds cfg target lastSend) tr (.ok (.success, cfg')))
    (hsorted : (readings tr).Pairwise (· ≤ ·)) (hs : .answered waiting ∈ shownIn tr) :
    0 ≤ waiting := by
  obtain ⟨clock, pre, afters, post, hr, after, ha, hw⟩ := answered_waiting h hs
  rw [hr, List.pairwise_append, List.pairwise_cons] at hsorted
  rw [hw]
  exact elapsed_nonneg clock (hsorted.2.1.1 after (List.mem_append_left _ ha))

theorem openSockets_unseen (h : Runs (openSockets cfg) tr o) : Unseen tr := by
  have hw : Within Blind (fun _ => True) (openSockets cfg) :=
    openSockets_within cfg fun _ _ => trivial
  exact .of_blind (hw.events h)

theorem makeConnection_unseen (hin : cfg.inSocks = false)
    (h : Runs (makeConnection cfg sockets target packet) tr (.ok (some packet'))) :
    Unseen tr ∧ packet' = packet := by
  rw [makeConnection, if_neg (Bool.eq_false_iff.1 hin)] at h
  obtain ⟨_, tr₁, tr₂, rfl, h₁, h₂⟩ := andThen_ok h
  obtain rfl := runs_winsock (check_ok h₁)
  obtain ⟨rfl, ho⟩ := runs_ret_iff.1 h₂
  cases ho
  refine ⟨.of_blind fun ev hev => ?_, rfl⟩
  obtain rfl := List.mem_singleton.1 hev
  trivial

theorem conclude_unseen (h : Runs (conclude cfg lastSend verdict) tr o) : Unseen tr := by
  have hw : Within Blind (fun _ => True) (conclude cfg lastSend verdict) :=
    conclude_within trivial (fun _ _ => trivial) (fun _ => trivial) cfg lastSend verdict
  exact .of_blind (hw.events h)

theorem makePacket_dnsId (hraw : cfg.isRaw = false) (hid : cfg.parameterHeader.id = 0)
    (h : Runs (makePacket cfg) tr (.ok packet)) :
    ∃ pid, ⟨.getCurrentProcessId, pid⟩ ∈ tr ∧ packet.dnsId = some (htons pid.toUInt16) := by
  rw [makePacket, if_neg (Bool.eq_false_iff.1 hraw)] at h
  obtain ⟨buffer, tr₁, tr₂, rfl, _, h₂⟩ := h.bind_ok
  obtain ⟨header, tr₃, tr₄, rfl, h₃, h₄⟩ := h₂.bind_ok
  rw [makeHeader, if_pos hid] at h₃
  obtain ⟨pid, tr₅, rfl, h₅⟩ := runs_perform_iff.1 h₃
  obtain ⟨rfl, ho⟩ := runs_ret_iff.1 h₅
  cases ho
  refine ⟨pid, by simp, ?_⟩
  obtain ⟨buffer', tr₆, tr₇, rfl, _, h₇⟩ := h₄.bind_ok
  split at h₇
  · obtain ⟨buffer'', tr₈, tr₉, rfl, _, h₉⟩ := h₇.bind_ok
    obtain ⟨_, ho⟩ := runs_ret_iff.1 h₉
    cases ho
    rfl
  · obtain ⟨_, ho⟩ := runs_ret_iff.1 h₇
    cases ho
    rfl

theorem awaitReply_tallied (hin : cfg.inSocks = false) (hv : cfg.validate = true)
    (h : Runs (awaitReply cfg s clock (some dnsId) rounds) tr (.ok (some verdict))) :
    Tallied cfg dnsId (repliesIn clock tr) (cfg.entered verdict.shown) := by
  obtain ⟨first, tr₁, tr₂, rfl, h₁, h₂⟩ := andThen_ok h
  obtain ⟨hpair, hone⟩ := receiveReply_replies h₁
  rw [repliesIn_append clock hpair, hone]
  refine ⟨first, repliesIn clock tr₂, rfl, ?_⟩
  split
  · next hlen =>
    rw [judge.eq_def, if_pos hlen] at h₂
    obtain ⟨rfl, ho⟩ := runs_ret_iff.1 h₂
    cases ho
    exact ⟨rfl, rfl⟩
  · next hlen =>
    obtain ⟨_, last, hawait, rfl⟩ := judge_checked hin hv hlen h₂
    refine ⟨last, hawait, ?_⟩
    rw [settledBy]
    split <;> rfl

theorem repliesTo_eq (clock : Clock) (s : Socket) (data : List UInt8)
    (tr : List (Event Winsock)) (hpre : Unseen pre) (hpost : Unseen post) :
    repliesTo (pre ++ ([⟨.queryPerformanceFrequency, some clock.frequency⟩,
      ⟨.queryPerformanceCounter, some clock.before⟩, ⟨.send s data, true⟩] ++ (tr ++ post))) =
      repliesIn clock tr := by
  rw [repliesTo, List.filterMap_append, hpre.frequencies]
  simp only [readings_append, receipts_append, hpre.readings, hpre.receipts, hpost.readings,
    hpost.receipts, List.append_nil]
  rfl

/-- Outside SOCKS mode a query whose replies are checked counts the last of them, unless it is
empty. -/
theorem sendProcess_tallied (hin : cfg.inSocks = false) (hraw : cfg.isRaw = false)
    (hid : cfg.parameterHeader.id = 0) (hv : cfg.validate = true)
    (h : Runs (Winsock.sendProcess rounds cfg target lastSend) tr (.ok (.success, cfg'))) :
    ∃ pid, ⟨.getCurrentProcessId, pid⟩ ∈ tr ∧
      Tallied cfg (htons pid.toUInt16) (repliesTo tr) cfg' := by
  obtain ⟨sockets, tr₁, tr₂, rfl, h₁, h₂⟩ := sendProcess_ok h
  obtain ⟨packet, tr₃, tr₄, tr₅, rfl, hu₃, h₄, h₅⟩ := exchangePackets_ok h₂
  obtain ⟨packet', clock, verdict, tr₆, tr₇, tr₈, rfl, h₆, h₇, h₈⟩ := transact_ok h₅
  obtain ⟨hu₆, rfl⟩ := makeConnection_unseen hin h₆
  obtain ⟨pid, hpid, hdns⟩ := makePacket_dnsId hraw hid h₄
  rw [hdns] at h₇
  have hmake : Passes (.of []) (fun _ => True) (makePacket cfg) := .makePacket cfg trivial
  have hpre := (openSockets_unseen h₁).append (hu₃.append ((hmake.unseen h₄).append hu₆))
  have hclose : Unseen [⟨.closesocket sockets.normal, ()⟩, ⟨.closesocket sockets.socks, ()⟩] :=
    ⟨rfl, rfl, rfl⟩
  have hreplies := repliesTo_eq clock (cfg.exchangeSocket sockets)
    (packet'.buffer.read 0 packet'.dataLength) tr₇ hpre ((conclude_unseen h₈).append hclose)
  simp only [List.append_assoc] at hreplies ⊢
  rw [hreplies, (conclude_shown h₈).2]
  exact ⟨pid, by simp [hpid], awaitReply_tallied hin hv h₇⟩

def sampleQuery : ConfigurationTable :=
  { bufferSize := 512, validate := true, socketTimeout := 500, protocol := afInet,
    testDomain := [97], parameterHeader := { flags := 1, questions := 256 },
    parameterQuery := { type := 256, classes := 256 } }

def sampleReplies : List (Event Winsock) :=
  [⟨.socket afInet .datagram, 7⟩, ⟨.setsockopt 7 (.sndTimeo 500), true⟩,
    ⟨.setsockopt 7 (.rcvTimeo 500), true⟩, ⟨.getCurrentProcessId, 0x1234⟩,
    ⟨.connect 7 {} 16, true⟩, ⟨.queryPerformanceFrequency, some 1000⟩,
    ⟨.queryPerformanceCounter, some 5⟩,
    ⟨.send 7 [0x12, 0x34, 1, 0, 0, 1, 0, 0, 0, 0, 0, 0, 1, 97, 0, 0, 1, 0, 1], true⟩,
    ⟨.recv 7 512, some ⟨List.replicate 20 0, by decide⟩⟩,
    ⟨.queryPerformanceCounter, some 15⟩, ⟨.print (.validateError 20 10), ()⟩,
    ⟨.recv 7 512, some ⟨[0x12, 0x34, 0, 0, 0, 1] ++ List.replicate 14 0, by decide⟩⟩,
    ⟨.queryPerformanceCounter, some 25⟩, ⟨.print (.receiveFrom 20 20), ()⟩,
    ⟨.closesocket 7, ()⟩, ⟨.closesocket 0, ()⟩]

theorem sendProcess_tallied_second : ∃ pid : UInt32,
    ⟨.getCurrentProcessId, pid⟩ ∈ sampleReplies ∧
      Tallied sampleQuery (htons pid.toUInt16) (repliesTo sampleReplies)
        (sampleQuery.markTime 20) := by
  have h : Runs (Winsock.sendProcess 2 sampleQuery {} true) sampleReplies
      (.ok (.success, sampleQuery.markTime 20)) := runs_of_replay (by decide +kernel)
  exact sendProcess_tallied rfl rfl rfl rfl h

end LdnsSelector
