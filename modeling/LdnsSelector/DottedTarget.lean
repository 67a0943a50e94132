import LdnsSelector.AddressString
import LdnsSelector.PingVerdict

set_option autoImplicit true

namespace LdnsSelector

/-- A dotted address that a ping can be given. It has seven characters at least. -/
structure DottedTarget (protocol : UInt16) (ip : WString) (text : NarrowString) : Prop where
  length : 7 ≤ ip.length ∧ ip.length ≤ 15
  family : protocol ≠ afInet6
  begins : text ≠ [] ∧ text.head? ≠ some asciiPeriod
  complete : (parts text).length ≤ 4
  fits : ∀ part ∈ parts text, decimalValue part < 256
  nonzero : ∃ part ∈ parts text, decimalValue part ≠ 0

section Dotted

variable {inetPton : NarrowString → UInt16 → Option (List UInt8)}

theorem subset_fillParts (zero : α) (xs : List α) : xs ⊆ fillParts zero xs := by
  intro x h
  match xs with
  | [] => exact h
  | [_] =>
    simp only [fillParts, List.mem_cons, List.not_mem_nil, or_false] at h ⊢
    exact .inr (.inr (.inr h))
  | [_, _] =>
    simp only [fillParts, List.mem_cons, List.not_mem_nil, or_false] at h ⊢
    tauto
  | [_, _, _] =>
    simp only [fillParts, List.mem_cons, List.not_mem_nil, or_false] at h ⊢
    tauto
  | _ :: _ :: _ :: _ :: _ => exact h

theorem forall_fillParts_iff (C : Nat → Prop) (h0 : C 0) (s : NarrowString) :
    (∀ n ∈ fillParts 0 ((parts s).map decimalValue), C n) ↔
      ∀ part ∈ parts s, C (decimalValue part) := by
  apply Iff.intro
  · intro h part hpart
    exact h _ (subset_fillParts 0 _ (List.mem_map_of_mem hpart))
  · intro h n hn
    rcases mem_fillParts hn with rfl | hn
    · exact h0
    · obtain ⟨part, hpart, rfl⟩ := List.mem_map.1 hn
      exact h part hpart

theorem checkEmptyBuffer_iff (addr : List UInt8) :
    checkEmptyBuffer addr ↔ ∀ n ∈ addr.map UInt8.toNat, n = 0 := by
  rw [checkEmptyBuffer, List.all_eq_true, List.forall_mem_map]
  apply forall₂_congr
  intro b _
  rw [decide_eq_true_iff, ← UInt8.toNat_inj]
  rfl

theorem usable_dotted_iff (hp : ReadsDotted inetPton) (hd : isDotted s) :
    Usable (addressStringToBinary inetPton s afInet) ↔
      s.head? ≠ some asciiPeriod ∧ (parts s).length ≤ 4 ∧
        (∀ part ∈ parts s, decimalValue part < 256) ∧
          ∃ part ∈ parts s, decimalValue part ≠ 0 := by
  have hzero (addr : List UInt8)
      (h : addr.map UInt8.toNat = fillParts 0 ((parts s).map decimalValue)) :
      checkEmptyBuffer addr = false ↔ ∃ part ∈ parts s, decimalValue part ≠ 0 := by
    rw [Bool.eq_false_iff, ne_eq, checkEmptyBuffer_iff, h,
      forall_fillParts_iff (· = 0) rfl]
    simp only [not_forall, exists_prop, ne_eq]
  apply Iff.intro
  · rintro ⟨addr, haddr, he⟩
    obtain ⟨hhead, hlen, hvalues⟩ := (addressStringToBinary_dotted hp hd addr).1 haddr
    have hfits := ((map_toNat_eq_iff addr _).1 hvalues).1
    rw [forall_fillParts_iff (· < 256) (by decide)] at hfits
    exact ⟨hhead, hlen, hfits, (hzero addr hvalues).1 he⟩
  · rintro ⟨hhead, hlen, hfits, hne⟩
    rw [← forall_fillParts_iff (· < 256) (by decide)] at hfits
    have hvalues := (map_toNat_eq_iff _ _).2 ⟨hfits, rfl⟩
    exact ⟨_, (addressStringToBinary_dotted hp hd _).2 ⟨hhead, hlen, hvalues⟩,
      (hzero _ hvalues).2 hne⟩

theorem dotted_characters (hd : isDotted s) : asciiColon ∉ s ∧ s.any domainChar = false := by
  have hc := isDotted_iff.1 hd
  apply And.intro
  · intro h
    rcases hc _ h with h | h
    · exact absurd h (by decide)
    · exact absurd h.2 (by decide)
  · rw [List.any_eq_false]
    intro c h
    rcases hc c h with rfl | h
    · decide
    · have h0 : 48 ≤ c.toNat := h.1
      have h9 : c.toNat ≤ 57 := h.2
      simp only [domainChar, Bool.or_eq_true, decide_eq_true_eq, UInt8.lt_iff_toNat_lt,
        ← UInt8.toNat_inj]
      simp
      omega

/-- A ping of a dotted address is given a target when its parts are four numbers, or fewer, that
fit into a byte each and are not all zero. -/
theorem reachesTarget_dotted_iff (hp : ReadsDotted inetPton)
    (henv : env.addressStringToBinary = addressStringToBinary inetPton)
    (hd : isDotted (env.wideCharToMultiByte (cStr strDnsIp))) :
    ReachesTarget env moduleFileName strDnsIp strUrl cfg ↔
      (env.setConsoleCtrlHandler = true ∧ env.wsaStartup = true) ∧
        env.dnsTypeNameToHex (wide "A") ≠ 0 ∧ UrlPasses env (cStr strUrl) cfg ∧
          IsOperand env (cStr strDnsIp) ∧ Opened env cfg ∧
            DottedTarget (requestedProtocol (cStr strUrl)) (cStr strDnsIp)
              (env.wideCharToMultiByte (cStr strDnsIp)) := by
  obtain ⟨hcolon, hdomain⟩ := dotted_characters hd
  have hdomain' : ¬ (env.wideCharToMultiByte (cStr strDnsIp)).any domainChar :=
    Bool.eq_false_iff.1 hdomain
  rw [reachesTarget_iff]
  apply Iff.intro
  · intro h
    have ha := h.accepted
    rw [TargetAccepted, if_neg hcolon, if_neg hdomain', henv, usable_dotted_iff hp hd] at ha
    obtain ⟨_, _, hne, hmin, hmax, hfam, hhead, hlen, hfits, hnz⟩ := ha
    exact ⟨h.started, h.typed, h.passes, h.operand, h.opened,
      ⟨hmin, hmax⟩, hfam, ⟨hne, hhead⟩, hlen, hfits, hnz⟩
  · rintro ⟨hstarted, htyped, hpasses, hoperand, hopened, ht⟩
    refine ⟨hstarted, htyped, hpasses, hoperand, ?_, hopened⟩
    obtain ⟨hmin, hmax⟩ := ht.length
    rw [TargetAccepted, if_neg hcolon, if_neg hdomain', henv, usable_dotted_iff hp hd]
    exact ⟨by omega, by omega, ht.begins.1, hmin, hmax, ht.family, ht.begins.2, ht.complete,
      ht.fits, ht.nonzero⟩

theorem reachesTarget_dotted_iff_short :
    ReachesTarget { plainMachine with addressStringToBinary := addressStringToBinary readDotted }
      (wide "dns_selector.exe") (wide "010.0.2") dnsPingUrl {} :=
  (reachesTarget_dotted_iff readsDotted_readDotted rfl (by decide)).2
    ⟨⟨rfl, rfl⟩, by decide, .inr (.inr ⟨by decide, fun _ _ => by decide⟩),
      ⟨by decide, by decide, by decide⟩, .inl rfl,
      ⟨by decide, by decide, by decide, by decide, by decide, by decide⟩⟩

end Dotted

end LdnsSelector
