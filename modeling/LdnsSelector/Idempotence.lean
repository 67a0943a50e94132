import LdnsSelector.AdapterEffects
import LdnsSelector.ServerOptimality

set_option autoImplicit true

namespace LdnsSelector

open Prog

/-- `info'` is the adapter `info` listed again with the pair that was set on it. Its byte
counters are its own. -/
structure AdapterInfo.ReadBack (info : AdapterInfo) (dns1 dns2 : WString)
    (info' : AdapterInfo) : Prop where
  id : info'.id = info.id
  dhcp : info'.dhcp = info.dhcp
  strDns1 : info'.strDns1 = dns1
  strDns2 : info'.strDns2 = dns2

theorem backupDns_fixed (h : info.ReadBack dns1 (backupDns info dns1) info') :
    backupDns info' dns1 = backupDns info dns1 := by
  cases hd : info.dhcp with
  | true => rw [backupDns_dhcp (h.dhcp.trans hd), backupDns_dhcp hd]
  | false =>
    rw [backupDns_static (h.dhcp.trans hd), h.strDns1, h.strDns2, if_neg (not_not_intro rfl)]
    split
    · rfl
    · have he : backupDns info dns1 = dns1 := not_not.1 ‹_›
      by_cases hempty : dns1 = []
      · rw [he, hempty]
      · exact absurd he (backupDns_ne hempty)

theorem secondDns_fixed (h : info.ReadBack dns1 (secondDns info dns1 s) info') :
    secondDns info' dns1 s = secondDns info dns1 s := by
  by_cases hs : s = []
  · simp only [secondDns, if_pos hs] at h ⊢
    exact backupDns_fixed h
  · simp only [secondDns, if_neg hs]

section Again

variable {layout : Layout} {m : DnsMap}

/-- After a run that succeeds, a run that sees the same list, the same ping outcomes and the
same adapter first makes the same switch once more, and so changes nothing. -/
theorem autoSelectDns_again {os : PingOutcomes layout m}
    (h : SelectionRun layout sorter os tr rest (.ok .success)) :
    ∃ info vec dns1 dns2,
      rest = [listed .success (info :: vec), switched info.id dns1 dns2 .success] ∧
      ∀ rest' o, SelectionRun layout sorter os [fetched ∅ .success m] rest' o →
        (∀ res vec', listed res vec' ∈ rest' →
          res = .success ∧ ∃ info' ∈ vec'.head?, info.ReadBack dns1 dns2 info') →
        ∃ info' vec' res, o = .ok res ∧
          rest' = [listed .success (info' :: vec'), switched info.id dns1 dns2 res] ∧
          ∀ cfg : Configuration,
            (cfg.after (tr ++ (os.outcomes.map pinged ++ rest))).after
              ([fetched ∅ .success m] ++ (os.outcomes.map pinged ++ rest')) =
            cfg.after (tr ++ (os.outcomes.map pinged ++ rest)) := by
  obtain ⟨_, he, hf⟩ := h.final
  cases he
  rcases hf.effect with ⟨_, hne⟩ | ⟨info, vec, dns1, s, hsel, rfl⟩
  · exact absurd rfl hne
  · refine ⟨info, vec, dns1, secondDns info dns1 s, rfl, ?_⟩
    intro rest' o h' hlist
    obtain ⟨res, rfl, hf'⟩ := h'.final
    have hrest : ∃ info' vec', rest' = [listed .success (info' :: vec'),
        switched info.id dns1 (secondDns info dns1 s) res] := by
      cases hf' with
      | noValidDns hsel' =>
        rw [hsel] at hsel'
        cases hsel'
      | chosen hsel' hs =>
        rw [hsel] at hsel'
        cases hsel'
        cases hs with
        | unlisted hr => exact absurd (hlist _ _ List.mem_cons_self).1 hr
        | noAdapter =>
          obtain ⟨_, info', hm, _⟩ := hlist _ _ List.mem_cons_self
          cases hm
        | @switched info' vec' =>
          obtain ⟨_, _, hm, hread⟩ := hlist _ _ List.mem_cons_self
          cases hm
          refine ⟨info', vec', ?_⟩
          rw [secondDns_fixed hread, hread.id]
    obtain ⟨info', vec', rfl⟩ := hrest
    refine ⟨info', vec', res, rfl, rfl, ?_⟩
    intro cfg
    rw [after_append, after_append, (Quiet.fetched _ _ _).after, after_append, after_append,
      (Quiet.pings _).after, (Quiet.pings _).after]
    change (if res = .success then Function.update (Function.update (cfg.after tr) _ _) _ _
      else Function.update (cfg.after tr) _ _) = Function.update (cfg.after tr) _ _
    split
    · exact Function.update_idem _ _ _
    · rfl

end Again

section Examples

def loneOutcome : PingOutcomes .stored loneVip :=
  ⟨lonePing, by decide⟩

theorem loneRun_first : SelectionRun .stored (.insertion _) loneOutcome
    [fetched ∅ .success loneVip] (switchingTo (ethernet 1) []) (.ok .success) where
  obtained := runs_of_replay rfl
  selected := runs_of_replay rfl

def ethernetAgain : AdapterInfo :=
  ⟨1, wide "Ethernet", wide "00-00-00-00-00-00", false, wide "203.0.113.1", wide "192.0.2.1",
    4096, 512⟩

def loneRest (res : Result) : List (Event Services) :=
  [listed .success [ethernetAgain],
    switched 1 (wide "203.0.113.1") (wide "192.0.2.1") res]

theorem loneRun_second (res : Result) : SelectionRun .stored (.insertion _) loneOutcome
    [fetched ∅ .success loneVip] (loneRest res) (.ok res) where
  obtained := runs_of_replay rfl
  selected := runs_of_replay rfl

theorem loneRun_lists (hm : listed res vec ∈ loneRest res') : res = .success ∧
    ∃ info' ∈ vec.head?,
      (ethernet 1).ReadBack (wide "203.0.113.1") (wide "192.0.2.1") info' := by
  rcases List.mem_cons.1 hm with hm | hm
  · cases hm
    exact ⟨rfl, ethernetAgain, rfl, rfl, rfl, rfl, rfl⟩
  · cases List.mem_singleton.1 hm

theorem not_again_success : ¬∀ (layout : Layout) sorter (m : DnsMap)
    (os : PingOutcomes layout m) tr pre info vec dns1 dns2 rest' o,
    SelectionRun layout sorter os tr
      (pre ++ [listed .success (info :: vec), switched info.id dns1 dns2 .success])
      (.ok .success) →
    SelectionRun layout sorter os [fetched ∅ .success m] rest' o →
    (∀ res vec', listed res vec' ∈ rest' →
      res = .success ∧ ∃ info' ∈ vec'.head?, info.ReadBack dns1 dns2 info') →
    o = .ok .success := by
  intro h
  have he := h _ _ _ _ _ [] (ethernet 1) [] _ _ _ _ loneRun_first
    (loneRun_second .wmiInitializeFail) fun _ _ hm => loneRun_lists hm
  cases he

theorem autoSelectDns_again_lone :
    ∃ info' vec' res, (Except.ok .success : Except CppException Result) = .ok res ∧
      loneRest .success = [listed .success (info' :: vec'),
        switched 1 (wide "203.0.113.1") (wide "192.0.2.1") res] ∧
      ∀ cfg : Configuration,
        (cfg.after ([fetched ∅ .success loneVip] ++
          (lonePing.map pinged ++ switchingTo (ethernet 1) []))).after
            ([fetched ∅ .success loneVip] ++ (lonePing.map pinged ++ loneRest .success)) =
          cfg.after ([fetched ∅ .success loneVip] ++
            (lonePing.map pinged ++ switchingTo (ethernet 1) [])) := by
  obtain ⟨info, vec, dns1, dns2, he, hagain⟩ := autoSelectDns_again loneRun_first
  cases he
  exact hagain _ _ (loneRun_second .success) fun _ _ hm => loneRun_lists hm

end Examples

end LdnsSelector
