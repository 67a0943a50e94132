import LdnsSelector.AcceptedCommands
import LdnsSelector.Reporting

set_option autoImplicit true

open Prog Memory

namespace LdnsSelector

theorem memcpyS_ok (h : Runs (memcpyS m a size bytes) tr (.ok m')) :
    tr = [] ∧ m' = m.write a bytes := by
  rw [memcpyS] at h
  split at h
  · obtain ⟨rfl, ho⟩ := runs_ret_iff.1 h
    cases ho
    exact ⟨rfl, rfl⟩
  · obtain ⟨_, ho⟩ := runs_crash_iff.1 h
    cases ho

theorem makeRelayed_ok (h : Runs (makeRelayed cfg target packet) tr (.ok (some packet'))) :
    tr = [] ∧ ∃ header port, relayHeader cfg target = some (header, port) ∧
      packet'.buffer.read 0 packet'.dataLength =
        header ++ (le16 port ++ packet.buffer.read 0 packet.dataLength) := by
  rw [makeRelayed] at h
  cases hr : relayHeader cfg target with
  | none =>
    rw [hr] at h
    obtain ⟨_, tr₁, rfl, h₁⟩ := runs_perform_iff.1 h
    obtain ⟨_, ho⟩ := runs_ret_iff.1 h₁
    cases ho
  | some pair =>
    obtain ⟨header, port⟩ := pair
    rw [hr] at h
    obtain ⟨buffer, tr₁, tr₂, rfl, h₁, h₂⟩ := h.bind_ok
    obtain ⟨buffer', tr₃, tr₄, rfl, h₃, h₄⟩ := h₂.bind_ok
    obtain ⟨rfl, ho⟩ := runs_ret_iff.1 h₄
    cases ho
    obtain ⟨rfl, rfl⟩ := memcpyS_ok h₁
    obtain ⟨rfl, rfl⟩ := memcpyS_ok h₃
    refine ⟨rfl, header, port, rfl, ?_⟩
    have hdata := stored_write packet.buffer (header.length + 2)
      (packet.buffer.read 0 packet.dataLength)
    have hhdr := stored_write (packet.buffer.write (header.length + 2)
      (packet.buffer.read 0 packet.dataLength)) 0 header
    apply Stored.read_eq
    · rw [stored_append, stored_append, Nat.zero_add]
      refine ⟨hhdr.write (.inl ?_), stored_write _ _ _, (hdata.write (.inr ?_)).write (.inr ?_)⟩
      · omega
      · omega
      · rw [length_le16]
    · simp only [List.length_append, length_le16, length_read]
      omega

end LdnsSelector
