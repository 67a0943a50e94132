import LdnsSelector.QueryPacket
import LdnsSelector.QueryRuns
import LdnsSelector.ReplyCounting
import LdnsSelector.ResponseEnding

set_option autoImplicit true

open Memory Prog

namespace LdnsSelector

section Clearing

end Clearing

def passedOver : Event Winsock → Bool
  | ⟨.print (.validateError _ _), _⟩ => true
  | _ => false

/-- The run is given up in a loop that waits for a correct packet, or in printing a reply in which
`PrintResponse` never comes to an end. -/
def GivenUp (shows : Bool) (rounds : Nat) (tr : List (Event Winsock)) (e : Stop) : Prop :=
  e = .unfinished ∧ (rounds ≤ tr.countP passedOver ∨
    shows = true ∧ ∃ earlier data, tr = earlier ++ [⟨.print (.response data), ()⟩] ∧
      ∀ rounds, printResponse (zeros.write 0 data) data.length rounds = none)

theorem GivenUp.append (tr : List (Event Winsock)) (tr' : List (Event Winsock)) (e : Stop)
    (h : GivenUp shows rounds tr' e) : GivenUp shows rounds (tr ++ tr') e := by
  obtain ⟨he, hle | ⟨hshow, earlier, data, rfl, hp⟩⟩ := h
  · refine ⟨he, .inl ?_⟩
    rw [List.countP_append]
    exact Nat.le_add_left_of_le hle
  · exact ⟨he, .inr ⟨hshow, tr ++ earlier, data, (List.append_assoc ..).symm, hp⟩⟩

section Stopping

variable {cfg : ConfigurationTable} {shows : Bool} {rounds : Nat}

structure Fitting (cfg : ConfigurationTable) : Prop where
  credentials : cfg.inSocks = true →
    (authenticationRequest cfg.socksUsername cfg.socksPassword).length ≤ socksBufferSize
  name : cfg.inSocks = true → cfg.targetStringNormal.length ≤ 222

theorem relayHeader_length (hname : cfg.targetStringNormal.length ≤ 222)
    (h : relayHeader cfg target = some (header, port)) : header.length ≤ 227 := by
  rw [relayHeader] at h
  split_ifs at h
  · cases h
    simp [fixed]
  · cases h
    simp [fixed]
  · cases h
    simp only [List.length_append, List.length_cons, List.length_nil]
    omega

theorem Fitting.proxied (hf : Fitting cfg) (ha : Accepted cfg) (hin : cfg.inSocks = true)
    (hlen : n ≤ 283) : Reporting.Proxied cfg target n := by
  refine ⟨hf.credentials hin, fun header port h => ?_⟩
  have hle : 512 ≤ cfg.bufferSize.toNat := UInt32.le_iff_toNat_le.1 ha.least
  have hheader := relayHeader_length (hf.name hin) h
  omega

end Stopping

end LdnsSelector
