import LdnsSelector.Wmi
import Mathlib.Data.List.ReduceOption

set_option autoImplicit true

namespace LdnsSelector

def SafeArray.readable (parray : SafeArray) : List WString := parray.elements.reduceOption

def firstTwo (ips : List WString) : WString × WString := (ips[0]?.getD [], ips[1]?.getD [])

section SearchOrder

variable {parray : SafeArray} {elements : List (Option WString)}

/-- The elements from the position `n` on, as far as `steps` steps of the loop go. -/
def SafeArray.reached (parray : SafeArray) (n steps : Nat) : List WString :=
  ((parray.elements.drop n).take steps).reduceOption

theorem reached_of_some (h : parray.getElement n = some strDnsIp) (steps : Nat) :
    parray.reached n (steps + 1) = strDnsIp :: parray.reached (n + 1) steps := by
  have hn : parray.elements[n]? = some (some strDnsIp) := by
    simpa [SafeArray.getElement, Option.join_eq_some_iff] using h
  obtain ⟨hlt, he⟩ := List.getElem?_eq_some_iff.1 hn
  rw [SafeArray.reached, List.drop_eq_getElem_cons hlt, he, List.take_succ_cons,
    List.reduceOption_cons_of_some]
  rfl

theorem reached_of_none (h : parray.getElement n = none) (steps : Nat) :
    parray.reached n (steps + 1) = parray.reached (n + 1) steps := by
  by_cases hlt : n < parray.elements.length
  · have he : parray.elements[n] = none := by
      simpa [SafeArray.getElement, List.getElem?_eq_getElem hlt] using h
    rw [SafeArray.reached, List.drop_eq_getElem_cons hlt, he, List.take_succ_cons,
      List.reduceOption_cons_of_none]
    rfl
  · have hle : parray.elements.length ≤ n := Nat.not_lt.1 hlt
    rw [SafeArray.reached, SafeArray.reached, List.drop_of_length_le hle,
      List.drop_of_length_le (Nat.le_succ_of_le hle), List.take_nil, List.take_nil]

theorem readDns_second (parray : SafeArray) (steps n : Nat) (dns : WString × WString) :
    readDns parray steps n 1 dns = (dns.1, (parray.reached n steps)[0]?.getD dns.2) := by
  induction steps generalizing n with
  | zero => rfl
  | succ steps ih =>
    cases he : parray.getElement n with
    | none =>
      rw [readDns, he, reached_of_none he]
      exact ih (n + 1)
    | some strDnsIp =>
      rw [readDns, he, reached_of_some he]
      rfl

theorem readDns_first (parray : SafeArray) (steps n : Nat) (dns : WString × WString) :
    readDns parray steps n 0 dns =
      ((parray.reached n steps)[0]?.getD dns.1, (parray.reached n steps)[1]?.getD dns.2) := by
  induction steps generalizing n with
  | zero => rfl
  | succ steps ih =>
    cases he : parray.getElement n with
    | none =>
      rw [readDns, he, reached_of_none he]
      exact ih (n + 1)
    | some strDnsIp =>
      rw [readDns, he, reached_of_some he]
      exact readDns_second parray steps (n + 1) (strDnsIp, dns.2)

/-- The loop reads the first `cbElements` elements, whatever the length of the array. -/
theorem dnsOfReading_eq (parray : SafeArray) :
    dnsOfReading (some (some parray)) =
      firstTwo (parray.elements.take parray.cbElements.toNat).reduceOption :=
  readDns_first parray parray.cbElements.toNat 0 ([], [])

theorem empty_below_iff : (∀ n strDnsIp, (elements[n]?).join = some strDnsIp → strDnsIp ≠ [] →
      m ≤ (elements.take n).reduceOption.length) ↔
    ∀ i < m, elements.reduceOption[i]?.getD [] = [] := by
  induction elements generalizing m with
  | nil => simp
  | cons element elements ih =>
    cases element with
    | none =>
      rw [List.reduceOption_cons_of_none, ← ih]
      apply Iff.intro
      · intro h n strDnsIp he hne
        exact h (n + 1) strDnsIp he hne
      · intro h n strDnsIp he hne
        cases n with
        | zero => cases he
        | succ n => exact h n strDnsIp he hne
    | some ip =>
      rw [List.reduceOption_cons_of_some]
      cases m with
      | zero => simp
      | succ m =>
        apply Iff.intro
        · intro h i hi
          cases i with
          | zero =>
            by_contra hne
            exact absurd (h 0 ip rfl hne) (Nat.not_succ_le_zero m)
          | succ i =>
            refine ih.1 ?_ i (Nat.lt_of_succ_lt_succ hi)
            intro n strDnsIp he hne
            exact Nat.le_of_succ_le_succ (h (n + 1) strDnsIp he hne)
        · intro h n strDnsIp he hne
          cases n with
          | zero =>
            cases he
            exact absurd (h 0 (Nat.succ_pos m)) hne
          | succ n =>
            apply Nat.succ_le_succ
            exact ih.2 (fun i hi => h (i + 1) (Nat.succ_lt_succ hi)) n strDnsIp he hne

theorem firstTwo_append_iff (ips ips' : List WString) :
    firstTwo ips = firstTwo (ips ++ ips') ↔ ∀ i < 2 - ips.length, ips'[i]?.getD [] = [] := by
  cases ips with
  | nil =>
    apply Iff.intro
    · intro h i hi
      obtain ⟨h₀, h₁⟩ := Prod.mk.inj h
      cases i with
      | zero => exact h₀.symm
      | succ i =>
        obtain rfl : i = 0 := Nat.lt_one_iff.1 (Nat.lt_of_succ_lt_succ hi)
        exact h₁.symm
    · intro h
      exact Prod.ext (h 0 Nat.two_pos).symm (h 1 Nat.one_lt_two).symm
  | cons ip ips =>
    cases ips with
    | nil =>
      apply Iff.intro
      · intro h i hi
        obtain rfl : i = 0 := Nat.lt_one_iff.1 hi
        exact (Prod.mk.inj h).2.symm
      · intro h
        exact Prod.ext rfl (h 0 Nat.one_pos).symm
    | cons ip' ips => simp [firstTwo]

theorem unreached_iff {k m : Nat} : (∀ n strDnsIp, k ≤ n → parray.getElement n = some strDnsIp →
      strDnsIp ≠ [] → m ≤ (parray.elements.take n).reduceOption.length) ↔
    ∀ j strDnsIp, ((parray.elements.drop k)[j]?).join = some strDnsIp → strDnsIp ≠ [] →
      m - (parray.elements.take k).reduceOption.length ≤
        ((parray.elements.drop k).take j).reduceOption.length := by
  have hsplit (j : Nat) : (parray.elements.take (k + j)).reduceOption.length =
      (parray.elements.take k).reduceOption.length +
        ((parray.elements.drop k).take j).reduceOption.length := by
    rw [List.take_add, List.reduceOption_append, List.length_append]
  apply Iff.intro
  · intro h j strDnsIp he hne
    rw [List.getElem?_drop] at he
    have hle := h (k + j) strDnsIp (Nat.le_add_right k j) he hne
    rw [hsplit] at hle
    omega
  · intro h n strDnsIp hk he hne
    obtain ⟨j, rfl⟩ := Nat.exists_eq_add_of_le hk
    have hle := h j strDnsIp (by rw [List.getElem?_drop]; exact he) hne
    rw [hsplit]
    omega

/-- The bound of the loop is the size of one element. The servers are read correctly exactly when
no readable element from that position on is one of the first two, unless it is empty. -/
theorem dnsOfReading_correct_iff (parray : SafeArray) :
    dnsOfReading (some (some parray)) = firstTwo parray.readable ↔
      ∀ n strDnsIp, parray.cbElements.toNat ≤ n → parray.getElement n = some strDnsIp →
        strDnsIp ≠ [] → 2 ≤ (parray.elements.take n).reduceOption.length := by
  have hreadable : parray.readable =
      (parray.elements.take parray.cbElements.toNat).reduceOption ++
        (parray.elements.drop parray.cbElements.toNat).reduceOption := by
    rw [← List.reduceOption_append, List.take_append_drop]
    rfl
  rw [dnsOfReading_eq, hreadable, firstTwo_append_iff, ← empty_below_iff, ← unreached_iff]

def lastReadable : SafeArray := ⟨4, [none, none, none, none, some (wide "192.0.2.1")]⟩

theorem not_dnsOfReading_lastReadable :
    ¬∀ parray : SafeArray, dnsOfReading (some (some parray)) = firstTwo parray.readable := by
  intro h
  exact absurd (h lastReadable) (by decide)

end SearchOrder

end LdnsSelector
