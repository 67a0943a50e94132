import Mathlib.Data.List.Basic
import Mathlib.Logic.Function.Basic

set_option autoImplicit true

/-- Memory, as the byte at each address. What lies outside the buffers of a program is there
too, and is whatever it is. -/
abbrev Memory := Nat → UInt8

namespace Memory

def read (m : Memory) (a : Nat) : Nat → List UInt8
  | 0 => []
  | n + 1 => m a :: read m (a + 1) n

/-- `memcpy` of the bytes to the address. -/
def write (m : Memory) (a : Nat) : List UInt8 → Memory
  | [] => m
  | b :: bs => write (Function.update m a b) (a + 1) bs

/-- The bytes before the first zero, at most `n` of them. -/
def strnlen (m : Memory) (a : Nat) : Nat → Nat
  | 0 => 0
  | n + 1 => if m a = 0 then 0 else strnlen m (a + 1) n + 1

def cString (m : Memory) (a n : Nat) : List UInt8 := m.read a (m.strnlen a n)

def Stored (m : Memory) (a : Nat) (bs : List UInt8) : Prop := m.read a bs.length = bs

instance (m : Memory) (a : Nat) (bs : List UInt8) : Decidable (m.Stored a bs) :=
  inferInstanceAs (Decidable (_ = _))

variable {m m' : Memory}

@[simp] theorem length_read (m : Memory) (a n : Nat) : (m.read a n).length = n := by
  induction n generalizing a with
  | zero => rfl
  | succ n ih => rw [read, List.length_cons, ih]

theorem read_add (m : Memory) (a n k : Nat) :
    m.read a (n + k) = m.read a n ++ m.read (a + n) k := by
  induction n generalizing a with
  | zero => rw [Nat.zero_add, read, Nat.add_zero, List.nil_append]
  | succ n ih => rw [Nat.add_right_comm, read, read, ih, List.cons_append, Nat.add_assoc a 1,
      Nat.add_comm 1 n]

theorem read_congr (h : ∀ i, a ≤ i → i < a + n → m i = m' i) : m.read a n = m'.read a n := by
  induction n generalizing a with
  | zero => rfl
  | succ n ih =>
    have hhead := h a (Nat.le_refl a) (by omega)
    have htail : m.read (a + 1) n = m'.read (a + 1) n :=
      ih fun i hl hu => h i (by omega) (by omega)
    rw [read, read, hhead, htail]

@[simp] theorem stored_nil (m : Memory) (a : Nat) : m.Stored a [] := rfl

@[simp] theorem stored_cons : m.Stored a (b :: bs) ↔ m a = b ∧ m.Stored (a + 1) bs := by
  rw [Stored, List.length_cons, read, List.cons.injEq]
  rfl

@[simp] theorem stored_append :
    m.Stored a (bs ++ cs) ↔ m.Stored a bs ∧ m.Stored (a + bs.length) cs := by
  induction bs generalizing a with
  | nil => simp
  | cons b bs ih =>
    have he : a + (b :: bs).length = a + 1 + bs.length := by
      rw [List.length_cons]
      omega
    rw [List.cons_append, stored_cons, stored_cons, ih, he, and_assoc]

theorem Stored.read_eq (h : m.Stored a bs) (hn : bs.length = n) : m.read a n = bs := by
  rw [← hn]
  exact h

theorem Stored.read_tail (h : m.Stored a bs) : m.read (a + 1) (bs.length - 1) = bs.tail := by
  cases bs with
  | nil => rfl
  | cons b bs => exact (stored_cons.1 h).2

theorem Stored.congr (h : m.Stored a bs) (hm : ∀ i, a ≤ i → i < a + bs.length → m i = m' i) :
    m'.Stored a bs := (read_congr hm).symm.trans h

theorem read_min (m : Memory) (a n k : Nat) : m.read a (min k n) = (m.read a n).take k := by
  induction n generalizing a k with
  | zero => rw [Nat.min_zero, read, List.take_nil]
  | succ n ih =>
    cases k with
    | zero => rw [Nat.zero_min, read, List.take_zero]
    | succ k => rw [Nat.succ_min_succ, read, read, List.take_succ_cons, ih]

theorem Stored.read_min (h : m.Stored a bs) (k : Nat) : m.read a (min k bs.length) = bs.take k := by
  rw [Memory.read_min, h]

theorem Stored.mem (h : m.Stored a bs) (hi : i < bs.length) : m (a + i) ∈ bs := by
  induction bs generalizing a i with
  | nil => exact absurd hi (Nat.not_lt_zero i)
  | cons b bs ih =>
    obtain ⟨hb, hs⟩ := stored_cons.1 h
    cases i with
    | zero =>
      rw [Nat.add_zero, hb]
      exact List.mem_cons_self
    | succ i =>
      have hm := ih hs (Nat.lt_of_succ_lt_succ hi)
      rw [Nat.add_assoc, Nat.add_comm 1 i] at hm
      exact List.mem_cons_of_mem b hm

theorem write_apply_of_lt (m : Memory) (bs : List UInt8) (h : i < a) : m.write a bs i = m i := by
  induction bs generalizing m a with
  | nil => rfl
  | cons b bs ih => rw [write, ih _ (Nat.lt_succ_of_lt h), Function.update_of_ne (Nat.ne_of_lt h)]

theorem write_apply_of_le (m : Memory) (bs : List UInt8) (h : a + bs.length ≤ i) :
    m.write a bs i = m i := by
  induction bs generalizing m a with
  | nil => rfl
  | cons b bs ih =>
    rw [List.length_cons] at h
    rw [write, ih _ (by omega), Function.update_of_ne (by omega)]

theorem write_apply_add (m : Memory) (a : Nat) (bs : List UInt8) (i : Nat) :
    m.write a bs (a + i) = bs.getD i (m (a + i)) := by
  induction bs generalizing m a i with
  | nil => rfl
  | cons b bs ih =>
    cases i with
    | zero => exact (write_apply_of_lt _ _ (Nat.lt_succ_self a)).trans (Function.update_self ..)
    | succ i =>
      have hi : a + (i + 1) = a + 1 + i := by omega
      rw [write, hi, ih, Function.update_of_ne (by omega)]
      rfl

theorem stored_write (m : Memory) (a : Nat) (bs : List UInt8) : (m.write a bs).Stored a bs := by
  induction bs generalizing m a with
  | nil => exact stored_nil m a
  | cons b bs ih =>
    rw [stored_cons, write]
    exact ⟨by rw [write_apply_of_lt _ _ (Nat.lt_succ_self a), Function.update_self], ih _ _⟩

theorem Stored.write (h : m.Stored a bs) (hd : a + bs.length ≤ k ∨ k + cs.length ≤ a) :
    (m.write k cs).Stored a bs := by
  apply h.congr
  intro i hl hu
  rcases hd with hd | hd
  · exact (write_apply_of_lt m cs (by omega)).symm
  · exact (write_apply_of_le m cs (by omega)).symm

theorem write_append (m : Memory) (a : Nat) (bs cs : List UInt8) :
    m.write a (bs ++ cs) = (m.write a bs).write (a + bs.length) cs := by
  induction bs generalizing m a with
  | nil => rfl
  | cons b bs ih =>
    have he : a + (b :: bs).length = a + 1 + bs.length := by
      rw [List.length_cons]
      omega
    rw [List.cons_append, write, ih, he]
    rfl

theorem strnlen_of_stored (h : m.Stored a (bs ++ [0])) (h0 : (0 : UInt8) ∉ bs) :
    m.strnlen a n = min bs.length n := by
  induction bs generalizing a n with
  | nil =>
    have hz : m a = 0 := (stored_cons.1 h).1
    cases n with
    | zero => rfl
    | succ n => rw [strnlen, if_pos hz, List.length_nil, Nat.zero_min]
  | cons b bs ih =>
    cases n with
    | zero => rw [strnlen, Nat.min_zero]
    | succ n =>
      obtain ⟨hb, hs⟩ := stored_cons.1 h
      have hne : m a ≠ 0 := fun hz => h0 (by rw [← hz, hb]; exact List.mem_cons_self)
      rw [strnlen, if_neg hne, ih hs fun hm => h0 (List.mem_cons_of_mem b hm), List.length_cons,
        Nat.succ_min_succ]

theorem cString_of_stored (h : m.Stored a (bs ++ [0])) (h0 : (0 : UInt8) ∉ bs)
    (hn : bs.length ≤ n) : m.cString a n = bs := by
  rw [cString, strnlen_of_stored h h0, Nat.min_eq_left hn]
  exact (stored_append.1 h).1

end Memory
