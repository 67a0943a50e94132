import LdnsSelector.ByteMemory
import LdnsSelector.Chase

set_option autoImplicit true

namespace Memory

def be16 (n : UInt16) : List UInt8 := [UInt8.ofNat (n.toNat / 256), UInt8.ofNat n.toNat]

def be32 (n : UInt32) : List UInt8 :=
  [UInt8.ofNat (n.toNat / 0x1000000), UInt8.ofNat (n.toNat / 0x10000),
    UInt8.ofNat (n.toNat / 0x100), UInt8.ofNat n.toNat]

/-- `ntohs` of a member. -/
def readBe16 (m : Memory) (a : Nat) : UInt16 :=
  UInt16.ofNat ((m a).toNat * 256 + (m (a + 1)).toNat)

/-- `ntohl` of a member. -/
def readBe32 (m : Memory) (a : Nat) : UInt32 :=
  UInt32.ofNat ((((m a).toNat * 256 + (m (a + 1)).toNat) * 256 + (m (a + 2)).toNat) * 256 +
    (m (a + 3)).toNat)

@[simp] theorem length_be16 (n : UInt16) : (be16 n).length = 2 := rfl

@[simp] theorem length_be32 (n : UInt32) : (be32 n).length = 4 := rfl

section Members

variable {m : Memory}

theorem readBe16_of_stored (h : m.Stored a (be16 n)) : m.readBe16 a = n := by
  rw [be16, stored_cons, stored_cons] at h
  have hn := n.toNat_lt
  rw [readBe16, h.1, h.2.1, UInt8.toNat_ofNat', UInt8.toNat_ofNat']
  apply UInt16.toNat_inj.1
  rw [UInt16.toNat_ofNat']
  omega

theorem readBe32_of_stored (h : m.Stored a (be32 n)) : m.readBe32 a = n := by
  rw [be32, stored_cons, stored_cons, stored_cons, stored_cons] at h
  have hn := n.toNat_lt
  rw [readBe32, h.1, h.2.1, h.2.2.1, h.2.2.2.1]
  simp only [UInt8.toNat_ofNat']
  apply UInt32.toNat_inj.1
  rw [UInt32.toNat_ofNat']
  omega

end Members

/-- The items stand one after another, from the first address up to the second. -/
inductive Laid (stands : Nat → α → Nat → Prop) : Nat → List α → Nat → Prop where
  | nil : Laid stands a [] a
  | cons (h : stands a x b) (hs : Laid stands b xs c) : Laid stands a (x :: xs) c

/-- A loop that reads a number of items, each with where it ends. -/
def readMany (read : Nat → Option (β × Nat)) : Nat → Nat → Option (List β × Nat)
  | 0, a => some ([], a)
  | n + 1, a => do
    let (x, b) ← read a
    let (xs, c) ← readMany read n b
    return (x :: xs, c)

theorem readMany_laid {read : Nat → Option (β × Nat)} {text : α → β}
    (hread : ∀ {a x b}, stands a x b → read a = some (text x, b)) (h : Laid stands a xs c) :
    readMany read xs.length a = some (xs.map text, c) := by
  induction h with
  | nil => rfl
  | cons h hs ih =>
    rw [List.length_cons, readMany, hread h]
    exact congrArg (Option.bind · _) ih

theorem readMany_stuck {read : Nat → Option (β × Nat)} {text : α → β}
    (hread : ∀ {a x b}, stands a x b → read a = some (text x, b)) (h : Laid stands a xs c)
    (hlt : xs.length < k) (hc : read c = none) : readMany read k a = none := by
  induction h generalizing k with
  | nil =>
    cases k with
    | zero => exact absurd hlt (Nat.not_lt_zero _)
    | succ k =>
      rw [readMany, hc]
      rfl
  | cons h hs ih =>
    cases k with
    | zero => exact absurd hlt (Nat.not_lt_zero _)
    | succ k =>
      rw [readMany, hread h]
      exact congrArg (Option.bind · _) (ih (Nat.lt_of_succ_lt_succ hlt) hc)

def manyPlaces (read : Nat → Option (β × Nat)) (places : Nat → List ι) : Nat → Nat → List ι
  | 0, _ => []
  | n + 1, a => places a ++ (read a).elim [] fun x => manyPlaces read places n x.2

theorem readMany_settles {β ι : Type} {read : Nat → Nat → Option (β × Nat)} {bad : ι → Prop}
    {places : Nat → List ι}
    (hread : ∀ a, SettlesBy n bad (places a) fun rounds => read rounds a) (k a : Nat) :
    SettlesBy n bad (manyPlaces (read n) places k a) fun rounds => readMany (read rounds) k a := by
  induction k generalizing a with
  | zero => exact .const _
  | succ k ih => exact (hread a).bind fun x => (ih x.2).bind_const fun xs => ⟨_, fun _ => rfl⟩

end Memory
