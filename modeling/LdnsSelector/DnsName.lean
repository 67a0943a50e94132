import LdnsSelector.ByteMemory
import LdnsSelector.Configuration

set_option autoImplicit true

namespace LdnsSelector

open Memory

def asciiPeriod : UInt8 := 46

def domainMaxsize : Nat := 256

def narrow (s : String) : NarrowString :=
  s.toList.map fun c => c.toNat.toUInt8

/-- `c_str`. -/
def charPtr (s : NarrowString) : Memory := fun i => s.getD i 0

/-- The loop of `CharToDNSQuery`, from the end of the name: `count` characters have been copied
since the last period. -/
def writeQuery (fName : Memory) (a : Nat) : Nat → Nat → Memory → Memory
  | 0, count, tName => Function.update tName a (UInt8.ofNat count)
  | i + 1, count, tName =>
    if fName i = asciiPeriod then
      writeQuery fName a i 0 (Function.update tName (a + (i + 1)) (UInt8.ofNat count))
    else writeQuery fName a i (count + 1) (Function.update tName (a + (i + 1)) (fName i))

/-- `CharToDNSQuery`, to the address `a`. -/
def charToDnsQuery (fName tName : Memory) (a : Nat) : Memory × Nat :=
  let length := fName.strnlen 0 domainMaxsize
  let tName := writeQuery fName a length 0 (Function.update tName (a + (length + 1)) 0)
  (tName, tName.strnlen a (domainMaxsize - 1) + 1)

structure Conversion where
  fName : Memory
  result : Nat
  truncated : UInt16

/-- The offset in the two bytes of a pointer. -/
def pointerOffset (high low : UInt8) : UInt16 := ((high &&& 0x3F).toUInt16 <<< 8) + low.toUInt16

/-- The loop of `DNSQueryToChar`, with the rounds left. `char` is signed. -/
def readQuery (tName : Memory) (a : Nat) : Nat → Nat → Int → Int → Memory → Conversion
  | 0, uIndex, _, _, fName => ⟨fName, uIndex, 0⟩
  | rounds + 1, uIndex, index0, index1, fName =>
    let c := tName (a + uIndex)
    if 0xC0 ≤ c then ⟨fName, uIndex + 2, pointerOffset c (tName (a + uIndex + 1))⟩
    else if uIndex = 0 then readQuery tName a rounds 1 c.toInt8.toInt index1 fName
    else if (uIndex : Int) = index0 + index1 + 1 then
      if c = 0 then ⟨fName, uIndex, 0⟩
      else readQuery tName a rounds (uIndex + 1) c.toInt8.toInt uIndex
        (Function.update fName (uIndex - 1) asciiPeriod)
    else readQuery tName a rounds (uIndex + 1) index0 index1
      (Function.update fName (uIndex - 1) c)

/-- `DNSQueryToChar`, from the address `a`. -/
def dnsQueryToChar (tName : Memory) (a : Nat) (fName : Memory) : Conversion :=
  readQuery tName a domainMaxsize 0 0 0 fName

def wireLabels (labels : List NarrowString) : NarrowString :=
  labels.flatMap fun label => UInt8.ofNat label.length :: label

def wireName (labels : List NarrowString) : NarrowString := wireLabels labels ++ [0]

def dotted (labels : List NarrowString) : NarrowString := [asciiPeriod].intercalate labels

@[simp] theorem wireLabels_nil : wireLabels [] = [] := rfl

@[simp] theorem wireLabels_cons (label : NarrowString) (labels : List NarrowString) :
    wireLabels (label :: labels) = UInt8.ofNat label.length :: (label ++ wireLabels labels) := rfl

theorem wireLabels_append (labels labels' : List NarrowString) :
    wireLabels (labels ++ labels') = wireLabels labels ++ wireLabels labels' :=
  List.flatMap_append

@[simp] theorem dotted_nil : dotted [] = [] := rfl

theorem dotted_cons (label : NarrowString) {labels : List NarrowString} (h : labels ≠ []) :
    dotted (label :: labels) = label ++ asciiPeriod :: dotted labels := by
  cases labels with
  | nil => exact absurd rfl h
  | cons label' labels => simp [dotted, List.intercalate]

theorem dotted_eq_append (label : NarrowString) (labels : List NarrowString) :
    dotted (label :: labels) = label ++ labels.flatMap fun label => asciiPeriod :: label := by
  induction labels generalizing label with
  | nil => simp [dotted, List.intercalate]
  | cons label' labels ih =>
    rw [dotted_cons label (List.cons_ne_nil _ _), ih, List.flatMap_cons, List.cons_append]

theorem dotted_splitOn (s : NarrowString) : dotted (s.splitOn asciiPeriod) = s :=
  s.intercalate_splitOn asciiPeriod

theorem length_dotted {labels : List NarrowString} (h : labels ≠ []) :
    (dotted labels).length + 1 = (wireLabels labels).length := by
  induction labels with
  | nil => exact absurd rfl h
  | cons label labels ih =>
    by_cases hl : labels = []
    · subst hl
      simp [dotted, List.intercalate]
    · rw [dotted_cons label hl, wireLabels_cons, List.length_append, List.length_cons,
        List.length_cons, List.length_append, ← ih hl]

theorem sublist_dotted {labels : List NarrowString} (h : label ∈ labels) :
    label.Sublist (dotted labels) := by
  induction labels with
  | nil => exact absurd h List.not_mem_nil
  | cons label' labels ih =>
    by_cases hl : labels = []
    · subst hl
      obtain rfl := List.mem_singleton.1 h
      simp [dotted, List.intercalate]
    · rw [dotted_cons label' hl]
      rcases List.mem_cons.1 h with rfl | h
      · exact List.sublist_append_left _ _
      · exact ((ih h).cons _).trans (List.sublist_append_right _ _)

theorem sublist_of_mem_splitOn {s : NarrowString} (h : label ∈ s.splitOn asciiPeriod) :
    label.Sublist s := by
  have hs := sublist_dotted h
  rwa [dotted_splitOn] at hs

theorem length_wireLabels_splitOn (s : NarrowString) :
    (wireLabels (s.splitOn asciiPeriod)).length = s.length + 1 := by
  rw [← length_dotted (List.splitOn_ne_nil asciiPeriod s), dotted_splitOn]

theorem writeQuery_apply (fName tName : Memory) (count : Nat) (h : j < a ∨ a + i < j) :
    writeQuery fName a i count tName j = tName j := by
  induction i generalizing count tName with
  | zero => exact Function.update_of_ne (by omega) _ _
  | succ i ih =>
    rw [writeQuery]
    split
    · rw [ih _ _ (by omega), Function.update_of_ne (by omega)]
    · rw [ih _ _ (by omega), Function.update_of_ne (by omega)]

/-- With `label` copied behind it, what is left of the name is written as its labels. -/
theorem writeQuery_stored (fName tName : Memory) (i : Nat) (label : NarrowString)
    (hl : asciiPeriod ∉ label) (h : tName.Stored (a + (i + 1)) label) :
    (writeQuery fName a i label.length tName).Stored a
      (wireLabels ((fName.read 0 i ++ label).splitOn asciiPeriod)) := by
  induction i generalizing label tName with
  | zero =>
    have hs : (writeQuery fName a 0 label.length tName).Stored (a + 1) label := by
      apply h.congr
      intro j hj _
      exact (writeQuery_apply fName tName _ (by omega)).symm
    rw [Memory.read, List.nil_append, List.splitOn_eq_singleton hl, wireLabels_cons, stored_cons,
      wireLabels_nil, List.append_nil]
    exact ⟨Function.update_self _ _ _, hs⟩
  | succ i ih =>
    rw [read_add, Memory.read, Memory.read, Nat.zero_add, List.append_assoc, List.singleton_append]
    rw [writeQuery]
    split
    · next hp =>
      have hw := ih (Function.update tName (a + (i + 1)) (UInt8.ofNat label.length)) []
        List.not_mem_nil (stored_nil _ _)
      have hlen := length_wireLabels_splitOn (fName.read 0 i)
      rw [length_read] at hlen
      rw [List.append_nil] at hw
      rw [hp, List.splitOn_append_cons_self, List.splitOn_eq_singleton hl, wireLabels_append,
        stored_append, hlen, wireLabels_cons, wireLabels_nil, List.append_nil, stored_cons]
      refine ⟨hw, ?_, ?_⟩
      · rw [writeQuery_apply _ _ _ (by omega), Function.update_self]
      · apply h.congr
        intro j hj _
        rw [writeQuery_apply _ _ _ (by omega), Function.update_of_ne (by omega)]
    · next hp =>
      apply ih _ (fName i :: label)
      · rw [List.mem_cons, not_or]
        exact ⟨Ne.symm hp, hl⟩
      · rw [stored_cons]
        refine ⟨Function.update_self _ _ _, ?_⟩
        apply h.congr
        intro j hj _
        rw [Function.update_of_ne (by omega)]

theorem stored_charPtr (s : NarrowString) : (charPtr s).Stored 0 (s ++ [0]) := by
  suffices h : ∀ t u, s = t ++ u → (charPtr s).Stored t.length (u ++ [0]) from h [] s rfl
  intro t u hs
  induction u generalizing t with
  | nil =>
    rw [List.append_nil] at hs
    subst hs
    simp [charPtr]
  | cons c u ih =>
    rw [List.cons_append, stored_cons]
    refine ⟨?_, ?_⟩
    · simp [charPtr, hs]
    · have h := ih (t ++ [c]) (by rw [hs, List.append_assoc, List.singleton_append])
      rwa [List.length_append, List.length_singleton] at h

theorem ofNat_ne_zero (hpos : 0 < n) (h : n < 256) : UInt8.ofNat n ≠ 0 := by
  intro hz
  have hz := congrArg UInt8.toNat hz
  rw [UInt8.toNat_ofNat_of_lt' h, UInt8.toNat_zero] at hz
  omega

theorem not_mem_wireLabels {labels : List NarrowString} (h : ∀ label ∈ labels,
    (0 : UInt8) ∉ label ∧ label ≠ [] ∧ label.length < 256) : (0 : UInt8) ∉ wireLabels labels := by
  induction labels with
  | nil => exact List.not_mem_nil
  | cons label labels ih =>
    obtain ⟨⟨h0, hne, hlen⟩, hrest⟩ := List.forall_mem_cons.1 h
    have hpos := List.length_pos_of_ne_nil hne
    have hcount : (0 : UInt8) ≠ UInt8.ofNat label.length := (ofNat_ne_zero hpos hlen).symm
    rw [wireLabels_cons, List.mem_cons, List.mem_append, not_or, not_or]
    exact ⟨hcount, h0, ih hrest⟩

def leadingLabels (s : NarrowString) : List NarrowString :=
  (s.splitOn asciiPeriod).takeWhile (· ≠ [])

theorem wireName_prefix (labels : List NarrowString) :
    wireName (labels.takeWhile (· ≠ [])) <+: wireName labels := by
  induction labels with
  | nil => exact List.prefix_refl _
  | cons label labels ih =>
    by_cases hl : label = []
    · subst hl
      exact ⟨wireName labels, rfl⟩
    · obtain ⟨rest, hrest⟩ := ih
      rw [List.takeWhile_cons_of_pos (by simpa using hl)]
      refine ⟨rest, ?_⟩
      simp only [wireName, wireLabels_cons, List.cons_append, List.append_assoc] at hrest ⊢
      rw [hrest]

theorem mem_leadingLabels {s : NarrowString} (h : label ∈ leadingLabels s) :
    label ∈ s.splitOn asciiPeriod ∧ label ≠ [] := by
  have hp := List.all_eq_true.1 List.all_takeWhile label h
  exact ⟨(List.takeWhile_prefix _).subset h, by simpa using hp⟩

theorem charToDnsQuery_fst {s : NarrowString} (h0 : (0 : UInt8) ∉ s) (hs : s.length < 256)
    (m : Memory) (a : Nat) : (charToDnsQuery (charPtr s) m a).1 =
      writeQuery (charPtr s) a s.length 0 (Function.update m (a + (s.length + 1)) 0) := by
  have hlen : (charPtr s).strnlen 0 domainMaxsize = s.length := by
    rw [strnlen_of_stored (stored_charPtr s) h0]
    exact Nat.min_eq_left (Nat.le_of_lt hs)
  rw [charToDnsQuery, hlen]

theorem charToDnsQuery_stored {s : NarrowString} (h0 : (0 : UInt8) ∉ s) (hs : s.length < 256)
    (m : Memory) (a : Nat) :
    (charToDnsQuery (charPtr s) m a).1.Stored a (wireName (s.splitOn asciiPeriod)) := by
  have hread : (charPtr s).read 0 s.length = s := (stored_append.1 (stored_charPtr s)).1
  have hw := writeQuery_stored (a := a) (charPtr s) (Function.update m (a + (s.length + 1)) 0)
    s.length [] List.not_mem_nil (stored_nil _ _)
  rw [hread, List.append_nil] at hw
  rw [charToDnsQuery_fst h0 hs, wireName, stored_append, length_wireLabels_splitOn, stored_cons]
  refine ⟨hw, ?_, stored_nil _ _⟩
  rw [writeQuery_apply _ _ _ (by omega), Function.update_self]

theorem charToDnsQuery_apply {s : NarrowString} (h0 : (0 : UInt8) ∉ s) (hs : s.length < 256)
    (m : Memory) (h : j < a ∨ a + s.length + 2 ≤ j) :
    (charToDnsQuery (charPtr s) m a).1 j = m j := by
  rw [charToDnsQuery_fst h0 hs, writeQuery_apply _ _ _ (by omega), Function.update_of_ne (by omega)]

theorem charToDnsQuery_length {s : NarrowString} (h0 : (0 : UInt8) ∉ s) (hs : s.length < 256)
    (m : Memory) (a : Nat) :
    (charToDnsQuery (charPtr s) m a).2 = min (wireName (leadingLabels s)).length 256 := by
  have hst := charToDnsQuery_stored h0 hs m a
  obtain ⟨rest, hrest⟩ := wireName_prefix (s.splitOn asciiPeriod)
  rw [← hrest, stored_append] at hst
  have hz : (0 : UInt8) ∉ wireLabels (leadingLabels s) := by
    apply not_mem_wireLabels
    intro label hl
    obtain ⟨hm, hne⟩ := mem_leadingLabels hl
    have hsub := sublist_of_mem_splitOn hm
    exact ⟨fun hc => h0 (hsub.subset hc), hne, Nat.lt_of_le_of_lt hsub.length_le hs⟩
  have hn := strnlen_of_stored (n := domainMaxsize - 1) hst.1 hz
  change (charToDnsQuery (charPtr s) m a).1.strnlen a (domainMaxsize - 1) + 1 = _
  rw [hn, wireName, List.length_append, List.length_singleton, domainMaxsize]
  change min (wireLabels (leadingLabels s)).length 255 + 1 = _
  omega

theorem charToDnsQuery_read {s : NarrowString} (h0 : (0 : UInt8) ∉ s) (hs : s.length < 256)
    (m : Memory) (a : Nat) :
    (charToDnsQuery (charPtr s) m a).1.read a (charToDnsQuery (charPtr s) m a).2 =
      (wireName (leadingLabels s)).take 256 := by
  have hst := charToDnsQuery_stored h0 hs m a
  obtain ⟨rest, hrest⟩ := wireName_prefix (s.splitOn asciiPeriod)
  rw [← hrest, stored_append] at hst
  rw [charToDnsQuery_length h0 hs m a, Nat.min_comm]
  exact hst.1.read_min 256

/-- What `CharToDNSQuery` puts into a packet is the wire form of the name up to its first empty
label, and it writes no further than two bytes past the length of the name. -/
theorem charToDnsQuery_packet {s : NarrowString} (h0 : (0 : UInt8) ∉ s) (hs : s.length < 256)
    (m : Memory) (a : Nat) :
    (charToDnsQuery (charPtr s) m a).1.read a (charToDnsQuery (charPtr s) m a).2 =
        (wireName (leadingLabels s)).take 256 ∧
      ∀ j, j < a ∨ a + s.length + 2 ≤ j → (charToDnsQuery (charPtr s) m a).1 j = m j :=
  ⟨charToDnsQuery_read h0 hs m a, fun _ hj => charToDnsQuery_apply h0 hs m hj⟩

theorem charToDnsQuery_packet_fqdn :
    (charToDnsQuery (charPtr (narrow "a.bc.")) (fun _ => 7) 12).1.read 12
        (charToDnsQuery (charPtr (narrow "a.bc.")) (fun _ => 7) 12).2 = [1, 97, 2, 98, 99, 0] :=
  (charToDnsQuery_packet (s := narrow "a.bc.") (by decide) (by decide) (fun _ => 7) 12).1

end LdnsSelector
