import LdnsSelector.Chase
import LdnsSelector.DnsNameReading

set_option autoImplicit true

namespace LdnsSelector

open Memory

def packetMaxsize : Nat := 1500

def Conversion.text (c : Conversion) : NarrowString := c.fName.cString 0 packetMaxsize

/-- `DNSQueryToChar` into a buffer of zeros. -/
def nameAt (m : Memory) (a : Nat) : Conversion := dnsQueryToChar m a fun _ => 0

/-- The loop over the pointers in `PrintDomainName`, given up after `rounds`. -/
def followPointers (m : Memory) (rounds : Nat) (truncated : UInt16) (multiplePtr : Bool) :
    Option NarrowString :=
  if truncated = 0 then some []
  else
    match rounds with
    | 0 => none
    | rounds + 1 =>
      let c := nameAt m truncated.toNat
      (followPointers m rounds c.truncated true).map fun rest =>
        (if multiplePtr then [asciiPeriod] else []) ++ c.text ++ rest

/-- `PrintDomainName`: what it prints, and the length of the name where it stands. -/
def printDomainName (m : Memory) (location rounds : Nat) : Option (NarrowString × Nat) :=
  if m location = 0 then some (narrow "<Root>", 1)
  else
    let c := nameAt m location
    if c.truncated = 0 then some (c.text, c.result + 1)
    else
      (followPointers m rounds c.truncated false).map fun rest =>
        ((if 2 < c.result then c.text ++ [asciiPeriod] else []) ++ rest, c.result)

def nextPointer (m : Memory) (truncated : UInt16) : UInt16 :=
  (nameAt m truncated.toNat).truncated

theorem followPointers_zero (m : Memory) (rounds : Nat) (multiplePtr : Bool) :
    followPointers m rounds 0 multiplePtr = some [] := by
  cases rounds <;> rw [followPointers, if_pos rfl]

theorem followPointers_succ {t : UInt16} (m : Memory) (rounds : Nat) (multiplePtr : Bool)
    (h : t ≠ 0) : followPointers m (rounds + 1) t multiplePtr =
      (followPointers m rounds (nextPointer m t) true).map fun rest =>
        (if multiplePtr then [asciiPeriod] else []) ++ (nameAt m t.toNat).text ++ rest := by
  rw [followPointers, if_neg h]
  rfl

theorem followPointers_isSome (m : Memory) (rounds : Nat) (t : UInt16) (multiplePtr : Bool) :
    (followPointers m rounds t multiplePtr).isSome ↔ ∃ k ≤ rounds, (nextPointer m)^[k] t = 0 := by
  induction rounds generalizing t multiplePtr with
  | zero =>
    by_cases h : t = 0
    · subst h
      simp [followPointers_zero]
    · rw [followPointers, if_neg h]
      simp [h]
  | succ rounds ih =>
    by_cases h : t = 0
    · subst h
      rw [followPointers_zero]
      simp only [Option.isSome_some, true_iff]
      exact ⟨0, Nat.zero_le _, rfl⟩
    · rw [followPointers_succ m rounds multiplePtr h, Option.isSome_map, ih]
      apply Iff.intro
      · intro hk
        obtain ⟨k, hle, hz⟩ := hk
        exact ⟨k + 1, Nat.succ_le_succ hle, hz⟩
      · intro hk
        obtain ⟨k, hle, hz⟩ := hk
        cases k with
        | zero => exact absurd hz h
        | succ k => exact ⟨k, Nat.le_of_succ_le_succ hle, hz⟩

theorem pointerOffset_lt (high low : UInt8) : (pointerOffset high low).toNat < 0x4000 := by
  have hlow := low.toNat_lt
  rw [toNat_pointerOffset]
  omega

theorem readQuery_truncated_lt (tName : Memory) (a n u : Nat) (index0 index1 : Int) (f : Memory) :
    (readQuery tName a n u index0 index1 f).truncated.toNat < 0x4000 := by
  induction n generalizing u index0 index1 f with
  | zero => exact Nat.zero_lt_succ _
  | succ n ih =>
    rw [readQuery]
    split
    · exact pointerOffset_lt _ _
    · split
      · exact ih _ _ _ _
      · split
        · split
          · exact Nat.zero_lt_succ _
          · exact ih _ _ _ _
        · exact ih _ _ _ _

theorem nameAt_truncated_lt (m : Memory) (a : Nat) : (nameAt m a).truncated.toNat < 0x4000 :=
  readQuery_truncated_lt m a domainMaxsize 0 0 0 _

def offsets : Finset UInt16 := (Finset.range 0x4000).image UInt16.ofNat

theorem card_offsets : offsets.card ≤ 0x4000 :=
  Finset.card_image_le.trans (Finset.card_range _).le

theorem mem_offsets {t : UInt16} (h : t.toNat < 0x4000) : t ∈ offsets :=
  Finset.mem_image.2 ⟨t.toNat, Finset.mem_range.2 h, UInt16.ofNat_toNat⟩

theorem iterate_nextPointer_mem (m : Memory) (a k : Nat) :
    (nextPointer m)^[k] (nameAt m a).truncated ∈ offsets := by
  cases k with
  | zero => exact mem_offsets (nameAt_truncated_lt m a)
  | succ k =>
    rw [Function.iterate_succ_apply']
    exact mem_offsets (nameAt_truncated_lt m _)

theorem printDomainName_isSome (m : Memory) (location rounds : Nat) :
    (printDomainName m location rounds).isSome ↔ m location = 0 ∨
      ∃ k ≤ rounds, (nextPointer m)^[k] (nameAt m location).truncated = 0 := by
  rw [printDomainName]
  by_cases h : m location = 0
  · simp [h]
  · rw [if_neg h]
    simp only [h, false_or]
    by_cases ht : (nameAt m location).truncated = 0
    · rw [if_pos ht]
      simp only [Option.isSome_some, true_iff]
      exact ⟨0, Nat.zero_le _, ht⟩
    · rw [if_neg ht, Option.isSome_map, followPointers_isSome]

theorem printDomainName_forever (m : Memory) (location : Nat) :
    (∀ rounds, printDomainName m location rounds = none) ↔ m location ≠ 0 ∧ ∃ i j, i < j ∧
      (nextPointer m)^[i] (nameAt m location).truncated =
        (nextPointer m)^[j] (nameAt m location).truncated ∧
      ∀ k < j, (nextPointer m)^[k] (nameAt m location).truncated ≠ 0 := by
  have hreturns : (∀ rounds, printDomainName m location rounds = none) ↔ m location ≠ 0 ∧
      ¬ Arrives (nextPointer m) 0 (nameAt m location).truncated := by
    apply Iff.intro
    · intro h
      refine ⟨fun hz => ?_, fun hk => ?_⟩
      · have hs := (printDomainName_isSome m location 0).2 (.inl hz)
        rw [h 0] at hs
        exact Bool.noConfusion hs
      · obtain ⟨k, hk⟩ := hk
        have hs := (printDomainName_isSome m location k).2 (.inr ⟨k, Nat.le_refl k, hk⟩)
        rw [h k] at hs
        exact Bool.noConfusion hs
    · intro h rounds
      obtain ⟨hne, hk⟩ := h
      apply Option.not_isSome_iff_eq_none.1
      rw [printDomainName_isSome]
      rintro (hz | ⟨k, _, hz⟩)
      · exact hne hz
      · exact hk ⟨k, hz⟩
  rw [hreturns]
  apply and_congr_right
  intro _
  apply Iff.intro
  · intro h
    exact Arrives.repeats_of_not h offsets fun k => iterate_nextPointer_mem m location k
  · intro h
    obtain ⟨i, j, hij, he, hz⟩ := h
    exact Arrives.not_of_repeats hij he hz

theorem printDomainName_rounds {m : Memory} (h : (printDomainName m location rounds).isSome) :
    (printDomainName m location 0x3FFF).isSome := by
  rw [printDomainName_isSome] at h ⊢
  rcases h with hz | ⟨k, _, hz⟩
  · exact .inl hz
  · obtain ⟨k, hk⟩ := Arrives.exists_first ⟨k, hz⟩
    have hlt := hk.lt_card offsets fun i => iterate_nextPointer_mem m location i
    have hcard := card_offsets
    exact .inr ⟨k, by omega, hk.1⟩

theorem printDomainName_none_iff (m : Memory) (location : Nat) :
    printDomainName m location 0x3FFF = none ↔
      ∀ rounds, printDomainName m location rounds = none := by
  refine ⟨fun h rounds => ?_, fun h => h 0x3FFF⟩
  apply Option.not_isSome_iff_eq_none.1
  intro hs
  have hs' := printDomainName_rounds hs
  rw [h] at hs'
  exact Bool.noConfusion hs'

/-- `PrintDomainName` follows fewer pointers than there are offsets, or it never returns: the
pointers come back to an offset before one of them is zero. -/
theorem printDomainName_forever_iff (m : Memory) (location : Nat) :
    (printDomainName m location 0x3FFF = none ↔
      ∀ rounds, printDomainName m location rounds = none) ∧
    ((∀ rounds, printDomainName m location rounds = none) ↔ m location ≠ 0 ∧ ∃ i j, i < j ∧
      (nextPointer m)^[i] (nameAt m location).truncated =
        (nextPointer m)^[j] (nameAt m location).truncated ∧
      ∀ k < j, (nextPointer m)^[k] (nameAt m location).truncated ≠ 0) :=
  ⟨printDomainName_none_iff m location, printDomainName_forever m location⟩

/-- A name that stands at an address in segments: each but the last ends in a pointer to the
next. -/
inductive NameAt (m : Memory) : Nat → List (List NarrowString) → Prop where
  | stop (hne : labels ≠ []) (h : m.Stored a (wireName labels)) : NameAt m a [labels]
  | jump (h : m.Stored a (wireLabels labels ++ [high, low])) (hp : 0xC0 ≤ high)
      (hz : pointerOffset high low ≠ 0) (hn : NameAt m (pointerOffset high low).toNat segments) :
      NameAt m a (labels :: segments)

def occupied : List (List NarrowString) → Nat
  | [] => 0
  | [labels] => (wireName labels).length
  | labels :: _ => (wireLabels labels).length + 2

/-- The labels of a name can be copied, and the name is no longer than a name may be. -/
def Copyable (segments : List (List NarrowString)) : Prop :=
  (∀ labels ∈ segments, ∀ label ∈ labels, Readable label ∧ (0 : UInt8) ∉ label) ∧
    ∀ labels ∈ segments, (wireLabels labels).length < domainMaxsize

theorem Copyable.tail (h : Copyable (labels :: segments)) : Copyable segments :=
  ⟨fun _ hl => h.1 _ (List.mem_cons_of_mem labels hl),
    fun _ hl => h.2 _ (List.mem_cons_of_mem labels hl)⟩

theorem dotted_singleton (label : NarrowString) : dotted [label] = label :=
  List.intercalate_singleton

theorem zero_not_mem_dotted {labels : List NarrowString}
    (h : ∀ label ∈ labels, (0 : UInt8) ∉ label) : (0 : UInt8) ∉ dotted labels := by
  induction labels with
  | nil => exact List.not_mem_nil
  | cons label labels ih =>
    obtain ⟨h0, hrest⟩ := List.forall_mem_cons.1 h
    by_cases hl : labels = []
    · subst hl
      rwa [dotted_singleton]
    · rw [dotted_cons label hl, List.mem_append, List.mem_cons, not_or, not_or]
      exact ⟨h0, by decide, ih hrest⟩

theorem text_write {s : NarrowString} (h0 : (0 : UInt8) ∉ s) (hs : s.length ≤ packetMaxsize) :
    cString (write (fun _ => 0) 0 s) 0 packetMaxsize = s := by
  apply cString_of_stored _ h0 hs
  rw [stored_append, stored_cons]
  exact ⟨stored_write _ 0 s, write_apply_of_le _ s (Nat.le_refl _), stored_nil _ _⟩

theorem length_dotted_le (labels : List NarrowString) :
    (dotted labels).length ≤ (wireLabels labels).length := by
  by_cases hl : labels = []
  · subst hl
    exact Nat.le_refl 0
  · have h := length_dotted hl
    omega

section NameAt

variable {m : Memory}

theorem nameAt_stop (hne : labels ≠ []) (h : m.Stored a (wireName labels))
    (hc : Copyable [labels]) : (nameAt m a).text = dotted labels ∧
      (nameAt m a).result = (wireLabels labels).length ∧ (nameAt m a).truncated = 0 := by
  have hls := List.forall_mem_singleton.1 hc.1
  have hlen := List.forall_mem_singleton.1 hc.2
  have hle := length_dotted_le labels
  rw [domainMaxsize] at hlen
  rw [nameAt, dnsQueryToChar_name hne (fun l hl => (hls l hl).1) h (Nat.le_of_lt hlen)]
  refine ⟨text_write (zero_not_mem_dotted fun l hl => (hls l hl).2) ?_, rfl, rfl⟩
  rw [packetMaxsize]
  omega

theorem nameAt_jump (h : m.Stored a (wireLabels labels ++ [high, low])) (hp : 0xC0 ≤ high)
    (hc : Copyable (labels :: segments)) : (nameAt m a).text = dotted labels ∧
      (nameAt m a).result = (wireLabels labels).length + 2 ∧
      (nameAt m a).truncated = pointerOffset high low := by
  have hls := hc.1 labels List.mem_cons_self
  have hlen := hc.2 labels List.mem_cons_self
  have hle := length_dotted_le labels
  rw [nameAt, dnsQueryToChar_pointer (fun l hl => (hls l hl).1) h hp hlen]
  refine ⟨text_write (zero_not_mem_dotted fun l hl => (hls l hl).2) ?_, rfl, rfl⟩
  rw [domainMaxsize] at hlen
  rw [packetMaxsize]
  omega

theorem NameAt.ne_nil (h : NameAt m a segments) : segments ≠ [] := by
  cases h with
  | stop hne h => exact List.cons_ne_nil _ _
  | jump h hp hz hn => exact List.cons_ne_nil _ _

theorem followPointers_name {t : UInt16} (h : NameAt m a segments) (hc : Copyable segments)
    (multiplePtr : Bool) (ht : t ≠ 0) (ha : t.toNat = a) :
    ∃ rounds, followPointers m rounds t multiplePtr =
      some ((if multiplePtr then [asciiPeriod] else []) ++ dotted (segments.map dotted)) := by
  induction h generalizing t multiplePtr with
  | stop hne h =>
    subst ha
    obtain ⟨htext, _, hz⟩ := nameAt_stop hne h hc
    refine ⟨1, ?_⟩
    rw [followPointers_succ m 0 multiplePtr ht, nextPointer, hz, followPointers_zero, htext]
    simp [dotted_singleton]
  | jump h hp hz hn ih =>
    subst ha
    obtain ⟨htext, _, htrunc⟩ := nameAt_jump h hp hc
    obtain ⟨rounds, hr⟩ := ih hc.tail true hz rfl
    refine ⟨rounds + 1, ?_⟩
    rw [followPointers_succ m rounds multiplePtr ht, nextPointer, htrunc, hr, htext, List.map_cons,
      dotted_cons _ (by simpa using hn.ne_nil)]
    simp

def printedName : List (List NarrowString) → NarrowString
  | [] :: segments => dotted (segments.map dotted)
  | segments => dotted (segments.map dotted)

theorem printedName_cons (hne : labels ≠ []) (segments : List (List NarrowString)) :
    printedName (labels :: segments) = dotted (dotted labels :: segments.map dotted) := by
  cases labels with
  | nil => exact absurd rfl hne
  | cons label labels => rfl

theorem occupied_cons (labels : List NarrowString) (hne : segments ≠ []) :
    occupied (labels :: segments) = (wireLabels labels).length + 2 := by
  cases segments with
  | nil => exact absurd rfl hne
  | cons labels' segments => rfl

theorem NameAt.location_ne_zero (h : NameAt m a segments) (hc : Copyable segments) :
    m a ≠ 0 := by
  have hcount {labels : List NarrowString} {bs : List UInt8} (hne : labels ≠ [])
      (hls : ∀ label ∈ labels, Readable label ∧ (0 : UInt8) ∉ label)
      (h : m.Stored a (wireLabels labels ++ bs)) : m a ≠ 0 := by
    cases labels with
    | nil => exact absurd rfl hne
    | cons label labels =>
      obtain ⟨⟨hl, hlen, _⟩, _⟩ := hls label List.mem_cons_self
      have hpos := List.length_pos_of_ne_nil hl
      rw [wireLabels_cons, List.cons_append, stored_cons] at h
      exact fun hz => ofNat_ne_zero hpos (by omega) (h.1.symm.trans hz)
  cases h with
  | stop hne h => exact hcount hne (List.forall_mem_singleton.1 hc.1) h
  | @jump _ labels _ _ _ h hp hz hn =>
    by_cases hne : labels = []
    · subst hne
      rw [wireLabels_nil, List.nil_append, stored_cons] at h
      intro hzero
      rw [← h.1, hzero] at hp
      exact absurd hp (by decide)
    · exact hcount hne (hc.1 _ List.mem_cons_self) h

theorem printDomainName_segments (h : NameAt m location segments) (hc : Copyable segments) :
    ∃ rounds, printDomainName m location rounds =
      some (printedName segments, occupied segments) := by
  have hloc := h.location_ne_zero hc
  cases h with
  | @stop _ labels hne h =>
    obtain ⟨htext, hresult, hz⟩ := nameAt_stop hne h hc
    refine ⟨0, ?_⟩
    rw [printDomainName, if_neg hloc, if_pos hz, htext, hresult, printedName_cons hne, occupied,
      wireName, List.length_append, List.map_nil, dotted_singleton]
    rfl
  | @jump _ labels high low segments h hp hz hn =>
    obtain ⟨htext, hresult, htrunc⟩ := nameAt_jump h hp hc
    obtain ⟨rounds, hr⟩ := followPointers_name hn hc.tail false hz rfl
    refine ⟨rounds, ?_⟩
    rw [printDomainName, if_neg hloc, if_neg (by rwa [htrunc]), htrunc, hr, htext, hresult,
      occupied_cons labels hn.ne_nil]
    by_cases hne : labels = []
    · subst hne
      rfl
    · have hpos := List.length_pos_of_ne_nil hne
      have hlen : 0 < (wireLabels labels).length := by
        rw [← length_dotted hne]
        omega
      rw [if_pos (by omega), printedName_cons hne, dotted_cons _ (by simpa using hn.ne_nil)]
      simp

theorem dotted_append {xs ys : List NarrowString} (hx : xs ≠ []) (hy : ys ≠ []) :
    dotted (xs ++ ys) = dotted xs ++ asciiPeriod :: dotted ys := by
  induction xs with
  | nil => exact absurd rfl hx
  | cons x xs ih =>
    by_cases h : xs = []
    · subst h
      rw [dotted_singleton, List.singleton_append, dotted_cons x hy]
    · rw [List.cons_append, dotted_cons x (by simp [h]), ih h, dotted_cons x h, List.append_assoc,
        List.cons_append]

theorem length_map_dotted (segments : List (List NarrowString)) :
    (wireLabels (segments.map dotted)).length =
      (wireLabels segments.flatten).length + segments.count [] := by
  induction segments with
  | nil => rfl
  | cons labels segments ih =>
    rw [List.map_cons, wireLabels_cons, List.flatten_cons, wireLabels_append, List.length_cons,
      List.length_append, List.length_append, ih]
    by_cases h : labels = []
    · subst h
      rw [List.count_cons_self, dotted_nil, wireLabels_nil, List.length_nil]
      omega
    · rw [List.count_cons_of_ne h, ← length_dotted h]
      omega

theorem dotted_map_dotted_iff {segments : List (List NarrowString)}
    (hne : segments.flatten ≠ []) :
    dotted (segments.map dotted) = dotted segments.flatten ↔ [] ∉ segments := by
  have hs : segments ≠ [] := fun h => hne (by rw [h, List.flatten_nil])
  apply Iff.intro
  · intro h hmem
    have hlen := length_map_dotted segments
    rw [← length_dotted hne, ← length_dotted (by simpa using hs), h] at hlen
    have hpos := List.count_pos_iff.2 hmem
    omega
  · intro h
    clear hne
    induction segments with
    | nil => rfl
    | cons labels segments ih =>
      rw [List.mem_cons, not_or] at h
      by_cases hn : segments = []
      · subst hn
        rw [List.map_singleton, dotted_singleton, List.flatten_singleton]
      · have hf : segments.flatten ≠ [] := by
          intro he
          obtain ⟨labels', hl⟩ := List.exists_mem_of_ne_nil segments hn
          have hnil := List.flatten_eq_nil_iff.1 he labels' hl
          exact h.2 (hnil ▸ hl)
        rw [List.map_cons, dotted_cons _ (by simpa using hn), ih hn h.2, List.flatten_cons,
          dotted_append (Ne.symm h.1) hf]

theorem NameAt.flatten_ne_nil (h : NameAt m a segments) : segments.flatten ≠ [] := by
  induction h with
  | stop hne h => simpa using hne
  | jump h hp hz hn ih =>
    rw [List.flatten_cons]
    exact fun he => ih (List.append_eq_nil_iff.1 he).2

theorem printedName_eq_iff (hs : segments ≠ []) (hf : segments.flatten ≠ []) :
    printedName segments = dotted segments.flatten ↔ [] ∉ segments.tail := by
  cases segments with
  | nil => exact absurd rfl hs
  | cons labels segments =>
    rw [List.tail_cons]
    by_cases hl : labels = []
    · subst hl
      exact dotted_map_dotted_iff hf
    · rw [printedName_cons hl, ← List.map_cons, dotted_map_dotted_iff hf, List.mem_cons, not_or]
      exact and_iff_right (Ne.symm hl)

/-- `PrintDomainName` returns on every compressed name, with the bytes it takes where it stands.
It prints the labels of the name joined by periods unless a pointer leads straight to another
pointer. -/
theorem printDomainName_name (h : NameAt m location segments) (hc : Copyable segments) :
    ∃ rounds text, printDomainName m location rounds = some (text, occupied segments) ∧
      (text = dotted segments.flatten ↔ [] ∉ segments.tail) := by
  obtain ⟨rounds, hr⟩ := printDomainName_segments h hc
  exact ⟨rounds, printedName segments, hr, printedName_eq_iff h.ne_nil h.flatten_ne_nil⟩

end NameAt

def twoNames : Memory :=
  charPtr [0, 2, 98, 99, 0, 1, 97, 0xC0, 1]

theorem printDomainName_name_two : ∃ rounds text,
    printDomainName twoNames 5 rounds = some (text, 4) ∧
      (text = narrow "a.bc" ↔ [] ∉ [[narrow "bc"]]) :=
  have hbc : NameAt twoNames 1 [[narrow "bc"]] := .stop (by decide) (by decide)
  have habc : NameAt twoNames 5 [[narrow "a"], [narrow "bc"]] :=
    .jump (by decide : twoNames.Stored 5 (wireLabels [narrow "a"] ++ [0xC0, 1])) (by decide)
      (by decide) hbc
  printDomainName_name habc ⟨by decide +kernel, by decide⟩

end LdnsSelector
