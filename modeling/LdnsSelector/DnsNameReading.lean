import LdnsSelector.DnsName

set_option autoImplicit true

namespace LdnsSelector

open Memory

/-- A label `DNSQueryToChar` can copy: its length is a positive `char`, and no character of it
looks like a pointer. -/
def Readable (label : NarrowString) : Prop :=
  label ≠ [] ∧ label.length < 128 ∧ ∀ c ∈ label, c < 0xC0

instance (label : NarrowString) : Decidable (Readable label) :=
  inferInstanceAs (Decidable (_ ∧ _ ∧ _))

section ReadQuery

variable {tName : Memory}

theorem toInt8_ofNat (h : n < 128) : (UInt8.ofNat n).toInt8.toInt = n := by
  have h8 : (UInt8.ofNat n).toInt8 = Int8.ofNat n := rfl
  rw [h8, Int8.toInt_ofNat_of_lt (by omega)]

theorem pointer_le_ofNat_iff (h : n < 256) : (0xC0 : UInt8) ≤ UInt8.ofNat n ↔ 192 ≤ n := by
  rw [UInt8.le_iff_toNat_le, UInt8.toNat_ofNat_of_lt' h]
  rfl

theorem ofNat_lt_pointer (h : n < 192) : ¬ (0xC0 : UInt8) ≤ UInt8.ofNat n := by
  rw [pointer_le_ofNat_iff (by omega)]
  omega

/-- The characters of a label are copied. `p` is where its length stands, and `done` characters
of it have been copied. -/
theorem readQuery_characters (f : Memory) (done len : Nat)
    (h : tName.Stored (a + (p + 1 + done)) label) (hc : ∀ c ∈ label, c < 0xC0)
    (hn : label.length ≤ n) (hl : len = done + label.length) :
    readQuery tName a n (p + 1 + done) len p f =
      readQuery tName a (n - label.length) (p + 1 + len) len p (f.write (p + done) label) := by
  induction label generalizing n done f with
  | nil =>
    rw [hl]
    rfl
  | cons c label ih =>
    obtain ⟨hb, hs⟩ := stored_cons.1 h
    obtain ⟨hcc, hcs⟩ := List.forall_mem_cons.1 hc
    rw [List.length_cons] at hn hl
    cases n with
    | zero => omega
    | succ n =>
      have hstep := ih (n := n) (Function.update f (p + done) c) (done + 1)
        (by rwa [← Nat.add_assoc, ← Nat.add_assoc] at hs ⊢) hcs (by omega) (by omega)
      have hsub : p + 1 + done - 1 = p + done := by omega
      rw [readQuery, hb, if_neg (UInt8.not_le.2 hcc), if_neg (by omega), if_neg (by omega), hsub,
        List.length_cons, Nat.succ_sub_succ, write]
      exact hstep

theorem readQuery_labels (f : Memory) (p len : Nat) (hls : ∀ label ∈ labels, Readable label)
    (h : tName.Stored (a + (p + 1 + len)) (wireLabels labels))
    (hn : (wireLabels labels).length ≤ n) :
    ∃ p' len' : Nat, p' + 1 + len' = p + 1 + len + (wireLabels labels).length ∧
      readQuery tName a n (p + 1 + len) len p f =
        readQuery tName a (n - (wireLabels labels).length) (p' + 1 + len') len' p'
          (f.write (p + len) (labels.flatMap fun label => asciiPeriod :: label)) := by
  induction labels generalizing n p len f with
  | nil => exact ⟨p, len, rfl, rfl⟩
  | cons label labels ih =>
    obtain ⟨⟨hne, hlen, hc⟩, hrest⟩ := List.forall_mem_cons.1 hls
    have hpos := List.length_pos_of_ne_nil hne
    rw [wireLabels_cons, stored_cons, stored_append] at h
    obtain ⟨hcount, hlabel, hs⟩ := h
    rw [wireLabels_cons, List.length_cons, List.length_append] at hn ⊢
    cases n with
    | zero => omega
    | succ n =>
      have hz : UInt8.ofNat label.length ≠ 0 := ofNat_ne_zero hpos (by omega)
      have hcopy := readQuery_characters (p := p + 1 + len) (n := n)
        (Function.update f (p + len) asciiPeriod) 0 label.length hlabel hc (by omega) (by omega)
      obtain ⟨p', len', he, hread⟩ := ih (n := n - label.length)
        (write (Function.update f (p + len) asciiPeriod) (p + 1 + len) label) (p + 1 + len)
        label.length hrest (by rwa [Nat.add_assoc a, Nat.add_assoc a] at hs) (by omega)
      simp only [Nat.add_zero] at hcopy
      refine ⟨p', len', by omega, ?_⟩
      have hsub : p + 1 + len - 1 = p + len := by omega
      rw [readQuery, hcount, if_neg (ofNat_lt_pointer (by omega)), if_neg (by omega),
        if_pos (by omega), if_neg hz, hsub, toInt8_ofNat hlen, hcopy, hread]
      rw [List.flatMap_cons, List.cons_append, write, Memory.write_append]
      have hw : p + len + 1 = p + 1 + len := by omega
      rw [hw, Nat.sub_sub, Nat.succ_sub_succ]

theorem dnsQueryToChar_labels {labels : List NarrowString} (hne : labels ≠ [])
    (hls : ∀ label ∈ labels, Readable label) (h : tName.Stored a (wireLabels labels))
    (hn : (wireLabels labels).length ≤ domainMaxsize) (f : Memory) :
    ∃ p len : Nat, p + 1 + len = (wireLabels labels).length ∧
      dnsQueryToChar tName a f = readQuery tName a (domainMaxsize - (wireLabels labels).length)
        (wireLabels labels).length len p (f.write 0 (dotted labels)) := by
  cases labels with
  | nil => exact absurd rfl hne
  | cons label labels =>
    obtain ⟨⟨_, hlen, hc⟩, hrest⟩ := List.forall_mem_cons.1 hls
    rw [wireLabels_cons, stored_cons, stored_append] at h
    obtain ⟨hcount, hlabel, hs⟩ := h
    rw [wireLabels_cons, List.length_cons, List.length_append] at hn ⊢
    rw [domainMaxsize] at hn ⊢
    have hcopy := readQuery_characters (p := 0) (n := 255) f 0 label.length hlabel hc (by omega)
      (Nat.zero_add _).symm
    obtain ⟨p', len', he, hread⟩ := readQuery_labels (n := 255 - label.length)
      (f.write 0 label) 0 label.length hrest
      (by rwa [Nat.add_assoc a 1, ← Nat.zero_add 1] at hs) (by omega)
    refine ⟨p', len', by omega, ?_⟩
    have hu : p' + 1 + len' = label.length + (wireLabels labels).length + 1 := by omega
    have hr : 256 - (label.length + (wireLabels labels).length + 1) =
        255 - (label.length + (wireLabels labels).length) := by omega
    rw [dnsQueryToChar, domainMaxsize, readQuery, Nat.add_zero, hcount,
      if_neg (ofNat_lt_pointer (by omega)), if_pos rfl, toInt8_ofNat hlen, hr]
    rw [hu, Nat.sub_sub, ← Memory.write_append, ← dotted_eq_append] at hread
    simp only [Nat.zero_add, Nat.add_zero] at hcopy hread
    exact hcopy.trans hread

theorem dnsQueryToChar_name {labels : List NarrowString} (hne : labels ≠ [])
    (hls : ∀ label ∈ labels, Readable label) (h : tName.Stored a (wireName labels))
    (hn : (wireLabels labels).length ≤ domainMaxsize) (f : Memory) :
    dnsQueryToChar tName a f = ⟨f.write 0 (dotted labels), (wireLabels labels).length, 0⟩ := by
  rw [wireName, stored_append, stored_cons] at h
  obtain ⟨hlabels, hz, _⟩ := h
  obtain ⟨p, len, he, hread⟩ := dnsQueryToChar_labels hne hls hlabels hn f
  rw [hread]
  generalize domainMaxsize - (wireLabels labels).length = n
  cases n with
  | zero => rfl
  | succ n =>
    rw [readQuery, hz, if_neg (by decide), if_neg (by omega), if_pos (by omega), if_pos rfl]

theorem dnsQueryToChar_pointer {labels : List NarrowString}
    (hls : ∀ label ∈ labels, Readable label) (h : tName.Stored a (wireLabels labels ++ [high, low]))
    (hp : 0xC0 ≤ high) (hn : (wireLabels labels).length < domainMaxsize) (f : Memory) :
    dnsQueryToChar tName a f =
      ⟨f.write 0 (dotted labels), (wireLabels labels).length + 2, pointerOffset high low⟩ := by
  rw [stored_append, stored_cons, stored_cons] at h
  obtain ⟨hlabels, hhigh, hlow, _⟩ := h
  by_cases hne : labels = []
  · subst hne
    rw [wireLabels_nil, List.length_nil] at hhigh hlow
    rw [dnsQueryToChar, domainMaxsize, readQuery, hhigh, hlow, if_pos hp]
    rfl
  · obtain ⟨p, len, _, hread⟩ := dnsQueryToChar_labels hne hls hlabels (Nat.le_of_lt hn) f
    rw [hread]
    obtain ⟨n, hn⟩ := Nat.exists_eq_add_of_lt hn
    have hr : domainMaxsize - (wireLabels labels).length = n + 1 := by omega
    rw [hr, readQuery, hhigh, hlow, if_pos hp]

/-- The conversion ended at two bytes taken for a pointer. -/
def PointerEnd (tName : Memory) (a : Nat) (c : Conversion) : Prop :=
  ∃ j, c.result = j + 2 ∧ c.truncated = pointerOffset (tName (a + j)) (tName (a + j + 1))

theorem readQuery_pointer (n index0 index1) (f : Memory) (h : 0xC0 ≤ tName (a + u)) :
    PointerEnd tName a (readQuery tName a (n + 1) u index0 index1 f) := by
  rw [readQuery, if_pos h]
  exact ⟨u, rfl, rfl⟩

/-- Past the end of a label of negative length the rest of the buffer is copied. -/
theorem readQuery_past (n u : Nat) (f : Memory) (hu : 0 < u) (h : index0 + index1 + 1 < (u : Int)) :
    (readQuery tName a n u index0 index1 f).result = u + n ∨
      PointerEnd tName a (readQuery tName a n u index0 index1 f) := by
  induction n generalizing u f with
  | zero => exact .inl rfl
  | succ n ih =>
    by_cases hp : 0xC0 ≤ tName (a + u)
    · exact .inr (readQuery_pointer n index0 index1 f hp)
    · have hstep := ih (u + 1) (Function.update f (u - 1) (tName (a + u))) (by omega) (by omega)
      rw [readQuery, if_neg hp, if_neg (by omega), if_neg (by omega)]
      rwa [Nat.add_right_comm] at hstep

theorem readQuery_hasPointer (f : Memory) (hu : 0 < u) (h : tName.Stored (a + u) label)
    (hc : ∃ c ∈ label, 0xC0 ≤ c) (hn : label.length ≤ n)
    (he : index0 + index1 + 1 = ((u + label.length : Nat) : Int)) :
    PointerEnd tName a (readQuery tName a n u index0 index1 f) := by
  induction label generalizing n u f with
  | nil => simp at hc
  | cons c label ih =>
    obtain ⟨hb, hs⟩ := stored_cons.1 h
    rw [List.length_cons] at hn he
    cases n with
    | zero => omega
    | succ n =>
      by_cases hp : 0xC0 ≤ tName (a + u)
      · exact readQuery_pointer n index0 index1 f hp
      · rw [readQuery, if_neg hp, if_neg (by omega), if_neg (by omega)]
        rw [hb] at hp
        have hcs : ∃ c ∈ label, 0xC0 ≤ c := by
          obtain ⟨d, hd, hle⟩ := hc
          rcases List.mem_cons.1 hd with rfl | hd
          · exact absurd hle hp
          · exact ⟨d, hd, hle⟩
        exact ih _ (by omega) hs hcs (by omega) (by omega)

theorem toInt8_ofNat_neg (h : 128 ≤ n) (hn : n < 256) : (UInt8.ofNat n).toInt8.toInt < 0 := by
  have h8 : (UInt8.ofNat n).toInt8 = Int8.ofNat n := rfl
  rw [h8, Int8.toInt_ofNat', Int.bmod, show Int8.size = 256 from rfl]
  split <;> omega

theorem readQuery_badLabel (f : Memory) (h : tName.Stored (a + (p + 1)) label)
    (hne : label ≠ []) (hbad : ¬ Readable label) (hlabel : label.length < 192)
    (hn : label.length ≤ n) :
    (readQuery tName a n (p + 1) (UInt8.ofNat label.length).toInt8.toInt p f).result =
        p + 1 + n ∨
      PointerEnd tName a
        (readQuery tName a n (p + 1) (UInt8.ofNat label.length).toInt8.toInt p f) := by
  by_cases hlen : label.length < 128
  · have hc : ∃ c ∈ label, 0xC0 ≤ c := by
      by_contra hc
      apply hbad
      refine ⟨hne, hlen, fun c hm => UInt8.not_le.1 fun hle => hc ⟨c, hm, hle⟩⟩
    exact .inr (readQuery_hasPointer f (Nat.succ_pos p) h hc hn (by rw [toInt8_ofNat hlen]; omega))
  · have hneg := toInt8_ofNat_neg (Nat.le_of_not_lt hlen) (by omega)
    exact readQuery_past n (p + 1) f (Nat.succ_pos p) (by omega)

theorem readQuery_unreadable (labels : List NarrowString) (label : NarrowString) (p n : Nat)
    (f : Memory) (h : tName.Stored (a + (p + 1)) (label ++ wireLabels labels))
    (hne : ∀ l ∈ label :: labels, l ≠ [] ∧ l.length < 256)
    (hbad : ¬ ∀ l ∈ label :: labels, Readable l) (hlabel : label.length < 192)
    (hlen : p + 1 + label.length + (wireLabels labels).length < 256) (hn : p + 1 + n = 256) :
    (readQuery tName a n (p + 1) (UInt8.ofNat label.length).toInt8.toInt p f).result = 256 ∨
      PointerEnd tName a
        (readQuery tName a n (p + 1) (UInt8.ofNat label.length).toInt8.toInt p f) := by
  induction labels generalizing label p n f with
  | nil =>
    rw [List.forall_mem_singleton] at hbad
    have hb := readQuery_badLabel f (stored_append.1 h).1 (hne label List.mem_cons_self).1 hbad
      hlabel (n := n) (by omega)
    rwa [hn] at hb
  | cons label' labels ih =>
    obtain ⟨hs, hrest⟩ := stored_append.1 h
    by_cases hr : Readable label
    · rw [wireLabels_cons, stored_cons] at hrest
      obtain ⟨hcount, hrest⟩ := hrest
      rw [wireLabels_cons, List.length_cons, List.length_append] at hlen
      have hbad' : ¬ ∀ l ∈ label' :: labels, Readable l := fun hall =>
        hbad (List.forall_mem_cons.2 ⟨hr, hall⟩)
      have hne' := (List.forall_mem_cons.1 hne).2
      have hcopy := readQuery_characters (p := p) (n := n) f 0 label.length hs hr.2.2 (by omega)
        (Nat.zero_add _).symm
      simp only [Nat.add_zero] at hcopy
      rw [toInt8_ofNat hr.2.1, hcopy]
      obtain ⟨k, hk⟩ : ∃ k, n - label.length = k + 1 := ⟨n - label.length - 1, by omega⟩
      rw [hk]
      by_cases hl' : label'.length < 192
      · have hpos := List.length_pos_of_ne_nil (hne' label' List.mem_cons_self).1
        have hz : UInt8.ofNat label'.length ≠ 0 := ofNat_ne_zero hpos (by omega)
        have hstep := ih label' (p + 1 + label.length) k
          (Function.update (write f p label) (p + 1 + label.length - 1) asciiPeriod)
          (by rwa [Nat.add_assoc a, Nat.add_assoc a] at hrest) hne' hbad' hl' (by omega)
          (by omega)
        rw [readQuery, ← Nat.add_assoc, hcount, if_neg (ofNat_lt_pointer hl'), if_neg (by omega),
          if_pos (by omega), if_neg hz]
        exact hstep
      · right
        apply readQuery_pointer
        rw [← Nat.add_assoc, hcount, pointer_le_ofNat_iff (hne' label' List.mem_cons_self).2]
        exact Nat.le_of_not_lt hl'
    · have hb := readQuery_badLabel f hs (hne label List.mem_cons_self).1 hr hlabel (n := n)
        (by omega)
      rwa [hn] at hb

theorem dnsQueryToChar_unreadable {labels : List NarrowString}
    (h : tName.Stored a (wireLabels labels)) (hne : ∀ l ∈ labels, l ≠ [] ∧ l.length < 256)
    (hbad : ¬ ∀ l ∈ labels, Readable l) (hlen : (wireLabels labels).length < 256) (f : Memory) :
    (dnsQueryToChar tName a f).result = 256 ∨ PointerEnd tName a (dnsQueryToChar tName a f) := by
  cases labels with
  | nil => exact absurd (List.forall_mem_nil _) hbad
  | cons label labels =>
    rw [wireLabels_cons, stored_cons] at h
    rw [wireLabels_cons, List.length_cons, List.length_append] at hlen
    obtain ⟨hcount, hs⟩ := h
    have hcount' := (hne label List.mem_cons_self).2
    by_cases hp : 0xC0 ≤ tName (a + 0)
    · exact .inr (readQuery_pointer 255 0 0 f hp)
    · have hlabel : label.length < 192 := by
        rw [Nat.add_zero, hcount, pointer_le_ofNat_iff hcount'] at hp
        exact Nat.lt_of_not_le hp
      have hr := readQuery_unreadable labels label 0 255 f hs hne hbad hlabel (by omega) rfl
      rw [dnsQueryToChar, domainMaxsize, readQuery, if_neg hp, if_pos rfl, Nat.add_zero, hcount]
      exact hr

end ReadQuery

theorem toNat_pointerOffset (high low : UInt8) :
    (pointerOffset high low).toNat = high.toNat % 64 * 256 + low.toNat := by
  have hand : (high &&& 0x3F).toNat = high.toNat % 64 := by
    rw [UInt8.toNat_and]
    exact Nat.and_two_pow_sub_one_eq_mod high.toNat 6
  have hlow := low.toNat_lt
  rw [pointerOffset, UInt16.toNat_add, UInt16.toNat_shiftLeft, UInt8.toNat_toUInt16,
    UInt8.toNat_toUInt16, hand, Nat.shiftLeft_eq]
  change (high.toNat % 64 * 256 % 65536 + low.toNat) % 65536 = _
  omega

theorem pointerOffset_ne_zero (high : UInt8) (h : low ≠ 0) : pointerOffset high low ≠ 0 := by
  intro hz
  have hn := congrArg UInt16.toNat hz
  rw [toNat_pointerOffset, UInt16.toNat_zero] at hn
  apply h
  apply UInt8.toNat_inj.1
  rw [UInt8.toNat_zero]
  omega

/-- `DNSQueryToChar` reads back a name `CharToDNSQuery` wrote, unless a label of it is too long
or has a character that looks like a pointer. -/
theorem dnsQueryToChar_charToDnsQuery {s : NarrowString} (h0 : (0 : UInt8) ∉ s)
    (hs : s.length < 255) (hne : [] ∉ s.splitOn asciiPeriod) (m : Memory) (a : Nat) :
    (dnsQueryToChar (charToDnsQuery (charPtr s) m a).1 a fun _ => 0).truncated = 0 ∧
      (dnsQueryToChar (charToDnsQuery (charPtr s) m a).1 a fun _ => 0).result = s.length + 1 ∧
      (dnsQueryToChar (charToDnsQuery (charPtr s) m a).1 a fun _ => 0).fName.cString 0
        domainMaxsize = s ↔
    ∀ label ∈ s.splitOn asciiPeriod, Readable label := by
  have hst := charToDnsQuery_stored h0 (by omega) m a
  have hlen := length_wireLabels_splitOn s
  generalize (charToDnsQuery (charPtr s) m a).1 = tName at hst ⊢
  have hlabels : ∀ label ∈ s.splitOn asciiPeriod,
      (0 : UInt8) ∉ label ∧ label ≠ [] ∧ label.length < 256 := by
    intro label hl
    have hsub := sublist_of_mem_splitOn hl
    have hle := hsub.length_le
    exact ⟨fun hc => h0 (hsub.subset hc), fun he => hne (he ▸ hl), by omega⟩
  apply Iff.intro
  · intro hc
    obtain ⟨htrunc, hresult, _⟩ := hc
    by_contra hbad
    rw [wireName, stored_append] at hst
    rcases dnsQueryToChar_unreadable hst.1 (fun l hl => (hlabels l hl).2) hbad (by omega)
      fun _ => 0 with hr | ⟨j, hr, hp⟩
    · omega
    · have hmem := hst.1.mem (i := j + 1) (by omega)
      have hlow : tName (a + j + 1) ≠ 0 := fun hz =>
        not_mem_wireLabels hlabels (by rwa [← Nat.add_assoc, hz] at hmem)
      exact pointerOffset_ne_zero _ hlow (hp.symm.trans htrunc)
  · intro hls
    have hc := dnsQueryToChar_name (List.splitOn_ne_nil asciiPeriod s) hls hst
      (by rw [hlen, domainMaxsize]; omega) fun _ => 0
    rw [hc, dotted_splitOn, hlen]
    refine ⟨rfl, rfl, cString_of_stored ?_ h0 (by rw [domainMaxsize]; omega)⟩
    rw [stored_append, stored_cons]
    exact ⟨stored_write _ 0 s, write_apply_of_le _ s (Nat.le_refl _), stored_nil _ _⟩

theorem dnsQueryToChar_charToDnsQuery_www :
    (dnsQueryToChar (charToDnsQuery (charPtr (narrow "www.cloudxns.net")) (fun _ => 7) 12).1 12
      fun _ => 0).fName.cString 0 domainMaxsize = narrow "www.cloudxns.net" :=
  ((dnsQueryToChar_charToDnsQuery (s := narrow "www.cloudxns.net") (by decide) (by decide)
    (by decide) (fun _ => 7) 12).2 (by decide +kernel)).2.2

end LdnsSelector
