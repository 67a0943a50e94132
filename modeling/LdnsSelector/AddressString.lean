import LdnsSelector.DnsName
import LdnsSelector.ReadCommands
import LdnsSelector.Replacement

set_option autoImplicit true

namespace LdnsSelector

def asciiZero : UInt8 := 48

def asciiNine : UInt8 := 57

/-- Delete zeros before whole data. -/
def deleteZeros : NarrowString → NarrowString
  | c :: c' :: s =>
    if c = asciiZero ∧ c' ≠ asciiPeriod then deleteZeros (c' :: s) else c :: c' :: s
  | s => s

/-- Check abbreviation format of an IPv4 address. -/
def completeIpv4 (addrString : NarrowString) : NarrowString :=
  let sAddrString := deleteZeros addrString
  match addrString.count asciiPeriod with
  | 0 => narrow "0.0.0." ++ addrString
  | 1 => (replaceFirst [asciiPeriod] (narrow ".0.0.") sAddrString).getD sAddrString
  | 2 => (replaceFirst [asciiPeriod] (narrow ".0.") sAddrString).getD sAddrString
  | _ => sAddrString

/-- Check abbreviation format of an IPv6 address. -/
def completeIpv6 (addrString : NarrowString) : NarrowString :=
  match addrString.count asciiColon with
  | 0 => narrow "::" ++ addrString
  | 1 => (replaceFirst [asciiColon] (narrow "::") addrString).getD addrString
  | _ => addrString

def parts (s : NarrowString) : List NarrowString := s.splitOn asciiPeriod

theorem parts_ne_nil (s : NarrowString) : parts s ≠ [] := List.splitOn_ne_nil _ s

theorem dotted_parts (s : NarrowString) : dotted (parts s) = s := dotted_splitOn s

theorem parts_append (l r : NarrowString) :
    parts (l ++ asciiPeriod :: r) = parts l ++ parts r := List.splitOn_append_cons_self l r

theorem parts_cons (h : c ≠ asciiPeriod) (s : NarrowString) :
    parts (c :: s) = (parts s).modifyHead (c :: ·) := by
  rw [parts, List.splitOn_cons_eq_if_modifyHead, if_neg (by simpa using h)]
  rfl

theorem parts_singleton (h : asciiPeriod ∉ s) : parts s = [s] := List.splitOn_eq_singleton h

theorem parts_insertZero
    (h : replaceFirst [asciiPeriod, asciiPeriod] [asciiPeriod, asciiZero, asciiPeriod] s =
      some s') :
    ∃ xs ys, xs ≠ [] ∧ parts s = xs ++ [] :: ys ∧ parts s' = xs ++ [asciiZero] :: ys := by
  obtain ⟨l, r, rfl, rfl⟩ := replaceFirst_split h
  have hz : parts (asciiZero :: asciiPeriod :: r) = [asciiZero] :: parts r :=
    parts_append [asciiZero] r
  have hp : parts (asciiPeriod :: r) = [] :: parts r := parts_append [] r
  refine ⟨parts l, parts r, parts_ne_nil l, ?_, ?_⟩
  · exact (parts_append l (asciiPeriod :: r)).trans (congrArg (parts l ++ ·) hp)
  · exact (parts_append l (asciiZero :: asciiPeriod :: r)).trans (congrArg (parts l ++ ·) hz)

/-- Delete zeros before data. -/
def deleteInnerZeros (s : NarrowString) : NarrowString :=
  replaceAll [asciiPeriod, asciiZero] [asciiPeriod] (Nat.lt_succ_self 1)
    (replaceAll [asciiPeriod, asciiZero, asciiZero] [asciiPeriod] (Nat.lt_add_of_pos_right two_pos)
      s)

def insertZeros (s : NarrowString) : NarrowString :=
  exhaust (replaceFirst [asciiPeriod, asciiPeriod] [asciiPeriod, asciiZero, asciiPeriod])
    (fun s => (parts s).count []) (fun s s' h => by
      obtain ⟨xs, ys, _, hs, hs'⟩ := parts_insertZero h
      rw [hs, hs', List.count_append, List.count_append, List.count_cons_self,
        List.count_cons_of_ne (List.cons_ne_nil _ _)]
      omega) s

def appendZero (s : NarrowString) : NarrowString :=
  if s.getLast? = some asciiPeriod then s ++ [asciiZero] else s

/-- The check of an IPv4 address. -/
def isDotted (addrString : NarrowString) : Bool :=
  addrString.all fun c => !(c ≠ asciiPeriod && c < asciiZero || asciiNine < c)

/-- `AddressStringToBinary`. The check of an IPv6 address has no effect. `inet_pton`, or what
stands for it in a 32-bit build, converts the text. -/
def addressStringToBinary (inetPton : NarrowString → UInt16 → Option (List UInt8))
    (addrString : NarrowString) (protocol : UInt16) : Option (List UInt8) :=
  if protocol = afInet6 then inetPton (completeIpv6 addrString) afInet6
  else if isDotted addrString then
    inetPton (appendZero (insertZeros (deleteInnerZeros (completeIpv4 addrString)))) afInet
  else none

section Zeros

def strip (part : NarrowString) : NarrowString := part.dropWhile (· = asciiZero)

def orZero (part : NarrowString) : NarrowString := if part = [] then [asciiZero] else part

/-- The shortest text for the number in a part. -/
def numeral (part : NarrowString) : NarrowString := orZero (strip part)

theorem strip_zero (part : NarrowString) : strip (asciiZero :: part) = strip part :=
  List.dropWhile_cons_of_pos (by simp)

theorem strip_eq_self (h : part.head? ≠ some asciiZero) : strip part = part := by
  cases part with
  | nil => rfl
  | cons c part =>
    apply List.dropWhile_cons_of_neg
    intro hc
    exact h (congrArg some (of_decide_eq_true hc))

theorem orZero_eq_self (h : part ≠ []) : orZero part = part := if_neg h

theorem parts_zeros (hz : ∀ c ∈ z, c = asciiZero) (r : NarrowString) :
    (parts (z ++ r)).map strip = (parts r).map strip := by
  induction z with
  | nil => rfl
  | cons c z ih =>
    obtain ⟨rfl, hrest⟩ := List.forall_mem_cons.1 hz
    rw [List.cons_append, parts_cons (by decide), ← ih hrest]
    cases parts (z ++ r) with
    | nil => rfl
    | cons part rest =>
      rw [List.modifyHead_cons, List.map_cons, List.map_cons, strip_zero]

theorem infix_of_part (h : part ∈ (parts s).tail) : asciiPeriod :: part <:+: s := by
  have hs := dotted_parts s
  cases hp : parts s with
  | nil => exact absurd hp (parts_ne_nil s)
  | cons first rest =>
    rw [hp, List.tail_cons] at h
    obtain ⟨xs, ys, rfl⟩ := List.append_of_mem h
    rw [hp, dotted_eq_append, List.flatMap_append, List.flatMap_cons] at hs
    exact ⟨_, _, by rw [← hs, List.append_assoc, List.append_assoc]⟩

theorem parts_shortened (hz : ∀ c ∈ z, c = asciiZero)
    (h : replaceFirst (asciiPeriod :: z) [asciiPeriod] s = some s') :
    mapTail strip (parts s') = mapTail strip (parts s) := by
  obtain ⟨l, r, rfl, rfl⟩ := replaceFirst_split h
  have hs : parts (l ++ (asciiPeriod :: z ++ r)) = parts l ++ parts (z ++ r) := parts_append l _
  have hs' : parts (l ++ ([asciiPeriod] ++ r)) = parts l ++ parts r := parts_append l r
  rw [hs, hs', mapTail_append (parts_ne_nil l), mapTail_append (parts_ne_nil l), parts_zeros hz]

theorem parts_deleteInnerZeros (s : NarrowString) :
    parts (deleteInnerZeros s) = mapTail strip (parts s) := by
  have hnone : ¬ [asciiPeriod, asciiZero] <:+: deleteInnerZeros s :=
    replaceFirst_none (exhaust_normal _)
  have hself : mapTail strip (parts (deleteInnerZeros s)) = parts (deleteInnerZeros s) := by
    apply mapTail_eq_self
    intro part hpart
    apply strip_eq_self
    intro h0
    obtain ⟨rest, rfl⟩ := List.head?_eq_some_iff.1 h0
    have hlead : [asciiPeriod, asciiZero] <+: asciiPeriod :: asciiZero :: rest :=
      List.prefix_append [asciiPeriod, asciiZero] rest
    exact hnone (hlead.isInfix.trans (infix_of_part hpart))
  have hone : ∀ c ∈ [asciiZero], c = asciiZero := fun c hc => List.mem_singleton.1 hc
  have htwo : ∀ c ∈ [asciiZero, asciiZero], c = asciiZero := by simp
  rw [← hself]
  exact (exhaust_invariant (fun _ _ h => parts_shortened hone h) _).trans
    (exhaust_invariant (fun _ _ h => parts_shortened htwo h) s)

theorem nil_not_mem_tail (hp : ¬ [asciiPeriod, asciiPeriod] <:+: s)
    (hl : s.getLast? ≠ some asciiPeriod) : [] ∉ (parts s).tail := by
  intro h
  have hs := dotted_parts s
  cases he : parts s with
  | nil => exact absurd he (parts_ne_nil s)
  | cons first rest =>
    rw [he, List.tail_cons] at h
    obtain ⟨xs, ys, rfl⟩ := List.append_of_mem h
    rw [he, dotted_eq_append, List.flatMap_append, List.flatMap_cons] at hs
    cases ys with
    | nil => exact hl (by simp [← hs])
    | cons part ys =>
      apply hp
      refine ⟨first ++ xs.flatMap fun part => asciiPeriod :: part,
        part ++ ys.flatMap fun part => asciiPeriod :: part, ?_⟩
      rw [← hs, List.flatMap_cons]
      simp

theorem parts_appendZero (hp : ¬ [asciiPeriod, asciiPeriod] <:+: s) :
    parts (appendZero s) = mapTail orZero (parts s) := by
  have hself {t : NarrowString} (h : [] ∉ (parts t).tail) :
      mapTail orZero (parts t) = parts t := by
    apply mapTail_eq_self
    intro part hpart
    apply orZero_eq_self
    rintro rfl
    exact h hpart
  rw [appendZero]
  split
  · next hl =>
    obtain ⟨t, rfl⟩ := List.getLast?_eq_some_iff.1 hl
    have ht : [] ∉ (parts t).tail := by
      apply nil_not_mem_tail
      · exact fun h => hp (h.trans (List.prefix_append t _).isInfix)
      · intro h
        obtain ⟨t', rfl⟩ := List.getLast?_eq_some_iff.1 h
        exact hp ⟨t', [], by simp⟩
    have hz : parts [asciiZero] = [[asciiZero]] := rfl
    have hn : parts [] = [[]] := rfl
    rw [List.append_assoc, List.singleton_append, parts_append, parts_append, hz, hn,
      mapTail_append (parts_ne_nil t), hself ht]
    rfl
  · next hl => exact (hself (nil_not_mem_tail hp hl)).symm

theorem parts_insertZeros (s : NarrowString) :
    parts (appendZero (insertZeros s)) = mapTail orZero (parts s) := by
  have hnone : ¬ [asciiPeriod, asciiPeriod] <:+: insertZeros s :=
    replaceFirst_none (exhaust_normal s)
  rw [parts_appendZero hnone]
  apply exhaust_invariant (f := fun s => mapTail orZero (parts s))
  intro s s' h
  obtain ⟨xs, ys, hne, hs, hs'⟩ := parts_insertZero h
  rw [hs, hs', mapTail_append hne, mapTail_append hne]
  rfl

end Zeros

section Abbreviations

theorem deleteZeros_cons (h : ¬(c = asciiZero ∧ c' ≠ asciiPeriod)) (s : NarrowString) :
    deleteZeros (c :: c' :: s) = c :: c' :: s := by rw [deleteZeros, if_neg h]

theorem parts_deleteZeros (s : NarrowString) :
    parts (deleteZeros s) = (parts s).modifyHead deleteZeros := by
  induction s using deleteZeros.induct with
  | case1 c c' s h ih =>
    obtain ⟨rfl, hc'⟩ := h
    rw [deleteZeros, if_pos ⟨rfl, hc'⟩, ih, parts_cons (by decide : asciiZero ≠ asciiPeriod),
      parts_cons hc']
    cases parts s with
    | nil => rfl
    | cons part rest => simp [deleteZeros, hc']
  | case2 c c' s h =>
    rw [deleteZeros_cons h]
    by_cases hc : c = asciiPeriod
    · subst hc
      have hp : parts (asciiPeriod :: c' :: s) = [] :: parts (c' :: s) := parts_append [] (c' :: s)
      rw [hp]
      rfl
    · rw [parts_cons hc]
      by_cases hc' : c' = asciiPeriod
      · subst hc'
        have hp : parts (asciiPeriod :: s) = [] :: parts s := parts_append [] s
        rw [hp]
        rfl
      · rw [parts_cons hc']
        cases parts s with
        | nil => rfl
        | cons part rest => simp [deleteZeros_cons h]
  | case3 s h =>
    cases s with
    | nil => rfl
    | cons c s =>
      cases s with
      | nil =>
        by_cases hc : c = asciiPeriod
        · subst hc
          rfl
        · rw [deleteZeros, parts_cons hc]
          · rfl
          · exact h
      | cons c' s => exact absurd rfl (h c c' s)

theorem numeral_deleteZeros (part : NarrowString) :
    numeral (deleteZeros part) = numeral part := by
  induction part using deleteZeros.induct with
  | case1 c c' s h ih =>
    obtain ⟨rfl, hc'⟩ := h
    rw [deleteZeros, if_pos ⟨rfl, hc'⟩, ih, numeral, numeral, strip_zero]
  | case2 c c' s h => rw [deleteZeros_cons h]
  | case3 s h => rw [deleteZeros]; exact h

theorem deleteZeros_eq_numeral (hne : part ≠ []) (hp : asciiPeriod ∉ part) :
    deleteZeros part = numeral part := by
  induction part with
  | nil => exact absurd rfl hne
  | cons c s ih =>
    rw [List.mem_cons, not_or] at hp
    by_cases hc : c = asciiZero
    · subst hc
      rw [numeral, strip_zero, ← numeral]
      cases s with
      | nil => rfl
      | cons c' s =>
        have hc' : c' ≠ asciiPeriod := fun h => hp.2 (h ▸ List.mem_cons_self)
        rw [deleteZeros, if_pos ⟨rfl, hc'⟩]
        exact ih (List.cons_ne_nil c' s) hp.2
    · have hs : strip (c :: s) = c :: s := strip_eq_self (by simpa using hc)
      rw [numeral, hs, orZero_eq_self (List.cons_ne_nil c s)]
      cases s with
      | nil => rfl
      | cons c' s => exact deleteZeros_cons (fun h => hc h.1) s

theorem length_parts (s : NarrowString) : (parts s).length = s.count asciiPeriod + 1 := by
  induction s with
  | nil => rfl
  | cons c s ih =>
    by_cases hc : c = asciiPeriod
    · subst hc
      have hp : parts (asciiPeriod :: s) = [] :: parts s := parts_append [] s
      rw [hp, List.length_cons, ih, List.count_cons_self]
    · rw [parts_cons hc, List.length_modifyHead, ih, List.count_cons_of_ne hc]

theorem period_not_mem (h : part ∈ parts s) : asciiPeriod ∉ part := by
  induction s generalizing part with
  | nil =>
    obtain rfl := List.mem_singleton.1 h
    exact List.not_mem_nil
  | cons c s ih =>
    by_cases hc : c = asciiPeriod
    · subst hc
      have hp : parts (asciiPeriod :: s) = [] :: parts s := parts_append [] s
      rw [hp] at h
      rcases List.mem_cons.1 h with rfl | h
      · exact List.not_mem_nil
      · exact ih h
    · rw [parts_cons hc] at h
      cases hs : parts s with
      | nil => exact absurd hs (parts_ne_nil s)
      | cons first rest =>
        rw [hs, List.modifyHead_cons] at h
        rcases List.mem_cons.1 h with rfl | h
        · rw [List.mem_cons, not_or]
          exact ⟨Ne.symm hc, ih (hs ▸ List.mem_cons_self)⟩
        · exact ih (hs ▸ List.mem_cons_of_mem first h)

/-- The four parts that an abbreviated address stands for. -/
def fillParts (zero : α) : List α → List α
  | [d] => [zero, zero, zero, d]
  | [a, d] => [a, zero, zero, d]
  | [a, c, d] => [a, zero, c, d]
  | parts => parts

theorem map_fillParts (f : α → β) (zero : α) (xs : List α) :
    (fillParts zero xs).map f = fillParts (f zero) (xs.map f) := by
  match xs with
  | [] => rfl
  | [_] => rfl
  | [_, _] => rfl
  | [_, _, _] => rfl
  | _ :: _ :: _ :: _ :: _ => rfl

theorem mem_fillParts (h : x ∈ fillParts zero xs) : x = zero ∨ x ∈ xs := by
  match xs with
  | [] => exact .inr h
  | [_] => simpa [fillParts] using h
  | [_, _] =>
    simp only [fillParts, List.mem_cons, List.not_mem_nil, or_false] at h ⊢
    tauto
  | [_, _, _] =>
    simp only [fillParts, List.mem_cons, List.not_mem_nil, or_false] at h ⊢
    tauto
  | _ :: _ :: _ :: _ :: _ => exact .inr h

theorem head?_fillParts (zero x : α) (xs : List α) :
    (fillParts zero (x :: xs)).head? = some (if xs = [] then zero else x) := by
  match xs with
  | [] => rfl
  | [_] => rfl
  | [_, _] => rfl
  | _ :: _ :: _ :: _ => rfl

theorem length_fillParts_eq (zero : α) (h : xs ≠ []) :
    (fillParts zero xs).length = 4 ↔ xs.length ≤ 4 := by
  match xs, h with
  | [_], _ => simp [fillParts]
  | [_, _], _ => simp [fillParts]
  | [_, _, _], _ => simp [fillParts]
  | _ :: _ :: _ :: _ :: xs, _ =>
    simp only [fillParts, List.length_cons]
    omega

theorem four_le_length_fillParts (zero : α) (h : xs ≠ []) : 4 ≤ (fillParts zero xs).length := by
  match xs, h with
  | [_], _ => exact Nat.le_refl 4
  | [_, _], _ => exact Nat.le_refl 4
  | [_, _, _], _ => exact Nat.le_refl 4
  | _ :: _ :: _ :: _ :: xs, _ =>
    simp only [fillParts, List.length_cons]
    omega

theorem parts_replaced (hs : parts s = first :: rest) (hr : rest ≠ []) (zeros : NarrowString) :
    replaceFirst [asciiPeriod] (asciiPeriod :: (zeros ++ [asciiPeriod])) s =
      some (first ++ asciiPeriod :: (zeros ++ asciiPeriod :: dotted rest)) := by
  have hd := dotted_parts s
  rw [hs, dotted_cons first hr] at hd
  have hp : asciiPeriod ∉ first := period_not_mem (hs ▸ List.mem_cons_self)
  rw [← hd, replaceFirst_singleton hp]
  simp

theorem parts_dotted_tail (hs : parts s = first :: rest) (hr : rest ≠ []) :
    parts (dotted rest) = rest := by
  apply List.splitOn_intercalate asciiPeriod _ hr
  intro part hpart
  exact period_not_mem (hs ▸ List.mem_cons_of_mem first hpart)

theorem parts_completeIpv4 (s : NarrowString) :
    mapTail numeral (parts (completeIpv4 s)) =
      mapTail numeral (fillParts [asciiZero] ((parts s).modifyHead deleteZeros)) := by
  have hcount := length_parts s
  have hd := parts_deleteZeros s
  have hz (t : NarrowString) : parts (asciiZero :: asciiPeriod :: t) = [asciiZero] :: parts t :=
    parts_append [asciiZero] t
  cases hs : parts s with
  | nil => exact absurd hs (parts_ne_nil s)
  | cons a rest =>
    rw [hs, List.modifyHead_cons] at hd
    rw [hs, List.length_cons, Nat.add_right_cancel_iff] at hcount
    rw [List.modifyHead_cons]
    match rest, hs, hd, hcount with
    | [], hs, _, hcount =>
      have hc : completeIpv4 s =
          asciiZero :: asciiPeriod :: asciiZero :: asciiPeriod :: asciiZero :: asciiPeriod ::
            s := by
        rw [completeIpv4, ← hcount]
        rfl
      rw [hc, hz, hz, hz, hs, fillParts]
      simp [mapTail, numeral_deleteZeros]
    | [d], hs, hd, hcount =>
      have hne : [d] ≠ [] := List.cons_ne_nil d []
      have hr : replaceFirst [asciiPeriod] (narrow ".0.0.") (deleteZeros s) =
          some (deleteZeros a ++ asciiPeriod :: asciiZero :: asciiPeriod :: asciiZero ::
            asciiPeriod :: dotted [d]) := parts_replaced hd hne [asciiZero, asciiPeriod, asciiZero]
      have hc : completeIpv4 s = deleteZeros a ++ asciiPeriod :: asciiZero :: asciiPeriod ::
          asciiZero :: asciiPeriod :: dotted [d] := by
        rw [completeIpv4, ← hcount]
        exact congrArg (Option.getD · _) hr
      rw [hc, parts_append, parts_singleton (period_not_mem (hd ▸ List.mem_cons_self)), hz, hz,
        parts_dotted_tail hs hne]
      rfl
    | [c, d], hs, hd, hcount =>
      have hne : [c, d] ≠ [] := List.cons_ne_nil c [d]
      have hr : replaceFirst [asciiPeriod] (narrow ".0.") (deleteZeros s) =
          some (deleteZeros a ++ asciiPeriod :: asciiZero :: asciiPeriod :: dotted [c, d]) :=
        parts_replaced hd hne [asciiZero]
      have hc : completeIpv4 s =
          deleteZeros a ++ asciiPeriod :: asciiZero :: asciiPeriod :: dotted [c, d] := by
        rw [completeIpv4, ← hcount]
        exact congrArg (Option.getD · _) hr
      rw [hc, parts_append, parts_singleton (period_not_mem (hd ▸ List.mem_cons_self)), hz,
        parts_dotted_tail hs hne]
      rfl
    | b :: c :: d :: rest, _, hd, hcount =>
      have hc : completeIpv4 s = deleteZeros s := by
        rw [completeIpv4, ← hcount]
        rfl
      rw [hc, hd]
      rfl

end Abbreviations

section Reading

def IsDigit (c : UInt8) : Prop := asciiZero ≤ c ∧ c ≤ asciiNine

def decimalValue (part : NarrowString) : Nat :=
  part.foldl (fun n c => 10 * n + (c - asciiZero).toNat) 0

/-- The text of a number, without zeros before it, or no text. -/
def IsNumeral (part : NarrowString) : Prop :=
  (∀ c ∈ part, IsDigit c) ∧ (part.head? = some asciiZero → part = [asciiZero])

/-- `inet_pton` reads four numbers between periods, each of which fits into a byte. Of fewer
nothing is said. -/
def ReadsDotted (inetPton : NarrowString → UInt16 → Option (List UInt8)) : Prop :=
  ∀ numerals addr, 4 ≤ numerals.length → (∀ part ∈ numerals, IsNumeral part) →
    (inetPton (dotted numerals) afInet = some addr ↔
      numerals.length = 4 ∧ [] ∉ numerals ∧ addr.map UInt8.toNat = numerals.map decimalValue)

theorem isDotted_iff : isDotted s ↔ ∀ c ∈ s, c = asciiPeriod ∨ IsDigit c := by
  rw [isDotted, List.all_eq_true]
  apply forall₂_congr
  intro c _
  have hp : IsDigit c → c ≠ asciiPeriod := by
    rintro h rfl
    exact absurd h.1 (by decide)
  by_cases hc : c = asciiPeriod
  · subst hc
    simp [asciiPeriod, asciiNine]
  · simp [hc, IsDigit]

theorem decimalValue_strip (part : NarrowString) :
    decimalValue (strip part) = decimalValue part := by
  induction part with
  | nil => rfl
  | cons c part ih =>
    by_cases hc : c = asciiZero
    · subst hc
      rw [strip_zero, ih]
      rfl
    · rw [strip_eq_self (by simpa using hc)]

theorem decimalValue_numeral (part : NarrowString) :
    decimalValue (numeral part) = decimalValue part := by
  rw [← decimalValue_strip part, numeral, orZero]
  split
  · next h =>
    rw [h]
    rfl
  · rfl

theorem decimalValue_deleteZeros (part : NarrowString) :
    decimalValue (deleteZeros part) = decimalValue part := by
  rw [← decimalValue_numeral, numeral_deleteZeros, decimalValue_numeral]

theorem numeral_ne_nil (part : NarrowString) : numeral part ≠ [] := by
  rw [numeral, orZero]
  split
  · exact List.cons_ne_nil _ _
  · assumption

theorem isNumeral_zero : IsNumeral [asciiZero] :=
  ⟨fun _ hc => List.mem_singleton.1 hc ▸ ⟨UInt8.le_refl _, by decide⟩, fun _ => rfl⟩

theorem isNumeral_numeral (h : ∀ c ∈ part, IsDigit c) : IsNumeral (numeral part) := by
  rw [numeral, orZero]
  split
  · exact isNumeral_zero
  · refine ⟨fun c hc => h c ((List.dropWhile_sublist _).subset hc), fun h0 => ?_⟩
    have hz := List.head?_dropWhile_not (fun c => decide (c = asciiZero)) part
    rw [strip] at h0
    rw [h0] at hz
    exact absurd hz (by decide)

theorem isNumeral_deleteZeros (h : ∀ c ∈ part, IsDigit c) (hp : asciiPeriod ∉ part) :
    IsNumeral (deleteZeros part) := by
  by_cases hne : part = []
  · subst hne
    exact ⟨nofun, nofun⟩
  · rw [deleteZeros_eq_numeral hne hp]
    exact isNumeral_numeral h

theorem digits_of_part (h : isDotted s) (hpart : part ∈ parts s) : ∀ c ∈ part, IsDigit c := by
  intro c hc
  rcases isDotted_iff.1 h c ((sublist_of_mem_splitOn hpart).subset hc) with rfl | hd
  · exact absurd hc (period_not_mem hpart)
  · exact hd

def numerals (s : NarrowString) : List NarrowString :=
  mapTail numeral (fillParts [asciiZero] ((parts s).modifyHead deleteZeros))

theorem parts_converted (s : NarrowString) :
    parts (appendZero (insertZeros (deleteInnerZeros (completeIpv4 s)))) = numerals s := by
  rw [parts_insertZeros, parts_deleteInnerZeros, mapTail_mapTail]
  exact parts_completeIpv4 s

theorem isNumeral_of_mem (h : isDotted s) (hpart : part ∈ numerals s) : IsNumeral part := by
  cases hs : parts s with
  | nil => exact absurd hs (parts_ne_nil s)
  | cons first rest =>
    have hfirst : first ∈ parts s := hs ▸ List.mem_cons_self
    have hhead : IsNumeral (deleteZeros first) :=
      isNumeral_deleteZeros (digits_of_part h hfirst) (period_not_mem hfirst)
    rw [numerals, hs, List.modifyHead_cons] at hpart
    rcases mem_mapTail hpart with hh | ⟨x, hx, rfl⟩
    · rw [head?_fillParts, Option.some.injEq] at hh
      split at hh
      · exact hh ▸ isNumeral_zero
      · exact hh ▸ hhead
    · apply isNumeral_numeral
      rcases mem_fillParts hx with rfl | hx
      · exact isNumeral_zero.1
      rcases List.mem_cons.1 hx with rfl | hx
      · exact hhead.1
      · exact digits_of_part h (hs ▸ List.mem_cons_of_mem first hx)

theorem deleteZeros_ne_nil (c : UInt8) (part : NarrowString) : deleteZeros (c :: part) ≠ [] := by
  induction part generalizing c with
  | nil => exact List.cons_ne_nil c []
  | cons c' part ih =>
    rw [deleteZeros]
    split
    · exact ih c'
    · exact List.cons_ne_nil _ _

theorem nil_mem_numerals_iff (s : NarrowString) :
    [] ∈ numerals s ↔ s.head? = some asciiPeriod := by
  have hnil {first : NarrowString} {rest : List NarrowString}
      (hs : parts s = first :: rest) :
      [] ∈ numerals s ↔ rest ≠ [] ∧ deleteZeros first = [] := by
    have hhead := head?_fillParts [asciiZero] (deleteZeros first) rest
    rw [numerals, hs, List.modifyHead_cons]
    apply Iff.intro
    · intro h
      rcases mem_mapTail h with hh | ⟨x, _, hx⟩
      · rw [hhead, Option.some.injEq] at hh
        split at hh
        · exact absurd hh (List.cons_ne_nil _ _)
        · next hr => exact ⟨hr, hh⟩
      · exact absurd hx.symm (numeral_ne_nil x)
    · rintro ⟨hr, hf⟩
      rw [if_neg hr, hf] at hhead
      obtain ⟨others, ho⟩ := List.head?_eq_some_iff.1 hhead
      rw [hf, ho]
      exact List.mem_cons_self
  cases s with
  | nil => exact (hnil rfl).trans (by simp)
  | cons c s =>
    by_cases hc : c = asciiPeriod
    · subst hc
      have hp : parts (asciiPeriod :: s) = [] :: parts s := parts_append [] s
      exact (hnil hp).trans (iff_of_true ⟨parts_ne_nil s, rfl⟩ rfl)
    · have hne : ¬ some c = some asciiPeriod := fun h => hc (Option.some.inj h)
      cases hs : parts s with
      | nil => exact absurd hs (parts_ne_nil s)
      | cons first rest =>
        have hp : parts (c :: s) = (c :: first) :: rest := by
          rw [parts_cons hc, hs, List.modifyHead_cons]
        exact (hnil hp).trans (iff_of_false (fun h => deleteZeros_ne_nil c first h.2) hne)

theorem map_decimalValue_numerals (s : NarrowString) :
    (numerals s).map decimalValue = fillParts 0 ((parts s).map decimalValue) := by
  rw [numerals, map_mapTail decimalValue_numeral, map_fillParts]
  apply congrArg (fillParts 0)
  cases parts s with
  | nil => rfl
  | cons first rest => simp [decimalValue_deleteZeros]

theorem addressStringToBinary_dotted (hp : ReadsDotted inetPton) (hd : isDotted s)
    (addr : List UInt8) : addressStringToBinary inetPton s afInet = some addr ↔
      s.head? ≠ some asciiPeriod ∧ (parts s).length ≤ 4 ∧
        addr.map UInt8.toNat = fillParts 0 ((parts s).map decimalValue) := by
  have h6 : afInet ≠ afInet6 := by decide
  have hne : (parts s).modifyHead deleteZeros ≠ [] := by simpa using parts_ne_nil s
  have hlen : (numerals s).length = 4 ↔ (parts s).length ≤ 4 := by
    rw [numerals, length_mapTail, length_fillParts_eq _ hne, List.length_modifyHead]
  have hfilled : 4 ≤ (numerals s).length := by
    rw [numerals, length_mapTail]
    exact four_le_length_fillParts _ hne
  have hread := hp (numerals s) addr hfilled fun part => isNumeral_of_mem hd
  rw [← parts_converted, dotted_parts, parts_converted, hlen, nil_mem_numerals_iff,
    map_decimalValue_numerals] at hread
  rw [addressStringToBinary, if_neg h6, if_pos hd, hread, and_left_comm]

/-- `AddressStringToBinary` reads what consists of digits and at most three periods, does not
begin with a period and stands for four numbers that fit into a byte each. What is left out
between two periods or at the end is zero, and zeros stand before the last number or the last
two when there are fewer than four. -/
theorem addressStringToBinary_iff (hp : ReadsDotted inetPton) (s : NarrowString)
    (addr : List UInt8) : addressStringToBinary inetPton s afInet = some addr ↔
      isDotted s ∧ s.head? ≠ some asciiPeriod ∧ (parts s).length ≤ 4 ∧
        addr.map UInt8.toNat = fillParts 0 ((parts s).map decimalValue) := by
  by_cases hd : isDotted s
  · rw [addressStringToBinary_dotted hp hd]
    exact (and_iff_right hd).symm
  · have h6 : afInet ≠ afInet6 := by decide
    rw [addressStringToBinary, if_neg h6, if_neg hd]
    exact iff_of_false (fun h => Option.some_ne_none addr h.symm) fun h => hd h.1

instance : DecidablePred IsDigit := fun _ => inferInstanceAs (Decidable (_ ∧ _))

def readDotted (s : NarrowString) (_ : UInt16) : Option (List UInt8) :=
  if (parts s).length = 4 ∧ (parts s).all fun part =>
      part ≠ [] && part.all (fun c => IsDigit c) && decimalValue part < 256 then
    some ((parts s).map fun part => UInt8.ofNat (decimalValue part))
  else none

theorem map_toNat_eq_iff (addr : List UInt8) (values : List Nat) :
    addr.map UInt8.toNat = values ↔ (∀ n ∈ values, n < 256) ∧ values.map UInt8.ofNat = addr := by
  apply Iff.intro
  · rintro rfl
    refine ⟨fun n hn => ?_, by simp [Function.comp_def]⟩
    obtain ⟨b, _, rfl⟩ := List.mem_map.1 hn
    exact b.toNat_lt
  · rintro ⟨hlt, rfl⟩
    rw [List.map_map]
    apply List.map_congr_left _ |>.trans (List.map_id values)
    exact fun n hn => UInt8.toNat_ofNat_of_lt' (hlt n hn)

theorem readsDotted_readDotted : ReadsDotted readDotted := by
  intro numerals addr hfour hn
  have hdigits : ∀ part ∈ numerals, ∀ c ∈ part, IsDigit c := fun part h => (hn part h).1
  have hperiod : ∀ part ∈ numerals, asciiPeriod ∉ part :=
    fun part h hmem => absurd (hdigits part h asciiPeriod hmem) (by decide)
  have hne : numerals ≠ [] := List.length_pos_iff.1 (by omega)
  have hp : parts (dotted numerals) = numerals :=
    List.splitOn_intercalate asciiPeriod hperiod hne
  rw [readDotted, hp, Option.ite_none_right_eq_some, Option.some.injEq, map_toNat_eq_iff,
    List.map_map, List.forall_mem_map]
  simp only [List.all_eq_true, Bool.and_eq_true, decide_eq_true_eq]
  constructor
  · rintro ⟨⟨hlen, hall⟩, ha⟩
    exact ⟨hlen, fun hnil => (hall [] hnil).1.1 rfl, fun part h => (hall part h).2, ha⟩
  · rintro ⟨hlen, hnil, hlt, ha⟩
    have hne : ∀ part ∈ numerals, part ≠ [] := fun part h he => hnil (he ▸ h)
    exact ⟨⟨hlen, fun part h => ⟨⟨hne part h, hdigits part h⟩, hlt part h⟩⟩, ha⟩

theorem addressStringToBinary_iff_short :
    addressStringToBinary readDotted (narrow "010..02") afInet = some [10, 0, 0, 2] :=
  (addressStringToBinary_iff readsDotted_readDotted _ _).2
    ⟨rfl, by decide, by decide, by decide⟩

end Reading

end LdnsSelector
