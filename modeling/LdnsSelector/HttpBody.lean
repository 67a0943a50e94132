import LdnsSelector.IpFetcher

set_option autoImplicit true

namespace LdnsSelector

open EStateM

def bit4 : UInt8 := 0x8
def bit5 : UInt8 := 0x10
def bit6 : UInt8 := 0x20
def bit7 : UInt8 := 0x40
def bit8 : UInt8 := 0x80
def low3Bits : UInt8 := 0x7
def low4Bits : UInt8 := 0xF
def low5Bits : UInt8 := 0x1F
def low6Bits : UInt8 := 0x3F
def lSurrogateStart : UInt32 := 0xDC00
def hSurrogateStart : UInt32 := 0xD800
def surrogatePairStart : UInt32 := 0x10000

/-- The bytes that continue a character of two bytes or more, and the bits its lead byte gives. -/
def leadByte (b : UInt8) : Except CppException (Nat × UInt32) :=
  if b &&& bit7 = 0 then .error .rangeError
  else if b &&& bit6 = 0 then .ok (1, (b &&& low5Bits).toUInt32)
  else if b &&& bit5 = 0 then .ok (2, (b &&& low4Bits).toUInt32)
  else if b &&& bit4 = 0 then .ok (3, (b &&& low3Bits).toUInt32)
  else .error .rangeError

def pushCodePoint (codePoint : UInt32) : WString :=
  if surrogatePairStart ≤ codePoint then
    [((codePoint - surrogatePairStart) >>> 10 ||| hSurrogateStart).toUInt16,
      ((codePoint - surrogatePairStart) &&& 0x3FF ||| lSurrogateStart).toUInt16]
  else [codePoint.toUInt16]

/-- `conversions::utf8_to_utf16`, with `numContBytes` bytes of the character `codePoint` to
come. -/
def utf8ToUtf16Loop (numContBytes : Nat) (codePoint : UInt32) :
    List UInt8 → Except CppException WString
  | [] => if numContBytes = 0 then .ok [] else .error .rangeError
  | b :: src =>
    match numContBytes with
    | 0 =>
      if b &&& bit8 = 0 then (b.toUInt16 :: ·) <$> utf8ToUtf16Loop 0 0 src
      else do
        let (numContBytes, codePoint) ← leadByte b
        utf8ToUtf16Loop numContBytes codePoint src
    | numContBytes + 1 =>
      if b &&& bit8 = 0 ∨ b &&& bit7 ≠ 0 then .error .rangeError
      else
        let codePoint := codePoint <<< 6 ||| (b &&& low6Bits).toUInt32
        if numContBytes = 0 then (pushCodePoint codePoint ++ ·) <$> utf8ToUtf16Loop 0 0 src
        else utf8ToUtf16Loop numContBytes codePoint src

def utf8ToUtf16 (s : List UInt8) : Except CppException WString := utf8ToUtf16Loop 0 0 s

/-- What is received for a request. A body is its bytes, or nothing when its stream is unusable. -/
inductive HttpTransfer where
  | failed
  | response (statusCode : Nat) (body : Option (List UInt8))
  deriving DecidableEq, Repr

/-- `json::value::parse`, where `parse` is what the parser reads: nothing when the text is not
JSON. -/
def parseJson (parse : WString → Option JsonValue) (text : WString) :
    Except CppException JsonValue :=
  match parse text with
  | none => .error .jsonException
  | some value => .ok value

def extractJson (parse : WString → Option JsonValue) :
    Option (List UInt8) → Except CppException JsonValue
  | none => .error .httpException
  | some body => do
    let text ← utf8ToUtf16 body
    parseJson parse text

def HttpTransfer.outcome (parse : WString → Option JsonValue) : HttpTransfer → HttpOutcome
  | .failed => .failed
  | .response statusCode body => .response statusCode (extractJson parse body)

/-- How many bytes continue the character that starts with `b`. -/
inductive Lead : UInt8 → Nat → Prop where
  | one (h : b &&& bit8 = 0) : Lead b 0
  | two (h₈ : b &&& bit8 ≠ 0) (h₇ : b &&& bit7 ≠ 0) (h₆ : b &&& bit6 = 0) : Lead b 1
  | three (h₈ : b &&& bit8 ≠ 0) (h₇ : b &&& bit7 ≠ 0) (h₆ : b &&& bit6 ≠ 0)
      (h₅ : b &&& bit5 = 0) : Lead b 2
  | four (h₈ : b &&& bit8 ≠ 0) (h₇ : b &&& bit7 ≠ 0) (h₆ : b &&& bit6 ≠ 0)
      (h₅ : b &&& bit5 ≠ 0) (h₄ : b &&& bit4 = 0) : Lead b 3

def Continues (b : UInt8) : Prop := b &&& bit8 ≠ 0 ∧ b &&& bit7 = 0

/-- The texts the decoder reads: characters, each a lead byte with the bytes that continue it. -/
inductive Utf8 : List UInt8 → Prop where
  | nil : Utf8 []
  | char (hb : Lead b n) (hn : tail.length = n) (ht : ∀ c ∈ tail, Continues c)
      (hs : Utf8 src) : Utf8 (b :: (tail ++ src))

/-- The bytes from within a character on, `numContBytes` of which are to continue it. -/
def Utf8From (numContBytes : Nat) (bytes : List UInt8) : Prop :=
  ∃ tail src, bytes = tail ++ src ∧ tail.length = numContBytes ∧ (∀ c ∈ tail, Continues c) ∧
    Utf8 src

def BreaksUtf8 (http : HttpTransfer) : Prop :=
  ∃ body, http = .response 200 (some body) ∧ ¬Utf8 body

/-- `fetch` returns, and with the code of an undecodable body when the body is one. -/
def ReturnsCode (parse : WString → Option JsonValue) (http : HttpTransfer) (s : FetchState) :
    Prop :=
  ∃ res s', fetch (http.outcome parse) s = .ok res s' ∧
    ∀ body e, http = .response 200 body → extractJson parse body = .error e →
      res = .networkInterfaceRespondParseFail

section Decoding

theorem map_eq_ok_iff {x : Except ε α} {f : α → β} :
    (∃ b, f <$> x = .ok b) ↔ ∃ a, x = .ok a := by
  cases x with
  | ok a =>
    apply Iff.intro
    · intro _
      exact ⟨a, rfl⟩
    · intro _
      exact ⟨f a, rfl⟩
  | error e =>
    apply Iff.intro
    · intro h
      obtain ⟨_, h⟩ := h
      cases h
    · intro h
      obtain ⟨_, h⟩ := h
      cases h

theorem leadByte_eq_ok_iff (h₈ : b &&& bit8 ≠ 0) :
    (∃ codePoint, leadByte b = .ok (n, codePoint)) ↔ Lead b n := by
  rw [leadByte]
  apply Iff.intro
  · intro h
    obtain ⟨codePoint, h⟩ := h
    split at h
    · cases h
    · next h₇ =>
      split at h
      · next h₆ =>
        cases h
        exact .two h₈ h₇ h₆
      · next h₆ =>
        split at h
        · next h₅ =>
          cases h
          exact .three h₈ h₇ h₆ h₅
        · next h₅ =>
          split at h
          · next h₄ =>
            cases h
            exact .four h₈ h₇ h₆ h₅ h₄
          · cases h
  · intro h
    cases h with
    | one h => exact absurd h h₈
    | two _ h₇ h₆ => exact ⟨_, by rw [if_neg h₇, if_pos h₆]⟩
    | three _ h₇ h₆ h₅ => exact ⟨_, by rw [if_neg h₇, if_neg h₆, if_pos h₅]⟩
    | four _ h₇ h₆ h₅ h₄ => exact ⟨_, by rw [if_neg h₇, if_neg h₆, if_neg h₅, if_pos h₄]⟩

theorem utf8From_zero_iff : Utf8From 0 bytes ↔ Utf8 bytes := by
  apply Iff.intro
  · intro hx
    obtain ⟨tail, src, rfl, hn, _, hs⟩ := hx
    rw [List.length_eq_zero_iff.1 hn]
    exact hs
  · intro h
    exact ⟨[], bytes, rfl, rfl, nofun, h⟩

theorem utf8From_succ_iff :
    Utf8From (n + 1) (b :: bytes) ↔ Continues b ∧ Utf8From n bytes := by
  apply Iff.intro
  · intro h
    obtain ⟨tail, src, he, hn, ht, hs⟩ := h
    cases tail with
    | nil => cases hn
    | cons c tail =>
      obtain ⟨rfl, rfl⟩ := List.cons.inj he
      obtain ⟨hc, ht⟩ := List.forall_mem_cons.1 ht
      exact ⟨hc, tail, src, rfl, Nat.succ.inj hn, ht, hs⟩
  · intro h
    obtain ⟨hb, tail, src, rfl, hn, ht, hs⟩ := h
    exact ⟨b :: tail, src, rfl, congrArg Nat.succ hn, List.forall_mem_cons.2 ⟨hb, ht⟩, hs⟩

theorem not_utf8From_succ_nil : ¬Utf8From (n + 1) [] := by
  intro h
  obtain ⟨tail, src, he, hn, _, _⟩ := h
  rw [(List.append_eq_nil_iff.1 he.symm).1] at hn
  cases hn

theorem utf8_cons_iff : Utf8 (b :: bytes) ↔ ∃ n, Lead b n ∧ Utf8From n bytes := by
  apply Iff.intro
  · intro h
    cases h with
    | char hb hn ht hs => exact ⟨_, hb, _, _, rfl, hn, ht, hs⟩
  · intro hx
    obtain ⟨n, hb, tail, src, rfl, hn, ht, hs⟩ := hx
    exact .char hb hn ht hs

theorem lead_ascii (h : b &&& bit8 = 0) (hl : Lead b n) : n = 0 := by
  cases hl with
  | one => rfl
  | two h₈ | three h₈ | four h₈ => exact absurd h h₈

theorem utf8ToUtf16Loop_ok_iff (n : Nat) (codePoint : UInt32) :
    (∃ dest, utf8ToUtf16Loop n codePoint bytes = .ok dest) ↔ Utf8From n bytes := by
  induction bytes generalizing n codePoint with
  | nil =>
    cases n with
    | zero =>
      rw [utf8From_zero_iff]
      exact iff_of_true ⟨[], rfl⟩ .nil
    | succ n => exact iff_of_false (fun ⟨_, h⟩ => nomatch h) not_utf8From_succ_nil
  | cons b src ih =>
    cases n with
    | zero =>
      rw [utf8From_zero_iff, utf8_cons_iff]
      simp only [utf8ToUtf16Loop]
      split
      · next h =>
        rw [map_eq_ok_iff, ih]
        apply Iff.intro
        · intro hs
          exact ⟨0, .one h, hs⟩
        · intro hx
          obtain ⟨n, hl, hs⟩ := hx
          cases lead_ascii h hl
          exact hs
      · next h =>
        cases hlead : leadByte b with
        | ok e =>
          obtain ⟨n, codePoint⟩ := e
          have hl := (leadByte_eq_ok_iff h).1 ⟨codePoint, hlead⟩
          refine Iff.trans (ih n codePoint) ?_
          apply Iff.intro
          · intro hs
            exact ⟨n, hl, hs⟩
          · intro hx
            obtain ⟨n', hl', hs⟩ := hx
            obtain ⟨codePoint', hlead'⟩ := (leadByte_eq_ok_iff h).2 hl'
            rw [hlead] at hlead'
            cases hlead'
            exact hs
        | error e =>
          apply iff_of_false
          · intro hx
            obtain ⟨_, hd⟩ := hx
            cases hd
          · intro hx
            obtain ⟨n, hl, _⟩ := hx
            obtain ⟨codePoint, hlead'⟩ := (leadByte_eq_ok_iff h).2 hl
            rw [hlead] at hlead'
            cases hlead'
    | succ n =>
      rw [utf8From_succ_iff]
      simp only [utf8ToUtf16Loop]
      split
      · next h =>
        apply iff_of_false
        · intro hx
          obtain ⟨_, hd⟩ := hx
          cases hd
        · intro hx
          obtain ⟨⟨h₈, h₇⟩, _⟩ := hx
          rcases h with h | h
          · exact h₈ h
          · exact h h₇
      · next h =>
        obtain ⟨h₈, h₇⟩ := not_or.1 h
        have hc : Continues b := ⟨h₈, not_not.1 h₇⟩
        rw [and_iff_right hc]
        split
        · next hn =>
          rw [map_eq_ok_iff, ih, hn]
        · exact ih n _

/-- What the decoder accepts is UTF-8, and all UTF-8 is accepted. -/
theorem utf8ToUtf16_ok_iff : (∃ dest, utf8ToUtf16 bytes = .ok dest) ↔ Utf8 bytes :=
  (utf8ToUtf16Loop_ok_iff 0 0).trans utf8From_zero_iff

theorem map_eq_error {x : Except ε α} {f : α → β} (h : f <$> x = .error e) : x = .error e := by
  cases x with
  | ok a => cases h
  | error e' => exact congrArg Except.error (Except.error.inj h)

theorem leadByte_error (h : leadByte b = .error e) : e = .rangeError := by
  rw [leadByte] at h
  split at h
  · exact (Except.error.inj h).symm
  · split at h
    · cases h
    · split at h
      · cases h
      · split at h
        · cases h
        · exact (Except.error.inj h).symm

theorem utf8ToUtf16Loop_error {codePoint : UInt32}
    (h : utf8ToUtf16Loop n codePoint bytes = .error e) : e = .rangeError := by
  induction bytes generalizing n codePoint with
  | nil =>
    cases n with
    | zero => cases h
    | succ n => exact (Except.error.inj h).symm
  | cons b src ih =>
    cases n with
    | zero =>
      simp only [utf8ToUtf16Loop] at h
      split at h
      · exact ih (map_eq_error h)
      · cases hlead : leadByte b with
        | ok lead =>
          rw [hlead] at h
          exact ih h
        | error e' =>
          rw [hlead] at h
          rw [← Except.error.inj h]
          exact leadByte_error hlead
    | succ n =>
      simp only [utf8ToUtf16Loop] at h
      split at h
      · exact (Except.error.inj h).symm
      · split at h
        · exact ih (map_eq_error h)
        · exact ih h

theorem utf8ToUtf16_not_utf8 (h : ¬Utf8 bytes) : utf8ToUtf16 bytes = .error .rangeError := by
  cases hd : utf8ToUtf16 bytes with
  | ok dest => exact absurd (utf8ToUtf16_ok_iff.1 ⟨dest, hd⟩) h
  | error e => rw [utf8ToUtf16Loop_error hd]

end Decoding

section Fetching

variable {parse : WString → Option JsonValue} {s : FetchState}

theorem extractJson_not_utf8 (h : ¬Utf8 body) :
    extractJson parse (some body) = .error .rangeError := by
  rw [extractJson, utf8ToUtf16_not_utf8 h]
  rfl

theorem extractJson_error (h : extractJson parse body = .error e)
    (hb : ∀ bytes, body = some bytes → Utf8 bytes) : e ≠ .rangeError := by
  cases body with
  | none =>
    cases h
    exact nofun
  | some bytes =>
    obtain ⟨dest, hd⟩ := utf8ToUtf16_ok_iff.2 (hb bytes rfl)
    rw [extractJson, hd] at h
    change parseJson parse dest = _ at h
    rw [parseJson] at h
    split at h
    · cases h
      exact nofun
    · cases h

theorem fetch_value_returns (value : JsonValue) (s : FetchState) :
    ∃ res s', fetch (.response 200 (.ok value)) s = .ok res s' := by
  have hvalue : Parses (onValue (.ok value)) s fun _ => True := by
    change Parses (if value.isNull = true then _ else parseRespond value) s _
    split
    · exact trivial
    · exact (parseRespond_parses value s).mono (fun _ _ _ => trivial) fun _ _ h => h
  have hfetch : Returns (fetch (.response 200 (.ok value))) s fun _ _ => True := by
    apply Ensures.tryCatch hvalue
    intro e s' he
    obtain rfl := he
    exact trivial
  rw [Returns, Ensures] at hfetch
  cases hr : fetch (.response 200 (.ok value)) s with
  | ok res s' => exact ⟨res, s', rfl⟩
  | error e s' =>
    rw [hr] at hfetch
    exact hfetch.elim

theorem fetch_error (h : e ≠ .rangeError) (s : FetchState) :
    fetch (.response 200 (.error e)) s = .ok .networkInterfaceRespondParseFail s := by
  cases e with
  | rangeError => exact absurd rfl h
  | _ => rfl

/-- `fetch` returns a code, and the one for an undecodable body where the body is one, unless a
successful response has a body that is not UTF-8. -/
theorem returns_code_iff (parse : WString → Option JsonValue) (http : HttpTransfer)
    (s : FetchState) : ReturnsCode parse http s ↔ ¬BreaksUtf8 http := by
  apply Iff.intro
  · intro hx hex
    obtain ⟨res, s', h, _⟩ := hx
    obtain ⟨body, rfl, hb⟩ := hex
    rw [HttpTransfer.outcome, extractJson_not_utf8 hb] at h
    cases h
  · intro hb
    cases http with
    | failed => exact ⟨_, s, rfl, nofun⟩
    | response statusCode body =>
      by_cases hc : statusCode = 200
      · subst hc
        cases he : extractJson parse body with
        | ok value =>
          obtain ⟨res, s', hf⟩ := fetch_value_returns value s
          refine ⟨res, s', ?_, ?_⟩
          · rw [HttpTransfer.outcome, he]
            exact hf
          · intro body' e hbody he'
            cases hbody
            rw [he] at he'
            cases he'
        | error e =>
          have hutf8 : ∀ bytes, body = some bytes → Utf8 bytes := by
            intro bytes heq
            obtain rfl := heq
            by_contra hn
            exact hb ⟨bytes, rfl, hn⟩
          refine ⟨_, s, ?_, fun _ _ _ _ => rfl⟩
          rw [HttpTransfer.outcome, he]
          exact fetch_error (extractJson_error he hutf8) s
      · have hrefused : Refused (.response statusCode (extractJson parse body)) := Or.inl hc
        refine ⟨_, s, fetch_refused hrefused s, ?_⟩
        intro body' e hbody
        cases hbody
        exact absurd rfl hc

theorem not_returns_code_utf8 : ¬∀ parse http s, ReturnsCode parse http s := by
  intro h
  obtain ⟨res, s', hf, _⟩ := h (fun _ => none) (.response 200 (some [0xFF])) ⟨∅, 0⟩
  cases hf

end Fetching

end LdnsSelector
