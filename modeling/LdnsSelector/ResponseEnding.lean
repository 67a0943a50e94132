import LdnsSelector.ResponseText

set_option autoImplicit true

namespace LdnsSelector

open Memory

section Settling

/-- The pointers of the name at a location come back to an offset before one of them is zero. -/
def Circular (m : Memory) (location : Nat) : Prop :=
  m location ≠ 0 ∧ ∃ i j, i < j ∧
    (nextPointer m)^[i] (nameAt m location).truncated =
      (nextPointer m)^[j] (nameAt m location).truncated ∧
    ∀ k < j, (nextPointer m)^[k] (nameAt m location).truncated ≠ 0

variable (m : Memory)

/-- The names that `PrintResourseData` comes to. -/
def dataNames (location length : Nat) (type classes : UInt16) : List Nat :=
  if length = 0 ∧ type ≠ dnsRecordOpt ∨ classes = 0 then []
  else if type = dnsRecordA ∧ length = 4 then []
  else if type = dnsRecordNs then [location]
  else if type = dnsRecordCname then [location]
  else if type = dnsRecordSoa then
    [location] ++ (printDomainName m location 0x3FFF).elim [] fun primary => [location + primary.2]
  else if type = dnsRecordPtr then [location]
  else if type = dnsRecordMx then [location + 2]
  else if type = dnsRecordTxt then []
  else if type = dnsRecordAaaa ∧ length = 16 then []
  else if type = dnsRecordSrv then [location + 6]
  else if type = dnsRecordOpt then []
  else if type = dnsRecordRrsig then [location + 18]
  else if type = dnsRecordNsec then [location]
  else if type = dnsRecordCaa then []
  else []

def recordNames (isAdditional : Bool) (currentLength : Nat) : List Nat :=
  [currentLength] ++ (printDomainName m currentLength 0x3FFF).elim [] fun name =>
    let a := currentLength + name.2
    let type := m.readBe16 a
    let classes := m.readBe16 (a + 2)
    let length := m.readBe16 (a + 8)
    if isAdditional && type = dnsRecordOpt then dataNames m (a - 1) length.toNat type classes
    else dataNames m (a + 10) length.toNat type classes

/-- The names that `PrintResponse` comes to, in order. After one that never ends there is none. -/
def responseNames (length : Nat) : List Nat :=
  let readQuestions := readMany (printQuestion m length 0x3FFF) (m.readBe16 4).toNat
  let readAnswer := readMany (printRecord m 0x3FFF false) (m.readBe16 6).toNat
  let readAuthority := readMany (printRecord m 0x3FFF false) (m.readBe16 8).toNat
  manyPlaces (printQuestion m length 0x3FFF) (fun a => [a]) (m.readBe16 4).toNat 12 ++
    (readQuestions 12).elim [] fun questions =>
      manyPlaces (printRecord m 0x3FFF false) (recordNames m false) (m.readBe16 6).toNat
        questions.2 ++ (readAnswer questions.2).elim [] fun answer =>
          manyPlaces (printRecord m 0x3FFF false) (recordNames m false) (m.readBe16 8).toNat
            answer.2 ++ (readAuthority answer.2).elim [] fun authority =>
              manyPlaces (printRecord m 0x3FFF true) (recordNames m true) (m.readBe16 10).toNat
                authority.2

theorem printDomainName_settles (location : Nat) :
    SettlesBy 0x3FFF (Circular m) [location] (printDomainName m location) where
  enough _ _ h := printDomainName_enough h
  none_iff := by
    rw [printDomainName_none_iff, printDomainName_forever]
    simp only [List.mem_singleton, exists_eq_left]
    rfl

theorem printName_settles (location : Nat) (f : NarrowString → DataText) :
    SettlesBy 0x3FFF (Circular m) [location] fun rounds => printName m rounds location f :=
  (printDomainName_settles m location).map fun name => f name.1

theorem printResourseData_settles (location length : Nat) (type classes : UInt16) :
    SettlesBy 0x3FFF (Circular m) (dataNames m location length type classes) fun rounds =>
      printResourseData m rounds location length type classes := by
  have hname := printDomainName_settles m
  have hprint := printName_settles m
  unfold printResourseData dataNames
  apply SettlesBy.ite (.const _)
  apply SettlesBy.ite (.const _)
  apply SettlesBy.ite (hprint ..)
  apply SettlesBy.ite (hprint ..)
  apply SettlesBy.ite
  · exact (hname _).bind fun primary => (hname _).bind_const fun mailbox => ⟨_, fun _ => rfl⟩
  apply SettlesBy.ite (hprint ..)
  apply SettlesBy.ite (hprint ..)
  apply SettlesBy.ite (.const _)
  apply SettlesBy.ite (.const _)
  apply SettlesBy.ite (hprint ..)
  apply SettlesBy.ite (.const _)
  apply SettlesBy.ite ((hname _).bind_const fun signer => ⟨_, fun _ => rfl⟩)
  apply SettlesBy.ite ((hname _).bind_const fun next => ⟨_, fun _ => rfl⟩)
  exact .ite (.const _) (.const _)

theorem printRecord_settles (isAdditional : Bool) (currentLength : Nat) :
    SettlesBy 0x3FFF (Circular m) (recordNames m isAdditional currentLength) fun rounds =>
      printRecord m rounds isAdditional currentLength := by
  have hdata := printResourseData_settles m
  unfold printRecord recordNames
  apply (printDomainName_settles m currentLength).bind
  intro name
  apply SettlesBy.ite
  · exact (hdata ..).bind_const fun data => ⟨_, fun _ => rfl⟩
  · exact (hdata ..).bind_const fun data => ⟨_, fun _ => rfl⟩

theorem printQuestion_settles (length currentLength : Nat) :
    SettlesBy 0x3FFF (Circular m) [currentLength] fun rounds =>
      printQuestion m length rounds currentLength := by
  unfold printQuestion
  exact (printDomainName_settles m currentLength).bind_const fun name => ⟨_, fun _ => rfl⟩

theorem printResponse_settles (length : Nat) :
    SettlesBy 0x3FFF (Circular m) (responseNames m length) fun rounds =>
      printResponse m length rounds := by
  have hquestions := readMany_settles (printQuestion_settles m length)
  have hrecords (isAdditional : Bool) := readMany_settles (printRecord_settles m isAdditional)
  unfold printResponse responseNames
  exact (hquestions ..).bind fun questions => (hrecords false ..).bind fun answer =>
    (hrecords false ..).bind fun authority => (hrecords true ..).bind_const fun additional =>
      ⟨_, fun _ => rfl⟩

end Settling

section Circular

variable {m : Memory}

inductive ComesTo (m : Memory) (length : Nat) : Nat → Prop where
  | question (hq : Laid (QuestionStands m length) 12 questions a)
      (h : questions.length < (m.readBe16 4).toNat) : ComesTo m length a
  | answer (hq : Laid (QuestionStands m length) 12 questions a)
      (hnq : questions.length = (m.readBe16 4).toNat) (ha : Laid (RecordStands m) a answer b)
      (h : answer.length < (m.readBe16 6).toNat) : ComesTo m length b
  | authority (hq : Laid (QuestionStands m length) 12 questions a)
      (hnq : questions.length = (m.readBe16 4).toNat) (ha : Laid (RecordStands m) a answer b)
      (hna : answer.length = (m.readBe16 6).toNat) (hu : Laid (RecordStands m) b authority c)
      (h : authority.length < (m.readBe16 8).toNat) : ComesTo m length c
  | additional (hq : Laid (QuestionStands m length) 12 questions a)
      (hnq : questions.length = (m.readBe16 4).toNat) (ha : Laid (RecordStands m) a answer b)
      (hna : answer.length = (m.readBe16 6).toNat) (hu : Laid (RecordStands m) b authority c)
      (hnu : authority.length = (m.readBe16 8).toNat)
      (hd : Laid (AdditionalStands m) c additional d)
      (h : additional.length < (m.readBe16 10).toNat) : ComesTo m length d

theorem printQuestion_circular (hc : Circular m a) (length rounds : Nat) :
    printQuestion m length rounds a = none := by
  rw [printQuestion, (printDomainName_forever m a).2 hc rounds]
  rfl

theorem printRecord_circular (hc : Circular m a) (isAdditional : Bool) (rounds : Nat) :
    printRecord m rounds isAdditional a = none := by
  rw [printRecord, (printDomainName_forever m a).2 hc rounds]
  rfl

theorem printResponse_circular (h : ComesTo m length a) (hc : Circular m a) :
    printResponse m length 0x3FFF = none := by
  cases h with
  | question hq h =>
    have hq := readMany_stuck (fun h => printQuestion_stands h) hq h (printQuestion_circular hc _ _)
    rw [printResponse, hq]
    rfl
  | answer hq hnq ha h =>
    have hq := readMany_laid (fun h => printQuestion_stands h) hq
    have ha := readMany_stuck (fun h => printRecord_stands false h) ha h
      (printRecord_circular hc _ _)
    simp only [printResponse, ← hnq, hq, ha, Option.bind_eq_bind, Option.bind_some,
      Option.bind_none]
  | authority hq hnq ha hna hu h =>
    have hq := readMany_laid (fun h => printQuestion_stands h) hq
    have ha := readMany_laid (fun h => printRecord_stands false h) ha
    have hu := readMany_stuck (fun h => printRecord_stands false h) hu h
      (printRecord_circular hc _ _)
    simp only [printResponse, ← hnq, hq, ← hna, ha, hu, Option.bind_eq_bind, Option.bind_some,
      Option.bind_none]
  | additional hq hnq ha hna hu hnu hd h =>
    have hq := readMany_laid (fun h => printQuestion_stands h) hq
    have ha := readMany_laid (fun h => printRecord_stands false h) ha
    have hu := readMany_laid (fun h => printRecord_stands false h) hu
    have hd := readMany_stuck (fun h => AdditionalStands.printed h) hd h
      (printRecord_circular hc _ _)
    simp only [printResponse, ← hnq, hq, ← hna, ha, ← hnu, hu, hd, Option.bind_eq_bind,
      Option.bind_some, Option.bind_none]

/-- `PrintResponse` follows fewer pointers for each name than there are offsets, or it never
returns. It never does exactly when it comes to a name whose pointers come back, and it comes to
the names behind questions and records that stand there. -/
theorem printResponse_forever (m : Memory) (length : Nat) :
    ((∀ rounds, printResponse m length rounds = none) ↔ printResponse m length 0x3FFF = none) ∧
      ((∀ rounds, printResponse m length rounds = none) ↔
        ∃ a ∈ responseNames m length, Circular m a) ∧
      ∀ a, ComesTo m length a → Circular m a → ∀ rounds, printResponse m length rounds = none :=
  have hs := printResponse_settles m length
  ⟨hs.forever_iff, hs.forever_iff.trans hs.none_iff,
    fun _ h hc => hs.forever_iff.2 (printResponse_circular h hc)⟩

def selfPointing : Memory :=
  charPtr [0, 0, 0x81, 0x80, 0, 1, 0, 0, 0, 0, 0, 0, 0xC0, 0x0C, 0, 1, 0, 1]

example : ComesTo selfPointing 18 12 ∧ Circular selfPointing 12 :=
  ⟨.question .nil (by decide), by decide, 0, 1, by decide, by decide, by decide⟩

example : responseNames answeredBuffer 37 = [12, 21] := by decide +kernel

end Circular

end LdnsSelector
