import LdnsSelector.DnspingMain
import LdnsSelector.DomainName
import LdnsSelector.WireFormat

set_option autoImplicit true

namespace LdnsSelector

open Memory

def dnsRecordNs : UInt16 := 2

def dnsRecordCname : UInt16 := 5

def dnsRecordSoa : UInt16 := 6

def dnsRecordPtr : UInt16 := 12

def dnsRecordMx : UInt16 := 15

def dnsRecordTxt : UInt16 := 16

def dnsRecordSrv : UInt16 := 33

def dnsRecordRrsig : UInt16 := 46

def dnsRecordNsec : UInt16 := 47

def dnsRecordCaa : UInt16 := 257

/-- The codes of an option that are printed as names. Two share one, and one has an empty one. -/
def optionNames : List (UInt16 × String) :=
  [(1, "LLQ"), (2, "LLQ"), (3, ""), (4, "OWNER"), (5, "DAU"), (6, "DHU"), (7, "N3U"),
    (8, "CLIENT_SUBNET"), (9, "EDNS_EXPIRE"), (0x50FA, "CLIENT_SUBNET_EXP")]

inductive CodeText where
  | name (text : String)
  | number (code : UInt16)
  deriving DecidableEq

def codeText (code : UInt16) : CodeText :=
  match optionNames.lookup code with
  | some text => .name text
  | none => .number code

/-- What `PrintResourseData` prints. -/
inductive DataText where
  | omitted
  | address (bytes : List UInt8)
  | address6 (bytes : List UInt8)
  | name (name : NarrowString)
  | soa (primary mailbox : NarrowString)
      (serial refreshInterval retryInterval expireLimit minimumTtl : UInt32)
  | mx (preference : UInt16) (mailExchange : NarrowString)
  | txt (length : UInt8) (text : List UInt8)
  | srv (priority weight port : UInt16) (target : NarrowString)
  | opt (udpPayloadSize : UInt16) (extendedRcode version : UInt8) (dnssec : Bool)
      (option : Option (CodeText × UInt16))
  | rrsig (typeCovered : UInt16) (algorithm labels : UInt8) (ttl expiration inception : UInt32)
      (keyTag : UInt16) (signer : NarrowString) (signature : List UInt8)
  | nsec (next : NarrowString) (bitMap : List UInt8)
  | caa (flags length : UInt8) (tag value : List UInt8)
  | other
  deriving DecidableEq

def printName (m : Memory) (rounds location : Nat) (f : NarrowString → DataText) :
    Option DataText :=
  (printDomainName m location rounds).map fun name => f name.1

/-- `PrintResourseData`, of a type and a class in host order. -/
def printResourseData (m : Memory) (rounds location length : Nat) (type classes : UInt16) :
    Option DataText :=
  if length = 0 ∧ type ≠ dnsRecordOpt ∨ classes = 0 then some .omitted
  else if type = dnsRecordA ∧ length = 4 then some (.address (m.read location 4))
  else if type = dnsRecordNs then printName m rounds location .name
  else if type = dnsRecordCname then printName m rounds location .name
  else if type = dnsRecordSoa then do
    let (primary, n) ← printDomainName m location rounds
    let (mailbox, k) ← printDomainName m (location + n) rounds
    let a := location + (n + k)
    return .soa primary mailbox (m.readBe32 a) (m.readBe32 (a + 4)) (m.readBe32 (a + 8))
      (m.readBe32 (a + 12)) (m.readBe32 (a + 16))
  else if type = dnsRecordPtr then printName m rounds location .name
  else if type = dnsRecordMx then
    printName m rounds (location + 2) (.mx (m.readBe16 location))
  else if type = dnsRecordTxt then
    some (.txt (m location) (m.read (location + 1) (length - 1)))
  else if type = dnsRecordAaaa ∧ length = 16 then some (.address6 (m.read location 16))
  else if type = dnsRecordSrv then
    printName m rounds (location + 6)
      (.srv (m.readBe16 location) (m.readBe16 (location + 2)) (m.readBe16 (location + 4)))
  else if type = dnsRecordOpt then
    some (.opt (m.readBe16 (location + 3)) (m (location + 5)) (m (location + 6))
      (m.readBe16 (location + 7) >>> 15 ≠ 0)
      (if 4 ≤ length then
        some (codeText (m.readBe16 (location + 11)), m.readBe16 (location + 13)) else none))
  else if type = dnsRecordRrsig then do
    let (signer, n) ← printDomainName m (location + 18) rounds
    -- the first byte behind the name is passed over
    let n := n + 1 + 18
    return .rrsig (m.readBe16 location) (m (location + 2)) (m (location + 3))
      (m.readBe32 (location + 4)) (m.readBe32 (location + 8)) (m.readBe32 (location + 12))
      (m.readBe16 (location + 16)) signer (m.read (location + n) (length - n))
  else if type = dnsRecordNsec then do
    let (next, n) ← printDomainName m location rounds
    return .nsec next (m.read (location + n) (length - n))
  else if type = dnsRecordCaa then
    let tagLength := (m (location + 1)).toNat
    some (.caa (m location) (m (location + 1)) (m.read (location + 2) tagLength)
      (m.read (location + 2 + tagLength) (length - (2 + tagLength))))
  else some .other

/-- What is printed of a record: the class, the time to live and the length are left out of an
EDNS label. -/
structure RecordText where
  name : NarrowString
  type : UInt16
  members : Option (UInt16 × UInt32 × UInt16)
  data : DataText
  deriving DecidableEq

/-- A record, and where it ends. Only additional records can be EDNS labels: the data of a label
is taken to begin with the name of the root. -/
def printRecord (m : Memory) (rounds : Nat) (isAdditional : Bool) (currentLength : Nat) :
    Option (RecordText × Nat) := do
  let (name, n) ← printDomainName m currentLength rounds
  let a := currentLength + n
  let type := m.readBe16 a
  let classes := m.readBe16 (a + 2)
  let length := m.readBe16 (a + 8)
  if isAdditional && type = dnsRecordOpt then
    let data ← printResourseData m rounds (a - 1) length.toNat type classes
    return (⟨name, type, none, data⟩, a + (10 + length.toNat))
  else
    let data ← printResourseData m rounds (a + 10) length.toNat type classes
    return (⟨name, type, some (classes, m.readBe32 (a + 4), length), data⟩,
      a + 10 + length.toNat)

structure QuestionText where
  name : NarrowString
  type : UInt16
  classes : UInt16
  deriving DecidableEq

/-- A question, and where it ends. The name is taken to end with its first zero. -/
def printQuestion (m : Memory) (length rounds currentLength : Nat) :
    Option (QuestionText × Nat) := do
  let (name, _) ← printDomainName m currentLength rounds
  -- a difference of `size_t`, of 32 bits
  let room := if currentLength ≤ length then length - currentLength
    else length + 2 ^ 32 - currentLength
  let a := currentLength + (m.strnlen currentLength room + 1)
  return (⟨name, m.readBe16 a, m.readBe16 (a + 2)⟩, a + 4)

structure ResponseText where
  id : UInt16
  flags : UInt16
  questionCount : UInt16
  answerCount : UInt16
  authorityCount : UInt16
  additionalCount : UInt16
  questions : List QuestionText
  answer : List RecordText
  authority : List RecordText
  additional : List RecordText
  deriving DecidableEq

/-- `PrintResponse`, of the response at address zero. -/
def printResponse (m : Memory) (length rounds : Nat) : Option ResponseText := do
  let (questions, a) ←
    readMany (printQuestion m length rounds) (m.readBe16 4).toNat 12
  let (answer, b) ← readMany (printRecord m rounds false) (m.readBe16 6).toNat a
  let (authority, c) ← readMany (printRecord m rounds false) (m.readBe16 8).toNat b
  let (additional, _) ← readMany (printRecord m rounds true) (m.readBe16 10).toNat c
  return ⟨m.readBe16 0, m.readBe16 2, m.readBe16 4, m.readBe16 6, m.readBe16 8, m.readBe16 10,
    questions, answer, authority, additional⟩

section Names

/-- A name that stands from one address up to another: the root, or labels in segments of which
only the first may be empty. -/
def NameStands (m : Memory) (a : Nat) (name : List NarrowString) (b : Nat) : Prop :=
  (name = [] ∧ m a = 0 ∧ b = a + 1) ∨
    ∃ segments, NameAt m a segments ∧ Copyable segments ∧ [] ∉ segments.tail ∧
      segments.flatten = name ∧ b = a + occupied segments

def nameText (name : List NarrowString) : NarrowString :=
  if name = [] then narrow "<Root>" else dotted name

theorem followPointers_mono {t : UInt16} (h : followPointers m rounds t multiplePtr = some text)
    (hle : rounds ≤ rounds') : followPointers m rounds' t multiplePtr = some text := by
  induction rounds generalizing t multiplePtr text rounds' with
  | zero =>
    by_cases ht : t = 0
    · subst ht
      rwa [followPointers_zero] at h ⊢
    · rw [followPointers, if_neg ht] at h
      cases h
  | succ rounds ih =>
    by_cases ht : t = 0
    · subst ht
      rwa [followPointers_zero] at h ⊢
    · cases rounds' with
      | zero => exact absurd hle (Nat.not_succ_le_zero rounds)
      | succ rounds' =>
        rw [followPointers_succ m rounds multiplePtr ht, Option.map_eq_some_iff] at h
        obtain ⟨rest, hr, rfl⟩ := h
        rw [followPointers_succ m rounds' multiplePtr ht, ih hr (Nat.le_of_succ_le_succ hle)]
        rfl

theorem printDomainName_mono (h : printDomainName m location rounds = some x)
    (hle : rounds ≤ rounds') : printDomainName m location rounds' = some x := by
  rw [printDomainName] at h ⊢
  split at h
  · next hz => rwa [if_pos hz]
  · next hz =>
    rw [if_neg hz]
    dsimp only at h ⊢
    split at h
    · next ht => rwa [if_pos ht]
    · next ht =>
      rw [if_neg ht]
      obtain ⟨rest, hr, hx⟩ := Option.map_eq_some_iff.1 h
      rw [followPointers_mono hr hle, Option.map_some, hx]

theorem printDomainName_enough (h : printDomainName m location rounds = some x) :
    printDomainName m location 0x3FFF = some x := by
  have hsome : (printDomainName m location 0x3FFF).isSome :=
    printDomainName_rounds (Option.isSome_of_eq_some h)
  obtain ⟨y, hy⟩ := Option.isSome_iff_exists.1 hsome
  have hx := printDomainName_mono h (Nat.le_max_left rounds 0x3FFF)
  rw [printDomainName_mono hy (Nat.le_max_right rounds 0x3FFF)] at hx
  rw [hy, hx]

theorem printDomainName_stands (h : NameStands m a name b) :
    ∃ n, b = a + n ∧ 0 < n ∧ printDomainName m a 0x3FFF = some (nameText name, n) := by
  rcases h with ⟨rfl, hz, rfl⟩ | ⟨segments, hn, hc, htail, rfl, rfl⟩
  · refine ⟨1, rfl, Nat.one_pos, ?_⟩
    rw [printDomainName, if_pos hz]
    rfl
  · have hne := hn.flatten_ne_nil
    obtain ⟨rounds, hp⟩ := printDomainName_segments hn hc
    have htext := (printedName_eq_iff hn.ne_nil hne).2 htail
    have ht : printedName segments = nameText segments.flatten := htext.trans (if_neg hne).symm
    refine ⟨occupied segments, rfl, ?_, ht ▸ printDomainName_enough hp⟩
    cases hn with
    | @stop _ labels hne' hs =>
      rw [occupied, wireName, List.length_append]
      exact Nat.succ_pos _
    | jump hs hp hz hn =>
      rw [occupied_cons _ hn.ne_nil]
      exact Nat.succ_pos _

theorem NameStands.lt (h : NameStands m a name b) : a < b := by
  obtain ⟨n, rfl, hn, _⟩ := printDomainName_stands h
  exact Nat.lt_add_of_pos_right hn

theorem NameStands.length_ne_zero (h : NameStands m a name b) (hb : a + n = b) : n ≠ 0 := by
  have hlt := h.lt
  omega

theorem printName_stands (h : NameStands m a name b) (f : NarrowString → DataText) :
    printName m 0x3FFF a f = some (f (nameText name)) := by
  obtain ⟨n, _, _, hp⟩ := printDomainName_stands h
  rw [printName, hp]
  rfl

end Names

section Records

attribute [local simp] dnsRecordA dnsRecordNs dnsRecordCname dnsRecordSoa dnsRecordPtr dnsRecordMx
  dnsRecordTxt dnsRecordAaaa dnsRecordSrv dnsRecordOpt dnsRecordRrsig dnsRecordNsec dnsRecordCaa

inductive RecordData where
  | address (bytes : List UInt8)
  | address6 (bytes : List UInt8)
  | ns (name : List NarrowString)
  | cname (name : List NarrowString)
  | ptr (name : List NarrowString)
  | soa (primary mailbox : List NarrowString)
      (serial refreshInterval retryInterval expireLimit minimumTtl : UInt32)
  | mx (preference : UInt16) (mailExchange : List NarrowString)
  | txt (length : UInt8) (text : List UInt8)
  | srv (priority weight port : UInt16) (target : List NarrowString)
  | rrsig (typeCovered : UInt16) (algorithm labels : UInt8) (ttl expiration inception : UInt32)
      (keyTag : UInt16) (signer : List NarrowString) (signature : List UInt8)
  | nsec (next : List NarrowString) (bitMap : List UInt8)
  | caa (flags : UInt8) (tag value : List UInt8)
  | other (type : UInt16) (bytes : List UInt8)
  deriving DecidableEq

namespace RecordData

def type : RecordData → UInt16
  | .address _ => dnsRecordA
  | .address6 _ => dnsRecordAaaa
  | .ns _ => dnsRecordNs
  | .cname _ => dnsRecordCname
  | .ptr _ => dnsRecordPtr
  | .soa .. => dnsRecordSoa
  | .mx _ _ => dnsRecordMx
  | .txt _ _ => dnsRecordTxt
  | .srv .. => dnsRecordSrv
  | .rrsig .. => dnsRecordRrsig
  | .nsec _ _ => dnsRecordNsec
  | .caa .. => dnsRecordCaa
  | .other type _ => type

/-- The data as it is printed: without the first byte of a signature. -/
def text : RecordData → DataText
  | .address bytes => .address bytes
  | .address6 bytes => .address6 bytes
  | .ns name => .name (nameText name)
  | .cname name => .name (nameText name)
  | .ptr name => .name (nameText name)
  | .soa primary mailbox serial refreshInterval retryInterval expireLimit minimumTtl =>
    .soa (nameText primary) (nameText mailbox) serial refreshInterval retryInterval expireLimit
      minimumTtl
  | .mx preference mailExchange => .mx preference (nameText mailExchange)
  | .txt length text => .txt length text
  | .srv priority weight port target => .srv priority weight port (nameText target)
  | .rrsig typeCovered algorithm labels ttl expiration inception keyTag signer signature =>
    .rrsig typeCovered algorithm labels ttl expiration inception keyTag (nameText signer)
      signature.tail
  | .nsec next bitMap => .nsec (nameText next) bitMap
  | .caa flags tag value => .caa flags (UInt8.ofNat tag.length) tag value
  | .other _ bytes => if bytes = [] then .omitted else .other

end RecordData

/-- The types of which `PrintResourseData` knows the data. -/
def knownTypes : List UInt16 :=
  [dnsRecordA, dnsRecordNs, dnsRecordCname, dnsRecordSoa, dnsRecordPtr, dnsRecordMx, dnsRecordTxt,
    dnsRecordAaaa, dnsRecordSrv, dnsRecordOpt, dnsRecordRrsig, dnsRecordNsec, dnsRecordCaa]

/-- The data of a record stands from one address up to another. -/
inductive DataStands (m : Memory) : Nat → RecordData → Nat → Prop where
  | address (h : m.Stored a bytes) (hl : bytes.length = 4) :
      DataStands m a (.address bytes) (a + 4)
  | address6 (h : m.Stored a bytes) (hl : bytes.length = 16) :
      DataStands m a (.address6 bytes) (a + 16)
  | ns (h : NameStands m a name b) : DataStands m a (.ns name) b
  | cname (h : NameStands m a name b) : DataStands m a (.cname name) b
  | ptr (h : NameStands m a name b) : DataStands m a (.ptr name) b
  | soa (hp : NameStands m a primary b) (hm : NameStands m b mailbox c)
      (h : m.Stored c (be32 serial ++ (be32 refreshInterval ++ (be32 retryInterval ++
        (be32 expireLimit ++ be32 minimumTtl))))) :
      DataStands m a (.soa primary mailbox serial refreshInterval retryInterval expireLimit
        minimumTtl) (c + 20)
  | mx (h : m.Stored a (be16 preference)) (hn : NameStands m (a + 2) mailExchange b) :
      DataStands m a (.mx preference mailExchange) b
  | txt (h : m.Stored a (length :: text)) :
      DataStands m a (.txt length text) (a + (1 + text.length))
  | srv (h : m.Stored a (be16 priority ++ (be16 weight ++ be16 port)))
      (hn : NameStands m (a + 6) target b) : DataStands m a (.srv priority weight port target) b
  | rrsig (h : m.Stored a (be16 typeCovered ++ (algorithm :: labels :: (be32 ttl ++
        (be32 expiration ++ (be32 inception ++ be16 keyTag))))))
      (hn : NameStands m (a + 18) signer b) (hs : m.Stored b signature) :
      DataStands m a (.rrsig typeCovered algorithm labels ttl expiration inception keyTag signer
        signature) (b + signature.length)
  | nsec (hn : NameStands m a next b) (h : m.Stored b bitMap) :
      DataStands m a (.nsec next bitMap) (b + bitMap.length)
  | caa (h : m.Stored a (flags :: UInt8.ofNat tag.length :: (tag ++ value)))
      (hl : tag.length < 256) :
      DataStands m a (.caa flags tag value) (a + (2 + tag.length + value.length))
  | other (h : m.Stored a bytes) (ht : type ∉ knownTypes) :
      DataStands m a (.other type bytes) (a + bytes.length)

section Known

variable {m : Memory} {classes : UInt16}

theorem printResourseData_known (hc : classes ≠ 0) (hn : n ≠ 0) :
    ¬ (n = 0 ∧ type ≠ dnsRecordOpt ∨ classes = 0) := by
  rintro (h | h)
  · exact hn h.1
  · exact hc h

theorem printResourseData_soa (hc : classes ≠ 0) (hn : n ≠ 0) (hp : NameStands m a primary b)
    (hm : NameStands m b mailbox c)
    (h : m.Stored c (be32 serial ++ (be32 refreshInterval ++ (be32 retryInterval ++
      (be32 expireLimit ++ be32 minimumTtl))))) :
    printResourseData m 0x3FFF a n dnsRecordSoa classes =
      some (.soa (nameText primary) (nameText mailbox) serial refreshInterval retryInterval
        expireLimit minimumTtl) := by
  obtain ⟨k₁, rfl, _, h₁⟩ := printDomainName_stands hp
  obtain ⟨k₂, rfl, _, h₂⟩ := printDomainName_stands hm
  simp only [stored_append, length_be32] at h
  obtain ⟨hs, hr, ht, he, hx⟩ := h
  rw [printResourseData, if_neg (printResourseData_known hc hn)]
  simp only [h₁, h₂, Option.bind_eq_bind, Option.bind_some]
  simp [← Nat.add_assoc, readBe32_of_stored hs, readBe32_of_stored hr, readBe32_of_stored ht,
    readBe32_of_stored he, readBe32_of_stored hx]

theorem printResourseData_rrsig (hc : classes ≠ 0) (hb : a + n = b + signature.length)
    (h : m.Stored a (be16 typeCovered ++ (algorithm :: labels :: (be32 ttl ++
      (be32 expiration ++ (be32 inception ++ be16 keyTag))))))
    (hx : NameStands m (a + 18) signer b) (hs : m.Stored b signature) :
    printResourseData m 0x3FFF a n dnsRecordRrsig classes =
      some (.rrsig typeCovered algorithm labels ttl expiration inception keyTag (nameText signer)
        signature.tail) := by
  obtain ⟨k, rfl, _, hp⟩ := printDomainName_stands hx
  simp only [stored_append, stored_cons, length_be16, length_be32] at h
  obtain ⟨hcov, halg, hlab, httl, hexp, hinc, hkey⟩ := h
  have hn : n ≠ 0 := by omega
  have hlen : n - (k + 1 + 18) = signature.length - 1 := by omega
  have hat : a + (k + 1 + 18) = a + 18 + k + 1 := by omega
  rw [printResourseData, if_neg (printResourseData_known hc hn)]
  simp only [hp, Option.bind_eq_bind, Option.bind_some]
  rw [hlen, hat, hs.read_tail]
  simp only [Nat.add_assoc] at halg hlab httl hexp hinc hkey
  simp [readBe16_of_stored hcov, halg, hlab, readBe32_of_stored httl, readBe32_of_stored hexp,
    readBe32_of_stored hinc, readBe16_of_stored hkey]

end Known

theorem printResourseData_stands (h : DataStands m a data (a + n)) (hc : classes ≠ 0) :
    printResourseData m 0x3FFF a n data.type classes = some data.text := by
  generalize hb : a + n = b at h
  cases h with
  | address h hl =>
    obtain rfl : n = 4 := Nat.add_left_cancel hb
    simp [printResourseData, RecordData.type, RecordData.text, hc, h.read_eq hl]
  | address6 h hl =>
    obtain rfl : n = 16 := Nat.add_left_cancel hb
    simp [printResourseData, RecordData.type, RecordData.text, hc, h.read_eq hl]
  | ns h =>
    have hn := h.length_ne_zero hb
    simp [printResourseData, RecordData.type, RecordData.text, hc, hn, printName_stands h]
  | cname h =>
    have hn := h.length_ne_zero hb
    simp [printResourseData, RecordData.type, RecordData.text, hc, hn, printName_stands h]
  | ptr h =>
    have hn := h.length_ne_zero hb
    simp [printResourseData, RecordData.type, RecordData.text, hc, hn, printName_stands h]
  | soa hp hm h =>
    have hlt := hp.lt.trans hm.lt
    exact printResourseData_soa hc (by omega) hp hm h
  | mx h hx =>
    have hlt := hx.lt
    have hn : n ≠ 0 := by omega
    simp [printResourseData, RecordData.type, RecordData.text, hc, hn, printName_stands hx,
      readBe16_of_stored h]
  | txt h =>
    obtain rfl := Nat.add_left_cancel hb
    obtain ⟨hl, ht⟩ := stored_cons.1 h
    simp [printResourseData, RecordData.type, RecordData.text, hc, hl, ht.read_eq rfl]
  | srv h hx =>
    have hlt := hx.lt
    have hn : n ≠ 0 := by omega
    simp only [stored_append, length_be16] at h
    simp [printResourseData, RecordData.type, RecordData.text, hc, hn, printName_stands hx,
      readBe16_of_stored h.1, readBe16_of_stored h.2.1, readBe16_of_stored h.2.2]
  | rrsig h hx hs => exact printResourseData_rrsig hc hb h hx hs
  | nsec hx h =>
    obtain ⟨k, rfl, hk, hp⟩ := printDomainName_stands hx
    obtain rfl : n = k + _ := Nat.add_left_cancel (hb.trans (Nat.add_assoc ..))
    simp [printResourseData, RecordData.type, RecordData.text, hc, hk.ne', hp, h.read_eq rfl]
  | caa h hl =>
    obtain rfl := Nat.add_left_cancel hb
    simp only [stored_cons, stored_append] at h
    obtain ⟨hf, htag, ht, hv⟩ := h
    have ht : m.read (a + 2) _ = _ := ht
    have hv : m.read (a + 2 + _) _ = _ := hv
    simp [printResourseData, RecordData.type, RecordData.text, hc, hf, htag, ht, hv,
      Nat.mod_eq_of_lt hl]
  | other h ht =>
    obtain rfl := Nat.add_left_cancel hb
    simp [knownTypes] at ht
    simp [printResourseData, RecordData.type, RecordData.text, hc, ht, apply_ite some]

theorem DataStands.type_ne (h : DataStands m a data b) : data.type ≠ dnsRecordOpt := by
  cases h with
  | other h ht =>
    rintro (rfl : _ = dnsRecordOpt)
    exact ht (by decide)
  | _ =>
    simp [RecordData.type]

structure Record where
  name : List NarrowString
  classes : UInt16
  ttl : UInt32
  length : UInt16
  data : RecordData
  deriving DecidableEq

def Record.text (record : Record) : RecordText :=
  ⟨nameText record.name, record.data.type, some (record.classes, record.ttl, record.length),
    record.data.text⟩

def RecordStands (m : Memory) (a : Nat) (record : Record) (b : Nat) : Prop :=
  record.classes ≠ 0 ∧ ∃ c, NameStands m a record.name c ∧
    m.Stored c (be16 record.data.type ++ (be16 record.classes ++ (be32 record.ttl ++
      be16 record.length))) ∧
    DataStands m (c + 10) record.data (c + 10 + record.length.toNat) ∧
    b = c + 10 + record.length.toNat

theorem printRecord_stands (isAdditional : Bool) (h : RecordStands m a record b) :
    printRecord m 0x3FFF isAdditional a = some (record.text, b) := by
  obtain ⟨hc, c, hn, hm, hd, rfl⟩ := h
  obtain ⟨n, rfl, _, hp⟩ := printDomainName_stands hn
  simp only [stored_append, length_be16, length_be32] at hm
  obtain ⟨htype, hclasses, httl, hlength⟩ := hm
  have hlength : m.readBe16 (a + n + 8) = record.length := readBe16_of_stored hlength
  have httl : m.readBe32 (a + n + 4) = record.ttl := readBe32_of_stored httl
  simp only [printRecord, hp, Option.bind_eq_bind, Option.bind_some, readBe16_of_stored htype,
    readBe16_of_stored hclasses, httl, hlength, hd.type_ne, decide_false, Bool.and_false,
    Bool.false_eq_true, if_false, printResourseData_stands hd hc]
  rfl

inductive Additional where
  | record (record : Record)
  | edns (udpPayloadSize : UInt16) (extendedRcode version : UInt8) (zField : UInt16)
      (option : Option (UInt16 × UInt16 × List UInt8))
  deriving DecidableEq

def optionBytes : Option (UInt16 × UInt16 × List UInt8) → List UInt8
  | none => []
  | some (code, length, data) => be16 code ++ (be16 length ++ data)

def Additional.text : Additional → RecordText
  | .record r => r.text
  | .edns udpPayloadSize extendedRcode version zField option =>
    ⟨nameText [], dnsRecordOpt, none, .opt udpPayloadSize extendedRcode version (zField >>> 15 ≠ 0)
      (option.map fun option => (codeText option.1, option.2.1))⟩

inductive AdditionalStands (m : Memory) (a : Nat) : Additional → Nat → Prop where
  | record (h : RecordStands m a record b) : AdditionalStands m a (.record record) b
  | edns (hs : udpPayloadSize ≠ 0) (hl : (optionBytes option).length < 0x10000)
      (h : m.Stored a (0 :: (be16 dnsRecordOpt ++ (be16 udpPayloadSize ++
        (extendedRcode :: version :: (be16 zField ++
          (be16 (UInt16.ofNat (optionBytes option).length) ++ optionBytes option))))))) :
      AdditionalStands m a (.edns udpPayloadSize extendedRcode version zField option)
        (a + 1 + (10 + (optionBytes option).length))

theorem printResourseData_opt (hs : udpPayloadSize ≠ 0)
    (hsize : m.readBe16 (a + 3) = udpPayloadSize) (ho : m.Stored (a + 11) (optionBytes option)) :
    printResourseData m 0x3FFF a (optionBytes option).length dnsRecordOpt udpPayloadSize =
      some (.opt udpPayloadSize (m (a + 5)) (m (a + 6)) (m.readBe16 (a + 7) >>> 15 ≠ 0)
        (option.map fun option => (codeText option.1, option.2.1))) := by
  have hoption : (if 4 ≤ (optionBytes option).length then
      some (codeText (m.readBe16 (a + 11)), m.readBe16 (a + 13)) else none) =
        option.map fun option => (codeText option.1, option.2.1) := by
    cases option with
    | none => rfl
    | some option =>
      obtain ⟨code, length, data⟩ := option
      simp only [optionBytes, stored_append, length_be16, Nat.add_assoc, Nat.reduceAdd] at ho
      have hle : 4 ≤ (optionBytes (some (code, length, data))).length := by
        simp only [optionBytes, List.length_append, length_be16]
        omega
      rw [if_pos hle, readBe16_of_stored ho.1, readBe16_of_stored ho.2.1]
      rfl
  rw [printResourseData, if_neg (by simp [hs]), hoption, hsize]
  simp

theorem printRecord_edns (hs : udpPayloadSize ≠ 0) (hl : (optionBytes option).length < 0x10000)
    (h : m.Stored a (0 :: (be16 dnsRecordOpt ++ (be16 udpPayloadSize ++
      (extendedRcode :: version :: (be16 zField ++
        (be16 (UInt16.ofNat (optionBytes option).length) ++ optionBytes option))))))) :
    printRecord m 0x3FFF true a =
      some ((Additional.edns udpPayloadSize extendedRcode version zField option).text,
        a + 1 + (10 + (optionBytes option).length)) := by
  simp only [stored_cons, stored_append, length_be16, Nat.add_assoc, Nat.reduceAdd] at h
  obtain ⟨hroot, htype, hsize, hrcode, hversion, hz, hlength, hoption⟩ := h
  have hname : printDomainName m a 0x3FFF = some (nameText [], 1) := by
    rw [printDomainName, if_pos hroot]
    rfl
  have hdata := printResourseData_opt hs (readBe16_of_stored hsize) hoption
  rw [hrcode, hversion, readBe16_of_stored hz] at hdata
  have hlen : (UInt16.ofNat (optionBytes option).length).toNat = (optionBytes option).length :=
    UInt16.toNat_ofNat_of_lt' hl
  simp only [printRecord, hname, Option.bind_eq_bind, Option.bind_some, Nat.add_assoc,
    Nat.reduceAdd, readBe16_of_stored htype, readBe16_of_stored hsize,
    readBe16_of_stored hlength, hlen, decide_true, Bool.and_true, if_true, Nat.add_sub_cancel,
    hdata]
  rfl

structure Question where
  name : List NarrowString
  type : UInt16
  classes : UInt16
  deriving DecidableEq

def Question.text (question : Question) : QuestionText :=
  ⟨nameText question.name, question.type, question.classes⟩

/-- The name of a question is not compressed. -/
def QuestionStands (m : Memory) (length a : Nat) (question : Question) (b : Nat) : Prop :=
  Copyable [question.name] ∧
    m.Stored a (wireName question.name ++ (be16 question.type ++ be16 question.classes)) ∧
    b = a + ((wireName question.name).length + 4) ∧ b ≤ length

theorem printQuestion_stands (h : QuestionStands m length a question b) :
    printQuestion m length 0x3FFF a = some (question.text, b) := by
  obtain ⟨hc, hm, rfl, hle⟩ := h
  simp only [stored_append, length_be16] at hm
  obtain ⟨hname, htype, hclasses⟩ := hm
  have hlabels := List.forall_mem_singleton.1 hc.1
  have hstands : NameStands m a question.name (a + (wireName question.name).length) := by
    by_cases hne : question.name = []
    · rw [hne] at hname ⊢
      exact .inl ⟨rfl, (stored_cons.1 hname).1, rfl⟩
    · exact .inr ⟨[question.name], .stop hne hname, hc, List.not_mem_nil, List.flatten_singleton,
        rfl⟩
  obtain ⟨n, _, _, hp⟩ := printDomainName_stands hstands
  have hzero : (0 : UInt8) ∉ wireLabels question.name := by
    apply not_mem_wireLabels
    intro label hl
    obtain ⟨⟨hne, hlt, _⟩, h0⟩ := hlabels label hl
    exact ⟨h0, hne, hlt.trans (by decide)⟩
  have hlen : (wireName question.name).length = (wireLabels question.name).length + 1 :=
    List.length_append
  have hstr : m.strnlen a (length - a) = (wireLabels question.name).length := by
    rw [strnlen_of_stored hname hzero]
    exact Nat.min_eq_left (by omega)
  have hclasses : m.readBe16 (a + (wireName question.name).length + 2) = question.classes :=
    readBe16_of_stored hclasses
  simp only [printQuestion, hp, Option.bind_eq_bind, Option.bind_some,
    if_pos (by omega : a ≤ length), hstr, ← hlen, readBe16_of_stored htype, hclasses]
  rfl

theorem AdditionalStands.printed (h : AdditionalStands m a additional b) :
    printRecord m 0x3FFF true a = some (additional.text, b) := by
  cases h with
  | record h => exact printRecord_stands true h
  | edns hs hl h => exact printRecord_edns hs hl h

end Records

section Messages

structure Message where
  id : UInt16
  flags : UInt16
  questions : List Question
  answer : List Record
  authority : List Record
  additional : List Additional
  deriving DecidableEq

namespace Message

def header (message : Message) : List UInt8 :=
  be16 message.id ++ (be16 message.flags ++
    (be16 (UInt16.ofNat message.questions.length) ++ (be16 (UInt16.ofNat message.answer.length) ++
      (be16 (UInt16.ofNat message.authority.length) ++
        be16 (UInt16.ofNat message.additional.length)))))

def text (message : Message) : ResponseText where
  id := message.id
  flags := message.flags
  questionCount := UInt16.ofNat message.questions.length
  answerCount := UInt16.ofNat message.answer.length
  authorityCount := UInt16.ofNat message.authority.length
  additionalCount := UInt16.ofNat message.additional.length
  questions := message.questions.map Question.text
  answer := message.answer.map Record.text
  authority := message.authority.map Record.text
  additional := message.additional.map Additional.text

end Message

/-- A response stands at address zero: the header counts the members of the four sections, which
stand one after another behind it. -/
structure MessageStands (m : Memory) (length : Nat) (message : Message) : Prop where
  header : m.Stored 0 message.header
  questions_lt : message.questions.length < 0x10000
  answer_lt : message.answer.length < 0x10000
  authority_lt : message.authority.length < 0x10000
  additional_lt : message.additional.length < 0x10000
  sections : ∃ a b c d, Laid (QuestionStands m length) 12 message.questions a ∧
    Laid (RecordStands m) a message.answer b ∧ Laid (RecordStands m) b message.authority c ∧
    Laid (AdditionalStands m) c message.additional d

theorem MessageStands.counts (h : MessageStands m length message) :
    m.readBe16 0 = message.id ∧ m.readBe16 2 = message.flags ∧
      m.readBe16 4 = UInt16.ofNat message.questions.length ∧
      m.readBe16 6 = UInt16.ofNat message.answer.length ∧
      m.readBe16 8 = UInt16.ofNat message.authority.length ∧
      m.readBe16 10 = UInt16.ofNat message.additional.length := by
  have hm := h.header
  simp only [Message.header, stored_append, length_be16, Nat.reduceAdd] at hm
  obtain ⟨hid, hflags, hquestions, hanswer, hauthority, hadditional⟩ := hm
  exact ⟨readBe16_of_stored hid, readBe16_of_stored hflags, readBe16_of_stored hquestions,
    readBe16_of_stored hanswer, readBe16_of_stored hauthority, readBe16_of_stored hadditional⟩

theorem printResponse_message (h : MessageStands m length message) :
    printResponse m length 0x3FFF = some message.text := by
  obtain ⟨hid, hflags, hquestions, hanswer, hauthority, hadditional⟩ := h.counts
  obtain ⟨a, b, c, d, hq, ha, hu, hd⟩ := h.sections
  have hq := readMany_laid (fun h => printQuestion_stands h) hq
  have ha := readMany_laid (fun h => printRecord_stands false h) ha
  have hu := readMany_laid (fun h => printRecord_stands false h) hu
  have hd := readMany_laid (fun h => AdditionalStands.printed h) hd
  simp only [printResponse, hid, hflags, hquestions, hanswer, hauthority, hadditional,
    UInt16.toNat_ofNat_of_lt' h.questions_lt, UInt16.toNat_ofNat_of_lt' h.answer_lt,
    UInt16.toNat_ofNat_of_lt' h.authority_lt, UInt16.toNat_ofNat_of_lt' h.additional_lt,
    hq, ha, hu, hd, Option.bind_eq_bind, Option.bind_some]
  rfl

def answeredBuffer : Memory :=
  charPtr [0x12, 0x34, 0x81, 0x80, 0, 1, 0, 1, 0, 0, 0, 0, 3, 119, 119, 119, 0, 0, 1, 0, 1,
    0xC0, 0x0C, 0, 1, 0, 1, 0, 0, 0, 60, 0, 4, 10, 0, 0, 1]

def answeredMessage : Message where
  id := 0x1234
  flags := 0x8180
  questions := [⟨[narrow "www"], dnsRecordA, 1⟩]
  answer := [⟨[narrow "www"], 1, 60, 4, .address [10, 0, 0, 1]⟩]
  authority := []
  additional := []

theorem printResponse_message_answered :
    printResponse answeredBuffer 37 0x3FFF = some answeredMessage.text :=
  have hname : NameAt answeredBuffer 12 [[narrow "www"]] := .stop (by decide) (by decide)
  have hpointer : NameAt answeredBuffer 21 [[], [narrow "www"]] :=
    .jump (by decide : answeredBuffer.Stored 21 (wireLabels [] ++ [0xC0, 0x0C])) (by decide)
      (by decide) hname
  have hquestion : QuestionStands answeredBuffer 37 12 ⟨[narrow "www"], dnsRecordA, 1⟩ 21 :=
    ⟨⟨by decide +kernel, by decide⟩, by decide, rfl, by decide⟩
  have hanswer : RecordStands answeredBuffer 21
      ⟨[narrow "www"], 1, 60, 4, .address [10, 0, 0, 1]⟩ 37 :=
    ⟨by decide, 23, .inr ⟨_, hpointer, ⟨by decide +kernel, by decide⟩, by decide, rfl, rfl⟩,
      by decide, .address (by decide) rfl, rfl⟩
  printResponse_message
    { header := by decide
      questions_lt := by decide
      answer_lt := by decide
      authority_lt := by decide
      additional_lt := by decide
      sections := ⟨21, 37, 37, 37, .cons hquestion .nil, .cons hanswer .nil, .nil, .nil⟩ }

end Messages

end LdnsSelector
