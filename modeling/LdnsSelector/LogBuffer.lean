import LdnsSelector.Configuration

set_option autoImplicit true

namespace LdnsSelector

def cString [DecidableEq α] [OfNat α 0] (s : List α) : List α := s.takeWhile (· ≠ 0)

/-- Put one after the other what `f` makes of the elements, if it makes something of each. -/
def joinM (f : α → Option (List β)) : List α → Option (List β)
  | [] => some []
  | x :: xs => do
    let head ← f x
    let tail ← joinM f xs
    return head ++ tail

section Join

variable {f : α → Option (List β)} {xs : List α}

theorem joinM_cons_eq_some_iff : joinM f (x :: xs) = some ys ↔
    ∃ y zs, f x = some y ∧ joinM f xs = some zs ∧ y ++ zs = ys := by
  simp [joinM, Option.bind_eq_some_iff]

theorem joinM_isSome_iff : (∃ ys, joinM f xs = some ys) ↔ ∀ x ∈ xs, ∃ y, f x = some y := by
  induction xs with
  | nil => simp [joinM]
  | cons x xs ih =>
    rw [List.forall_mem_cons, ← ih]
    apply Iff.intro
    · intro h
      obtain ⟨ys, h⟩ := h
      obtain ⟨y, zs, hy, hz, _⟩ := joinM_cons_eq_some_iff.1 h
      exact ⟨⟨y, hy⟩, ⟨zs, hz⟩⟩
    · intro h
      obtain ⟨⟨y, hy⟩, ⟨zs, hz⟩⟩ := h
      exact ⟨y ++ zs, joinM_cons_eq_some_iff.2 ⟨y, zs, hy, hz, rfl⟩⟩

theorem joinM_length (h : joinM f xs = some ys) :
    ys.length = (xs.map fun x => ((f x).getD []).length).sum := by
  induction xs generalizing ys with
  | nil =>
    cases h
    rfl
  | cons x xs ih =>
    obtain ⟨y, zs, hy, hz, rfl⟩ := joinM_cons_eq_some_iff.1 h
    rw [List.length_append, List.map_cons, List.sum_cons, hy, ih hz]
    rfl

end Join

/-- A piece of a format: characters of its own, or a directive with the argument it takes. -/
inductive Directive where
  | text (s : NarrowString)
  /-- `%d` -/
  | decimal (n : Int32)
  /-- `%8x`, or of another width -/
  | hex (width : Nat) (n : UInt32)
  /-- `%s` -/
  | narrow (s : NarrowString)
  /-- `%ws` -/
  | wide (s : WString)
  deriving DecidableEq, Repr

/-- The C runtime in the locale `chs`, and the code page of the system. -/
structure Runtime where
  wctomb : UInt16 → Option NarrowString
  multiByteToWideChar : NarrowString → WString
  /-- What is in the buffer after a format with a character that cannot be converted. -/
  abandoned : List Directive → NarrowString

def digits (base n : Nat) : NarrowString :=
  (Nat.toDigits base n).map fun c => c.toNat.toUInt8

def decimalDigits (n : Int) : NarrowString :=
  if n < 0 then 45 :: digits 10 n.natAbs else digits 10 n.natAbs

def hexDigits (n : UInt32) : NarrowString := digits 16 n.toNat

def padded (width : Nat) (s : NarrowString) : NarrowString :=
  List.replicate (width - s.length) 32 ++ s

def Directive.output (rt : Runtime) : Directive → Option NarrowString
  | .text s => some s
  | .decimal n => some (decimalDigits n.toInt)
  | .hex width n => some (padded width (hexDigits n))
  | .narrow s => some (cString s)
  | .wide s => joinM rt.wctomb (cString s)

def formatted (rt : Runtime) (format : List Directive) : Option NarrowString :=
  joinM (Directive.output rt) format

structure CharArray (size : Nat) where
  bytes : List UInt8
  length_eq : bytes.length = size

namespace CharArray

def write (buffer : CharArray size) (s : NarrowString) : CharArray size where
  bytes := (s ++ buffer.bytes.drop s.length).take size
  length_eq := by
    have h := buffer.length_eq
    simp only [List.length_take, List.length_append, List.length_drop]
    omega

/-- A store outside the array leaves the array as it is, and the rest of the memory not. -/
def store (buffer : CharArray size) (i : Int) (c : UInt8) : CharArray size where
  bytes := if 0 ≤ i then buffer.bytes.set i.toNat c else buffer.bytes
  length_eq := by
    split
    · rw [List.length_set, buffer.length_eq]
    · exact buffer.length_eq

end CharArray

/-- `_vsnprintf_s` with an array longer than `count`: what it returns and leaves in the array. -/
def vsnprintfS (rt : Runtime) (buffer : CharArray size) (count : Nat) (format : List Directive) :
    Int × CharArray size :=
  match formatted rt format with
  | none => (-1, buffer.write (rt.abandoned format))
  | some text =>
    if text.length ≤ count then (text.length, buffer.write (text ++ [0]))
    else (-1, buffer.write (text.take count ++ [0]))

/-- `util_string_a2w`, which drops a byte order mark. -/
def utilStringA2w (rt : Runtime) (str : NarrowString) : WString :=
  if str = [] then []
  else
    match rt.multiByteToWideChar str with
    | 0xFEFF :: rest => cString rest
    | wide => cString wide

def uiMsgTextColor : UInt32 := 0xFF1A86D2

def uiWarningTextColor : UInt32 := 0xFFFFB700

def uiErrorTextColor : UInt32 := 0xFFFF0000

/-- What a call for the log comes to: where it stores the terminating zero, and the color and the
text of the label that it posts. -/
structure Shown where
  terminator : Int
  color : UInt32
  text : WString
  deriving DecidableEq

def logBufferSize : Nat := 4096

namespace LogBuffer

def showText (color : UInt32) (rt : Runtime) (buffer : CharArray logBufferSize)
    (format : List Directive) : Shown :=
  let (p, buffer) := vsnprintfS rt buffer (logBufferSize - 1) format
  ⟨p, color, utilStringA2w rt (cString (buffer.store p 0).bytes)⟩

def showlog (rt : Runtime) (buffer : CharArray logBufferSize) (format : List Directive) : Shown :=
  showText uiMsgTextColor rt buffer format

def showwarning (rt : Runtime) (buffer : CharArray logBufferSize) (format : List Directive) :
    Shown :=
  showText uiWarningTextColor rt buffer format

def showerror (rt : Runtime) (buffer : CharArray logBufferSize) (format : List Directive) :
    Shown :=
  showText uiErrorTextColor rt buffer format

end LogBuffer

/-- The terminating zero is stored in the buffer, and what is posted is the formatted text or the
beginning of it. -/
structure Contained (rt : Runtime) (format : List Directive) (shown : Shown) : Prop where
  nonneg : 0 ≤ shown.terminator
  le : shown.terminator ≤ 4095
  posted : ∃ text s, formatted rt format = some text ∧ s <+: text ∧
    shown.text = utilStringA2w rt s

def Convertible (rt : Runtime) (format : List Directive) : Prop :=
  ∀ s, .wide s ∈ format → ∀ c ∈ cString s, ∃ bytes, rt.wctomb c = some bytes

def Directive.length (rt : Runtime) (directive : Directive) : Nat :=
  ((directive.output rt).getD []).length

def formattedLength (rt : Runtime) (format : List Directive) : Nat :=
  (format.map (Directive.length rt)).sum

section Contents

variable {rt : Runtime} {format : List Directive} {buffer : CharArray logBufferSize}

theorem output_isSome_iff {directive : Directive} : (∃ s, directive.output rt = some s) ↔
    ∀ s, directive = .wide s → ∀ c ∈ cString s, ∃ bytes, rt.wctomb c = some bytes := by
  cases directive with
  | wide s =>
    rw [Directive.output, joinM_isSome_iff]
    apply Iff.intro
    · intro h s' he
      cases he
      exact h
    · exact fun h => h s rfl
  | text s => simp [Directive.output]
  | decimal n => simp [Directive.output]
  | hex width n => simp [Directive.output]
  | narrow s => simp [Directive.output]

theorem formatted_isSome_iff : (∃ text, formatted rt format = some text) ↔
    Convertible rt format := by
  rw [formatted, joinM_isSome_iff]
  apply Iff.intro
  · intro h s hs
    exact output_isSome_iff.1 (h _ hs) s rfl
  · intro h directive hd
    apply output_isSome_iff.2
    intro s he
    obtain rfl := he
    exact h s hd

theorem formatted_length (h : formatted rt format = some text) :
    text.length = formattedLength rt format := joinM_length h

theorem cString_append (s rest : NarrowString) : cString (s ++ 0 :: rest) = cString s := by
  induction s with
  | nil => rfl
  | cons c s ih =>
    rw [cString] at ih ⊢
    rw [cString] at ih ⊢
    rw [List.cons_append, List.takeWhile_cons, List.takeWhile_cons, ih]

theorem cString_prefix (s : NarrowString) : cString s <+: s := List.takeWhile_prefix _

theorem bytes_terminated (buffer : CharArray size) {text : NarrowString}
    (h : text.length < size) :
    ∃ rest, ((buffer.write (text ++ [0])).store text.length 0).bytes = text ++ 0 :: rest := by
  have hlen : (text ++ [(0 : UInt8)] ++ buffer.bytes.drop (text ++ [(0 : UInt8)]).length).length ≤
      size := by
    have hb := buffer.length_eq
    simp only [List.length_append, List.length_singleton, List.length_drop]
    omega
  apply Exists.intro (buffer.bytes.drop (text ++ [(0 : UInt8)]).length)
  rw [CharArray.store, CharArray.write]
  dsimp only
  rw [if_pos (Int.natCast_nonneg _), Int.toNat_natCast, List.take_of_length_le hlen,
    List.append_assoc, List.set_append_right _ _ le_rfl, Nat.sub_self]
  rfl

theorem vsnprintfS_fits {count : Nat} (h : formatted rt format = some text)
    (hl : text.length ≤ count) :
    vsnprintfS rt buffer count format = ((text.length : Int), buffer.write (text ++ [0])) := by
  simp only [vsnprintfS, h, if_pos hl]

theorem vsnprintfS_fails {count : Nat}
    (h : ∀ text, formatted rt format = some text → count < text.length) :
    (vsnprintfS rt buffer count format).1 = -1 := by
  cases hf : formatted rt format with
  | none => simp only [vsnprintfS, hf]
  | some text => simp only [vsnprintfS, hf, if_neg (Nat.not_le.2 (h text hf))]

theorem showText_terminator (color : UInt32) :
    (LogBuffer.showText color rt buffer format).terminator =
      (vsnprintfS rt buffer (logBufferSize - 1) format).1 := rfl

theorem showText_text (color : UInt32) : (LogBuffer.showText color rt buffer format).text =
    utilStringA2w rt (cString ((vsnprintfS rt buffer (logBufferSize - 1) format).2.store
      (vsnprintfS rt buffer (logBufferSize - 1) format).1 0).bytes) := rfl

theorem showText_contained (color : UInt32) (hf : formatted rt format = some text)
    (hl : text.length ≤ logBufferSize - 1) :
    Contained rt format (LogBuffer.showText color rt buffer format) := by
  obtain ⟨rest, hbytes⟩ := bytes_terminated buffer (Nat.lt_succ_of_le hl)
  constructor
  · rw [showText_terminator, vsnprintfS_fits hf hl]
    exact Int.natCast_nonneg _
  · rw [showText_terminator, vsnprintfS_fits hf hl]
    exact Int.ofNat_le.2 hl
  · apply Exists.intro text
    apply Exists.intro (cString text)
    rw [showText_text, vsnprintfS_fits hf hl]
    dsimp only
    rw [hbytes, cString_append]
    exact ⟨hf, cString_prefix text, rfl⟩

theorem showText_contained_iff (color : UInt32) :
    Contained rt format (LogBuffer.showText color rt buffer format) ↔
      Convertible rt format ∧ formattedLength rt format ≤ 4095 := by
  by_cases hfits : ∃ text, formatted rt format = some text ∧ text.length ≤ logBufferSize - 1
  · obtain ⟨text, hf, hl⟩ := hfits
    apply iff_of_true (showText_contained color hf hl)
    rw [← formatted_length hf]
    exact ⟨formatted_isSome_iff.1 ⟨text, hf⟩, hl⟩
  · apply iff_of_false
    · intro hc
      have hneg := hc.nonneg
      rw [showText_terminator, vsnprintfS_fails] at hneg
      · exact absurd hneg (by decide)
      · intro text hf
        exact Nat.not_le.1 fun hl => hfits ⟨text, hf, hl⟩
    · intro h
      obtain ⟨text, hf⟩ := formatted_isSome_iff.2 h.1
      apply hfits
      apply Exists.intro text
      rw [formatted_length hf]
      exact ⟨hf, h.2⟩

end Contents

/-- The log stays in its buffer exactly when every wide character can be converted and the text
has at most 4095 characters. -/
theorem log_contained_iff (rt : Runtime) (buffer : CharArray logBufferSize)
    (format : List Directive) :
    (Contained rt format (LogBuffer.showlog rt buffer format) ↔
      Convertible rt format ∧ formattedLength rt format ≤ 4095) ∧
    (Contained rt format (LogBuffer.showwarning rt buffer format) ↔
      Convertible rt format ∧ formattedLength rt format ≤ 4095) ∧
    (Contained rt format (LogBuffer.showerror rt buffer format) ↔
      Convertible rt format ∧ formattedLength rt format ≤ 4095) :=
  ⟨showText_contained_iff _, showText_contained_iff _, showText_contained_iff _⟩

/-- What `parse_respond` shows of a status that is not a success. -/
def statusMessage (strStatus : WString) : List Directive := [
  .text [0x44, 0x4E, 0x53, 0xC1, 0xD0, 0xB1, 0xED, 0xCA, 0xFD, 0xBE, 0xDD, 0x20, 0xD7, 0xB4, 0xCC,
    0xAC, 0xC2, 0xEB, 0x2D, 0x2D, 0x3E, 0x5B],
  .wide strStatus,
  .text [0x5D]]

theorem statusMessage_convertible_iff (rt : Runtime) (strStatus : WString) :
    Convertible rt (statusMessage strStatus) ↔
      ∀ c ∈ cString strStatus, ∃ bytes, rt.wctomb c = some bytes := by
  simp [Convertible, statusMessage]

theorem statusMessage_length {rt : Runtime} {strStatus : WString}
    (h : Convertible rt (statusMessage strStatus)) :
    formattedLength rt (statusMessage strStatus) =
      23 + ((cString strStatus).map fun c => ((rt.wctomb c).getD []).length).sum := by
  rw [statusMessage_convertible_iff, ← joinM_isSome_iff] at h
  obtain ⟨bytes, hb⟩ := h
  simp only [formattedLength, statusMessage, List.map_cons, List.map_nil, List.sum_cons,
    List.sum_nil, Directive.length, Directive.output, hb, Option.getD_some, joinM_length hb,
    List.length_cons, List.length_nil]
  omega

def asciiRuntime : Runtime where
  wctomb c := if c < 0x80 then some [c.toUInt8] else none
  multiByteToWideChar s := s.map UInt8.toUInt16
  abandoned _ := [0]

def blankBuffer : CharArray logBufferSize := ⟨List.replicate logBufferSize 0, List.length_replicate⟩

def letters (n : Nat) : WString := List.replicate n 0x61

theorem letters_convertible (n : Nat) : Convertible asciiRuntime (statusMessage (letters n)) := by
  rw [statusMessage_convertible_iff]
  intro c hc
  have hl := (List.takeWhile_prefix _).subset hc
  rw [List.eq_of_mem_replicate hl]
  exact ⟨_, rfl⟩

theorem letters_length (n : Nat) :
    formattedLength asciiRuntime (statusMessage (letters n)) = 23 + n := by
  have hs : cString (letters n) = letters n := by
    rw [cString, letters, List.takeWhile_replicate, if_pos (by decide)]
  have hletter : ((asciiRuntime.wctomb 0x61).getD []).length = 1 := rfl
  rw [statusMessage_length (letters_convertible n), hs, letters, List.map_replicate, hletter,
    List.sum_replicate_nat, Nat.mul_one]

/-- A status of 5000 letters has the terminating zero stored before the buffer. -/
theorem not_log_contained : ¬∀ (rt : Runtime) (buffer : CharArray logBufferSize)
    (format : List Directive), Contained rt format (LogBuffer.showerror rt buffer format) := by
  intro h
  have hc := h asciiRuntime blankBuffer (statusMessage (letters 5000))
  have hl := ((showText_contained_iff _).1 hc).2
  rw [letters_length] at hl
  omega

end LdnsSelector
