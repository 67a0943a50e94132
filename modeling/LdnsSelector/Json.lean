import LdnsSelector.Services

set_option autoImplicit true

namespace LdnsSelector

inductive JsonValue where
  | null
  | boolean (b : Bool)
  | number (literal : WString)
  | string (s : WString)
  | array (elements : List JsonValue)
  | object (fields : List (WString × JsonValue))

namespace JsonValue

def isNull : JsonValue → Bool
  | .null => true
  | _ => false

/-- `operator[]` on a key. Null turns into an object, and an absent field is added as null. -/
def index (value : JsonValue) (key : WString) : Except CppException JsonValue :=
  match value with
  | .null => .ok .null
  | .object fields => .ok ((fields.lookup key).getD .null)
  | _ => .error .jsonException

def asString : JsonValue → Except CppException WString
  | .string s => .ok s
  | _ => .error .jsonException

def asArray : JsonValue → Except CppException (List JsonValue)
  | .array elements => .ok elements
  | _ => .error .jsonException

theorem isNull_iff {value : JsonValue} : value.isNull = true ↔ value = .null := by
  cases value <;> simp [isNull]

end JsonValue

def ThrowsJson (x : Except CppException α) : Prop :=
  ∀ e, x = .error e → e = .jsonException

namespace ThrowsJson

theorem ok (a : α) : ThrowsJson (.ok a : Except CppException α) := by
  intro e h
  cases h

theorem json : ThrowsJson (.error .jsonException : Except CppException α) := by
  intro e h
  exact (Except.error.inj h).symm

theorem bind {x : Except CppException α} {f : α → Except CppException β} (hx : ThrowsJson x)
    (hf : ∀ a, ThrowsJson (f a)) : ThrowsJson (x >>= f) := by
  cases x with
  | ok a => exact hf a
  | error e =>
    intro e' h
    exact hx e' (congrArg Except.error (Except.error.inj h))

theorem foldlM {f : β → α → Except CppException β} (hf : ∀ b a, ThrowsJson (f b a))
    (l : List α) (b : β) : ThrowsJson (l.foldlM f b) := by
  induction l generalizing b with
  | nil => exact ok b
  | cons a l ih =>
    rw [List.foldlM_cons]
    exact bind (hf b a) ih

end ThrowsJson

namespace JsonValue

theorem index_throws (value : JsonValue) (key : WString) : ThrowsJson (value.index key) := by
  cases value with
  | null => exact .ok _
  | object fields => exact .ok _
  | _ => exact .json

theorem asString_throws (value : JsonValue) : ThrowsJson value.asString := by
  cases value with
  | string s => exact .ok s
  | _ => exact .json

theorem asArray_throws (value : JsonValue) : ThrowsJson value.asArray := by
  cases value with
  | array elements => exact .ok elements
  | _ => exact .json

end JsonValue

end LdnsSelector
