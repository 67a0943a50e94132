import LdnsSelector.Json
import LdnsSelector.Throwing

set_option autoImplicit true

namespace LdnsSelector

/-- What outlives an exception in `fetch`: the caller's map and the static counter. -/
structure FetchState where
  mapDnsInfo : DnsMap
  sSuffix : UInt32

abbrev Fetch := EStateM CppException FetchState

instance : MonadLift (Except CppException) Fetch where
  monadLift
    | .ok a => pure a
    | .error e => throw e

def toWstring (n : UInt32) : WString :=
  (Nat.toDigits 10 n.toNat).map fun c => c.toNat.toUInt16

def stringOr (value : JsonValue) (fallback : WString) : Except CppException WString :=
  if value.isNull then .ok fallback else value.asString

def parseIpItem (mapVipUptime : VipMap) (ipItem : JsonValue) :
    Except CppException VipMap := do
  let vip ← ipItem.index (wide "vip")
  if vip.isNull then return mapVipUptime
  else
    let strVip ← vip.asString
    let uptime ← ipItem.index (wide "uptime")
    let strUptime ← stringOr uptime (wide "unknow")
    return mapVipUptime.tryInsert strVip strUptime

/-- The name of a view, numbered by the static counter when the response gives none. -/
def parseViewName (viewItem : JsonValue) : Fetch WString := do
  let viewName ← viewItem.index (wide "view_name")
  if viewName.isNull then
    modify fun s => { s with sSuffix := s.sSuffix + 1 }
    return wide "unknow" ++ toWstring (← get).sSuffix
  else viewName.asString

def parseViewItem (viewItem : JsonValue) : Fetch Unit := do
  let strViewName ← parseViewName viewItem
  let info ← viewItem.index (wide "info")
  if info.isNull then return
  else
    let items ← info.asArray
    let mapVipUptime ← (items.foldlM parseIpItem ∅ : Except CppException VipMap)
    modify fun s => { s with mapDnsInfo := s.mapDnsInfo.tryInsert strViewName mapVipUptime }

def parseViews : List JsonValue → Fetch Unit
  | [] => return
  | viewItem :: views => do
    parseViewItem viewItem
    parseViews views

def parseRespond (resp : JsonValue) : Fetch Result := do
  let status ← resp.index (wide "status")
  if status.isNull then return .networkInterfaceRespondStatusNotExist
  else
    let strStatus ← status.asString
    if strStatus ≠ wide "success" then return .networkInterfaceRespondStatusNotSuccess
    else
      let data ← resp.index (wide "data")
      if data.isNull then return .networkInterfaceRespondDataNotExist
      else
        let views ← data.asArray
        parseViews views
        return .success

/-- What one request comes to. The body of a response is the value it decodes to, or the
exception that reading or decoding it throws. -/
inductive HttpOutcome where
  | failed
  | response (statusCode : Nat) (body : Except CppException JsonValue)

/-- The first continuation: the flag `request_return` and the value it passes on. -/
def onResponse : HttpOutcome → Bool × Except CppException JsonValue
  | .failed => (false, .error .httpException)
  | .response statusCode body => (true, if statusCode = 200 then body else .ok .null)

/-- The second continuation, inside its `try`. -/
def onValue (previousTask : Except CppException JsonValue) : Fetch Result := do
  let resp ← previousTask
  if resp.isNull then return .networkInterfaceHttpRequestFail
  else parseRespond resp

/-- Its handlers. Any other exception goes on to the caller. -/
def onException (requestReturn : Bool) : CppException → Fetch Result
  | .httpException =>
    if requestReturn then return .networkInterfaceRespondParseFail
    else return .networkInterfaceHttpRequestFail
  | .jsonException => return .networkInterfaceRespondParseFail
  | .rangeError => throw .rangeError

def fetch (outcome : HttpOutcome) : Fetch Result :=
  let (requestReturn, previousTask) := onResponse outcome
  tryCatch (onValue previousTask) (onException requestReturn)

section Parsing

open EStateM

abbrev Parses (x : Fetch α) (s : FetchState) (P : α → Prop) : Prop :=
  Ensures x s (fun a _ => P a) fun e _ => e = .jsonException

theorem Parses.lift {x : Except CppException α} (h : ThrowsJson x) :
    Parses (x : Fetch α) s fun _ => True := by
  cases x with
  | ok a => exact trivial
  | error e => exact h e rfl

theorem Parses.bind {x : Fetch α} {f : α → Fetch β} {P : β → Prop} {Q : α → Prop}
    (hx : Parses x s Q) (hf : ∀ a s', Parses (f a) s' P) : Parses (x >>= f) s P :=
  Ensures.bind hx fun a s' _ => hf a s'

theorem stringOr_throws (value : JsonValue) (fallback : WString) :
    ThrowsJson (stringOr value fallback) := by
  rw [stringOr]
  split
  · exact .ok _
  · exact value.asString_throws

theorem parseIpItem_throws (m : VipMap) (ipItem : JsonValue) :
    ThrowsJson (parseIpItem m ipItem) := by
  apply ThrowsJson.bind (ipItem.index_throws _)
  intro vip
  split
  · exact .ok m
  · apply ThrowsJson.bind vip.asString_throws
    intro strVip
    apply ThrowsJson.bind (ipItem.index_throws _)
    intro uptime
    apply ThrowsJson.bind (stringOr_throws uptime _)
    intro strUptime
    exact .ok _

theorem parseViewName_parses (viewItem : JsonValue) (s : FetchState) :
    Parses (parseViewName viewItem) s fun _ => True := by
  apply Parses.bind (.lift (viewItem.index_throws _))
  intro viewName s'
  split
  · exact trivial
  · exact .lift viewName.asString_throws

theorem parseViewItem_parses (viewItem : JsonValue) (s : FetchState) :
    Parses (parseViewItem viewItem) s fun _ => True := by
  apply Parses.bind (parseViewName_parses viewItem s)
  intro strViewName s₁
  apply Parses.bind (.lift (viewItem.index_throws _))
  intro info s₂
  split
  · exact trivial
  · apply Parses.bind (.lift info.asArray_throws)
    intro items s₃
    apply Parses.bind (.lift (ThrowsJson.foldlM parseIpItem_throws items ∅))
    intro mapVipUptime s₄
    exact trivial

theorem parseViews_parses (views : List JsonValue) (s : FetchState) :
    Parses (parseViews views) s fun _ => True := by
  induction views generalizing s with
  | nil => exact trivial
  | cons view views ih =>
    apply Parses.bind (parseViewItem_parses view s)
    intro _ s'
    exact ih s'

theorem parseRespond_parses (resp : JsonValue) (s : FetchState) :
    Parses (parseRespond resp) s fun res => res ≠ .networkInterfaceHttpRequestFail := by
  apply Parses.bind (.lift (resp.index_throws _))
  intro status s₁
  split
  · exact Ensures.pure (by decide)
  · apply Parses.bind (.lift status.asString_throws)
    intro strStatus s₂
    split
    · exact Ensures.pure (by decide)
    · apply Parses.bind (.lift (resp.index_throws _))
      intro data s₃
      split
      · exact Ensures.pure (by decide)
      · apply Parses.bind (.lift data.asArray_throws)
        intro views s₄
        apply Parses.bind (parseViews_parses views s₄)
        intro _ s₅
        exact Ensures.pure (by decide)

def Refused : HttpOutcome → Prop
  | .failed => True
  | .response statusCode body => statusCode ≠ 200 ∨ body = .ok .null

theorem fetch_refused (h : Refused outcome) (s : FetchState) :
    fetch outcome s = .ok .networkInterfaceHttpRequestFail s := by
  cases outcome with
  | failed => rfl
  | response statusCode body =>
    by_cases hc : statusCode = 200
    · subst statusCode
      rw [h.resolve_left (not_not_intro rfl)]
      rfl
    · simp only [fetch, onResponse, if_neg hc]
      rfl

theorem not_refused_cases (h : ¬Refused outcome) : ∃ body, outcome = .response 200 body ∧
    fetch outcome = tryCatch (onValue body) (onException true) ∧
    ∀ resp, body = .ok resp → onValue body = parseRespond resp := by
  cases outcome with
  | failed => exact absurd trivial h
  | response statusCode body =>
    obtain ⟨hc, hn⟩ := not_or.1 h
    obtain rfl := not_not.1 hc
    refine ⟨body, rfl, rfl, ?_⟩
    intro resp he
    subst he
    have hnull : ¬resp.isNull = true := fun hr => hn (congrArg _ (JsonValue.isNull_iff.1 hr))
    exact if_neg hnull

theorem onException_ensures (e : CppException) (s : FetchState) :
    Ensures (onException true e) s
      (fun res _ => res ≠ .networkInterfaceHttpRequestFail ∧ res ≠ .success)
      fun e _ => e = .rangeError := by
  cases e with
  | httpException => exact Ensures.pure ⟨nofun, nofun⟩
  | jsonException => exact Ensures.pure ⟨nofun, nofun⟩
  | rangeError => exact Ensures.throw rfl

theorem fetch_not_refused (h : ¬Refused outcome) (s : FetchState) :
    Ensures (fetch outcome) s (fun res _ => res ≠ .networkInterfaceHttpRequestFail)
      fun e _ => e = .rangeError := by
  obtain ⟨body, rfl, hf, hparse⟩ := not_refused_cases h
  have hv : Ensures (onValue body) s
      (fun res _ => res ≠ .networkInterfaceHttpRequestFail) fun _ _ => True := by
    cases body with
    | error e => exact trivial
    | ok resp =>
      rw [hparse resp rfl]
      exact (parseRespond_parses resp s).mono (fun _ _ h => h) fun _ _ _ => trivial
  rw [hf]
  apply hv.tryCatch
  intro e s' _
  exact (onException_ensures e s').mono (fun _ _ hne => hne.1) fun _ _ he => he

theorem fetch_fail (h : fetch outcome s = .ok .networkInterfaceHttpRequestFail s') :
    Refused outcome ∧ s' = s := by
  have hr : Refused outcome := by
    by_contra hn
    have hne := fetch_not_refused hn s
    rw [Ensures, h] at hne
    exact hne rfl
  rw [fetch_refused hr] at h
  cases h
  exact ⟨hr, rfl⟩

theorem fetch_success (h : fetch outcome s = .ok .success s') :
    ∃ resp, outcome = .response 200 (.ok resp) ∧ parseRespond resp s = .ok .success s' := by
  by_cases hr : Refused outcome
  · rw [fetch_refused hr] at h
    cases h
  · obtain ⟨body, rfl, hf, hparse⟩ := not_refused_cases hr
    have hv : Ensures (onValue body) s (fun res s' => res = .success →
        ∃ resp, body = .ok resp ∧ parseRespond resp s = .ok .success s') fun _ _ => True := by
      cases body with
      | error e => exact trivial
      | ok resp =>
        rw [hparse resp rfl, Ensures]
        cases hp : parseRespond resp s with
        | ok res s' =>
          intro hs
          rw [hs] at hp
          exact ⟨resp, rfl, hp⟩
        | error e s' => exact trivial
    have hfetch := hv.tryCatch fun e s' _ =>
      (onException_ensures e s').mono (fun _ _ hne hs => absurd hs hne.2) fun _ _ he => he
    rw [← hf, Ensures, h] at hfetch
    obtain ⟨resp, rfl, hp⟩ := hfetch rfl
    exact ⟨resp, rfl, hp⟩

end Parsing

end LdnsSelector
