import LdnsSelector.IpFetcher

set_option autoImplicit true

namespace LdnsSelector

open EStateM

namespace JsonValue

/-- The member of an object. Any other value and an absent member count as null. -/
def get (value : JsonValue) (key : WString) : JsonValue :=
  match value with
  | .object fields => (fields.lookup key).getD .null
  | _ => .null

def elements : JsonValue → List JsonValue
  | .array elements => elements
  | _ => []

def text : JsonValue → Option WString
  | .string s => some s
  | _ => none

inductive NullOrString : JsonValue → Prop where
  | null : NullOrString .null
  | string (s : WString) : NullOrString (.string s)

inductive NullOrArray : JsonValue → Prop where
  | null : NullOrArray .null
  | array (elements : List JsonValue) : NullOrArray (.array elements)

inductive NullOrObject : JsonValue → Prop where
  | null : NullOrObject .null
  | object (fields : List (WString × JsonValue)) : NullOrObject (.object fields)

end JsonValue

open JsonValue

structure IpItem (ipItem : JsonValue) : Prop where
  shape : ipItem.NullOrObject
  vip : (ipItem.get (wide "vip")).NullOrString
  uptime : ipItem.get (wide "vip") ≠ .null → (ipItem.get (wide "uptime")).NullOrString

structure ViewItem (viewItem : JsonValue) : Prop where
  shape : viewItem.NullOrObject
  viewName : (viewItem.get (wide "view_name")).NullOrString
  info : (viewItem.get (wide "info")).NullOrArray
  items : ∀ ipItem ∈ (viewItem.get (wide "info")).elements, IpItem ipItem

structure RespondFormat (resp : JsonValue) : Prop where
  shape : ∃ fields, resp = .object fields
  status : resp.get (wide "status") = .string (wide "success")
  data : ∃ views, resp.get (wide "data") = .array views
  views : ∀ viewItem ∈ (resp.get (wide "data")).elements, ViewItem viewItem

def StatusMissing (resp : JsonValue) : Prop :=
  (∃ fields, resp = .object fields) ∧ resp.get (wide "status") = .null

def StatusNotSuccess (resp : JsonValue) : Prop :=
  ∃ strStatus, resp.get (wide "status") = .string strStatus ∧ strStatus ≠ wide "success"

def DataMissing (resp : JsonValue) : Prop :=
  resp.get (wide "status") = .string (wide "success") ∧ resp.get (wide "data") = .null

/-- The codes of a response that is not null, each with the responses it is for. -/
def Answers (resp : JsonValue) : Result → Prop
  | .success => RespondFormat resp
  | .networkInterfaceRespondStatusNotExist => StatusMissing resp
  | .networkInterfaceRespondStatusNotSuccess => StatusNotSuccess resp
  | .networkInterfaceRespondDataNotExist => DataMissing resp
  | .networkInterfaceRespondParseFail =>
    ¬RespondFormat resp ∧ ¬StatusMissing resp ∧ ¬StatusNotSuccess resp ∧ ¬DataMissing resp
  | _ => False

def vipUptime (ipItem : JsonValue) : Option (WString × WString) :=
  (ipItem.get (wide "vip")).text.map fun strVip =>
    (strVip, (ipItem.get (wide "uptime")).text.getD (wide "unknow"))

def insertAll [DecidableEq κ] (m : UnorderedMap κ ν) (l : List (κ × ν)) : UnorderedMap κ ν :=
  l.foldl (fun m e => m.tryInsert e.1 e.2) m

def vips (viewItem : JsonValue) : List (WString × WString) :=
  (viewItem.get (wide "info")).elements.filterMap vipUptime

def viewName (sSuffix : UInt32) (viewItem : JsonValue) : WString :=
  match (viewItem.get (wide "view_name")).text with
  | some strViewName => strViewName
  | none => wide "unknow" ++ toWstring (sSuffix + 1)

def suffixAfter (sSuffix : UInt32) (viewItem : JsonValue) : UInt32 :=
  if (viewItem.get (wide "view_name")).isNull then sSuffix + 1 else sSuffix

def FetchState.addView (s : FetchState) (viewItem : JsonValue) : FetchState where
  mapDnsInfo :=
    if (viewItem.get (wide "info")).isNull then s.mapDnsInfo
    else s.mapDnsInfo.tryInsert (viewName s.sSuffix viewItem) (insertAll ∅ (vips viewItem))
  sSuffix := suffixAfter s.sSuffix viewItem

section Access

variable {value : JsonValue} {key : WString}

theorem index_eq_ok_iff : value.index key = .ok v ↔ value.NullOrObject ∧ v = value.get key := by
  cases value with
  | null =>
    apply Iff.intro
    · intro h
      exact ⟨.null, (Except.ok.inj h).symm⟩
    · intro h
      exact congrArg Except.ok h.2.symm
  | object fields =>
    apply Iff.intro
    · intro h
      exact ⟨.object fields, (Except.ok.inj h).symm⟩
    · intro h
      exact congrArg Except.ok h.2.symm
  | _ =>
    apply Iff.intro
    · intro h
      cases h
    · intro h
      cases h.1

theorem asString_eq_ok_iff : value.asString = .ok s ↔ value = .string s := by
  cases value <;> simp [asString]

theorem asArray_eq_ok_iff : value.asArray = .ok l ↔ value = .array l := by
  cases value <;> simp [asArray]

theorem text_eq_some_iff : value.text = some s ↔ value = .string s := by
  cases value <;> simp [text]

theorem stringOr_eq_ok_iff :
    stringOr value fallback = .ok s ↔ value.NullOrString ∧ s = value.text.getD fallback := by
  cases value with
  | null =>
    apply Iff.intro
    · intro h
      exact ⟨.null, (Except.ok.inj h).symm⟩
    · intro h
      exact congrArg Except.ok h.2.symm
  | string t =>
    apply Iff.intro
    · intro h
      exact ⟨.string t, (Except.ok.inj h).symm⟩
    · intro h
      exact congrArg Except.ok h.2.symm
  | _ =>
    apply Iff.intro
    · intro h
      cases h
    · intro h
      cases h.1

theorem array_isNull (l : List JsonValue) : ¬(array l).isNull = true := Bool.false_ne_true

theorem string_isNull (s : WString) : ¬(string s).isNull = true := Bool.false_ne_true

theorem bind_eq_ok_iff {x : Except ε α} {f : α → Except ε β} :
    x >>= f = .ok b ↔ ∃ a, x = .ok a ∧ f a = .ok b := by
  cases x with
  | ok a =>
    apply Iff.intro
    · intro h
      exact ⟨a, rfl, h⟩
    · intro h
      obtain ⟨a', ha, h⟩ := h
      cases ha
      exact h
  | error e =>
    apply Iff.intro
    · intro h
      cases h
    · intro hx
      obtain ⟨_, ha, _⟩ := hx
      cases ha

theorem returns_lift_iff {x : Except CppException α} {s : FetchState} {Q : α → FetchState → Prop} :
    Returns (x : Fetch α) s Q ↔ ∃ a, x = .ok a ∧ Q a s := by
  cases x with
  | ok a =>
    apply Iff.intro
    · intro h
      exact ⟨a, rfl, h⟩
    · intro h
      obtain ⟨a', ha, h⟩ := h
      cases ha
      exact h
  | error e =>
    apply Iff.intro
    · exact False.elim
    · intro hx
      obtain ⟨_, ha, _⟩ := hx
      cases ha

end Access

section Parsing

variable {s : FetchState} {ipItem viewItem : JsonValue} {m m' : VipMap}

theorem vipUptime_null (h : ipItem.get (wide "vip") = .null) : vipUptime ipItem = none := by
  rw [vipUptime, h]
  rfl

theorem vipUptime_string (h : ipItem.get (wide "vip") = .string strVip) :
    vipUptime ipItem = some (strVip, (ipItem.get (wide "uptime")).text.getD (wide "unknow")) := by
  rw [vipUptime, h]
  rfl

theorem parseIpItem_eq_ok_iff :
    parseIpItem m ipItem = .ok m' ↔ IpItem ipItem ∧ m' = insertAll m (vipUptime ipItem).toList := by
  rw [parseIpItem, bind_eq_ok_iff]
  apply Iff.intro
  · intro h
    obtain ⟨vip, hvip, h⟩ := h
    obtain ⟨hshape, rfl⟩ := index_eq_ok_iff.1 hvip
    split at h
    · next hnull =>
      have hnull := isNull_iff.1 hnull
      cases h
      rw [vipUptime_null hnull]
      exact ⟨⟨hshape, hnull ▸ .null, fun hne => absurd hnull hne⟩, rfl⟩
    · obtain ⟨strVip, hstr, h⟩ := bind_eq_ok_iff.1 h
      obtain ⟨uptime, hup, h⟩ := bind_eq_ok_iff.1 h
      obtain ⟨strUptime, hor, h⟩ := bind_eq_ok_iff.1 h
      have hstr := asString_eq_ok_iff.1 hstr
      obtain ⟨_, rfl⟩ := index_eq_ok_iff.1 hup
      obtain ⟨huptime, rfl⟩ := stringOr_eq_ok_iff.1 hor
      cases h
      rw [vipUptime_string hstr]
      exact ⟨⟨hshape, hstr ▸ .string strVip, fun _ => huptime⟩, rfl⟩
  · intro hx
    obtain ⟨hitem, rfl⟩ := hx
    refine ⟨_, index_eq_ok_iff.2 ⟨hitem.shape, rfl⟩, ?_⟩
    cases hvip : ipItem.get (wide "vip") with
    | null => rw [vipUptime_null hvip]; rfl
    | string strVip =>
      have huptime := hitem.uptime (by rw [hvip]; exact nofun)
      rw [vipUptime_string hvip]
      exact bind_eq_ok_iff.2 ⟨strVip, rfl, bind_eq_ok_iff.2
        ⟨_, index_eq_ok_iff.2 ⟨hitem.shape, rfl⟩, bind_eq_ok_iff.2
          ⟨_, stringOr_eq_ok_iff.2 ⟨huptime, rfl⟩, rfl⟩⟩⟩
    | _ =>
      have hnull := hitem.vip
      rw [hvip] at hnull
      cases hnull

theorem foldlM_parseIpItem_eq_ok_iff {items : List JsonValue} :
    items.foldlM parseIpItem m = .ok m' ↔
      (∀ ipItem ∈ items, IpItem ipItem) ∧ m' = insertAll m (items.filterMap vipUptime) := by
  induction items generalizing m with
  | nil =>
    apply Iff.intro
    · intro h
      exact ⟨nofun, (Except.ok.inj h).symm⟩
    · intro h
      exact congrArg Except.ok h.2.symm
  | cons ipItem items ih =>
    have hadd : insertAll (insertAll m (vipUptime ipItem).toList) (items.filterMap vipUptime) =
        insertAll m ((ipItem :: items).filterMap vipUptime) := by
      rw [List.filterMap_cons]
      cases vipUptime ipItem <;> rfl
    rw [List.foldlM_cons, bind_eq_ok_iff, List.forall_mem_cons]
    apply Iff.intro
    · intro hx
      obtain ⟨m₁, h₁, h₂⟩ := hx
      obtain ⟨hitem, rfl⟩ := parseIpItem_eq_ok_iff.1 h₁
      obtain ⟨hitems, rfl⟩ := ih.1 h₂
      exact ⟨⟨hitem, hitems⟩, hadd⟩
    · intro hx
      obtain ⟨⟨hitem, hitems⟩, rfl⟩ := hx
      exact ⟨_, parseIpItem_eq_ok_iff.2 ⟨hitem, rfl⟩, ih.2 ⟨hitems, hadd.symm⟩⟩

theorem parseViewName_returns_iff {Q : WString → FetchState → Prop} :
    Returns (parseViewName viewItem) s Q ↔
      (viewItem.NullOrObject ∧ (viewItem.get (wide "view_name")).NullOrString) ∧
        Q (viewName s.sSuffix viewItem) { s with sSuffix := suffixAfter s.sSuffix viewItem } := by
  rw [parseViewName, returns_bind_iff, returns_lift_iff]
  simp only [index_eq_ok_iff, viewName, suffixAfter]
  apply Iff.intro
  · intro h
    obtain ⟨_, ⟨hshape, rfl⟩, h⟩ := h
    cases hname : viewItem.get (wide "view_name") with
    | null =>
      rw [hname] at h
      exact ⟨⟨hshape, .null⟩, h⟩
    | string strViewName =>
      rw [hname] at h
      exact ⟨⟨hshape, .string strViewName⟩, h⟩
    | _ =>
      rw [hname] at h
      exact h.elim
  · intro h
    obtain ⟨⟨hshape, hname⟩, h⟩ := h
    refine ⟨_, ⟨hshape, rfl⟩, ?_⟩
    cases hv : viewItem.get (wide "view_name") with
    | null =>
      rw [hv] at h
      exact h
    | string strViewName =>
      rw [hv] at h
      exact h
    | _ =>
      rw [hv] at hname
      cases hname

theorem parseViewItem_returns_iff {Q : Unit → FetchState → Prop} :
    Returns (parseViewItem viewItem) s Q ↔ ViewItem viewItem ∧ Q () (s.addView viewItem) := by
  rw [parseViewItem, returns_bind_iff, parseViewName_returns_iff]
  simp only [returns_bind_iff, returns_lift_iff, index_eq_ok_iff]
  apply Iff.intro
  · intro h
    obtain ⟨⟨hshape, hname⟩, _, ⟨_, rfl⟩, h⟩ := h
    cases hinfo : viewItem.get (wide "info") with
    | null =>
      rw [hinfo] at h
      refine ⟨⟨hshape, hname, hinfo ▸ .null, ?_⟩, ?_⟩
      · rw [hinfo]
        exact nofun
      · rw [FetchState.addView, hinfo]
        exact h
    | array items =>
      rw [hinfo, if_neg (array_isNull items), returns_bind_iff, returns_lift_iff] at h
      obtain ⟨_, harray, h⟩ := h
      cases harray
      obtain ⟨m, hfold, h⟩ := returns_lift_iff.1 (returns_bind_iff.1 h)
      obtain ⟨hitems, rfl⟩ := foldlM_parseIpItem_eq_ok_iff.1 hfold
      refine ⟨⟨hshape, hname, hinfo ▸ .array items, ?_⟩, ?_⟩
      · rw [hinfo]
        exact hitems
      · rw [FetchState.addView, vips, hinfo]
        exact h
    | _ =>
      rw [hinfo] at h
      exact h.elim
  · intro h
    obtain ⟨hview, h⟩ := h
    refine ⟨⟨hview.shape, hview.viewName⟩, _, ⟨hview.shape, rfl⟩, ?_⟩
    have hi := hview.info
    have hitems := hview.items
    rw [FetchState.addView, vips] at h
    cases hinfo : viewItem.get (wide "info") with
    | null =>
      rw [hinfo] at h
      exact h
    | array items =>
      rw [hinfo] at h hitems
      rw [if_neg (array_isNull items), returns_bind_iff]
      exact returns_lift_iff.2 ⟨items, rfl, returns_bind_iff.2
        (returns_lift_iff.2 ⟨_, foldlM_parseIpItem_eq_ok_iff.2 ⟨hitems, rfl⟩, h⟩)⟩
    | _ =>
      rw [hinfo] at hi
      cases hi

theorem parseViews_returns_iff {views : List JsonValue} {Q : Unit → FetchState → Prop} :
    Returns (parseViews views) s Q ↔
      (∀ viewItem ∈ views, ViewItem viewItem) ∧ Q () (views.foldl FetchState.addView s) := by
  induction views generalizing s with
  | nil =>
    apply Iff.intro
    · intro h
      exact ⟨nofun, h⟩
    · intro h
      exact h.2
  | cons viewItem views ih =>
    rw [parseViews, returns_bind_iff, parseViewItem_returns_iff, ih, List.forall_mem_cons,
      and_assoc]
    rfl

theorem parseViews_ensures (views : List JsonValue) (s : FetchState) :
    Ensures (parseViews views) s (fun _ _ => ∀ viewItem ∈ views, ViewItem viewItem)
      fun e _ => e = .jsonException ∧ ¬∀ viewItem ∈ views, ViewItem viewItem := by
  have hthrows := parseViews_parses views s
  have hreturns : Returns (parseViews views) s (fun _ _ => True) ↔
      (∀ viewItem ∈ views, ViewItem viewItem) ∧ True := parseViews_returns_iff
  rw [Returns] at hreturns
  rw [Parses] at hthrows
  rw [Ensures] at hreturns hthrows ⊢
  cases hr : parseViews views s with
  | ok a s' =>
    rw [hr] at hreturns
    exact (hreturns.1 trivial).1
  | error e s' =>
    rw [hr] at hreturns hthrows
    exact ⟨hthrows, fun h => hreturns.2 ⟨h, trivial⟩⟩

theorem ensures_lift_bind {x : Except CppException α} {f : α → Fetch β} (h : x = .ok a) :
    Ensures ((x : Fetch α) >>= f) s P E ↔ Ensures (f a) s P E := by
  subst h
  rfl

end Parsing

section Answers

variable {resp : JsonValue} {s : FetchState}

theorem not_format_of_status (h : resp.get (wide "status") ≠ .string (wide "success")) :
    ¬RespondFormat resp ∧ ¬DataMissing resp :=
  ⟨fun hf => h hf.status, fun hd => h hd.1⟩

/-- The tests are made from the outside inwards, so the first deviation decides. -/
theorem parseRespond_answers (hresp : resp = .object fields) (s : FetchState) :
    Ensures (parseRespond resp) s (fun res _ => Answers resp res)
      fun e _ => e = .jsonException ∧ Answers resp .networkInterfaceRespondParseFail := by
  have hindex (key : WString) : resp.index key = .ok (resp.get key) := by
    rw [hresp]
    rfl
  rw [parseRespond, ensures_lift_bind (hindex _)]
  cases hstatus : resp.get (wide "status") with
  | null => exact Ensures.pure ⟨⟨fields, hresp⟩, hstatus⟩
  | string strStatus =>
    rw [if_neg (string_isNull strStatus),
      ensures_lift_bind (asString_eq_ok_iff.2 rfl)]
    split
    · next hne => exact Ensures.pure ⟨strStatus, hstatus, hne⟩
    · next he =>
      rw [not_not.1 he] at hstatus
      have hmissing : ¬StatusMissing resp := by
        intro h
        rw [h.2] at hstatus
        cases hstatus
      have hother : ¬StatusNotSuccess resp := by
        intro hx
        obtain ⟨t, ht, hne⟩ := hx
        rw [ht] at hstatus
        exact hne (JsonValue.string.inj hstatus)
      rw [ensures_lift_bind (hindex _)]
      cases hdata : resp.get (wide "data") with
      | null => exact Ensures.pure ⟨hstatus, hdata⟩
      | array views =>
        have hpresent : ¬DataMissing resp := by
          intro h
          rw [h.2] at hdata
          cases hdata
        rw [if_neg (array_isNull views), ensures_lift_bind (asArray_eq_ok_iff.2 rfl)]
        have hviews := parseViews_ensures views s
        apply Ensures.bind (hviews.mono (fun _ _ h => h) _)
        · intro _ s' hall
          refine Ensures.pure ⟨⟨fields, hresp⟩, hstatus, ⟨views, hdata⟩, ?_⟩
          rw [hdata]
          exact hall
        · intro e s' ⟨he, hall⟩
          refine ⟨he, ?_, hmissing, hother, hpresent⟩
          intro hf
          have hv := hf.views
          rw [hdata] at hv
          exact hall hv
      | _ =>
        refine show _ ∧ Answers resp _ from ⟨rfl, ?_, hmissing, hother, ?_⟩
        · intro hf
          obtain ⟨views, hv⟩ := hf.data
          rw [hv] at hdata
          cases hdata
        · intro h
          rw [h.2] at hdata
          cases hdata
  | _ =>
    have hne : resp.get (wide "status") ≠ .string (wide "success") := by
      rw [hstatus]
      exact nofun
    obtain ⟨hf, hd⟩ := not_format_of_status hne
    refine show _ ∧ Answers resp _ from ⟨rfl, hf, ?_, ?_, hd⟩
    · intro h
      rw [h.2] at hstatus
      cases hstatus
    · intro hx
      obtain ⟨t, ht, _⟩ := hx
      rw [ht] at hstatus
      cases hstatus

theorem get_of_not_object (h : ∀ fields, resp ≠ .object fields) (key : WString) :
    resp.get key = .null := by
  cases resp with
  | object fields => exact absurd rfl (h fields)
  | _ => rfl

theorem answers_of_not_object (h : ∀ fields, resp ≠ .object fields) :
    Answers resp .networkInterfaceRespondParseFail := by
  refine ⟨?_, ?_, ?_, ?_⟩
  · intro hf
    obtain ⟨fields, he⟩ := hf.shape
    exact h fields he
  · intro ⟨⟨fields, he⟩, _⟩
    exact h fields he
  · intro ⟨strStatus, hs, _⟩
    rw [get_of_not_object h] at hs
    cases hs
  · intro ⟨hs, _⟩
    rw [get_of_not_object h] at hs
    cases hs

theorem RespondFormat.answers (hf : RespondFormat resp) (h : Answers resp res) :
    res = .success := by
  cases res with
  | success => rfl
  | networkInterfaceRespondStatusNotExist =>
    have hs := hf.status
    rw [h.2] at hs
    cases hs
  | networkInterfaceRespondStatusNotSuccess =>
    obtain ⟨strStatus, hs, hne⟩ := h
    rw [hf.status] at hs
    exact absurd (JsonValue.string.inj hs).symm hne
  | networkInterfaceRespondDataNotExist =>
    obtain ⟨views, hd⟩ := hf.data
    rw [h.2] at hd
    cases hd
  | networkInterfaceRespondParseFail => exact absurd hf h.1
  | _ => exact h.elim

theorem fetch_ensures_answers (h : value ≠ .null) (s : FetchState) :
    Returns (fetch (.response 200 (.ok value))) s fun res _ => Answers value res := by
  have hnull : ¬value.isNull = true := fun he => h (isNull_iff.1 he)
  have hparse : Ensures (onValue (.ok value)) s (fun res _ => Answers value res)
      fun e _ => e = .jsonException ∧ Answers value .networkInterfaceRespondParseFail := by
    rw [onValue, ensures_lift_bind rfl, if_neg hnull]
    cases value with
    | null => exact absurd rfl h
    | object fields => exact parseRespond_answers rfl s
    | _ => exact show _ ∧ Answers _ _ from ⟨rfl, answers_of_not_object fun _ => nofun⟩
  apply Ensures.tryCatch hparse
  intro e s' he
  obtain ⟨rfl, hanswers⟩ := he
  exact Ensures.pure hanswers

/-- A response that is not null is accepted exactly when it has the format, and any other is
given the code of its first deviation. -/
theorem fetch_answers (h : value ≠ .null) (s : FetchState) :
    ∃ res s', fetch (.response 200 (.ok value)) s = .ok res s' ∧
      (res = .success ↔ RespondFormat value) ∧ Answers value res := by
  have hreturns := fetch_ensures_answers h s
  rw [Returns, Ensures] at hreturns
  cases hr : fetch (.response 200 (.ok value)) s with
  | ok res s' =>
    rw [hr] at hreturns
    refine ⟨res, s', rfl, ?_, hreturns⟩
    apply Iff.intro
    · intro he
      subst he
      exact hreturns
    · intro hf
      exact hf.answers hreturns
  | error e s' =>
    rw [hr] at hreturns
    exact hreturns.elim

def respondNumericVip : JsonValue :=
  .object [(wide "status", .string (wide "success")),
    (wide "data", .array [.object [(wide "view_name", .string (wide "telecom"))],
      .object [(wide "info", .array [.null, .object [(wide "vip", .number (wide "1"))]])]])]

theorem fetch_answers_numericVip :
    ∃ res s', fetch (.response 200 (.ok respondNumericVip)) ⟨∅, 0⟩ = .ok res s' ∧
      (res = .success ↔ RespondFormat respondNumericVip) ∧ Answers respondNumericVip res := by
  apply fetch_answers
  rw [respondNumericVip]
  exact nofun

end Answers

end LdnsSelector
