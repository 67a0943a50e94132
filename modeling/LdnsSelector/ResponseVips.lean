import LdnsSelector.ResponseFormat

set_option autoImplicit true

namespace LdnsSelector

open EStateM JsonValue

def namedViews (sSuffix : UInt32) : List JsonValue → List (WString × JsonValue)
  | [] => []
  | viewItem :: views =>
    if (viewItem.get (wide "info")).isNull then namedViews (suffixAfter sSuffix viewItem) views
    else (viewName sSuffix viewItem, viewItem) :: namedViews (suffixAfter sSuffix viewItem) views

/-- An item of the view is for `strVip`, with `uptime` as it is in the response. -/
def ViewGives (viewItem : JsonValue) (strVip : WString) (uptime : JsonValue) : Prop :=
  ∃ ipItem ∈ (viewItem.get (wide "info")).elements,
    ipItem.get (wide "vip") = .string strVip ∧ ipItem.get (wide "uptime") = uptime

def Gives (resp : JsonValue) (strVip : WString) (uptime : JsonValue) : Prop :=
  ∃ viewItem ∈ (resp.get (wide "data")).elements, ViewGives viewItem strVip uptime

def Stores (m : DnsMap) (strVip : WString) : Prop :=
  ∃ strViewName mapVipUptime, m.lookup strViewName = some mapVipUptime ∧ strVip ∈ mapVipUptime

/-- The stored vips are the given ones, each with an uptime that is given for it. -/
structure LosesNothing (resp : JsonValue) (m : DnsMap) : Prop where
  vips : ∀ strVip, Stores m strVip ↔ ∃ uptime, Gives resp strVip uptime
  uptimes : ∀ strViewName mapVipUptime strVip strUptime, m.lookup strViewName = some mapVipUptime →
    mapVipUptime.lookup strVip = some strUptime →
    Gives resp strVip (.string strUptime) ∨
      Gives resp strVip .null ∧ strUptime = wide "unknow"

/-- A vip of a view whose name an earlier view has is also in a view that is the first of its
name. -/
def RepeatsKept (sSuffix : UInt32) (resp : JsonValue) : Prop :=
  ∀ pre strViewName viewItem post,
    namedViews sSuffix (resp.get (wide "data")).elements = pre ++ (strViewName, viewItem) :: post →
    strViewName ∈ pre.map Prod.fst → ∀ strVip uptime, ViewGives viewItem strVip uptime →
    ∃ strFirstName firstItem,
      (namedViews sSuffix (resp.get (wide "data")).elements).lookup strFirstName = some firstItem ∧
        ∃ uptime', ViewGives firstItem strVip uptime'

section Maps

variable {κ ν : Type} {k : κ} {v : ν}

theorem lookup_tryInsert [DecidableEq κ] (m : UnorderedMap κ ν) (k : κ) (v : ν) (k' : κ) :
    (m.tryInsert k v).lookup k' = (m.lookup k').or (if k' = k then some v else none) := by
  rw [UnorderedMap.tryInsert]
  split
  · next hm =>
    split
    · next he =>
      obtain ⟨v', hv⟩ := Option.isSome_iff_exists.1 (AList.lookup_isSome.2 (he ▸ hm))
      rw [hv]
      rfl
    · exact Option.or_none.symm
  · next hm =>
    split
    · next he =>
      subst he
      rw [AList.lookup_insert, AList.lookup_eq_none.2 hm]
      rfl
    · next hne => rw [AList.lookup_insert_ne hne, Option.or_none]

theorem lookup_map_snd [BEq κ] (f : ν → μ) (l : List (κ × ν)) (k : κ) :
    (l.map fun e => (e.1, f e.2)).lookup k = (l.lookup k).map f := by
  induction l with
  | nil => rfl
  | cons e l ih =>
    rw [List.map_cons, List.lookup_cons, List.lookup_cons, ih]
    split <;> rfl

theorem mem_of_lookup [BEq κ] [LawfulBEq κ] {l : List (κ × ν)} (h : l.lookup k = some v) :
    (k, v) ∈ l := by
  obtain ⟨pre, post, rfl, _⟩ := List.lookup_eq_some_iff.1 h
  exact List.mem_append_right _ List.mem_cons_self

variable [DecidableEq κ] [BEq κ] [LawfulBEq κ]

theorem lookup_insertAll (m : UnorderedMap κ ν) (l : List (κ × ν)) (k : κ) :
    (insertAll m l).lookup k = (m.lookup k).or (l.lookup k) := by
  induction l generalizing m with
  | nil => exact Option.or_none.symm
  | cons e l ih =>
    change (insertAll (m.tryInsert e.1 e.2) l).lookup k = _
    rw [ih, lookup_tryInsert, Option.or_assoc, List.lookup_cons]
    congr 1
    split
    · next he =>
      subst he
      rw [beq_self_eq_true]
      rfl
    · next hne =>
      rw [beq_false_of_ne hne]
      rfl

theorem lookup_insertAll_empty (l : List (κ × ν)) (k : κ) :
    (insertAll (∅ : UnorderedMap κ ν) l).lookup k = l.lookup k :=
  (lookup_insertAll ∅ l k).trans (Option.none_or)

theorem mem_insertAll_iff {l : List (κ × ν)} :
    k ∈ insertAll (∅ : UnorderedMap κ ν) l ↔ ∃ v, (k, v) ∈ l := by
  rw [← AList.lookup_isSome, lookup_insertAll_empty]
  apply Iff.intro
  · intro h
    obtain ⟨v, hv⟩ := Option.isSome_iff_exists.1 h
    exact ⟨v, mem_of_lookup hv⟩
  · intro hx
    obtain ⟨v, hv⟩ := hx
    by_contra hn
    have hne := List.lookup_eq_none_iff.1 (Option.not_isSome_iff_eq_none.1 hn) _ hv
    exact bne_iff_ne.1 hne rfl

end Maps

section Views

variable {n : UInt32} {resp viewItem : JsonValue} {views : List JsonValue}

theorem vipUptime_eq_some_iff : vipUptime ipItem = some (strVip, strUptime) ↔
    ipItem.get (wide "vip") = .string strVip ∧
      strUptime = (ipItem.get (wide "uptime")).text.getD (wide "unknow") := by
  rw [vipUptime, Option.map_eq_some_iff]
  apply Iff.intro
  · intro h
    obtain ⟨_, hvip, he⟩ := h
    obtain ⟨rfl, rfl⟩ := Prod.mk.inj he
    exact ⟨text_eq_some_iff.1 hvip, rfl⟩
  · intro h
    obtain ⟨hvip, rfl⟩ := h
    exact ⟨strVip, text_eq_some_iff.2 hvip, rfl⟩

theorem mem_vips_iff : (∃ strUptime, (strVip, strUptime) ∈ vips viewItem) ↔
    ∃ uptime, ViewGives viewItem strVip uptime := by
  simp only [vips, List.mem_filterMap, vipUptime_eq_some_iff, ViewGives]
  apply Iff.intro
  · intro h
    obtain ⟨_, ipItem, hm, hvip, _⟩ := h
    exact ⟨_, ipItem, hm, hvip, rfl⟩
  · intro h
    obtain ⟨_, ipItem, hm, hvip, _⟩ := h
    exact ⟨_, ipItem, hm, hvip, rfl⟩

theorem ViewGives.has_info (h : ViewGives viewItem strVip uptime) :
    ¬(viewItem.get (wide "info")).isNull = true := by
  obtain ⟨_, hm, _⟩ := h
  intro hnull
  rw [isNull_iff.1 hnull] at hm
  cases hm

theorem mem_namedViews (hm : viewItem ∈ views)
    (hi : ¬(viewItem.get (wide "info")).isNull = true) :
    ∃ strViewName, (strViewName, viewItem) ∈ namedViews n views := by
  induction views generalizing n with
  | nil => cases hm
  | cons view views ih =>
    rw [namedViews]
    rcases List.mem_cons.1 hm with rfl | hm
    · rw [if_neg hi]
      exact ⟨_, List.mem_cons_self⟩
    · obtain ⟨strViewName, hmem⟩ := ih (n := suffixAfter n view) hm
      split
      · exact ⟨strViewName, hmem⟩
      · exact ⟨strViewName, List.mem_cons_of_mem _ hmem⟩

theorem mem_of_mem_namedViews (h : (strViewName, viewItem) ∈ namedViews n views) :
    viewItem ∈ views := by
  induction views generalizing n with
  | nil => cases h
  | cons view views ih =>
    rw [namedViews] at h
    split at h
    · exact List.mem_cons_of_mem _ (ih h)
    · rcases List.mem_cons.1 h with he | h
      · cases he
        exact List.mem_cons_self
      · exact List.mem_cons_of_mem _ (ih h)

theorem foldl_addView (s : FetchState) (views : List JsonValue) :
    (views.foldl FetchState.addView s).mapDnsInfo =
      insertAll s.mapDnsInfo
        ((namedViews s.sSuffix views).map fun e => (e.1, insertAll ∅ (vips e.2))) := by
  induction views generalizing s with
  | nil => rfl
  | cons view views ih =>
    rw [List.foldl_cons, ih, namedViews, FetchState.addView]
    split <;> rfl

theorem lookup_views : (insertAll (∅ : DnsMap)
      ((namedViews n views).map fun e => (e.1, insertAll ∅ (vips e.2)))).lookup strViewName =
    ((namedViews n views).lookup strViewName).map fun viewItem => insertAll ∅ (vips viewItem) := by
  rw [lookup_insertAll_empty]
  exact lookup_map_snd (fun viewItem => insertAll ∅ (vips viewItem)) _ _

theorem stores_iff : Stores (insertAll (∅ : DnsMap)
      ((namedViews n views).map fun e => (e.1, insertAll ∅ (vips e.2)))) strVip ↔
    ∃ strViewName viewItem, (namedViews n views).lookup strViewName = some viewItem ∧
      ∃ uptime, ViewGives viewItem strVip uptime := by
  simp only [Stores, lookup_views, Option.map_eq_some_iff, ← mem_vips_iff]
  apply Iff.intro
  · intro h
    obtain ⟨strViewName, _, ⟨viewItem, hl, rfl⟩, hm⟩ := h
    exact ⟨strViewName, viewItem, hl, mem_insertAll_iff.1 hm⟩
  · intro h
    obtain ⟨strViewName, viewItem, hl, hm⟩ := h
    exact ⟨strViewName, _, ⟨viewItem, hl, rfl⟩, mem_insertAll_iff.2 hm⟩

theorem uptime_given (hv : ViewItem viewItem)
    (h : (insertAll (∅ : VipMap) (vips viewItem)).lookup strVip = some strUptime) :
    ViewGives viewItem strVip (.string strUptime) ∨
      ViewGives viewItem strVip .null ∧ strUptime = wide "unknow" := by
  rw [lookup_insertAll_empty] at h
  obtain ⟨ipItem, hm, he⟩ := List.mem_filterMap.1 (mem_of_lookup h)
  obtain ⟨hvip, hup⟩ := vipUptime_eq_some_iff.1 he
  have hshape := (hv.items ipItem hm).uptime (by rw [hvip]; exact nofun)
  generalize hu : ipItem.get (wide "uptime") = uptime at hshape hup
  cases hshape with
  | null => exact .inr ⟨⟨ipItem, hm, hvip, hu⟩, hup⟩
  | string s =>
    cases hup
    exact .inl ⟨ipItem, hm, hvip, hu⟩

theorem losesNothing_iff (hf : RespondFormat resp) (n : UInt32) :
    LosesNothing resp ((resp.get (wide "data")).elements.foldl FetchState.addView
      ⟨∅, n⟩).mapDnsInfo ↔ RepeatsKept n resp := by
  rw [foldl_addView]
  apply Iff.intro
  · intro h pre strViewName viewItem post he _ strVip uptime hg
    have hm : (strViewName, viewItem) ∈ namedViews n (resp.get (wide "data")).elements := by
      rw [he]
      exact List.mem_append_right _ List.mem_cons_self
    exact stores_iff.1 ((h.vips strVip).2 ⟨uptime, viewItem, mem_of_mem_namedViews hm, hg⟩)
  · intro h
    refine ⟨?_, ?_⟩
    · intro strVip
      rw [stores_iff]
      apply Iff.intro
      · intro hx
        obtain ⟨strViewName, viewItem, hl, uptime, hg⟩ := hx
        exact ⟨uptime, viewItem, mem_of_mem_namedViews (mem_of_lookup hl), hg⟩
      · intro hx
        obtain ⟨uptime, viewItem, hm, hg⟩ := hx
        obtain ⟨strViewName, hmem⟩ := mem_namedViews (n := n) hm hg.has_info
        obtain ⟨pre, post, he⟩ := List.append_of_mem hmem
        by_cases hpre : strViewName ∈ pre.map Prod.fst
        · exact h pre strViewName viewItem post he hpre strVip uptime hg
        · refine ⟨strViewName, viewItem, ?_, uptime, hg⟩
          refine List.lookup_eq_some_iff.2 ⟨pre, post, he, ?_⟩
          intro e hm
          simp only [bne_iff_ne, ne_eq]
          intro hk
          exact hpre (List.mem_map.2 ⟨e, hm, hk.symm⟩)
    · intro strViewName mapVipUptime strVip strUptime hl hu
      rw [lookup_views, Option.map_eq_some_iff] at hl
      obtain ⟨viewItem, hl, rfl⟩ := hl
      have hm := mem_of_mem_namedViews (mem_of_lookup hl)
      rcases uptime_given (hf.views viewItem hm) hu with hg | ⟨hg, he⟩
      · exact .inl ⟨viewItem, hm, hg⟩
      · exact .inr ⟨⟨viewItem, hm, hg⟩, he⟩

theorem parseRespond_format (hf : RespondFormat resp) (s : FetchState) :
    parseRespond resp s =
      .ok .success ((resp.get (wide "data")).elements.foldl FetchState.addView s) := by
  have hviews := parseViews_returns_iff (s := s)
    (Q := fun _ s' => s' = (resp.get (wide "data")).elements.foldl FetchState.addView s)
    |>.2 ⟨hf.views, rfl⟩
  obtain ⟨views, hdata⟩ := hf.data
  have hstatus := hf.status
  obtain ⟨fields, hresp⟩ := hf.shape
  have hindex (key : WString) : resp.index key = .ok (resp.get key) := by
    rw [hresp]
    rfl
  have hrespond : Returns (parseRespond resp) s fun res s' => res = .success ∧
      s' = (resp.get (wide "data")).elements.foldl FetchState.addView s := by
    rw [parseRespond, Returns, ensures_lift_bind (hindex _), hstatus,
      if_neg (string_isNull _), ensures_lift_bind (asString_eq_ok_iff.2 rfl),
      if_neg (not_not_intro rfl), ensures_lift_bind (hindex _)]
    rw [hdata] at hviews ⊢
    rw [if_neg (array_isNull views), ensures_lift_bind (asArray_eq_ok_iff.2 rfl)]
    apply Ensures.bind hviews
    intro _ s' he
    exact Ensures.pure ⟨rfl, he⟩
  rw [Returns, Ensures] at hrespond
  cases hr : parseRespond resp s with
  | ok res s' =>
    rw [hr] at hrespond
    obtain ⟨rfl, rfl⟩ := hrespond
    rfl
  | error e s' =>
    rw [hr] at hrespond
    exact hrespond.elim

theorem respondFormat_of_success (h : parseRespond resp s = .ok .success st) :
    RespondFormat resp := by
  cases resp with
  | object fields =>
    have ha : Ensures (parseRespond (.object fields)) s
        (fun res _ => Answers (.object fields) res) fun e _ =>
          e = .jsonException ∧ Answers (.object fields) .networkInterfaceRespondParseFail :=
      parseRespond_answers rfl s
    rw [Ensures, h] at ha
    exact ha
  | _ => cases h

/-- Every server of an accepted response is in the map exactly when no view that repeats a name
has a vip of its own. -/
theorem loses_nothing_iff (h : parseRespond resp ⟨∅, n⟩ = .ok .success st) :
    LosesNothing resp st.mapDnsInfo ↔ RepeatsKept n resp := by
  have hf := respondFormat_of_success h
  rw [parseRespond_format hf] at h
  cases h
  exact losesNothing_iff hf n

end Views

def respondOf (views : List (WString × WString)) : JsonValue :=
  .object [(wide "status", .string (wide "success")),
    (wide "data", .array (views.map fun e => .object [(wide "view_name", .string e.1),
      (wide "info", .array [.object [(wide "vip", .string e.2)]])]))]

theorem loses_nothing_iff_two :
    ∃ st, parseRespond (respondOf [(wide "telecom", wide "10.0.0.1"),
        (wide "unicom", wide "10.0.0.2")]) ⟨∅, 0⟩ = .ok .success st ∧
      (LosesNothing (respondOf [(wide "telecom", wide "10.0.0.1"),
        (wide "unicom", wide "10.0.0.2")]) st.mapDnsInfo ↔
      RepeatsKept 0 (respondOf [(wide "telecom", wide "10.0.0.1"),
        (wide "unicom", wide "10.0.0.2")])) :=
  ⟨_, rfl, loses_nothing_iff rfl⟩

theorem not_loses_nothing_repeated :
    ¬∀ resp n st, parseRespond resp ⟨∅, n⟩ = .ok .success st →
      LosesNothing resp st.mapDnsInfo := by
  intro h
  have hl := h (respondOf [(wide "telecom", wide "10.0.0.1"), (wide "telecom", wide "10.0.0.2")])
    0 ⟨AList.singleton (wide "telecom") (AList.singleton (wide "10.0.0.1") (wide "unknow")), 0⟩ rfl
  obtain ⟨strViewName, mapVipUptime, hlook, hm⟩ := (hl.vips (wide "10.0.0.2")).2
    ⟨.null, _, List.mem_cons_of_mem _ List.mem_cons_self, _, List.mem_cons_self, rfl, rfl⟩
  obtain rfl : strViewName = wide "telecom" :=
    List.mem_singleton.1 (AList.lookup_isSome.1 (Option.isSome_of_eq_some hlook))
  cases hlook
  exact absurd (List.mem_singleton.1 hm) (by decide)

end LdnsSelector
