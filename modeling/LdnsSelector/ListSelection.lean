import LdnsSelector.Ui
import Mathlib.Data.List.Induction

set_option autoImplicit true

namespace LdnsSelector

/-- The keys `CListUI::DoEvent` tells apart. -/
inductive VirtualKey where
  | up
  | down
  | prior
  | next
  | home
  | endKey
  | return
  | other
  deriving DecidableEq, Repr

def VirtualKey.navigates (key : VirtualKey) : Bool := key ≠ .return ∧ key ≠ .other

namespace ListPane

def getCurSel (pane : ListPane ν κ) : Int := pane.curSel.elim (-1) fun index => index

/-- `CContainerUI::FindSelectable` in either direction, all rows being selectable: the index
clamped to the list. -/
def findSelectable (pane : ListPane ν κ) (index : Int) : Option Nat :=
  if pane.rows.isEmpty then none else some (min index.toNat (pane.rows.length - 1))

section KeyDown

/-- Activating a row raises a notification the window does not handle. -/
def onReturn (pane : ListPane ν κ) : ListPane ν κ := pane

def onEnd (pane : ListPane ν κ) : ListPane ν κ :=
  (pane.selectItem (pane.findSelectable (pane.rows.length - 1))).onReturn

def onHome (pane : ListPane ν κ) : ListPane ν κ :=
  (pane.selectItem (pane.findSelectable 0)).onEnd

/-- `PageDown` and `PageUp` only scroll. -/
def onNext (pane : ListPane ν κ) : ListPane ν κ := pane.onHome

def onPrior (pane : ListPane ν κ) : ListPane ν κ := pane.onNext

def onDown (pane : ListPane ν κ) : ListPane ν κ :=
  (pane.selectItem (pane.findSelectable (pane.getCurSel + 1))).onPrior

def onUp (pane : ListPane ν κ) : ListPane ν κ :=
  (pane.selectItem (pane.findSelectable (pane.getCurSel - 1))).onDown

/-- `CListUI::DoEvent` for a key. No case of the source ends in a `break`: each one goes on
with the next. -/
def onKeyDown (pane : ListPane ν κ) : VirtualKey → ListPane ν κ
  | .up => pane.onUp
  | .down => pane.onDown
  | .prior => pane.onPrior
  | .next => pane.onNext
  | .home => pane.onHome
  | .endKey => pane.onEnd
  | .return => pane.onReturn
  | .other => pane

variable (pane : ListPane ν κ)

theorem onEnd_eq : pane.onEnd = pane.keyDown := by
  have hlast : ((pane.rows.length : Int) - 1).toNat = pane.rows.length - 1 := by omega
  rw [onEnd, onReturn, keyDown, findSelectable, hlast, Nat.min_self]

theorem onHome_eq : pane.onHome = pane.keyDown := onEnd_eq _

theorem onDown_eq : pane.onDown = pane.keyDown := onHome_eq _

theorem onUp_eq : pane.onUp = pane.keyDown := onDown_eq _

theorem onKeyDown_eq (key : VirtualKey) :
    pane.onKeyDown key = if key.navigates = true then pane.keyDown else pane := by
  cases key with
  | up => exact onUp_eq pane
  | down => exact onDown_eq pane
  | prior => exact onHome_eq pane
  | next => exact onHome_eq pane
  | home => exact onHome_eq pane
  | endKey => exact onEnd_eq pane
  | «return» => rfl
  | other => rfl

end KeyDown

def curItem (pane : ListPane ν κ) : Option Nat :=
  (pane.curSel.bind (pane.rows[·]?)).map ListItem.item

/-- The selected row is the remembered one, it is the one that is painted, and it is the one
whose entry a switch takes. -/
structure Highlighted (pane : ListPane ν κ) : Prop where
  remembered : pane.lastSelectedItem = pane.curItem
  painted : ∀ row ∈ pane.rows,
    row.bkColor = listItemSelectedColor ↔ pane.curItem = some row.item
  single : (pane.rows.filter (·.bkColor = listItemSelectedColor)).length ≤ 1
  switched : pane.selected = pane.lastSelectedItem.bind fun item => pane.mapItem.lookup item

/-- What holds of a list after any events: its rows are distinct, they are the keys of the map,
and the remembered one is the one in the other colour. -/
structure Kept (pane : ListPane ν κ) (nextItem : Nat) : Prop where
  nodup : (pane.rows.map ListItem.item).Nodup
  fresh : ∀ row ∈ pane.rows, row.item < nextItem
  keys : pane.mapItem.map Prod.fst = pane.rows.map ListItem.item
  origin : pane.originItemColor = if pane.rows.isEmpty then 0xFFFFFFFF else listItemColor
  colors : ∀ row ∈ pane.rows, row.bkColor =
    if pane.lastSelectedItem = some row.item then listItemSelectedColor else listItemColor
  last : ∀ item, pane.lastSelectedItem = some item → item ∈ pane.rows.map ListItem.item
  bound : ∀ index, pane.curSel = some index → index < pane.rows.length

section Kept

variable {pane : ListPane ν κ} {n item : Nat}

theorem colors_ne : listItemColor ≠ listItemSelectedColor := by decide

theorem length_filter_item_le {rows : List (ListItem ν)} (item : Nat)
    (h : (rows.map ListItem.item).Nodup) (p : ListItem ν → Bool)
    (hp : ∀ row ∈ rows, p row = true → row.item = item) : (rows.filter p).length ≤ 1 := by
  have hn : ((rows.filter p).map ListItem.item).Nodup :=
    (List.filter_sublist.map ListItem.item).nodup h
  have hall : ∀ x ∈ (rows.filter p).map ListItem.item, x = item := by
    intro x hx
    obtain ⟨row, hm, rfl⟩ := List.mem_map.1 hx
    obtain ⟨hm, hr⟩ := List.mem_filter.1 hm
    exact hp row hm hr
  rw [List.eq_replicate_of_mem hall, List.nodup_replicate, List.length_map] at hn
  exact hn

/-- The painted row is the remembered one, so what is left to ask is that it is selected. -/
theorem Kept.highlighted_iff_eq (h : pane.Kept n) :
    pane.Highlighted ↔ pane.lastSelectedItem = pane.curItem := by
  apply Iff.intro Highlighted.remembered
  intro he
  have hpaint : ∀ row ∈ pane.rows,
      row.bkColor = listItemSelectedColor ↔ pane.curItem = some row.item := by
    intro row hm
    rw [h.colors row hm, he]
    split
    · next hc => exact iff_of_true rfl hc
    · next hc => exact iff_of_false colors_ne hc
  refine ⟨he, hpaint, ?_, ?_⟩
  · cases hc : pane.curItem with
    | none =>
      have hnil : pane.rows.filter (·.bkColor = listItemSelectedColor) = [] := by
        apply List.filter_eq_nil_iff.2
        intro row hm hd
        have := (hpaint row hm).1 (of_decide_eq_true hd)
        rw [hc] at this
        cases this
      rw [hnil]
      exact Nat.zero_le 1
    | some item =>
      apply length_filter_item_le item h.nodup
      intro row hm hd
      have := (hpaint row hm).1 (of_decide_eq_true hd)
      rw [hc] at this
      exact (Option.some.inj this).symm
  · rw [he, curItem, selected]
    cases pane.curSel.bind (pane.rows[·]?) <;> rfl

theorem kept_empty (n : Nat) : ({} : ListPane ν κ).Kept n where
  nodup := List.nodup_nil
  fresh _ hm := absurd hm List.not_mem_nil
  keys := rfl
  origin := rfl
  colors _ hm := absurd hm List.not_mem_nil
  last _ h := nomatch h
  bound _ h := nomatch h

theorem Kept.mono (h : pane.Kept n) (hn : n ≤ m) : pane.Kept m :=
  { h with fresh := fun row hm => Nat.lt_of_lt_of_le (h.fresh row hm) hn }

theorem Kept.selectItem (h : pane.Kept n) (index : Option Nat) :
    (pane.selectItem index).Kept n :=
  { h with bound := fun _ hi => of_decide_eq_true (Option.filter_eq_some_iff.1 hi).2 }

theorem Kept.addRow (h : pane.Kept n) (info : ν) (key : κ) :
    (pane.addRow n info key).Kept (n + 1) where
  nodup := by
    simp only [ListPane.addRow, List.map_append, List.map_cons, List.map_nil]
    apply h.nodup.append (List.nodup_singleton n)
    intro x hx hm
    obtain ⟨row, hr, rfl⟩ := List.mem_map.1 hx
    have hlt := h.fresh row hr
    rw [List.mem_singleton.1 hm] at hlt
    exact Nat.lt_irrefl n hlt
  fresh := by
    intro row hm
    rcases List.mem_append.1 hm with hm | hm
    · exact Nat.lt_succ_of_lt (h.fresh row hm)
    · rw [List.mem_singleton.1 hm]
      exact Nat.lt_succ_self n
  keys := by simp only [ListPane.addRow, List.map_append, h.keys, List.map_cons, List.map_nil]
  origin := by
    have hne : (pane.addRow n info key).rows.isEmpty = false := by simp [ListPane.addRow]
    rw [hne]
    simp only [ListPane.addRow, h.origin]
    cases pane.rows.isEmpty <;> rfl
  colors := by
    intro row hm
    rcases List.mem_append.1 hm with hm | hm
    · exact h.colors row hm
    · rw [List.mem_singleton.1 hm]
      have hne : pane.lastSelectedItem ≠ some n := by
        intro he
        obtain ⟨row, hr, hi⟩ := List.mem_map.1 (h.last n he)
        have hlt := h.fresh row hr
        rw [hi] at hlt
        exact Nat.lt_irrefl n hlt
      exact (if_neg hne).symm
  last := by
    intro item hl
    simp only [ListPane.addRow, List.map_append]
    exact List.mem_append_left _ (h.last item hl)
  bound := by
    intro index hs
    have hlt := h.bound index hs
    simp only [ListPane.addRow, List.length_append]
    omega

theorem indexOf_eq_some (h : pane.indexOf item = some index) :
    ∃ hi : index < pane.rows.length, pane.rows[index].item = item := by
  obtain ⟨hi, hp, _⟩ := List.findIdx?_eq_some_iff_getElem.1 h
  exact ⟨hi, of_decide_eq_true hp⟩

/-- All of a click on a row but what it selects: its row is in the other colour, and alone. -/
def paint (pane : ListPane ν κ) (item : Nat) : ListPane ν κ :=
  { pane with
    rows := pane.rows.map fun row =>
      { row with bkColor := if row.item = item then listItemSelectedColor else listItemColor }
    lastSelectedItem := some item }

theorem Kept.restored (h : pane.Kept n) {last : Nat} (hl : pane.lastSelectedItem = some last) :
    (pane.setBkColor last pane.originItemColor).rows =
      pane.rows.map fun row => { row with bkColor := listItemColor } := by
  apply List.map_congr_left
  intro row hm
  have hc := h.colors row hm
  simp only [hl, Option.some.injEq] at hc
  by_cases hr : row.item = last
  · have hne : pane.rows.isEmpty = false :=
      List.isEmpty_eq_false_iff.2 (List.ne_nil_of_mem hm)
    rw [if_pos hr, h.origin, hne]
    rfl
  · rw [if_neg (Ne.symm hr)] at hc
    rw [if_neg hr, ← hc]

theorem Kept.unpainted (h : pane.Kept n) (hl : pane.lastSelectedItem = none) :
    pane.rows = pane.rows.map fun row => { row with bkColor := listItemColor } := by
  conv_lhs => rw [← List.map_id pane.rows]
  apply List.map_congr_left
  intro row hm
  have hc := h.colors row hm
  simp only [hl, reduceCtorEq, if_false] at hc
  rw [← hc]
  rfl

theorem paint_rows {rows : List (ListItem ν)} (item : Nat) :
    ((rows.map fun row => { row with bkColor := listItemColor }).map fun row =>
        if row.item = item then { row with bkColor := listItemSelectedColor } else row) =
      rows.map fun row => { row with
        bkColor := if row.item = item then listItemSelectedColor else listItemColor } := by
  rw [List.map_map]
  apply List.map_congr_left
  intro row _
  by_cases hr : row.item = item
  · simp [hr]
  · simp [hr]

theorem selectItem_painted {rows : List (ListItem ν)} (hr : rows = (pane.paint item).rows)
    (hlt : index < pane.rows.length) (i : Option Nat) :
    ({ pane with rows := rows, lastSelectedItem := some item }.selectItem i).selectItem
        (some index) = { pane.paint item with curSel := some index } := by
  subst hr
  simp [selectItem, ListPane.paint, hlt]

theorem Kept.rowClick_eq (h : pane.Kept n) (hi : pane.indexOf item = some index) :
    pane.rowClick item = { pane.paint item with curSel := some index } := by
  obtain ⟨hlt, hitem⟩ := indexOf_eq_some hi
  have hmem : item ∈ pane.mapItem.map Prod.fst := by
    rw [h.keys]
    exact List.mem_map.2 ⟨_, List.getElem_mem hlt, hitem⟩
  obtain ⟨entry, hentry, hfst⟩ := List.mem_map.1 hmem
  obtain ⟨key, hkey⟩ := Option.isSome_iff_exists.1
    (List.lookup_isSome_iff.2 ⟨entry, hentry, beq_iff_eq.2 hfst.symm⟩)
  rw [rowClick, hi]
  simp only [onItemClick, hkey]
  cases hl : pane.lastSelectedItem with
  | none =>
    apply selectItem_painted _ hlt
    exact (congrArg (List.map _) (h.unpainted hl)).trans (paint_rows item)
  | some last =>
    apply selectItem_painted _ hlt
    exact (congrArg (List.map _) (h.restored hl)).trans (paint_rows item)

theorem Kept.paint (h : pane.Kept n) (hm : item ∈ pane.rows.map ListItem.item) :
    (pane.paint item).Kept n where
  nodup := by
    simpa only [ListPane.paint, List.map_map, Function.comp_def] using h.nodup
  fresh := by
    intro row hr
    obtain ⟨row₀, hr₀, rfl⟩ := List.mem_map.1 hr
    exact h.fresh row₀ hr₀
  keys := by
    simpa only [ListPane.paint, List.map_map, Function.comp_def] using h.keys
  origin := by
    simpa only [ListPane.paint, List.isEmpty_map] using h.origin
  colors := by
    intro row hr
    obtain ⟨row₀, hr₀, rfl⟩ := List.mem_map.1 hr
    by_cases hi : row₀.item = item
    · simp [ListPane.paint, hi]
    · simp [ListPane.paint, hi, Ne.symm hi]
  last := by
    intro item' hl
    cases hl
    simpa only [ListPane.paint, List.map_map, Function.comp_def] using hm
  bound := by
    simpa only [ListPane.paint, List.length_map] using h.bound

end Kept

end ListPane

structure InfoLists where
  adapterInfo : ListPane UiAdapterInfo UInt32 := {}
  dnsInfo : ListPane UiDnsInfo WString := {}
  nextItem : Nat := 0

inductive MouseButton where
  | left
  | right
  deriving DecidableEq, Repr

/-- What can happen to the lists. A refresh clears its list and later adds the rows. -/
inductive ListEvent where
  | buttonDown (button : MouseButton) (item : Nat)
  | adapterKeyDown (key : VirtualKey)
  | dnsKeyDown (key : VirtualKey)
  | clearAdapterInfo
  | clearDnsInfo
  | addAdapterInfo (info : UiAdapterInfo)
  | addDnsInfo (info : UiDnsInfo)

namespace InfoLists

/-- A row handles both mouse buttons alike. -/
def step (s : InfoLists) : ListEvent → InfoLists
  | .buttonDown _ item => { s with
      adapterInfo := s.adapterInfo.rowClick item
      dnsInfo := s.dnsInfo.rowClick item }
  | .adapterKeyDown key => { s with adapterInfo := s.adapterInfo.onKeyDown key }
  | .dnsKeyDown key => { s with dnsInfo := s.dnsInfo.onKeyDown key }
  | .clearAdapterInfo => { s with adapterInfo := s.adapterInfo.clear }
  | .clearDnsInfo => { s with dnsInfo := s.dnsInfo.clear }
  | .addAdapterInfo info => { s with
      adapterInfo := s.adapterInfo.addRow s.nextItem info info.id
      nextItem := s.nextItem + 1 }
  | .addDnsInfo info => { s with
      dnsInfo := s.dnsInfo.addRow s.nextItem info info.strVip
      nextItem := s.nextItem + 1 }

def run (events : List ListEvent) : InfoLists := events.foldl step {}

def Highlighted (s : InfoLists) : Prop := s.adapterInfo.Highlighted ∧ s.dnsInfo.Highlighted

def Kept (s : InfoLists) : Prop :=
  s.adapterInfo.Kept s.nextItem ∧ s.dnsInfo.Kept s.nextItem

end InfoLists

/-- A navigation key finds the list empty or its last row selected already. -/
def ListPane.KeyHarmless (pane : ListPane ν κ) (key : VirtualKey) : Prop :=
  key.navigates = true → pane.rows = [] ∨ pane.curSel = some (pane.rows.length - 1)

def KeyHarmless (s : InfoLists) : ListEvent → Prop
  | .adapterKeyDown key => s.adapterInfo.KeyHarmless key
  | .dnsKeyDown key => s.dnsInfo.KeyHarmless key
  | _ => True

section Runs

namespace ListPane

variable {pane : ListPane ν κ} {n item : Nat}

theorem Kept.rowClick (h : pane.Kept n) (item : Nat) : (pane.rowClick item).Kept n := by
  cases hi : pane.indexOf item with
  | none =>
    rw [ListPane.rowClick, hi]
    exact h
  | some index =>
    rw [h.rowClick_eq hi]
    obtain ⟨hlt, hitem⟩ := indexOf_eq_some hi
    have hp := h.paint (List.mem_map.2 ⟨_, List.getElem_mem hlt, hitem⟩)
    have hbound : ∀ i, some index = some i → i < (pane.paint item).rows.length := by
      intro i he
      cases he
      simpa only [ListPane.paint, List.length_map] using hlt
    exact { hp with bound := hbound }

theorem Kept.onKeyDown (h : pane.Kept n) (key : VirtualKey) : (pane.onKeyDown key).Kept n := by
  rw [onKeyDown_eq]
  split
  · exact h.selectItem _
  · exact h

theorem Kept.rowClick_curItem (h : pane.Kept n)
    (he : pane.lastSelectedItem = pane.curItem) (item : Nat) :
    (pane.rowClick item).lastSelectedItem = (pane.rowClick item).curItem := by
  cases hi : pane.indexOf item with
  | none =>
    rw [ListPane.rowClick, hi]
    exact he
  | some index =>
    rw [h.rowClick_eq hi]
    obtain ⟨hlt, hitem⟩ := indexOf_eq_some hi
    simp [curItem, ListPane.paint, hlt, hitem]

theorem Kept.addRow_curItem (h : pane.Kept n) (he : pane.lastSelectedItem = pane.curItem)
    (info : ν) (key : κ) :
    (pane.addRow n info key).lastSelectedItem = (pane.addRow n info key).curItem := by
  change pane.lastSelectedItem = _
  rw [he, curItem, curItem]
  change _ = (pane.curSel.bind fun i => (pane.rows ++ [_])[i]?).map _
  cases hs : pane.curSel with
  | none => rfl
  | some index =>
    rw [Option.bind_some, Option.bind_some, List.getElem?_append_left (h.bound index hs)]

theorem keyDown_curSel : pane.keyDown.curSel =
    if pane.rows = [] then none else some (pane.rows.length - 1) := by
  rw [keyDown, ListPane.selectItem]
  by_cases hr : pane.rows = []
  · simp [hr]
  · have hpos : pane.rows.length - 1 < pane.rows.length :=
      Nat.sub_lt (List.length_pos_iff.2 hr) Nat.one_pos
    simp [hr, hpos]

theorem Kept.onKeyDown_curItem_iff (h : pane.Kept n)
    (he : pane.lastSelectedItem = pane.curItem) (key : VirtualKey) :
    (pane.onKeyDown key).lastSelectedItem = (pane.onKeyDown key).curItem ↔
      pane.KeyHarmless key := by
  rw [onKeyDown_eq, KeyHarmless]
  cases key.navigates with
  | false => exact iff_of_true he fun h => nomatch h
  | true =>
    simp only [if_true, true_imp_iff]
    by_cases hr : pane.rows = []
    · have hc : pane.curSel = none := by
        cases hs : pane.curSel with
        | none => rfl
        | some index =>
          have hlt := h.bound index hs
          rw [hr] at hlt
          exact absurd hlt (Nat.not_lt_zero index)
      apply iff_of_true _ (.inl hr)
      change pane.lastSelectedItem = _
      rw [he]
      simp [curItem, hr, hc, keyDown_curSel]
    · have hpos : pane.rows.length - 1 < pane.rows.length :=
        Nat.sub_lt (List.length_pos_iff.2 hr) Nat.one_pos
      have hrows : pane.keyDown.rows = pane.rows := rfl
      have hnew : pane.keyDown.curItem =
          (pane.rows.map ListItem.item)[pane.rows.length - 1]? := by
        rw [curItem, keyDown_curSel, if_neg hr, Option.bind_some, hrows, List.getElem?_map]
      change pane.lastSelectedItem = _ ↔ _
      rw [he, hnew, or_iff_right hr]
      cases hs : pane.curSel with
      | none => simp [curItem, hs, hpos]
      | some index =>
        have hlt : index < (pane.rows.map ListItem.item).length := by
          rw [List.length_map]
          exact h.bound index hs
        rw [curItem, hs, Option.bind_some, ← List.getElem?_map, Option.some.injEq]
        exact List.getElem?_inj hlt h.nodup

end ListPane

namespace InfoLists

variable {s : InfoLists}

theorem kept_step (h : s.Kept) (e : ListEvent) : (s.step e).Kept := by
  obtain ⟨ha, hd⟩ := h
  cases e with
  | buttonDown button item => exact ⟨ha.rowClick item, hd.rowClick item⟩
  | adapterKeyDown key => exact ⟨ha.onKeyDown key, hd⟩
  | dnsKeyDown key => exact ⟨ha, hd.onKeyDown key⟩
  | clearAdapterInfo => exact ⟨ListPane.kept_empty _, hd⟩
  | clearDnsInfo => exact ⟨ha, ListPane.kept_empty _⟩
  | addAdapterInfo info => exact ⟨ha.addRow info info.id, hd.mono (Nat.le_succ _)⟩
  | addDnsInfo info => exact ⟨ha.mono (Nat.le_succ _), hd.addRow info info.strVip⟩

theorem kept_run (events : List ListEvent) : (run events).Kept := by
  have hfold (s : InfoLists) (h : s.Kept) : (events.foldl step s).Kept := by
    induction events generalizing s with
    | nil => exact h
    | cons e events ih => exact ih (s.step e) (kept_step h e)
  exact hfold {} ⟨ListPane.kept_empty _, ListPane.kept_empty _⟩

theorem highlighted_step_iff (hk : s.Kept) (h : s.Highlighted) (e : ListEvent) :
    (s.step e).Highlighted ↔ KeyHarmless s e := by
  obtain ⟨ha, hd⟩ := hk
  obtain ⟨ha', hd'⟩ := kept_step ⟨ha, hd⟩ e
  obtain ⟨hha, hhd⟩ := h
  cases e with
  | buttonDown button item =>
    apply iff_of_true _ trivial
    exact ⟨ha'.highlighted_iff_eq.2 (ha.rowClick_curItem hha.remembered item),
      hd'.highlighted_iff_eq.2 (hd.rowClick_curItem hhd.remembered item)⟩
  | adapterKeyDown key =>
    apply (and_iff_left hhd).trans
    rw [ha'.highlighted_iff_eq]
    exact ha.onKeyDown_curItem_iff hha.remembered key
  | dnsKeyDown key =>
    apply (and_iff_right hha).trans
    rw [hd'.highlighted_iff_eq]
    exact hd.onKeyDown_curItem_iff hhd.remembered key
  | clearAdapterInfo =>
    exact iff_of_true ⟨ha'.highlighted_iff_eq.2 rfl, hhd⟩ trivial
  | clearDnsInfo =>
    exact iff_of_true ⟨hha, hd'.highlighted_iff_eq.2 rfl⟩ trivial
  | addAdapterInfo info =>
    apply iff_of_true _ trivial
    exact ⟨ha'.highlighted_iff_eq.2 (ha.addRow_curItem hha.remembered info info.id), hhd⟩
  | addDnsInfo info =>
    apply iff_of_true _ trivial
    exact ⟨hha, hd'.highlighted_iff_eq.2 (hd.addRow_curItem hhd.remembered info info.strVip)⟩

theorem highlighted_empty : Highlighted {} :=
  ⟨(ListPane.kept_empty 0).highlighted_iff_eq.2 rfl,
    (ListPane.kept_empty 0).highlighted_iff_eq.2 rfl⟩

theorem run_append (events : List ListEvent) (e : ListEvent) :
    run (events ++ [e]) = (run events).step e := by
  rw [run, List.foldl_append]
  rfl

/-- What is highlighted is what is selected at every moment of a sequence of events, exactly
when no key press of it moves the selection. -/
theorem highlighted_iff (events : List ListEvent) :
    (∀ seen, seen <+: events → (run seen).Highlighted) ↔
      ∀ seen e, seen ++ [e] <+: events → KeyHarmless (run seen) e := by
  apply Iff.intro
  · intro h seen e hp
    rw [← highlighted_step_iff (kept_run seen) (h seen ((List.prefix_append seen [e]).trans hp)),
      ← run_append]
    exact h _ hp
  · intro h seen hp
    induction seen using List.reverseRecOn with
    | nil => exact highlighted_empty
    | append_singleton seen e ih =>
      rw [run_append, highlighted_step_iff (kept_run seen)
        (ih ((List.prefix_append seen [e]).trans hp))]
      exact h seen e hp

theorem not_highlighted_key : ¬∀ events, (run events).Highlighted := by
  intro h
  have hr := (h [.clearAdapterInfo, .addAdapterInfo ⟨65537, wide "adapter", [], []⟩,
    .addAdapterInfo ⟨131074, wide "other adapter", [], []⟩, .buttonDown .left 0,
    .adapterKeyDown .down]).1.remembered
  exact absurd hr (by decide)

end InfoLists

end Runs

section Window

def Ui.lists (s : Ui) : InfoLists := ⟨s.adapterInfo, s.dnsInfo, s.nextItem⟩

def Action.listEvents : Action → List ListEvent
  | .clearAdapterInfo => [.clearAdapterInfo]
  | .clearDnsInfo => [.clearDnsInfo]
  | .addAdapterInfo info => [.addAdapterInfo info]
  | .addDnsInfo info => [.addDnsInfo info]
  | _ => []

theorem lists_perform (s : Ui) (a : Action) :
    (s.perform a).lists = a.listEvents.foldl InfoLists.step s.lists := by
  cases a <;> rfl

theorem lists_step {s : Ui} {i : UiStep} (h : s.step i = some s') :
    ∃ events, s'.lists = List.foldl InfoLists.step s.lists events := by
  cases i with
  | dispatch =>
    rw [Ui.step, Ui.dispatch] at h
    split at h
    · cases h
      exact ⟨[], rfl⟩
    · cases h
  | handle =>
    rw [Ui.step, Ui.handleNext] at h
    split at h
    · cases h
    · next a rest _ =>
      cases h
      exact ⟨a.listEvents, lists_perform _ a⟩
  | click button =>
    obtain ⟨_, h⟩ := Option.ite_none_right_eq_some.1 h
    cases h
    exact ⟨[], rfl⟩
  | rowClick item =>
    obtain ⟨_, h⟩ := Option.ite_none_right_eq_some.1 h
    cases h
    exact ⟨[.buttonDown .left item], rfl⟩
  | adapterKeyDown =>
    obtain ⟨_, h⟩ := Option.ite_none_right_eq_some.1 h
    cases h
    refine ⟨[.adapterKeyDown .endKey], ?_⟩
    simp only [List.foldl_cons, List.foldl_nil, InfoLists.step, ListPane.onKeyDown_eq]
    rfl
  | dnsKeyDown =>
    obtain ⟨_, h⟩ := Option.ite_none_right_eq_some.1 h
    cases h
    refine ⟨[.dnsKeyDown .endKey], ?_⟩
    simp only [List.foldl_cons, List.foldl_nil, InfoLists.step, ListPane.onKeyDown_eq]
    rfl
  | notice =>
    cases h
    exact ⟨[], rfl⟩
  | returns i outcome =>
    rw [Ui.step, Ui.returns] at h
    split at h
    · cases h
      exact ⟨[], rfl⟩
    · cases h
  | work i =>
    rw [Ui.step, Ui.work] at h
    split at h
    · next op outcome a rest _ =>
      cases h
      exact ⟨a.listEvents, lists_perform _ a⟩
    · cases h

theorem lists_reachable (h : uiSystem.Reachable C s) :
    ∃ events, s.lists = InfoLists.run events := by
  induction h with
  | initial hi =>
    cases hi
    exact ⟨[], rfl⟩
  | step _ _ hs ih =>
    obtain ⟨events, he⟩ := ih
    obtain ⟨more, hm⟩ := lists_step hs
    refine ⟨events ++ more, ?_⟩
    rw [hm, he, InfoLists.run, InfoLists.run, List.foldl_append]

end Window

end LdnsSelector
