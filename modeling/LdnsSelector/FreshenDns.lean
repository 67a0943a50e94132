import LdnsSelector.AutoSelectRuns
import LdnsSelector.IpFetcher
import LdnsSelector.Ui
import Mathlib.Algebra.Group.Nat.Defs

set_option autoImplicit true

namespace LdnsSelector

open Prog

/-- What a row shows in place of the time of a failed ping. -/
def strTimeOut : WString := [0x8D85, 0x65F6]

def strPingTMs : Option UInt32 → WString
  | some timeMs => toWstring timeMs ++ wide "ms"
  | none => strTimeOut

/-- The loop over the vips of one view. Failed pings count up from `timeOut`. -/
def freshenView : List (WString × WString) → UInt32 → List (UInt32 × UiDnsInfo) →
    Selector (List (UInt32 × UiDnsInfo))
  | [], _, vec => return vec
  | (strVip, strUptime) :: items, timeOut, vec => do
    match ← pingTime strVip with
    | some timeMs =>
      freshenView items timeOut
        (vec ++ [(timeMs, ⟨strVip, strUptime, strPingTMs (some timeMs)⟩)])
    | none =>
      freshenView items (timeOut + 1) (vec ++ [(timeOut, ⟨strVip, strUptime, strPingTMs none⟩)])

def freshenViews (layout : Layout) : List (WString × VipMap) → List (UInt32 × UiDnsInfo) →
    Selector (List (UInt32 × UiDnsInfo))
  | [], vec => return vec
  | (_, items) :: views, vec => do
    let vec ← freshenView (layout.walk items) timeOut vec
    freshenViews layout views vec

def timeKey (tp : UInt32 × UiDnsInfo) : Nat := tp.1.toNat

/-- `dns_selector::on_freshen_dns_info`, without the time that it takes. -/
def freshenDnsInfo (layout : Layout) (sorter : StdSort timeKey) :
    Selector (Result × List UiDnsInfo) := do
  let (res, mapDnsInfo) ← fetchDnsInfo ∅
  if res ≠ .success then return (res, (sorter.sort []).map Prod.snd)
  else
    let vec ← freshenViews layout (layout.walk mapDnsInfo) []
    return (.success, (sorter.sort vec).map Prod.snd)

structure Entry where
  strViewName : WString
  strVip : WString
  strUptime : WString
  deriving DecidableEq, Repr

def entries (layout : Layout) (m : DnsMap) : List Entry :=
  (layout.walk m).flatMap fun view =>
    (layout.walk view.2).map fun item => ⟨view.1, item.1, item.2⟩

def Entry.StoredIn (e : Entry) (m : DnsMap) : Prop :=
  ∃ mapVipUptime : VipMap, m.lookup e.strViewName = some mapVipUptime ∧
    mapVipUptime.lookup e.strVip = some e.strUptime

def rowOf (x : Entry × Option UInt32) : UiDnsInfo :=
  ⟨x.1.strVip, x.1.strUptime, strPingTMs x.2⟩

structure Sample where
  entry : Entry
  outcome : Option UInt32
  timeMs : UInt32

namespace Sample

def event (x : Sample) : Event Services := pinged (x.entry.strVip, x.outcome)

def timed (x : Sample) : UInt32 × UiDnsInfo := (x.timeMs, rowOf (x.entry, x.outcome))

/-- The time is the one of the ping, or else not below `timeOut`. -/
def Stamped (x : Sample) : Prop :=
  (∀ timeMs, x.outcome = some timeMs → x.timeMs = timeMs) ∧ (x.outcome = none → timeOut ≤ x.timeMs)

end Sample

structure Samples (es : List Entry) (tr : List (Event Services)) (xs : List Sample) : Prop where
  covers : xs.map Sample.entry = es
  events : tr = xs.map Sample.event
  stamped : ∀ x ∈ xs, x.Stamped

/-- A ping that succeeded was preceded by one that succeeded as fast. -/
def NoSlower (outcome outcome' : Option UInt32) : Prop :=
  ∀ timeMs', outcome' = some timeMs' → ∃ timeMs, outcome = some timeMs ∧ timeMs ≤ timeMs'

/-- The rows stand for the entries of the list, each once, by ascending time, with the failed
pings after the others. -/
structure Refreshed (m : DnsMap) (pings : List (Entry × Option UInt32)) (rows : List UiDnsInfo) :
    Prop where
  complete : ∀ e, e ∈ pings.map Prod.fst ↔ e.StoredIn m
  once : (pings.map fun x => (x.1.strViewName, x.1.strVip)).Nodup
  ranked : ∃ ranked : List (Entry × Option UInt32), ranked.Perm pings ∧ rows = ranked.map rowOf ∧
    ranked.Pairwise fun x x' => NoSlower x.2 x'.2

section Walks

variable {layout : Layout} {m : DnsMap}

theorem mem_walk_iff {m : UnorderedMap WString ν} :
    (k, v) ∈ layout.walk m ↔ m.lookup k = some v := by
  rw [(layout.perm m).mem_iff, ← Option.mem_def, AList.mem_lookup_iff]
  apply Iff.intro
  · intro hm
    obtain ⟨e, he, h⟩ := List.mem_map.1 hm
    cases h
    exact he
  · intro hm
    exact List.mem_map.2 ⟨_, hm, rfl⟩

theorem walk_keys_nodup (layout : Layout) (m : UnorderedMap WString ν) :
    ((layout.walk m).map Prod.fst).Nodup := by
  rw [((layout.perm m).map Prod.fst).nodup_iff, List.map_map]
  exact m.nodupKeys

theorem mem_entries_iff : e ∈ entries layout m ↔ e.StoredIn m := by
  apply Iff.intro
  · intro he
    obtain ⟨view, hview, he⟩ := List.mem_flatMap.1 he
    obtain ⟨item, hitem, rfl⟩ := List.mem_map.1 he
    exact ⟨view.2, mem_walk_iff.1 hview, mem_walk_iff.1 hitem⟩
  · intro h
    obtain ⟨vips, hview, hitem⟩ := h
    apply List.mem_flatMap.2
    exact ⟨(e.strViewName, vips), mem_walk_iff.2 hview,
      List.mem_map.2 ⟨(e.strVip, e.strUptime), mem_walk_iff.2 hitem, rfl⟩⟩

theorem entries_keys_nodup (layout : Layout) (m : DnsMap) :
    ((entries layout m).map fun e => (e.strViewName, e.strVip)).Nodup := by
  rw [entries, List.map_flatMap, List.nodup_flatMap]
  constructor
  · intro view _
    have hvips := (walk_keys_nodup layout view.2).map
      (Prod.mk_right_injective view.1)
    rw [List.map_map] at hvips ⊢
    exact hvips
  · have hnames := List.pairwise_map.1 (walk_keys_nodup layout m)
    apply hnames.imp
    intro view view' hne key hkey hkey'
    obtain ⟨e, he, rfl⟩ := List.mem_map.1 hkey
    obtain ⟨item, _, rfl⟩ := List.mem_map.1 he
    obtain ⟨e, he, hk⟩ := List.mem_map.1 hkey'
    obtain ⟨item', _, rfl⟩ := List.mem_map.1 he
    exact hne (Prod.mk.inj hk).1.symm

end Walks

section Pings

variable {layout : Layout} {m : DnsMap} {es es' : List Entry} {xs xs' : List Sample} {e : Entry}

theorem Samples.append (h : Samples es tr xs) (h' : Samples es' tr' xs') :
    Samples (es ++ es') (tr ++ tr') (xs ++ xs') where
  covers := by rw [List.map_append, h.covers, h'.covers]
  events := by rw [List.map_append, h.events, h'.events]
  stamped x hx := by
    rcases List.mem_append.1 hx with hx | hx
    · exact h.stamped x hx
    · exact h'.stamped x hx

theorem Samples.answered (e : Entry) (timeMs : UInt32) :
    Samples [e] [pinged (e.strVip, some timeMs)] [⟨e, some timeMs, timeMs⟩] where
  covers := rfl
  events := rfl
  stamped x hx := by
    obtain rfl := List.mem_singleton.1 hx
    exact ⟨fun _ he => Option.some.inj he, fun he => absurd he (Option.some_ne_none timeMs)⟩

theorem Samples.unanswered (e : Entry) (h : timeOut ≤ t) :
    Samples [e] [pinged (e.strVip, none)] [⟨e, none, t⟩] where
  covers := rfl
  events := rfl
  stamped x hx := by
    obtain rfl := List.mem_singleton.1 hx
    exact ⟨fun timeMs he => absurd he.symm (Option.some_ne_none timeMs), fun _ => h⟩

theorem timeOut_le_succ {t : UInt32} (h : timeOut ≤ t) (hroom : t.toNat + 1 < 2 ^ 32) :
    timeOut ≤ t + 1 ∧ (t + 1).toNat = t.toNat + 1 := by
  have hsucc : (t + 1).toNat = t.toNat + 1 := by
    rw [UInt32.toNat_add]
    exact Nat.mod_eq_of_lt hroom
  rw [UInt32.le_iff_toNat_le] at h ⊢
  omega

theorem freshenView_runs (strViewName : WString) (h : Runs (freshenView items t vec) tr o)
    (ht : timeOut ≤ t) (hroom : t.toNat + items.length < 2 ^ 32) :
    ∃ xs, Samples (items.map fun item => ⟨strViewName, item.1, item.2⟩) tr xs ∧
      o = .ok (vec ++ xs.map Sample.timed) := by
  induction items generalizing t vec tr with
  | nil =>
    obtain ⟨rfl, rfl⟩ := runs_ret_iff.1 h
    refine ⟨[], ⟨rfl, rfl, fun x hx => absurd hx List.not_mem_nil⟩, ?_⟩
    rw [List.map_nil, List.append_nil]
  | cons item items ih =>
    rw [List.length_cons] at hroom
    obtain ⟨answer, tr', rfl, h'⟩ := runs_perform_iff.1 h
    cases answer with
    | some timeMs =>
      obtain ⟨xs, hxs, rfl⟩ := ih h' ht (by omega)
      have hfirst := Samples.answered ⟨strViewName, item.1, item.2⟩ timeMs
      refine ⟨_, hfirst.append hxs, ?_⟩
      rw [List.map_append, List.append_assoc]
      rfl
    | none =>
      obtain ⟨ht', hsucc⟩ := timeOut_le_succ ht (by omega)
      obtain ⟨xs, hxs, rfl⟩ := ih h' ht' (by omega)
      have hfirst := Samples.unanswered ⟨strViewName, item.1, item.2⟩ ht
      refine ⟨_, hfirst.append hxs, ?_⟩
      rw [List.map_append, List.append_assoc]
      rfl

/-- Every view counts from `timeOut` again, so no view is longer than the whole list. -/
theorem freshenViews_runs (h : Runs (freshenViews layout views vec) tr o)
    (hroom : (views.flatMap fun view => layout.walk view.2).length < 2 ^ 31) :
    ∃ xs, Samples (views.flatMap fun view =>
        (layout.walk view.2).map fun item => ⟨view.1, item.1, item.2⟩) tr xs ∧
      o = .ok (vec ++ xs.map Sample.timed) := by
  induction views generalizing vec tr with
  | nil =>
    obtain ⟨rfl, rfl⟩ := runs_ret_iff.1 h
    refine ⟨[], ⟨rfl, rfl, fun x hx => absurd hx List.not_mem_nil⟩, ?_⟩
    rw [List.map_nil, List.append_nil]
  | cons view views ih =>
    rw [List.flatMap_cons, List.length_append] at hroom
    have hview : timeOut.toNat + (layout.walk view.2).length < 2 ^ 32 := by
      change 9999999 + _ < _
      omega
    rcases Runs.bind_inv h with ⟨ex, rfl, h₁⟩ | ⟨vec', tr₁, tr₂, rfl, h₁, h₂⟩
    · obtain ⟨_, _, ho⟩ := freshenView_runs view.1 h₁ (UInt32.le_refl _) hview
      cases ho
    · obtain ⟨xs, hxs, ho⟩ := freshenView_runs view.1 h₁ (UInt32.le_refl _) hview
      cases ho
      obtain ⟨xs', hxs', rfl⟩ := ih h₂ (by omega)
      rw [List.flatMap_cons]
      refine ⟨xs ++ xs', hxs.append hxs', ?_⟩
      rw [List.map_append, List.append_assoc]

theorem noSlower_of_le {x x' : Sample} (hx : x.Stamped) (hx' : x'.Stamped)
    (hquick : ∀ timeMs, x'.outcome = some timeMs → timeMs < timeOut)
    (hle : x.timeMs.toNat ≤ x'.timeMs.toNat) : NoSlower x.outcome x'.outcome := by
  intro timeMs' ho'
  have ht' := hx'.1 timeMs' ho'
  rw [ht'] at hle
  cases ho : x.outcome with
  | none =>
    have hlt := hquick timeMs' ho'
    have hge := hx.2 ho
    rw [UInt32.lt_iff_toNat_lt] at hlt
    rw [UInt32.le_iff_toNat_le] at hge
    omega
  | some timeMs =>
    refine ⟨timeMs, rfl, ?_⟩
    rw [hx.1 timeMs ho] at hle
    exact UInt32.le_iff_toNat_le.2 hle

theorem Samples.refreshed {sorter : StdSort timeKey} (h : Samples (entries layout m) tr xs)
    (hquick : ∀ strVip timeMs, pinged (strVip, some timeMs) ∈ tr → timeMs < timeOut) :
    Refreshed m (xs.map fun x => (x.entry, x.outcome))
      ((sorter.sort (xs.map Sample.timed)).map Prod.snd) := by
  have hentries : (xs.map fun x => (x.entry, x.outcome)).map Prod.fst = entries layout m := by
    rw [List.map_map]
    exact h.covers
  have hfast : ∀ x ∈ xs, ∀ timeMs, x.outcome = some timeMs → timeMs < timeOut := by
    intro x hx timeMs ho
    apply hquick x.entry.strVip
    rw [h.events, ← ho]
    exact List.mem_map_of_mem hx
  have hranking := sorter.ranking (xs.map Sample.timed)
  obtain ⟨ys, hp, hsort⟩ := hranking.exists_map
  constructor
  · intro e
    rw [hentries, mem_entries_iff]
  · have hkeys := entries_keys_nodup layout m
    rw [← hentries, List.map_map] at hkeys
    exact hkeys
  · refine ⟨ys.map fun x => (x.entry, x.outcome), hp.map _, ?_, ?_⟩
    · rw [hsort, List.map_map, List.map_map]
      rfl
    · have hordered := hranking.ordered
      rw [hsort, List.pairwise_map] at hordered
      rw [List.pairwise_map]
      apply hordered.imp_of_mem
      intro x x' hx hx' hle
      have hm := hp.mem_iff.1 hx
      have hm' := hp.mem_iff.1 hx'
      exact noSlower_of_le (h.stamped x hm) (h.stamped x' hm') (hfast x' hm') hle

theorem freshenDnsInfo_refreshed (layout : Layout) (sorter : StdSort timeKey)
    (h : Runs (freshenDnsInfo layout sorter) (fetched ∅ .success m :: tr) o)
    (hcount : (entries layout m).length < 2 ^ 31)
    (hquick : ∀ strVip timeMs, pinged (strVip, some timeMs) ∈ tr → timeMs < timeOut) :
    ∃ pings rows, o = .ok (.success, rows) ∧ pings.map Prod.fst = entries layout m ∧
      tr = pings.map (fun x => pinged (x.1.strVip, x.2)) ∧ Refreshed m pings rows := by
  obtain ⟨x, tr', he, h'⟩ := runs_perform_iff.1 h
  cases he
  have hroom : ((layout.walk m).flatMap fun view => layout.walk view.2).length < 2 ^ 31 := by
    rw [List.length_flatMap]
    rw [entries, List.length_flatMap] at hcount
    simpa using hcount
  rcases Runs.bind_inv h' with ⟨ex, rfl, h₁⟩ | ⟨vec, tr₁, tr₂, rfl, h₁, h₂⟩
  · obtain ⟨_, _, ho⟩ := freshenViews_runs h₁ hroom
    cases ho
  · obtain ⟨xs, hxs, ho⟩ := freshenViews_runs h₁ hroom
    cases ho
    obtain ⟨rfl, rfl⟩ := runs_ret_iff.1 h₂
    rw [List.append_nil] at hquick ⊢
    refine ⟨_, _, rfl, ?_, ?_, hxs.refreshed hquick⟩
    · rw [List.map_map]
      exact hxs.covers
    · rw [hxs.events, List.map_map]
      rfl

def twoViews : DnsMap :=
  let telecom : VipMap :=
    AList.insert (wide "192.0.2.1") (wide "1") (AList.insert (wide "192.0.2.2") (wide "2") ∅)
  let unicom : VipMap :=
    AList.insert (wide "192.0.2.1") (wide "3") (AList.insert (wide "192.0.2.3") (wide "4") ∅)
  AList.insert (wide "telecom") telecom (AList.insert (wide "unicom") unicom ∅)

def twoViewsPings : List (WString × Option UInt32) :=
  [(wide "192.0.2.1", none), (wide "192.0.2.2", some 30), (wide "192.0.2.1", some 20),
    (wide "192.0.2.3", none)]

theorem freshenDnsInfo_refreshed_twoViews : ∃ pings rows,
    (∃ rest, rows = ⟨wide "192.0.2.1", wide "3", wide "20ms"⟩ ::
      ⟨wide "192.0.2.2", wide "2", wide "30ms"⟩ :: rest) ∧
      pings.map Prod.fst = entries .stored twoViews ∧ Refreshed twoViews pings rows := by
  have hrun : Runs (freshenDnsInfo .stored (.insertion _))
      (fetched ∅ .success twoViews :: twoViewsPings.map pinged) (.ok (.success,
        [⟨wide "192.0.2.1", wide "3", wide "20ms"⟩, ⟨wide "192.0.2.2", wide "2", wide "30ms"⟩,
          ⟨wide "192.0.2.1", wide "1", strTimeOut⟩, ⟨wide "192.0.2.3", wide "4", strTimeOut⟩])) :=
    runs_of_replay (by decide)
  have hall : ∀ e ∈ twoViewsPings, e.2.all (· < timeOut) = true := by decide
  obtain ⟨pings, rows, ho, hentries, _, hrefreshed⟩ :=
    freshenDnsInfo_refreshed .stored (.insertion _) hrun (by decide) (by
      intro strVip timeMs hm
      obtain ⟨⟨strVip', outcome⟩, he, heq⟩ := List.mem_map.1 hm
      cases heq
      exact of_decide_eq_true (hall _ he))
  cases ho
  exact ⟨pings, _, ⟨_, rfl⟩, hentries, hrefreshed⟩

end Pings

end LdnsSelector
