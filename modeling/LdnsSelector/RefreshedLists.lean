import LdnsSelector.ListSelection
import LdnsSelector.NeverLocked
import Mathlib.Algebra.Order.Group.Multiset

set_option autoImplicit true

namespace LdnsSelector

open TransitionSystem

/-- One of the two lists of the window. -/
inductive Pane where
  | adapter
  | dns
  deriving DecidableEq, Repr

namespace Pane

abbrev Info : Pane → Type
  | .adapter => UiAdapterInfo
  | .dns => UiDnsInfo

def refresh : Pane → Operation
  | .adapter => .freshenAdapterInfo
  | .dns => .freshenDnsInfo

def clear : Pane → Action
  | .adapter => .clearAdapterInfo
  | .dns => .clearDnsInfo

def infos : (p : Pane) → Ui → List p.Info
  | .adapter, s => s.adapterInfo.rows.map ListItem.info
  | .dns, s => s.dnsInfo.rows.map ListItem.info

def items : Pane → Ui → List Nat
  | .adapter, s => s.adapterInfo.rows.map ListItem.item
  | .dns, s => s.dnsInfo.rows.map ListItem.item

/-- The keys of `m_map_adapter_item_index` or `m_map_dns_item_ip`. -/
def keys : Pane → Ui → List Nat
  | .adapter, s => s.adapterInfo.mapItem.map Prod.fst
  | .dns, s => s.dnsInfo.mapItem.map Prod.fst

def added : (p : Pane) → Action → List p.Info
  | .adapter, .addAdapterInfo info => [info]
  | .dns, .addDnsInfo info => [info]
  | _, _ => []

def filled : (p : Pane) → Task → List p.Info
  | .adapter, .fillAdapterInfo infos => infos
  | .dns, .fillDnsInfo infos => infos
  | _, _ => []

def result : (p : Pane) → Outcome → List p.Info
  | .adapter, .freshenedAdapterInfo infos => infos
  | .dns, .freshenedDnsInfo infos => infos
  | _, _ => []

def fills : Pane → Task → Bool
  | .adapter, .fillAdapterInfo _ => true
  | .dns, .fillDnsInfo _ => true
  | _, _ => false

def brings : Pane → Action → Bool
  | p, .post task => p.fills task
  | .adapter, .addAdapterInfo _ => true
  | .dns, .addDnsInfo _ => true
  | _, _ => false

def starting (p : Pane) (l : List Action) : Bool := p.clear ∉ l ∧ .spawn p.refresh ∈ l

def bringing (p : Pane) (l : List Action) : Bool := l.any p.brings

end Pane

def Worker.started : Worker → Operation × Option Outcome
  | .running op => (op, none)
  | .finishing op outcome _ => (op, some outcome)

def Worker.rest : Worker → List Action
  | .running _ => []
  | .finishing _ _ rest => rest

namespace Ui

def started (s : Ui) : List (Operation × Option Outcome) := s.workers.map Worker.started

def scripts (s : Ui) : List (List Action) := s.handling :: s.workers.map Worker.rest

def nextAction (s : Ui) : UiStep → Option Action
  | .handle => s.handling.head?
  | .work i => (s.workers[i]?).bind fun w => w.rest.head?
  | _ => none

end Ui

namespace Pane

variable (p : Pane)

/-- What the most recently started refresh of the list came to. -/
def lastResult (started : List (Operation × Option Outcome)) : List p.Info :=
  started.foldl (fun last e => if e.1 = p.refresh then (e.2.map p.result).getD [] else last) []

/-- A refresh of the list is under way: it has cleared the list, and its rows are not all in. -/
def Refreshing (s : Ui) : Prop :=
  (p.refresh, none) ∈ s.started ∨
    (∃ l ∈ s.scripts, p.starting l = true ∨ p.bringing l = true) ∨
    ∃ task ∈ s.queue, p.fills task = true

instance (s : Ui) : Decidable (p.Refreshing s) := inferInstanceAs (Decidable (_ ∨ _ ∨ _))

/-- The list shows the result of its last refresh, each entry once, and its map has the rows
of the list as keys. -/
structure Refreshed (s : Ui) : Prop where
  rows : (p.infos s).Perm (p.lastResult s.started)
  keys : p.keys s = p.items s
  nodup : (p.keys s).Nodup

end Pane

/-- A list is cleared for a refresh only when no refresh of it is under way. -/
def StartsAlone (s : Ui) (i : UiStep) : Prop :=
  ∀ p : Pane, s.nextAction i = some p.clear → ¬p.Refreshing s

def toCome (p : Pane) : Weighing (Multiset p.Info) where
  running _ := 0
  returned _ := 0
  task t := p.filled t
  own a := p.added a

def scriptSum (f : List Action → Nat) (s : Ui) : Nat :=
  f s.handling + (s.workers.map fun w => f w.rest).sum

namespace Pane

variable (p : Pane)

def starts (s : Ui) : Nat := scriptSum (fun l => (p.starting l).toNat) s

def bringers (s : Ui) : Nat := scriptSum (fun l => (p.bringing l).toNat) s + s.queue.countP p.fills

def runs (s : Ui) : Nat := s.started.count (p.refresh, none)

/-- A thread clears the list only to start one refresh of it next, and a refresh ends with the
rows it brings. -/
def Orderly : List Action → Prop
  | [] => True
  | a :: rest =>
    (a = p.clear → p.starting rest = true ∧ p.bringing rest = false) ∧
    (a = .spawn p.refresh → p.clear ∉ rest ∧ .spawn p.refresh ∉ rest ∧ p.bringing rest = false) ∧
    (∀ task, a = .post task → p.fills task = true → p.bringing rest = false) ∧
    Orderly rest

/-- At most one refresh of the list is under way. Until it is started the list is empty, and
from then on the rows in the list and those to come are its result. -/
structure Tidy (s : Ui) : Prop where
  orderly : ∀ l ∈ s.scripts, p.Orderly l
  alone : p.starts s + p.bringers s + p.runs s ≤ 1
  cleared : p.starts s ≠ 0 → p.infos s = [] ∧ (toCome p).total s = 0
  kept : p.starts s = 0 → ↑(p.infos s) + (toCome p).total s = ↑(p.lastResult s.started)
  latest : s.started.Pairwise fun e e' => e = (p.refresh, none) → e'.1 ≠ p.refresh

end Pane

def spawned : Action → List (Operation × Option Outcome)
  | .spawn op => [(op, none)]
  | _ => []

def posted : Action → List Task
  | .post task => [task]
  | _ => []

structure Performs (s : Ui) (a : Action) (rest : List Action) (s' : Ui) : Prop where
  mem : a :: rest ∈ s.scripts
  scripts : ∀ l ∈ s'.scripts, l = [] ∨ l = rest ∨ l ∈ s.scripts
  sum : ∀ f : List Action → Nat, f [] = 0 → scriptSum f s' + f (a :: rest) = scriptSum f s + f rest
  total : ∀ p, (toCome p).total s' + ↑(p.added a) = (toCome p).total s
  started : s'.started = s.started ++ spawned a
  queue : s'.queue = s.queue ++ posted a
  infos : ∀ p : Pane, p.infos s' = if a = p.clear then [] else p.infos s ++ p.added a

section Effects

variable {p : Pane}

theorem infos_perform (p : Pane) (s : Ui) (a : Action) :
    p.infos (s.perform a) = if a = p.clear then [] else p.infos s ++ p.added a := by
  cases p <;> cases a <;>
    simp [Pane.infos, Pane.clear, Pane.added, Ui.perform, ListPane.clear, ListPane.addRow]

theorem toCome_spent (p : Pane) (a : Action) : (toCome p).spent a = ↑(p.added a) := by
  cases p <;> cases a <;> rfl

theorem toCome_handle (p : Pane) (task : Task) :
    (toCome p).actions (handle task) = ↑(p.filled task) := by
  have hsum {α : Type} (f : α → Action) (l : List α) (g : α → Multiset p.Info)
      (hf : ∀ x, (toCome p).action (f x) = g x) :
      (toCome p).actions (l.map f ++ [enableUserOperation]) = (l.map g).sum := by
    induction l with
    | nil => cases p <;> rfl
    | cons x l ih => rw [List.map_cons, List.cons_append, Weighing.actions_cons, ih, hf]; rfl
  have hlog : (toCome p).action showlog = 0 := by
    cases p <;> rfl
  have hlist {α : Type} (l : List α) : (l.map fun x => ({x} : Multiset α)).sum = ↑l := by
    induction l with
    | nil => rfl
    | cons x l ih => rw [List.map_cons, List.sum_cons, ih]; rfl
  cases task with
  | fillAdapterInfo infos =>
    rw [handle, Weighing.actions_cons, hlog, zero_add]
    cases p with
    | adapter => exact (hsum _ infos _ fun _ => rfl).trans (hlist infos)
    | dns => exact (hsum _ infos (fun _ => 0) fun _ => rfl).trans (by simp [Pane.filled])
  | fillDnsInfo infos =>
    rw [handle, Weighing.actions_cons, hlog, zero_add]
    cases p with
    | adapter => exact (hsum _ infos (fun _ => 0) fun _ => rfl).trans (by simp [Pane.filled])
    | dns => exact (hsum _ infos _ fun _ => rfl).trans (hlist infos)
  | _ => cases p <;> rfl

theorem toCome_onClick (p : Pane) (s : Ui) (button : Button) :
    (toCome p).actions (onClick s button) = 0 := by
  cases button with
  | switchAdapterDns =>
    simp only [onClick, onSwitchAdapter]
    split <;> cases p <;> rfl
  | _ => cases p <;> rfl

theorem toCome_afterOperation (p : Pane) (op : Operation) (outcome : Outcome) :
    (toCome p).actions (afterOperation op outcome) =
      if op = p.refresh then ↑(p.result outcome) else 0 := by
  cases p <;> cases op <;> cases outcome <;>
    simp [afterOperation, onFreshenAdapterInfo, Weighing.action, toCome, Pane.refresh,
      Pane.result, Pane.filled, Pane.added]

theorem scripts_perform (s : Ui) (a : Action) (hl : l ∈ (s.perform a).scripts) :
    l = [] ∨ l ∈ s.scripts := by
  cases a with
  | spawn op =>
    simp only [Ui.perform, Ui.scripts, List.map_append, List.map_cons, List.map_nil,
      Worker.rest] at hl
    rcases List.mem_cons.1 hl with rfl | hl
    · exact .inr List.mem_cons_self
    · rcases List.mem_append.1 hl with hl | hl
      · exact .inr (List.mem_cons_of_mem _ hl)
      · exact .inl (List.mem_singleton.1 hl)
  | _ => exact .inr hl

theorem scriptSum_perform {f : List Action → Nat} (hf : f [] = 0) (s : Ui) (a : Action) :
    scriptSum f (s.perform a) = scriptSum f s := by
  cases a with
  | spawn op => simp [scriptSum, Ui.perform, Worker.rest, hf]
  | _ => rfl

theorem started_perform (s : Ui) (a : Action) :
    (s.perform a).started = s.started ++ spawned a := by
  cases a with
  | spawn op => simp [Ui.started, Ui.perform, spawned, Worker.started]
  | _ => exact (List.append_nil _).symm

theorem queue_perform (s : Ui) (a : Action) : (s.perform a).queue = s.queue ++ posted a := by
  cases a with
  | post task => rfl
  | _ => exact (List.append_nil _).symm

theorem performs_handleNext (h : s.handleNext = some s') :
    ∃ a rest, s.nextAction .handle = some a ∧ Performs s a rest s' := by
  have htotal (p : Pane) := Weighing.total_handleNext (w := toCome p) h
  rw [Ui.handleNext] at h
  split at h
  · cases h
  · next a rest hh =>
    cases h
    let s₁ : Ui := { s with handling := rest }
    refine ⟨a, rest, by rw [Ui.nextAction, hh]; rfl, ?_, ?_, ?_, ?_, ?_, ?_, ?_⟩
    · rw [Ui.scripts, hh]
      exact List.mem_cons_self
    · intro l hl
      rcases scripts_perform s₁ a hl with hl | hl
      · exact .inl hl
      · rcases List.mem_cons.1 hl with hl | hl
        · exact .inr (.inl hl)
        · exact .inr (.inr (List.mem_cons_of_mem _ hl))
    · intro f hf
      change scriptSum f (s₁.perform a) + _ = _
      rw [scriptSum_perform hf, scriptSum, scriptSum, hh]
      simp only [s₁]
      omega
    · intro p
      obtain ⟨a', rest', he, ht⟩ := htotal p
      rw [hh] at he
      cases he
      rw [← toCome_spent]
      exact ht
    · exact started_perform s₁ a
    · exact queue_perform s₁ a
    · intro p
      cases p <;> exact infos_perform _ s₁ a

theorem performs_work (h : s.work i = some s') :
    ∃ a rest, s.nextAction (.work i) = some a ∧ Performs s a rest s' := by
  have htotal (p : Pane) := Weighing.total_work (w := toCome p) h
  rw [Ui.work] at h
  split at h
  · next op outcome a rest hw =>
    cases h
    let s₁ : Ui := { s with workers := s.workers.set i (.finishing op outcome rest) }
    refine ⟨a, rest, by rw [Ui.nextAction, hw]; rfl, ?_, ?_, ?_, ?_, ?_, ?_, ?_⟩
    · exact List.mem_cons_of_mem _ (List.mem_map.2 ⟨_, List.mem_of_getElem? hw, rfl⟩)
    · intro l hl
      rcases scripts_perform s₁ a hl with hl | hl
      · exact .inl hl
      · right
        rcases List.mem_cons.1 hl with rfl | hl
        · exact .inr List.mem_cons_self
        · obtain ⟨w, hm, rfl⟩ := List.mem_map.1 hl
          rcases List.mem_or_eq_of_mem_set hm with hm | rfl
          · exact .inr (List.mem_cons_of_mem _ (List.mem_map_of_mem hm))
          · exact .inl rfl
    · intro f hf
      have hset := sum_map_set (f := fun w : Worker => f w.rest) hw (.finishing op outcome rest)
      change scriptSum f (s₁.perform a) + _ = _
      rw [scriptSum_perform hf, scriptSum, scriptSum]
      simp only [s₁, Worker.rest] at hset ⊢
      omega
    · intro p
      obtain ⟨op', outcome', a', rest', he, ht⟩ := htotal p
      rw [hw] at he
      cases he
      rw [← toCome_spent]
      exact ht
    · change (s₁.perform a).started = _
      rw [started_perform]
      congr 1
      exact map_set_of_eq hw rfl
    · exact queue_perform s₁ a
    · intro p
      cases p <;> exact infos_perform _ s₁ a
  · cases h

end Effects

section Counts

variable {p : Pane} {s : Ui}

theorem scriptSum_eq_zero_iff {b : List Action → Bool} :
    scriptSum (fun l => (b l).toNat) s = 0 ↔ ∀ l ∈ s.scripts, b l = false := by
  have hz (l : List Action) : (b l).toNat = 0 ↔ b l = false := by
    cases b l <;> simp
  simp only [scriptSum, Nat.add_eq_zero_iff, List.sum_eq_zero_iff, Ui.scripts, List.mem_cons,
    List.mem_map, forall_eq_or_imp, forall_exists_index, and_imp, forall_apply_eq_imp_iff₂, hz]

theorem not_refreshing_iff :
    ¬p.Refreshing s ↔ p.starts s + p.bringers s + p.runs s = 0 := by
  rw [Pane.starts, Pane.bringers, Pane.runs, Pane.Refreshing]
  simp only [Nat.add_eq_zero_iff, scriptSum_eq_zero_iff, List.countP_eq_zero, List.count_eq_zero,
    not_or, not_exists, not_and, Bool.not_eq_true]
  apply Iff.intro
  · intro ⟨hr, hs, hq⟩
    exact ⟨⟨fun l hl => (hs l hl).1, fun l hl => (hs l hl).2, hq⟩, hr⟩
  · intro ⟨⟨hs, hb, hq⟩, hr⟩
    exact ⟨hr, fun l hl => ⟨hs l hl, hb l hl⟩, hq⟩

theorem action_eq_zero (h : p.brings a = false) : (toCome p).action a = 0 := by
  cases a with
  | post task => cases p <;> cases task <;> first | rfl | cases h
  | _ => cases p <;> first | rfl | cases h

theorem actions_eq_zero {l : List Action} (h : p.bringing l = false) :
    (toCome p).actions l = 0 := by
  induction l with
  | nil => rfl
  | cons a l ih =>
    obtain ⟨ha, hl⟩ := Bool.or_eq_false_iff.1 h
    rw [Weighing.actions_cons, action_eq_zero ha, ih hl, add_zero]

theorem task_eq_zero (h : p.fills task = false) : (toCome p).task task = 0 := by
  cases p <;> cases task <;> first | rfl | cases h

theorem total_eq_zero (h : p.bringers s = 0) : (toCome p).total s = 0 := by
  obtain ⟨hs, hq⟩ := Nat.add_eq_zero_iff.1 h
  have hs := scriptSum_eq_zero_iff.1 hs
  have hw : (s.workers.map (toCome p).worker).sum = 0 := by
    apply List.sum_eq_zero
    intro x hx
    obtain ⟨w, hm, rfl⟩ := List.mem_map.1 hx
    have hb := hs w.rest (List.mem_cons_of_mem _ (List.mem_map_of_mem hm))
    cases w with
    | running op => rfl
    | finishing op outcome rest => exact (zero_add _).trans (actions_eq_zero hb)
  have ht : (s.queue.map (toCome p).task).sum = 0 := by
    apply List.sum_eq_zero
    intro x hx
    obtain ⟨task, hm, rfl⟩ := List.mem_map.1 hx
    exact task_eq_zero (Bool.eq_false_iff.2 (List.countP_eq_zero.1 hq task hm))
  rw [Weighing.total, hw, ht, actions_eq_zero (hs _ List.mem_cons_self)]
  rfl

theorem lastResult_append {l l' : List (Operation × Option Outcome)}
    (h : ∀ e ∈ l', e.1 ≠ p.refresh) : p.lastResult (l ++ l') = p.lastResult l := by
  rw [Pane.lastResult, List.foldl_append, ← Pane.lastResult]
  induction l' with
  | nil => rfl
  | cons e l' ih =>
    rw [List.foldl_cons, if_neg (h e List.mem_cons_self)]
    exact ih fun e he => h e (List.mem_cons_of_mem _ he)

end Counts

section Performing

variable {p : Pane} {s s' : Ui} {a : Action} {rest : List Action}

theorem starting_clear (p : Pane) (rest : List Action) : p.starting (p.clear :: rest) = false := by
  simp [Pane.starting]

theorem starting_spawn (h : p.clear ∉ rest) : p.starting (.spawn p.refresh :: rest) = true := by
  have hne : p.clear ≠ .spawn p.refresh := by cases p <;> exact fun he => nomatch he
  simp [Pane.starting, h, hne]

theorem starting_cons (hc : a ≠ p.clear) (ha : a ≠ .spawn p.refresh) :
    p.starting (a :: rest) = p.starting rest := by
  simp [Pane.starting, hc.symm, ha.symm]

theorem brings_clear (p : Pane) : p.brings p.clear = false := by cases p <;> rfl

theorem brings_spawn (p : Pane) (op : Operation) : p.brings (.spawn op) = false := by
  cases p <;> rfl

theorem added_clear (p : Pane) : p.added p.clear = [] := by cases p <;> rfl

theorem added_spawn (p : Pane) (op : Operation) : p.added (.spawn op) = [] := by cases p <;> rfl

theorem spawned_clear (p : Pane) : spawned p.clear = [] := by cases p <;> rfl

theorem posted_clear (p : Pane) : posted p.clear = [] := by cases p <;> rfl

theorem runs_of_not_spawn (hp : Performs s a rest s') (ha : a ≠ .spawn p.refresh) :
    p.runs s' = p.runs s := by
  rw [Pane.runs, hp.started, List.count_append]
  cases a with
  | spawn op =>
    have hop : op ≠ p.refresh := fun he => ha (he ▸ rfl)
    simp [spawned, Pane.runs, hop]
  | _ => rfl

theorem bringers_le (hp : Performs s a rest s') (ho : p.Orderly (a :: rest)) :
    p.bringers s' ≤ p.bringers s := by
  have hsum := hp.sum (fun l => (p.bringing l).toNat) rfl
  have hcons : p.bringing (a :: rest) = (p.brings a || p.bringing rest) := rfl
  rw [Pane.bringers, Pane.bringers, hp.queue, List.countP_append]
  cases a with
  | post task =>
    cases hf : p.fills task with
    | true =>
      have hr := ho.2.2.1 task rfl hf
      have hb : p.brings (.post task) = true := by cases p <;> exact hf
      simp only [hcons, hb, hr, Bool.true_or, Bool.toNat_true, Bool.toNat_false] at hsum
      simp only [posted, List.countP_singleton, hf, if_true]
      omega
    | false =>
      have hb : p.brings (.post task) = false := by cases p <;> exact hf
      simp only [hcons, hb, Bool.false_or] at hsum
      simp only [posted, List.countP_singleton, hf, Bool.false_eq_true, if_false]
      omega
  | _ =>
    have hle : (p.bringing rest).toNat ≤ (p.bringing (_ :: rest)).toNat :=
      Bool.toNat_le_toNat fun hr => by rw [hcons, hr, Bool.or_true]
    simp only [posted, List.countP_nil]
    omega

theorem orderly_scripts (h : ∀ l ∈ s.scripts, p.Orderly l) (hp : Performs s a rest s') :
    ∀ l ∈ s'.scripts, p.Orderly l := by
  intro l hl
  rcases hp.scripts l hl with rfl | rfl | hl
  · trivial
  · exact (h _ hp.mem).2.2.2
  · exact h l hl

theorem tidy_clear (ht : p.Tidy s) (hp : Performs s p.clear rest s') (hr : ¬p.Refreshing s) :
    p.Tidy s' := by
  have hzero := not_refreshing_iff.1 hr
  obtain ⟨hstart, hbring⟩ := (ht.orderly _ hp.mem).1 rfl
  have hs := hp.sum (fun l => (p.starting l).toNat) rfl
  have hb := hp.sum (fun l => (p.bringing l).toNat) rfl
  have hcons : p.bringing (p.clear :: rest) = (p.brings p.clear || p.bringing rest) := rfl
  simp only [starting_clear, hstart, Bool.toNat_true, Bool.toNat_false] at hs
  simp only [hcons, brings_clear, hbring, Bool.or_self, Bool.toNat_false] at hb
  have hstarted : s'.started = s.started := by
    rw [hp.started, spawned_clear, List.append_nil]
  have hqueue : s'.queue = s.queue := by
    rw [hp.queue, posted_clear, List.append_nil]
  have hcome : (toCome p).total s' = 0 := by
    have htotal := hp.total p
    rw [added_clear, total_eq_zero (s := s) (by omega)] at htotal
    exact (add_zero _).symm.trans htotal
  simp only [Pane.starts, Pane.bringers, Pane.runs] at hzero
  refine ⟨orderly_scripts ht.orderly hp, ?_, ?_, ?_, hstarted ▸ ht.latest⟩
  · simp only [Pane.starts, Pane.bringers, Pane.runs, hstarted, hqueue]
    omega
  · intro _
    exact ⟨(hp.infos p).trans (if_pos rfl), hcome⟩
  · intro hn
    rw [Pane.starts] at hn
    omega

theorem tidy_spawn (ht : p.Tidy s) (hp : Performs s (.spawn p.refresh) rest s') : p.Tidy s' := by
  obtain ⟨hclear, hspawn, hbring⟩ := (ht.orderly _ hp.mem).2.1 rfl
  have hs := hp.sum (fun l => (p.starting l).toNat) rfl
  have hb := hp.sum (fun l => (p.bringing l).toNat) rfl
  have hcons : p.bringing (.spawn p.refresh :: rest) =
      (p.brings (.spawn p.refresh) || p.bringing rest) := rfl
  have hrest : p.starting rest = false := by simp [Pane.starting, hspawn]
  simp only [starting_spawn hclear, hrest, Bool.toNat_true, Bool.toNat_false] at hs
  simp only [hcons, brings_spawn, hbring, Bool.or_self, Bool.toNat_false] at hb
  have hstarted : s'.started = s.started ++ [(p.refresh, none)] := hp.started
  have hqueue : s'.queue = s.queue := hp.queue.trans (List.append_nil _)
  have halone := ht.alone
  have hpos : p.starts s ≠ 0 := by
    rw [Pane.starts]
    omega
  obtain ⟨hinfos, hcome⟩ := ht.cleared hpos
  have htotal := hp.total p
  rw [added_spawn, hcome] at htotal
  have hne : Action.spawn p.refresh ≠ p.clear := by cases p <;> exact fun he => nomatch he
  have hinfos' : p.infos s' = [] := by
    rw [hp.infos, if_neg hne, hinfos, added_spawn]
    rfl
  simp only [Pane.starts, Pane.bringers, Pane.runs] at halone
  refine ⟨orderly_scripts ht.orderly hp, ?_, ?_, ?_, ?_⟩
  · simp only [Pane.starts, Pane.bringers, Pane.runs, hstarted, hqueue, List.count_append,
      List.count_singleton_self]
    omega
  · intro hn
    rw [Pane.starts] at hn
    omega
  · intro _
    have hlast : p.lastResult s'.started = [] := by
      simp [hstarted, Pane.lastResult]
    rw [hinfos', hlast]
    exact (zero_add _).trans ((add_zero _).symm.trans htotal)
  · rw [hstarted]
    apply List.pairwise_append.2 ⟨ht.latest, List.pairwise_singleton _ _, ?_⟩
    intro e he e' _ hrun
    subst hrun
    have hcount := List.count_pos_iff.2 he
    omega

theorem tidy_other (ht : p.Tidy s) (hp : Performs s a rest s') (hc : a ≠ p.clear)
    (ha : a ≠ .spawn p.refresh) : p.Tidy s' := by
  have hs := hp.sum (fun l => (p.starting l).toNat) rfl
  rw [starting_cons hc ha] at hs
  have hstarts : p.starts s' = p.starts s := by
    rw [Pane.starts, Pane.starts]
    omega
  have hbring := bringers_le hp (ht.orderly _ hp.mem)
  have hruns := runs_of_not_spawn hp ha
  have halone := ht.alone
  have hinfos := (hp.infos p).trans (if_neg hc)
  have htotal := hp.total p
  have hspawned : ∀ e ∈ spawned a, e.1 ≠ p.refresh := by
    intro e he
    cases a with
    | spawn op =>
      rw [List.mem_singleton.1 he]
      exact fun hop => ha (hop ▸ rfl)
    | _ => cases he
  have hlast : p.lastResult s'.started = p.lastResult s.started := by
    rw [hp.started]
    exact lastResult_append hspawned
  refine ⟨orderly_scripts ht.orderly hp, by omega, ?_, ?_, ?_⟩
  · rw [hstarts]
    intro hn
    obtain ⟨hnil, hcome⟩ := ht.cleared hn
    rw [hcome] at htotal
    have hadded : p.added a = [] := by
      have hcard := congrArg Multiset.card htotal
      simp only [Multiset.card_add, Multiset.coe_card, Multiset.card_zero] at hcard
      exact List.length_eq_zero_iff.1 (by omega)
    rw [hadded] at htotal
    rw [hinfos, hnil, hadded]
    exact ⟨rfl, (add_zero _).symm.trans htotal⟩
  · rw [hstarts, hlast]
    intro hn
    rw [← ht.kept hn, ← htotal, hinfos, ← Multiset.coe_add]
    abel
  · rw [hp.started]
    apply List.pairwise_append.2 ⟨ht.latest, ?_, ?_⟩
    · cases a with
      | spawn op => exact List.pairwise_singleton _ _
      | _ => exact List.Pairwise.nil
    · intro e _ e' he' _
      exact hspawned e' he'

theorem tidy_performs (ht : p.Tidy s) (hp : Performs s a rest s')
    (hc : a = p.clear → ¬p.Refreshing s) : p.Tidy s' := by
  by_cases hclear : a = p.clear
  · subst hclear
    exact tidy_clear ht hp (hc rfl)
  · by_cases hspawn : a = .spawn p.refresh
    · subst hspawn
      exact tidy_spawn ht hp
    · exact tidy_other ht hp hclear hspawn

end Performing

section Steps

variable {p : Pane} {s s' : Ui}

theorem starting_afterOperation (p : Pane) (op : Operation) (outcome : Outcome) :
    p.starting (afterOperation op outcome) = false := by
  cases p <;> cases op <;> cases outcome <;>
    simp [Pane.starting, afterOperation, onFreshenAdapterInfo, Pane.clear, Pane.refresh]

theorem bringing_afterOperation (hop : op ≠ p.refresh) (outcome : Outcome) :
    p.bringing (afterOperation op outcome) = false := by
  cases p <;> cases op <;> cases outcome <;>
    first | rfl | exact absurd rfl hop

theorem orderly_afterOperation (p : Pane) (op : Operation) (outcome : Outcome) :
    p.Orderly (afterOperation op outcome) := by
  cases p <;> cases op <;> cases outcome <;>
    simp [Pane.Orderly, afterOperation, onFreshenAdapterInfo, Pane.clear, Pane.refresh,
      Pane.starting, Pane.bringing, Pane.brings, Pane.fills]

theorem starting_onClick (p : Pane) (s : Ui) (button : Button) :
    p.starting (onClick s button) = false := by
  cases button with
  | switchAdapterDns =>
    simp only [onClick, onSwitchAdapter]
    split <;> cases p <;> simp [Pane.starting, Pane.refresh]
  | _ => cases p <;> simp [onClick, onAutoDone, onFreshenAdapterInfo, onFreshenDnsInfo,
      Pane.starting, Pane.clear, Pane.refresh]

theorem bringing_onClick (p : Pane) (s : Ui) (button : Button) :
    p.bringing (onClick s button) = false := by
  cases button with
  | switchAdapterDns =>
    simp only [onClick, onSwitchAdapter]
    split <;> cases p <;> rfl
  | _ => cases p <;> rfl

theorem orderly_onClick (p : Pane) (s : Ui) (button : Button) :
    p.Orderly (onClick s button) := by
  cases button with
  | switchAdapterDns =>
    simp only [onClick, onSwitchAdapter]
    split <;> cases p <;> simp [Pane.Orderly, Pane.clear, Pane.refresh, Pane.fills]
  | _ => cases p <;> simp [onClick, onAutoDone, onFreshenAdapterInfo, onFreshenDnsInfo,
      Pane.Orderly, Pane.clear, Pane.refresh, Pane.starting, Pane.bringing, Pane.brings,
      Pane.fills]

theorem starting_handle (p : Pane) (task : Task) : p.starting (handle task) = false := by
  cases task <;> cases p <;> simp [handle, Pane.starting, Pane.refresh]

theorem bringing_handle (h : p.fills task = false) : p.bringing (handle task) = false := by
  cases task <;> cases p <;>
    simp_all [handle, Pane.bringing, Pane.brings, Pane.fills]

theorem orderly_handle (p : Pane) (task : Task) : p.Orderly (handle task) := by
  have hadd {α : Type} (f : α → Action) (hc : ∀ x, f x ≠ p.clear)
      (hs : ∀ x, f x ≠ .spawn p.refresh) (hp : ∀ x t, f x ≠ .post t) (l : List α) :
      p.Orderly (l.map f ++ [enableUserOperation]) := by
    induction l with
    | nil => cases p <;> simp [Pane.Orderly, Pane.clear, Pane.refresh, Pane.fills]
    | cons x l ih =>
      exact ⟨fun h => absurd h (hc x), fun h => absurd h (hs x), fun t h => absurd h (hp x t), ih⟩
  have hlog (l : List Action) (h : p.Orderly l) : p.Orderly (showlog :: l) := by
    cases p <;> simp [Pane.Orderly, Pane.clear, Pane.refresh, Pane.fills, h]
  cases task with
  | fillAdapterInfo infos =>
    apply hlog
    apply hadd <;> cases p <;> simp [Pane.clear, Pane.refresh]
  | fillDnsInfo infos =>
    apply hlog
    apply hadd <;> cases p <;> simp [Pane.clear, Pane.refresh]
  | initialized => cases p <;> simp [handle, Pane.Orderly, Pane.clear, Pane.refresh, Pane.fills]
  | _ => trivial

theorem scriptSum_input {f : List Action → Nat} (hf : f [] = 0) (hh : s.handling = [])
    (l : List Action) : scriptSum f { s with handling := l } = scriptSum f s + f l := by
  rw [scriptSum, scriptSum, hh, hf]
  exact (Nat.add_comm _ _).trans (congrArg (· + f l) (Nat.zero_add _).symm)

theorem infos_input (p : Pane) (s : Ui) (l : List Action) :
    p.infos { s with handling := l } = p.infos s := by
  cases p <;> rfl

theorem tidy_initWindow (p : Pane) : p.Tidy Ui.initWindow := by
  refine ⟨?_, ?_, ?_, ?_, ?_⟩
  · intro l hl
    simp only [Ui.initWindow, Ui.scripts, List.map_cons, List.map_nil, Worker.rest, List.mem_cons,
      List.not_mem_nil, or_false, or_self] at hl
    rw [hl]
    trivial
  · cases p <;> decide
  · cases p <;> exact fun h => absurd rfl h
  · cases p <;> exact fun _ => rfl
  · exact List.pairwise_singleton _ _

theorem tidy_click (ht : p.Tidy s) (hh : s.handling = []) (button : Button) :
    p.Tidy { s with handling := onClick s button } := by
  have hs := scriptSum_input (f := fun l => (p.starting l).toNat) rfl hh (onClick s button)
  have hb := scriptSum_input (f := fun l => (p.bringing l).toNat) rfl hh (onClick s button)
  have htotal := Weighing.total_input (w := toCome p) hh (onClick s button)
  simp only [starting_onClick, bringing_onClick, Bool.toNat_false, Nat.add_zero] at hs hb
  rw [toCome_onClick, add_zero] at htotal
  have hstarts : p.starts { s with handling := onClick s button } = p.starts s := hs
  have hbringers : p.bringers { s with handling := onClick s button } = p.bringers s :=
    congrArg (· + s.queue.countP p.fills) hb
  refine ⟨?_, ?_, ?_, ?_, ht.latest⟩
  · intro l hl
    rcases List.mem_cons.1 hl with rfl | hl
    · exact orderly_onClick p s button
    · exact ht.orderly l (List.mem_cons_of_mem _ hl)
  · rw [hstarts, hbringers]
    exact ht.alone
  · rw [hstarts, htotal, infos_input]
    exact ht.cleared
  · rw [hstarts, htotal, infos_input]
    exact ht.kept

theorem tidy_dispatch (ht : p.Tidy s) (h : s.dispatch = some s') : p.Tidy s' := by
  obtain ⟨task', _, hq', htotal⟩ := Weighing.total_dispatch (w := toCome p) h
  rw [Ui.dispatch] at h
  split at h
  · next task queue hh hq =>
    cases h
    obtain rfl : task' = task := (List.cons.inj (hq'.symm.trans hq)).1
    have hhandle := toCome_handle p task'
    have htask : (toCome p).task task' = ↑(p.filled task') := rfl
    rw [hhandle, htask, add_left_inj] at htotal
    have hs := scriptSum_input (f := fun l => (p.starting l).toNat) rfl hh (handle task')
    have hb := scriptSum_input (f := fun l => (p.bringing l).toNat) rfl hh (handle task')
    simp only [starting_handle, Bool.toNat_false, Nat.add_zero] at hs
    let s₁ : Ui := { s with
      queue := queue, handling := handle task', enabled := Ui.setEnabled s.enabled task' }
    have hstarts : p.starts s₁ = p.starts s := hs
    have hbringers : p.bringers s₁ ≤ p.bringers s := by
      have hsum : p.bringers s₁ = scriptSum (fun l => (p.bringing l).toNat) s +
          (p.bringing (handle task')).toNat + queue.countP p.fills :=
        congrArg (· + queue.countP p.fills) hb
      rw [hsum, Pane.bringers, hq, List.countP_cons]
      cases hf : p.fills task' with
      | true =>
        have := Bool.toNat_le (p.bringing (handle task'))
        simp only [if_true]
        omega
      | false =>
        rw [bringing_handle hf]
        simp only [Bool.toNat_false, Bool.false_eq_true, if_false]
        omega
    have hinfos : p.infos s₁ = p.infos s := by cases p <;> rfl
    have hruns : p.runs s₁ = p.runs s := rfl
    have halone := ht.alone
    change p.Tidy s₁
    refine ⟨?_, by omega, ?_, ?_, ht.latest⟩
    · intro l hl
      rcases List.mem_cons.1 hl with rfl | hl
      · exact orderly_handle p task'
      · exact ht.orderly l (List.mem_cons_of_mem _ hl)
    · rw [hstarts, htotal, hinfos]
      exact ht.cleared
    · rw [hstarts, htotal, hinfos]
      exact ht.kept
  · cases h

theorem infos_returns (p : Pane) (h : s.returns i outcome = some s') :
    p.infos s' = p.infos s := by
  rw [Ui.returns] at h
  split at h
  · cases h
    cases p <;> rfl
  · cases h

theorem lastResult_concat (l : List (Operation × Option Outcome)) (o : Option Outcome) :
    p.lastResult (l ++ [(p.refresh, o)]) = (o.map p.result).getD [] := by
  rw [Pane.lastResult, List.foldl_append]
  exact if_pos rfl

theorem lastResult_returns {pre post : List (Operation × Option Outcome)}
    (h : (pre ++ (p.refresh, none) :: post).Pairwise fun e e' =>
      e = (p.refresh, none) → e'.1 ≠ p.refresh) (o : Option Outcome) :
    p.lastResult (pre ++ (p.refresh, o) :: post) = (o.map p.result).getD [] := by
  have hpost := (List.pairwise_cons.1 (List.pairwise_append.1 h).2.1).1
  rw [List.append_cons, lastResult_append fun e he => hpost e he rfl, lastResult_concat]

theorem lastResult_other {pre post : List (Operation × Option Outcome)}
    (hop : op ≠ p.refresh) (o o' : Option Outcome) :
    p.lastResult (pre ++ (op, o) :: post) = p.lastResult (pre ++ (op, o') :: post) := by
  rw [Pane.lastResult, Pane.lastResult, List.foldl_append, List.foldl_append, List.foldl_cons,
    List.foldl_cons, if_neg hop, if_neg hop]

theorem latest_returns {pre post : List (Operation × Option Outcome)}
    (h : (pre ++ (op, none) :: post).Pairwise fun e e' =>
      e = (p.refresh, none) → e'.1 ≠ p.refresh) (outcome : Outcome) :
    (pre ++ (op, some outcome) :: post).Pairwise fun e e' =>
      e = (p.refresh, none) → e'.1 ≠ p.refresh := by
  obtain ⟨hpre, hcons, hcross⟩ := List.pairwise_append.1 h
  obtain ⟨_, hpost⟩ := List.pairwise_cons.1 hcons
  have hsome (e : Operation × Option Outcome) (_ : e ∈ post) :
      (op, some outcome) = (p.refresh, none) → e.1 ≠ p.refresh :=
    fun he => nomatch (Prod.mk.inj he).2
  apply List.pairwise_append.2 ⟨hpre, List.pairwise_cons.2 ⟨hsome, hpost⟩, ?_⟩
  intro e he e' he' hrun
  rcases List.mem_cons.1 he' with rfl | he'
  · exact hcross e he (op, none) List.mem_cons_self hrun
  · exact hcross e he e' (List.mem_cons_of_mem _ he') hrun

theorem returns_eq (h : s.returns i outcome = some s') (hw : s.workers[i]? = some (.running op)) :
    s' = { s with
      workers := s.workers.set i (.finishing op outcome (afterOperation op outcome)) } := by
  rw [Ui.returns, hw] at h
  cases h
  rfl

theorem scriptSum_returns {f : List Action → Nat} (hf : f [] = 0)
    (h : s.returns i outcome = some s') (hw : s.workers[i]? = some (.running op)) :
    scriptSum f s' = scriptSum f s + f (afterOperation op outcome) := by
  have hset := sum_map_set (f := fun w : Worker => f w.rest) hw
    (.finishing op outcome (afterOperation op outcome))
  change _ + f [] = _ + f (afterOperation op outcome) at hset
  rw [hf] at hset
  rw [returns_eq h hw]
  simp only [scriptSum]
  omega

theorem orderly_returns (ho : ∀ l ∈ s.scripts, p.Orderly l)
    (h : s.returns i outcome = some s') (hw : s.workers[i]? = some (.running op)) :
    ∀ l ∈ s'.scripts, p.Orderly l := by
  rw [returns_eq h hw]
  intro l hl
  rcases List.mem_cons.1 hl with rfl | hl
  · exact ho _ List.mem_cons_self
  · obtain ⟨w, hm, rfl⟩ := List.mem_map.1 hl
    rcases List.mem_or_eq_of_mem_set hm with hm | rfl
    · exact ho _ (List.mem_cons_of_mem _ (List.mem_map_of_mem hm))
    · exact orderly_afterOperation p op outcome

theorem started_returns (h : s.returns i outcome = some s')
    (hw : s.workers[i]? = some (.running op)) :
    ∃ pre post, s.started = pre ++ (op, none) :: post ∧
      s'.started = pre ++ (op, some outcome) :: post := by
  obtain ⟨hi, he⟩ := List.getElem?_eq_some_iff.1 hw
  obtain ⟨pre, post, h₁, _, h₂⟩ :
      ∃ pre post, s.workers = pre ++ s.workers[i] :: post ∧ pre.length = i ∧
        s.workers.set i (.finishing op outcome (afterOperation op outcome)) =
          pre ++ .finishing op outcome (afterOperation op outcome) :: post :=
    List.exists_of_set hi
  have hnow : s.started = pre.map Worker.started ++ (op, none) :: post.map Worker.started := by
    rw [Ui.started, h₁, he, List.map_append, List.map_cons]
    rfl
  have hthen : s'.started =
      pre.map Worker.started ++ (op, some outcome) :: post.map Worker.started := by
    rw [returns_eq h hw, Ui.started, h₂, List.map_append, List.map_cons]
    rfl
  exact ⟨_, _, hnow, hthen⟩

theorem runs_returns {pre post : List (Operation × Option Outcome)}
    (hpre : s.started = pre ++ (op, none) :: post)
    (hpost : s'.started = pre ++ (op, some outcome) :: post) :
    p.runs s = p.runs s' + [(op, (none : Option Outcome))].count (p.refresh, none) := by
  have hne : (op, some outcome) ≠ (p.refresh, none) := fun he =>
    Option.some_ne_none outcome (Prod.mk.inj he).2
  rw [Pane.runs, Pane.runs, hpre, hpost, List.count_append, List.count_append,
    List.count_cons_of_ne hne, ← List.singleton_append, List.count_append]
  omega

theorem tidy_returns (ht : p.Tidy s) (h : s.returns i outcome = some s') : p.Tidy s' := by
  obtain ⟨op, hw, htotal⟩ := Weighing.total_returns (w := toCome p) h
  rw [toCome_afterOperation] at htotal
  change (toCome p).total s' + 0 = (toCome p).total s + (0 + _) at htotal
  rw [add_zero, zero_add] at htotal
  have hinfos := infos_returns p h
  have horderly := orderly_returns ht.orderly h hw
  have hs := scriptSum_returns (f := fun l => (p.starting l).toNat) rfl h hw
  have hb := scriptSum_returns (f := fun l => (p.bringing l).toNat) rfl h hw
  simp only [starting_afterOperation, Bool.toNat_false, Nat.add_zero] at hs
  have hstarts : p.starts s' = p.starts s := hs
  have hqueue : s'.queue = s.queue := by
    rw [returns_eq h hw]
  have hbringers : p.bringers s' =
      p.bringers s + (p.bringing (afterOperation op outcome)).toNat := by
    rw [Pane.bringers, Pane.bringers, hb, hqueue]
    exact Nat.add_right_comm _ _ _
  obtain ⟨pre, post, hpre, hpost⟩ := started_returns h hw
  have hruns := runs_returns (p := p) hpre hpost
  have halone := ht.alone
  have hlatest := ht.latest
  rw [hpre] at hlatest
  by_cases hop : op = p.refresh
  · subst hop
    rw [List.count_singleton_self] at hruns
    rw [if_pos rfl, total_eq_zero (s := s) (by omega), zero_add] at htotal
    have hle := Bool.toNat_le (p.bringing (afterOperation p.refresh outcome))
    refine ⟨horderly, by omega, fun hn => absurd hstarts (by omega), ?_, ?_⟩
    · intro _
      have hkept := ht.kept (by omega)
      rw [total_eq_zero (s := s) (by omega), add_zero, hpre, lastResult_returns hlatest] at hkept
      rw [hinfos, htotal, hpost, lastResult_returns hlatest, hkept]
      exact zero_add _
    · rw [hpost]
      exact latest_returns hlatest outcome
  · rw [List.count_singleton, if_neg (by simpa using hop), Nat.add_zero] at hruns
    rw [if_neg hop, add_zero] at htotal
    rw [bringing_afterOperation hop, Bool.toNat_false, Nat.add_zero] at hbringers
    refine ⟨horderly, by omega, ?_, ?_, ?_⟩
    · rw [hstarts, htotal, hinfos]
      exact ht.cleared
    · rw [hstarts, htotal, hinfos, hpost, lastResult_other hop _ none, ← hpre]
      exact ht.kept
    · rw [hpost]
      exact latest_returns hlatest outcome

theorem tidy_input (ht : p.Tidy s) (hi : p.infos s' = p.infos s)
    (hs : s'.handling = s.handling) (hq : s'.queue.filter p.fills = s.queue.filter p.fills)
    (hw : s'.workers = s.workers) (htotal : (toCome p).total s' = (toCome p).total s) :
    p.Tidy s' := by
  have hsum (f : List Action → Nat) : scriptSum f s' = scriptSum f s := by
    rw [scriptSum, scriptSum, hs, hw]
  have hstarted : s'.started = s.started := congrArg (List.map Worker.started) hw
  have hstarts : p.starts s' = p.starts s := hsum _
  have hbringers : p.bringers s' = p.bringers s := by
    rw [Pane.bringers, Pane.bringers, hsum, List.countP_eq_length_filter, hq,
      List.countP_eq_length_filter]
  refine ⟨?_, ?_, ?_, ?_, hstarted ▸ ht.latest⟩
  · rw [Ui.scripts, hs, hw]
    exact ht.orderly
  · rw [hstarts, hbringers, Pane.runs, hstarted]
    exact ht.alone
  · rw [hstarts, htotal, hi]
    exact ht.cleared
  · rw [hstarts, htotal, hi, hstarted]
    exact ht.kept

theorem info_setBkColor (pane : ListPane ν κ) (item : Nat) (color : UInt32) :
    (pane.setBkColor item color).rows.map ListItem.info = pane.rows.map ListItem.info := by
  rw [ListPane.setBkColor, List.map_map]
  apply List.map_congr_left
  intro row _
  rw [Function.comp]
  split <;> rfl

theorem info_rowClick (pane : ListPane ν κ) (item : Nat) :
    (pane.rowClick item).rows.map ListItem.info = pane.rows.map ListItem.info := by
  rw [ListPane.rowClick]
  split
  · rfl
  · change (pane.onItemClick item).rows.map _ = _
    rw [ListPane.onItemClick]
    split
    · rfl
    · cases pane.lastSelectedItem with
      | none => exact info_setBkColor _ _ _
      | some last => exact (info_setBkColor _ _ _).trans (info_setBkColor _ _ _)

theorem tidy_notice (ht : p.Tidy s) : p.Tidy (s.perform showlog) := by
  apply tidy_input ht
  · cases p <;> rfl
  · rfl
  · rw [Ui.perform, List.filter_append]
    cases p <;> exact List.append_nil _
  · rfl
  · have htotal := Weighing.total_perform (w := toCome p) s showlog
    cases p <;> exact (add_zero _).symm.trans (htotal.trans (add_zero _))

theorem tidy_invariant : uiSystem.Invariant StartsAlone (fun s => ∀ p : Pane, p.Tidy s) where
  initial s hs := hs ▸ tidy_initWindow
  step s i s' ht hc h p := by
    cases i with
    | dispatch => exact tidy_dispatch (ht p) h
    | handle =>
      obtain ⟨a, rest, ha, hp⟩ := performs_handleNext h
      exact tidy_performs (ht p) hp fun he => hc p (he ▸ ha)
    | click button =>
      obtain ⟨hi, rfl⟩ : (s.Idle ∧ s.enabled = true) ∧
          { s with handling := onClick s button } = s' := by
        simpa [uiSystem, Ui.step] using h
      exact tidy_click (ht p) hi.1.2 button
    | rowClick item =>
      obtain ⟨_, rfl⟩ : s.Idle ∧ { s with
          adapterInfo := s.adapterInfo.rowClick item
          dnsInfo := s.dnsInfo.rowClick item } = s' := by
        simpa [uiSystem, Ui.step] using h
      refine tidy_input (ht p) ?_ rfl rfl rfl rfl
      cases p
      · exact info_rowClick _ _
      · exact info_rowClick _ _
    | adapterKeyDown =>
      obtain ⟨_, rfl⟩ : s.Idle ∧ { s with adapterInfo := s.adapterInfo.keyDown } = s' := by
        simpa [uiSystem, Ui.step] using h
      refine tidy_input (ht p) ?_ rfl rfl rfl rfl
      cases p <;> rfl
    | dnsKeyDown =>
      obtain ⟨_, rfl⟩ : s.Idle ∧ { s with dnsInfo := s.dnsInfo.keyDown } = s' := by
        simpa [uiSystem, Ui.step] using h
      refine tidy_input (ht p) ?_ rfl rfl rfl rfl
      cases p <;> rfl
    | notice =>
      cases h
      exact tidy_notice (ht p)
    | returns i outcome => exact tidy_returns (ht p) h
    | work i =>
      obtain ⟨a, rest, ha, hp⟩ := performs_work h
      exact tidy_performs (ht p) hp fun he => hc p (he ▸ ha)

end Steps

section Quiet

variable {p : Pane} {s : Ui}

theorem Quiescent.scripts_eq_nil (hq : Quiescent s) (hl : l ∈ s.scripts) : l = [] := by
  rcases List.mem_cons.1 hl with rfl | hl
  · exact hq.1.2
  · obtain ⟨w, hw, rfl⟩ := List.mem_map.1 hl
    have hdone := hq.2 w hw
    match w, hdone with
    | .finishing _ _ [], _ => rfl

theorem Quiescent.not_refreshing (hq : Quiescent s) : ¬p.Refreshing s := by
  intro h
  rcases h with hrun | ⟨l, hl, hb⟩ | ⟨task, ht, _⟩
  · obtain ⟨w, hw, he⟩ := List.mem_map.1 hrun
    have hdone := hq.2 w hw
    match w, hdone with
    | .finishing _ _ [], _ => cases he
  · rw [hq.scripts_eq_nil hl] at hb
    cases p <;> exact absurd hb (by decide)
  · rw [hq.1.1] at ht
    cases ht

theorem keys_eq_items (h : uiSystem.Reachable C s) :
    p.keys s = p.items s ∧ (p.items s).Nodup := by
  obtain ⟨events, he⟩ := lists_reachable h
  have hkept := InfoLists.kept_run events
  rw [← he] at hkept
  cases p with
  | adapter => exact ⟨hkept.1.keys, hkept.1.nodup⟩
  | dns => exact ⟨hkept.2.keys, hkept.2.nodup⟩

/-- In every run in which no list is cleared while a refresh of it is under way, the lists show
what their last refresh returned whenever nothing runs and nothing is posted. -/
theorem refreshed_of_quiescent (h : uiSystem.Reachable StartsAlone s) (hq : Quiescent s)
    (p : Pane) : p.Refreshed s := by
  have ht := tidy_invariant.reachable h p
  have hzero := not_refreshing_iff.1 (hq.not_refreshing (p := p))
  have hkept := ht.kept (by omega)
  rw [total_eq_zero (by omega), add_zero] at hkept
  obtain ⟨hkeys, hnodup⟩ := keys_eq_items (p := p) h
  exact ⟨Multiset.coe_eq_coe.1 hkept, hkeys, hkeys ▸ hnodup⟩

end Quiet

instance : DecidablePred (StartsAlone s) := fun i =>
  decidable_of_iff
    ((s.nextAction i = some (Pane.clear .adapter) → ¬Pane.Refreshing .adapter s) ∧
      (s.nextAction i = some (Pane.clear .dns) → ¬Pane.Refreshing .dns s))
    ⟨fun h p => match p with
      | .adapter => h.1
      | .dns => h.2, fun h => ⟨h .adapter, h .dns⟩⟩

def switchThenRefresh : List UiStep :=
  refreshAndSwitch ++
  [.returns 4 (.freshenedAdapterInfo [⟨65537, wide "adapter", wide "10.0.0.2", []⟩]), .work 4,
    .work 3, .work 3, .dispatch, .dispatch, .handle, .handle, .handle, .dispatch, .dispatch,
    .dispatch, .dispatch]

theorem refreshed_after_switch : ∃ s,
    uiSystem.exec StartsAlone Ui.initWindow switchThenRefresh = some s ∧
      ∀ p : Pane, p.Refreshed s := by
  have hr : (uiSystem.exec StartsAlone Ui.initWindow switchThenRefresh).any Quiescent := by
    decide
  obtain ⟨s, hs, hq⟩ := (Option.any_eq_true _ _).1 hr
  exact ⟨s, hs, refreshed_of_quiescent (.exec (.initial rfl) hs) (of_decide_eq_true hq)⟩

/-- The switch enables the buttons while its refresh is running. The next refresh clears the
list before the rows of the first one are in, and every adapter is listed twice. -/
theorem not_refreshed_overlapping :
    ¬∀ s, uiSystem.Reachable (fun _ _ => True) s → Quiescent s → ∀ p : Pane, p.Refreshed s := by
  intro h
  have hr : (uiSystem.exec (fun _ _ => True) Ui.initWindow
      (refreshAndSwitch ++ [.work 3, .work 3, .dispatch, .dispatch, .dispatch,
        .click .freshenAdapter, .handle, .handle, .handle, .dispatch,
        .returns 4 (.freshenedAdapterInfo [⟨65537, wide "adapter", wide "10.0.0.2", []⟩]), .work 4,
        .returns 5 (.freshenedAdapterInfo [⟨65537, wide "adapter", wide "10.0.0.2", []⟩]), .work 5,
        .dispatch, .handle, .handle, .handle, .dispatch, .handle, .handle, .handle, .dispatch,
        .dispatch, .dispatch, .dispatch])).any (fun s => Quiescent s ∧
          (Pane.infos .adapter s).length ≠ (Pane.lastResult .adapter s.started).length) := by
    decide
  obtain ⟨s, hs, hc⟩ := (Option.any_eq_true _ _).1 hr
  obtain ⟨hq, hne⟩ := of_decide_eq_true hc
  exact hne (h s (.exec (.initial rfl) hs) hq .adapter).rows.length_eq

end LdnsSelector
