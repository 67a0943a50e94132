import LdnsSelector.Accounting
import Mathlib.Algebra.Order.BigOperators.Group.List
import Mathlib.Algebra.Order.Group.Nat
import Mathlib.Algebra.GroupWithZero.Nat

set_option autoImplicit true

namespace LdnsSelector

open TransitionSystem

def Worker.operating : Worker → Bool
  | .running .onInitialize => false
  | .running _ => true
  | .finishing _ _ _ => false

/-- The user can press an operation button: input comes after the posted tasks, so the buttons
have to be enabled when none is left. -/
def AcceptsClicks (s : Ui) : Prop := s.Idle ∧ s.enabled = true

instance (s : Ui) : Decidable (AcceptsClicks s) := inferInstanceAs (Decidable (_ ∧ _))

/-- At most one operation runs, and none while the user can start another. -/
def Exclusive (s : Ui) : Prop :=
  (s.workers.filter Worker.operating).length ≤ 1 ∧
    (AcceptsClicks s → ∀ w ∈ s.workers, w.operating = false)

instance (s : Ui) : Decidable (Exclusive s) := inferInstanceAs (Decidable (_ ∧ (_ → _)))

section Counting

def Task.holds : Task → Nat
  | .initialized => 1
  | .fillAdapterInfo _ => 1
  | .fillDnsInfo _ => 1
  | _ => 0

def Action.spawns : Action → Nat
  | .spawn _ => 1
  | _ => 0

def Action.holds : Action → Nat
  | .post (.enableUserOperation true) => 1
  | .post task => task.holds
  | action => action.spawns

def switchSucceeded : Operation → Outcome → Bool
  | .switchDns _ _, .succeeded => true
  | _, _ => false

/-- After a successful switch it is the refresh it starts that holds the buttons, not the
worker's own last message. -/
def Action.holdsAfter (op : Operation) (outcome : Outcome) (action : Action) : Nat :=
  if switchSucceeded op outcome ∧ action = enableUserOperation then 0 else action.holds

def Worker.holds : Worker → Nat
  | .running _ => 1
  | .finishing op outcome rest => (rest.map (Action.holdsAfter op outcome)).sum

/-- The operations that are started and have still to post their last message, in a click that
is being handled or in a thread. -/
def underWay (s : Ui) : Nat :=
  (s.workers.map Worker.holds).sum + (s.handling.map Action.spawns).sum

def holders (s : Ui) : Nat :=
  (s.workers.map Worker.holds).sum + (s.handling.map Action.holds).sum +
    (s.queue.map Task.holds).sum

/-- The buttons once the posted tasks are done, and the disabling ones about to be posted. -/
def settled (s : Ui) : Bool :=
  if disableUserOperation ∈ s.handling then false else s.queue.foldl Ui.setEnabled s.enabled

/-- The worker of a successful switch waits with its message that enables the buttons until no
operation is under way. -/
def SwitchWaits (s : Ui) : UiStep → Prop
  | .work i =>
    match s.workers[i]? with
    | some (.finishing op outcome (action :: _)) =>
      switchSucceeded op outcome ∧ action = enableUserOperation → underWay s = 0
    | _ => True
  | _ => True

instance (s : Ui) (i : UiStep) : Decidable (SwitchWaits s i) := by
  unfold SwitchWaits
  split
  · split <;> infer_instance
  · infer_instance

/-- At most one message is to come that enables the buttons, and while an operation is under
way the last word on them is that they are disabled. -/
def Locked (s : Ui) : Prop := holders s ≤ 1 ∧ (underWay s ≠ 0 → settled s = false)

end Counting

section Perform

theorem underWay_perform (s : Ui) (action : Action) :
    underWay (s.perform action) = underWay s + action.spawns := by
  cases action <;>
    simp only [underWay, Ui.perform, Action.spawns, List.map_append, List.sum_append,
      List.map_cons, List.map_nil, List.sum_cons, List.sum_nil, Worker.holds] <;>
    omega

theorem holders_perform (s : Ui) (action : Action) :
    holders (s.perform action) + (if action = enableUserOperation then 1 else 0) =
      holders s + action.holds := by
  cases action with
  | post task =>
    cases task with
    | enableUserOperation enable =>
      cases enable <;> simp [holders, Ui.perform, Action.holds, Task.holds]
    | initialized => simp [holders, Ui.perform, Action.holds, Task.holds]; omega
    | fillAdapterInfo infos => simp [holders, Ui.perform, Action.holds, Task.holds]; omega
    | fillDnsInfo infos => simp [holders, Ui.perform, Action.holds, Task.holds]; omega
    | notice => simp [holders, Ui.perform, Action.holds, Task.holds]
  | spawn op =>
    simp [holders, Ui.perform, Action.holds, Action.spawns, Worker.holds]
    omega
  | _ => simp [holders, Ui.perform, Action.holds, Action.spawns]

theorem settled_perform (ha : action ≠ enableUserOperation)
    (h : settled s = false ∨ action = disableUserOperation) :
    settled (s.perform action) = false := by
  cases action with
  | post task =>
    rw [settled, Ui.perform]
    dsimp only
    split
    · rfl
    · next hd =>
      rw [List.foldl_append]
      cases task with
      | enableUserOperation enable =>
        cases enable with
        | false => rfl
        | true => exact absurd rfl ha
      | _ =>
        rcases h with h | h
        · rwa [settled, if_neg hd] at h
        · cases h
  | _ =>
    rcases h with h | h
    · exact h
    · cases h

theorem spawns_le_holds (action : Action) : action.spawns ≤ action.holds := by
  cases action <;> simp [Action.spawns, Action.holds]

theorem underWay_le_holders (s : Ui) : underWay s ≤ holders s := by
  have h : (s.handling.map Action.spawns).sum ≤ (s.handling.map Action.holds).sum :=
    List.sum_le_sum fun action _ => spawns_le_holds action
  rw [underWay, holders]
  omega

end Perform

section Steps

theorem locked_initWindow : Locked Ui.initWindow := ⟨by decide, fun _ => rfl⟩

theorem handle_spawns (task : Task) : ((handle task).map Action.spawns).sum = 0 := by
  cases task <;> simp [handle, Action.spawns, Function.comp_def]

theorem handle_holds (task : Task) : ((handle task).map Action.holds).sum = task.holds := by
  cases task <;> simp [handle, Action.holds, Action.spawns, Task.holds, Function.comp_def]

theorem disable_notMem_handle (task : Task) : disableUserOperation ∉ handle task := by
  cases task <;> simp [handle]

theorem locked_dispatch (hl : Locked s) (h : s.dispatch = some s') : Locked s' := by
  rw [Ui.dispatch] at h
  split at h
  · next task queue hh hq =>
    cases h
    obtain ⟨hle, hset⟩ := hl
    have hspawns := handle_spawns task
    have hholds := handle_holds task
    simp only [holders, underWay, settled, hh, hq, List.map_cons, List.sum_cons, List.map_nil,
      List.sum_nil, List.not_mem_nil, if_false, List.foldl_cons] at hle hset
    simp only [Locked, holders, underWay, settled, if_neg (disable_notMem_handle task), hspawns,
      hholds]
    exact ⟨by omega, hset⟩
  · cases h

theorem locked_handleNext (hl : Locked s) (h : s.handleNext = some s') : Locked s' := by
  rw [Ui.handleNext] at h
  split at h
  · cases h
  · next action rest hh =>
    cases h
    obtain ⟨hle, hset⟩ := hl
    have hpop : holders s = holders { s with handling := rest } + action.holds := by
      simp only [holders, hh, List.map_cons, List.sum_cons]
      omega
    have hway : underWay s = underWay { s with handling := rest } + action.spawns := by
      simp only [underWay, hh, List.map_cons, List.sum_cons]
      omega
    have hperform := holders_perform { s with handling := rest } action
    have hsum := underWay_perform { s with handling := rest } action
    have hbound := underWay_le_holders ({ s with handling := rest }.perform action)
    by_cases ha : action = enableUserOperation
    · rw [if_pos ha] at hperform
      exact ⟨by omega, fun hne => absurd hne (by omega)⟩
    · rw [if_neg ha] at hperform
      apply And.intro (by omega)
      intro hne
      apply settled_perform ha
      by_cases hd : action = disableUserOperation
      · exact .inr hd
      · left
        rw [← hset (by omega)]
        simp only [settled, hh, List.mem_cons, Ne.symm hd, false_or]

theorem onClick_holds (s : Ui) (button : Button) :
    ((onClick s button).map Action.holds).sum ≤ 1 := by
  cases button with
  | switchAdapterDns =>
    simp only [onClick, onSwitchAdapter]
    split
    · exact Nat.le_refl 1
    · exact Nat.zero_le 1
  | _ => simp [onClick, onAutoDone, onFreshenAdapterInfo, onFreshenDnsInfo, Action.holds,
      Action.spawns, Task.holds]

theorem disable_mem_onClick (h : ((onClick s button).map Action.spawns).sum ≠ 0) :
    disableUserOperation ∈ onClick s button := by
  cases button with
  | switchAdapterDns =>
    simp only [onClick, onSwitchAdapter] at h ⊢
    split at h
    · simp
    · exact absurd rfl h
  | _ => simp [onClick, onAutoDone, onFreshenAdapterInfo, onFreshenDnsInfo]

theorem Locked.underWay_eq_zero (hl : Locked s) (hc : AcceptsClicks s) : underWay s = 0 := by
  by_contra hne
  have hs := hl.2 hne
  simp [settled, hc.1.1, hc.1.2, hc.2] at hs

theorem locked_click (hl : Locked s) (hc : AcceptsClicks s) (button : Button) :
    Locked { s with handling := onClick s button } := by
  have hz := hl.underWay_eq_zero hc
  have hholds := onClick_holds s button
  simp only [underWay, Nat.add_eq_zero_iff] at hz
  apply And.intro
  · simp only [holders, hz.1, hc.1.1, List.map_nil, List.sum_nil]
    omega
  · intro hne
    simp only [underWay, hz.1, Nat.zero_add] at hne
    exact if_pos (disable_mem_onClick hne)

theorem finishing_holds (op : Operation) (outcome : Outcome) :
    (Worker.finishing op outcome (afterOperation op outcome)).holds ≤ 1 := by
  cases op <;> cases outcome <;>
    simp [afterOperation, onFreshenAdapterInfo, Worker.holds, Action.holdsAfter, switchSucceeded,
      Action.holds, Action.spawns, Task.holds]

theorem locked_returns (hl : Locked s) (h : s.returns i outcome = some s') : Locked s' := by
  rw [Ui.returns] at h
  split at h
  · next op hw =>
    cases h
    obtain ⟨hle, hset⟩ := hl
    have hsum := sum_map_set (f := Worker.holds) hw
      (.finishing op outcome (afterOperation op outcome))
    have hfin := finishing_holds op outcome
    have hrun : (Worker.running op).holds = 1 := rfl
    simp only [holders, underWay] at hle hset
    simp only [Locked, holders, underWay]
    exact ⟨by omega, fun hne => hset (by omega)⟩
  · cases h

theorem locked_work (hl : Locked s) (hc : SwitchWaits s (.work i)) (h : s.work i = some s') :
    Locked s' := by
  rw [Ui.work] at h
  split at h
  · next op outcome action rest hw =>
    cases h
    obtain ⟨hle, hset⟩ := hl
    have hsum := sum_map_set (f := Worker.holds) hw (.finishing op outcome rest)
    simp only [Worker.holds, List.map_cons, List.sum_cons] at hsum
    let s₁ : Ui := { s with workers := s.workers.set i (.finishing op outcome rest) }
    have hpop : holders s = holders s₁ + action.holdsAfter op outcome := by
      simp only [holders, s₁]
      omega
    have hway : underWay s = underWay s₁ + action.holdsAfter op outcome := by
      simp only [underWay, s₁]
      omega
    have hperform := holders_perform s₁ action
    have hstart := underWay_perform s₁ action
    have hbound := underWay_le_holders (s₁.perform action)
    change Locked (s₁.perform action)
    by_cases ha : action = enableUserOperation
    · have hone : action.holds = 1 := by rw [ha]; rfl
      have hnone : action.spawns = 0 := by rw [ha]; rfl
      rw [if_pos ha, hone] at hperform
      by_cases hsw : switchSucceeded op outcome
      · -- the message the condition is about
        have hz := hc
        simp only [SwitchWaits, hw] at hz
        have hz := hz ⟨hsw, ha⟩
        exact ⟨by omega, fun hne => absurd hne (by omega)⟩
      · have hafter : action.holdsAfter op outcome = 1 := by
          rw [Action.holdsAfter, if_neg fun hh => hsw hh.1, hone]
        exact ⟨by omega, fun hne => absurd hne (by omega)⟩
    · have hafter : action.holdsAfter op outcome = action.holds :=
        if_neg fun hh => ha hh.2
      have hspawns := spawns_le_holds action
      rw [if_neg ha] at hperform
      apply And.intro (by omega)
      intro hne
      exact settled_perform ha (.inl (hset (by omega)))
  · cases h

theorem locked_notice (hl : Locked s) : Locked (s.perform showlog) := by
  have hperform := holders_perform s showlog
  have hstart := underWay_perform s showlog
  have ha : showlog ≠ enableUserOperation := by decide
  rw [if_neg ha] at hperform
  have hholds : showlog.holds = 0 := rfl
  have hspawns : showlog.spawns = 0 := rfl
  apply And.intro (by have := hl.1; omega)
  intro hne
  exact settled_perform ha (.inl (hl.2 (by omega)))

theorem locked_invariant : uiSystem.Invariant SwitchWaits Locked where
  initial := by
    intro s he
    obtain rfl := he
    exact locked_initWindow
  step := by
    intro s i s' hl hc h
    cases i with
    | dispatch => exact locked_dispatch hl h
    | handle => exact locked_handleNext hl h
    | click button =>
      obtain ⟨ha, h⟩ := Option.ite_none_right_eq_some.1 h
      cases h
      exact locked_click hl ha button
    | rowClick item =>
      obtain ⟨_, h⟩ := Option.ite_none_right_eq_some.1 h
      cases h
      exact hl
    | adapterKeyDown =>
      obtain ⟨_, h⟩ := Option.ite_none_right_eq_some.1 h
      cases h
      exact hl
    | dnsKeyDown =>
      obtain ⟨_, h⟩ := Option.ite_none_right_eq_some.1 h
      cases h
      exact hl
    | notice =>
      cases h
      exact locked_notice hl
    | returns i outcome => exact locked_returns hl h
    | work i => exact locked_work hl hc h

end Steps

section Exclusion

theorem operating_le_holds (w : Worker) (h : w.operating = true) : w.holds = 1 := by
  cases w with
  | running op => rfl
  | finishing op outcome rest => cases h

theorem filter_operating_length_le (l : List Worker) :
    (l.filter Worker.operating).length ≤ (l.map Worker.holds).sum := by
  induction l with
  | nil => exact Nat.le_refl 0
  | cons w l ih =>
    rw [List.map_cons, List.sum_cons]
    cases hw : w.operating with
    | true =>
      rw [List.filter_cons_of_pos hw, List.length_cons, operating_le_holds w hw]
      omega
    | false =>
      rw [List.filter_cons_of_neg (by simp [hw])]
      omega

theorem Locked.exclusive (hl : Locked s) : Exclusive s := by
  have hle := filter_operating_length_le s.workers
  have hb : (s.workers.map Worker.holds).sum ≤ holders s := by
    rw [holders]
    omega
  apply And.intro
  · have := hl.1
    omega
  intro hc w hw
  have hz := hl.underWay_eq_zero hc
  rw [underWay] at hz
  have hnil : s.workers.filter Worker.operating = [] :=
    List.length_eq_zero_iff.1 (by omega)
  have h := List.filter_eq_nil_iff.1 hnil w hw
  simpa using h

/-- In every run in which the worker of a successful switch waits before it enables the
buttons, at most one operation runs, and none while another can be started. -/
theorem operations_exclusive (h : uiSystem.Reachable SwitchWaits s) : Exclusive s :=
  (locked_invariant.reachable h).exclusive

def startUp : List UiStep :=
  [.dispatch, .returns 0 .succeeded, .work 0, .dispatch, .handle, .dispatch]

def refreshAndSwitch : List UiStep :=
  startUp ++
  [.click .freshenAdapter, .handle, .handle, .handle, .dispatch,
    .returns 1 (.freshenedAdapterInfo [⟨65537, wide "adapter", wide "10.0.0.1", []⟩]), .work 1,
    .dispatch, .handle, .handle, .handle, .dispatch, .dispatch] ++
  [.click .freshenDns, .handle, .handle, .handle, .dispatch,
    .returns 2 (.freshenedDnsInfo [⟨wide "10.0.0.2", wide "1", wide "7ms"⟩]), .work 2,
    .dispatch, .handle, .handle, .handle, .dispatch, .dispatch] ++
  [.rowClick 0, .rowClick 1, .click .switchAdapterDns, .handle, .handle, .dispatch,
    .returns 3 .succeeded, .work 3, .work 3, .work 3]

theorem operations_exclusive_switch :
    ∃ s, uiSystem.exec SwitchWaits Ui.initWindow
      (refreshAndSwitch ++ [.returns 4 .failed, .work 4, .work 4, .work 3, .work 3]) = some s ∧
      Exclusive s := by
  have hr : (uiSystem.exec SwitchWaits Ui.initWindow
      (refreshAndSwitch ++ [.returns 4 .failed, .work 4, .work 4, .work 3, .work 3])).isSome := by
    decide
  obtain ⟨s, hs⟩ := Option.isSome_iff_exists.1 hr
  exact ⟨s, hs, operations_exclusive (.exec (.initial rfl) hs)⟩

/-- The switch enables the buttons while the refresh it has started is running, and the next
click starts a second operation. -/
theorem not_operations_exclusive :
    ¬∀ s, uiSystem.Reachable (fun _ _ => True) s → Exclusive s := by
  intro h
  have hr : (uiSystem.exec (fun _ _ => True) Ui.initWindow
      (refreshAndSwitch ++ [.work 3, .work 3, .dispatch, .dispatch, .dispatch,
        .click .autoDone, .handle, .handle, .handle])).any (fun s => ¬Exclusive s) := by
    decide
  obtain ⟨s, hs, hne⟩ := (Option.any_eq_true _ _).1 hr
  exact of_decide_eq_true hne (h s (.exec (.initial rfl) hs))

end Exclusion

end LdnsSelector
