import LdnsSelector.Accounting
import LdnsSelector.UserOperations

set_option autoImplicit true

namespace LdnsSelector

open TransitionSystem

/-- The window when input of the user may also come before tasks that are already posted. -/
def Ui.stepInterleaved (s : Ui) : UiStep → Option Ui
  | .click button =>
    if s.handling = [] ∧ s.enabled = true then some { s with handling := onClick s button }
    else none
  | .rowClick item =>
    if s.handling = [] then
      some { s with adapterInfo := s.adapterInfo.rowClick item, dnsInfo := s.dnsInfo.rowClick item }
    else none
  | .adapterKeyDown =>
    if s.handling = [] then some { s with adapterInfo := s.adapterInfo.keyDown } else none
  | .dnsKeyDown =>
    if s.handling = [] then some { s with dnsInfo := s.dnsInfo.keyDown } else none
  | i => s.step i

def interleavedSystem : TransitionSystem Ui UiStep where
  initial s := s = Ui.initWindow
  step := Ui.stepInterleaved

def Worker.done : Worker → Bool
  | .finishing _ _ [] => true
  | _ => false

def Quiescent (s : Ui) : Prop := s.Idle ∧ ∀ w ∈ s.workers, w.done = true

instance (s : Ui) : Decidable (Quiescent s) := inferInstanceAs (Decidable (_ ∧ _))

def Worker.result : Worker → Option (Operation × Outcome)
  | .running _ => none
  | .finishing op outcome _ => some (op, outcome)

def InitializeReturned (outcome : Outcome) (s : Ui) : Prop :=
  some (Operation.onInitialize, outcome) ∈ s.workers.map Worker.result

instance (s : Ui) : Decidable (InitializeReturned outcome s) :=
  inferInstanceAs (Decidable (_ ∈ _))

def InitializeFailed (s : Ui) : Prop :=
  ∃ outcome, outcome ≠ .succeeded ∧ InitializeReturned outcome s

/-- What the buttons will be once the posted tasks are done. -/
def lastWord (s : Ui) : Bool := s.queue.foldl Ui.setEnabled s.enabled

/-- Wherever the buttons are disabled, an operation is started after it. -/
def Reopening : List Action → Prop
  | [] => True
  | a :: rest => (a = disableUserOperation → 0 < (rest.map Action.spawns).sum) ∧ Reopening rest

def initializers : Weighing Nat where
  running op := if op = .onInitialize then 1 else 0
  returned op := if op = .onInitialize then 1 else 0
  task _ := 0
  own _ := 0

/-- The buttons stay enabled, or something will still enable them. -/
structure Reopens (s : Ui) : Prop where
  initializers : initializers.total s = 1
  handling : Reopening s.handling
  workers : ∀ op outcome rest, .finishing op outcome rest ∈ s.workers → Reopening rest
  opens : lastWord s = false → InitializeFailed s ∨ 0 < holders s

section Initializers

theorem initializers_handle (task : Task) : initializers.actions (handle task) = 0 := by
  cases task <;>
    simp [handle, Weighing.actions, Weighing.action, initializers, Function.comp_def]

theorem initializers_onClick (s : Ui) (button : Button) :
    initializers.actions (onClick s button) = 0 := by
  cases button with
  | switchAdapterDns =>
    simp only [onClick, onSwitchAdapter]
    split <;> rfl
  | _ => rfl

theorem initializers_afterOperation (op : Operation) (outcome : Outcome) :
    initializers.actions (afterOperation op outcome) = 0 := by
  cases op <;> cases outcome <;> rfl

theorem initializers_spent (a : Action) : initializers.spent a = 0 := by
  cases a <;> rfl

theorem initializers_result (h : w.result = some (.onInitialize, outcome)) :
    1 ≤ initializers.worker w := by
  cases w with
  | running op => cases h
  | finishing op outcome rest =>
    cases h
    exact Nat.le_add_right 1 _

theorem InitializeReturned.unique (h : initializers.total s = 1)
    (h₁ : InitializeReturned outcome s) (h₂ : InitializeReturned outcome' s) :
    outcome = outcome' := by
  obtain ⟨w, hm, hw⟩ := List.mem_map.1 h₁
  obtain ⟨w', hm', hw'⟩ := List.mem_map.1 h₂
  by_contra hne
  have hww : w' ≠ w := by
    intro he
    obtain rfl := he
    rw [hw] at hw'
    cases hw'
    exact hne rfl
  have hsum := ((List.perm_cons_erase hm).map initializers.worker).sum_eq
  have hle := List.single_le_sum (fun _ _ => Nat.zero_le _) _
    (List.mem_map_of_mem (f := initializers.worker) ((List.mem_erase_of_ne hww).2 hm'))
  have hone := initializers_result hw
  have hone' := initializers_result hw'
  rw [List.map_cons, List.sum_cons] at hsum
  rw [Weighing.total] at h
  omega

end Initializers

section Opening

theorem spawns_le_holdsAfter (op : Operation) (outcome : Outcome) (a : Action) :
    a.spawns ≤ a.holdsAfter op outcome := by
  rw [Action.holdsAfter]
  split
  · next h =>
    rw [h.2]
    exact Nat.le_refl 0
  · exact spawns_le_holds a

theorem reopening_handle (task : Task) : Reopening (handle task) := by
  have hadd {α : Type} (f : α → Action) (hf : ∀ x, f x ≠ disableUserOperation) (l : List α) :
      Reopening (l.map f ++ [enableUserOperation]) := by
    induction l with
    | nil => simp [Reopening]
    | cons x l ih => exact ⟨fun he => absurd he (hf x), ih⟩
  cases task with
  | fillAdapterInfo infos => exact ⟨by simp, hadd _ (by simp) infos⟩
  | fillDnsInfo infos => exact ⟨by simp, hadd _ (by simp) infos⟩
  | _ => simp [handle, Reopening]

theorem reopening_onClick (s : Ui) (button : Button) : Reopening (onClick s button) := by
  cases button with
  | switchAdapterDns =>
    simp only [onClick, onSwitchAdapter]
    split <;> simp [Reopening, Action.spawns]
  | _ => simp [onClick, onAutoDone, onFreshenAdapterInfo, onFreshenDnsInfo, Reopening,
      Action.spawns]

theorem reopening_afterOperation (op : Operation) (outcome : Outcome) :
    Reopening (afterOperation op outcome) := by
  cases op <;> cases outcome <;>
    simp [afterOperation, onFreshenAdapterInfo, Reopening, Action.spawns]

theorem finishing_mem_perform (s : Ui) (a : Action) :
    .finishing op outcome rest ∈ (s.perform a).workers ↔
      .finishing op outcome rest ∈ s.workers := by
  cases a with
  | spawn op => simp [Ui.perform]
  | _ => rfl

theorem InitializeFailed.perform (h : InitializeFailed s) (a : Action) :
    InitializeFailed (s.perform a) := by
  obtain ⟨outcome, hne, hr⟩ := h
  refine ⟨outcome, hne, ?_⟩
  cases a with
  | spawn op =>
    rw [InitializeReturned, Ui.perform, List.map_append]
    exact List.mem_append_left _ hr
  | _ => exact hr

/-- Performing an action leaves the buttons, or something still to come, on the side of
enabling, when a disabling one is followed by the operation it is for. -/
theorem opens_perform {s : Ui}
    (hpop : lastWord s = false → InitializeFailed s ∨ 0 < holders s + a.holds)
    (hdis : a = disableUserOperation → 0 < holders s) :
    lastWord (s.perform a) = false →
      InitializeFailed (s.perform a) ∨ 0 < holders (s.perform a) := by
  intro hlast
  have hperform := holders_perform s a
  by_cases ha : a = enableUserOperation
  · subst ha
    simp [lastWord, Ui.perform, Ui.setEnabled] at hlast
  · rw [if_neg ha, Nat.add_zero] at hperform
    rw [hperform]
    by_cases hd : a = disableUserOperation
    · exact .inr (Nat.add_pos_left (hdis hd) _)
    · have hkeep : lastWord (s.perform a) = lastWord s := by
        cases a with
        | post task =>
          cases task with
          | enableUserOperation enable =>
            cases enable with
            | false => exact absurd rfl hd
            | true => exact absurd rfl ha
          | _ => simp [lastWord, Ui.perform, Ui.setEnabled]
        | _ => rfl
      exact (hpop (hkeep ▸ hlast)).imp_left fun hf => hf.perform a

theorem mem_set_of_ne {l : List α} (hm : x ∈ l) (hne : l[i]? ≠ some x) (b : α) :
    x ∈ l.set i b := by
  obtain ⟨j, hj, rfl⟩ := List.mem_iff_getElem.1 hm
  have hij : i ≠ j := by
    intro he
    obtain rfl := he
    exact hne (List.getElem?_eq_getElem hj)
  refine List.mem_iff_getElem.2 ⟨j, by simpa using hj, ?_⟩
  exact List.getElem_set_ne hij _

end Opening

section Steps

theorem reopens_initWindow : Reopens Ui.initWindow where
  initializers := rfl
  handling := trivial
  workers := by simp [Ui.initWindow]
  opens _ := .inr (by decide)

theorem reopens_dispatch (hr : Reopens s) (h : s.dispatch = some s') : Reopens s' := by
  obtain ⟨task, _, _, htotal⟩ := Weighing.total_dispatch (w := initializers) h
  rw [initializers_handle] at htotal
  rw [Ui.dispatch] at h
  split at h
  · next task queue hh hq =>
    cases h
    refine ⟨htotal.trans hr.initializers, reopening_handle task, hr.workers, ?_⟩
    have hopens := hr.opens
    have hholds := handle_holds task
    simp only [lastWord, holders, hh, hq, List.foldl_cons, List.map_nil, List.sum_nil,
      List.map_cons, List.sum_cons] at hopens
    simp only [lastWord, holders, hholds]
    intro hlast
    rcases hopens hlast with hf | hpos
    · exact .inl hf
    · exact .inr (by omega)
  · cases h

theorem reopens_handleNext (hr : Reopens s) (h : s.handleNext = some s') : Reopens s' := by
  obtain ⟨_, _, _, htotal⟩ := Weighing.total_handleNext (w := initializers) h
  rw [initializers_spent] at htotal
  rw [Ui.handleNext] at h
  split at h
  · cases h
  · next a rest hh =>
    cases h
    let s₁ : Ui := { s with handling := rest }
    have hgo := hr.handling
    rw [hh] at hgo
    have hpop : holders s = holders s₁ + a.holds := by
      simp only [holders, hh, s₁, List.map_cons, List.sum_cons]
      omega
    refine ⟨htotal.trans hr.initializers, ?_, ?_, ?_⟩
    · have hkeep : (s₁.perform a).handling = rest := by
        cases a <;> rfl
      change Reopening (s₁.perform a).handling
      rw [hkeep]
      exact hgo.2
    · intro op outcome rest' hm
      exact hr.workers op outcome rest' ((finishing_mem_perform s₁ a).1 hm)
    · apply opens_perform
      · intro hlast
        exact hpop ▸ hr.opens hlast
      · intro ha
        have hspawn := hgo.1 ha
        have hle := underWay_le_holders s₁
        simp only [underWay, s₁] at hle
        omega

theorem reopens_click (hr : Reopens s) (hh : s.handling = []) (button : Button) :
    Reopens { s with handling := onClick s button } := by
  have htotal := Weighing.total_input (w := initializers) hh (onClick s button)
  rw [initializers_onClick] at htotal
  refine ⟨htotal.trans hr.initializers, reopening_onClick s button, hr.workers, ?_⟩
  have hopens := hr.opens
  simp only [lastWord, holders, hh, List.map_nil, List.sum_nil] at hopens
  simp only [lastWord, holders]
  intro hlast
  rcases hopens hlast with hf | hpos
  · exact .inl hf
  · exact .inr (by omega)

theorem reopens_notice (hr : Reopens s) : Reopens (s.perform showlog) where
  initializers := by
    have htotal := Weighing.total_perform (w := initializers) s showlog
    exact htotal.trans hr.initializers
  handling := hr.handling
  workers := hr.workers
  opens := opens_perform (fun hlast => hr.opens hlast) fun ha => nomatch ha

theorem done_holds {w : Worker} (h : w.done = true) : w.holds = 0 := by
  cases w with
  | running op => cases h
  | finishing op outcome rest =>
    cases rest with
    | nil => rfl
    | cons a rest => cases h

theorem returned_holds (op : Operation) (outcome : Outcome) :
    (Worker.finishing op outcome (afterOperation op outcome)).holds = 1 ∨
      op = .onInitialize ∧ outcome ≠ .succeeded := by
  cases op <;> cases outcome <;>
    simp [afterOperation, onFreshenAdapterInfo, Worker.holds, Action.holdsAfter, switchSucceeded,
      Action.holds, Action.spawns, Task.holds]

theorem reopens_returns (hr : Reopens s) (h : s.returns i outcome = some s') : Reopens s' := by
  obtain ⟨op, hw, htotal⟩ := Weighing.total_returns (w := initializers) h
  rw [initializers_afterOperation] at htotal
  have hinit : initializers.total s' = 1 := by
    have := hr.initializers
    change _ + initializers.running op = _ + (initializers.running op + 0) at htotal
    omega
  rw [Ui.returns, hw] at h
  cases h
  refine ⟨hinit, hr.handling, ?_, ?_⟩
  · intro op' outcome' rest hm
    rcases List.mem_or_eq_of_mem_set hm with hm | hm
    · exact hr.workers op' outcome' rest hm
    · cases hm
      exact reopening_afterOperation _ _
  · intro hlast
    rcases hr.opens hlast with ⟨o, hne, hf⟩ | hpos
    · refine .inl ⟨o, hne, ?_⟩
      rw [InitializeReturned, List.map_set]
      apply mem_set_of_ne hf
      rw [List.getElem?_map, hw]
      intro he
      cases he
    · rcases returned_holds op outcome with hone | ⟨rfl, hne⟩
      · right
        have hsum := sum_map_set (f := Worker.holds) hw
          (.finishing op outcome (afterOperation op outcome))
        have hrun : (Worker.running op).holds = 1 := rfl
        rw [hone, hrun] at hsum
        simp only [holders] at hpos ⊢
        omega
      · refine .inl ⟨outcome, hne, ?_⟩
        rw [InitializeReturned, List.map_set]
        exact List.mem_set (by simpa using (List.getElem?_eq_some_iff.1 hw).1) _

theorem reopens_work (hr : Reopens s) (h : s.work i = some s') : Reopens s' := by
  obtain ⟨op, outcome, a, rest, hw, htotal⟩ := Weighing.total_work (w := initializers) h
  rw [initializers_spent] at htotal
  rw [Ui.work, hw] at h
  cases h
  let s₁ : Ui := { s with workers := s.workers.set i (.finishing op outcome rest) }
  have hgo := hr.workers op outcome (a :: rest) (List.mem_of_getElem? hw)
  have hresult : s₁.workers.map Worker.result = s.workers.map Worker.result :=
    map_set_of_eq hw rfl
  have hsum := sum_map_set (f := Worker.holds) hw (.finishing op outcome rest)
  simp only [Worker.holds, List.map_cons, List.sum_cons] at hsum
  have hpop : holders s = holders s₁ + a.holdsAfter op outcome := by
    simp only [holders, s₁]
    omega
  refine ⟨htotal.trans hr.initializers, ?_, ?_, ?_⟩
  · have hkeep : (s₁.perform a).handling = s.handling := by
      cases a <;> rfl
    change Reopening (s₁.perform a).handling
    rw [hkeep]
    exact hr.handling
  · intro op' outcome' rest' hm
    rcases List.mem_or_eq_of_mem_set ((finishing_mem_perform s₁ a).1 hm) with hm | hm
    · exact hr.workers op' outcome' rest' hm
    · cases hm
      exact hgo.2
  · have hopens : lastWord s₁ = false → InitializeFailed s₁ ∨ 0 < holders s₁ + a.holds := by
      intro hlast
      have hle : a.holdsAfter op outcome ≤ a.holds := by
        rw [Action.holdsAfter]
        split <;> omega
      rcases hr.opens hlast with ⟨o, hne, hf⟩ | hpos
      · refine .inl ⟨o, hne, ?_⟩
        rw [InitializeReturned, hresult]
        exact hf
      · exact .inr (by omega)
    apply opens_perform hopens
    intro ha
    have hspawn := hgo.1 ha
    have hle : (rest.map Action.spawns).sum ≤ (rest.map (Action.holdsAfter op outcome)).sum :=
      List.sum_le_sum fun b _ => spawns_le_holdsAfter op outcome b
    have hmem : .finishing op outcome rest ∈ s₁.workers :=
      List.mem_set (List.getElem?_eq_some_iff.1 hw).1 _
    have hone := List.single_le_sum (fun _ _ => Nat.zero_le _) _
      (List.mem_map_of_mem (f := Worker.holds) hmem)
    simp only [Worker.holds] at hone
    change 0 < holders s₁
    rw [holders]
    omega

end Steps

theorem reopens_invariant : interleavedSystem.Invariant (fun _ _ => True) Reopens where
  initial := by
    intro s he
    obtain rfl := he
    exact reopens_initWindow
  step := by
    intro s i s' hr _ h
    cases i with
    | dispatch => exact reopens_dispatch hr h
    | handle => exact reopens_handleNext hr h
    | click button =>
      obtain ⟨⟨hh, _⟩, h⟩ := Option.ite_none_right_eq_some.1 h
      cases h
      exact reopens_click hr hh button
    | rowClick item =>
      obtain ⟨_, h⟩ := Option.ite_none_right_eq_some.1 h
      cases h
      exact ⟨hr.initializers, hr.handling, hr.workers, hr.opens⟩
    | adapterKeyDown =>
      obtain ⟨_, h⟩ := Option.ite_none_right_eq_some.1 h
      cases h
      exact ⟨hr.initializers, hr.handling, hr.workers, hr.opens⟩
    | dnsKeyDown =>
      obtain ⟨_, h⟩ := Option.ite_none_right_eq_some.1 h
      cases h
      exact ⟨hr.initializers, hr.handling, hr.workers, hr.opens⟩
    | notice =>
      cases h
      exact reopens_notice hr
    | returns i outcome => exact reopens_returns hr h
    | work i => exact reopens_work hr h

/-- Whenever nothing runs and nothing is posted, a window whose initialization succeeded
accepts clicks. -/
theorem never_locked (h : interleavedSystem.Reachable (fun _ _ => True) s)
    (hi : InitializeReturned .succeeded s) (hq : Quiescent s) : s.enabled = true := by
  have hr := reopens_invariant.reachable h
  obtain ⟨⟨hqueue, hhandling⟩, hdone⟩ := hq
  by_contra he
  have hlast : lastWord s = false := by
    rw [lastWord, hqueue]
    exact Bool.eq_false_iff.2 he
  rcases hr.opens hlast with ⟨outcome, hne, hf⟩ | hpos
  · exact hne (hf.unique hr.initializers hi)
  · have hzero : ∀ n ∈ s.workers.map Worker.holds, n = 0 := by
      intro n hn
      obtain ⟨w, hw, rfl⟩ := List.mem_map.1 hn
      exact done_holds (hdone w hw)
    rw [holders, hqueue, hhandling, List.sum_eq_zero hzero] at hpos
    exact absurd hpos (Nat.lt_irrefl 0)

theorem never_locked_overlapping : ∃ s, interleavedSystem.exec (fun _ _ => True) Ui.initWindow
      (startUp ++ [.click .autoDone, .handle, .handle, .handle, .click .freshenDns, .handle,
        .handle, .handle, .dispatch, .dispatch, .dispatch, .returns 2 .failed, .work 2, .work 2,
        .returns 1 .failed, .work 1, .work 1, .dispatch, .dispatch, .dispatch, .dispatch]) =
      some s ∧ s.enabled = true := by
  have hr : (interleavedSystem.exec (fun _ _ => True) Ui.initWindow
      (startUp ++ [.click .autoDone, .handle, .handle, .handle, .click .freshenDns, .handle,
        .handle, .handle, .dispatch, .dispatch, .dispatch, .returns 2 .failed, .work 2, .work 2,
        .returns 1 .failed, .work 1, .work 1, .dispatch, .dispatch, .dispatch, .dispatch])).any
      (fun s => InitializeReturned .succeeded s ∧ Quiescent s) := by
    decide
  obtain ⟨s, hs, hc⟩ := (Option.any_eq_true _ _).1 hr
  obtain ⟨hi, hq⟩ := of_decide_eq_true hc
  exact ⟨s, hs, never_locked (.exec (.initial rfl) hs) hi hq⟩

end LdnsSelector
