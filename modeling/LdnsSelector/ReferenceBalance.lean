import LdnsSelector.Wmi

set_option autoImplicit true

namespace LdnsSelector

open RefEvent Tracked

structure WmiStart.Succeeds (start : WmiStart) : Prop where
  coInitializeEx : start.coInitializeEx = .ok ()
  coInitializeSecurity : securityFails start.coInitializeSecurity = false
  coCreateInstance : ∃ pLoc, start.coCreateInstance = .ok pLoc
  connectServer : ∃ pSvc, start.connectServer = .ok pSvc
  coSetProxyBlanket : start.coSetProxyBlanket = .ok ()

def initialized (pSvc pLoc : Pointer) (held : Multiset ComResource) : Multiset ComResource :=
  .pointer pLoc ::ₘ .pointer pSvc ::ₘ .apartment ::ₘ held

section Initialization

variable {start : WmiStart} {held : Multiset ComResource}

theorem leaves_initliazeWmi (h : start.Succeeds) (held : Multiset ComResource) :
    ∃ pSvc pLoc, Leaves (initliazeWmi start) held fun r held' =>
      r = (.success, some pSvc, some pLoc) ∧ held' = initialized pSvc pLoc held := by
  obtain ⟨pLoc, hloc⟩ := h.coCreateInstance
  obtain ⟨pSvc, hsvc⟩ := h.connectServer
  refine ⟨pSvc, pLoc, ?_⟩
  have hsteps : Leaves (initializeSteps start) held fun r held' =>
      r = (.success, some pSvc, some pLoc) ∧ held' = initialized pSvc pLoc held := by
    rw [initializeSteps, h.coInitializeEx, h.coInitializeSecurity, hloc, hsvc,
      h.coSetProxyBlanket]
    apply Leaves.bind_acquire
    apply Leaves.bind_acquire
    apply Leaves.bind_keeps (Keeps.use (Multiset.mem_cons_self _ _))
    intro _
    apply Leaves.bind_acquire
    apply Leaves.bind_keeps (Keeps.use (Multiset.mem_cons_self _ _))
    intro _
    exact Leaves.pure ⟨rfl, Multiset.cons_swap _ _ _⟩
  apply Leaves.bind hsteps
  intro _ _ hx
  obtain ⟨rfl, rfl⟩ := hx
  exact Leaves.pure ⟨rfl, rfl⟩

theorem leaves_uninitializeWmi (pSvc pLoc : Pointer) :
    Leaves (uninitializeWmi (some pSvc) (some pLoc)) (initialized pSvc pLoc held)
      fun _ held' => held' = held := by
  apply Leaves.bind_release
  apply Leaves.bind_release
  exact Leaves.release _ _

theorem count_initializeSteps (start : WmiStart) :
    (initializeSteps start).trace.count (.acquire .apartment) ≤ 1 ∧
      ((initializeSteps start).value.1 = .success → start.Succeeds) := by
  rw [initializeSteps]
  split
  · exact ⟨by decide, nofun⟩
  · next hex =>
    split
    · exact ⟨by decide, nofun⟩
    · next hsec =>
      split
      · exact ⟨by decide, nofun⟩
      · next pLoc hloc =>
        split
        · exact ⟨by simp, nofun⟩
        · next pSvc hsvc =>
          split
          · exact ⟨by simp, nofun⟩
          · next hblanket =>
            refine ⟨by simp, ?_⟩
            intro _
            exact ⟨hex, Bool.eq_false_iff.2 hsec, ⟨pLoc, hloc⟩, ⟨pSvc, hsvc⟩, hblanket⟩

theorem count_releasePointer (p : Option Pointer) :
    (releasePointer p).trace.count (.release .apartment) = 0 ∧
      (releasePointer p).trace.count (.acquire .apartment) = 0 := by
  cases p with
  | none => exact ⟨rfl, rfl⟩
  | some p => exact ⟨List.count_singleton.trans (if_neg (by simp)), rfl⟩

theorem count_uninitializeWmi (pSvc pLoc : Option Pointer) :
    (uninitializeWmi pSvc pLoc).trace.count (.release .apartment) = 1 ∧
      (uninitializeWmi pSvc pLoc).trace.count (.acquire .apartment) = 0 := by
  simp [uninitializeWmi, count_releasePointer]

/-- A failed initialization has cleaned up already, and leaves its pointers set. -/
theorem initialize_fails (h : ¬start.Succeeds) :
    (initliazeWmi start).value.1 ≠ .success ∧
      (initliazeWmi start).trace.count (.acquire .apartment) ≤
        (initliazeWmi start).trace.count (.release .apartment) := by
  obtain ⟨hcount, hsuccess⟩ := count_initializeSteps start
  have hres : (initializeSteps start).value.1 ≠ .success := fun he => h (hsuccess he)
  rw [initliazeWmi, value_bind, trace_bind]
  simp only [if_pos hres]
  refine ⟨hres, ?_⟩
  simp only [trace_bind, trace_release, trace_pure, List.count_append, count_releasePointer,
    List.append_nil]
  simp
  omega

/-- A body that keeps the references it finds makes the call balanced exactly when the
initialization succeeds. -/
theorem settled_betweenWmi_iff {body : Result → Option Pointer → Com α}
    (hk : ∀ pSvc held, .pointer pSvc ∈ held → Keeps (body .success (some pSvc)) held)
    (hb : ∀ res pSvc, res ≠ .success → (body res pSvc).trace = []) :
    Settled (betweenWmi start body).trace ↔ start.Succeeds := by
  apply Iff.intro
  · intro hs
    by_contra h
    obtain ⟨hres, hinit⟩ := initialize_fails h
    have hcount := hs.count_eq .apartment
    simp only [betweenWmi, trace_bind, hb _ _ hres, trace_pure, List.append_nil, List.nil_append,
      List.count_append, count_uninitializeWmi] at hcount
    omega
  · intro h
    obtain ⟨pSvc, pLoc, hinit⟩ := leaves_initliazeWmi h 0
    apply Leaves.settled
    apply Leaves.bind hinit
    intro _ _ hx
    obtain ⟨rfl, rfl⟩ := hx
    apply Leaves.bind_keeps (hk pSvc _ (Multiset.mem_cons_of_mem (Multiset.mem_cons_self _ _)))
    intro answer
    apply Leaves.bind (leaves_uninitializeWmi pSvc pLoc)
    intro _ _ he
    obtain rfl := he
    exact Leaves.pure rfl

end Initialization

section Bodies

variable {held : Multiset ComResource} {p : Pointer}

theorem keeps_getProperty {reading : Reading α} {next : Option α → Com (Option β)}
    (hp : .pointer p ∈ held) (hn : ∀ a, Keeps (next a) held) :
    Keeps (getProperty p reading next) held := by
  apply Keeps.bind (Keeps.use hp)
  intro _
  cases reading with
  | failed hres => exact Keeps.pure none
  | null => exact hn none
  | value a => exact hn (some a)

theorem keeps_readObject {clsObj : ClassObject} (hp : .pointer clsObj.pointer ∈ held) :
    Keeps (readObject clsObj) held := by
  apply keeps_getProperty hp
  intro ipEnabled
  split
  · exact Keeps.pure none
  · apply keeps_getProperty hp
    intro index
    split
    · exact Keeps.pure none
    · split
      · exact Keeps.pure none
      · apply keeps_getProperty hp
        intro interfaceIndex
        split
        · exact Keeps.pure none
        · split
          · exact Keeps.pure none
          · apply keeps_getProperty hp
            intro description
            apply keeps_getProperty hp
            intro macAddress
            apply keeps_getProperty hp
            intro dhcpEnabled
            apply keeps_getProperty hp
            intro dnsServerSearchOrder
            exact Keeps.pure _

theorem keeps_enumAdapters {results : Enumeration} {vec : List WmiAdapterInfo}
    (hp : .pointer p ∈ held) : Keeps (enumAdapters p results vec) held := by
  induction results generalizing vec with
  | endOfList =>
    apply Keeps.bind (Keeps.use hp)
    intro _
    exact Keeps.pure vec
  | failed hres =>
    apply Keeps.bind (Keeps.use hp)
    intro _
    exact Keeps.pure vec
  | object clsObj rest ih =>
    apply Keeps.bind (Keeps.use hp)
    intro _
    apply Leaves.bind_acquire
    apply Leaves.bind_keeps (keeps_readObject (Multiset.mem_cons_self _ _))
    intro info
    apply Leaves.bind_release
    exact ih

theorem keeps_queryAdapters {query : Except HResult (Option Enumerator)}
    {vec : List WmiAdapterInfo} (hp : .pointer p ∈ held) :
    Keeps (queryAdapters (some p) query vec) held := by
  apply Keeps.bind (Keeps.use hp)
  intro _
  cases query with
  | error hres => exact Keeps.pure _
  | ok enumerator =>
    cases enumerator with
    | none => exact Keeps.pure _
    | some enumerator =>
      apply Leaves.bind_acquire
      apply Leaves.bind_keeps (keeps_enumAdapters (Multiset.mem_cons_self _ _))
      intro vec
      apply Leaves.bind_release
      exact Keeps.pure _

def pointers (ps : List (Option Pointer)) : Multiset ComResource :=
  ↑(ps.filterMap fun p => p.map ComResource.pointer)

theorem mem_pointers {q : Pointer} {ps : List (Option Pointer)} (hq : some q ∈ ps) :
    .pointer q ∈ pointers ps + held := by
  apply Multiset.mem_add.2
  left
  exact List.mem_filterMap.2 ⟨some q, hq, rfl⟩

theorem cons_pointers (q : Pointer) (ps : List (Option Pointer)) :
    .pointer q ::ₘ (pointers ps + held) = pointers (ps ++ [some q]) + held := by
  have happend : pointers (ps ++ [some q]) = pointers ps + {.pointer q} := by
    rw [pointers, pointers, List.filterMap_append, ← Multiset.coe_add]
    rfl
  rw [happend, ← Multiset.singleton_add, add_left_comm, add_assoc]

theorem leaves_releasePointer (q : Option Pointer) (ps : List (Option Pointer)) :
    Leaves (releasePointer q) (pointers (q :: ps) + held)
      fun _ held' => held' = pointers ps + held := by
  cases q with
  | none => exact Leaves.pure rfl
  | some q =>
    change Leaves _ (ComResource.pointer q ::ₘ pointers ps + held) _
    rw [Multiset.cons_add]
    exact Leaves.release _ _

theorem leaves_setDnsSteps {method : WmiMethod} (hp : .pointer p ∈ held) :
    Leaves (setDnsSteps (some p) method index strDns1 strDns2) held fun r held' =>
      held' = pointers [r.2.1, r.2.2.1, r.2.2.2.1, r.2.2.2.2] + held := by
  rw [setDnsSteps]
  apply Leaves.bind_keeps (Keeps.use hp)
  intro _
  split
  · exact Leaves.pure (zero_add held).symm
  · next pClsObj _ =>
    apply Leaves.bind_acquire
    rw [show .pointer pClsObj ::ₘ held = pointers [some pClsObj] + held from
      (Multiset.singleton_add _ _).symm]
    apply Leaves.bind_keeps (Keeps.use (mem_pointers List.mem_cons_self))
    intro _
    split
    · exact Leaves.pure rfl
    · next pInParamsDefinition _ =>
      apply Leaves.bind_acquire
      rw [cons_pointers]
      apply Leaves.bind_keeps (Keeps.use (mem_pointers (by simp)))
      intro _
      split
      · exact Leaves.pure rfl
      · next pClassInstance _ =>
        apply Leaves.bind_acquire
        rw [cons_pointers]
        apply Leaves.bind_keeps (Keeps.use (mem_pointers (by simp)))
        intro _
        split
        · exact Leaves.pure rfl
        · apply Leaves.bind_keeps (Keeps.use (Multiset.mem_add.2 (.inr hp)))
          intro _
          apply Leaves.bind_keeps (Keeps.use (mem_pointers (by simp)))
          intro _
          split
          · exact Leaves.pure rfl
          · exact Leaves.pure rfl
          · next pOutParams _ =>
            apply Leaves.bind_acquire
            rw [cons_pointers]
            exact Leaves.pure rfl

theorem keeps_setDns {method : WmiMethod} (hp : .pointer p ∈ held) :
    Keeps (setDns (some p) method index strDns1 strDns2) held := by
  apply Leaves.bind (leaves_setDnsSteps hp)
  intro h _ he
  obtain ⟨res, pClsObj, pInParamsDefinition, pClassInstance, pOutParams⟩ := h
  obtain rfl := he
  apply Leaves.bind (leaves_releasePointer pClsObj _)
  intro _ _ he
  obtain rfl := he
  apply Leaves.bind (leaves_releasePointer pInParamsDefinition _)
  intro _ _ he
  obtain rfl := he
  apply Leaves.bind (leaves_releasePointer pClassInstance _)
  intro _ _ he
  obtain rfl := he
  apply Leaves.bind (leaves_releasePointer pOutParams _)
  intro _ _ he
  obtain rfl := he
  exact Leaves.pure (zero_add held)

end Bodies

/-- Both members balance their references exactly when the initialization succeeds, or when
there is none. -/
theorem references_balanced_iff (start : WmiStart) (query : Except HResult (Option Enumerator))
    (vec : List WmiAdapterInfo) (method : WmiMethod) (index : UInt32)
    (strDns1 strDns2 : WString) :
    (Settled (wmiGetAdapterList start query vec).trace ↔ start.Succeeds) ∧
      (Settled (wmiSwitchDns start method index strDns1 strDns2).trace ↔
        start.Succeeds ∨ strDns1 = [] ∨ strDns2 = []) := by
  apply And.intro
  · apply settled_betweenWmi_iff
    · intro pSvc held hp
      exact keeps_queryAdapters hp
    · intro res pSvc hres
      rw [if_pos hres]
      rfl
  · rw [wmiSwitchDns]
    split
    · next he => exact iff_of_true rfl (.inr he)
    · next hne =>
      rw [or_iff_left hne]
      apply settled_betweenWmi_iff
      · intro pSvc held hp
        exact keeps_setDns hp
      · intro res pSvc hres
        rw [if_pos hres]
        rfl

def refusedStart : WmiStart where
  coInitializeEx := .ok ()
  coInitializeSecurity := .ok ()
  coCreateInstance := .ok 1
  connectServer := .error 0x80041003
  coSetProxyBlanket := .ok ()

/-- The locator is released twice, and the apartment is left twice. -/
theorem not_references_balanced :
    ¬∀ start query vec, Settled (wmiGetAdapterList start query vec).trace := by
  intro h
  exact absurd (h refusedStart (.error 0) []) (by decide)

end LdnsSelector
