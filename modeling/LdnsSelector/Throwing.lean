set_option autoImplicit true

namespace EStateM

theorem get_bind_apply (f : σ → EStateM ε σ α) (s : σ) : (MonadState.get >>= f) s = f s s := rfl

theorem bind_apply_ok {x : EStateM ε σ α} (hx : x s = .ok a s') (f : α → EStateM ε σ β) :
    (x >>= f) s = f a s' := by
  change EStateM.bind x f s = f a s'
  rw [EStateM.bind, hx]

theorem bind_apply_congr {x y : EStateM ε σ α} (h : x s = y s') (f : α → EStateM ε σ β) :
    (x >>= f) s = (y >>= f) s' := by
  change EStateM.bind x f s = EStateM.bind y f s'
  rw [EStateM.bind, EStateM.bind, h]

theorem bind_apply_error {x : EStateM ε σ α} (hx : x s = .error e s')
    (f : α → EStateM ε σ β) : (x >>= f) s = .error e s' := by
  change EStateM.bind x f s = .error e s'
  rw [EStateM.bind, hx]

/-- Started in the state `s`, the program returns what `P` allows or throws what `E` allows. -/
def Ensures (x : EStateM ε σ α) (s : σ) (P : α → σ → Prop) (E : ε → σ → Prop) : Prop :=
  match x s with
  | .ok a s' => P a s'
  | .error e s' => E e s'

namespace Ensures

theorem pure {P : α → σ → Prop} {E : ε → σ → Prop} (h : P a s) :
    Ensures (Pure.pure a : EStateM ε σ α) s P E := h

theorem throw {P : α → σ → Prop} {E : ε → σ → Prop} (h : E e s) :
    Ensures (MonadExcept.throw e : EStateM ε σ α) s P E := h

theorem bind {x : EStateM ε σ α} {f : α → EStateM ε σ β} {P : β → σ → Prop}
    {Q : α → σ → Prop} {E : ε → σ → Prop} (hx : Ensures x s Q E)
    (hf : ∀ a s', Q a s' → Ensures (f a) s' P E) : Ensures (x >>= f) s P E := by
  change Ensures (EStateM.bind x f) s P E
  rw [Ensures, EStateM.bind]
  rw [Ensures] at hx
  cases he : x s with
  | ok a s' =>
    rw [he] at hx
    exact hf a s' hx
  | error e s' =>
    rw [he] at hx
    exact hx

theorem get_bind {f : σ → EStateM ε σ α} {P : α → σ → Prop} {E : ε → σ → Prop}
    (h : Ensures (f s) s P E) : Ensures (MonadState.get >>= f) s P E := h

theorem tryCatch {x : EStateM ε σ α} {handle : ε → EStateM ε σ α} {P : α → σ → Prop}
    {E F : ε → σ → Prop} (hx : Ensures x s P F)
    (hh : ∀ e s', F e s' → Ensures (handle e) s' P E) :
    Ensures (MonadExcept.tryCatch x handle) s P E := by
  change Ensures (EStateM.tryCatch x handle) s P E
  rw [Ensures] at hx ⊢
  cases he : x s with
  | ok a s' =>
    have ht : EStateM.tryCatch x handle s = .ok a s' := by
      delta EStateM.tryCatch
      simp only [he]
    rw [he] at hx
    rw [ht]
    exact hx
  | error e s' =>
    have ht : EStateM.tryCatch x handle s = handle e s' := by
      delta EStateM.tryCatch
      simp only [he]
      rfl
    rw [he] at hx
    rw [ht]
    exact hh e s' hx

theorem mono {x : EStateM ε σ α} {P Q : α → σ → Prop} {E F : ε → σ → Prop}
    (h : Ensures x s Q F) (hP : ∀ a s', Q a s' → P a s') (hE : ∀ e s', F e s' → E e s') :
    Ensures x s P E := by
  simp only [Ensures] at h ⊢
  cases he : x s with
  | ok a s' =>
    rw [he] at h
    exact hP a s' h
  | error e s' =>
    rw [he] at h
    exact hE e s' h

end Ensures

/-- Whether it returns or throws, the program leaves `f` of the state as it was. -/
def Preserves (f : σ → τ) (x : EStateM ε σ α) : Prop :=
  ∀ s, Ensures x s (fun _ s' => f s' = f s) fun _ s' => f s' = f s

namespace Preserves

theorem pure (f : σ → τ) (a : α) : Preserves f (Pure.pure a : EStateM ε σ α) := fun _ => rfl

theorem throw (f : σ → τ) (e : ε) : Preserves f (MonadExcept.throw e : EStateM ε σ α) :=
  fun _ => rfl

theorem get (f : σ → τ) : Preserves f (MonadState.get : EStateM ε σ σ) := fun _ => rfl

theorem modify {f : σ → τ} {g : σ → σ} (h : ∀ s, f (g s) = f s) :
    Preserves f (modify g : EStateM ε σ PUnit) := h

theorem bind {f : σ → τ} {x : EStateM ε σ α} {g : α → EStateM ε σ β} (hx : Preserves f x)
    (hg : ∀ a, Preserves f (g a)) : Preserves f (x >>= g) := by
  intro s
  apply Ensures.bind (hx s)
  intro a s' hs
  have h := hg a s'
  simp only [hs] at h
  exact h

end Preserves

/-- Whether it returns or throws, the program keeps the invariant `I` of the state. -/
def Maintains (I : σ → Prop) (x : EStateM ε σ α) : Prop :=
  ∀ s, I s → Ensures x s (fun _ s' => I s') fun _ s' => I s'

namespace Maintains

variable {I : σ → Prop}

theorem pure (a : α) : Maintains I (Pure.pure a : EStateM ε σ α) := fun _ hs => hs

theorem throw (e : ε) : Maintains I (MonadExcept.throw e : EStateM ε σ α) := fun _ hs => hs

theorem get : Maintains I (MonadState.get : EStateM ε σ σ) := fun _ hs => hs

theorem modify {f : σ → σ} (h : ∀ s, I s → I (f s)) :
    Maintains I (modify f : EStateM ε σ PUnit) := h

theorem bind {x : EStateM ε σ α} {f : α → EStateM ε σ β} (hx : Maintains I x)
    (hf : ∀ a, Maintains I (f a)) : Maintains I (x >>= f) :=
  fun s hs => Ensures.bind (hx s hs) fun a s' => hf a s'

end Maintains

/-- What is seen of the end of a program through `view`. -/
def observe (view : σ → τ) : Result ε σ α → Result ε τ α
  | .ok a s => .ok a (view s)
  | .error e s => .error e (view s)

/-- How the program ends, seen through `view`, depends only on what `view` shows of its start. -/
def NonInterfering (view : σ → τ) (x : EStateM ε σ α) : Prop :=
  ∀ s s', view s = view s' → observe view (x s) = observe view (x s')

namespace NonInterfering

variable {view : σ → τ}

theorem pure (a : α) : NonInterfering view (Pure.pure a : EStateM ε σ α) :=
  fun _ _ h => congrArg (Result.ok a) h

theorem throw (e : ε) : NonInterfering view (MonadExcept.throw e : EStateM ε σ α) :=
  fun _ _ h => congrArg (Result.error e) h

theorem modify {f : σ → σ} (h : ∀ s s', view s = view s' → view (f s) = view (f s')) :
    NonInterfering view (modify f : EStateM ε σ PUnit) :=
  fun s s' hs => congrArg (Result.ok PUnit.unit) (h s s' hs)

theorem bind {x : EStateM ε σ α} {f : α → EStateM ε σ β} (hx : NonInterfering view x)
    (hf : ∀ a, NonInterfering view (f a)) : NonInterfering view (x >>= f) := by
  intro s s' hs
  have h := hx s s' hs
  change observe view (EStateM.bind x f s) = observe view (EStateM.bind x f s')
  rw [EStateM.bind, EStateM.bind]
  cases he : x s with
  | ok a t =>
    cases he' : x s' with
    | ok a' t' =>
      rw [he, he'] at h
      injection h with ha ht
      subst ha
      exact hf a t t' ht
    | error e' t' =>
      rw [he, he'] at h
      cases h
  | error e t =>
    cases he' : x s' with
    | ok a' t' =>
      rw [he, he'] at h
      cases h
    | error e' t' =>
      rw [he, he'] at h
      injection h with he ht
      subst he
      exact congrArg (Result.error e) ht

theorem get_bind {f : σ → EStateM ε σ α} (hf : ∀ s, NonInterfering view (f s))
    (h : ∀ s s', view s = view s' → f s = f s') :
    NonInterfering view (MonadState.get >>= f) := by
  intro s s' hs
  change observe view (f s s) = observe view (f s' s')
  rw [h s s' hs]
  exact hf s' s s' hs

theorem returns {x : EStateM ε σ α} (h : NonInterfering view x) (hv : view s = view s')
    (hx : x s = .ok a t) : ∃ t', x s' = .ok a t' ∧ view t = view t' := by
  have ho := h s s' hv
  rw [hx] at ho
  cases he : x s' with
  | ok a' t' =>
    rw [he] at ho
    injection ho with ha ht
    subst ha
    exact ⟨t', rfl, ht⟩
  | error e t' =>
    rw [he] at ho
    cases ho

end NonInterfering

/-- Started in the state `s`, the program returns, and as `Q` allows. -/
def Returns (x : EStateM ε σ α) (s : σ) (Q : α → σ → Prop) : Prop :=
  Ensures x s Q fun _ _ => False

section Returns

variable {s : σ}

theorem returns_pure_iff {Q : α → σ → Prop} :
    Returns (Pure.pure a : EStateM ε σ α) s Q ↔ Q a s := Iff.rfl

theorem returns_throw_iff {Q : α → σ → Prop} :
    Returns (MonadExcept.throw e : EStateM ε σ α) s Q ↔ False := Iff.rfl

theorem returns_get_iff {Q : σ → σ → Prop} :
    Returns (MonadState.get : EStateM ε σ σ) s Q ↔ Q s s := Iff.rfl

theorem returns_modify_iff {f : σ → σ} {Q : PUnit → σ → Prop} :
    Returns (modify f : EStateM ε σ PUnit) s Q ↔ Q ⟨⟩ (f s) := Iff.rfl

theorem returns_bind_iff {x : EStateM ε σ α} {f : α → EStateM ε σ β} {Q : β → σ → Prop} :
    Returns (x >>= f) s Q ↔ Returns x s fun a s' => Returns (f a) s' Q := by
  change Returns (EStateM.bind x f) s Q ↔ _
  rw [Returns, Returns, Ensures, Ensures, EStateM.bind]
  cases x s <;> rfl

theorem Preserves.returns {f : σ → τ} {x : EStateM ε σ α} {Q : α → σ → Prop}
    (hx : Preserves f x) (h : Returns x s Q) : ∃ a s', f s' = f s ∧ Q a s' := by
  have hs := hx s
  rw [Returns, Ensures] at h
  rw [Ensures] at hs
  cases he : x s with
  | ok a s' =>
    rw [he] at h hs
    exact ⟨a, s', hs, h⟩
  | error e s' =>
    rw [he] at h
    exact h.elim

end Returns

end EStateM
