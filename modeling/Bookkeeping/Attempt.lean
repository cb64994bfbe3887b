/-!
# Attempts

An `Attempt σ ε α` is a step over a state `σ` that answers an `α` or fails with an `ε`.  What the
step changed before it failed stays changed: `exec` gives the result together with the state left
behind.  `Along` says of every item of a list what holds of it where its step starts, as far as the
steps before succeed.
-/

namespace Bookkeeping

/-- A step over a state that may fail and keeps what it changed before it failed. -/
abbrev Attempt (σ ε α : Type) := ExceptT ε (StateM σ) α

namespace Attempt

variable {σ τ ε α : Type}

/-- The result of the step and the state that it leaves. -/
def exec (x : Attempt σ ε α) (s : σ) : Except ε α × σ := StateT.run (ExceptT.run x) s

/-- The step with this result, which leaves the state alone. -/
def ofExcept (r : Except ε α) : Attempt σ ε α := ExceptT.mk (pure r)

/-- The step that is given by its result and the state that it leaves. -/
def ofExec (f : σ → Except ε α × σ) : Attempt σ ε α := ExceptT.mk (StateT.mk f)

/-- The step that changes the state as `f` says, or fails with it and changes nothing. -/
def update (f : σ → Except ε σ) : Attempt σ ε Unit :=
  ofExec fun s =>
    match f s with
    | .ok s' => (.ok (), s')
    | .error e => (.error e, s)

/-- The step on a part of a larger state. -/
def onPart (part : τ → σ) (put : σ → τ → τ) (x : Attempt σ ε α) : Attempt τ ε α :=
  ofExec fun t => ((x.exec (part t)).1, put (x.exec (part t)).2 t)

/-- The state after the step, if it succeeds. -/
def after (x : Attempt σ ε Unit) (s : σ) : Except ε σ :=
  match x.exec s with
  | (.ok _, s') => .ok s'
  | (.error e, _) => .error e

/-- The step with its failures put in other words. -/
def mapError {δ : Type} (f : ε → δ) (x : Attempt σ ε α) : Attempt σ δ α :=
  ofExec fun s => ((x.exec s).1.mapError f, (x.exec s).2)

theorem exec_ofExcept (r : Except ε α) (s : σ) : (ofExcept r : Attempt σ ε α).exec s = (r, s) := rfl

theorem exec_get (s : σ) : (get : Attempt σ ε σ).exec s = (.ok s, s) := rfl

theorem exec_modify (f : σ → σ) (s : σ) :
    (modify f : Attempt σ ε PUnit).exec s = (.ok ⟨⟩, f s) := rfl

theorem exec_update (f : σ → Except ε σ) (s : σ) :
    (update f).exec s =
      match f s with
      | .ok s' => (.ok (), s')
      | .error e => (.error e, s) := rfl

theorem exec_update_eq_ok_iff {f : σ → Except ε σ} {s t : σ} :
    (update f).exec s = (.ok (), t) ↔ f s = .ok t := by
  rw [exec_update]
  cases f s <;> simp

theorem exec_onPart (part : τ → σ) (put : σ → τ → τ) (x : Attempt σ ε α) (t : τ) :
    (x.onPart part put).exec t = ((x.exec (part t)).1, put (x.exec (part t)).2 t) := rfl

theorem exec_bind {β : Type} (x : Attempt σ ε α) (f : α → Attempt σ ε β) (s : σ) :
    (x >>= f).exec s =
      match x.exec s with
      | (.ok a, s') => (f a).exec s'
      | (.error e, s') => (.error e, s') := by
  simp only [exec, ExceptT.run_bind, StateT.run_bind]
  rcases StateT.run (ExceptT.run x) s with ⟨r, s'⟩
  cases r <;> rfl

theorem exec_forM_nil {β : Type} (f : β → Attempt σ ε Unit) (s : σ) :
    (([] : List β).forM f).exec s = (.ok (), s) := rfl

theorem exec_forM_cons {β : Type} (f : β → Attempt σ ε Unit) (b : β) (l : List β) (s : σ) :
    ((b :: l).forM f).exec s =
      match (f b).exec s with
      | (.ok _, s') => (l.forM f).exec s'
      | (.error e, s') => (.error e, s') := by
  show (f b >>= fun _ => l.forM f).exec s = _
  rw [exec_bind]
  rcases (f b).exec s with ⟨r, s'⟩
  cases r <;> rfl

theorem exec_bind_ok {β : Type} {x : Attempt σ ε α} {f : α → Attempt σ ε β} {s s' : σ} {b : β}
    (h : (x >>= f).exec s = (.ok b, s')) :
    ∃ a s₁, x.exec s = (.ok a, s₁) ∧ (f a).exec s₁ = (.ok b, s') := by
  rw [exec_bind] at h
  rcases hx : x.exec s with ⟨r, s₁⟩
  rw [hx] at h
  cases r with
  | ok a => exact ⟨a, s₁, rfl, h⟩
  | error _ => cases h

theorem exec_forM_cons_ok {β : Type} {f : β → Attempt σ ε Unit} {b : β} {l : List β} {s s' : σ}
    (h : ((b :: l).forM f).exec s = (.ok (), s')) :
    ∃ s₁, (f b).exec s = (.ok (), s₁) ∧ (l.forM f).exec s₁ = (.ok (), s') := by
  obtain ⟨_, s₁, hb, hl⟩ := exec_bind_ok (x := f b) (f := fun _ => l.forM f) h
  exact ⟨s₁, hb, hl⟩

/-! ## Along a run -/

section

variable {β : Type}

/-- As far as the steps for these items succeed one after the other, this holds of each item and the
state that it meets. -/
def Along (f : β → Attempt σ ε Unit) (R : σ → β → Prop) : σ → List β → Prop
  | _, [] => True
  | s, b :: l => R s b ∧ ∀ t, (f b).exec s = (.ok (), t) → Along f R t l

variable {f : β → Attempt σ ε Unit} {R Q : σ → β → Prop} {I : σ → Prop} {s t : σ} {l l' : List β}

theorem Along.of_append (h : Along f R s (l ++ l')) : Along f R s l := by
  induction l generalizing s with
  | nil => trivial
  | cons b l ih => exact ⟨h.1, fun t hb => ih (h.2 t hb)⟩

theorem Along.and (hR : Along f R s l) (hQ : Along f Q s l) :
    Along f (fun s b => R s b ∧ Q s b) s l := by
  induction l generalizing s with
  | nil => trivial
  | cons b l ih => exact ⟨⟨hR.1, hQ.1⟩, fun t hb => ih (hR.2 t hb) (hQ.2 t hb)⟩

/-- A run that succeeds does so at every item. -/
theorem along_of_exec (h : (l.forM f).exec s = (.ok (), t)) :
    Along f (fun s b => ∃ t, (f b).exec s = (.ok (), t)) s l := by
  induction l generalizing s with
  | nil => trivial
  | cons b l ih =>
    obtain ⟨s₁, hb, hl⟩ := exec_forM_cons_ok h
    refine ⟨⟨s₁, hb⟩, fun t' ht => ?_⟩
    obtain rfl : s₁ = t' := congrArg Prod.snd (hb.symm.trans ht)
    exact ih hl

/-- What follows at each item from what holds there and an invariant follows along the run, and the
invariant holds where the run ends. -/
theorem Along.keeps (h : Along f R s l) (hs : I s)
    (hstep : ∀ s, ∀ b ∈ l, I s → R s b → Q s b ∧ ∀ t, (f b).exec s = (.ok (), t) → I t) :
    Along f Q s l ∧ ∀ t, (l.forM f).exec s = (.ok (), t) → I t := by
  induction l generalizing s with
  | nil =>
    refine ⟨trivial, fun t ht => ?_⟩
    cases ht
    exact hs
  | cons b l ih =>
    obtain ⟨hQ, hI⟩ := hstep s b (.head _) hs h.1
    have hrest {t : σ} (hb : (f b).exec s = (.ok (), t)) :=
      ih (h.2 t hb) (hI t hb) fun s c hc => hstep s c (.tail _ hc)
    refine ⟨⟨hQ, fun t hb => (hrest hb).1⟩, fun t ht => ?_⟩
    obtain ⟨s₁, hb, hl⟩ := exec_forM_cons_ok ht
    exact (hrest hb).2 t hl

end

end Attempt

section

variable {ε α β : Type} {x : Except ε α} {b : β}

theorem exists_of_map_eq_ok {f : α → β} (h : x.map f = .ok b) : ∃ a, x = .ok a ∧ b = f a := by
  cases x with
  | error _ => cases h
  | ok a => exact ⟨a, rfl, (Except.ok.inj h).symm⟩

theorem exists_of_bind_eq_ok {f : α → Except ε β} (h : x.bind f = .ok b) :
    ∃ a, x = .ok a ∧ f a = .ok b := by
  cases x with
  | error _ => cases h
  | ok a => exact ⟨a, rfl, h⟩

end

end Bookkeeping
