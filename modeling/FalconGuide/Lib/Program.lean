namespace FalconGuide.Lib

/-!
# Sequential programs that throw, terminate the process, or block for ever

Code that runs on one thread over a state `σ`.

* `Failure` / `Program` — the three ways in which a call does not return, and the monad;
* `Program.tryCatch` — only an exception can be caught;
* `Program.zoom` / `Program.destroy` — a member function, and a destructor, of an object that
  the state owns;
* `Program.Ensures` — partial correctness with one postcondition for a normal return and one
  for an exception, and its rules;
* `Program.Returns` / `Program.Stuck` — a call that returns, and a call that never does;
* `Program.finalState` / `Program.Preserves` — where a call ends, by a failure or not, and a part
  of the state that it leaves alone.
-/

/-- The ways in which a call does not return. -/
inductive Failure
  /-- An exception with its `what()`. -/
  | exception (what : String)
  /-- The process is terminated. -/
  | terminated
  /-- The thread blocks for ever: it locks a mutex it already holds, or joins itself. -/
  | deadlock
  deriving DecidableEq, Repr

/-- A program over the state `σ`; the state changes made before a failure stay. -/
abbrev Program (σ α : Type) := EStateM Failure σ α

namespace Program

variable {σ α β : Type}

/-- The result of running `m` from `s`. -/
abbrev run (m : Program σ α) (s : σ) : EStateM.Result Failure σ α := m s

@[simp] theorem run_pure (a : α) (s : σ) : run (pure a : Program σ α) s = .ok a s := rfl
@[simp] theorem run_get (s : σ) : run (get : Program σ σ) s = .ok s s := rfl
@[simp] theorem run_modify (f : σ → σ) (s : σ) :
    run (modify f : Program σ PUnit) s = .ok ⟨⟩ (f s) := rfl
@[simp] theorem run_throw (e : Failure) (s : σ) :
    run (throw e : Program σ α) s = .error e s := rfl

theorem run_bind (m : Program σ α) (f : α → Program σ β) (s : σ) :
    run (m >>= f) s = match run m s with
      | .ok a t => run (f a) t
      | .error e t => .error e t := by
  show EStateM.bind m f s = _
  rw [EStateM.bind, run]
  cases m s <;> rfl

@[simp] theorem run_map (f : α → β) (m : Program σ α) (s : σ) :
    run (f <$> m) s = match run m s with
      | .ok a t => .ok (f a) t
      | .error e t => .error e t := by
  show EStateM.map f m s = _
  rw [EStateM.map, run]
  cases m s <;> rfl

/-- A sequence whose first part returns goes on with the second. -/
theorem run_bind_ok {m : Program σ α} {f : α → Program σ β} {s t : σ} {a : α}
    (h : run m s = .ok a t) : run (m >>= f) s = run (f a) t := by
  rw [run_bind, h]

/-- A sequence whose first part fails fails the same way. -/
theorem run_bind_error {m : Program σ α} {f : α → Program σ β} {s t : σ} {e : Failure}
    (h : run m s = .error e t) : run (m >>= f) s = .error e t := by
  rw [run_bind, h]

/-- `try m catch h`. -/
def tryCatch (m : Program σ α) (h : String → Program σ α) : Program σ α := fun s =>
  match m s with
  | .error (.exception what) t => h what t
  | r => r

theorem run_tryCatch (m : Program σ α) (h : String → Program σ α) (s : σ) :
    run (tryCatch m h) s = match run m s with
      | .error (.exception what) t => run (h what) t
      | r => r := rfl

/-- Runs `m` on the part of the state that `part` and `put` give access to. -/
def zoom {τ : Type} (part : σ → τ) (put : τ → σ → σ) (m : Program τ α) : Program σ α := fun s =>
  match run m (part s) with
  | .ok a t => .ok a (put t s)
  | .error e t => .error e (put t s)

/-- Runs the destructor `m` of the object `v`: an exception that leaves it terminates the
    process. -/
def destroy {τ : Type} (m : Program τ PUnit) (v : τ) : Program σ PUnit := fun s =>
  match run m v with
  | .ok _ _ => .ok ⟨⟩ s
  | .error .deadlock _ => .error .deadlock s
  | .error _ _ => .error .terminated s

theorem run_zoom {τ : Type} (part : σ → τ) (put : τ → σ → σ) (m : Program τ α) (s : σ) :
    run (zoom part put m) s = match run m (part s) with
      | .ok a t => .ok a (put t s)
      | .error e t => .error e (put t s) := rfl

theorem run_destroy {τ : Type} (m : Program τ PUnit) (v : τ) (s : σ) :
    run (destroy m v) s = match run m v with
      | .ok _ _ => .ok ⟨⟩ s
      | .error .deadlock _ => .error .deadlock s
      | .error _ _ => .error .terminated s := rfl

/-! ### Partial correctness -/

/-- From a state in `P`, `m` returns only in `Q` and throws only in `E`. -/
def Ensures (P : σ → Prop) (m : Program σ α) (Q : α → σ → Prop) (E : String → σ → Prop) :
    Prop :=
  ∀ s, P s → match run m s with
    | .ok a t => Q a t
    | .error (.exception what) t => E what t
    | .error _ _ => True

/-- `m` does not return and does not throw from a state in `P`. -/
def Stuck (P : σ → Prop) (m : Program σ α) : Prop :=
  Ensures P m (fun _ _ => False) (fun _ _ => False)

/-- `m` stays in `P`, also when it throws. -/
def Keeps (P : σ → Prop) (m : Program σ α) : Prop :=
  Ensures P m (fun _ => P) (fun _ => P)

/-- `m` returns from `s`. -/
def Returns (m : Program σ α) (s : σ) : Prop := ∃ a t, run m s = .ok a t

section Rules

variable {P P' : σ → Prop} {Q Q' : α → σ → Prop} {R : β → σ → Prop} {E E' : String → σ → Prop}
  {m : Program σ α} {f : α → Program σ β}

theorem Ensures.mono (h : Ensures P m Q E) (hP : ∀ s, P' s → P s)
    (hQ : ∀ a s, Q a s → Q' a s) (hE : ∀ w s, E w s → E' w s) : Ensures P' m Q' E' := by
  intro s hs
  have := h s (hP s hs)
  revert this
  cases run m s with
  | ok a t => exact hQ a t
  | error e t =>
    cases e with
    | exception w => exact hE w t
    | terminated => exact id
    | deadlock => exact id

/-- Nothing is said about the state. -/
theorem ensures_true : Ensures P m (fun _ _ => True) (fun _ _ => True) := by
  intro s _
  cases run m s with
  | ok a t => trivial
  | error e t => cases e <;> trivial

theorem ensures_pure {a : α} (h : ∀ s, P s → Q a s) : Ensures P (pure a) Q E :=
  fun s hs => h s hs

theorem ensures_modify {g : σ → σ} {Q : PUnit → σ → Prop} (h : ∀ s, P s → Q ⟨⟩ (g s)) :
    Ensures P (modify g) Q E :=
  fun s hs => h s hs

/-- A read of the whole state. -/
theorem Ensures.bind_get {f : σ → Program σ β}
    (h : ∀ s, P s → Ensures (· = s) (f s) R E) : Ensures P (get >>= f) R E :=
  fun s hs => h s hs s rfl

/-- Sequencing. -/
theorem Ensures.bind (hm : Ensures P m Q E) (hf : ∀ a, Ensures (Q a) (f a) R E) :
    Ensures P (m >>= f) R E := by
  intro s hs
  have h := hm s hs
  rw [run_bind]
  revert h
  cases run m s with
  | ok a t => exact hf a t
  | error e t => cases e <;> exact id

/-- An exception is handed to the handler. -/
theorem Ensures.tryCatch {h : String → Program σ α} {F : String → σ → Prop}
    (hm : Ensures P m Q F) (hh : ∀ w, Ensures (F w) (h w) Q E) :
    Ensures P (tryCatch m h) Q E := by
  intro s hs
  have hr := hm s hs
  rw [run_tryCatch]
  revert hr
  cases run m s with
  | ok a t => exact id
  | error e t =>
    cases e with
    | exception w => exact hh w t
    | terminated => exact id
    | deadlock => exact id

/-- A member function of a part of the state. -/
theorem Ensures.zoom {τ : Type} {part : σ → τ} {put : τ → σ → σ} {m : Program τ α}
    {p : τ → Prop} {q : α → τ → Prop} {e : String → τ → Prop} (hm : Ensures p m q e)
    (hP : ∀ s, P s → p (part s)) (hQ : ∀ s, P s → ∀ a v, q a v → Q a (put v s))
    (hE : ∀ s, P s → ∀ w v, e w v → E w (put v s)) : Ensures P (Program.zoom part put m) Q E := by
  intro s hs
  have h := hm (part s) (hP s hs)
  rw [run_zoom]
  revert h
  cases run m (part s) with
  | ok a v => exact hQ s hs a v
  | error x v =>
    cases x with
    | exception w => exact hE s hs w v
    | terminated => exact id
    | deadlock => exact id

/-- A destructor does not change what its object is destroyed in, and throws nothing. -/
theorem ensures_destroy {τ : Type} {m : Program τ PUnit} {v : τ} :
    Ensures P (destroy m v) (fun _ => P) (fun _ _ => False) := by
  intro s hs
  rw [run_destroy]
  cases run m v with
  | ok a t => exact hs
  | error x t => cases x <;> trivial

/-- A destructor that does not return blocks or terminates the process. -/
theorem stuck_destroy {τ : Type} {m : Program τ PUnit} {v : τ} (h : ¬ Returns m v) :
    Stuck P (destroy m v) := by
  intro s _
  rw [run_destroy]
  cases hr : run m v with
  | ok a t => exact h ⟨a, t, hr⟩
  | error x t => cases x <;> trivial

/-- A program that is stuck never returns. -/
theorem Stuck.not_returns (h : Stuck P m) {s : σ} (hs : P s) : ¬ Returns m s := by
  rintro ⟨a, t, hr⟩
  have := h s hs
  rw [hr] at this
  exact this

/-- A sequence is stuck where its first part is. -/
theorem Stuck.bind_left (h : Stuck P m) : Stuck P (m >>= f) :=
  Ensures.bind h (fun _ _ hF => hF.elim)

/-- A sequence is stuck where its first part leads to a stuck second one. -/
theorem Stuck.bind (hm : Ensures P m Q (fun _ _ => False)) (hf : ∀ a, Stuck (Q a) (f a)) :
    Stuck P (m >>= f) :=
  Ensures.bind hm hf

end Rules

/-! ### Frames -/

/-- The state in which `m` ends. -/
def finalState (m : Program σ α) (s : σ) : σ :=
  match run m s with
  | .ok _ t => t
  | .error _ t => t

/-- `m` leaves the part `f` of the state as it is, however it ends. -/
def Preserves {τ : Type} (f : σ → τ) (m : Program σ α) : Prop := ∀ s, f (finalState m s) = f s

section Frames

variable {τ : Type} {part : σ → τ} {m : Program σ α} {f : α → Program σ β}

theorem finalState_bind_ok {s t : σ} {a : α} (h : run m s = .ok a t) :
    finalState (m >>= f) s = finalState (f a) t := by
  rw [finalState, run_bind_ok h, finalState]

/-- What follows `m` leaves the part alone. -/
theorem finalState_bind (part : σ → τ) (h : ∀ a, Preserves part (f a)) (s : σ) :
    part (finalState (m >>= f) s) = part (finalState m s) := by
  rw [finalState, run_bind, finalState]
  cases run m s with
  | ok a t => exact h a t
  | error e t => rfl

/-- The handler of `m` leaves the part alone. -/
theorem finalState_tryCatch (part : σ → τ) {h : String → Program σ α}
    (hh : ∀ what, Preserves part (h what)) (s : σ) :
    part (finalState (tryCatch m h) s) = part (finalState m s) := by
  rw [finalState, run_tryCatch, finalState]
  cases run m s with
  | ok a t => rfl
  | error e t =>
    cases e with
    | exception what => exact hh what t
    | terminated => rfl
    | deadlock => rfl

theorem preserves_pure (a : α) : Preserves part (pure a : Program σ α) := fun _ => rfl

theorem preserves_throw (e : Failure) : Preserves part (throw e : Program σ α) := fun _ => rfl

theorem preserves_modify {g : σ → σ} (h : ∀ s, part (g s) = part s) :
    Preserves part (modify g : Program σ PUnit) := h

/-- Sequencing. -/
theorem Preserves.bind (hm : Preserves part m) (hf : ∀ a, Preserves part (f a)) :
    Preserves part (m >>= f) := fun s => (finalState_bind part hf s).trans (hm s)

/-- A read of the whole state. -/
theorem preserves_bind_get {f : σ → Program σ β} (hf : ∀ s, Preserves part (f s)) :
    Preserves part (get >>= f) := fun s => hf s s

theorem Preserves.tryCatch {h : String → Program σ α} (hm : Preserves part m)
    (hh : ∀ what, Preserves part (h what)) : Preserves part (tryCatch m h) :=
  fun s => (finalState_tryCatch part hh s).trans (hm s)

/-- A member function of another part of the state. -/
theorem preserves_zoom {ρ : Type} {get : σ → ρ} {put : ρ → σ → σ} (m : Program ρ α)
    (h : ∀ v s, part (put v s) = part s) :
    Preserves part (zoom get put m) := by
  intro s
  rw [finalState, run_zoom]
  cases run m (get s) with
  | ok a v => exact h v s
  | error e v => exact h v s

/-- A destructor changes nothing of the state. -/
theorem preserves_destroy {ρ : Type} (m : Program ρ PUnit) (v : ρ) :
    Preserves part (destroy m v : Program σ PUnit) := by
  intro s
  rw [finalState, run_destroy]
  cases run m v with
  | ok a u => rfl
  | error e u => cases e <;> rfl

end Frames

end Program

end FalconGuide.Lib
