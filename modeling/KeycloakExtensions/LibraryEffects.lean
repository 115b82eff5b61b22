import Mathlib.Control.Monad.Basic

/-! Computations that change a state and may throw, where the changes made before a throw
stay. Nothing here is about a particular program: a body of code is a term of `Effect`, and
the rules below say what one execution of it returns and leaves behind. -/
namespace LibraryEffects

/-- The state sits under the exception layer, so a throw does not roll it back. -/
abbrev Effect (σ ε : Type) := ExceptT ε (StateM σ)

variable {σ ε α β : Type}

/-- One execution from a starting state: what is returned or thrown, and the state left. -/
def exec (x : Effect σ ε α) (s : σ) : Except ε α × σ := StateT.run (ExceptT.run x) s

@[simp] theorem exec_pure (a : α) (s : σ) : exec (pure a : Effect σ ε α) s = (.ok a, s) := rfl

@[simp] theorem exec_throw (e : ε) (s : σ) :
    exec (throw e : Effect σ ε α) s = (.error e, s) := rfl

@[simp] theorem exec_get (s : σ) : exec (get : Effect σ ε σ) s = (.ok s, s) := rfl

@[simp] theorem exec_modify (f : σ → σ) (s : σ) :
    exec (modify f : Effect σ ε PUnit) s = (.ok ⟨⟩, f s) := rfl

def andThen (f : α → Effect σ ε β) : Except ε α × σ → Except ε β × σ
  | (.ok a, t) => exec (f a) t
  | (.error e, t) => (.error e, t)

@[simp] theorem andThen_ok (f : α → Effect σ ε β) (a : α) (t : σ) :
    andThen f (.ok a, t) = exec (f a) t := rfl

@[simp] theorem andThen_error (f : α → Effect σ ε β) (e : ε) (t : σ) :
    andThen f (.error e, t) = (.error e, t) := rfl

@[simp] theorem exec_bind (x : Effect σ ε α) (f : α → Effect σ ε β) (s : σ) :
    exec (x >>= f) s = andThen f (exec x s) := by
  simp only [exec, ExceptT.run, StateT.run]
  simp only [bind, ExceptT.bind, ExceptT.mk, StateT.bind, ExceptT.bindCont]
  cases x s with
  | mk r t => cases r <;> rfl

def recover (h : ε → Effect σ ε α) : Except ε α × σ → Except ε α × σ
  | (.ok a, t) => (.ok a, t)
  | (.error e, t) => exec (h e) t

@[simp] theorem recover_ok (h : ε → Effect σ ε α) (a : α) (t : σ) :
    recover h (.ok a, t) = (.ok a, t) := rfl

@[simp] theorem recover_error (h : ε → Effect σ ε α) (e : ε) (t : σ) :
    recover h (.error e, t) = exec (h e) t := rfl

@[simp] theorem exec_tryCatch (x : Effect σ ε α) (h : ε → Effect σ ε α) (s : σ) :
    exec (tryCatch x h) s = recover h (exec x s) := by
  simp only [exec, ExceptT.run, StateT.run]
  simp only [tryCatch, tryCatchThe, MonadExceptOf.tryCatch, ExceptT.tryCatch, ExceptT.mk,
    bind, StateT.bind]
  cases x s with
  | mk r t => cases r <;> rfl

@[simp] theorem exec_map (g : α → β) (x : Effect σ ε α) (s : σ) :
    exec (g <$> x) s = andThen (fun a => pure (g a)) (exec x s) := by
  rw [map_eq_pure_bind, exec_bind]

@[simp] theorem exec_ite (c : Prop) [Decidable c] (x y : Effect σ ε α) (s : σ) :
    exec (if c then x else y) s = if c then exec x s else exec y s := by
  split <;> rfl

@[simp] theorem exec_ofExcept (r : Except ε α) (s : σ) :
    exec (ofExcept r : Effect σ ε α) s = (r, s) := by
  cases r <;> rfl

end LibraryEffects
