/-!
Computations over a state that may stop early, and what they make of the state however they end.
-/

namespace LineEditor

variable {ε σ α β : Type}

/-! ### Running step by step -/

theorem run_get (s : σ) : (get : ExceptT ε (StateM σ) σ).run s = (.ok s, s) := rfl

theorem run_modify (f : σ → σ) (s : σ) :
    (modify f : ExceptT ε (StateM σ) PUnit).run s = (.ok ⟨⟩, f s) := rfl

theorem run_bind (first : ExceptT ε (StateM σ) α) (next : α → ExceptT ε (StateM σ) β) (s : σ) :
    (first >>= next).run s =
      match first.run s with
      | (.ok a, s) => (next a).run s
      | (.error e, s) => (.error e, s) := by
  simp only [bind, ExceptT.bind, ExceptT.run, ExceptT.mk, StateT.bind]
  rcases first s with ⟨_ | a, after⟩ <;> rfl

theorem run_tryCatch (first : ExceptT ε (StateM σ) α) (handle : ε → ExceptT ε (StateM σ) α)
    (s : σ) :
    (tryCatch first handle).run s =
      match first.run s with
      | (.ok a, s) => (.ok a, s)
      | (.error e, s) => (handle e).run s := by
  simp only [tryCatch, tryCatchThe, MonadExceptOf.tryCatch, ExceptT.tryCatch, ExceptT.run,
    ExceptT.mk, bind, StateT.bind]
  rcases first s with ⟨_ | a, after⟩ <;> rfl

/-! ### Relating the state before to the state after -/

/-- A relation of states that single steps may be put together in. -/
structure Steady (R : σ → σ → Prop) : Prop where
  refl : ∀ s, R s s
  trans : ∀ {a b c}, R a b → R b c → R a c

/-- However the computation ends, it has led from any state to a related one. -/
def Keeps (R : σ → σ → Prop) (m : ExceptT ε (StateM σ) α) : Prop := ∀ s, R s (m.run s).2

def Still (m : ExceptT ε (StateM σ) α) : Prop := ∀ s, (m.run s).2 = s

section
variable {R : σ → σ → Prop}

theorem Keeps.of_run {m : ExceptT ε (StateM σ) α} (kept : Keeps R m) {s after : σ}
    {result : Except ε α} (ran : m.run s = (result, after)) : R s after := by
  have led := kept s
  rwa [ran] at led

theorem Steady.pure (steady : Steady R) (a : α) :
    Keeps R (pure a : ExceptT ε (StateM σ) α) := steady.refl

theorem Steady.throw (steady : Steady R) (e : ε) :
    Keeps R (throw e : ExceptT ε (StateM σ) α) := steady.refl

theorem Steady.get (steady : Steady R) : Keeps R (get : ExceptT ε (StateM σ) σ) := steady.refl

theorem keeps_modify {f : σ → σ} (related : ∀ s, R s (f s)) :
    Keeps R (modify f : ExceptT ε (StateM σ) PUnit) := related

theorem Steady.bind (steady : Steady R) {first : ExceptT ε (StateM σ) α}
    {next : α → ExceptT ε (StateM σ) β} (before : Keeps R first) (after : ∀ a, Keeps R (next a)) :
    Keeps R (first >>= next) := by
  intro s
  have led := before s
  rw [run_bind]
  rcases ran : first.run s with ⟨_ | a, middle⟩ <;> rw [ran] at led
  · exact led
  · exact steady.trans led (after a middle)

theorem Steady.throw_bind (steady : Steady R) (e : ε) (next : α → ExceptT ε (StateM σ) β) :
    Keeps R (MonadExcept.throw e >>= next) := steady.refl

theorem Steady.tryCatch (steady : Steady R) {first : ExceptT ε (StateM σ) α}
    {handle : ε → ExceptT ε (StateM σ) α} (before : Keeps R first)
    (after : ∀ e, Keeps R (handle e)) : Keeps R (tryCatch first handle) := by
  intro s
  have led := before s
  rw [run_tryCatch]
  rcases ran : first.run s with ⟨e | _, middle⟩ <;> rw [ran] at led
  · exact steady.trans led (after e middle)
  · exact led

end

end LineEditor
