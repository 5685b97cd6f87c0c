import PagedTable.Act

namespace PagedTable.Act

variable {σ α β : Type}

theorem bind_ok {x : Except Fault α} {f : α → Except Fault β} {b : β} (done : (x >>= f) = .ok b) :
    ∃ a, x = .ok a ∧ f a = .ok b := by
  cases x with
  | error e => cases done
  | ok a => exact ⟨a, rfl, done⟩

@[simp] theorem outcome_pure (x : α) (s : σ) : (pure x : Act σ α).outcome s = (.ok x, s) := rfl

@[simp] theorem outcome_throw (e : Fault) (s : σ) : (throw e : Act σ α).outcome s = (.error e, s) := rfl

@[simp] theorem outcome_get (s : σ) : (get : Act σ σ).outcome s = (.ok s, s) := rfl

@[simp] theorem outcome_change (f : σ → σ) (s : σ) : (change f).outcome s = (.ok (), f s) := rfl

@[simp] theorem outcome_result (r : Except Fault α) (s : σ) : (result r).outcome s = (r, s) := rfl

@[simp] theorem outcome_update (f : σ → σ × Except Fault α) (s : σ) :
    (update f).outcome s = ((f s).2, (f s).1) := rfl

@[simp] theorem outcome_of (f : σ → Except Fault α × σ) (s : σ) : (of f).outcome s = f s := rfl

@[simp] theorem outcome_attempt (a : Act σ α) (s : σ) :
    a.attempt.outcome s = (.ok (a.outcome s).1, (a.outcome s).2) := rfl

theorem outcome_bind (a : Act σ α) (f : α → Act σ β) (s : σ) :
    (a >>= f).outcome s =
      match a.outcome s with
      | (.ok x, s) => (f x).outcome s
      | (.error e, s) => (.error e, s) := by
  change (ExceptT.bind a f).run s = _
  unfold ExceptT.bind ExceptT.bindCont
  rcases h : a.outcome s with ⟨r, s'⟩
  have ran : a.run s = (r, s') := h
  simp only [ExceptT.run, ExceptT.mk, bind, StateT.bind] at ran ⊢
  rw [ran]
  cases r <;> rfl

theorem outcome_bind_ok {a : Act σ α} {f : α → Act σ β} {s t : σ} {x : α}
    (first : a.outcome s = (.ok x, t)) : (a >>= f).outcome s = (f x).outcome t := by
  rw [outcome_bind, first]

@[simp] theorem outcome_change_bind (f : σ → σ) (g : Unit → Act σ β) (s : σ) :
    (change f >>= g).outcome s = (g ()).outcome (f s) := outcome_bind_ok rfl

@[simp] theorem outcome_get_bind (g : σ → Act σ β) (s : σ) :
    ((get : Act σ σ) >>= g).outcome s = (g s).outcome s := outcome_bind_ok rfl

theorem after_eq (a : Act σ α) (s : σ) : a.after s = (a.outcome s).2 := rfl

@[simp] theorem after_pure (x : α) (s : σ) : (pure x : Act σ α).after s = s := rfl

@[simp] theorem after_change (f : σ → σ) (s : σ) : (change f).after s = f s := rfl

theorem after_bind (a : Act σ α) (f : α → Act σ β) (s : σ) :
    (a >>= f).after s =
      match a.outcome s with
      | (.ok x, s) => (f x).after s
      | (.error _, s) => s := by
  rw [after_eq, outcome_bind]
  rcases a.outcome s with ⟨e | x, s'⟩ <;> rfl

theorem after_bind_leads (leads : σ → σ → Prop) (trans : ∀ {s t u}, leads s t → leads t u → leads s u)
    {a : Act σ α} {f : α → Act σ β} {s : σ} (first : leads s (a.after s))
    (second : ∀ x t, leads t ((f x).after t)) : leads s ((a >>= f).after s) := by
  rw [after_eq] at first
  rw [after_bind]
  rcases reached : a.outcome s with ⟨e | x, t⟩ <;> rw [reached] at first
  · exact first
  · exact trans first (second x t)

theorem after_bind_pure (a : Act σ α) (f : α → β) (s : σ) :
    (a >>= fun x => pure (f x)).after s = a.after s := by
  rw [after_bind, after_eq]
  rcases a.outcome s with ⟨e | x, s'⟩ <;> rfl

@[simp] theorem after_change_bind (f : σ → σ) (g : Unit → Act σ β) (s : σ) :
    (change f >>= g).after s = (g ()).after (f s) := by rw [after_bind]; rfl

@[simp] theorem after_get_bind (g : σ → Act σ β) (s : σ) :
    ((get : Act σ σ) >>= g).after s = (g s).after s := by rw [after_bind]; rfl

@[simp] theorem after_result_bind (r : Except Fault α) (g : α → Act σ β) (s : σ) :
    (result r >>= g).after s =
      match r with
      | .ok x => (g x).after s
      | .error _ => s := by
  rw [after_bind]
  cases r <;> rfl

@[simp] theorem after_attempt_bind (a : Act σ α) (g : Except Fault α → Act σ β) (s : σ) :
    (a.attempt >>= g).after s = (g (a.outcome s).1).after (a.after s) := by rw [after_bind]; rfl

theorem outcome_onFault (a : Act σ α) (f : σ → σ) (s : σ) :
    (a.onFault f).outcome s =
      match a.outcome s with
      | (.ok x, s) => (.ok x, s)
      | (.error e, s) => (.error e, f s) := rfl

theorem outcome_onFault_ok {a : Act σ α} {f : σ → σ} {s t : σ} {x : α}
    (first : a.outcome s = (.ok x, t)) : (a.onFault f).outcome s = (.ok x, t) := by
  rw [outcome_onFault, first]

theorem outcome_onFault_error {a : Act σ α} {f : σ → σ} {s t : σ} {e : Fault}
    (first : a.outcome s = (.error e, t)) : (a.onFault f).outcome s = (.error e, f t) := by
  rw [outcome_onFault, first]

end PagedTable.Act
