import BundleLens.Unpack

namespace BundleLens

instance decidableEqExcept {ε α : Type} [DecidableEq ε] [DecidableEq α] :
    DecidableEq (Except ε α)
  | .ok a, .ok b => decidable_of_iff (a = b) ⟨congrArg _, Except.ok.inj⟩
  | .error e, .error f => decidable_of_iff (e = f) ⟨congrArg _, Except.error.inj⟩
  | .ok _, .error _ => .isFalse nofun
  | .error _, .ok _ => .isFalse nofun

@[simp] theorem ok_bind {ε α β : Type} (a : α) (f : α → Except ε β) : (.ok a >>= f) = f a := rfl

@[simp] theorem error_bind {ε α β : Type} (e : ε) (f : α → Except ε β) :
    (.error e >>= f) = .error e := rfl

@[simp] theorem map_ok {ε α β : Type} (f : α → β) (a : α) : f <$> (.ok a : Except ε α) = .ok (f a) := rfl

@[simp] theorem map_error {ε α β : Type} (f : α → β) (e : ε) :
    f <$> (.error e : Except ε α) = .error e := rfl

@[simp] theorem mapError_ok {ε ε' α : Type} (f : ε → ε') (a : α) :
    (.ok a : Except ε α).mapError f = .ok a := rfl

@[simp] theorem mapError_error {ε ε' α : Type} (f : ε → ε') (e : ε) :
    (.error e : Except ε α).mapError f = .error (f e) := rfl

theorem bind_eq_ok_iff {ε α β : Type} {x : Except ε α} {f : α → Except ε β} {b : β} :
    (x >>= f) = .ok b ↔ ∃ a, x = .ok a ∧ f a = .ok b := by
  cases x <;> simp

theorem bind_eq_error_iff {ε α β : Type} {x : Except ε α} {f : α → Except ε β} {e : ε} :
    (x >>= f) = .error e ↔ x = .error e ∨ ∃ a, x = .ok a ∧ f a = .error e := by
  cases x <;> simp

/-- A decidable property of a successful result can be checked by evaluation. -/
theorem exists_ok {ε α : Type} {x : Except ε α} {p : α → Prop} [DecidablePred p]
    (h : (match x with | .ok a => decide (p a) | .error _ => false) = true) :
    ∃ a, x = .ok a ∧ p a := by
  split at h
  · rename_i a
    exact ⟨a, rfl, of_decide_eq_true h⟩
  · cases h

/-- A failure can be checked by evaluation even if results cannot be compared. -/
theorem eq_error_of_map {ε α β : Type} {x : Except ε α} {f : α → β} {e : ε} (h : x.map f = .error e) :
    x = .error e := by
  cases x with
  | error failure => exact congrArg Except.error (Except.error.inj h)
  | ok a => cases h

namespace Traced
variable {α β : Type}

@[simp] theorem value_pure (a : α) : (pure a : Traced α).value = a := rfl

@[simp] theorem value_bind (x : Traced α) (f : α → Traced β) :
    (x >>= f).value = (f x.value).value := rfl

@[simp] theorem value_map (f : α → β) (x : Traced α) : (f <$> x).value = f x.value := rfl

@[simp] theorem value_ite (c : Prop) [Decidable c] (x y : Traced α) :
    (if c then x else y).value = if c then x.value else y.value := apply_ite _ c x y

instance : LawfulMonad Traced := LawfulMonad.mk' Traced
  (fun x => by simp [Functor.map])
  (fun a f => by simp [bind, pure])
  (fun x f g => by simp [bind, List.append_assoc])

theorem value_mapM (f : α → Traced β) (xs : List α) :
    (xs.mapM f).value = xs.map fun x => (f x).value := by
  induction xs with
  | nil => rfl
  | cons x xs ih => rw [List.mapM_cons, value_bind, value_bind, ih, value_pure, List.map_cons]

end Traced

namespace Bundle.Detecting
variable {α β : Type}

def outcome (x : Detecting α) : Except Failure α := x.run.value

@[simp] theorem outcome_pure (a : α) : outcome (pure a) = .ok a := rfl

@[simp] theorem outcome_throw (f : Failure) : outcome (throw f : Detecting α) = .error f := rfl

@[simp] theorem outcome_bind (x : Detecting α) (f : α → Detecting β) :
    outcome (x >>= f) = outcome x >>= fun a => outcome (f a) := by
  unfold outcome
  rw [ExceptT.run_bind, Traced.value_bind]
  cases x.run.value <;> rfl

@[simp] theorem outcome_map (f : α → β) (x : Detecting α) :
    outcome (f <$> x) = f <$> outcome x := by
  rw [← bind_pure_comp, outcome_bind]
  cases outcome x <;> rfl

@[simp] theorem outcome_ite (c : Prop) [Decidable c] (x y : Detecting α) :
    outcome (if c then x else y) = if c then outcome x else outcome y := apply_ite _ c x y

@[simp] theorem outcome_record (e : Event) : outcome (record e) = .ok () := rfl

@[simp] theorem outcome_lift (x : Traced α) : outcome (ExceptT.lift x) = .ok x.value := rfl

@[simp] theorem outcome_require (value : Option α) (f : Failure) :
    outcome (require value f) = value.elim (.error f) .ok := by
  cases value <;> rfl

end Bundle.Detecting

end BundleLens
