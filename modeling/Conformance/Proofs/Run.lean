import Conformance.Validator.Frame
/-!
# Runs

What a run that succeeds is made of: for results that may be errors, and for work that may
fail and keeps a state. What can be returned at all is known to the work that follows.
-/

namespace Conformance

theorem allM_cons {α : Type} {m : Type → Type} [Monad m] (p : α → m Bool) (x : α) (xs : List α) :
    (x :: xs).allM p = (do if ← p x then xs.allM p else pure false) := by
  show (p x >>= _) = _
  congr 1
  funext b
  cases b <;> rfl

/-! ## Results -/

theorem except_bind_ok {ε α β : Type} {x : Except ε α} {f : α → Except ε β} {b : β} :
    x >>= f = .ok b ↔ ∃ a, x = .ok a ∧ f a = .ok b := by
  cases x with
  | error e => exact ⟨nofun, nofun⟩
  | ok a => exact ⟨fun h => ⟨a, rfl, h⟩, fun ⟨_, h, h'⟩ => by cases h; exact h'⟩

theorem except_bind_error {ε α β : Type} {x : Except ε α} {f : α → Except ε β} {e : ε} :
    x >>= f = .error e ↔ x = .error e ∨ ∃ a, x = .ok a ∧ f a = .error e := by
  cases x with
  | error e' =>
    constructor
    · intro h
      cases h
      exact .inl rfl
    · rintro (h | ⟨_, h, _⟩)
      · cases h
        rfl
      · cases h
  | ok a =>
    constructor
    · intro h
      exact .inr ⟨a, rfl, h⟩
    · rintro (h | ⟨_, h, h'⟩)
      · cases h
      · cases h
        exact h'

theorem except_bind_pure_ok {ε α β : Type} {x : Except ε α} {f : α → β} :
    (∃ b, (x >>= fun a => pure (f a)) = .ok b) ↔ ∃ a, x = .ok a := by
  simp only [except_bind_ok]
  constructor
  · rintro ⟨_, a, ha, _⟩
    exact ⟨a, ha⟩
  · rintro ⟨a, ha⟩
    exact ⟨f a, a, ha, rfl⟩

theorem except_pure_ok {ε α : Type} {a b : α} (h : (pure a : Except ε α) = .ok b) : b = a := by
  cases h; rfl

theorem ofExcept_ok {ε α : Type} {r : Except ε α} {a : α} :
    (MonadExcept.ofExcept r : Except ε α) = .ok a ↔ r = .ok a := by
  cases r with
  | error e => exact ⟨nofun, nofun⟩
  | ok b => rfl

theorem except_map_ok {ε α β : Type} {x : Except ε α} {f : α → β} {b : β} (h : f <$> x = .ok b) :
    ∃ a, x = .ok a ∧ b = f a := by
  cases x <;> cases h
  exact ⟨_, rfl, rfl⟩

theorem except_map_error {ε α β : Type} {x : Except ε α} {f : α → β} {e : ε} (h : f <$> x = .error e) :
    x = .error e := by
  cases x <;> cases h
  rfl

theorem mapError_error {ε δ α : Type} {x : Except ε α} {f : ε → δ} {d : δ} (h : x.mapError f = .error d) :
    ∃ e, x = .error e ∧ d = f e := by
  cases x with
  | ok a => cases h
  | error e =>
    cases h
    exact ⟨e, rfl, rfl⟩

/-- Every item has a result and every result is that of some item. -/
theorem mapM_ok {ε α β : Type} {f : α → Except ε β} {xs : List α} {ys : List β} (h : xs.mapM f = .ok ys) :
    (∀ x ∈ xs, ∃ y ∈ ys, f x = .ok y) ∧ ∀ y ∈ ys, ∃ x ∈ xs, f x = .ok y := by
  induction xs generalizing ys with
  | nil => cases except_pure_ok h; exact ⟨nofun, nofun⟩
  | cons x xs ih =>
    rw [List.mapM_cons] at h
    obtain ⟨y, hy, h⟩ := except_bind_ok.1 h
    obtain ⟨ys', hys, h⟩ := except_bind_ok.1 h
    cases except_pure_ok h
    obtain ⟨hl, hr⟩ := ih hys
    constructor
    · intro z hz
      rcases List.mem_cons.1 hz with rfl | hz
      · exact ⟨y, List.mem_cons_self, hy⟩
      · obtain ⟨w, hw, hf⟩ := hl z hz
        exact ⟨w, List.mem_cons_of_mem _ hw, hf⟩
    · intro w hw
      rcases List.mem_cons.1 hw with rfl | hw
      · exact ⟨x, List.mem_cons_self, hy⟩
      · obtain ⟨z, hz, hf⟩ := hr w hw
        exact ⟨z, List.mem_cons_of_mem _ hz, hf⟩

/-- The error is that of some item. -/
theorem mapM_error {ε α β : Type} {f : α → Except ε β} {xs : List α} {e : ε} (h : xs.mapM f = .error e) :
    ∃ x ∈ xs, f x = .error e := by
  induction xs with
  | nil => cases h
  | cons x xs ih =>
    rw [List.mapM_cons] at h
    rcases except_bind_error.1 h with h | ⟨_, _, h⟩
    · exact ⟨x, List.mem_cons_self, h⟩
    rcases except_bind_error.1 h with h | ⟨_, _, h⟩
    · obtain ⟨z, hz, hf⟩ := ih h
      exact ⟨z, List.mem_cons_of_mem _ hz, hf⟩
    · cases h

/-! ## What work can return -/

instance exceptAttach {ε : Type} : MonadAttach (Except ε) where
  CanReturn x a := x = .ok a
  attach
    | .ok a => .ok ⟨a, rfl⟩
    | .error e => .error e

instance lawfulExceptAttach {ε : Type} : LawfulMonadAttach (Except ε) where
  map_attach {_ x} := by cases x <;> rfl
  canReturn_map_imp {_ _ x _} h := by
    cases x with
    | error e => cases h
    | ok a =>
      cases h
      exact a.2

/-- Work goes on alike if it does after whatever can be returned. -/
theorem bind_congr_of_canReturn {m : Type → Type} [Monad m] [LawfulMonad m] [MonadAttach m] [LawfulMonadAttach m]
    {α β : Type} {x : m α} {f g : α → m β} (h : ∀ a, MonadAttach.CanReturn x a → f a = g a) : x >>= f = x >>= g := by
  rw [← WeaklyLawfulMonadAttach.map_attach (x := x), bind_map_left, bind_map_left]
  exact bind_congr fun a => h a.1 a.2

/-! ## Work with a state -/

section Run

variable {ε σ α β : Type} {x : ExceptT ε (StateM σ) α} {f : α → ExceptT ε (StateM σ) β} {s s' t : σ}

theorem run_pure (a : α) : (pure a : ExceptT ε (StateM σ) α).run s = (.ok a, s) := rfl

theorem run_bind : (x >>= f).run s = match x.run s with
    | (.ok a, t) => (f a).run t
    | (.error e, t) => (.error e, t) := by
  show (ExceptT.bindCont f (x.run s).1).run (x.run s).2 = _
  rcases x.run s with ⟨_ | _, _⟩ <;> rfl

theorem run_bind_of_ok {a : α} (h : x.run s = (.ok a, t)) : (x >>= f).run s = (f a).run t := by
  rw [run_bind, h]

theorem run_bind_ok {b : β} (h : (x >>= f).run s = (.ok b, s')) :
    ∃ a t, x.run s = (.ok a, t) ∧ (f a).run t = (.ok b, s') := by
  rw [run_bind] at h
  rcases hx : x.run s with ⟨e | a, t⟩ <;> rw [hx] at h
  · cases h
  · exact ⟨a, t, rfl, h⟩

end Run

theorem run_ofExcept_of_ok {α : Type} {r : Except SchemaError α} {a : α} (h : r = .ok a) (marks : List Mark) :
    (Build.ofExcept r).run marks = (.ok a, marks) := by
  rw [h]; rfl

theorem run_ofExcept_ok {α : Type} {r : Except SchemaError α} {a : α} {marks marks' : List Mark}
    (h : (Build.ofExcept r).run marks = (.ok a, marks')) : r = .ok a ∧ marks = marks' := by
  cases r <;> cases h
  exact ⟨rfl, rfl⟩

theorem canReturn_ofExcept {α : Type} {r : Except SchemaError α} {a : α}
    (h : MonadAttach.CanReturn (MonadExcept.ofExcept r : Build α) a) : r = .ok a := by
  obtain ⟨marks, marks', h⟩ := h
  cases r with
  | error e => cases h
  | ok b =>
    cases h
    rfl

end Conformance
