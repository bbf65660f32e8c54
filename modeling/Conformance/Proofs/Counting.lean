import Conformance.Proofs.Answer
/-!
# Counting frames

How deep a check is in frames can be told from a count beside the state: a frame counts up when it is entered
and down when it is left, however that is, and one that found the count at zero is outermost. A check that
counts does what a check does whose frames know their place, and leaves the count as it found it.
-/

namespace Conformance.Validator

/-! ## Checks that count -/

section

variable {σ α : Type}

/-- One frame. When the frames run out, one that was entered at zero answers `fallback`, and any other passes
that on. -/
def countedFrame (fallback : α) (work : Frame (Nat × σ) α) : Frame (Nat × σ) α := ExceptT.mk fun (count, s) =>
  let (r, count', s') := work.run (count + 1, s)
  let answer := match r with
    | .error .frames => if count = 0 then .ok fallback else .error .frames
    | r => r
  (answer, count' - 1, s')

/-- Work that knows nothing of the count. -/
def uncounted (work : Frame σ α) : Frame (Nat × σ) α := ExceptT.mk fun (count, s) =>
  let (r, s') := work.run s
  (r, count, s')

variable (opens : Body → Frame σ Validator)

/-- Tests what a body opens to, in a frame of its own. -/
def testCounted : Nat → Body → Value → Frame (Nat × σ) Bool
  | 0, _, _ => countedFrame false (throw .frames)
  | limit + 1, b, x => countedFrame false do testWith (testCounted limit) (← uncounted (opens b)) x

def diagnoseCounted : Nat → Body → Value → Frame (Nat × σ) (Option Diagnostic)
  | 0, _, x => countedFrame (some (recursionLimit x)) (throw .frames)
  | limit + 1, b, x =>
    countedFrame (some (recursionLimit x)) do diagnoseWith (diagnoseCounted limit) (← uncounted (opens b)) x

/-- Whether the value passes, with the frames counted from where the count stands. -/
def testCounting (limit : Nat) (v : Validator) (x : Value) : Frame (Nat × σ) Bool :=
  testWith (testCounted opens limit) v x

def diagnoseCounting (limit : Nat) (v : Validator) (x : Value) : Frame (Nat × σ) (Option Diagnostic) :=
  diagnoseWith (diagnoseCounted opens limit) v x

end

/-! ## The same work -/

section

variable {σ α : Type} {work : Frame (Nat × σ) α} {plain : Frame σ α} {fallback : α}

/-- From this count on the left side does what the right side does, and leaves the count alone. -/
def counting (σ : Type) (count : Nat) : Simulation (Frame (Nat × σ)) (Frame σ) where
  rel x y := ∀ s, x.run (count, s) = ((y.run s).1, count, (y.run s).2)
  pure _ _ := rfl
  bind {_ _ x y f g} hx hf s := by
    rw [run_bind, run_bind, hx s]
    rcases y.run s with ⟨e | a, t⟩
    · rfl
    · exact hf a t

/-- At zero the left side does what the right side does, and leaves the count alone. -/
def outside (σ : Type) : Simulation (Frame (Nat × σ)) (ExceptT SchemaError (StateM σ)) where
  rel x y := ∀ s, x.run (0, s) = ((y.run s).1.mapError .schema, 0, (y.run s).2)
  pure _ _ := rfl
  bind {_ _ x y f g} hx hf s := by
    rw [run_bind, run_bind, hx s]
    rcases y.run s with ⟨e | a, t⟩
    · rfl
    · exact hf a t

theorem run_countedFrame (fallback : α) (work : Frame (Nat × σ) α) (count : Nat) (s : σ) :
    (countedFrame fallback work).run (count, s) =
      (match (work.run (count + 1, s)).1 with
        | .error .frames => if count = 0 then .ok fallback else .error .frames
        | r => r,
      (work.run (count + 1, s)).2.1 - 1, (work.run (count + 1, s)).2.2) := rfl

/-- A frame inside another one counts, and that is all. -/
theorem counting_frame {count : Nat} (h : (counting σ (count + 2)).rel work plain) :
    (counting σ (count + 1)).rel (countedFrame fallback work) plain := by
  intro s
  rw [run_countedFrame, h s]
  rcases (plain.run s).1 with ⟨_ | e⟩ | a <;> rfl

/-- The outermost frame answers when the frames run out. -/
theorem outside_frame (h : (counting σ 1).rel work plain) :
    (outside σ).rel (countedFrame fallback work) (plain.close fallback) := by
  intro s
  rw [run_countedFrame, run_close, h s]
  rcases (plain.run s).1 with ⟨_ | e⟩ | a <;> rfl

theorem counting_uncounted (count : Nat) (plain : Frame σ α) : (counting σ count).rel (uncounted plain) plain :=
  fun _ => rfl

end

section

variable {σ : Type} {opens : Body → Frame σ Validator}

theorem testCounted_inside (limit count : Nat) (b : Body) (x : Value) :
    (counting σ (count + 1)).rel (testCounted opens limit b x) (testFrame opens limit b x) := by
  induction limit generalizing count b x with
  | zero => exact counting_frame fun _ => rfl
  | succ limit ih =>
    refine counting_frame ((counting σ (count + 2)).bind (counting_uncounted _ (opens b)) fun w => ?_)
    exact (counting σ (count + 2)).testWith w x fun b _ y => ih (count + 1) b y

theorem diagnoseCounted_inside (limit count : Nat) (b : Body) (x : Value) :
    (counting σ (count + 1)).rel (diagnoseCounted opens limit b x) (diagnoseFrame opens limit b x) := by
  induction limit generalizing count b x with
  | zero => exact counting_frame fun _ => rfl
  | succ limit ih =>
    refine counting_frame ((counting σ (count + 2)).bind (counting_uncounted _ (opens b)) fun w => ?_)
    exact (counting σ (count + 2)).diagnoseWith w x fun b _ y => ih (count + 1) b y

theorem testCounted_outside (limit : Nat) (b : Body) (x : Value) :
    (outside σ).rel (testCounted opens limit b x) ((testFrame opens limit b x).close false) := by
  cases limit with
  | zero => exact outside_frame fun _ => rfl
  | succ limit =>
    refine outside_frame ((counting σ 1).bind (counting_uncounted _ (opens b)) fun w => ?_)
    exact (counting σ 1).testWith w x fun b _ y => testCounted_inside limit 0 b y

theorem diagnoseCounted_outside (limit : Nat) (b : Body) (x : Value) :
    (outside σ).rel (diagnoseCounted opens limit b x)
      ((diagnoseFrame opens limit b x).close (some (recursionLimit x))) := by
  cases limit with
  | zero => exact outside_frame fun _ => rfl
  | succ limit =>
    refine outside_frame ((counting σ 1).bind (counting_uncounted _ (opens b)) fun w => ?_)
    exact (counting σ 1).diagnoseWith w x fun b _ y => diagnoseCounted_inside limit 0 b y

/-! ## Calls -/

/-- A test that starts outside of all frames gives what a test gives, and the count is at zero again. -/
theorem testCounting_outside (limit : Nat) (v : Validator) (x : Value) (s : σ) :
    (testCounting opens limit v x).run (0, s) =
      (((testWithin opens limit v x).run s).1.mapError .schema, 0, ((testWithin opens limit v x).run s).2) :=
  (outside σ).testWith v x (fun b _ y => testCounted_outside limit b y) s

theorem diagnoseCounting_outside (limit : Nat) (v : Validator) (x : Value) (s : σ) :
    (diagnoseCounting opens limit v x).run (0, s) =
      (((diagnoseWithin opens limit v x).run s).1.mapError .schema, 0, ((diagnoseWithin opens limit v x).run s).2) :=
  (outside σ).diagnoseWith v x (fun b _ y => diagnoseCounted_outside limit b y) s

/-- However a test ends, and wherever it started, the count is what it was. -/
theorem testCounting_count (limit : Nat) (v : Validator) (x : Value) (count : Nat) (s : σ) :
    ((testCounting opens limit v x).run (count, s)).2.1 = count := by
  cases count with
  | zero => rw [testCounting_outside]
  | succ count =>
    have hin : ∀ b y, (counting σ (count + 1)).rel (testCounted opens limit b y) (testFrame opens limit b y) :=
      testCounted_inside limit count
    rw [testCounting, (counting σ (count + 1)).testWith v x (fun b _ y => hin b y) s]

theorem diagnoseCounting_count (limit : Nat) (v : Validator) (x : Value) (count : Nat) (s : σ) :
    ((diagnoseCounting opens limit v x).run (count, s)).2.1 = count := by
  cases count with
  | zero => rw [diagnoseCounting_outside]
  | succ count =>
    have hin : ∀ b y, (counting σ (count + 1)).rel (diagnoseCounted opens limit b y) (diagnoseFrame opens limit b y) :=
      diagnoseCounted_inside limit count
    rw [diagnoseCounting, (counting σ (count + 1)).diagnoseWith v x (fun b _ y => hin b y) s]

end

end Conformance.Validator
