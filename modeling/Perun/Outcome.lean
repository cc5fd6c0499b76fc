import Mathlib

/-! Fallible code that may also abort. An `Outcome` is a returned value, a
returned error or an abort; an `Op` threads a mutable state through such code
and keeps the state that an error leaves behind, so that atomicity of a failed
call can be stated. `Refines` is the flat order in which an abort is below
everything: a checked run that does not abort is the unchecked run. -/
namespace Perun

inductive Outcome (ε α : Type) where
  | ok (value : α)
  | err (error : ε)
  | panic
  deriving DecidableEq

namespace Outcome
variable {ε δ α β : Type}

def bind (first : Outcome ε α) (next : α → Outcome ε β) : Outcome ε β :=
  match first with
  | ok value => next value
  | err error => err error
  | panic => panic

instance : Monad (Outcome ε) where
  pure := ok
  bind := bind

/-- The error conversion that an early return applies to a callee's error. -/
def mapErr (convert : ε → δ) : Outcome ε α → Outcome δ α
  | ok value => ok value
  | err error => err (convert error)
  | panic => panic

/-- A missing value becomes the given error. -/
def okOr (error : ε) : Option α → Outcome ε α
  | some value => ok value
  | none => err error

/-- A missing value aborts. -/
def unwrap : Option α → Outcome ε α
  | some value => ok value
  | none => panic

/-- An error that is declared impossible aborts. -/
def unwrapErr : Outcome ε α → Outcome δ α
  | ok value => ok value
  | err _ => panic
  | panic => panic

/-- Reading a fixed array aborts outside its bounds. -/
def index {n : Nat} (values : Vector α n) (position : Nat) : Outcome ε α :=
  unwrap values[position]?

@[simp] theorem pure_eq (value : α) : (pure value : Outcome ε α) = ok value := rfl

@[simp] theorem ok_bind (value : α) (next : α → Outcome ε β) :
    (ok value >>= next) = next value := rfl

@[simp] theorem err_bind (error : ε) (next : α → Outcome ε β) :
    ((err error : Outcome ε α) >>= next) = err error := rfl

@[simp] theorem panic_bind (next : α → Outcome ε β) :
    ((panic : Outcome ε α) >>= next) = panic := rfl

@[simp] theorem mapErr_ok (convert : ε → δ) (value : α) :
    mapErr convert (ok value : Outcome ε α) = ok value := rfl

@[simp] theorem mapErr_err (convert : ε → δ) (error : ε) :
    mapErr convert (err error : Outcome ε α) = err (convert error) := rfl

@[simp] theorem mapErr_panic (convert : ε → δ) :
    mapErr convert (panic : Outcome ε α) = panic := rfl

@[simp] theorem okOr_some (error : ε) (value : α) : okOr error (some value) = ok value := rfl

@[simp] theorem okOr_none (error : ε) : (okOr error none : Outcome ε α) = err error := rfl

@[simp] theorem unwrap_some (value : α) : (unwrap (some value) : Outcome ε α) = ok value := rfl

@[simp] theorem unwrap_none : (unwrap none : Outcome ε α) = panic := rfl

@[simp] theorem unwrapErr_ok (value : α) :
    (unwrapErr (ok value : Outcome ε α) : Outcome δ α) = ok value := rfl

theorem unwrapErr_eq_ok {first : Outcome ε α} {value : α} :
    (unwrapErr first : Outcome δ α) = ok value ↔ first = ok value := by
  cases first <;> simp [unwrapErr]

-- A sequence that returned went through each of its steps.
theorem bind_eq_ok {first : Outcome ε α} {next : α → Outcome ε β} {result : β} :
    (first >>= next) = ok result ↔ ∃ value, first = ok value ∧ next value = ok result := by
  cases first <;> simp

theorem mapErr_eq_ok {convert : ε → δ} {first : Outcome ε α} {value : α} :
    mapErr convert first = ok value ↔ first = ok value := by
  cases first <;> simp

def Refines (checked unchecked : Outcome ε α) : Prop :=
  checked = panic ∨ checked = unchecked

theorem refines_bind {checked unchecked : Outcome ε α} {next next' : α → Outcome ε β}
    (first : Refines checked unchecked) (rest : ∀ value, Refines (next value) (next' value)) :
    Refines (checked >>= next) (unchecked >>= next') := by
  rcases first with aborted | same
  · exact Or.inl (by rw [aborted]; rfl)
  · subst same
    cases checked with
    | ok value => exact rest value
    | err error => exact Or.inr rfl
    | panic => exact Or.inl rfl

/-- What a program returns, its refinement returns. -/
theorem refines_ok {checked unchecked : Outcome ε α} {value : α}
    (refines : Refines checked unchecked) (returned : checked = .ok value) :
    unchecked = .ok value := by
  rcases refines with aborted | same
  · rw [returned] at aborted
    cases aborted
  · exact same.symm.trans returned

end Outcome

/-- Code over a mutable state: the state survives an error. -/
def Op (ε σ α : Type) : Type := σ → Outcome ε α × σ

namespace Op
variable {ε σ α β : Type}

def bind (first : Op ε σ α) (next : α → Op ε σ β) : Op ε σ β := fun state =>
  match first state with
  | (.ok value, after) => next value after
  | (.err error, after) => (.err error, after)
  | (.panic, after) => (.panic, after)

instance : Monad (Op ε σ) where
  pure value := fun state => (.ok value, state)
  bind := bind

def lift (result : Outcome ε α) : Op ε σ α := fun state => (result, state)

def get : Op ε σ σ := fun state => (.ok state, state)

def modify (change : σ → σ) : Op ε σ Unit := fun state => (.ok (), change state)

/-- A method of an object that is only looked at, also when it is handed back with
an error. -/
def inspect (result : σ → Outcome ε α) : Op ε σ α := fun state => (result state, state)

def fail (error : ε) : Op ε σ α := fun state => (.err error, state)

/-- The error conversion of an early return. -/
def mapErr {δ : Type} (convert : ε → δ) (program : Op ε σ α) : Op δ σ α := fun state =>
  let after := program state
  (after.1.mapErr convert, after.2)

@[simp] theorem pure_run (value : α) (state : σ) :
    (pure value : Op ε σ α) state = (.ok value, state) := rfl

@[simp] theorem lift_run (result : Outcome ε α) (state : σ) :
    (lift result : Op ε σ α) state = (result, state) := rfl

@[simp] theorem get_run (state : σ) : (get : Op ε σ σ) state = (.ok state, state) := rfl

@[simp] theorem modify_run (change : σ → σ) (state : σ) :
    (modify change : Op ε σ Unit) state = (.ok (), change state) := rfl

@[simp] theorem fail_run (error : ε) (state : σ) :
    (fail error : Op ε σ α) state = (.err error, state) := rfl

@[simp] theorem mapErr_run {δ : Type} (convert : ε → δ) (program : Op ε σ α) (state : σ) :
    mapErr convert program state = ((program state).1.mapErr convert, (program state).2) := rfl

theorem bind_run (first : Op ε σ α) (next : α → Op ε σ β) (state : σ) :
    (first >>= next) state =
      match first state with
      | (.ok value, after) => next value after
      | (.err error, after) => (.err error, after)
      | (.panic, after) => (.panic, after) := rfl

theorem bind_ok {first : Op ε σ α} {next : α → Op ε σ β} {state after : σ} {value : α}
    (returned : first state = (.ok value, after)) : (first >>= next) state = next value after := by
  rw [bind_run, returned]

theorem bind_err {first : Op ε σ α} {next : α → Op ε σ β} {state after : σ} {error : ε}
    (failed : first state = (.err error, after)) :
    (first >>= next) state = (.err error, after) := by
  rw [bind_run, failed]

-- A sequence that returned went through each of its steps.
theorem bind_eq_ok {first : Op ε σ α} {next : α → Op ε σ β} {state after : σ} {result : β} :
    (first >>= next) state = (.ok result, after) ↔
      ∃ value middle, first state = (.ok value, middle) ∧
        next value middle = (.ok result, after) := by
  rw [bind_run]
  rcases first state with ⟨outcome, middle⟩
  cases outcome <;> simp

theorem lift_eq_ok {result : Outcome ε α} {state after : σ} {value : α} :
    (lift result : Op ε σ α) state = (.ok value, after) ↔ result = .ok value ∧ after = state := by
  rw [lift_run, Prod.mk.injEq, eq_comm (a := state)]

def Refines (checked unchecked : Op ε σ α) : Prop :=
  ∀ state, (checked state).1 = .panic ∨ checked state = unchecked state

theorem refines_refl (program : Op ε σ α) : Refines program program := fun _ => Or.inr rfl

theorem refines_bind {checked unchecked : Op ε σ α} {next next' : α → Op ε σ β}
    (first : Refines checked unchecked) (rest : ∀ value, Refines (next value) (next' value)) :
    Refines (checked >>= next) (unchecked >>= next') := by
  intro state
  rcases first state with aborted | same
  · left
    rw [bind_run]
    rcases run : checked state with ⟨result, after⟩
    rw [run] at aborted
    simp only at aborted
    subst aborted
    rfl
  · rw [bind_run, bind_run, ← same]
    rcases checked state with ⟨result, after⟩
    cases result with
    | ok value => exact rest value after
    | err error => exact Or.inr rfl
    | panic => exact Or.inl rfl

theorem refines_ok {checked unchecked : Op ε σ α} {state after : σ} {value : α}
    (refines : Refines checked unchecked) (returned : checked state = (.ok value, after)) :
    unchecked state = (.ok value, after) := by
  rcases refines state with aborted | same
  · rw [returned] at aborted
    cases aborted
  · exact same.symm.trans returned

theorem refines_lift {checked unchecked : Outcome ε α}
    (first : Outcome.Refines checked unchecked) :
    Refines (lift checked : Op ε σ α) (lift unchecked) := by
  intro state
  rcases first with aborted | same
  · exact Or.inl aborted
  · exact Or.inr (by rw [same])

/-! Atomicity of a failed call. A program that only reads, followed by an atomic
one, is atomic; so is a program that cannot fail, whatever it writes. -/

def Reads (program : Op ε σ α) : Prop := ∀ state, (program state).2 = state

def Infallible (program : Op ε σ α) : Prop := ∀ state error, (program state).1 ≠ .err error

def Atomic (program : Op ε σ α) : Prop :=
  ∀ state error after, program state = (.err error, after) → after = state

/-- What a program leaves as it was, however it ends. -/
def Keeps (view : σ → β) (program : Op ε σ α) : Prop :=
  ∀ state, view (program state).2 = view state

theorem reads_lift (result : Outcome ε α) : Reads (lift result : Op ε σ α) := fun _ => rfl

theorem reads_get : Reads (get : Op ε σ σ) := fun _ => rfl

theorem reads_inspect (result : σ → Outcome ε α) : Reads (inspect result) := fun _ => rfl

theorem reads_fail (error : ε) : Reads (fail error : Op ε σ α) := fun _ => rfl

theorem infallible_modify (change : σ → σ) : Infallible (modify change : Op ε σ Unit) := by
  intro state error
  simp

theorem atomic_of_reads {program : Op ε σ α} (reads : Reads program) : Atomic program := by
  intro state error after failed
  have same := reads state
  rw [failed] at same
  exact same

theorem atomic_of_infallible {program : Op ε σ α} (infallible : Infallible program) :
    Atomic program := by
  intro state error after failed
  exact absurd (by rw [failed]) (infallible state error)

theorem infallible_bind {first : Op ε σ α} {next : α → Op ε σ β} (head : Infallible first)
    (rest : ∀ value, Infallible (next value)) : Infallible (first >>= next) := by
  intro state error
  rw [bind_run]
  rcases outcome : first state with ⟨result, after⟩
  cases result with
  | ok value => exact rest value after error
  | err error' => exact absurd (by rw [outcome]) (head state error')
  | panic => simp

theorem atomic_bind {first : Op ε σ α} {next : α → Op ε σ β} (reads : Reads first)
    (rest : ∀ value, Atomic (next value)) : Atomic (first >>= next) := by
  intro state error after failed
  have same := reads state
  rw [bind_run] at failed
  rcases outcome : first state with ⟨result, middle⟩
  rw [outcome] at failed same
  cases same
  cases result with
  | ok value => exact rest value _ error after failed
  | err error' => cases failed; rfl
  | panic => cases failed

theorem keeps_of_reads (view : σ → β) {program : Op ε σ α} (reads : Reads program) :
    Keeps view program := fun state => congrArg view (reads state)

theorem keeps_modify {view : σ → β} {change : σ → σ}
    (same : ∀ state, view (change state) = view state) :
    Keeps view (modify change : Op ε σ Unit) := same

theorem keeps_bind {γ : Type} {view : σ → γ} {first : Op ε σ α} {next : α → Op ε σ β}
    (head : Keeps view first) (rest : ∀ value, Keeps view (next value)) :
    Keeps view (first >>= next) := by
  intro state
  have same := head state
  rw [bind_run]
  rcases outcome : first state with ⟨result, middle⟩
  rw [outcome] at same
  cases result with
  | ok value => exact (rest value middle).trans same
  | err error => exact same
  | panic => exact same

end Op
end Perun
