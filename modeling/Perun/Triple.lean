import Perun.Outcome

/-! Postconditions of fallible code over a mutable state, one for a returned value and one
for a returned error. An abort satisfies both: what is shown this way is shown of every
call that comes back. -/
namespace Perun.Op
variable {ε δ σ α β : Type}

def Ensures (returns : α → σ → Prop) (fails : ε → σ → Prop) (program : Op ε σ α) (state : σ) :
    Prop :=
  match program state with
  | (.ok value, after) => returns value after
  | (.err error, after) => fails error after
  | (.panic, _) => True

section Rules
variable {returns : α → σ → Prop} {fails : ε → σ → Prop} {state after : σ}

@[simp] theorem ensures_pure (value : α) :
    Ensures returns fails (pure value) state ↔ returns value state := Iff.rfl

@[simp] theorem ensures_fail (error : ε) :
    Ensures returns fails (fail error) state ↔ fails error state := Iff.rfl

@[simp] theorem ensures_get {returns : σ → σ → Prop} :
    Ensures returns fails get state ↔ returns state state := Iff.rfl

@[simp] theorem ensures_modify {returns : Unit → σ → Prop} (change : σ → σ) :
    Ensures returns fails (modify change) state ↔ returns () (change state) := Iff.rfl

@[simp] theorem ensures_abort : Ensures returns fails (lift .panic) state := True.intro

@[simp] theorem ensures_bind {returns : β → σ → Prop} (first : Op ε σ α) (next : α → Op ε σ β) :
    Ensures returns fails (first >>= next) state ↔
      Ensures (fun value middle => Ensures returns fails (next value) middle) fails first state := by
  rw [Ensures, Ensures, bind_run]
  rcases first state with ⟨_ | _ | _, after⟩ <;> rfl

theorem ensures_lift (result : Outcome ε α) :
    Ensures returns fails (lift result) state ↔
      (∀ value, result = .ok value → returns value state) ∧
        ∀ error, result = .err error → fails error state := by
  rw [Ensures, lift_run]
  cases result <;> simp

/-- A program is looked at through what it returns. -/
theorem ensures_iff {program : Op ε σ α} :
    Ensures returns fails program state ↔
      (∀ value after, program state = (.ok value, after) → returns value after) ∧
        ∀ error after, program state = (.err error, after) → fails error after := by
  rw [Ensures]
  rcases program state with ⟨_ | _ | _, after⟩ <;> simp

theorem ensures_mono {returns' : α → σ → Prop} {fails' : ε → σ → Prop} {program : Op ε σ α}
    (ensures : Ensures returns fails program state)
    (value : ∀ value after, returns value after → returns' value after)
    (error : ∀ error after, fails error after → fails' error after) :
    Ensures returns' fails' program state := by
  rw [ensures_iff] at ensures ⊢
  constructor
  · intro result after returned
    exact value result after (ensures.1 result after returned)
  · intro failure after failed
    exact error failure after (ensures.2 failure after failed)

theorem ensures_ok {program : Op ε σ α} {value : α} (ensures : Ensures returns fails program state)
    (returned : program state = (.ok value, after)) : returns value after :=
  (ensures_iff.mp ensures).1 value after returned

theorem ensures_err {program : Op ε σ α} {error : ε} (ensures : Ensures returns fails program state)
    (failed : program state = (.err error, after)) : fails error after :=
  (ensures_iff.mp ensures).2 error after failed

/-- One postcondition for both ways to come back. -/
theorem ensures_back {post : σ → Prop} {program : Op ε σ α} {outcome : Outcome ε α}
    (ensures : Ensures (fun _ => post) (fun _ => post) program state)
    (ran : program state = (outcome, after)) (back : outcome ≠ .panic) : post after := by
  cases outcome with
  | ok value => exact ensures_ok ensures ran
  | err error => exact ensures_err ensures ran
  | panic => exact absurd rfl back

end Rules
end Perun.Op
