import Perun.Outcome

/-! Which inputs a fallible reader lets through. A `Screen` says of one input whether
reading it can abort and whether it is accepted. It is computed from the input alone,
part by part in the order of the reader: what comes behind a part that is not accepted
is not looked at. -/
namespace Perun

structure Screen where
  safe : Bool
  good : Bool
  deriving DecidableEq

namespace Screen
variable {β : Type}

/-- A condition that is checked: an error is returned where it fails. -/
def check (condition : Bool) : Screen := ⟨true, condition⟩

def pass : Screen := check true

/-- A condition that is relied on: the reader aborts where it fails. -/
def rely (condition : Bool) : Screen := ⟨condition, condition⟩

def andThen (first next : Screen) : Screen :=
  ⟨first.safe && (!first.good || next.safe), first.good && next.good⟩

def each (screen : β → Screen) : List β → Screen
  | [] => pass
  | item :: rest => (screen item).andThen (each screen rest)

/-- A part that has to be there. -/
def given (screen : β → Screen) : Option β → Screen
  | some value => screen value
  | none => check false

/-- A part whose errors are declared impossible. -/
def relied (screen : Screen) : Screen := rely screen.good

def refused (screen : Screen) : Bool := screen.safe && !screen.good

/-- What is accepted does not abort. -/
def Sound (screen : Screen) : Prop := screen.good = true → screen.safe = true

/-- All before one item are read, and that one is refused. -/
def FirstRefused (Read Refused : β → Prop) (items : List β) : Prop :=
  ∃ before item after, items = before ++ item :: after ∧ (∀ other ∈ before, Read other) ∧
    Refused item

theorem check_refused (condition : Prop) [Decidable condition] :
    (check condition).refused = true ↔ ¬condition := by
  simp [check, refused]

theorem then_refused {first : Screen} (sound : first.Sound) (next : Screen) :
    (first.andThen next).refused = true ↔
      first.refused = true ∨ first.good = true ∧ next.refused = true := by
  rcases first with ⟨safe, good⟩
  rcases next with ⟨safe', good'⟩
  unfold Sound at sound
  cases safe <;> cases good <;> cases safe' <;> cases good' <;> simp_all [andThen, refused]

theorem given_refused (screen : β → Screen) (part : Option β) :
    (given screen part).refused = true ↔
      part = none ∨ ∃ value, part = some value ∧ (screen value).refused = true := by
  cases part with
  | none => simp [given, check, refused]
  | some value => simp [given]

theorem then_sound {first next : Screen} (sound : first.Sound) (sound' : next.Sound) :
    (first.andThen next).Sound := by
  intro accepted
  obtain ⟨good, good'⟩ := Bool.and_eq_true_iff.mp accepted
  simp [andThen, good, sound good, sound' good']

theorem each_good (screen : β → Screen) (items : List β) :
    (each screen items).good = true ↔ ∀ item ∈ items, (screen item).good = true := by
  induction items with
  | nil => simp [each, pass, check]
  | cons item rest ih => simp [each, andThen, ih]

theorem each_sound {screen : β → Screen} (sound : ∀ item, (screen item).Sound) (items : List β) :
    (each screen items).Sound := by
  induction items with
  | nil => exact fun _ => rfl
  | cons item rest ih => exact then_sound (sound item) ih

theorem each_refused {screen : β → Screen} (sound : ∀ item, (screen item).Sound) (items : List β) :
    (each screen items).refused = true ↔ FirstRefused (fun item => (screen item).good = true)
      (fun item => (screen item).refused = true) items := by
  induction items with
  | nil =>
      refine iff_of_false (by simp [each, pass, check, refused]) ?_
      rintro ⟨before, item, after, empty, _⟩
      cases before <;> cases empty
  | cons item rest ih =>
      rw [each, then_refused (sound item), ih]
      constructor
      · rintro (refused | ⟨good, before, other, after, rfl, read, refused⟩)
        · exact ⟨[], item, rest, rfl, nofun, refused⟩
        · exact ⟨item :: before, other, after, rfl, List.forall_mem_cons.mpr ⟨good, read⟩, refused⟩
      · rintro ⟨before, other, after, split, read, refused⟩
        -- The refused item is the first one of the list, or behind it.
        cases before with
        | nil =>
            cases split
            exact Or.inl refused
        | cons first before =>
            cases split
            obtain ⟨good, read⟩ := List.forall_mem_cons.mp read
            exact Or.inr ⟨good, before, other, after, rfl, read, refused⟩

end Screen

namespace Outcome
variable {ε α β γ : Type}

structure Screened (result : Outcome ε α) (screen : Screen) : Prop where
  safe : result ≠ .panic ↔ screen.safe = true
  good : (∃ value, result = .ok value) ↔ screen.good = true

theorem screened_ok (value : α) {screen : Screen} (safe : screen.safe = true)
    (good : screen.good = true) : Screened (.ok value : Outcome ε α) screen :=
  ⟨by simp [safe], by simp [good]⟩

theorem screened_err (error : ε) {screen : Screen} (safe : screen.safe = true)
    (good : screen.good = false) : Screened (.err error : Outcome ε α) screen :=
  ⟨by simp [safe], by simp [good]⟩

theorem screened_panic {screen : Screen} (safe : screen.safe = false) (good : screen.good = false) :
    Screened (.panic : Outcome ε α) screen :=
  ⟨by simp [safe], by simp [good]⟩

/-- A returned error is the third case. -/
theorem Screened.refused {result : Outcome ε α} {screen : Screen}
    (screened : Screened result screen) :
    (∃ error, result = .err error) ↔ screen.refused = true := by
  have safe := screened.safe
  have good := screened.good
  rw [Screen.refused, Bool.and_eq_true, ← safe, Bool.not_eq_true', ← Bool.not_eq_true, ← good]
  cases result <;> simp

theorem screened_bind {first : Outcome ε α} {next : α → Outcome ε β} {head tail : Screen}
    (reads : Screened first head) (rest : ∀ value, first = .ok value → Screened (next value) tail) :
    Screened (first >>= next) (head.andThen tail) := by
  have safe := reads.safe
  have good := reads.good
  rw [Screen.andThen]
  cases first with
  | ok value =>
      have then' := rest value rfl
      have accepted := good.mp ⟨value, rfl⟩
      have returned := safe.mp (by simp)
      exact ⟨by simpa [accepted, returned] using then'.safe,
        by simpa [accepted] using then'.good⟩
  | err error =>
      have rejected : head.good = false := by simpa using good
      have returned := safe.mp (by simp)
      exact ⟨by simp [rejected, returned], by simp [rejected]⟩
  | panic =>
      have rejected : head.good = false := by simpa using good
      have aborts : head.safe = false := by simpa using safe
      exact ⟨by simp [aborts], by simp [rejected]⟩

/-- The last step of a reader only assembles what was read. -/
theorem screened_map {first : Outcome ε α} {screen : Screen} (assemble : α → β)
    (reads : Screened first screen) :
    Screened (first >>= fun value => .ok (assemble value)) screen := by
  have safe := reads.safe
  have good := reads.good
  cases first with
  | ok value => exact screened_ok _ (safe.mp (by simp)) (good.mp ⟨value, rfl⟩)
  | err error => exact screened_err _ (safe.mp (by simp)) (by simpa using good)
  | panic => exact screened_panic (by simpa using safe) (by simpa using good)

theorem screened_mapErr {δ : Type} {result : Outcome ε α} {screen : Screen} (convert : ε → δ)
    (reads : Screened result screen) : Screened (result.mapErr convert) screen := by
  have safe := reads.safe
  have good := reads.good
  constructor
  · rw [← safe]
    cases result <;> simp
  · rw [← good]
    cases result <;> simp

theorem screened_relied {δ : Type} {first : Outcome ε α} {screen : Screen}
    (reads : Screened first screen) : Screened (unwrapErr first : Outcome δ α) screen.relied := by
  have good := reads.good
  cases first with
  | ok value =>
      have accepted := good.mp ⟨value, rfl⟩
      exact screened_ok value accepted accepted
  | err error =>
      have rejected : screen.good = false := by simpa using good
      exact screened_panic rejected rejected
  | panic =>
      have rejected : screen.good = false := by simpa using good
      exact screened_panic rejected rejected

theorem screened_check {condition : Prop} [Decidable condition] {error : ε} {next : Outcome ε α}
    {screen : Screen} (reads : condition → Screened next screen) :
    Screened (if ¬condition then .err error else next)
      ((Screen.check (decide condition)).andThen screen) := by
  by_cases holds : condition
  · rw [if_neg (not_not.mpr holds)]
    simpa [Screen.check, Screen.andThen, holds] using reads holds
  · rw [if_pos holds]
    exact screened_err error (by simp [Screen.check, Screen.andThen, holds])
      (by simp [Screen.check, Screen.andThen, holds])

theorem screened_given {screen : γ → Screen} {error : ε} {next : γ → Outcome ε α}
    (part : Option γ) (reads : ∀ value, Screened (next value) (screen value)) :
    Screened (okOr error part >>= next) (Screen.given screen part) := by
  cases part with
  | none => exact screened_err error rfl rfl
  | some value => exact reads value

/-- A part that has to be there, and what comes after it. -/
theorem screened_given_bind {screen : γ → Screen} {tail : Screen} {error : ε}
    {convert : γ → Outcome ε α} {next : α → Outcome ε β} (part : Option γ)
    (reads : ∀ value, Screened (convert value) (screen value))
    (rest : ∀ value, Screened (next value) tail) :
    Screened (okOr error part >>= fun value => convert value >>= next)
      ((Screen.given screen part).andThen tail) := by
  cases part with
  | none => exact screened_err error rfl rfl
  | some value =>
      rw [okOr_some, ok_bind]
      exact screened_bind (reads value) fun result _ => rest result

end Outcome
end Perun
