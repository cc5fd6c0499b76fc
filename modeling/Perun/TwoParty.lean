import Perun.Outcome

/-! Two parties that send messages to each other. A message that was sent can be
delivered at any later time, in any order and any number of times; what a party
does with it is decided by its own state. A `Contract` is proved for one party at
a time, from what the other one is known to say. -/
namespace Perun.TwoParty

inductive Side where
  | first
  | second
  deriving DecidableEq

def Side.other : Side → Side
  | .first => .second
  | .second => .first

def Side.partIdx : Side → Nat
  | .first => 0
  | .second => 1

@[simp] theorem Side.other_other (side : Side) : side.other.other = side := by
  cases side <;> rfl

theorem Side.other_ne (side : Side) : side.other ≠ side := by
  cases side <;> simp [Side.other]

theorem Side.eq_other {side side' : Side} (different : side ≠ side') : side = side'.other := by
  cases side <;> cases side' <;> simp_all [Side.other]

theorem Side.partIdx_lt (side : Side) : side.partIdx < 2 := by
  cases side <;> decide

theorem Side.entry {α : Type} {values : List α} (pair : values.length = 2) (side : Side) :
    ∃ value, values[side.partIdx]? = some value := by
  have bound : side.partIdx < values.length := by
    rw [pair]
    exact side.partIdx_lt
  exact ⟨_, List.getElem?_eq_getElem bound⟩

/-- `advance` is `none` where a move is not enabled. `sent` is everything said to
the other side so far. -/
structure System (Party Move Message ε : Type) where
  advance : Side → List Message → Party → Move → Option (Outcome ε Party)
  sent : Side → Party → List Message

/-- A returned value continues, whatever the error would have been. -/
def conclude {ε α β γ : Type} (call : Outcome ε α × β) (next : α → β → γ) : Outcome Unit γ :=
  match call with
  | (.ok value, after) => .ok (next value after)
  | (.err _, _) => .err ()
  | (.panic, _) => .panic

theorem conclude_ok {ε α β γ : Type} {call : Outcome ε α × β} {next : α → β → γ} {value : α}
    {after : β} (returned : call = (.ok value, after)) :
    conclude call next = .ok (next value after) := by
  rw [returned]
  rfl

/-- A measure that every continuation makes smaller than a bound. -/
theorem conclude_lt {ε α β γ : Type} {call : Outcome ε α × β} {next : α → β → γ}
    (measure : γ → Nat) {bound : Nat} {result : γ} (concluded : conclude call next = .ok result)
    (less : ∀ value after, measure (next value after) < bound) : measure result < bound := by
  rcases call with ⟨outcome, after⟩
  cases outcome with
  | ok value =>
      rw [← Outcome.ok.inj concluded]
      exact less value after
  | err error => cases concluded
  | panic => cases concluded

variable {Party Move Message ε : Type}

namespace System
variable (system : System Party Move Message ε)

def step (world : Side → Party) (side : Side) (move : Move) :
    Option (Outcome ε (Side → Party)) := do
  let result ← system.advance side (system.sent side.other (world side.other)) (world side) move
  some (result >>= fun party => .ok (Function.update world side party))

def Reaches : (Side → Party) → (Side → Party) → Prop :=
  Relation.ReflTransGen fun world after =>
    ∃ side move, system.step world side move = some (.ok after)

end System

theorem step_ok {system : System Party Move Message ε} {world after : Side → Party} {side : Side}
    {move : Move} :
    system.step world side move = some (.ok after) ↔ ∃ party,
      system.advance side (system.sent side.other (world side.other)) (world side) move =
        some (.ok party) ∧ after = Function.update world side party := by
  unfold System.step
  constructor
  · intro stepped
    obtain ⟨result, advanced, stepped⟩ := Option.bind_eq_some_iff.mp stepped
    obtain ⟨party, returned, done⟩ := Outcome.bind_eq_ok.mp (Option.some.inj stepped)
    exact ⟨party, by rw [advanced, returned], (Outcome.ok.inj done).symm⟩
  · rintro ⟨party, advanced, rfl⟩
    rw [advanced]
    rfl

/-- What both parties keep to in every move that returns. -/
theorem reaches_keeps {system : System Party Move Message ε} {world after : Side → Party}
    {follows : Side → Party → Prop} (reaches : system.Reaches world after)
    (starts : ∀ side, follows side (world side))
    (advances : ∀ side party other move next, follows side party → follows side.other other →
      system.advance side (system.sent side.other other) party move = some (.ok next) →
      follows side next) : ∀ side, follows side (after side) := by
  induction reaches with
  | refl => exact starts
  | tail _ stepped ih =>
      obtain ⟨side, move, stepped⟩ := stepped
      obtain ⟨party, advanced, rfl⟩ := step_ok.mp stepped
      intro other
      by_cases moved : other = side
      · subst moved
        rw [Function.update_self]
        exact advances other _ _ move party (ih other) (ih other.other) advanced
      · rw [Function.update_of_ne moved]
        exact ih other

/-! Runs step by step, the two parties written side by side. -/
section Pairs
variable {system : System Party Move Message ε} {world : Side → Party} {a a' b b' : Party}
  {move : Move}

def both (first second : Party) : Side → Party
  | .first => first
  | .second => second

theorem both_eta (world : Side → Party) : both (world .first) (world .second) = world := by
  funext side
  cases side <;> rfl

theorem reaches_both (world : Side → Party) :
    system.Reaches world (both (world .first) (world .second)) := by
  rw [both_eta]
  exact Relation.ReflTransGen.refl

theorem step_first (advanced : system.advance .first (system.sent .second b) a move = some (.ok a')) :
    system.step (both a b) .first move = some (.ok (both a' b)) := by
  refine step_ok.mpr ⟨a', advanced, ?_⟩
  funext side
  cases side <;> rfl

theorem step_second (advanced : system.advance .second (system.sent .first a) b move = some (.ok b')) :
    system.step (both a b) .second move = some (.ok (both a b')) := by
  refine step_ok.mpr ⟨b', advanced, ?_⟩
  funext side
  cases side <;> rfl

theorem reaches_first (reaches : system.Reaches world (both a b))
    (advanced : system.advance .first (system.sent .second b) a move = some (.ok a')) :
    system.Reaches world (both a' b) :=
  reaches.tail ⟨.first, move, step_first advanced⟩

theorem reaches_second (reaches : system.Reaches world (both a b))
    (advanced : system.advance .second (system.sent .first a) b move = some (.ok b')) :
    system.Reaches world (both a b') :=
  reaches.tail ⟨.second, move, step_second advanced⟩

end Pairs

/-- Assume that the other party keeps to its word, guarantee the same. -/
structure Contract (system : System Party Move Message ε) where
  follows : Side → Party → Prop
  word : Side → Message → Prop
  keeps_word : ∀ side party, follows side party →
    ∀ message ∈ system.sent side party, word side message
  advances : ∀ side inbox party move result, follows side party →
    (∀ message ∈ inbox, word side.other message) →
    system.advance side inbox party move = some result →
    ∃ after, result = .ok after ∧ follows side after

namespace Contract
variable {system : System Party Move Message ε} (contract : Contract system)
  {world after : Side → Party}

theorem advance_ok {side : Side} {move : Move} {result : Outcome ε Party}
    (follows : ∀ side, contract.follows side (world side))
    (advanced : system.advance side (system.sent side.other (world side.other)) (world side) move =
      some result) : ∃ party, result = .ok party ∧ contract.follows side party :=
  contract.advances side _ _ move result (follows side)
    (contract.keeps_word side.other _ (follows side.other)) advanced

theorem reaches_follows (reaches : system.Reaches world after)
    (follows : ∀ side, contract.follows side (world side)) :
    ∀ side, contract.follows side (after side) := by
  induction reaches with
  | refl => exact follows
  | tail _ stepped ih =>
      obtain ⟨side, move, stepped⟩ := stepped
      obtain ⟨party, advanced, rfl⟩ := step_ok.mp stepped
      obtain ⟨_, same, fresh⟩ := contract.advance_ok ih advanced
      cases same
      intro other
      by_cases moved : other = side
      · subst moved
        simpa using fresh
      · rw [Function.update_of_ne moved]
        exact ih other

/-- No enabled move of a reachable world fails. -/
theorem step_returns (reaches : system.Reaches world after)
    (follows : ∀ side, contract.follows side (world side)) {side : Side} {move : Move}
    {result : Outcome ε (Side → Party)} (stepped : system.step after side move = some result) :
    ∃ next, result = .ok next := by
  obtain ⟨outcome, advanced, stepped⟩ := Option.bind_eq_some_iff.mp stepped
  obtain ⟨party, rfl, _⟩ :=
    contract.advance_ok (contract.reaches_follows reaches follows) advanced
  exact ⟨_, (Option.some.inj stepped).symm⟩

/-- If every move brings its party closer to the end and some move is enabled until
both are there, every run can be completed. -/
theorem completes {remaining : Party → Nat}
    (closer : ∀ side inbox party move after,
      system.advance side inbox party move = some (.ok after) → remaining after < remaining party)
    (enabled : ∀ world : Side → Party, (∀ side, contract.follows side (world side)) →
      (∃ side, remaining (world side) ≠ 0) → ∃ side move result,
        system.advance side (system.sent side.other (world side.other)) (world side) move =
          some result)
    (follows : ∀ side, contract.follows side (world side)) :
    ∃ final, system.Reaches world final ∧ ∀ side, remaining (final side) = 0 := by
  induction total : remaining (world .first) + remaining (world .second)
    using Nat.strongRecOn generalizing world with
  | ind count ih =>
      by_cases unfinished : ∃ side, remaining (world side) ≠ 0
      · obtain ⟨side, move, result, advanced⟩ := enabled world follows unfinished
        obtain ⟨party, rfl, next⟩ := contract.advance_ok follows advanced
        have less := closer _ _ _ _ _ advanced
        have stepped : system.Reaches world (Function.update world side party) :=
          Relation.ReflTransGen.single ⟨side, move, step_ok.mpr ⟨party, advanced, rfl⟩⟩
        -- Only the party that moved counts differently now.
        have fewer : remaining (Function.update world side party .first) +
            remaining (Function.update world side party .second) < count := by
          cases side <;> simp <;> omega
        obtain ⟨final, later, done⟩ := ih _ fewer (contract.reaches_follows stepped follows) rfl
        exact ⟨final, stepped.trans later, done⟩
      · push Not at unfinished
        exact ⟨world, Relation.ReflTransGen.refl, unfinished⟩

end Contract
end Perun.TwoParty
