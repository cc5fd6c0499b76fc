import Perun.MachineWord

/-! The debounced buttons of the demo (`cortex-m-demo/src/button.rs`). The pin is an
input: each poll comes with the level that it reads. -/
namespace Perun.Button

inductive State where
  | high
  | low
  deriving DecidableEq

structure DebouncedButton where
  debounceThreshhold : BitVec 64
  lastTime : BitVec 64
  lastState : State
  deriving DecidableEq

/-- `DebouncedButton::new`. -/
def DebouncedButton.create (raw : State) (debounceThreshhold : BitVec 64) : DebouncedButton :=
  ⟨debounceThreshhold, 0, raw⟩

abbrev Method (α : Type) := Op Empty DebouncedButton α

section Methods
variable (build : Build) (raw : State) (time : BitVec 64)

def debouncedState : Method State := do
  let button ← Op.get
  if raw ≠ button.lastState then do
    let limit ← Op.lift (build.addU64 button.lastTime button.debounceThreshhold)
    -- The reference time moves with every poll that differs, adopted or not.
    let state := if limit.toNat < time.toNat then raw else button.lastState
    Op.modify fun button => { button with lastState := state, lastTime := time }
    pure state
  else pure button.lastState

def isRisingEdge : Method Bool := do
  let button ← Op.get
  let newState ← debouncedState build raw time
  pure (decide (button.lastState = .low ∧ newState = .high))

def isFallingEdge : Method Bool := do
  let button ← Op.get
  let newState ← debouncedState build raw time
  pure (decide (button.lastState = .high ∧ newState = .low))

end Methods

inductive Edge where
  | rising
  | falling
  deriving DecidableEq

/-- A call of one of the two methods, with what the pin reads. -/
structure Poll where
  edge : Edge
  raw : State
  time : BitVec 64
  deriving DecidableEq

def Poll.run (build : Build) (poll : Poll) : Method Bool :=
  match poll.edge with
  | .rising => isRisingEdge build poll.raw poll.time
  | .falling => isFallingEdge build poll.raw poll.time

def runPolls (build : Build) : List Poll → Method (List Bool)
  | [] => pure []
  | poll :: rest => do
      let edge ← poll.run build
      let edges ← runPolls build rest
      pure (edge :: edges)

def Edge.target : Edge → State
  | .rising => .high
  | .falling => .low

/-- A time beyond the threshold, counted from a reference time, where the sum is not an
overflow that aborts. -/
def Past (build : Build) (threshold last time : BitVec 64) : Prop :=
  (build.overflowChecks = true → last.toNat + threshold.toNat < 2 ^ 64) ∧
    (last + threshold).toNat < time.toNat

/-- Some poll comes more than the threshold after the one before it. -/
def Gap (build : Build) (threshold : BitVec 64) : BitVec 64 → List Poll → Prop
  | _, [] => False
  | last, poll :: rest =>
      Past build threshold last poll.time ∨ Gap build threshold poll.time rest

/-! What one poll does. -/
section Polls
variable {build : Build} {button after : DebouncedButton} {poll : Poll} {state : State}

theorem poll_returns
    (debounced : debouncedState build poll.raw poll.time button = (.ok state, after)) :
    poll.run build button =
      (.ok (decide (button.lastState ≠ state ∧ state = poll.edge.target)), after) := by
  rcases poll with ⟨edge, raw, time⟩
  cases edge with
  | rising =>
      simp only [Poll.run, isRisingEdge, Op.bind_run, Op.get_run, debounced, Op.pure_run]
      cases button.lastState <;> cases state <;> rfl
  | falling =>
      simp only [Poll.run, isFallingEdge, Op.bind_run, Op.get_run, debounced, Op.pure_run]
      cases button.lastState <;> cases state <;> rfl

theorem poll_aborts
    (aborted : (debouncedState build poll.raw poll.time button).1 = .panic) :
    (poll.run build button).1 = .panic := by
  rcases run : debouncedState build poll.raw poll.time button with ⟨result, after⟩
  rw [run] at aborted
  simp only at aborted
  subst aborted
  rcases poll with ⟨edge, raw, time⟩
  cases edge with
  | rising => simp only [Poll.run, isRisingEdge, Op.bind_run, Op.get_run, run]
  | falling => simp only [Poll.run, isFallingEdge, Op.bind_run, Op.get_run, run]

theorem poll_same (same : poll.raw = button.lastState) :
    poll.run build button = (.ok false, button) := by
  have kept : debouncedState build poll.raw poll.time button = (.ok button.lastState, button) := by
    simp [debouncedState, Op.bind_run, same]
  rw [poll_returns kept]
  simp

theorem debounced_differs (differs : poll.raw ≠ button.lastState)
    (checked : build.overflowChecks = true →
      button.lastTime.toNat + button.debounceThreshhold.toNat < 2 ^ 64) :
    let next := if (button.lastTime + button.debounceThreshhold).toNat < poll.time.toNat then
      poll.raw else button.lastState
    debouncedState build poll.raw poll.time button =
      (.ok next, { button with lastState := next, lastTime := poll.time }) := by
  have added : (build.addU64 button.lastTime button.debounceThreshhold :
      Outcome Empty (BitVec 64)) = .ok (button.lastTime + button.debounceThreshhold) :=
    Build.add_u64_iff.mpr ⟨rfl, checked⟩
  simp only [debouncedState, Op.bind_run, Op.get_run, ne_eq, differs, not_false_eq_true,
    ↓reduceIte, Op.lift_run, added, Op.modify_run, Op.pure_run]

theorem poll_adopts (differs : poll.raw ≠ button.lastState)
    (past : Past build button.debounceThreshhold button.lastTime poll.time) :
    poll.run build button = (.ok (decide (poll.raw = poll.edge.target)),
      { button with lastState := poll.raw, lastTime := poll.time }) := by
  have debounced := debounced_differs differs past.1
  simp only [past.2, ↓reduceIte] at debounced
  rw [poll_returns debounced]
  simp [differs.symm]

theorem poll_ignores (differs : poll.raw ≠ button.lastState)
    (checked : build.overflowChecks = true →
      button.lastTime.toNat + button.debounceThreshhold.toNat < 2 ^ 64)
    (within : ¬Past build button.debounceThreshhold button.lastTime poll.time) :
    poll.run build button = (.ok false, { button with lastTime := poll.time }) := by
  have early : ¬(button.lastTime + button.debounceThreshhold).toNat < poll.time.toNat :=
    fun late => within ⟨checked, late⟩
  have debounced := debounced_differs differs checked
  simp only [early, ↓reduceIte] at debounced
  rw [poll_returns debounced]
  simp

theorem poll_overflows (differs : poll.raw ≠ button.lastState)
    (checked : build.overflowChecks = true)
    (large : ¬button.lastTime.toNat + button.debounceThreshhold.toNat < 2 ^ 64) :
    (poll.run build button).1 = .panic := by
  apply poll_aborts
  have aborted : (build.addU64 button.lastTime button.debounceThreshhold :
      Outcome Empty (BitVec 64)) = .panic := if_pos ⟨checked, Nat.le_of_not_lt large⟩
  simp only [debouncedState, Op.bind_run, Op.get_run, ne_eq, differs, not_false_eq_true,
    ↓reduceIte, Op.lift_run, aborted]

/-- A poll that returned left the button alone or took its own time as the reference. -/
theorem poll_cases {edge : Bool} (ran : poll.run build button = (.ok edge, after)) :
    after.debounceThreshhold = button.debounceThreshhold ∧
      (after.lastTime = button.lastTime ∨ after.lastTime = poll.time) := by
  by_cases same : poll.raw = button.lastState
  · rw [poll_same same] at ran
    cases ran
    exact ⟨rfl, Or.inl rfl⟩
  · by_cases checked : build.overflowChecks = true →
        button.lastTime.toNat + button.debounceThreshhold.toNat < 2 ^ 64
    · rw [poll_returns (debounced_differs same checked)] at ran
      cases ran
      exact ⟨rfl, Or.inr rfl⟩
    · have overflows := Classical.not_imp.mp checked
      have aborted := poll_overflows same overflows.1 overflows.2
      rw [ran] at aborted
      cases aborted

end Polls

/-! Runs of polls at times that do not go back. -/
section Runs
variable {build : Build}

def Ordered (polls : List Poll) : Prop :=
  polls.Pairwise fun earlier later => earlier.time.toNat ≤ later.time.toNat

theorem run_cons {poll : Poll} {rest : List Poll} {button after : DebouncedButton}
    {edges : List Bool} :
    runPolls build (poll :: rest) button = (.ok edges, after) ↔
      ∃ edge middle later, poll.run build button = (.ok edge, middle) ∧
        runPolls build rest middle = (.ok later, after) ∧ edges = edge :: later := by
  simp only [runPolls, Op.bind_eq_ok, Op.pure_run, Prod.mk.injEq, Outcome.ok.injEq]
  constructor
  · rintro ⟨edge, middle, first, later, last, tail, rfl, rfl⟩
    exact ⟨edge, middle, later, first, tail, rfl⟩
  · rintro ⟨edge, middle, later, first, tail, rfl⟩
    exact ⟨edge, middle, first, later, after, tail, rfl, rfl⟩

/-- The reference time is the time of some poll, so it is never ahead of the clock. -/
theorem run_reference {history : List Poll} {button after : DebouncedButton} {edges : List Bool}
    (ran : runPolls build history button = (.ok edges, after)) :
    after.debounceThreshhold = button.debounceThreshhold ∧
      (after.lastTime = button.lastTime ∨ ∃ poll ∈ history, after.lastTime = poll.time) := by
  induction history generalizing button edges with
  | nil =>
      cases ran
      exact ⟨rfl, Or.inl rfl⟩
  | cons poll rest ih =>
      obtain ⟨edge, middle, later, first, tail, _⟩ := run_cons.mp ran
      have step := poll_cases first
      have run := ih tail
      constructor
      · exact run.1.trans step.1
      · rcases run.2 with kept | ⟨other, member, moved⟩
        · rcases step.2 with same | own
          · exact Or.inl (kept.trans same)
          · exact Or.inr ⟨poll, List.mem_cons_self, kept.trans own⟩
        · exact Or.inr ⟨other, List.mem_cons_of_mem poll member, moved⟩

/-- Before the first gap no sum has overflowed, as the reference times only grow. -/
theorem gap_sums {threshold last : BitVec 64} {polls : List Poll} (ordered : Ordered polls)
    (reached : ∀ poll ∈ polls, last.toNat ≤ poll.time.toNat)
    (gap : Gap build threshold last polls) (checked : build.overflowChecks = true) :
    last.toNat + threshold.toNat < 2 ^ 64 := by
  induction polls generalizing last with
  | nil => cases gap
  | cons poll rest ih =>
      rcases gap with past | later
      · exact past.1 checked
      · have first := reached poll List.mem_cons_self
        have sums := ih (List.pairwise_cons.mp ordered).2 (List.pairwise_cons.mp ordered).1 later
        omega

theorem run_same {polls : List Poll} {button : DebouncedButton}
    (same : ∀ poll ∈ polls, poll.raw = button.lastState) :
    runPolls build polls button = (.ok (List.replicate polls.length false), button) := by
  induction polls with
  | nil => rfl
  | cons poll rest ih =>
      have later := ih fun other member => same other (List.mem_cons_of_mem poll member)
      have first : poll.run build button = (.ok false, button) :=
        poll_same (same poll List.mem_cons_self)
      exact run_cons.mpr ⟨false, button, _, first, later, rfl⟩

/-- The polls return, the level is adopted, and a caller that asks for the edge to it is told
exactly once, unless the level was the debounced one before. -/
def Adopts (build : Build) (button : DebouncedButton) (polls : List Poll) (level : State) : Prop :=
  ∃ edges after, runPolls build polls button = (.ok edges, after) ∧ after.lastState = level ∧
    ((∀ poll ∈ polls, poll.edge.target = level) →
      edges.count true = if button.lastState = level then 0 else 1)

theorem adopts_same {polls : List Poll} {button : DebouncedButton} {level : State}
    (stable : ∀ poll ∈ polls, poll.raw = level) (same : button.lastState = level) :
    Adopts build button polls level := by
  refine ⟨_, _, run_same fun poll member => (stable poll member).trans same.symm, same, ?_⟩
  intro _
  rw [if_pos same, List.count_replicate]
  rfl

/-- Up to the first gap every poll is ignored; the poll behind it adopts the level. -/
theorem adopts_gap {polls : List Poll} {button : DebouncedButton} {level : State}
    (stable : ∀ poll ∈ polls, poll.raw = level) (differs : level ≠ button.lastState)
    (ordered : Ordered polls)
    (reached : ∀ poll ∈ polls, button.lastTime.toNat ≤ poll.time.toNat)
    (gap : Gap build button.debounceThreshhold button.lastTime polls) :
    Adopts build button polls level := by
  induction polls generalizing button with
  | nil => cases gap
  | cons poll rest ih =>
      have own := stable poll List.mem_cons_self
      have others : ∀ other ∈ rest, other.raw = level :=
        fun other member => stable other (List.mem_cons_of_mem poll member)
      have away : poll.raw ≠ button.lastState := own ▸ differs
      by_cases past : Past build button.debounceThreshhold button.lastTime poll.time
      · have first := poll_adopts away past
        obtain ⟨edges, after, ran, adopted, told⟩ := @adopts_same build rest
          { button with lastState := poll.raw, lastTime := poll.time } level others own
        refine ⟨_, after, run_cons.mpr ⟨_, _, edges, first, ran, rfl⟩, adopted, ?_⟩
        intro asked
        have silent := told fun other member => asked other (List.mem_cons_of_mem poll member)
        rw [if_pos own] at silent
        rw [if_neg differs.symm, own, asked poll List.mem_cons_self, List.count_cons, silent]
        simp
      · have sums := gap_sums ordered reached gap
        have first := poll_ignores away sums past
        obtain ⟨edges, after, ran, adopted, told⟩ := @ih { button with lastTime := poll.time }
          others differs (List.pairwise_cons.mp ordered).2 (List.pairwise_cons.mp ordered).1
          (gap.resolve_left past)
        refine ⟨_, after, run_cons.mpr ⟨_, _, edges, first, ran, rfl⟩, adopted, ?_⟩
        intro asked
        rw [List.count_cons, told fun other member => asked other (List.mem_cons_of_mem poll member)]
        simp

theorem missed_without_gap {polls : List Poll} {button after : DebouncedButton} {level : State}
    {edges : List Bool} (stable : ∀ poll ∈ polls, poll.raw = level)
    (differs : level ≠ button.lastState)
    (even : ¬Gap build button.debounceThreshhold button.lastTime polls)
    (ran : runPolls build polls button = (.ok edges, after)) :
    after.lastState = button.lastState := by
  induction polls generalizing button edges with
  | nil =>
      cases ran
      rfl
  | cons poll rest ih =>
      have away : poll.raw ≠ button.lastState := stable poll List.mem_cons_self ▸ differs
      obtain ⟨within, later⟩ := not_or.mp even
      obtain ⟨edge, middle, _, first, tail, _⟩ := run_cons.mp ran
      have checked : build.overflowChecks = true →
          button.lastTime.toNat + button.debounceThreshhold.toNat < 2 ^ 64 := by
        intro checks
        by_contra large
        have aborted := poll_overflows away checks large
        rw [first] at aborted
        cases aborted
      rw [poll_ignores away checked within] at first
      cases first
      exact @ih { button with lastTime := poll.time } _
        (fun other member => stable other (List.mem_cons_of_mem poll member)) differs later tail

end Runs

/-! How far apart the reports of one button are. -/
section Spacing
variable {build : Build} {edge : Edge}

def edgeTimes : List Poll → List Bool → List Nat
  | poll :: polls, told :: edges =>
      if told then poll.time.toNat :: edgeTimes polls edges else edgeTimes polls edges
  | _, _ => []

/-- No edge is reported before this time: the level has to change once or twice, and each
change waits for longer than the threshold. -/
def nextEdge (edge : Edge) (button : DebouncedButton) : Nat :=
  button.lastTime.toNat +
    (if button.lastState = edge.target then 2 else 1) * (button.debounceThreshhold.toNat + 1)

theorem poll_spacing {poll : Poll} {button after : DebouncedButton} {told : Bool}
    (asked : poll.edge = edge) (behind : button.lastTime.toNat ≤ poll.time.toNat)
    (small : button.lastTime.toNat + button.debounceThreshhold.toNat < 2 ^ 64)
    (ran : poll.run build button = (.ok told, after)) :
    nextEdge edge button ≤ nextEdge edge after ∧ after.lastTime.toNat ≤ poll.time.toNat ∧
      (told = true → nextEdge edge button ≤ poll.time.toNat ∧
        nextEdge edge after = poll.time.toNat + 2 * (button.debounceThreshhold.toNat + 1)) := by
  have sum : (button.lastTime + button.debounceThreshhold).toNat =
      button.lastTime.toNat + button.debounceThreshhold.toNat := by
    rw [BitVec.toNat_add, Nat.mod_eq_of_lt small]
  by_cases same : poll.raw = button.lastState
  · rw [poll_same same] at ran
    cases ran
    exact ⟨le_rfl, behind, nofun⟩
  · by_cases past : Past build button.debounceThreshhold button.lastTime poll.time
    · have late := past.2
      rw [sum] at late
      rw [poll_adopts same past] at ran
      cases ran
      simp only [nextEdge, decide_eq_true_eq, asked]
      refine ⟨?_, le_rfl, ?_⟩
      · split <;> split <;> omega
      · intro reached
        have away : button.lastState ≠ edge.target := fun held => same (reached.trans held.symm)
        rw [if_neg away, if_pos reached]
        omega
    · rw [poll_ignores same (fun _ => small) past] at ran
      cases ran
      refine ⟨?_, le_rfl, nofun⟩
      simp only [nextEdge]
      omega

/-- The edges that one button reports in a run are more than two thresholds apart, however
its level bounces. -/
theorem run_spacing {polls : List Poll} {button after : DebouncedButton} {edges : List Bool}
    (asked : ∀ poll ∈ polls, poll.edge = edge) (ordered : Ordered polls)
    (behind : ∀ poll ∈ polls, button.lastTime.toNat ≤ poll.time.toNat)
    (first : button.lastTime.toNat + button.debounceThreshhold.toNat < 2 ^ 64)
    (small : ∀ poll ∈ polls, poll.time.toNat + button.debounceThreshhold.toNat < 2 ^ 64)
    (ran : runPolls build polls button = (.ok edges, after)) :
    (∀ time ∈ edgeTimes polls edges, nextEdge edge button ≤ time) ∧
      (edgeTimes polls edges).Pairwise fun earlier later =>
        earlier + 2 * (button.debounceThreshhold.toNat + 1) ≤ later := by
  induction polls generalizing button edges with
  | nil =>
      cases ran
      exact ⟨nofun, .nil⟩
  | cons poll rest ih =>
      obtain ⟨told, middle, later, ran', continues, rfl⟩ := run_cons.mp ran
      have own : poll ∈ poll :: rest := List.mem_cons_self
      obtain ⟨ordered', sorted⟩ := List.pairwise_cons.mp ordered
      obtain ⟨grows, reached, reports⟩ := poll_spacing (asked poll own) (behind poll own) first ran'
      have same := (poll_cases ran').1
      have inside (other : Poll) (member : other ∈ rest) := List.mem_cons_of_mem poll member
      have small' := fun other member => small other (inside other member)
      rw [← same] at small'
      have tail := ih (fun other member => asked other (inside other member)) sorted
        (fun other member => reached.trans (ordered' other member))
        (by rw [same]; exact lt_of_le_of_lt (Nat.add_le_add_right reached _) (small poll own))
        small' continues
      rw [same] at tail
      cases told with
      | false =>
          constructor
          · exact fun time member => grows.trans (tail.1 time member)
          · exact tail.2
      | true =>
          obtain ⟨arrived, next⟩ := reports rfl
          rw [next] at tail
          have times : edgeTimes (poll :: rest) (true :: later) =
              poll.time.toNat :: edgeTimes rest later := rfl
          rw [times]
          constructor
          · intro time member
            rcases List.mem_cons.mp member with rfl | member'
            · exact arrived
            · exact arrived.trans ((Nat.le_add_right _ _).trans (tail.1 time member'))
          · exact List.pairwise_cons.mpr tail

end Spacing

/-- A span of polls after a history: the clock does not go back, the pin reads one level, and
the span lasts longer than the threshold. -/
structure HeldLonger (threshold : BitVec 64) (history span : List Poll) (level : State) :
    Prop where
  ordered : Ordered (history ++ span)
  stable : ∀ poll ∈ span, poll.raw = level
  long : ∃ first last, span.head? = some first ∧ span.getLast? = some last ∧
    first.time.toNat + threshold.toNat < last.time.toNat

/-- A level held longer than the threshold is adopted exactly where it is the debounced one
already, or where two neighbouring polls are further apart than the threshold. -/
theorem held_level_iff (build : Build) (initial : State) (threshold : BitVec 64)
    (history span : List Poll) (level : State) (edges : List Bool) (button : DebouncedButton)
    (reached : runPolls build history (.create initial threshold) = (.ok edges, button))
    (held : HeldLonger threshold history span level) :
    Adopts build button span level ↔
      button.lastState = level ∨ Gap build threshold button.lastTime span := by
  obtain ⟨same, reference⟩ := run_reference reached
  obtain ⟨_, ordered, across⟩ := List.pairwise_append.mp held.ordered
  have behind : ∀ poll ∈ span, button.lastTime.toNat ≤ poll.time.toNat := by
    intro poll member
    rcases reference with fresh | ⟨earlier, inside, own⟩
    · rw [fresh]
      exact Nat.zero_le _
    · rw [own]
      exact across earlier inside poll member
  change button.debounceThreshhold = threshold at same
  subst same
  constructor
  · rintro ⟨edges, after, ran, adopted, _⟩
    by_contra neither
    obtain ⟨differs, even⟩ := not_or.mp neither
    have kept := missed_without_gap held.stable (Ne.symm differs) even ran
    exact differs (kept.symm.trans adopted)
  · rintro (already | gap)
    · exact adopts_same held.stable already
    · by_cases already : button.lastState = level
      · exact adopts_same held.stable already
      · exact adopts_gap held.stable (Ne.symm already) ordered behind gap

theorem held_level_iff_rare :
    Adopts ⟨.bits32, true⟩ ⟨100, 200, .high⟩
      [⟨.rising, .low, 250⟩, ⟨.rising, .low, 351⟩] .low :=
  (held_level_iff ⟨.bits32, true⟩ .low 100 [⟨.rising, .high, 200⟩]
    [⟨.rising, .low, 250⟩, ⟨.rising, .low, 351⟩] .low [true] ⟨100, 200, .high⟩ rfl
    ⟨by simp [Ordered], by simp, _, _, rfl, rfl, by decide⟩).mpr
    (Or.inr (Or.inr (Or.inl ⟨fun _ => by decide, by decide⟩)))

/-- A press at 200 is adopted. Its release, polled every 50 units from 250 to 400, is not:
each poll that finds the low level moves the reference time. -/
theorem held_level_missed :
    ¬∀ (build : Build) (initial : State) (threshold : BitVec 64) (history span : List Poll)
      (level : State) (edges : List Bool) (button : DebouncedButton),
      runPolls build history (.create initial threshold) = (.ok edges, button) →
      HeldLonger threshold history span level → ∃ edges after,
        runPolls build span button = (.ok edges, after) ∧ after.lastState = level := by
  intro claimed
  obtain ⟨edges, after, ran, adopted⟩ := claimed ⟨.bits32, true⟩ .low 100 [⟨.rising, .high, 200⟩]
    [⟨.rising, .low, 250⟩, ⟨.rising, .low, 300⟩, ⟨.rising, .low, 350⟩, ⟨.rising, .low, 400⟩] .low
    [true] ⟨100, 200, .high⟩ rfl
    ⟨by simp [Ordered], by simp, _, _, rfl, rfl, by decide⟩
  cases ran
  cases adopted

end Perun.Button
