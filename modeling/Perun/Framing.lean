import Mathlib

/-! Frames on a queue. A stream of frames reaches a queue in chunks of any size, and a
receiver is called at any time. A receiver whose calls leave an incomplete frame alone
and otherwise take off exactly one frame delivers what the frames carry, in order and
each once, under every fragmentation. -/
namespace Perun.Framing

variable {Symbol Item Result Queue : Type}

/-- The symbols of consecutive frames. -/
def stream (frame : Item → List Symbol) (items : List Item) : List Symbol := items.flatMap frame

theorem stream_cons (frame : Item → List Symbol) (item : Item) (later : List Item) :
    stream frame (item :: later) = frame item ++ stream frame later := List.flatMap_cons

section Receiver
variable (frame : Item → List Symbol) (contents : Queue → List Symbol) (decode : Item → Result)

/-- What one call does to a queue that is to hold the frames of the remaining items. -/
inductive Handles (queue : Queue) : List Item → Option Result × Queue → Prop
  | incomplete (rest : List Item)
      (short : ∀ item later, rest = item :: later →
        (contents queue).length < (frame item).length) :
      Handles queue rest (none, queue)
  | complete (item : Item) (later : List Item) (after : Queue)
      (whole : (frame item).length ≤ (contents queue).length)
      (consumed : contents after = (contents queue).drop (frame item).length) :
      Handles queue (item :: later) (some (decode item), after)

/-- Every call on a queue that holds the beginning of frames of admitted items does so. -/
def Receives (Admitted : Item → Prop) (receive : Queue → Option Result × Queue) : Prop :=
  ∀ queue pending rest, (∀ item ∈ rest, Admitted item) →
    contents queue ++ pending = stream frame rest →
    Handles frame contents decode queue rest (receive queue)

/-- The queue, the symbols still under way and what was delivered. -/
structure World (Symbol Result Queue : Type) where
  queue : Queue
  pending : List Symbol
  results : List Result

def call (receive : Queue → Option Result × Queue) (world : World Symbol Result Queue) :
    World Symbol Result Queue :=
  ⟨(receive world.queue).2, world.pending, world.results ++ (receive world.queue).1.toList⟩

inductive Step (capacity : Nat) (receive : Queue → Option Result × Queue) :
    World Symbol Result Queue → World Symbol Result Queue → Prop
  | arrive (queue after : Queue) (chunk pending : List Symbol) (results : List Result)
      (appended : contents after = contents queue ++ chunk)
      (room : (contents after).length ≤ capacity) :
      Step capacity receive ⟨queue, chunk ++ pending, results⟩ ⟨after, pending, results⟩
  | call (world : World Symbol Result Queue) :
      Step capacity receive world (Framing.call receive world)

/-- Some items are delivered, and the queue and the way hold the frames of the others. -/
structure Splits (items received rest : List Item) (world : World Symbol Result Queue) : Prop where
  whole : items = received ++ rest
  delivered : world.results = received.map decode
  remaining : contents world.queue ++ world.pending = stream frame rest

end Receiver

variable {frame : Item → List Symbol} {contents : Queue → List Symbol} {decode : Item → Result}
  {Admitted : Item → Prop} {receive : Queue → Option Result × Queue} {capacity : Nat}

/-- What is received may be converted at once. -/
theorem receives_map {Converted : Type} (convert : Result → Converted)
    (receives : Receives frame contents decode Admitted receive) :
    Receives frame contents (fun item => convert (decode item)) Admitted
      fun queue => ((receive queue).1.map convert, (receive queue).2) := by
  intro queue pending rest admitted split
  have handles := receives queue pending rest admitted split
  generalize result : receive queue = handled at handles
  cases handles with
  | incomplete rest short =>
      simp only [result]
      exact .incomplete rest short
  | complete item later after whole consumed =>
      simp only [result]
      exact .complete item later after whole consumed

/-- A consumed frame moves its item from the remaining to the delivered ones. -/
theorem consumed_splits {items received later : List Item} {item : Item}
    {world : World Symbol Result Queue} {after : Queue}
    (splits : Splits frame contents decode items received (item :: later) world)
    (result : receive world.queue = (some (decode item), after))
    (whole : (frame item).length ≤ (contents world.queue).length)
    (consumed : contents after = (contents world.queue).drop (frame item).length) :
    Splits frame contents decode items (received ++ [item]) later (call receive world) where
  whole := by rw [splits.whole, List.append_assoc, List.singleton_append]
  delivered := by simp [call, result, splits.delivered]
  remaining := by
    have remaining := congrArg (List.drop (frame item).length) splits.remaining
    rw [List.drop_append_of_le_length whole, stream_cons, List.drop_left] at remaining
    simpa only [call, result, consumed] using remaining

theorem call_splits {items received rest : List Item} {world : World Symbol Result Queue}
    (splits : Splits frame contents decode items received rest world)
    (handles : Handles frame contents decode world.queue rest (receive world.queue)) :
    ∃ received rest, Splits frame contents decode items received rest (call receive world) := by
  generalize result : receive world.queue = handled at handles
  cases handles with
  | incomplete rest short =>
      refine ⟨received, rest, splits.whole, ?_, ?_⟩
      · simp [call, result, splits.delivered]
      · simpa only [call, result] using splits.remaining
  | complete item later after whole consumed =>
      exact ⟨_, _, consumed_splits splits result whole consumed⟩

theorem step_splits {items received rest : List Item} {world after : World Symbol Result Queue}
    (receives : Receives frame contents decode Admitted receive)
    (admitted : ∀ item ∈ items, Admitted item)
    (splits : Splits frame contents decode items received rest world)
    (step : Step contents capacity receive world after) :
    ∃ received rest, Splits frame contents decode items received rest after := by
  cases step with
  | arrive queue queue' chunk pending results appended room =>
      refine ⟨received, rest, splits.whole, splits.delivered, ?_⟩
      rw [appended, List.append_assoc]
      exact splits.remaining
  | call world =>
      have inside : ∀ item ∈ rest, Admitted item := fun item member =>
        admitted item (splits.whole ▸ List.mem_append_right received member)
      exact call_splits splits (receives _ _ rest inside splits.remaining)

theorem run_splits {items : List Item} {start : Queue} {world : World Symbol Result Queue}
    (receives : Receives frame contents decode Admitted receive)
    (admitted : ∀ item ∈ items, Admitted item) (fresh : contents start = [])
    (runs : Relation.ReflTransGen (Step contents capacity receive)
      ⟨start, stream frame items, []⟩ world) :
    ∃ received rest, Splits frame contents decode items received rest world := by
  induction runs with
  | refl => exact ⟨[], items, rfl, rfl, by rw [fresh, List.nil_append]⟩
  | tail _ step ih =>
      obtain ⟨received, rest, splits⟩ := ih
      exact step_splits receives admitted splits step

/-- Once everything has arrived, a call delivers the next item. -/
theorem next_splits {items received later : List Item} {item : Item}
    {world : World Symbol Result Queue} (receives : Receives frame contents decode Admitted receive)
    (admitted : ∀ item ∈ items, Admitted item)
    (splits : Splits frame contents decode items received (item :: later) world)
    (arrived : world.pending = []) :
    Splits frame contents decode items (received ++ [item]) later (call receive world) := by
  have inside : ∀ other ∈ item :: later, Admitted other := fun other member =>
    admitted other (splits.whole ▸ List.mem_append_right received member)
  have handles := receives _ _ _ inside splits.remaining
  generalize result : receive world.queue = handled at handles
  cases handles with
  | incomplete _ short =>
      -- Nothing is under way, so the queue holds the whole frame.
      have held := congrArg List.length splits.remaining
      rw [arrived, List.append_nil, stream_cons, List.length_append] at held
      have less := short item later rfl
      omega
  | complete _ _ _ whole consumed => exact consumed_splits splits result whole consumed

/-- Once everything has arrived, one call for each remaining item delivers them all. -/
theorem drains {items received rest : List Item} {world : World Symbol Result Queue}
    (receives : Receives frame contents decode Admitted receive)
    (admitted : ∀ item ∈ items, Admitted item)
    (splits : Splits frame contents decode items received rest world)
    (arrived : world.pending = []) :
    (((call receive)^[rest.length]) world).results = items.map decode := by
  induction rest generalizing received world with
  | nil =>
      rw [splits.whole, List.append_nil]
      exact splits.delivered
  | cons item later ih => exact ih (next_splits receives admitted splits arrived) arrived

/-! A receiver that halts at the first result that is not good. -/
section Halting

/-- The results up to the first that is not good, and that one. -/
def upTo (good : Result → Bool) : List Result → List Result
  | [] => []
  | result :: rest => if good result then result :: upTo good rest else [result]

inductive HaltingStep (contents : Queue → List Symbol) (good : Result → Bool) (capacity : Nat)
    (receive : Queue → Option Result × Queue) (before after : World Symbol Result Queue) : Prop
  | goes (goodSoFar : ∀ result ∈ before.results, good result = true)
      (step : Step contents capacity receive before after)

variable {good : Result → Bool}

theorem up_to_good {results : List Result} (all : ∀ result ∈ results, good result = true)
    (more : List Result) : upTo good (results ++ more) = results ++ upTo good more := by
  induction results with
  | nil => rfl
  | cons result rest ih =>
      have rest := ih fun other member => all other (List.mem_cons_of_mem _ member)
      rw [List.cons_append, upTo, if_pos (all result List.mem_cons_self), rest, List.cons_append]

theorem up_to_append (results more : List Result) :
    upTo good results <+: upTo good (results ++ more) := by
  induction results with
  | nil => exact List.nil_prefix
  | cons result rest ih =>
      rw [List.cons_append, upTo, upTo]
      split
      · exact (List.prefix_cons_inj result).mpr ih
      · exact List.prefix_refl _

theorem up_to_stopped {results : List Result} (bad : ∃ result ∈ results, good result = false)
    (more : List Result) : upTo good (results ++ more) = upTo good results := by
  induction results with
  | nil => simp at bad
  | cons result rest ih =>
      rw [List.cons_append, upTo, upTo]
      by_cases fine : good result = true
      · obtain ⟨other, member, failed⟩ := bad
        have later : other ∈ rest := by
          rcases List.mem_cons.mp member with rfl | later
          · rw [fine] at failed
            cases failed
          · exact later
        rw [if_pos fine, if_pos fine, ih ⟨other, later, failed⟩]
      · rw [if_neg fine, if_neg fine]

theorem call_up_to {world : World Symbol Result Queue}
    (all : ∀ result ∈ world.results, good result = true) :
    upTo good (call receive world).results = (call receive world).results := by
  rw [call, up_to_good all]
  cases (receive world.queue).1 with
  | none => rfl
  | some result =>
      rw [Option.toList_some, upTo, upTo]
      split <;> rfl

/-- A run never goes past a result that is not good. -/
theorem halting_up_to {start world : World Symbol Result Queue} (fresh : start.results = [])
    (runs : Relation.ReflTransGen (HaltingStep contents good capacity receive) start world) :
    upTo good world.results = world.results := by
  induction runs with
  | refl => rw [fresh, upTo]
  | tail _ step ih =>
      obtain ⟨all, step⟩ := step
      cases step with
      | arrive => exact ih
      | call world => exact call_up_to all

theorem halting_runs {start world : World Symbol Result Queue}
    (runs : Relation.ReflTransGen (HaltingStep contents good capacity receive) start world) :
    Relation.ReflTransGen (Step contents capacity receive) start world := by
  apply Relation.ReflTransGen.mono _ _ _ runs
  rintro before after ⟨_, step⟩
  exact step

/-- Once everything has arrived, all is delivered, or all up to the first that is not good. -/
theorem halting_drains {items received rest : List Item} {world : World Symbol Result Queue}
    (receives : Receives frame contents decode Admitted receive)
    (admitted : ∀ item ∈ items, Admitted item)
    (splits : Splits frame contents decode items received rest world)
    (arrived : world.pending = []) (stopped : upTo good world.results = world.results) :
    ∃ final, Relation.ReflTransGen (HaltingStep contents good capacity receive) world final ∧
      final.results = upTo good (items.map decode) := by
  induction rest generalizing received world with
  | nil =>
      refine ⟨world, .refl, ?_⟩
      rw [splits.whole, List.append_nil, ← splits.delivered, stopped]
  | cons item later ih =>
      by_cases all : ∀ result ∈ world.results, good result = true
      · obtain ⟨final, runs, delivered⟩ := ih (next_splits receives admitted splits arrived)
          arrived (call_up_to all)
        exact ⟨final, .head ⟨all, .call world⟩ runs, delivered⟩
      -- The receiver has halted, and what would come behind changes nothing.
      · have bad : ∃ result ∈ world.results, good result = false := by
          push Not at all
          simpa using all
        refine ⟨world, .refl, ?_⟩
        rw [splits.whole, List.map_append, ← splits.delivered, up_to_stopped bad, stopped]

end Halting
end Perun.Framing
