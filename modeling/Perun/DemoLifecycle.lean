import Perun.DemoClosing
import Perun.Triple

/-! The life of a demo channel. Its phases only go forward; after `Closing` or
`ForceClosing` nothing is sent any more. On the way it becomes active with the later one of
the two confirmations that it waits for. -/
namespace Perun.DemoLifecycle
open AbiTypes Payment Messages MessageBus Active Opening DemoChannel DemoRun
open DemoClosing (Watched WatchedRuns plainChannel plain_active plain_starts)
open Op (ensures_iff ensures_mono)

/-- How far a channel is. `Closing` and `ForceClosing` exclude each other. -/
def rank {Signer : Type} : ChannelInner Signer → Nat
  | .proposed _ => 0
  | .agreedUpon _ => 1
  | .signed _ _ _ => 2
  | .active _ _ => 3
  | .closing _ => 4
  | .forceClosing => 4
  | .temporaryInvalidState => 5
  | .closed => 5

/-- No state can be proposed, accepted or registered any more. -/
def Ended {Signer : Type} : ChannelInner Signer → Prop
  | .closing _ => True
  | .forceClosing => True
  | .closed => True
  | _ => False

/-- The next phase, and what was sent before. -/
structure Forward {env : Env} (inner : ChannelInner env.Signer) (bus : Bus)
    (after : ChannelInner env.Signer × Bus) : Prop where
  ready : Ready after.1
  rank : rank inner ≤ rank after.1
  grows : bus <+: after.2
  ended : Ended inner → after.2 = bus ∧ (after.1 = inner ∨ after.1 = .closed)

section Phases
variable {env : Env} {inner : ChannelInner env.Signer} {bus : Bus}
  {after : ChannelInner env.Signer × Bus}

theorem kept_forward (ready : Ready inner) : Forward inner bus (inner, bus) where
  ready := ready
  rank := le_rfl
  grows := List.prefix_refl bus
  ended _ := ⟨rfl, Or.inl rfl⟩

theorem apply_rank (channel : ActiveChannel env.Signer) (update : ChannelUpdate) :
    3 ≤ rank (afterApply channel update) := by
  unfold afterApply
  split <;> simp [rank]

theorem changes_forward (ready : Ready inner) (changes : Changes inner bus after) :
    Forward inner bus after := by
  have next := changes_ready changes ready
  cases changes with
  | kept => exact kept_forward ready
  | agreed => exact ⟨next, Nat.zero_le _, List.prefix_append _ _, nofun⟩
  | signed => exact ⟨next, by simp [rank], List.prefix_append _ _, nofun⟩
  | confirmed => exact ⟨next, le_rfl, List.prefix_refl _, nofun⟩
  | activated => exact ⟨next, by simp [rank], List.prefix_refl _, nofun⟩
  | proposed => exact ⟨next, le_rfl, List.prefix_append _ _, nofun⟩
  | accepted channel update =>
      exact ⟨next, apply_rank _ update, by simp [List.append_assoc], nofun⟩
  | finished channel pending update =>
      exact ⟨next, apply_rank _ update, List.prefix_append _ _, nofun⟩
  | dropped => exact ⟨next, le_rfl, List.prefix_refl _, nofun⟩
  | forced => exact ⟨next, by simp [rank], List.prefix_append _ _, nofun⟩
  | closed =>
      refine ⟨next, ?_, List.prefix_refl _, fun _ => ⟨rfl, Or.inr rfl⟩⟩
      cases inner <;> simp [rank]

theorem call_forward {before : ChannelInner env.Signer × Bus} {call : Call}
    {outcome : Outcome (DemoChannel.Error env.SigError) Unit} (ready : Ready before.1)
    (ran : call.run env before = (outcome, after)) (back : outcome ≠ .panic) :
    Forward before.1 before.2 after := by
  rcases call_returns call before.2 ready with aborts | ⟨_, failed⟩ | ⟨_, done, changes⟩
  · rw [ran] at aborts
    exact absurd aborts back
  · rw [ran] at failed
    cases failed
    exact kept_forward ready
  · rw [ran] at done
    cases done
    exact changes_forward ready changes

theorem forward_trans {middle : ChannelInner env.Signer × Bus} (first : Forward inner bus middle)
    (second : Forward middle.1 middle.2 after) : Forward inner bus after where
  ready := second.ready
  rank := first.rank.trans second.rank
  grows := first.grows.trans second.grows
  ended past := by
    obtain ⟨unsent, kept⟩ := first.ended past
    have past' : Ended middle.1 := by
      rcases kept with same | closed
      · rw [same]
        exact past
      · rw [closed]
        trivial
    obtain ⟨unsent', kept'⟩ := second.ended past'
    refine ⟨unsent'.trans unsent, ?_⟩
    rcases kept' with same' | closed'
    · rw [same']
      exact kept
    · exact Or.inr closed'

theorem runs_forward (ready : Ready inner) (runs : CallRuns env (inner, bus) after) :
    Forward inner bus after := by
  induction runs with
  | refl => exact kept_forward ready
  | tail _ step ih =>
      obtain ⟨call, outcome, ran, back⟩ := step
      exact forward_trans ih (call_forward ih.ready ran back)

end Phases

/-- A channel never comes back to an earlier phase and never takes back what it has sent.
Once it is closing, of its own accord or by force, it sends nothing more, and all that can
happen is that it becomes closed. -/
theorem phases_forward (env : Env) (first : ChannelInner env.Signer) (start : Bus)
    (starts : Starts env first) (before after : ChannelInner env.Signer × Bus)
    (runs : CallRuns env (first, start) before) (later : CallRuns env before after) :
    rank before.1 ≤ rank after.1 ∧ before.2 <+: after.2 ∧
      (Ended before.1 → after.2 = before.2 ∧ (after.1 = before.1 ∨ after.1 = .closed)) := by
  have ready := (runs_forward (starts_ready starts) runs).ready
  have forward := runs_forward ready later
  exact ⟨forward.rank, forward.grows, forward.ended⟩

/-- What the watcher answers is one of the calls. -/
theorem watched_calls {env : Env} {before after : Watched env}
    (runs : WatchedRuns env before after) :
    CallRuns env (before.inner, before.bus) (after.inner, after.bus) := by
  induction runs with
  | refl => exact Relation.ReflTransGen.refl
  | tail _ step ih =>
      obtain ⟨label, step⟩ := step
      cases step with
      | call call outcome after other ran back => exact ih.tail ⟨call, outcome, ran, back⟩
      | ack req outcome after oldest ran back =>
          exact ih.tail ⟨.watcherReply (.ack req.state.id req.state.version), outcome, ran, back⟩

theorem phases_forward_closes : ∃ after : ChannelInner plainEnv.Signer × Bus,
    CallRuns plainEnv (.agreedUpon plainSigned, []) after ∧ rank after.1 = 4 ∧
    ∀ later, CallRuns plainEnv after later → later.2 = after.2 := by
  obtain ⟨bus, opened, _⟩ := plain_active
  have runs : WatchedRuns plainEnv ⟨.agreedUpon plainSigned, [], 0⟩
      ⟨.active (plainChannel _) none, bus, 1⟩ :=
    Relation.ReflTransGen.mono (fun _ _ stepped => stepped.1) _ _ opened
  have forced := (watched_calls runs).tail ⟨.forceClose, .ok (), rfl, by simp⟩
  refine ⟨_, forced, rfl, fun later more => ?_⟩
  exact ((phases_forward plainEnv _ [] plain_starts _ later forced more).2.2 trivial).1

/-! The two confirmations. -/
section Activation
variable (env : Env)

/-- What the channel and the bus are after some calls, whatever they returned. -/
def runCalls : List Call → ChannelInner env.Signer × Bus → ChannelInner env.Signer × Bus
  | [], state => state
  | call :: rest, state => runCalls rest (call.run env state).2

def isAck : Call → Bool
  | .watcherReply (.ack _ _) => true
  | _ => false

def isFunded : Call → Bool
  | .funderReply (.funded _) => true
  | _ => false

/-- Both services have confirmed. -/
def confirmed (calls : List Call) : Bool := calls.any isAck && calls.any isFunded

variable {env}

theorem run_calls_append (earlier later : List Call) (state : ChannelInner env.Signer × Bus) :
    runCalls env (earlier ++ later) state = runCalls env later (runCalls env earlier state) := by
  induction earlier generalizing state with
  | nil => rfl
  | cons call rest ih => exact ih _

/-- The confirmation that was missing activates the channel, any other call is either noted
or refused. -/
theorem signed_call (channel : SignedChannel env.Signer) (watching funded : Bool) (bus : Bus)
    (call : Call) (waits : (watching && funded) = false) :
    (call.run env (.signed channel watching funded, bus)).2 =
      if (watching || isAck call) && (funded || isFunded call) then
        (.active channel.markFunded none, bus)
      else (.signed channel (watching || isAck call) (funded || isFunded call), bus) := by
  cases call with
  | watcherReply msg => cases msg <;> cases watching <;> cases funded <;> first | rfl | cases waits
  | funderReply msg => cases msg; cases watching <;> cases funded <;> rfl
  | participantMsg msg => cases watching <;> cases funded <;> cases msg <;> first | rfl | cases waits
  | update amount isFinal => cases watching <;> cases funded <;> first | rfl | cases waits
  | forceClose => cases watching <;> cases funded <;> first | rfl | cases waits

theorem confirmed_snoc (calls : List Call) (call : Call) :
    confirmed (calls ++ [call]) =
      ((calls.any isAck || isAck call) && (calls.any isFunded || isFunded call)) := by
  simp [confirmed]

theorem signed_calls (channel : SignedChannel env.Signer) (bus : Bus) (calls : List Call)
    (waits : confirmed calls = false) :
    runCalls env calls (.signed channel false false, bus) =
      (.signed channel (calls.any isAck) (calls.any isFunded), bus) := by
  induction calls using List.reverseRecOn with
  | nil => rfl
  | append_singleton earlier call ih =>
      have waits' : confirmed earlier = false := by
        rw [confirmed_snoc] at waits
        unfold confirmed
        revert waits
        cases earlier.any isAck <;> cases earlier.any isFunded <;> simp
      rw [run_calls_append, ih waits', runCalls, runCalls, signed_call _ _ _ _ _ waits',
        ← confirmed_snoc, waits]
      simp

end Activation

/-- A signed channel becomes active with the call that completes the two confirmations, in
whatever order and however often they come, and all other calls before that have no effect. -/
theorem active_when_confirmed (env : Env) (channel : SignedChannel env.Signer) (bus : Bus)
    (calls : List Call) (waits : confirmed calls = false) :
    runCalls env calls (.signed channel false false, bus) =
        (.signed channel (calls.any isAck) (calls.any isFunded), bus) ∧
      ∀ call, confirmed (calls ++ [call]) = true →
        runCalls env (calls ++ [call]) (.signed channel false false, bus) =
          (.active channel.markFunded none, bus) := by
  have signed := signed_calls channel bus calls waits
  refine ⟨signed, ?_⟩
  intro call complete
  rw [run_calls_append, signed, runCalls, runCalls, signed_call _ _ _ _ _ waits, ← confirmed_snoc,
    complete]
  rfl

def plainSigned : SignedChannel plainEnv.Signer := ⟨plainChannel ChannelRun.plainAgreed.initState⟩

theorem active_when_confirmed_twice :
    runCalls plainEnv [.funderReply (.funded ⟨Vector.replicate 32 0⟩), .forceClose,
        .funderReply (.funded ⟨Vector.replicate 32 1⟩), .watcherReply (.ack ⟨Vector.replicate 32 2⟩ 7)]
      (.signed plainSigned false false, []) = (.active plainSigned.markFunded none, []) :=
  (active_when_confirmed plainEnv plainSigned []
    [.funderReply (.funded ⟨Vector.replicate 32 0⟩), .forceClose,
      .funderReply (.funded ⟨Vector.replicate 32 1⟩)] rfl).2 _ rfl

end Perun.DemoLifecycle
