import Perun.DemoLifecycle
import Perun.DemoPhases
import Perun.UpdateSafety

/-! What the watcher is told about one channel: an unbroken chain of states, from the one
that both sides signed first, each a valid transition of the one before. An update of the
own side is valid as long as it is pending, because nothing else is applied meanwhile. -/
namespace Perun.DemoChain
open AbiTypes Payment Messages MessageBus Active DemoChannel DemoRun DemoClosing DemoPhases
open DemoLifecycle (watched_calls)
open Op (ensures_iff ensures_mono)

/-- A pending update is for the state that the channel holds. -/
def Current (env : Env) : ChannelInner env.Signer → Prop
  | .active channel (some update) => ValidTransition env channel.state update.newState
  | _ => True

/-- The watcher does not know the channel yet. -/
def Unwatched {Signer : Type} : ChannelInner Signer → Prop
  | .proposed _ => True
  | .agreedUpon _ => True
  | _ => False

def Follows (env : Env) (earlier later : StartWatchingLedgerChannelReq) : Prop :=
  later.params = earlier.params ∧ ValidTransition env earlier.state later.state

/-- What a call makes of the requests. -/
inductive Tells {env : Env} (inner : ChannelInner env.Signer) (bus : Bus) :
    ChannelInner env.Signer × Bus → Prop
  | silent (after : ChannelInner env.Signer × Bus) (unasked : requests after.2 = requests bus)
      (holds : watching after.1 = watching inner ∨ watching after.1 = none)
      (unwatched : Unwatched after.1 → Unwatched inner) (current : Current env after.1) :
      Tells inner bus after
  | first (req : StartWatchingLedgerChannelReq) (after : ChannelInner env.Signer × Bus)
      (unwatched : Unwatched inner) (asked : requests after.2 = requests bus ++ [req])
      (holds : watching after.1 = some req) (current : Current env after.1) :
      Tells inner bus after
  | next (earlier req : StartWatchingLedgerChannelReq) (after : ChannelInner env.Signer × Bus)
      (held : watching inner = some earlier) (follows : Follows env earlier req)
      (asked : requests after.2 = requests bus ++ [req]) (holds : watching after.1 = some req)
      (current : Current env after.1) : Tells inner bus after

section Steps
variable {env : Env} {inner : ChannelInner env.Signer} {bus : Bus}
  {after : ChannelInner env.Signer × Bus}

theorem apply_current (channel : ActiveChannel env.Signer) (update : ChannelUpdate) :
    Current env (afterApply channel update) := by
  unfold afterApply
  split <;> trivial

theorem watching_watched {req : StartWatchingLedgerChannelReq} (held : watching inner = some req) :
    ¬Unwatched inner := by
  cases inner <;> first | exact id | cases held

theorem kept_tells (current : Current env inner) : Tells inner bus (inner, bus) :=
  .silent _ rfl (Or.inl rfl) id current

/-- A state that is applied is told. -/
theorem applied_tells {channel : ActiveChannel env.Signer} {pending : Option ChannelUpdate}
    {update : ChannelUpdate} {newState : State 1 2} {signatures : Vector Signature 2} {sent : Bus}
    (valid : ValidTransition env channel.state newState)
    (asked : requests sent =
      requests bus ++ [⟨channel.params, newState, signatures⟩]) :
    Tells (.active channel pending) bus
      (afterApply { channel with state := newState, signatures := signatures } update, sent) :=
  .next ⟨channel.params, channel.state, channel.signatures⟩
    ⟨channel.params, newState, signatures⟩ _ rfl ⟨rfl, valid⟩ asked
    (apply_watching _ update) (apply_current _ update)

theorem delivers_tells {channel : ActiveChannel env.Signer} {pending : Option ChannelUpdate}
    {msg : ParticipantMessage} (current : Current env (.active channel pending))
    (delivers : Delivers channel pending bus msg after) :
    Tells (.active channel pending) bus after := by
  cases delivers with
  | unchanged => exact kept_tells current
  | accepted msg update sig sender signatures idle valid =>
      apply applied_tells valid
      simp [requests_append]
  | finished update signed msg signer signatures waiting =>
      subst waiting
      apply applied_tells current
      simp [requests_append]
  | incomplete update signed msg waiting same =>
      subst waiting
      refine .silent _ rfl (Or.inl rfl) id ?_
      have valid : ValidTransition env channel.state update.newState := current
      rw [← same] at valid
      exact valid
  | dropped => exact .silent _ rfl (Or.inl rfl) id trivial

theorem proposes_tells {channel : ActiveChannel env.Signer} {pending : Option ChannelUpdate}
    (current : Current env (.active channel pending))
    (proposes : Proposes channel pending bus after) :
    Tells (.active channel pending) bus after := by
  cases proposes with
  | unchanged => exact kept_tells current
  | proposed newState sig sender valid signed =>
      exact .silent _ (by simp [requests_append]) (Or.inl rfl) id valid

/-- Outside of `Active` the watcher is told the first state only. -/
theorem moves_tells (never : ∀ channel pending, inner ≠ .active channel pending)
    (moves : Moves inner bus after) : Tells inner bus after := by
  have current : Current env inner := by
    cases inner with
    | active channel pending => exact absurd rfl (never channel pending)
    | _ => trivial
  cases moves with
  | agreed => exact .silent _ (by simp [requests_append]) (Or.inl rfl) (fun _ => trivial) trivial
  | signed channel signatures =>
      exact .first ⟨channel.params, channel.initState, signatures⟩ _ trivial
        (by simp [requests_append]) rfl trivial
  | later _ _ _ proposed agreed changes =>
      cases changes with
      | kept => exact kept_tells current
      | agreed channel => cases proposed channel rfl
      | signed channel => cases agreed channel rfl
      | confirmed => exact .silent _ rfl (Or.inl rfl) id trivial
      | activated => exact .silent _ rfl (Or.inl rfl) nofun trivial
      | proposed channel pending => exact absurd rfl (never channel pending)
      | accepted channel => exact absurd rfl (never channel none)
      | finished channel pending => exact absurd rfl (never channel (some pending))
      | dropped channel pending => exact absurd rfl (never channel (some pending))
      | forced channel pending => exact absurd rfl (never channel pending)
      | closed => exact .silent _ rfl (Or.inr rfl) nofun trivial

theorem call_tells (call : Call) (ready : Ready inner) (current : Current env inner) :
    Back env (Tells inner bus) (call.run env) (inner, bus) := by
  have moved (never : ∀ channel pending, inner ≠ .active channel pending) :
      Back env (Tells inner bus) (call.run env) (inner, bus) := by
    apply ensures_mono (call_moves call ready)
    · rintro _ after moves
      exact moves_tells never moves
    · rintro _ after moves
      exact moves_tells never moves
  have told {method : Method env} (all : ∀ outcome after, method (inner, bus) = (outcome, after) →
      outcome ≠ .panic → Tells inner bus after) :
      Back env (Tells inner bus) method (inner, bus) := by
    rw [Back, ensures_iff]
    constructor
    · rintro _ after ran
      exact all _ after ran (by simp)
    · rintro error after ran
      exact all _ after ran (by simp)
  cases inner with
  | active channel pending =>
      cases call with
      | update amount isFinal =>
          exact told fun _ _ ran back => proposes_tells current (update_proposes ran back)
      | forceClose =>
          have unasked : requests (bus ++ [.toFunder (.registerReq ⟨channel.adjudicatorReq⟩)]) =
              requests bus := by
            simp [requests_append]
          exact .silent _ unasked (Or.inr rfl) False.elim trivial
      | watcherReply msg =>
          cases msg with
          | ack id version => exact kept_tells current
          | disputeAck id => exact kept_tells current
          | disputeNotification id => exact .silent _ rfl (Or.inr rfl) False.elim trivial
      | funderReply msg => exact kept_tells current
      | participantMsg msg =>
          cases pending with
          | none =>
              cases msg with
              | channelUpdate msg =>
                  exact told fun _ _ ran back =>
                    delivers_tells current (update_proposed_delivers ran back)
              | _ => exact kept_tells current
          | some update =>
              obtain ⟨sig, own⟩ := ready
              have bound := (Vector.getElem?_eq_some_iff.mp own).1
              exact told fun _ _ ran back =>
                delivers_tells current (message_delivers bound ran back)
  | _ =>
      apply moved
      rintro channel pending same
      cases same

/-- The requests for this channel, after those that were there before. -/
structure Chained (env : Env) (before reqs : List StartWatchingLedgerChannelReq)
    (inner : ChannelInner env.Signer) (bus : Bus) : Prop where
  requested : requests bus = before ++ reqs
  chain : reqs.IsChain (Follows env)
  last : ∀ req, watching inner = some req → reqs.getLast? = some req
  none : Unwatched inner → reqs = []
  current : Current env inner

theorem tells_chained {before reqs : List StartWatchingLedgerChannelReq}
    (chained : Chained env before reqs inner bus) (tells : Tells inner bus after) :
    ∃ reqs, Chained env before reqs after.1 after.2 := by
  cases tells with
  | silent _ unasked holds unwatched current =>
      refine ⟨reqs, unasked.trans chained.requested, chained.chain, ?_,
        fun next => chained.none (unwatched next), current⟩
      intro req held
      rcases holds with same | nothing
      · exact chained.last req (same.symm.trans held)
      · rw [nothing] at held
        cases held
  | first req _ unwatched asked holds current =>
      have empty := chained.none unwatched
      subst empty
      refine ⟨[req], ?_, List.isChain_singleton req, ?_, ?_, current⟩
      · rw [asked, chained.requested, List.append_nil]
      · intro other held
        cases holds.symm.trans held
        rfl
      · exact fun next => absurd next (watching_watched holds)
  | next earlier req _ held follows asked holds current =>
      refine ⟨reqs ++ [req], ?_, ?_, ?_, ?_, current⟩
      · rw [asked, chained.requested, List.append_assoc]
      · apply chained.chain.append (List.isChain_singleton req)
        intro last isLast other isOther
        cases isOther
        cases (chained.last earlier held).symm.trans isLast
        exact follows
      · intro other held
        cases holds.symm.trans held
        simp
      · exact fun next => absurd next (watching_watched holds)

theorem runs_chained {before reqs : List StartWatchingLedgerChannelReq}
    (runs : CallRuns env (inner, bus) after) (ready : Ready inner)
    (chained : Chained env before reqs inner bus) :
    ∃ reqs, Chained env before reqs after.1 after.2 := by
  induction runs with
  | refl => exact ⟨reqs, chained⟩
  | tail earlier step ih =>
      obtain ⟨reqs, chained⟩ := ih
      obtain ⟨call, outcome, ran, back⟩ := step
      have tells := Op.ensures_back (call_tells call (runs_ready earlier ready) chained.current) ran back
      exact tells_chained chained tells

theorem starts_chained (starts : Starts env inner) : Chained env (requests bus) [] inner bus where
  requested := (List.append_nil _).symm
  chain := List.isChain_nil
  last req held := by cases starts <;> cases held
  none _ := rfl
  current := by cases starts <;> trivial

end Steps

/-! What stays the same along a chain. -/
section Chains
variable {env : Env} {reqs : List StartWatchingLedgerChannelReq}

/-- Everything but the balances, the version and whether the state is final. -/
def fixed (req : StartWatchingLedgerChannelReq) : Params 2 × Hash × Vector Asset 1 × List Nat :=
  (req.params, req.state.id, req.state.outcome.assets, req.state.outcome.exactTotals)

theorem follows_fixed {earlier later : StartWatchingLedgerChannelReq}
    (follows : Follows env earlier later) : fixed earlier = fixed later := by
  unfold fixed
  rw [follows.1, follows.2.sameId, follows.2.assets,
    UpdateSafety.exact_totals_of_valid follows.2]

theorem chain_fixed (chain : reqs.IsChain (Follows env)) :
    ∀ a ∈ reqs, ∀ b ∈ reqs, fixed a = fixed b := by
  have same : reqs.IsChain fun a b => fixed a = fixed b :=
    chain.imp fun _ _ follows => follows_fixed follows
  have transitive : IsTrans StartWatchingLedgerChannelReq fun a b => fixed a = fixed b :=
    ⟨fun _ _ _ first second => first.trans second⟩
  have symmetric : Std.Symm fun a b : StartWatchingLedgerChannelReq => fixed a = fixed b :=
    ⟨fun _ _ => Eq.symm⟩
  have equal := @List.Pairwise.forall_of_forall _ (fun a b => fixed a = fixed b) reqs symmetric
    (fun _ _ => rfl) (List.isChain_iff_pairwise.mp same)
  exact fun a member b member' => equal member member'

/-- Nothing comes after a final state. -/
theorem chain_final {earlier later : List StartWatchingLedgerChannelReq}
    {req : StartWatchingLedgerChannelReq}
    (chain : (earlier ++ req :: later).IsChain (Follows env)) (final : req.state.isFinal = true) :
    later = [] := by
  cases later with
  | nil => rfl
  | cons next rest =>
      have follows := (List.isChain_cons_cons.mp (chain.right_of_append)).1
      have notFinal := follows.2.notFinal
      rw [final] at notFinal
      cases notFinal

end Chains

/-- In every run of a channel from its first phase on, what its watcher is told is an
unbroken chain: each state is a valid transition of the one before, so that the parameters,
the id, the assets and the total of each asset never change and a final state is the last
one. The state that the channel holds is always the last one told. -/
theorem watcher_told_chain (env : Env) (inner : ChannelInner env.Signer) (bus : Bus)
    (starts : Starts env inner) (after : ChannelInner env.Signer × Bus)
    (runs : CallRuns env (inner, bus) after) :
    ∃ reqs, requests after.2 = requests bus ++ reqs ∧ reqs.IsChain (Follows env) ∧
      (∀ req, watching after.1 = some req → reqs.getLast? = some req) ∧
      (∀ a ∈ reqs, ∀ b ∈ reqs, fixed a = fixed b) ∧
      ∀ earlier req later, reqs = earlier ++ req :: later → req.state.isFinal = true →
        later = [] := by
  obtain ⟨reqs, chained⟩ := runs_chained runs (starts_ready starts) (starts_chained starts)
  refine ⟨reqs, chained.requested, chained.chain, chained.last, chain_fixed chained.chain, ?_⟩
  rintro earlier req later rfl final
  exact chain_final chained.chain final

theorem watcher_told_chain_payments : ∃ after reqs,
    CallRuns plainEnv (.agreedUpon plainSigned, []) after ∧ requests after.2 = reqs ∧
    reqs.map (·.state) = [ChannelRun.plainAgreed.initState, plainFirst, plainFinal] ∧
    reqs.IsChain (Follows plainEnv) := by
  obtain ⟨bus, opened, sent⟩ := plain_active
  obtain ⟨bus₁, first, sent₁⟩ := plain_received bus 1 plain_first
  obtain ⟨bus₂, final, sent₂⟩ := plain_received bus₁ 1 plain_final
  rw [sent₁, sent] at sent₂
  have runs : WatchedRuns plainEnv ⟨.agreedUpon plainSigned, [], 0⟩
      ⟨.active (plainChannel _) none, bus, 1⟩ :=
    Relation.ReflTransGen.mono (fun _ _ stepped => stepped.1) _ _ opened
  have calls := watched_calls ((runs.tail ⟨none, first⟩).tail ⟨none, final⟩)
  obtain ⟨reqs, requested, chain, _⟩ :=
    watcher_told_chain plainEnv _ [] plain_starts _ calls
  rw [requests_nil, List.nil_append] at requested
  exact ⟨_, reqs, calls, requested, requested ▸ sent₂, chain⟩

end Perun.DemoChain
