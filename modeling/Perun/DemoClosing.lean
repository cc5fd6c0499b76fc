import Perun.DemoRun

/-! What the demo takes for the confirmation of the final state. The watcher
answers every request once and in order, at any later time. Acknowledgements are
not compared with anything, so in `Closing` the oldest one that is still under way
closes the channel. It is that of the final state if all others had arrived before
the final update was applied. -/
namespace Perun.DemoClosing
open AbiTypes Payment Messages MessageBus Active Opening ChannelRun DemoChannel DemoRun

/-- `acked` counts the acknowledgements that were delivered. -/
structure Watched (env : Env) where
  inner : ChannelInner env.Signer
  bus : Bus
  acked : Nat

def requests (bus : Bus) : List StartWatchingLedgerChannelReq :=
  bus.filterMap fun sent =>
    match sent with
    | .toWatcher (.watchRequest req) => some req
    | _ => none

section Runs
variable (env : Env)

/-- A call that returns. The acknowledgement of a request carries its id and version
and names it in the step; every other message is arbitrary. -/
inductive Steps : Watched env → Option StartWatchingLedgerChannelReq → Watched env → Prop
  | call (world : Watched env) (call : Call)
      (outcome : Outcome (DemoChannel.Error env.SigError) Unit) (after : ChannelInner env.Signer × Bus)
      (other : ∀ id version, call ≠ .watcherReply (.ack id version))
      (run : call.run env (world.inner, world.bus) = (outcome, after))
      (returns : outcome ≠ .panic) : Steps world none ⟨after.1, after.2, world.acked⟩
  | ack (world : Watched env) (req : StartWatchingLedgerChannelReq)
      (outcome : Outcome (DemoChannel.Error env.SigError) Unit) (after : ChannelInner env.Signer × Bus)
      (oldest : (requests world.bus)[world.acked]? = some req)
      (run : processWatcherReply env (.ack req.state.id req.state.version)
        (world.inner, world.bus) = (outcome, after))
      (returns : outcome ≠ .panic) : Steps world (some req) ⟨after.1, after.2, world.acked + 1⟩

/-- The channel enters `Closing` only when no acknowledgement is under way. -/
def Timely (before after : Watched env) : Prop :=
  ∀ final, after.inner = .closing final →
    (∃ channel, before.inner = .closing channel) ∨ before.acked = (requests before.bus).length

def WatchedRuns : Watched env → Watched env → Prop :=
  Relation.ReflTransGen fun before after => ∃ label, Steps env before label after

def TimelyRuns : Watched env → Watched env → Prop :=
  Relation.ReflTransGen fun before after =>
    (∃ label, Steps env before label after) ∧ Timely env before after

/-- An acknowledgement that closes the channel is that of the final state. -/
def ConfirmsFinal (world : Watched env) : Prop :=
  ∀ channel req after, world.inner = .closing channel → Steps env world (some req) after →
    after.inner = .closed → req.state.id = channel.state.id ∧
      req.state.version = channel.state.version

end Runs

/-- The last request is for the state that the channel holds, and in `Closing` it is
the only one whose acknowledgement is missing. -/
def Told {Signer : Type} (sent : List StartWatchingLedgerChannelReq) (acked : Nat) :
    ChannelInner Signer → Prop
  | .signed channel _ _ => sent.getLast?.map (·.state) = some channel.inner.state
  | .active channel _ => sent.getLast?.map (·.state) = some channel.state
  | .closing channel => sent.getLast?.map (·.state) = some channel.state ∧
      acked + 1 = sent.length
  | _ => True

section Invariant
variable {env : Env}

theorem requests_append (first second : Bus) :
    requests (first ++ second) = requests first ++ requests second := List.filterMap_append

@[simp] theorem requests_watch (req : StartWatchingLedgerChannelReq) (rest : Bus) :
    requests (.toWatcher (.watchRequest req) :: rest) = req :: requests rest := rfl

@[simp] theorem requests_fund (msg : FunderRequestMessage) (rest : Bus) :
    requests (.toFunder msg :: rest) = requests rest := rfl

@[simp] theorem requests_nil : requests [] = [] := rfl

@[simp] theorem requests_broadcast (partIdx : PartIdx) (sender : Identity) (peers : Peers)
    (msg : ParticipantMessage) : requests (broadcast partIdx sender peers msg) = [] := by
  unfold requests broadcast
  rw [List.filterMap_eq_nil_iff]
  intro sent member
  obtain ⟨peer, _, rfl⟩ := List.mem_map.mp member
  rfl

theorem applied_told {channel : ActiveChannel env.Signer} {update : ChannelUpdate}
    {sent : List StartWatchingLedgerChannelReq} {acked : Nat}
    (last : sent.getLast?.map (·.state) = some channel.state)
    (timely : ∀ final, afterApply channel update = .closing final → acked + 1 = sent.length) :
    Told sent acked (afterApply channel update) := by
  unfold afterApply at timely ⊢
  split
  · rename_i isFinal
    exact ⟨last, timely channel (if_pos isFinal)⟩
  · exact last

/-- A call that is not an acknowledgement. -/
theorem changes_told {inner : ChannelInner env.Signer} {bus : Bus} {acked : Nat}
    {after : ChannelInner env.Signer × Bus} (changes : Changes inner bus after)
    (timely : Timely env ⟨inner, bus, acked⟩ ⟨after.1, after.2, acked⟩)
    (told : Told (requests bus) acked inner) : Told (requests after.2) acked after.1 := by
  -- The request of the step is the last one; all the others had been acknowledged.
  have applied {channel : ActiveChannel env.Signer} {pending : Option ChannelUpdate}
      {update : ChannelUpdate} {final : ActiveChannel env.Signer} {sent : Bus}
      (phase : inner = .active channel pending) (more : (requests sent).length = 1)
      (enters : Timely env ⟨inner, bus, acked⟩ ⟨afterApply final update, bus ++ sent, acked⟩)
      (closing : ∃ channel, afterApply final update = .closing channel) :
      acked + 1 = (requests (bus ++ sent)).length := by
    obtain ⟨closed, same⟩ := closing
    rw [requests_append, List.length_append, more]
    rcases enters closed same with ⟨_, other⟩ | all
    · rw [phase] at other
      cases other
    · exact congrArg (· + 1) all
  cases changes with
  | kept => exact told
  | agreed channel agreed sig sender msg bus own => trivial
  | signed channel signed signatures funding bus initial =>
      simp [Told, requests_append, initial]
  | confirmed channel watching funded watching' funded' bus => exact told
  | activated channel watching funded bus => exact told
  | proposed channel pending update sig sender msg bus own =>
      simpa [Told, requests_append] using told
  | accepted channel update signatures sender msg bus =>
      refine applied_told (by simp [requests_append]) fun final closing => ?_
      rw [List.append_assoc] at timely ⊢
      exact applied rfl (by simp [requests_append]) timely ⟨final, closing⟩
  | finished channel pending update signatures bus =>
      refine applied_told (by simp [requests_append]) fun final closing => ?_
      exact applied rfl (by simp) timely ⟨final, closing⟩
  | dropped channel pending bus => exact told
  | forced channel pending bus => trivial
  | closed inner bus => trivial

/-- An acknowledgement leaves `Closing`, and no other phase counts them. -/
theorem ack_told {inner : ChannelInner env.Signer} {bus : Bus} {acked : Nat} {id : Hash}
    {version : BitVec 64} {outcome : Outcome (DemoChannel.Error env.SigError) Unit}
    {after : ChannelInner env.Signer × Bus}
    (run : processWatcherReply env (.ack id version) (inner, bus) = (outcome, after))
    (returns : outcome ≠ .panic) (told : Told (requests bus) acked inner) :
    Told (requests after.2) (acked + 1) after.1 := by
  cases inner with
  | signed channel watching funded => cases funded <;> (cases run; exact told)
  | active channel pending =>
      cases run
      exact told
  | temporaryInvalidState =>
      cases run
      exact absurd rfl returns
  | _ =>
      cases run
      trivial

theorem step_invariant {before after : Watched env} {label : Option StartWatchingLedgerChannelReq}
    (stepped : Steps env before label after) (timely : Timely env before after)
    (ready : Ready before.inner) (told : Told (requests before.bus) before.acked before.inner) :
    Ready after.inner ∧ Told (requests after.bus) after.acked after.inner := by
  cases stepped with
  | call call outcome after other run returns =>
      refine ⟨runs_ready (Relation.ReflTransGen.single ⟨call, outcome, run, returns⟩) ready, ?_⟩
      rcases call_returns call before.bus ready with aborts | ⟨error, failed⟩ | ⟨next, done, changes⟩
      · rw [run] at aborts
        exact absurd aborts returns
      · rw [run] at failed
        cases failed
        exact told
      · rw [run] at done
        cases done
        exact changes_told changes timely told
  | ack req outcome after oldest run returns =>
      exact ⟨runs_ready (Relation.ReflTransGen.single
        ⟨.watcherReply (.ack req.state.id req.state.version), outcome, run, returns⟩) ready,
        ack_told run returns told⟩

theorem timely_runs_invariant {start world : Watched env} (runs : TimelyRuns env start world)
    (ready : Ready start.inner) (told : Told (requests start.bus) start.acked start.inner) :
    Ready world.inner ∧ Told (requests world.bus) world.acked world.inner := by
  induction runs with
  | refl => exact ⟨ready, told⟩
  | tail _ stepped ih =>
      obtain ⟨⟨label, stepped⟩, timely⟩ := stepped
      exact step_invariant stepped timely ih.1 ih.2

theorem told_confirms {world : Watched env}
    (told : Told (requests world.bus) world.acked world.inner) : ConfirmsFinal env world := by
  intro channel req after closing stepped _
  rw [closing] at told
  obtain ⟨last, count⟩ := told
  cases stepped with
  | ack _ outcome next oldest run returns =>
      have index : world.acked = (requests world.bus).length - 1 := by omega
      rw [List.getLast?_eq_getElem?, ← index, oldest] at last
      have same : req.state = channel.state := Option.some.inj last
      rw [same]
      exact ⟨rfl, rfl⟩

end Invariant

/-- If no acknowledgement is under way whenever the final update is applied, only that
of the final state closes the channel. -/
theorem closed_on_final_ack (env : Env) (inner : ChannelInner env.Signer) (bus : Bus)
    (starts : Starts env inner) (world : Watched env)
    (runs : TimelyRuns env ⟨inner, bus, 0⟩ world) : ConfirmsFinal env world := by
  have told : Told (requests bus) 0 inner := by
    cases starts <;> trivial
  exact told_confirms (timely_runs_invariant runs (starts_ready starts) told).2

/-! Two payments of the other side, the second one final. -/
section Plain

def plainChannel (state : State 1 2) : ActiveChannel plainEnv.Signer :=
  ⟨0, plainAgreed.withdrawReceiver, plainAgreed.client, state, plainAgreed.params,
    #v[plainSign plainProposal.participant (stateHash plainEnv state),
      plainSign plainAnswer.participant (stateHash plainEnv state)], plainAgreed.peers⟩

def plainFirst : State 1 2 := { plainPayment with isFinal := false }

def plainFinal : State 1 2 := { plainPayment with version := 2 }

theorem plain_first : ValidTransition plainEnv plainAgreed.initState plainFirst :=
  { plain_payment with sameId := rfl }

theorem plain_final : ValidTransition plainEnv plainFirst plainFinal where
  sameId := rfl
  notFinal := rfl
  version := ⟨rfl, fun _ => by decide⟩
  assets := rfl
  totals := ⟨[11], by decide, by decide⟩

/-- The message in which the other side proposes a state. -/
def plainMessage (state : State 1 2) : Call := .participantMsg (.channelUpdate
  ⟨state, 1, plainSign plainAnswer.participant (stateHash plainEnv state)⟩)

theorem plain_received {state newState : State 1 2} (bus : Bus) (acked : Nat)
    (valid : ValidTransition plainEnv state newState) : ∃ bus',
    Steps plainEnv ⟨.active (plainChannel state) none, bus, acked⟩ none
      ⟨if newState.isFinal then .closing (plainChannel newState)
        else .active (plainChannel newState) none, bus', acked⟩ ∧
    (requests bus').map (·.state) = (requests bus).map (·.state) ++ [newState] := by
  have run := @received_returns plainEnv (plainChannel state) newState _ _ _ _ bus rfl valid
    (plain_recover plainAnswer.participant _) rfl rfl rfl
  exact ⟨_, .call ⟨.active (plainChannel state) none, bus, acked⟩ (plainMessage newState) (.ok ()) _
    (by simp [plainMessage]) run (by simp), by simp [requests_append]⟩

/-- Both services have answered the first requests. -/
theorem plain_active : ∃ bus, TimelyRuns plainEnv ⟨.agreedUpon plainSigned, [], 0⟩
    ⟨.active (plainChannel plainAgreed.initState) none, bus, 1⟩ ∧
    (requests bus).map (·.state) = [plainAgreed.initState] := by
  let other := plainSign plainAnswer.participant (stateHash plainEnv plainAgreed.initState)
  let acceptance : LedgerChannelUpdateAccepted := ⟨plainSigned.initState.id, 0, other⟩
  let signed : SignedChannel plainEnv.Signer := ⟨plainChannel plainAgreed.initState⟩
  have added : AgreedUponChannel.addSignature plainEnv acceptance plainSigned =
      (.ok (), { plainSigned with signatures := plainSigned.signatures.setIfInBounds 1 other }) :=
    add_signature_ok.mpr ⟨rfl, rfl, plainAnswer.participant, 1, plain_recover _ _, by decide, rfl,
      rfl⟩
  let bus : Bus :=
    [.toWatcher (.watchRequest ⟨plainAgreed.params, plainAgreed.initState, signed.inner.signatures⟩),
      .toFunder (.fundReq ⟨plainAgreed.partIdx, plainAgreed.fundingAgreement, plainAgreed.params,
        plainAgreed.initState⟩)]
  have built : processParticipantMsg plainEnv (.channelUpdateAccepted acceptance)
      (.agreedUpon plainSigned, []) = (.ok (), (.signed signed false false, bus)) :=
    initial_signed_returns added
      (agreed_build_ok.mpr ⟨fun _ => Nat.zero_lt_two, signed.inner.signatures, rfl, rfl, rfl⟩)
  have idle {before after : Watched plainEnv} (active : ∀ final, after.inner ≠ .closing final) :
      Timely plainEnv before after := fun final closing => absurd closing (active final)
  have first : TimelyRuns plainEnv ⟨.agreedUpon plainSigned, [], 0⟩
      ⟨.signed signed false false, bus, 0⟩ :=
    Relation.ReflTransGen.single ⟨⟨none, .call ⟨.agreedUpon plainSigned, [], 0⟩
      (.participantMsg (.channelUpdateAccepted acceptance)) (.ok ()) _ (by simp) built (by simp)⟩,
      idle (by simp)⟩
  have second : TimelyRuns plainEnv ⟨.agreedUpon plainSigned, [], 0⟩
      ⟨.signed signed false true, bus, 0⟩ :=
    first.tail ⟨⟨none, .call ⟨.signed signed false false, bus, 0⟩
      (.funderReply (.funded plainSigned.initState.id)) (.ok ()) (.signed signed false true, bus)
      (by simp) rfl (by simp)⟩, idle (by simp)⟩
  exact ⟨bus, second.tail ⟨⟨some _, .ack ⟨.signed signed false true, bus, 0⟩ _ (.ok ())
    (.active signed.markFunded none, bus) rfl rfl (by simp)⟩, idle (by simp)⟩, rfl⟩

theorem plain_starts : Starts plainEnv (.agreedUpon plainSigned) := .agreedUpon plainSigned _ rfl

/-- Requests are acknowledged in order. -/
theorem plain_oldest {bus : Bus} {acked : Nat} {states : List (State 1 2)} {state : State 1 2}
    (sent : (requests bus).map (·.state) = states) (next : states[acked]? = some state) :
    ∃ req, (requests bus)[acked]? = some req ∧ req.state = state := by
  rw [← sent, List.getElem?_map] at next
  exact Option.map_eq_some_iff.mp next

theorem plain_closed {channel : ActiveChannel plainEnv.Signer} {bus : Bus} {acked : Nat}
    {req : StartWatchingLedgerChannelReq} (oldest : (requests bus)[acked]? = some req) :
    Steps plainEnv ⟨.closing channel, bus, acked⟩ (some req) ⟨.closed, bus, acked + 1⟩ :=
  .ack ⟨.closing channel, bus, acked⟩ req (.ok ()) (.closed, bus) oldest rfl (by simp)

/-- The first payment is not acknowledged when the second one is applied: its
acknowledgement closes the channel. -/
theorem closed_on_earlier_ack : ∃ world, Starts plainEnv (.agreedUpon plainSigned) ∧
    WatchedRuns plainEnv ⟨.agreedUpon plainSigned, [], 0⟩ world ∧
    ¬ConfirmsFinal plainEnv world := by
  obtain ⟨bus, opened, sent⟩ := plain_active
  obtain ⟨bus₁, first, sent₁⟩ := plain_received bus 1 plain_first
  obtain ⟨bus₂, final, sent₂⟩ := plain_received bus₁ 1 plain_final
  rw [sent] at sent₁
  rw [sent₁] at sent₂
  obtain ⟨req, oldest, earlier⟩ := @plain_oldest bus₂ 1 _ _ sent₂ rfl
  have runs : WatchedRuns plainEnv ⟨.agreedUpon plainSigned, [], 0⟩
      ⟨.active (plainChannel plainAgreed.initState) none, bus, 1⟩ :=
    Relation.ReflTransGen.mono (fun _ _ stepped => stepped.1) _ _ opened
  refine ⟨_, plain_starts, (runs.tail ⟨none, first⟩).tail ⟨none, final⟩, fun confirms => ?_⟩
  have same := (confirms (plainChannel plainFinal) req _ rfl (plain_closed oldest) rfl).2
  rw [earlier] at same
  exact absurd same (by decide)

/-- With the first payment acknowledged in time, the second acknowledgement has the
version of the final state. -/
theorem closed_on_final_ack_payment : ∃ world req after,
    TimelyRuns plainEnv ⟨.agreedUpon plainSigned, [], 0⟩ world ∧
    world.inner = .closing (plainChannel plainFinal) ∧ Steps plainEnv world (some req) after ∧
    req.state.id = plainFinal.id ∧ req.state.version = plainFinal.version := by
  obtain ⟨bus, opened, sent⟩ := plain_active
  obtain ⟨bus₁, first, sent₁⟩ := plain_received bus 1 plain_first
  obtain ⟨bus₂, final, sent₂⟩ := plain_received bus₁ 2 plain_final
  rw [sent] at sent₁
  rw [sent₁] at sent₂
  have count : (requests bus₁).length = 2 := by
    rw [← List.length_map (fun req : StartWatchingLedgerChannelReq => req.state), sent₁]
    rfl
  obtain ⟨earlier, oldest, _⟩ := @plain_oldest bus₁ 1 _ _ sent₁ rfl
  obtain ⟨req, last, _⟩ := @plain_oldest bus₂ 2 _ _ sent₂ rfl
  have paid : TimelyRuns plainEnv ⟨.agreedUpon plainSigned, [], 0⟩
      ⟨.active (plainChannel plainFirst) none, bus₁, 1⟩ :=
    opened.tail ⟨⟨none, first⟩, fun _ closing => by cases closing⟩
  have acknowledged : TimelyRuns plainEnv ⟨.agreedUpon plainSigned, [], 0⟩
      ⟨.active (plainChannel plainFirst) none, bus₁, 2⟩ :=
    paid.tail ⟨⟨some earlier, .ack ⟨.active (plainChannel plainFirst) none, bus₁, 1⟩ earlier (.ok ())
      (.active (plainChannel plainFirst) none, bus₁) oldest rfl (by simp)⟩,
      fun _ closing => by cases closing⟩
  have closing : TimelyRuns plainEnv ⟨.agreedUpon plainSigned, [], 0⟩
      ⟨.closing (plainChannel plainFinal), bus₂, 2⟩ :=
    acknowledged.tail ⟨⟨none, final⟩, fun _ _ => Or.inr count.symm⟩
  exact ⟨_, req, _, closing, rfl, plain_closed last,
    closed_on_final_ack plainEnv _ [] plain_starts _ closing _ req _ rfl (plain_closed last) rfl⟩

end Plain

end Perun.DemoClosing
