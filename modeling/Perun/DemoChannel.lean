import Perun.ChannelRun

/-! The channel of the embedded demo (`cortex-m-demo/src/channel.rs`): one object
for all phases, driven by the application and by the messages that arrive. Its
methods run on the phase and the bus of the client; `progress` writes back the
phase that the transition returns, also with an error. -/
namespace Perun.DemoChannel
open AbiTypes Payment Messages MessageBus Active Opening ChannelRun

inductive WatcherReplyMessage where
  | ack (id : Hash) (version : BitVec 64)
  | disputeAck (id : Hash)
  | disputeNotification (id : Hash)
  deriving DecidableEq

inductive FunderReplyMessage where
  | funded (id : Hash)
  deriving DecidableEq

inductive ChannelInner (Signer : Type) where
  | proposed (channel : ProposedChannel Signer)
  | agreedUpon (channel : AgreedUponChannel Signer)
  | signed (channel : SignedChannel Signer) (watching funded : Bool)
  | active (channel : ActiveChannel Signer) (update : Option ChannelUpdate)
  | temporaryInvalidState
  | closing (channel : ActiveChannel Signer)
  | forceClosing
  | closed

inductive Error (SigError : Type) where
  | invalidState
  | handleAccept (error : HandleAcceptError)
  | rejected (reason : String)
  | proposalBuild (error : ProposalBuildError)
  | signing (error : SignError)
  | addSignature (error : AddSignatureError SigError)
  | build (error : BuildError)
  | proposeUpdate (error : ProposeUpdateError)
  | handleUpdate (error : HandleUpdateError SigError)
  | accept (error : AcceptError)
  | applyUpdate (error : ApplyError)
  | notEnoughFunds
  | closed

section Funds
variable {ε : Type}

/-- `-=` of the `uint` crate aborts on underflow. -/
def subU256 (a b : U256) : Outcome ε U256 := if b.toNat ≤ a.toNat then .ok (a - b) else .panic

/-- The two assignments that move an amount to the other participant. -/
def payOther (build : Build) (row : ParticipantBalances 2) (partIdx : PartIdx) (amount : U256) :
    Outcome ε (ParticipantBalances 2) := do
  let other ← build.sub 1 partIdx
  let received ← Outcome.index row other
  let row ← store row other (← addU256 received amount)
  let paid ← Outcome.index row partIdx
  store row partIdx (← subU256 paid amount)

end Funds

section Methods
variable (env : Env)

/-- The result of a transition on the phase: the error comes with a phase too. -/
abbrev Transition := Op (ChannelInner env.Signer × Error env.SigError) Bus (ChannelInner env.Signer)

abbrev Method := Op (Error env.SigError) (ChannelInner env.Signer × Bus) Unit

/-- A transition that aborts leaves `TemporaryInvalidState` behind. -/
def progress (transition : ChannelInner env.Signer → Transition env) : Method env :=
  fun (inner, bus) =>
    match transition inner bus with
    | (.ok next, bus) => (.ok (), (next, bus))
    | (.err (next, error), bus) => (.err error, (next, bus))
    | (.panic, bus) => (.panic, (.temporaryInvalidState, bus))

/-- A method of an object that survives its errors. -/
def call {ε δ σ α : Type} (object : σ) (method : Op ε (σ × Bus) α) (restore : σ → ε → δ) :
    Op δ Bus σ := fun bus =>
  match method (object, bus) with
  | (.ok _, (object, bus)) => (.ok object, bus)
  | (.err error, (object, bus)) => (.err (restore object error), bus)
  | (.panic, (_, bus)) => (.panic, bus)

/-- A channel whose state was applied. -/
def afterApply {Signer : Type} (channel : ActiveChannel Signer) (update : ChannelUpdate) :
    ChannelInner Signer :=
  if update.newState.isFinal then .closing channel else .active channel none

/-- The funds that are compared are those of the second participant, whoever pays. -/
def proposePayment (channel : ActiveChannel env.Signer) (amount : U256) (isFinal : Bool) :
    Op (Error env.SigError) Bus ChannelUpdate := do
  let newState ← Op.lift (channel.state.makeNextState env.build)
  let row := getElem newState.outcome.balances 0 Nat.zero_lt_one
  if (getElem row 1 Nat.one_lt_two).toNat < amount.toNat then Op.fail .notEnoughFunds
  else do
    let row ← Op.lift (payOther env.build row channel.partIdx amount)
    Op.mapErr .proposeUpdate (channel.update env
      { newState with
        outcome.balances := newState.outcome.balances.setIfInBounds 0 row
        isFinal := isFinal })

/-- A pending update is overwritten. -/
def update (amount : U256) (isFinal : Bool) : Method env := fun (inner, bus) =>
  match inner with
  | .active channel pending =>
      match proposePayment env channel amount isFinal bus with
      | (.ok update, bus) => (.ok (), (.active channel (some update), bus))
      | (.err error, bus) => (.err error, (.active channel pending, bus))
      | (.panic, bus) => (.panic, (.active channel pending, bus))
  | .temporaryInvalidState => (.panic, (inner, bus))
  | _ => (.err .invalidState, (inner, bus))

def forceClose : Method env := progress env fun inner =>
  match inner with
  | .active channel update => do
      let _ ← Op.mapErr (fun error => (.active channel update, .signing error)) channel.forceClose
      pure .forceClosing
  | .temporaryInvalidState => Op.lift .panic
  | inner => Op.fail (inner, .invalidState)

def processWatcherReply (msg : WatcherReplyMessage) : Method env := progress env fun inner =>
  match inner, msg with
  -- Neither the id nor the version of an acknowledgement is looked at.
  | .signed channel _ funded, .ack _ _ =>
      if funded then pure (.active channel.markFunded none)
      else pure (.signed channel true funded)
  | .active channel update, .ack _ _ => pure (.active channel update)
  | .active _ _, .disputeNotification _ => pure .closed
  | .closing _, .ack _ _ => pure .closed
  | .closing _, .disputeNotification _ => pure .closed
  | .forceClosing, .disputeAck _ => pure .closed
  | .forceClosing, .disputeNotification _ => pure .forceClosing
  | .closed, .disputeNotification _ => pure .closed
  | .forceClosing, _ => Op.fail (.forceClosing, .closed)
  | .temporaryInvalidState, _ => Op.lift .panic
  | inner, _ => Op.fail (inner, .invalidState)

def processFunderReply (msg : FunderReplyMessage) : Method env := progress env fun inner =>
  match inner, msg with
  | .signed channel watching _, .funded _ =>
      if watching then pure (.active channel.markFunded none)
      else pure (.signed channel watching true)
  | .closing channel, _ => Op.fail (.closing channel, .closed)
  | .forceClosing, _ => Op.fail (.forceClosing, .closed)
  | .closed, _ => Op.fail (.closed, .closed)
  | .temporaryInvalidState, _ => Op.lift .panic
  | inner, _ => Op.fail (inner, .invalidState)

/-- The answer to a proposal: the parameters are built and signed at once. An error
of `sign` is declared unreachable. -/
def proposalAccepted (channel : ProposedChannel env.Signer) (msg : LedgerChannelProposalAcc) :
    Transition env := do
  let channel ← call channel (offBus (ProposedChannel.participantAccepted env 1 msg))
    fun channel error => (.proposed channel, .handleAccept error)
  let agreed ← Op.lift
    ((channel.build env).mapErr fun (channel, error) => (.proposed channel, .proposalBuild error))
  fun bus =>
    match AgreedUponChannel.sign env (agreed, bus) with
    | (.ok _, (agreed, bus)) => (.ok (.agreedUpon agreed), bus)
    | (.err _, (_, bus)) => (.panic, bus)
    | (.panic, (_, bus)) => (.panic, bus)

def initialSigned (channel : AgreedUponChannel env.Signer) (msg : LedgerChannelUpdateAccepted) :
    Transition env := do
  let channel ← call channel (offBus (AgreedUponChannel.addSignature env msg))
    fun channel error => (.agreedUpon channel, .addSignature error)
  let signed ← Op.mapErr (fun (channel, error) => (.agreedUpon channel, .build error))
    (channel.build env)
  pure (.signed signed false false)

/-- An update of the other side is accepted and applied in one go. -/
def updateProposed (channel : ActiveChannel env.Signer) (msg : LedgerChannelUpdate) :
    Transition env := do
  let update ← Op.lift
    ((channel.handleUpdate env msg).mapErr fun error => (.active channel none, .handleUpdate error))
  let update ← call update (ChannelUpdate.accept env channel)
    fun _ error => (.active channel none, .accept error)
  let channel ← call channel (update.apply env)
    fun channel error => (.active channel none, .applyUpdate error)
  pure (afterApply channel update)

/-- The acceptance of the own update completes it. -/
def updateAccepted (channel : ActiveChannel env.Signer) (update : ChannelUpdate)
    (msg : LedgerChannelUpdateAccepted) : Transition env := do
  let other ← Op.lift (env.build.sub 1 channel.partIdx)
  let update ← call update (offBus (ChannelUpdate.participantAccepted env channel other msg))
    fun update error => (.active channel (some update), .addSignature error)
  let channel ← call channel (update.apply env)
    fun channel error => (.active channel (some update), .applyUpdate error)
  pure (afterApply channel update)

def processParticipantMsg (msg : ParticipantMessage) : Method env := progress env fun inner =>
  match inner, msg with
  | .proposed channel, .proposalAccepted msg => proposalAccepted env channel msg
  | .proposed channel, .proposalRejected _ reason => Op.fail (.proposed channel, .rejected reason)
  | .agreedUpon channel, .channelUpdateAccepted msg => initialSigned env channel msg
  | .agreedUpon channel, .channelUpdateRejected _ _ reason =>
      Op.fail (.agreedUpon channel, .rejected reason)
  -- While an own update is pending, one of the other side is an invalid state.
  | .active channel none, .channelUpdate msg => updateProposed env channel msg
  | .active channel (some update), .channelUpdateAccepted msg =>
      updateAccepted env channel update msg
  -- The rejection is not compared with the update it drops.
  | .active channel (some _), .channelUpdateRejected _ _ _ => pure (.active channel none)
  | .closing channel, _ => Op.fail (.closing channel, .closed)
  | .forceClosing, _ => Op.fail (.forceClosing, .closed)
  | .closed, _ => Op.fail (.closed, .closed)
  | .temporaryInvalidState, _ => Op.lift .panic
  | inner, _ => Op.fail (inner, .invalidState)

end Methods

/-! What the two operations can do to an active channel. -/
section Specs
variable {env : Env} {ε δ σ α : Type}

theorem call_ok {object after : σ} {method : Op ε (σ × Bus) α} {restore : σ → ε → δ}
    {bus bus' : Bus} {value : α} (returned : method (object, bus) = (.ok value, (after, bus'))) :
    call object method restore bus = (.ok after, bus') := by
  rw [call, returned]

/-- With the own signature in its slot, the other slot is the last one. -/
theorem slots_filled {slots : Vector (Option Signature) 2} {own other : PartIdx}
    {sig sig' : Signature} (held : slots[own]? = some (some sig))
    (free : slots[other]? = some none) :
    ∃ signatures, collectSignatures (slots.setIfInBounds other (some sig')) = .ok signatures := by
  have bound : own < 2 := (Vector.getElem?_eq_some_iff.mp held).1
  have bound' : other < 2 := (Vector.getElem?_eq_some_iff.mp free).1
  interval_cases own <;> interval_cases other
  · rw [held] at free
    cases free
  · have first : slots[0] = some sig := by simpa using held
    exact ⟨#v[sig, sig'], by simp [collectSignatures, first]⟩
  · have second : slots[1] = some sig := by simpa using held
    exact ⟨#v[sig', sig], by simp [collectSignatures, second]⟩
  · rw [held] at free
    cases free

theorem single_own {partIdx : PartIdx} {sig : Signature} (bound : partIdx < 2) :
    (single partIdx sig)[partIdx]? = some (some sig) := by
  simp [single, bound]

/-- The effects of `update`. -/
inductive Proposes (channel : ActiveChannel env.Signer) (pending : Option ChannelUpdate)
    (bus : Bus) : ChannelInner env.Signer × Bus → Prop
  | unchanged : Proposes channel pending bus (.active channel pending, bus)
  | proposed (newState : State 1 2) (sig : Signature) (sender : Identity)
      (valid : ValidTransition env channel.state newState)
      (signed : env.signEth channel.client.signer (stateHash env newState) = some sig) :
      Proposes channel pending bus
        (.active channel (some ⟨channel.state.id, newState, single channel.partIdx sig⟩),
        bus ++ broadcast channel.partIdx sender channel.peers
          (.channelUpdate ⟨newState, channel.partIdx, sig⟩))

/-- The effects of a message. -/
inductive Delivers (channel : ActiveChannel env.Signer) (pending : Option ChannelUpdate)
    (bus : Bus) : ParticipantMessage → ChannelInner env.Signer × Bus → Prop
  | unchanged (msg : ParticipantMessage) :
      Delivers channel pending bus msg (.active channel pending, bus)
  | accepted (msg : LedgerChannelUpdate) (update : ChannelUpdate) (sig : Signature)
      (sender : Identity) (signatures : Vector Signature 2) (idle : pending = none)
      (valid : ValidTransition env channel.state msg.state) (same : update.newState = msg.state)
      (signed : env.signEth channel.client.signer (stateHash env msg.state) = some sig) :
      Delivers channel pending bus (.channelUpdate msg)
        (afterApply { channel with state := msg.state, signatures := signatures } update,
        bus ++ broadcast channel.partIdx sender channel.peers
            (.channelUpdateAccepted ⟨channel.state.id, msg.state.version, sig⟩) ++
          [.toWatcher (.watchRequest ⟨channel.params, msg.state, signatures⟩)])
  | finished (update signed : ChannelUpdate) (msg : LedgerChannelUpdateAccepted) (signer : Address)
      (signatures : Vector Signature 2) (waiting : pending = some update)
      (matching : Matches env update channel) (version : msg.version = update.newState.version)
      (recovered : env.recoverSigner (stateHash env update.newState) msg.sig = .ok signer)
      (participant : channel.params.participants[1 - channel.partIdx]? = some signer)
      (same : signed.newState = update.newState) :
      Delivers channel pending bus (.channelUpdateAccepted msg)
        (afterApply { channel with state := update.newState, signatures := signatures } signed,
        bus ++ [.toWatcher (.watchRequest ⟨channel.params, update.newState, signatures⟩)])
  | incomplete (update signed : ChannelUpdate) (msg : LedgerChannelUpdateAccepted)
      (waiting : pending = some update) (same : signed.newState = update.newState) :
      Delivers channel pending bus (.channelUpdateAccepted msg) (.active channel (some signed), bus)
  | dropped (id : Hash) (version : BitVec 64) (reason : String) :
      Delivers channel pending bus (.channelUpdateRejected id version reason)
        (.active channel none, bus)

/-- The state that a payment proposes. -/
def payment (env : Env) (channel : ActiveChannel env.Signer) (amount : U256) (isFinal : Bool) :
    Outcome (Error env.SigError) (State 1 2) := do
  let newState ← channel.state.makeNextState env.build
  let row ← payOther env.build (getElem newState.outcome.balances 0 Nat.zero_lt_one)
    channel.partIdx amount
  .ok { newState with
    outcome.balances := newState.outcome.balances.setIfInBounds 0 row
    isFinal := isFinal }

theorem propose_payment_ok {channel : ActiveChannel env.Signer} {amount : U256} {isFinal : Bool}
    {bus after : Bus} {u : ChannelUpdate}
    (proposed : proposePayment env channel amount isFinal bus = (.ok u, after)) :
    ∃ newState, channel.update env newState bus = (.ok u, after) ∧
      payment env channel amount isFinal = .ok newState ∧
      amount.toNat ≤ (getElem (getElem channel.state.outcome.balances 0 Nat.zero_lt_one) 1
        Nat.one_lt_two).toNat := by
  simp only [proposePayment, Op.bind_run, Op.lift_run] at proposed
  cases next : (channel.state.makeNextState env.build :
      Outcome (Error env.SigError) (State 1 2)) with
  | err error => simp [next] at proposed
  | panic => simp [next] at proposed
  | ok newState =>
      simp only [next] at proposed
      split at proposed
      · cases proposed
      · rename_i enough
        rw [Op.bind_run, Op.lift_run] at proposed
        cases paid : (payOther env.build (getElem newState.outcome.balances 0 Nat.zero_lt_one)
            channel.partIdx amount : Outcome (Error env.SigError) (ParticipantBalances 2)) with
        | err error => simp [paid] at proposed
        | panic => simp [paid] at proposed
        | ok row =>
            simp only [paid, Op.mapErr_run, Prod.mk.injEq, Outcome.mapErr_eq_ok] at proposed
            have outcome : newState.outcome = channel.state.outcome := by
              obtain ⟨version, _, same⟩ := Outcome.bind_eq_ok.mp next
              cases same
              rfl
            refine ⟨_, Prod.ext proposed.1 proposed.2, ?_, ?_⟩
            · simp only [payment, next, Outcome.ok_bind, paid]
            · rw [← outcome]
              exact Nat.le_of_not_lt enough

theorem propose_payment_atomic (channel : ActiveChannel env.Signer) (amount : U256)
    (isFinal : Bool) : Op.Atomic (proposePayment env channel amount isFinal) := by
  refine Op.atomic_bind (Op.reads_lift _) fun newState => ?_
  dsimp only
  split
  · exact Op.atomic_of_reads (Op.reads_fail _)
  · refine Op.atomic_bind (Op.reads_lift _) fun row => ?_
    intro bus error after failed
    rw [Op.mapErr_run] at failed
    rcases outcome : channel.update env _ bus with ⟨result, bus'⟩
    rw [outcome] at failed
    cases result with
    | ok value => simp at failed
    | panic => simp at failed
    | err inner =>
        obtain ⟨_, same⟩ := Prod.mk.inj failed
        rw [← same]
        exact update_atomic _ _ _ _ _ outcome

theorem update_proposes {amount : U256} {isFinal : Bool} {channel : ActiveChannel env.Signer}
    {pending : Option ChannelUpdate} {bus : Bus} {outcome : Outcome (Error env.SigError) Unit}
    {after : ChannelInner env.Signer × Bus}
    (run : update env amount isFinal (.active channel pending, bus) = (outcome, after))
    (returns : outcome ≠ .panic) : Proposes channel pending bus after := by
  simp only [update] at run
  split at run
  · rename_i u bus' proposed
    cases run
    obtain ⟨newState, updated, _⟩ := propose_payment_ok proposed
    obtain ⟨valid, _, sig, sender, signed, _, rfl, rfl⟩ := update_ok.mp updated
    exact .proposed newState sig sender valid signed
  · rename_i error bus' failed
    cases run
    rw [propose_payment_atomic _ _ _ _ _ _ failed]
    exact .unchanged
  · cases run
    exact absurd rfl returns

/-- A proposal of the other side is refused, or it is accepted and applied. -/
theorem update_proposed_cases (channel : ActiveChannel env.Signer) (msg : LedgerChannelUpdate)
    (bus : Bus) :
    (∃ after, updateProposed env channel msg bus = (.panic, after)) ∨
      (∃ error, updateProposed env channel msg bus = (.err (.active channel none, error), bus)) ∨
      ∃ update sig sender signatures, ValidTransition env channel.state msg.state ∧
        update.newState = msg.state ∧
        env.signEth channel.client.signer (stateHash env msg.state) = some sig ∧
        updateProposed env channel msg bus =
          (.ok (afterApply { channel with state := msg.state, signatures := signatures } update),
          bus ++ broadcast channel.partIdx sender channel.peers
              (.channelUpdateAccepted ⟨channel.state.id, msg.state.version, sig⟩) ++
            [.toWatcher (.watchRequest ⟨channel.params, msg.state, signatures⟩)]) := by
  simp only [updateProposed, Op.bind_run, Op.lift_run]
  cases handled : channel.handleUpdate env msg with
  | err error => exact Or.inr (Or.inl ⟨_, rfl⟩)
  | panic => exact Or.inl ⟨bus, rfl⟩
  | ok update =>
      obtain ⟨valid, bound, signer, recovered, participant, fresh⟩ := handle_update_ok.mp handled
      simp only [Outcome.mapErr_ok]
      rcases accepted : ChannelUpdate.accept env channel (update, bus) with ⟨result, signing, bus'⟩
      cases result with
      | err error =>
          obtain ⟨_, rfl⟩ := Prod.mk.inj (accept_atomic _ _ _ _ accepted)
          exact Or.inr (Or.inl ⟨.accept error, by simp only [call, accepted]⟩)
      | panic => exact Or.inl ⟨bus', by simp only [call, accepted]⟩
      | ok value =>
          subst fresh
          obtain ⟨matching, free, sig, sender, signed, _, same⟩ := accept_ok.mp accepted
          obtain ⟨both, rfl⟩ := Prod.mk.inj same
          obtain ⟨signatures, collected⟩ := @slots_filled _ _ _ _ sig (single_own bound) free
          have content : signing.newState = msg.state := by rw [both]
          have applied (bus : Bus) := (@apply_ok env signing channel bus _).mpr
            ⟨by rw [both]; exact matching, signatures, by rw [both]; exact collected, rfl⟩
          simp only [content] at applied
          refine Or.inr (Or.inr ⟨signing, sig, sender, signatures, valid, content, signed, ?_⟩)
          simp only [call_ok accepted, call_ok (applied _), Op.pure_run]

/-- The acceptance of the own update is refused, it leaves the update incomplete, or
the update is applied. -/
theorem update_accepted_cases {channel : ActiveChannel env.Signer} (update : ChannelUpdate)
    (msg : LedgerChannelUpdateAccepted) (bus : Bus) (bound : channel.partIdx < 2) :
    (∃ after, updateAccepted env channel update msg bus = (.panic, after)) ∨
      (∃ error, updateAccepted env channel update msg bus =
        (.err (.active channel (some update), error), bus)) ∨
      (∃ signed error, update.signatures[1 - channel.partIdx]? = some none ∧
        signed = { update with signatures :=
          update.signatures.setIfInBounds (1 - channel.partIdx) (some msg.sig) } ∧
        (∀ signatures, collectSignatures signed.signatures ≠ .ok signatures) ∧
        updateAccepted env channel update msg bus =
          (.err (.active channel (some signed), error), bus)) ∨
      ∃ signed signer signatures, Matches env update channel ∧
        msg.version = update.newState.version ∧
        env.recoverSigner (stateHash env update.newState) msg.sig = .ok signer ∧
        channel.params.participants[1 - channel.partIdx]? = some signer ∧
        signed.newState = update.newState ∧
        updateAccepted env channel update msg bus =
          (.ok (afterApply { channel with state := update.newState, signatures := signatures }
            signed),
          bus ++ [.toWatcher (.watchRequest ⟨channel.params, update.newState, signatures⟩)]) := by
  have other : (env.build.sub 1 channel.partIdx : Outcome (ChannelInner env.Signer ×
      Error env.SigError) Nat) = .ok (1 - channel.partIdx) := if_pos (Nat.le_of_lt_succ bound)
  simp only [updateAccepted, Op.bind_run, Op.lift_run, other]
  rcases answered : ChannelUpdate.participantAccepted env channel (1 - channel.partIdx) msg update
    with ⟨result, signed⟩
  have silent : offBus (ChannelUpdate.participantAccepted env channel (1 - channel.partIdx) msg)
      (update, bus) = (result, (signed, bus)) := by
    simp only [offBus, answered]
  cases result with
  | err error =>
      have same := participant_accepted_atomic _ _ _ _ _ _ answered
      subst same
      exact Or.inr (Or.inl ⟨.addSignature error, by simp only [call, silent]⟩)
  | panic => exact Or.inl ⟨bus, by simp only [call, silent]⟩
  | ok value =>
      obtain ⟨matching, _, version, free, ⟨signer, recovered, participant⟩, both⟩ :=
        participant_accepted_ok.mp answered
      have content : signed.newState = update.newState := by rw [both]
      have stillMatching : Matches env signed channel := by
        rw [both]
        exact matching
      simp only [call_ok silent]
      rcases applied : signed.apply env (channel, bus) with ⟨result, channel', bus'⟩
      cases result with
      | err error =>
          obtain ⟨rfl, rfl⟩ := Prod.mk.inj (apply_atomic _ _ _ _ applied)
          refine Or.inr (Or.inr (Or.inl ⟨signed, .applyUpdate error, free, both, ?_, ?_⟩))
          · intro signatures collected
            rw [apply_ok.mpr ⟨stillMatching, signatures, collected, rfl⟩] at applied
            cases applied
          · simp only [call, applied]
      | panic => exact Or.inl ⟨bus', by simp only [call, applied]⟩
      | ok value =>
          obtain ⟨_, signatures, _, same⟩ := apply_ok.mp applied
          obtain ⟨rfl, rfl⟩ := Prod.mk.inj same
          refine Or.inr (Or.inr (Or.inr ⟨signed, signer, signatures, matching, version, recovered,
            participant, content, ?_⟩))
          simp only [call_ok applied, Op.pure_run, content]

theorem update_proposed_delivers {channel : ActiveChannel env.Signer} {msg : LedgerChannelUpdate}
    {bus : Bus} {outcome : Outcome (Error env.SigError) Unit}
    {after : ChannelInner env.Signer × Bus}
    (run : processParticipantMsg env (.channelUpdate msg) (.active channel none, bus) =
      (outcome, after))
    (returns : outcome ≠ .panic) : Delivers channel none bus (.channelUpdate msg) after := by
  simp only [processParticipantMsg, progress] at run
  rcases update_proposed_cases channel msg bus with ⟨_, aborts⟩ | ⟨error, refused⟩ |
    ⟨update, sig, sender, signatures, valid, content, signed, accepted⟩
  · rw [aborts] at run
    cases run
    exact absurd rfl returns
  · rw [refused] at run
    cases run
    exact .unchanged _
  · rw [accepted] at run
    cases run
    exact .accepted msg update sig sender signatures rfl valid content signed

theorem update_accepted_delivers {channel : ActiveChannel env.Signer} {update : ChannelUpdate}
    {msg : LedgerChannelUpdateAccepted} {bus : Bus} {outcome : Outcome (Error env.SigError) Unit}
    {after : ChannelInner env.Signer × Bus} (bound : channel.partIdx < 2)
    (run : processParticipantMsg env (.channelUpdateAccepted msg)
      (.active channel (some update), bus) = (outcome, after))
    (returns : outcome ≠ .panic) :
    Delivers channel (some update) bus (.channelUpdateAccepted msg) after := by
  simp only [processParticipantMsg, progress] at run
  rcases update_accepted_cases update msg bus bound with ⟨_, aborts⟩ | ⟨error, refused⟩ |
    ⟨signed, error, _, both, _, incomplete⟩ |
    ⟨signed, signer, signatures, matching, version, recovered, participant, content, finished⟩
  · rw [aborts] at run
    cases run
    exact absurd rfl returns
  · rw [refused] at run
    cases run
    exact .unchanged _
  · rw [incomplete] at run
    cases run
    exact .incomplete update signed msg rfl (by rw [both])
  · rw [finished] at run
    cases run
    exact .finished update signed msg signer signatures rfl matching version recovered
      participant content

/-- Every message that does not abort has one of the effects. -/
theorem message_delivers {channel : ActiveChannel env.Signer} {pending : Option ChannelUpdate}
    {msg : ParticipantMessage} {bus : Bus} {outcome : Outcome (Error env.SigError) Unit}
    {after : ChannelInner env.Signer × Bus} (bound : channel.partIdx < 2)
    (run : processParticipantMsg env msg (.active channel pending, bus) = (outcome, after))
    (returns : outcome ≠ .panic) : Delivers channel pending bus msg after := by
  cases pending with
  | none =>
      cases msg with
      | channelUpdate msg => exact update_proposed_delivers run returns
      | _ =>
          cases run
          exact .unchanged _
  | some update =>
      cases msg with
      | channelUpdateAccepted msg => exact update_accepted_delivers bound run returns
      | channelUpdateRejected id version reason =>
          cases run
          exact .dropped id version reason
      | _ =>
          cases run
          exact .unchanged _

/-! The successful calls. -/

theorem update_returns {channel : ActiveChannel env.Signer} {pending : Option ChannelUpdate}
    {amount available : U256} {isFinal : Bool} {newState : State 1 2}
    {row paidRow : ParticipantBalances 2}
    {bus after : Bus} {u : ChannelUpdate}
    (next : (channel.state.makeNextState env.build : Outcome (Error env.SigError) (State 1 2)) =
      .ok newState)
    (held : newState.outcome.balances[0]? = some row)
    (funds : row[1]? = some available) (enough : ¬available.toNat < amount.toNat)
    (paid : (payOther env.build row channel.partIdx amount :
      Outcome (Error env.SigError) (ParticipantBalances 2)) = .ok paidRow)
    (updated : channel.update env { newState with
      outcome.balances := newState.outcome.balances.setIfInBounds 0 paidRow
      isFinal := isFinal } bus = (.ok u, after)) :
    update env amount isFinal (.active channel pending, bus) =
      (.ok (), (.active channel (some u), after)) := by
  have proposed : proposePayment env channel amount isFinal bus = (.ok u, after) := by
    have only : newState.outcome.balances[0] = row := by simpa using held
    have second : row[1] = available := by simpa using funds
    simp only [proposePayment, Op.bind_run, Op.lift_run, next, only, second, if_neg enough,
      paid, Op.mapErr_run, updated, Outcome.mapErr_ok]
  simp only [update, proposed]

theorem update_proposed_returns {channel channel' : ActiveChannel env.Signer}
    {msg : LedgerChannelUpdate} {u signed : ChannelUpdate} {bus bus' bus'' : Bus}
    (handled : channel.handleUpdate env msg = .ok u)
    (accepted : ChannelUpdate.accept env channel (u, bus) = (.ok (), (signed, bus')))
    (applied : signed.apply env (channel, bus') = (.ok (), (channel', bus''))) :
    processParticipantMsg env (.channelUpdate msg) (.active channel none, bus) =
      (.ok (), (afterApply channel' signed, bus'')) := by
  simp only [processParticipantMsg, progress, updateProposed, Op.bind_run, Op.lift_run, handled,
    Outcome.mapErr_ok, call_ok accepted, call_ok applied, Op.pure_run]

theorem update_accepted_returns {channel channel' : ActiveChannel env.Signer}
    {msg : LedgerChannelUpdateAccepted} {u signed : ChannelUpdate} {bus bus' : Bus}
    (bound : channel.partIdx < 2)
    (answered : ChannelUpdate.participantAccepted env channel (1 - channel.partIdx) msg u =
      (.ok (), signed))
    (applied : signed.apply env (channel, bus) = (.ok (), (channel', bus'))) :
    processParticipantMsg env (.channelUpdateAccepted msg) (.active channel (some u), bus) =
      (.ok (), (afterApply channel' signed, bus')) := by
  have other : (env.build.sub 1 channel.partIdx : Outcome (ChannelInner env.Signer ×
      Error env.SigError) Nat) = .ok (1 - channel.partIdx) := if_pos (Nat.le_of_lt_succ bound)
  have silent : offBus (ChannelUpdate.participantAccepted env channel (1 - channel.partIdx) msg)
      (u, bus) = (.ok (), (signed, bus)) := by
    simp only [offBus, answered]
  simp only [processParticipantMsg, progress, updateAccepted, Op.bind_run, Op.lift_run, other,
    call_ok silent, call_ok applied, Op.pure_run]

/-- An answer that is stored leads to the signature. -/
theorem proposal_accepted_signs {channel answered : ProposedChannel env.Signer}
    {agreed : AgreedUponChannel env.Signer} {msg : LedgerChannelProposalAcc} {bus : Bus}
    (accepted : ProposedChannel.participantAccepted env 1 msg channel = (.ok (), answered))
    (built : answered.build env = .ok agreed) :
    proposalAccepted env channel msg bus =
      match AgreedUponChannel.sign env (agreed, bus) with
      | (.ok _, (agreed, bus)) => (.ok (.agreedUpon agreed), bus)
      | (.err _, (_, bus)) => (.panic, bus)
      | (.panic, (_, bus)) => (.panic, bus) := by
  have silent : offBus (ProposedChannel.participantAccepted env 1 msg) (channel, bus) =
      (.ok (), (answered, bus)) := by
    simp only [offBus, accepted]
  have passed (restore : ProposedChannel env.Signer × ProposalBuildError →
        ChannelInner env.Signer × Error env.SigError) :
      (Op.lift ((answered.build env).mapErr restore) : Op _ Bus _) bus = (.ok agreed, bus) := by
    rw [built]
    rfl
  exact (Op.bind_ok (call_ok silent)).trans (Op.bind_ok (passed _))

theorem proposal_accepted_returns {channel answered : ProposedChannel env.Signer}
    {agreed signed : AgreedUponChannel env.Signer} {msg : LedgerChannelProposalAcc} {bus bus' : Bus}
    (accepted : ProposedChannel.participantAccepted env 1 msg channel = (.ok (), answered))
    (built : answered.build env = .ok agreed)
    (signs : AgreedUponChannel.sign env (agreed, bus) = (.ok (), (signed, bus'))) :
    processParticipantMsg env (.proposalAccepted msg) (.proposed channel, bus) =
      (.ok (), (.agreedUpon signed, bus')) := by
  have transition : proposalAccepted env channel msg bus = (.ok (.agreedUpon signed), bus') := by
    rw [proposal_accepted_signs accepted built, signs]
  simp only [processParticipantMsg, progress, transition]

theorem initial_signed_returns {channel holding : AgreedUponChannel env.Signer}
    {signed : SignedChannel env.Signer} {msg : LedgerChannelUpdateAccepted} {bus bus' : Bus}
    (added : AgreedUponChannel.addSignature env msg channel = (.ok (), holding))
    (built : holding.build env bus = (.ok signed, bus')) :
    processParticipantMsg env (.channelUpdateAccepted msg) (.agreedUpon channel, bus) =
      (.ok (), (.signed signed false false, bus')) := by
  have silent : offBus (AgreedUponChannel.addSignature env msg) (channel, bus) =
      (.ok (), (holding, bus)) := by
    simp only [offBus, added]
  simp only [processParticipantMsg, progress, initialSigned, Op.bind_run, call_ok silent,
    Op.mapErr_run, built, Outcome.mapErr_ok, Op.pure_run]

/-- The proposer of the channel receives an update that the other side has signed. -/
theorem received_returns {channel : ActiveChannel env.Signer} {newState : State 1 2}
    {own other : Signature} {signer : Address} {sender : Identity} (bus : Bus)
    (proposer : channel.partIdx = 0) (valid : ValidTransition env channel.state newState)
    (recovered : env.recoverSigner (stateHash env newState) other = .ok signer)
    (participant : channel.params.participants[1]? = some signer)
    (signed : env.signEth channel.client.signer (stateHash env newState) = some own)
    (peer : channel.peers[channel.partIdx]? = some sender) :
    processParticipantMsg env (.channelUpdate ⟨newState, 1, other⟩) (.active channel none, bus) =
      (.ok (), (afterApply { channel with state := newState, signatures := #v[own, other] }
        ⟨channel.state.id, newState, #v[some own, some other]⟩,
        bus ++ broadcast channel.partIdx sender channel.peers
            (.channelUpdateAccepted ⟨channel.state.id, newState.version, own⟩) ++
          [.toWatcher (.watchRequest ⟨channel.params, newState, #v[own, other]⟩)])) := by
  rcases channel with ⟨partIdx, receiver, client, state, params, sigs, peers⟩
  dsimp only at proposer valid participant signed peer
  subst proposer
  have matching (slots : Vector (Option Signature) 2) : Matches env ⟨state.id, newState, slots⟩
      ⟨0, receiver, client, state, params, sigs, peers⟩ := ⟨valid.version, rfl⟩
  refine update_proposed_returns (u := ⟨state.id, newState, #v[none, some other]⟩)
    (handle_update_ok.mpr ⟨valid, Nat.one_lt_two, signer, recovered, participant, rfl⟩)
    (accept_ok.mpr ⟨matching _, rfl, own, sender, signed, peer, rfl⟩) ?_
  exact apply_ok.mpr ⟨matching _, #v[own, other], rfl, rfl⟩

end Specs

end Perun.DemoChannel
