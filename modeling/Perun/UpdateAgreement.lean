import Perun.Opening

/-! One update between two honest parties. Whatever one side may propose the other
side accepts: both check the same transition, and each checks the other's
signature over the same hash. The steps after the proposal interleave freely. -/
namespace Perun.UpdateAgreement
open AbiTypes Payment Messages MessageBus Active Opening TwoParty

/-- `complete` tells whether both signatures are there. -/
inductive Phase where
  | idle
  | pending (complete : Bool) (update : ChannelUpdate)
  | applied

def Phase.remaining : Phase → Nat
  | .idle => 3
  | .pending complete _ => if complete then 1 else 2
  | .applied => 0

theorem Phase.remaining_zero {phase : Phase} (done : phase.remaining = 0) : phase = .applied := by
  cases phase with
  | idle => cases done
  | pending complete update => cases complete <;> cases done
  | applied => rfl

structure Party (env : Env) where
  phase : Phase
  channel : ActiveChannel env.Signer
  bus : Bus

def Party.remaining {env : Env} (party : Party env) : Nat := party.phase.remaining

inductive Move where
  | handleUpdate (msg : LedgerChannelUpdate)
  | accept
  | participantAccepted (msg : LedgerChannelUpdateAccepted)
  | apply

section System
variable (env : Env) (initiator : Side) (peers : Peers)

def advance (side : Side) (inbox : List ParticipantMessage) (party : Party env) (move : Move) :
    Option (Outcome Unit (Party env)) :=
  match party.phase, move with
  | .idle, .handleUpdate msg =>
      if .channelUpdate msg ∈ inbox then
        some (conclude (party.channel.handleUpdate env msg, ())
          fun update _ => { party with phase := .pending false update })
      else none
  -- The initiator has signed already and waits for the other side.
  | .pending false update, .accept =>
      if side = initiator then none
      else
        some (conclude (ChannelUpdate.accept env party.channel (update, party.bus))
          fun _ after => { party with phase := .pending true after.1, bus := after.2 })
  | .pending false update, .participantAccepted msg =>
      if side = initiator ∧ .channelUpdateAccepted msg ∈ inbox then
        some (conclude (ChannelUpdate.participantAccepted env party.channel
            (1 - party.channel.partIdx) msg update)
          fun _ update => { party with phase := .pending true update })
      else none
  | .pending true update, .apply =>
      some (conclude (update.apply env (party.channel, party.bus))
        fun _ after => ⟨.applied, after.1, after.2⟩)
  | _, _ => none

def system : System (Party env) Move ParticipantMessage Unit where
  advance := advance env initiator
  sent side party := inbox peers[side.other.partIdx]? party.bus

/-- The initiator has called `update`, the other side has not heard of it. -/
def start (channel : Side → ActiveChannel env.Signer) (update : ChannelUpdate) (bus : Bus)
    (side : Side) : Party env :=
  if side = initiator then ⟨.pending false update, channel side, bus⟩
  else ⟨.idle, channel side, []⟩

end System

/-- The two ends, the new state and how each side signs it. -/
structure Exchange (env : Env) where
  channel : Side → ActiveChannel env.Signer
  initiator : Side
  newState : State 1 2
  sig : Side → Signature

namespace Exchange
variable {env : Env} (exchange : Exchange env)

def params : Params 2 := (exchange.channel exchange.initiator).params

def state : State 1 2 := (exchange.channel exchange.initiator).state

def peers : Peers := (exchange.channel exchange.initiator).peers

/-- Two ends of one channel whose initiator could propose the new state. -/
structure Honest : Prop where
  sameParams : ∀ side, (exchange.channel side).params = exchange.params
  sameState : ∀ side, (exchange.channel side).state = exchange.state
  samePeers : ∀ side, (exchange.channel side).peers = exchange.peers
  pair : exchange.peers.length = 2
  partIdx : ∀ side, (exchange.channel side).partIdx = side.partIdx
  own : ∀ side, exchange.params.participants[side.partIdx]? =
    some (env.address (exchange.channel side).client.signer)
  valid : ValidTransition env exchange.state exchange.newState
  signs : ∀ side, env.signEth (exchange.channel side).client.signer
    (stateHash env exchange.newState) = some (exchange.sig side)
  recovers : ∀ side, env.recoverSigner (stateHash env exchange.newState) (exchange.sig side) =
    .ok (env.address (exchange.channel side).client.signer)

/-- The signatures of the update: the initiator's at once, the other one later. -/
def slots (complete : Bool) : Vector (Option Signature) 2 :=
  let other := if complete then some (exchange.sig exchange.initiator.other) else none
  match exchange.initiator with
  | .first => #v[some (exchange.sig .first), other]
  | .second => #v[other, some (exchange.sig .second)]

def update (complete : Bool) : ChannelUpdate :=
  ⟨exchange.state.id, exchange.newState, exchange.slots complete⟩

def Follows (side : Side) (party : Party env) : Prop :=
  match party.phase with
  | .idle => side = exchange.initiator.other ∧ party.channel = exchange.channel side
  | .pending complete update =>
      update = exchange.update complete ∧ party.channel = exchange.channel side
  | .applied => party.channel =
      { exchange.channel side with
        state := exchange.newState
        signatures := #v[exchange.sig .first, exchange.sig .second] }

def proposal : LedgerChannelUpdate :=
  ⟨exchange.newState, exchange.initiator.partIdx, exchange.sig exchange.initiator⟩

def acceptance : LedgerChannelUpdateAccepted :=
  ⟨exchange.state.id, exchange.newState.version, exchange.sig exchange.initiator.other⟩

/-- Everything a party has told the other one. -/
def said (side : Side) (phase : Phase) : List ParticipantMessage :=
  if side = exchange.initiator then [.channelUpdate exchange.proposal]
  else
    match phase with
    | .idle => []
    | .pending false _ => []
    | _ => [.channelUpdateAccepted exchange.acceptance]

structure Keeps (side : Side) (party : Party env) : Prop where
  follows : exchange.Follows side party
  spoken : inbox exchange.peers[side.other.partIdx]? party.bus = exchange.said side party.phase

/-- The only messages of the exchange. -/
def Word (side : Side) : ParticipantMessage → Prop
  | .channelUpdate msg => side = exchange.initiator ∧ msg = exchange.proposal
  | .channelUpdateAccepted msg =>
      side = exchange.initiator.other ∧ msg = exchange.acceptance
  | _ => False

theorem word_of_said {side : Side} {phase : Phase} {msg : ParticipantMessage}
    (member : msg ∈ exchange.said side phase) : exchange.Word side msg := by
  unfold said at member
  split at member
  · rename_i same
    cases List.mem_singleton.mp member
    exact ⟨same, rfl⟩
  · rename_i other
    have role : side = exchange.initiator.other := Side.eq_other other
    split at member
    · cases member
    · cases member
    · cases List.mem_singleton.mp member
      exact ⟨role, rfl⟩

/-! The slots as the methods fill them. -/

theorem first_slots : (Vector.replicate 2 none).setIfInBounds exchange.initiator.partIdx
    (some (exchange.sig exchange.initiator)) = exchange.slots false := by
  unfold slots
  cases exchange.initiator <;> rfl

theorem open_slot : (exchange.slots false)[exchange.initiator.other.partIdx]? = some none := by
  unfold slots
  cases exchange.initiator <;> rfl

theorem all_slots : (exchange.slots false).setIfInBounds exchange.initiator.other.partIdx
    (some (exchange.sig exchange.initiator.other)) = exchange.slots true := by
  unfold slots
  cases exchange.initiator <;> rfl

theorem collected :
    collectSignatures (exchange.slots true) = .ok
      #v[exchange.sig .first, exchange.sig .second] := by
  unfold slots
  cases exchange.initiator <;> rfl

namespace Honest
variable {exchange : Exchange env} (honest : exchange.Honest)
include honest

theorem matching (side : Side) (complete : Bool) :
    Matches env (exchange.update complete) (exchange.channel side) := by
  constructor
  · rw [honest.sameState side]
    exact honest.valid.version
  · rw [honest.sameState side]
    rfl

theorem peer (side : Side) :
    ∃ sender, (exchange.channel side).peers[side.partIdx]? = some sender := by
  rw [honest.samePeers side]
  exact Side.entry honest.pair side

theorem participant (side side' : Side) :
    (exchange.channel side).params.participants[side'.partIdx]? =
      some (env.address (exchange.channel side').client.signer) := by
  rw [honest.sameParams side]
  exact honest.own side'

theorem handle_update_returns (side : Side) :
    (exchange.channel side).handleUpdate env exchange.proposal = .ok (exchange.update false) := by
  refine handle_update_ok.mpr ⟨?_, exchange.initiator.partIdx_lt, _,
    honest.recovers exchange.initiator, honest.participant side exchange.initiator, ?_⟩
  · rw [honest.sameState side]
    exact honest.valid
  · rw [honest.sameState side]
    simp only [update, proposal, first_slots]

theorem accept_returns (bus : Bus) : ∃ sender,
    ChannelUpdate.accept env (exchange.channel exchange.initiator.other)
        (exchange.update false, bus) =
      (.ok (), (exchange.update true, bus ++ broadcast exchange.initiator.other.partIdx sender
        exchange.peers (.channelUpdateAccepted exchange.acceptance))) := by
  obtain ⟨sender, peer⟩ := honest.peer exchange.initiator.other
  refine ⟨sender, accept_ok.mpr ⟨honest.matching _ _, ?_, exchange.sig exchange.initiator.other,
    sender, honest.signs _, ?_, ?_⟩⟩
  · rw [honest.partIdx]
    exact exchange.open_slot
  · rw [honest.partIdx]
    exact peer
  · rw [honest.partIdx, honest.samePeers]
    simp only [update, all_slots, acceptance]

theorem participant_accepted_returns :
    ChannelUpdate.participantAccepted env (exchange.channel exchange.initiator)
        (1 - (exchange.channel exchange.initiator).partIdx) exchange.acceptance
        (exchange.update false) = (.ok (), exchange.update true) := by
  have index : 1 - (exchange.channel exchange.initiator).partIdx =
      exchange.initiator.other.partIdx := by
    rw [honest.partIdx]
    cases exchange.initiator <;> rfl
  rw [index]
  refine participant_accepted_ok.mpr ⟨honest.matching _ _, rfl, rfl, exchange.open_slot,
    ⟨_, honest.recovers exchange.initiator.other, honest.participant _ exchange.initiator.other⟩, ?_⟩
  simp only [update, acceptance, all_slots]

theorem apply_returns (side : Side) (bus : Bus) :
    (exchange.update true).apply env (exchange.channel side, bus) =
      (.ok (), ({ exchange.channel side with
        state := exchange.newState
        signatures := #v[exchange.sig .first, exchange.sig .second] },
        bus ++ [.toWatcher (.watchRequest ⟨(exchange.channel side).params, exchange.newState,
          #v[exchange.sig .first, exchange.sig .second]⟩)])) :=
  apply_ok.mpr ⟨honest.matching side true, _, exchange.collected, rfl⟩

/-- Every enabled move returns and stays within the exchange. -/
theorem advance_keeps {side : Side} {inbox : List ParticipantMessage} {party : Party env}
    {move : Move} {result : Outcome Unit (Party env)} (keeps : exchange.Keeps side party)
    (heard : ∀ msg ∈ inbox, exchange.Word side.other msg)
    (advanced : advance env exchange.initiator side inbox party move = some result) :
    ∃ after, result = .ok after ∧ exchange.Keeps side after := by
  rcases party with ⟨phase, channel, bus⟩
  obtain ⟨follows, spoken⟩ := keeps
  simp only [advance] at advanced
  split at advanced
  · obtain ⟨role, same⟩ := follows
    split at advanced
    · rename_i msg sent
      obtain ⟨_, content⟩ := heard _ sent
      dsimp only at same
      subst same content
      exact ⟨_, (Option.some.inj advanced).symm.trans
        (conclude_ok (by rw [honest.handle_update_returns side])), ⟨rfl, rfl⟩, spoken⟩
    · cases advanced
  · obtain ⟨content, same⟩ := follows
    dsimp only at same
    subst content same
    split at advanced
    · cases advanced
    · rename_i role
      have other := Side.eq_other role
      subst other
      obtain ⟨sender, call⟩ := honest.accept_returns bus
      refine ⟨_, (Option.some.inj advanced).symm.trans (conclude_ok call), ⟨rfl, rfl⟩, ?_⟩
      dsimp only
      rw [inbox_broadcast honest.pair, spoken]
      simp [said, role]
  · obtain ⟨content, same⟩ := follows
    dsimp only at same
    subst content same
    split at advanced
    · rename_i msg guard
      obtain ⟨role, sent⟩ := guard
      obtain ⟨_, content⟩ := heard _ sent
      subst role content
      refine ⟨_, (Option.some.inj advanced).symm.trans
        (conclude_ok honest.participant_accepted_returns), ⟨rfl, rfl⟩, ?_⟩
      dsimp only
      rw [spoken]
      simp [said]
    · cases advanced
  · obtain ⟨content, same⟩ := follows
    dsimp only at same
    subst content same
    refine ⟨_, (Option.some.inj advanced).symm.trans
      (conclude_ok (honest.apply_returns side bus)), rfl, ?_⟩
    -- The watcher is told, not the other party.
    exact (inbox_append _ _ _).trans ((List.append_nil _).trans spoken)
  · cases advanced

/-- The contract both parties keep. -/
def contract : Contract (system env exchange.initiator exchange.peers) where
  follows := exchange.Keeps
  word := exchange.Word
  keeps_word side party keeps msg member := by
    change msg ∈ inbox _ party.bus at member
    rw [keeps.spoken] at member
    exact exchange.word_of_said member
  advances side inbox party move result keeps heard advanced :=
    honest.advance_keeps keeps heard advanced

theorem start_keeps (sender : Identity) (side : Side) :
    exchange.Keeps side (start env exchange.initiator exchange.channel (exchange.update false)
      (broadcast exchange.initiator.partIdx sender exchange.peers
        (.channelUpdate exchange.proposal)) side) := by
  unfold start
  by_cases role : side = exchange.initiator
  · subst role
    rw [if_pos rfl]
    refine ⟨⟨rfl, rfl⟩, ?_⟩
    have heard := inbox_broadcast honest.pair exchange.initiator sender []
      (.channelUpdate exchange.proposal)
    simpa [said, inbox] using heard
  · rw [if_neg role]
    refine ⟨⟨Side.eq_other role, rfl⟩, ?_⟩
    simp [said, role, inbox]

end Honest

/-! The exchange can be completed from wherever it stands. -/
section Progress
variable {exchange : Exchange env} {world : Side → Party env}

theorem advance_closer {side : Side} {inbox : List ParticipantMessage} {party after : Party env}
    {move : Move}
    (advanced : advance env exchange.initiator side inbox party move = some (.ok after)) :
    after.remaining < party.remaining := by
  rcases party with ⟨phase, channel, bus⟩
  simp only [advance] at advanced
  split at advanced
  · split at advanced
    · exact conclude_lt Party.remaining (Option.some.inj advanced) fun _ _ => by
        simp [Party.remaining, Phase.remaining]
    · cases advanced
  · split at advanced
    · cases advanced
    · exact conclude_lt Party.remaining (Option.some.inj advanced) fun _ _ => by
        simp [Party.remaining, Phase.remaining]
  · split at advanced
    · exact conclude_lt Party.remaining (Option.some.inj advanced) fun _ _ => by
        simp [Party.remaining, Phase.remaining]
    · cases advanced
  · exact conclude_lt Party.remaining (Option.some.inj advanced) fun _ _ => by
      simp [Party.remaining, Phase.remaining]
  · cases advanced

theorem heard_of_said (keeps : ∀ side, exchange.Keeps side (world side)) {side : Side}
    {msg : ParticipantMessage} (spoken : msg ∈ exchange.said side (world side).phase) :
    msg ∈ (system env exchange.initiator exchange.peers).sent side (world side) := by
  change msg ∈ inbox _ _
  rw [(keeps side).spoken]
  exact spoken

/-- The other side needs the proposal alone. -/
theorem other_enabled {party : Party env} {inbox : List ParticipantMessage}
    (heard : .channelUpdate exchange.proposal ∈ inbox) (unfinished : party.remaining ≠ 0) :
    ∃ move result, advance env exchange.initiator exchange.initiator.other inbox party move =
      some result := by
  rcases party with ⟨phase, channel, bus⟩
  cases phase with
  | idle => exact ⟨.handleUpdate exchange.proposal, _, if_pos heard⟩
  | pending complete update =>
      cases complete with
      | false => exact ⟨.accept, _, if_neg (Side.other_ne _)⟩
      | true => exact ⟨.apply, _, rfl⟩
  | applied => exact absurd rfl unfinished

/-- The initiator needs the acceptance. -/
theorem initiator_enabled {party : Party env} {inbox : List ParticipantMessage}
    (keeps : exchange.Keeps exchange.initiator party)
    (heard : .channelUpdateAccepted exchange.acceptance ∈ inbox)
    (unfinished : party.remaining ≠ 0) :
    ∃ move result, advance env exchange.initiator exchange.initiator inbox party move =
      some result := by
  rcases party with ⟨phase, channel, bus⟩
  cases phase with
  | idle => exact absurd keeps.follows.1.symm (Side.other_ne _)
  | pending complete update =>
      cases complete with
      | false => exact ⟨.participantAccepted exchange.acceptance, _, if_pos ⟨rfl, heard⟩⟩
      | true => exact ⟨.apply, _, rfl⟩
  | applied => exact absurd rfl unfinished

theorem some_enabled (keeps : ∀ side, exchange.Keeps side (world side))
    (unfinished : ∃ side, (world side).remaining ≠ 0) :
    ∃ side move result, (system env exchange.initiator exchange.peers).advance side
      ((system env exchange.initiator exchange.peers).sent side.other (world side.other))
      (world side) move = some result := by
  by_cases busy : (world exchange.initiator.other).remaining ≠ 0
  · have proposed : .channelUpdate exchange.proposal ∈
        exchange.said exchange.initiator (world exchange.initiator).phase := by simp [said]
    have heard := heard_of_said keeps proposed
    rw [← Side.other_other exchange.initiator] at heard
    exact ⟨exchange.initiator.other, other_enabled heard busy⟩
  · have applied := Phase.remaining_zero (not_not.mp busy)
    have accepted : .channelUpdateAccepted exchange.acceptance ∈
        exchange.said exchange.initiator.other (world exchange.initiator.other).phase := by
      simp [said, applied, Side.other_ne]
    obtain ⟨side, unfinished⟩ := unfinished
    have role : side = exchange.initiator := by
      by_contra different
      rw [Side.eq_other different] at unfinished
      exact busy unfinished
    subst role
    exact ⟨exchange.initiator, initiator_enabled (keeps _) (heard_of_said keeps accepted) unfinished⟩

end Progress
end Exchange

/-- An update that one end may propose is accepted and applied by both, whatever
the order of the steps: none of them fails, they can always be completed, and in
the end both channels have the new state and the same signatures. -/
theorem update_completes (env : Env)
    (signs : ∀ signer hash, ∃ sig, env.signEth signer hash = some sig ∧
      env.recoverSigner hash sig = .ok (env.address signer))
    (channel : Side → ActiveChannel env.Signer) (initiator : Side)
    (params : ∀ side, (channel side).params = (channel initiator).params)
    (state : ∀ side, (channel side).state = (channel initiator).state)
    (peers : ∀ side, (channel side).peers = (channel initiator).peers)
    (pair : (channel initiator).peers.length = 2)
    (partIdx : ∀ side, (channel side).partIdx = side.partIdx)
    (own : ∀ side, (channel side).params.participants[side.partIdx]? =
      some (env.address (channel side).client.signer))
    (newState : State 1 2) (update : ChannelUpdate) (bus : Bus)
    (updated : (channel initiator).update env newState [] = (.ok update, bus))
    (world : Side → Party env)
    (reaches : (system env initiator (channel initiator).peers).Reaches
      (start env initiator channel update bus) world) :
    (∀ side move result,
      (system env initiator (channel initiator).peers).step world side move = some result →
      ∃ after, result = .ok after) ∧
    (∃ final, (system env initiator (channel initiator).peers).Reaches world final ∧
      ∀ side, (final side).phase = .applied) ∧
    ∃ signatures, ∀ side, (world side).phase = .applied →
      (world side).channel = { channel side with state := newState, signatures := signatures } := by
  choose sig signs recovers using fun side =>
    signs (channel side).client.signer (stateHash env newState)
  obtain ⟨valid, _, own', sender, signed, _, rfl, rfl⟩ := update_ok.mp updated
  let exchange : Exchange env := ⟨channel, initiator, newState, sig⟩
  have honest : exchange.Honest :=
    { sameParams := params
      sameState := state
      samePeers := peers
      pair := pair
      partIdx := partIdx
      own := fun side => by
        rw [← own side, params side]
        rfl
      valid := valid
      signs := signs
      recovers := recovers }
  have same : own' = sig initiator := by
    rw [signs initiator] at signed
    exact (Option.some.inj signed).symm
  subst same
  have fresh : ⟨(channel initiator).state.id, newState,
      (Vector.replicate 2 none).setIfInBounds (channel initiator).partIdx (some (sig initiator))⟩ =
      exchange.update false := by
    rw [partIdx initiator]
    exact congrArg (ChannelUpdate.mk _ _) exchange.first_slots
  rw [fresh, List.nil_append, partIdx initiator] at reaches
  have keeps := honest.contract.reaches_follows reaches (honest.start_keeps sender)
  refine ⟨fun side move result => honest.contract.step_returns reaches (honest.start_keeps sender),
    ?_, #v[sig .first, sig .second], fun side done => ?_⟩
  · obtain ⟨final, later, done⟩ := honest.contract.completes
      (fun _ _ _ _ _ => Exchange.advance_closer) (fun _ => Exchange.some_enabled) keeps
    exact ⟨final, later, fun side => Phase.remaining_zero (done side)⟩
  · have follows := (keeps side).follows
    unfold Exchange.Follows at follows
    rw [done] at follows
    exact follows

def plainEnd (side : Side) : ActiveChannel plainEnv.Signer :=
  let state := agreedState plainEnv plainProposal plainAnswer
  { partIdx := side.partIdx
    withdrawReceiver := Address.zero
    client := ⟨match side with
      | .first => plainProposal.participant
      | .second => plainAnswer.participant⟩
    state := state
    params := agreedParams plainEnv plainProposal plainAnswer
    signatures := #v[plainSign plainProposal.participant (stateHash plainEnv state),
      plainSign plainAnswer.participant (stateHash plainEnv state)]
    peers := plainProposal.peers }

def plainExchange : Exchange plainEnv where
  channel := plainEnd
  initiator := .first
  newState := plainPayment
  sig side := plainSign (plainEnd side).client.signer (stateHash plainEnv plainPayment)

theorem plain_honest : plainExchange.Honest where
  sameParams _ := rfl
  sameState _ := rfl
  samePeers _ := rfl
  pair := rfl
  partIdx _ := rfl
  own side := by cases side <;> rfl
  valid := plain_payment
  signs _ := rfl
  recovers side := plain_recover (plainEnd side).client.signer _

theorem update_completes_payment : ∃ update bus final,
    (plainEnd .second).update plainEnv plainPayment [] = (.ok update, bus) ∧
    (system plainEnv .second plainProposal.peers).Reaches
      (start plainEnv .second plainEnd update bus) final ∧
    ∀ side, (final side).channel.state = plainPayment := by
  have updated := (@update_ok plainEnv (plainEnd .second) plainPayment [] _ _).mpr
    ⟨plain_payment, by decide, _, _, rfl, rfl, rfl, rfl⟩
  have holds := update_completes plainEnv (fun signer hash => ⟨_, rfl, plain_recover signer hash⟩)
    plainEnd .second (fun _ => rfl) (fun _ => rfl) (fun _ => rfl) rfl (fun _ => rfl)
    (fun side => by cases side <;> rfl) plainPayment _ _ updated
  obtain ⟨_, ⟨final, reaches, done⟩, _⟩ := holds _ Relation.ReflTransGen.refl
  obtain ⟨_, _, signatures, same⟩ := holds final reaches
  exact ⟨_, _, final, updated, reaches, fun side => by rw [same side (done side)]⟩

end Perun.UpdateAgreement
