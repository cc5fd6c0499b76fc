import Perun.ChannelRun

/-! A channel from its proposal to its last update. The list of peers comes with
the proposal and is carried unchanged through every phase, and each broadcast looks
up its sender there. `propose_channel` checks the list, `handle_proposal` does not. -/
namespace Perun.Lifecycle
open AbiTypes Payment Messages MessageBus Active Opening ChannelRun

inductive Phase (env : Env) where
  | proposed (channel : ProposedChannel env.Signer) (bus : Bus)
  | agreedUpon (channel : AgreedUponChannel env.Signer) (bus : Bus)
  | signed (channel : SignedChannel env.Signer) (bus : Bus)
  | active (world : World env)

variable {env : Env}

def Phase.partIdx : Phase env → PartIdx
  | .proposed channel _ => channel.partIdx
  | .agreedUpon channel _ => channel.partIdx
  | .signed channel _ => channel.inner.partIdx
  | .active world => world.channel.partIdx

def Phase.peers : Phase env → Peers
  | .proposed channel _ => channel.proposal.peers
  | .agreedUpon channel _ => channel.peers
  | .signed channel _ => channel.inner.peers
  | .active world => world.channel.peers

/-- The two ways into a channel. -/
inductive Starts (client : PerunClient env.Signer) (receiver : Address)
    (prop : LedgerChannelProposal) (bus : Bus) : Phase env → Prop
  | proposer {channel : ProposedChannel env.Signer} {after : Bus}
      (call : proposeChannel env client prop receiver bus = (.ok channel, after)) :
      Starts client receiver prop bus (.proposed channel after)
  | responder {channel : ProposedChannel env.Signer}
      (call : handleProposal env client prop receiver = .ok channel) :
      Starts client receiver prop bus (.proposed channel bus)

/-- A call that returns. The calls of the other two phases are those of
`signingStep` and `step`. -/
inductive Advances : Phase env → Phase env → Prop
  | accept {channel : ProposedChannel env.Signer} {bus : Bus} (nonceShare : NonceShare)
      (address : Address) {result : Outcome AlreadyAcceptedError Unit}
      {after : ProposedChannel env.Signer × Bus}
      (call : ProposedChannel.accept env nonceShare address (channel, bus) = (result, after))
      (returns : result ≠ .panic) :
      Advances (.proposed channel bus) (.proposed after.1 after.2)
  | participantAccepted {channel : ProposedChannel env.Signer} {bus : Bus} (partIdx : PartIdx)
      (msg : LedgerChannelProposalAcc) {result : Outcome HandleAcceptError Unit}
      {after : ProposedChannel env.Signer}
      (call : ProposedChannel.participantAccepted env partIdx msg channel = (result, after))
      (returns : result ≠ .panic) :
      Advances (.proposed channel bus) (.proposed after bus)
  | buildProposed {channel : ProposedChannel env.Signer} {bus : Bus}
      {agreed : AgreedUponChannel env.Signer} (call : channel.build env = .ok agreed) :
      Advances (.proposed channel bus) (.agreedUpon agreed bus)
  | signing {before after : AgreedUponChannel env.Signer × Bus} (action : SigningAction)
      (call : signingStep env before action = some after) :
      Advances (.agreedUpon before.1 before.2) (.agreedUpon after.1 after.2)
  | buildAgreed {channel : AgreedUponChannel env.Signer} {bus after : Bus}
      {signed : SignedChannel env.Signer} (call : channel.build env bus = (.ok signed, after)) :
      Advances (.agreedUpon channel bus) (.signed signed after)
  | markFunded (channel : SignedChannel env.Signer) (bus : Bus) :
      Advances (.signed channel bus) (.active (World.start env channel.markFunded bus))
  | acting {world after : World env} (action : Action) (call : step env world action = some after) :
      Advances (.active world) (.active after)

/-- The calls that answer, sign or propose, when they return `Ok`. -/
inductive Sends : Phase env → ParticipantMessage → Bus → Bus → Prop
  | accept {channel : ProposedChannel env.Signer} {old before after : Bus} (nonceShare : NonceShare)
      (address : Address) {accepted : ProposedChannel env.Signer}
      (call : ProposedChannel.accept env nonceShare address (channel, before) =
        (.ok (), (accepted, after))) :
      Sends (.proposed channel old)
        (.proposalAccepted ⟨channel.proposal.proposalId, nonceShare, address⟩) before after
  | reject {channel : ProposedChannel env.Signer} {old before after : Bus} (reason : String)
      (call : (channel.reject reason : Op Empty Bus Unit) before = (.ok (), after)) :
      Sends (.proposed channel old) (.proposalRejected channel.proposal.proposalId reason)
        before after
  | sign {channel : AgreedUponChannel env.Signer} {old before after : Bus} {sig : Signature}
      {signed : AgreedUponChannel env.Signer}
      (call : AgreedUponChannel.sign env (channel, before) = (.ok (), (signed, after)))
      (own : signed.signatures[channel.partIdx]? = some (some sig)) :
      Sends (.agreedUpon channel old)
        (.channelUpdateAccepted ⟨channel.initState.id, channel.initState.version, sig⟩) before after
  | update {world : World env} {before after : Bus} {newState : State 1 2} {sig : Signature}
      {update : ChannelUpdate}
      (call : world.channel.update env newState before = (.ok update, after))
      (own : update.signatures[world.channel.partIdx]? = some (some sig)) :
      Sends (.active world) (.channelUpdate ⟨newState, world.channel.partIdx, sig⟩) before after
  | acceptUpdate {world : World env} {before after : Bus} {update accepted : ChannelUpdate}
      {sig : Signature}
      (call : ChannelUpdate.accept env world.channel (update, before) =
        (.ok (), (accepted, after)))
      (own : accepted.signatures[world.channel.partIdx]? = some (some sig)) :
      Sends (.active world)
        (.channelUpdateAccepted ⟨update.channelId, update.newState.version, sig⟩) before after
  | rejectUpdate {world : World env} {before after : Bus} {update : ChannelUpdate} (reason : String)
      (call : update.reject env world.channel reason before = (.ok (), after)) :
      Sends (.active world)
        (.channelUpdateRejected update.channelId update.newState.version reason) before after

/-- What a call may still abort in: the arithmetic of its checks and the signer, but
no index. `accepts` says at which indices `accept` is called. -/
def IndexSafe (accepts : PartIdx → Prop) : Phase env → Prop
  | .proposed channel _ =>
      (∀ nonceShare address bus, accepts channel.partIdx →
        (ProposedChannel.accept env nonceShare address (channel, bus)).1 = .ok ()) ∧
      ∀ reason bus, ((channel.reject reason : Op Empty Bus Unit) bus).1 = .ok ()
  | .agreedUpon channel _ =>
      ∀ bus, (AgreedUponChannel.sign env (channel, bus)).1 = .panic →
        env.signEth channel.client.signer (stateHash env channel.initState) = none
  | .signed _ _ => True
  | .active world =>
      (∀ newState bus, (world.channel.update env newState bus).1 = .panic →
        world.channel.checkValidTransition env newState = .panic ∨
          env.signEth world.channel.client.signer (stateHash env newState) = none) ∧
      (∀ update bus, (ChannelUpdate.accept env world.channel (update, bus)).1 = .panic →
        update.ensureValidChannel env world.channel = .panic ∨
          env.signEth world.channel.client.signer (stateHash env update.newState) = none) ∧
      ∀ update reason bus, (ChannelUpdate.reject env update world.channel reason bus).1 = .panic →
        update.ensureValidChannel env world.channel = .panic

/-- One phase has two peers, its own index is one of them, and it sends one message
at a time, to the other one. -/
structure Addressed (accepts : PartIdx → Prop) (phase : Phase env) : Prop where
  pair : phase.peers.length = 2
  bound : phase.partIdx < phase.peers.length
  sends : ∀ msg before after, Sends phase msg before after → ∃ own other,
    phase.peers[phase.partIdx]? = some own ∧ phase.peers[1 - phase.partIdx]? = some other ∧
    after = before ++ [.toParticipant own other msg]
  safe : IndexSafe accepts phase

/-- Both roles admit the same proposals, and every phase they reach is `Addressed`. -/
structure WellAddressed (accepts : PartIdx → Prop) (client : PerunClient env.Signer)
    (receiver : Address) (prop : LedgerChannelProposal) (bus : Bus) : Prop where
  admits : (∃ error, handleProposal env client prop receiver = .err error) ↔
    ∃ error, (proposeChannel env client prop receiver bus).1 = .err error
  reached : ∀ start phase, Starts client receiver prop bus start →
    Relation.ReflTransGen Advances start phase → Addressed accepts phase

/-! The own index and the peers do not change. -/
section Frame

theorem accept_keeps (nonceShare : NonceShare) (address : Address) :
    Op.Keeps (fun state => (state.1.partIdx, state.1.proposal))
      (ProposedChannel.accept env nonceShare address) := by
  refine Op.keeps_bind (Op.keeps_of_reads _ Op.reads_get) fun state =>
    Op.keeps_bind (Op.keeps_of_reads _ (Op.reads_lift _)) fun index =>
      Op.keeps_bind (Op.keeps_of_reads _ (Op.reads_lift _)) fun responses => ?_
  exact Op.keeps_bind (Op.keeps_modify fun _ => rfl) fun _ =>
    on_bus_keeps (fun channel : ProposedChannel env.Signer =>
      (channel.partIdx, channel.proposal)) _

theorem answer_keeps (partIdx : PartIdx) (msg : LedgerChannelProposalAcc) :
    Op.Keeps (fun channel => (channel.partIdx, channel.proposal))
      (ProposedChannel.participantAccepted env partIdx msg) := by
  refine Op.keeps_bind (Op.keeps_of_reads _ Op.reads_get) fun channel => ?_
  split
  · exact Op.keeps_of_reads _ (Op.reads_fail _)
  · refine Op.keeps_bind (Op.keeps_of_reads _ (Op.reads_lift _)) fun index =>
      Op.keeps_bind (Op.keeps_of_reads _ (Op.reads_lift _)) fun response => ?_
    cases response with
    | some acc => exact Op.keeps_of_reads _ (Op.reads_fail _)
    | none =>
        exact Op.keeps_bind (Op.keeps_of_reads _ (Op.reads_lift _)) fun responses =>
          Op.keeps_modify fun _ => rfl

theorem effect_frame {world after : World env} (effect : Effect world after) :
    after.channel.partIdx = world.channel.partIdx ∧ after.channel.peers = world.channel.peers := by
  cases effect <;> exact ⟨rfl, rfl⟩

theorem advances_frame {before after : Phase env} (advances : Advances before after) :
    after.partIdx = before.partIdx ∧ after.peers = before.peers := by
  cases advances with
  | @accept channel bus nonceShare address result after call returns =>
      have same := accept_keeps nonceShare address (channel, bus)
      rw [call, Prod.mk.injEq] at same
      exact ⟨same.1, congrArg LedgerChannelProposal.peers same.2⟩
  | @participantAccepted channel bus partIdx msg result after call returns =>
      have same := answer_keeps partIdx msg channel
      rw [call, Prod.mk.injEq] at same
      exact ⟨same.1, congrArg LedgerChannelProposal.peers same.2⟩
  | buildProposed call =>
      obtain ⟨res, _, rfl⟩ := proposed_build_ok.mp call
      exact ⟨rfl, rfl⟩
  | signing action call =>
      obtain ⟨signatures, same⟩ := signing_runs_frame (.single ⟨action, call⟩)
      simp only [Phase.partIdx, Phase.peers, same, and_self]
  | buildAgreed call =>
      obtain ⟨_, signatures, _, rfl, _⟩ := agreed_build_ok.mp call
      exact ⟨rfl, rfl⟩
  | markFunded channel bus => exact ⟨rfl, rfl⟩
  | acting action call => exact effect_frame (step_effect action call)

theorem runs_frame {start phase : Phase env} (runs : Relation.ReflTransGen Advances start phase) :
    phase.partIdx = start.partIdx ∧ phase.peers = start.peers := by
  induction runs with
  | refl => exact ⟨rfl, rfl⟩
  | tail _ advances ih =>
      have same := advances_frame advances
      exact ⟨same.1.trans ih.1, same.2.trans ih.2⟩

end Frame

/-! A phase with two peers and an index among them. -/
section Phases

/-- A broadcast is one message, from the own identity to the other one. -/
theorem broadcast_one {partIdx : PartIdx} {peers : Peers} (pair : peers.length = 2)
    (bound : partIdx < 2) {sender : Identity} (peer : peers[partIdx]? = some sender)
    (before : Bus) (msg : ParticipantMessage) : ∃ own other,
      peers[partIdx]? = some own ∧ peers[1 - partIdx]? = some other ∧
      before ++ broadcast partIdx sender peers msg = before ++ [.toParticipant own other msg] := by
  obtain ⟨first, second, rfl⟩ := List.length_eq_two.mp pair
  refine ⟨sender, if partIdx = 0 then second else first, peer, ?_, ?_⟩
  · interval_cases partIdx <;> rfl
  · rw [broadcast_pair partIdx first second msg bound]

theorem broadcast_ok {ε : Type} {partIdx : PartIdx} {peers : Peers} {msg : ParticipantMessage}
    {before after : Bus}
    (call : (broadcastToParticipants partIdx peers msg : Op ε Bus Unit) before = (.ok (), after)) :
    ∃ sender, peers[partIdx]? = some sender ∧
      after = before ++ broadcast partIdx sender peers msg := by
  rw [broadcast_run] at call
  split at call
  · rename_i sender peer
    cases call
    exact ⟨sender, peer, rfl⟩
  · cases call

theorem accept_broadcasts {channel accepted : ProposedChannel env.Signer} {before after : Bus}
    {nonceShare : NonceShare} {address : Address}
    (call : ProposedChannel.accept env nonceShare address (channel, before) =
      (.ok (), (accepted, after))) :
    ∃ sender, channel.proposal.peers[channel.partIdx]? = some sender ∧
      after = before ++ broadcast channel.partIdx sender channel.proposal.peers
        (.proposalAccepted ⟨channel.proposal.proposalId, nonceShare, address⟩) := by
  obtain ⟨state, _, got, call⟩ := Op.bind_eq_ok.mp call
  cases got
  obtain ⟨index, _, slot, call⟩ := Op.bind_eq_ok.mp call
  cases (Op.lift_eq_ok.mp slot).2
  obtain ⟨responses, _, stored, call⟩ := Op.bind_eq_ok.mp call
  cases (Op.lift_eq_ok.mp stored).2
  obtain ⟨_, _, modified, call⟩ := Op.bind_eq_ok.mp call
  cases modified
  rw [on_bus_run, Prod.mk.injEq, Prod.mk.injEq] at call
  exact broadcast_ok (Prod.ext call.1 call.2.2)

theorem sends_one {phase : Phase env} (pair : phase.peers.length = 2) (bound : phase.partIdx < 2)
    {msg : ParticipantMessage} {before after : Bus} (sends : Sends phase msg before after) :
    ∃ own other, phase.peers[phase.partIdx]? = some own ∧
      phase.peers[1 - phase.partIdx]? = some other ∧
      after = before ++ [.toParticipant own other msg] := by
  cases sends with
  | accept nonceShare address call =>
      obtain ⟨sender, peer, rfl⟩ := accept_broadcasts call
      exact broadcast_one pair bound peer before _
  | reject reason call =>
      obtain ⟨sender, peer, rfl⟩ := broadcast_ok call
      exact broadcast_one pair bound peer before _
  | sign call own =>
      obtain ⟨_, sig, sender, _, peer, same⟩ := sign_ok.mp call
      cases same
      have same := own.symm.trans (Vector.getElem?_setIfInBounds_self_of_lt bound)
      cases same
      exact broadcast_one pair bound peer before _
  | update call own =>
      obtain ⟨_, _, sig, sender, _, peer, rfl, rfl⟩ := update_ok.mp call
      have same := own.symm.trans (Vector.getElem?_setIfInBounds_self_of_lt bound)
      cases same
      exact broadcast_one pair bound peer before _
  | acceptUpdate call own =>
      obtain ⟨_, _, sig, sender, _, peer, same⟩ := accept_ok.mp call
      cases same
      have same := own.symm.trans (Vector.getElem?_setIfInBounds_self_of_lt bound)
      cases same
      exact broadcast_one pair bound peer before _
  | rejectUpdate reason call =>
      obtain ⟨_, sender, peer, rfl⟩ := reject_ok.mp call
      exact broadcast_one pair bound peer before _

theorem sign_safe {channel : AgreedUponChannel env.Signer} {sender : Identity}
    (bound : channel.partIdx < 2) (peer : channel.peers[channel.partIdx]? = some sender) (bus : Bus)
    (aborts : (AgreedUponChannel.sign env (channel, bus)).1 = .panic) :
    env.signEth channel.client.signer (stateHash env channel.initState) = none := by
  cases signed : env.signEth channel.client.signer (stateHash env channel.initState) with
  | none => rfl
  | some sig =>
      cases slot : channel.signatures[channel.partIdx] with
      | some held =>
          simp [AgreedUponChannel.sign, Op.bind_run, Outcome.index, bound, slot] at aborts
      | none =>
          have free : channel.signatures[channel.partIdx]? = some none := by
            rw [Vector.getElem?_eq_getElem bound, slot]
          have returns := (@sign_ok env channel bus _).mpr ⟨free, sig, sender, signed, peer, rfl⟩
          rw [returns] at aborts
          cases aborts

theorem update_safe {channel : ActiveChannel env.Signer} {sender : Identity}
    (bound : channel.partIdx < 2) (peer : channel.peers[channel.partIdx]? = some sender)
    (newState : State 1 2) (bus : Bus)
    (aborts : (channel.update env newState bus).1 = .panic) :
    channel.checkValidTransition env newState = .panic ∨
      env.signEth channel.client.signer (stateHash env newState) = none := by
  cases checked : channel.checkValidTransition env newState with
  | panic => exact Or.inl rfl
  | err error => simp [ActiveChannel.update, Op.bind_run, checked] at aborts
  | ok _ =>
      cases signed : env.signEth channel.client.signer (stateHash env newState) with
      | none => exact Or.inr rfl
      | some sig =>
          have valid := check_valid_transition_iff.mp checked
          have returns := (@update_ok env channel newState bus _ _).mpr
            ⟨valid, bound, sig, sender, signed, peer, rfl, rfl⟩
          rw [returns] at aborts
          cases aborts

theorem accept_safe {channel : ActiveChannel env.Signer} {sender : Identity}
    (bound : channel.partIdx < 2) (peer : channel.peers[channel.partIdx]? = some sender)
    (update : ChannelUpdate) (bus : Bus)
    (aborts : (ChannelUpdate.accept env channel (update, bus)).1 = .panic) :
    update.ensureValidChannel env channel = .panic ∨
      env.signEth channel.client.signer (stateHash env update.newState) = none := by
  cases checked : update.ensureValidChannel env channel with
  | panic => exact Or.inl rfl
  | err error => simp [ChannelUpdate.accept, Op.bind_run, checked] at aborts
  | ok _ =>
      cases signed : env.signEth channel.client.signer (stateHash env update.newState) with
      | none => exact Or.inr rfl
      | some sig =>
          cases slot : update.signatures[channel.partIdx] with
          | some held =>
              simp [ChannelUpdate.accept, Op.bind_run, checked, Outcome.index, bound, slot] at aborts
          | none =>
              have same := ensure_valid_channel_iff.mp checked
              have free : update.signatures[channel.partIdx]? = some none := by
                rw [Vector.getElem?_eq_getElem bound, slot]
              have returns := (@accept_ok env update channel bus _).mpr
                ⟨same, free, sig, sender, signed, peer, rfl⟩
              rw [returns] at aborts
              cases aborts

theorem reject_safe {channel : ActiveChannel env.Signer} {sender : Identity}
    (peer : channel.peers[channel.partIdx]? = some sender) (update : ChannelUpdate)
    (reason : String)
    (bus : Bus) (aborts : (update.reject env channel reason bus).1 = .panic) :
    update.ensureValidChannel env channel = .panic := by
  cases checked : update.ensureValidChannel env channel with
  | panic => rfl
  | err error => simp [ChannelUpdate.reject, Op.bind_run, checked] at aborts
  | ok _ =>
      have same := ensure_valid_channel_iff.mp checked
      have returns := (@reject_ok env update channel reason bus _).mpr ⟨same, sender, peer, rfl⟩
      rw [returns] at aborts
      cases aborts

theorem index_safe {accepts : PartIdx → Prop} {phase : Phase env} (pair : phase.peers.length = 2)
    (bound : phase.partIdx < 2) (responder : ¬accepts 0) : IndexSafe accepts phase := by
  have peer := List.getElem?_eq_getElem (lt_of_lt_of_eq bound pair.symm)
  cases phase with
  | proposed channel old =>
      constructor
      · intro nonceShare address bus called
        have notFirst : channel.partIdx ≠ 0 := fun first => responder (first ▸ called)
        have second : channel.partIdx = 1 :=
          Nat.le_antisymm (Nat.le_of_lt_succ bound) (Nat.pos_of_ne_zero notFirst)
        have peer := List.getElem?_eq_getElem (lt_of_lt_of_eq Nat.one_lt_two pair.symm)
        rw [accept_run second peer]
      · intro reason bus
        change ((broadcastToParticipants _ _ _ : Op Empty Bus Unit) bus).1 = .ok ()
        rw [broadcast_run]
        change channel.proposal.peers[channel.partIdx]? = some _ at peer
        rw [peer]
  | agreedUpon channel old => exact sign_safe bound peer
  | signed channel old => trivial
  | active world =>
      exact ⟨update_safe bound peer, accept_safe bound peer, reject_safe peer⟩

end Phases

theorem propose_channel_err (client : PerunClient env.Signer) (receiver : Address)
    (prop : LedgerChannelProposal) (bus : Bus) :
    (∃ error, (proposeChannel env client prop receiver bus).1 = .err error) ↔
      prop.challengeDuration = 0 ∨ prop.peers.length ≠ 2 := by
  constructor
  · rintro ⟨error, failed⟩
    by_contra valid
    push Not at valid
    obtain ⟨first, second, pair⟩ := List.length_eq_two.mp valid.2
    have returns := (@propose_channel_ok env client prop receiver bus _ _).mpr
      ⟨valid.1, valid.2, rfl, first, by rw [pair]; rfl, rfl⟩
    rw [returns] at failed
    cases failed
  · intro invalid
    by_cases duration : prop.challengeDuration = 0
    · have failed : checkValidProposal env prop = .err .noChallengeDurationSet := by
        simp only [checkValidProposal, debug_assert_valid, Outcome.ok_bind, if_pos duration]
      exact ⟨.noChallengeDurationSet, by simp [proposeChannel, Op.bind_run, failed]⟩
    · have count := invalid.resolve_left duration
      have failed : checkValidProposal env prop = .err .peerParticipantCountMismatch := by
        simp only [checkValidProposal, debug_assert_valid, Outcome.ok_bind, if_neg duration,
          if_pos count]
      exact ⟨.peerParticipantCountMismatch, by simp [proposeChannel, Op.bind_run, failed]⟩

/-- An admitted proposal makes its sender a proposer. -/
theorem proposer_starts (client : PerunClient env.Signer) (receiver : Address)
    {prop : LedgerChannelProposal} (bus : Bus)
    (valid : prop.challengeDuration ≠ 0 ∧ prop.peers.length = 2) :
    ∃ start : Phase env, Starts client receiver prop bus start ∧ start.partIdx = 0 := by
  obtain ⟨first, second, pair⟩ := List.length_eq_two.mp valid.2
  have returns := (@propose_channel_ok env client prop receiver bus _ _).mpr
    ⟨valid.1, valid.2, rfl, first, by rw [pair]; rfl, rfl⟩
  exact ⟨_, .proposer returns, rfl⟩

theorem handle_proposal_returns (client : PerunClient env.Signer) (receiver : Address)
    (prop : LedgerChannelProposal) :
    ¬∃ error, handleProposal env client prop receiver = .err error := by
  rintro ⟨error, failed⟩
  cases failed

/-- The broadcasts of both roles are well addressed exactly for the proposals that
`propose_channel` admits, and if `accept` is left to the responder. -/
theorem well_addressed_iff (accepts : PartIdx → Prop) (client : PerunClient env.Signer)
    (receiver : Address) (prop : LedgerChannelProposal) (bus : Bus) :
    WellAddressed accepts client receiver prop bus ↔
      (prop.challengeDuration ≠ 0 ∧ prop.peers.length = 2) ∧ ¬accepts 0 := by
  constructor
  · intro addressed
    have admitted := mt addressed.admits.mpr (handle_proposal_returns client receiver prop)
    rw [propose_channel_err] at admitted
    push Not at admitted
    refine ⟨admitted, fun called => ?_⟩
    -- A proposer reaches its first phase, and aborts when it accepts there.
    obtain ⟨start, opened, proposer⟩ := proposer_starts client receiver bus admitted
    cases start with
    | proposed channel after =>
        have first : channel.partIdx = 0 := proposer
        have answers := (addressed.reached _ _ opened .refl).safe.1 prop.nonceShare receiver bus
          (first.symm ▸ called)
        rw [proposer_accept_aborts _ _ _ first] at answers
        cases answers
    | _ => cases opened
  · rintro ⟨⟨duration, pair⟩, responder⟩
    constructor
    · rw [propose_channel_err]
      refine iff_of_false (handle_proposal_returns client receiver prop) ?_
      push Not
      exact ⟨duration, pair⟩
    · intro start phase starts runs
      have frame := runs_frame runs
      have bound : phase.partIdx < 2 := by
        rw [frame.1]
        cases starts with
        | proposer call =>
            obtain ⟨_, _, rfl, _⟩ := propose_channel_ok.mp call
            exact Nat.zero_lt_two
        | responder call =>
            cases call
            exact Nat.one_lt_two
      have two : phase.peers.length = 2 := by
        rw [frame.2]
        cases starts with
        | proposer call =>
            obtain ⟨_, _, rfl, _⟩ := propose_channel_ok.mp call
            exact pair
        | responder call =>
            cases call
            exact pair
      exact ⟨two, two ▸ bound, fun msg before after => sends_one two bound,
        index_safe two bound responder⟩

theorem signing_advances {before after : AgreedUponChannel env.Signer × Bus}
    (runs : SigningRuns env before after) :
    Relation.ReflTransGen Advances (.agreedUpon before.1 before.2)
      (.agreedUpon after.1 after.2) := by
  induction runs with
  | refl => exact .refl
  | tail _ step ih =>
      obtain ⟨action, call⟩ := step
      exact ih.tail (.signing action call)

/-! The plain proposal and its answer lead to a channel in any environment, and in the
plain one it becomes active. -/
section Active

def plainAgreedIn (env : Env) (client : PerunClient env.Signer) (receiver : Address) :
    AgreedUponChannel env.Signer :=
  ⟨0, receiver, client, plainProposal.fundingAgreement, agreedState env plainProposal plainAnswer,
    agreedParams env plainProposal plainAnswer, Vector.replicate 2 none, plainProposal.peers⟩

theorem plain_agreed_reached (env : Env) (client : PerunClient env.Signer) (receiver : Address) :
    ∃ start bus, Starts client receiver plainProposal [] start ∧
      Relation.ReflTransGen Advances start (.agreedUpon (plainAgreedIn env client receiver) bus) := by
  let created : ProposedChannel env.Signer := .create client 0 receiver plainProposal
  let sent := broadcast 0 [1] plainProposal.peers (.channelProposal plainProposal)
  have proposes := (@propose_channel_ok env client plainProposal receiver [] sent created).mpr
    ⟨by decide, rfl, rfl, [1], rfl, rfl⟩
  have answers := @participant_accepted_run env created plainAnswer rfl rfl
  have built : ProposedChannel.build env { created with responses := #v[some plainAnswer] } =
      .ok (plainAgreedIn env client receiver) := proposed_build_ok.mpr ⟨plainAnswer, rfl, rfl⟩
  refine ⟨_, sent, .proposer proposes, ?_⟩
  exact (Relation.ReflTransGen.single (.participantAccepted 1 plainAnswer answers (by simp))).tail
    (.buildProposed built)

def plainFunded : ActiveChannel plainEnv.Signer :=
  ⟨0, plainAgreed.withdrawReceiver, plainAgreed.client, plainAgreed.initState, plainAgreed.params,
    #v[plainSign plainProposal.participant (stateHash plainEnv plainAgreed.initState),
      plainSign plainAnswer.participant (stateHash plainEnv plainAgreed.initState)],
    plainAgreed.peers⟩

theorem plain_active : ∃ start bus,
    Starts ⟨plainProposal.participant⟩ plainProposal.participant plainProposal [] start ∧
    Relation.ReflTransGen Advances start (.active (World.start plainEnv plainFunded bus)) := by
  obtain ⟨start, sent, starts, agreed⟩ :=
    plain_agreed_reached plainEnv ⟨plainProposal.participant⟩ plainProposal.participant
  obtain ⟨signing, before, signed, bus, runs, built, funded⟩ :=
    @signed_with plainEnv (plainSign plainProposal.participant (stateHash plainEnv _)) _ [1]
      plainAgreed _ sent rfl rfl rfl rfl (plain_recover plainAnswer.participant _) (by decide)
  have done := ((agreed.trans (signing_advances runs)).tail (.buildAgreed built)).tail
    (.markFunded signed bus)
  rw [funded] at done
  exact ⟨start, bus, starts, done⟩

end Active

/-! A proposal without peers, as it can come from the network: the responder admits
it and aborts when it answers. -/
section Plain

def lonelyProposal : LedgerChannelProposal := { plainProposal with peers := [] }

theorem lonely_proposal_admitted : ∃ client receiver, ∃ channel : ProposedChannel plainEnv.Signer,
    handleProposal plainEnv client lonelyProposal receiver = .ok channel ∧
    (proposeChannel plainEnv client lonelyProposal receiver []).1 =
      .err .peerParticipantCountMismatch ∧
    (∀ nonceShare address, (ProposedChannel.accept plainEnv nonceShare address (channel, [])).1 =
      .panic) ∧
    ¬WellAddressed (fun _ => True) client receiver lonelyProposal [] := by
  refine ⟨⟨plainAnswer.participant⟩, plainAnswer.participant, _, rfl, rfl,
    fun nonceShare address => rfl, ?_⟩
  intro addressed
  obtain ⟨error, failed⟩ := addressed.admits.mpr ⟨_, rfl⟩
  cases failed

end Plain
end Perun.Lifecycle
