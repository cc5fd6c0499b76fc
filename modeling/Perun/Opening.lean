import Perun.Active

/-! Opening a channel (`client.rs`, `channel/proposal.rs`, `channel/agreed_upon.rs`).
Both sides combine the two nonce shares and addresses into the parameters, sign
the initial state and exchange the signatures. -/
namespace Perun.Opening
open BigEndian AbiTypes Payment Messages MessageBus Active

inductive InvalidProposal where
  | noChallengeDurationSet
  | peerParticipantCountMismatch
  deriving DecidableEq

/-- `accept` is declared with this error and never returns it. -/
inductive AlreadyAcceptedError where
  | alreadyAccepted
  deriving DecidableEq

inductive HandleAcceptError where
  | invalidProposalID
  | alreadyAccepted
  deriving DecidableEq

inductive ProposalBuildError where
  | abiEncodeError (error : Ser.Error)
  | missingAccResponse (partIdx : PartIdx)

inductive BuildError where
  | missingSignatureResponse (partIdx : PartIdx)
  | abiEncodeError (error : Ser.Error)

structure ProposedChannel (Signer : Type) where
  partIdx : PartIdx
  withdrawReceiver : Address
  client : PerunClient Signer
  proposal : LedgerChannelProposal
  responses : Vector (Option LedgerChannelProposalAcc) 1

structure AgreedUponChannel (Signer : Type) where
  partIdx : PartIdx
  withdrawReceiver : Address
  client : PerunClient Signer
  fundingAgreement : Balances 1 2
  initState : State 1 2
  params : Params 2
  signatures : Vector (Option Signature) 2
  peers : Peers

/-- The hash of both nonce shares, as a number. -/
def combineNonces (env : Env) (first second : NonceShare) : U256 :=
  BitVec.ofNat 256 (ofBigEndian (env.sha3 (first.bytes.toList ++ second.bytes.toList)).toList)

namespace ProposedChannel
variable (env : Env)

/-- `ProposedChannel::new`. -/
def create {Signer : Type} (client : PerunClient Signer) (partIdx : PartIdx)
    (withdrawReceiver : Address) (proposal : LedgerChannelProposal) : ProposedChannel Signer :=
  ⟨partIdx, withdrawReceiver, client, proposal, #v[none]⟩

def accept (nonceShare : NonceShare) (address : Address) :
    Op AlreadyAcceptedError (ProposedChannel env.Signer × Bus) Unit := do
  let (channel, _) ← Op.get
  let acc : LedgerChannelProposalAcc := ⟨channel.proposal.proposalId, nonceShare, address⟩
  -- A proposer has index 0 and aborts here. An earlier answer is overwritten.
  let index ← Op.lift (env.build.sub channel.partIdx 1)
  let responses ← Op.lift (store channel.responses index (some acc))
  Op.modify fun (channel, bus) => ({ channel with responses := responses }, bus)
  onBus (broadcastToParticipants channel.partIdx channel.proposal.peers (.proposalAccepted acc))

def reject {ε Signer : Type} (channel : ProposedChannel Signer) (reason : String) :
    Op ε Bus Unit :=
  broadcastToParticipants channel.partIdx channel.proposal.peers
    (.proposalRejected channel.proposal.proposalId reason)

def participantAccepted (partIdx : PartIdx) (msg : LedgerChannelProposalAcc) :
    Op HandleAcceptError (ProposedChannel env.Signer) Unit := do
  let channel ← Op.get
  if msg.proposalId ≠ channel.proposal.proposalId then Op.fail .invalidProposalID
  else do
    let index ← Op.lift (env.build.sub partIdx 1)
    match ← Op.lift (Outcome.index channel.responses index) with
    | some _ => Op.fail .alreadyAccepted
    | none => do
        let responses ← Op.lift (store channel.responses index (some msg))
        Op.modify fun channel => { channel with responses := responses }

/-- An error hands the channel back. -/
def build (channel : ProposedChannel env.Signer) :
    Outcome (ProposedChannel env.Signer × ProposalBuildError) (AgreedUponChannel env.Signer) :=
  match getElem channel.responses 0 Nat.zero_lt_one with
  | none => .err (channel, .missingAccResponse 1)
  | some res => do
      let params : Params 2 :=
        { challengeDuration := channel.proposal.challengeDuration
          nonce := combineNonces env channel.proposal.nonceShare res.nonceShare
          participants := #v[channel.proposal.participant, res.participant]
          app := Address.zero
          ledgerChannel := true
          virtualChannel := false }
      let initState ← (State.initial env.build env.keccak256 env.debugAssertions params
        channel.proposal.initBals).mapErr fun error => (channel, .abiEncodeError error)
      .ok
        { partIdx := channel.partIdx
          withdrawReceiver := channel.withdrawReceiver
          client := channel.client
          fundingAgreement := channel.proposal.fundingAgreement
          initState := initState
          params := params
          signatures := Vector.replicate 2 none
          peers := channel.proposal.peers }

end ProposedChannel

namespace AgreedUponChannel
variable (env : Env)

def sign : Op SignError (AgreedUponChannel env.Signer × Bus) Unit := do
  let (channel, _) ← Op.get
  match ← Op.lift (Outcome.index channel.signatures channel.partIdx) with
  | some _ => Op.fail .alreadySigned
  | none => do
      let hash ← Op.lift ((hashState env channel.initState).mapErr .abiEncodeError)
      let sig ← Op.lift (signHash env channel.client hash)
      let signatures ← Op.lift (store channel.signatures channel.partIdx (some sig))
      Op.modify fun (channel, bus) => ({ channel with signatures := signatures }, bus)
      onBus (broadcastToParticipants channel.partIdx channel.peers
        (.channelUpdateAccepted ⟨channel.initState.id, channel.initState.version, sig⟩))

def addSignature (msg : LedgerChannelUpdateAccepted) :
    Op (AddSignatureError env.SigError) (AgreedUponChannel env.Signer) Unit := do
  let channel ← Op.get
  if msg.channel ≠ channel.initState.id then Op.fail .invalidChannelID
  else if msg.version ≠ 0 then Op.fail .invalidVersionNumber
  else do
    let hash ← Op.lift ((hashState env channel.initState).mapErr .abiEncodeError)
    let signer ← Op.lift ((env.recoverSigner hash msg.sig).mapErr .recoveryFailed)
    -- The slot is that of the first participant with the recovered address.
    let partIdx ← Op.lift (Outcome.okOr (.invalidSignature signer)
      (channel.params.participants.toList.findIdx? fun participant => participant == signer))
    match ← Op.lift (Outcome.index channel.signatures partIdx) with
    | some _ => Op.fail .alreadySigned
    | none => do
        let signatures ← Op.lift (store channel.signatures partIdx (some msg.sig))
        Op.modify fun channel => { channel with signatures := signatures }

/-- An error hands the channel back, before anything is sent. -/
def build (channel : AgreedUponChannel env.Signer) :
    Op (AgreedUponChannel env.Signer × BuildError) Bus (SignedChannel env.Signer) := do
  let signatures ← Op.lift ((collectSignatures channel.signatures).mapErr fun position =>
    (channel, .missingSignatureResponse position))
  send (.toWatcher (.watchRequest ⟨channel.params, channel.initState, signatures⟩))
  send (.toFunder (.fundReq
    ⟨channel.partIdx, channel.fundingAgreement, channel.params, channel.initState⟩))
  let active ← Op.lift (ActiveChannel.create env channel.client channel.partIdx
    channel.withdrawReceiver channel.initState channel.params signatures channel.peers)
  pure ⟨active⟩

end AgreedUponChannel

section Client
variable (env : Env)

def checkValidProposal (prop : LedgerChannelProposal) : Outcome InvalidProposal Unit := do
  prop.initBals.debugAssertValid env.debugAssertions
  if prop.challengeDuration = 0 then .err .noChallengeDurationSet
  else if prop.peers.length ≠ 2 then .err .peerParticipantCountMismatch
  else .ok ()

def proposeChannel (client : PerunClient env.Signer) (prop : LedgerChannelProposal)
    (withdrawReceiver : Address) : Op InvalidProposal Bus (ProposedChannel env.Signer) := do
  Op.lift (checkValidProposal env prop)
  broadcastToParticipants 0 prop.peers (.channelProposal prop)
  pure (ProposedChannel.create client 0 withdrawReceiver prop)

/-- The check of the proposal is commented out here. -/
def handleProposal (client : PerunClient env.Signer) (prop : LedgerChannelProposal)
    (withdrawReceiver : Address) : Outcome InvalidProposal (ProposedChannel env.Signer) :=
  .ok (ProposedChannel.create client 1 withdrawReceiver prop)

end Client

/-! What each method returns and leaves behind. -/
section Specs
variable {env : Env}

def paramsHash (env : Env) (params : Params 2) : Hash := params.hash env.build env.keccak256

theorem initial_state (params : Params 2) (initBals : Allocation 1 2) :
    State.initial env.build env.keccak256 env.debugAssertions params initBals =
      .ok ⟨paramsHash env params, 0, initBals, false⟩ := by
  simp [State.initial, Params.channelId, to_hash_params, paramsHash]

theorem propose_channel_ok {client : PerunClient env.Signer} {prop : LedgerChannelProposal}
    {receiver : Address} {bus after : Bus} {channel : ProposedChannel env.Signer} :
    proposeChannel env client prop receiver bus = (.ok channel, after) ↔
      prop.challengeDuration ≠ 0 ∧ prop.peers.length = 2 ∧
      channel = ProposedChannel.create client 0 receiver prop ∧
      ∃ sender, prop.peers[0]? = some sender ∧
        after = bus ++ broadcast 0 sender prop.peers (.channelProposal prop) := by
  unfold proposeChannel checkValidProposal
  simp only [Op.bind_run, Op.lift_run, debug_assert_valid, Outcome.ok_bind, broadcast_run]
  by_cases duration : prop.challengeDuration = 0#64
  · simp [duration]
  · by_cases count : prop.peers.length = 2
    · cases prop.peers[0]? <;> simp [duration, count, eq_comm (a := channel), eq_comm (a := after)]
    · simp [duration, count]

theorem accept_run {channel : ProposedChannel env.Signer} {nonceShare : NonceShare}
    {address : Address} {bus : Bus} {sender : Identity} (responder : channel.partIdx = 1)
    (peer : channel.proposal.peers[1]? = some sender) :
    ProposedChannel.accept env nonceShare address (channel, bus) =
      (.ok (), ({ channel with
          responses := #v[some ⟨channel.proposal.proposalId, nonceShare, address⟩] },
        bus ++ broadcast 1 sender channel.proposal.peers
          (.proposalAccepted ⟨channel.proposal.proposalId, nonceShare, address⟩))) := by
  have only : channel.responses.setIfInBounds 0
      (some ⟨channel.proposal.proposalId, nonceShare, address⟩) =
        #v[some ⟨channel.proposal.proposalId, nonceShare, address⟩] := by
    apply vector_ext
    simp [vector_one, Vector.get_eq_getElem]
  simp [ProposedChannel.accept, Op.bind_run, Build.sub, responder, store, broadcast_run, peer, only]

/-- The index before the first slot is no index in any build. -/
theorem before_first_slot (ε : Type) (build : Build) :
    (build.sub 0 1 : Outcome ε Nat) = .panic ∨
      ∃ index, (build.sub 0 1 : Outcome ε Nat) = .ok index ∧ index ≠ 0 := by
  have large := build.usize_range_ge
  cases checks : build.overflowChecks with
  | true => exact Or.inl (by simp [Build.sub, Build.overflow, checks])
  | false =>
      refine Or.inr ⟨_, by simp [Build.sub, Build.overflow, checks]; rfl, ?_⟩
      omega

theorem proposer_accept_aborts {channel : ProposedChannel env.Signer} (nonceShare : NonceShare)
    (address : Address) (bus : Bus) (proposer : channel.partIdx = 0) :
    (ProposedChannel.accept env nonceShare address (channel, bus)).1 = .panic := by
  rcases before_first_slot AlreadyAcceptedError env.build with aborts | ⟨index, found, outside⟩
  · simp [ProposedChannel.accept, Op.bind_run, proposer, aborts]
  · simp [ProposedChannel.accept, Op.bind_run, proposer, found, store, outside]

theorem participant_accepted_run {channel : ProposedChannel env.Signer}
    {msg : LedgerChannelProposalAcc} (sameId : msg.proposalId = channel.proposal.proposalId)
    (fresh : channel.responses[0]? = some none) :
    ProposedChannel.participantAccepted env 1 msg channel =
      (.ok (), { channel with responses := #v[some msg] }) := by
  have only : channel.responses.setIfInBounds 0 (some msg) = #v[some msg] := by
    apply vector_ext
    simp [vector_one, Vector.get_eq_getElem]
  have free : channel.responses[0] = none := by simpa using fresh
  simp [ProposedChannel.participantAccepted, Op.bind_run, Build.sub, sameId, Outcome.index, free,
    store, only]

/-- The only slot is that of the responder, and it is written once. -/
theorem answer_run (channel : ProposedChannel env.Signer) (msg : LedgerChannelProposalAcc) :
    ProposedChannel.participantAccepted env 1 msg channel =
      if msg.proposalId ≠ channel.proposal.proposalId then (.err .invalidProposalID, channel)
      else match channel.responses.get 0 with
        | some _ => (.err .alreadyAccepted, channel)
        | none => (.ok (), { channel with responses := #v[some msg] }) := by
  by_cases sameId : msg.proposalId = channel.proposal.proposalId
  · rw [if_neg (not_not.mpr sameId)]
    have slot : channel.responses[0]? = some (channel.responses.get 0) := rfl
    cases held : channel.responses.get 0 with
    | none => rw [participant_accepted_run sameId (slot.trans (congrArg some held))]
    | some acc =>
        have taken : channel.responses[0] = some acc := held
        simp [ProposedChannel.participantAccepted, Op.bind_run, Build.sub, sameId, Outcome.index,
          taken]
  · simp [ProposedChannel.participantAccepted, Op.bind_run, sameId]

/-- The parameters that follow from a proposal and its answer. -/
def agreedParams (env : Env) (proposal : LedgerChannelProposal) (res : LedgerChannelProposalAcc) :
    Params 2 :=
  { challengeDuration := proposal.challengeDuration
    nonce := combineNonces env proposal.nonceShare res.nonceShare
    participants := #v[proposal.participant, res.participant]
    app := Address.zero
    ledgerChannel := true
    virtualChannel := false }

def agreedState (env : Env) (proposal : LedgerChannelProposal) (res : LedgerChannelProposalAcc) :
    State 1 2 :=
  ⟨paramsHash env (agreedParams env proposal res), 0, proposal.initBals, false⟩

theorem proposed_build_ok {channel : ProposedChannel env.Signer}
    {agreed : AgreedUponChannel env.Signer} :
    channel.build env = .ok agreed ↔ ∃ res, channel.responses[0]? = some (some res) ∧
      agreed = ⟨channel.partIdx, channel.withdrawReceiver, channel.client,
        channel.proposal.fundingAgreement, agreedState env channel.proposal res,
        agreedParams env channel.proposal res, Vector.replicate 2 none, channel.proposal.peers⟩ := by
  unfold ProposedChannel.build
  cases held : channel.responses[0] with
  | none => simp [held]
  | some res => simp [held, initial_state, agreedState, agreedParams, eq_comm (a := agreed)]

theorem sign_ok {channel : AgreedUponChannel env.Signer} {bus : Bus}
    {after : AgreedUponChannel env.Signer × Bus} :
    AgreedUponChannel.sign env (channel, bus) = (.ok (), after) ↔
      channel.signatures[channel.partIdx]? = some none ∧
      ∃ sig sender, env.signEth channel.client.signer (stateHash env channel.initState) = some sig ∧
        channel.peers[channel.partIdx]? = some sender ∧
        after = ({ channel with
            signatures := channel.signatures.setIfInBounds channel.partIdx (some sig) },
          bus ++ broadcast channel.partIdx sender channel.peers
            (.channelUpdateAccepted ⟨channel.initState.id, channel.initState.version, sig⟩)) := by
  unfold AgreedUponChannel.sign
  simp only [Op.bind_run, Op.get_run, Op.lift_run]
  cases found : channel.signatures[channel.partIdx]? with
  | none => simp [Outcome.index, found]
  | some slot =>
      cases slot with
      | some sig => simp [Outcome.index, found]
      | none =>
          have bound : channel.partIdx < 2 := (Vector.getElem?_eq_some_iff.mp found).1
          cases signed : env.signEth channel.client.signer (stateHash env channel.initState) with
          | none => simp [Outcome.index, found, Op.bind_run, hash_state, signHash, signed]
          | some sig =>
              have stored (ε : Type) := @store_of_lt ε _ _ channel.signatures _ (some sig) bound
              cases peer : channel.peers[channel.partIdx]? <;>
                simp [Outcome.index, found, Op.bind_run, hash_state, signHash, signed, stored,
                  broadcast_run, peer, eq_comm (a := after)]

/-- Signing only fails where the own signature is there already. -/
theorem sign_err {channel : AgreedUponChannel env.Signer} {bus : Bus} {error : SignError}
    {after : AgreedUponChannel env.Signer × Bus}
    (failed : AgreedUponChannel.sign env (channel, bus) = (.err error, after)) :
    ∃ sig, channel.signatures[channel.partIdx]? = some (some sig) := by
  unfold AgreedUponChannel.sign at failed
  simp only [Op.bind_run, Op.get_run, Op.lift_run] at failed
  cases found : channel.signatures[channel.partIdx]? with
  | none => simp [Outcome.index, found] at failed
  | some slot =>
      cases slot with
      | some sig => exact ⟨sig, rfl⟩
      | none =>
          have bound : channel.partIdx < 2 := (Vector.getElem?_eq_some_iff.mp found).1
          cases signed : env.signEth channel.client.signer (stateHash env channel.initState) with
          | none =>
              simp [Outcome.index, found, Op.bind_run, hash_state, signHash, signed] at failed
          | some sig =>
              cases peer : channel.peers[channel.partIdx]? <;>
                simp [Outcome.index, found, Op.bind_run, hash_state, signHash, signed,
                  store_of_lt _ _ bound, broadcast_run, peer] at failed

theorem add_signature_ok {channel after : AgreedUponChannel env.Signer}
    {msg : LedgerChannelUpdateAccepted} :
    AgreedUponChannel.addSignature env msg channel = (.ok (), after) ↔
      msg.channel = channel.initState.id ∧ msg.version = 0 ∧
      ∃ signer partIdx, env.recoverSigner (stateHash env channel.initState) msg.sig = .ok signer ∧
        channel.params.participants.toList.findIdx? (fun part => part == signer) = some partIdx ∧
        channel.signatures[partIdx]? = some none ∧
        after = { channel with
          signatures := channel.signatures.setIfInBounds partIdx (some msg.sig) } := by
  unfold AgreedUponChannel.addSignature
  simp only [Op.bind_run, Op.get_run]
  by_cases id : msg.channel = channel.initState.id
  · by_cases version : msg.version = 0
    · rw [if_neg (not_not.mpr id), if_neg (not_not.mpr version)]
      simp only [id, version, Op.bind_run, Op.lift_run, hash_state, Outcome.mapErr_ok]
      cases env.recoverSigner (stateHash env channel.initState) msg.sig with
      | err error => simp
      | panic => simp
      | ok signer =>
          cases part : channel.params.participants.toList.findIdx? (fun part => part == signer) with
          | none => simp [part]
          | some partIdx =>
              cases slot : channel.signatures[partIdx]? with
              | none => simp [Outcome.index, part, slot]
              | some held =>
                  have bound : partIdx < 2 := (Vector.getElem?_eq_some_iff.mp slot).1
                  have stored (ε : Type) :=
                    @store_of_lt ε _ _ channel.signatures _ (some msg.sig) bound
                  cases held <;>
                    simp [Outcome.index, part, slot, Op.bind_run, stored, eq_comm (a := after)]
    · rw [if_neg (not_not.mpr id), if_pos version]
      simp only [Op.fail_run, Prod.mk.injEq, reduceCtorEq, false_and, version, and_false]
  · simp [id]

theorem agreed_build_ok {channel : AgreedUponChannel env.Signer} {bus after : Bus}
    {signed : SignedChannel env.Signer} :
    channel.build env bus = (.ok signed, after) ↔
      (env.debugAssertions = true → channel.partIdx < 2) ∧
      ∃ signatures, collectSignatures channel.signatures = .ok signatures ∧
        signed = ⟨channel.partIdx, channel.withdrawReceiver, channel.client, channel.initState,
          channel.params, signatures, channel.peers⟩ ∧
        after = bus ++
          [.toWatcher (.watchRequest ⟨channel.params, channel.initState, signatures⟩),
            .toFunder (.fundReq ⟨channel.partIdx, channel.fundingAgreement, channel.params,
              channel.initState⟩)] := by
  unfold AgreedUponChannel.build
  simp only [Op.bind_run, Op.lift_run]
  cases collectSignatures channel.signatures with
  | err error => simp
  | panic => simp
  | ok signatures =>
      simp only [Outcome.mapErr_ok, send_run, ActiveChannel.create]
      by_cases asserted : env.debugAssertions = true → channel.partIdx < 2
      · rw [if_neg (by tauto)]
        simp [eq_comm (a := signed), eq_comm (a := after)]
        intro _ _
        simpa [Nat.lt_succ_iff] using asserted
      · rw [if_pos (by tauto)]
        simp only [Prod.mk.injEq, reduceCtorEq, false_and, asserted]

/-! A method that returns an error has changed and sent nothing. -/

theorem propose_channel_atomic (client : PerunClient env.Signer) (prop : LedgerChannelProposal)
    (receiver : Address) : Op.Atomic (proposeChannel env client prop receiver) := by
  refine Op.atomic_bind (Op.reads_lift _) fun _ => Op.atomic_of_infallible ?_
  exact Op.infallible_bind (broadcast_infallible _ _ _) fun _ bus error => by simp

theorem answer_atomic (partIdx : PartIdx) (msg : LedgerChannelProposalAcc) :
    Op.Atomic (ProposedChannel.participantAccepted env partIdx msg) := by
  refine Op.atomic_bind Op.reads_get fun channel => ?_
  split
  · exact Op.atomic_of_reads (Op.reads_fail _)
  · refine Op.atomic_bind (Op.reads_lift _) fun index =>
      Op.atomic_bind (Op.reads_lift _) fun response => ?_
    cases response with
    | some acc => exact Op.atomic_of_reads (Op.reads_fail _)
    | none =>
        exact Op.atomic_bind (Op.reads_lift _) fun responses =>
          Op.atomic_of_infallible (Op.infallible_modify _)

theorem sign_atomic : Op.Atomic (AgreedUponChannel.sign env) := by
  refine Op.atomic_bind Op.reads_get fun before => Op.atomic_bind (Op.reads_lift _) fun slot => ?_
  cases slot with
  | some sig => exact Op.atomic_of_reads (Op.reads_fail _)
  | none =>
      refine Op.atomic_bind (Op.reads_lift _) fun hash => Op.atomic_bind (Op.reads_lift _) fun sig =>
        Op.atomic_bind (Op.reads_lift _) fun signatures => Op.atomic_of_infallible ?_
      exact Op.infallible_bind (Op.infallible_modify _) fun _ =>
        on_bus_infallible (broadcast_infallible _ _ _)

theorem add_signature_atomic (msg : LedgerChannelUpdateAccepted) :
    Op.Atomic (AgreedUponChannel.addSignature env msg) := by
  refine Op.atomic_bind Op.reads_get fun channel => ?_
  split
  · exact Op.atomic_of_reads (Op.reads_fail _)
  · split
    · exact Op.atomic_of_reads (Op.reads_fail _)
    · refine Op.atomic_bind (Op.reads_lift _) fun hash => Op.atomic_bind (Op.reads_lift _) fun
        signer => Op.atomic_bind (Op.reads_lift _) fun partIdx =>
          Op.atomic_bind (Op.reads_lift _) fun slot => ?_
      cases slot with
      | some sig => exact Op.atomic_of_reads (Op.reads_fail _)
      | none =>
          exact Op.atomic_bind (Op.reads_lift _) fun signatures =>
            Op.atomic_of_infallible (Op.infallible_modify _)

/-- What a failed build hands back is the channel that was to be built. -/
theorem proposed_build_back {channel back : ProposedChannel env.Signer} {error : ProposalBuildError}
    (failed : channel.build env = .err (back, error)) : back = channel := by
  unfold ProposedChannel.build at failed
  cases held : channel.responses[0] with
  | none =>
      simp only [held, Outcome.err.injEq, Prod.mk.injEq] at failed
      exact failed.1.symm
  | some res => simp [held, initial_state] at failed

theorem agreed_build_back {channel back : AgreedUponChannel env.Signer} {error : BuildError}
    {bus after : Bus} (failed : channel.build env bus = (.err (back, error), after)) :
    back = channel := by
  unfold AgreedUponChannel.build at failed
  simp only [Op.bind_run, Op.lift_run] at failed
  cases collected : collectSignatures channel.signatures with
  | err position =>
      rw [collected] at failed
      cases failed
      rfl
  | panic =>
      rw [collected] at failed
      cases failed
  | ok signatures =>
      rw [collected] at failed
      simp only [Outcome.mapErr_ok, send_run, ActiveChannel.create] at failed
      by_cases asserted : env.debugAssertions = true ∧ ¬channel.partIdx < 2
      · rw [if_pos asserted] at failed
        cases failed
      · rw [if_neg asserted] at failed
        cases failed

theorem agreed_build_atomic (channel : AgreedUponChannel env.Signer) :
    Op.Atomic (channel.build env) := by
  refine Op.atomic_bind (Op.reads_lift _) fun signatures => Op.atomic_of_infallible ?_
  intro bus error
  simp only [Op.bind_run, send_run, Op.lift_run, ActiveChannel.create]
  by_cases asserted : env.debugAssertions = true ∧ ¬channel.partIdx < 2
  · simp only [if_pos asserted, ne_eq, reduceCtorEq, not_false_eq_true]
  · simp only [if_neg asserted, Op.pure_run, ne_eq, reduceCtorEq, not_false_eq_true]

/-- What a failed call leaves behind: the object it was called on, handed back or
borrowed, and the bus where the method has one. A method without the bus in its state
cannot send. -/
structure LibraryAtomic (env : Env) : Prop where
  proposeChannel : ∀ client prop receiver, Op.Atomic (proposeChannel env client prop receiver)
  proposalAccepted : ∀ partIdx msg,
    Op.Atomic (ProposedChannel.participantAccepted env partIdx msg)
  proposedBuild : ∀ (channel back : ProposedChannel env.Signer) error,
    channel.build env = .err (back, error) → back = channel
  sign : Op.Atomic (AgreedUponChannel.sign env)
  addSignature : ∀ msg, Op.Atomic (AgreedUponChannel.addSignature env msg)
  agreedBuild : ∀ (channel back : AgreedUponChannel env.Signer) error bus after,
    channel.build env bus = (.err (back, error), after) → back = channel ∧ after = bus
  update : ∀ channel newState, Op.Atomic (ActiveChannel.update env channel newState)
  handleUpdate : ∀ msg,
    Op.Atomic (Op.inspect fun channel => ActiveChannel.handleUpdate env channel msg)
  closeNormal : ∀ channel, Op.Atomic (ActiveChannel.closeNormal env channel)
  accept : ∀ channel, Op.Atomic (ChannelUpdate.accept env channel)
  participantAccepted : ∀ channel partIdx msg,
    Op.Atomic (ChannelUpdate.participantAccepted env channel partIdx msg)
  reject : ∀ update channel reason, Op.Atomic (ChannelUpdate.reject env update channel reason)
  apply : ∀ update, Op.Atomic (ChannelUpdate.apply env update)

/-- No call of the library that returns an error has changed or sent anything, in
whatever state it is made and with whatever arguments. -/
theorem library_calls_atomic (env : Env) : LibraryAtomic env where
  proposeChannel := propose_channel_atomic
  proposalAccepted := answer_atomic
  proposedBuild _ _ _ := proposed_build_back
  sign := sign_atomic
  addSignature := add_signature_atomic
  agreedBuild channel _ _ _ _ failed :=
    ⟨agreed_build_back failed, agreed_build_atomic channel _ _ _ failed⟩
  update := update_atomic
  handleUpdate _ := Op.atomic_of_reads (Op.reads_inspect _)
  closeNormal := close_normal_atomic
  accept := accept_atomic
  participantAccepted := participant_accepted_atomic
  reject := reject_atomic
  apply := apply_atomic

end Specs

/-! A proposal, its answer and a payment that closes the channel, in the plain
environment. -/
section Plain

def plainProposal : LedgerChannelProposal where
  proposalId := ⟨Vector.replicate 32 7⟩
  challengeDuration := 25
  nonceShare := ⟨Vector.replicate 32 1⟩
  initBals := ⟨#v[⟨⟨Vector.replicate 20 9⟩⟩], #v[#v[5, 6]]⟩
  fundingAgreement := #v[#v[5, 6]]
  participant := ⟨Vector.replicate 20 1⟩
  peers := [[1], [2]]

def plainAnswer : LedgerChannelProposalAcc where
  proposalId := plainProposal.proposalId
  nonceShare := ⟨Vector.replicate 32 2⟩
  participant := ⟨Vector.replicate 20 2⟩

def plainPayment : State 1 2 :=
  { agreedState plainEnv plainProposal plainAnswer with
    version := 1
    outcome.balances := #v[#v[4, 7]]
    isFinal := true }

theorem plain_payment : ValidTransition plainEnv
    (agreedState plainEnv plainProposal plainAnswer) plainPayment where
  sameId := rfl
  notFinal := rfl
  version := ⟨rfl, fun _ => by decide⟩
  assets := rfl
  totals := ⟨[11], by decide, by decide⟩

end Plain

end Perun.Opening
