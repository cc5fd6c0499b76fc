import Perun.MessageBus

/-! Active channels and the updates proposed for them (`channel/active.rs`,
`channel/channel_update.rs`, `channel/signed.rs`). An update is a value of its own
beside the channel: any number of them can be pending, and each method compares
the update with the channel it is given. -/
namespace Perun.Active
open AbiTypes Payment Messages MessageBus

inductive SignError where
  | abiEncodeError (error : Ser.Error)
  | alreadySigned

inductive InvalidUpdate where
  | invalidChannelID
  | invalidVersionNumber
  | currentStateIsFinal
  | assetsMismatch
  | totalAllocationAmountMismatch
  deriving DecidableEq

inductive ProposeUpdateError where
  | abiEncodeError (error : Ser.Error)
  | invalidUpdate (error : InvalidUpdate)

inductive HandleUpdateError (SigError : Type) where
  | abiEncodeError (error : Ser.Error)
  | recoveryFailed (error : SigError)
  | invalidSignature (signer : Address)
  | invalidUpdate (error : InvalidUpdate)

inductive InvalidChannel where
  | wrongVersion
  | wrongChannelId
  deriving DecidableEq

inductive AcceptError where
  | abiEncodeError (error : Ser.Error)
  | alreadyAccepted
  | wrongVersion
  | wrongChannelId

def AcceptError.ofInvalidChannel : InvalidChannel → AcceptError
  | .wrongVersion => .wrongVersion
  | .wrongChannelId => .wrongChannelId

inductive AddSignatureError (SigError : Type) where
  | abiEncodeError (error : Ser.Error)
  | recoveryFailed (error : SigError)
  | alreadySigned
  | invalidSignature (signer : Address)
  | invalidChannelID
  | invalidVersionNumber
  | wrongVersion
  | wrongChannelId

def AddSignatureError.ofInvalidChannel {SigError : Type} :
    InvalidChannel → AddSignatureError SigError
  | .wrongVersion => .wrongVersion
  | .wrongChannelId => .wrongChannelId

inductive ApplyError where
  | missingSignature (partIdx : PartIdx)
  | signError (error : SignError)
  | wrongVersion
  | wrongChannelId

def ApplyError.ofInvalidChannel : InvalidChannel → ApplyError
  | .wrongVersion => .wrongVersion
  | .wrongChannelId => .wrongChannelId

structure ActiveChannel (Signer : Type) where
  partIdx : PartIdx
  withdrawReceiver : Address
  client : PerunClient Signer
  state : State 1 2
  params : Params 2
  signatures : Vector Signature 2
  peers : Peers

structure ChannelUpdate where
  channelId : Hash
  newState : State 1 2
  signatures : Vector (Option Signature) 2

/-- The loop that collects all signatures, or the index of the first missing one. -/
def collectSignatures (slots : Vector (Option Signature) 2) : Outcome PartIdx (Vector Signature 2) :=
  match getElem slots 0 Nat.zero_lt_two, getElem slots 1 Nat.one_lt_two with
  | some first, some second => .ok #v[first, second]
  | none, _ => .err 0
  | some _, none => .err 1

section Methods
variable (env : Env) {ε : Type}

def hashState (state : State 1 2) : Outcome Ser.Error Hash :=
  toHash env.build env.keccak256 state.abi.toValue

def signHash (client : PerunClient env.Signer) (hash : Hash) : Outcome ε Signature :=
  Outcome.unwrap (env.signEth client.signer hash)

/-- `ChannelUpdate::new`. -/
def ChannelUpdate.create {Signer : Type} (channel : ActiveChannel Signer) (newState : State 1 2)
    (sigPartIdx : PartIdx) (sig : Signature) : Outcome ε ChannelUpdate := do
  let signatures ← store (Vector.replicate 2 none) sigPartIdx (some sig)
  .ok ⟨channel.state.id, newState, signatures⟩

namespace ActiveChannel

/-- `ActiveChannel::new`. -/
def create (client : PerunClient env.Signer) (partIdx : PartIdx) (withdrawReceiver : Address)
    (initState : State 1 2) (params : Params 2) (signatures : Vector Signature 2) (peers : Peers) :
    Outcome ε (ActiveChannel env.Signer) :=
  if env.debugAssertions ∧ ¬partIdx < 2 then .panic
  else .ok ⟨partIdx, withdrawReceiver, client, initState, params, signatures, peers⟩

variable (channel : ActiveChannel env.Signer)

def checkValidTransition (newState : State 1 2) : Outcome InvalidUpdate Unit := do
  newState.outcome.debugAssertValid env.debugAssertions
  if newState.id ≠ channel.state.id then .err .invalidChannelID
  else if channel.state.isFinal then .err .currentStateIsFinal
  else do
    let next ← env.build.addU64 channel.state.version 1
    if newState.version ≠ next then .err .invalidVersionNumber
    else if newState.outcome.assets ≠ channel.state.outcome.assets then .err .assetsMismatch
    else do
      let new ← newState.outcome.totalAssets
      let old ← channel.state.outcome.totalAssets
      if new ≠ old then .err .totalAllocationAmountMismatch else .ok ()

def update (newState : State 1 2) : Op ProposeUpdateError Bus ChannelUpdate := do
  Op.lift ((channel.checkValidTransition env newState).mapErr .invalidUpdate)
  let hash ← Op.lift ((hashState env newState).mapErr .abiEncodeError)
  let sig ← Op.lift (signHash env channel.client hash)
  -- The proposal is out before the update that stands for it exists.
  broadcastToParticipants channel.partIdx channel.peers
    (.channelUpdate ⟨newState, channel.partIdx, sig⟩)
  Op.lift (ChannelUpdate.create channel newState channel.partIdx sig)

def handleUpdate (msg : LedgerChannelUpdate) :
    Outcome (HandleUpdateError env.SigError) ChannelUpdate := do
  (channel.checkValidTransition env msg.state).mapErr .invalidUpdate
  let hash ← (hashState env msg.state).mapErr .abiEncodeError
  let signer ← (env.recoverSigner hash msg.sig).mapErr .recoveryFailed
  -- The index is the sender's word. It may be the own one, or outside the array.
  let participant ← Outcome.index channel.params.participants msg.actorIdx
  if participant ≠ signer then .err (.invalidSignature signer)
  else ChannelUpdate.create channel msg.state msg.actorIdx msg.sig

def watchInfo {Signer : Type} (channel : ActiveChannel Signer) : StartWatchingLedgerChannelReq :=
  ⟨channel.params, channel.state, channel.signatures⟩

def sendCurrentStateToWatcher {Signer : Type} (channel : ActiveChannel Signer) :
    Op SignError Bus Unit :=
  send (.toWatcher (.watchRequest channel.watchInfo))

/-- An error of the watcher step restores the state and the signatures. -/
def forceUpdate {Signer : Type} (newState : State 1 2) (signatures : Vector Signature 2) :
    Op SignError (ActiveChannel Signer × Bus) Unit := fun (old, bus) =>
  let updated := { old with state := newState, signatures := signatures }
  match updated.sendCurrentStateToWatcher bus with
  | (.ok _, bus) => (.ok (), (updated, bus))
  | (.err error, bus) =>
      (.err error, ({ updated with state := old.state, signatures := old.signatures }, bus))
  | (.panic, bus) => (.panic, (updated, bus))

def closeNormal : Op ProposeUpdateError Bus ChannelUpdate := do
  let newState ← Op.lift (channel.state.makeNextState env.build)
  channel.update env { newState with isFinal := true }

def adjudicatorReq {Signer : Type} (channel : ActiveChannel Signer) : AdjudicatorReq :=
  { params := channel.params
    acc := channel.withdrawReceiver
    tx := ⟨channel.state, channel.signatures⟩
    idx := channel.partIdx
    secondary := false }

def forceClose {Signer : Type} (channel : ActiveChannel Signer) :
    Op SignError Bus (ActiveChannel Signer) := do
  send (.toFunder (.registerReq ⟨channel.adjudicatorReq⟩))
  pure channel

def withdraw {Signer : Type} (channel : ActiveChannel Signer) :
    Op SignError Bus (ActiveChannel Signer) := do
  send (.toFunder (.withdrawReq ⟨channel.adjudicatorReq⟩))
  pure channel

end ActiveChannel

namespace ChannelUpdate

-- The transition is not checked again: only the version and the id are compared.
def ensureValidChannel (update : ChannelUpdate) (channel : ActiveChannel env.Signer) :
    Outcome InvalidChannel Unit := do
  let next ← env.build.addU64 channel.state.version 1
  if update.newState.version ≠ next then .err .wrongVersion
  else if update.channelId ≠ channel.state.id then .err .wrongChannelId
  else .ok ()

def accept (channel : ActiveChannel env.Signer) : Op AcceptError (ChannelUpdate × Bus) Unit := do
  let (update, _) ← Op.get
  Op.lift ((update.ensureValidChannel env channel).mapErr .ofInvalidChannel)
  match ← Op.lift (Outcome.index update.signatures channel.partIdx) with
  | some _ => Op.fail .alreadyAccepted
  | none => do
      let hash ← Op.lift ((hashState env update.newState).mapErr .abiEncodeError)
      let sig ← Op.lift (signHash env channel.client hash)
      let signatures ← Op.lift (store update.signatures channel.partIdx (some sig))
      Op.modify fun (update, bus) => ({ update with signatures := signatures }, bus)
      onBus (broadcastToParticipants channel.partIdx channel.peers
        (.channelUpdateAccepted ⟨update.channelId, update.newState.version, sig⟩))

def reject (update : ChannelUpdate) (channel : ActiveChannel env.Signer) (reason : String) :
    Op InvalidChannel Bus Unit := do
  Op.lift (update.ensureValidChannel env channel)
  broadcastToParticipants channel.partIdx channel.peers
    (.channelUpdateRejected update.channelId update.newState.version reason)

def participantAccepted (channel : ActiveChannel env.Signer) (partIdx : PartIdx)
    (msg : LedgerChannelUpdateAccepted) : Op (AddSignatureError env.SigError) ChannelUpdate Unit := do
  let update ← Op.get
  Op.lift ((update.ensureValidChannel env channel).mapErr .ofInvalidChannel)
  if msg.channel ≠ update.channelId then Op.fail .invalidChannelID
  else if msg.version ≠ update.newState.version then Op.fail .invalidVersionNumber
  else do
    let hash ← Op.lift ((hashState env update.newState).mapErr .abiEncodeError)
    let signer ← Op.lift ((env.recoverSigner hash msg.sig).mapErr .recoveryFailed)
    let participant ← Op.lift (Outcome.index channel.params.participants partIdx)
    if participant ≠ signer then Op.fail (.invalidSignature signer)
    else match ← Op.lift (Outcome.index update.signatures partIdx) with
      | some _ => Op.fail .alreadySigned
      | none => do
          let signatures ← Op.lift (store update.signatures partIdx (some msg.sig))
          Op.modify fun update => { update with signatures := signatures }

def apply (update : ChannelUpdate) : Op ApplyError (ActiveChannel env.Signer × Bus) Unit := do
  let (channel, _) ← Op.get
  Op.lift ((update.ensureValidChannel env channel).mapErr .ofInvalidChannel)
  let signatures ← Op.lift ((collectSignatures update.signatures).mapErr .missingSignature)
  Op.mapErr .signError (ActiveChannel.forceUpdate update.newState signatures)

end ChannelUpdate
end Methods

/-! What each method returns and leaves behind. -/
section Specs
variable {env : Env} {ε : Type}

def stateHash (env : Env) (state : State 1 2) : Hash := state.hash env.build env.keccak256

theorem hash_state (state : State 1 2) : hashState env state = .ok (stateHash env state) :=
  to_hash_state env.build env.keccak256 state

/-- The version after the given one, where a build with overflow checks has one. -/
def NextVersion (env : Env) (old new : BitVec 64) : Prop :=
  new = old + 1 ∧ (env.build.overflowChecks = true → old.toNat + 1 < 2 ^ 64)

theorem next_version_iff {old new : BitVec 64} :
    (env.build.addU64 old 1 : Outcome ε (BitVec 64)) = .ok new ↔ NextVersion env old new :=
  Build.add_u64_iff

structure ValidTransition (env : Env) (old new : State 1 2) : Prop where
  sameId : new.id = old.id
  notFinal : old.isFinal = false
  version : NextVersion env old.version new.version
  assets : new.outcome.assets = old.outcome.assets
  totals : ∃ totals, (new.outcome.totalAssets : Outcome InvalidUpdate (List U256)) = .ok totals ∧
    (old.outcome.totalAssets : Outcome InvalidUpdate (List U256)) = .ok totals

theorem check_valid_transition_iff {channel : ActiveChannel env.Signer} {newState : State 1 2} :
    channel.checkValidTransition env newState = .ok () ↔
      ValidTransition env channel.state newState := by
  constructor
  · intro checked
    simp only [ActiveChannel.checkValidTransition, debug_assert_valid, Outcome.ok_bind] at checked
    split at checked
    · cases checked
    · rename_i sameId
      split at checked
      · cases checked
      · rename_i notFinal
        obtain ⟨next, added, checked⟩ := Outcome.bind_eq_ok.mp checked
        split at checked
        · cases checked
        · rename_i version
          split at checked
          · cases checked
          · rename_i assets
            obtain ⟨new, newTotals, checked⟩ := Outcome.bind_eq_ok.mp checked
            obtain ⟨old, oldTotals, checked⟩ := Outcome.bind_eq_ok.mp checked
            split at checked
            · cases checked
            · rename_i totals
              rw [not_not] at sameId version assets totals
              subst totals
              exact ⟨sameId, by simpa using notFinal, version ▸ next_version_iff.mp added, assets,
                new, newTotals, oldTotals⟩
  · rintro ⟨sameId, notFinal, version, assets, totals, newTotals, oldTotals⟩
    have added := (@next_version_iff env InvalidUpdate _ _).mpr version
    simp only [ActiveChannel.checkValidTransition, debug_assert_valid, Outcome.ok_bind, sameId,
      notFinal, added, assets, newTotals, oldTotals, ne_eq, not_true_eq_false, Bool.false_eq_true,
      ↓reduceIte]

theorem create_eq {channel : ActiveChannel env.Signer} {newState : State 1 2} {idx : PartIdx}
    {sig : Signature} {u : ChannelUpdate} :
    (ChannelUpdate.create channel newState idx sig : Outcome ε ChannelUpdate) = .ok u ↔
      idx < 2 ∧ u = ⟨channel.state.id, newState,
        (Vector.replicate 2 none).setIfInBounds idx (some sig)⟩ := by
  unfold ChannelUpdate.create store
  split <;> simp_all [eq_comm]

theorem update_ok {channel : ActiveChannel env.Signer} {newState : State 1 2} {bus after : Bus}
    {u : ChannelUpdate} :
    channel.update env newState bus = (.ok u, after) ↔
      ValidTransition env channel.state newState ∧ channel.partIdx < 2 ∧
      ∃ sig sender, env.signEth channel.client.signer (stateHash env newState) = some sig ∧
        channel.peers[channel.partIdx]? = some sender ∧
        u = ⟨channel.state.id, newState,
          (Vector.replicate 2 none).setIfInBounds channel.partIdx (some sig)⟩ ∧
        after = bus ++ broadcast channel.partIdx sender channel.peers
          (.channelUpdate ⟨newState, channel.partIdx, sig⟩) := by
  rw [← check_valid_transition_iff]
  unfold ActiveChannel.update
  simp only [Op.bind_run, Op.lift_run, hash_state, Outcome.mapErr_ok, broadcast_run, signHash]
  cases channel.checkValidTransition env newState with
  | err error => simp
  | panic => simp
  | ok _ =>
      cases env.signEth channel.client.signer (stateHash env newState) with
      | none => simp
      | some sig =>
          cases channel.peers[channel.partIdx]? with
          | none => simp
          | some sender => simp [create_eq, and_assoc, eq_comm (a := after)]

theorem handle_update_ok {channel : ActiveChannel env.Signer} {msg : LedgerChannelUpdate}
    {u : ChannelUpdate} :
    channel.handleUpdate env msg = .ok u ↔
      ValidTransition env channel.state msg.state ∧ msg.actorIdx < 2 ∧
      ∃ signer, env.recoverSigner (stateHash env msg.state) msg.sig = .ok signer ∧
        channel.params.participants[msg.actorIdx]? = some signer ∧
        u = ⟨channel.state.id, msg.state,
          (Vector.replicate 2 none).setIfInBounds msg.actorIdx (some msg.sig)⟩ := by
  rw [← check_valid_transition_iff]
  unfold ActiveChannel.handleUpdate
  simp only [hash_state, Outcome.mapErr_ok, Outcome.ok_bind]
  cases channel.checkValidTransition env msg.state with
  | err error => simp
  | panic => simp
  | ok _ =>
      cases env.recoverSigner (stateHash env msg.state) msg.sig with
      | err error => simp
      | panic => simp
      | ok signer =>
          cases found : channel.params.participants[msg.actorIdx]? with
          | none => simp [Outcome.index, found]
          | some participant =>
              by_cases same : participant = signer
              · simp [Outcome.index, found, same, create_eq]
              · simp [Outcome.index, found, same]

/-- The update is for the next version of this channel. -/
def Matches (env : Env) (update : ChannelUpdate) (channel : ActiveChannel env.Signer) : Prop :=
  NextVersion env channel.state.version update.newState.version ∧
    update.channelId = channel.state.id

theorem ensure_valid_channel_iff {update : ChannelUpdate} {channel : ActiveChannel env.Signer} :
    update.ensureValidChannel env channel = .ok () ↔ Matches env update channel := by
  unfold ChannelUpdate.ensureValidChannel Matches
  rw [Outcome.bind_eq_ok]
  constructor
  · rintro ⟨next, added, checked⟩
    split at checked
    · cases checked
    · rename_i version
      split at checked
      · cases checked
      · rename_i id
        rw [not_not] at version id
        exact ⟨version ▸ next_version_iff.mp added, id⟩
  · rintro ⟨version, id⟩
    exact ⟨_, next_version_iff.mpr version, by simp [id]⟩

theorem accept_ok {update : ChannelUpdate} {channel : ActiveChannel env.Signer} {bus : Bus}
    {after : ChannelUpdate × Bus} :
    ChannelUpdate.accept env channel (update, bus) = (.ok (), after) ↔
      Matches env update channel ∧ update.signatures[channel.partIdx]? = some none ∧
      ∃ sig sender, env.signEth channel.client.signer (stateHash env update.newState) = some sig ∧
        channel.peers[channel.partIdx]? = some sender ∧
        after = ({ update with
            signatures := update.signatures.setIfInBounds channel.partIdx (some sig) },
          bus ++ broadcast channel.partIdx sender channel.peers
            (.channelUpdateAccepted ⟨update.channelId, update.newState.version, sig⟩)) := by
  rw [← ensure_valid_channel_iff]
  unfold ChannelUpdate.accept
  simp only [Op.bind_run, Op.get_run, Op.lift_run]
  cases update.ensureValidChannel env channel with
  | err error => simp
  | panic => simp
  | ok _ =>
      cases found : update.signatures[channel.partIdx]? with
      | none => simp [Outcome.index, found]
      | some slot =>
          cases slot with
          | some sig => simp [Outcome.index, found]
          | none =>
              have bound : channel.partIdx < 2 := (Vector.getElem?_eq_some_iff.mp found).1
              cases signed : env.signEth channel.client.signer (stateHash env update.newState) with
              | none => simp [Outcome.index, found, Op.bind_run, hash_state, signHash, signed]
              | some sig =>
                  have stored (ε : Type) := @store_of_lt ε _ _ update.signatures _ (some sig) bound
                  cases peer : channel.peers[channel.partIdx]? <;>
                    simp [Outcome.index, found, Op.bind_run, hash_state, signHash, signed, stored,
                      broadcast_run, peer, eq_comm (a := after)]

theorem participant_accepted_ok {update after : ChannelUpdate} {channel : ActiveChannel env.Signer}
    {partIdx : PartIdx} {msg : LedgerChannelUpdateAccepted} :
    ChannelUpdate.participantAccepted env channel partIdx msg update = (.ok (), after) ↔
      Matches env update channel ∧ msg.channel = update.channelId ∧
      msg.version = update.newState.version ∧ update.signatures[partIdx]? = some none ∧
      (∃ signer, env.recoverSigner (stateHash env update.newState) msg.sig = .ok signer ∧
        channel.params.participants[partIdx]? = some signer) ∧
      after = { update with
        signatures := update.signatures.setIfInBounds partIdx (some msg.sig) } := by
  rw [← ensure_valid_channel_iff]
  unfold ChannelUpdate.participantAccepted
  simp only [Op.bind_run, Op.get_run, Op.lift_run]
  cases update.ensureValidChannel env channel with
  | err error => simp
  | panic => simp
  | ok _ =>
      by_cases id : msg.channel = update.channelId
      · by_cases version : msg.version = update.newState.version
        · simp only [Outcome.mapErr_ok, id, version, ne_eq, not_true_eq_false, ↓reduceIte,
            Op.bind_run, Op.lift_run, hash_state, true_and]
          cases env.recoverSigner (stateHash env update.newState) msg.sig with
          | err error => simp
          | panic => simp
          | ok signer =>
              cases found : channel.params.participants[partIdx]? with
              | none => simp [Outcome.index, found]
              | some participant =>
                  by_cases same : participant = signer
                  · have bound : partIdx < 2 := (Vector.getElem?_eq_some_iff.mp found).1
                    have stored (ε : Type) :=
                      @store_of_lt ε _ _ update.signatures _ (some msg.sig) bound
                    cases slot : update.signatures[partIdx]? with
                    | none => simp [Outcome.index, found, same, slot, Op.bind_run]
                    | some held =>
                        cases held <;>
                          simp [Outcome.index, found, same, slot, Op.bind_run, stored,
                            eq_comm (a := after)]
                  · simp [Outcome.index, found, same]
        · simp [id, version]
      · simp [id]

theorem apply_ok {update : ChannelUpdate} {channel : ActiveChannel env.Signer} {bus : Bus}
    {after : ActiveChannel env.Signer × Bus} :
    update.apply env (channel, bus) = (.ok (), after) ↔
      Matches env update channel ∧
      ∃ signatures, collectSignatures update.signatures = .ok signatures ∧
        after = ({ channel with state := update.newState, signatures := signatures },
          bus ++ [.toWatcher (.watchRequest ⟨channel.params, update.newState, signatures⟩)]) := by
  rw [← ensure_valid_channel_iff]
  unfold ChannelUpdate.apply
  simp only [Op.bind_run, Op.get_run, Op.lift_run]
  cases update.ensureValidChannel env channel with
  | err error => simp
  | panic => simp
  | ok _ =>
      cases collectSignatures update.signatures <;>
        simp [ActiveChannel.forceUpdate, ActiveChannel.sendCurrentStateToWatcher,
          ActiveChannel.watchInfo, eq_comm (a := after)]

theorem reject_ok {update : ChannelUpdate} {channel : ActiveChannel env.Signer} {reason : String}
    {bus after : Bus} :
    update.reject env channel reason bus = (.ok (), after) ↔
      Matches env update channel ∧ ∃ sender, channel.peers[channel.partIdx]? = some sender ∧
        after = bus ++ broadcast channel.partIdx sender channel.peers
          (.channelUpdateRejected update.channelId update.newState.version reason) := by
  rw [← ensure_valid_channel_iff]
  unfold ChannelUpdate.reject
  simp only [Op.bind_run, Op.lift_run, broadcast_run]
  cases update.ensureValidChannel env channel with
  | err error => simp
  | panic => simp
  | ok _ => cases channel.peers[channel.partIdx]? <;> simp [eq_comm (a := after)]

/-! A method that returns an error has changed and sent nothing. -/

theorem update_atomic (channel : ActiveChannel env.Signer) (newState : State 1 2) :
    Op.Atomic (channel.update env newState) := by
  refine Op.atomic_bind (Op.reads_lift _) fun _ => Op.atomic_bind (Op.reads_lift _) fun hash =>
    Op.atomic_bind (Op.reads_lift _) fun sig => Op.atomic_of_infallible ?_
  refine Op.infallible_bind (broadcast_infallible _ _ _) fun _ bus error => ?_
  rw [Op.lift_run, ChannelUpdate.create, store]
  split <;> simp

theorem close_normal_atomic (channel : ActiveChannel env.Signer) :
    Op.Atomic (channel.closeNormal env) :=
  Op.atomic_bind (Op.reads_lift _) fun _ => update_atomic channel _

theorem accept_atomic (channel : ActiveChannel env.Signer) :
    Op.Atomic (ChannelUpdate.accept env channel) := by
  refine Op.atomic_bind Op.reads_get fun before => Op.atomic_bind (Op.reads_lift _) fun _ =>
    Op.atomic_bind (Op.reads_lift _) fun slot => ?_
  cases slot with
  | some sig => exact Op.atomic_of_reads (Op.reads_fail _)
  | none =>
      refine Op.atomic_bind (Op.reads_lift _) fun hash => Op.atomic_bind (Op.reads_lift _) fun sig =>
        Op.atomic_bind (Op.reads_lift _) fun signatures => Op.atomic_of_infallible ?_
      exact Op.infallible_bind (Op.infallible_modify _) fun _ =>
        on_bus_infallible (broadcast_infallible _ _ _)

theorem reject_atomic (update : ChannelUpdate) (channel : ActiveChannel env.Signer)
    (reason : String) : Op.Atomic (update.reject env channel reason) :=
  Op.atomic_bind (Op.reads_lift _) fun _ => Op.atomic_of_infallible (broadcast_infallible _ _ _)

theorem participant_accepted_atomic (channel : ActiveChannel env.Signer) (partIdx : PartIdx)
    (msg : LedgerChannelUpdateAccepted) :
    Op.Atomic (ChannelUpdate.participantAccepted env channel partIdx msg) := by
  refine Op.atomic_bind Op.reads_get fun update => Op.atomic_bind (Op.reads_lift _) fun _ => ?_
  split
  · exact Op.atomic_of_reads (Op.reads_fail _)
  · split
    · exact Op.atomic_of_reads (Op.reads_fail _)
    · refine Op.atomic_bind (Op.reads_lift _) fun hash => Op.atomic_bind (Op.reads_lift _) fun
        signer => Op.atomic_bind (Op.reads_lift _) fun participant => ?_
      split
      · exact Op.atomic_of_reads (Op.reads_fail _)
      · refine Op.atomic_bind (Op.reads_lift _) fun slot => ?_
        cases slot with
        | some sig => exact Op.atomic_of_reads (Op.reads_fail _)
        | none =>
            exact Op.atomic_bind (Op.reads_lift _) fun signatures =>
              Op.atomic_of_infallible (Op.infallible_modify _)

theorem apply_atomic (update : ChannelUpdate) : Op.Atomic (update.apply env) := by
  refine Op.atomic_bind Op.reads_get fun state => Op.atomic_bind (Op.reads_lift _) fun _ =>
    Op.atomic_bind (Op.reads_lift _) fun signatures => Op.atomic_of_infallible ?_
  intro state error
  simp [ActiveChannel.forceUpdate, ActiveChannel.sendCurrentStateToWatcher]

end Specs

/-- `SignedChannel` wraps the channel that `mark_funded` hands out. -/
structure SignedChannel (Signer : Type) where
  inner : ActiveChannel Signer

def SignedChannel.markFunded {Signer : Type} (signed : SignedChannel Signer) :
    ActiveChannel Signer := signed.inner

end Perun.Active
