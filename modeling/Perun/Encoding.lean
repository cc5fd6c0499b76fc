import Perun.DemoChannel
import Perun.DemoStream
import Perun.WireForms
import Perun.WireStrictness

/-! The two ends of a connection. `ProtoBufEncodingLayer` (`src/wire/encoding.rs`) puts a
message into an envelope, and `Application` (`cortex-m-demo/src/application.rs`) takes it
out of one. -/
namespace Perun.Wire.perunwire

structure ChannelProposalRejMsg where
  proposalId : Bytes
  reason : String

structure ChannelUpdateRejMsg where
  channelId : Bytes
  version : BitVec 64
  reason : String

structure WatchResponseMsg where
  channelId : Bytes
  version : BitVec 64
  success : Bool

structure ForceCloseResponseMsg where
  channelId : Bytes
  success : Bool

structure DisputeNotification where
  channelId : Bytes

/-- The kinds that nobody reads or writes are without their content. -/
inductive envelope.Msg where
  | pingMsg
  | pongMsg
  | shutdownMsg
  | authResponseMsg
  | ledgerChannelProposalMsg (msg : LedgerChannelProposalMsg)
  | ledgerChannelProposalAccMsg (msg : LedgerChannelProposalAccMsg)
  | subChannelProposalMsg
  | subChannelProposalAccMsg
  | virtualChannelProposalMsg
  | virtualChannelProposalAccMsg
  | channelProposalRejMsg (msg : ChannelProposalRejMsg)
  | channelUpdateMsg (msg : ChannelUpdateMsg)
  | virtualChannelFundingProposalMsg
  | virtualChannelSettlementProposalMsg
  | channelUpdateAccMsg (msg : ChannelUpdateAccMsg)
  | channelUpdateRejMsg (msg : ChannelUpdateRejMsg)
  | channelSyncMsg

structure Envelope where
  sender : Bytes
  recipient : Bytes
  msg : Option envelope.Msg

deriving instance DecidableEq for Balance, Balances, IndexMap, SubAlloc, Allocation, Params, State,
  BaseChannelProposal, LedgerChannelProposalMsg, BaseChannelProposalAcc, LedgerChannelProposalAccMsg,
  ChannelUpdate, ChannelUpdateMsg, ChannelUpdateAccMsg, ChannelProposalRejMsg, ChannelUpdateRejMsg,
  envelope.Msg, Envelope

inductive message.Msg where
  | fundReq (req : FundReq)
  | fundResp
  | registerReq (req : RegisterReq)
  | registerResp
  | withdrawReq (req : WithdrawReq)
  | withdrawResp
  | startWatchingLedgerChannelReq (req : StartWatchingLedgerChannelReq)
  | startWatchingLedgerChannelResp
  | stopWatchingReq
  | stopWatchingResp
  | watchRequest
  | watchResponse (msg : WatchResponseMsg)
  | forceCloseRequest (msg : ForceCloseRequestMsg)
  | forceCloseResponse (msg : ForceCloseResponseMsg)
  | disputeNotification (msg : DisputeNotification)

structure Message where
  msg : Option message.Msg

end Perun.Wire.perunwire

namespace Perun.Encoding
open Screen Outcome AbiTypes Payment Messages Wire WireRoundTrip WireForms WireStrictness DemoChannel

/-! What is sent. -/
section Sending
variable (build : Build) (keccak256 : List UInt8 → Hash)

def watchInfoToWire (value : WatchInfo) : Outcome ConversionError perunwire.WatchRequestMsg := do
  let params ← paramsToWire build keccak256 value.params
  .ok
    { participant := BitVec.ofNat 32 value.partIdx
      state := some
        { params := some params
          state := some (stateToWire value.state)
          sigs := signaturesToWire value.signatures }
      withdrawalAuths := value.withdrawalAuths.toList.map withdrawalAuthToWire }

def forceCloseToWire (value : WatchInfo) :
    Outcome ConversionError perunwire.ForceCloseRequestMsg := do
  let latest ← watchInfoToWire build keccak256 value
  .ok { channelId := value.state.id.bytes.toList, latest := some latest }

def watcherMsgToWire : WatcherRequestMessage → Outcome ConversionError perunwire.message.Msg
  | .watchRequest req => do
      let req ← startWatchingToWire build keccak256 req
      .ok (.startWatchingLedgerChannelReq req)
  | .startDispute info => do
      let req ← forceCloseToWire build keccak256 info
      .ok (.forceCloseRequest req)

def funderMsgToWire : FunderRequestMessage → Outcome ConversionError perunwire.message.Msg
  | .fundReq req => do
      let req ← fundReqToWire build keccak256 req
      .ok (.fundReq req)
  | .registerReq req => do
      let req ← registerReqToWire build keccak256 req
      .ok (.registerReq req)
  | .withdrawReq req => do
      let req ← withdrawReqToWire build keccak256 req
      .ok (.withdrawReq req)

end Sending

def participantMsgToWire : ParticipantMessage → perunwire.envelope.Msg
  | .auth => .authResponseMsg
  | .channelProposal msg => .ledgerChannelProposalMsg (proposalToWire msg)
  | .proposalAccepted msg => .ledgerChannelProposalAccMsg (proposalAccToWire msg)
  | .proposalRejected id reason => .channelProposalRejMsg ⟨id.bytes.toList, reason⟩
  | .channelUpdate msg => .channelUpdateMsg (updateToWire msg)
  | .channelUpdateAccepted msg => .channelUpdateAccMsg (updateAcceptedToWire msg)
  | .channelUpdateRejected id version reason =>
      .channelUpdateRejMsg ⟨id.bytes.toList, version, reason⟩

/-! What is received. -/

/-- `Hash(id.try_into().unwrap())`. -/
def hashFromWire (id : Bytes) : Outcome ConversionError Hash := do
  let bytes ← unwrapErr (toArray 32 id)
  .ok ⟨bytes⟩

inductive ServiceReplyMessage where
  | watcher (msg : WatcherReplyMessage)
  | funder (msg : FunderReplyMessage)
  deriving DecidableEq

def participantMsgFromWire : perunwire.envelope.Msg → Outcome ConversionError ParticipantMessage
  | .authResponseMsg => .ok .auth
  | .ledgerChannelProposalMsg msg => do
      let msg ← proposalFromWire msg
      .ok (.channelProposal msg)
  | .ledgerChannelProposalAccMsg msg => do
      let msg ← proposalAccFromWire msg
      .ok (.proposalAccepted msg)
  | .channelProposalRejMsg msg => do
      let id ← hashFromWire msg.proposalId
      .ok (.proposalRejected id msg.reason)
  | .channelUpdateMsg msg => do
      let msg ← updateFromWire msg
      .ok (.channelUpdate msg)
  | .channelUpdateAccMsg msg => do
      let msg ← updateAcceptedFromWire msg
      .ok (.channelUpdateAccepted msg)
  | .channelUpdateRejMsg msg => do
      let id ← hashFromWire msg.channelId
      .ok (.channelUpdateRejected id msg.version msg.reason)
  -- The others are `unimplemented!()`.
  | _ => .panic

/-- A response does not name its channel, and whether it was a success is not read. -/
def serviceMsgFromWire : perunwire.message.Msg → Outcome ConversionError ServiceReplyMessage
  | .fundResp => .ok (.funder (.funded ⟨Vector.replicate 32 0⟩))
  | .watchResponse msg => do
      let id ← hashFromWire msg.channelId
      .ok (.watcher (.ack id msg.version))
  | .forceCloseResponse msg => do
      let id ← hashFromWire msg.channelId
      .ok (.watcher (.disputeAck id))
  | .disputeNotification msg => do
      let id ← hashFromWire msg.channelId
      .ok (.watcher (.disputeNotification id))
  | _ => .panic

/-! Every request can be written. -/
section Written
variable (build : Build) (keccak256 : List UInt8 → Hash)

theorem params_written (params : Params 2) : ∃ wire, paramsToWire build keccak256 params = .ok wire :=
  ⟨_, by rw [paramsToWire, to_hash_params]⟩

theorem adjudicator_req_written (req : AdjudicatorReq) :
    ∃ wire, adjudicatorReqToWire build keccak256 req = .ok wire := by
  obtain ⟨params, written⟩ := params_written build keccak256 req.params
  exact ⟨_, by rw [adjudicatorReqToWire, written, ok_bind]⟩

theorem watch_info_written (info : WatchInfo) :
    ∃ wire, watchInfoToWire build keccak256 info = .ok wire := by
  obtain ⟨params, written⟩ := params_written build keccak256 info.params
  exact ⟨_, by rw [watchInfoToWire, written, ok_bind]⟩

theorem watcher_msg_written (msg : WatcherRequestMessage) :
    ∃ wire, watcherMsgToWire build keccak256 msg = .ok wire := by
  cases msg with
  | watchRequest req =>
      obtain ⟨params, written⟩ := params_written build keccak256 req.params
      exact ⟨_, by rw [watcherMsgToWire, startWatchingToWire, written, ok_bind, ok_bind]⟩
  | startDispute info =>
      obtain ⟨latest, written⟩ := watch_info_written build keccak256 info
      exact ⟨_, by rw [watcherMsgToWire, forceCloseToWire, written, ok_bind, ok_bind]⟩

theorem funder_msg_written (msg : FunderRequestMessage) :
    ∃ wire, funderMsgToWire build keccak256 msg = .ok wire := by
  cases msg with
  | fundReq req =>
      obtain ⟨params, written⟩ := params_written build keccak256 req.params
      exact ⟨_, by rw [funderMsgToWire, fundReqToWire, written, ok_bind, ok_bind]⟩
  | registerReq req =>
      obtain ⟨adjReq, written⟩ := adjudicator_req_written build keccak256 req.adjReq
      exact ⟨_, by rw [funderMsgToWire, registerReqToWire, written, ok_bind, ok_bind]⟩
  | withdrawReq req =>
      obtain ⟨adjReq, written⟩ := adjudicator_req_written build keccak256 req.adjReq
      exact ⟨_, by rw [funderMsgToWire, withdrawReqToWire, written, ok_bind, ok_bind]⟩

end Written

/-! What becomes of the envelopes that are sent. Everything is read back but the asset
holder, whose first two bytes are taken for a length. -/
section Received

def holderLength (holder : Address) : Nat :=
  (holder.bytes.get 0).toNat + 256 * (holder.bytes.get 1).toNat

/-- The check of the holder in a proposal or an update. -/
def readHolder (holder : Address) : Outcome ConversionError Unit :=
  if 20 < holderLength holder then .err .byteLengthMissmatch
  else if 0 < holderLength holder then .panic
  else .ok ()

def zeroHolder (value : Allocation 1 2) : Allocation 1 2 :=
  { value with assets := Vector.replicate 1 ⟨Address.zero⟩ }

def holderOf (value : Allocation 1 2) : Address := (value.assets.get 0).holder

/-- The holder that a message carries. -/
def carriedHolder : ParticipantMessage → Option Address
  | .channelProposal msg => some (holderOf msg.initBals)
  | .channelUpdate msg => some (holderOf msg.state.outcome)
  | _ => none

def withoutHolder : ParticipantMessage → ParticipantMessage
  | .channelProposal msg => .channelProposal { msg with initBals := zeroHolder msg.initBals }
  | .channelUpdate msg =>
      .channelUpdate { msg with state.outcome := zeroHolder msg.state.outcome }
  | msg => msg

/-- A participant index fits the 32 bits it is sent with. -/
def Indexed : ParticipantMessage → Prop
  | .channelUpdate msg => msg.actorIdx < 2 ^ 32
  | _ => True

theorem asset_received (asset : Asset) :
    assetFromWire (assetToWire asset) =
      readHolder asset.holder >>= fun _ => .ok ⟨Address.zero⟩ := by
  have length : asset.holder.bytes.toList.length = 20 := by simp
  have first : asset.holder.bytes.toList[0]? = some (asset.holder.bytes.get 0) := by
    simp [Vector.get]
  have second : asset.holder.bytes.toList[1]? = some (asset.holder.bytes.get 1) := by
    simp [Vector.get]
  rw [assetToWire, readHolder, holderLength]
  rcases bytes : asset.holder.bytes.toList with _ | ⟨low, _ | ⟨high, rest⟩⟩
  · rw [bytes] at length
    cases length
  · rw [bytes] at length
    cases length
  · rw [bytes] at length first second
    have short : rest.length ≠ 20 := by
      simp only [List.length_cons] at length
      omega
    cases first
    cases second
    simp only [assetFromWire, short, ↓reduceDIte]
    split
    · rfl
    · split <;> rfl

theorem allocation_received (value : Allocation 1 2) :
    allocationFromWire (allocationToWire value) =
      readHolder (holderOf value) >>= fun _ => .ok (zeroHolder value) := by
  unfold holderOf
  have only : value.assets.toList = [value.assets.get 0] := by
    rcases value with ⟨⟨⟨assets⟩, length⟩, balances⟩
    obtain ⟨asset, rfl⟩ := List.length_eq_one_iff.mp length
    rfl
  have assets : fillArray ⟨Address.zero⟩ assetFromWire 1 (value.assets.toList.map assetToWire) =
      readHolder (value.assets.get 0).holder >>= fun _ =>
        .ok (Vector.replicate 1 ⟨Address.zero⟩) := by
    rw [only, List.map_singleton, fillArray, List.take_of_length_le (by simp), convertEach,
      asset_received]
    cases readHolder (value.assets.get 0).holder <;> rfl
  simp only [allocationFromWire, allocationToWire, assets, expectSome, okOr_some, ok_bind,
    balances_round_trip, zeroHolder]
  cases readHolder (value.assets.get 0).holder <;> rfl

/-- A proposal or an update whose holder does not begin with two zero bytes is refused or
aborts the receiver. Everything else arrives, with the zero holder in it. -/
theorem sent_message_received (msg : ParticipantMessage) (indexed : Indexed msg) :
    participantMsgFromWire (participantMsgToWire msg) =
      match carriedHolder msg with
      | some holder => readHolder holder >>= fun _ => .ok (withoutHolder msg)
      | none => .ok msg := by
  cases msg with
  | channelProposal msg =>
      simp only [participantMsgToWire, participantMsgFromWire, proposalToWire, proposalFromWire,
        expectSome, okOr_some, ok_bind, to_array_to_list, balances_round_trip,
        address_round_trip, allocation_received, carriedHolder, withoutHolder]
      cases readHolder (holderOf msg.initBals) <;> rfl
  | channelUpdate msg =>
      simp only [participantMsgToWire, participantMsgFromWire, updateToWire, updateFromWire,
        stateToWire, stateFromWire, expectSome, okOr_some, ok_bind, to_array_to_list,
        signature_round_trip, allocation_received, carriedHolder, withoutHolder,
        index_round_trip indexed]
      cases readHolder (holderOf msg.state.outcome) <;> rfl
  | proposalAccepted msg =>
      simp [participantMsgToWire, participantMsgFromWire, proposal_acc_round_trip, carriedHolder]
  | channelUpdateAccepted msg =>
      simp [participantMsgToWire, participantMsgFromWire, update_accepted_round_trip,
        carriedHolder]
  | _ => simp [participantMsgToWire, participantMsgFromWire, hashFromWire, carriedHolder]

theorem zero_holder_eq {value : Allocation 1 2} :
    zeroHolder value = value ↔ holderOf value = Address.zero := by
  unfold holderOf
  rcases value with ⟨⟨⟨assets⟩, length⟩, balances⟩
  obtain ⟨⟨held⟩, rfl⟩ := List.length_eq_one_iff.mp length
  constructor
  · intro same
    have assets := congrArg (fun value : Allocation 1 2 => (value.assets.get 0).holder) same
    exact assets.symm
  · rintro rfl
    rfl

/-- A message that carries no other holder arrives unchanged. -/
theorem zero_message_received {msg : ParticipantMessage} (indexed : Indexed msg)
    (zero : ∀ holder, carriedHolder msg = some holder → holder = Address.zero) :
    participantMsgFromWire (participantMsgToWire msg) = .ok msg := by
  have read : readHolder Address.zero = .ok () := rfl
  rw [sent_message_received msg indexed]
  cases msg with
  | channelProposal msg =>
      have unheld : holderOf msg.initBals = Address.zero := zero _ rfl
      simp only [carriedHolder, unheld, read, ok_bind, withoutHolder, zero_holder_eq.mpr unheld]
  | channelUpdate msg =>
      have unheld : holderOf msg.state.outcome = Address.zero := zero _ rfl
      simp only [carriedHolder, unheld, read, ok_bind, withoutHolder, zero_holder_eq.mpr unheld]
  | _ => rfl

end Received

/-! What a receiver survives. -/
section Screens

def participantMsgScreen : perunwire.envelope.Msg → Screen
  | .authResponseMsg => pass
  | .ledgerChannelProposalMsg msg => proposalScreen msg
  | .ledgerChannelProposalAccMsg msg => proposalAccScreen msg
  | .channelProposalRejMsg msg => (bytesScreen 32 msg.proposalId).relied
  | .channelUpdateMsg msg => updateScreen msg
  | .channelUpdateAccMsg msg => updateAcceptedScreen msg
  | .channelUpdateRejMsg msg => (bytesScreen 32 msg.channelId).relied
  | _ => rely false

def serviceMsgScreen : perunwire.message.Msg → Screen
  | .fundResp => pass
  | .watchResponse msg => (bytesScreen 32 msg.channelId).relied
  | .forceCloseResponse msg => (bytesScreen 32 msg.channelId).relied
  | .disputeNotification msg => (bytesScreen 32 msg.channelId).relied
  | _ => rely false

theorem hash_screened (id : Bytes) :
    Screened (hashFromWire id) (bytesScreen 32 id).relied :=
  screened_map _ (screened_relied (to_array_screened 32 id))

theorem participant_msg_screened (msg : perunwire.envelope.Msg) :
    Screened (participantMsgFromWire msg) (participantMsgScreen msg) := by
  cases msg with
  | authResponseMsg => exact screened_ok _ rfl rfl
  | ledgerChannelProposalMsg msg => exact screened_map _ (proposal_screened msg)
  | ledgerChannelProposalAccMsg msg => exact screened_map _ (proposal_acc_screened msg)
  | channelProposalRejMsg msg => exact screened_map _ (hash_screened msg.proposalId)
  | channelUpdateMsg msg => exact screened_map _ (update_screened msg)
  | channelUpdateAccMsg msg => exact screened_map _ (update_accepted_screened msg)
  | channelUpdateRejMsg msg => exact screened_map _ (hash_screened msg.channelId)
  | _ => exact screened_panic rfl rfl

theorem service_msg_screened (msg : perunwire.message.Msg) :
    Screened (serviceMsgFromWire msg) (serviceMsgScreen msg) := by
  cases msg with
  | fundResp => exact screened_ok _ rfl rfl
  | watchResponse msg => exact screened_map _ (hash_screened msg.channelId)
  | forceCloseResponse msg => exact screened_map _ (hash_screened msg.channelId)
  | disputeNotification msg => exact screened_map _ (hash_screened msg.channelId)
  | _ => exact screened_panic rfl rfl

end Screens

end Perun.Encoding
