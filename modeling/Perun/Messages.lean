import Perun.Payment

/-! The messages of `messages/`, for channels with one asset and two participants. -/
namespace Perun.Messages
open AbiTypes Payment

/-- Index of a participant, a `usize`. The proposer of the channel has index 0. -/
abbrev PartIdx := Nat

abbrev NonceShare := Bytes32

abbrev Identity := List UInt8

abbrev Peers := List Identity

structure LedgerChannelProposal where
  proposalId : Hash
  challengeDuration : BitVec 64
  nonceShare : NonceShare
  initBals : Allocation 1 2
  fundingAgreement : Balances 1 2
  participant : Address
  peers : Peers
  deriving DecidableEq

structure LedgerChannelProposalAcc where
  proposalId : Hash
  nonceShare : NonceShare
  participant : Address
  deriving DecidableEq

structure LedgerChannelUpdate where
  state : State 1 2
  actorIdx : PartIdx
  sig : Signature
  deriving DecidableEq

structure LedgerChannelUpdateAccepted where
  channel : Hash
  version : BitVec 64
  sig : Signature
  deriving DecidableEq

structure LedgerChannelFundingRequest where
  partIdx : PartIdx
  fundingAgreement : Balances 1 2
  params : Params 2
  state : State 1 2
  deriving DecidableEq

structure Transaction where
  state : State 1 2
  sigs : Vector Signature 2
  deriving DecidableEq

structure AdjudicatorReq where
  params : Params 2
  acc : Address
  tx : Transaction
  idx : PartIdx
  secondary : Bool
  deriving DecidableEq

structure RegisterReq where
  adjReq : AdjudicatorReq
  deriving DecidableEq

structure WithdrawReq where
  adjReq : AdjudicatorReq
  deriving DecidableEq

structure StartWatchingLedgerChannelReq where
  params : Params 2
  state : State 1 2
  sigs : Vector Signature 2
  deriving DecidableEq

structure SignedWithdrawalAuth where
  sig : Signature
  receiver : Address
  deriving DecidableEq

structure WatchInfo where
  partIdx : PartIdx
  params : Params 2
  state : State 1 2
  signatures : Vector Signature 2
  withdrawalAuths : Vector SignedWithdrawalAuth 1
  deriving DecidableEq

inductive WatcherRequestMessage where
  | watchRequest (req : StartWatchingLedgerChannelReq)
  | startDispute (info : WatchInfo)
  deriving DecidableEq

inductive FunderRequestMessage where
  | fundReq (req : LedgerChannelFundingRequest)
  | registerReq (req : RegisterReq)
  | withdrawReq (req : WithdrawReq)
  deriving DecidableEq

inductive ParticipantMessage where
  | auth
  | channelProposal (msg : LedgerChannelProposal)
  | proposalAccepted (msg : LedgerChannelProposalAcc)
  | proposalRejected (id : Hash) (reason : String)
  | channelUpdate (msg : LedgerChannelUpdate)
  | channelUpdateAccepted (msg : LedgerChannelUpdateAccepted)
  | channelUpdateRejected (id : Hash) (version : BitVec 64) (reason : String)
  deriving DecidableEq

end Perun.Messages
