import Perun.Messages

/-! The protobuf types and the conversions from and to them. `From` conversions
are `toWire`, `TryFrom` conversions are `fromWire`. A wire byte string is a list,
and an embedded message may be absent. Decoding can abort: slices are copied and
big-endian integers read under length assertions. -/
namespace Perun.Wire
open BigEndian AbiTypes Payment Messages

inductive ConversionError where
  | participantSizeMissmatch
  | assetSizeMissmatch
  | byteLengthMissmatch
  | exptectedSome
  | stateChannelsNotSupported
  deriving DecidableEq

abbrev Bytes := List UInt8

/-! The generated structs. -/
namespace perunwire

structure Balance where
  balance : List Bytes

structure Balances where
  balances : List Balance

structure IndexMap where
  indexMap : List (BitVec 32)

structure SubAlloc where
  id : Bytes
  bals : Option Balance
  indexMap : Option IndexMap

structure Allocation where
  assets : List Bytes
  balances : Option Balances
  locked : List SubAlloc

structure Params where
  id : Bytes
  challengeDuration : BitVec 64
  parts : List Bytes
  app : Bytes
  nonce : Bytes
  ledgerChannel : Bool
  virtualChannel : Bool

structure State where
  id : Bytes
  version : BitVec 64
  app : Bytes
  allocation : Option Allocation
  data : Bytes
  isFinal : Bool

structure BaseChannelProposal where
  proposalId : Bytes
  challengeDuration : BitVec 64
  nonceShare : Bytes
  app : Bytes
  initData : Bytes
  initBals : Option Allocation
  fundingAgreement : Option Balances

structure LedgerChannelProposalMsg where
  baseChannelProposal : Option BaseChannelProposal
  participant : Bytes
  peers : List Bytes

structure BaseChannelProposalAcc where
  proposalId : Bytes
  nonceShare : Bytes

structure LedgerChannelProposalAccMsg where
  baseChannelProposalAcc : Option BaseChannelProposalAcc
  participant : Bytes

structure ChannelUpdate where
  state : Option State
  actorIdx : BitVec 32

structure ChannelUpdateMsg where
  channelUpdate : Option ChannelUpdate
  sig : Bytes

structure ChannelUpdateAccMsg where
  channelId : Bytes
  version : BitVec 64
  sig : Bytes

structure Transaction where
  state : Option State
  sigs : List Bytes

structure AdjudicatorReq where
  params : Option Params
  acc : Bytes
  tx : Option Transaction
  idx : BitVec 32
  secondary : Bool

structure RegisterReq where
  sessionId : String
  adjReq : Option AdjudicatorReq

structure WithdrawReq where
  sessionId : String
  adjReq : Option AdjudicatorReq

structure FundReq where
  sessionId : String
  params : Option Params
  state : Option State
  idx : BitVec 32
  agreement : Option Balances

structure StartWatchingLedgerChannelReq where
  sessionId : String
  params : Option Params
  state : Option State
  sigs : List Bytes

structure SignedState where
  params : Option Params
  state : Option State
  sigs : List Bytes

structure SignedWithdrawalAuth where
  sig : Bytes
  receiver : Bytes

structure WatchRequestMsg where
  participant : BitVec 32
  state : Option SignedState
  withdrawalAuths : List SignedWithdrawalAuth

structure ForceCloseRequestMsg where
  channelId : Bytes
  latest : Option WatchRequestMsg

end perunwire

/-! Primitives. -/
section Primitives
variable {α β : Type}

/-- `TryFrom<Vec<u8>>` for an array. -/
def toArray (n : Nat) (bytes : Bytes) : Outcome ConversionError (Vector UInt8 n) :=
  if length : bytes.length = n then .ok ⟨bytes.toArray, by simpa using length⟩
  else .err .byteLengthMissmatch

/-- `U256::from_big_endian` asserts that at most 32 bytes are given. -/
def U256.fromBigEndian (bytes : Bytes) : Outcome ConversionError U256 :=
  if bytes.length ≤ 32 then .ok (BitVec.ofNat 256 (ofBigEndian bytes)) else .panic

def expectSome : Option α → Outcome ConversionError α := Outcome.okOr .exptectedSome

/-- Converts in order and stops at the first failure. -/
def convertEach (convert : β → Outcome ConversionError α) : List β → Outcome ConversionError (List α)
  | [] => .ok []
  | item :: rest => do
      let value ← convert item
      let values ← convertEach convert rest
      .ok (value :: values)

/-- `for (a, b) in array.iter_mut().zip(items)` over an array of defaults. -/
def fillArray (default : α) (convert : β → Outcome ConversionError α) (n : Nat) (items : List β) :
    Outcome ConversionError (Vector α n) := do
  let values ← convertEach convert (items.take n)
  .ok (Vector.ofFn fun i => values.getD i default)

end Primitives

variable {A P : Nat}

/-! Balances and allocations. -/

def participantBalancesToWire (balances : ParticipantBalances P) : perunwire.Balance :=
  ⟨balances.toList.map U256.toBigEndian⟩

def participantBalancesFromWire (value : perunwire.Balance) :
    Outcome ConversionError (ParticipantBalances P) :=
  if value.balance.length ≠ P then .err .participantSizeMissmatch
  else fillArray 0 U256.fromBigEndian P value.balance

def balancesToWire (balances : Balances A P) : perunwire.Balances :=
  ⟨balances.toList.map participantBalancesToWire⟩

def balancesFromWire (value : perunwire.Balances) : Outcome ConversionError (Balances A P) :=
  if value.balances.length ≠ A then .err .assetSizeMissmatch
  else fillArray (Vector.replicate P 0) participantBalancesFromWire A value.balances

/-- Only the address is written; the length in front of it is commented out. -/
def assetToWire (asset : Asset) : Bytes := asset.holder.bytes.toList

/-- The first two bytes are read as the little-endian length of the address. A
nonzero length copies everything behind them, whatever it is, into 20 bytes. -/
def assetFromWire : Bytes → Outcome ConversionError Asset
  | low :: high :: rest =>
      let holderLength := low.toNat + 256 * high.toNat
      if holderLength > 20 then .err .byteLengthMissmatch
      else if holderLength > 0 then
        if length : rest.length = 20 then .ok ⟨⟨rest.toArray, by simpa using length⟩⟩ else .panic
      else .ok ⟨Address.zero⟩
  | _ => .err .byteLengthMissmatch

def allocationToWire (value : Allocation A P) : perunwire.Allocation :=
  { assets := value.assets.toList.map assetToWire
    balances := some (balancesToWire value.balances)
    locked := [] }

def allocationFromWire (value : perunwire.Allocation) :
    Outcome ConversionError (Allocation A P) := do
  let assets ← fillArray ⟨Address.zero⟩ assetFromWire A value.assets
  let balances ← expectSome value.balances
  let balances ← balancesFromWire balances
  .ok ⟨assets, balances⟩

/-! States and parameters. -/

def stateToWire (value : State A P) : perunwire.State :=
  { id := value.id.bytes.toList
    version := value.version
    app := []
    allocation := some (allocationToWire value.outcome)
    data := []
    isFinal := value.isFinal }

def stateFromWire (value : perunwire.State) : Outcome ConversionError (State A P) :=
  if !value.data.isEmpty then .err .stateChannelsNotSupported
  else do
    let id ← toArray 32 value.id
    let allocation ← expectSome value.allocation
    let outcome ← allocationFromWire allocation
    .ok ⟨⟨id⟩, value.version, outcome, value.isFinal⟩

def addressFromWire (value : Bytes) : Outcome ConversionError Address := do
  let bytes ← toArray 20 value
  .ok ⟨bytes⟩

def paramsFromWire (value : perunwire.Params) : Outcome ConversionError (Params P) := do
  let participants ← fillArray Address.zero addressFromWire P value.parts
  let nonce ← U256.fromBigEndian value.nonce
  .ok ⟨value.challengeDuration, nonce, participants, Address.zero, value.ledgerChannel,
    value.virtualChannel⟩

def signatureFromWire (value : Bytes) : Outcome ConversionError Signature := do
  let bytes ← toArray 65 value
  .ok ⟨bytes⟩

def signaturesToWire (sigs : Vector Signature 2) : List Bytes :=
  sigs.toList.map fun sig => sig.bytes.toList

def signaturesFromWire (sigs : List Bytes) : Outcome ConversionError (Vector Signature 2) :=
  if sigs.length ≠ 2 then .err .participantSizeMissmatch
  else fillArray Signature.zero signatureFromWire 2 sigs

/-! Messages. `channel_id` is hashed for the wire parameters and an encoding error
there would abort. -/

def proposalToWire (value : LedgerChannelProposal) : perunwire.LedgerChannelProposalMsg :=
  { baseChannelProposal := some
      { proposalId := value.proposalId.bytes.toList
        challengeDuration := value.challengeDuration
        nonceShare := value.nonceShare.bytes.toList
        app := []
        initData := []
        initBals := some (allocationToWire value.initBals)
        fundingAgreement := some (balancesToWire value.fundingAgreement) }
    participant := value.participant.bytes.toList
    peers := value.peers }

def proposalFromWire (value : perunwire.LedgerChannelProposalMsg) :
    Outcome ConversionError LedgerChannelProposal := do
  let base ← expectSome value.baseChannelProposal
  let initBals ← expectSome base.initBals
  let fundingAgreement ← expectSome base.fundingAgreement
  let proposalId ← toArray 32 base.proposalId
  let nonceShare ← toArray 32 base.nonceShare
  let initBals ← allocationFromWire initBals
  let fundingAgreement ← balancesFromWire fundingAgreement
  let participant ← addressFromWire value.participant
  .ok ⟨⟨proposalId⟩, base.challengeDuration, ⟨nonceShare⟩, initBals, fundingAgreement, participant,
    value.peers⟩

def proposalAccToWire (value : LedgerChannelProposalAcc) : perunwire.LedgerChannelProposalAccMsg :=
  { baseChannelProposalAcc := some
      { proposalId := value.proposalId.bytes.toList
        nonceShare := value.nonceShare.bytes.toList }
    participant := value.participant.bytes.toList }

def proposalAccFromWire (value : perunwire.LedgerChannelProposalAccMsg) :
    Outcome ConversionError LedgerChannelProposalAcc := do
  let base ← expectSome value.baseChannelProposalAcc
  let proposalId ← toArray 32 base.proposalId
  let nonceShare ← toArray 32 base.nonceShare
  let participant ← addressFromWire value.participant
  .ok ⟨⟨proposalId⟩, ⟨nonceShare⟩, participant⟩

def updateToWire (value : LedgerChannelUpdate) : perunwire.ChannelUpdateMsg :=
  { channelUpdate := some
      { state := some (stateToWire value.state), actorIdx := BitVec.ofNat 32 value.actorIdx }
    sig := value.sig.bytes.toList }

def updateFromWire (value : perunwire.ChannelUpdateMsg) :
    Outcome ConversionError LedgerChannelUpdate := do
  let update ← expectSome value.channelUpdate
  let state ← expectSome update.state
  let state ← stateFromWire state
  let sig ← signatureFromWire value.sig
  .ok ⟨state, update.actorIdx.toNat, sig⟩

def updateAcceptedToWire (value : LedgerChannelUpdateAccepted) : perunwire.ChannelUpdateAccMsg :=
  { channelId := value.channel.bytes.toList
    version := value.version
    sig := value.sig.bytes.toList }

def updateAcceptedFromWire (value : perunwire.ChannelUpdateAccMsg) :
    Outcome ConversionError LedgerChannelUpdateAccepted := do
  let channel ← toArray 32 value.channelId
  let sig ← signatureFromWire value.sig
  .ok ⟨⟨channel⟩, value.version, sig⟩

def transactionToWire (value : Transaction) : perunwire.Transaction :=
  { state := some (stateToWire value.state), sigs := signaturesToWire value.sigs }

def transactionFromWire (value : perunwire.Transaction) : Outcome ConversionError Transaction := do
  let signedState ← expectSome value.state
  let sigs ← signaturesFromWire value.sigs
  let state ← stateFromWire signedState
  .ok ⟨state, sigs⟩

def withdrawalAuthToWire (value : SignedWithdrawalAuth) : perunwire.SignedWithdrawalAuth :=
  { sig := value.sig.bytes.toList, receiver := value.receiver.bytes.toList }

def withdrawalAuthFromWire (value : perunwire.SignedWithdrawalAuth) :
    Outcome ConversionError SignedWithdrawalAuth := do
  let sig ← signatureFromWire value.sig
  let receiver ← addressFromWire value.receiver
  .ok ⟨sig, receiver⟩

/-- `SignedWithdrawalAuth::default`. -/
def withdrawalAuthDefault : SignedWithdrawalAuth := ⟨Signature.zero, Address.zero⟩

/-- Both counts are checked before anything is read. -/
def watchInfoFromWire (value : perunwire.WatchRequestMsg) : Outcome ConversionError WatchInfo := do
  let signedState ← expectSome value.state
  if signedState.sigs.length ≠ 2 then .err .participantSizeMissmatch
  else if value.withdrawalAuths.length ≠ 1 then .err .participantSizeMissmatch
  else do
    let signatures ← fillArray Signature.zero signatureFromWire 2 signedState.sigs
    let withdrawalAuths ← fillArray withdrawalAuthDefault withdrawalAuthFromWire 1
      value.withdrawalAuths
    let params ← expectSome signedState.params
    let params ← paramsFromWire params
    let state ← expectSome signedState.state
    let state ← stateFromWire state
    .ok ⟨value.participant.toNat, params, state, signatures, withdrawalAuths⟩

def forceCloseFromWire (value : perunwire.ForceCloseRequestMsg) :
    Outcome ConversionError WatchInfo := do
  let latest ← expectSome value.latest
  watchInfoFromWire latest

section Hashing
variable (build : Build) (keccak256 : List UInt8 → Hash)

def paramsToWire (value : Params P) : Outcome ConversionError perunwire.Params :=
  match toHash build keccak256 value.abi.toValue with
  | .ok id => .ok
      { id := id.bytes.toList
        challengeDuration := value.challengeDuration
        nonce := U256.toBigEndian value.nonce
        parts := value.participants.toList.map fun part => part.bytes.toList
        app := []
        ledgerChannel := value.ledgerChannel
        virtualChannel := value.virtualChannel }
  | _ => .panic

def adjudicatorReqToWire (value : AdjudicatorReq) :
    Outcome ConversionError perunwire.AdjudicatorReq := do
  let params ← paramsToWire build keccak256 value.params
  .ok
    { params := some params
      acc := value.acc.bytes.toList
      tx := some (transactionToWire value.tx)
      idx := BitVec.ofNat 32 value.idx
      secondary := value.secondary }

def adjudicatorReqFromWire (value : perunwire.AdjudicatorReq) :
    Outcome ConversionError AdjudicatorReq := do
  let params ← expectSome value.params
  let params ← paramsFromWire params
  let acc ← addressFromWire value.acc
  let tx ← expectSome value.tx
  let tx ← transactionFromWire tx
  .ok ⟨params, acc, tx, value.idx.toNat, value.secondary⟩

def registerReqToWire (value : RegisterReq) : Outcome ConversionError perunwire.RegisterReq := do
  let adjReq ← adjudicatorReqToWire build keccak256 value.adjReq
  .ok { sessionId := "", adjReq := some adjReq }

def registerReqFromWire (value : perunwire.RegisterReq) : Outcome ConversionError RegisterReq := do
  let adjReq ← expectSome value.adjReq
  let adjReq ← adjudicatorReqFromWire adjReq
  .ok ⟨adjReq⟩

def withdrawReqToWire (value : WithdrawReq) : Outcome ConversionError perunwire.WithdrawReq := do
  let adjReq ← adjudicatorReqToWire build keccak256 value.adjReq
  .ok { sessionId := "", adjReq := some adjReq }

def withdrawReqFromWire (value : perunwire.WithdrawReq) : Outcome ConversionError WithdrawReq := do
  let adjReq ← expectSome value.adjReq
  let adjReq ← adjudicatorReqFromWire adjReq
  .ok ⟨adjReq⟩

def fundReqToWire (value : LedgerChannelFundingRequest) :
    Outcome ConversionError perunwire.FundReq := do
  let params ← paramsToWire build keccak256 value.params
  .ok
    { sessionId := ""
      agreement := some (balancesToWire value.fundingAgreement)
      params := some params
      state := some (stateToWire value.state)
      idx := BitVec.ofNat 32 value.partIdx }

def fundReqFromWire (value : perunwire.FundReq) :
    Outcome ConversionError LedgerChannelFundingRequest := do
  let agreement ← expectSome value.agreement
  let agreement ← balancesFromWire agreement
  let params ← expectSome value.params
  let params ← paramsFromWire params
  let state ← expectSome value.state
  let state ← stateFromWire state
  .ok ⟨value.idx.toNat, agreement, params, state⟩

def startWatchingToWire (value : StartWatchingLedgerChannelReq) :
    Outcome ConversionError perunwire.StartWatchingLedgerChannelReq := do
  let params ← paramsToWire build keccak256 value.params
  .ok
    { sessionId := ""
      params := some params
      state := some (stateToWire value.state)
      sigs := signaturesToWire value.sigs }

def startWatchingFromWire (value : perunwire.StartWatchingLedgerChannelReq) :
    Outcome ConversionError StartWatchingLedgerChannelReq := do
  let sigs ← signaturesFromWire value.sigs
  let params ← expectSome value.params
  let params ← paramsFromWire params
  let state ← expectSome value.state
  let state ← stateFromWire state
  .ok ⟨params, state, sigs⟩

end Hashing
end Perun.Wire
