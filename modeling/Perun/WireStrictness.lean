import Perun.Screen
import Perun.WireRoundTrip

/-! What decoding makes of a message from the network. An amount, a nonce or an asset
of an unexpected length aborts it; an array that is too short is filled up with
defaults, and one that is too long is cut. -/
namespace Perun.WireStrictness
open Screen Outcome AbiTypes Payment Messages Wire WireRoundTrip

/-! The parts of a message in the order they are read, with what has to hold of each:
`check` where the code returns an error, `rely` where it aborts. -/
section Screens

def bytesScreen (n : Nat) (bytes : Bytes) : Screen := check (bytes.length = n)

def amountScreen (bytes : Bytes) : Screen := rely (bytes.length ≤ 32)

/-- Only as many entries are read as fit. -/
def arrayScreen {β : Type} (screen : β → Screen) (n : Nat) (items : List β) : Screen :=
  each screen (items.take n)

def participantBalancesScreen (P : Nat) (value : perunwire.Balance) : Screen :=
  (check (value.balance.length = P)).andThen (arrayScreen amountScreen P value.balance)

def balancesScreen (A P : Nat) (value : perunwire.Balances) : Screen :=
  (check (value.balances.length = A)).andThen
    (arrayScreen (participantBalancesScreen P) A value.balances)

def assetScreen : Bytes → Screen
  | low :: high :: rest =>
      (check (low.toNat + 256 * high.toNat ≤ 20)).andThen
        (rely (low.toNat + 256 * high.toNat = 0 ∨ rest.length = 20))
  | _ => check false

def allocationScreen (A P : Nat) (value : perunwire.Allocation) : Screen :=
  (arrayScreen assetScreen A value.assets).andThen (given (balancesScreen A P) value.balances)

def stateScreen (A P : Nat) (value : perunwire.State) : Screen :=
  (check (value.data = [])).andThen
    ((bytesScreen 32 value.id).andThen (given (allocationScreen A P) value.allocation))

def paramsScreen (P : Nat) (value : perunwire.Params) : Screen :=
  (arrayScreen (bytesScreen 20) P value.parts).andThen (amountScreen value.nonce)

def signaturesScreen (sigs : List Bytes) : Screen :=
  (check (sigs.length = 2)).andThen (arrayScreen (bytesScreen 65) 2 sigs)

def proposalScreen (value : perunwire.LedgerChannelProposalMsg) : Screen :=
  given (fun base => given (fun initBals => given (fun fundingAgreement =>
    (bytesScreen 32 base.proposalId).andThen ((bytesScreen 32 base.nonceShare).andThen
      ((allocationScreen 1 2 initBals).andThen ((balancesScreen 1 2 fundingAgreement).andThen
        (bytesScreen 20 value.participant))))) base.fundingAgreement) base.initBals)
    value.baseChannelProposal

def proposalAccScreen (value : perunwire.LedgerChannelProposalAccMsg) : Screen :=
  given (fun base => (bytesScreen 32 base.proposalId).andThen
    ((bytesScreen 32 base.nonceShare).andThen (bytesScreen 20 value.participant)))
    value.baseChannelProposalAcc

def updateScreen (value : perunwire.ChannelUpdateMsg) : Screen :=
  given (fun update => given (fun state =>
    (stateScreen 1 2 state).andThen (bytesScreen 65 value.sig)) update.state) value.channelUpdate

def updateAcceptedScreen (value : perunwire.ChannelUpdateAccMsg) : Screen :=
  (bytesScreen 32 value.channelId).andThen (bytesScreen 65 value.sig)

def transactionScreen (value : perunwire.Transaction) : Screen :=
  given (fun state => (signaturesScreen value.sigs).andThen (stateScreen 1 2 state)) value.state

def adjudicatorReqScreen (value : perunwire.AdjudicatorReq) : Screen :=
  (given (paramsScreen 2) value.params).andThen
    ((bytesScreen 20 value.acc).andThen (given transactionScreen value.tx))

def fundReqScreen (value : perunwire.FundReq) : Screen :=
  (given (balancesScreen 1 2) value.agreement).andThen
    ((given (paramsScreen 2) value.params).andThen (given (stateScreen 1 2) value.state))

def startWatchingScreen (value : perunwire.StartWatchingLedgerChannelReq) : Screen :=
  (signaturesScreen value.sigs).andThen
    ((given (paramsScreen 2) value.params).andThen (given (stateScreen 1 2) value.state))

def withdrawalAuthScreen (value : perunwire.SignedWithdrawalAuth) : Screen :=
  (bytesScreen 65 value.sig).andThen (bytesScreen 20 value.receiver)

def watchInfoScreen (value : perunwire.WatchRequestMsg) : Screen :=
  given (fun signedState =>
    (check (signedState.sigs.length = 2)).andThen ((check (value.withdrawalAuths.length = 1)).andThen
      ((arrayScreen (bytesScreen 65) 2 signedState.sigs).andThen
        ((arrayScreen withdrawalAuthScreen 1 value.withdrawalAuths).andThen
          ((given (paramsScreen 2) signedState.params).andThen
            (given (stateScreen 1 2) signedState.state)))))) value.state

def forceCloseScreen (value : perunwire.ForceCloseRequestMsg) : Screen :=
  given watchInfoScreen value.latest

end Screens

/-! Each decoder does what its screen says. -/
section Decoders
variable {A P : Nat}

theorem to_array_screened (n : Nat) (bytes : Bytes) :
    Screened (toArray n bytes) (bytesScreen n bytes) := by
  unfold toArray
  by_cases length : bytes.length = n
  · rw [dif_pos length]
    exact screened_ok _ rfl (decide_eq_true length)
  · rw [dif_neg length]
    exact screened_err _ rfl (decide_eq_false length)

theorem amount_screened (bytes : Bytes) :
    Screened (U256.fromBigEndian bytes) (amountScreen bytes) := by
  unfold U256.fromBigEndian
  by_cases length : bytes.length ≤ 32
  · rw [if_pos length]
    exact screened_ok _ (decide_eq_true length) (decide_eq_true length)
  · rw [if_neg length]
    exact screened_panic (decide_eq_false length) (decide_eq_false length)

theorem holder_screened (holderLength : Nat) (rest : Bytes) :
    Screened
      (if holderLength > 0 then
        if length : rest.length = 20 then .ok ⟨⟨rest.toArray, by simpa using length⟩⟩ else .panic
      else .ok ⟨Address.zero⟩ : Outcome ConversionError Asset)
      (rely (holderLength = 0 ∨ rest.length = 20)) := by
  by_cases empty : holderLength = 0
  · have fits := decide_eq_true (Or.inl empty : holderLength = 0 ∨ rest.length = 20)
    rw [if_neg (by omega)]
    exact screened_ok _ fits fits
  · rw [if_pos (by omega)]
    by_cases length : rest.length = 20
    · have fits := decide_eq_true (Or.inr length : holderLength = 0 ∨ rest.length = 20)
      rw [dif_pos length]
      exact screened_ok _ fits fits
    · have differs := decide_eq_false (not_or.mpr ⟨empty, length⟩)
      rw [dif_neg length]
      exact screened_panic differs differs

theorem asset_screened (bytes : Bytes) : Screened (assetFromWire bytes) (assetScreen bytes) := by
  rcases bytes with _ | ⟨low, _ | ⟨high, rest⟩⟩
  · exact screened_err _ rfl rfl
  · exact screened_err _ rfl rfl
  · have checked := @screened_check ConversionError Asset (low.toNat + 256 * high.toNat ≤ 20) _
      .byteLengthMissmatch _ _ fun _ => holder_screened (low.toNat + 256 * high.toNat) rest
    simp only [not_le] at checked
    exact checked

theorem convert_each_screened {α β : Type} {convert : β → Outcome ConversionError α}
    {screen : β → Screen} (reads : ∀ item, Screened (convert item) (screen item)) (items : List β) :
    Screened (convertEach convert items) (each screen items) := by
  induction items with
  | nil => exact screened_ok [] rfl rfl
  | cons item rest ih =>
      exact screened_bind (reads item) fun value _ => screened_map (fun values => value :: values) ih

theorem fill_array_screened {α β : Type} {convert : β → Outcome ConversionError α}
    {screen : β → Screen} (default : α) (reads : ∀ item, Screened (convert item) (screen item))
    (n : Nat) (items : List β) :
    Screened (fillArray default convert n items) (arrayScreen screen n items) :=
  screened_map _ (convert_each_screened reads (items.take n))

theorem participant_balances_screened (value : perunwire.Balance) :
    Screened (participantBalancesFromWire value : Outcome _ (ParticipantBalances P))
      (participantBalancesScreen P value) :=
  screened_check fun _ => fill_array_screened 0 amount_screened P value.balance

theorem balances_screened (value : perunwire.Balances) :
    Screened (balancesFromWire value : Outcome _ (Balances A P)) (balancesScreen A P value) :=
  screened_check fun _ => fill_array_screened _ participant_balances_screened A value.balances

theorem allocation_screened (value : perunwire.Allocation) :
    Screened (allocationFromWire value : Outcome _ (Allocation A P))
      (allocationScreen A P value) := by
  apply screened_bind (fill_array_screened _ asset_screened A value.assets)
  intro assets _
  exact screened_given value.balances fun balances => screened_map _ (balances_screened balances)

theorem address_screened (bytes : Bytes) :
    Screened (addressFromWire bytes) (bytesScreen 20 bytes) :=
  screened_map _ (to_array_screened 20 bytes)

theorem signature_screened (bytes : Bytes) :
    Screened (signatureFromWire bytes) (bytesScreen 65 bytes) :=
  screened_map _ (to_array_screened 65 bytes)

theorem state_screened (value : perunwire.State) :
    Screened (stateFromWire value : Outcome _ (State A P)) (stateScreen A P value) := by
  have reads : Screened (do
      let id ← toArray 32 value.id
      let allocation ← expectSome value.allocation
      let outcome ← allocationFromWire allocation
      .ok ⟨⟨id⟩, value.version, outcome, value.isFinal⟩ : Outcome ConversionError (State A P))
      ((bytesScreen 32 value.id).andThen (given (allocationScreen A P) value.allocation)) :=
    screened_bind (to_array_screened 32 value.id) fun id _ =>
      screened_given value.allocation fun allocation =>
        screened_map _ (allocation_screened allocation)
  have checked := @screened_check _ _ (value.data = []) _
    ConversionError.stateChannelsNotSupported _ _ fun _ => reads
  simpa [stateFromWire, stateScreen] using checked

theorem params_screened (value : perunwire.Params) :
    Screened (paramsFromWire value : Outcome _ (Params P)) (paramsScreen P value) := by
  apply screened_bind (fill_array_screened _ address_screened P value.parts)
  intro parts _
  exact screened_map _ (amount_screened value.nonce)

theorem signatures_screened (sigs : List Bytes) :
    Screened (signaturesFromWire sigs) (signaturesScreen sigs) :=
  screened_check fun _ => fill_array_screened _ signature_screened 2 sigs

theorem proposal_screened (value : perunwire.LedgerChannelProposalMsg) :
    Screened (proposalFromWire value) (proposalScreen value) := by
  refine screened_given value.baseChannelProposal fun base =>
    screened_given base.initBals fun initBals =>
      screened_given base.fundingAgreement fun fundingAgreement => ?_
  apply screened_bind (to_array_screened 32 base.proposalId)
  intro proposalId _
  apply screened_bind (to_array_screened 32 base.nonceShare)
  intro nonceShare _
  apply screened_bind (allocation_screened initBals)
  intro initBals _
  apply screened_bind (balances_screened fundingAgreement)
  intro fundingAgreement _
  exact screened_map _ (address_screened value.participant)

theorem proposal_acc_screened (value : perunwire.LedgerChannelProposalAccMsg) :
    Screened (proposalAccFromWire value) (proposalAccScreen value) := by
  apply screened_given value.baseChannelProposalAcc
  intro base
  apply screened_bind (to_array_screened 32 base.proposalId)
  intro proposalId _
  apply screened_bind (to_array_screened 32 base.nonceShare)
  intro nonceShare _
  exact screened_map _ (address_screened value.participant)

theorem update_screened (value : perunwire.ChannelUpdateMsg) :
    Screened (updateFromWire value) (updateScreen value) := by
  refine screened_given value.channelUpdate fun update =>
    screened_given update.state fun state => ?_
  apply screened_bind (state_screened state)
  intro state _
  exact screened_map _ (signature_screened value.sig)

theorem update_accepted_screened (value : perunwire.ChannelUpdateAccMsg) :
    Screened (updateAcceptedFromWire value) (updateAcceptedScreen value) := by
  apply screened_bind (to_array_screened 32 value.channelId)
  intro channel _
  exact screened_map _ (signature_screened value.sig)

theorem transaction_screened (value : perunwire.Transaction) :
    Screened (transactionFromWire value) (transactionScreen value) := by
  apply screened_given value.state
  intro state
  apply screened_bind (signatures_screened value.sigs)
  intro sigs _
  exact screened_map _ (state_screened state)

theorem adjudicator_req_screened (value : perunwire.AdjudicatorReq) :
    Screened (adjudicatorReqFromWire value) (adjudicatorReqScreen value) := by
  apply screened_given_bind value.params params_screened
  intro params
  apply screened_bind (address_screened value.acc)
  intro acc _
  exact screened_given value.tx fun tx => screened_map _ (transaction_screened tx)

theorem fund_req_screened (value : perunwire.FundReq) :
    Screened (fundReqFromWire value) (fundReqScreen value) := by
  apply screened_given_bind value.agreement balances_screened
  intro agreement
  apply screened_given_bind value.params params_screened
  intro params
  exact screened_given value.state fun state => screened_map _ (state_screened state)

theorem start_watching_screened (value : perunwire.StartWatchingLedgerChannelReq) :
    Screened (startWatchingFromWire value) (startWatchingScreen value) := by
  apply screened_bind (signatures_screened value.sigs)
  intro sigs _
  apply screened_given_bind value.params params_screened
  intro params
  exact screened_given value.state fun state => screened_map _ (state_screened state)

theorem withdrawal_auth_screened (value : perunwire.SignedWithdrawalAuth) :
    Screened (withdrawalAuthFromWire value) (withdrawalAuthScreen value) := by
  apply screened_bind (signature_screened value.sig)
  intro sig _
  exact screened_map _ (address_screened value.receiver)

theorem watch_info_screened (value : perunwire.WatchRequestMsg) :
    Screened (watchInfoFromWire value) (watchInfoScreen value) := by
  refine screened_given value.state fun signedState =>
    screened_check fun _ => screened_check fun _ => ?_
  apply screened_bind (fill_array_screened _ signature_screened 2 signedState.sigs)
  intro signatures _
  apply screened_bind (fill_array_screened _ withdrawal_auth_screened 1 value.withdrawalAuths)
  intro withdrawalAuths _
  apply screened_given_bind signedState.params params_screened
  intro params
  exact screened_given signedState.state fun state => screened_map _ (state_screened state)

theorem force_close_screened (value : perunwire.ForceCloseRequestMsg) :
    Screened (forceCloseFromWire value) (forceCloseScreen value) :=
  screened_given value.latest watch_info_screened

/-- Which messages each decoder survives. `A` and `P` are those of the types that are
generic in them. -/
structure AbortsUnlessSafe (A P : Nat) : Prop where
  params : ∀ value, (paramsFromWire value : Outcome _ (Params P)) ≠ .panic ↔
    (paramsScreen P value).safe = true
  state : ∀ value, (stateFromWire value : Outcome _ (State A P)) ≠ .panic ↔
    (stateScreen A P value).safe = true
  balances : ∀ value, (balancesFromWire value : Outcome _ (Balances A P)) ≠ .panic ↔
    (balancesScreen A P value).safe = true
  participantBalances : ∀ value,
    (participantBalancesFromWire value : Outcome _ (ParticipantBalances P)) ≠ .panic ↔
      (participantBalancesScreen P value).safe = true
  allocation : ∀ value, (allocationFromWire value : Outcome _ (Allocation A P)) ≠ .panic ↔
    (allocationScreen A P value).safe = true
  proposal : ∀ value, proposalFromWire value ≠ .panic ↔ (proposalScreen value).safe = true
  proposalAcc : ∀ value, proposalAccFromWire value ≠ .panic ↔
    (proposalAccScreen value).safe = true
  update : ∀ value, updateFromWire value ≠ .panic ↔ (updateScreen value).safe = true
  updateAccepted : ∀ value, updateAcceptedFromWire value ≠ .panic ↔
    (updateAcceptedScreen value).safe = true
  fundReq : ∀ value, fundReqFromWire value ≠ .panic ↔ (fundReqScreen value).safe = true
  adjudicatorReq : ∀ value, adjudicatorReqFromWire value ≠ .panic ↔
    (adjudicatorReqScreen value).safe = true
  startWatching : ∀ value, startWatchingFromWire value ≠ .panic ↔
    (startWatchingScreen value).safe = true
  watchInfo : ∀ value, watchInfoFromWire value ≠ .panic ↔ (watchInfoScreen value).safe = true
  forceClose : ∀ value, forceCloseFromWire value ≠ .panic ↔ (forceCloseScreen value).safe = true

/-- A decoder returns exactly if no amount, nonce or asset of a wrong length is read:
everything before it is as it should be. -/
theorem decoding_returns_iff (A P : Nat) : AbortsUnlessSafe A P where
  params value := (params_screened value).safe
  state value := (state_screened value).safe
  balances value := (balances_screened value).safe
  participantBalances value := (participant_balances_screened value).safe
  allocation value := (allocation_screened value).safe
  proposal value := (proposal_screened value).safe
  proposalAcc value := (proposal_acc_screened value).safe
  update value := (update_screened value).safe
  updateAccepted value := (update_accepted_screened value).safe
  fundReq value := (fund_req_screened value).safe
  adjudicatorReq value := (adjudicator_req_screened value).safe
  startWatching value := (start_watching_screened value).safe
  watchInfo value := (watch_info_screened value).safe
  forceClose value := (force_close_screened value).safe

/-- A nonce of 33 bytes, an amount of 33 bytes, and an asset of two bytes that announce
one more. -/
theorem decoding_aborts :
    (paramsFromWire ⟨[], 25, [], [], List.replicate 33 0, true, false⟩ :
      Outcome ConversionError (Params 2)) = .panic ∧
    (participantBalancesFromWire ⟨[List.replicate 33 0, []]⟩ :
      Outcome ConversionError (ParticipantBalances 2)) = .panic ∧
    (allocationFromWire ⟨[[1, 0]], none, []⟩ :
      Outcome ConversionError (Allocation 1 2)) = .panic :=
  ⟨rfl, rfl, rfl⟩

end Decoders

/-! The shape that a fixed number of assets and participants asks for. -/
section Shapes

def ParamsShape (P : Nat) (value : perunwire.Params) : Prop := value.parts.length = P

def BalancesShape (A P : Nat) (value : perunwire.Balances) : Prop :=
  value.balances.length = A ∧ ∀ row ∈ value.balances, row.balance.length = P

def AllocationShape (A P : Nat) (value : perunwire.Allocation) : Prop :=
  value.assets.length = A ∧ (∃ balances, value.balances = some balances ∧ BalancesShape A P balances) ∧
    value.locked = []

/-- A part that has to be there and to have the given shape. -/
def Holds {β : Type} (Shape : β → Prop) (part : Option β) : Prop :=
  ∃ value, part = some value ∧ Shape value

def StateShape (A P : Nat) (value : perunwire.State) : Prop :=
  Holds (AllocationShape A P) value.allocation

def ProposalShape (value : perunwire.LedgerChannelProposalMsg) : Prop :=
  Holds (fun base => Holds (AllocationShape 1 2) base.initBals ∧
    Holds (BalancesShape 1 2) base.fundingAgreement) value.baseChannelProposal

def UpdateShape (value : perunwire.ChannelUpdateMsg) : Prop :=
  Holds (fun update => Holds (StateShape 1 2) update.state) value.channelUpdate

def FundReqShape (value : perunwire.FundReq) : Prop :=
  Holds (BalancesShape 1 2) value.agreement ∧ Holds (ParamsShape 2) value.params ∧
    Holds (StateShape 1 2) value.state

def AdjudicatorReqShape (value : perunwire.AdjudicatorReq) : Prop :=
  Holds (ParamsShape 2) value.params ∧ Holds (fun tx => Holds (StateShape 1 2) tx.state) value.tx

def StartWatchingShape (value : perunwire.StartWatchingLedgerChannelReq) : Prop :=
  Holds (ParamsShape 2) value.params ∧ Holds (StateShape 1 2) value.state

def WatchInfoShape (value : perunwire.WatchRequestMsg) : Prop :=
  Holds (fun signedState => Holds (ParamsShape 2) signedState.params ∧
    Holds (StateShape 1 2) signedState.state) value.state

def ForceCloseShape (value : perunwire.ForceCloseRequestMsg) : Prop :=
  Holds WatchInfoShape value.latest

/-- What is decoded had the shape, and everything else is an error. -/
def Strict {α β : Type} (convert : β → Outcome ConversionError α) (Shape : β → Prop)
    (value : β) : Prop :=
  (∀ result, convert value = .ok result → Shape value) ∧
    (¬Shape value → ∃ error, convert value = .err error)

/-- The participants that are decoded are the entries of the message. -/
def SameParts (P : Nat) (value : perunwire.Params) : Prop :=
  ∀ result : Params P, paramsFromWire value = .ok result →
    ∀ i (bound : i < P), value.parts[i]? = some result.participants[i].bytes.toList

theorem strict_iff {α β : Type} {convert : β → Outcome ConversionError α} {Shape : β → Prop}
    {value : β} {screen : Screen} (reads : Screened (convert value) screen) :
    Strict convert Shape value ↔ Shape value ∨ screen.refused = true := by
  rw [← reads.refused, Strict]
  constructor
  · rintro ⟨_, refuses⟩
    by_cases shape : Shape value
    · exact Or.inl shape
    · exact Or.inr (refuses shape)
  · rintro (shape | ⟨error, refused⟩)
    · exact ⟨fun _ _ => shape, fun other => absurd shape other⟩
    · constructor
      · intro result decoded
        rw [decoded] at refused
        cases refused
      · exact fun _ => ⟨error, refused⟩

theorem each_check {β : Type} (accept : β → Bool) (items : List β) :
    each (fun item => check (accept item)) items = check (items.all accept) := by
  induction items with
  | nil => rfl
  | cons item rest ih =>
      rw [each, ih, List.all_cons]
      simp [andThen, check]

/-- The only check of the parameters is that of the entries they read. -/
theorem params_refused_iff {P : Nat} (value : perunwire.Params) :
    (paramsScreen P value).refused = true ↔ ∃ part ∈ value.parts.take P, part.length ≠ 20 := by
  have entries : arrayScreen (bytesScreen 20) P value.parts =
      check ((value.parts.take P).all fun part => part.length = 20) := each_check _ _
  rw [paramsScreen, entries]
  cases accepted : (value.parts.take P).all fun part => decide (part.length = 20) with
  | true =>
      rw [List.all_eq_true] at accepted
      refine iff_of_false (by simp [refused, andThen, check, amountScreen, rely]) ?_
      rintro ⟨part, among, other⟩
      exact other (by simpa using accepted part among)
  | false =>
      rw [List.all_eq_false] at accepted
      refine iff_of_true (by simp [refused, andThen, check]) ?_
      rcases accepted with ⟨part, among, other⟩
      exact ⟨part, among, by simpa using other⟩

/-! When an allocation or a state is refused: the first part that is not read is one that is
checked. -/

def announcedHolder (low high : UInt8) : Nat := low.toNat + 256 * high.toNat

def AssetRead (bytes : Bytes) : Prop :=
  ∃ low high rest, bytes = low :: high :: rest ∧ announcedHolder low high ≤ 20 ∧
    (announcedHolder low high = 0 ∨ rest.length = 20)

def AssetRefused (bytes : Bytes) : Prop :=
  bytes.length < 2 ∨ ∃ low high rest, bytes = low :: high :: rest ∧ 20 < announcedHolder low high

def RowRead (P : Nat) (row : perunwire.Balance) : Prop :=
  row.balance.length = P ∧ ∀ amount ∈ row.balance, amount.length ≤ 32

def BalancesRefused (A P : Nat) (value : perunwire.Balances) : Prop :=
  value.balances.length ≠ A ∨
    FirstRefused (RowRead P) (fun row => row.balance.length ≠ P) value.balances

def AllocationRefused (A P : Nat) (value : perunwire.Allocation) : Prop :=
  FirstRefused AssetRead AssetRefused (value.assets.take A) ∨
    (∀ asset ∈ value.assets.take A, AssetRead asset) ∧
      (value.balances = none ∨ ∃ balances, value.balances = some balances ∧
        BalancesRefused A P balances)

def StateRefused (A P : Nat) (value : perunwire.State) : Prop :=
  value.data ≠ [] ∨ value.id.length ≠ 32 ∨ value.allocation = none ∨
    ∃ allocation, value.allocation = some allocation ∧ AllocationRefused A P allocation

theorem asset_sound (bytes : Bytes) : (assetScreen bytes).Sound := by
  rcases bytes with _ | ⟨low, _ | ⟨high, rest⟩⟩
  · exact nofun
  · exact nofun
  · exact then_sound (fun _ => rfl) id

theorem asset_good (bytes : Bytes) : (assetScreen bytes).good = true ↔ AssetRead bytes := by
  rcases bytes with _ | ⟨low, _ | ⟨high, rest⟩⟩
  · simp [assetScreen, check, AssetRead]
  · simp [assetScreen, check, AssetRead]
  · simp [assetScreen, check, rely, andThen, AssetRead, announcedHolder]

theorem asset_refused (bytes : Bytes) : (assetScreen bytes).refused = true ↔ AssetRefused bytes := by
  rcases bytes with _ | ⟨low, _ | ⟨high, rest⟩⟩
  · simp [assetScreen, check, refused, AssetRefused]
  · simp [assetScreen, check, refused, AssetRefused]
  · have checked : (check (low.toNat + 256 * high.toNat ≤ 20)).Sound := fun _ => rfl
    have relied (condition : Bool) : (rely condition).refused = false := by
      cases condition <;> rfl
    rw [assetScreen, then_refused checked, check_refused, relied]
    simp [AssetRefused, announcedHolder]

theorem row_sound (P : Nat) (row : perunwire.Balance) : (participantBalancesScreen P row).Sound :=
  then_sound (fun _ => rfl) (each_sound (fun _ => id) _)

theorem row_good (P : Nat) (row : perunwire.Balance) :
    (participantBalancesScreen P row).good = true ↔ RowRead P row := by
  have accepted : (participantBalancesScreen P row).good = true ↔ row.balance.length = P ∧
      ∀ amount ∈ row.balance.take P, amount.length ≤ 32 := by
    simp [participantBalancesScreen, andThen, check, arrayScreen, each_good, amountScreen, rely]
  rw [accepted, RowRead]
  constructor
  · rintro ⟨length, amounts⟩
    rw [List.take_of_length_le (le_of_eq length)] at amounts
    exact ⟨length, amounts⟩
  · rintro ⟨length, amounts⟩
    exact ⟨length, fun amount member => amounts amount (List.mem_of_mem_take member)⟩

/-- An amount aborts where it is too long. -/
theorem amounts_unrefused (amounts : List Bytes) : (each amountScreen amounts).refused = false := by
  rw [Bool.eq_false_iff, Ne, each_refused fun _ => id]
  rintro ⟨before, amount, after, _, _, refused⟩
  revert refused
  unfold amountScreen
  cases decide (amount.length ≤ 32) <;> simp [rely, Screen.refused]

theorem row_refused (P : Nat) (row : perunwire.Balance) :
    (participantBalancesScreen P row).refused = true ↔ row.balance.length ≠ P := by
  have checked : (check (row.balance.length = P)).Sound := fun _ => rfl
  rw [participantBalancesScreen, then_refused checked, check_refused, arrayScreen,
    amounts_unrefused]
  simp

theorem balances_refused_iff {A P : Nat} (value : perunwire.Balances) :
    (balancesScreen A P value).refused = true ↔ BalancesRefused A P value := by
  have checked : (check (value.balances.length = A)).Sound := fun _ => rfl
  have whole (same : value.balances.length = A) : value.balances.take A = value.balances :=
    List.take_of_length_le (le_of_eq same)
  rw [balancesScreen, then_refused checked, check_refused, arrayScreen, each_refused (row_sound P),
    BalancesRefused]
  simp only [row_good, row_refused]
  by_cases same : value.balances.length = A
  · simp [check, same, whole same]
  · simp [same]

theorem allocation_refused_iff {A P : Nat} (value : perunwire.Allocation) :
    (allocationScreen A P value).refused = true ↔ AllocationRefused A P value := by
  rw [allocationScreen, arrayScreen, then_refused (each_sound asset_sound _),
    each_refused asset_sound, each_good, given_refused]
  simp only [asset_good, asset_refused, balances_refused_iff]
  rfl

theorem state_refused_iff {A P : Nat} (value : perunwire.State) :
    (stateScreen A P value).refused = true ↔ StateRefused A P value := by
  have checked (condition : Bool) : (check condition).Sound := fun _ => rfl
  rw [stateScreen, bytesScreen, then_refused (checked _), then_refused (checked _), check_refused,
    check_refused, given_refused, StateRefused]
  simp only [allocation_refused_iff]
  by_cases empty : value.data = []
  · by_cases length : value.id.length = 32
    · simp [check, empty, length]
    · simp [check, empty, length]
  · simp [empty]

theorem address_bytes {bytes : Bytes} {address : Address}
    (decoded : addressFromWire bytes = .ok address) : address.bytes.toList = bytes := by
  obtain ⟨array, read, done⟩ := Outcome.bind_eq_ok.mp decoded
  cases done
  unfold toArray at read
  split at read
  · cases read
    simp
  · cases read

/-- Where the count is right every entry is decoded to itself. -/
theorem same_parts {P : Nat} {value : perunwire.Params} (shape : ParamsShape P value) :
    SameParts P value := by
  intro result decoded i bound
  obtain ⟨participants, filled, rest⟩ := Outcome.bind_eq_ok.mp decoded
  obtain ⟨nonce, _, done⟩ := Outcome.bind_eq_ok.mp rest
  cases done
  obtain ⟨values, converted, done⟩ := Outcome.bind_eq_ok.mp filled
  cases done
  rw [List.take_of_length_le (le_of_eq shape)] at converted
  have entries := convert_each_ok converted
  have inside : i < value.parts.length := lt_of_lt_of_eq bound shape.symm
  have inside' : i < values.length := lt_of_lt_of_eq inside entries.length_eq
  have entry := address_bytes (entries.get inside inside')
  rw [List.getElem?_eq_getElem inside]
  simpa [inside'] using entry.symm

/-- The parameters with their entries. -/
def ParamsStrict (P : Nat) (value : perunwire.Params) : Prop :=
  Strict (paramsFromWire : _ → Outcome _ (Params P)) (ParamsShape P) value ∧ SameParts P value

/-- For which messages each decoder is strict: those of the right shape, and those
that are refused before anything else happens. -/
structure StrictUnlessPadded (A P : Nat) : Prop where
  params : ∀ value, ParamsStrict P value ↔
    ParamsShape P value ∨ ∃ part ∈ value.parts.take P, part.length ≠ 20
  allocation : ∀ value,
    Strict (allocationFromWire : _ → Outcome _ (Allocation A P)) (AllocationShape A P) value ↔
      AllocationShape A P value ∨ AllocationRefused A P value
  state : ∀ value, Strict (stateFromWire : _ → Outcome _ (State A P)) (StateShape A P) value ↔
    StateShape A P value ∨ StateRefused A P value
  proposal : ∀ value, Strict proposalFromWire ProposalShape value ↔
    ProposalShape value ∨ (proposalScreen value).refused = true
  update : ∀ value, Strict updateFromWire UpdateShape value ↔
    UpdateShape value ∨ (updateScreen value).refused = true
  fundReq : ∀ value, Strict fundReqFromWire FundReqShape value ↔
    FundReqShape value ∨ (fundReqScreen value).refused = true
  adjudicatorReq : ∀ value, Strict adjudicatorReqFromWire AdjudicatorReqShape value ↔
    AdjudicatorReqShape value ∨ (adjudicatorReqScreen value).refused = true
  startWatching : ∀ value, Strict startWatchingFromWire StartWatchingShape value ↔
    StartWatchingShape value ∨ (startWatchingScreen value).refused = true
  watchInfo : ∀ value, Strict watchInfoFromWire WatchInfoShape value ↔
    WatchInfoShape value ∨ (watchInfoScreen value).refused = true
  forceClose : ∀ value, Strict forceCloseFromWire ForceCloseShape value ↔
    ForceCloseShape value ∨ (forceCloseScreen value).refused = true

theorem decoding_strict_iff (A P : Nat) : StrictUnlessPadded A P where
  params value := by
    rw [ParamsStrict, strict_iff (params_screened value), params_refused_iff]
    apply and_iff_left_of_imp
    rintro (shape | ⟨part, among, other⟩)
    · exact same_parts shape
    · intro result decoded
      have refused := (params_screened value).refused.mpr
        (params_refused_iff value |>.mpr ⟨part, among, other⟩)
      rw [decoded] at refused
      rcases refused with ⟨error, failed⟩
      cases failed
  allocation value := by rw [strict_iff (allocation_screened value), allocation_refused_iff]
  state value := by rw [strict_iff (state_screened value), state_refused_iff]
  proposal value := strict_iff (proposal_screened value)
  update value := strict_iff (update_screened value)
  fundReq value := strict_iff (fund_req_screened value)
  adjudicatorReq value := strict_iff (adjudicator_req_screened value)
  startWatching value := strict_iff (start_watching_screened value)
  watchInfo value := strict_iff (watch_info_screened value)
  forceClose value := strict_iff (force_close_screened value)

/-- Parameters of one participant are padded with the zero address, and an allocation
without its asset but with locked funds is decoded without them. -/
theorem decoding_pads :
    (∃ value : perunwire.Params, ∃ result : Params 2, paramsFromWire value = .ok result ∧
      value.parts.length = 1 ∧ result.participants[1] = Address.zero ∧ ¬ParamsStrict 2 value) ∧
    ∃ value : perunwire.Allocation, ∃ result : Allocation 1 2, allocationFromWire value = .ok result ∧
      value.assets = [] ∧ value.locked ≠ [] ∧ result.assets[0] = ⟨Address.zero⟩ ∧
      ¬Strict (allocationFromWire : _ → Outcome _ (Allocation 1 2)) (AllocationShape 1 2) value := by
  constructor
  · refine ⟨⟨[], 25, [List.replicate 20 1], [], [], true, false⟩, _, rfl, rfl, rfl, ?_⟩
    intro strict
    have shape : [List.replicate 20 (1 : UInt8)].length = 2 := strict.1.1 _ rfl
    cases shape
  · refine ⟨⟨[], some ⟨[⟨[[], []]⟩]⟩, [⟨[], none, none⟩]⟩, _, rfl, rfl, by simp, rfl, ?_⟩
    intro strict
    have shape : ([] : List Bytes).length = 1 := (strict.1 _ rfl).1
    cases shape

end Shapes
end Perun.WireStrictness
