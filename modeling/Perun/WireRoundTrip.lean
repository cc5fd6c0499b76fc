import Perun.Wire

/-! Which messages survive the way over the wire. Everything but the asset
holders does: the encoder writes the bare address and the decoder expects its
length first. Each message is reduced to the round trip of the allocation it
carries. -/
namespace Perun.WireRoundTrip
open BigEndian AbiTypes Payment Messages Wire

section Primitives
variable {α β : Type}

theorem convert_each_map {convert : β → Outcome ConversionError α} {encode : α → β}
    (values : List α) (each : ∀ value ∈ values, convert (encode value) = .ok value) :
    convertEach convert (values.map encode) = .ok values := by
  induction values with
  | nil => rfl
  | cons value rest ih =>
      have later := ih fun v member => each v (List.mem_cons_of_mem value member)
      simp [convertEach, each value List.mem_cons_self, later]

theorem convert_each_ok {convert : β → Outcome ConversionError α} {items : List β}
    {values : List α} (converted : convertEach convert items = .ok values) :
    List.Forall₂ (fun item value => convert item = .ok value) items values := by
  induction items generalizing values with
  | nil =>
      cases converted
      exact List.Forall₂.nil
  | cons item rest ih =>
      obtain ⟨value, first, later⟩ := Outcome.bind_eq_ok.mp converted
      obtain ⟨others, rest, done⟩ := Outcome.bind_eq_ok.mp later
      cases done
      exact List.Forall₂.cons first (ih rest)

theorem forall₂_mem_right {related : β → α → Prop} {items : List β} {values : List α}
    (all : List.Forall₂ related items values) (value : α) (member : value ∈ values) :
    ∃ item ∈ items, related item value := by
  induction all with
  | nil => cases member
  | cons first _ ih =>
      rcases List.mem_cons.mp member with same | later
      · exact ⟨_, List.mem_cons_self, same ▸ first⟩
      · obtain ⟨item, inside, holds⟩ := ih later
        exact ⟨item, List.mem_cons_of_mem _ inside, holds⟩

theorem vector_of_list {n : Nat} (v : Vector α n) (default : α) :
    (Vector.ofFn fun i : Fin n => v.toList.getD i default) = v := by
  apply Vector.ext
  intro i bound
  simp

theorem fill_array_map {convert : β → Outcome ConversionError α} {encode : α → β} {n : Nat}
    (default : α) (v : Vector α n) (each : ∀ value ∈ v.toList, convert (encode value) = .ok value) :
    fillArray default convert n (v.toList.map encode) = .ok v := by
  have whole : (v.toList.map encode).take n = v.toList.map encode := by
    apply List.take_of_length_le
    simp
  rw [fillArray, whole, convert_each_map _ each, Outcome.ok_bind, vector_of_list]

@[simp] theorem to_array_to_list {n : Nat} (v : Vector UInt8 n) : toArray n v.toList = .ok v := by
  simp only [toArray, Vector.length_toList, ↓reduceDIte, Vector.toArray_toList]

@[simp] theorem from_big_endian_round_trip (v : U256) :
    Wire.U256.fromBigEndian (U256.toBigEndian v) = .ok v := by
  have value : ofBigEndian (U256.toBigEndian v) = v.toNat := by
    rw [U256.toBigEndian, ofBigEndian_bigEndian, Nat.mod_eq_of_lt (U256.toNat_bound v)]
  have short : (U256.toBigEndian v).length ≤ 32 := by
    rw [U256.toBigEndian, bigEndian_length]
  rw [Wire.U256.fromBigEndian, if_pos short, value, BitVec.ofNat_toNat, BitVec.setWidth_eq]

@[simp] theorem address_round_trip (v : Address) : addressFromWire v.bytes.toList = .ok v := by
  simp [addressFromWire]

@[simp] theorem signature_round_trip (v : Signature) : signatureFromWire v.bytes.toList = .ok v := by
  simp [signatureFromWire]

@[simp] theorem signatures_round_trip (v : Vector Signature 2) :
    signaturesFromWire (signaturesToWire v) = .ok v := by
  have length : (signaturesToWire v).length = 2 := by simp [signaturesToWire]
  rw [signaturesFromWire, if_neg (by simp [length]), signaturesToWire]
  exact fill_array_map _ v fun sig _ => signature_round_trip sig

end Primitives

variable {A P : Nat}

@[simp] theorem participant_balances_round_trip (v : ParticipantBalances P) :
    participantBalancesFromWire (participantBalancesToWire v) = .ok v := by
  have length : (participantBalancesToWire v).balance.length = P := by
    simp [participantBalancesToWire]
  rw [participantBalancesFromWire, if_neg (by simp [length])]
  exact fill_array_map _ v fun amount _ => from_big_endian_round_trip amount

@[simp] theorem balances_round_trip (v : Balances A P) :
    balancesFromWire (balancesToWire v) = .ok v := by
  have length : (balancesToWire v).balances.length = A := by simp [balancesToWire]
  rw [balancesFromWire, if_neg (by simp [length])]
  exact fill_array_map _ v fun row _ => participant_balances_round_trip row

/-! The asset holders. -/

-- Whatever is read back from a bare address, it is the zero address.
theorem asset_reads_zero {asset read : Asset} (ok : assetFromWire (assetToWire asset) = .ok read) :
    read.holder = Address.zero := by
  have length : (assetToWire asset).length = 20 := by simp [assetToWire]
  rcases bytes : assetToWire asset with _ | ⟨low, _ | ⟨high, rest⟩⟩
  · rw [bytes] at ok
    cases ok
  · rw [bytes] at ok
    cases ok
  · rw [bytes] at ok length
    have short : rest.length ≠ 20 := by
      simp only [List.length_cons] at length
      omega
    simp only [assetFromWire, short, ↓reduceDIte] at ok
    split at ok
    · cases ok
    · split at ok
      · cases ok
      · cases ok
        rfl

theorem asset_round_trip (asset : Asset) :
    assetFromWire (assetToWire asset) = .ok asset ↔ asset.holder = Address.zero := by
  constructor
  · exact asset_reads_zero
  · intro zero
    rcases asset with ⟨holder⟩
    rw [show holder = Address.zero from zero]
    decide

def HoldersZero (allocation : Allocation A P) : Prop :=
  ∀ asset ∈ allocation.assets.toList, asset.holder = Address.zero

theorem assets_round_trip (assets : Vector Asset A) :
    fillArray ⟨Address.zero⟩ assetFromWire A (assets.toList.map assetToWire) = .ok assets ↔
      ∀ asset ∈ assets.toList, asset.holder = Address.zero := by
  constructor
  · intro filled asset member
    obtain ⟨values, converted, done⟩ := Outcome.bind_eq_ok.mp filled
    have zeros : ∀ value ∈ values, value.holder = Address.zero := by
      intro value inside
      obtain ⟨bytes, written, read⟩ := forall₂_mem_right (convert_each_ok converted) value inside
      obtain ⟨source, _, rfl⟩ := List.mem_map.mp (List.mem_of_mem_take written)
      exact asset_reads_zero read
    rw [← Outcome.ok.inj done, Vector.mem_toList_iff, Vector.mem_ofFn] at member
    obtain ⟨i, rfl⟩ := member
    rw [List.getD_eq_getElem?_getD]
    cases found : values[i.val]? with
    | none => rfl
    | some value => exact zeros value (List.mem_of_getElem? found)
  · intro zero
    exact fill_array_map _ assets fun asset member => (asset_round_trip asset).mpr (zero asset member)

/-! A message is read back up to what its allocation is read back as. -/
section Carried
variable {α β : Type}

theorem carried_eq_ok {inner : Outcome ConversionError α} (put : α → β)
    (faithful : Function.Injective put) {value : α} :
    (inner >>= fun read => .ok (put read)) = .ok (put value) ↔ inner = .ok value := by
  constructor
  · intro whole
    obtain ⟨read, first, done⟩ := Outcome.bind_eq_ok.mp whole
    rw [first, faithful (Outcome.ok.inj done)]
  · intro ok
    rw [ok, Outcome.ok_bind]

theorem allocation_round_trip (value : Allocation A P) :
    allocationFromWire (allocationToWire value) = .ok value ↔ HoldersZero value := by
  have carried : (allocationFromWire (allocationToWire value) :
      Outcome ConversionError (Allocation A P)) =
      fillArray ⟨Address.zero⟩ assetFromWire A (value.assets.toList.map assetToWire) >>=
        fun assets => .ok { value with assets := assets } := by
    simp [allocationFromWire, allocationToWire, expectSome]
  rw [carried, HoldersZero, ← assets_round_trip]
  exact carried_eq_ok (fun assets => { value with assets := assets })
    fun _ _ same => congrArg Allocation.assets same

def stateBack (value : State A P) : Outcome ConversionError (State A P) :=
  stateFromWire (stateToWire value)

theorem state_round_trip (value : State A P) :
    stateBack value = .ok value ↔ HoldersZero value.outcome := by
  have carried : stateBack value = allocationFromWire (allocationToWire value.outcome) >>=
      fun outcome => .ok { value with outcome := outcome } := by
    simp [stateBack, stateFromWire, stateToWire, expectSome]
  rw [carried, ← allocation_round_trip]
  exact carried_eq_ok (fun outcome : Allocation A P => { value with outcome := outcome })
    fun _ _ same => congrArg State.outcome same

theorem proposal_round_trip (value : LedgerChannelProposal) :
    proposalFromWire (proposalToWire value) = .ok value ↔ HoldersZero value.initBals := by
  have carried : proposalFromWire (proposalToWire value) =
      allocationFromWire (allocationToWire value.initBals) >>=
        fun initBals => .ok { value with initBals := initBals } := by
    simp [proposalFromWire, proposalToWire, expectSome]
  rw [carried, ← allocation_round_trip]
  exact carried_eq_ok (fun initBals => { value with initBals := initBals })
    fun _ _ same => congrArg LedgerChannelProposal.initBals same

theorem index_round_trip {n : Nat} (small : n < 2 ^ 32) : (BitVec.ofNat 32 n).toNat = n := by
  rw [BitVec.toNat_ofNat, Nat.mod_eq_of_lt small]

theorem update_round_trip (value : LedgerChannelUpdate) (small : value.actorIdx < 2 ^ 32) :
    updateFromWire (updateToWire value) = .ok value ↔ HoldersZero value.state.outcome := by
  have carried : updateFromWire (updateToWire value) =
      stateBack value.state >>= fun state => .ok { value with state := state } := by
    simp only [updateFromWire, updateToWire, expectSome, Outcome.okOr_some, Outcome.ok_bind,
      signature_round_trip, index_round_trip small, stateBack]
  rw [carried, ← state_round_trip]
  exact carried_eq_ok (fun state => { value with state := state })
    fun _ _ same => congrArg LedgerChannelUpdate.state same

def transactionBack (value : Transaction) : Outcome ConversionError Transaction :=
  transactionFromWire (transactionToWire value)

theorem transaction_round_trip (value : Transaction) :
    transactionBack value = .ok value ↔ HoldersZero value.state.outcome := by
  have carried : transactionBack value =
      stateBack value.state >>= fun state => .ok { value with state := state } := by
    simp [transactionBack, transactionFromWire, transactionToWire, expectSome, stateBack]
  rw [carried, ← state_round_trip]
  exact carried_eq_ok (fun state => { value with state := state })
    fun _ _ same => congrArg Transaction.state same

end Carried

/-! Requests that also carry parameters. -/
section Requests
variable (build : Build) (keccak256 : List UInt8 → Hash)

/-- Parameters that can be hashed are read back, and their hash goes with them. -/
theorem hashed_params_round_trip {P : Nat} {value : Params P} {id : Hash}
    (hashed : toHash build keccak256 value.abi.toValue = .ok id)
    (noApp : value.app = Address.zero) :
    ∃ wire, paramsToWire build keccak256 value = .ok wire ∧ paramsFromWire wire = .ok value ∧
      wire.id = id.bytes.toList := by
  have parts : fillArray Address.zero addressFromWire P
      (value.participants.toList.map fun part => part.bytes.toList) = .ok value.participants :=
    fill_array_map _ value.participants fun part _ => address_round_trip part
  refine ⟨_, by rw [paramsToWire, hashed], ?_, rfl⟩
  rcases value with ⟨duration, nonce, participants, app, ledger, virtual⟩
  simp only at noApp parts
  simp [paramsFromWire, parts, noApp]

theorem params_round_trip (value : Params 2) (noApp : value.app = Address.zero) :
    ∃ wire, paramsToWire build keccak256 value = .ok wire ∧ paramsFromWire wire = .ok value := by
  obtain ⟨wire, written, read, _⟩ :=
    hashed_params_round_trip build keccak256 (to_hash_params build keccak256 value) noApp
  exact ⟨wire, written, read⟩

theorem adjudicator_req_round_trip (value : AdjudicatorReq)
    (noApp : value.params.app = Address.zero)
    (small : value.idx < 2 ^ 32) :
    (adjudicatorReqToWire build keccak256 value >>= adjudicatorReqFromWire) = .ok value ↔
      HoldersZero value.tx.state.outcome := by
  obtain ⟨wire, written, read⟩ := params_round_trip build keccak256 value.params noApp
  have carried : (adjudicatorReqToWire build keccak256 value >>= adjudicatorReqFromWire) =
      transactionBack value.tx >>= fun tx => .ok { value with tx := tx } := by
    simp only [adjudicatorReqToWire, adjudicatorReqFromWire, written, read, expectSome,
      Outcome.okOr_some, Outcome.ok_bind, address_round_trip, index_round_trip small,
      transactionBack]
  rw [carried, ← transaction_round_trip]
  exact carried_eq_ok (fun tx => { value with tx := tx })
    fun _ _ same => congrArg AdjudicatorReq.tx same

theorem register_req_round_trip (value : RegisterReq)
    (noApp : value.adjReq.params.app = Address.zero) (small : value.adjReq.idx < 2 ^ 32) :
    (registerReqToWire build keccak256 value >>= registerReqFromWire) = .ok value ↔
      HoldersZero value.adjReq.tx.state.outcome := by
  have carried : (registerReqToWire build keccak256 value >>= registerReqFromWire) =
      (adjudicatorReqToWire build keccak256 value.adjReq >>= adjudicatorReqFromWire) >>=
        fun adjReq => .ok ⟨adjReq⟩ := by
    rw [registerReqToWire]
    cases adjudicatorReqToWire build keccak256 value.adjReq <;>
      simp [registerReqFromWire, expectSome]
  rw [carried, ← adjudicator_req_round_trip build keccak256 value.adjReq noApp small]
  exact carried_eq_ok RegisterReq.mk fun _ _ same => congrArg RegisterReq.adjReq same

theorem withdraw_req_round_trip (value : WithdrawReq)
    (noApp : value.adjReq.params.app = Address.zero) (small : value.adjReq.idx < 2 ^ 32) :
    (withdrawReqToWire build keccak256 value >>= withdrawReqFromWire) = .ok value ↔
      HoldersZero value.adjReq.tx.state.outcome := by
  have carried : (withdrawReqToWire build keccak256 value >>= withdrawReqFromWire) =
      (adjudicatorReqToWire build keccak256 value.adjReq >>= adjudicatorReqFromWire) >>=
        fun adjReq => .ok ⟨adjReq⟩ := by
    rw [withdrawReqToWire]
    cases adjudicatorReqToWire build keccak256 value.adjReq <;>
      simp [withdrawReqFromWire, expectSome]
  rw [carried, ← adjudicator_req_round_trip build keccak256 value.adjReq noApp small]
  exact carried_eq_ok WithdrawReq.mk fun _ _ same => congrArg WithdrawReq.adjReq same

theorem fund_req_round_trip (value : LedgerChannelFundingRequest)
    (noApp : value.params.app = Address.zero) (small : value.partIdx < 2 ^ 32) :
    (fundReqToWire build keccak256 value >>= fundReqFromWire) = .ok value ↔
      HoldersZero value.state.outcome := by
  obtain ⟨wire, written, read⟩ := params_round_trip build keccak256 value.params noApp
  have carried : (fundReqToWire build keccak256 value >>= fundReqFromWire) =
      stateBack value.state >>= fun state => .ok { value with state := state } := by
    simp only [fundReqToWire, fundReqFromWire, written, read, expectSome, Outcome.okOr_some,
      Outcome.ok_bind, balances_round_trip, index_round_trip small, stateBack]
  rw [carried, ← state_round_trip]
  exact carried_eq_ok (fun state => { value with state := state })
    fun _ _ same => congrArg LedgerChannelFundingRequest.state same

theorem start_watching_round_trip (value : StartWatchingLedgerChannelReq)
    (noApp : value.params.app = Address.zero) :
    (startWatchingToWire build keccak256 value >>= startWatchingFromWire) = .ok value ↔
      HoldersZero value.state.outcome := by
  obtain ⟨wire, written, read⟩ := params_round_trip build keccak256 value.params noApp
  have carried : (startWatchingToWire build keccak256 value >>= startWatchingFromWire) =
      stateBack value.state >>= fun state => .ok { value with state := state } := by
    simp only [startWatchingToWire, startWatchingFromWire, written, read, expectSome,
      Outcome.okOr_some, Outcome.ok_bind, signatures_round_trip, stateBack]
  rw [carried, ← state_round_trip]
  exact carried_eq_ok (fun state => { value with state := state })
    fun _ _ same => congrArg StartWatchingLedgerChannelReq.state same

end Requests

/-- A value that carries an allocation is read back from its wire form exactly
when all its asset holders are the zero address. -/
theorem wire_round_trip_iff (build : Build) (keccak256 : List UInt8 → Hash) :
    (∀ (A P : Nat) (value : Allocation A P),
      allocationFromWire (allocationToWire value) = .ok value ↔ HoldersZero value) ∧
    (∀ (A P : Nat) (value : State A P),
      stateFromWire (stateToWire value) = .ok value ↔ HoldersZero value.outcome) ∧
    (∀ value : LedgerChannelProposal,
      proposalFromWire (proposalToWire value) = .ok value ↔ HoldersZero value.initBals) ∧
    (∀ value : LedgerChannelUpdate, value.actorIdx < 2 ^ 32 →
      (updateFromWire (updateToWire value) = .ok value ↔ HoldersZero value.state.outcome)) ∧
    (∀ value : Transaction,
      transactionFromWire (transactionToWire value) = .ok value ↔
        HoldersZero value.state.outcome) ∧
    (∀ value : AdjudicatorReq, value.params.app = Address.zero → value.idx < 2 ^ 32 →
      ((adjudicatorReqToWire build keccak256 value >>= adjudicatorReqFromWire) = .ok value ↔
        HoldersZero value.tx.state.outcome)) ∧
    (∀ value : RegisterReq, value.adjReq.params.app = Address.zero → value.adjReq.idx < 2 ^ 32 →
      ((registerReqToWire build keccak256 value >>= registerReqFromWire) = .ok value ↔
        HoldersZero value.adjReq.tx.state.outcome)) ∧
    (∀ value : WithdrawReq, value.adjReq.params.app = Address.zero → value.adjReq.idx < 2 ^ 32 →
      ((withdrawReqToWire build keccak256 value >>= withdrawReqFromWire) = .ok value ↔
        HoldersZero value.adjReq.tx.state.outcome)) ∧
    (∀ value : LedgerChannelFundingRequest, value.params.app = Address.zero →
      value.partIdx < 2 ^ 32 →
      ((fundReqToWire build keccak256 value >>= fundReqFromWire) = .ok value ↔
        HoldersZero value.state.outcome)) ∧
    (∀ value : StartWatchingLedgerChannelReq, value.params.app = Address.zero →
      ((startWatchingToWire build keccak256 value >>= startWatchingFromWire) = .ok value ↔
        HoldersZero value.state.outcome)) :=
  ⟨fun _ _ => allocation_round_trip, fun _ _ => state_round_trip, proposal_round_trip,
    update_round_trip, transaction_round_trip, adjudicator_req_round_trip build keccak256,
    register_req_round_trip build keccak256, withdraw_req_round_trip build keccak256,
    fund_req_round_trip build keccak256, start_watching_round_trip build keccak256⟩

/-- An ordinary contract address starts with a nonzero byte. -/
theorem wire_round_trip_fails :
    let holder : Address := ⟨#v[0x5B, 0x38, 0xDA, 0x6A, 0x70, 0x1C, 0x56, 0x85, 0x45, 0xDC,
      0xFC, 0xB0, 0x3F, 0xCB, 0x87, 0x5F, 0x56, 0xBE, 0xDD, 0xC4]⟩
    let value : Allocation 1 2 := ⟨#v[⟨holder⟩], #v[#v[5, 6]]⟩
    allocationFromWire (allocationToWire value) ≠ .ok value := by
  intro holder value read
  have zero := (allocation_round_trip value).mp read ⟨holder⟩ (by decide)
  exact absurd zero (by decide)

/-- An update with the zero holder, and one with an address. -/
theorem wire_round_trip_update :
    let zero : State 1 2 := ⟨⟨Vector.replicate 32 1⟩, 7, ⟨#v[⟨Address.zero⟩], #v[#v[5, 6]]⟩, false⟩
    let held : State 1 2 := { zero with outcome.assets := #v[⟨⟨Vector.replicate 20 9⟩⟩] }
    updateFromWire (updateToWire ⟨zero, 1, Signature.zero⟩) = .ok ⟨zero, 1, Signature.zero⟩ ∧
      updateFromWire (updateToWire ⟨held, 1, Signature.zero⟩) ≠ .ok ⟨held, 1, Signature.zero⟩ := by
  intro zero held
  have updates := (wire_round_trip_iff ⟨.bits32, true⟩ fun _ => ⟨Vector.replicate 32 0⟩).2.2.2.1
  refine ⟨(updates _ (by decide)).mpr ?_, fun read => ?_⟩
  · simp [HoldersZero, zero]
  · have wrong := (updates _ (by decide)).mp read ⟨⟨Vector.replicate 20 9⟩⟩ (by simp [held])
    exact absurd wrong (by decide)

end Perun.WireRoundTrip
