import Perun.WireRoundTrip

/-! The values without asset holders on the wire. Each is read back as it was, and an
amount is read from any big-endian form of at most 32 bytes, of which the encoder only
produces the longest. -/
namespace Perun.WireForms
open BigEndian Ser Passes AbiEncode AbiTypes Payment Messages Wire WireRoundTrip

/-! Integers. -/
section Integers

/-- A big-endian form of a natural below 2^256, with or without leading zeros. -/
structure Denotes (bytes : Bytes) (n : Nat) : Prop where
  value : ofBigEndian bytes = n
  small : n < 2 ^ 256
  short : bytes.length ≤ 32

instance (bytes : Bytes) (n : Nat) : Decidable (Denotes bytes n) :=
  decidable_of_iff (ofBigEndian bytes = n ∧ n < 2 ^ 256 ∧ bytes.length ≤ 32)
    ⟨fun ⟨value, small, short⟩ => ⟨value, small, short⟩,
      fun ⟨value, small, short⟩ => ⟨value, small, short⟩⟩

theorem leading_zeros (width : Nat) (bytes : Bytes) :
    ofBigEndian (List.replicate width 0 ++ bytes) = ofBigEndian bytes := by
  induction width with
  | zero => rfl
  | succ width ih =>
      rw [← ih, List.replicate_succ]
      simp [ofBigEndian]

theorem denotes_padded {bytes : Bytes} {n width : Nat} (denotes : Denotes bytes n)
    (room : width + bytes.length ≤ 32) : Denotes (List.replicate width 0 ++ bytes) n where
  value := (leading_zeros width bytes).trans denotes.value
  small := denotes.small
  short := by simpa using room

/-- The form that the encoder writes. -/
theorem denotes_encoded (v : U256) : Denotes (U256.toBigEndian v) v.toNat where
  value := by
    rw [U256.toBigEndian, ofBigEndian_bigEndian, Nat.mod_eq_of_lt (U256.toNat_bound v)]
  small := v.isLt
  short := Nat.le_of_eq (bigEndian_length 32 _)

theorem denotes_read {bytes : Bytes} {n : Nat} (denotes : Denotes bytes n) :
    Wire.U256.fromBigEndian bytes = .ok (BitVec.ofNat 256 n) := by
  rw [Wire.U256.fromBigEndian, if_pos denotes.short, denotes.value]

theorem denotes_value {bytes : Bytes} {n : Nat} (denotes : Denotes bytes n) :
    (BitVec.ofNat 256 n).toNat = n := by
  rw [BitVec.toNat_ofNat, Nat.mod_eq_of_lt denotes.small]

end Integers

/-! Arrays of converted items. -/
section Arrays
variable {α β γ : Type} {related : β → γ → Prop} {convert : β → Outcome ConversionError α}
  {view : α → γ}

/-- Items that are read one by one are read in order. -/
theorem convert_each_of {items : List β} {views : List γ}
    (all : List.Forall₂ related items views)
    (each : ∀ item shown, related item shown →
      ∃ value, convert item = .ok value ∧ view value = shown) :
    ∃ values, convertEach convert items = .ok values ∧ values.map view = views := by
  induction all with
  | nil => exact ⟨[], rfl, rfl⟩
  | @cons item shown rest others first _ ih =>
      obtain ⟨value, read, same⟩ := each item shown first
      obtain ⟨values, later, rest⟩ := ih
      refine ⟨value :: values, ?_, ?_⟩
      · rw [convertEach, read, Outcome.ok_bind, later, Outcome.ok_bind]
      · rw [List.map_cons, same, rest]

theorem of_fn_list {n : Nat} (default : α) (values : List α) (length : values.length = n) :
    (Vector.ofFn fun i : Fin n => values.getD i default).toList = values := by
  subst length
  apply List.ext_getElem
  · simp
  · intro i bound bound'
    simp

theorem fill_array_of {n : Nat} (default : α) {items : List β} {views : List γ}
    (all : List.Forall₂ related items views) (length : items.length = n)
    (each : ∀ item shown, related item shown →
      ∃ value, convert item = .ok value ∧ view value = shown) :
    ∃ array, fillArray default convert n items = .ok array ∧ array.toList.map view = views := by
  obtain ⟨values, read, same⟩ := convert_each_of all each
  have count : values.length = n := by
    rw [← length, all.length_eq, ← same, List.length_map]
  refine ⟨Vector.ofFn fun i : Fin n => values.getD i default, ?_, ?_⟩
  · rw [fillArray, List.take_of_length_le (Nat.le_of_eq length), read, Outcome.ok_bind]
  · rw [of_fn_list default values count, same]

end Arrays

/-! What the wire amounts denote. -/
section Amounts
variable {A P : Nat}

def RowDenotes (P : Nat) (row : perunwire.Balance) (amounts : List Nat) : Prop :=
  row.balance.length = P ∧ List.Forall₂ Denotes row.balance amounts

def amountsOf (row : ParticipantBalances P) : List Nat := row.toList.map BitVec.toNat

theorem row_decodes {row : perunwire.Balance} {amounts : List Nat}
    (denotes : RowDenotes P row amounts) :
    ∃ balances : ParticipantBalances P, participantBalancesFromWire row = .ok balances ∧
      amountsOf balances = amounts := by
  obtain ⟨length, all⟩ := denotes
  rw [participantBalancesFromWire, if_neg (by simp [length])]
  exact fill_array_of 0 all length fun bytes n denotes =>
    ⟨_, denotes_read denotes, denotes_value denotes⟩

theorem rows_decode {wire : perunwire.Balances} {amounts : List (List Nat)}
    (count : wire.balances.length = A)
    (all : List.Forall₂ (RowDenotes P) wire.balances amounts) :
    ∃ balances : Balances A P, balancesFromWire wire = .ok balances ∧
      balances.toList.map amountsOf = amounts := by
  rw [balancesFromWire, if_neg (by simp [count])]
  exact fill_array_of _ all count fun row amounts => row_decodes

theorem nonce_decodes {wire : perunwire.Params} {participants : Vector Address P} {n : Nat}
    (parts : fillArray Address.zero addressFromWire P wire.parts = .ok participants)
    (denotes : Denotes wire.nonce n) :
    ∃ params : Params P, paramsFromWire wire = .ok params ∧ params.nonce.toNat = n := by
  refine ⟨⟨wire.challengeDuration, BitVec.ofNat 256 n, participants, Address.zero,
    wire.ledgerChannel, wire.virtualChannel⟩, ?_, ?_⟩
  · rw [paramsFromWire, parts, Outcome.ok_bind, denotes_read denotes, Outcome.ok_bind]
  · exact denotes_value denotes

end Amounts

/-! The parameters carry the identifier of the channel that they describe. -/
section Parameters
variable {P : Nat}

/-- An array type has at most `isize::MAX` bytes. -/
def Addressable (build : Build) (bytes : Nat) : Prop := bytes < build.usizeRange / 2

instance (build : Build) (bytes : Nat) : Decidable (Addressable build bytes) :=
  inferInstanceAs (Decidable (bytes < build.usizeRange / 2))

theorem addresses_head_size (participants : List Address) :
    fieldsHeadSize (toValues (participants.map Address.abi)) = 32 * participants.length ∧
      fieldsTailSize (toValues (participants.map Address.abi)) = 0 := by
  induction participants with
  | nil => exact ⟨rfl, rfl⟩
  | cons first rest ih =>
      simp only [List.map_cons, toValues, fieldsHeadSize, fieldsTailSize, ih, List.length_cons]
      simp [Address.abi, Abi.toValue, isDynamic, headSize, tailSize, paddedLength,
        HeadTail.padding]
      omega

theorem params_total_size (params : Params P) :
    totalSize params.abi.toValue = 224 + 32 * P := by
  obtain ⟨heads, tails⟩ := addresses_head_size params.participants.toList
  simp [Params.abi, Address.abi, U256.abi, Abi.toValue, toValues, asDynArray, totalSize, headSize,
    tailSize, fieldsHeadSize, fieldsTailSize, isDynamic, paddedLength, HeadTail.padding,
    U256.toBigEndian, slotSize] at heads tails ⊢
  omega

theorem addresses_lengths (bound : Nat) (participants : List Address) :
    allLengthsFit bound (participants.map Address.abi) = true := by
  induction participants with
  | nil => rfl
  | cons first rest ih =>
      rw [List.map_cons, allLengthsFit, ih]
      rfl

theorem params_lengths_fit {build : Build} (params : Params P) (room : P < build.usizeRange) :
    params.abi.lengthsFit build.usizeRange = true := by
  have length : (params.participants.toList.map Address.abi).length = P := by simp
  simp [Params.abi, Abi.lengthsFit, allLengthsFit, addresses_lengths, room, Address.abi, U256.abi]

/-- The parameters of every array that fits in memory have an identifier. -/
theorem channel_id_ok (build : Build) (keccak256 : List UInt8 → Hash) (params : Params P)
    (room : Addressable build (20 * P)) :
    params.channelId build keccak256 =
      .ok (keccak256 (writtenSlots build params.abi.toValue).flatten) := by
  have large := build.usize_range_ge
  unfold Addressable at room
  have fits : build.Fits (totalSize params.abi.toValue) :=
    Build.fits_of_lt (by rw [params_total_size]; omega)
  have announces : announced build params.abi.toValue = true :=
    abi_announced params.abi (params_lengths_fit params (by omega))
  rw [Params.channelId, toHash, to_writer_run _ (abi_clean params.abi) announces fits]
  rfl

theorem any_params_round_trip (build : Build) (keccak256 : List UInt8 → Hash) (params : Params P)
    (noApp : params.app = Address.zero) (room : Addressable build (20 * P)) :
    ∃ wire id, paramsToWire build keccak256 params = .ok wire ∧ paramsFromWire wire = .ok params ∧
      params.channelId build keccak256 = .ok id ∧ wire.id = id.bytes.toList := by
  have hashed := channel_id_ok build keccak256 params room
  obtain ⟨wire, written, read, same⟩ := hashed_params_round_trip build keccak256 hashed noApp
  exact ⟨wire, _, written, read, hashed, same⟩

end Parameters

/-! The answers and authorisations. -/
section Answers

theorem proposal_acc_round_trip (v : LedgerChannelProposalAcc) :
    proposalAccFromWire (proposalAccToWire v) = .ok v := by
  simp [proposalAccFromWire, proposalAccToWire, expectSome]

theorem update_accepted_round_trip (v : LedgerChannelUpdateAccepted) :
    updateAcceptedFromWire (updateAcceptedToWire v) = .ok v := by
  simp [updateAcceptedFromWire, updateAcceptedToWire]

theorem withdrawal_auth_round_trip (v : SignedWithdrawalAuth) :
    withdrawalAuthFromWire (withdrawalAuthToWire v) = .ok v := by
  simp [withdrawalAuthFromWire, withdrawalAuthToWire]

end Answers

/-- Values without asset holders survive the way over the wire, the identifier written with
the parameters is that of the decoded ones, and each amount and the nonce are read from
every form that denotes them. -/
theorem wire_forms (build : Build) (keccak256 : List UInt8 → Hash) :
    (∀ (P : Nat) (v : ParticipantBalances P),
      participantBalancesFromWire (participantBalancesToWire v) = .ok v) ∧
    (∀ (A P : Nat) (v : Balances A P), balancesFromWire (balancesToWire v) = .ok v) ∧
    (∀ (P : Nat) (v : Params P), v.app = Address.zero → Addressable build (20 * P) →
      ∃ wire decoded id, paramsToWire build keccak256 v = .ok wire ∧
        paramsFromWire wire = .ok decoded ∧ decoded = v ∧
        decoded.channelId build keccak256 = .ok id ∧ wire.id = id.bytes.toList) ∧
    (∀ v : LedgerChannelProposalAcc, proposalAccFromWire (proposalAccToWire v) = .ok v) ∧
    (∀ v : LedgerChannelUpdateAccepted,
      updateAcceptedFromWire (updateAcceptedToWire v) = .ok v) ∧
    (∀ v : SignedWithdrawalAuth, withdrawalAuthFromWire (withdrawalAuthToWire v) = .ok v) ∧
    (∀ (P : Nat) (wire : perunwire.Balance) (amounts : List Nat), RowDenotes P wire amounts →
      ∃ decoded : ParticipantBalances P, participantBalancesFromWire wire = .ok decoded ∧
        amountsOf decoded = amounts) ∧
    (∀ (A P : Nat) (wire : perunwire.Balances) (amounts : List (List Nat)),
      wire.balances.length = A → List.Forall₂ (RowDenotes P) wire.balances amounts →
      ∃ decoded : Balances A P, balancesFromWire wire = .ok decoded ∧
        decoded.toList.map amountsOf = amounts) ∧
    (∀ (P : Nat) (wire : perunwire.Params) (participants : Vector Address P) (n : Nat),
      fillArray Address.zero addressFromWire P wire.parts = .ok participants →
      Denotes wire.nonce n →
      ∃ decoded : Params P, paramsFromWire wire = .ok decoded ∧ decoded.nonce.toNat = n) := by
  refine ⟨fun P v => participant_balances_round_trip v, fun A P v => balances_round_trip v, ?_,
    proposal_acc_round_trip, update_accepted_round_trip, withdrawal_auth_round_trip,
    fun P wire amounts => row_decodes, fun A P wire amounts => rows_decode,
    fun P wire participants n => nonce_decodes⟩
  intro P v noApp room
  obtain ⟨wire, id, written, read, hashed, same⟩ :=
    any_params_round_trip build keccak256 v noApp room
  exact ⟨wire, v, id, written, read, rfl, hashed, same⟩

/-- Three participants: amounts and a nonce without their leading zeros and with all of
them, and the parameters that the decoded message stands for. -/
theorem wire_forms_short :
    let build : Build := ⟨.bits32, true⟩
    let keccak256 : List UInt8 → Hash := fun _ => ⟨Vector.replicate 32 0⟩
    let short : perunwire.Params := ⟨[], 25, [], [], [1, 0], true, false⟩
    let params : Params 3 := ⟨25, 256, Vector.replicate 3 Address.zero, Address.zero, true, false⟩
    (∃ decoded : Balances 1 3, balancesFromWire ⟨[⟨[[], [1, 0], List.replicate 31 0 ++ [7]]⟩]⟩ =
      .ok decoded ∧ decoded.toList.map amountsOf = [[0, 256, 7]]) ∧
    (∃ decoded : Params 3, paramsFromWire short = .ok decoded ∧ decoded.nonce.toNat = 256) ∧
    ∃ wire decoded id, paramsToWire build keccak256 params = .ok wire ∧
      paramsFromWire wire = .ok decoded ∧ decoded = params ∧
      decoded.channelId build keccak256 = .ok id ∧ wire.id = id.bytes.toList := by
  intro build keccak256 short params
  obtain ⟨_, _, carried, _, _, _, _, rows, nonces⟩ := wire_forms build keccak256
  refine ⟨?_, ?_, carried 3 params rfl (by decide)⟩
  · exact rows 1 3 _ _ rfl
      (.cons ⟨rfl, .cons (by decide) (.cons (by decide) (.cons (by decide) .nil))⟩ .nil)
  · exact nonces 3 short (Vector.replicate 3 Address.zero) 256 rfl (by decide)

end Perun.WireForms
