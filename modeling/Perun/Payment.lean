import Perun.AbiTypes

/-! The channel data of `channel/fixed_size_payment.rs` and `withdrawal_auth.rs`.
The numbers of assets and participants are parameters of the types. `locked` and
`app_data` are arrays of length zero: they hold nothing and only occur in the
encoding. -/
namespace Perun.Payment
open AbiTypes Ser AbiEncode

structure Asset where
  holder : Address
  deriving DecidableEq

/-- A transparent array of the amounts of each participant. -/
abbrev ParticipantBalances (P : Nat) := Vector U256 P

abbrev Balances (A P : Nat) := Vector (ParticipantBalances P) A

structure Allocation (A P : Nat) where
  assets : Vector Asset A
  balances : Balances A P
  deriving DecidableEq

structure Params (P : Nat) where
  challengeDuration : BitVec 64
  nonce : U256
  participants : Vector Address P
  app : Address
  ledgerChannel : Bool
  virtualChannel : Bool
  deriving DecidableEq

structure State (A P : Nat) where
  id : Hash
  version : BitVec 64
  outcome : Allocation A P
  isFinal : Bool
  deriving DecidableEq

structure WithdrawalAuth where
  channelId : Hash
  participant : Address
  receiver : Address
  amount : U256
  deriving DecidableEq

variable {A P : Nat}

def Asset.abi (asset : Asset) : Abi := .compound .struct [asset.holder.abi]

def balancesAbi (balances : Balances A P) : Abi :=
  .seq (balances.toList.map fun row => .seq (row.toList.map U256.abi))

def Allocation.abi (allocation : Allocation A P) : Abi :=
  .compound .struct [.seq (allocation.assets.toList.map Asset.abi),
    balancesAbi allocation.balances, .seq []]

def Params.abi (params : Params P) : Abi :=
  .compound .struct [.scalar (.u64 params.challengeDuration), U256.abi params.nonce,
    .seq (params.participants.toList.map Address.abi), params.app.abi,
    .scalar (.bool params.ledgerChannel), .scalar (.bool params.virtualChannel)]

def State.abi (state : State A P) : Abi :=
  .compound .struct [state.id.abi, .scalar (.u64 state.version), state.outcome.abi, .bytes [],
    .scalar (.bool state.isFinal)]

def WithdrawalAuth.abi (auth : WithdrawalAuth) : Abi :=
  .compound .struct [auth.channelId.abi, auth.participant.abi, auth.receiver.abi,
    U256.abi auth.amount]

section Operations
variable {ε : Type}

/-- `+=` of the `uint` crate aborts on overflow. -/
def addU256 (a b : U256) : Outcome ε U256 :=
  if a.toNat + b.toNat < 2 ^ 256 then .ok (a + b) else .panic

def sumAmounts : U256 → List U256 → Outcome ε U256
  | total, [] => .ok total
  | total, amount :: rest => do
      let total ← addU256 total amount
      sumAmounts total rest

def sumRows : List (ParticipantBalances P) → Outcome ε (List U256)
  | [] => .ok []
  | row :: rest => do
      let total ← sumAmounts 0 row.toList
      let totals ← sumRows rest
      .ok (total :: totals)

def Allocation.totalAssets (allocation : Allocation A P) : Outcome ε (List U256) :=
  sumRows allocation.balances.toList

/-- The sums as natural numbers, which cannot overflow. -/
def Allocation.exactTotals (allocation : Allocation A P) : List Nat :=
  allocation.balances.toList.map fun row => (row.toList.map BitVec.toNat).sum

def Allocation.TotalsFit (allocation : Allocation A P) : Prop :=
  ∀ total ∈ allocation.exactTotals, total < 2 ^ 256

instance (allocation : Allocation A P) : Decidable allocation.TotalsFit :=
  inferInstanceAs (Decidable (∀ total ∈ allocation.exactTotals, total < 2 ^ 256))

/-- The first row is read in every build; the sizes are only asserted. -/
def Allocation.debugAssertValid (debugAssertions : Bool) (_ : Allocation A P) : Outcome ε Unit :=
  if A = 0 then .panic
  else if debugAssertions ∧ ¬(A ≤ 1024 ∧ 0 < P ∧ P ≤ 1024) then .panic
  else .ok ()

def Params.channelId (build : Build) (keccak256 : List UInt8 → Hash) (params : Params P) :
    Outcome Ser.Error Hash := toHash build keccak256 params.abi.toValue

/-- `State::new`. -/
def State.initial (build : Build) (keccak256 : List UInt8 → Hash) (debugAssertions : Bool)
    (params : Params P) (initBals : Allocation A P) : Outcome Ser.Error (State A P) := do
  initBals.debugAssertValid debugAssertions
  let id ← params.channelId build keccak256
  .ok ⟨id, 0, initBals, false⟩

def State.makeNextState (build : Build) (state : State A P) : Outcome ε (State A P) := do
  let version ← build.addU64 state.version 1
  .ok { state with version := version }

@[simp] theorem debug_assert_valid (debugAssertions : Bool) (allocation : Allocation 1 2) :
    (allocation.debugAssertValid debugAssertions : Outcome ε Unit) = .ok () := by
  simp [Allocation.debugAssertValid]

theorem add_u256_ok {a b sum : U256} (added : (addU256 a b : Outcome ε U256) = .ok sum) :
    sum.toNat = a.toNat + b.toNat := by
  unfold addU256 at added
  split at added
  · rename_i small
    rw [← Outcome.ok.inj added, BitVec.toNat_add, Nat.mod_eq_of_lt small]
  · cases added

theorem sum_amounts_ok {amounts : List U256} {total sum : U256}
    (summed : (sumAmounts total amounts : Outcome ε U256) = .ok sum) :
    sum.toNat = total.toNat + (amounts.map BitVec.toNat).sum := by
  induction amounts generalizing total with
  | nil =>
      rw [← Outcome.ok.inj summed]
      simp
  | cons amount rest ih =>
      obtain ⟨next, added, later⟩ := Outcome.bind_eq_ok.mp summed
      rw [ih later, add_u256_ok added, List.map_cons, List.sum_cons]
      omega

theorem sum_rows_ok {rows : List (ParticipantBalances P)} {totals : List U256}
    (summed : (sumRows rows : Outcome ε (List U256)) = .ok totals) :
    totals.map BitVec.toNat = rows.map fun row => (row.toList.map BitVec.toNat).sum := by
  induction rows generalizing totals with
  | nil =>
      rw [← Outcome.ok.inj summed]
      rfl
  | cons row rest ih =>
      obtain ⟨total, first, later⟩ := Outcome.bind_eq_ok.mp summed
      obtain ⟨others, tail, done⟩ := Outcome.bind_eq_ok.mp later
      rw [← Outcome.ok.inj done, List.map_cons, List.map_cons, ih tail, sum_amounts_ok first]
      simp

/-- A total that is returned is the exact sum. -/
theorem total_assets_ok {allocation : Allocation A P} {totals : List U256}
    (summed : (allocation.totalAssets : Outcome ε (List U256)) = .ok totals) :
    totals.map BitVec.toNat = allocation.exactTotals := sum_rows_ok summed

/-- The sum aborts exactly where it is too large. -/
theorem sum_amounts_eq (total : U256) (amounts : List U256) :
    (sumAmounts total amounts : Outcome ε U256) =
      if total.toNat + (amounts.map BitVec.toNat).sum < 2 ^ 256 then
        .ok (BitVec.ofNat 256 (total.toNat + (amounts.map BitVec.toNat).sum))
      else .panic := by
  induction amounts generalizing total with
  | nil => simp [sumAmounts, total.isLt]
  | cons amount rest ih =>
      rw [List.map_cons, List.sum_cons, sumAmounts, addU256]
      by_cases small : total.toNat + amount.toNat < 2 ^ 256
      · have next : (total + amount).toNat = total.toNat + amount.toNat := by
          rw [BitVec.toNat_add, Nat.mod_eq_of_lt small]
        rw [if_pos small, Outcome.ok_bind, ih, next, Nat.add_assoc]
      · rw [if_neg small, if_neg (by omega), Outcome.panic_bind]

theorem sum_rows_eq (rows : List (ParticipantBalances P)) :
    (sumRows rows : Outcome ε (List U256)) =
      if ∀ row ∈ rows, (row.toList.map BitVec.toNat).sum < 2 ^ 256 then
        .ok (rows.map fun row => BitVec.ofNat 256 (row.toList.map BitVec.toNat).sum)
      else .panic := by
  induction rows with
  | nil => simp [sumRows]
  | cons row rest ih =>
      rw [sumRows, sum_amounts_eq, ih]
      have zero : (0 : U256).toNat = 0 := rfl
      simp only [zero, Nat.zero_add, List.forall_mem_cons]
      by_cases first : (row.toList.map BitVec.toNat).sum < 2 ^ 256
      · by_cases others : ∀ row ∈ rest, (row.toList.map BitVec.toNat).sum < 2 ^ 256
        · rw [if_pos first, if_pos others, if_pos ⟨first, others⟩]
          rfl
        · rw [if_pos first, if_neg others, if_neg fun both => others both.2]
          rfl
      · have whole : ¬((row.toList.map BitVec.toNat).sum < 2 ^ 256 ∧
            ∀ row ∈ rest, (row.toList.map BitVec.toNat).sum < 2 ^ 256) := fun both => first both.1
        rw [if_neg first, if_neg whole]
        rfl

theorem total_assets_eq (allocation : Allocation A P) :
    (allocation.totalAssets : Outcome ε (List U256)) =
      if allocation.TotalsFit then .ok (allocation.exactTotals.map (BitVec.ofNat 256))
      else .panic := by
  rw [Allocation.totalAssets, sum_rows_eq]
  simp only [Allocation.TotalsFit, Allocation.exactTotals, List.forall_mem_map, List.map_map]
  rfl

end Operations

/-! The channels of this crate have one asset and two participants, so these
encodings have a fixed size and hashing cannot fail. -/
section FixedSize
open Passes

theorem vector_one {α : Type} (v : Vector α 1) : v.toList = [v.get 0] := by
  apply List.ext_getElem
  · simp
  · intro i bound bound'
    simp only [Vector.length_toList] at bound
    interval_cases i
    simp [Vector.get_eq_getElem]

theorem vector_two {α : Type} (v : Vector α 2) : v.toList = [v.get 0, v.get 1] := by
  apply List.ext_getElem
  · simp
  · intro i bound bound'
    simp only [Vector.length_toList] at bound
    interval_cases i <;> simp [Vector.get_eq_getElem]

theorem state_size (state : State 1 2) : totalSize state.abi.toValue = 544 := by
  simp [State.abi, Allocation.abi, balancesAbi, Asset.abi, Hash.abi, Address.abi, U256.abi,
    vector_one, vector_two, Abi.toValue, toValues, asDynArray, asBytes, Value.dynamicMarker,
    totalSize, headSize, tailSize, fieldsHeadSize, fieldsTailSize, isDynamic, fieldsDynamic, isFake,
    paddedLength, HeadTail.padding, U256.toBigEndian, slotSize]

theorem params_size (params : Params 2) : totalSize params.abi.toValue = 288 := by
  simp [Params.abi, Address.abi, U256.abi, vector_two, Abi.toValue, toValues, asDynArray, totalSize,
    headSize, tailSize, fieldsHeadSize, fieldsTailSize, isDynamic, paddedLength, HeadTail.padding,
    U256.toBigEndian, slotSize]

theorem state_lengths (build : Build) (state : State 1 2) :
    state.abi.lengthsFit build.usizeRange = true := by
  have large := build.usize_range_ge
  have room (n : Nat) (small : n < 2 ^ 32) : n < build.usizeRange := by omega
  simp [State.abi, Allocation.abi, balancesAbi, Asset.abi, Hash.abi, Address.abi, U256.abi,
    vector_one, vector_two, Abi.lengthsFit, allLengthsFit, room]

theorem params_lengths (build : Build) (params : Params 2) :
    params.abi.lengthsFit build.usizeRange = true := by
  have large := build.usize_range_ge
  have room : 2 < build.usizeRange := by omega
  simp [Params.abi, Address.abi, U256.abi, vector_two, Abi.lengthsFit, allLengthsFit, room]

variable (build : Build) (keccak256 : List UInt8 → Hash)

def State.hash (state : State 1 2) : Hash :=
  keccak256 (writtenSlots build state.abi.toValue).flatten

def Params.hash (params : Params 2) : Hash :=
  keccak256 (writtenSlots build params.abi.toValue).flatten

theorem to_hash_of_size {v : Abi} (lengths : v.lengthsFit build.usizeRange = true)
    (small : totalSize v.toValue < 2 ^ 32) :
    toHash build keccak256 v.toValue = .ok (keccak256 (writtenSlots build v.toValue).flatten) := by
  have large := build.usize_range_ge
  rw [toHash, to_writer_run v.toValue (abi_clean v) (abi_announced v lengths)
    (Build.fits_of_lt (by omega))]
  rfl

theorem to_hash_state (state : State 1 2) :
    toHash build keccak256 state.abi.toValue = .ok (state.hash build keccak256) :=
  to_hash_of_size build keccak256 (state_lengths build state) (by rw [state_size]; decide)

theorem to_hash_params (params : Params 2) :
    toHash build keccak256 params.abi.toValue = .ok (params.hash build keccak256) :=
  to_hash_of_size build keccak256 (params_lengths build params) (by rw [params_size]; decide)

end FixedSize
end Perun.Payment
