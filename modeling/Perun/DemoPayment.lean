import Perun.DemoClosing

/-! What a payment of the demo (`Channel::update`) does to the balances. The funds
that are compared with the amount are those of the second participant; the amount
leaves the balance of the local one. -/
namespace Perun.DemoPayment
open AbiTypes Payment Messages MessageBus Active Opening ChannelRun DemoChannel DemoClosing

def held (row : ParticipantBalances 2) (idx : PartIdx) : Nat := (row[idx]?.getD 0).toNat

def balance (state : State 1 2) (idx : PartIdx) : Nat :=
  held (getElem state.outcome.balances 0 Nat.zero_lt_one) idx

section Row
variable {ε : Type}

theorem pay_other_ok (build : Build) (row : ParticipantBalances 2) {partIdx : Nat}
    {amount : U256} (bound : partIdx < 2) (sum : held row 0 + held row 1 < 2 ^ 256)
    (covered : amount.toNat ≤ held row partIdx) :
    ∃ paid, (payOther build row partIdx amount : Outcome ε (ParticipantBalances 2)) = .ok paid ∧
      held paid partIdx + amount.toNat = held row partIdx ∧
      held paid (1 - partIdx) = held row (1 - partIdx) + amount.toNat := by
  have other : (build.sub 1 partIdx : Outcome ε Nat) = .ok (1 - partIdx) :=
    if_pos (Nat.le_of_lt_succ bound)
  have different : 1 - partIdx ≠ partIdx := by omega
  have bound' : 1 - partIdx < 2 := by omega
  have own : held row partIdx = row[partIdx].toNat := by simp [held, bound]
  have others : held row (1 - partIdx) = row[1 - partIdx].toNat := by simp [held, bound']
  have small : row[1 - partIdx].toNat + amount.toNat < 2 ^ 256 := by
    have both : held row partIdx + held row (1 - partIdx) = held row 0 + held row 1 := by
      interval_cases partIdx
      · rfl
      · exact Nat.add_comm _ _
    omega
  have enough : amount.toNat ≤ row[partIdx].toNat := own ▸ covered
  have added : (addU256 row[1 - partIdx] amount : Outcome ε U256) =
      .ok (row[1 - partIdx] + amount) := if_pos small
  have taken : (subU256 row[partIdx] amount : Outcome ε U256) = .ok (row[partIdx] - amount) :=
    if_pos enough
  refine ⟨(row.setIfInBounds (1 - partIdx) (row[1 - partIdx] + amount)).setIfInBounds partIdx
    (row[partIdx] - amount), ?_, ?_, ?_⟩
  · simp [payOther, other, Outcome.index, bound, bound', store, added, taken, different]
  · have less : (row[partIdx] - amount).toNat = row[partIdx].toNat - amount.toNat :=
      BitVec.toNat_sub_of_le enough
    rw [own, held]
    simp only [Vector.getElem?_setIfInBounds, bound, ↓reduceIte, Option.getD_some]
    omega
  · rw [others, held]
    simp only [Vector.getElem?_setIfInBounds, bound', different.symm, ↓reduceIte, Option.getD_some,
      BitVec.toNat_add, Nat.mod_eq_of_lt small]

theorem pay_other_short (build : Build) (row : ParticipantBalances 2) {partIdx : Nat}
    {amount : U256} (bound : partIdx < 2) (short : held row partIdx < amount.toNat) :
    (payOther build row partIdx amount : Outcome ε (ParticipantBalances 2)) = .panic := by
  have other : (build.sub 1 partIdx : Outcome ε Nat) = .ok (1 - partIdx) :=
    if_pos (Nat.le_of_lt_succ bound)
  have different : 1 - partIdx ≠ partIdx := by omega
  have bound' : 1 - partIdx < 2 := by omega
  have own : held row partIdx = row[partIdx].toNat := by simp [held, bound]
  have taken : (subU256 row[partIdx] amount : Outcome ε U256) = .panic :=
    if_neg (by omega)
  by_cases small : row[1 - partIdx].toNat + amount.toNat < 2 ^ 256
  · have added : (addU256 row[1 - partIdx] amount : Outcome ε U256) =
        .ok (row[1 - partIdx] + amount) := if_pos small
    simp [payOther, other, Outcome.index, bound, bound', store, added, taken, different]
  · have added : (addU256 row[1 - partIdx] amount : Outcome ε U256) = .panic := if_neg small
    simp [payOther, other, Outcome.index, bound', added]

end Row

section Own
variable (env : Env)

/-- The state in which exactly the amount has changed hands. -/
structure Pays (state : State 1 2) (partIdx : PartIdx) (amount : U256) (isFinal : Bool)
    (paid : State 1 2) : Prop where
  sender : balance paid partIdx + amount.toNat = balance state partIdx
  receiver : balance paid (1 - partIdx) = balance state (1 - partIdx) + amount.toNat
  version : paid.version = state.version + 1
  final : paid.isFinal = isFinal
  sameId : paid.id = state.id
  sameAssets : paid.outcome.assets = state.outcome.assets

/-- `update` once the new state is computed: `ActiveChannel::update` proposes it. -/
def handOver (channel : ActiveChannel env.Signer) (pending : Option ChannelUpdate)
    (newState : State 1 2) (bus : Bus) :
    Outcome (Error env.SigError) Unit × (ChannelInner env.Signer × Bus) :=
  match Op.mapErr .proposeUpdate (channel.update env newState) bus with
  | (.ok update, bus) => (.ok (), (.active channel (some update), bus))
  | (.err error, bus) => (.err error, (.active channel pending, bus))
  | (.panic, bus) => (.panic, (.active channel pending, bus))

/-- A payment moves exactly the requested amount out of the sender's own balance. -/
structure PaysOwn (channel : ActiveChannel env.Signer) (amount : U256) (isFinal : Bool) :
    Prop where
  refuses : ∀ pending bus,
    (update env amount isFinal (.active channel pending, bus)).1 = .err .notEnoughFunds ↔
      balance channel.state channel.partIdx < amount.toNat
  moves : amount.toNat ≤ balance channel.state channel.partIdx →
    (payOther env.build (getElem channel.state.outcome.balances 0 Nat.zero_lt_one)
      channel.partIdx amount : Outcome (Error env.SigError) (ParticipantBalances 2)) ≠ .panic
  proposes : amount.toNat ≤ balance channel.state channel.partIdx →
    channel.state.isFinal = false →
    ∃ paid, Pays channel.state channel.partIdx amount isFinal paid ∧
      ValidTransition env channel.state paid ∧
      ∀ pending bus, update env amount isFinal (.active channel pending, bus) =
        handOver env channel pending paid bus

/-- The version has a successor, or the build has no overflow checks. -/
def VersionLeft (state : State 1 2) : Prop :=
  env.build.overflowChecks = true → state.version.toNat + 1 < 2 ^ 64

/-- The sender lacks the amount exactly when the second participant does. Without a next
version every call aborts, which is no fault only for a covered amount in a final state. -/
def ComparedRight (channel : ActiveChannel env.Signer) (amount : U256) : Prop :=
  (VersionLeft env channel.state →
    (balance channel.state channel.partIdx < amount.toNat ↔
      balance channel.state 1 < amount.toNat)) ∧
  (¬VersionLeft env channel.state →
    amount.toNat ≤ balance channel.state channel.partIdx ∧ channel.state.isFinal = true)

end Own

section Runs
variable {env : Env} {channel : ActiveChannel env.Signer} {amount : U256} {isFinal : Bool}

theorem make_next_state {ε : Type} (left : VersionLeft env channel.state) :
    (channel.state.makeNextState env.build : Outcome ε (State 1 2)) =
      .ok { channel.state with version := channel.state.version + 1 } := by
  have added : (env.build.addU64 channel.state.version 1 : Outcome ε (BitVec 64)) =
      .ok (channel.state.version + 1) := Build.add_u64_iff.mpr ⟨rfl, left⟩
  rw [State.makeNextState, added]
  rfl

/-- Without a next version the funds are not looked at. -/
theorem update_aborts (last : ¬VersionLeft env channel.state) (pending : Option ChannelUpdate)
    (bus : Bus) : (update env amount isFinal (.active channel pending, bus)).1 = .panic := by
  have aborted : (channel.state.makeNextState env.build :
      Outcome (Error env.SigError) (State 1 2)) = .panic := by
    unfold VersionLeft at last
    push Not at last
    have large : 2 ^ 64 ≤ channel.state.version.toNat + (1 : BitVec 64).toNat := last.2
    rw [State.makeNextState, Build.addU64, if_pos ⟨last.1, large⟩]
    rfl
  simp only [update, proposePayment, Op.bind_run, Op.lift_run, aborted]

theorem update_refuses (left : VersionLeft env channel.state)
    (short : balance channel.state 1 < amount.toNat) (pending : Option ChannelUpdate) (bus : Bus) :
    update env amount isFinal (.active channel pending, bus) =
      (.err .notEnoughFunds, (.active channel pending, bus)) := by
  have second : (getElem (getElem channel.state.outcome.balances 0 Nat.zero_lt_one) 1
      Nat.one_lt_two).toNat < amount.toNat := by
    simpa [balance, held] using short
  simp only [update, proposePayment, Op.bind_run, Op.lift_run, make_next_state left, if_pos second]
  rfl

theorem update_moves (left : VersionLeft env channel.state)
    (enough : ¬balance channel.state 1 < amount.toNat) {row : ParticipantBalances 2}
    (moved : (payOther env.build (getElem channel.state.outcome.balances 0 Nat.zero_lt_one)
      channel.partIdx amount : Outcome (Error env.SigError) (ParticipantBalances 2)) = .ok row)
    (pending : Option ChannelUpdate) (bus : Bus) :
    update env amount isFinal (.active channel pending, bus) =
      handOver env channel pending { channel.state with
        version := channel.state.version + 1
        outcome.balances := channel.state.outcome.balances.setIfInBounds 0 row
        isFinal := isFinal } bus := by
  have second : ¬(getElem (getElem channel.state.outcome.balances 0 Nat.zero_lt_one) 1
      Nat.one_lt_two).toNat < amount.toNat := by
    simpa [balance, held] using enough
  simp only [update, proposePayment, Op.bind_run, Op.lift_run, make_next_state left, if_neg second,
    moved]
  rfl

theorem update_underflows (left : VersionLeft env channel.state) (bound : channel.partIdx < 2)
    (enough : ¬balance channel.state 1 < amount.toNat)
    (short : balance channel.state channel.partIdx < amount.toNat)
    (pending : Option ChannelUpdate) (bus : Bus) :
    (update env amount isFinal (.active channel pending, bus)).1 = .panic := by
  have second : ¬(getElem (getElem channel.state.outcome.balances 0 Nat.zero_lt_one) 1
      Nat.one_lt_two).toNat < amount.toNat := by
    simpa [balance, held] using enough
  have aborted : (payOther env.build (getElem channel.state.outcome.balances 0 Nat.zero_lt_one)
      channel.partIdx amount : Outcome (Error env.SigError) (ParticipantBalances 2)) = .panic :=
    pay_other_short env.build _ bound short
  simp only [update, proposePayment, Op.bind_run, Op.lift_run, make_next_state left, if_neg second,
    aborted]

theorem hand_over_error {pending : Option ChannelUpdate} {newState : State 1 2} {bus : Bus} :
    (handOver env channel pending newState bus).1 ≠ .err .notEnoughFunds := by
  intro refused
  rw [handOver, Op.mapErr_run] at refused
  rcases updated : channel.update env newState bus with ⟨result, after⟩
  rw [updated] at refused
  cases result <;> simp at refused

theorem moved_pays {row : ParticipantBalances 2} (partIdx : PartIdx) (state : State 1 2)
    (sender : held row partIdx + amount.toNat = balance state partIdx)
    (receiver : held row (1 - partIdx) = balance state (1 - partIdx) + amount.toNat) :
    Pays state partIdx amount isFinal { state with
      version := state.version + 1
      outcome.balances := state.outcome.balances.setIfInBounds 0 row
      isFinal := isFinal } where
  sender := by simpa [balance] using sender
  receiver := by simpa [balance] using receiver
  version := rfl
  final := rfl
  sameId := rfl
  sameAssets := rfl

theorem exact_totals (state : State 1 2) :
    state.outcome.exactTotals = [balance state 0 + balance state 1] := by
  simp [Allocation.exactTotals, vector_one, vector_two, Vector.get_eq_getElem, balance, held]

theorem pays_valid {state paid : State 1 2} {partIdx : PartIdx} (bound : partIdx < 2)
    (pays : Pays state partIdx amount isFinal paid)
    (sum : balance state 0 + balance state 1 < 2 ^ 256) (notFinal : state.isFinal = false)
    (left : VersionLeft env state) : ValidTransition env state paid where
  sameId := pays.sameId
  notFinal := notFinal
  version := ⟨pays.version, left⟩
  assets := pays.sameAssets
  totals := by
    have total : balance paid 0 + balance paid 1 = balance state 0 + balance state 1 := by
      have sender := pays.sender
      have receiver := pays.receiver
      rcases Nat.le_one_iff_eq_zero_or_eq_one.mp (Nat.le_of_lt_succ bound) with rfl | rfl
      · rw [show 1 - 0 = 1 from rfl] at receiver
        omega
      · rw [show 1 - 1 = 0 from rfl] at receiver
        omega
    have same : paid.outcome.exactTotals = state.outcome.exactTotals := by
      rw [exact_totals, exact_totals, total]
    have fits : state.outcome.TotalsFit := by
      rw [Allocation.TotalsFit, exact_totals, List.forall_mem_singleton]
      exact sum
    have fits' : paid.outcome.TotalsFit := by
      rw [Allocation.TotalsFit, same]
      exact fits
    refine ⟨state.outcome.exactTotals.map (BitVec.ofNat 256), ?_, ?_⟩
    · rw [total_assets_eq, if_pos fits', same]
    · rw [total_assets_eq, if_pos fits]

end Runs

/-- Exactly where the second participant's funds stand for those of the sender does a
payment move the sender's own balance. -/
theorem pays_own_iff (env : Env) (channel : ActiveChannel env.Signer) (amount : U256)
    (isFinal : Bool) (bound : channel.partIdx < 2)
    (sum : balance channel.state 0 + balance channel.state 1 < 2 ^ 256) :
    PaysOwn env channel amount isFinal ↔ ComparedRight env channel amount := by
  constructor
  · rintro ⟨refuses, _, proposes⟩
    constructor
    · intro left
      constructor
      · intro lacking
        have refused := (refuses none []).mpr lacking
        by_contra enough
        rw [update_underflows left bound enough lacking] at refused
        cases refused
      · intro short
        apply (refuses none []).mp
        rw [update_refuses left short]
    · intro last
      have covered : amount.toNat ≤ balance channel.state channel.partIdx := by
        by_contra short
        have refused := (refuses none []).mpr (Nat.lt_of_not_le short)
        rw [update_aborts last] at refused
        cases refused
      refine ⟨covered, ?_⟩
      by_contra unfinished
      obtain ⟨paid, _, valid, _⟩ := proposes covered (Bool.eq_false_of_not_eq_true unfinished)
      exact last valid.version.2
  · rintro ⟨compared, closed⟩
    by_cases left : VersionLeft env channel.state
    · have sameSide := compared left
      constructor
      · intro pending bus
        by_cases short : balance channel.state 1 < amount.toNat
        · rw [update_refuses left short, sameSide]
          simp only [short]
        · have covered := Nat.le_of_not_lt (mt sameSide.mp short)
          obtain ⟨row, moved, _⟩ := pay_other_ok env.build _ bound sum covered
          rw [update_moves left short moved, sameSide]
          simp only [hand_over_error, short]
      · intro covered aborted
        obtain ⟨row, moved, _⟩ := pay_other_ok env.build _ bound sum covered
        rw [moved] at aborted
        cases aborted
      · intro covered notFinal
        obtain ⟨row, moved, sender, receiver⟩ := pay_other_ok env.build _ bound sum covered
        have pays := @moved_pays amount isFinal row channel.partIdx channel.state sender receiver
        have enough := mt sameSide.mpr (Nat.not_lt_of_le covered)
        exact ⟨_, pays, pays_valid bound pays sum notFinal left,
          fun pending bus => update_moves left enough moved pending bus⟩
    · obtain ⟨covered, final⟩ := closed left
      constructor
      · intro pending bus
        rw [update_aborts left]
        simp [covered]
      · intro _ aborted
        obtain ⟨row, moved, _⟩ := pay_other_ok env.build _ bound sum covered
        rw [moved] at aborted
        cases aborted
      · intro _ notFinal
        rw [final] at notFinal
        cases notFinal

/-- The second participant of the opened channel pays half of its funds, and the first one
all that it has. -/
theorem pays_own_iff_plain :
    PaysOwn plainEnv { plainChannel plainAgreed.initState with partIdx := 1 } 3 false ∧
      PaysOwn plainEnv (plainChannel plainAgreed.initState) 5 false := by
  constructor
  · apply (pays_own_iff plainEnv { plainChannel plainAgreed.initState with partIdx := 1 } 3 false
      (by decide) (by decide)).mpr
    exact ⟨fun _ => Iff.rfl, fun last => absurd (fun _ => by decide) last⟩
  · apply (pays_own_iff plainEnv (plainChannel plainAgreed.initState) 5 false (by decide)
      (by decide)).mpr
    exact ⟨fun _ => by decide, fun last => absurd (fun _ => by decide) last⟩

/-- The first participant owns 5 of 11 and asks to pay 6: the check passes on the funds of
the other one, and the subtraction aborts. -/
theorem pays_own_fails :
    ¬∀ (channel : ActiveChannel plainEnv.Signer) (amount : U256) (isFinal : Bool),
      channel.partIdx < 2 → balance channel.state 0 + balance channel.state 1 < 2 ^ 256 →
      PaysOwn plainEnv channel amount isFinal := by
  intro claimed
  have own := claimed (plainChannel plainAgreed.initState) 6 false (by decide) (by decide)
  have refused := (own.refuses none []).mpr (by decide)
  rw [update_underflows (fun _ => by decide) (by decide) (by decide) (by decide)] at refused
  cases refused

end Perun.DemoPayment
