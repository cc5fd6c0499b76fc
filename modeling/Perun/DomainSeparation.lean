import Perun.Payment

/-! Everything that is hashed for an id or a signature: states and parameters of
all sizes and withdrawal authorisations. There is no type tag. States of all
sizes share one schema, and so do parameters, so within a kind the stream
determines the value and with it the sizes; the kinds are told apart by the
length and by the first offset after the static fields. -/
namespace Perun.DomainSeparation
open BigEndian HeadTail Ser Passes AbiEncode AbiDecode AbiTypes Payment

inductive Hashed where
  | state (A P : Nat) (v : State A P)
  | params (P : Nat) (v : Params P)
  | withdrawalAuth (v : WithdrawalAuth)

def Hashed.abi : Hashed → Abi
  | .state _ _ v => v.abi
  | .params _ v => v.abi
  | .withdrawalAuth v => v.abi

/-- At least one asset and one participant; the sizes are `usize` constants. -/
def Hashed.Sized (build : Build) : Hashed → Prop
  | .state A P _ => (1 ≤ A ∧ A < build.usizeRange) ∧ 1 ≤ P ∧ P < build.usizeRange
  | .params P _ => 1 ≤ P ∧ P < build.usizeRange
  | .withdrawalAuth _ => True

instance (build : Build) (v : Hashed) : Decidable (v.Sized build) :=
  match v with
  | .state A P _ => inferInstanceAs (Decidable ((1 ≤ A ∧ A < build.usizeRange) ∧
      1 ≤ P ∧ P < build.usizeRange))
  | .params P _ => inferInstanceAs (Decidable (1 ≤ P ∧ P < build.usizeRange))
  | .withdrawalAuth _ => inferInstanceAs (Decidable True)

def word : Schema := .fixedBytes 32

-- `locked` has no elements; its element type is the unit.
def stateSchema : Schema :=
  .compound .struct [word, .scalar .u64,
    .compound .struct [.seq (.compound .struct [word]), .seq (.seq word), .seq (.compound .tuple [])],
    .bytes, .scalar .bool]

def paramsSchema : Schema :=
  .compound .struct [.scalar .u64, word, .seq word, word, .scalar .bool, .scalar .bool]

def withdrawalAuthSchema : Schema := .compound .struct [word, word, word, word]

def Hashed.schema : Hashed → Schema
  | .state _ _ _ => stateSchema
  | .params _ _ => paramsSchema
  | .withdrawalAuth _ => withdrawalAuthSchema

section Schemas

theorem hash_schema (v : Hash) : HasSchema word v.abi := by
  simp [word, Hash.abi, HasSchema]

theorem address_schema (v : Address) : HasSchema word v.abi := by
  simp [word, Address.abi, HasSchema]

theorem u256_schema (v : U256) : HasSchema word (U256.abi v) := by
  simp [word, U256.abi, HasSchema, U256.toBigEndian]

theorem allocation_schema {A P : Nat} (v : Allocation A P) :
    HasSchema (.compound .struct
      [.seq (.compound .struct [word]), .seq (.seq word), .seq (.compound .tuple [])]) v.abi := by
  simp [Allocation.abi, balancesAbi, Asset.abi, HasSchema, FieldsHaveSchema, u256_schema,
    address_schema]

theorem hashed_schema (v : Hashed) : HasSchema v.schema v.abi := by
  cases v with
  | state A P v =>
      exact ⟨rfl, hash_schema v.id, rfl, allocation_schema v.outcome, trivial, rfl, trivial⟩
  | params P v =>
      refine ⟨rfl, rfl, u256_schema v.nonce, ?_, address_schema v.app, rfl, rfl, trivial⟩
      simp [HasSchema, address_schema]
  | withdrawalAuth v =>
      exact ⟨rfl, hash_schema v.channelId, address_schema v.participant, address_schema v.receiver,
        u256_schema v.amount, trivial⟩

theorem lengths_of_map {α : Type} (range : Nat) (toAbi : α → Abi) (values : List α)
    (each : ∀ value ∈ values, (toAbi value).lengthsFit range = true) :
    allLengthsFit range (values.map toAbi) = true := by
  refine all_lengths_fit.mpr fun v member => ?_
  obtain ⟨value, inside, rfl⟩ := List.mem_map.mp member
  exact each value inside

theorem hashed_lengths {build : Build} (v : Hashed) (sized : v.Sized build) :
    v.abi.lengthsFit build.usizeRange = true := by
  have large := build.usize_range_ge
  have positive : 0 < build.usizeRange := by omega
  have row {P : Nat} (bound : P < build.usizeRange) (balances : ParticipantBalances P) :
      (Abi.seq (balances.toList.map U256.abi)).lengthsFit build.usizeRange = true := by
    simp only [Abi.lengthsFit, List.length_map, Vector.length_toList, Bool.and_eq_true,
      decide_eq_true_eq]
    exact ⟨bound, lengths_of_map _ _ _ fun _ _ => rfl⟩
  cases v with
  | state A P v =>
      obtain ⟨⟨_, assets⟩, _, parts⟩ := sized
      have rows := lengths_of_map build.usizeRange _ v.outcome.balances.toList
        fun balances _ => row parts balances
      have holders := lengths_of_map build.usizeRange Asset.abi v.outcome.assets.toList
        fun _ _ => rfl
      simp [Hashed.abi, State.abi, Allocation.abi, balancesAbi, Abi.lengthsFit, allLengthsFit,
        Hash.abi, positive, assets, rows, holders]
  | params P v =>
      have parts := lengths_of_map build.usizeRange Address.abi v.participants.toList
        fun _ _ => rfl
      simp [Hashed.abi, Params.abi, Abi.lengthsFit, allLengthsFit, U256.abi, Address.abi, sized.2]
      exact parts
  | withdrawalAuth v => rfl

end Schemas

/-! Within a kind the encoded value determines the sizes and the value. -/
section Kinds

theorem map_abi_inj {α : Type} {n : Nat} {toAbi : α → Abi} (faithful : Function.Injective toAbi)
    {v w : Vector α n} (same : v.toList.map toAbi = w.toList.map toAbi) : v = w :=
  vector_ext (List.map_injective_iff.mpr faithful same)

theorem asset_abi_inj : Function.Injective Asset.abi := by
  intro v w same
  simp only [Asset.abi, Abi.compound.injEq, List.cons.injEq] at same
  have holder := Address.abi_inj same.2.1
  cases v
  cases w
  cases holder
  rfl

theorem row_abi_inj {P : Nat} :
    Function.Injective fun row : ParticipantBalances P => Abi.seq (row.toList.map U256.abi) := by
  intro v w same
  exact map_abi_inj (fun _ _ => U256.abi_inj) (Abi.seq.inj same)

-- The first row of a nonempty table has one amount for each participant.
theorem row_count {P P' : Nat} {rows : List (ParticipantBalances P)}
    {rows' : List (ParticipantBalances P')} (nonempty : rows ≠ [])
    (same : rows.map (fun row => Abi.seq (row.toList.map U256.abi)) =
      rows'.map fun row => Abi.seq (row.toList.map U256.abi)) : P = P' := by
  cases rows with
  | nil => contradiction
  | cons first rest =>
      cases rows' with
      | nil => cases same
      | cons first' rest' =>
          have amounts := congrArg List.length (Abi.seq.inj (List.cons.inj same).1)
          simpa using amounts

theorem state_abi_inj {A P A' P' : Nat} {v : State A P} {w : State A' P'} (nonempty : 1 ≤ A)
    (same : v.abi = w.abi) : Hashed.state A P v = .state A' P' w := by
  rcases v with ⟨id, version, ⟨assets, balances⟩, isFinal⟩
  rcases w with ⟨id', version', ⟨assets', balances'⟩, isFinal'⟩
  simp only [State.abi, Allocation.abi, balancesAbi, Abi.compound.injEq, List.cons.injEq,
    Abi.seq.injEq, Abi.scalar.injEq, Scalar.u64.injEq, Scalar.bool.injEq, true_and, and_true] at same
  obtain ⟨ids, rfl, ⟨holders, rows⟩, rfl⟩ := same
  have sizes : A = A' := by simpa using congrArg List.length holders
  subst sizes
  have parts : P = P' := by
    refine row_count (fun empty => ?_) rows
    have count := congrArg List.length empty
    simp only [Vector.length_toList, List.length_nil] at count
    omega
  subst parts
  rw [Hash.abi_inj ids, map_abi_inj asset_abi_inj holders, map_abi_inj row_abi_inj rows]

theorem params_abi_inj {P P' : Nat} {v : Params P} {w : Params P'} (same : v.abi = w.abi) :
    Hashed.params P v = .params P' w := by
  rcases v with ⟨duration, nonce, participants, app, ledger, virtual⟩
  rcases w with ⟨duration', nonce', participants', app', ledger', virtual'⟩
  simp only [Params.abi, Abi.compound.injEq, List.cons.injEq, Abi.seq.injEq, Abi.scalar.injEq,
    Scalar.u64.injEq, Scalar.bool.injEq, true_and, and_true] at same
  obtain ⟨rfl, nonces, parts, apps, rfl, rfl⟩ := same
  have sizes : P = P' := by simpa using congrArg List.length parts
  subst sizes
  rw [U256.abi_inj nonces, map_abi_inj (fun _ _ => Address.abi_inj) parts, Address.abi_inj apps]

theorem withdrawal_auth_abi_inj {v w : WithdrawalAuth} (same : v.abi = w.abi) : v = w := by
  rcases v with ⟨channelId, participant, receiver, amount⟩
  rcases w with ⟨channelId', participant', receiver', amount'⟩
  simp only [WithdrawalAuth.abi, Abi.compound.injEq, List.cons.injEq, true_and, and_true] at same
  obtain ⟨ids, participants, receivers, amounts⟩ := same
  rw [Hash.abi_inj ids, Address.abi_inj participants, Address.abi_inj receivers,
    U256.abi_inj amounts]

end Kinds

/-! Between kinds the fourth slot or the length differs. -/
section Slots
variable {build : Build}

def stream (build : Build) (v : Hashed) : List UInt8 :=
  encodeWith (usizeSlot build) (.tuple [v.abi.layoutWith scalarSlot])

-- One dynamic component: its offset, then its encoding.
theorem dynamic_stream {layout : Layout} (dynamic : layout.dynamic = true) :
    encodeWith (usizeSlot build) (.tuple [layout]) =
      usizeSlot build 32 ++ encodeWith (usizeSlot build) layout := by
  simp [encodeWith, partsWith, assemble, heads, tails, HeadTail.headSize, Part.headSize, Part.tail,
    dynamic]

/-- A stream that starts with the given fourth slot and does not end there. -/
def FourthSlot (stream slot : List UInt8) : Prop :=
  ∃ first second third fifth rest, stream = first ++ (second ++ (third ++ (slot ++ (fifth ++ rest)))) ∧
    first.length = 32 ∧ second.length = 32 ∧ third.length = 32 ∧ fifth.length = 32

theorem state_fourth_slot (build : Build) {A P : Nat} (v : State A P) :
    FourthSlot (stream build (.state A P v)) (usizeSlot build 160) := by
  have idSlot : (padRight v.id.bytes.toList).length = 32 := by
    simp [padRight_length, padding]
  have version := scalar_slot_length (.u64 v.version)
  have isFinal := scalar_slot_length (.bool v.isFinal)
  have dynamic : (v.outcome.abi.layoutWith scalarSlot).dynamic = true := rfl
  rw [stream, dynamic_stream rfl]
  simp only [Hashed.abi, State.abi, Hash.abi, Abi.layoutWith, layoutsWith, encodeWith, partsWith,
    assemble, heads, HeadTail.headSize, Part.headSize, Layout.dynamic, dynamic, ↓reduceIte,
    Bool.false_eq_true, List.map_cons, List.map_nil, List.sum_cons, List.sum_nil, idSlot, version,
    isFinal, slotSize, List.append_assoc]
  exact ⟨_, _, _, _, _, rfl, usize_slot_length _, idSlot, version, usize_slot_length _⟩

theorem params_fourth_slot (build : Build) {P : Nat} (v : Params P) :
    FourthSlot (stream build (.params P v)) (usizeSlot build 192) := by
  have nonce : (padRight (U256.toBigEndian v.nonce)).length = 32 := by
    simp [padRight_length, padding, U256.toBigEndian]
  have app : (padRight (List.replicate 12 0 ++ v.app.bytes.toList)).length = 32 := by
    simp [padRight_length, padding]
  have duration := scalar_slot_length (.u64 v.challengeDuration)
  have ledger := scalar_slot_length (.bool v.ledgerChannel)
  have virtual := scalar_slot_length (.bool v.virtualChannel)
  rw [stream, dynamic_stream rfl]
  simp only [Hashed.abi, Params.abi, U256.abi, Address.abi, Abi.layoutWith, layoutsWith, encodeWith,
    partsWith, assemble, heads, HeadTail.headSize, Part.headSize, Layout.dynamic, ↓reduceIte,
    Bool.false_eq_true, List.map_cons, List.map_nil, List.sum_cons, List.sum_nil, duration, nonce,
    app, ledger, virtual, slotSize, List.append_assoc]
  exact ⟨_, _, _, _, _, rfl, usize_slot_length _, duration, nonce, app⟩

theorem withdrawal_auth_length (build : Build) (v : WithdrawalAuth) :
    (stream build (.withdrawalAuth v)).length = 128 := by
  simp [stream, Hashed.abi, WithdrawalAuth.abi, Hash.abi, Address.abi, U256.abi, Abi.layoutWith,
    layoutsWith, encodeWith, partsWith, assemble, heads, tails, HeadTail.headSize, Part.headSize,
    Part.tail, Layout.dynamic, anyDynamic, padRight_length, padding, U256.toBigEndian]

theorem fourth_slot_length {bytes slot : List UInt8} (slotLength : slot.length = 32)
    (fourth : FourthSlot bytes slot) : 160 ≤ bytes.length := by
  obtain ⟨first, second, third, fifth, rest, rfl, one, two, three, five⟩ := fourth
  simp only [List.length_append, one, two, three, slotLength, five]
  omega

theorem fourth_slot_unique {bytes slot slot' : List UInt8} (slotLength : slot.length = 32)
    (slotLength' : slot'.length = 32) (fourth : FourthSlot bytes slot)
    (fourth' : FourthSlot bytes slot') :
    slot = slot' := by
  obtain ⟨first, second, third, fifth, rest, rfl, one, two, three, five⟩ := fourth
  obtain ⟨first', second', third', fifth', rest', equal, one', two', three', five'⟩ := fourth'
  have later := (List.append_inj equal (one.trans one'.symm)).2
  have later := (List.append_inj later (two.trans two'.symm)).2
  have later := (List.append_inj later (three.trans three'.symm)).2
  exact (List.append_inj later (slotLength.trans slotLength'.symm)).1

theorem offsets_differ : usizeSlot build 160 ≠ usizeSlot build 192 := by
  intro same
  have large := build.usize_range_ge
  rw [usize_slot_eq (by omega), usize_slot_eq (by omega)] at same
  exact absurd (number_inj (by norm_num) (by norm_num) same) (by decide)

theorem fourth_slots_differ {bytes : List UInt8} (state : FourthSlot bytes (usizeSlot build 160))
    (params : FourthSlot bytes (usizeSlot build 192)) : False :=
  offsets_differ (fourth_slot_unique (usize_slot_length _) (usize_slot_length _) state params)

end Slots

/-- No stream is written for two different values of the union. -/
theorem streams_separate (build : Build) (v w : Hashed) (sized : v.Sized build)
    (sized' : w.Sized build) (writer writer' : Writer)
    (returned : v.abi.toValue.toWriter build = (.ok (), writer))
    (returned' : w.abi.toValue.toWriter build = (.ok (), writer'))
    (same : writer.stream = writer'.stream) : v = w := by
  have lengths := hashed_lengths v sized
  have lengths' := hashed_lengths w sized'
  have streams : stream build v = stream build w := by
    rw [returned_stream lengths returned, returned_stream lengths' returned'] at same
    exact same
  have equal (schemas : v.schema = w.schema) : v.abi = w.abi :=
    stream_determines build v.schema _ _ (hashed_schema v) (schemas ▸ hashed_schema w) lengths
      lengths' streams
  cases v with
  | state A P v =>
      have fourth := state_fourth_slot build v
      cases w with
      | state A' P' w => exact state_abi_inj sized.1.1 (equal rfl)
      | params P' w =>
          rw [streams] at fourth
          exact (fourth_slots_differ fourth (params_fourth_slot build w)).elim
      | withdrawalAuth w =>
          have long := fourth_slot_length (usize_slot_length _) fourth
          rw [streams, withdrawal_auth_length] at long
          omega
  | params P v =>
      have fourth := params_fourth_slot build v
      cases w with
      | state A' P' w =>
          rw [streams] at fourth
          exact (fourth_slots_differ (state_fourth_slot build w) fourth).elim
      | params P' w => exact params_abi_inj (equal rfl)
      | withdrawalAuth w =>
          have long := fourth_slot_length (usize_slot_length _) fourth
          rw [streams, withdrawal_auth_length] at long
          omega
  | withdrawalAuth v =>
      have short := withdrawal_auth_length build v
      rw [streams] at short
      cases w with
      | state A' P' w =>
          have long := fourth_slot_length (usize_slot_length _) (state_fourth_slot build w)
          omega
      | params P' w =>
          have long := fourth_slot_length (usize_slot_length _) (params_fourth_slot build w)
          omega
      | withdrawalAuth w => rw [withdrawal_auth_abi_inj (equal rfl)]

/-- A state with one asset and two participants, written twice. -/
theorem streams_separate_payment :
    let state : State 1 2 := ⟨⟨Vector.replicate 32 7⟩, 3, ⟨#v[⟨Address.zero⟩], #v[#v[1, 2]]⟩, true⟩
    ∃ writer, state.abi.toValue.toWriter ⟨.bits32, true⟩ = (.ok (), writer) ∧
      Hashed.state 1 2 state = .state 1 2 { state with version := 1 + 2 } := by
  intro state
  have returned := @to_writer_run ⟨.bits32, true⟩ state.abi.toValue (abi_clean _)
    (abi_announced _ (state_lengths _ state)) (Build.fits_of_lt (by rw [state_size]; decide))
  refine ⟨_, returned, ?_⟩
  exact streams_separate ⟨.bits32, true⟩ _ _ (by decide) (by decide) _ _ returned returned rfl

end Perun.DomainSeparation
