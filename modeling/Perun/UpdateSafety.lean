import Perun.ChannelRun

/-! Pending updates cannot break a channel. `apply` only compares the version and
the id; the transition was checked when the update was created. It is enough: a
version is reached once, so an update created at the current version was checked
against the very state it replaces. -/
namespace Perun.UpdateSafety
open AbiTypes Payment Messages MessageBus Active Opening ChannelRun

variable {env : Env}

/-- What is known of a pending update when the channel has the given state. -/
def Sound (env : Env) (state : State 1 2) (pending : Pending) : Prop :=
  match pending.createdAt with
  | none => pending.update.channelId ≠ state.id
  | some version => version.toNat ≤ state.version.toNat ∧
      pending.update.newState.version = version + 1 ∧
      (version = state.version → ValidTransition env state pending.update.newState)

structure Invariant (start : ActiveChannel env.Signer) (world : World env) : Prop where
  params : world.channel.params = start.params
  partIdx : world.channel.partIdx = start.partIdx
  peers : world.channel.peers = start.peers
  sameId : world.channel.state.id = start.state.id
  assets : world.channel.state.outcome.assets = start.state.outcome.assets
  totals : world.channel.state.outcome.exactTotals = start.state.outcome.exactTotals
  version : world.channel.state.version.toNat = world.applied.length
  log : world.applied =
    (List.range world.applied.length).map fun version => some (BitVec.ofNat 64 version)
  pending : ∀ pending ∈ world.pool, Sound env world.channel.state pending

theorem exact_totals_of_valid {old new : State 1 2} (valid : ValidTransition env old new) :
    new.outcome.exactTotals = old.outcome.exactTotals := by
  obtain ⟨totals, newTotals, oldTotals⟩ := valid.totals
  rw [← total_assets_ok newTotals, ← total_assets_ok oldTotals]

-- A fresh update was checked against the current state.
theorem fresh_sound {state newState : State 1 2} {update : ChannelUpdate}
    (same : update.newState = newState) (valid : ValidTransition env state newState) :
    Sound env state ⟨update, some state.version⟩ := by
  subst same
  exact ⟨le_rfl, valid.version.1, fun _ => valid⟩

-- Collecting signatures does not touch what `Sound` speaks about.
theorem signed_sound {state : State 1 2} {pending : Pending}
    {signatures : Vector (Option Signature) 2} (sound : Sound env state pending) :
    Sound env state { pending with update := { pending.update with signatures := signatures } } :=
  sound

/-- An update that `apply` lets through was created from the current state. -/
theorem applied_valid {channel : ActiveChannel env.Signer} {pending : Pending}
    (sound : Sound env channel.state pending) (matching : Matches env pending.update channel) :
    pending.createdAt = some channel.state.version ∧
      ValidTransition env channel.state pending.update.newState := by
  obtain ⟨next, sameId⟩ := matching
  unfold Sound at sound
  cases created : pending.createdAt with
  | none =>
      rw [created] at sound
      exact absurd sameId sound
  | some version =>
      rw [created] at sound
      obtain ⟨_, successor, valid⟩ := sound
      have same : version = channel.state.version := by
        rw [successor] at next
        exact add_right_cancel next.1
      exact ⟨by rw [same], valid same⟩

-- The other updates are of an earlier version afterwards.
theorem outdated_sound {state newState : State 1 2} {pending : Pending}
    (sameId : newState.id = state.id) (later : state.version.toNat < newState.version.toNat)
    (sound : Sound env state pending) : Sound env newState pending := by
  unfold Sound at sound ⊢
  cases created : pending.createdAt with
  | none =>
      rw [created] at sound
      simpa [sameId] using sound
  | some version =>
      rw [created] at sound
      obtain ⟨earlier, successor, _⟩ := sound
      refine ⟨by omega, successor, fun same => ?_⟩
      rw [same] at earlier
      omega

theorem effect_invariant {start : ActiveChannel env.Signer} {world after : World env}
    (effect : Effect world after) (few : after.applied.length < 2 ^ 64)
    (invariant : Invariant start world) : Invariant start after := by
  cases effect with
  | unchanged => exact invariant
  | proposed newState sig sender valid bound signed =>
      exact { invariant with pending := forall_snoc invariant.pending (fresh_sound rfl valid) }
  | received msg signer valid bound recovered participant =>
      exact { invariant with pending := forall_snoc invariant.pending (fresh_sound rfl valid) }
  | foreign update other =>
      exact { invariant with pending := forall_snoc invariant.pending other }
  | accepted k pending sig sender found bound signed =>
      have sound := invariant.pending pending (List.mem_of_getElem? found)
      exact { invariant with pending := forall_set invariant.pending (signed_sound sound) }
  | rejected k sent only =>
      exact { invariant with
        pending := fun pending member => invariant.pending pending (List.mem_of_mem_eraseIdx member) }
  | acknowledged k pending partIdx sig signer found recovered participant =>
      have sound := invariant.pending pending (List.mem_of_getElem? found)
      exact { invariant with pending := forall_set invariant.pending (signed_sound sound) }
  | applied k pending signatures found matching collected =>
      have sound := invariant.pending pending (List.mem_of_getElem? found)
      obtain ⟨created, valid⟩ := applied_valid sound matching
      simp only [List.length_append, List.length_singleton] at few
      have next : pending.update.newState.version.toNat = world.applied.length + 1 := by
        rw [valid.version.1, BitVec.toNat_add, invariant.version]
        exact Nat.mod_eq_of_lt few
      have current : world.channel.state.version = BitVec.ofNat 64 world.applied.length := by
        rw [← invariant.version, BitVec.ofNat_toNat, BitVec.setWidth_eq]
      exact
        { params := invariant.params
          partIdx := invariant.partIdx
          peers := invariant.peers
          sameId := valid.sameId.trans invariant.sameId
          assets := valid.assets.trans invariant.assets
          totals := (exact_totals_of_valid valid).trans invariant.totals
          version := by simpa using next
          log := by
            rw [List.length_append, List.length_singleton, List.range_succ, List.map_append,
              ← invariant.log, created, current]
            rfl
          pending := fun other member => outdated_sound valid.sameId
            (by rw [next, invariant.version]; omega) (invariant.pending other member) }
  | requested message current => exact { invariant with }

-- The log only grows, so a bound at the end is a bound throughout.
theorem applied_grows {world after : World env} (effect : Effect world after) :
    world.applied.length ≤ after.applied.length := by
  cases effect <;> simp

theorem run_invariant {start : ActiveChannel env.Signer} {world after : World env}
    (runs : Runs env world after) (few : after.applied.length < 2 ^ 64)
    (invariant : Invariant start world) : Invariant start after := by
  induction runs with
  | refl => exact invariant
  | tail _ stepped ih =>
      obtain ⟨action, stepped⟩ := stepped
      have effect := step_effect action stepped
      exact effect_invariant effect few (ih (Nat.lt_of_le_of_lt (applied_grows effect) few))

/-- No update was created from a final state, so none can replace it. -/
theorem final_effect {start : ActiveChannel env.Signer} {world after : World env}
    (effect : Effect world after) (invariant : Invariant start world)
    (final : world.channel.state.isFinal = true) :
    after.channel.state = world.channel.state ∧ after.applied = world.applied := by
  cases effect with
  | applied k pending signatures found matching collected =>
      have sound := invariant.pending pending (List.mem_of_getElem? found)
      have valid := (applied_valid sound matching).2
      rw [valid.notFinal] at final
      cases final
  | unchanged => exact ⟨rfl, rfl⟩
  | proposed newState sig sender valid bound signed => exact ⟨rfl, rfl⟩
  | received msg signer valid bound recovered participant => exact ⟨rfl, rfl⟩
  | foreign update other => exact ⟨rfl, rfl⟩
  | accepted k pending sig sender found bound signed => exact ⟨rfl, rfl⟩
  | rejected k sent only => exact ⟨rfl, rfl⟩
  | acknowledged k pending partIdx sig signer found recovered participant => exact ⟨rfl, rfl⟩
  | requested message current => exact ⟨rfl, rfl⟩

theorem final_stays {start : ActiveChannel env.Signer} {world after : World env}
    (runs : Runs env world after) (few : world.applied.length < 2 ^ 64)
    (invariant : Invariant start world) (final : world.channel.state.isFinal = true) :
    after.channel.state = world.channel.state ∧ after.applied = world.applied := by
  induction runs with
  | refl => exact ⟨rfl, rfl⟩
  | tail earlier stepped ih =>
      obtain ⟨action, stepped⟩ := stepped
      obtain ⟨sameState, sameLog⟩ := ih
      have reached := run_invariant earlier (by rw [sameLog]; exact few) invariant
      obtain ⟨state, log⟩ := final_effect (step_effect action stepped) reached
        (by rw [sameState]; exact final)
      exact ⟨state.trans sameState, log.trans sameLog⟩

/-- The channel that is handed out has the state the parameters were agreed for. -/
theorem opened_channel {proposed : ProposedChannel env.Signer}
    {agreed : AgreedUponChannel env.Signer} {channel : ActiveChannel env.Signer} {bus : Bus}
    (built : proposed.build env = .ok agreed) (opened : Opened env agreed channel bus) :
    channel.params = agreed.params ∧ channel.state = agreed.initState ∧
      channel.state.version = 0 ∧
      channel.params.channelId env.build env.keccak256 = .ok channel.state.id := by
  obtain ⟨signing, before, signed, runs, sent, rfl⟩ := opened
  obtain ⟨slots, rfl⟩ := signing_runs_frame runs
  obtain ⟨_, signatures, _, rfl, _⟩ := agreed_build_ok.mp sent
  obtain ⟨res, _, rfl⟩ := proposed_build_ok.mp built
  refine ⟨rfl, rfl, rfl, ?_⟩
  exact to_hash_params env.build env.keccak256 _

theorem start_invariant {channel : ActiveChannel env.Signer} (bus : Bus)
    (fresh : channel.state.version = 0) : Invariant channel (World.start env channel bus) where
  params := rfl
  partIdx := rfl
  peers := rfl
  sameId := rfl
  assets := rfl
  totals := rfl
  version := by
    change channel.state.version.toNat = 0
    rw [fresh]
    rfl
  log := rfl
  pending := fun pending member => by cases member

theorem log_nodup {count : Nat} (few : count < 2 ^ 64) :
    ((List.range count).map fun version => some (BitVec.ofNat 64 version)).Nodup := by
  refine List.Nodup.map_on (fun a inside b inside' same => ?_) List.nodup_range
  rw [List.mem_range] at inside inside'
  have values := congrArg BitVec.toNat (Option.some.inj same)
  rwa [BitVec.toNat_ofNat, BitVec.toNat_ofNat, Nat.mod_eq_of_lt (by omega),
    Nat.mod_eq_of_lt (by omega)] at values

/-- In every run of an opened channel the parameters, roles and id are fixed, the
version counts the applied updates, no two of them were created at one version,
assets and exact totals are those of the initial state, and a final state stays. -/
theorem updates_are_safe (env : Env) (proposed : ProposedChannel env.Signer)
    (agreed : AgreedUponChannel env.Signer) (channel : ActiveChannel env.Signer) (bus : Bus)
    (built : proposed.build env = .ok agreed) (opened : Opened env agreed channel bus)
    (world : World env) (runs : Runs env (World.start env channel bus) world)
    (few : world.applied.length < 2 ^ 64) :
    world.channel.params = channel.params ∧ world.channel.partIdx = channel.partIdx ∧
    world.channel.peers = channel.peers ∧ world.channel.state.id = channel.state.id ∧
    world.channel.params.channelId env.build env.keccak256 = .ok world.channel.state.id ∧
    world.channel.state.version.toNat = world.applied.length ∧
    (none ∉ world.applied ∧ world.applied.Nodup) ∧
    world.channel.state.outcome.assets = agreed.initState.outcome.assets ∧
    world.channel.state.outcome.exactTotals = agreed.initState.outcome.exactTotals ∧
    (world.channel.state.isFinal = true → ∀ after, Runs env world after →
      after.applied = world.applied) := by
  obtain ⟨_, sameState, fresh, hashed⟩ := opened_channel built opened
  have invariant := run_invariant runs few (start_invariant bus fresh)
  refine ⟨invariant.params, invariant.partIdx, invariant.peers, invariant.sameId, ?_,
    invariant.version, ⟨?_, ?_⟩, ?_, ?_, ?_⟩
  · rw [invariant.params, invariant.sameId]
    exact hashed
  · rw [invariant.log]
    simp
  · rw [invariant.log]
    exact log_nodup few
  · rw [← sameState]
    exact invariant.assets
  · rw [← sameState]
    exact invariant.totals
  · intro final after later
    exact (final_stays later few invariant final).2

theorem updates_are_safe_payment : ∃ channel bus world,
    Opened plainEnv plainAgreed channel bus ∧
    Runs plainEnv (World.start plainEnv channel bus) world ∧ world.applied.length = 1 ∧
    world.channel.state.version.toNat = 1 ∧ world.channel.state.outcome.exactTotals = [11] ∧
    ∀ after, Runs plainEnv world after → after.applied = world.applied := by
  obtain ⟨channel, bus, world, opened, runs, state, applied⟩ := plain_run
  have few : world.applied.length < 2 ^ 64 := by
    rw [applied]
    decide
  obtain ⟨_, _, _, _, _, version, _, _, totals, final⟩ := updates_are_safe plainEnv plainProposed
    plainAgreed channel bus plain_built opened world runs few
  have count : world.applied.length = 1 := by
    rw [applied]
    rfl
  have closed : world.channel.state.isFinal = true := by
    rw [state]
    rfl
  exact ⟨channel, bus, world, opened, runs, count, version.trans count, totals, final closed⟩

end Perun.UpdateSafety
