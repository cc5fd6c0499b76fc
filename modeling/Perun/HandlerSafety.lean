import Perun.Lifecycle

/-! What an incoming update can do to the one who handles it. The check of a
transition adds up the proposed and the current balances before it looks at the
signature, and the index of the actor is used as it was received. -/
namespace Perun.HandlerSafety
open AbiTypes Payment Messages MessageBus Active Opening ChannelRun Lifecycle

variable {env : Env}

/-- There is a next version in a build with overflow checks. -/
def VersionFits (env : Env) (version : BitVec 64) : Prop :=
  env.build.overflowChecks = true → version.toNat + 1 < 2 ^ 64

/-- The index is in bounds, where the check gets that far. -/
def ActorKnown (env : Env) (msg : LedgerChannelUpdate) : Prop :=
  (∃ signer, env.recoverSigner (stateHash env msg.state) msg.sig = .ok signer) → msg.actorIdx < 2

/-- Which arithmetic is done before the handler can reject the message. `initBals` are
the balances the channel was proposed with. -/
def Survives (env : Env) (initBals : Allocation 1 2) (current : State 1 2)
    (msg : LedgerChannelUpdate) : Prop :=
  msg.state.id = current.id → current.isFinal = false →
    VersionFits env current.version ∧
    (msg.state.version = current.version + 1 →
      msg.state.outcome.assets = current.outcome.assets →
        msg.state.outcome.TotalsFit ∧ initBals.TotalsFit ∧
        (msg.state.outcome.exactTotals = initBals.exactTotals → ActorKnown env msg))

section Handler
variable {channel : ActiveChannel env.Signer} {msg : LedgerChannelUpdate}

theorem no_next_version {ε : Type} {version : BitVec 64}
    (full : ¬VersionFits env version) :
    (env.build.addU64 version 1 : Outcome ε (BitVec 64)) = .panic := by
  unfold VersionFits at full
  push Not at full
  exact if_pos full

/-- The transition check aborts in the version or in the totals. -/
theorem check_safe_iff :
    channel.checkValidTransition env msg.state ≠ .panic ↔
      (msg.state.id = channel.state.id → channel.state.isFinal = false →
        VersionFits env channel.state.version ∧
        (msg.state.version = channel.state.version + 1 →
          msg.state.outcome.assets = channel.state.outcome.assets →
            msg.state.outcome.TotalsFit ∧ channel.state.outcome.TotalsFit)) := by
  simp only [ActiveChannel.checkValidTransition, debug_assert_valid, Outcome.ok_bind]
  split
  · rename_i id
    exact iff_of_true (by simp) fun sameId => absurd sameId id
  · rename_i id
    rw [not_not] at id
    split
    · rename_i final
      exact iff_of_true (by simp) fun _ notFinal => by simp [notFinal] at final
    · rename_i final
      rw [Bool.not_eq_true] at final
      by_cases room : VersionFits env channel.state.version
      · rw [next_version_iff.mpr ⟨rfl, room⟩, Outcome.ok_bind]
        split
        · rename_i version
          exact iff_of_true (by simp) fun _ _ => ⟨room, fun next => absurd next version⟩
        · rename_i version
          rw [not_not] at version
          split
          · rename_i assets
            exact iff_of_true (by simp) fun _ _ => ⟨room, fun _ same => absurd same assets⟩
          · rename_i assets
            rw [not_not] at assets
            rw [total_assets_eq, total_assets_eq]
            by_cases both : msg.state.outcome.TotalsFit ∧ channel.state.outcome.TotalsFit
            · refine iff_of_true ?_ fun _ _ => ⟨room, fun _ _ => both⟩
              rw [if_pos both.1, if_pos both.2, Outcome.ok_bind, Outcome.ok_bind]
              split <;> simp
            · refine iff_of_false ?_ fun safe => both ((safe id final).2 version assets)
              by_cases new : msg.state.outcome.TotalsFit
              · have old : ¬channel.state.outcome.TotalsFit := fun old => both ⟨new, old⟩
                simp [new, old]
              · simp [new]
      · rw [no_next_version room]
        exact iff_of_false (by simp) fun safe => room (safe id final).1

theorem check_ok_totals (checked : channel.checkValidTransition env msg.state = .ok ()) :
    msg.state.outcome.exactTotals = channel.state.outcome.exactTotals := by
  obtain ⟨totals, new, old⟩ := (check_valid_transition_iff.mp checked).totals
  rw [← total_assets_ok new, ← total_assets_ok old]

/-- Behind the checks only the index is left. -/
theorem handle_update_safe_iff
    (recovers : ∀ hash sig, env.recoverSigner hash sig ≠ .panic) :
    channel.handleUpdate env msg ≠ .panic ↔
      channel.checkValidTransition env msg.state ≠ .panic ∧
        (channel.checkValidTransition env msg.state = .ok () → ActorKnown env msg) := by
  unfold ActiveChannel.handleUpdate ActorKnown
  cases channel.checkValidTransition env msg.state with
  | panic => simp
  | err error => simp
  | ok _ =>
      simp only [Outcome.mapErr_ok, Outcome.ok_bind, hash_state]
      cases recovered : env.recoverSigner (stateHash env msg.state) msg.sig with
      | panic => exact absurd recovered (recovers _ _)
      | err error => simp
      | ok signer =>
          by_cases bound : msg.actorIdx < 2
          · simp only [Outcome.index, Vector.getElem?_eq_getElem bound, Outcome.mapErr_ok,
              Outcome.ok_bind, Outcome.unwrap_some, ChannelUpdate.create, store_of_lt _ _ bound]
            split <;> simp [bound]
          · simp [Outcome.index, bound]

theorem handle_update_survives (recovers : ∀ hash sig, env.recoverSigner hash sig ≠ .panic) :
    channel.handleUpdate env msg ≠ .panic ↔
      Survives env channel.state.outcome channel.state msg := by
  rw [handle_update_safe_iff recovers, check_safe_iff]
  constructor
  · rintro ⟨checks, known⟩ id notFinal
    refine ⟨(checks id notFinal).1, fun version assets => ?_⟩
    have fits := (checks id notFinal).2 version assets
    refine ⟨fits.1, fits.2, fun totals => known (check_valid_transition_iff.mpr ?_)⟩
    exact
      { sameId := id
        notFinal := notFinal
        version := ⟨version, (checks id notFinal).1⟩
        assets := assets
        totals := ⟨_, by rw [total_assets_eq, if_pos fits.1],
          by rw [total_assets_eq, if_pos fits.2, totals]⟩ }
  · intro survives
    constructor
    · intro id notFinal
      refine ⟨(survives id notFinal).1, fun version assets => ?_⟩
      have fits := (survives id notFinal).2 version assets
      exact ⟨fits.1, fits.2.1⟩
    · intro checked
      have valid := check_valid_transition_iff.mp checked
      have fits := (survives valid.sameId valid.notFinal).2 valid.version.1 valid.assets
      exact fits.2.2 (check_ok_totals checked)

end Handler

/-! The totals of the current state are those of the proposal, however many updates
were applied. -/
section Reached
variable {prop : LedgerChannelProposal}

def TotalsCarried (prop : LedgerChannelProposal) (world : World env) : Prop :=
  world.channel.state.outcome.exactTotals = prop.initBals.exactTotals ∧
    ∀ pending ∈ world.pool, pending.update.channelId = world.channel.state.id →
      pending.update.newState.id = world.channel.state.id ∧
        pending.update.newState.outcome.exactTotals = prop.initBals.exactTotals

def Carries (prop : LedgerChannelProposal) : Phase env → Prop
  | .proposed channel _ => channel.proposal = prop
  | .agreedUpon channel _ => channel.initState.outcome = prop.initBals
  | .signed channel _ => channel.inner.state.outcome = prop.initBals
  | .active world => TotalsCarried prop world

theorem effect_carries {world after : World env} (effect : Effect world after)
    (carried : TotalsCarried prop world) : TotalsCarried prop after := by
  obtain ⟨current, pool⟩ := carried
  have fresh {newState : State 1 2} (valid : ValidTransition env world.channel.state newState) :
      newState.id = world.channel.state.id ∧
        newState.outcome.exactTotals = prop.initBals.exactTotals := by
    obtain ⟨totals, new, old⟩ := valid.totals
    refine ⟨valid.sameId, ?_⟩
    rw [← current, ← total_assets_ok new, ← total_assets_ok old]
  cases effect with
  | unchanged => exact ⟨current, pool⟩
  | proposed newState sig sender valid bound signed =>
      exact ⟨current, forall_snoc pool fun _ => fresh valid⟩
  | received msg signer valid bound recovered participant =>
      exact ⟨current, forall_snoc pool fun _ => fresh valid⟩
  | foreign update other =>
      exact ⟨current, forall_snoc pool fun same => absurd same other⟩
  | accepted k pending sig sender found bound signed =>
      exact ⟨current, forall_set pool (pool pending (List.mem_of_getElem? found))⟩
  | rejected k sent only =>
      exact ⟨current, fun pending member => pool pending (List.mem_of_mem_eraseIdx member)⟩
  | acknowledged k pending partIdx sig signer found recovered participant =>
      exact ⟨current, forall_set pool (pool pending (List.mem_of_getElem? found))⟩
  | applied k pending signatures found matching collected =>
      have held := pool pending (List.mem_of_getElem? found) matching.2
      refine ⟨held.2, fun other member sameId => ?_⟩
      have kept := pool other member (sameId.trans held.1)
      exact ⟨kept.1.trans held.1.symm, kept.2⟩
  | requested message current' => exact ⟨current, pool⟩

theorem advances_carries {before after : Phase env} (advances : Advances before after)
    (carries : Carries prop before) : Carries prop after := by
  cases advances with
  | @accept channel bus nonceShare address result after call returns =>
      have same := accept_keeps nonceShare address (channel, bus)
      rw [call, Prod.mk.injEq] at same
      exact same.2.trans carries
  | @participantAccepted channel bus partIdx msg result after call returns =>
      have same := answer_keeps partIdx msg channel
      rw [call, Prod.mk.injEq] at same
      exact same.2.trans carries
  | buildProposed call =>
      obtain ⟨res, _, rfl⟩ := proposed_build_ok.mp call
      exact congrArg LedgerChannelProposal.initBals carries
  | signing action call =>
      obtain ⟨signatures, same⟩ := signing_runs_frame (.single ⟨action, call⟩)
      rw [Carries, same]
      exact carries
  | buildAgreed call =>
      obtain ⟨_, signatures, _, rfl, _⟩ := agreed_build_ok.mp call
      exact carries
  | markFunded channel bus =>
      exact ⟨congrArg Allocation.exactTotals carries, fun pending member => nomatch member⟩
  | acting action call => exact effect_carries (step_effect action call) carries

theorem reached_carries {client : PerunClient env.Signer} {receiver : Address} {bus : Bus}
    {start phase : Phase env} (starts : Starts client receiver prop bus start)
    (runs : Relation.ReflTransGen Advances start phase) : Carries prop phase := by
  induction runs with
  | refl =>
      cases starts with
      | proposer call =>
          obtain ⟨_, _, rfl, _⟩ := propose_channel_ok.mp call
          rfl
      | responder call =>
          cases call
          rfl
  | tail _ advances ih => exact advances_carries advances ih

/-- In every channel that a proposal can lead to, by any calls of either role, an update
is handled without an abort exactly if it survives: the sums that are made fit, and the
index that is looked up is one of a participant. -/
theorem handle_update_survives_iff (recovers : ∀ hash sig, env.recoverSigner hash sig ≠ .panic)
    (client : PerunClient env.Signer) (receiver : Address) (bus : Bus) {start : Phase env}
    (starts : Starts client receiver prop bus start) {world : World env}
    (runs : Relation.ReflTransGen Advances start (.active world)) (msg : LedgerChannelUpdate) :
    world.channel.handleUpdate env msg ≠ .panic ↔
      Survives env prop.initBals world.channel.state msg := by
  have totals := (reached_carries starts runs).1
  rw [handle_update_survives recovers]
  unfold Survives Allocation.TotalsFit
  rw [totals]

end Reached

/-! A channel of the plain environment, and two updates by its other participant: one
names a third actor, the other one proposes balances whose sum is too large. -/
section Plain

theorem plain_recovers_or_fails (hash : Hash) (sig : Signature) :
    plainEnv.recoverSigner hash sig ≠ .panic := by
  dsimp only [plainEnv]
  split <;> simp

def plainUpdate (actorIdx : PartIdx) : LedgerChannelUpdate :=
  ⟨plainPayment, actorIdx, plainSign plainAnswer.participant (stateHash plainEnv plainPayment)⟩

def plainFlood : LedgerChannelUpdate :=
  { plainUpdate 1 with
    state := { plainPayment with outcome.balances := #v[#v[BitVec.allOnes 256, 1]] } }

theorem handle_update_survives_payment : ∃ start bus,
    Starts ⟨plainProposal.participant⟩ plainProposal.participant plainProposal [] start ∧
    Relation.ReflTransGen Advances start (.active (World.start plainEnv plainFunded bus)) ∧
    plainFunded.handleUpdate plainEnv (plainUpdate 1) ≠ .panic := by
  obtain ⟨start, bus, starts, runs⟩ := plain_active
  refine ⟨start, bus, starts, runs, ?_⟩
  have survives := handle_update_survives_iff plain_recovers_or_fails _ _ _ starts runs
    (plainUpdate 1)
  have room : (0 : BitVec 64).toNat + 1 < 2 ^ 64 := by decide
  exact survives.mpr fun _ _ => ⟨fun _ => room, fun _ _ =>
    ⟨by decide, by decide, fun _ _ => Nat.one_lt_two⟩⟩

theorem handle_update_aborts : ∃ start bus,
    Starts ⟨plainProposal.participant⟩ plainProposal.participant plainProposal [] start ∧
    Relation.ReflTransGen Advances start (.active (World.start plainEnv plainFunded bus)) ∧
    plainFunded.handleUpdate plainEnv (plainUpdate 2) = .panic ∧
    plainFunded.handleUpdate plainEnv plainFlood = .panic := by
  obtain ⟨start, bus, starts, runs⟩ := plain_active
  refine ⟨start, bus, starts, runs, ?_, ?_⟩
  · by_contra safe
    have survives := (handle_update_survives plain_recovers_or_fails).mp safe
    have actor := ((survives rfl rfl).2 rfl rfl).2.2 rfl
      ⟨_, plain_recover plainAnswer.participant _⟩
    exact absurd actor (by decide)
  · by_contra safe
    have survives := (handle_update_survives plain_recovers_or_fails).mp safe
    exact absurd ((survives rfl rfl).2 rfl rfl).1 (by decide)

end Plain
end Perun.HandlerSafety
