import Perun.ChannelRun

/-! The signatures a channel holds. They enter through six methods, into a slot
chosen by the own index, by a search for the recovered address or by an index from
outside; in every case the slot's participant signed the state the slot is for.
So whatever reaches the watcher or the funder is backed by both signatures. -/
namespace Perun.SignatureSafety
open AbiTypes Payment Messages MessageBus Active Opening ChannelRun

variable {env : Env}

/-- Every filled slot was signed by its participant. -/
def SlotsValid (env : Env) (params : Params 2) (state : State 1 2)
    (slots : Vector (Option Signature) 2) : Prop :=
  ∀ (i : Nat) (sig : Signature), slots[i]? = some (some sig) → ∃ participant,
    params.participants[i]? = some participant ∧
      env.recoverSigner (stateHash env state) sig = .ok participant

/-- All participants signed the state. -/
def Held (env : Env) (params : Params 2) (state : State 1 2) (sigs : Vector Signature 2) : Prop :=
  ∀ (i : Nat) (bound : i < 2),
    env.recoverSigner (stateHash env state) sigs[i] = .ok params.participants[i]

section Slots
variable {params : Params 2} {state : State 1 2} {slots : Vector (Option Signature) 2}

theorem empty_valid : SlotsValid env params state (Vector.replicate 2 none) := by
  intro i sig held
  obtain ⟨bound, same⟩ := Vector.getElem?_eq_some_iff.mp held
  simp at same

theorem store_valid {k : Nat} {sig : Signature} {signer : Address}
    (participant : params.participants[k]? = some signer)
    (recovered : env.recoverSigner (stateHash env state) sig = .ok signer)
    (valid : SlotsValid env params state slots) :
    SlotsValid env params state (slots.setIfInBounds k (some sig)) := by
  intro i sig' held
  rw [Vector.getElem?_setIfInBounds] at held
  split at held
  · rename_i same
    split at held
    · cases held
      exact ⟨signer, same ▸ participant, recovered⟩
    · cases held
  · exact valid i sig' held

theorem single_valid {k : Nat} {sig : Signature} {signer : Address}
    (participant : params.participants[k]? = some signer)
    (recovered : env.recoverSigner (stateHash env state) sig = .ok signer) :
    SlotsValid env params state (single k sig) :=
  store_valid participant recovered empty_valid

theorem collected_held {sigs : Vector Signature 2} (valid : SlotsValid env params state slots)
    (collected : collectSignatures slots = .ok sigs) : Held env params state sigs := by
  unfold collectSignatures at collected
  split at collected
  · rename_i first second slot slot'
    cases collected
    intro i bound
    interval_cases i
    · obtain ⟨participant, found, recovered⟩ := valid 0 first (by simp [slot])
      rw [Vector.getElem?_eq_getElem (by decide)] at found
      rw [Option.some.inj found]
      exact recovered
    · obtain ⟨participant, found, recovered⟩ := valid 1 second (by simp [slot'])
      rw [Vector.getElem?_eq_getElem (by decide)] at found
      rw [Option.some.inj found]
      exact recovered
  · cases collected
  · cases collected

end Slots

/-! What was sent, in the order it was sent. -/
section Sending

def lastWatch (bus : Bus) : Option StartWatchingLedgerChannelReq :=
  bus.foldl (fun last message =>
    match message with
    | .toWatcher (.watchRequest req) => some req
    | _ => last) none

/-- A request is backed if it carries what the watcher was told last and both
signatures over it are held. A dispute is never started. -/
def Backed (env : Env) (before : Bus) : Sent → Prop
  | .toParticipant _ _ _ => True
  | .toWatcher (.watchRequest req) => Held env req.params req.state req.sigs
  | .toWatcher (.startDispute _) => False
  | .toFunder (.fundReq req) => ∃ sigs,
      lastWatch before = some ⟨req.params, req.state, sigs⟩ ∧ Held env req.params req.state sigs
  | .toFunder (.registerReq req) =>
      lastWatch before = some ⟨req.adjReq.params, req.adjReq.tx.state, req.adjReq.tx.sigs⟩ ∧
        Held env req.adjReq.params req.adjReq.tx.state req.adjReq.tx.sigs
  | .toFunder (.withdrawReq req) =>
      lastWatch before = some ⟨req.adjReq.params, req.adjReq.tx.state, req.adjReq.tx.sigs⟩ ∧
        Held env req.adjReq.params req.adjReq.tx.state req.adjReq.tx.sigs

def AllBacked (env : Env) (bus : Bus) : Prop :=
  ∀ before message after, bus = before ++ message :: after → Backed env before message

def ToParticipants (sent : List Sent) : Prop :=
  ∀ message ∈ sent, ∃ sender recipient msg, message = .toParticipant sender recipient msg

theorem last_watch_snoc (bus : Bus) (message : Sent) :
    lastWatch (bus ++ [message]) =
      match message with
      | .toWatcher (.watchRequest req) => some req
      | _ => lastWatch bus := by
  simp only [lastWatch, List.foldl_append, List.foldl_cons, List.foldl_nil]

theorem all_backed_nil : AllBacked env [] := by
  intro before message after split
  cases before <;> cases split

theorem all_backed_snoc {bus : Bus} {message : Sent} (backed : AllBacked env bus)
    (last : Backed env bus message) : AllBacked env (bus ++ [message]) := by
  intro before other after split
  rcases List.eq_nil_or_concat after with rfl | ⟨rest, final, rfl⟩
  · obtain ⟨rfl, same⟩ := List.append_inj' split rfl
    cases same
    exact last
  · have aligned : bus ++ [message] = (before ++ other :: rest) ++ [final] := by
      simpa using split
    exact backed before other rest (List.append_inj' aligned rfl).1

theorem broadcast_to_participants (partIdx : PartIdx) (sender : Identity) (peers : Peers)
    (msg : ParticipantMessage) : ToParticipants (broadcast partIdx sender peers msg) := by
  intro message member
  obtain ⟨peer, _, rfl⟩ := List.mem_map.mp member
  exact ⟨sender, peer.1, msg, rfl⟩

/-- Messages to participants leave the record of the watcher as it is. -/
theorem participants_only {bus : Bus} {sent : List Sent} (only : ToParticipants sent)
    (backed : AllBacked env bus) :
    AllBacked env (bus ++ sent) ∧ lastWatch (bus ++ sent) = lastWatch bus := by
  induction sent using List.reverseRecOn with
  | nil => simpa using backed
  | append_singleton sent message ih =>
      obtain ⟨sender, recipient, msg, rfl⟩ := only message (by simp)
      obtain ⟨earlier, same⟩ := ih fun m member => only m (by simp [member])
      rw [← List.append_assoc, last_watch_snoc]
      exact ⟨all_backed_snoc earlier trivial, same⟩

end Sending

section Run
variable (recovers : ∀ signer hash sig, env.signEth signer hash = some sig →
  env.recoverSigner hash sig = .ok (env.address signer))

include recovers

/-- While signatures are collected the slots stay valid, and only the other
participants hear about it. -/
theorem signing_runs_valid {agreed : AgreedUponChannel env.Signer}
    (own : agreed.params.participants[agreed.partIdx]? = some (env.address agreed.client.signer))
    (fresh : SlotsValid env agreed.params agreed.initState agreed.signatures)
    {after : AgreedUponChannel env.Signer × Bus} (runs : SigningRuns env (agreed, []) after) :
    ∃ slots, after.1 = { agreed with signatures := slots } ∧
      SlotsValid env agreed.params agreed.initState slots ∧ ToParticipants after.2 := by
  induction runs with
  | refl => exact ⟨agreed.signatures, rfl, fresh, fun message member => by cases member⟩
  | @tail before _ _ stepped ih =>
      obtain ⟨slots, same, valid, only⟩ := ih
      obtain ⟨action, stepped⟩ := stepped
      rcases before with ⟨channel, bus⟩
      dsimp only at same only
      subst same
      cases signing_step_effect action stepped with
      | unchanged => exact ⟨slots, rfl, valid, only⟩
      | signed sig sender bound signed =>
          refine ⟨_, rfl, store_valid own (recovers _ _ _ signed) valid, fun message member => ?_⟩
          rcases List.mem_append.mp member with old | new
          · exact only message old
          · exact broadcast_to_participants _ _ _ _ message new
      | added sig signer partIdx recovered participant =>
          exact ⟨_, rfl, store_valid participant recovered valid, only⟩

omit recovers

/-- What is known of an update that could be applied to the channel. -/
def Collecting (env : Env) (channel : ActiveChannel env.Signer) (update : ChannelUpdate) : Prop :=
  update.channelId = channel.state.id →
    update.newState.id = channel.state.id ∧
      SlotsValid env channel.params update.newState update.signatures

structure Invariant (world : World env) : Prop where
  own : world.channel.params.participants[world.channel.partIdx]? =
    some (env.address world.channel.client.signer)
  held : Held env world.channel.params world.channel.state world.channel.signatures
  collecting : ∀ pending ∈ world.pool, Collecting env world.channel pending.update
  watched : lastWatch world.bus = some world.channel.watchInfo
  backed : AllBacked env world.bus

-- An update of the pool receives a signature of its participant.
theorem pool_signed {channel : ActiveChannel env.Signer} {pool : List Pending} {pending : Pending}
    {k : Nat} {partIdx : PartIdx} {sig : Signature} {signer : Address}
    (old : ∀ pending ∈ pool, Collecting env channel pending.update)
    (found : pool[k]? = some pending)
    (participant : channel.params.participants[partIdx]? = some signer)
    (recovered : env.recoverSigner (stateHash env pending.update.newState) sig = .ok signer) :
    ∀ other ∈ pool.set k { pending with update := { pending.update with
        signatures := pending.update.signatures.setIfInBounds partIdx (some sig) } },
      Collecting env channel other.update := by
  refine forall_set old fun sameId => ?_
  obtain ⟨id, valid⟩ := old pending (List.mem_of_getElem? found) sameId
  exact ⟨id, store_valid participant recovered valid⟩

/-- What is said to participants only matters for the pool. -/
theorem Invariant.told {world : World env} (invariant : Invariant world) {pool : List Pending}
    {sent : List Sent} (only : ToParticipants sent)
    (collecting : ∀ pending ∈ pool, Collecting env world.channel pending.update) :
    Invariant { world with pool := pool, bus := world.bus ++ sent } := by
  obtain ⟨backed, same⟩ := participants_only only invariant.backed
  exact
    { own := invariant.own
      held := invariant.held
      collecting := collecting
      watched := same.trans invariant.watched
      backed := backed }

include recovers in
theorem effect_invariant {world after : World env} (effect : Effect world after)
    (invariant : Invariant world) : Invariant after := by
  cases effect with
  | unchanged => exact invariant
  | proposed newState sig sender valid bound signed =>
      have fresh := single_valid invariant.own (recovers _ _ _ signed)
      apply invariant.told (broadcast_to_participants _ _ _ _)
      exact forall_snoc invariant.collecting fun _ => ⟨valid.sameId, fresh⟩
  | received msg signer valid bound recovered participant =>
      have fresh := single_valid participant recovered
      exact { invariant with
        collecting := forall_snoc invariant.collecting fun _ => ⟨valid.sameId, fresh⟩ }
  | foreign update other =>
      exact { invariant with
        collecting := forall_snoc invariant.collecting fun same => absurd same other }
  | accepted k pending sig sender found bound signed =>
      apply invariant.told (broadcast_to_participants _ _ _ _)
      exact pool_signed invariant.collecting found invariant.own (recovers _ _ _ signed)
  | rejected k sent only =>
      apply invariant.told only
      intro pending member
      exact invariant.collecting pending (List.mem_of_mem_eraseIdx member)
  | acknowledged k pending partIdx sig signer found recovered participant =>
      exact { invariant with
        collecting := pool_signed invariant.collecting found participant recovered }
  | applied k pending signatures found matching collected =>
      -- The id did not change, so the update was collecting for this channel.
      obtain ⟨sameId, valid⟩ :=
        invariant.collecting pending (List.mem_of_getElem? found) matching.2
      have held := collected_held valid collected
      exact
        { own := invariant.own
          held := held
          collecting := fun other member same => by
            obtain ⟨id, valid⟩ := invariant.collecting other member (same.trans sameId)
            exact ⟨id.trans sameId.symm, valid⟩
          watched := last_watch_snoc _ _
          backed := all_backed_snoc invariant.backed held }
  | requested message current =>
      have backed : Backed env world.bus (.toFunder message) := by
        rcases current with rfl | rfl
        · exact ⟨invariant.watched, invariant.held⟩
        · exact ⟨invariant.watched, invariant.held⟩
      exact
        { own := invariant.own
          held := invariant.held
          collecting := invariant.collecting
          watched := (last_watch_snoc _ _).trans invariant.watched
          backed := all_backed_snoc invariant.backed backed }

include recovers in
theorem run_invariant {world after : World env} (runs : Runs env world after)
    (invariant : Invariant world) : Invariant after := by
  induction runs with
  | refl => exact invariant
  | tail _ stepped ih =>
      obtain ⟨action, stepped⟩ := stepped
      exact effect_invariant recovers (step_effect action stepped) ih

include recovers in
/-- The first messages beyond the participants are sent with all signatures. -/
theorem opened_invariant {agreed : AgreedUponChannel env.Signer}
    {channel : ActiveChannel env.Signer} {bus : Bus}
    (own : agreed.params.participants[agreed.partIdx]? = some (env.address agreed.client.signer))
    (fresh : SlotsValid env agreed.params agreed.initState agreed.signatures)
    (opened : Opened env agreed channel bus) : Invariant (World.start env channel bus) := by
  obtain ⟨signing, before, signed, runs, sent, rfl⟩ := opened
  obtain ⟨slots, rfl, valid, only⟩ := signing_runs_valid recovers own fresh runs
  obtain ⟨_, signatures, collected, rfl, rfl⟩ := agreed_build_ok.mp sent
  have held := collected_held valid collected
  have quiet : AllBacked env before := (participants_only only all_backed_nil).1
  exact
    { own := own
      held := held
      collecting := fun pending member => by cases member
      watched := by
        dsimp only [World.start]
        rw [List.append_cons, last_watch_snoc, last_watch_snoc]
        rfl
      backed := by
        dsimp only [World.start]
        rw [List.append_cons]
        exact all_backed_snoc (all_backed_snoc quiet held) ⟨signatures, last_watch_snoc _ _, held⟩ }

end Run

/-- A channel that is being opened talks to the participants only. From its first
state on, all participants signed the state it has, the watcher was last told this
very state, and each request to the funder carried what the watcher knew. -/
theorem signatures_are_safe (env : Env)
    (recovers : ∀ signer hash sig, env.signEth signer hash = some sig →
      env.recoverSigner hash sig = .ok (env.address signer))
    (proposed : ProposedChannel env.Signer) (agreed : AgreedUponChannel env.Signer)
    (built : proposed.build env = .ok agreed)
    (own : agreed.params.participants[agreed.partIdx]? = some (env.address agreed.client.signer)) :
    (∀ signing bus, SigningRuns env (agreed, []) (signing, bus) → ToParticipants bus) ∧
    ∀ channel bus, Opened env agreed channel bus →
      ∀ world, Runs env (World.start env channel bus) world →
        (∃ hash, hashState env world.channel.state = .ok hash ∧
          ∀ (i : Nat) (bound : i < 2), env.recoverSigner hash world.channel.signatures[i] =
            .ok world.channel.params.participants[i]) ∧
        lastWatch world.bus = some world.channel.watchInfo ∧ AllBacked env world.bus := by
  have fresh : SlotsValid env agreed.params agreed.initState agreed.signatures := by
    obtain ⟨res, _, rfl⟩ := proposed_build_ok.mp built
    exact empty_valid
  constructor
  · intro signing bus runs
    obtain ⟨_, _, _, only⟩ := signing_runs_valid recovers own fresh runs
    exact only
  · intro channel bus opened world runs
    have invariant := run_invariant recovers runs (opened_invariant recovers own fresh opened)
    exact ⟨⟨_, hash_state _, invariant.held⟩, invariant.watched, invariant.backed⟩

theorem signatures_are_safe_payment : ∃ channel bus world,
    Opened plainEnv plainAgreed channel bus ∧
    Runs plainEnv (World.start plainEnv channel bus) world ∧
    world.channel.state = plainPayment ∧ lastWatch world.bus = some world.channel.watchInfo ∧
    AllBacked plainEnv world.bus := by
  obtain ⟨channel, bus, world, opened, runs, state, _⟩ := plain_run
  have safe := signatures_are_safe plainEnv plain_recovers plainProposed plainAgreed plain_built rfl
  obtain ⟨_, watched, backed⟩ := safe.2 channel bus opened world runs
  exact ⟨channel, bus, world, opened, runs, state, watched, backed⟩

end Perun.SignatureSafety
