import Perun.Opening

/-! Runs of one active channel. The application holds any number of updates
beside the channel and calls the methods in any order and with any arguments and
messages; updates of channels with another id may be among them. A call that
aborts ends the run. What a call can do is said once, by `Effect`. -/
namespace Perun.ChannelRun
open AbiTypes Payment Messages MessageBus Active Opening

/-- An update that the application holds. `createdAt` is the version of the
channel it was created from, if it was created from this channel. -/
structure Pending where
  update : ChannelUpdate
  createdAt : Option (BitVec 64)

/-- `applied` records for each successful `apply` where its update was created. -/
structure World (env : Env) where
  channel : ActiveChannel env.Signer
  pool : List Pending
  bus : Bus
  applied : List (Option (BitVec 64))

inductive Action where
  | update (newState : State 1 2)
  | handleUpdate (msg : LedgerChannelUpdate)
  | foreign (update : ChannelUpdate)
  | accept (k : Nat)
  | reject (k : Nat) (reason : String)
  | participantAccepted (k : Nat) (partIdx : PartIdx) (msg : LedgerChannelUpdateAccepted)
  | apply (k : Nat)
  | forceClose
  | withdraw

/-- The world after a call, in the two ways it can return. -/
def settle {ε α β γ : Type} (call : Outcome ε α × β) (ok : α → β → γ) (failed : β → γ) : Option γ :=
  match call with
  | (.ok value, after) => some (ok value after)
  | (.err _, after) => some (failed after)
  | (.panic, _) => none

section Step
variable (env : Env)

def step (world : World env) : Action → Option (World env)
  | .update newState =>
      settle (world.channel.update env newState world.bus)
        (fun update bus => { world with
          pool := world.pool ++ [⟨update, some world.channel.state.version⟩], bus := bus })
        (fun bus => { world with bus := bus })
  | .handleUpdate msg =>
      settle (world.channel.handleUpdate env msg, ())
        (fun update _ => { world with
          pool := world.pool ++ [⟨update, some world.channel.state.version⟩] })
        (fun _ => world)
  | .foreign update =>
      -- No second channel with the same id exists.
      if update.channelId = world.channel.state.id then none
      else some { world with pool := world.pool ++ [⟨update, none⟩] }
  | .accept k => do
      let pending ← world.pool[k]?
      settle (ChannelUpdate.accept env world.channel (pending.update, world.bus))
        (fun _ after => { world with
          pool := world.pool.set k { pending with update := after.1 }, bus := after.2 })
        (fun after => { world with
          pool := world.pool.set k { pending with update := after.1 }, bus := after.2 })
  | .reject k reason => do
      let pending ← world.pool[k]?
      settle (pending.update.reject env world.channel reason world.bus)
        (fun _ bus => { world with pool := world.pool.eraseIdx k, bus := bus })
        (fun bus => { world with pool := world.pool.eraseIdx k, bus := bus })
  | .participantAccepted k partIdx msg => do
      let pending ← world.pool[k]?
      settle (ChannelUpdate.participantAccepted env world.channel partIdx msg pending.update)
        (fun _ update => { world with pool := world.pool.set k { pending with update := update } })
        (fun update => { world with pool := world.pool.set k { pending with update := update } })
  | .apply k => do
      -- The update is borrowed: it stays in the pool and can be applied again.
      let pending ← world.pool[k]?
      settle (pending.update.apply env (world.channel, world.bus))
        (fun _ after => { world with
          channel := after.1, bus := after.2, applied := world.applied ++ [pending.createdAt] })
        (fun after => { world with channel := after.1, bus := after.2 })
  | .forceClose =>
      settle (world.channel.forceClose world.bus)
        (fun channel bus => { world with channel := channel, bus := bus })
        (fun bus => { world with bus := bus })
  | .withdraw =>
      settle (world.channel.withdraw world.bus)
        (fun channel bus => { world with channel := channel, bus := bus })
        (fun bus => { world with bus := bus })

def Steps : World env → World env → Prop := fun world after =>
  ∃ action, step env world action = some after

/-- Any number of calls, all of which return. -/
def Runs : World env → World env → Prop := Relation.ReflTransGen (Steps env)

def World.start (channel : ActiveChannel env.Signer) (bus : Bus) : World env :=
  ⟨channel, [], bus, []⟩

end Step

/-! The way to an active channel: signatures are collected in any order, and
`build` hands the channel back until they are all there. -/
section Signing
variable (env : Env)

inductive SigningAction where
  | sign
  | addSignature (msg : LedgerChannelUpdateAccepted)
  | failedBuild

def signingStep (before : AgreedUponChannel env.Signer × Bus) :
    SigningAction → Option (AgreedUponChannel env.Signer × Bus)
  | .sign => settle (AgreedUponChannel.sign env before) (fun _ after => after) (fun after => after)
  | .addSignature msg =>
      settle (AgreedUponChannel.addSignature env msg before.1)
        (fun _ channel => (channel, before.2)) (fun channel => (channel, before.2))
  | .failedBuild =>
      match before.1.build env before.2 with
      | (.err (back, _), bus) => some (back, bus)
      | _ => none

def SigningRuns : AgreedUponChannel env.Signer × Bus → AgreedUponChannel env.Signer × Bus → Prop :=
  Relation.ReflTransGen fun before after => ∃ action, signingStep env before action = some after

/-- The active channel that an agreed upon channel becomes, with all that was
sent on the way. -/
def Opened (agreed : AgreedUponChannel env.Signer) (channel : ActiveChannel env.Signer)
    (bus : Bus) : Prop :=
  ∃ signing before signed, SigningRuns env (agreed, []) (signing, before) ∧
    signing.build env before = (.ok signed, bus) ∧ channel = signed.markFunded

end Signing

/-- The only signature of a fresh update. -/
def single (partIdx : PartIdx) (sig : Signature) : Vector (Option Signature) 2 :=
  (Vector.replicate 2 none).setIfInBounds partIdx (some sig)

inductive Effect {env : Env} (world : World env) : World env → Prop
  | unchanged : Effect world world
  | proposed (newState : State 1 2) (sig : Signature) (sender : Identity)
      (valid : ValidTransition env world.channel.state newState) (bound : world.channel.partIdx < 2)
      (signed : env.signEth world.channel.client.signer (stateHash env newState) = some sig) :
      Effect world { world with
        pool := world.pool ++ [⟨⟨world.channel.state.id, newState,
          single world.channel.partIdx sig⟩, some world.channel.state.version⟩]
        bus := world.bus ++ broadcast world.channel.partIdx sender world.channel.peers
          (.channelUpdate ⟨newState, world.channel.partIdx, sig⟩) }
  | received (msg : LedgerChannelUpdate) (signer : Address)
      (valid : ValidTransition env world.channel.state msg.state) (bound : msg.actorIdx < 2)
      (recovered : env.recoverSigner (stateHash env msg.state) msg.sig = .ok signer)
      (participant : world.channel.params.participants[msg.actorIdx]? = some signer) :
      Effect world { world with
        pool := world.pool ++ [⟨⟨world.channel.state.id, msg.state, single msg.actorIdx msg.sig⟩,
          some world.channel.state.version⟩] }
  | foreign (update : ChannelUpdate) (other : update.channelId ≠ world.channel.state.id) :
      Effect world { world with pool := world.pool ++ [⟨update, none⟩] }
  | accepted (k : Nat) (pending : Pending) (sig : Signature) (sender : Identity)
      (found : world.pool[k]? = some pending) (bound : world.channel.partIdx < 2)
      (signed : env.signEth world.channel.client.signer
        (stateHash env pending.update.newState) = some sig) :
      Effect world { world with
        pool := world.pool.set k { pending with update := { pending.update with
          signatures := pending.update.signatures.setIfInBounds world.channel.partIdx (some sig) } }
        bus := world.bus ++ broadcast world.channel.partIdx sender world.channel.peers
          (.channelUpdateAccepted
            ⟨pending.update.channelId, pending.update.newState.version, sig⟩) }
  | rejected (k : Nat) (sent : List Sent)
      (only : ∀ message ∈ sent, ∃ sender recipient msg,
        message = .toParticipant sender recipient msg) :
      Effect world { world with pool := world.pool.eraseIdx k, bus := world.bus ++ sent }
  | acknowledged (k : Nat) (pending : Pending) (partIdx : PartIdx) (sig : Signature)
      (signer : Address) (found : world.pool[k]? = some pending)
      (recovered : env.recoverSigner (stateHash env pending.update.newState) sig = .ok signer)
      (participant : world.channel.params.participants[partIdx]? = some signer) :
      Effect world { world with
        pool := world.pool.set k { pending with update := { pending.update with
          signatures := pending.update.signatures.setIfInBounds partIdx (some sig) } } }
  | applied (k : Nat) (pending : Pending) (signatures : Vector Signature 2)
      (found : world.pool[k]? = some pending)
      (matching : Matches env pending.update world.channel)
      (collected : collectSignatures pending.update.signatures = .ok signatures) :
      Effect world { world with
        channel := { world.channel with state := pending.update.newState, signatures := signatures }
        bus := world.bus ++ [.toWatcher (.watchRequest
          ⟨world.channel.params, pending.update.newState, signatures⟩)]
        applied := world.applied ++ [pending.createdAt] }
  | requested (message : FunderRequestMessage)
      (current : message = .registerReq ⟨world.channel.adjudicatorReq⟩ ∨
        message = .withdrawReq ⟨world.channel.adjudicatorReq⟩) :
      Effect world { world with bus := world.bus ++ [.toFunder message] }

theorem settle_cases {ε α β γ : Type} {call : Outcome ε α × β} {ok : α → β → γ} {failed : β → γ}
    {result : γ} (settled : settle call ok failed = some result) :
    (∃ value after, call = (.ok value, after) ∧ result = ok value after) ∨
      ∃ error after, call = (.err error, after) ∧ result = failed after := by
  rcases call with ⟨outcome, after⟩
  cases outcome with
  | ok value => exact Or.inl ⟨value, after, rfl, (Option.some.inj settled).symm⟩
  | err error => exact Or.inr ⟨error, after, rfl, (Option.some.inj settled).symm⟩
  | panic => cases settled

/-! A property of all pending updates, when one joins them or is replaced. -/

theorem forall_snoc {α : Type} {P : α → Prop} {values : List α} {value : α}
    (old : ∀ other ∈ values, P other) (new : P value) : ∀ other ∈ values ++ [value], P other := by
  intro other member
  rcases List.mem_append.mp member with inside | last
  · exact old other inside
  · rw [List.mem_singleton.mp last]
    exact new

theorem forall_set {α : Type} {P : α → Prop} {values : List α} {value : α} {k : Nat}
    (old : ∀ other ∈ values, P other) (new : P value) : ∀ other ∈ values.set k value, P other := by
  intro other member
  rcases List.mem_or_eq_of_mem_set member with inside | rfl
  · exact old other inside
  · exact new

theorem set_same {α : Type} {values : List α} {k : Nat} {value : α}
    (found : values[k]? = some value) : values.set k value = values := by
  obtain ⟨bound, same⟩ := List.getElem?_eq_some_iff.mp found
  rw [← same, List.set_getElem_self]

/-- Every call has one of the effects. -/
theorem step_effect {env : Env} {world after : World env} (action : Action)
    (stepped : step env world action = some after) : Effect world after := by
  cases action with
  | update newState =>
      rcases settle_cases stepped with ⟨update, bus, call, rfl⟩ | ⟨error, bus, call, rfl⟩
      · obtain ⟨valid, bound, sig, sender, signed, _, rfl, rfl⟩ := update_ok.mp call
        exact .proposed newState sig sender valid bound signed
      · rw [update_atomic _ _ _ _ _ call]
        exact .unchanged
  | handleUpdate msg =>
      rcases settle_cases stepped with ⟨update, _, call, rfl⟩ | ⟨error, _, call, rfl⟩
      · obtain ⟨valid, bound, signer, recovered, participant, rfl⟩ :=
          handle_update_ok.mp (Prod.mk.inj call).1
        exact .received msg signer valid bound recovered participant
      · exact .unchanged
  | foreign update =>
      simp only [step] at stepped
      split at stepped
      · cases stepped
      · rename_i other
        cases stepped
        exact .foreign update other
  | accept k =>
      obtain ⟨pending, found, settled⟩ := Option.bind_eq_some_iff.mp stepped
      rcases settle_cases settled with ⟨_, result, call, rfl⟩ | ⟨error, result, call, rfl⟩
      · obtain ⟨_, slot, sig, sender, signed, _, rfl⟩ := accept_ok.mp call
        exact .accepted k pending sig sender found (Vector.getElem?_eq_some_iff.mp slot).1 signed
      · rw [accept_atomic _ _ _ _ call, set_same found]
        exact .unchanged
  | reject k reason =>
      obtain ⟨pending, found, settled⟩ := Option.bind_eq_some_iff.mp stepped
      rcases settle_cases settled with ⟨_, bus, call, rfl⟩ | ⟨error, bus, call, rfl⟩
      · obtain ⟨_, sender, _, rfl⟩ := reject_ok.mp call
        refine .rejected k _ fun message member => ?_
        obtain ⟨peer, _, rfl⟩ := List.mem_map.mp member
        exact ⟨sender, peer.1, _, rfl⟩
      · rw [reject_atomic _ _ _ _ _ _ call]
        have nothing := @Effect.rejected env world k [] (by simp)
        rwa [List.append_nil] at nothing
  | participantAccepted k partIdx msg =>
      obtain ⟨pending, found, settled⟩ := Option.bind_eq_some_iff.mp stepped
      rcases settle_cases settled with ⟨_, update, call, rfl⟩ | ⟨error, update, call, rfl⟩
      · obtain ⟨_, _, _, _, ⟨signer, recovered, participant⟩, rfl⟩ := participant_accepted_ok.mp call
        exact .acknowledged k pending partIdx msg.sig signer found recovered participant
      · rw [participant_accepted_atomic _ _ _ _ _ _ call, set_same found]
        exact .unchanged
  | apply k =>
      obtain ⟨pending, found, settled⟩ := Option.bind_eq_some_iff.mp stepped
      rcases settle_cases settled with ⟨_, result, call, rfl⟩ | ⟨error, result, call, rfl⟩
      · obtain ⟨matching, signatures, collected, rfl⟩ := apply_ok.mp call
        exact .applied k pending signatures found matching collected
      · rw [apply_atomic _ _ _ _ call]
        exact .unchanged
  | forceClose =>
      cases stepped
      exact .requested _ (Or.inl rfl)
  | withdraw =>
      cases stepped
      exact .requested _ (Or.inr rfl)

/-- The effects of collecting a signature. -/
inductive SigningEffect {env : Env} (channel : AgreedUponChannel env.Signer) (bus : Bus) :
    AgreedUponChannel env.Signer × Bus → Prop
  | unchanged : SigningEffect channel bus (channel, bus)
  | signed (sig : Signature) (sender : Identity) (bound : channel.partIdx < 2)
      (signed : env.signEth channel.client.signer (stateHash env channel.initState) = some sig) :
      SigningEffect channel bus ({ channel with
          signatures := channel.signatures.setIfInBounds channel.partIdx (some sig) },
        bus ++ broadcast channel.partIdx sender channel.peers
          (.channelUpdateAccepted ⟨channel.initState.id, channel.initState.version, sig⟩))
  | added (sig : Signature) (signer : Address) (partIdx : PartIdx)
      (recovered : env.recoverSigner (stateHash env channel.initState) sig = .ok signer)
      (participant : channel.params.participants[partIdx]? = some signer) :
      SigningEffect channel bus ({ channel with
        signatures := channel.signatures.setIfInBounds partIdx (some sig) }, bus)

theorem find_participant {participants : Vector Address 2} {signer : Address} {partIdx : PartIdx}
    (found : participants.toList.findIdx? (fun part => part == signer) = some partIdx) :
    participants[partIdx]? = some signer := by
  obtain ⟨bound, same, _⟩ := List.findIdx?_eq_some_iff_getElem.mp found
  rw [Vector.length_toList] at bound
  rw [Vector.getElem?_eq_getElem bound]
  simpa using same

theorem signing_step_effect {env : Env} {channel : AgreedUponChannel env.Signer} {bus : Bus}
    {after : AgreedUponChannel env.Signer × Bus} (action : SigningAction)
    (stepped : signingStep env (channel, bus) action = some after) :
    SigningEffect channel bus after := by
  cases action with
  | sign =>
      rcases settle_cases stepped with ⟨_, result, call, rfl⟩ | ⟨error, result, call, rfl⟩
      · obtain ⟨slot, sig, sender, signed, _, rfl⟩ := sign_ok.mp call
        exact .signed sig sender (Vector.getElem?_eq_some_iff.mp slot).1 signed
      · rw [sign_atomic _ _ _ call]
        exact .unchanged
  | addSignature msg =>
      rcases settle_cases stepped with ⟨_, result, call, rfl⟩ | ⟨error, result, call, rfl⟩
      · obtain ⟨_, _, signer, partIdx, recovered, found, _, rfl⟩ := add_signature_ok.mp call
        exact .added msg.sig signer partIdx recovered (find_participant found)
      · rw [add_signature_atomic _ _ _ _ call]
        exact .unchanged
  | failedBuild =>
      simp only [signingStep] at stepped
      split at stepped
      · rename_i back error rest call
        cases stepped
        rw [agreed_build_back call, agreed_build_atomic _ _ _ _ call]
        exact .unchanged
      · cases stepped

/-- Only the signature slots change while signatures are collected. -/
theorem signing_runs_frame {env : Env} {before after : AgreedUponChannel env.Signer × Bus}
    (runs : SigningRuns env before after) :
    ∃ signatures, after.1 = { before.1 with signatures := signatures } := by
  induction runs with
  | refl => exact ⟨before.1.signatures, rfl⟩
  | tail _ stepped ih =>
      obtain ⟨signatures, same⟩ := ih
      obtain ⟨action, stepped⟩ := stepped
      cases signing_step_effect action stepped with
      | unchanged => exact ⟨signatures, same⟩
      | signed sig sender bound signed =>
          rw [same]
          exact ⟨_, rfl⟩
      | added sig signer partIdx recovered participant =>
          rw [same]
          exact ⟨_, rfl⟩

/-! Runs exist: with the signature of the other side a channel is opened, and an
update is applied once it is acknowledged. -/
section Liveness
variable {env : Env} {own other : Signature} {sender : Identity}

theorem settle_ok {ε α β γ : Type} {call : Outcome ε α × β} {ok : α → β → γ} {failed : β → γ}
    {value : α} {after : β} (returned : call = (.ok value, after)) :
    settle call ok failed = some (ok value after) := by
  rw [returned]
  rfl

theorem signed_with {agreed : AgreedUponChannel env.Signer} {signer : Address} (bus : Bus)
    (fresh : agreed.signatures = Vector.replicate 2 none) (proposer : agreed.partIdx = 0)
    (signed : env.signEth agreed.client.signer (stateHash env agreed.initState) = some own)
    (peer : agreed.peers[agreed.partIdx]? = some sender)
    (recovered : env.recoverSigner (stateHash env agreed.initState) other = .ok signer)
    (found : agreed.params.participants.toList.findIdx? (fun part => part == signer) = some 1) :
    ∃ signing before signed after, SigningRuns env (agreed, bus) (signing, before) ∧
      signing.build env before = (.ok signed, after) ∧
      signed.markFunded = ⟨agreed.partIdx, agreed.withdrawReceiver, agreed.client,
        agreed.initState, agreed.params, #v[own, other], agreed.peers⟩ := by
  rcases agreed with ⟨partIdx, receiver, client, funding, state, params, slots, peers⟩
  dsimp only at fresh proposer signed peer recovered found
  subst fresh proposer
  let holding (slots : Vector (Option Signature) 2) : AgreedUponChannel env.Signer :=
    ⟨0, receiver, client, funding, state, params, slots, peers⟩
  let acceptance : LedgerChannelUpdateAccepted := ⟨state.id, 0, other⟩
  let sent := bus ++ broadcast 0 sender peers (.channelUpdateAccepted ⟨state.id, state.version, own⟩)
  have signs : AgreedUponChannel.sign env (holding #v[none, none], bus) =
      (.ok (), (holding #v[some own, none], sent)) :=
    sign_ok.mpr ⟨rfl, own, sender, signed, peer, rfl⟩
  have adds : AgreedUponChannel.addSignature env acceptance (holding #v[some own, none]) =
      (.ok (), holding #v[some own, some other]) :=
    add_signature_ok.mpr ⟨rfl, rfl, signer, 1, recovered, found, rfl, rfl⟩
  have built := (@agreed_build_ok env (holding #v[some own, some other]) sent _ _).mpr
    ⟨fun _ => Nat.zero_lt_two, #v[own, other], rfl, rfl, rfl⟩
  have first : SigningRuns env (holding #v[none, none], bus) (holding #v[some own, none], sent) :=
    Relation.ReflTransGen.single ⟨.sign, settle_ok signs⟩
  exact ⟨_, _, _, _, first.tail ⟨.addSignature acceptance, settle_ok adds⟩, built, rfl⟩

theorem opened_with {agreed : AgreedUponChannel env.Signer} {signer : Address}
    (fresh : agreed.signatures = Vector.replicate 2 none) (proposer : agreed.partIdx = 0)
    (signed : env.signEth agreed.client.signer (stateHash env agreed.initState) = some own)
    (peer : agreed.peers[agreed.partIdx]? = some sender)
    (recovered : env.recoverSigner (stateHash env agreed.initState) other = .ok signer)
    (found : agreed.params.participants.toList.findIdx? (fun part => part == signer) = some 1) :
    ∃ bus, Opened env agreed ⟨agreed.partIdx, agreed.withdrawReceiver, agreed.client,
      agreed.initState, agreed.params, #v[own, other], agreed.peers⟩ bus := by
  obtain ⟨signing, before, signed, bus, runs, built, funded⟩ :=
    signed_with [] fresh proposer signed peer recovered found
  exact ⟨bus, signing, before, signed, runs, built, funded.symm⟩

theorem updated_with {channel : ActiveChannel env.Signer} {newState : State 1 2} (bus : Bus)
    (proposer : channel.partIdx = 0) (valid : ValidTransition env channel.state newState)
    (signed : env.signEth channel.client.signer (stateHash env newState) = some own)
    (peer : channel.peers[channel.partIdx]? = some sender)
    {signer : Address} (recovered : env.recoverSigner (stateHash env newState) other = .ok signer)
    (participant : channel.params.participants[1]? = some signer) :
    ∃ world, Runs env (World.start env channel bus) world ∧
      world.channel = { channel with state := newState, signatures := #v[own, other] } ∧
      world.applied = [some channel.state.version] := by
  rcases channel with ⟨partIdx, receiver, client, state, params, sigs, peers⟩
  dsimp only at proposer valid signed peer participant
  subst proposer
  let channel : ActiveChannel env.Signer := ⟨0, receiver, client, state, params, sigs, peers⟩
  let holding (slots : Vector (Option Signature) 2) : ChannelUpdate := ⟨state.id, newState, slots⟩
  let pending (slots : Vector (Option Signature) 2) : Pending := ⟨holding slots, some state.version⟩
  let acceptance : LedgerChannelUpdateAccepted := ⟨state.id, newState.version, other⟩
  let sent := bus ++ broadcast 0 sender peers (.channelUpdate ⟨newState, 0, own⟩)
  have matching (slots : Vector (Option Signature) 2) : Matches env (holding slots) channel :=
    ⟨valid.version, rfl⟩
  have updates : channel.update env newState bus = (.ok (holding #v[some own, none]), sent) :=
    update_ok.mpr ⟨valid, Nat.zero_lt_two, own, sender, signed, peer, rfl, rfl⟩
  have accepts : ChannelUpdate.participantAccepted env channel 1 acceptance
      (holding #v[some own, none]) = (.ok (), holding #v[some own, some other]) :=
    participant_accepted_ok.mpr ⟨matching _, rfl, rfl, rfl, ⟨_, recovered, participant⟩, rfl⟩
  have applies := (@apply_ok env (holding #v[some own, some other]) channel sent _).mpr
    ⟨matching _, #v[own, other], rfl, rfl⟩
  have first : Runs env (World.start env channel bus)
      ⟨channel, [pending #v[some own, none]], sent, []⟩ :=
    Relation.ReflTransGen.single ⟨.update newState, settle_ok updates⟩
  have second : Runs env (World.start env channel bus)
      ⟨channel, [pending #v[some own, some other]], sent, []⟩ :=
    first.tail ⟨.participantAccepted 0 1 acceptance, settle_ok accepts⟩
  exact ⟨_, second.tail ⟨.apply 0, settle_ok applies⟩, rfl, rfl⟩

end Liveness

/-! A payment of one unit that closes the channel. -/
section Plain

def plainProposed : ProposedChannel plainEnv.Signer :=
  ⟨0, plainProposal.participant, ⟨plainProposal.participant⟩, plainProposal, #v[some plainAnswer]⟩

def plainAgreed : AgreedUponChannel plainEnv.Signer :=
  ⟨0, plainProposal.participant, ⟨plainProposal.participant⟩, plainProposal.fundingAgreement,
    agreedState plainEnv plainProposal plainAnswer, agreedParams plainEnv plainProposal plainAnswer,
    Vector.replicate 2 none, plainProposal.peers⟩

theorem plain_built : plainProposed.build plainEnv = .ok plainAgreed :=
  proposed_build_ok.mpr ⟨plainAnswer, rfl, rfl⟩

theorem plain_run : ∃ channel bus world, Opened plainEnv plainAgreed channel bus ∧
    Runs plainEnv (World.start plainEnv channel bus) world ∧
    world.channel.state = plainPayment ∧ world.applied = [some 0] := by
  let own := plainSign plainProposal.participant (stateHash plainEnv plainAgreed.initState)
  let other := plainSign plainAnswer.participant (stateHash plainEnv plainAgreed.initState)
  let channel : ActiveChannel plainEnv.Signer :=
    ⟨0, plainAgreed.withdrawReceiver, plainAgreed.client, plainAgreed.initState, plainAgreed.params,
      #v[own, other], plainAgreed.peers⟩
  obtain ⟨bus, opened⟩ : ∃ bus, Opened plainEnv plainAgreed channel bus :=
    opened_with rfl rfl rfl rfl (plain_recover plainAnswer.participant _) (by decide)
  obtain ⟨world, runs, final, applied⟩ := @updated_with plainEnv _ _ _ channel plainPayment bus rfl
    plain_payment rfl rfl _ (plain_recover plainAnswer.participant _) rfl
  exact ⟨channel, bus, world, opened, runs, by rw [final], applied⟩

end Plain

end Perun.ChannelRun
