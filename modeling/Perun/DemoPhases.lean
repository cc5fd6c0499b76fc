import Perun.DemoClosing
import Perun.Triple

/-! What goes along with a demo channel from phase to phase: who it belongs to, and what
the watcher was last told. A forced close registers exactly that. -/
namespace Perun.DemoPhases
open AbiTypes Payment Messages MessageBus Active Opening ChannelRun DemoChannel DemoRun DemoClosing
open Op (Ensures ensures_iff ensures_bind ensures_lift)

/-- The signatures that a channel holds once it has added a confirmation. -/
def Completes (env : Env) (channel : AgreedUponChannel env.Signer)
    (signatures : Vector Signature 2) :
    Prop :=
  ∃ msg holding, AgreedUponChannel.addSignature env msg channel = (.ok (), holding) ∧
    collectSignatures holding.signatures = .ok signatures

/-- A change with everything that the new phase takes over from the old one. -/
inductive Moves {env : Env} :
    ChannelInner env.Signer → Bus → ChannelInner env.Signer × Bus → Prop
  | agreed (channel : ProposedChannel env.Signer) (res : LedgerChannelProposalAcc) (sig : Signature)
      (sender : Identity) (bus : Bus)
      (peer : channel.proposal.peers[channel.partIdx]? = some sender) :
      Moves (.proposed channel) bus
        (.agreedUpon ⟨channel.partIdx, channel.withdrawReceiver, channel.client,
            channel.proposal.fundingAgreement, agreedState env channel.proposal res,
            agreedParams env channel.proposal res, single channel.partIdx sig,
            channel.proposal.peers⟩,
          bus ++ broadcast channel.partIdx sender channel.proposal.peers
            (.channelUpdateAccepted ⟨(agreedState env channel.proposal res).id, 0, sig⟩))
  | signed (channel : AgreedUponChannel env.Signer) (signatures : Vector Signature 2) (bus : Bus)
      (completes : Completes env channel signatures) :
      Moves (.agreedUpon channel) bus
        (.signed ⟨⟨channel.partIdx, channel.withdrawReceiver, channel.client, channel.initState,
            channel.params, signatures, channel.peers⟩⟩ false false,
          bus ++ [.toWatcher (.watchRequest ⟨channel.params, channel.initState, signatures⟩),
            .toFunder (.fundReq ⟨channel.partIdx, channel.fundingAgreement, channel.params,
              channel.initState⟩)])
  | later (inner : ChannelInner env.Signer) (bus : Bus) (after : ChannelInner env.Signer × Bus)
      (proposed : ∀ channel, inner = .proposed channel → after = (inner, bus))
      (agreed : ∀ channel, inner = .agreedUpon channel → after = (inner, bus))
      (changes : Changes inner bus after) : Moves inner bus after

section Inversion
variable {env : Env} {inner : ChannelInner env.Signer} {bus : Bus}

/-- Every way for a call to come back. -/
abbrev Back (env : Env) (post : ChannelInner env.Signer × Bus → Prop) : Method env →
    ChannelInner env.Signer × Bus → Prop := Ensures (fun _ => post) (fun _ => post)

theorem moves_kept : Moves inner bus (inner, bus) :=
  .later inner bus _ (fun _ _ => rfl) (fun _ _ => rfl) (.kept inner bus)

theorem ensures_progress {transition : ChannelInner env.Signer → Transition env}
    {post : ChannelInner env.Signer × Bus → Prop}
    (ensures : Ensures (fun next after => post (next, after))
      (fun failed after => post (failed.1, after)) (transition inner) bus) :
    Back env post (progress env transition) (inner, bus) := by
  unfold Back
  rw [ensures_iff] at ensures ⊢
  rcases ran : transition inner bus with ⟨next | failed | _, last⟩
  · have progressed : progress env transition (inner, bus) = (.ok (), (next, last)) := by
      simp only [progress, ran]
    constructor
    · rintro _ after same
      cases progressed.symm.trans same
      exact ensures.1 next last ran
    · rintro error after same
      cases progressed.symm.trans same
  · have progressed : progress env transition (inner, bus) = (.err failed.2, (failed.1, last)) := by
      simp only [progress, ran]
    constructor
    · rintro _ after same
      cases progressed.symm.trans same
    · rintro error after same
      cases progressed.symm.trans same
      exact ensures.2 failed last ran
  · have progressed : progress env transition (inner, bus) =
        (.panic, (.temporaryInvalidState, last)) := by
      simp only [progress, ran]
    constructor
    · rintro _ after same
      cases progressed.symm.trans same
    · rintro error after same
      cases progressed.symm.trans same

theorem ensures_call {ε δ σ α : Type} {object : σ} {method : Op ε (σ × Bus) α} {restore : σ → ε → δ}
    {returns : σ → Bus → Prop} {fails : δ → Bus → Prop}
    (ensures : Ensures (fun _ after => returns after.1 after.2)
      (fun error after => fails (restore after.1 error) after.2) method (object, bus)) :
    Ensures returns fails (call object method restore) bus := by
  unfold Ensures at *
  unfold call
  rcases ran : method (object, bus) with ⟨_ | _ | _, after⟩
  · rw [ran] at ensures
    exact ensures
  · rw [ran] at ensures
    exact ensures
  · trivial

theorem proposal_accepted_moves {channel : ProposedChannel env.Signer}
    {msg : LedgerChannelProposalAcc} :
    Back env (Moves (.proposed channel) bus) (processParticipantMsg env (.proposalAccepted msg))
      (.proposed channel, bus) := by
  apply ensures_progress
  change Ensures _ _ (proposalAccepted env channel msg) bus
  rcases answer : ProposedChannel.participantAccepted env 1 msg channel with
    ⟨_ | error | _, answered⟩
  · have stored := answer_run channel msg
    rw [answer] at stored
    split at stored
    · cases stored
    · split at stored
      · cases stored
      · cases stored
        have built := (@proposed_build_ok env { channel with responses := #v[some msg] } _).mpr
          ⟨msg, rfl, rfl⟩
        rw [Ensures, proposal_accepted_signs answer built]
        rcases signing : AgreedUponChannel.sign env _ with ⟨_ | _ | _, agreed, after⟩
        · obtain ⟨_, sig, sender, _, peer, same⟩ := sign_ok.mp signing
          cases same
          exact .agreed channel msg sig sender bus peer
        · trivial
        · trivial
  · have same := answer_atomic _ _ _ _ _ answer
    subst same
    simp only [proposalAccepted, ensures_bind]
    apply ensures_call
    rw [Ensures, offBus, answer]
    exact moves_kept
  · simp only [proposalAccepted, ensures_bind]
    apply ensures_call
    rw [Ensures, offBus, answer]
    trivial

theorem initial_signed_moves {channel : AgreedUponChannel env.Signer}
    {msg : LedgerChannelUpdateAccepted} (ready : Ready (.agreedUpon channel)) :
    Back env (Moves (.agreedUpon channel) bus)
      (processParticipantMsg env (.channelUpdateAccepted msg))
      (.agreedUpon channel, bus) := by
  apply ensures_progress
  change Ensures _ _ (initialSigned env channel msg) bus
  simp only [initialSigned, ensures_bind]
  apply ensures_call
  rcases added : AgreedUponChannel.addSignature env msg channel with ⟨_ | error | _, holding⟩
  · obtain ⟨own, held⟩ := ready
    obtain ⟨_, _, signer, partIdx, _, _, free, same⟩ := add_signature_ok.mp added
    obtain ⟨signatures, collected⟩ := @slots_filled _ _ _ _ msg.sig held free
    have full : collectSignatures holding.signatures = .ok signatures := by
      rw [same]
      exact collected
    have bound : channel.partIdx < 2 := (Vector.getElem?_eq_some_iff.mp held).1
    have built := (@agreed_build_ok env holding bus _ _).mpr
      ⟨fun _ => by rw [same]; exact bound, signatures, full, rfl, rfl⟩
    have completes : Completes env channel signatures := ⟨msg, holding, added, full⟩
    rw [Ensures, offBus, added]
    simp only [Ensures, Op.mapErr_run, built, Outcome.mapErr_ok]
    subst same
    exact .signed channel signatures bus completes
  · have same := add_signature_atomic _ _ _ _ added
    subst same
    rw [Ensures, offBus, added]
    exact moves_kept
  · rw [Ensures, offBus, added]
    trivial

/-- In the first two phases only one message each does anything. -/
theorem call_moves (call : Call) (ready : Ready inner) :
    Back env (Moves inner bus) (call.run env) (inner, bus) := by
  have changed (proposed : ∀ channel, inner ≠ .proposed channel)
      (agreed : ∀ channel, inner ≠ .agreedUpon channel) :
      Back env (Moves inner bus) (call.run env) (inner, bus) := by
    rw [Back, ensures_iff]
    constructor
    · rintro _ after ran
      rcases call_returns call bus ready with aborts | ⟨error, failed⟩ | ⟨_, done, changes⟩
      · rw [ran] at aborts
        cases aborts
      · rw [ran] at failed
        cases failed
      · rw [ran] at done
        cases done
        exact .later inner bus after (fun channel same => absurd same (proposed channel))
          (fun channel same => absurd same (agreed channel)) changes
    · rintro error after ran
      rcases call_returns call bus ready with aborts | ⟨_, failed⟩ | ⟨_, done, _⟩
      · rw [ran] at aborts
        cases aborts
      · rw [ran] at failed
        cases failed
        exact moves_kept
      · rw [ran] at done
        cases done
  cases inner with
  | proposed channel =>
      cases call with
      | participantMsg msg =>
          cases msg with
          | proposalAccepted msg => exact proposal_accepted_moves
          | _ => exact moves_kept
      | watcherReply msg => cases msg <;> exact moves_kept
      | funderReply msg =>
          cases msg
          exact moves_kept
      | _ => exact moves_kept
  | agreedUpon channel =>
      cases call with
      | participantMsg msg =>
          cases msg with
          | channelUpdateAccepted msg => exact initial_signed_moves ready
          | _ => exact moves_kept
      | watcherReply msg => cases msg <;> exact moves_kept
      | funderReply msg =>
          cases msg
          exact moves_kept
      | _ => exact moves_kept
  | _ => exact changed nofun nofun

end Inversion

/-! Whom a channel belongs to. -/

structure Owner (env : Env) where
  partIdx : PartIdx
  withdrawReceiver : Address
  client : PerunClient env.Signer
  peers : Peers

def owner {env : Env} : ChannelInner env.Signer → Option (Owner env)
  | .proposed channel => some
      ⟨channel.partIdx, channel.withdrawReceiver, channel.client, channel.proposal.peers⟩
  | .agreedUpon channel => some
      ⟨channel.partIdx, channel.withdrawReceiver, channel.client, channel.peers⟩
  | .signed channel _ _ => some ⟨channel.inner.partIdx, channel.inner.withdrawReceiver,
      channel.inner.client, channel.inner.peers⟩
  | .active channel _ => some
      ⟨channel.partIdx, channel.withdrawReceiver, channel.client, channel.peers⟩
  | .closing channel => some
      ⟨channel.partIdx, channel.withdrawReceiver, channel.client, channel.peers⟩
  | _ => none

section Owner
variable {env : Env} {inner : ChannelInner env.Signer} {bus : Bus}
  {after : ChannelInner env.Signer × Bus}

theorem apply_owner (channel : ActiveChannel env.Signer) (update : ChannelUpdate) :
    owner (afterApply channel update) = owner (.active channel none) := by
  unfold afterApply
  split <;> rfl

/-- A channel keeps its owner as long as it knows it. -/
theorem moves_owner (moves : Moves inner bus after) :
    owner after.1 = owner inner ∨ owner after.1 = none := by
  cases moves with
  | agreed => exact Or.inl rfl
  | signed => exact Or.inl rfl
  | later _ _ _ proposed agreed changes =>
      cases changes with
      | agreed channel =>
          have same := proposed channel rfl
          exact Or.inl (congrArg (fun state => owner state.1) same)
      | signed channel =>
          have same := agreed channel rfl
          exact Or.inl (congrArg (fun state => owner state.1) same)
      | accepted channel update => exact Or.inl (apply_owner _ update)
      | finished channel pending update => exact Or.inl (apply_owner _ update)
      | forced => exact Or.inr rfl
      | closed => exact Or.inr rfl
      | _ => exact Or.inl rfl

end Owner

/-! What the watcher was last told. -/

/-- The request that puts the current state under watch. -/
def watching {env : Env} : ChannelInner env.Signer → Option StartWatchingLedgerChannelReq
  | .signed channel _ _ => some ⟨channel.inner.params, channel.inner.state, channel.inner.signatures⟩
  | .active channel _ => some ⟨channel.params, channel.state, channel.signatures⟩
  | .closing channel => some ⟨channel.params, channel.state, channel.signatures⟩
  | _ => none

/-- The last request is for the state that the channel holds. -/
def Watched {env : Env} (inner : ChannelInner env.Signer) (bus : Bus) : Prop :=
  ∀ req, watching inner = some req → (requests bus).getLast? = some req

section Watching
variable {env : Env} {inner : ChannelInner env.Signer} {bus : Bus}
  {after : ChannelInner env.Signer × Bus}

theorem apply_watching (channel : ActiveChannel env.Signer) (update : ChannelUpdate) :
    watching (afterApply channel update) = watching (.active channel none) := by
  unfold afterApply
  split <;> rfl

theorem moves_watched (moves : Moves inner bus after) (watched : Watched inner bus) :
    Watched after.1 after.2 := by
  have told {channel : ActiveChannel env.Signer} {update : ChannelUpdate} {sent : Bus} :
      Watched (afterApply channel update)
        (sent ++ [.toWatcher (.watchRequest ⟨channel.params, channel.state, channel.signatures⟩)]) := by
    intro req current
    rw [apply_watching] at current
    cases current
    simp [requests_append]
  cases moves with
  | agreed => exact nofun
  | signed channel signatures bus =>
      rintro req current
      cases current
      simp [requests_append]
  | later _ _ _ proposed agreed changes =>
      cases changes with
      | kept => exact watched
      | agreed => exact nofun
      | signed channel =>
          cases agreed channel rfl
      | confirmed => exact watched
      | activated => exact watched
      | proposed =>
          rintro req current
          rw [requests_append, requests_broadcast, List.append_nil]
          exact watched req current
      | accepted => exact told
      | finished => exact told
      | dropped => exact watched
      | forced => exact nofun
      | closed => exact nofun

end Watching

/-! What a channel sends. -/

/-- After its proposal a channel sends updates, their acceptances and requests. -/
def Speaks : Sent → Prop
  | .toParticipant _ _ (.channelUpdate _) => True
  | .toParticipant _ _ (.channelUpdateAccepted _) => True
  | .toParticipant _ _ _ => False
  | .toWatcher (.watchRequest _) => True
  | .toWatcher (.startDispute _) => False
  | .toFunder (.fundReq _) => True
  | .toFunder _ => False

/-- The bus only grows, and a forced close registers the state of the channel. -/
inductive Adds {env : Env} (inner : ChannelInner env.Signer) (bus : Bus) :
    ChannelInner env.Signer × Bus → Prop
  | speaks (next : ChannelInner env.Signer) (new : Bus) (each : ∀ sent ∈ new, Speaks sent) :
      Adds inner bus (next, bus ++ new)
  | registers (channel : ActiveChannel env.Signer) (pending : Option ChannelUpdate)
      (active : inner = .active channel pending) :
      Adds inner bus (.forceClosing, bus ++ [.toFunder (.registerReq ⟨channel.adjudicatorReq⟩)])

section Speaking
variable {env : Env} {inner : ChannelInner env.Signer} {bus : Bus}
  {after : ChannelInner env.Signer × Bus}

theorem adds_nothing (same : after.2 = bus) : Adds inner bus after := by
  rcases after with ⟨next, sent⟩
  subst same
  simpa using @Adds.speaks env inner sent next [] nofun

theorem broadcast_speaks {partIdx : PartIdx} {sender : Identity} {peers : Peers}
    {msg : ParticipantMessage} (each : ∀ recipient, Speaks (.toParticipant sender recipient msg)) :
    ∀ sent ∈ broadcast partIdx sender peers msg, Speaks sent := by
  rintro sent member
  obtain ⟨peer, _, rfl⟩ := List.mem_map.mp member
  exact each peer.1

theorem delivers_adds {channel : ActiveChannel env.Signer} {pending : Option ChannelUpdate}
    {msg : ParticipantMessage} (delivers : Delivers channel pending bus msg after) :
    Adds (.active channel pending) bus after := by
  cases delivers with
  | unchanged => exact adds_nothing rfl
  | accepted =>
      rw [List.append_assoc]
      apply Adds.speaks
      rintro sent member
      rcases List.mem_append.mp member with answer | watch
      · apply broadcast_speaks _ sent answer
        intro recipient
        trivial
      · cases List.mem_singleton.mp watch
        trivial
  | finished =>
      apply Adds.speaks
      rintro sent member
      cases List.mem_singleton.mp member
      trivial
  | incomplete => exact adds_nothing rfl
  | dropped => exact adds_nothing rfl

theorem moves_adds (never : ∀ channel pending, inner ≠ .active channel pending)
    (moves : Moves inner bus after) : Adds inner bus after := by
  cases moves with
  | agreed => exact .speaks _ _ (broadcast_speaks fun _ => True.intro)
  | signed => exact .speaks _ _ (by simp [Speaks])
  | later _ _ _ proposed agreed changes =>
      cases changes with
      | agreed channel => cases proposed channel rfl
      | signed channel => cases agreed channel rfl
      | proposed channel pending => exact absurd rfl (never channel pending)
      | accepted channel => exact absurd rfl (never channel none)
      | finished channel pending => exact absurd rfl (never channel (some pending))
      | dropped channel pending => exact absurd rfl (never channel (some pending))
      | forced channel pending => exact absurd rfl (never channel pending)
      | _ => exact adds_nothing rfl

theorem participant_adds {msg : ParticipantMessage} (ready : Ready inner) :
    Back env (Adds inner bus) (processParticipantMsg env msg) (inner, bus) := by
  have delivered {channel : ActiveChannel env.Signer} {pending : Option ChannelUpdate}
      (all : ∀ outcome after, processParticipantMsg env msg (.active channel pending, bus) =
        (outcome, after) → outcome ≠ .panic → Delivers channel pending bus msg after) :
      Back env (Adds (.active channel pending) bus) (processParticipantMsg env msg)
        (.active channel pending, bus) := by
    rw [Back, ensures_iff]
    constructor
    · rintro _ after ran
      exact delivers_adds (all _ after ran (by simp))
    · rintro error after ran
      exact delivers_adds (all _ after ran (by simp))
  have moved (never : ∀ channel pending, inner ≠ .active channel pending) :
      Back env (Adds inner bus) (processParticipantMsg env msg) (inner, bus) := by
    apply Op.ensures_mono (call_moves (.participantMsg msg) ready)
    · rintro _ after moves
      exact moves_adds never moves
    · rintro _ after moves
      exact moves_adds never moves
  cases inner with
  | active channel pending =>
      cases pending with
      | none =>
          cases msg with
          | channelUpdate msg =>
              exact delivered fun _ _ ran back => update_proposed_delivers ran back
          | _ => exact adds_nothing rfl
      | some update =>
          obtain ⟨sig, own⟩ := ready
          exact delivered fun _ _ ran back =>
            message_delivers (Vector.getElem?_eq_some_iff.mp own).1 ran back
  | _ => exact moved nofun

/-- A reply of the watcher or of the funder is not answered. -/
theorem watcher_silent (msg : WatcherReplyMessage) (inner : ChannelInner env.Signer) (bus : Bus) :
    (processWatcherReply env msg (inner, bus)).2.2 = bus := by
  cases inner with
  | signed channel watching funded => cases msg <;> cases funded <;> rfl
  | _ => cases msg <;> rfl

theorem funder_silent (msg : FunderReplyMessage) (inner : ChannelInner env.Signer) (bus : Bus) :
    (processFunderReply env msg (inner, bus)).2.2 = bus := by
  cases msg with
  | funded id =>
      cases inner with
      | signed channel watching funded => cases watching <;> rfl
      | _ => rfl

theorem silent_adds {method : Method env} (silent : (method (inner, bus)).2.2 = bus) :
    Back env (Adds inner bus) method (inner, bus) := by
  rw [Back, ensures_iff]
  constructor
  · rintro _ after ran
    rw [ran] at silent
    exact adds_nothing silent
  · rintro error after ran
    rw [ran] at silent
    exact adds_nothing silent

theorem call_adds (call : Call) (ready : Ready inner) :
    Back env (Adds inner bus) (call.run env) (inner, bus) := by
  cases call with
  | update amount isFinal =>
      cases inner with
      | active channel pending =>
          have proposed (outcome : Outcome (DemoChannel.Error env.SigError) Unit)
              (after : ChannelInner env.Signer × Bus)
              (ran : DemoChannel.update env amount isFinal (.active channel pending, bus) =
                (outcome, after)) (back : outcome ≠ .panic) :
              Adds (.active channel pending) bus after := by
            cases update_proposes ran back with
            | unchanged => exact adds_nothing rfl
            | proposed => exact .speaks _ _ (broadcast_speaks fun _ => True.intro)
          rw [Back, ensures_iff]
          constructor
          · rintro _ after ran
            exact proposed _ after ran (by simp)
          · rintro error after ran
            exact proposed _ after ran (by simp)
      | temporaryInvalidState => trivial
      | _ => exact adds_nothing rfl
  | forceClose =>
      cases inner with
      | active channel pending => exact .registers channel pending rfl
      | temporaryInvalidState => trivial
      | _ => exact adds_nothing rfl
  | watcherReply msg => exact silent_adds (watcher_silent msg inner bus)
  | funderReply msg => exact silent_adds (funder_silent msg inner bus)
  | participantMsg msg => exact participant_adds ready

end Speaking

end Perun.DemoPhases
