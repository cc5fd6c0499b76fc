import Perun.DemoChannel

/-! Runs of one demo channel, from its first phase on. Several arms take two or
three steps of the library in a row, and an error of a later step would come too
late: the earlier one has stored or sent something. It cannot happen, because the
own signature is in its slot whenever another one is added. -/
namespace Perun.DemoRun
open AbiTypes Payment Messages MessageBus Active Opening ChannelRun DemoChannel

inductive Call where
  | update (amount : U256) (isFinal : Bool)
  | forceClose
  | watcherReply (msg : WatcherReplyMessage)
  | funderReply (msg : FunderReplyMessage)
  | participantMsg (msg : ParticipantMessage)

section Calls
variable (env : Env)

def Call.run : Call → Method env
  | .update amount isFinal => DemoChannel.update env amount isFinal
  | .forceClose => DemoChannel.forceClose env
  | .watcherReply msg => processWatcherReply env msg
  | .funderReply msg => processFunderReply env msg
  | .participantMsg msg => processParticipantMsg env msg

/-- `Channel::new` takes the channel of a proposer, `new_agreed_upon` one that is
already signed. -/
inductive Starts : ChannelInner env.Signer → Prop
  | proposed (channel : ProposedChannel env.Signer) (proposer : channel.partIdx = 0) :
      Starts (.proposed channel)
  | agreedUpon (channel : AgreedUponChannel env.Signer) (sig : Signature)
      (signed : channel.signatures[channel.partIdx]? = some (some sig)) :
      Starts (.agreedUpon channel)

/-- A call that returns. -/
def CallStep (before after : ChannelInner env.Signer × Bus) : Prop :=
  ∃ call outcome, Call.run env call before = (outcome, after) ∧ outcome ≠ .panic

/-- Any number of calls, all of which return. -/
def CallRuns : ChannelInner env.Signer × Bus → ChannelInner env.Signer × Bus → Prop :=
  Relation.ReflTransGen (CallStep env)

/-- The arms that are declared unreachable: every one for `TemporaryInvalidState`, and
an error of `sign` right after `build`. -/
inductive TakesUnreachable : ChannelInner env.Signer × Bus → Call → Prop
  | temporary (bus : Bus) (call : Call) : TakesUnreachable (.temporaryInvalidState, bus) call
  | unsigned (channel answered : ProposedChannel env.Signer) (agreed : AgreedUponChannel env.Signer)
      (bus : Bus) (msg : LedgerChannelProposalAcc) (error : SignError)
      (after : AgreedUponChannel env.Signer × Bus)
      (accepted : ProposedChannel.participantAccepted env 1 msg channel = (.ok (), answered))
      (built : answered.build env = .ok agreed)
      (failed : AgreedUponChannel.sign env (agreed, bus) = (.err error, after)) :
      TakesUnreachable (.proposed channel, bus) (.participantMsg (.proposalAccepted msg))

end Calls

/-- The own signature is there wherever the other one is waited for. -/
def Ready {Signer : Type} : ChannelInner Signer → Prop
  | .agreedUpon channel => ∃ sig, channel.signatures[channel.partIdx]? = some (some sig)
  | .active channel (some update) => ∃ sig, update.signatures[channel.partIdx]? = some (some sig)
  | .temporaryInvalidState => False
  | _ => True

/-- What a call that returns `Ok` does to the phase, and what it sends. -/
inductive Changes {env : Env} : ChannelInner env.Signer → Bus → ChannelInner env.Signer × Bus → Prop
  | kept (inner : ChannelInner env.Signer) (bus : Bus) : Changes inner bus (inner, bus)
  | agreed (channel : ProposedChannel env.Signer) (agreed : AgreedUponChannel env.Signer)
      (sig : Signature) (sender : Identity) (msg : ParticipantMessage) (bus : Bus)
      (own : agreed.signatures[agreed.partIdx]? = some (some sig)) :
      Changes (.proposed channel) bus
        (.agreedUpon agreed, bus ++ broadcast agreed.partIdx sender agreed.peers msg)
  | signed (channel : AgreedUponChannel env.Signer) (signed : SignedChannel env.Signer)
      (signatures : Vector Signature 2) (funding : LedgerChannelFundingRequest) (bus : Bus)
      (initial : signed.inner.state = channel.initState) :
      Changes (.agreedUpon channel) bus (.signed signed false false,
        bus ++ [.toWatcher (.watchRequest ⟨channel.params, channel.initState, signatures⟩),
          .toFunder (.fundReq funding)])
  | confirmed (channel : SignedChannel env.Signer) (watching funded watching' funded' : Bool)
      (bus : Bus) : Changes (.signed channel watching funded) bus
        (.signed channel watching' funded', bus)
  | activated (channel : SignedChannel env.Signer) (watching funded : Bool) (bus : Bus) :
      Changes (.signed channel watching funded) bus (.active channel.markFunded none, bus)
  | proposed (channel : ActiveChannel env.Signer) (pending : Option ChannelUpdate)
      (update : ChannelUpdate) (sig : Signature) (sender : Identity) (msg : ParticipantMessage)
      (bus : Bus) (own : update.signatures[channel.partIdx]? = some (some sig)) :
      Changes (.active channel pending) bus (.active channel (some update),
        bus ++ broadcast channel.partIdx sender channel.peers msg)
  | accepted (channel : ActiveChannel env.Signer) (update : ChannelUpdate)
      (signatures : Vector Signature 2) (sender : Identity) (msg : ParticipantMessage) (bus : Bus) :
      Changes (.active channel none) bus
        (afterApply { channel with state := update.newState, signatures := signatures } update,
        bus ++ broadcast channel.partIdx sender channel.peers msg ++
          [.toWatcher (.watchRequest ⟨channel.params, update.newState, signatures⟩)])
  | finished (channel : ActiveChannel env.Signer) (pending update : ChannelUpdate)
      (signatures : Vector Signature 2) (bus : Bus) :
      Changes (.active channel (some pending)) bus
        (afterApply { channel with state := update.newState, signatures := signatures } update,
        bus ++ [.toWatcher (.watchRequest ⟨channel.params, update.newState, signatures⟩)])
  | dropped (channel : ActiveChannel env.Signer) (pending : ChannelUpdate) (bus : Bus) :
      Changes (.active channel (some pending)) bus (.active channel none, bus)
  | forced (channel : ActiveChannel env.Signer) (pending : Option ChannelUpdate) (bus : Bus) :
      Changes (.active channel pending) bus (.forceClosing,
        bus ++ [.toFunder (.registerReq ⟨channel.adjudicatorReq⟩)])
  | closed (inner : ChannelInner env.Signer) (bus : Bus) : Changes inner bus (.closed, bus)

section Arms
variable {env : Env}

/-- A transition aborts, refuses with everything as it was, or makes its change. -/
def Settles (inner : ChannelInner env.Signer) (bus : Bus)
    (result : Outcome (ChannelInner env.Signer × DemoChannel.Error env.SigError)
      (ChannelInner env.Signer) × Bus) : Prop :=
  (∃ after, result = (.panic, after)) ∨ (∃ error, result = (.err (inner, error), bus)) ∨
    ∃ next after, result = (.ok next, after) ∧ Changes inner bus (next, after)

theorem settles_refused {inner : ChannelInner env.Signer} {bus : Bus}
    (error : DemoChannel.Error env.SigError) : Settles inner bus (.err (inner, error), bus) :=
  Or.inr (Or.inl ⟨error, rfl⟩)

theorem settles_changed {inner next : ChannelInner env.Signer} {bus after : Bus}
    (changes : Changes inner bus (next, after)) : Settles inner bus (.ok next, after) :=
  Or.inr (Or.inr ⟨next, after, rfl, changes⟩)

/-- After the answer nothing is missing, and nothing is signed yet. -/
theorem answered_build {channel answered : ProposedChannel env.Signer}
    {msg : LedgerChannelProposalAcc}
    (accepted : ProposedChannel.participantAccepted env 1 msg channel = (.ok (), answered)) :
    ∃ agreed, answered.build env = .ok agreed ∧ agreed.signatures = Vector.replicate 2 none := by
  rw [answer_run] at accepted
  split at accepted
  · cases accepted
  · split at accepted
    · cases accepted
    · cases accepted
      exact ⟨_, proposed_build_ok.mpr ⟨msg, rfl, rfl⟩, rfl⟩

theorem fresh_sign {agreed : AgreedUponChannel env.Signer} {bus : Bus} {error : SignError}
    {after : AgreedUponChannel env.Signer × Bus}
    (fresh : agreed.signatures = Vector.replicate 2 none) :
    AgreedUponChannel.sign env (agreed, bus) ≠ (.err error, after) := by
  intro failed
  obtain ⟨sig, held⟩ := sign_err failed
  rw [fresh, Vector.getElem?_replicate] at held
  split at held <;> cases held

theorem proposal_accepted_settles (channel : ProposedChannel env.Signer)
    (msg : LedgerChannelProposalAcc) (bus : Bus) :
    Settles (.proposed channel) bus (proposalAccepted env channel msg bus) := by
  rcases answer : ProposedChannel.participantAccepted env 1 msg channel with ⟨result, answered⟩
  have silent : offBus (ProposedChannel.participantAccepted env 1 msg) (channel, bus) =
      (result, (answered, bus)) := by
    simp only [offBus, answer]
  cases result with
  | err error =>
      have same := answer_atomic _ _ _ _ _ answer
      subst same
      simp only [proposalAccepted, Op.bind_run, call, silent]
      exact settles_refused _
  | panic => exact Or.inl ⟨bus, by simp only [proposalAccepted, Op.bind_run, call, silent]⟩
  | ok value =>
      obtain ⟨agreed, built, fresh⟩ := answered_build answer
      rw [proposal_accepted_signs answer built]
      rcases signing : AgreedUponChannel.sign env (agreed, bus) with ⟨result, signed, bus'⟩
      cases result with
      | err error => exact absurd signing (fresh_sign fresh)
      | panic => exact Or.inl ⟨bus', rfl⟩
      | ok value =>
          obtain ⟨free, sig, sender, _, _, same⟩ := sign_ok.mp signing
          have bound : agreed.partIdx < 2 := (Vector.getElem?_eq_some_iff.mp free).1
          have own : (agreed.signatures.setIfInBounds agreed.partIdx (some sig))[agreed.partIdx]? =
              some (some sig) := by simp [bound]
          cases same
          exact settles_changed (.agreed channel { agreed with
            signatures := agreed.signatures.setIfInBounds agreed.partIdx (some sig) } sig sender _
            bus own)

theorem initial_signed_settles (channel : AgreedUponChannel env.Signer)
    (msg : LedgerChannelUpdateAccepted) (bus : Bus) (ready : Ready (.agreedUpon channel)) :
    Settles (.agreedUpon channel) bus (initialSigned env channel msg bus) := by
  obtain ⟨own, held⟩ := ready
  simp only [initialSigned, Op.bind_run]
  rcases added : AgreedUponChannel.addSignature env msg channel with ⟨result, holding⟩
  have silent : offBus (AgreedUponChannel.addSignature env msg) (channel, bus) =
      (result, (holding, bus)) := by
    simp only [offBus, added]
  cases result with
  | err error =>
      have same := add_signature_atomic _ _ _ _ added
      subst same
      simp only [call, silent]
      exact settles_refused _
  | panic => exact Or.inl ⟨bus, by simp only [call, silent]⟩
  | ok value =>
      obtain ⟨_, _, signer, partIdx, _, _, free, same⟩ := add_signature_ok.mp added
      obtain ⟨signatures, collected⟩ := @slots_filled _ _ _ _ msg.sig held free
      have all : collectSignatures holding.signatures = .ok signatures := by
        rw [same]
        exact collected
      have bound : channel.partIdx < 2 := (Vector.getElem?_eq_some_iff.mp held).1
      have built := (@agreed_build_ok env holding bus _ _).mpr
        ⟨fun _ => by rw [same]; exact bound, signatures, all, rfl, rfl⟩
      simp only [call_ok silent, Op.mapErr_run, built, Outcome.mapErr_ok, Op.pure_run]
      subst same
      exact settles_changed (.signed channel _ signatures _ bus rfl)

theorem update_proposed_settles (channel : ActiveChannel env.Signer) (msg : LedgerChannelUpdate)
    (bus : Bus) : Settles (.active channel none) bus (updateProposed env channel msg bus) := by
  rcases update_proposed_cases channel msg bus with ⟨after, aborts⟩ | ⟨error, refused⟩ |
    ⟨update, sig, sender, signatures, _, content, _, accepted⟩
  · exact Or.inl ⟨after, aborts⟩
  · rw [refused]
    exact settles_refused error
  · rw [accepted, ← content]
    exact settles_changed (.accepted channel update signatures sender _ bus)

theorem update_accepted_settles (channel : ActiveChannel env.Signer) (update : ChannelUpdate)
    (msg : LedgerChannelUpdateAccepted) (bus : Bus)
    (ready : Ready (.active channel (some update))) :
    Settles (.active channel (some update)) bus (updateAccepted env channel update msg bus) := by
  obtain ⟨own, held⟩ := ready
  have bound : channel.partIdx < 2 := (Vector.getElem?_eq_some_iff.mp held).1
  rcases update_accepted_cases update msg bus bound with ⟨after, aborts⟩ | ⟨error, refused⟩ |
    ⟨signed, error, free, both, incomplete, _⟩ |
    ⟨signed, signer, signatures, _, _, _, _, content, finished⟩
  · exact Or.inl ⟨after, aborts⟩
  · rw [refused]
    exact settles_refused error
  · -- The own signature was there, so this one was the last.
    obtain ⟨signatures, collected⟩ := @slots_filled _ _ _ _ msg.sig held free
    subst both
    exact absurd collected (incomplete signatures)
  · rw [finished, ← content]
    exact settles_changed (.finished channel update signed signatures bus)

end Arms

section Methods
variable {env : Env}

/-- A call aborts, it returns an error and nothing has changed, or it returns `Ok` with
one of the changes. -/
def Returns (inner : ChannelInner env.Signer) (bus : Bus)
    (result : Outcome (DemoChannel.Error env.SigError) Unit × (ChannelInner env.Signer × Bus)) :
    Prop :=
  result.1 = .panic ∨ (∃ error, result = (.err error, (inner, bus))) ∨
    ∃ after, result = (.ok (), after) ∧ Changes inner bus after

theorem progress_returns {inner : ChannelInner env.Signer} {bus : Bus}
    {transition : ChannelInner env.Signer → Transition env}
    (settles : Settles inner bus (transition inner bus)) :
    Returns inner bus (progress env transition (inner, bus)) := by
  rcases settles with ⟨after, aborts⟩ | ⟨error, refused⟩ | ⟨next, after, returned, changes⟩
  · exact Or.inl (by simp only [progress, aborts])
  · exact Or.inr (Or.inl ⟨error, by simp only [progress, refused]⟩)
  · exact Or.inr (Or.inr ⟨(next, after), by simp only [progress, returned], changes⟩)

theorem update_call_returns (amount : U256) (isFinal : Bool) (inner : ChannelInner env.Signer)
    (bus : Bus) : Returns inner bus (DemoChannel.update env amount isFinal (inner, bus)) := by
  cases inner with
  | active channel pending =>
      simp only [DemoChannel.update]
      rcases proposed : proposePayment env channel amount isFinal bus with ⟨result, after⟩
      cases result with
      | ok update =>
          obtain ⟨newState, updated, _⟩ := propose_payment_ok proposed
          obtain ⟨_, bound, sig, sender, _, _, fresh, sent⟩ := update_ok.mp updated
          have own : update.signatures[channel.partIdx]? = some (some sig) := by
            rw [fresh]
            exact single_own bound
          subst sent
          exact Or.inr (Or.inr ⟨_, rfl, .proposed channel pending update sig sender _ bus own⟩)
      | err error =>
          have same := propose_payment_atomic _ _ _ _ _ _ proposed
          subst same
          exact Or.inr (Or.inl ⟨error, rfl⟩)
      | panic => exact Or.inl rfl
  | temporaryInvalidState => exact Or.inl rfl
  | _ => exact Or.inr (Or.inl ⟨_, rfl⟩)

theorem force_close_returns (inner : ChannelInner env.Signer) (bus : Bus) :
    Returns inner bus (DemoChannel.forceClose env (inner, bus)) := by
  apply progress_returns
  cases inner with
  | active channel pending => exact settles_changed (.forced channel pending bus)
  | temporaryInvalidState => exact Or.inl ⟨bus, rfl⟩
  | _ => exact settles_refused _

theorem watcher_reply_returns (msg : WatcherReplyMessage) (inner : ChannelInner env.Signer)
    (bus : Bus) : Returns inner bus (processWatcherReply env msg (inner, bus)) := by
  apply progress_returns
  cases inner with
  | signed channel watching funded =>
      cases msg with
      | ack id version =>
          cases funded with
          | true => exact settles_changed (.activated channel watching true bus)
          | false => exact settles_changed (.confirmed channel watching false true false bus)
      | _ => exact settles_refused _
  | active channel pending =>
      cases msg with
      | ack id version => exact settles_changed (.kept _ bus)
      | disputeNotification id => exact settles_changed (.closed _ bus)
      | disputeAck id => exact settles_refused _
  | closing channel =>
      cases msg with
      | disputeAck id => exact settles_refused _
      | _ => exact settles_changed (.closed _ bus)
  | forceClosing =>
      cases msg with
      | ack id version => exact settles_refused _
      | disputeAck id => exact settles_changed (.closed _ bus)
      | disputeNotification id => exact settles_changed (.kept _ bus)
  | closed =>
      cases msg with
      | disputeNotification id => exact settles_changed (.kept _ bus)
      | _ => exact settles_refused _
  | temporaryInvalidState => exact Or.inl ⟨bus, by cases msg <;> rfl⟩
  | _ => cases msg <;> exact settles_refused _

theorem funder_reply_returns (msg : FunderReplyMessage) (inner : ChannelInner env.Signer)
    (bus : Bus) : Returns inner bus (processFunderReply env msg (inner, bus)) := by
  apply progress_returns
  cases msg with
  | funded id =>
      cases inner with
      | signed channel watching funded =>
          cases watching with
          | true => exact settles_changed (.activated channel true funded bus)
          | false => exact settles_changed (.confirmed channel false funded false true bus)
      | temporaryInvalidState => exact Or.inl ⟨bus, rfl⟩
      | _ => exact settles_refused _

theorem participant_msg_returns (msg : ParticipantMessage) (inner : ChannelInner env.Signer)
    (bus : Bus) (ready : Ready inner) :
    Returns inner bus (processParticipantMsg env msg (inner, bus)) := by
  apply progress_returns
  cases inner with
  | proposed channel =>
      cases msg with
      | proposalAccepted msg => exact proposal_accepted_settles channel msg bus
      | _ => exact settles_refused _
  | agreedUpon channel =>
      cases msg with
      | channelUpdateAccepted msg => exact initial_signed_settles channel msg bus ready
      | _ => exact settles_refused _
  | active channel pending =>
      cases pending with
      | none =>
          cases msg with
          | channelUpdate msg => exact update_proposed_settles channel msg bus
          | _ => exact settles_refused _
      | some update =>
          cases msg with
          | channelUpdateAccepted msg => exact update_accepted_settles channel update msg bus ready
          | channelUpdateRejected id version reason =>
              exact settles_changed (.dropped channel update bus)
          | _ => exact settles_refused _
  | temporaryInvalidState => exact ready.elim
  | _ => cases msg <;> exact settles_refused _

theorem call_returns (call : Call) {inner : ChannelInner env.Signer} (bus : Bus)
    (ready : Ready inner) : Returns inner bus (call.run env (inner, bus)) := by
  cases call with
  | update amount isFinal => exact update_call_returns amount isFinal inner bus
  | forceClose => exact force_close_returns inner bus
  | watcherReply msg => exact watcher_reply_returns msg inner bus
  | funderReply msg => exact funder_reply_returns msg inner bus
  | participantMsg msg => exact participant_msg_returns msg inner bus ready

theorem changes_ready {inner : ChannelInner env.Signer} {bus : Bus}
    {after : ChannelInner env.Signer × Bus} (changes : Changes inner bus after)
    (ready : Ready inner) : Ready after.1 := by
  have applied (channel : ActiveChannel env.Signer) (update : ChannelUpdate) :
      Ready (afterApply channel update) := by
    unfold afterApply
    split <;> trivial
  cases changes with
  | kept => exact ready
  | agreed channel agreed sig sender msg bus own => exact ⟨sig, own⟩
  | proposed channel pending update sig sender msg bus own => exact ⟨sig, own⟩
  | accepted channel update signatures sender msg bus => exact applied _ update
  | finished channel pending update signatures bus => exact applied _ update
  | _ => trivial

theorem starts_ready {inner : ChannelInner env.Signer} (starts : Starts env inner) :
    Ready inner := by
  cases starts with
  | proposed channel proposer => trivial
  | agreedUpon channel sig signed => exact ⟨sig, signed⟩

theorem runs_ready {before after : ChannelInner env.Signer × Bus}
    (runs : CallRuns env before after) (ready : Ready before.1) : Ready after.1 := by
  induction runs with
  | refl => exact ready
  | @tail middle last _ stepped ih =>
      obtain ⟨call, outcome, run, returns⟩ := stepped
      rcases call_returns call middle.2 ih with aborts | ⟨error, failed⟩ | ⟨next, done, changes⟩
      · rw [run] at aborts
        exact absurd aborts returns
      · rw [run] at failed
        cases failed
        exact ih
      · rw [run] at done
        cases done
        exact changes_ready changes ih

theorem no_unreachable {inner : ChannelInner env.Signer} {bus : Bus} {call : Call}
    (ready : Ready inner) : ¬TakesUnreachable env (inner, bus) call := by
  intro taken
  cases taken with
  | temporary => exact ready
  | unsigned channel answered agreed bus msg error after accepted built failed =>
      obtain ⟨_, same, fresh⟩ := answered_build accepted
      rw [built] at same
      cases same
      exact fresh_sign fresh failed

end Methods

/-- In every phase that a channel reaches, a call that returns an error has left
everything as it was and sent nothing, a call that returns does not leave
`TemporaryInvalidState` behind, and no unreachable arm is taken. -/
theorem demo_calls_atomic (env : Env) (inner : ChannelInner env.Signer) (bus : Bus)
    (starts : Starts env inner) (before : ChannelInner env.Signer × Bus)
    (runs : CallRuns env (inner, bus) before) (call : Call) :
    (∀ error after, call.run env before = (.err error, after) → after = before) ∧
      (∀ outcome after, call.run env before = (outcome, after) → outcome ≠ .panic →
        after.1 ≠ .temporaryInvalidState) ∧
      ¬TakesUnreachable env before call := by
  have ready : Ready before.1 := runs_ready runs (starts_ready starts)
  refine ⟨?_, ?_, no_unreachable ready⟩
  · intro error after run
    rcases call_returns call before.2 ready with aborts | ⟨_, failed⟩ | ⟨_, done, _⟩
    · rw [run] at aborts
      cases aborts
    · rw [run] at failed
      exact (Prod.mk.inj failed).2
    · rw [run] at done
      cases done
  · intro outcome after run returns invalid
    have next : Ready after.1 :=
      runs_ready (runs.tail ⟨call, outcome, run, returns⟩) (starts_ready starts)
    rw [invalid] at next
    exact next

/-! The answer to a proposal arrives, then a rejection that is too late. -/
section Plain

def plainProposer : ProposedChannel plainEnv.Signer :=
  ProposedChannel.create ⟨plainProposal.participant⟩ 0 plainProposal.participant plainProposal

/-- The agreed upon channel with the signature of the proposer. -/
def plainSigned : AgreedUponChannel plainEnv.Signer :=
  { plainAgreed with
    signatures :=
      #v[some (plainSign plainProposal.participant (stateHash plainEnv plainAgreed.initState)),
        none] }

theorem plain_answered : ∃ bus, processParticipantMsg plainEnv (.proposalAccepted plainAnswer)
    (.proposed plainProposer, []) = (.ok (), (.agreedUpon plainSigned, bus)) :=
  ⟨_, proposal_accepted_returns (participant_accepted_run rfl rfl) plain_built
    (sign_ok.mpr ⟨rfl, _, _, rfl, rfl, rfl⟩)⟩

def plainRejection : Call :=
  .participantMsg (.channelUpdateRejected plainSigned.initState.id 0 "")

theorem demo_calls_atomic_plain : ∃ bus error after,
    CallRuns plainEnv (.proposed plainProposer, []) (.agreedUpon plainSigned, bus) ∧
    plainRejection.run plainEnv (.agreedUpon plainSigned, bus) = (.err error, after) ∧
    after = (.agreedUpon plainSigned, bus) := by
  obtain ⟨bus, answered⟩ := plain_answered
  have runs : CallRuns plainEnv (.proposed plainProposer, []) (.agreedUpon plainSigned, bus) :=
    Relation.ReflTransGen.single
      ⟨.participantMsg (.proposalAccepted plainAnswer), .ok (), answered, by simp⟩
  have atomic := demo_calls_atomic plainEnv _ [] (.proposed plainProposer rfl) _ runs plainRejection
  exact ⟨bus, .rejected "", _, runs, rfl, atomic.1 (.rejected "") _ rfl⟩

end Plain

end Perun.DemoRun
