import Perun.DemoChain
import Perun.Trace

/-! What the two services are told. They share one connection, and what a channel says there
is one conversation: its first state to the watcher, its funding to the funder, the states
that follow, and in the end at most one registration, of the last of them. -/
namespace Perun.DemoServices
open AbiTypes Payment Messages MessageBus Active Opening DemoChannel DemoRun DemoClosing DemoPhases
open DemoChain
open DemoLifecycle (watched_calls)

def isService : Sent → Bool
  | .toParticipant _ _ _ => false
  | .toWatcher _ => true
  | .toFunder _ => true

/-- Everything for the connection of the services, in order. -/
def services (bus : Bus) : Bus := bus.filter isService

/-- What is said about one channel: the state that was agreed upon, with both signatures, and
the requests that follow. -/
structure Conversation (env : Env) where
  agreed : AgreedUponChannel env.Signer
  signatures : Vector Signature 2
  rest : List StartWatchingLedgerChannelReq
  forced : Bool
  completes : Completes env agreed signatures
  chain : (⟨agreed.params, agreed.initState, signatures⟩ :: rest).IsChain (Follows env)

def watch (req : StartWatchingLedgerChannelReq) : Sent := .toWatcher (.watchRequest req)

/-- The registration of the state that the watcher was told. -/
def register (req : StartWatchingLedgerChannelReq) (partIdx : PartIdx) (receiver : Address) : Sent :=
  .toFunder (.registerReq ⟨⟨req.params, receiver, ⟨req.state, req.sigs⟩, partIdx, false⟩⟩)

namespace Conversation
variable {env : Env} (conversation : Conversation env)

def first : StartWatchingLedgerChannelReq :=
  ⟨conversation.agreed.params, conversation.agreed.initState, conversation.signatures⟩

def funding : LedgerChannelFundingRequest :=
  ⟨conversation.agreed.partIdx, conversation.agreed.fundingAgreement, conversation.agreed.params,
    conversation.agreed.initState⟩

/-- Every state that is told, in order. -/
def told : List StartWatchingLedgerChannelReq := conversation.first :: conversation.rest

def last : StartWatchingLedgerChannelReq := conversation.told.getLast (List.cons_ne_nil _ _)

/-- The registration, if there is one. -/
def registration : Bus :=
  if conversation.forced then
    [register conversation.last conversation.agreed.partIdx conversation.agreed.withdrawReceiver]
  else []

def sent : Bus :=
  watch conversation.first :: .toFunder (.fundReq conversation.funding) ::
    (conversation.rest.map watch ++ conversation.registration)

/-- The state that is watched first. -/
def opening (agreed : AgreedUponChannel env.Signer) (signatures : Vector Signature 2)
    (completes : Completes env agreed signatures) : Conversation env where
  agreed := agreed
  signatures := signatures
  rest := []
  forced := false
  completes := completes
  chain := List.isChain_singleton _

def next (req : StartWatchingLedgerChannelReq) (follows : Follows env conversation.last req) :
    Conversation env where
  agreed := conversation.agreed
  signatures := conversation.signatures
  rest := conversation.rest ++ [req]
  forced := false
  completes := conversation.completes
  chain := by
    rw [← List.cons_append]
    apply conversation.chain.append (List.isChain_singleton req)
    intro last isLast other isOther
    cases isOther
    cases (List.getLast?_eq_some_getLast (List.cons_ne_nil _ _)).symm.trans isLast
    exact follows

def force : Conversation env := { conversation with forced := true }

@[simp] theorem next_last (req : StartWatchingLedgerChannelReq)
    (follows : Follows env conversation.last req) : (conversation.next req follows).last = req := by
  simp [last, told, next]

theorem last_told : conversation.last ∈ conversation.told := List.getLast_mem _

variable {conversation}

theorem next_sent {req : StartWatchingLedgerChannelReq}
    (follows : Follows env conversation.last req) (unforced : conversation.forced = false) :
    (conversation.next req follows).sent = conversation.sent ++ [watch req] := by
  simp [sent, registration, first, funding, next, unforced]

theorem force_sent (unforced : conversation.forced = false) :
    conversation.force.sent = conversation.sent ++ [register conversation.last
      conversation.agreed.partIdx conversation.agreed.withdrawReceiver] := by
  simp [sent, registration, first, funding, force, unforced, last, told]

end Conversation

section Said
variable {env : Env}

/-- Nothing, or a conversation so far. -/
def spoken (said : Option (Conversation env)) : Bus := said.elim [] Conversation.sent

def told (said : Option (Conversation env)) : List StartWatchingLedgerChannelReq :=
  said.elim [] Conversation.told

/-- The conversation of a channel that still holds the last state of it. -/
structure Holds (conversation : Conversation env) (inner : ChannelInner env.Signer) : Prop where
  unforced : conversation.forced = false
  held : watching inner = some conversation.last
  own : owner inner = owner (.agreedUpon conversation.agreed)

theorem Holds.kept {conversation : Conversation env} {inner next : ChannelInner env.Signer}
    (holds : Holds conversation inner) (held : watching next = watching inner)
    (own : owner next = owner inner) : Holds conversation next :=
  ⟨holds.unforced, held.trans holds.held, own.trans holds.own⟩

/-- How far the conversation is in each phase. -/
def Fits (said : Option (Conversation env)) : ChannelInner env.Signer → Prop
  | .proposed _ => said = none
  | .agreedUpon _ => said = none
  | .signed channel watching funded => ∃ conversation, said = some conversation ∧
      Holds conversation (.signed channel watching funded) ∧ conversation.rest = []
  | .active channel pending => ∃ conversation, said = some conversation ∧
      Holds conversation (.active channel pending)
  | .closing channel => ∃ conversation, said = some conversation ∧
      Holds conversation (.closing channel)
  | .forceClosing => ∃ conversation, said = some conversation ∧ conversation.forced = true
  | .closed => said.isSome = true
  | .temporaryInvalidState => False

/-- The conversation is about the run that went through these states: it begins with the
state that was agreed upon there, tells exactly the states that were held with all
signatures, and ends with a registration exactly if a close was forced. -/
structure About (states : List (ChannelInner env.Signer × Bus)) (said : Option (Conversation env)) :
    Prop where
  agreed : ∀ conversation, said = some conversation →
    ∃ sent, (.agreedUpon conversation.agreed, sent) ∈ states
  held : ∀ req, req ∈ told said ↔ ∃ state ∈ states, watching state.1 = some req
  forced : (∃ conversation, said = some conversation ∧ conversation.forced = true) ↔
    ∃ sent, (.forceClosing, sent) ∈ states

/-- What has been said about a channel so far, after what was said `before`. -/
structure Told (before : Bus) (states : List (ChannelInner env.Signer × Bus))
    (said : Option (Conversation env)) (inner : ChannelInner env.Signer) (bus : Bus) : Prop where
  sent : services bus = before ++ spoken said
  fits : Fits said inner
  about : About states said

end Said

section Steps
variable {env : Env} {inner : ChannelInner env.Signer} {bus before : Bus}
  {after : ChannelInner env.Signer × Bus} {states : List (ChannelInner env.Signer × Bus)}
  {said said' : Option (Conversation env)}

theorem services_append (first second : Bus) :
    services (first ++ second) = services first ++ services second := List.filter_append ..

@[simp] theorem services_broadcast (partIdx : PartIdx) (sender : Identity) (peers : Peers)
    (msg : ParticipantMessage) : services (broadcast partIdx sender peers msg) = [] := by
  unfold services broadcast
  rw [List.filter_eq_nil_iff]
  intro sent member
  obtain ⟨peer, _, rfl⟩ := List.mem_map.mp member
  exact Bool.false_ne_true

@[simp] theorem services_watcher (msg : WatcherRequestMessage) (rest : Bus) :
    services (.toWatcher msg :: rest) = .toWatcher msg :: services rest := rfl

@[simp] theorem services_nil : services [] = [] := rfl

@[simp] theorem services_participant (bus : Bus) (sender recipient : Identity)
    (msg : ParticipantMessage) : services (bus ++ [.toParticipant sender recipient msg]) =
      services bus := (services_append _ _).trans (List.append_nil _)

theorem requests_services (bus : Bus) : requests (services bus) = requests bus := by
  induction bus with
  | nil => rfl
  | cons sent rest ih =>
      cases sent with
      | toParticipant sender recipient msg => exact ih
      | toWatcher msg =>
          cases msg with
          | watchRequest req => exact congrArg (List.cons req) ih
          | startDispute info => exact ih
      | toFunder msg => exact ih

/-- A request that is added is a transition of the state that was held. -/
theorem tells_follows {earlier req : StartWatchingLedgerChannelReq} (tells : Tells inner bus after)
    (held : watching inner = some earlier) (asked : requests after.2 = requests bus ++ [req]) :
    Follows env earlier req := by
  cases tells with
  | silent _ unasked =>
      rw [unasked] at asked
      simp at asked
  | first _ _ unwatched => exact absurd unwatched (watching_watched held)
  | next other req' _ held' follows asked' =>
      cases held.symm.trans held'
      cases List.append_cancel_left (asked.symm.trans asked')
      exact follows

/-- A state that the channel holds has been told. -/
theorem fits_watching {req : StartWatchingLedgerChannelReq} (fits : Fits said inner)
    (held : watching inner = some req) : req ∈ told said := by
  have last {conversation : Conversation env} (holds : Holds conversation inner) :
      req ∈ conversation.told := by
    cases holds.held.symm.trans held
    exact conversation.last_told
  cases inner with
  | signed channel watching funded =>
      obtain ⟨conversation, rfl, holds, _⟩ := fits
      exact last holds
  | active channel pending =>
      obtain ⟨conversation, rfl, holds⟩ := fits
      exact last holds
  | closing channel =>
      obtain ⟨conversation, rfl, holds⟩ := fits
      exact last holds
  | _ => cases held

/-- One more state of the run. -/
theorem about_goes (about : About states said) (fits : Fits said' after.1)
    (agreed : ∀ conversation, said' = some conversation →
      ∃ sent, (.agreedUpon conversation.agreed, sent) ∈ states)
    (grows : ∀ req ∈ told said, req ∈ told said')
    (adds : ∀ req ∈ told said', req ∈ told said ∨ watching after.1 = some req)
    (forced : (∃ conversation, said' = some conversation ∧ conversation.forced = true) ↔
      (∃ conversation, said = some conversation ∧ conversation.forced = true) ∨
        after.1 = .forceClosing) : About (states ++ [after]) said' := by
  constructor
  · intro conversation same
    obtain ⟨sent, earlier⟩ := agreed conversation same
    exact ⟨sent, List.mem_append_left _ earlier⟩
  · intro req
    constructor
    · intro member
      rcases adds req member with earlier | held
      · obtain ⟨state, passed, held⟩ := (about.held req).mp earlier
        exact ⟨state, List.mem_append_left _ passed, held⟩
      · exact ⟨after, List.mem_append_right _ (List.mem_singleton_self after), held⟩
    · rintro ⟨state, passed, held⟩
      -- What earlier states held is told already, and the last one fits.
      rcases List.mem_append.mp passed with passed | last
      · exact grows req ((about.held req).mpr ⟨state, passed, held⟩)
      · cases List.mem_singleton.mp last
        exact fits_watching fits held
  · rw [forced, about.forced]
    constructor
    · rintro (⟨sent, passed⟩ | last)
      · exact ⟨sent, List.mem_append_left _ passed⟩
      · exact ⟨after.2, List.mem_append_right _ (List.mem_singleton.mpr (by rw [← last]))⟩
    · rintro ⟨sent, passed⟩
      rcases List.mem_append.mp passed with passed | last
      · exact Or.inl ⟨sent, passed⟩
      · exact Or.inr (congrArg Prod.fst (List.mem_singleton.mp last)).symm

/-- Nothing is added for the services. -/
theorem told_silent (told : Told before states said inner bus)
    (silent : services after.2 = services bus) (fits : Fits said after.1) :
    Told before (states ++ [after]) said after.1 after.2 := by
  refine ⟨silent.trans told.sent, fits, ?_⟩
  apply about_goes told.about fits told.about.agreed (fun _ member => member)
    (fun _ member => Or.inl member)
  constructor
  · exact Or.inl
  · rintro (earlier | last)
    · exact earlier
    · rw [last] at fits
      exact fits

theorem fits_apply {channel : ActiveChannel env.Signer} {update : ChannelUpdate}
    {conversation : Conversation env} (holds : Holds conversation (.active channel none)) :
    Fits (some conversation) (afterApply channel update) := by
  unfold afterApply
  split
  · exact ⟨conversation, rfl, holds.kept rfl rfl⟩
  · exact ⟨conversation, rfl, holds⟩

/-- One more state is told, which the channel holds then. -/
theorem told_next {conversation : Conversation env} {req : StartWatchingLedgerChannelReq}
    (earlier : Told before states (some conversation) inner bus)
    (follows : Follows env conversation.last req) (unforced : conversation.forced = false)
    (asked : services after.2 = services bus ++ [watch req])
    (fits : Fits (some (conversation.next req follows)) after.1)
    (held : watching after.1 = some req) :
    Told before (states ++ [after]) (some (conversation.next req follows)) after.1 after.2 := by
  refine ⟨?_, fits, ?_⟩
  · rw [asked, earlier.sent, List.append_assoc]
    exact congrArg _ (Conversation.next_sent follows unforced).symm
  · apply about_goes earlier.about fits
    · rintro _ same
      cases same
      exact earlier.about.agreed conversation rfl
    · intro other member
      exact List.mem_append_left _ member
    · intro other member
      have among : other ∈ conversation.told ++ [req] := member
      rcases List.mem_append.mp among with earlier | last
      · exact Or.inl earlier
      · cases List.mem_singleton.mp last
        exact Or.inr held
    · constructor
      · rintro ⟨_, same, forced⟩
        cases same
        cases forced
      · rintro (⟨_, same, forced⟩ | last)
        · cases same
          cases unforced.symm.trans forced
        · rw [last] at held
          cases held

/-- A state that is applied is told. -/
theorem told_applied {channel : ActiveChannel env.Signer} {pending : Option ChannelUpdate}
    {update : ChannelUpdate} {newState : State 1 2} {signatures : Vector Signature 2} {new : Bus}
    (earlier : Told before states said (.active channel pending) bus)
    (tells : Tells (.active channel pending) bus
      (afterApply { channel with state := newState, signatures := signatures } update, bus ++ new))
    (asked : services new = [watch ⟨channel.params, newState, signatures⟩]) :
    ∃ said, Told before (states ++ [(afterApply
      { channel with state := newState, signatures := signatures } update, bus ++ new)]) said
      (afterApply { channel with state := newState, signatures := signatures } update)
      (bus ++ new) := by
  obtain ⟨conversation, rfl, holds⟩ := earlier.fits
  -- The request is the only one that is new, so it follows what was held.
  have added : requests (bus ++ new) = requests bus ++
    [⟨channel.params, newState, signatures⟩] := by
    rw [requests_append, ← requests_services new, asked]
    rfl
  have follows := tells_follows tells holds.held added
  have holds' : Holds (conversation.next _ follows)
      (.active { channel with state := newState, signatures := signatures } none) :=
    ⟨rfl, congrArg some (Conversation.next_last _ _ follows).symm, holds.own⟩
  have sent : services (bus ++ new) =
      services bus ++ [watch ⟨channel.params, newState, signatures⟩] := by
    rw [services_append, asked]
  exact ⟨_, told_next earlier follows holds.unforced sent (fits_apply holds')
    (apply_watching _ update)⟩

theorem fits_closed (fits : Fits said inner) (proposed : ∀ channel, inner ≠ .proposed channel)
    (agreed : ∀ channel, inner ≠ .agreedUpon channel) : Fits said .closed := by
  cases inner with
  | proposed channel => exact absurd rfl (proposed channel)
  | agreedUpon channel => exact absurd rfl (agreed channel)
  | closed => exact fits
  | temporaryInvalidState => exact fits.elim
  | _ =>
      obtain ⟨conversation, rfl, _⟩ := fits
      rfl

theorem told_opened {channel : AgreedUponChannel env.Signer} {signatures : Vector Signature 2}
    (completes : Completes env channel signatures) (here : (.agreedUpon channel, bus) ∈ states)
    (earlier : Told before states none (.agreedUpon channel) bus)
    (next : ChannelInner env.Signer × Bus)
    (same : next = (.signed ⟨⟨channel.partIdx, channel.withdrawReceiver, channel.client,
        channel.initState, channel.params, signatures, channel.peers⟩⟩ false false,
      bus ++ [.toWatcher (.watchRequest ⟨channel.params, channel.initState, signatures⟩),
        .toFunder (.fundReq ⟨channel.partIdx, channel.fundingAgreement, channel.params,
          channel.initState⟩)])) :
    Told before (states ++ [next]) (some (.opening channel signatures completes)) next.1 next.2 := by
  subst same
  have fits : Fits (some (.opening channel signatures completes)) (.signed ⟨⟨channel.partIdx,
      channel.withdrawReceiver, channel.client, channel.initState, channel.params, signatures,
      channel.peers⟩⟩ false false) := ⟨_, rfl, ⟨rfl, rfl, rfl⟩, rfl⟩
  refine ⟨?_, fits, about_goes earlier.about fits ?_ nofun ?_ ?_⟩
  · rw [services_append, earlier.sent, List.append_assoc]
    rfl
  · rintro _ same
    cases same
    exact ⟨bus, here⟩
  · intro req member
    cases List.mem_singleton.mp member
    exact Or.inr rfl
  · constructor
    · rintro ⟨_, same, forced⟩
      cases same
      cases forced
    · rintro (⟨_, same, _⟩ | last)
      · cases same
      · cases last

/-- The registration is for what the channel holds, which was told last. -/
theorem told_forced {channel : ActiveChannel env.Signer} {pending : Option ChannelUpdate}
    {conversation : Conversation env}
    (earlier : Told before states (some conversation) (.active channel pending) bus)
    (holds : Holds conversation (.active channel pending)) :
    let sent := bus ++ [.toFunder (.registerReq ⟨channel.adjudicatorReq⟩)]
    Told before (states ++ [(.forceClosing, sent)]) (some conversation.force) .forceClosing
      sent := by
  intro sent
  have last := Option.some.inj holds.held
  have own := Option.some.inj holds.own
  have partIdx : channel.partIdx = conversation.agreed.partIdx := congrArg Owner.partIdx own
  have receiver : channel.withdrawReceiver = conversation.agreed.withdrawReceiver :=
    congrArg Owner.withdrawReceiver own
  have fits : Fits (some conversation.force) .forceClosing := ⟨_, rfl, rfl⟩
  refine ⟨?_, fits, about_goes earlier.about fits ?_ (fun _ member => member)
    (fun _ member => Or.inl member) ?_⟩
  · have registered : register conversation.last conversation.agreed.partIdx
        conversation.agreed.withdrawReceiver =
        .toFunder (.registerReq ⟨channel.adjudicatorReq⟩) := by
      rw [← last, ← partIdx, ← receiver]
      rfl
    rw [services_append, earlier.sent, List.append_assoc, spoken, Option.elim_some,
      spoken, Option.elim_some, Conversation.force_sent holds.unforced, registered]
    rfl
  · rintro _ same
    cases same
    exact earlier.about.agreed conversation rfl
  · exact ⟨fun _ => Or.inr rfl, fun _ => ⟨_, rfl, rfl⟩⟩

/-- What a call adds to the conversation. -/
theorem moves_told (moves : Moves inner bus after) (tells : Tells inner bus after)
    (here : (inner, bus) ∈ states) (earlier : Told before states said inner bus) :
    ∃ said, Told before (states ++ [after]) said after.1 after.2 := by
  cases moves with
  | agreed channel =>
      refine ⟨said, told_silent earlier ?_ earlier.fits⟩
      rw [services_append, services_broadcast, List.append_nil]
  | signed channel signatures bus completes =>
      -- Both signatures are there for the first time, so nothing has been said yet.
      have unsaid : said = none := earlier.fits
      subst unsaid
      exact ⟨_, told_opened completes here earlier _ rfl⟩
  | later _ _ _ proposed agreed changes =>
      cases changes with
      | kept => exact ⟨said, told_silent earlier rfl earlier.fits⟩
      | agreed channel => cases proposed channel rfl
      | signed channel => cases agreed channel rfl
      | confirmed =>
          obtain ⟨conversation, same, holds, rest⟩ := earlier.fits
          exact ⟨said, told_silent earlier rfl ⟨conversation, same, holds.kept rfl rfl, rest⟩⟩
      | activated =>
          obtain ⟨conversation, same, holds, _⟩ := earlier.fits
          exact ⟨said, told_silent earlier rfl ⟨conversation, same, holds.kept rfl rfl⟩⟩
      | proposed channel pending update =>
          obtain ⟨conversation, same, holds⟩ := earlier.fits
          refine ⟨said, told_silent earlier ?_ ⟨conversation, same, holds.kept rfl rfl⟩⟩
          rw [services_append, services_broadcast, List.append_nil]
      -- That the state is a valid transition is not in the change, but in what it tells.
      | accepted channel update signatures sender msg =>
          rw [List.append_assoc] at tells ⊢
          exact told_applied earlier tells (by simp [services_append, watch])
      | finished channel pending update signatures =>
          exact told_applied earlier tells rfl
      | dropped =>
          obtain ⟨conversation, same, holds⟩ := earlier.fits
          exact ⟨said, told_silent earlier rfl ⟨conversation, same, holds.kept rfl rfl⟩⟩
      | forced channel =>
          obtain ⟨conversation, rfl, holds⟩ := earlier.fits
          exact ⟨_, told_forced earlier holds⟩
      | closed =>
          refine ⟨said, told_silent earlier rfl (fits_closed earlier.fits ?_ ?_)⟩
          · rintro channel rfl
            cases proposed channel rfl
          · rintro channel rfl
            cases agreed channel rfl

end Steps

/-- What has been said about a channel on its way through some states, after what was said
before. -/
structure Serves (env : Env) (before : Bus) (states : List (ChannelInner env.Signer × Bus))
    (inner : ChannelInner env.Signer) (bus : Bus) : Prop where
  ready : Ready inner
  current : Current env inner
  here : (inner, bus) ∈ states
  told : ∃ said, Told before states said inner bus

section Runs
variable {env : Env} {inner : ChannelInner env.Signer} {bus before : Bus}
  {after : ChannelInner env.Signer × Bus} {states : List (ChannelInner env.Signer × Bus)}

theorem starts_serves (starts : Starts env inner) :
    Serves env (services bus) [(inner, bus)] inner bus where
  ready := starts_ready starts
  current := (@starts_chained env inner bus starts).current
  here := List.mem_singleton_self _
  told := by
    have unsaid : Fits none inner := by cases starts <;> rfl
    have unwatched : watching inner = none := by cases starts <;> rfl
    refine ⟨none, (List.append_nil _).symm, unsaid, nofun, ?_, ?_⟩
    · intro req
      simp [told, unwatched]
    · cases starts <;> simp

theorem tells_current (tells : Tells inner bus after) : Current env after.1 := by
  cases tells with
  | silent _ _ _ _ current => exact current
  | first _ _ _ _ _ current => exact current
  | next _ _ _ _ _ _ _ current => exact current

theorem serves_stays (serves : Serves env before states inner bus) :
    Serves env before (states ++ [(inner, bus)]) inner bus := by
  obtain ⟨said, earlier⟩ := serves.told
  have here := List.mem_append_left [(inner, bus)] serves.here
  exact ⟨serves.ready, serves.current, here, said, told_silent earlier rfl earlier.fits⟩

theorem call_serves {call : Call} {outcome : Outcome (DemoChannel.Error env.SigError) Unit}
    (serves : Serves env before states inner bus)
    (ran : call.run env (inner, bus) = (outcome, after)) (back : outcome ≠ .panic) :
    Serves env before (states ++ [after]) after.1 after.2 := by
  have moves : Moves inner bus after := Op.ensures_back (call_moves call serves.ready) ran back
  have tells : Tells inner bus after :=
    Op.ensures_back (call_tells call serves.ready serves.current) ran back
  obtain ⟨said, earlier⟩ := serves.told
  constructor
  · exact runs_ready (Relation.ReflTransGen.single ⟨call, outcome, ran, back⟩) serves.ready
  · exact tells_current tells
  · exact List.mem_append_right _ (List.mem_singleton_self after)
  · exact moves_told moves tells serves.here earlier

theorem trace_serves (trace : Trace (CallStep env) (inner, bus) states after)
    (starts : Starts env inner) : Serves env (services bus) states after.1 after.2 := by
  induction trace with
  | start => exact starts_serves starts
  | goes states before after earlier stepped ih =>
      obtain ⟨call, outcome, ran, back⟩ := stepped
      exact call_serves ih ran back

end Runs

/-- In every run of a channel from its first phase on, all that the services are told is one
conversation about it: nothing before both have signed the first state, then that state and
its funding, once, then every state that follows, and after a registration, of the state told
last, nothing. -/
theorem services_told (env : Env) (inner : ChannelInner env.Signer) (bus : Bus)
    (starts : Starts env inner) (states : List (ChannelInner env.Signer × Bus))
    (after : ChannelInner env.Signer × Bus)
    (trace : Trace (CallStep env) (inner, bus) states after) :
    ∃ said : Option (Conversation env), services after.2 = services bus ++ spoken said ∧
      Fits said after.1 ∧ About states said := by
  obtain ⟨said, told⟩ := (trace_serves trace starts).told
  exact ⟨said, told.sent, told.fits, told.about⟩

/-- The requests to the watcher are those of the chain. -/
theorem conversation_requests {env : Env} (conversation : Conversation env) :
    requests conversation.sent = conversation.told := by
  have unasked : requests conversation.registration = [] := by
    unfold Conversation.registration
    split <;> rfl
  have told (reqs : List StartWatchingLedgerChannelReq) : requests (reqs.map watch) = reqs := by
    induction reqs with
    | nil => rfl
    | cons req rest ih => exact congrArg (List.cons req) ih
  unfold Conversation.sent
  rw [watch, requests_watch, requests_fund, requests_append, told, unasked, List.append_nil]
  rfl

theorem services_told_forced : ∃ (after : ChannelInner plainEnv.Signer × Bus)
    (conversation : Conversation plainEnv),
    CallRuns plainEnv (.agreedUpon plainSigned, []) after ∧ services after.2 = conversation.sent ∧
    conversation.told.map (·.state) = [ChannelRun.plainAgreed.initState, plainFirst] ∧
    conversation.forced = true := by
  obtain ⟨bus, opened, sent⟩ := plain_active
  obtain ⟨bus₁, first, sent₁⟩ := plain_received bus 1 plain_first
  rw [sent] at sent₁
  have runs : WatchedRuns plainEnv ⟨.agreedUpon plainSigned, [], 0⟩
      ⟨.active (plainChannel _) none, bus, 1⟩ :=
    Relation.ReflTransGen.mono (fun _ _ stepped => stepped.1) _ _ opened
  have forced : CallRuns plainEnv (.agreedUpon plainSigned, []) (.forceClosing,
      bus₁ ++ [.toFunder (.registerReq ⟨(plainChannel plainFirst).adjudicatorReq⟩)]) :=
    (watched_calls (runs.tail ⟨none, first⟩)).tail ⟨.forceClose, .ok (), rfl, by simp⟩
  obtain ⟨states, trace⟩ := Trace.of_reaches forced
  obtain ⟨said, told, fits, _⟩ := services_told plainEnv _ [] plain_starts states _ trace
  obtain ⟨conversation, rfl, isForced⟩ := fits
  rw [services_nil, List.nil_append] at told
  have asked := conversation_requests conversation
  refine ⟨_, conversation, forced, told, ?_, isForced⟩
  have same : conversation.sent = spoken (some conversation) := rfl
  rw [← asked, same, ← told, requests_services, requests_append]
  simpa using sent₁

end Perun.DemoServices
