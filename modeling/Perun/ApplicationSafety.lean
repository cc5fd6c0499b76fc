import Perun.ApplicationDelivery
import Perun.DemoPhases

/-! What holds of the application in every run: its channel is one that the demo channel
reaches by its own calls, and everything it sends is for the addresses that it has read
from the config dealer. -/
namespace Perun.ApplicationSafety
open AbiTypes Payment Messages MessageBus Active Opening DemoApplication ApplicationRun DemoPhases
open DemoChannel (ChannelInner)
open DemoRun (Ready Starts CallRuns TakesUnreachable)
open DemoClosing (requests requests_append requests_broadcast)
open ApplicationDelivery (plainPlatform plainSetup plainIdle plainHolder plainActive plainInner
  plainApplication plain_registers)

/-- The two addresses that the config dealer sends. -/
def addresses {Signer : Type} : ApplicationState Signer → Option (Address × Address)
  | .initialState => none
  | .connectingToConfigDealer => none
  | .closingSockets ethHolder withdrawReceiver => some (ethHolder, withdrawReceiver)
  | .listening ethHolder withdrawReceiver => some (ethHolder, withdrawReceiver)
  | .waitForProposal ethHolder withdrawReceiver => some (ethHolder, withdrawReceiver)
  | .connecting ethHolder withdrawReceiver => some (ethHolder, withdrawReceiver)
  | .waitForHandshake ethHolder withdrawReceiver => some (ethHolder, withdrawReceiver)
  | .active ethHolder withdrawReceiver _ => some (ethHolder, withdrawReceiver)

/-- A registration is for what the watcher was told last. -/
def Registered (bus : Bus) : Prop :=
  ∀ earlier req later, bus = earlier ++ .toFunder (.registerReq req) :: later →
    (requests earlier).getLast? = some ⟨req.adjReq.params, req.adjReq.tx.state, req.adjReq.tx.sigs⟩

section Invariant
variable {p : Platform} (setup : Setup p)

/-- A message of the application that is configured with the two addresses. The numbers in
it are drawn where the generator stood when the application took what it answers. -/
def Conforms (first : Application p) (ethHolder withdrawReceiver : Address) : Sent → Prop
  | .toParticipant _ _ (.channelProposal prop) =>
      ∃ waiting proposalId nonceShare, Runs setup first waiting ∧
        waiting.state = .waitForHandshake ethHolder withdrawReceiver ∧
        Draws waiting.rng proposalId nonceShare ∧
        prop = proposal setup ethHolder proposalId nonceShare
  | .toParticipant _ _ (.proposalAccepted acc) => acc.participant = setup.addr ∧
      ∃ waiting, Runs setup first waiting ∧
        waiting.state = .waitForProposal ethHolder withdrawReceiver ∧
        (p.rand.gen waiting.rng).1 = acc.nonceShare.bytes
  | .toParticipant _ _ (.proposalRejected _ _) => False
  | .toParticipant _ _ (.channelUpdateRejected _ _ _) => False
  | .toParticipant _ _ _ => True
  | .toWatcher (.watchRequest _) => True
  | .toWatcher (.startDispute _) => False
  | .toFunder (.fundReq _) => True
  | .toFunder (.registerReq req) =>
      req.adjReq.acc = withdrawReceiver ∧ req.adjReq.secondary = false
  | .toFunder (.withdrawReq _) => False

/-- The channel of the application. -/
structure Session (withdrawReceiver : Address) (channel : ChannelInner p.env.Signer) (sent : Bus) :
    Prop where
  kept : Kept channel
  watched : Watched channel sent
  owned : ∀ own, owner channel = some own →
    own.withdrawReceiver = withdrawReceiver ∧ own.client = setup.client
  begun : ∃ first bus, Starts p.env first ∧ CallRuns p.env (first, bus) (channel, sent)

structure Sound (first : Application p) (state : ApplicationState p.env.Signer) (sent : Bus) :
    Prop where
  session : ∀ h w channel, state = .active h w channel → Session setup w channel sent
  unconfigured : addresses state = none → sent = []
  conforms : ∀ h w, addresses state = some (h, w) → ∀ msg ∈ sent, Conforms setup first h w msg
  registered : Registered sent

end Invariant

section Steps
variable {p : Platform} {setup : Setup p} {first : Application p} {h w : Address} {bus new : Bus}

theorem registered_nil : Registered [] := by
  rintro earlier req later split
  simp at split

/-- Messages that register nothing. -/
theorem registered_append (registered : Registered bus)
    (quiet : ∀ req, Sent.toFunder (.registerReq req) ∉ new) : Registered (bus ++ new) := by
  rintro earlier req later split
  rcases List.append_eq_append_iff.mp split with ⟨middle, _, inside⟩ | ⟨middle, whole, rest⟩
  · exact absurd (inside ▸ List.mem_append_right middle List.mem_cons_self) (quiet req)
  · cases middle with
    | nil =>
        rw [List.nil_append] at rest
        exact absurd (rest ▸ List.mem_cons_self) (quiet req)
    | cons first middle =>
        cases (List.cons.inj rest).1
        exact registered earlier req middle whole

theorem registered_register {req : RegisterReq} (registered : Registered bus)
    (told : (requests bus).getLast? =
      some ⟨req.adjReq.params, req.adjReq.tx.state, req.adjReq.tx.sigs⟩) :
    Registered (bus ++ [.toFunder (.registerReq req)]) := by
  rintro earlier other later split
  rcases List.append_eq_append_iff.mp split with ⟨middle, before, inside⟩ | ⟨middle, whole, rest⟩
  · cases middle with
    | nil =>
        cases (List.cons.inj inside).1
        rw [before, List.append_nil]
        exact told
    | cons first middle =>
        have last := (List.cons.inj inside).2
        simp at last
  · cases middle with
    | nil =>
        cases (List.cons.inj rest).1
        rw [whole, List.append_nil] at told
        exact told
    | cons first middle =>
        cases (List.cons.inj rest).1
        exact registered earlier other middle whole

theorem broadcast_unregistered {partIdx : PartIdx} {sender : Identity} {peers : Peers}
    {msg : ParticipantMessage} (req : RegisterReq) :
    Sent.toFunder (.registerReq req) ∉ broadcast partIdx sender peers msg := by
  intro member
  obtain ⟨peer, _, same⟩ := List.mem_map.mp member
  cases same

theorem speaks_conforms {sent : Sent} (speaks : Speaks sent) : Conforms setup first h w sent := by
  cases sent with
  | toParticipant sender recipient msg => cases msg <;> trivial
  | toWatcher msg => cases msg <;> trivial
  | toFunder msg => cases msg <;> trivial

theorem broadcast_conforms {partIdx : PartIdx} {sender : Identity} {peers : Peers}
    {msg : ParticipantMessage}
    (each : ∀ recipient, Conforms setup first h w (.toParticipant sender recipient msg)) :
    ∀ sent ∈ broadcast partIdx sender peers msg, Conforms setup first h w sent := by
  rintro sent member
  obtain ⟨peer, _, rfl⟩ := List.mem_map.mp member
  exact each peer.1

/-- What the application sends while it has no channel, and by a channel that speaks. -/
theorem sends_sound {state next : ApplicationState p.env.Signer} {sent : Bus}
    (sound : Sound setup first state sent) (same : addresses next = addresses state)
    (session : ∀ h w channel, next = .active h w channel → Session setup w channel (sent ++ new))
    (configured : addresses state = none → new = [])
    (conforms : ∀ h w, addresses state = some (h, w) → ∀ msg ∈ new, Conforms setup first h w msg)
    (quiet : ∀ req, Sent.toFunder (.registerReq req) ∉ new) :
    Sound setup first next (sent ++ new) where
  session := session
  unconfigured none' := by
    rw [same] at none'
    rw [sound.unconfigured none', configured none', List.append_nil]
  conforms h w known msg member := by
    rw [same] at known
    rcases List.mem_append.mp member with earlier | fresh
    · exact sound.conforms h w known msg earlier
    · exact conforms h w known msg fresh
  registered := registered_append sound.registered quiet

theorem moves_sound {state next : ApplicationState p.env.Signer} {sent : Bus}
    (sound : Sound setup first state sent) (same : addresses next = addresses state)
    (inactive : ∀ h w channel, next ≠ .active h w channel) : Sound setup first next sent := by
  have unsent := @sends_sound p setup first [] state next sent sound same
    (fun h w channel active => absurd active (inactive h w channel)) (fun _ => rfl) nofun nofun
  rwa [List.append_nil] at unsent

theorem handshake_sound {state next : ApplicationState p.env.Signer} {sent : Bus}
    {sender recipient : Identity} (sound : Sound setup first state sent)
    (known : addresses state = some (h, w)) (same : addresses next = addresses state)
    (inactive : ∀ h w channel, next ≠ .active h w channel) :
    Sound setup first next (sent ++ [.toParticipant sender recipient .auth]) := by
  apply sends_sound sound same
  · exact fun h w channel active => absurd active (inactive h w channel)
  · intro none'
    rw [known] at none'
    cases none'
  · rintro h w _ msg member
    cases List.mem_singleton.mp member
    trivial
  · simp

/-- A call on the channel. -/
theorem call_session {channel next : ChannelInner p.env.Signer} {sent after : Bus}
    {call : DemoRun.Call} {outcome : Outcome (DemoChannel.Error p.env.SigError) Unit}
    (session : Session setup w channel sent)
    (ran : call.run p.env (channel, sent) = (outcome, (next, after))) (back : outcome ≠ .panic)
    (stillOpen : isClosed next = false) : Session setup w next after := by
  have moves : Moves channel sent (next, after) :=
    Op.ensures_back (call_moves call session.kept.1) ran back
  have runs : CallRuns p.env (channel, sent) (next, after) :=
    Relation.ReflTransGen.single ⟨call, outcome, ran, back⟩
  constructor
  · exact ⟨DemoRun.runs_ready runs session.kept.1, stillOpen⟩
  · exact moves_watched moves session.watched
  · intro own known
    rcases moves_owner moves with same | lost
    · exact session.owned own (same ▸ known)
    · rw [lost] at known
      cases known
  · obtain ⟨first, bus, starts, earlier⟩ := session.begun
    exact ⟨first, bus, starts, earlier.trans runs⟩

/-- What a call on the channel sends. -/
theorem call_sound {state : ApplicationState p.env.Signer}
    {channel next : ChannelInner p.env.Signer}
    {sent after : Bus} {call : DemoRun.Call}
    {outcome : Outcome (DemoChannel.Error p.env.SigError) Unit}
    (sound : Sound setup first (.active h w channel) sent)
    (ran : call.run p.env (channel, sent) = (outcome, (next, after))) (back : outcome ≠ .panic)
    (known : addresses state = some (h, w))
    (session : ∀ h w channel, state = .active h w channel → Session setup w channel after) :
    Sound setup first state after := by
  have now := sound.session h w channel rfl
  have adds : Adds channel sent (next, after) :=
    Op.ensures_back (call_adds call now.kept.1) ran back
  cases adds with
  | speaks _ new each =>
      apply sends_sound sound known session
      · exact nofun
      · exact fun h w _ msg member => speaks_conforms (each msg member)
      · exact fun req member => each _ member
  | registers active pending phase =>
      subst phase
      have receiver := (now.owned _ rfl).1
      constructor
      · exact session
      · intro none'
        rw [known] at none'
        cases none'
      · rintro h' w' same msg member
        cases known.symm.trans same
        rcases List.mem_append.mp member with earlier | fresh
        · exact sound.conforms h w rfl msg earlier
        · cases List.mem_singleton.mp fresh
          exact ⟨receiver, rfl⟩
      · exact registered_register sound.registered (now.watched _ rfl)

/-- The channel of a proposal, on either side. -/
theorem begun_session {channel : ChannelInner p.env.Signer} {sent : Bus}
    (starts : Starts p.env channel) (unwatched : watching channel = none)
    (notClosed : isClosed channel = false)
    (owned : ∀ own, owner channel = some own →
      own.withdrawReceiver = w ∧ own.client = setup.client) : Session setup w channel sent where
  kept := ⟨DemoRun.starts_ready starts, notClosed⟩
  watched req known := by
    rw [unwatched] at known
    cases known
  owned := owned
  begun := ⟨channel, sent, starts, .refl⟩

theorem acts_sound {before : Application p} {next : ApplicationState p.env.Signer} {sent : Bus}
    (reached : Runs setup first before) (sound : Sound setup first before.state before.sent)
    (acts : Acts setup before next sent) : Sound setup first next sent := by
  cases acts with
  | kept => exact sound
  | dialled initial =>
      rw [initial] at sound
      exact moves_sound sound rfl nofun
  | configured h w dialling =>
      rw [dialling] at sound
      have unsent := sound.unconfigured rfl
      constructor
      · exact nofun
      · exact nofun
      · rintro _ _ _ msg member
        rw [unsent] at member
        cases member
      · exact sound.registered
  | listens h w closing service participant =>
      rw [closing] at sound
      exact moves_sound sound rfl nofun
  | greeted h w sender next listening connected =>
      rw [listening] at sound
      rcases connected with rfl | rfl
      · exact handshake_sound sound rfl rfl nofun
      · exact handshake_sound sound rfl rfl nofun
  | connects h w listening =>
      rw [listening] at sound
      exact moves_sound sound rfl nofun
  | greets h w connecting =>
      rw [connecting] at sound
      exact handshake_sound sound rfl rfl nofun
  | proposes h w proposalId nonceShare sender waiting drawn =>
      rw [waiting] at sound
      apply sends_sound sound
      · rfl
      · rintro _ _ _ same
        cases same
        apply begun_session (.proposed _ rfl) rfl rfl
        rintro own known
        cases known
        exact ⟨rfl, rfl⟩
      · exact nofun
      · rintro _ _ same
        cases same
        exact broadcast_conforms fun _ =>
          ⟨before, proposalId, nonceShare, reached, waiting, drawn, rfl⟩
      · exact broadcast_unregistered
  | accepts h w prop nonceShare acc sig sender waiting answer drawn peer signed =>
      rw [waiting] at sound
      rw [List.append_assoc]
      apply sends_sound sound
      · rfl
      · rintro _ _ _ same
        cases same
        apply begun_session (.agreedUpon _ sig (by simp [acceptedChannel])) rfl rfl
        rintro own known
        cases known
        exact ⟨rfl, rfl⟩
      · exact nofun
      · rintro h' w' same msg member
        cases same
        rcases List.mem_append.mp member with answered | signature
        · subst answer
          apply broadcast_conforms _ msg answered
          intro recipient
          exact ⟨rfl, before, reached, waiting, drawn⟩
        · apply broadcast_conforms _ msg signature
          intro recipient
          trivial
      · intro req member
        rcases List.mem_append.mp member with answered | signature
        · exact broadcast_unregistered req answered
        · exact broadcast_unregistered req signature
  | called h w channel next sent call outcome active ran back stillOpen =>
      rw [active] at sound
      apply call_sound sound ran back rfl
      rintro _ _ _ same
      cases same
      exact call_session (sound.session h w channel rfl) ran back stillOpen
  | closed h w channel sent call active ran =>
      rw [active] at sound
      exact call_sound sound ran (by simp) rfl nofun

theorem start_sound (iface : Interface p) (rng : p.rand.StdRng) :
    Sound setup (start iface rng) (start iface rng).state (start iface rng).sent where
  session := nofun
  unconfigured _ := rfl
  conforms _ _ _ _ member := nomatch member
  registered := registered_nil

theorem sound_open {state : ApplicationState p.env.Signer} {sent : Bus}
    (sound : Sound setup first state sent) : Open state := by
  cases state with
  | active h w channel => exact (sound.session h w channel rfl).kept
  | _ => trivial

/-- Every step is one of the things that a call does. -/
theorem step_does {before after : Application p}
    (sound : Sound setup first before.state before.sent) (step : Step setup before after) :
    Does setup before after := by
  cases step with
  | network iface => exact .kept
  | call call _ _ outcome ran back =>
      exact Op.ensures_back (call_does call (sound_open sound)) ran back

theorem runs_sound {after : Application p} (runs : Runs setup first after)
    (sound : Sound setup first first.state first.sent) :
    Sound setup first after.state after.sent := by
  induction runs with
  | refl => exact sound
  | tail earlier step ih => exact acts_sound earlier ih (step_does ih step)

theorem acts_addresses {before : Application p} {next : ApplicationState p.env.Signer} {sent : Bus}
    {known : Address × Address} (acts : Acts setup before next sent)
    (configured : addresses before.state = some known) : addresses next = some known := by
  cases acts with
  | kept => exact configured
  | dialled initial =>
      rw [initial] at configured
      cases configured
  | configured h w dialling =>
      rw [dialling] at configured
      cases configured
  | greeted h w sender next listening connected =>
      rw [listening] at configured
      rcases connected with rfl | rfl <;> exact configured
  | listens h w phase => exact (congrArg addresses phase).symm.trans configured
  | connects h w phase => exact (congrArg addresses phase).symm.trans configured
  | greets h w phase => exact (congrArg addresses phase).symm.trans configured
  | proposes h w _ _ _ phase => exact (congrArg addresses phase).symm.trans configured
  | accepts h w _ _ _ _ _ phase => exact (congrArg addresses phase).symm.trans configured
  | called h w _ _ _ _ _ phase => exact (congrArg addresses phase).symm.trans configured
  | closed h w _ _ _ phase => exact (congrArg addresses phase).symm.trans configured

theorem runs_addresses {before after : Application p} {known : Address × Address}
    (reached : Runs setup first before) (sound : Sound setup first first.state first.sent)
    (runs : Runs setup before after) (configured : addresses before.state = some known) :
    addresses after.state = some known := by
  induction runs with
  | refl => exact configured
  | tail earlier step ih =>
      exact acts_addresses (step_does (runs_sound (reached.trans earlier) sound) step) ih

end Steps

section Results
variable (p : Platform) (setup : Setup p) (iface : Interface p) (rng : p.rand.StdRng)

/-- In every run, and over all channels in it, a registration is for the parameters, the
state and the signatures of the last request to the watcher before it. -/
theorem registers_last_watched (app : Application p) (runs : Runs setup (start iface rng) app)
    (earlier later : Bus) (req : RegisterReq)
    (sent : app.sent = earlier ++ .toFunder (.registerReq req) :: later) :
    (requests earlier).getLast? =
      some ⟨req.adjReq.params, req.adjReq.tx.state, req.adjReq.tx.sigs⟩ :=
  (runs_sound runs (start_sound iface rng)).registered earlier req later sent

theorem registers_last_watched_registers : ∃ app earlier,
    Runs plainSetup (start plainIdle ()) app ∧
    app.sent = earlier ++ [.toFunder (.registerReq ⟨plainActive.adjudicatorReq⟩)] ∧
    (requests earlier).getLast? =
      some ⟨plainActive.params, plainActive.state, plainActive.signatures⟩ := by
  obtain ⟨iface, sent, runs⟩ := plain_registers
  exact ⟨_, sent, runs, rfl, registers_last_watched plainPlatform plainSetup plainIdle () _ runs
    sent [] _ rfl⟩

end Results

end Perun.ApplicationSafety
