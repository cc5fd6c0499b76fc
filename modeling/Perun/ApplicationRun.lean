import Perun.DemoApplication
import Perun.Triple

/-! Runs of the application. The network changes the sockets as it likes between the
calls, and the main loop and the buttons may call in any order. `Acts` lists what a call
that comes back has made of the state and of the bus; it is the only thing that the
invariants look at. -/
namespace Perun.ApplicationRun
open AbiTypes Payment Messages MessageBus Opening Wire Encoding DemoApplication Op
open DemoChannel (ChannelInner)
open DemoRun (Ready)

inductive Call where
  | poll
  | update (amount : U256) (isFinal : Bool)
  | forceClose
  | proposeChannel

section Runs
variable {p : Platform} (setup : Setup p)

def Call.run : Call → Method p Unit
  | .poll => DemoApplication.poll setup
  | .update amount isFinal => DemoApplication.update amount isFinal
  | .forceClose => DemoApplication.forceClose
  | .proposeChannel => DemoApplication.proposeChannel setup

inductive Step : Application p → Application p → Prop
  | network (app : Application p) (iface : Interface p) : Step app { app with iface := iface }
  | call (call : Call) (before after : Application p)
      (outcome : Outcome (DemoApplication.Error p) Unit)
      (ran : call.run setup before = (outcome, after)) (back : outcome ≠ .panic) :
      Step before after

/-- `Application::new`. -/
def start (iface : Interface p) (rng : p.rand.StdRng) : Application p :=
  ⟨.initialState, iface, rng, []⟩

def Runs : Application p → Application p → Prop := Relation.ReflTransGen (Step setup)

/-- The channel that the application proposes. -/
def proposedChannel (ethHolder withdrawReceiver : Address)
    (proposalId nonceShare : Vector UInt8 32) :
    ProposedChannel p.env.Signer :=
  ProposedChannel.create setup.client 0 withdrawReceiver
    (proposal setup ethHolder proposalId nonceShare)

/-- The channel of an accepted proposal, with the own signature. -/
def acceptedChannel (withdrawReceiver : Address) (prop : LedgerChannelProposal)
    (acc : LedgerChannelProposalAcc) (sig : Signature) : AgreedUponChannel p.env.Signer :=
  ⟨1, withdrawReceiver, setup.client, prop.fundingAgreement, agreedState p.env prop acc,
    agreedParams p.env prop acc, (Vector.replicate 2 none).setIfInBounds 1 (some sig), prop.peers⟩

/-- Two numbers that the generator gives one after the other. -/
def Draws (rng : p.rand.StdRng) (proposalId nonceShare : Vector UInt8 32) : Prop :=
  ∃ between, p.rand.gen rng = (proposalId, between) ∧ (p.rand.gen between).1 = nonceShare

/-- What a call that comes back has made of the state and of the bus. -/
inductive Acts (before : Application p) : ApplicationState p.env.Signer → Bus → Prop
  | kept : Acts before before.state before.sent
  | dialled (initial : before.state = .initialState) :
      Acts before .connectingToConfigDealer before.sent
  | configured (h w : Address) (dialling : before.state = .connectingToConfigDealer) :
      Acts before (.closingSockets h w) before.sent
  | listens (h w : Address) (closing : before.state = .closingSockets h w)
      (service : p.tcp.isActive before.iface.service = false)
      (participant : p.tcp.isActive before.iface.participant = false) :
      Acts before (.listening h w) before.sent
  | greeted (h w : Address) (sender : Identity) (next : ApplicationState p.env.Signer)
      (listening : before.state = .listening h w)
      (connected : next = .listening h w ∨ next = .waitForProposal h w) :
      Acts before next (before.sent ++ [.toParticipant peer0 sender .auth])
  | connects (h w : Address) (listening : before.state = .listening h w) :
      Acts before (.connecting h w) before.sent
  | greets (h w : Address) (connecting : before.state = .connecting h w) :
      Acts before (.waitForHandshake h w) (before.sent ++
        [.toParticipant (setup.config.participants.get 0) (setup.config.participants.get 1) .auth])
  | proposes (h w : Address) (proposalId nonceShare : Vector UInt8 32) (sender : Identity)
      (waiting : before.state = .waitForHandshake h w)
      (drawn : Draws before.rng proposalId nonceShare) :
      Acts before (.active h w (.proposed (proposedChannel setup h w proposalId nonceShare)))
        (before.sent ++ broadcast 0 sender setup.config.participants.toList
          (.channelProposal (proposal setup h proposalId nonceShare)))
  | accepts (h w : Address) (prop : LedgerChannelProposal) (nonceShare : Vector UInt8 32)
      (acc : LedgerChannelProposalAcc) (sig : Signature) (sender : Identity)
      (waiting : before.state = .waitForProposal h w)
      (answer : acc = ⟨prop.proposalId, ⟨nonceShare⟩, setup.addr⟩)
      (drawn : (p.rand.gen before.rng).1 = nonceShare)
      (peer : prop.peers[1]? = some sender)
      (signed : p.env.signEth setup.client.signer
        (Active.stateHash p.env (agreedState p.env prop acc)) = some sig) :
      Acts before (.active h w (.agreedUpon (acceptedChannel setup w prop acc sig)))
        (before.sent ++ broadcast 1 sender prop.peers (.proposalAccepted acc) ++
          broadcast 1 sender prop.peers
            (.channelUpdateAccepted ⟨(agreedState p.env prop acc).id, 0, sig⟩))
  | called (h w : Address) (channel next : ChannelInner p.env.Signer) (sent : Bus)
      (call : DemoRun.Call) (outcome : Outcome (DemoChannel.Error p.env.SigError) Unit)
      (active : before.state = .active h w channel)
      (ran : call.run p.env (channel, before.sent) = (outcome, (next, sent)))
      (back : outcome ≠ .panic) (stillOpen : isClosed next = false) :
      Acts before (.active h w next) sent
  | closed (h w : Address) (channel : ChannelInner p.env.Signer) (sent : Bus)
      (call : DemoRun.Call) (active : before.state = .active h w channel)
      (ran : call.run p.env (channel, before.sent) = (.ok (), (.closed, sent))) :
      Acts before (.closingSockets h w) sent

def Does (before after : Application p) : Prop := Acts setup before after.state after.sent

end Runs

/-! The rules for the sockets and for the client. -/
section Rules
variable {p : Platform} {ε α : Type} {app : Application p} {returns : α → Application p → Prop}
  {fails : DemoApplication.Error p → Application p → Prop}

theorem ensures_on_socket (handle : SocketHandle) (convert : ε → DemoApplication.Error p)
    (step : Op ε p.tcp.Socket α)
    (value : ∀ value iface, returns value { app with iface := iface })
    (error : ∀ error iface, fails error { app with iface := iface }) :
    Ensures returns fails (onSocket handle convert step) app := by
  rw [ensures_iff]
  constructor
  · rintro result after ran
    rcases Prod.mk.inj ran with ⟨_, rfl⟩
    exact value result _
  · rintro failure after ran
    rcases Prod.mk.inj ran with ⟨_, rfl⟩
    exact error failure _

theorem ensures_transmit (result : Outcome (DemoApplication.Error p) α) (sent : Bus)
    (value : ∀ value iface, result = .ok value →
      returns value { app with iface := iface, sent := sent })
    (error : ∀ error iface, result = .err error →
      fails error { app with iface := iface, sent := sent }) :
    Ensures returns fails (transmit result sent) app := by
  unfold Ensures transmit
  rcases (sendEach (sent.drop app.sent.length) app.iface : Outcome Empty Unit × Interface p)
    with ⟨_ | _ | _, iface⟩
  · cases result with
    | ok found => exact value found iface rfl
    | err failure => exact error failure iface rfl
    | panic => trivial
  · trivial
  · trivial

/-- Whatever the sockets are left as, the bus has what the step sent. -/
theorem ensures_on_client (convert : ε → DemoApplication.Error p) (step : Op ε Bus α)
    (ensures : Ensures
      (fun value sent => ∀ iface, returns value { app with iface := iface, sent := sent })
      (fun error sent => ∀ iface, fails (convert error) { app with iface := iface, sent := sent })
      step app.sent) : Ensures returns fails (onClient convert step) app := by
  rw [ensures_iff] at ensures
  apply ensures_transmit
  · rintro value iface ok
    exact ensures.1 value _ (Prod.ext (Outcome.mapErr_eq_ok.mp ok) rfl) iface
  · rintro failure iface failed
    rcases ran : step app.sent with ⟨_ | error | _, sent⟩
    · rw [ran] at failed
      cases failed
    · rw [ran] at failed
      cases failed
      exact ensures.2 error sent ran iface
    · rw [ran] at failed
      cases failed

theorem ensures_on_channel {h w : Address} {channel : ChannelInner p.env.Signer}
    {method : DemoChannel.Method p.env} {returns : Unit → Application p → Prop}
    (ensures : Ensures
      (fun _ after => ∀ iface, returns ()
        { app with state := .active h w after.1, iface := iface, sent := after.2 })
      (fun error after => ∀ iface, fails (.channelError error)
        { app with state := .active h w after.1, iface := iface, sent := after.2 })
      method (channel, app.sent)) : Ensures returns fails (onChannel h w channel method) app := by
  rw [ensures_iff] at ensures
  apply ensures_transmit
  · rintro _ iface ok
    exact ensures.1 () _ (Prod.ext (Outcome.mapErr_eq_ok.mp ok) rfl) iface
  · rintro failure iface failed
    rcases ran : method (channel, app.sent) with ⟨_ | error | _, after⟩
    · rw [ran] at failed
      cases failed
    · rw [ran] at failed
      cases failed
      exact ensures.2 error after ran iface
    · rw [ran] at failed
      cases failed

theorem ensures_gen {returns : Vector UInt8 32 → Application p → Prop}
    (value : ∀ value rng, p.rand.gen app.rng = (value, rng) →
      returns value { app with rng := rng }) : Ensures returns fails gen app :=
  value _ _ rfl

theorem ensures_port {returns : BitVec 16 → Application p → Prop}
    (value : ∀ value rng, returns value { app with rng := rng }) :
    Ensures returns fails getEthemeralPort app :=
  value _ _

end Rules

/-! What each method does. -/
section Methods
variable {p : Platform} {setup : Setup p} {before app : Application p} {h w : Address}

/-- The application, except for its sockets and its random numbers. -/
structure Quiet (before app : Application p) : Prop where
  state : app.state = before.state
  sent : app.sent = before.sent

theorem quiet_does (quiet : Quiet before app) : Does setup before app := by
  rw [Does, quiet.state, quiet.sent]
  exact .kept

theorem connect_config_dealer_does (initial : before.state = .initialState) :
    Ensures (fun _ => Does setup before) (fun _ => Does setup before) (connectConfigDealer setup)
      before := by
  simp only [connectConfigDealer, ensures_bind]
  apply ensures_port
  intro port rng
  apply ensures_on_socket
  · rintro _ iface
    exact .dialled initial
  · rintro _ iface
    exact .kept

theorem read_config_does (dialling : before.state = .connectingToConfigDealer) :
    Ensures (fun _ => Does setup before) (fun _ => Does setup before) waitConnectedAndReadConfig
      before := by
  simp only [waitConnectedAndReadConfig, ensures_bind, ensures_get]
  split
  · rw [ensures_bind]
    apply ensures_on_socket
    · rintro found iface
      cases found with
      | none => exact .kept
      | some addresses => exact .configured _ _ dialling
    · rintro _ iface
      exact .kept
  · exact .kept

theorem connections_closed_does (closing : before.state = .closingSockets h w) :
    Ensures (fun _ => Does setup before) (fun _ => Does setup before)
      (waitConnectionsClosed setup h w) before := by
  simp only [waitConnectionsClosed, ensures_bind, ensures_get]
  split
  · rename_i free
    simp only [Bool.and_eq_true, Bool.not_eq_true'] at free
    rw [ensures_bind]
    apply ensures_on_socket
    · rintro _ iface
      exact .listens h w closing free.1 free.2
    · rintro _ iface
      exact .kept
  · exact .kept

theorem try_recv_envelope_quiet {returns : Option perunwire.Envelope → Application p → Prop}
    {fails : DemoApplication.Error p → Application p → Prop}
    (value : ∀ found iface, returns found { app with iface := iface })
    (error : ∀ error iface, fails error { app with iface := iface }) :
    Ensures returns fails tryRecvEnvelope app :=
  ensures_on_socket _ _ _ value error

/-- Receiving a message touches the sockets only. -/
theorem try_recv_participant_quiet {returns : Option ParticipantMessage → Application p → Prop}
    {fails : DemoApplication.Error p → Application p → Prop}
    (value : ∀ found iface, returns found { app with iface := iface })
    (error : ∀ error iface, fails error { app with iface := iface }) :
    Ensures returns fails tryRecvParticipantMsg app := by
  simp only [tryRecvParticipantMsg, ensures_bind]
  apply ensures_on_socket
  · rintro found iface
    rcases found with _ | ⟨sender, recipient, _ | msg⟩
    · exact value none iface
    · exact error .envelopeHasNoMsg iface
    · rw [ensures_bind, ensures_lift]
      constructor
      · rintro msg _
        exact value (some msg) iface
      · rintro failure _
        exact error failure iface
  · exact fun failure iface => error _ iface

theorem try_recv_service_quiet {returns : Option ServiceReplyMessage → Application p → Prop}
    {fails : DemoApplication.Error p → Application p → Prop}
    (value : ∀ found iface, returns found { app with iface := iface })
    (error : ∀ error iface, fails error { app with iface := iface }) :
    Ensures returns fails tryRecvServiceMsg app := by
  simp only [tryRecvServiceMsg, ensures_bind]
  apply ensures_on_socket
  · rintro found iface
    rcases found with _ | ⟨_ | msg⟩
    · exact value none iface
    · exact error .envelopeHasNoMsg iface
    · rw [ensures_bind, ensures_lift]
      constructor
      · rintro msg _
        exact value (some msg) iface
      · rintro failure _
        exact error failure iface
  · exact fun failure iface => error _ iface

theorem connect_service_ensures {returns : Unit → Application p → Prop}
    {fails : DemoApplication.Error p → Application p → Prop}
    (value : ∀ iface rng, returns () { app with iface := iface, rng := rng })
    (error : ∀ error iface rng, fails error { app with iface := iface, rng := rng }) :
    Ensures returns fails (connectService setup) app := by
  simp only [connectService, ensures_bind]
  apply ensures_port
  intro port rng
  apply ensures_on_socket
  · rintro _ iface
    exact value iface rng
  · rintro failure iface
    exact error _ iface rng

theorem handshake_ensures {returns : Unit → Application p → Prop}
    {fails : DemoApplication.Error p → Application p → Prop} (sender recipient : Identity)
    (value : ∀ iface, returns () { app with
      iface := iface, sent := app.sent ++ [.toParticipant sender recipient .auth] }) :
    Ensures returns fails (sendHandshakeMsg sender recipient) app := by
  apply ensures_on_client
  exact value

theorem incomming_connection_does (listening : before.state = .listening h w) :
    Ensures (fun _ => Does setup before) (fun _ => Does setup before)
      (checkIncommingConnection setup h w) before := by
  simp only [checkIncommingConnection, ensures_bind, ensures_get]
  split
  · exact .kept
  · rw [ensures_bind]
    apply try_recv_envelope_quiet
    · rintro found iface
      rcases found with _ | ⟨sender, recipient, _ | msg⟩
      · exact .kept
      · exact .kept
      · cases msg with
        | authResponseMsg =>
            simp only [ensures_bind]
            apply handshake_ensures
            intro iface
            apply connect_service_ensures
            · rintro iface rng
              exact .greeted h w sender _ listening (Or.inr rfl)
            · rintro error iface rng
              exact .greeted h w sender _ listening (Or.inl listening)
        | _ => exact .kept
    · rintro error iface
      exact .kept

theorem connect_does (listening : before.state = .listening h w) :
    Ensures (fun _ => Does setup before) (fun _ => Does setup before)
      (DemoApplication.connect setup h w) before := by
  have dials (iface : Interface p) : Ensures (fun _ => Does setup before)
      (fun _ => Does setup before) (do
        let port ← getEthemeralPort
        onSocket .participant .network
          (p.tcp.connect setup.config.otherParticipant (p.tcp.unspecified, port))
        connectService setup
        setState (.connecting h w)) { before with iface := iface } := by
    simp only [ensures_bind]
    apply ensures_port
    intro port rng
    apply ensures_on_socket
    · rintro _ iface
      apply connect_service_ensures
      · rintro iface rng
        exact .connects h w listening
      · rintro error iface rng
        exact .kept
    · rintro error iface
      exact .kept
  simp only [DemoApplication.connect, ensures_bind, ensures_get]
  split
  · exact (ensures_bind _ _).mp (dials _)
  · exact (ensures_bind _ _).mp (dials before.iface)

theorem send_handshake_does (connecting : before.state = .connecting h w) :
    Ensures (fun _ => Does setup before) (fun _ => Does setup before)
      (waitConnectedAndSendHandshake setup h w) before := by
  simp only [waitConnectedAndSendHandshake, ensures_bind, ensures_get]
  split
  · rw [ensures_bind]
    apply handshake_ensures
    intro iface
    exact .greets h w connecting
  · exact .kept

theorem send_proposal_does {iface : Interface p} (waiting : before.state = .waitForHandshake h w) :
    Ensures (fun _ => Does setup before) (fun _ => Does setup before)
      (sendChannelProposal setup h w) { before with iface := iface } := by
  simp only [sendChannelProposal, ensures_bind]
  apply ensures_gen
  intro proposalId between first
  apply ensures_gen
  intro nonceShare rng second
  apply ensures_on_client
  rw [ensures_iff]
  constructor
  · rintro channel sent ran iface
    rcases propose_channel_ok.mp ran with ⟨_, _, rfl, sender, _, rfl⟩
    exact .proposes h w proposalId nonceShare sender waiting
      ⟨between, first, congrArg Prod.fst second⟩
  · rintro error sent ran iface
    have unsent : sent = before.sent := propose_channel_atomic _ _ _ _ _ _ ran
    subst unsent
    exact .kept

theorem propose_does (waiting : before.state = .waitForHandshake h w) :
    Ensures (fun _ => Does setup before) (fun _ => Does setup before)
      (waitHandshakeAndProposeChannel setup h w) before := by
  simp only [waitHandshakeAndProposeChannel, ensures_bind]
  apply try_recv_participant_quiet
  · rintro found iface
    rcases found with _ | msg
    · exact .kept
    · cases msg with
      | auth => exact send_proposal_does waiting
      | _ => exact .kept
  · rintro error iface
    exact .kept

/-- A responder that is not among the peers aborts, otherwise the answer is stored and sent. -/
theorem accept_ensures {env : Env} {channel : ProposedChannel env.Signer}
    {nonceShare : NonceShare} {address : Address} {bus : Bus}
    {returns : ProposedChannel env.Signer → Bus → Prop} {fails : Empty → Bus → Prop}
    (responder : channel.partIdx = 1)
    (value : ∀ sender, channel.proposal.peers[1]? = some sender →
      returns { channel with
          responses := #v[some ⟨channel.proposal.proposalId, nonceShare, address⟩] }
        (bus ++ broadcast 1 sender channel.proposal.peers
          (.proposalAccepted ⟨channel.proposal.proposalId, nonceShare, address⟩))) :
    Ensures returns fails (unwrapped
      (DemoChannel.call channel (ProposedChannel.accept env nonceShare address)
        fun _ error => error)) bus := by
  unfold Ensures unwrapped
  cases peer : channel.proposal.peers[1]? with
  | some sender =>
      rw [DemoChannel.call_ok (accept_run responder peer)]
      exact value sender peer
  | none =>
      have aborts : (ProposedChannel.accept env nonceShare address (channel, bus)).1 = .panic := by
        simp [ProposedChannel.accept, Op.bind_run, Build.sub, responder, store, broadcast_run, peer]
      rcases ran : ProposedChannel.accept env nonceShare address (channel, bus) with ⟨result, after⟩
      rw [ran] at aborts
      cases aborts
      simp only [DemoChannel.call, ran, Outcome.unwrapErr]

/-- The first signature of a channel cannot be refused. -/
theorem sign_ensures {env : Env} {channel : AgreedUponChannel env.Signer} {bus : Bus}
    {returns : AgreedUponChannel env.Signer → Bus → Prop} {fails : Active.SignError → Bus → Prop}
    (fresh : channel.signatures = Vector.replicate 2 none)
    (value : ∀ sig sender,
      env.signEth channel.client.signer (Active.stateHash env channel.initState) = some sig →
      channel.peers[channel.partIdx]? = some sender →
      returns { channel with
          signatures := channel.signatures.setIfInBounds channel.partIdx (some sig) }
        (bus ++ broadcast channel.partIdx sender channel.peers
          (.channelUpdateAccepted ⟨channel.initState.id, channel.initState.version, sig⟩))) :
    Ensures returns fails
      (DemoChannel.call channel (AgreedUponChannel.sign env) fun _ error => error) bus := by
  unfold Ensures
  rcases ran : AgreedUponChannel.sign env (channel, bus) with ⟨_ | error | _, signed, after⟩
  · obtain ⟨_, sig, sender, signed, peer, same⟩ := sign_ok.mp ran
    obtain ⟨rfl, rfl⟩ := Prod.mk.inj same
    rw [DemoChannel.call_ok ran]
    exact value sig sender signed peer
  · exact absurd ran (DemoRun.fresh_sign fresh)
  · simp only [DemoChannel.call, ran]

theorem accept_does {prop : LedgerChannelProposal} {iface : Interface p}
    (waiting : before.state = .waitForProposal h w) :
    Ensures (fun _ => Does setup before) (fun _ => Does setup before)
      (acceptProposal setup h w prop) { before with iface := iface } := by
  simp only [acceptProposal, ensures_bind, handleProposal, Outcome.mapErr_ok]
  rw [ensures_lift]
  constructor
  · rintro channel created
    cases created
    apply ensures_gen
    intro nonceShare rng drawn
    apply ensures_on_client
    apply accept_ensures rfl
    intro sender peer iface
    let acc : LedgerChannelProposalAcc := ⟨prop.proposalId, ⟨nonceShare⟩, setup.addr⟩
    have built := (@proposed_build_ok p.env ⟨1, w, setup.client, prop, #v[some acc]⟩ _).mpr
      ⟨acc, rfl, rfl⟩
    rw [ensures_lift]
    constructor
    · rintro agreed returned
      cases (Outcome.mapErr_eq_ok.mp returned).symm.trans built
      apply ensures_on_client
      apply sign_ensures rfl
      intro sig sender' made peer' iface
      cases peer.symm.trans peer'
      exact .accepts h w prop nonceShare acc sig sender waiting rfl (congrArg Prod.fst drawn) peer
        made
    · rintro error refused
      have returned := congrArg (Outcome.mapErr fun (failed : ProposedChannel p.env.Signer ×
        ProposalBuildError) => DemoApplication.Error.proposalBuildError (p := p) failed.2) built
      cases returned.symm.trans refused
  · rintro error created
    cases created

theorem proposal_msg_does (waiting : before.state = .waitForProposal h w) :
    Ensures (fun _ => Does setup before) (fun _ => Does setup before)
      (waitConnectedAndProposalMsg setup h w) before := by
  simp only [waitConnectedAndProposalMsg, ensures_bind, ensures_get]
  split
  · exact .kept
  · rw [ensures_bind]
    apply try_recv_participant_quiet
    · rintro found iface
      rcases found with _ | msg
      · exact .kept
      · cases msg with
        | channelProposal prop => exact accept_does waiting
        | _ => exact .kept
    · rintro error iface
      exact .kept

/-- A channel that the application keeps: it is ready for every message, and not closed. -/
def Kept {Signer : Type} (channel : ChannelInner Signer) : Prop :=
  Ready channel ∧ isClosed channel = false

/-- What the application relies on while it has a channel. -/
def Open : ApplicationState p.env.Signer → Prop
  | .active _ _ channel => Kept channel
  | _ => True

theorem closed_eq {Signer : Type} {channel : ChannelInner Signer}
    (closed : isClosed channel = true) :
    channel = .closed := by
  cases channel <;> first | rfl | cases closed

/-- The buttons do not close a channel. -/
theorem update_stays_open {env : Env} {channel : ChannelInner env.Signer} {bus : Bus}
    (amount : U256)
    (isFinal : Bool) (open' : isClosed channel = false) :
    Ensures (fun _ after => isClosed after.1 = false) (fun _ after => isClosed after.1 = false)
      (DemoChannel.update env amount isFinal) (channel, bus) := by
  unfold Ensures
  cases channel with
  | active channel pending =>
      simp only [DemoChannel.update]
      rcases DemoChannel.proposePayment env channel amount isFinal bus with ⟨_ | _ | _, after⟩
      · rfl
      · rfl
      · trivial
  | temporaryInvalidState => trivial
  | _ => exact open'

theorem force_close_stays_open {env : Env} {channel : ChannelInner env.Signer} {bus : Bus}
    (open' : isClosed channel = false) :
    Ensures (fun _ after => isClosed after.1 = false) (fun _ after => isClosed after.1 = false)
      (DemoChannel.forceClose env) (channel, bus) := by
  cases channel with
  | active channel pending => exact rfl
  | temporaryInvalidState => exact True.intro
  | _ => exact open'

/-- A button on the channel. -/
theorem button_does {call : DemoRun.Call} {channel : ChannelInner p.env.Signer}
    (active : before.state = .active h w channel)
    (stays : Ensures (fun _ after => isClosed after.1 = false)
      (fun _ after => isClosed after.1 = false) (call.run p.env) (channel, before.sent)) :
    Ensures (fun _ => Does setup before) (fun _ => Does setup before)
      (onChannel h w channel (call.run p.env)) before := by
  rw [ensures_iff] at stays
  apply ensures_on_channel
  rw [ensures_iff]
  constructor
  · rintro _ ⟨next, sent⟩ ran iface
    exact .called h w channel next sent call _ active ran (by simp) (stays.1 () _ ran)
  · rintro error ⟨next, sent⟩ ran iface
    exact .called h w channel next sent call _ active ran (by simp) (stays.2 error _ ran)

/-- A message for the channel. Only one that is taken can have closed it. -/
theorem forward_does {Msg : Type} {recv : Method p (Option Msg)} {call : Msg → DemoRun.Call}
    {channel : ChannelInner p.env.Signer} (quiet : Quiet before app)
    (active : before.state = .active h w channel) (kept : Kept channel)
    (receives : ∀ (returns : Option Msg → Application p → Prop)
      (fails : DemoApplication.Error p → Application p → Prop),
      (∀ found iface, returns found { app with iface := iface }) →
      (∀ error iface, fails error { app with iface := iface }) → Ensures returns fails recv app) :
    Ensures (fun taken after => Does setup before after ∧ (taken = false → Quiet before after))
      (fun _ => Does setup before) (forwardMessages recv fun msg => (call msg).run p.env) app := by
  simp only [forwardMessages, ensures_bind]
  apply receives
  · rintro found iface
    cases found with
    | none => exact ⟨quiet_does ⟨quiet.state, quiet.sent⟩, fun _ => ⟨quiet.state, quiet.sent⟩⟩
    | some msg =>
        simp only [ensures_bind, ensures_get, quiet.state, active]
        apply ensures_on_channel
        simp only [quiet.sent]
        rw [ensures_iff]
        constructor
        · rintro _ ⟨next, sent⟩ ran iface
          simp only [closeIfClosed, ensures_bind, ensures_get]
          by_cases closed : isClosed next = true
          · rw [if_pos closed]
            cases closed_eq closed
            exact ⟨.closed h w channel sent (call msg) active ran, by simp⟩
          · rw [if_neg closed]
            exact ⟨.called h w channel next sent (call msg) _ active ran (by simp)
              (Bool.eq_false_iff.mpr closed), by simp⟩
        · rintro error ⟨next, sent⟩ ran iface
          rcases DemoRun.call_returns (call msg) before.sent kept.1 with aborts | ⟨_, same⟩ | ⟨_, ok, _⟩
          · rw [ran] at aborts
            cases aborts
          · rw [ran] at same
            cases same
            exact .called h w channel channel before.sent (call msg) _ active ran (by simp) kept.2
          · rw [ran] at ok
            cases ok
  · rintro error iface
    exact quiet_does ⟨quiet.state, quiet.sent⟩

theorem forward_channel_does {channel : ChannelInner p.env.Signer}
    (active : before.state = .active h w channel) (kept : Kept channel) :
    Ensures (fun _ => Does setup before) (fun _ => Does setup before) forwardMessagesToChannel
      before := by
  simp only [forwardMessagesToChannel, ensures_bind]
  have participant := @forward_does p setup before before h w _ tryRecvParticipantMsg
    .participantMsg channel ⟨rfl, rfl⟩ active kept fun _ _ => try_recv_participant_quiet
  apply ensures_mono participant
  · rintro taken after ⟨does, quiet⟩
    cases taken with
    | true => exact does
    | false =>
        have service := @forward_does p setup before after h w _ tryRecvServiceMsg serviceCall
          channel (quiet rfl) active kept fun _ _ => try_recv_service_quiet
        rw [if_neg Bool.false_ne_true, ensures_bind]
        apply ensures_mono service
        · rintro _ last ⟨does, _⟩
          exact does
        · rintro error last does
          exact does
  · rintro error after does
    exact does

/-- Every call that comes back. -/
theorem call_does (call : Call) (open' : Open before.state) :
    Ensures (fun _ => Does setup before) (fun _ => Does setup before) (call.run setup) before := by
  cases call with
  | poll =>
      simp only [Call.run, poll, ensures_bind, ensures_get]
      cases state : before.state with
      | initialState => exact connect_config_dealer_does state
      | connectingToConfigDealer => exact read_config_does state
      | closingSockets h w => exact connections_closed_does state
      | listening h w => exact incomming_connection_does state
      | waitForProposal h w => exact proposal_msg_does state
      | connecting h w => exact send_handshake_does state
      | waitForHandshake h w => exact propose_does state
      | active h w channel =>
          rw [state] at open'
          exact forward_channel_does state open'
  | update amount isFinal =>
      simp only [Call.run, DemoApplication.update, ensures_bind, ensures_get]
      cases state : before.state with
      | active h w channel =>
          rw [state] at open'
          exact @button_does p setup before h w (.update amount isFinal) channel state
            (update_stays_open amount isFinal open'.2)
      | _ => exact quiet_does ⟨rfl, rfl⟩
  | forceClose =>
      simp only [Call.run, DemoApplication.forceClose, ensures_bind, ensures_get]
      cases state : before.state with
      | active h w channel =>
          rw [state] at open'
          exact @button_does p setup before h w .forceClose channel state
            (force_close_stays_open open'.2)
      | _ => exact quiet_does ⟨rfl, rfl⟩
  | proposeChannel =>
      simp only [Call.run, DemoApplication.proposeChannel, ensures_bind, ensures_get]
      cases state : before.state with
      | listening h w => exact connect_does state
      | _ => exact quiet_does ⟨rfl, rfl⟩

end Methods

end Perun.ApplicationRun
