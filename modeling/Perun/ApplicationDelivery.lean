import Perun.ApplicationRun

/-! Calls that succeed: as long as the codecs can write every message and the sockets take
it, a message that a channel accepts makes the application take the step of the channel. -/
namespace Perun.ApplicationDelivery
open AbiTypes Payment Messages MessageBus Opening Encoding DemoApplication ApplicationRun
open Wire hiding Bytes
open DemoChannel (ChannelInner)

/-- Everything can be sent. -/
structure Takes (p : Platform) : Prop where
  envelope : ∀ msg, ∃ bytes, DemoStream.encode p.envelope msg = .ok bytes
  message : ∀ msg, ∃ bytes, DemoStream.encode p.message msg = .ok bytes
  sendSlice : ∀ msg socket, ∃ after, p.tcp.sendSlice msg socket = (.ok msg.length, after)

section Sending
variable {p : Platform} {ε : Type} (takes : Takes p)
include takes

theorem bus_send_takes (handle : SocketHandle) (msg : List UInt8) (iface : Interface p) :
    ∃ after, (busSend handle msg iface : Outcome ε Unit × Interface p) = (.ok (), after) := by
  obtain ⟨socket, sent⟩ := takes.sendSlice msg (iface.getSocket handle)
  refine ⟨iface.setSocket socket handle, ?_⟩
  simp only [busSend, sent, if_pos]

theorem send_msg_takes (msg : Sent) (iface : Interface p) :
    ∃ after, (sendMsg msg iface : Outcome ε Unit × Interface p) = (.ok (), after) := by
  cases msg with
  | toWatcher msg =>
      obtain ⟨wire, written⟩ := watcher_msg_written p.env.build p.env.keccak256 msg
      obtain ⟨bytes, encoded⟩ := takes.message ⟨some wire⟩
      obtain ⟨after, sent⟩ := @bus_send_takes p ε takes .service bytes iface
      refine ⟨after, ?_⟩
      simp only [sendMsg, written, encoded, Outcome.unwrapErr_ok, Op.bind_run, Op.lift_run, sent]
  | toFunder msg =>
      obtain ⟨wire, written⟩ := funder_msg_written p.env.build p.env.keccak256 msg
      obtain ⟨bytes, encoded⟩ := takes.message ⟨some wire⟩
      obtain ⟨after, sent⟩ := @bus_send_takes p ε takes .service bytes iface
      refine ⟨after, ?_⟩
      simp only [sendMsg, written, encoded, Outcome.unwrapErr_ok, Op.bind_run, Op.lift_run, sent]
  | toParticipant sender recipient msg =>
      obtain ⟨bytes, encoded⟩ :=
        takes.envelope ⟨sender, recipient, some (participantMsgToWire msg)⟩
      obtain ⟨after, sent⟩ := @bus_send_takes p ε takes .participant bytes iface
      refine ⟨after, ?_⟩
      simp only [sendMsg, encoded, Outcome.unwrapErr_ok, Op.bind_run, Op.lift_run, sent]

theorem send_each_takes (sent : List Sent) (iface : Interface p) :
    ∃ after, (sendEach sent iface : Outcome ε Unit × Interface p) = (.ok (), after) := by
  induction sent generalizing iface with
  | nil => exact ⟨iface, rfl⟩
  | cons msg rest ih =>
      obtain ⟨middle, first⟩ := @send_msg_takes p ε takes msg iface
      obtain ⟨after, later⟩ := ih middle
      exact ⟨after, by simp only [sendEach, Op.bind_run, first, later]⟩

theorem transmit_takes {α : Type} (result : Outcome (DemoApplication.Error p) α) (sent : Bus)
    (app : Application p) :
    ∃ iface, transmit result sent app = (result, { app with iface := iface, sent := sent }) := by
  obtain ⟨iface, each⟩ := @send_each_takes p Empty takes (sent.drop app.sent.length) app.iface
  exact ⟨iface, by simp only [transmit, each]⟩

end Sending

/-! What is received. -/
section Receiving
variable {p : Platform} {app : Application p} {socket : p.tcp.Socket}

theorem on_socket_ok {ε α : Type} {handle : SocketHandle} {convert : ε → DemoApplication.Error p}
    {step : Op ε p.tcp.Socket α} {value : α}
    (ran : step (app.iface.getSocket handle) = (.ok value, socket)) :
    onSocket handle convert step app =
      (.ok value, { app with iface := app.iface.setSocket socket handle }) := by
  simp only [onSocket, ran, Outcome.mapErr_ok]

/-- A call that returns comes from a method of the socket that does. -/
theorem on_socket_returned {ε α : Type} {handle : SocketHandle}
    {convert : ε → DemoApplication.Error p}
    {step : Op ε p.tcp.Socket α} {value : α} {after : Application p}
    (ran : onSocket handle convert step app = (.ok value, after)) :
    ∃ socket, step (app.iface.getSocket handle) = (.ok value, socket) := by
  obtain ⟨result, _⟩ := Prod.mk.inj ran
  rcases returned : step (app.iface.getSocket handle) with ⟨answer, socket⟩
  rw [returned] at result
  have same : answer = .ok value := Outcome.mapErr_eq_ok.mp result
  exact ⟨socket, by rw [same]⟩

theorem participant_received {sender recipient : Identity} {wire : perunwire.envelope.Msg}
    {msg : ParticipantMessage}
    (ran : DemoStream.tryRecv p.envelope p.tcp.toTcpSocket app.iface.participant =
      (.ok (some ⟨sender, recipient, some wire⟩), socket))
    (read : participantMsgFromWire wire = .ok msg) :
    (tryRecvParticipantMsg : Method p _) app =
      (.ok (some msg), { app with iface := app.iface.setSocket socket .participant }) := by
  have envelope : (tryRecvEnvelope : Method p _) app = _ := on_socket_ok ran
  simp only [tryRecvParticipantMsg, Op.bind_run, envelope, read, Outcome.mapErr_ok, Op.lift_run,
    Op.pure_run]

theorem participant_silent
    (ran : DemoStream.tryRecv p.envelope p.tcp.toTcpSocket app.iface.participant =
      (.ok none, socket)) :
    (tryRecvParticipantMsg : Method p _) app =
      (.ok none, { app with iface := app.iface.setSocket socket .participant }) := by
  have envelope : (tryRecvEnvelope : Method p _) app = _ := on_socket_ok ran
  simp only [tryRecvParticipantMsg, Op.bind_run, envelope, Op.pure_run]

theorem service_received {wire : perunwire.message.Msg} {msg : ServiceReplyMessage}
    (ran : DemoStream.tryRecv p.message p.tcp.toTcpSocket app.iface.service =
      (.ok (some ⟨some wire⟩), socket))
    (read : serviceMsgFromWire wire = .ok msg) :
    (tryRecvServiceMsg : Method p _) app =
      (.ok (some msg), { app with iface := app.iface.setSocket socket .service }) := by
  have message : (tryRecvMessage : Method p _) app = _ := on_socket_ok ran
  simp only [tryRecvServiceMsg, Op.bind_run, message, read, Outcome.mapErr_ok, Op.lift_run,
    Op.pure_run]

end Receiving

section Steps
variable {p : Platform} {setup : Setup p} {app : Application p} {h w : Address}
  {channel next : ChannelInner p.env.Signer} {iface : Interface p} {sent : Bus}

theorem on_channel_takes (takes : Takes p) {method : DemoChannel.Method p.env}
    (ran : method (channel, app.sent) = (.ok (), (next, sent))) :
    ∃ iface, onChannel h w channel method app =
      (.ok (), { app with state := .active h w next, iface := iface, sent := sent }) := by
  obtain ⟨iface, took⟩ := transmit_takes takes (.ok ()) sent { app with state := .active h w next }
  exact ⟨iface, by simp only [onChannel, ran, Outcome.mapErr_ok, took]⟩

/-- A message that the channel accepts and that does not close it. -/
theorem forward_takes (takes : Takes p) {Msg : Type} {recv : Method p (Option Msg)} {msg : Msg}
    {process : Msg → DemoChannel.Method p.env} (active : app.state = .active h w channel)
    (received : recv app = (.ok (some msg), { app with iface := iface }))
    (ran : process msg (channel, app.sent) = (.ok (), (next, sent)))
    (stillOpen : isClosed next = false) :
    ∃ iface, forwardMessages recv process app =
      (.ok true, { app with state := .active h w next, iface := iface, sent := sent }) := by
  rcases app with ⟨state, before, rng, bus⟩
  dsimp only at active received ran ⊢
  subst active
  obtain ⟨after, took⟩ := @on_channel_takes p ⟨.active h w channel, iface, rng, bus⟩ h w channel
    next sent takes (process msg) ran
  refine ⟨after, ?_⟩
  simp only [forwardMessages, Op.bind_run, received, Op.get_run, took, closeIfClosed,
    stillOpen, Bool.false_eq_true, if_false, Op.pure_run]

theorem forward_nothing {Msg : Type} {recv : Method p (Option Msg)}
    {process : Msg → DemoChannel.Method p.env} (received : recv app = (.ok none, app)) :
    forwardMessages recv process app = (.ok false, app) := by
  simp only [forwardMessages, Op.bind_run, received, Op.pure_run]

theorem participant_step (takes : Takes p) {msg : ParticipantMessage}
    (active : app.state = .active h w channel)
    (received : (tryRecvParticipantMsg : Method p _) app =
      (.ok (some msg), { app with iface := iface }))
    (ran : DemoChannel.processParticipantMsg p.env msg (channel, app.sent) =
      (.ok (), (next, sent)))
    (stillOpen : isClosed next = false) :
    ∃ iface, Step setup app
      { app with state := .active h w next, iface := iface, sent := sent } := by
  obtain ⟨after, forwarded⟩ := forward_takes takes active received ran stillOpen
  refine ⟨after, .call .poll _ _ (.ok ()) ?_ (by simp)⟩
  simp only [Call.run, poll, Op.bind_run, Op.get_run, active, forwardMessagesToChannel, forwarded,
    if_true, Op.pure_run]

/-- The services are heard when there is nothing from the participant. -/
theorem service_step (takes : Takes p) {msg : ServiceReplyMessage}
    (active : app.state = .active h w channel)
    (silent : (tryRecvParticipantMsg : Method p _) app = (.ok none, app))
    (received : (tryRecvServiceMsg : Method p _) app =
      (.ok (some msg), { app with iface := iface }))
    (ran : (serviceCall msg).run p.env (channel, app.sent) = (.ok (), (next, sent)))
    (stillOpen : isClosed next = false) :
    ∃ iface, Step setup app
      { app with state := .active h w next, iface := iface, sent := sent } := by
  obtain ⟨after, forwarded⟩ := @forward_takes p app h w channel next iface sent takes _ _ msg
    (fun msg => (serviceCall msg).run p.env) active received ran stillOpen
  refine ⟨after, .call .poll _ _ (.ok ()) ?_ (by simp)⟩
  simp only [Call.run, poll, Op.bind_run, Op.get_run, active, forwardMessagesToChannel,
    forward_nothing silent, forwarded, Bool.false_eq_true, if_false, Op.pure_run]

end Steps

/-! A platform whose sockets are lists of bytes, and a run on it that opens a channel and
closes it by force. -/
section Plain

def plainTcp : Smoltcp where
  toTcpSocket := DemoStream.plainSocket
  IpAddress := Unit
  unspecified := ()
  connect _ _ := fun socket => (.ok (), socket)
  listen _ := fun socket => (.ok (), socket)
  sendSlice msg := fun socket => (.ok msg.length, socket)
  close _ := ([] : Bytes)
  abort _ := ([] : Bytes)
  isActive (socket : Bytes) := !socket.isEmpty
  isOpen _ := true
  isListening _ := true
  mayRecv _ := true
  maySend _ := true
  canRecv _ := true

def plainRand : Rand where
  StdRng := Unit
  gen rng := (Vector.replicate 32 1, rng)
  nextU32 rng := (0, rng)

def plainParticipants : Vector Identity 2 := Vector.ofFn fun i => [UInt8.ofNat i]

def plainClient : PerunClient plainEnv.Signer := ⟨⟨Vector.replicate 20 1⟩⟩

def plainHolder : Address := ⟨Vector.replicate 20 7⟩

def plainOther : Address := ⟨Vector.replicate 20 2⟩

def plainAcc : LedgerChannelProposalAcc :=
  ⟨⟨Vector.replicate 32 1⟩, ⟨Vector.replicate 32 2⟩, plainOther⟩

/-- What the application proposes. -/
def plainOpening : LedgerChannelProposal where
  proposalId := ⟨Vector.replicate 32 1⟩
  challengeDuration := 25
  nonceShare := ⟨Vector.replicate 32 1⟩
  initBals := ⟨Vector.replicate 1 ⟨plainHolder⟩, Vector.replicate 1 (Vector.replicate 2 100000)⟩
  fundingAgreement := Vector.replicate 1 (Vector.replicate 2 100000)
  participant := plainClient.signer
  peers := plainParticipants.toList

def plainState : State 1 2 := agreedState plainEnv plainOpening plainAcc

def plainSignature : LedgerChannelUpdateAccepted :=
  ⟨plainState.id, 0, plainSign plainOther (Active.stateHash plainEnv plainState)⟩

/-- Three envelopes and two messages that are numbered. -/
def plainEnvelopes : Bytes → ParticipantMessage
  | [2] => .proposalAccepted plainAcc
  | [3] => .channelUpdateAccepted plainSignature
  | _ => .auth

def plainMessages : Bytes → perunwire.message.Msg
  | [1] => .fundResp
  | _ => .watchResponse ⟨(Vector.replicate 32 0).toList, 0, true⟩

def plainCodec {Msg : Type} (read : Bytes → Msg) : DemoStream.Prost Msg Msg where
  EncodeError := Empty
  DecodeError := Empty
  encodedLen _ := 0
  encode _ := .ok []
  decode payload := .ok (read payload)

def plainPlatform : Platform where
  env := plainEnv
  tcp := plainTcp
  rand := plainRand
  envelope := plainCodec fun payload => ⟨[], [], some (participantMsgToWire (plainEnvelopes payload))⟩
  message := plainCodec fun payload => ⟨some (plainMessages payload)⟩

def plainSetup : Setup plainPlatform :=
  ⟨⟨((), 1), ((), 2), ((), 3), 4, plainParticipants⟩, plainClient, plainClient.signer⟩

theorem plain_takes : Takes plainPlatform where
  envelope _ := ⟨_, rfl⟩
  message _ := ⟨_, rfl⟩
  sendSlice _ socket := ⟨socket, rfl⟩

def plainIdle : Interface plainPlatform := ⟨([] : Bytes), ([] : Bytes)⟩

/-- What arrives from the participant. -/
def plainFrom (payload : Bytes) : Interface plainPlatform := ⟨payload, ([] : Bytes)⟩

/-- What arrives from the services. -/
def plainService (payload : Bytes) : Interface plainPlatform := ⟨([] : Bytes), payload⟩

def plainApplication (state : ApplicationState plainEnv.Signer) (iface : Interface plainPlatform)
    (sent : Bus) : Application plainPlatform := ⟨state, iface, (), sent⟩

def plainInner (inner : ChannelInner plainEnv.Signer) (iface : Interface plainPlatform)
    (sent : Bus) : Application plainPlatform :=
  plainApplication (.active plainHolder plainHolder inner) iface sent

def plainProposed : ProposedChannel plainEnv.Signer :=
  ProposedChannel.create plainClient 0 plainHolder plainOpening

def plainParams : Params 2 := agreedParams plainEnv plainOpening plainAcc

def plainOwn : Signature := plainSign plainClient.signer (Active.stateHash plainEnv plainState)

def plainAgreed : AgreedUponChannel plainEnv.Signer :=
  ⟨0, plainHolder, plainClient, plainOpening.fundingAgreement, plainState, plainParams,
    #v[some plainOwn, none], plainOpening.peers⟩

def plainActive : Active.ActiveChannel plainEnv.Signer :=
  ⟨0, plainHolder, plainClient, plainState, plainParams, #v[plainOwn, plainSignature.sig],
    plainOpening.peers⟩

theorem plain_step {call : Call} {before after : Application plainPlatform}
    (ran : call.run plainSetup before = (.ok (), after)) : Step plainSetup before after :=
  .call call before after (.ok ()) ran (by simp)

theorem plain_proposes : ∃ iface sent,
    Runs plainSetup (start plainIdle ()) (plainInner (.proposed plainProposed) iface sent) := by
  have dials : Runs plainSetup (start plainIdle ())
      (plainApplication .connectingToConfigDealer plainIdle []) :=
    .single (@plain_step .poll _ _ rfl)
  have configured := (dials.tail (.network _ (plainFrom (List.replicate 40 7)))).tail
    (@plain_step .poll _
      (plainApplication (.closingSockets plainHolder plainHolder) plainIdle []) rfl)
  have listens := configured.tail (@plain_step .poll _
    (plainApplication (.listening plainHolder plainHolder) plainIdle []) rfl)
  have connects := listens.tail (@plain_step .proposeChannel _
    (plainApplication (.connecting plainHolder plainHolder) plainIdle []) rfl)
  have greets := (connects.tail (.network _ (plainFrom [9]))).tail (@plain_step .poll _
    (plainApplication (.waitForHandshake plainHolder plainHolder) (plainFrom [9])
      [.toParticipant [0] [1] .auth]) rfl)
  exact ⟨_, _, (greets.tail (.network _ (plainFrom [0, 1, 1]))).tail (@plain_step .poll _ _ rfl)⟩

section Arrivals
variable {before : Application plainPlatform} {inner next : ChannelInner plainEnv.Signer}
  {iface : Interface plainPlatform} {sent after : Bus}

theorem plain_receives (payload : UInt8)
    (runs : Runs plainSetup before (plainInner inner iface sent))
    (read : participantMsgFromWire (participantMsgToWire (plainEnvelopes [payload])) =
      .ok (plainEnvelopes [payload]))
    (ran : DemoChannel.processParticipantMsg plainEnv (plainEnvelopes [payload]) (inner, sent) =
      (.ok (), (next, after)))
    (stillOpen : isClosed next = false) :
    ∃ iface, Runs plainSetup before (plainInner next iface after) := by
  have received := @participant_received plainPlatform
    (plainInner inner (plainFrom [0, 1, payload]) sent) _ _ _ _ _ rfl read
  obtain ⟨iface, step⟩ := @participant_step plainPlatform plainSetup _ _ _ _ _ _ _ plain_takes _
    rfl received ran stillOpen
  exact ⟨iface, (runs.tail (.network _ _)).tail step⟩

theorem plain_replies (payload : UInt8) (msg : ServiceReplyMessage)
    (runs : Runs plainSetup before (plainInner inner iface sent))
    (read : serviceMsgFromWire (plainMessages [payload]) = .ok msg)
    (ran : (serviceCall msg).run plainEnv (inner, sent) = (.ok (), (next, after)))
    (stillOpen : isClosed next = false) :
    ∃ iface, Runs plainSetup before (plainInner next iface after) := by
  have received := @service_received plainPlatform
    (plainInner inner (plainService [0, 1, payload]) sent) _ _ _ rfl read
  obtain ⟨iface, step⟩ := @service_step plainPlatform plainSetup _ _ _ _ _ _ _ plain_takes _
    rfl rfl received ran stillOpen
  exact ⟨iface, (runs.tail (.network _ _)).tail step⟩

end Arrivals

theorem plain_opens : ∃ iface sent,
    Runs plainSetup (start plainIdle ()) (plainInner (.active plainActive none) iface sent) := by
  obtain ⟨_, sent, proposes⟩ := plain_proposes
  obtain ⟨_, agrees⟩ := @plain_receives _ _ (.agreedUpon plainAgreed) _ _ _ 2 proposes
    (by simp [plainEnvelopes, participantMsgToWire, participantMsgFromWire,
      WireForms.proposal_acc_round_trip])
    (DemoChannel.proposal_accepted_returns (answer_run _ _)
      (proposed_build_ok.mpr ⟨plainAcc, rfl, rfl⟩)
      (sign_ok.mpr ⟨rfl, plainOwn, [0], rfl, rfl, rfl⟩)) rfl
  have added : AgreedUponChannel.addSignature plainEnv plainSignature plainAgreed =
      (.ok (), { plainAgreed with signatures := #v[some plainOwn, some plainSignature.sig] }) :=
    add_signature_ok.mpr ⟨rfl, rfl, plainOther, 1, plain_recover _ _, by decide, rfl, rfl⟩
  obtain ⟨_, signs⟩ := @plain_receives _ _ (.signed ⟨plainActive⟩ false false) _ _ _ 3 agrees
    (by simp [plainEnvelopes, participantMsgToWire, participantMsgFromWire,
      WireForms.update_accepted_round_trip])
    (DemoChannel.initial_signed_returns added (agreed_build_ok.mpr
      ⟨fun _ => Nat.zero_lt_two, #v[plainOwn, plainSignature.sig], rfl, rfl, rfl⟩)) rfl
  obtain ⟨_, funds⟩ := plain_replies 1 (.funder (.funded ⟨Vector.replicate 32 0⟩)) signs rfl rfl rfl
  have acknowledges : serviceMsgFromWire (plainMessages [2]) =
      .ok (.watcher (.ack ⟨Vector.replicate 32 0⟩ 0)) := by
    have second : plainMessages [2] =
        .watchResponse ⟨(Vector.replicate 32 0).toList, 0, true⟩ := rfl
    simp only [second, serviceMsgFromWire, hashFromWire, WireRoundTrip.to_array_to_list,
      Outcome.unwrapErr_ok, Outcome.ok_bind]
  obtain ⟨iface, watches⟩ := plain_replies 2 _ funds acknowledges rfl rfl
  exact ⟨iface, _, watches⟩

/-- The last thing that is sent is the registration. -/
theorem plain_registers : ∃ iface sent,
    Runs plainSetup (start plainIdle ()) (plainInner .forceClosing iface
      (sent ++ [.toFunder (.registerReq ⟨plainActive.adjudicatorReq⟩)])) := by
  obtain ⟨iface, sent, opens⟩ := plain_opens
  obtain ⟨after, forced⟩ := @on_channel_takes plainPlatform
    (plainInner (.active plainActive none) iface sent) plainHolder plainHolder
    (.active plainActive none) .forceClosing
    (sent ++ [.toFunder (.registerReq ⟨plainActive.adjudicatorReq⟩)]) plain_takes
    (DemoChannel.forceClose plainEnv) rfl
  exact ⟨after, sent, opens.tail (@plain_step .forceClose _ _ forced)⟩

end Plain

end Perun.ApplicationDelivery
