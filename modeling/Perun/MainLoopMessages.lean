import Perun.ApplicationStream
import Perun.MainLoop

/-! The messages that the main loop survives. A poll that fails aborts it, so it is the
participant at the other end who decides how long the device runs. -/
namespace Perun.MainLoopMessages
open AbiTypes Payment Messages MessageBus DemoApplication ApplicationRun Framing MainLoop
open DemoChannel (ChannelInner)
open DemoStream (Fifo Sized maxMessageSize frame)
open ApplicationStream (heard)
open BigEndian (bigEndian ofBigEndian bigEndian_ofBigEndian)
open Outcome (Screened screened_err screened_map screened_mapErr)
open Encoding (participantMsgScreen serviceMsgScreen)

/-! What arrives from the participant. -/
section Arrivals
variable {p : Platform} {setup : Setup p} {app : Application p}
  {contents : p.tcp.Socket → List UInt8}

/-- The poll of this state reads from the socket of the participant. -/
def Hears (app : Application p) : Prop :=
  match app.state with
  | .listening _ _ =>
      p.tcp.isOpen app.iface.participant = true ∧ p.tcp.mayRecv app.iface.participant = true
  | .waitForProposal _ _ => p.tcp.isOpen app.iface.service = true
  | .waitForHandshake _ _ => True
  | .active _ _ _ => True
  | _ => False

/-- A poll that returns `Ok` has not failed to read. -/
theorem polled_reads (hears : Hears app) {after : Application p}
    (polled : DemoApplication.poll setup app = (.ok (), after)) :
    ∃ received socket, DemoStream.tryRecv p.envelope p.tcp.toTcpSocket app.iface.participant =
      (.ok received, socket) := by
  have envelope (received : Option ParticipantMessage) (next : Application p)
      (read : (tryRecvParticipantMsg : DemoApplication.Method p _) app = (.ok received, next)) :
      ∃ found middle, (tryRecvEnvelope : DemoApplication.Method p _) app = (.ok found, middle) := by
    obtain ⟨found, middle, envelope, _⟩ := Op.bind_eq_ok.mp read
    exact ⟨found, middle, envelope⟩
  have reads : ∃ found middle,
      (tryRecvEnvelope : DemoApplication.Method p _) app = (.ok found, middle) := by
    unfold Hears at hears
    cases state : app.state with
    | listening h w =>
        simp only [state] at hears
        simp only [DemoApplication.poll, Op.bind_run, Op.get_run, state, checkIncommingConnection,
          hears.1, hears.2, Bool.not_true, Bool.or_self, Bool.false_eq_true, if_false] at polled
        obtain ⟨found, middle, read, _⟩ := Op.bind_eq_ok.mp polled
        exact ⟨found, middle, read⟩
    | waitForProposal h w =>
        simp only [state] at hears
        simp only [DemoApplication.poll, Op.bind_run, Op.get_run, state,
          waitConnectedAndProposalMsg, hears, Bool.not_true, Bool.false_eq_true, if_false] at polled
        obtain ⟨received, next, read, _⟩ := Op.bind_eq_ok.mp polled
        exact envelope received next read
    | waitForHandshake h w =>
        simp only [DemoApplication.poll, Op.bind_run, Op.get_run, state,
          waitHandshakeAndProposeChannel] at polled
        obtain ⟨received, next, read, _⟩ := Op.bind_eq_ok.mp polled
        exact envelope received next read
    | active h w channel =>
        simp only [DemoApplication.poll, Op.bind_run, Op.get_run, state] at polled
        obtain ⟨_, _, forwarded, _⟩ := Op.bind_eq_ok.mp polled
        obtain ⟨received, next, read, _⟩ := Op.bind_eq_ok.mp forwarded
        exact envelope received next read
    | _ => simp only [state] at hears
  obtain ⟨found, middle, read⟩ := reads
  exact ⟨found, ApplicationDelivery.on_socket_returned read⟩

/-- What a method returns is returned, and everything new went through the sockets. -/
theorem transmit_ok {α : Type} {result : Outcome (DemoApplication.Error p) α} {sent : Bus}
    {value : α} {after : Application p} (ran : transmit result sent app = (.ok value, after)) :
    result = .ok value ∧ ∃ iface, after = { app with iface := iface, sent := sent } ∧
      (sendEach (sent.drop app.sent.length) app.iface : Outcome Empty Unit × Interface p) =
        (.ok (), iface) := by
  unfold transmit at ran
  rcases each : (sendEach (sent.drop app.sent.length) app.iface : Outcome Empty Unit × Interface p)
    with ⟨_ | _ | _, iface⟩
  · rw [each] at ran
    obtain ⟨returned, same⟩ := Prod.mk.inj ran
    exact ⟨returned, iface, same.symm, rfl⟩
  · rw [each] at ran
    cases ran
  · rw [each] at ran
    cases ran

theorem on_channel_ok {h w : Address} {channel : ChannelInner p.env.Signer}
    {method : DemoChannel.Method p.env} {after : Application p}
    (ran : onChannel h w channel method app = (.ok (), after)) :
    ∃ next sent iface, method (channel, app.sent) = (.ok (), (next, sent)) ∧
      after = { app with state := .active h w next, iface := iface, sent := sent } ∧
      (sendEach (sent.drop app.sent.length) app.iface : Outcome Empty Unit × Interface p) =
        (.ok (), iface) := by
  obtain ⟨returned, iface, same, each⟩ := transmit_ok ran
  rcases called : method (channel, app.sent) with ⟨result, next, sent⟩
  rw [called] at returned same each
  cases Outcome.mapErr_eq_ok.mp returned
  exact ⟨next, sent, iface, rfl, same, each⟩

/-- The channel takes a message, and all that it sends goes through the sockets. -/
def Takes {Msg : Type} (process : Msg → DemoChannel.Method p.env)
    (channel : ChannelInner p.env.Signer) (msg : Msg) (app : Application p) : Prop :=
  ∃ next sent iface, process msg (channel, app.sent) = (.ok (), (next, sent)) ∧
    (sendEach (sent.drop app.sent.length) app.iface : Outcome Empty Unit × Interface p) =
      (.ok (), iface)

/-- A message for the channel that did not make the call fail is one that the channel takes. -/
theorem forward_accepted {Msg : Type} {recv : DemoApplication.Method p (Option Msg)}
    {process : Msg → DemoChannel.Method p.env} {result : Outcome (DemoApplication.Error p) Msg}
    {middle after : Application p} {h w : Address} {channel : ChannelInner p.env.Signer}
    {taken : Bool}
    (active : middle.state = .active h w channel)
    (read : recv app = (result >>= fun msg => .ok (some msg), middle))
    (ran : forwardMessages recv process app = (.ok taken, after)) :
    taken = true ∧ ∃ msg, result = .ok msg ∧ Takes process channel msg middle := by
  simp only [forwardMessages, Op.bind_run, read] at ran
  rcases result with msg | error | _
  · simp only [Outcome.ok_bind, Op.bind_run, Op.get_run, active] at ran
    rcases called : onChannel h w channel (process msg) middle with ⟨_ | error | _, next⟩
    · obtain ⟨next, sent, iface, processed, _, each⟩ := on_channel_ok called
      obtain ⟨_, _, _, returned⟩ := Op.bind_eq_ok.mp (by rw [called] at ran; exact ran)
      cases returned
      exact ⟨rfl, msg, rfl, next, sent, iface, processed, each⟩
    · rw [called] at ran
      cases ran
    · rw [called] at ran
      cases ran
  · cases ran
  · cases ran

theorem accepted_forward {Msg : Type}
    {recv : DemoApplication.Method p (Option Msg)} {process : Msg → DemoChannel.Method p.env}
    {msg : Msg} {middle : Application p} {h w : Address} {channel : ChannelInner p.env.Signer}
    (active : middle.state = .active h w channel) (read : recv app = (.ok (some msg), middle))
    (takes : Takes process channel msg middle) :
    ∃ after, forwardMessages recv process app = (.ok true, after) := by
  obtain ⟨next, sent, iface, processed, each⟩ := takes
  have called : onChannel h w channel (process msg) middle = (.ok (),
      { middle with state := .active h w next, iface := iface, sent := sent }) := by
    simp only [onChannel, processed, transmit, each]
    rfl
  simp only [forwardMessages, Op.bind_run, Op.get_run, read, active, called, closeIfClosed]
  cases isClosed next <;> exact ⟨_, rfl⟩

variable {payload later : List UInt8} (fifo : Fifo p.tcp.toTcpSocket contents (maxMessageSize + 2))
  (fits : payload.length ≤ maxMessageSize)
  (readable : DemoStream.Readable p.envelope contents app.iface.participant)
  (held : contents app.iface.participant = frame payload ++ later)
include fifo fits readable held

theorem envelope_read : ∃ after, (tryRecvEnvelope : DemoApplication.Method p _) app =
    ((DemoStream.decoded p.envelope p.tcp.toTcpSocket payload).mapErr (receiveError .inl) >>=
      fun msg => .ok (some msg), after) ∧ after.state = app.state ∧ after.sent = app.sent := by
  obtain ⟨socket, ran⟩ :=
    @DemoStream.try_recv_held _ _ p.envelope _ _ fifo _ _ _ fits readable held
  refine ⟨{ app with iface := app.iface.setSocket socket .participant }, ?_, rfl, rfl⟩
  simp only [tryRecvEnvelope, onSocket, Interface.getSocket, ran]
  cases DemoStream.decoded p.envelope p.tcp.toTcpSocket payload <;> rfl

theorem participant_read : ∃ after, (tryRecvParticipantMsg : DemoApplication.Method p _) app =
    (heard p payload >>= fun msg => .ok (some msg), after) ∧
      after.state = app.state ∧ after.sent = app.sent := by
  obtain ⟨after, read, same⟩ := envelope_read fifo fits readable held
  refine ⟨after, ?_, same⟩
  simp only [tryRecvParticipantMsg, Op.bind_run, read, heard, ApplicationStream.readEnvelope]
  rcases DemoStream.decoded p.envelope p.tcp.toTcpSocket payload with
    ⟨sender, recipient, _ | msg⟩ | error | _
  · rfl
  · simp only [Outcome.mapErr_ok, Outcome.ok_bind, ApplicationStream.openEnvelope, Op.bind_run,
      Op.lift_run]
    cases Encoding.participantMsgFromWire msg <;> rfl
  · rfl
  · rfl

end Arrivals

/-! One poll with a channel, which also reads from the services. -/
section Polls
variable {p : Platform} {setup : Setup p} {contents : p.tcp.Socket → List UInt8}
  {app : Application p}

def openMessage : Wire.perunwire.Message →
    Outcome (DemoApplication.Error p) Encoding.ServiceReplyMessage
  | ⟨none⟩ => .err .envelopeHasNoMsg
  | ⟨some msg⟩ => (Encoding.serviceMsgFromWire msg).mapErr .conversionError

/-- What the payload of a frame of the services is taken for. -/
def replied (p : Platform) (payload : List UInt8) :
    Outcome (DemoApplication.Error p) Encoding.ServiceReplyMessage :=
  (DemoStream.decoded p.message p.tcp.toTcpSocket payload).mapErr (receiveError .inr) >>=
    openMessage

/-- The message at the front is not complete, or there is none. -/
def Short (bytes : List UInt8) : Prop :=
  bytes.length < 2 ∨ ∃ header rest, bytes = header ++ rest ∧ header.length = 2 ∧
    ofBigEndian header ≤ maxMessageSize ∧ rest.length < ofBigEndian header

/-- More is announced than the socket can hold. -/
def Large (bytes : List UInt8) : Prop :=
  ∃ header rest, bytes = header ++ rest ∧ header.length = 2 ∧ maxMessageSize < ofBigEndian header

/-- The message at the front is complete. -/
def Whole (bytes payload : List UInt8) : Prop :=
  payload.length ≤ maxMessageSize ∧ ∃ later, bytes = frame payload ++ later

theorem front_cases (bytes : List UInt8) :
    Short bytes ∨ Large bytes ∨ ∃ payload, Whole bytes payload := by
  by_cases few : bytes.length < 2
  · exact Or.inl (Or.inl few)
  · have two : (bytes.take 2).length = 2 := by
      rw [List.length_take]
      omega
    have split : bytes = bytes.take 2 ++ bytes.drop 2 := (List.take_append_drop 2 bytes).symm
    by_cases large : maxMessageSize < ofBigEndian (bytes.take 2)
    · exact Or.inr (Or.inl ⟨_, _, split, two, large⟩)
    · have fits := Nat.le_of_not_lt large
      by_cases missing : (bytes.drop 2).length < ofBigEndian (bytes.take 2)
      · exact Or.inl (Or.inr ⟨_, _, split, two, fits, missing⟩)
      · have length : ((bytes.drop 2).take (ofBigEndian (bytes.take 2))).length =
            ofBigEndian (bytes.take 2) := by
          rw [List.length_take]
          omega
        have header : bigEndian 2 (ofBigEndian (bytes.take 2)) = bytes.take 2 := by
          have back := bigEndian_ofBigEndian (bytes.take 2)
          rw [two] at back
          exact back
        refine Or.inr (Or.inr ⟨_, length.trans_le fits,
          (bytes.drop 2).drop (ofBigEndian (bytes.take 2)), ?_⟩)
        rw [frame, length, header, List.append_assoc, List.take_append_drop]
        exact split

/-- The message that a poll takes. -/
inductive Arrival where
  | nothing
  | large
  | participant (payload : List UInt8)
  | service (payload : List UInt8)

/-- The services are looked at when there is nothing of the participant. -/
def Finds (contents : p.tcp.Socket → List UInt8) (app : Application p) : Arrival → Prop
  | .nothing => Short (contents app.iface.participant) ∧ Short (contents app.iface.service)
  | .large => Large (contents app.iface.participant) ∨
      Short (contents app.iface.participant) ∧ Large (contents app.iface.service)
  | .participant payload => Whole (contents app.iface.participant) payload
  | .service payload => Short (contents app.iface.participant) ∧
      Whole (contents app.iface.service) payload

theorem some_arrival (contents : p.tcp.Socket → List UInt8) (app : Application p) :
    ∃ arrival, Finds contents app arrival := by
  rcases front_cases (contents app.iface.participant) with short | large | ⟨payload, whole⟩
  · rcases front_cases (contents app.iface.service) with short' | large | ⟨payload, whole⟩
    · exact ⟨.nothing, short, short'⟩
    · exact ⟨.large, Or.inr ⟨short, large⟩⟩
    · exact ⟨.service payload, short, whole⟩
  · exact ⟨.large, Or.inl large⟩
  · exact ⟨.participant payload, whole⟩

/-- The message can be read, and the channel takes it. -/
def Accepts (contents : p.tcp.Socket → List UInt8) (app : Application p)
    (channel : ChannelInner p.env.Signer) : Arrival → Prop
  | .nothing => True
  | .large => False
  | .participant payload => DemoStream.Readable p.envelope contents app.iface.participant ∧
      ∃ msg, heard p payload = .ok msg ∧ Takes (DemoChannel.processParticipantMsg p.env) channel msg
        ((tryRecvParticipantMsg : DemoApplication.Method p _) app).2
  | .service payload => DemoStream.Readable p.message contents app.iface.service ∧
      ∃ msg, replied p payload = .ok msg ∧ Takes (fun msg => (serviceCall msg).run p.env) channel
        msg ((tryRecvServiceMsg : DemoApplication.Method p _) app).2

/-- A read of the services that returns has not failed. -/
theorem service_reads {received : Option Encoding.ServiceReplyMessage} {after : Application p}
    (read : (tryRecvServiceMsg : DemoApplication.Method p _) app = (.ok received, after)) :
    ∃ found socket, DemoStream.tryRecv p.message p.tcp.toTcpSocket app.iface.service =
      (.ok found, socket) := by
  obtain ⟨found, middle, message, _⟩ := Op.bind_eq_ok.mp read
  exact ⟨found, ApplicationDelivery.on_socket_returned message⟩

theorem try_recv_large {Sent Received : Type} {prost : DemoStream.Prost Sent Received}
    (fifo : Fifo p.tcp.toTcpSocket contents (maxMessageSize + 2)) {socket : p.tcp.Socket}
    (large : Large (contents socket)) :
    ∃ error, DemoStream.tryRecv prost p.tcp.toTcpSocket socket = (.err error, socket) := by
  obtain ⟨header, rest, held, two, exceeds⟩ := large
  have front := @DemoStream.try_recv_front _ _ prost _ _ fifo _ _ _ two held
  rw [if_pos exceeds] at front
  exact ⟨_, front⟩

theorem try_recv_short {Sent Received : Type} {prost : DemoStream.Prost Sent Received}
    (fifo : Fifo p.tcp.toTcpSocket contents (maxMessageSize + 2)) {socket : p.tcp.Socket}
    (short : Short (contents socket)) :
    DemoStream.tryRecv prost p.tcp.toTcpSocket socket = (.ok none, socket) := by
  rcases short with few | ⟨header, rest, held, two, fits, missing⟩
  · simp only [DemoStream.tryRecv, Op.bind_run, Op.get_run, fifo.recvQueue, if_pos few, Op.pure_run]
  · rw [@DemoStream.try_recv_front _ _ prost _ _ fifo _ _ _ two held,
      if_neg (Nat.not_lt_of_le fits), if_pos missing]

variable (fifo : Fifo p.tcp.toTcpSocket contents (maxMessageSize + 2))
include fifo

theorem participant_short (short : Short (contents app.iface.participant)) :
    (tryRecvParticipantMsg : DemoApplication.Method p _) app = (.ok none, app) :=
  ApplicationDelivery.participant_silent (try_recv_short fifo short)

theorem service_short (short : Short (contents app.iface.service)) :
    (tryRecvServiceMsg : DemoApplication.Method p _) app = (.ok none, app) := by
  have message : (tryRecvMessage : DemoApplication.Method p _) app = (.ok none, app) :=
    ApplicationDelivery.on_socket_ok (try_recv_short fifo short)
  simp only [tryRecvServiceMsg, Op.bind_run, message, Op.pure_run]

theorem service_read {payload later : List UInt8} (fits : payload.length ≤ maxMessageSize)
    (readable : DemoStream.Readable p.message contents app.iface.service)
    (held : contents app.iface.service = frame payload ++ later) :
    ∃ after, (tryRecvServiceMsg : DemoApplication.Method p _) app =
      (replied p payload >>= fun msg => .ok (some msg), after) ∧
        after.state = app.state ∧ after.sent = app.sent := by
  obtain ⟨socket, ran⟩ :=
    @DemoStream.try_recv_held _ _ p.message _ _ fifo _ _ _ fits readable held
  have message : (tryRecvMessage : DemoApplication.Method p _) app =
      ((DemoStream.decoded p.message p.tcp.toTcpSocket payload).mapErr (receiveError .inr) >>=
        fun msg => .ok (some msg), { app with iface := app.iface.setSocket socket .service }) := by
    simp only [tryRecvMessage, onSocket, Interface.getSocket, ran]
    cases DemoStream.decoded p.message p.tcp.toTcpSocket payload <;> rfl
  refine ⟨{ app with iface := app.iface.setSocket socket .service }, ?_, rfl, rfl⟩
  simp only [tryRecvServiceMsg, Op.bind_run, message, replied]
  rcases DemoStream.decoded p.message p.tcp.toTcpSocket payload with ⟨_ | msg⟩ | error | _
  · rfl
  · simp only [Outcome.mapErr_ok, Outcome.ok_bind, openMessage, Op.bind_run, Op.lift_run]
    cases Encoding.serviceMsgFromWire msg <;> rfl
  · rfl
  · rfl

theorem participant_forwards_nothing (short : Short (contents app.iface.participant)) :
    forwardMessages tryRecvParticipantMsg (DemoChannel.processParticipantMsg p.env) app =
      (.ok false, app) :=
  ApplicationDelivery.forward_nothing (participant_short fifo short)

/-- What makes the poll return `Ok`, in each of the cases. -/
theorem accepted_polls {h w : Address} {channel : ChannelInner p.env.Signer}
    (active : app.state = .active h w channel) {arrival : Arrival}
    (finds : Finds contents app arrival) (accepts : Accepts contents app channel arrival) :
    (DemoApplication.poll setup app).1 = .ok () := by
  simp only [DemoApplication.poll, Op.bind_run, Op.get_run, active, forwardMessagesToChannel]
  cases arrival with
  | nothing =>
      have silent := participant_forwards_nothing fifo finds.1
      have silent' : forwardMessages tryRecvServiceMsg
          (fun msg => (serviceCall msg).run p.env) app = (.ok false, app) :=
        ApplicationDelivery.forward_nothing (service_short fifo finds.2)
      simp only [silent, silent', Bool.false_eq_true, if_false, Op.bind_run, Op.pure_run]
  | large => exact accepts.elim
  | participant payload =>
      obtain ⟨fits, later, held⟩ := finds
      obtain ⟨readable, msg, read, takes⟩ := accepts
      obtain ⟨middle, received, state, _⟩ := participant_read fifo fits readable held
      rw [read, Outcome.ok_bind] at received
      rw [received] at takes
      obtain ⟨after, forwarded⟩ := accepted_forward (state.trans active) received takes
      simp only [forwarded, if_true, Op.pure_run]
  | service payload =>
      obtain ⟨short, fits, later, held⟩ := finds
      obtain ⟨readable, msg, read, takes⟩ := accepts
      have silent := participant_forwards_nothing fifo short
      obtain ⟨middle, received, state, _⟩ := service_read fifo fits readable held
      rw [read, Outcome.ok_bind] at received
      rw [received] at takes
      obtain ⟨after, forwarded⟩ := @accepted_forward p app _ _
        (fun msg => (serviceCall msg).run p.env) msg middle h w channel (state.trans active)
        received takes
      simp only [silent, forwarded, Bool.false_eq_true, if_false, Op.bind_run, Op.pure_run]

theorem polls_accepted {after : Application p} {h w : Address}
    {channel : ChannelInner p.env.Signer} (active : app.state = .active h w channel)
    {arrival : Arrival} (finds : Finds contents app arrival)
    (polled : DemoApplication.poll setup app = (.ok (), after)) :
    Accepts contents app channel arrival := by
  have hears : Hears app := by
    unfold Hears
    rw [active]
    trivial
  -- The poll has read from the participant, and it has gone on to the services if nothing
  -- was there.
  obtain ⟨found, socket, returned⟩ := polled_reads hears polled
  simp only [DemoApplication.poll, Op.bind_run, Op.get_run, active] at polled
  obtain ⟨taken, last, forwarded, polled'⟩ := Op.bind_eq_ok.mp polled
  have services (short : Short (contents app.iface.participant)) :
      ∃ taken last, forwardMessages tryRecvServiceMsg (fun msg => (serviceCall msg).run p.env) app =
        (.ok taken, last) := by
    cases (participant_forwards_nothing fifo short).symm.trans forwarded
    obtain ⟨taken, last, forwarded', _⟩ := Op.bind_eq_ok.mp polled'
    exact ⟨taken, last, forwarded'⟩
  cases arrival with
  | nothing => trivial
  | large =>
      rcases finds with large | ⟨short, large⟩
      · obtain ⟨error, failed⟩ := try_recv_large fifo large
        cases failed.symm.trans returned
      · obtain ⟨_, _, forwarded'⟩ := services short
        obtain ⟨_, _, read, _⟩ := Op.bind_eq_ok.mp forwarded'
        obtain ⟨_, _, returned'⟩ := service_reads read
        obtain ⟨error, failed⟩ := try_recv_large fifo large
        cases failed.symm.trans returned'
  | participant payload =>
      obtain ⟨fits, later, held⟩ := finds
      have readable := DemoStream.returned_readable fifo returned
      obtain ⟨middle, received, state, _⟩ := participant_read fifo fits readable held
      obtain ⟨_, msg, read, takes⟩ := forward_accepted (state.trans active) received forwarded
      have same : ((tryRecvParticipantMsg : DemoApplication.Method p _) app).2 = middle :=
        congrArg Prod.snd received
      rw [← same] at takes
      exact ⟨readable, msg, read, takes⟩
  | service payload =>
      obtain ⟨short, fits, later, held⟩ := finds
      obtain ⟨_, _, forwarded'⟩ := services short
      obtain ⟨_, _, read, _⟩ := Op.bind_eq_ok.mp forwarded'
      obtain ⟨_, _, returned'⟩ := service_reads read
      have readable := DemoStream.returned_readable fifo returned'
      obtain ⟨middle, received, state, _⟩ := service_read fifo fits readable held
      obtain ⟨_, msg, read, takes⟩ := forward_accepted (state.trans active) received forwarded'
      have same : ((tryRecvServiceMsg : DemoApplication.Method p _) app).2 = middle :=
        congrArg Prod.snd received
      rw [← same] at takes
      exact ⟨readable, msg, read, takes⟩

end Polls

/-! Which payloads are read, which are refused, and which abort the reader. -/
section Readers
variable {p : Platform}

def envelopeScreen (p : Platform) (payload : List UInt8) : Screen :=
  match p.envelope.decode payload with
  | .ok ⟨_, _, msg⟩ => Screen.given participantMsgScreen msg
  | .error _ => Screen.check false

def messageScreen (p : Platform) (payload : List UInt8) : Screen :=
  match p.message.decode payload with
  | .ok ⟨msg⟩ => Screen.given serviceMsgScreen msg
  | .error _ => Screen.check false

theorem heard_screened (payload : List UInt8) :
    Screened (heard p payload) (envelopeScreen p payload) := by
  simp only [heard, ApplicationStream.readEnvelope, DemoStream.decoded, envelopeScreen]
  rcases p.envelope.decode payload with error | ⟨sender, recipient, _ | msg⟩
  · exact screened_err _ rfl rfl
  · exact screened_err _ rfl rfl
  · exact screened_mapErr _ (Encoding.participant_msg_screened msg)

theorem replied_screened (payload : List UInt8) :
    Screened (replied p payload) (messageScreen p payload) := by
  simp only [replied, DemoStream.decoded, messageScreen]
  rcases p.message.decode payload with error | ⟨_ | msg⟩
  · exact screened_err _ rfl rfl
  · exact screened_err _ rfl rfl
  · exact screened_mapErr _ (Encoding.service_msg_screened msg)

end Readers

/-! What each state expects. -/
section Expected
variable {p : Platform} {setup : Setup p} {contents : p.tcp.Socket → List UInt8}
  {app : Application p}

/-- The only messages that a state takes. -/
def Expects (contents : p.tcp.Socket → List UInt8) (app : Application p) (payload : List UInt8) :
    Prop :=
  match app.state with
  | .listening _ _ => ∃ sender recipient, DemoStream.decoded p.envelope p.tcp.toTcpSocket payload =
      .ok ⟨sender, recipient, some .authResponseMsg⟩
  | .waitForProposal _ _ => ∃ prop, heard p payload = .ok (.channelProposal prop)
  | .waitForHandshake _ _ => heard p payload = .ok .auth
  | .active _ _ channel => Accepts contents app channel (.participant payload)
  | _ => True

/-- A poll that returned `Ok` on a complete message found one that its state expects. -/
theorem polled_expected (fifo : Fifo p.tcp.toTcpSocket contents (maxMessageSize + 2))
    {payload later : List UInt8} (fits : payload.length ≤ maxMessageSize)
    (held : contents app.iface.participant = frame payload ++ later) {after : Application p}
    (hears : Hears app) (polled : DemoApplication.poll setup app = (.ok (), after)) :
    Expects contents app payload := by
  -- A read that did not fail has also read an empty message.
  obtain ⟨_, _, returned⟩ := polled_reads hears polled
  have readable := DemoStream.returned_readable fifo returned
  obtain ⟨middle, envelope, _⟩ := envelope_read fifo fits readable held
  obtain ⟨_, participant, _⟩ := participant_read fifo fits readable held
  unfold Hears at hears
  unfold Expects
  cases state : app.state with
  | listening h w =>
      simp only [state] at hears
      simp [DemoApplication.poll, Op.bind_run, state, checkIncommingConnection, hears.1, hears.2,
        envelope] at polled
      rcases decoded : DemoStream.decoded p.envelope p.tcp.toTcpSocket payload with
        ⟨sender, recipient, _ | msg⟩ | error | _
      · simp [decoded] at polled
      · cases msg with
        | authResponseMsg => exact ⟨sender, recipient, rfl⟩
        | _ => simp [decoded] at polled
      · simp [decoded] at polled
      · simp [decoded] at polled
  | waitForProposal h w =>
      simp only [state] at hears
      simp [DemoApplication.poll, Op.bind_run, state, waitConnectedAndProposalMsg, hears,
        participant] at polled
      rcases read : heard p payload with msg | error | _
      · cases msg with
        | channelProposal prop => exact ⟨prop, rfl⟩
        | _ => simp [read] at polled
      · simp [read] at polled
      · simp [read] at polled
  | waitForHandshake h w =>
      simp [DemoApplication.poll, Op.bind_run, state, waitHandshakeAndProposeChannel,
        participant] at polled
      rcases read : heard p payload with msg | error | _
      · cases msg with
        | auth => rfl
        | _ => simp [read] at polled
      · simp [read] at polled
      · simp [read] at polled
  | active h w channel =>
      exact @polls_accepted p setup contents app fifo after h w channel state
        (.participant payload) ⟨fits, later, held⟩ polled
  | _ => trivial

end Expected

/-! Two devices that ask each other for an update. -/
section Crossing
variable {p : Platform} {outgoing contents : p.tcp.Socket → List UInt8}
  {before after app : Application p} {setup : Setup p} {added : List UInt8}

/-- An update button on an active channel that has another participant. What it adds to the
stream of the participant is in messages that can be received. -/
inductive Asks (outgoing : p.tcp.Socket → List UInt8) (before after : Application p)
    (added : List UInt8) : Prop
  | asks (h w : Address) (channel : Active.ActiveChannel p.env.Signer)
      (pending : Option Active.ChannelUpdate) (amount : U256) (isFinal : Bool)
      (active : before.state = .active h w (.active channel pending))
      (peers : 2 ≤ channel.peers.length)
      (small : ∀ msg ∈ (after.sent.drop before.sent.length).filterMap ApplicationStream.envelope,
        ∀ payload, p.envelope.encode msg = .ok payload → Sized payload)
      (ran : DemoApplication.update amount isFinal before = (.ok (), after))
      (stream : outgoing after.iface.participant = outgoing before.iface.participant ++ added) :
      Asks outgoing before after added

/-- The own update is waiting for its answer. -/
def Waits (app : Application p) : Prop :=
  ∃ h w channel update, app.state = .active h w (.active channel (some update))

/-- A button was pressed, the application went on, and there is no answer yet. -/
inductive Waiting (outgoing : p.tcp.Socket → List UInt8) (setup : Setup p) (added : List UInt8)
    (app : Application p) : Prop
  | waiting (before pressed : Application p) (asks : Asks outgoing before pressed added)
      (later : Runs setup pressed app) (waits : Waits app) : Waiting outgoing setup added app

theorem broadcast_others {partIdx : PartIdx} {sender : Identity} {peers : Peers}
    {msg : ParticipantMessage} (bound : partIdx < 2) (enough : 2 ≤ peers.length) :
    ∃ recipient rest,
      broadcast partIdx sender peers msg = .toParticipant sender recipient msg :: rest := by
  match peers, enough with
  | first :: second :: rest, _ =>
      interval_cases partIdx
      · exact ⟨second, _, rfl⟩
      · exact ⟨first, _, rfl⟩

theorem asks_effects (asks : Asks outgoing before after added) :
    Waits after ∧ ∃ sender recipient update rest iface,
      after.sent.drop before.sent.length =
        .toParticipant sender recipient (.channelUpdate update) :: rest ∧
      (sendEach (after.sent.drop before.sent.length) before.iface :
        Outcome Empty Unit × Interface p) = (.ok (), iface) ∧ after.iface = iface := by
  cases asks with
  | asks h w channel pending amount isFinal active peers small ran =>
      simp only [DemoApplication.update, Op.bind_run, Op.get_run, active] at ran
      obtain ⟨next, sent, iface, updated, rfl, each⟩ := on_channel_ok ran
      simp only [DemoChannel.update] at updated
      rcases proposed : DemoChannel.proposePayment p.env channel amount isFinal before.sent with
        ⟨update | error | _, bus⟩
      · rw [proposed] at updated
        cases updated
        obtain ⟨newState, made, _⟩ := DemoChannel.propose_payment_ok proposed
        obtain ⟨_, bound, sig, sender, _, _, _, rfl⟩ := Active.update_ok.mp made
        obtain ⟨recipient, rest, others⟩ := @broadcast_others channel.partIdx sender channel.peers
          (.channelUpdate ⟨newState, channel.partIdx, sig⟩) bound peers
        constructor
        · exact ⟨h, w, channel, update, rfl⟩
        · exact ⟨sender, recipient, _, rest, iface, by rw [List.drop_left, others], each, rfl⟩
      · rw [proposed] at updated
        cases updated
      · rw [proposed] at updated
        cases updated

/-- The front of what was sent is the update. -/
theorem asks_sends (sends : ApplicationStream.Sends p.tcp outgoing)
    (known : DemoStream.LengthKnown p.envelope) (asks : Asks outgoing before after added) :
    ∃ sender recipient update payload rest, payload.length ≤ maxMessageSize ∧
      p.envelope.encode ⟨sender, recipient,
        some (Encoding.participantMsgToWire (.channelUpdate update))⟩ = .ok payload ∧
      added = frame payload ++ rest := by
  obtain ⟨_, sender, recipient, update, rest, iface, front, each, left⟩ := asks_effects asks
  cases asks with
  | asks h w channel pending amount isFinal active peers small ran same =>
      obtain ⟨frames, written, appended⟩ :=
        Op.ensures_ok (ApplicationStream.send_each_gives _ before.iface sends) each
      obtain ⟨payloads, carried⟩ := ApplicationStream.frames_carried written small
      rw [left, appended, DemoStream.sent_stream known carried written] at same
      have whole := List.append_cancel_left same
      rw [front] at carried
      cases carried with
      | @cons _ payload _ others carries later =>
          refine ⟨sender, recipient, update, payload, stream frame others, carries.2.2, carries.1, ?_⟩
          rw [← whole, stream_cons]

/-- While the own update waits, one of the other side is not expected. -/
theorem update_unexpected {payload : List UInt8} {sender recipient : Wire.Bytes}
    {update : LedgerChannelUpdate} (waits : Waits app)
    (decodes : p.envelope.decode payload =
      .ok ⟨sender, recipient, some (Encoding.participantMsgToWire (.channelUpdate update))⟩) :
    ¬Expects contents app payload := by
  obtain ⟨h, w, channel, own, active⟩ := waits
  unfold Expects
  rw [active]
  rintro ⟨_, msg, read, _, _, _, processed, _⟩
  simp only [heard, DemoStream.decoded, decodes, ApplicationStream.readEnvelope,
    Outcome.mapErr_ok, Outcome.ok_bind, ApplicationStream.openEnvelope,
    Encoding.participantMsgToWire, Encoding.participantMsgFromWire] at read
  obtain ⟨received, _, same⟩ := Outcome.bind_eq_ok.mp (Outcome.mapErr_eq_ok.mp read)
  cases same
  cases processed

theorem asked_halts (fifo : Fifo p.tcp.toTcpSocket contents (maxMessageSize + 2))
    (sends : ApplicationStream.Sends p.tcp outgoing) (known : DemoStream.LengthKnown p.envelope)
    (decodes : ∀ msg payload, p.envelope.encode msg = .ok payload →
      p.envelope.decode payload = .ok msg)
    (asks : Asks outgoing before after added) {device : Device p} {inputs : Inputs p}
    (waits : Waits device.app) {behind : List UInt8}
    (arrives : contents (inputs.arrive device.app).iface.participant = added ++ behind) :
    (round setup inputs device).1 = .panic := by
  obtain ⟨sender, recipient, update, payload, rest, fits, encoded, front⟩ :=
    asks_sends sends known asks
  have held : contents (inputs.arrive device.app).iface.participant =
      frame payload ++ (rest ++ behind) := by
    rw [arrives, front, List.append_assoc]
  have waits' : Waits (inputs.arrive device.app) := waits
  have hears : Hears (inputs.arrive device.app) := by
    obtain ⟨h, w, channel, own, active⟩ := waits'
    unfold Hears
    rw [active]
    trivial
  apply round_halts
  intro returned
  rcases polled : DemoApplication.poll setup (inputs.arrive device.app) with ⟨result, last⟩
  rw [polled] at returned
  cases returned
  have expected := polled_expected fifo fits held hears polled
  exact update_unexpected waits' (decodes _ payload encoded) expected

end Crossing

/-! Whole runs. -/
section Whole
variable {p : Platform} {setup : Setup p} {contents : p.tcp.Socket → List UInt8}
  {app : Application p} {device after : Device p} {inputs : Inputs p}

theorem rounds_append {first later : List (Inputs p)} :
    rounds setup (first ++ later) device = (.ok (), after) ↔
      ∃ middle, rounds setup first device = (.ok (), middle) ∧
        rounds setup later middle = (.ok (), after) := by
  induction first generalizing device with
  | nil => simp [rounds]
  | cons inputs rest ih =>
      simp only [List.cons_append, rounds, Op.bind_eq_ok, ih]
      constructor
      · rintro ⟨_, next, ran, middle, ran', ran''⟩
        exact ⟨middle, ⟨(), next, ran, ran'⟩, ran''⟩
      · rintro ⟨middle, ⟨_, next, ran, ran'⟩, ran''⟩
        exact ⟨(), next, ran, middle, ran', ran''⟩

/-- What a state finds in the socket of the participant: nothing that announces too much, and
no message that it does not expect. -/
structure Welcomes (contents : p.tcp.Socket → List UInt8) (app : Application p) : Prop where
  fits : ∀ header rest, header.length = 2 → contents app.iface.participant = header ++ rest →
    ofBigEndian header ≤ maxMessageSize
  expects : ∀ payload rest, payload.length ≤ maxMessageSize →
    contents app.iface.participant = frame payload ++ rest → Expects contents app payload

theorem round_welcomes (fifo : Fifo p.tcp.toTcpSocket contents (maxMessageSize + 2))
    (ran : round setup inputs device = (.ok (), after)) (hears : Hears (inputs.arrive device.app)) :
    Welcomes contents (inputs.arrive device.app) := by
  obtain ⟨middle, _, polled, _⟩ := round_ok ran
  constructor
  · rintro header rest two held
    by_contra large
    have exceeds := Nat.lt_of_not_le large
    obtain ⟨_, _, returned⟩ := polled_reads hears polled
    obtain ⟨error, failed⟩ := try_recv_large fifo ⟨header, rest, held, two, exceeds⟩
    cases failed.symm.trans returned
  · rintro payload rest fits held
    exact polled_expected fifo fits held hears polled

end Whole

section Results
variable (p : Platform) (contents : p.tcp.Socket → List UInt8)

/-- In every run of the main loop that has not aborted, each poll that read from the
participant found nothing else than what its state expects: no announcement of more than 510
bytes, and no complete message other than a handshake, a proposal or one that the channel
accepts. Everything else has aborted the loop. -/
theorem survives_expected (fifo : Fifo p.tcp.toTcpSocket contents (maxMessageSize + 2))
    (setup : Setup p) (device last : Device p) (earlier later : List (Inputs p)) (inputs : Inputs p)
    (ran : rounds setup (earlier ++ inputs :: later) device = (.ok (), last)) :
    ∃ middle, rounds setup earlier device = (.ok (), middle) ∧
      (Hears (inputs.arrive middle.app) → Welcomes contents (inputs.arrive middle.app)) := by
  obtain ⟨middle, ran', continues⟩ := rounds_append.mp ran
  obtain ⟨_, next, ran'', _⟩ := Op.bind_eq_ok.mp continues
  refine ⟨middle, ran', ?_⟩
  exact round_welcomes fifo ran''

/-- Two devices whose users have each asked for an update, and that wait for the answer. The
first poll on what the other one sent aborts the main loop of both, whatever happened on the
devices in between. -/
theorem crossing_updates_halt (outgoing : p.tcp.Socket → List UInt8)
    (sends : ApplicationStream.Sends p.tcp outgoing)
    (fifo : Fifo p.tcp.toTcpSocket contents (maxMessageSize + 2))
    (known : DemoStream.LengthKnown p.envelope)
    (decodes : ∀ msg payload, p.envelope.encode msg = .ok payload →
      p.envelope.decode payload = .ok msg)
    (setup setup' : Setup p) (left right : Device p) (added added' : List UInt8)
    (waiting : Waiting outgoing setup added left.app)
    (waiting' : Waiting outgoing setup' added' right.app)
    (inputs inputs' : Inputs p) (behind behind' : List UInt8)
    (arrives : contents (inputs.arrive left.app).iface.participant = added' ++ behind)
    (arrives' : contents (inputs'.arrive right.app).iface.participant = added ++ behind') :
    (round setup inputs left).1 = .panic ∧ (round setup' inputs' right).1 = .panic := by
  obtain ⟨_, _, asks, _, waits⟩ := waiting
  obtain ⟨_, _, asks', _, waits'⟩ := waiting'
  constructor
  · exact asked_halts fifo sends known decodes asks' waits arrives
  · exact asked_halts fifo sends known decodes asks waits' arrives'

end Results

/-! A handshake on the plain platform, and two devices that close one channel at once. -/
section Plain
open ApplicationDelivery

/-- A handshake arrives. -/
def greeted : Inputs plainPlatform :=
  ⟨0, fun _ => plainFrom [0, 1, 1], plainLevels⟩

def plainGreeted : Device plainPlatform :=
  { plainBoot with
    app := plainApplication (.waitForHandshake plainHolder plainHolder) plainIdle [] }

theorem plain_greets : ∃ after, rounds plainSetup [greeted] plainGreeted = (.ok (), after) := by
  have idle (key : Key) (app : Application plainPlatform) :
      handleButton plainSetup greeted key { plainGreeted with app := app } =
        (.ok (), { plainGreeted with app := app }) := by
    apply idle_button
    cases key <;> rfl
  have ran := @round_returns plainPlatform plainSetup greeted plainGreeted _ _ rfl
    (handle_buttons_cons (idle _ _) (handle_buttons_cons (idle _ _)
      (handle_buttons_cons (idle _ _) (handle_buttons_cons (idle _ _) rfl)))) (by decide) rfl
  exact ⟨_, Op.bind_ok ran⟩

/-- The handshake is what was expected. -/
theorem survives_expected_greeted : Welcomes id (greeted.arrive plainGreeted.app) := by
  obtain ⟨after, ran⟩ := plain_greets
  obtain ⟨middle, none, welcomes⟩ := survives_expected plainPlatform id DemoStream.plain_fifo
    plainSetup plainGreeted after [] [] greeted ran
  cases none
  exact welcomes trivial

def pingPlatform : Platform :=
  { plainPlatform with envelope := plainCodec fun _ => ⟨[], [], some .pingMsg⟩ }

def pinged : Application pingPlatform :=
  ⟨.waitForHandshake plainHolder plainHolder, ⟨([0, 1, 1] : List UInt8), ([] : List UInt8)⟩, (), []⟩

/-- A channel whose both ends are closed by the button. -/
def crossing (partIdx : PartIdx) : Active.ActiveChannel plainEnv.Signer :=
  { plainActive with partIdx := partIdx }

def crossingState : State 1 2 := { plainState with version := 1, isFinal := true }

theorem crossing_valid : Active.ValidTransition plainEnv plainState crossingState where
  sameId := rfl
  notFinal := rfl
  version := ⟨rfl, fun _ => by decide⟩
  assets := rfl
  totals := ⟨[200000], by decide, by decide⟩

def crossingUpdate (partIdx : PartIdx) : LedgerChannelUpdate :=
  ⟨crossingState, partIdx, plainSign plainClient.signer (Active.stateHash plainEnv crossingState)⟩

def crossingPending (partIdx : PartIdx) : Active.ChannelUpdate :=
  ⟨plainState.id, crossingState,
    (Vector.replicate 2 none).setIfInBounds partIdx (some (crossingUpdate partIdx).sig)⟩

def crossingSent (partIdx : PartIdx) : Bus :=
  [.toParticipant [UInt8.ofNat partIdx] [UInt8.ofNat (1 - partIdx)]
    (.channelUpdate (crossingUpdate partIdx))]

theorem crossing_updates {partIdx : PartIdx} (bound : partIdx < 2) :
    DemoChannel.update plainEnv 0 true (.active (crossing partIdx) none, []) =
      (.ok (), (.active (crossing partIdx) (some (crossingPending partIdx)),
        crossingSent partIdx)) := by
  interval_cases partIdx
  · exact DemoChannel.update_returns rfl rfl rfl (by decide) rfl
      (Active.update_ok.mpr ⟨crossing_valid, by decide, _, _, rfl, rfl, rfl, rfl⟩)
  · exact DemoChannel.update_returns rfl rfl rfl (by decide) rfl
      (Active.update_ok.mpr ⟨crossing_valid, by decide, _, _, rfl, rfl, rfl, rfl⟩)

def crossingEnvelope (partIdx : PartIdx) : Wire.perunwire.Envelope :=
  ⟨[UInt8.ofNat partIdx], [UInt8.ofNat (1 - partIdx)],
    some (Encoding.participantMsgToWire (.channelUpdate (crossingUpdate partIdx)))⟩

/-- Two envelopes that are numbered. -/
def crossingCodec : DemoStream.Prost Wire.perunwire.Envelope Wire.perunwire.Envelope where
  EncodeError := Unit
  DecodeError := Empty
  encodedLen _ := 1
  encode msg :=
    if msg = crossingEnvelope 0 then .ok [0]
    else if msg = crossingEnvelope 1 then .ok [1] else .error ()
  decode payload := if payload = [0] then .ok (crossingEnvelope 0) else .ok (crossingEnvelope 1)

theorem crossing_encoded {msg : Wire.perunwire.Envelope} {payload : List UInt8}
    (encoded : crossingCodec.encode msg = .ok payload) :
    payload.length = 1 ∧ crossingCodec.decode payload = .ok msg := by
  simp only [crossingCodec] at encoded
  split at encoded
  · rename_i same
    cases encoded
    exact ⟨rfl, by rw [same]; rfl⟩
  · split at encoded
    · rename_i same
      cases encoded
      exact ⟨rfl, by rw [same]; rfl⟩
    · cases encoded

def crossingPlatform : Platform where
  env := plainEnv
  tcp := ApplicationStream.loopTcp
  rand := plainRand
  envelope := crossingCodec
  message := plainCodec fun _ => ⟨none⟩

def crossingSetup : Setup crossingPlatform :=
  ⟨⟨((), 1), ((), 2), ((), 3), 4, plainParticipants⟩, plainClient, plainClient.signer⟩

def crossingApplication (partIdx : PartIdx) (update : Option Active.ChannelUpdate)
    (socket : List UInt8) (sent : Bus) : Application crossingPlatform :=
  ⟨.active plainHolder plainHolder (.active (crossing partIdx) update), ⟨socket, ([] : List UInt8)⟩,
    (), sent⟩

theorem crossing_encodes {partIdx : PartIdx} (bound : partIdx < 2) :
    DemoStream.encode crossingCodec (crossingEnvelope partIdx) =
      .ok [0, 1, UInt8.ofNat partIdx] := by
  have different : crossingEnvelope 1 ≠ crossingEnvelope 0 := by
    intro same
    cases congrArg Wire.perunwire.Envelope.sender same
  interval_cases partIdx
  · simp [DemoStream.encode, crossingCodec]
    rfl
  · simp [DemoStream.encode, crossingCodec, different]
    rfl

theorem crossing_asks {partIdx : PartIdx} (bound : partIdx < 2) :
    Asks id (crossingApplication partIdx none [] []) (crossingApplication partIdx
      (some (crossingPending partIdx)) [0, 1, UInt8.ofNat partIdx] (crossingSent partIdx))
      [0, 1, UInt8.ofNat partIdx] := by
  refine .asks plainHolder plainHolder (crossing partIdx) none 0 true rfl (Nat.le_refl 2) ?_ ?_ rfl
  · rintro msg _ payload encoded
    have one := (crossing_encoded encoded).1
    exact ⟨by omega, by rw [one]; decide⟩
  · have encodes := crossing_encodes bound
    simp only [crossingEnvelope] at encodes
    have sends : (sendEach (crossingSent partIdx) ⟨([] : List UInt8), ([] : List UInt8)⟩ :
          Outcome Empty Unit × Interface crossingPlatform) =
        (.ok (), ⟨[0, 1, UInt8.ofNat partIdx], ([] : List UInt8)⟩) := by
      simp only [crossingSent, sendEach, sendMsg, crossingPlatform, encodes, Outcome.unwrapErr_ok]
      rfl
    have updates : DemoChannel.update crossingPlatform.env 0 true
      (.active (crossing partIdx) none, []) = _ := crossing_updates bound
    simp only [DemoApplication.update, Op.bind_run, Op.get_run, crossingApplication, onChannel,
      updates, transmit, List.length_nil, List.drop_zero, sends]
    rfl

def crossingDevice (partIdx : PartIdx) : Device crossingPlatform :=
  ⟨crossingApplication partIdx (some (crossingPending partIdx)) [0, 1, UInt8.ofNat partIdx]
    (crossingSent partIdx), fun key => .create (plainLevels key) debounceThreshhold, false, false,
    false, 0⟩

/-- The bytes that the other device has sent arrive. -/
def crossingInputs (other : PartIdx) : Inputs crossingPlatform :=
  ⟨0, fun iface => ⟨[0, 1, UInt8.ofNat other], iface.service⟩, fun _ => .high⟩

theorem crossing_waits {partIdx : PartIdx} (bound : partIdx < 2) :
    Waiting id crossingSetup [0, 1, UInt8.ofNat partIdx] (crossingDevice partIdx).app :=
  .waiting _ _ (crossing_asks bound) .refl ⟨_, _, _, _, rfl⟩

theorem crossing_updates_halt_closing :
    (round crossingSetup (crossingInputs 1) (crossingDevice 0)).1 = .panic ∧
      (round crossingSetup (crossingInputs 0) (crossingDevice 1)).1 = .panic :=
  crossing_updates_halt crossingPlatform id id ApplicationStream.loop_sends
    ApplicationStream.loop_fifo (fun _ _ encoded => (crossing_encoded encoded).1.symm)
    (fun _ _ encoded => (crossing_encoded encoded).2) crossingSetup crossingSetup _ _ _ _
    (crossing_waits Nat.zero_lt_two) (crossing_waits Nat.one_lt_two) (crossingInputs 1)
    (crossingInputs 0) [] [] rfl rfl

end Plain

end Perun.MainLoopMessages
