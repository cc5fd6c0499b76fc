import Perun.ApplicationDelivery

/-! What one application sends to the other one, from the bus of its client to the messages
that the other one takes from its socket. -/
namespace Perun.ApplicationStream
open AbiTypes Messages MessageBus Wire Encoding DemoApplication Framing
open DemoStream (Fifo LengthKnown Sized Carries maxMessageSize frame)
open Op (Ensures ensures_bind ensures_lift ensures_mono ensures_ok)

/-- What a socket was given to send is the bytes of the slices, as far as they were taken. -/
def Sends (tcp : Smoltcp) (outgoing : tcp.Socket → List UInt8) : Prop :=
  ∀ msg socket written after, tcp.sendSlice msg socket = (.ok written, after) →
    outgoing after = outgoing socket ++ msg.take written

def envelope : Sent → Option perunwire.Envelope
  | .toParticipant sender recipient msg => some ⟨sender, recipient, some (participantMsgToWire msg)⟩
  | _ => none

def spoken : Sent → Option ParticipantMessage
  | .toParticipant _ _ msg => some msg
  | _ => none

/-- The frames of the envelopes that go to the participant. -/
def Frames (p : Platform) (sent : List Sent) (frames : List (List UInt8)) : Prop :=
  List.Forall₂ (fun msg bytes => DemoStream.encode p.envelope msg = .ok bytes)
    (sent.filterMap envelope) frames

section Sending
variable {p : Platform} {ε : Type} {outgoing : p.tcp.Socket → List UInt8}

/-- What a step that returns has given to the socket of the participant. -/
def Gives (outgoing : p.tcp.Socket → List UInt8) (sent : List Sent) (step : Op ε (Interface p) Unit)
    (iface : Interface p) : Prop :=
  Ensures (fun _ after => ∃ frames, Frames p sent frames ∧
      outgoing after.participant = outgoing iface.participant ++ frames.flatten)
    (fun _ _ => True) step iface

theorem bus_send_ensures {handle : SocketHandle} {msg : List UInt8} {iface : Interface p}
    {returns : Unit → Interface p → Prop} (sends : Sends p.tcp outgoing)
    (value : ∀ socket, outgoing socket = outgoing (iface.getSocket handle) ++ msg →
      returns () (iface.setSocket socket handle)) :
    Ensures returns (fun _ _ => True) (busSend handle msg : Op ε (Interface p) Unit) iface := by
  unfold Ensures busSend
  rcases slice : p.tcp.sendSlice msg (iface.getSocket handle) with ⟨written | _ | _, socket⟩
  · by_cases all : written = msg.length
    · have appended := sends msg _ written socket slice
      rw [all, List.take_length] at appended
      simp only [if_pos all]
      exact value socket appended
    · simp only [if_neg all]
  · trivial
  · trivial

theorem send_msg_gives (msg : Sent) (iface : Interface p) (sends : Sends p.tcp outgoing) :
    Gives outgoing [msg] (sendMsg msg : Op ε (Interface p) Unit) iface := by
  have nothing (silent : envelope msg = none) : Frames p [msg] [] := by
    simp [Frames, silent]
  cases msg with
  | toWatcher msg =>
      simp only [Gives, sendMsg, ensures_bind, ensures_lift]
      constructor
      · rintro wire _
        constructor
        · rintro bytes _
          apply bus_send_ensures sends
          rintro socket _
          exact ⟨[], nothing rfl, (List.append_nil _).symm⟩
        · exact fun _ _ => trivial
      · exact fun _ _ => trivial
  | toFunder msg =>
      simp only [Gives, sendMsg, ensures_bind, ensures_lift]
      constructor
      · rintro wire _
        constructor
        · rintro bytes _
          apply bus_send_ensures sends
          rintro socket _
          exact ⟨[], nothing rfl, (List.append_nil _).symm⟩
        · exact fun _ _ => trivial
      · exact fun _ _ => trivial
  | toParticipant sender recipient msg =>
      simp only [Gives, sendMsg, ensures_bind, ensures_lift]
      constructor
      · rintro bytes written
        apply bus_send_ensures sends
        rintro socket appended
        refine ⟨[bytes], .cons (Outcome.unwrapErr_eq_ok.mp written) .nil, ?_⟩
        rw [List.flatten_singleton]
        exact appended
      · exact fun _ _ => trivial

theorem frames_append {sent new : List Sent} {frames later : List (List UInt8)}
    (written : Frames p sent frames) (written' : Frames p new later) :
    Frames p (sent ++ new) (frames ++ later) := by
  have both := List.rel_append written written'
  simpa [Frames, ← List.filterMap_append] using both

theorem send_each_gives (sent : List Sent) (iface : Interface p) (sends : Sends p.tcp outgoing) :
    Gives outgoing sent (sendEach sent : Op ε (Interface p) Unit) iface := by
  induction sent generalizing iface with
  | nil => exact ⟨[], .nil, (List.append_nil _).symm⟩
  | cons msg rest ih =>
      simp only [Gives, sendEach, ensures_bind]
      apply ensures_mono (send_msg_gives msg iface sends)
      · rintro _ middle ⟨first, written, appended⟩
        apply ensures_mono (ih middle)
        · rintro _ after ⟨later, written', appended'⟩
          refine ⟨first ++ later, @frames_append p [msg] rest _ _ written written', ?_⟩
          rw [appended', appended, List.append_assoc, List.flatten_append]
        · exact fun _ _ _ => trivial
      · exact fun _ _ _ => trivial

/-- Everything that a client sends on its sockets, one call after the other. In between the
sockets do anything that adds nothing to the stream of the participant. -/
inductive Sending (outgoing : p.tcp.Socket → List UInt8) (first : Interface p) :
    List Sent → Interface p → Prop
  | start : Sending outgoing first [] first
  | sends (sent new : List Sent) (before after : Interface p)
      (earlier : Sending outgoing first sent before)
      (transmitted : (sendEach new before : Outcome Empty Unit × Interface p) = (.ok (), after)) :
      Sending outgoing first (sent ++ new) after
  | other (sent : List Sent) (before after : Interface p)
      (earlier : Sending outgoing first sent before)
      (quiet : outgoing after.participant = outgoing before.participant) :
      Sending outgoing first sent after

theorem sending_frames {first after : Interface p} {sent : List Sent}
    (sends : Sends p.tcp outgoing) (sending : Sending outgoing first sent after) :
    ∃ frames, Frames p sent frames ∧
      outgoing after.participant = outgoing first.participant ++ frames.flatten := by
  induction sending with
  | start => exact ⟨[], .nil, (List.append_nil _).symm⟩
  | sends sent new before after earlier transmitted ih =>
      obtain ⟨frames, written, appended⟩ := ih
      obtain ⟨later, written', appended'⟩ :=
        ensures_ok (send_each_gives new before sends : Gives outgoing new _ before) transmitted
      refine ⟨frames ++ later, frames_append written written', ?_⟩
      rw [appended', appended, List.append_assoc, List.flatten_append]
  | other sent before after earlier quiet ih =>
      obtain ⟨frames, written, appended⟩ := ih
      exact ⟨frames, written, quiet.trans appended⟩

end Sending

/-! What is taken from the socket. -/
section Receiving
variable {p : Platform}

/-- The message in an envelope. -/
def openEnvelope : perunwire.Envelope → Outcome (DemoApplication.Error p) ParticipantMessage
  | ⟨_, _, none⟩ => .err .envelopeHasNoMsg
  | ⟨_, _, some msg⟩ => (participantMsgFromWire msg).mapErr .conversionError

def readEnvelope (result : Outcome (DemoStream.Error p.tcp.Error p.envelope.DecodeError)
    perunwire.Envelope) : Outcome (DemoApplication.Error p) ParticipantMessage :=
  result.mapErr (receiveError .inl) >>= openEnvelope

/-- A call of `try_recv_participant_msg` on the socket. -/
def hear (app : Application p) (socket : p.tcp.Socket) :
    Option (Outcome (DemoApplication.Error p) ParticipantMessage) × p.tcp.Socket :=
  let after := tryRecvParticipantMsg
    { app with iface := { app.iface with participant := socket } }
  (DemoStream.reported after.1, after.2.iface.participant)

theorem hear_receive (app : Application p) (socket : p.tcp.Socket) :
    hear app socket =
      ((DemoStream.receive p.envelope p.tcp.toTcpSocket socket).1.map readEnvelope,
        (DemoStream.receive p.envelope p.tcp.toTcpSocket socket).2) := by
  rcases taken : DemoStream.tryRecv p.envelope p.tcp.toTcpSocket socket with ⟨result, after⟩
  have found : (tryRecvEnvelope : Method p _)
      { app with iface := { app.iface with participant := socket } } =
      (result.mapErr (receiveError .inl),
        { app with iface := { app.iface with participant := after } }) := by
    simp only [tryRecvEnvelope, onSocket, Interface.getSocket, taken]
    rfl
  simp only [hear, tryRecvParticipantMsg, Op.bind_run, found, DemoStream.receive, taken]
  rcases result with (_ | ⟨sender, recipient, _ | msg⟩) | error | _
  · rfl
  · rfl
  · cases read : participantMsgFromWire msg <;>
      simp [readEnvelope, openEnvelope, read, Op.bind_run, Op.lift_run, DemoStream.reported]
  · rfl
  · rfl

/-- What the payload of a frame is taken for. -/
def heard (p : Platform) (payload : List UInt8) :
    Outcome (DemoApplication.Error p) ParticipantMessage :=
  readEnvelope (DemoStream.decoded p.envelope p.tcp.toTcpSocket payload)

/-- The main loop goes on after a message, and halts at anything else. -/
def survived : Outcome (DemoApplication.Error p) ParticipantMessage → Bool
  | .ok _ => true
  | _ => false

theorem hear_receives {contents : p.tcp.Socket → List UInt8}
    (fifo : Fifo p.tcp.toTcpSocket contents (maxMessageSize + 2)) (app : Application p) :
    Receives frame contents (heard p) Sized (hear app) := by
  have same := funext (hear_receive app)
  rw [same]
  exact receives_map readEnvelope (DemoStream.receive_receives fifo)

/-- What becomes of a message between two applications. -/
def arrival (msg : ParticipantMessage) : Outcome (DemoApplication.Error p) ParticipantMessage :=
  match carriedHolder msg with
  | some holder => (readHolder holder).mapErr .conversionError >>= fun _ => .ok (withoutHolder msg)
  | none => .ok msg

theorem message_arrival {msg : ParticipantMessage} (indexed : Indexed msg) :
    (participantMsgFromWire (participantMsgToWire msg)).mapErr .conversionError =
      (arrival msg : Outcome (DemoApplication.Error p) _) := by
  rw [sent_message_received msg indexed, arrival]
  cases carriedHolder msg with
  | none => rfl
  | some holder =>
      dsimp only
      cases readHolder holder <;> rfl

theorem zero_arrival {msg : ParticipantMessage} (indexed : Indexed msg)
    (zero : ∀ holder, carriedHolder msg = some holder → holder = Address.zero) :
    (arrival msg : Outcome (DemoApplication.Error p) _) = .ok msg := by
  rw [← message_arrival indexed, zero_message_received indexed zero, Outcome.mapErr_ok]

end Receiving

section Delivery
variable {p : Platform} {sent : List Sent} {payloads frames : List (List UInt8)}

theorem frames_carried (written : Frames p sent frames)
    (small : ∀ msg ∈ sent.filterMap envelope, ∀ payload,
      p.envelope.encode msg = .ok payload → Sized payload) :
    ∃ payloads, List.Forall₂ (Carries p.envelope) (sent.filterMap envelope) payloads := by
  unfold Frames at written
  generalize sent.filterMap envelope = envelopes at written small
  induction written with
  | nil => exact ⟨[], .nil⟩
  | @cons msg bytes _ _ encoded _ ih =>
      obtain ⟨payloads, later⟩ := ih fun msg member => small msg (List.mem_cons_of_mem _ member)
      cases payload : p.envelope.encode msg with
      | error error =>
          simp only [DemoStream.encode, payload] at encoded
          split at encoded <;> cases encoded
      | ok payload' =>
          exact ⟨payload' :: payloads, .cons ⟨payload, small msg List.mem_cons_self _ payload⟩ later⟩

theorem carried_arrivals
    (decodes : ∀ msg payload, p.envelope.encode msg = .ok payload →
      p.envelope.decode payload = .ok msg)
    (carried : List.Forall₂ (Carries p.envelope) (sent.filterMap envelope) payloads)
    (indexed : ∀ msg ∈ sent.filterMap spoken, Indexed msg) :
    payloads.map (heard p) = (sent.filterMap spoken).map arrival := by
  induction sent generalizing payloads with
  | nil =>
      cases carried
      rfl
  | cons msg rest ih =>
      cases msg with
      | toWatcher msg => exact ih carried indexed
      | toFunder msg => exact ih carried indexed
      | toParticipant sender recipient msg =>
          have indexed' : ∀ later ∈ msg :: rest.filterMap spoken, Indexed later := indexed
          cases carried with
          | @cons _ payload _ _ carries later =>
              have tail := ih later fun msg member => indexed' msg (List.mem_cons_of_mem _ member)
              have head : heard p payload = arrival msg := by
                simp only [heard, DemoStream.decoded, decodes _ _ carries.1]
                exact message_arrival (indexed' msg List.mem_cons_self)
              exact congrArg₂ List.cons head tail

end Delivery

/-! Two handshakes over a socket that keeps what it is given to send. -/
section Plain
open ApplicationDelivery (plainTcp plainRand plainCodec)

def loopTcp : Smoltcp :=
  { plainTcp with
    sendSlice := fun msg (socket : List UInt8) => (.ok msg.length, (socket ++ msg : List UInt8)) }

/-- Handshakes with the length of the sender in front. -/
def authCodec : DemoStream.Prost perunwire.Envelope perunwire.Envelope where
  EncodeError := Unit
  DecodeError := Unit
  encodedLen msg := 1 + msg.sender.length + msg.recipient.length
  encode
    | ⟨sender, recipient, some .authResponseMsg⟩ =>
        if sender.length < 256 then .ok (UInt8.ofNat sender.length :: (sender ++ recipient))
        else .error ()
    | _ => .error ()
  decode
    | [] => .error ()
    | length :: names =>
        .ok ⟨names.take length.toNat, names.drop length.toNat, some .authResponseMsg⟩

def loopPlatform : Platform where
  env := plainEnv
  tcp := loopTcp
  rand := plainRand
  envelope := authCodec
  message := plainCodec fun _ => ⟨none⟩

theorem auth_encoded {msg : perunwire.Envelope} {payload : List UInt8}
    (encoded : authCodec.encode msg = .ok payload) :
    authCodec.encodedLen msg = payload.length ∧ authCodec.decode payload = .ok msg := by
  rcases msg with ⟨sender, recipient, _ | msg⟩
  · cases encoded
  · cases msg with
    | authResponseMsg =>
        simp only [authCodec] at encoded
        split at encoded
        · rename_i short
          cases encoded
          have length : (UInt8.ofNat sender.length).toNat = sender.length := by
            rw [UInt8.toNat_ofNat', Nat.mod_eq_of_lt short]
          constructor
          · simp [authCodec]
            omega
          · simp [authCodec, length]
        · cases encoded
    | _ => cases encoded

theorem loop_fifo : Fifo loopTcp.toTcpSocket id (maxMessageSize + 2) :=
  DemoStream.plain_fifo

theorem loop_sends : Sends loopTcp id := by
  rintro msg socket written after taken
  cases taken
  rw [List.take_length]
  rfl

def greetings : List Sent := [.toParticipant [1] [2] .auth, .toParticipant [1] [3] .auth]

theorem greetings_small : ∀ msg ∈ greetings.filterMap envelope, ∀ payload,
    authCodec.encode msg = .ok payload → Sized payload := by
  rintro msg member payload encoded
  rcases List.mem_cons.mp member with rfl | member
  · cases encoded
    decide
  · cases List.mem_singleton.mp member
    cases encoded
    decide

theorem greetings_indexed : ∀ msg ∈ greetings.filterMap spoken, Indexed msg := by
  rintro msg member
  rcases List.mem_cons.mp member with rfl | member
  · trivial
  · cases List.mem_singleton.mp member
    trivial

def loopApplication : Application loopPlatform :=
  ⟨.initialState, ⟨([] : List UInt8), ([] : List UInt8)⟩, (), []⟩

end Plain

end Perun.ApplicationStream
