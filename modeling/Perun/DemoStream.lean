import Perun.BigEndian
import Perun.Framing
import Perun.Outcome

/-! Messages on a TCP stream: `ProtoBufEncodingLayer::encode` (`src/wire/encoding.rs`)
writes two bytes of length in front of each, and `Application::try_recv`
(`cortex-m-demo/src/application.rs`) takes them off the receive buffer of a socket.
The socket and the protobuf library are parameters. -/
namespace Perun.DemoStream
open BigEndian Framing

abbrev Bytes := List UInt8

/-- `prost::Message` of the type that is sent and of the one that is received. -/
structure Prost (Sent Received : Type) where
  EncodeError : Type
  DecodeError : Type
  encodedLen : Sent → Nat
  encode : Sent → Except EncodeError Bytes
  decode : Bytes → Except DecodeError Received

/-- The methods of a `TcpSocket` that are called. The slice methods return what they
copied into the slice, whose size is given. -/
structure TcpSocket where
  Socket : Type
  Error : Type
  recvQueue : Socket → Nat
  recvCapacity : Socket → Nat
  peekSlice : Nat → Op Error Socket Bytes
  recv : {α : Type} → (Bytes → Nat × α) → Op Error Socket α
  recvSlice : Nat → Op Error Socket Bytes

inductive Error (SocketError DecodeError : Type) where
  | network (error : SocketError)
  | prostDecode (error : DecodeError)
  | messageLargerThanRxBuffer (size : Nat)
  deriving DecidableEq

def maxMessageSize : Nat := 510

section Code
variable {Sent Received : Type} (prost : Prost Sent Received) (tcp : TcpSocket)

/-- `ProtoBufEncodingLayer::encode`. -/
def encode (msg : Sent) : Outcome prost.EncodeError Bytes :=
  let len := prost.encodedLen msg
  if len < 2 ^ 16 then
    match prost.encode msg with
    | .ok bytes => .ok (bigEndian 2 len ++ bytes)
    | .error error => .err error
  else .panic

/-- `T::decode(..)?`. -/
def decoded (payload : Bytes) : Outcome (Error tcp.Error prost.DecodeError) Received :=
  match prost.decode payload with
  | .ok value => .ok value
  | .error error => .err (.prostDecode error)

/-- The two bytes of length. They come in two parts where the ring buffer ends between
them. -/
def discardLength : Op (Error tcp.Error prost.DecodeError) tcp.Socket Unit := do
  let read ← Op.mapErr .network (tcp.recv fun x => (min x.length 2, min x.length 2))
  if read ≠ 2 then Op.mapErr .network (tcp.recv fun _ => (2 - read, ()))
  else pure ()

/-- A message whose bytes are all there. -/
def readMessage (length : Nat) : Op (Error tcp.Error prost.DecodeError) tcp.Socket Received := do
  discardLength prost tcp
  -- `buf[..length]` of the array on the stack.
  if maxMessageSize < length then Op.lift .panic
  else do
    let bytes ← Op.mapErr .network (tcp.recvSlice length)
    if bytes.length ≠ length then Op.lift .panic
    else Op.lift (decoded prost tcp bytes)

/-- `Application::try_recv`. -/
def tryRecv : Op (Error tcp.Error prost.DecodeError) tcp.Socket (Option Received) := do
  let socket ← Op.get
  if tcp.recvQueue socket < 2 then pure none
  else do
    let peeked ← Op.mapErr .network (tcp.peekSlice 2)
    if peeked.length < 2 then Op.lift .panic
    else do
      let length := ofBigEndian peeked
      let socket ← Op.get
      if tcp.recvCapacity socket < 2 + length then
        Op.fail (.messageLargerThanRxBuffer (2 + length))
      else if tcp.recvQueue socket < 2 + length then pure none
      else do
        let message ← readMessage prost tcp length
        pure (some message)

/-- What is not `Ok(None)`. -/
def reported {ε : Type} : Outcome ε (Option Received) → Option (Outcome ε Received)
  | .ok none => none
  | .ok (some value) => some (.ok value)
  | .err error => some (.err error)
  | .panic => some .panic

def receive (socket : tcp.Socket) :
    Option (Outcome (Error tcp.Error prost.DecodeError) Received) × tcp.Socket :=
  (reported (tryRecv prost tcp socket).1, (tryRecv prost tcp socket).2)

end Code

/-- The bytes of one message on the stream. -/
def frame (payload : Bytes) : Bytes := bigEndian 2 payload.length ++ payload

/-- A payload that the demo can receive. -/
def Sized (payload : Bytes) : Prop := 1 ≤ payload.length ∧ payload.length ≤ maxMessageSize

instance (payload : Bytes) : Decidable (Sized payload) :=
  inferInstanceAs (Decidable (1 ≤ payload.length ∧ payload.length ≤ maxMessageSize))

/-- The socket is a queue of bytes. A peek sees the front of it, and what `recv` hands to
its closure is some nonempty front part. -/
structure Fifo (tcp : TcpSocket) (contents : tcp.Socket → Bytes) (capacity : Nat) : Prop where
  recvQueue : ∀ socket, tcp.recvQueue socket = (contents socket).length
  recvCapacity : ∀ socket, tcp.recvCapacity socket = capacity
  peekSlice : ∀ socket size, contents socket ≠ [] →
    tcp.peekSlice size socket = (.ok ((contents socket).take size), socket)
  recv : ∀ {α : Type} (f : Bytes → Nat × α) socket, contents socket ≠ [] →
    ∃ front after, front ≠ [] ∧ front <+: contents socket ∧
      ((f front).1 ≤ front.length → tcp.recv f socket = (.ok (f front).2, after) ∧
        contents after = (contents socket).drop (f front).1)
  recvSlice : ∀ socket size, contents socket ≠ [] →
    ∃ after, tcp.recvSlice size socket = (.ok ((contents socket).take size), after) ∧
      contents after = (contents socket).drop size

section Receiver
variable {Sent Received : Type} {prost : Prost Sent Received} {tcp : TcpSocket}
  {contents : tcp.Socket → Bytes}

theorem frame_length (payload : Bytes) : (frame payload).length = 2 + payload.length := by
  rw [frame, List.length_append, bigEndian_length]

/-- The length in front of a message is read back. -/
theorem frame_header {payload : Bytes} (fits : payload.length ≤ maxMessageSize) :
    ofBigEndian (bigEndian 2 payload.length) = payload.length := by
  have small : payload.length < 256 ^ 2 := by
    unfold maxMessageSize at fits
    omega
  rw [ofBigEndian_bigEndian, Nat.mod_eq_of_lt small]

theorem decoded_reported (payload : Bytes) :
    reported (decoded prost tcp payload >>= fun value => .ok (some value)) =
      some (decoded prost tcp payload) := by
  cases decoded prost tcp payload <;> rfl

/-- Where an empty message is all there is, its bytes are asked of an empty socket. One that
is still open answers that there are none. -/
def Readable (prost : Prost Sent Received) (contents : tcp.Socket → Bytes) (socket : tcp.Socket) :
    Prop :=
  contents socket = frame [] → (tcp.recvSlice 0 (discardLength prost tcp socket).2).1 = .ok []

theorem sized_more {payload later : Bytes} (sized : Sized payload) : payload ++ later ≠ [] := by
  intro empty
  have length := congrArg List.length (List.append_eq_nil_iff.mp empty).1
  rw [List.length_nil] at length
  have positive := sized.1
  omega

variable (fifo : Fifo tcp contents (maxMessageSize + 2)) {socket : tcp.Socket}
include fifo

theorem discard_length (queued : 2 ≤ (contents socket).length) :
    ∃ after, discardLength prost tcp socket = (.ok (), after) ∧
      contents after = (contents socket).drop 2 := by
  have some_queued : contents socket ≠ [] := by
    intro empty
    rw [empty] at queued
    cases queued
  obtain ⟨front, first, nonempty, _, taken⟩ :=
    fifo.recv (fun x => (min x.length 2, min x.length 2)) socket some_queued
  have positive : 0 < front.length := List.length_pos_of_ne_nil nonempty
  obtain ⟨ran, left⟩ := taken (Nat.min_le_left _ _)
  by_cases both : min front.length 2 = 2
  · rw [both] at ran left
    refine ⟨first, ?_, left⟩
    simp [discardLength, Op.bind_run, ran]
  · have one : min front.length 2 = 1 := by omega
    rw [one] at ran left
    have more : contents first ≠ [] := by
      intro empty
      have length := congrArg List.length left
      rw [empty, List.length_drop, List.length_nil] at length
      omega
    obtain ⟨front', second, nonempty', _, taken'⟩ := fifo.recv (fun _ => (1, ())) first more
    obtain ⟨ran', left'⟩ := taken' (List.length_pos_of_ne_nil nonempty')
    refine ⟨second, ?_, ?_⟩
    · simp [discardLength, Op.bind_run, ran, ran']
    · exact left'.trans ((congrArg (List.drop 1) left).trans List.drop_drop)

theorem read_message {payload later : Bytes} (fits : payload.length ≤ maxMessageSize)
    (more : payload ++ later ≠ []) (held : contents socket = frame payload ++ later) :
    ∃ after, readMessage prost tcp payload.length socket = (decoded prost tcp payload, after) ∧
      contents after = (contents socket).drop (frame payload).length := by
  have queued : 2 ≤ (contents socket).length := by
    rw [held, List.length_append, frame_length]
    omega
  obtain ⟨middle, discarded, left⟩ := @discard_length _ _ prost _ _ fifo _ queued
  have body : contents middle = payload ++ later := by
    rw [left, held, frame, List.append_assoc, List.drop_left' (bigEndian_length 2 _)]
  have nonempty : contents middle ≠ [] := by
    rw [body]
    exact more
  obtain ⟨after, ran, left'⟩ := fifo.recvSlice middle payload.length nonempty
  refine ⟨after, ?_, ?_⟩
  · rw [body, List.take_left] at ran
    simp [readMessage, Op.bind_run, discarded, Nat.not_lt_of_le fits, ran]
  · rw [left', left, List.drop_drop, frame_length]

/-- An empty message that is all there is. -/
theorem read_empty (readable : Readable prost contents socket) (held : contents socket = frame []) :
    ∃ after, readMessage prost tcp 0 socket = (decoded prost tcp [], after) := by
  have queued : 2 ≤ (contents socket).length := by
    rw [held, frame_length]
    omega
  obtain ⟨middle, discarded, _⟩ := @discard_length _ _ prost _ _ fifo _ queued
  have answer := readable held
  rw [discarded] at answer
  rcases ran : tcp.recvSlice 0 middle with ⟨bytes, after⟩
  rw [ran] at answer
  simp only at answer
  subst answer
  exact ⟨after, by simp [readMessage, Op.bind_run, discarded, ran]⟩

/-- The length of the next message is peeked. -/
theorem header_peeked {pending payload : Bytes} {later : List Bytes} (sized : Sized payload)
    (queued : 2 ≤ (contents socket).length)
    (split : contents socket ++ pending = stream frame (payload :: later)) :
    tcp.peekSlice 2 socket = (.ok (bigEndian 2 payload.length), socket) ∧
      ofBigEndian (bigEndian 2 payload.length) = payload.length := by
  have nonempty : contents socket ≠ [] := by
    intro empty
    rw [empty] at queued
    cases queued
  have front := congrArg (List.take 2) split
  rw [List.take_append_of_le_length queued, stream_cons, frame, List.append_assoc,
    List.take_left' (bigEndian_length 2 _)] at front
  constructor
  · rw [fifo.peekSlice socket 2 nonempty, front]
  · exact frame_header sized.2

/-- A call that sees the length of the next message. -/
theorem try_recv_queued {pending payload : Bytes} {later : List Bytes} (sized : Sized payload)
    (queued : 2 ≤ (contents socket).length)
    (split : contents socket ++ pending = stream frame (payload :: later)) :
    tryRecv prost tcp socket =
      if (contents socket).length < 2 + payload.length then (.ok none, socket)
      else (do
        let message ← readMessage prost tcp payload.length
        pure (some message) : Op (Error tcp.Error prost.DecodeError) tcp.Socket _) socket := by
  obtain ⟨peeked, read⟩ := header_peeked fifo sized queued split
  have enough : ¬(contents socket).length < 2 := Nat.not_lt_of_le queued
  have fits : ¬maxMessageSize + 2 < 2 + payload.length := by
    have bound := sized.2
    omega
  have both : ¬(bigEndian 2 payload.length).length < 2 := by
    rw [bigEndian_length]
    exact Nat.lt_irrefl 2
  simp only [tryRecv, Op.bind_run, Op.get_run, fifo.recvQueue, if_neg enough, Op.mapErr_run,
    peeked, Outcome.mapErr_ok, if_neg both, read, fifo.recvCapacity, if_neg fits]
  split <;> rfl

/-- A call before the next frame is complete changes nothing. -/
theorem try_recv_incomplete {pending : Bytes} {rest : List Bytes}
    (sized : ∀ payload ∈ rest, Sized payload)
    (split : contents socket ++ pending = stream frame rest)
    (short : ∀ payload later, rest = payload :: later →
      (contents socket).length < (frame payload).length) :
    tryRecv prost tcp socket = (.ok none, socket) := by
  by_cases few : (contents socket).length < 2
  · simp only [tryRecv, Op.bind_run, Op.get_run, fifo.recvQueue, if_pos few, Op.pure_run]
  · cases rest with
    | nil =>
        have length := congrArg List.length split
        rw [List.length_append, stream, List.flatMap_nil, List.length_nil] at length
        omega
    | cons payload later =>
        have missing := short payload later rfl
        rw [frame_length] at missing
        rw [try_recv_queued fifo (sized payload List.mem_cons_self) (Nat.le_of_not_lt few) split,
          if_pos missing]

/-- A call on a complete frame returns what its payload decodes to, also where that is an
error, and takes off this frame only. -/
theorem try_recv_complete {pending payload : Bytes} {later : List Bytes} (sized : Sized payload)
    (split : contents socket ++ pending = stream frame (payload :: later))
    (whole : (frame payload).length ≤ (contents socket).length) :
    ∃ after, tryRecv prost tcp socket =
        (decoded prost tcp payload >>= fun value => .ok (some value), after) ∧
      contents after = (contents socket).drop (frame payload).length := by
  rw [frame_length] at whole
  have held : contents socket = frame payload ++ (contents socket).drop (frame payload).length := by
    have front := congrArg (List.take (frame payload).length) split
    rw [List.take_append_of_le_length (by rwa [frame_length]), stream_cons, List.take_left] at front
    calc contents socket
        = (contents socket).take (frame payload).length ++
            (contents socket).drop (frame payload).length := (List.take_append_drop _ _).symm
      _ = frame payload ++ (contents socket).drop (frame payload).length := by rw [front]
  obtain ⟨after, ran, left⟩ :=
    @read_message _ _ prost _ _ fifo _ _ _ sized.2 (sized_more sized) held
  refine ⟨after, ?_, left⟩
  rw [try_recv_queued fifo sized (by omega) split, if_neg (by omega), Op.bind_run, ran]
  cases decoded prost tcp payload <;> rfl

/-- What a call makes of the front of the stream, whatever comes behind it. -/
theorem try_recv_front {header rest : Bytes} (two : header.length = 2)
    (held : contents socket = header ++ rest) :
    tryRecv prost tcp socket =
      if maxMessageSize < ofBigEndian header then
        (.err (.messageLargerThanRxBuffer (2 + ofBigEndian header)), socket)
      else if rest.length < ofBigEndian header then (.ok none, socket)
      else (do
        let message ← readMessage prost tcp (ofBigEndian header)
        pure (some message) : Op (Error tcp.Error prost.DecodeError) tcp.Socket _) socket := by
  have length : (contents socket).length = 2 + rest.length := by
    rw [held, List.length_append, two]
  have nonempty : contents socket ≠ [] := by
    intro empty
    rw [empty, List.length_nil] at length
    omega
  have peeked : tcp.peekSlice 2 socket = (.ok header, socket) := by
    rw [fifo.peekSlice socket 2 nonempty, held, List.take_left' two]
  have enough : ¬(contents socket).length < 2 := by omega
  have both : ¬header.length < 2 := by omega
  have capacity : (maxMessageSize + 2 < 2 + ofBigEndian header) =
      (maxMessageSize < ofBigEndian header) := by
    rw [Nat.add_comm 2, Nat.add_lt_add_iff_right]
  have missing : ((contents socket).length < 2 + ofBigEndian header) =
      (rest.length < ofBigEndian header) := by
    rw [length, Nat.add_lt_add_iff_left]
  simp only [tryRecv, Op.bind_run, Op.get_run, fifo.recvQueue, if_neg enough, Op.mapErr_run,
    peeked, Outcome.mapErr_ok, if_neg both, fifo.recvCapacity, capacity, missing]
  split
  · rfl
  · split <;> rfl

/-- A complete message is taken off, with any bytes behind it. -/
theorem try_recv_held {payload later : Bytes} (fits : payload.length ≤ maxMessageSize)
    (readable : Readable prost contents socket)
    (held : contents socket = frame payload ++ later) :
    ∃ after, tryRecv prost tcp socket =
      (decoded prost tcp payload >>= fun value => .ok (some value), after) := by
  have read : ∃ after, readMessage prost tcp payload.length socket =
      (decoded prost tcp payload, after) := by
    by_cases more : payload ++ later = []
    · obtain ⟨rfl, rfl⟩ := List.append_eq_nil_iff.mp more
      rw [List.append_nil] at held
      exact read_empty fifo readable held
    · obtain ⟨after, ran, _⟩ := @read_message _ _ prost _ _ fifo _ _ _ fits more held
      exact ⟨after, ran⟩
  obtain ⟨after, ran⟩ := read
  have header := frame_header fits
  rw [frame, List.append_assoc] at held
  have front := @try_recv_front _ _ prost _ _ fifo _ _ _ (bigEndian_length 2 payload.length) held
  refine ⟨after, ?_⟩
  rw [front, header, if_neg (Nat.not_lt_of_le fits), if_neg (by simp), Op.bind_run, ran]
  cases decoded prost tcp payload <;> rfl

/-- A call that returns has read an empty message. -/
theorem returned_readable {received : Option Received} {after : tcp.Socket}
    (returned : tryRecv prost tcp socket = (.ok received, after)) :
    Readable prost contents socket := by
  intro held
  have queued : 2 ≤ (contents socket).length := by
    rw [held, frame_length]
    omega
  obtain ⟨middle, discarded, _⟩ := @discard_length _ _ prost _ _ fifo _ queued
  have front := @try_recv_front _ _ prost _ _ fifo _ _ [] (bigEndian_length 2 0) held
  have header : ofBigEndian (bigEndian 2 0) = 0 := rfl
  -- The call got as far as the bytes of the message.
  rw [returned, header, if_neg (by decide), if_neg (by decide)] at front
  obtain ⟨_, _, read, _⟩ := Op.bind_eq_ok.mp front.symm
  obtain ⟨_, _, discarded', read⟩ := Op.bind_eq_ok.mp read
  cases discarded.symm.trans discarded'
  rw [discarded]
  simp only [Nat.not_lt_zero, if_false, Op.bind_run, Op.mapErr_run] at read
  rcases ran : tcp.recvSlice 0 middle with ⟨bytes | _ | _, last⟩
  · rw [ran] at read
    by_cases none : bytes.length = 0
    · rw [List.length_eq_zero_iff.mp none]
    · simp [none] at read
  · simp [ran] at read
  · simp [ran] at read

theorem receive_receives :
    Receives frame contents (decoded prost tcp) Sized (receive prost tcp) := by
  intro socket pending rest sized split
  by_cases short : ∀ payload later, rest = payload :: later →
      (contents socket).length < (frame payload).length
  · have ran : tryRecv prost tcp socket = (.ok none, socket) :=
      try_recv_incomplete fifo sized split short
    rw [receive, ran]
    exact .incomplete rest short
  · push Not at short
    obtain ⟨payload, later, rfl, whole⟩ := short
    obtain ⟨after, ran, left⟩ :=
      @try_recv_complete _ _ prost _ _ fifo _ _ _ _ (sized payload List.mem_cons_self) split whole
    rw [receive, ran, decoded_reported]
    exact .complete payload later after whole left

end Receiver

/-! What is sent. -/
section Sender
variable {Sent Received : Type} {prost : Prost Sent Received}

/-- `encoded_len` is the number of bytes that `encode` appends. -/
def LengthKnown (prost : Prost Sent Received) : Prop :=
  ∀ msg payload, prost.encode msg = .ok payload → prost.encodedLen msg = payload.length

/-- The payload of a message, of a size that the demo can receive. -/
def Carries (prost : Prost Sent Received) (msg : Sent) (payload : Bytes) : Prop :=
  prost.encode msg = .ok payload ∧ Sized payload

theorem encode_frame (known : LengthKnown prost) {msg : Sent} {payload : Bytes}
    (carries : Carries prost msg payload) : encode prost msg = .ok (frame payload) := by
  have length := known msg payload carries.1
  have small : payload.length < 2 ^ 16 := by
    have bound := carries.2.2
    unfold maxMessageSize at bound
    omega
  simp only [encode, length, if_pos small, carries.1]
  rfl

theorem sent_stream (known : LengthKnown prost) {messages : List Sent}
    {payloads frames : List Bytes}
    (carried : List.Forall₂ (Carries prost) messages payloads)
    (sent : List.Forall₂ (fun msg bytes => encode prost msg = .ok bytes) messages frames) :
    frames.flatten = stream frame payloads := by
  induction carried generalizing frames with
  | nil =>
      cases sent
      rfl
  | cons carries _ ih =>
      cases sent with
      | cons written later =>
          rw [encode_frame known carries] at written
          cases written
          rw [List.flatten_cons, stream_cons, ih later]

theorem carried_sized {messages : List Sent} {payloads : List Bytes}
    (carried : List.Forall₂ (Carries prost) messages payloads) :
    ∀ payload ∈ payloads, Sized payload := by
  induction carried with
  | nil => simp
  | cons carries _ ih => exact List.forall_mem_cons.mpr ⟨carries.2, ih⟩

end Sender

/-- Messages arrive in chunks, and `try_recv` is called, in any order. At every moment the
results other than `Ok(None)` are those of decoding the first payloads, the buffer and the
way hold exactly the frames of the others, and the next call either waits for the rest of
its frame or takes off this frame. Once everything has arrived all payloads are delivered. -/
theorem framing_lossless {Sent Received : Type} (prost : Prost Sent Received) (tcp : TcpSocket)
    (contents : tcp.Socket → Bytes) (fifo : Fifo tcp contents (maxMessageSize + 2))
    (known : LengthKnown prost) (messages : List Sent) (payloads frames : List Bytes)
    (carried : List.Forall₂ (Carries prost) messages payloads)
    (sent : List.Forall₂ (fun msg bytes => encode prost msg = .ok bytes) messages frames)
    (start : tcp.Socket) (fresh : contents start = [])
    (world : World UInt8 (Outcome (Error tcp.Error prost.DecodeError) Received) tcp.Socket)
    (runs : Relation.ReflTransGen (Step contents (maxMessageSize + 2) (receive prost tcp))
      ⟨start, frames.flatten, []⟩ world) :
    ∃ received rest, payloads = received ++ rest ∧
      world.results = received.map (decoded prost tcp) ∧
      contents world.queue ++ world.pending = stream frame rest ∧
      (tryRecv prost tcp world.queue).1 ≠ .panic ∧
      ((∀ payload later, rest = payload :: later →
          (contents world.queue).length < (frame payload).length) →
        tryRecv prost tcp world.queue = (.ok none, world.queue)) ∧
      (∀ payload later, rest = payload :: later →
        (frame payload).length ≤ (contents world.queue).length →
        ∃ after, tryRecv prost tcp world.queue =
            (decoded prost tcp payload >>= fun value => .ok (some value), after) ∧
          contents after = (contents world.queue).drop (frame payload).length) ∧
      (∀ payload later, rest = payload :: later →
        (contents world.queue).length < (frame payload).length →
        (contents world.queue).length < maxMessageSize + 2) ∧
      (world.pending = [] →
        (((call (receive prost tcp))^[rest.length]) world).results =
          payloads.map (decoded prost tcp)) := by
  have receives : Receives frame contents (decoded prost tcp) Sized (receive prost tcp) :=
    receive_receives fifo
  have sized := carried_sized carried
  rw [sent_stream known carried sent] at runs
  obtain ⟨received, rest, splits⟩ := run_splits receives sized fresh runs
  have inside : ∀ payload ∈ rest, Sized payload := fun payload member =>
    sized payload (splits.whole ▸ List.mem_append_right received member)
  have incomplete := @try_recv_incomplete _ _ prost _ _ fifo _ _ _ inside splits.remaining
  have complete (payload : Bytes) (later : List Bytes) (next : rest = payload :: later) :=
    @try_recv_complete _ _ prost _ _ fifo _ _ _ _
      (inside payload (next ▸ List.mem_cons_self)) (next ▸ splits.remaining)
  refine ⟨received, rest, splits.whole, splits.delivered, splits.remaining, ?_, incomplete,
    complete, ?_, drains receives sized splits⟩
  · by_cases short : ∀ payload later, rest = payload :: later →
        (contents world.queue).length < (frame payload).length
    · rw [incomplete short]
      simp
    · push Not at short
      obtain ⟨payload, later, next, whole⟩ := short
      obtain ⟨after, ran, _⟩ := complete payload later next whole
      rw [ran, decoded]
      cases prost.decode payload <;> simp
  · intro payload later next short
    have bound := (inside payload (next ▸ List.mem_cons_self)).2
    rw [frame_length] at short
    omega

/-! A socket that is a list of bytes, and messages that are their own payloads; one that
starts with a zero byte cannot be decoded. -/
section Plain

def plainSocket : TcpSocket where
  Socket := Bytes
  Error := Unit
  recvQueue := List.length
  recvCapacity _ := maxMessageSize + 2
  peekSlice size := fun queue => (.ok (queue.take size), queue)
  recv f := fun queue => (.ok (f queue).2, queue.drop (f queue).1)
  recvSlice size := fun queue => (.ok (queue.take size), queue.drop size)

def plainProst : Prost Bytes Bytes where
  EncodeError := Unit
  DecodeError := Unit
  encodedLen := List.length
  encode := .ok
  decode payload := if payload.head? = some 0 then .error () else .ok payload

theorem plain_fifo : Fifo plainSocket id (maxMessageSize + 2) where
  recvQueue _ := rfl
  recvCapacity _ := rfl
  peekSlice _ _ _ := rfl
  recv := fun f queue nonempty => ⟨queue, queue.drop (f queue).1, nonempty, List.prefix_refl _,
    fun _ => ⟨rfl, rfl⟩⟩
  recvSlice queue size _ := ⟨queue.drop size, rfl, rfl⟩

/-- Three messages in four chunks, the first one split in its length and in its payload. -/
theorem framing_lossless_chunks :
    ∃ world : World UInt8 (Outcome (Error Unit Unit) Bytes) Bytes,
      Relation.ReflTransGen (Step id (maxMessageSize + 2) (receive plainProst plainSocket))
        ⟨[], [0, 2, 7, 8, 0, 1, 0, 0, 1, 5], []⟩ world ∧
      world.results = [.ok [7, 8]] ∧ ∃ calls,
      (((call (receive plainProst plainSocket))^[calls]) world).results =
        [.ok [7, 8], .err (.prostDecode ()), .ok [5]] := by
  let receives := receive plainProst plainSocket
  have first : Step id (maxMessageSize + 2) receives
      ⟨[], [0, 2, 7, 8, 0, 1, 0, 0, 1, 5], []⟩ ⟨[0], [2, 7, 8, 0, 1, 0, 0, 1, 5], []⟩ :=
    .arrive [] [0] [0] _ [] rfl (by decide)
  have waits : Step id (maxMessageSize + 2) receives
      ⟨[0], [2, 7, 8, 0, 1, 0, 0, 1, 5], []⟩ ⟨[0], [2, 7, 8, 0, 1, 0, 0, 1, 5], []⟩ :=
    .call ⟨[0], [2, 7, 8, 0, 1, 0, 0, 1, 5], []⟩
  have second : Step id (maxMessageSize + 2) receives
      ⟨[0], [2, 7, 8, 0, 1, 0, 0, 1, 5], []⟩ ⟨[0, 2, 7], [8, 0, 1, 0, 0, 1, 5], []⟩ :=
    .arrive [0] [0, 2, 7] [2, 7] _ [] rfl (by decide)
  have third : Step id (maxMessageSize + 2) receives
      ⟨[0, 2, 7], [8, 0, 1, 0, 0, 1, 5], []⟩ ⟨[0, 2, 7, 8, 0, 1], [0, 0, 1, 5], []⟩ :=
    .arrive [0, 2, 7] [0, 2, 7, 8, 0, 1] [8, 0, 1] _ [] rfl (by decide)
  have reads : Step id (maxMessageSize + 2) receives
      ⟨[0, 2, 7, 8, 0, 1], [0, 0, 1, 5], []⟩ ⟨[0, 1], [0, 0, 1, 5], [.ok [7, 8]]⟩ :=
    .call ⟨[0, 2, 7, 8, 0, 1], [0, 0, 1, 5], []⟩
  have fourth : Step id (maxMessageSize + 2) receives
      ⟨[0, 1], [0, 0, 1, 5], [.ok [7, 8]]⟩ ⟨[0, 1, 0, 0, 1, 5], [], [.ok [7, 8]]⟩ :=
    .arrive [0, 1] [0, 1, 0, 0, 1, 5] [0, 0, 1, 5] [] _ rfl (by decide)
  have runs : Relation.ReflTransGen (Step id (maxMessageSize + 2) receives)
      ⟨[], [0, 2, 7, 8, 0, 1, 0, 0, 1, 5], []⟩ ⟨[0, 1, 0, 0, 1, 5], [], [.ok [7, 8]]⟩ :=
    .head first (.head waits (.head second (.head third (.head reads (.single fourth)))))
  obtain ⟨_, rest, _, _, _, _, _, _, _, delivered⟩ := framing_lossless plainProst plainSocket id
    plain_fifo (fun _ _ written => by cases written; rfl) [[7, 8], [0], [5]] [[7, 8], [0], [5]]
    [[0, 2, 7, 8], [0, 1, 0], [0, 1, 5]]
    (.cons ⟨rfl, by decide⟩ (.cons ⟨rfl, by decide⟩ (.cons ⟨rfl, by decide⟩ .nil)))
    (.cons rfl (.cons rfl (.cons rfl .nil))) [] rfl _ runs
  exact ⟨_, runs, rfl, rest.length, delivered rfl⟩

end Plain

end Perun.DemoStream
