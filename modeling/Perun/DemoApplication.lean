import Perun.DemoRun
import Perun.Encoding

/-! The application of the embedded demo (`cortex-m-demo/src/application.rs`) over two TCP
sockets, with its bus (`bus.rs`). It fetches two addresses, waits for a button or for a
connection, opens a channel and feeds it with the messages that arrive. A method of it
runs on the whole application; what its client sends goes through the sockets. -/
namespace Perun.DemoApplication
open AbiTypes Payment Messages MessageBus Active Opening Wire Encoding
open DemoChannel (ChannelInner WatcherReplyMessage FunderReplyMessage)

abbrev Bytes := List UInt8

/-- The methods of a `TcpSocket` that are called beside those of `try_recv`. An address
of `connect` is an IP address and a port. -/
structure Smoltcp extends DemoStream.TcpSocket where
  IpAddress : Type
  unspecified : IpAddress
  connect : IpAddress × BitVec 16 → IpAddress × BitVec 16 → Op Error Socket Unit
  listen : BitVec 16 → Op Error Socket Unit
  sendSlice : Bytes → Op Error Socket Nat
  close : Socket → Socket
  abort : Socket → Socket
  isActive : Socket → Bool
  isOpen : Socket → Bool
  isListening : Socket → Bool
  mayRecv : Socket → Bool
  maySend : Socket → Bool
  canRecv : Socket → Bool

structure Rand where
  StdRng : Type
  gen : StdRng → Vector UInt8 32 × StdRng
  nextU32 : StdRng → BitVec 32 × StdRng

/-- The crates that the demo is compiled against. -/
structure Platform where
  env : Env
  tcp : Smoltcp
  rand : Rand
  envelope : DemoStream.Prost perunwire.Envelope perunwire.Envelope
  message : DemoStream.Prost perunwire.Message perunwire.Message

/-- The names of the participants are their bytes. -/
structure Config (p : Platform) where
  configServer : p.tcp.IpAddress × BitVec 16
  otherParticipant : p.tcp.IpAddress × BitVec 16
  serviceServer : p.tcp.IpAddress × BitVec 16
  listenPort : BitVec 16
  participants : Vector Identity 2

inductive ApplicationState (Signer : Type) where
  | initialState
  | connectingToConfigDealer
  | closingSockets (ethHolder withdrawReceiver : Address)
  | listening (ethHolder withdrawReceiver : Address)
  | waitForProposal (ethHolder withdrawReceiver : Address)
  | connecting (ethHolder withdrawReceiver : Address)
  | waitForHandshake (ethHolder withdrawReceiver : Address)
  | active (ethHolder withdrawReceiver : Address) (channel : ChannelInner Signer)

inductive Error (p : Platform) where
  | network (error : p.tcp.Error)
  | invalidProposal (error : InvalidProposal)
  | prostDecode (error : p.envelope.DecodeError ⊕ p.message.DecodeError)
  | envelopeHasNoMsg
  | unexpectedMsg
  | conversionError (error : ConversionError)
  | channelError (error : DemoChannel.Error p.env.SigError)
  | invalidState
  | messageLargerThanRxBuffer (size : Nat)
  | proposalBuildError (error : ProposalBuildError)
  | signError (error : SignError)

inductive SocketHandle where
  | participant
  | service
  deriving DecidableEq

/-- The sockets of the network interface. -/
structure Interface (p : Platform) where
  participant : p.tcp.Socket
  service : p.tcp.Socket

def Interface.getSocket {p : Platform} (iface : Interface p) : SocketHandle → p.tcp.Socket
  | .participant => iface.participant
  | .service => iface.service

def Interface.setSocket {p : Platform} (iface : Interface p) (socket : p.tcp.Socket) :
    SocketHandle → Interface p
  | .participant => { iface with participant := socket }
  | .service => { iface with service := socket }

/-- What changes while the application runs. The bus keeps what was sent so far. -/
structure Application (p : Platform) where
  state : ApplicationState p.env.Signer
  iface : Interface p
  rng : p.rand.StdRng
  sent : Bus

/-- What does not change. -/
structure Setup (p : Platform) where
  config : Config p
  client : PerunClient p.env.Signer
  addr : Address

abbrev Method (p : Platform) (α : Type) := Op (Error p) (Application p) α

/-! The sockets. -/
section Sockets
variable {p : Platform} {ε α : Type}

def onSocket (handle : SocketHandle) (convert : ε → Error p) (step : Op ε p.tcp.Socket α) :
    Method p α := fun app =>
  let after := step (app.iface.getSocket handle)
  (after.1.mapErr convert, { app with iface := app.iface.setSocket after.2 handle })

def changeSocket (handle : SocketHandle) (change : p.tcp.Socket → p.tcp.Socket) : Method p Unit :=
  Op.modify fun app =>
    { app with iface := app.iface.setSocket (change (app.iface.getSocket handle)) handle }

def setState (state : ApplicationState p.env.Signer) : Method p Unit :=
  Op.modify fun app => { app with state := state }

def gen : Method p (Vector UInt8 32) := fun app =>
  let (value, rng) := p.rand.gen app.rng
  (.ok value, { app with rng := rng })

def getEthemeralPort : Method p (BitVec 16) := fun app =>
  let (value, rng) := p.rand.nextU32 app.rng
  (.ok (49152 + value.setWidth 16 % (65535 - 49152)), { app with rng := rng })

/-- `Bus::send`: all of the message has to fit. -/
def busSend (handle : SocketHandle) (msg : Bytes) : Op ε (Interface p) Unit := fun iface =>
  match p.tcp.sendSlice msg (iface.getSocket handle) with
  | (.ok written, socket) =>
      (if written = msg.length then .ok () else .panic, iface.setSocket socket handle)
  | (_, socket) => (.panic, iface.setSocket socket handle)

/-- `ProtoBufEncodingLayer` over the bus. -/
def sendMsg : Sent → Op ε (Interface p) Unit
  | .toWatcher msg => do
      let msg ← Op.lift (watcherMsgToWire p.env.build p.env.keccak256 msg).unwrapErr
      let bytes ← Op.lift (DemoStream.encode p.message ⟨some msg⟩).unwrapErr
      busSend .service bytes
  | .toFunder msg => do
      let msg ← Op.lift (funderMsgToWire p.env.build p.env.keccak256 msg).unwrapErr
      let bytes ← Op.lift (DemoStream.encode p.message ⟨some msg⟩).unwrapErr
      busSend .service bytes
  | .toParticipant sender recipient msg => do
      let bytes ← Op.lift (DemoStream.encode p.envelope
        ⟨sender, recipient, some (participantMsgToWire msg)⟩).unwrapErr
      busSend .participant bytes

def sendEach : List Sent → Op ε (Interface p) Unit
  | [] => pure ()
  | msg :: rest => do
      sendMsg msg
      sendEach rest

/-- The end of a method of the client: what is new on the bus has gone through the sockets,
and the method aborts where that was not possible. -/
def transmit (result : Outcome (Error p) α) (sent : Bus) : Method p α := fun app =>
  match (sendEach (sent.drop app.sent.length) app.iface : Outcome Empty Unit × Interface p) with
  | (.ok _, iface) => (result, { app with iface := iface, sent := sent })
  | (_, iface) => (.panic, { app with iface := iface, sent := sent })

def onClient (convert : ε → Error p) (step : Op ε Bus α) : Method p α := fun app =>
  let after := step app.sent
  transmit (after.1.mapErr convert) after.2 app

/-- `unwrap` of what a method returns. -/
def unwrapped {σ δ : Type} (step : Op ε σ α) : Op δ σ α := fun state =>
  let after := step state
  (after.1.unwrapErr, after.2)

end Sockets

section Code
variable {p : Platform} (setup : Setup p)

/-! Before there is a channel. -/

def connectConfigDealer : Method p Unit := do
  let port ← getEthemeralPort
  onSocket .participant .network
    (p.tcp.connect setup.config.configServer (p.tcp.unspecified, port))
  setState .connectingToConfigDealer

/-- The closure of `recv`: two addresses, or nothing as long as they are not all there. -/
def readConfig (x : Bytes) : Nat × Option (Address × Address) :=
  if enough : 40 ≤ x.length then
    (40, some (⟨⟨⟨x.take 20⟩, by simp; omega⟩⟩, ⟨⟨⟨(x.drop 20).take 20⟩, by simp; omega⟩⟩))
  else (0, none)

def waitConnectedAndReadConfig : Method p Unit := do
  let app ← Op.get
  if p.tcp.isActive app.iface.participant && p.tcp.canRecv app.iface.participant then do
    match ← onSocket .participant .network (p.tcp.recv readConfig) with
    | some (ethHolder, withdrawReceiver) => do
        setState (.closingSockets ethHolder withdrawReceiver)
        changeSocket .participant p.tcp.close
    | none => pure ()
  else pure ()

def waitConnectionsClosed (ethHolder withdrawReceiver : Address) : Method p Unit := do
  let app ← Op.get
  if !p.tcp.isActive app.iface.service && !p.tcp.isActive app.iface.participant then do
    onSocket .participant .network (p.tcp.listen setup.config.listenPort)
    setState (.listening ethHolder withdrawReceiver)
  else pure ()

def receiveError {DecodeError : Type}
    (convert : DecodeError → p.envelope.DecodeError ⊕ p.message.DecodeError) :
    DemoStream.Error p.tcp.Error DecodeError → Error p
  | .network error => .network error
  | .prostDecode error => .prostDecode (convert error)
  | .messageLargerThanRxBuffer size => .messageLargerThanRxBuffer size

def tryRecvEnvelope : Method p (Option perunwire.Envelope) :=
  onSocket .participant (receiveError .inl) (DemoStream.tryRecv p.envelope p.tcp.toTcpSocket)

def tryRecvMessage : Method p (Option perunwire.Message) :=
  onSocket .service (receiveError .inr) (DemoStream.tryRecv p.message p.tcp.toTcpSocket)

def peer0 : Identity :=
  [0x7b, 0x7E, 0x21, 0x26, 0x52, 0xb9, 0xC3, 0x75, 0x5C, 0x4E, 0x1f, 0x17, 0x18, 0xa1, 0x42, 0xdD,
    0xE3, 0x81, 0x75, 0x23]

def sendHandshakeMsg (sender recipient : Identity) : Method p Unit :=
  onClient (fun error : Empty => nomatch error) (send (.toParticipant sender recipient .auth))

def connectService : Method p Unit := do
  let port ← getEthemeralPort
  onSocket .service .network
    (p.tcp.connect setup.config.serviceServer (p.tcp.unspecified, port))

/-- The recipient of the handshake is not looked at. -/
def checkIncommingConnection (ethHolder withdrawReceiver : Address) : Method p Unit := do
  let app ← Op.get
  if !p.tcp.isOpen app.iface.participant || !p.tcp.mayRecv app.iface.participant then pure ()
  else do
    match ← tryRecvEnvelope with
    | none => pure ()
    | some ⟨sender, _, some .authResponseMsg⟩ => do
        sendHandshakeMsg peer0 sender
        connectService setup
        setState (.waitForProposal ethHolder withdrawReceiver)
    | some ⟨_, _, some _⟩ => Op.fail .unexpectedMsg
    | some ⟨_, _, none⟩ => Op.fail .invalidState

def tryRecvParticipantMsg : Method p (Option ParticipantMessage) := do
  match ← tryRecvEnvelope with
  | none => pure none
  | some ⟨_, _, none⟩ => Op.fail .envelopeHasNoMsg
  | some ⟨_, _, some msg⟩ => do
      let msg ← Op.lift ((participantMsgFromWire msg).mapErr .conversionError)
      pure (some msg)

/-- The proposal is accepted, built and signed at once. -/
def acceptProposal (ethHolder withdrawReceiver : Address) (prop : LedgerChannelProposal) :
    Method p Unit := do
  let channel ← Op.lift
    ((handleProposal p.env setup.client prop withdrawReceiver).mapErr .invalidProposal)
  let nonceShare ← gen
  let channel ← onClient (fun error : Empty => nomatch error) (unwrapped
    (DemoChannel.call channel (ProposedChannel.accept p.env ⟨nonceShare⟩ setup.addr)
      fun _ error => error))
  let channel ← Op.lift ((channel.build p.env).mapErr fun (_, error) => .proposalBuildError error)
  let channel ← onClient .signError
    (DemoChannel.call channel (AgreedUponChannel.sign p.env) fun _ error => error)
  setState (.active ethHolder withdrawReceiver (.agreedUpon channel))

def waitConnectedAndProposalMsg (ethHolder withdrawReceiver : Address) : Method p Unit := do
  let app ← Op.get
  if !p.tcp.isOpen app.iface.service then pure ()
  else do
    match ← tryRecvParticipantMsg with
    | some (.channelProposal prop) => acceptProposal setup ethHolder withdrawReceiver prop
    | some _ => Op.fail .invalidState
    | none => pure ()

def connect (ethHolder withdrawReceiver : Address) : Method p Unit := do
  let app ← Op.get
  if p.tcp.isListening app.iface.participant then changeSocket .participant p.tcp.abort
  else pure ()
  let port ← getEthemeralPort
  onSocket .participant .network
    (p.tcp.connect setup.config.otherParticipant (p.tcp.unspecified, port))
  connectService setup
  setState (.connecting ethHolder withdrawReceiver)

def waitConnectedAndSendHandshake (ethHolder withdrawReceiver : Address) : Method p Unit := do
  let app ← Op.get
  let psocket := app.iface.participant
  if p.tcp.isActive psocket && p.tcp.mayRecv psocket && p.tcp.maySend psocket then do
    sendHandshakeMsg (setup.config.participants.get 0) (setup.config.participants.get 1)
    setState (.waitForHandshake ethHolder withdrawReceiver)
  else pure ()

def proposal (ethHolder : Address) (proposalId nonceShare : Vector UInt8 32) :
    LedgerChannelProposal :=
  let initBalance := Vector.replicate 1 (Vector.replicate 2 100000)
  { proposalId := ⟨proposalId⟩
    challengeDuration := 25
    nonceShare := ⟨nonceShare⟩
    initBals := ⟨Vector.replicate 1 ⟨ethHolder⟩, initBalance⟩
    fundingAgreement := initBalance
    participant := setup.addr
    peers := setup.config.participants.toList }

def sendChannelProposal (ethHolder withdrawReceiver : Address) : Method p Unit := do
  let proposalId ← gen
  let nonceShare ← gen
  let channel ← onClient .invalidProposal
    (Opening.proposeChannel p.env setup.client (proposal setup ethHolder proposalId nonceShare)
      withdrawReceiver)
  setState (.active ethHolder withdrawReceiver (.proposed channel))

def waitHandshakeAndProposeChannel (ethHolder withdrawReceiver : Address) : Method p Unit := do
  match ← tryRecvParticipantMsg with
  | some .auth => sendChannelProposal setup ethHolder withdrawReceiver
  | some _ => Op.fail .unexpectedMsg
  | none => pure ()

/-! With a channel. -/

def tryRecvServiceMsg : Method p (Option ServiceReplyMessage) := do
  match ← tryRecvMessage with
  | none => pure none
  | some ⟨none⟩ => Op.fail .envelopeHasNoMsg
  | some ⟨some msg⟩ => do
      let msg ← Op.lift ((serviceMsgFromWire msg).mapErr .conversionError)
      pure (some msg)

/-- A method of the channel in the state. -/
def onChannel (ethHolder withdrawReceiver : Address) (channel : ChannelInner p.env.Signer)
    (method : DemoChannel.Method p.env) : Method p Unit := fun app =>
  let after := method (channel, app.sent)
  transmit (after.1.mapErr .channelError) after.2.2
    { app with state := .active ethHolder withdrawReceiver after.2.1 }

/-- `Channel::is_closed`. -/
def isClosed {Signer : Type} : ChannelInner Signer → Bool
  | .closed => true
  | _ => false

/-- The sockets of a closed channel are given back. -/
def closeIfClosed : Method p Unit := do
  let app ← Op.get
  match app.state with
  | .active ethHolder withdrawReceiver channel =>
      if isClosed channel then do
        changeSocket .participant p.tcp.close
        changeSocket .service p.tcp.close
        setState (.closingSockets ethHolder withdrawReceiver)
      else pure ()
  | _ => pure ()

def forwardMessages {Msg : Type} (recv : Method p (Option Msg))
    (process : Msg → DemoChannel.Method p.env) : Method p Bool := do
  match ← recv with
  | some msg => do
      let app ← Op.get
      match app.state with
      | .active ethHolder withdrawReceiver channel => do
          onChannel ethHolder withdrawReceiver channel (process msg)
          closeIfClosed
          pure true
      -- This function is only called in `Active`.
      | _ => Op.lift .panic
  | none => pure false

def serviceCall : ServiceReplyMessage → DemoRun.Call
  | .watcher msg => .watcherReply msg
  | .funder msg => .funderReply msg

/-- At most one message is processed. -/
def forwardMessagesToChannel : Method p Unit := do
  let hasParticipantMsg ← forwardMessages tryRecvParticipantMsg
    (DemoChannel.processParticipantMsg p.env)
  if hasParticipantMsg then pure ()
  else do
    let _ ← forwardMessages tryRecvServiceMsg fun msg => (serviceCall msg).run p.env
    pure ()

/-! The interface of the application. -/

def poll : Method p Unit := do
  let app ← Op.get
  match app.state with
  | .initialState => connectConfigDealer setup
  | .connectingToConfigDealer => waitConnectedAndReadConfig
  | .closingSockets ethHolder withdrawReceiver =>
      waitConnectionsClosed setup ethHolder withdrawReceiver
  | .listening ethHolder withdrawReceiver =>
      checkIncommingConnection setup ethHolder withdrawReceiver
  | .waitForProposal ethHolder withdrawReceiver =>
      waitConnectedAndProposalMsg setup ethHolder withdrawReceiver
  | .connecting ethHolder withdrawReceiver =>
      waitConnectedAndSendHandshake setup ethHolder withdrawReceiver
  | .waitForHandshake ethHolder withdrawReceiver =>
      waitHandshakeAndProposeChannel setup ethHolder withdrawReceiver
  | .active _ _ _ => forwardMessagesToChannel

def update (amount : U256) (isFinal : Bool) : Method p Unit := do
  let app ← Op.get
  match app.state with
  | .active ethHolder withdrawReceiver channel =>
      onChannel ethHolder withdrawReceiver channel (DemoChannel.update p.env amount isFinal)
  | _ => Op.fail .invalidState

def forceClose : Method p Unit := do
  let app ← Op.get
  match app.state with
  | .active ethHolder withdrawReceiver channel =>
      onChannel ethHolder withdrawReceiver channel (DemoChannel.forceClose p.env)
  | _ => Op.fail .invalidState

def proposeChannel : Method p Unit := do
  let app ← Op.get
  match app.state with
  | .listening ethHolder withdrawReceiver => connect setup ethHolder withdrawReceiver
  | _ => Op.fail .invalidState

end Code
end Perun.DemoApplication
