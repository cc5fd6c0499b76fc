import Perun.Messages
import Perun.TwoParty

/-! What a channel works with: the crates it is compiled against and the bus of
its client. The bus is the list of everything sent so far, so that the absence of
a message can be stated; the methods of a channel run on the channel and the bus. -/
namespace Perun.MessageBus
open BigEndian AbiTypes Payment Messages TwoParty

/-- The build and the dependencies. `signEth` is `none` where signing aborts. The
key of the own signer is not an input of `recover_signer`. -/
structure Env where
  build : Build
  debugAssertions : Bool
  keccak256 : List UInt8 → Hash
  sha3 : List UInt8 → Vector UInt8 32
  Signer : Type
  SigError : Type
  address : Signer → Address
  signEth : Signer → Hash → Option Signature
  recoverSigner : Hash → Signature → Outcome SigError Address

/-! An environment that can be evaluated: hashes are remainders modulo a prime,
and a signature names its signer and what was signed. -/
section Plain

def checksum (bytes : List UInt8) : Vector UInt8 32 :=
  ⟨⟨bigEndian 32 (ofBigEndian bytes % (2 ^ 256 - 189))⟩, by simp⟩

def plainSign (signer : Address) (hash : Hash) : Signature :=
  ⟨⟨⟨signer.bytes.toList ++ hash.bytes.toList ++ List.replicate 13 0⟩, by simp⟩⟩

def plainSigner (sig : Signature) : Address := ⟨⟨⟨sig.bytes.toList.take 20⟩, by simp⟩⟩

def plainEnv : Env where
  build := ⟨.bits32, true⟩
  debugAssertions := true
  keccak256 bytes := ⟨checksum bytes⟩
  sha3 := checksum
  Signer := Address
  SigError := Signature
  address signer := signer
  signEth signer hash := some (plainSign signer hash)
  recoverSigner hash sig :=
    if sig = plainSign (plainSigner sig) hash then .ok (plainSigner sig) else .err sig

theorem plain_signer (signer : Address) (hash : Hash) :
    plainSigner (plainSign signer hash) = signer := by
  rcases signer with ⟨bytes⟩
  simp only [plainSigner, plainSign, Address.mk.injEq]
  apply vector_ext
  simp

theorem plain_recover (signer : Address) (hash : Hash) :
    plainEnv.recoverSigner hash (plainSign signer hash) = .ok signer := by
  dsimp only [plainEnv]
  rw [plain_signer]
  exact if_pos rfl

theorem plain_sign_hash {signer signer' : Address} {hash hash' : Hash}
    (same : plainSign signer hash = plainSign signer' hash') : hash = hash' := by
  have bytes := congrArg (fun sig => (sig.bytes.toList.drop 20).take 32) same
  rcases hash with ⟨bytes'⟩
  rw [Hash.mk.injEq]
  apply vector_ext
  simpa [plainSign] using bytes

/-- A signature of one hash is none of another hash. -/
theorem plain_unrecovered {signer : Address} {hash hash' : Hash} (different : hash ≠ hash') :
    plainEnv.recoverSigner hash' (plainSign signer hash) = .err (plainSign signer hash) :=
  if_neg fun same => different (plain_sign_hash same)

theorem plain_recovers (signer : plainEnv.Signer) (hash : Hash) (sig : Signature)
    (signed : plainEnv.signEth signer hash = some sig) :
    plainEnv.recoverSigner hash sig = .ok (plainEnv.address signer) := by
  cases signed
  exact plain_recover signer hash

end Plain

/-- The bus of a client is kept apart, see `Bus`. -/
structure PerunClient (Signer : Type) where
  signer : Signer

inductive Sent where
  | toWatcher (msg : WatcherRequestMessage)
  | toFunder (msg : FunderRequestMessage)
  | toParticipant (sender recipient : Identity) (msg : ParticipantMessage)
  deriving DecidableEq

abbrev Bus := List Sent

variable {ε σ α : Type}

def send (msg : Sent) : Op ε Bus Unit := Op.modify fun bus => bus ++ [msg]

/-- The messages of a broadcast: one to every peer but the sender. -/
def broadcast (partIdx : PartIdx) (sender : Identity) (peers : Peers) (msg : ParticipantMessage) :
    List Sent :=
  (peers.zipIdx.filter fun peer => peer.2 ≠ partIdx).map fun peer =>
    .toParticipant sender peer.1 msg

-- The own identity is looked up first, which aborts if there is none.
def broadcastToParticipants (partIdx : PartIdx) (peers : Peers) (msg : ParticipantMessage) :
    Op ε Bus Unit := do
  let sender ← Op.lift (Outcome.unwrap peers[partIdx]?)
  Op.modify fun bus => bus ++ broadcast partIdx sender peers msg

/-- A step on the bus beside the object whose method runs. -/
def onBus (step : Op ε Bus α) : Op ε (σ × Bus) α := fun state =>
  let after := step state.2
  (after.1, (state.1, after.2))

/-- A method that does not send. -/
def offBus (method : Op ε σ α) : Op ε (σ × Bus) α := fun (object, bus) =>
  let after := method object
  (after.1, (after.2, bus))

@[simp] theorem send_run (msg : Sent) (bus : Bus) :
    (send msg : Op ε Bus Unit) bus = (.ok (), bus ++ [msg]) := rfl

@[simp] theorem on_bus_run (step : Op ε Bus α) (object : σ) (bus : Bus) :
    onBus step (object, bus) = ((step bus).1, (object, (step bus).2)) := rfl

theorem broadcast_run (partIdx : PartIdx) (peers : Peers) (msg : ParticipantMessage) (bus : Bus) :
    (broadcastToParticipants partIdx peers msg : Op ε Bus Unit) bus =
      match peers[partIdx]? with
      | some sender => (.ok (), bus ++ broadcast partIdx sender peers msg)
      | none => (.panic, bus) := by
  unfold broadcastToParticipants
  rw [Op.bind_run]
  cases peers[partIdx]? <;> rfl

theorem broadcast_infallible (partIdx : PartIdx) (peers : Peers) (msg : ParticipantMessage) :
    Op.Infallible (broadcastToParticipants partIdx peers msg : Op ε Bus Unit) := by
  intro bus error
  rw [broadcast_run]
  cases peers[partIdx]? <;> simp

theorem on_bus_infallible {step : Op ε Bus α} (infallible : Op.Infallible step) :
    Op.Infallible (onBus step : Op ε (σ × Bus) α) := fun state error => infallible state.2 error

theorem on_bus_keeps {β : Type} (view : σ → β) (step : Op ε Bus α) :
    Op.Keeps (fun state : σ × Bus => view state.1) (onBus step) := fun _ => rfl

/-- Between two peers a broadcast is one message to the other one. -/
theorem broadcast_pair (partIdx : PartIdx) (first second : Identity) (msg : ParticipantMessage)
    (bound : partIdx < 2) (sender : Identity) :
    broadcast partIdx sender [first, second] msg =
      [.toParticipant sender (if partIdx = 0 then second else first) msg] := by
  interval_cases partIdx <;> rfl

/-- The messages to the given identity. -/
def inbox (recipient : Option Identity) (bus : Bus) : List ParticipantMessage :=
  bus.filterMap fun sent =>
    match sent with
    | .toParticipant _ peer msg => if recipient = some peer then some msg else none
    | _ => none

theorem inbox_append (recipient : Option Identity) (bus sent : Bus) :
    inbox recipient (bus ++ sent) = inbox recipient bus ++ inbox recipient sent :=
  List.filterMap_append

/-- A broadcast between two parties is heard by the other one. -/
theorem inbox_broadcast {peers : Peers} (pair : peers.length = 2) (side : Side) (sender : Identity)
    (bus : Bus) (msg : ParticipantMessage) :
    inbox peers[side.other.partIdx]? (bus ++ broadcast side.partIdx sender peers msg) =
      inbox peers[side.other.partIdx]? bus ++ [msg] := by
  obtain ⟨first, second, rfl⟩ := List.length_eq_two.mp pair
  rw [inbox_append, broadcast_pair side.partIdx first second msg side.partIdx_lt sender]
  cases side <;> simp [inbox, Side.partIdx, Side.other]

/-- Writing to a fixed array aborts outside its bounds. -/
def store {n : Nat} (values : Vector α n) (position : Nat) (value : α) :
    Outcome ε (Vector α n) :=
  if position < n then .ok (values.setIfInBounds position value) else .panic

theorem store_of_lt {n : Nat} (values : Vector α n) {position : Nat} (value : α)
    (bound : position < n) :
    (store values position value : Outcome ε (Vector α n)) =
      .ok (values.setIfInBounds position value) := if_pos bound

end Perun.MessageBus
