import Perun.Lifecycle

/-! The default signer (`sig.rs`, `sig/k256.rs`). Recovering takes 27 off the last
byte of a signature, whatever it was, and expects the `k256` crate to accept the
result. The three handlers of a channel hand the bytes they received to it. -/
namespace Perun.K256
open AbiTypes Payment Messages MessageBus Active Opening Lifecycle

/-- What is used of the `k256` crate. The sizes are those of its types; `none` and
`error` stand for its errors. -/
structure Crate where
  SigningKey : Type
  VerifyingKey : Type
  RecoverableSignature : Type
  Error : Type
  verifyingKey : SigningKey → VerifyingKey
  toEncodedPoint : VerifyingKey → Vector UInt8 65
  signPrehash : SigningKey → Hash → Except Error RecoverableSignature
  asBytes : RecoverableSignature → Vector UInt8 65
  fromBytes : Vector UInt8 65 → Except Error RecoverableSignature
  recoverVerifyingKeyFromDigestBytes : RecoverableSignature → Hash → Except Error VerifyingKey

structure Signer (crate : Crate) where
  key : crate.SigningKey
  addr : Address

section Bytes
variable {ε : Type}

/-- `u8` subtraction and addition. -/
def subU8 (build : Build) (a b : UInt8) : Outcome ε UInt8 :=
  if build.overflowChecks ∧ a < b then .panic else .ok (a - b)

def addU8 (build : Build) (a b : UInt8) : Outcome ε UInt8 :=
  if build.overflowChecks ∧ 256 ≤ a.toNat + b.toNat then .panic else .ok (a + b)

end Bytes

def question {ε α : Type} : Except ε α → Outcome ε α
  | .ok value => .ok value
  | .error error => .err error

def expect {ε δ α : Type} : Except δ α → Outcome ε α
  | .ok value => .ok value
  | .error _ => .panic

section Signing
variable (build : Build) (debugAssertions : Bool) (keccak256 : List UInt8 → Hash) (crate : Crate)

def ethPrefix : List UInt8 :=
  "\x19Ethereum Signed Message:\n32".toList.map fun char => UInt8.ofNat char.toNat

def hashToEthSignedMsgHash (hash : Hash) : Hash := keccak256 (ethPrefix ++ hash.bytes.toList)

/-- The last 20 bytes of the hash of the point without its first byte. -/
def addressOfKey (key : crate.VerifyingKey) : Address :=
  ⟨⟨⟨(keccak256 (crate.toEncodedPoint key).toList.tail).bytes.toList.drop 12⟩, by simp⟩⟩

def Signer.ofKey (key : crate.SigningKey) : Signer crate :=
  ⟨key, addressOfKey keccak256 crate (crate.verifyingKey key)⟩

def signEth {ε : Type} (signer : Signer crate) (msg : Hash) : Outcome ε Signature := do
  let sig ← expect (crate.signPrehash signer.key (hashToEthSignedMsgHash keccak256 msg))
  let sigBytes := crate.asBytes sig
  if debugAssertions ∧ sigBytes[32] &&& 0x80 ≠ 0 then .panic
  else do
    let v ← addU8 build sigBytes[64] 27
    .ok ⟨sigBytes.set 64 v⟩

def recoverSigner (msg : Hash) (ethSig : Signature) : Outcome crate.Error Address := do
  let hash := hashToEthSignedMsgHash keccak256 msg
  let v ← subU8 build ethSig.bytes[64] 27
  let sig ← expect (crate.fromBytes (ethSig.bytes.set 64 v))
  let verifyingKey ← question (crate.recoverVerifyingKeyFromDigestBytes sig hash)
  .ok (addressOfKey keccak256 crate verifyingKey)

def k256Env (sha3 : List UInt8 → Vector UInt8 32) : Env where
  build := build
  debugAssertions := debugAssertions
  keccak256 := keccak256
  sha3 := sha3
  Signer := Signer crate
  SigError := crate.Error
  address signer := signer.addr
  signEth signer msg :=
    match (signEth build debugAssertions keccak256 crate signer msg : Outcome Empty Signature) with
    | .ok sig => some sig
    | _ => none
  recoverSigner := recoverSigner build keccak256 crate

end Signing

def lowered (sig : Signature) : Vector UInt8 65 := sig.bytes.set 64 (sig.bytes[64] - 27)

/-- The last byte can be lowered in this build, and the crate accepts the result. -/
def Parses (build : Build) (crate : Crate) (sig : Signature) : Prop :=
  (build.overflowChecks = true → (27 : UInt8) ≤ sig.bytes[64]) ∧
    ∃ parsed, crate.fromBytes (lowered sig) = .ok parsed

theorem recover_signer_safe_iff (build : Build) (keccak256 : List UInt8 → Hash) (crate : Crate)
    (msg : Hash) (sig : Signature) :
    recoverSigner build keccak256 crate msg sig ≠ .panic ↔ Parses build crate sig := by
  unfold recoverSigner Parses lowered subU8
  by_cases under : build.overflowChecks = true ∧ sig.bytes[64] < 27
  · rw [if_pos under]
    exact iff_of_false (by simp) fun parses => absurd (parses.1 under.1) (by simpa using under.2)
  · rw [if_neg under, Outcome.ok_bind]
    have enough : build.overflowChecks = true → (27 : UInt8) ≤ sig.bytes[64] := by
      intro checks
      by_contra small
      exact under ⟨checks, by simpa using small⟩
    cases crate.fromBytes (sig.bytes.set 64 (sig.bytes[64] - 27)) with
    | error error => simp [expect]
    | ok parsed =>
        refine iff_of_true ?_ ⟨enough, parsed, rfl⟩
        rw [expect, Outcome.ok_bind]
        cases crate.recoverVerifyingKeyFromDigestBytes parsed
          (hashToEthSignedMsgHash keccak256 msg) <;> simp [question]

/-! A handler whose message matches aborts exactly if recovering does. -/
section Handlers
variable {env : Env}

theorem add_signature_safe_iff {channel : AgreedUponChannel env.Signer}
    {msg : LedgerChannelUpdateAccepted} (sameId : msg.channel = channel.initState.id)
    (version : msg.version = 0) :
    (AgreedUponChannel.addSignature env msg channel).1 ≠ .panic ↔
      env.recoverSigner (stateHash env channel.initState) msg.sig ≠ .panic := by
  unfold AgreedUponChannel.addSignature
  simp only [Op.bind_run, Op.get_run, sameId, version, ne_eq, not_true_eq_false, if_false,
    Op.lift_run, hash_state, Outcome.mapErr_ok]
  cases env.recoverSigner (stateHash env channel.initState) msg.sig with
  | panic => simp
  | err error => simp
  | ok signer =>
      cases found : channel.params.participants.toList.findIdx? (fun part => part == signer) with
      | none => simp [found]
      | some partIdx =>
          have bound : partIdx < 2 := by
            obtain ⟨bound, _⟩ := List.findIdx?_eq_some_iff_getElem.mp found
            rwa [Vector.length_toList] at bound
          cases slot : channel.signatures[partIdx] with
          | some held => simp [found, Outcome.index, bound, slot]
          | none => simp [found, Outcome.index, bound, slot, Op.bind_run, store_of_lt]

theorem handle_update_safe_iff {channel : ActiveChannel env.Signer} {msg : LedgerChannelUpdate}
    (valid : ValidTransition env channel.state msg.state) (bound : msg.actorIdx < 2) :
    channel.handleUpdate env msg ≠ .panic ↔
      env.recoverSigner (stateHash env msg.state) msg.sig ≠ .panic := by
  unfold ActiveChannel.handleUpdate
  rw [check_valid_transition_iff.mpr valid]
  simp only [Outcome.mapErr_ok, Outcome.ok_bind, hash_state]
  cases env.recoverSigner (stateHash env msg.state) msg.sig with
  | panic => simp
  | err error => simp
  | ok signer =>
      simp only [Outcome.index, Vector.getElem?_eq_getElem bound, Outcome.mapErr_ok,
        Outcome.ok_bind, Outcome.unwrap_some, ChannelUpdate.create, store_of_lt _ _ bound]
      split <;> simp

theorem participant_accepted_safe_iff {channel : ActiveChannel env.Signer} {update : ChannelUpdate}
    {partIdx : PartIdx} {msg : LedgerChannelUpdateAccepted} (matching : Matches env update channel)
    (sameId : msg.channel = update.channelId) (version : msg.version = update.newState.version)
    (bound : partIdx < 2) :
    (ChannelUpdate.participantAccepted env channel partIdx msg update).1 ≠ .panic ↔
      env.recoverSigner (stateHash env update.newState) msg.sig ≠ .panic := by
  unfold ChannelUpdate.participantAccepted
  simp only [Op.bind_run, Op.get_run, Op.lift_run, ensure_valid_channel_iff.mpr matching, sameId,
    version, ne_eq, not_true_eq_false, if_false, hash_state, Outcome.mapErr_ok]
  cases env.recoverSigner (stateHash env update.newState) msg.sig with
  | panic => simp
  | err error => simp
  | ok signer =>
      by_cases same : channel.params.participants[partIdx] = signer
      · cases slot : update.signatures[partIdx] with
        | some held => simp [Outcome.index, bound, same, slot, Op.bind_run]
        | none => simp [Outcome.index, bound, same, slot, Op.bind_run, store_of_lt]
      · simp [Outcome.index, bound, same]

/-- Recovering and the three handlers return for a signature exactly under the given
condition, whatever else is in the channel. -/
structure ReturnsFor (env : Env) (sig : Signature) (condition : Prop) : Prop where
  recoverSigner : ∀ hash, env.recoverSigner hash sig ≠ .panic ↔ condition
  addSignature : ∀ (channel : AgreedUponChannel env.Signer) (msg : LedgerChannelUpdateAccepted),
    msg.sig = sig → msg.channel = channel.initState.id → msg.version = 0 →
    ((AgreedUponChannel.addSignature env msg channel).1 ≠ .panic ↔ condition)
  handleUpdate : ∀ (channel : ActiveChannel env.Signer) (msg : LedgerChannelUpdate),
    msg.sig = sig → ValidTransition env channel.state msg.state → msg.actorIdx < 2 →
    (channel.handleUpdate env msg ≠ .panic ↔ condition)
  participantAccepted : ∀ (channel : ActiveChannel env.Signer) (update : ChannelUpdate)
    (partIdx : PartIdx) (msg : LedgerChannelUpdateAccepted), msg.sig = sig →
    Matches env update channel → msg.channel = update.channelId →
    msg.version = update.newState.version → partIdx < 2 →
    ((ChannelUpdate.participantAccepted env channel partIdx msg update).1 ≠ .panic ↔ condition)

end Handlers

/-- With the signer of `k256` no handler aborts for the bytes that parse, and each one
does for all others. -/
theorem signature_bytes_return_iff (build : Build) (debugAssertions : Bool)
    (keccak256 : List UInt8 → Hash) (crate : Crate) (sha3 : List UInt8 → Vector UInt8 32)
    (sig : Signature) :
    ReturnsFor (k256Env build debugAssertions keccak256 crate sha3) sig
      (Parses build crate sig) where
  recoverSigner hash := recover_signer_safe_iff build keccak256 crate hash sig
  addSignature channel msg same sameId version := by
    rw [add_signature_safe_iff sameId version, same]
    exact recover_signer_safe_iff build keccak256 crate _ sig
  handleUpdate channel msg same valid bound := by
    rw [handle_update_safe_iff valid bound, same]
    exact recover_signer_safe_iff build keccak256 crate _ sig
  participantAccepted channel update partIdx msg same matching sameId version bound := by
    rw [participant_accepted_safe_iff matching sameId version bound, same]
    exact recover_signer_safe_iff build keccak256 crate _ sig

/-! A crate of the right sizes that refuses a recovery id above one. The signature of
zeros aborts in both kinds of build, in a channel that is not signed yet. -/
section Plain

def plainCrate : Crate where
  SigningKey := Vector UInt8 65
  VerifyingKey := Vector UInt8 65
  RecoverableSignature := Vector UInt8 65
  Error := Unit
  verifyingKey key := key
  toEncodedPoint key := key
  signPrehash key _ := .ok (key.set 64 0)
  asBytes sig := sig
  fromBytes bytes := if bytes[64] ≤ 1 then .ok bytes else .error ()
  recoverVerifyingKeyFromDigestBytes sig _ := .ok sig

def plainK256 (overflowChecks : Bool) : Env :=
  k256Env ⟨.bits32, overflowChecks⟩ true plainEnv.keccak256 plainCrate checksum

def zeroSignature : Signature := ⟨Vector.replicate 65 0⟩

theorem zero_signature_aborts : ∃ client receiver start channel bus msg,
    Starts client receiver plainProposal [] start ∧
    Relation.ReflTransGen Advances start (.agreedUpon channel bus) ∧
    msg.channel = channel.initState.id ∧ msg.version = 0 ∧
    (AgreedUponChannel.addSignature (plainK256 true) msg channel).1 = .panic ∧
    ∀ hash, (plainK256 false).recoverSigner hash msg.sig = .panic := by
  let signer : Signer plainCrate :=
    Signer.ofKey plainEnv.keccak256 plainCrate (Vector.replicate 65 1)
  let client : PerunClient (plainK256 true).Signer := ⟨signer⟩
  let receiver := plainProposal.participant
  let channel := plainAgreedIn (plainK256 true) client receiver
  obtain ⟨start, bus, starts, reached⟩ := plain_agreed_reached (plainK256 true) client receiver
  refine ⟨client, receiver, start, channel, bus, ⟨channel.initState.id, 0, zeroSignature⟩, starts,
    reached, rfl, rfl, ?_, ?_⟩
  · by_contra returns
    rw [← ne_eq, add_signature_safe_iff rfl rfl] at returns
    have parses := (recover_signer_safe_iff _ _ _ _ _).mp returns
    exact absurd (parses.1 rfl) (by decide)
  · intro hash
    by_contra returns
    obtain ⟨_, parsed, accepted⟩ := (recover_signer_safe_iff _ _ _ _ _).mp returns
    cases accepted

end Plain
end Perun.K256
