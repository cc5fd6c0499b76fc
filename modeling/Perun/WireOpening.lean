import Perun.Encoding
import Perun.OpeningAgreement

/-! The two parties of an opening with the wire between them: what one of them says arrives
as the conversions read it. Only the asset holder of the proposal can get lost on the way,
and then the parties sign different states. -/
namespace Perun.WireOpening
open AbiTypes Payment Messages MessageBus Active Opening Encoding TwoParty OpeningAgreement

/-- A message that cannot be read does not arrive; it may also have aborted the receiver. -/
def arrives (msg : ParticipantMessage) : Option ParticipantMessage :=
  match participantMsgFromWire (participantMsgToWire msg) with
  | .ok msg => some msg
  | _ => none

section System
variable (env : Env) (script : Script env)

def wired : System (Party env) Move ParticipantMessage Unit where
  advance := advance env script
  sent side party := ((system env script).sent side party).filterMap arrives

end System

/-- The script as the responder knows it. -/
def received {env : Env} (script : Script env) : Script env :=
  { script with
    proposal := { script.proposal with initBals := zeroHolder script.proposal.initBals } }

def holder {env : Env} (script : Script env) : Address :=
  holderOf script.proposal.initBals

/-- What each of the two follows. -/
def known {env : Env} (script : Script env) : Side → Script env
  | .first => script
  | .second => received script

section Arrivals
variable {env : Env} {script : Script env} {sig : Side → Signature} {side : Side}
  {msg msg' : ParticipantMessage}

theorem word_indexed (word : Word script sig side msg) : Indexed msg := by
  cases msg with
  | channelUpdate msg => cases word
  | _ => trivial

theorem word_arrives (word : Word script sig side msg) (arrived : arrives msg = some msg') :
    Word (received script) sig side msg' := by
  rw [arrives, sent_message_received msg (word_indexed word)] at arrived
  cases msg with
  | channelProposal msg =>
      cases word
      simp only [carriedHolder] at arrived
      cases read : readHolder (holderOf script.proposal.initBals) with
      | ok _ =>
          rw [read] at arrived
          cases arrived
          rfl
      | err _ =>
          rw [read] at arrived
          cases arrived
      | panic =>
          rw [read] at arrived
          cases arrived
  | proposalAccepted msg =>
      cases word
      cases arrived
      rfl
  | channelUpdateAccepted msg =>
      cases word
      cases arrived
      rfl
  | _ => cases word

/-- With the zero holder every word arrives unchanged. -/
theorem zero_word_arrives (zero : holder script = Address.zero) (word : Word script sig side msg) :
    arrives msg = some msg := by
  have unheld (carried : Address) (held : carriedHolder msg = some carried) :
      carried = Address.zero := by
    cases msg with
    | channelProposal msg =>
        cases word
        cases held
        exact zero
    | channelUpdate msg => cases word
    | _ => cases held
  rw [arrives, zero_message_received (word_indexed word) unheld]

end Arrivals

/-! With the zero holder the wire changes nothing. -/
section Zero
variable {env : Env} {script : Script env} {sig : Side → Signature}

theorem wired_sent {side : Side} {party : Party env} (zero : holder script = Address.zero)
    (keeps : Keeps script sig side party) :
    (wired env script).sent side party = (system env script).sent side party := by
  have unchanged : ∀ msg ∈ (system env script).sent side party, arrives msg = some msg := by
    rintro msg member
    change msg ∈ inbox _ party.bus at member
    rw [keeps.spoken] at member
    exact zero_word_arrives zero (word_of_said member)
  exact (List.filterMap_congr unchanged).trans List.filterMap_some

def wiredContract (honest : Honest script sig) (zero : holder script = Address.zero) :
    Contract (wired env script) where
  follows := Keeps script sig
  word := Word script sig
  keeps_word side party keeps msg member := by
    rw [wired_sent zero keeps] at member
    exact (contract honest).keeps_word side party keeps msg member
  advances side inbox party move result keeps heard advanced :=
    honest.advance_keeps keeps heard advanced

theorem zero_completes {world : Side → Party env} (honest : Honest script sig)
    (zero : holder script = Address.zero) (reaches : (wired env script).Reaches (start env) world) :
    ∃ final, (wired env script).Reaches world final ∧ ∀ side, (final side).remaining = 0 := by
  apply (wiredContract honest zero).completes
  · exact fun _ _ _ _ _ => advance_closer
  · rintro world keeps unfinished
    obtain ⟨side, move, result, advanced⟩ := some_enabled keeps unfinished
    refine ⟨side, move, result, ?_⟩
    rw [wired_sent zero (keeps side.other)]
    exact advanced
  · exact (wiredContract honest zero).reaches_follows reaches start_keeps

end Zero

/-! With any other holder no signature of the other side is accepted. -/
section Alone
variable {env : Env} {script : Script env} {sig : Side → Signature} {side : Side}

/-- No signature of the other side has been added. -/
def Alone {Signer : Type} : Phase Signer → Prop
  | .agreed _ added _ => added = false
  | .done _ => False
  | _ => True

theorem concluded {ε α β γ : Type} {call : Outcome ε α × β} {next : α → β → γ} {value : α}
    {state : β} {after : γ} (advanced : some (conclude call next) = some (.ok after))
    (returned : call = (.ok value, state)) : after = next value state := by
  rw [conclude_ok returned] at advanced
  cases advanced
  rfl

/-- A party that refuses every signature it hears stays alone. -/
theorem advance_alone {inbox : List ParticipantMessage} {party after : Party env} {move : Move}
    (honest : Honest script sig) (keeps : Keeps script sig side party) (alone : Alone party.phase)
    (proposal : side = .second → ∀ msg, .channelProposal msg ∈ inbox → msg = script.proposal)
    (answer : ∀ msg, .proposalAccepted msg ∈ inbox → msg = script.answer)
    (refuses : ∀ msg channel signed, .channelUpdateAccepted msg ∈ inbox →
      party.phase = .agreed signed false channel →
      ∀ added, AgreedUponChannel.addSignature env msg channel ≠ (.ok (), added))
    (advanced : advance env script side inbox party move = some (.ok after)) :
    Keeps script sig side after ∧ Alone after.phase := by
  rcases party with ⟨phase, bus⟩
  simp only [advance] at advanced
  split at advanced
  · obtain ⟨channel, sent, call, next⟩ := honest.propose_keeps keeps
    rw [concluded advanced call]
    exact ⟨next, trivial⟩
  · split at advanced
    · rename_i said
      have word : Word script sig .first (.channelProposal _) := proposal rfl _ said
      obtain ⟨channel, call, next⟩ := Honest.handle_keeps word keeps
      rw [concluded advanced (congrArg (·, bus) call)]
      exact ⟨next, trivial⟩
    · cases advanced
  · obtain ⟨sent, call, next⟩ := honest.accept_keeps keeps
    rw [concluded advanced call]
    exact ⟨next, trivial⟩
  · split at advanced
    · rename_i said
      have word : Word script sig .second (.proposalAccepted _) := answer _ said
      obtain ⟨channel, call, next⟩ := Honest.answered_keeps word keeps
      rw [concluded advanced call]
      exact ⟨next, trivial⟩
    · cases advanced
  · obtain ⟨agreed, call, next⟩ := Honest.agree_keeps keeps
    rw [concluded advanced (congrArg (·, bus) call)]
    exact ⟨next, rfl⟩
  · obtain ⟨sent, call, next⟩ := honest.sign_keeps keeps
    rw [concluded advanced call]
    exact ⟨next, alone⟩
  · split at advanced
    · rename_i said
      rcases call : AgreedUponChannel.addSignature env _ _ with ⟨_ | _ | _, added⟩
      · exact absurd call (refuses _ _ _ said rfl added)
      · rw [call] at advanced
        cases advanced
      · rw [call] at advanced
        cases advanced
    · cases advanced
  · cases alone
  · cases advanced

theorem known_answer (script : Script env) (side : Side) :
    (known script side).answer = (received script).answer := by
  cases side <;> rfl

theorem advance_known {inbox : List ParticipantMessage} {party : Party env} {move : Move} :
    advance env (known script side) side inbox party move =
      advance env script side inbox party move := by
  rcases party with ⟨phase, bus⟩
  cases side with
  | first => rfl
  | second =>
      cases phase with
      | proposed answered channel => cases answered <;> cases move <;> rfl
      | agreed signed added channel => cases signed <;> cases added <;> cases move <;> rfl
      | _ => cases move <;> rfl

/-- The signature of one party for the state that it knows names neither of the two for the
state that the other one knows. -/
def Unforged (env : Env) (script : Script env) : Prop :=
  ∀ side side' sig, env.signEth (script.signer side) (stateHash env (known script side).state) =
      some sig →
    env.recoverSigner (stateHash env (known script side.other).state) sig =
      .ok (env.address (script.signer side')) →
    stateHash env (known script side).state = stateHash env (known script side.other).state

/-- The states that the two would sign have different hashes. -/
structure Apart (env : Env) (script : Script env) : Prop where
  unforged : Unforged env script
  different : stateHash env script.state ≠ stateHash env (received script).state

/-- What a party knows, and that it has no signature of the other one. -/
structure Lonely (script : Script env) (sig : Side → Side → Signature) (side : Side)
    (party : Party env) : Prop where
  keeps : Keeps (known script side) (sig side) side party
  alone : Alone party.phase

variable {sig : Side → Side → Signature} {party : Party env}

theorem heard_word {msg : ParticipantMessage} (lonely : Lonely script sig side party)
    (heard : msg ∈ (wired env script).sent side party) :
    Word (received script) (sig side) side msg := by
  obtain ⟨said, member, arrived⟩ := List.mem_filterMap.mp heard
  have member : said ∈ inbox script.proposal.peers[side.other.partIdx]? party.bus := member
  have spoken := lonely.keeps.spoken
  cases side with
  | first =>
      have spoken : inbox script.proposal.peers[Side.first.other.partIdx]? party.bus = _ := spoken
      rw [spoken] at member
      exact word_arrives (word_of_said member) arrived
  | second =>
      have spoken : inbox script.proposal.peers[Side.second.other.partIdx]? party.bus = _ := spoken
      rw [spoken] at member
      have word : Word (received (received script)) (sig .second) .second msg :=
        word_arrives (word_of_said member) arrived
      exact word

theorem different_sides (apart : Apart env script) :
    stateHash env (known script side.other).state ≠ stateHash env (known script side).state := by
  cases side with
  | first => exact apart.different.symm
  | second => exact apart.different

/-- The signature is for a state that this party does not know. -/
theorem refuses_signature {msg : LedgerChannelUpdateAccepted}
    {channel added : AgreedUponChannel env.Signer} {signed : Bool} {bus : Bus}
    (apart : Apart env script)
    (honest : ∀ side, Honest (known script side) (sig side))
    (lonely : Lonely script sig side ⟨.agreed signed false channel, bus⟩)
    (word : Word (received script) (sig side.other) side.other (.channelUpdateAccepted msg)) :
    AgreedUponChannel.addSignature env msg channel ≠ (.ok (), added) := by
  intro accepted
  obtain ⟨_, _, signer, partIdx, recovered, found, _⟩ := add_signature_ok.mp accepted
  have same := lonely.keeps.state
  cases same
  cases word
  obtain ⟨bound, matching, _⟩ := List.findIdx?_eq_some_iff_getElem.mp found
  have member : signer ∈ (known script side).params.participants.toList :=
    beq_iff_eq.mp matching ▸ List.getElem_mem bound
  have own : (known script side.other).signer side.other = script.signer side.other := by
    cases side <;> rfl
  have signs := (honest side.other).signs side.other
  rw [own] at signs
  have signed : signer = (known script side).proposal.participant ∨
      signer = (known script side).address := by
    simpa [Script.params, agreedParams, Script.answer] using member
  obtain ⟨side', rfl⟩ : ∃ side', signer = env.address (script.signer side') := by
    rcases signed with rfl | rfl
    · exact ⟨.first, (honest side).proposer.trans (by cases side <;> rfl)⟩
    · exact ⟨.second, (honest side).responder.trans (by cases side <;> rfl)⟩
  have named : env.recoverSigner (stateHash env (known script side.other.other).state)
      (sig side.other side.other) = .ok (env.address (script.signer side')) := by
    cases side <;> exact recovered
  have same := apart.unforged side.other side' _ signs named
  exact different_sides apart (same.trans (by cases side <;> rfl))

theorem lonely_advance {other : Party env} {next : Party env} {move : Move}
    (apart : Apart env script)
    (honest : ∀ side, Honest (known script side) (sig side)) (lonely : Lonely script sig side party)
    (lonely' : Lonely script sig side.other other)
    (advanced : (wired env script).advance side ((wired env script).sent side.other other) party
      move = some (.ok next)) : Lonely script sig side next := by
  have heard : ∀ msg ∈ (wired env script).sent side.other other,
      Word (received script) (sig side.other) side.other msg :=
    fun _ member => heard_word lonely' member
  have follows : advance env (known script side) side ((wired env script).sent side.other other)
      party move = some (.ok next) := advance_known.trans advanced
  have kept := advance_alone (honest side) lonely.keeps lonely.alone
    (by
      rintro rfl msg said
      exact heard _ said)
    (by
      rintro msg said
      exact (heard _ said).trans (known_answer script side).symm)
    (by
      rintro msg channel signed said phase added
      rcases party with ⟨_, bus⟩
      subst phase
      exact refuses_signature apart honest lonely (heard _ said))
    follows
  exact ⟨kept.1, kept.2⟩

theorem lonely_reaches {world : Side → Party env} (apart : Apart env script)
    (honest : ∀ side, Honest (known script side) (sig side))
    (reaches : (wired env script).Reaches (start env) world) :
    ∀ side, Lonely script sig side (world side) := by
  have starts (side : Side) : Lonely script sig side (start env side) :=
    ⟨start_keeps side, trivial⟩
  have advances (side : Side) (party other : Party env) (move : Move) (next : Party env)
      (lonely : Lonely script sig side party) (lonely' : Lonely script sig side.other other) :=
    @lonely_advance env script side sig party other next move apart honest lonely lonely'
  exact reaches_keeps reaches starts advances

theorem lonely_unfinished (lonely : Lonely script sig side party) :
    party.phase.signatures = none ∧ party.remaining ≠ 0 := by
  rcases party with ⟨phase, bus⟩
  have alone := lonely.alone
  cases phase with
  | start => exact ⟨rfl, by simp [Party.remaining, Phase.remaining]⟩
  | proposed answered channel =>
      exact ⟨rfl, by cases answered <;> simp [Party.remaining, Phase.remaining]⟩
  | agreed signed added channel =>
      exact ⟨rfl, by cases signed <;> simp [Party.remaining, Phase.remaining]⟩
  | done channel => cases alone

end Alone

/-- In the plain environment a signature names nobody for another hash. -/
theorem plain_unforged (script : Script plainEnv) : Unforged plainEnv script := by
  intro side side' sig signed recovered
  cases signed
  by_contra different
  cases (plain_unrecovered different).symm.trans recovered

section Results
variable (env : Env) (script : Script env)

/-- Two honest parties that talk over the wire: whatever has happened so far, the opening
can be completed if and only if the asset holder is the zero address. With any other holder
no party ever has both signatures. -/
theorem opening_over_wire
    (accepted : ∃ channel bus, proposeChannel env ⟨script.signer .first⟩ script.proposal
      (script.receiver .first) [] = (.ok channel, bus))
    (proposer : script.proposal.participant = env.address (script.signer .first))
    (responder : script.address = env.address (script.signer .second))
    (distinct : script.proposal.participant ≠ script.address)
    (signs : ∀ side side', ∃ sig,
      env.signEth (script.signer side') (stateHash env (known script side).state) = some sig ∧
      env.recoverSigner (stateHash env (known script side).state) sig =
        .ok (env.address (script.signer side')))
    (unforged : Unforged env script)
    (collisionFree : stateHash env script.state = stateHash env (received script).state →
      script.state = (received script).state)
    (world : Side → Party env) (reaches : (wired env script).Reaches (start env) world) :
    ((∃ final, (wired env script).Reaches world final ∧ ∀ side, (final side).remaining = 0) ↔
      holder script = Address.zero) ∧
    (holder script ≠ Address.zero → ∀ side, (world side).phase.signatures = none) := by
  choose sig signs recovers using signs
  obtain ⟨_, _, proposed⟩ := accepted
  obtain ⟨duration, peers, _⟩ := propose_channel_ok.mp proposed
  have honest (side : Side) : Honest (known script side) (sig side) := by
    cases side with
    | first => exact ⟨duration, peers, proposer, responder, distinct, signs .first, recovers .first⟩
    | second =>
        exact ⟨duration, peers, proposer, responder, distinct, signs .second, recovers .second⟩
  have apart (other : holder script ≠ Address.zero) : Apart env script := by
    refine ⟨unforged, fun same => other ?_⟩
    have outcome := congrArg State.outcome (collisionFree same)
    exact zero_holder_eq.mp outcome.symm
  constructor
  · constructor
    · rintro ⟨final, later, done⟩
      by_contra other
      have lonely := lonely_reaches (apart other) honest (reaches.trans later) .first
      exact (lonely_unfinished lonely).2 (done .first)
    · intro zero
      exact zero_completes (honest .first) zero reaches
  · intro other side
    exact (lonely_unfinished (lonely_reaches (apart other) honest reaches side)).1

theorem opening_over_wire_zero : ∃ final,
    (wired plainEnv (received plainScript)).Reaches (start plainEnv) final ∧
    ∀ side, (final side).remaining = 0 := by
  have opens := opening_over_wire plainEnv (received plainScript)
    ⟨_, _, propose_channel_ok.mpr ⟨by decide, rfl, rfl, _, rfl, rfl⟩⟩ rfl rfl (by decide)
    (fun _ _ => ⟨_, rfl, plain_recover _ _⟩) (plain_unforged _) (fun _ => rfl)
    (start plainEnv) .refl
  exact opens.1.mpr rfl

end Results

end Perun.WireOpening
