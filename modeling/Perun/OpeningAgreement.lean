import Perun.Opening
import Perun.TwoParty

/-! Two honest parties open a channel. Each follows its script and reacts to what
the other one sent; their steps interleave freely. The proposer learns the answer
by message, the responder gives it, and yet both build the same parameters. -/
namespace Perun.OpeningAgreement
open AbiTypes Payment Messages MessageBus Active Opening TwoParty

/-- How far a party is, with the flags of what it has done in this phase. -/
inductive Phase (Signer : Type) where
  | start
  | proposed (answered : Bool) (channel : ProposedChannel Signer)
  | agreed (signed added : Bool) (channel : AgreedUponChannel Signer)
  | done (channel : SignedChannel Signer)

structure Party (env : Env) where
  phase : Phase env.Signer
  bus : Bus

inductive Move where
  | propose
  | handleProposal (msg : LedgerChannelProposal)
  | accept
  | participantAccepted (msg : LedgerChannelProposalAcc)
  | agree
  | sign
  | addSignature (msg : LedgerChannelUpdateAccepted)
  | finish

/-- What the two parties decide on their own. -/
structure Script (env : Env) where
  proposal : LedgerChannelProposal
  nonceShare : NonceShare
  address : Address
  signer : Side → env.Signer
  receiver : Side → Address

section System
variable (env : Env) (script : Script env)

def advance (side : Side) (inbox : List ParticipantMessage) (party : Party env) (move : Move) :
    Option (Outcome Unit (Party env)) :=
  let client : PerunClient env.Signer := ⟨script.signer side⟩
  match side, party.phase, move with
  | .first, .start, .propose =>
      some (conclude (proposeChannel env client script.proposal (script.receiver side) party.bus)
        fun channel bus => ⟨.proposed false channel, bus⟩)
  -- A message is received when it was sent, at any later time.
  | .second, .start, .handleProposal msg =>
      if .channelProposal msg ∈ inbox then
        some (conclude (handleProposal env client msg (script.receiver side), party.bus)
          fun channel bus => ⟨.proposed false channel, bus⟩)
      else none
  | .second, .proposed false channel, .accept =>
      some (conclude
        (ProposedChannel.accept env script.nonceShare script.address (channel, party.bus))
        fun _ after => ⟨.proposed true after.1, after.2⟩)
  | .first, .proposed false channel, .participantAccepted msg =>
      if .proposalAccepted msg ∈ inbox then
        some (conclude (ProposedChannel.participantAccepted env 1 msg channel)
          fun _ channel => ⟨.proposed true channel, party.bus⟩)
      else none
  | _, .proposed true channel, .agree =>
      some (conclude (channel.build env, party.bus)
        fun channel bus => ⟨.agreed false false channel, bus⟩)
  | _, .agreed false added channel, .sign =>
      some (conclude (AgreedUponChannel.sign env (channel, party.bus))
        fun _ after => ⟨.agreed true added after.1, after.2⟩)
  | _, .agreed signed false channel, .addSignature msg =>
      if .channelUpdateAccepted msg ∈ inbox then
        some (conclude (AgreedUponChannel.addSignature env msg channel)
          fun _ channel => ⟨.agreed signed true channel, party.bus⟩)
      else none
  | _, .agreed true true channel, .finish =>
      some (conclude (channel.build env party.bus) fun channel bus => ⟨.done channel, bus⟩)
  | _, _, _ => none

def system : System (Party env) Move ParticipantMessage Unit where
  advance := advance env script
  sent side party := inbox script.proposal.peers[side.other.partIdx]? party.bus

def start : Side → Party env := fun _ => ⟨.start, []⟩

end System

/-- The parameters and the initial state a party has agreed to. -/
def Phase.agreement {Signer : Type} : Phase Signer → Option (Params 2 × State 1 2)
  | .agreed _ _ channel => some (channel.params, channel.initState)
  | .done channel => some (channel.inner.params, channel.inner.state)
  | _ => none

def Phase.signatures {Signer : Type} : Phase Signer → Option (Vector Signature 2)
  | .done channel => some channel.inner.signatures
  | _ => none

section Agreement
variable {env : Env} (script : Script env)

def Script.answer : LedgerChannelProposalAcc :=
  ⟨script.proposal.proposalId, script.nonceShare, script.address⟩

def Script.params : Params 2 := agreedParams env script.proposal script.answer

def Script.state : State 1 2 := agreedState env script.proposal script.answer

variable (sig : Side → Signature)

def slots (side : Side) (signed added : Bool) : Vector (Option Signature) 2 :=
  let own := if signed then some (sig side) else none
  let other := if added then some (sig side.other) else none
  match side with
  | .first => #v[own, other]
  | .second => #v[other, own]

/-- The one state a party can have in each phase. -/
def Follows (side : Side) : Phase env.Signer → Prop
  | .start => True
  | .proposed answered channel =>
      channel = ⟨side.partIdx, script.receiver side, ⟨script.signer side⟩, script.proposal,
        #v[if answered then some script.answer else none]⟩
  | .agreed signed added channel =>
      channel = ⟨side.partIdx, script.receiver side, ⟨script.signer side⟩,
        script.proposal.fundingAgreement, script.state, script.params, slots sig side signed added,
        script.proposal.peers⟩
  | .done channel =>
      channel = ⟨side.partIdx, script.receiver side, ⟨script.signer side⟩, script.state,
        script.params, #v[sig .first, sig .second], script.proposal.peers⟩

/-- What a party has told the other one before it knew its answer, and with it. -/
def opening (answered : Bool) : Side → List ParticipantMessage
  | .first => [.channelProposal script.proposal]
  | .second => if answered then [.proposalAccepted script.answer] else []

def signing (signed : Bool) (side : Side) : List ParticipantMessage :=
  if signed then [.channelUpdateAccepted ⟨script.state.id, 0, sig side⟩] else []

/-- Everything a party has told the other one when it has come to a phase. -/
def said (side : Side) : Phase env.Signer → List ParticipantMessage
  | .start => []
  | .proposed answered _ => opening script answered side
  | .agreed signed _ _ => opening script true side ++ signing script sig signed side
  | .done _ => opening script true side ++ signing script sig true side

def Says (side : Side) (party : Party env) : Prop :=
  inbox script.proposal.peers[side.other.partIdx]? party.bus = said script sig side party.phase

structure Keeps (side : Side) (party : Party env) : Prop where
  state : Follows script sig side party.phase
  spoken : Says script sig side party

/-- The messages a party sends at all. -/
def Word (side : Side) : ParticipantMessage → Prop
  | .channelProposal msg => msg = script.proposal
  | .proposalAccepted msg => msg = script.answer
  | .channelUpdateAccepted msg => msg = ⟨script.state.id, 0, sig side⟩
  | _ => False

end Agreement

theorem word_of_said {env : Env} {script : Script env} {sig : Side → Signature} {side : Side}
    {phase : Phase env.Signer} {msg : ParticipantMessage}
    (member : msg ∈ said script sig side phase) : Word script sig side msg := by
  have spoken : msg = .channelProposal script.proposal ∨ msg = .proposalAccepted script.answer ∨
      msg = .channelUpdateAccepted ⟨script.state.id, 0, sig side⟩ := by
    cases phase <;> cases side <;> simp [said, opening, signing] at member <;> tauto
  rcases spoken with rfl | rfl | rfl
  · rfl
  · rfl
  · rfl

/-- The assumptions on a script: the proposal is accepted, the addresses are those
of the two signers, which differ, and signatures are recovered. -/
structure Honest {env : Env} (script : Script env) (sig : Side → Signature) : Prop where
  duration : script.proposal.challengeDuration ≠ 0
  peers : script.proposal.peers.length = 2
  proposer : script.proposal.participant = env.address (script.signer .first)
  responder : script.address = env.address (script.signer .second)
  distinct : script.proposal.participant ≠ script.address
  signs : ∀ side, env.signEth (script.signer side) (stateHash env script.state) = some (sig side)
  recovers : ∀ side, env.recoverSigner (stateHash env script.state) (sig side) =
    .ok (env.address (script.signer side))

namespace Honest
variable {env : Env} {script : Script env} {sig : Side → Signature} (honest : Honest script sig)
include honest

/-- The search for a recovered address finds the side that signed. -/
theorem found (side : Side) :
    script.params.participants.toList.findIdx?
      (fun part => part == env.address (script.signer side)) = some side.partIdx := by
  have distinct := honest.distinct
  rw [honest.proposer, honest.responder] at distinct
  cases side with
  | first =>
      simp [Script.params, agreedParams, Script.answer, honest.proposer, Side.partIdx,
        List.findIdx?_cons]
  | second =>
      simp [Script.params, agreedParams, Script.answer, honest.proposer, honest.responder, distinct,
        Side.partIdx, List.findIdx?_cons]

theorem broadcast_says {side : Side} {phase phase' : Phase env.Signer} {bus : Bus}
    {sender : Identity} {msg : ParticipantMessage} (spoken : Says script sig side ⟨phase, bus⟩)
    (next : said script sig side phase' = said script sig side phase ++ [msg]) :
    Says script sig side
      ⟨phase', bus ++ broadcast side.partIdx sender script.proposal.peers msg⟩ := by
  unfold Says at spoken ⊢
  rw [inbox_broadcast honest.peers, spoken, next]

theorem propose_keeps {bus : Bus} (keeps : Keeps script sig .first ⟨.start, bus⟩) :
    ∃ channel after,
      proposeChannel env ⟨script.signer .first⟩ script.proposal (script.receiver .first) bus =
        (.ok channel, after) ∧ Keeps script sig .first ⟨.proposed false channel, after⟩ := by
  obtain ⟨sender, peer⟩ := Side.entry honest.peers .first
  exact ⟨_, _, propose_channel_ok.mpr ⟨honest.duration, honest.peers, rfl, sender, peer, rfl⟩, rfl,
    honest.broadcast_says keeps.spoken rfl⟩

omit honest in
theorem handle_keeps {bus : Bus} {msg : LedgerChannelProposal}
    (word : Word script sig .first (.channelProposal msg))
    (keeps : Keeps script sig .second ⟨.start, bus⟩) :
    ∃ channel, handleProposal env ⟨script.signer .second⟩ msg (script.receiver .second) =
        .ok channel ∧ Keeps script sig .second ⟨.proposed false channel, bus⟩ := by
  cases word
  exact ⟨_, rfl, rfl, keeps.spoken⟩

theorem accept_keeps {channel : ProposedChannel env.Signer} {bus : Bus}
    (keeps : Keeps script sig .second ⟨.proposed false channel, bus⟩) :
    ∃ after, ProposedChannel.accept env script.nonceShare script.address (channel, bus) =
        (.ok (), after) ∧ Keeps script sig .second ⟨.proposed true after.1, after.2⟩ := by
  obtain ⟨sender, peer⟩ := Side.entry honest.peers .second
  obtain ⟨same, spoken⟩ := keeps
  cases same
  exact ⟨_, accept_run rfl peer, rfl, honest.broadcast_says spoken rfl⟩

omit honest in
theorem answered_keeps {channel : ProposedChannel env.Signer} {msg : LedgerChannelProposalAcc}
    {bus : Bus} (word : Word script sig .second (.proposalAccepted msg))
    (keeps : Keeps script sig .first ⟨.proposed false channel, bus⟩) :
    ∃ after, ProposedChannel.participantAccepted env 1 msg channel = (.ok (), after) ∧
      Keeps script sig .first ⟨.proposed true after, bus⟩ := by
  obtain ⟨same, spoken⟩ := keeps
  cases same
  cases word
  exact ⟨_, participant_accepted_run rfl rfl, rfl, spoken⟩

omit honest in
theorem agree_keeps {side : Side} {channel : ProposedChannel env.Signer} {bus : Bus}
    (keeps : Keeps script sig side ⟨.proposed true channel, bus⟩) :
    ∃ agreed, channel.build env = .ok agreed ∧
      Keeps script sig side ⟨.agreed false false agreed, bus⟩ := by
  obtain ⟨same, spoken⟩ := keeps
  cases same
  refine ⟨_, proposed_build_ok.mpr ⟨script.answer, rfl, rfl⟩, ?_, ?_⟩
  · cases side <;> rfl
  · exact spoken.trans (List.append_nil _).symm

theorem sign_keeps {side : Side} {added : Bool} {channel : AgreedUponChannel env.Signer} {bus : Bus}
    (keeps : Keeps script sig side ⟨.agreed false added channel, bus⟩) :
    ∃ after, AgreedUponChannel.sign env (channel, bus) = (.ok (), after) ∧
      Keeps script sig side ⟨.agreed true added after.1, after.2⟩ := by
  obtain ⟨sender, peer⟩ := Side.entry honest.peers side
  obtain ⟨same, spoken⟩ := keeps
  cases same
  refine ⟨_, sign_ok.mpr ⟨?_, sig side, sender, honest.signs side, peer, rfl⟩, ?_,
    honest.broadcast_says spoken ?_⟩
  · cases side <;> rfl
  · cases side <;> rfl
  · cases side <;> rfl

theorem add_signature_keeps {side : Side} {signed : Bool} {channel : AgreedUponChannel env.Signer}
    {msg : LedgerChannelUpdateAccepted} {bus : Bus}
    (word : Word script sig side.other (.channelUpdateAccepted msg))
    (keeps : Keeps script sig side ⟨.agreed signed false channel, bus⟩) :
    ∃ after, AgreedUponChannel.addSignature env msg channel = (.ok (), after) ∧
      Keeps script sig side ⟨.agreed signed true after, bus⟩ := by
  obtain ⟨same, spoken⟩ := keeps
  cases same
  cases word
  refine ⟨_, add_signature_ok.mpr ⟨rfl, rfl, _, side.other.partIdx, honest.recovers side.other,
    honest.found side.other, ?_, rfl⟩, ?_, spoken⟩
  · cases side <;> rfl
  · cases side <;> rfl

omit honest in
theorem finish_keeps {side : Side} {channel : AgreedUponChannel env.Signer} {bus : Bus}
    (keeps : Keeps script sig side ⟨.agreed true true channel, bus⟩) :
    ∃ signed after, channel.build env bus = (.ok signed, after) ∧
      Keeps script sig side ⟨.done signed, after⟩ := by
  obtain ⟨same, spoken⟩ := keeps
  cases same
  refine ⟨_, _, agreed_build_ok.mpr ⟨fun _ => side.partIdx_lt, #v[sig .first, sig .second], ?_, rfl,
    rfl⟩, rfl, ?_⟩
  · cases side <;> rfl
  · -- The requests to the watcher and the funder are not for the other party.
    exact (inbox_append _ _ _).trans ((List.append_nil _).trans spoken)

/-- Every enabled move of the script returns and stays on it. -/
theorem advance_keeps {side : Side} {inbox : List ParticipantMessage} {party : Party env}
    {move : Move} {result : Outcome Unit (Party env)} (keeps : Keeps script sig side party)
    (heard : ∀ msg ∈ inbox, Word script sig side.other msg)
    (advanced : advance env script side inbox party move = some result) :
    ∃ after, result = .ok after ∧ Keeps script sig side after := by
  rcases party with ⟨phase, bus⟩
  simp only [advance] at advanced
  split at advanced
  · obtain ⟨channel, after, call, next⟩ := honest.propose_keeps keeps
    exact ⟨_, (Option.some.inj advanced).symm.trans (conclude_ok call), next⟩
  · split at advanced
    · rename_i sent
      obtain ⟨channel, call, next⟩ := handle_keeps (heard _ sent) keeps
      exact ⟨_, (Option.some.inj advanced).symm.trans (conclude_ok (by rw [call])), next⟩
    · cases advanced
  · obtain ⟨after, call, next⟩ := honest.accept_keeps keeps
    exact ⟨_, (Option.some.inj advanced).symm.trans (conclude_ok call), next⟩
  · split at advanced
    · rename_i sent
      obtain ⟨after, call, next⟩ := answered_keeps (heard _ sent) keeps
      exact ⟨_, (Option.some.inj advanced).symm.trans (conclude_ok call), next⟩
    · cases advanced
  · obtain ⟨agreed, call, next⟩ := agree_keeps keeps
    exact ⟨_, (Option.some.inj advanced).symm.trans (conclude_ok (by rw [call])), next⟩
  · obtain ⟨after, call, next⟩ := honest.sign_keeps keeps
    exact ⟨_, (Option.some.inj advanced).symm.trans (conclude_ok call), next⟩
  · split at advanced
    · rename_i sent
      obtain ⟨after, call, next⟩ := honest.add_signature_keeps (heard _ sent) keeps
      exact ⟨_, (Option.some.inj advanced).symm.trans (conclude_ok call), next⟩
    · cases advanced
  · obtain ⟨signed, after, call, next⟩ := finish_keeps keeps
    exact ⟨_, (Option.some.inj advanced).symm.trans (conclude_ok call), next⟩
  · cases advanced

end Honest

section Closed
variable {env : Env} {script : Script env} {sig : Side → Signature} {side : Side}
  {phase : Phase env.Signer}

theorem follows_agreement {held : Params 2 × State 1 2} (follows : Follows script sig side phase)
    (same : phase.agreement = some held) : held = (script.params, script.state) := by
  cases phase with
  | start => cases same
  | proposed answered channel => cases same
  | agreed signed added channel =>
      cases follows
      cases same
      rfl
  | done channel =>
      cases follows
      cases same
      rfl

theorem follows_signatures {held : Vector Signature 2} (follows : Follows script sig side phase)
    (same : phase.signatures = some held) : held = #v[sig .first, sig .second] := by
  cases phase with
  | start => cases same
  | proposed answered channel => cases same
  | agreed signed added channel => cases same
  | done channel =>
      cases follows
      cases same
      rfl

end Closed

/-- The contract both parties keep. -/
def contract {env : Env} {script : Script env} {sig : Side → Signature}
    (honest : Honest script sig) : Contract (system env script) where
  follows := Keeps script sig
  word := Word script sig
  keeps_word side party keeps msg member := by
    change msg ∈ inbox _ party.bus at member
    rw [keeps.spoken] at member
    exact word_of_said member
  advances side inbox party move result keeps heard advanced :=
    honest.advance_keeps keeps heard advanced

theorem start_keeps {env : Env} {script : Script env} {sig : Side → Signature} (side : Side) :
    Keeps script sig side (start env side) := ⟨trivial, rfl⟩

/-! The parties do not wait for each other in vain: as long as one of them is not
done a move is enabled, and every move brings its party closer to the end. -/
section Progress
variable {env : Env} {script : Script env} {sig : Side → Signature} {world : Side → Party env}

def Phase.remaining {Signer : Type} : Phase Signer → Nat
  | .start => 6
  | .proposed answered _ => if answered then 4 else 5
  | .agreed signed added _ => (if signed then 1 else 2) + (if added then 0 else 1)
  | .done _ => 0

def Party.remaining (party : Party env) : Nat := party.phase.remaining

theorem advance_closer {side : Side} {inbox : List ParticipantMessage} {party after : Party env}
    {move : Move} (advanced : advance env script side inbox party move = some (.ok after)) :
    after.remaining < party.remaining := by
  rcases party with ⟨phase, bus⟩
  simp only [advance] at advanced
  split at advanced
  · exact conclude_lt Party.remaining (Option.some.inj advanced) fun _ _ => by
      simp [Party.remaining, Phase.remaining]
  · split at advanced
    · exact conclude_lt Party.remaining (Option.some.inj advanced) fun _ _ => by
        simp [Party.remaining, Phase.remaining]
    · cases advanced
  · exact conclude_lt Party.remaining (Option.some.inj advanced) fun _ _ => by
      simp [Party.remaining, Phase.remaining]
  · split at advanced
    · exact conclude_lt Party.remaining (Option.some.inj advanced) fun _ _ => by
        simp [Party.remaining, Phase.remaining]
    · cases advanced
  · exact conclude_lt Party.remaining (Option.some.inj advanced) fun _ _ => by
      simp [Party.remaining, Phase.remaining]
  · exact conclude_lt Party.remaining (Option.some.inj advanced) fun _ _ => by
      simp [Party.remaining, Phase.remaining]
  · split at advanced
    · exact conclude_lt Party.remaining (Option.some.inj advanced) fun _ _ => by
        simp [Party.remaining, Phase.remaining]
    · cases advanced
  · exact conclude_lt Party.remaining (Option.some.inj advanced) fun _ _ => by
      simp [Party.remaining, Phase.remaining]
  · cases advanced

def Phase.signed {Signer : Type} : Phase Signer → Bool
  | .agreed signed _ _ => signed
  | .done _ => true
  | _ => false

/-- The responder needs the proposal and comes to its signature alone. -/
theorem second_enabled {party : Party env} {inbox : List ParticipantMessage}
    (heard : .channelProposal script.proposal ∈ inbox) (unsigned : party.phase.signed = false) :
    ∃ move result, advance env script .second inbox party move = some result := by
  rcases party with ⟨phase, bus⟩
  cases phase with
  | start => exact ⟨.handleProposal script.proposal, _, if_pos heard⟩
  | proposed answered channel =>
      cases answered with
      | false => exact ⟨.accept, _, rfl⟩
      | true => exact ⟨.agree, _, rfl⟩
  | agreed signed added channel =>
      cases unsigned
      exact ⟨.sign, _, rfl⟩
  | done channel => cases unsigned

/-- The proposer needs the answer. -/
theorem first_enabled {party : Party env} {inbox : List ParticipantMessage}
    (heard : .proposalAccepted script.answer ∈ inbox) (unsigned : party.phase.signed = false) :
    ∃ move result, advance env script .first inbox party move = some result := by
  rcases party with ⟨phase, bus⟩
  cases phase with
  | start => exact ⟨.propose, _, rfl⟩
  | proposed answered channel =>
      cases answered with
      | false => exact ⟨.participantAccepted script.answer, _, if_pos heard⟩
      | true => exact ⟨.agree, _, rfl⟩
  | agreed signed added channel =>
      cases unsigned
      exact ⟨.sign, _, rfl⟩
  | done channel => cases unsigned

/-- With the signature of the other side a party comes to the end. -/
theorem signed_enabled {side : Side} {party : Party env} {inbox : List ParticipantMessage}
    (heard : .channelUpdateAccepted ⟨script.state.id, 0, sig side.other⟩ ∈ inbox)
    (signed : party.phase.signed = true) (unfinished : party.remaining ≠ 0) :
    ∃ move result, advance env script side inbox party move = some result := by
  rcases party with ⟨phase, bus⟩
  cases phase with
  | start => cases signed
  | proposed answered channel => cases signed
  | agreed signed' added channel =>
      cases signed
      cases added with
      | false =>
          refine ⟨.addSignature ⟨script.state.id, 0, sig side.other⟩, ?_⟩
          cases side <;> exact ⟨_, if_pos heard⟩
      | true =>
          refine ⟨.finish, ?_⟩
          cases side <;> exact ⟨_, rfl⟩
  | done channel => exact absurd rfl unfinished

-- The responder goes first: until it has signed it waits for nothing but the proposal.
theorem some_enabled (keeps : ∀ side, Keeps script sig side (world side))
    (unfinished : ∃ side, (world side).remaining ≠ 0) :
    ∃ side move result, (system env script).advance side
      ((system env script).sent side.other (world side.other)) (world side) move = some result := by
  have heard (side : Side) (msg : ParticipantMessage)
      (spoken : msg ∈ said script sig side.other (world side.other).phase) :
      msg ∈ (system env script).sent side.other (world side.other) := by
    change msg ∈ inbox _ _
    rw [(keeps side.other).spoken]
    exact spoken
  have signature (side : Side) (signed : (world side).phase.signed = true) :
      .channelUpdateAccepted ⟨script.state.id, 0, sig side⟩ ∈
        said script sig side (world side).phase := by
    cases phase : (world side).phase with
    | start => simp [phase, Phase.signed] at signed
    | proposed answered channel => simp [phase, Phase.signed] at signed
    | agreed signed' added channel =>
        simp only [phase, Phase.signed] at signed
        simp [said, signing, signed]
    | done channel => simp [said, signing]
  cases second : (world .second).phase.signed with
  | false =>
      by_cases begun : .channelProposal script.proposal ∈ said script sig .first
        (world .first).phase
      · exact ⟨.second, second_enabled (heard .second _ begun) second⟩
      · refine ⟨.first, .propose, ?_⟩
        rcases here : world .first with ⟨phase, bus⟩
        rw [here] at begun
        cases phase with
        | start => exact ⟨_, rfl⟩
        | proposed answered channel => simp [said, opening] at begun
        | agreed signed added channel => simp [said, opening] at begun
        | done channel => simp [said, opening] at begun
  | true =>
      cases first : (world .first).phase.signed with
      | false =>
          have answered : .proposalAccepted script.answer ∈
              said script sig .second (world .second).phase := by
            cases phase : (world .second).phase with
            | start => simp [phase, Phase.signed] at second
            | proposed answered channel => simp [phase, Phase.signed] at second
            | agreed signed added channel => simp [said, opening]
            | done channel => simp [said, opening]
          exact ⟨.first, first_enabled (heard .first _ answered) first⟩
      | true =>
          obtain ⟨side, unfinished⟩ := unfinished
          have all (side : Side) : (world side).phase.signed = true := by
            cases side with
            | first => exact first
            | second => exact second
          exact ⟨side, signed_enabled (heard side _ (signature side.other (all side.other)))
            (all side) unfinished⟩

/-- Every run of the two scripts can be completed. -/
theorem opening_completes (honest : Honest script sig)
    (keeps : ∀ side, Keeps script sig side (world side)) :
    ∃ final, (system env script).Reaches world final ∧
      ∀ side, (final side).remaining = 0 :=
  (contract honest).completes (fun _ _ _ _ _ => advance_closer) (fun _ => some_enabled) keeps

end Progress

/-- In every interleaving of the two scripts each enabled step returns `Ok`, the
agreed upon channels have equal parameters and initial states, and the signed
channels equal signatures. -/
theorem opening_agrees (env : Env) (script : Script env)
    (accepted : ∃ channel bus, proposeChannel env ⟨script.signer .first⟩ script.proposal
      (script.receiver .first) [] = (.ok channel, bus))
    (proposer : script.proposal.participant = env.address (script.signer .first))
    (responder : script.address = env.address (script.signer .second))
    (distinct : script.proposal.participant ≠ script.address)
    (signs : ∀ signer hash, ∃ sig, env.signEth signer hash = some sig ∧
      env.recoverSigner hash sig = .ok (env.address signer))
    (world : Side → Party env) (reaches : (system env script).Reaches (start env) world) :
    (∀ side move result, (system env script).step world side move = some result →
      ∃ after, result = .ok after) ∧
    (∀ first second, (world .first).phase.agreement = some first →
      (world .second).phase.agreement = some second → first = second) ∧
    (∀ first second, (world .first).phase.signatures = some first →
      (world .second).phase.signatures = some second → first = second) := by
  choose sig signs recovers using fun side =>
    signs (script.signer side) (stateHash env script.state)
  obtain ⟨_, _, proposed⟩ := accepted
  obtain ⟨duration, peers, _⟩ := propose_channel_ok.mp proposed
  have honest : Honest script sig :=
    ⟨duration, peers, proposer, responder, distinct, signs, recovers⟩
  have keeps := (contract honest).reaches_follows reaches start_keeps
  refine ⟨fun side move result => (contract honest).step_returns reaches start_keeps,
    fun first second held held' => ?_, fun first second held held' => ?_⟩
  · rw [follows_agreement (keeps .first).state held, follows_agreement (keeps .second).state held']
  · rw [follows_signatures (keeps .first).state held, follows_signatures (keeps .second).state held']

def plainScript : Script plainEnv where
  proposal := plainProposal
  nonceShare := plainAnswer.nonceShare
  address := plainAnswer.participant
  signer side := match side with
    | .first => plainProposal.participant
    | .second => plainAnswer.participant
  receiver _ := Address.zero

theorem opening_agrees_plain : ∃ world signatures,
    (system plainEnv plainScript).Reaches (start plainEnv) world ∧
    ∀ side, (world side).phase.signatures = some signatures := by
  have signs (signer : plainEnv.Signer) (hash : Hash) : ∃ sig,
      plainEnv.signEth signer hash = some sig ∧
        plainEnv.recoverSigner hash sig = .ok (plainEnv.address signer) :=
    ⟨_, rfl, plain_recover signer hash⟩
  have honest : Honest plainScript fun side =>
      plainSign (plainScript.signer side) (stateHash plainEnv plainScript.state) :=
    ⟨by decide, rfl, rfl, rfl, by decide, fun _ => rfl, fun side => plain_recover _ _⟩
  obtain ⟨world, reaches, done⟩ := opening_completes honest start_keeps
  have agrees := opening_agrees plainEnv plainScript
    ⟨_, _, propose_channel_ok.mpr ⟨by decide, rfl, rfl, _, rfl, rfl⟩⟩ rfl rfl (by decide) signs world
    reaches
  have finished (side : Side) : ∃ signatures, (world side).phase.signatures = some signatures := by
    have none := done side
    cases phase : (world side).phase with
    | start => simp [Party.remaining, phase, Phase.remaining] at none
    | proposed answered channel =>
        cases answered <;> simp [Party.remaining, phase, Phase.remaining] at none
    | agreed signed added channel =>
        cases signed <;> simp [Party.remaining, phase, Phase.remaining] at none
    | done channel => exact ⟨_, rfl⟩
  obtain ⟨first, held⟩ := finished .first
  obtain ⟨second, held'⟩ := finished .second
  refine ⟨world, first, reaches, fun side => ?_⟩
  cases side with
  | first => exact held
  | second => rw [held', agrees.2.2 first second held held']

end Perun.OpeningAgreement
