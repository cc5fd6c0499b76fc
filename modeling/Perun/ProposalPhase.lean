import Perun.Opening

/-! The answer to a proposal. `participant_accepted` writes the slot once;
`accept` has lost its guard and writes it in every call, and for a proposer it
computes the index of a slot before the first one. As long as a responder accepts
while the slot is empty, the first answer stays. -/
namespace Perun.ProposalPhase
open AbiTypes Payment Messages MessageBus Active Opening TwoParty

inductive ProposalCall where
  | accept (nonceShare : NonceShare) (address : Address)
  | participantAccepted (msg : LedgerChannelProposalAcc)

inductive ProposalError where
  | alreadyAccepted (error : AlreadyAcceptedError)
  | handleAccept (error : HandleAcceptError)
  deriving DecidableEq

section Calls
variable (env : Env)

def ProposalCall.run : ProposalCall → Op ProposalError (ProposedChannel env.Signer × Bus) Unit
  | .accept nonceShare address =>
      Op.mapErr .alreadyAccepted (ProposedChannel.accept env nonceShare address)
  | .participantAccepted msg =>
      Op.mapErr .handleAccept (offBus (ProposedChannel.participantAccepted env 1 msg))

end Calls

variable {env : Env}

def Stored (state : ProposedChannel env.Signer × Bus) (acc : LedgerChannelProposalAcc) : Prop :=
  state.1.responses[0]? = some (some acc)

instance (state : ProposedChannel env.Signer × Bus) (acc : LedgerChannelProposalAcc) :
    Decidable (Stored state acc) :=
  inferInstanceAs (Decidable (state.1.responses[0]? = some (some acc)))

/-- What one call may do: it returns, a stored answer stays, and `accept` by the
proposer or after an answer fails without any effect. -/
structure WriteOnce (call : ProposalCall) (before : ProposedChannel env.Signer × Bus) : Prop where
  returns : (call.run env before).1 ≠ .panic
  keeps : ∀ acc, Stored before acc → Stored (call.run env before).2 acc
  refuses : ∀ nonceShare address, call = .accept nonceShare address →
    (before.1.partIdx = 0 ∨ ∃ acc, Stored before acc) →
    call.run env before = (.err (.alreadyAccepted .alreadyAccepted), before)

/-- `accept` is called by the responder, who is among the peers, before there is an
answer. -/
def Allowed (call : ProposalCall) (before : ProposedChannel env.Signer × Bus) : Prop :=
  match call with
  | .accept _ _ => before.1.partIdx = 1 ∧ before.1.responses[0]? = some none ∧
      1 < before.1.proposal.peers.length
  | .participantAccepted _ => True

def AllowedRuns (env : Env) :
    ProposedChannel env.Signer × Bus → ProposedChannel env.Signer × Bus → Prop :=
  Relation.ReflTransGen fun before after =>
    ∃ call, Allowed call before ∧ (ProposalCall.run env call before).2 = after

/-- The answers that were sent. -/
def answers (bus : Bus) : List LedgerChannelProposalAcc :=
  bus.filterMap fun sent =>
    match sent with
    | .toParticipant _ _ (.proposalAccepted acc) => some acc
    | _ => none

section Steps

theorem responder_accept_aborts {channel : ProposedChannel env.Signer} (nonceShare : NonceShare)
    (address : Address) (bus : Bus) (responder : channel.partIdx = 1)
    (missing : channel.proposal.peers[1]? = none) :
    (ProposedChannel.accept env nonceShare address (channel, bus)).1 = .panic := by
  simp [ProposedChannel.accept, Op.bind_run, Build.sub, responder, store, broadcast_run, missing]

theorem answer_write_once (msg : LedgerChannelProposalAcc)
    (before : ProposedChannel env.Signer × Bus) : WriteOnce (.participantAccepted msg) before := by
  have run : ProposalCall.run env (.participantAccepted msg) before =
      ((ProposedChannel.participantAccepted env 1 msg before.1).1.mapErr .handleAccept,
        ((ProposedChannel.participantAccepted env 1 msg before.1).2, before.2)) := rfl
  rw [answer_run] at run
  constructor
  · rw [run]
    split
    · simp
    · split <;> simp
  · intro acc stored
    rw [run]
    split
    · exact stored
    · split
      · exact stored
      · rename_i free
        have taken : some (before.1.responses.get 0) = some (some acc) := stored
        rw [free] at taken
        cases taken
  · intro nonceShare address other
    cases other

theorem write_once_iff (call : ProposalCall) (before : ProposedChannel env.Signer × Bus)
    (role : Side) (partIdx : before.1.partIdx = role.partIdx) :
    WriteOnce call before ↔ Allowed call before := by
  cases call with
  | participantAccepted msg => exact iff_of_true (answer_write_once msg before) trivial
  | accept nonceShare address =>
      have run : ProposalCall.run env (.accept nonceShare address) before =
          ((ProposedChannel.accept env nonceShare address before).1.mapErr .alreadyAccepted,
            (ProposedChannel.accept env nonceShare address before).2) := rfl
      cases role with
      | first =>
          have aborts := proposer_accept_aborts nonceShare address before.2 partIdx
          constructor
          · intro once
            exact absurd (by rw [run, aborts]; rfl) once.returns
          · rintro ⟨responder, _⟩
            rw [partIdx] at responder
            cases responder
      | second =>
          cases peer : before.1.proposal.peers[1]? with
          | none =>
              have aborts := responder_accept_aborts nonceShare address before.2 partIdx peer
              constructor
              · intro once
                exact absurd (by rw [run, aborts]; rfl) once.returns
              · rintro ⟨_, _, bound⟩
                rw [List.getElem?_eq_none_iff] at peer
                omega
          | some sender =>
              have accepts := @accept_run env before.1 nonceShare address before.2 sender partIdx peer
              have returns : ProposalCall.run env (.accept nonceShare address) before =
                  (.ok (), (ProposedChannel.accept env nonceShare address before).2) := by
                rw [run, accepts]
                rfl
              have bound : 1 < before.1.proposal.peers.length :=
                (List.getElem?_eq_some_iff.mp peer).1
              cases held : before.1.responses[0] with
              | some acc =>
                  constructor
                  · intro once
                    have refused := once.refuses nonceShare address rfl
                      (Or.inr ⟨acc, by simp [Stored, held]⟩)
                    rw [returns] at refused
                    cases refused
                  · rintro ⟨_, free, _⟩
                    simp [held] at free
              | none =>
                  refine iff_of_true ⟨?_, ?_, ?_⟩ ⟨partIdx, by simp [held], bound⟩
                  · rw [returns]
                    simp
                  · intro acc stored
                    simp [Stored, held] at stored
                  · rintro _ _ _ (proposer | ⟨acc, stored⟩)
                    · rw [partIdx] at proposer
                      cases proposer
                    · simp [Stored, held] at stored

end Steps

section Runs
variable {proposal : LedgerChannelProposal} {role : Side} {bus : Bus}

/-- Every answer that was sent is the one in the slot. -/
structure Kept (proposal : LedgerChannelProposal) (role : Side) (bus : Bus)
    (state : ProposedChannel env.Signer × Bus) : Prop where
  proposal : state.1.proposal = proposal
  partIdx : state.1.partIdx = role.partIdx
  sent : ∃ sent, state.2 = bus ++ sent ∧ ∀ acc ∈ answers sent, Stored state acc

theorem answers_broadcast (partIdx : PartIdx) (sender : Identity) (peers : Peers)
    (acc : LedgerChannelProposalAcc) :
    ∀ answer ∈ answers (broadcast partIdx sender peers (.proposalAccepted acc)), answer = acc := by
  intro answer among
  obtain ⟨sent, heard, isAnswer⟩ := List.mem_filterMap.mp among
  obtain ⟨peer, _, rfl⟩ := List.mem_map.mp heard
  cases isAnswer
  rfl

theorem accept_kept {before : ProposedChannel env.Signer × Bus}
    (kept : Kept proposal role bus before)
    (nonceShare : NonceShare) (address : Address)
    (allowed : Allowed (.accept nonceShare address) before) :
    Kept proposal role bus (ProposalCall.run env (.accept nonceShare address) before).2 := by
  rcases allowed with ⟨responder, free, bound⟩
  rcases kept.sent with ⟨sent, onBus, stored⟩
  have accepts := @accept_run env before.1 nonceShare address before.2 _ responder
    (List.getElem?_eq_getElem bound)
  have after : (ProposalCall.run env (.accept nonceShare address) before).2 =
      (ProposedChannel.accept env nonceShare address before).2 := rfl
  rw [after, accepts]
  constructor
  · exact kept.proposal
  · exact kept.partIdx
  · refine ⟨sent ++ broadcast 1 before.1.proposal.peers[1] before.1.proposal.peers
      (.proposalAccepted ⟨before.1.proposal.proposalId, nonceShare, address⟩), ?_, ?_⟩
    · rw [onBus, List.append_assoc]
    · intro acc among
      rw [answers, List.filterMap_append, List.mem_append] at among
      rcases among with earlier | now
      · have held := stored acc earlier
        rw [Stored, free] at held
        cases held
      · rw [answers_broadcast _ _ _ _ acc now]
        rfl

theorem answer_kept {before : ProposedChannel env.Signer × Bus}
    (kept : Kept proposal role bus before)
    (msg : LedgerChannelProposalAcc) :
    Kept proposal role bus (ProposalCall.run env (.participantAccepted msg) before).2 := by
  have once := answer_write_once msg before
  have after : (ProposalCall.run env (.participantAccepted msg) before).2 =
      ((ProposedChannel.participantAccepted env 1 msg before.1).2, before.2) := rfl
  have frame : (ProposedChannel.participantAccepted env 1 msg before.1).2.proposal =
      before.1.proposal ∧
      (ProposedChannel.participantAccepted env 1 msg before.1).2.partIdx = before.1.partIdx := by
    rw [answer_run]
    split
    · exact ⟨rfl, rfl⟩
    · split <;> exact ⟨rfl, rfl⟩
  rcases kept.sent with ⟨sent, onBus, stored⟩
  constructor
  · rw [after, frame.1, kept.proposal]
  · rw [after, frame.2, kept.partIdx]
  · exact ⟨sent, onBus, fun acc among => once.keeps acc (stored acc among)⟩

theorem runs_kept {start state : ProposedChannel env.Signer × Bus}
    (kept : Kept proposal role bus start) (runs : AllowedRuns env start state) :
    Kept proposal role bus state := by
  induction runs with
  | refl => exact kept
  | tail _ step before =>
      rcases step with ⟨call, allowed, rfl⟩
      cases call with
      | accept nonceShare address => exact accept_kept before nonceShare address allowed
      | participantAccepted msg => exact answer_kept before msg

theorem runs_stored {before after : ProposedChannel env.Signer × Bus}
    {acc : LedgerChannelProposalAcc} (kept : Kept proposal role bus before)
    (stored : Stored before acc) (runs : AllowedRuns env before after) : Stored after acc := by
  induction runs with
  | refl => exact stored
  | tail runs step held =>
      rcases step with ⟨call, allowed, rfl⟩
      have partIdx := (runs_kept kept runs).partIdx
      exact ((write_once_iff call _ role partIdx).mpr allowed).keeps acc held

/-- While `accept` is left to a responder without an answer, each call keeps to the
rule, and only such calls do; the first answer is the one that was sent and the one the
parameters are built from. -/
theorem first_answer_stays (client : PerunClient env.Signer) (role : Side) (receiver : Address)
    (proposal : LedgerChannelProposal) (bus : Bus) {before : ProposedChannel env.Signer × Bus}
    (runs : AllowedRuns env (ProposedChannel.create client role.partIdx receiver proposal, bus)
      before) :
    (∀ call, WriteOnce call before ↔ Allowed call before) ∧
    ∀ acc, Stored before acc →
      (∃ sent, before.2 = bus ++ sent ∧ ∀ answer ∈ answers sent, answer = acc) ∧
      ∀ after, AllowedRuns env before after → Stored after acc ∧
        ∀ agreed, after.1.build env = .ok agreed →
          agreed.params = agreedParams env proposal acc := by
  have kept : Kept proposal role bus before :=
    runs_kept ⟨rfl, rfl, [], (List.append_nil bus).symm, fun _ among => nomatch among⟩ runs
  constructor
  · intro call
    exact write_once_iff call before role kept.partIdx
  · intro acc stored
    constructor
    · rcases kept.sent with ⟨sent, onBus, same⟩
      refine ⟨sent, onBus, fun answer among => ?_⟩
      have held := same answer among
      rw [Stored, stored] at held
      cases held
      rfl
    · intro after later
      have held := runs_stored kept stored later
      refine ⟨held, fun agreed built => ?_⟩
      obtain ⟨res, found, rfl⟩ := proposed_build_ok.mp built
      rw [Stored, found] at held
      cases held
      rw [(runs_kept kept later).proposal]

end Runs

/-! The responder of the plain proposal answers once, and once more with another
share. -/
section Plain

def plainResponder (responses : Vector (Option LedgerChannelProposalAcc) 1) :
    ProposedChannel plainEnv.Signer :=
  ⟨1, ⟨Vector.replicate 20 2⟩, ⟨(⟨Vector.replicate 20 2⟩ : Address)⟩, plainProposal, responses⟩

theorem plain_accept (nonceShare : NonceShare) (address : Address) (bus : Bus)
    (responses : Vector (Option LedgerChannelProposalAcc) 1) :
    ProposalCall.run plainEnv (.accept nonceShare address) (plainResponder responses, bus) =
      (.ok (), (plainResponder #v[some ⟨plainProposal.proposalId, nonceShare, address⟩],
        bus ++ [.toParticipant [2] [1]
          (.proposalAccepted ⟨plainProposal.proposalId, nonceShare, address⟩)])) := by
  have accepts := @accept_run plainEnv (plainResponder responses) nonceShare address bus [2] rfl rfl
  rw [ProposalCall.run, Op.mapErr_run, accepts]
  rfl

def plainAnswered : ProposedChannel plainEnv.Signer × Bus :=
  (plainResponder (Vector.replicate 1 (some plainAnswer)),
    [.toParticipant [2] [1] (.proposalAccepted plainAnswer)])

theorem first_answer_stays_plain :
    AllowedRuns plainEnv (plainResponder #v[none], []) plainAnswered ∧
    Stored plainAnswered plainAnswer ∧
    ∀ call, WriteOnce call plainAnswered ↔ Allowed call plainAnswered := by
  have runs : AllowedRuns plainEnv (plainResponder #v[none], []) plainAnswered := by
    refine .single ⟨.accept plainAnswer.nonceShare plainAnswer.participant,
      ⟨rfl, rfl, by decide⟩, ?_⟩
    rw [plain_accept]
    rfl
  refine ⟨runs, rfl, ?_⟩
  exact (first_answer_stays ⟨(⟨Vector.replicate 20 2⟩ : Address)⟩ .second
    ⟨Vector.replicate 20 2⟩ plainProposal [] runs).1

/-- The second `accept` returns, replaces the answer the other side has, and is sent. -/
theorem second_answer_replaces :
    ∃ start : ProposedChannel plainEnv.Signer × Bus,
      start.1 = ProposedChannel.create start.1.client 1 start.1.withdrawReceiver plainProposal ∧
      ∃ first second : ProposalCall, ∃ accepted replaced : ProposedChannel plainEnv.Signer × Bus,
        first.run plainEnv start = (.ok (), accepted) ∧
        second.run plainEnv accepted = (.ok (), replaced) ∧
        Stored accepted plainAnswer ∧ ¬Stored replaced plainAnswer ∧
        (answers replaced.2).length = 2 ∧ ¬WriteOnce second accepted := by
  refine ⟨(plainResponder #v[none], []), rfl,
    .accept plainAnswer.nonceShare plainAnswer.participant,
    .accept ⟨Vector.replicate 32 3⟩ plainAnswer.participant, _, _,
    plain_accept _ _ _ _, plain_accept _ _ _ _, rfl, by decide, rfl, ?_⟩
  intro once
  have kept := once.keeps plainAnswer rfl
  rw [plain_accept] at kept
  revert kept
  decide

end Plain
end Perun.ProposalPhase
