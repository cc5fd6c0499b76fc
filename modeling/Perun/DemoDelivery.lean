import Perun.DemoAgreement

/-! Two demo endpoints on links that keep the order and lose nothing. An endpoint that
proposes and waits says nothing until it is answered, so at most one proposal is on the
way from each side, and an acceptance finds the update that it answers. That is lost
where the application calls `update` while an own update is pending. -/
namespace Perun.DemoDelivery
open AbiTypes Payment Messages MessageBus Active TwoParty DemoChannel ChannelRun DemoAgreement

/-- `heard` counts the messages of the other side that were delivered. -/
structure Endpoint (env : Env) where
  party : Party env
  heard : Nat

inductive Move where
  | update (amount : U256) (isFinal : Bool)
  | deliver

section System
variable (env : Env)

def advance (side : Side) (said : List ParticipantMessage) (endpoint : Endpoint env) :
    Move → Option (Outcome Unit (Endpoint env))
  | .update amount isFinal => do
      let result ← DemoAgreement.advance env side said endpoint.party (.update amount isFinal)
      some (result >>= fun party => .ok ⟨party, endpoint.heard⟩)
  | .deliver => do
      -- The next message, whatever becomes of it.
      let msg ← said[endpoint.heard]?
      let result ← DemoAgreement.advance env side said endpoint.party (.deliver msg)
      some (result >>= fun party => .ok ⟨party, endpoint.heard + 1⟩)

def system : System (Endpoint env) Move ParticipantMessage Unit where
  advance := advance env
  sent _ endpoint := spoken endpoint.party.bus

def start (channel : Side → ActiveChannel env.Signer) (side : Side) : Endpoint env :=
  ⟨DemoAgreement.start env channel side, 0⟩

end System

section Advances
variable {env : Env} {side : Side} {said : List ParticipantMessage} {endpoint after : Endpoint env}

theorem update_advances {amount : U256} {isFinal : Bool} :
    advance env side said endpoint (.update amount isFinal) = some (.ok after) ↔
      ∃ party, DemoAgreement.advance env side said endpoint.party (.update amount isFinal) =
        some (.ok party) ∧ after = ⟨party, endpoint.heard⟩ := by
  dsimp only [advance]
  constructor
  · intro advanced
    obtain ⟨result, called, done⟩ := Option.bind_eq_some_iff.mp advanced
    obtain ⟨party, returned, same⟩ := Outcome.bind_eq_ok.mp (Option.some.inj done)
    exact ⟨party, by rw [called, returned], (Outcome.ok.inj same).symm⟩
  · rintro ⟨party, called, rfl⟩
    rw [called]
    rfl

theorem deliver_advances :
    advance env side said endpoint .deliver = some (.ok after) ↔
      ∃ msg party, said[endpoint.heard]? = some msg ∧
        DemoAgreement.advance env side said endpoint.party (.deliver msg) = some (.ok party) ∧
        after = ⟨party, endpoint.heard + 1⟩ := by
  dsimp only [advance]
  constructor
  · intro advanced
    obtain ⟨msg, heard, advanced⟩ := Option.bind_eq_some_iff.mp advanced
    obtain ⟨result, called, done⟩ := Option.bind_eq_some_iff.mp advanced
    obtain ⟨party, returned, same⟩ := Outcome.bind_eq_ok.mp (Option.some.inj done)
    exact ⟨msg, party, heard, by rw [called, returned], (Outcome.ok.inj same).symm⟩
  · rintro ⟨msg, party, heard, called, rfl⟩
    rw [heard]
    change (do
      let result ← DemoAgreement.advance env side said endpoint.party (.deliver msg)
      some (result >>= fun party => .ok (⟨party, endpoint.heard + 1⟩ : Endpoint env))) = _
    rw [called]
    rfl

theorem endpoint_updates {amount : U256} {isFinal : Bool} {inner inner' : ChannelInner env.Signer}
    {bus bus' : Bus} {heard : Nat}
    (returns : DemoChannel.update env amount isFinal (inner, bus) = (.ok (), (inner', bus'))) :
    (system env).advance side said ⟨⟨inner, bus⟩, heard⟩ (.update amount isFinal) =
      some (.ok ⟨⟨inner', bus'⟩, heard⟩) :=
  update_advances.mpr ⟨_, @DemoAgreement.update_advances _ said side _ _ _ _ _ _ returns, rfl⟩

theorem endpoint_hears {msg : ParticipantMessage} {inner inner' : ChannelInner env.Signer}
    {bus bus' : Bus} {heard : Nat} {outcome : Outcome (Error env.SigError) Unit}
    (next : said[heard]? = some msg)
    (call : processParticipantMsg env msg (inner, bus) = (outcome, (inner', bus')))
    (returns : outcome ≠ .panic) :
    (system env).advance side said ⟨⟨inner, bus⟩, heard⟩ .deliver =
      some (.ok ⟨⟨inner', bus'⟩, heard + 1⟩) := by
  refine deliver_advances.mpr ⟨msg, _, next, ?_, rfl⟩
  simp only [DemoAgreement.advance, if_pos (List.mem_of_getElem? next), call]
  cases outcome with
  | ok value => rfl
  | err error => rfl
  | panic => exact absurd rfl returns

end Advances

section Pairs
variable {α : Type}

def consecutive : List α → List (α × α)
  | first :: second :: rest => (first, second) :: consecutive (second :: rest)
  | _ => []

theorem consecutive_snoc (values : List α) (last value : α) :
    consecutive (values ++ [last] ++ [value]) = consecutive (values ++ [last]) ++
      [(last, value)] := by
  induction values with
  | nil => rfl
  | cons first rest ih =>
      cases rest with
      | nil => rfl
      | cons second rest => exact congrArg _ ih

end Pairs

/-- An acceptance and the state that is applied in the same call. -/
def answer : Sent × Sent → Option (LedgerChannelUpdateAccepted × State 1 2)
  | (.toParticipant _ _ (.channelUpdateAccepted msg), .toWatcher (.watchRequest req)) =>
      some (msg, req.state)
  | _ => none

/-- What an endpoint accepted, in the order of its acceptances. -/
def answered (bus : Bus) : List (LedgerChannelUpdateAccepted × State 1 2) :=
  (consecutive bus).filterMap answer

variable {env : Env}

/-- The messages of one side that the other side has heard. -/
def delivered (world : Side → Endpoint env) (side : Side) : List ParticipantMessage :=
  (spoken (world side).party.bus).take (world side.other).heard

/-- Of everything an endpoint accepted, what was acknowledged to the proposer is applied
there too, in whatever phase the proposer is. -/
def NoLostUpdate (world : Side → Endpoint env) : Prop :=
  ∀ side k msg state, (answered (world side).party.bus)[k]? = some (msg, state) →
    k < (acceptances (delivered world side)).length →
    state ∈ appliedStates (world side.other).party.bus

/-- What makes a call of `update` return an error. -/
inductive Refused (channel : ActiveChannel env.Signer) (amount : U256) (isFinal : Bool) : Prop
  | final (final : channel.state.isFinal = true)
  | poor (poor : (getElem (getElem channel.state.outcome.balances 0 Nat.zero_lt_one) 1
      Nat.one_lt_two).toNat < amount.toNat)
  | unsigned (unsigned : ∀ newState, payment env channel amount isFinal = .ok newState →
      env.signEth channel.client.signer (stateHash env newState) = none)

/-- `update` is not called while an own update is pending, unless the call is refused. -/
def Patient (endpoint : Endpoint env) : Move → Prop
  | .update amount isFinal =>
      match endpoint.party.inner with
      | .active channel (some _) => Refused channel amount isFinal
      | _ => True
  | .deliver => True

def PatientRuns (env : Env) : (Side → Endpoint env) → (Side → Endpoint env) → Prop :=
  Relation.ReflTransGen fun world after =>
    ∃ side move, Patient (world side) move ∧ (system env).step world side move = some (.ok after)

/-! What is on the bus of an endpoint. -/
section Buses

/-- Every acceptance is followed by the state that it applies. -/
structure Complete (bus : Bus) : Prop where
  paired : (answered bus).map Prod.fst = acceptances (spoken bus)
  last : ∀ sent ∈ bus.getLast?, ∀ next, answer (sent, next) = none

theorem answered_snoc {bus : Bus} (complete : Complete bus) (sent : Sent) :
    answered (bus ++ [sent]) = answered bus := by
  induction bus using List.reverseRecOn with
  | nil => rfl
  | append_singleton rest last _ =>
      have quiet := complete.last last (by simp) sent
      rw [answered, consecutive_snoc, List.filterMap_append]
      simp [answered, quiet]

theorem answered_pair {bus : Bus} (complete : Complete bus) (first second : Sent) :
    answered (bus ++ [first] ++ [second]) = answered bus ++ (answer (first, second)).toList := by
  rw [answered, consecutive_snoc, List.filterMap_append]
  have same := answered_snoc complete first
  rw [answered] at same
  rw [same]
  cases paired : answer (first, second) <;> simp [paired]

theorem complete_nil : Complete [] := ⟨rfl, fun sent last => by cases last⟩

theorem complete_proposal {bus : Bus} (complete : Complete bus) (sender recipient : Identity)
    (msg : LedgerChannelUpdate) :
    Complete (bus ++ [.toParticipant sender recipient (.channelUpdate msg)]) where
  paired := by
    rw [answered_snoc complete, complete.paired, spoken_append, acceptances_append]
    exact (List.append_nil _).symm
  last := by
    intro sent last next
    rw [List.getLast?_concat, Option.mem_some] at last
    subst last
    rfl

theorem complete_watch {bus : Bus} (complete : Complete bus) (req : StartWatchingLedgerChannelReq) :
    Complete (bus ++ [.toWatcher (.watchRequest req)]) where
  paired := by
    rw [answered_snoc complete, complete.paired, spoken_append, acceptances_append]
    exact (List.append_nil _).symm
  last := by
    intro sent last next
    rw [List.getLast?_concat, Option.mem_some] at last
    subst last
    rfl

theorem complete_answer {bus : Bus} (complete : Complete bus) (sender recipient : Identity)
    (msg : LedgerChannelUpdateAccepted) (req : StartWatchingLedgerChannelReq) :
    Complete (bus ++ [.toParticipant sender recipient (.channelUpdateAccepted msg)] ++
      [.toWatcher (.watchRequest req)]) where
  paired := by
    rw [answered_pair complete, List.map_append, complete.paired, spoken_append, spoken_append,
      acceptances_append, acceptances_append]
    exact (List.append_nil _).symm
  last := by
    intro sent last next
    rw [List.getLast?_concat, Option.mem_some] at last
    subst last
    rfl

theorem broadcast_single {peers : Peers} (pair : peers.length = 2) {partIdx : PartIdx}
    (bound : partIdx < 2) (sender : Identity) (msg : ParticipantMessage) :
    ∃ recipient, broadcast partIdx sender peers msg = [.toParticipant sender recipient msg] := by
  obtain ⟨first, second, rfl⟩ := List.length_eq_two.mp pair
  exact ⟨_, broadcast_pair partIdx first second msg bound sender⟩

end Buses

/-! Two endpoints and what is on the way between them. -/
section Links

/-- What is on the way from one endpoint to the other one. -/
def onTheWay (speaker listener : Endpoint env) : List ParticipantMessage :=
  (spoken speaker.party.bus).drop listener.heard

/-- The endpoint waits for the answer to its own proposal of the state. -/
def Waits (endpoint : Endpoint env) (state : State 1 2) : Prop :=
  ∃ channel sig, endpoint.party.inner =
      .active channel (some ⟨channel.state.id, state, single channel.partIdx sig⟩) ∧
    ValidTransition env channel.state state

/-- At the end of a link there is at most the proposal that the speaker waits for. -/
def Tail (speaker : Endpoint env) (said : List ParticipantMessage) : Prop :=
  said = [] ∨ ∃ msg, said = [.channelUpdate msg] ∧ Waits speaker msg.state

/-- The acceptance is one of this state by this signer. -/
structure Accepts (env : Env) (signer : Address) (acc : LedgerChannelUpdateAccepted)
    (state : State 1 2) : Prop where
  channel : acc.channel = state.id
  version : acc.version = state.version
  recovered : env.recoverSigner (stateHash env state) acc.sig = .ok signer

/-- What the speaker accepted is applied at the other endpoint. -/
def Settled (answers : List (LedgerChannelUpdateAccepted × State 1 2))
    (listener : Endpoint env) : Prop :=
  ∀ answer ∈ answers, answer.2 ∈ appliedStates listener.party.bus

structure Calm (mine theirs : Endpoint env) : Prop where
  tail : Tail mine (onTheWay mine theirs)
  tail' : Tail theirs (onTheWay theirs mine)
  settled : Settled (answered mine.party.bus) theirs
  settled' : Settled (answered theirs.party.bus) mine

/-- One endpoint has accepted what the other one waits for, and its acceptance is on the
way. The other one has nothing more to say. -/
structure Answering (signer : Address) (mine theirs : Endpoint env)
    (acc : LedgerChannelUpdateAccepted) (state : State 1 2) (rest : List ParticipantMessage)
    (earlier : List (LedgerChannelUpdateAccepted × State 1 2)) : Prop where
  first : onTheWay mine theirs = .channelUpdateAccepted acc :: rest
  tail : Tail mine rest
  silent : onTheWay theirs mine = []
  waits : Waits theirs state
  accepts : Accepts env signer acc state
  last : answered mine.party.bus = earlier ++ [(acc, state)]
  settled : Settled earlier theirs
  settled' : Settled (answered theirs.party.bus) mine

inductive Config (own other : Address) (mine theirs : Endpoint env) : Prop
  | calm (calm : Calm mine theirs)
  | ours {acc : LedgerChannelUpdateAccepted} {state : State 1 2} {rest : List ParticipantMessage}
      {earlier : List (LedgerChannelUpdateAccepted × State 1 2)}
      (answering : Answering own mine theirs acc state rest earlier)
  | theirs {acc : LedgerChannelUpdateAccepted} {state : State 1 2} {rest : List ParticipantMessage}
      {earlier : List (LedgerChannelUpdateAccepted × State 1 2)}
      (answering : Answering other theirs mine acc state rest earlier)

theorem Config.symm {own other : Address} {mine theirs : Endpoint env}
    (config : Config own other mine theirs) : Config other own theirs mine := by
  cases config with
  | calm calm => exact .calm ⟨calm.tail', calm.tail, calm.settled', calm.settled⟩
  | ours answering => exact .theirs answering
  | theirs answering => exact .ours answering

-- Whoever waits for nothing has nothing on the way at the end of its link.
theorem tail_idle {endpoint : Endpoint env} {channel : ActiveChannel env.Signer}
    {said : List ParticipantMessage} (idle : endpoint.party.inner = .active channel none)
    (tail : Tail endpoint said) : said = [] := by
  rcases tail with empty | ⟨msg, _, channel', sig, waiting, _⟩
  · exact empty
  · rw [idle] at waiting
    cases waiting

theorem not_waiting {endpoint : Endpoint env} {channel : ActiveChannel env.Signer}
    {state : State 1 2} (idle : endpoint.party.inner = .active channel none) :
    ¬Waits endpoint state := by
  rintro ⟨channel', sig, waiting, _⟩
  rw [idle] at waiting
  cases waiting

/-- What an endpoint keeps by itself. -/
def Seat (begin : ActiveChannel env.Signer) : ChannelInner env.Signer → Prop
  | .active channel _ => channel.params = begin.params ∧ channel.partIdx = begin.partIdx ∧
      channel.peers = begin.peers ∧ channel.client = begin.client
  | .closing _ => True
  | _ => False

theorem Seat.frame {begin : ActiveChannel env.Signer} {inner : ChannelInner env.Signer}
    (seat : Seat begin inner) : Frame begin inner := by
  cases inner with
  | active channel pending => exact ⟨seat.1, seat.2.1, seat.2.2.1⟩
  | closing channel => trivial
  | _ => exact seat.elim

structure Sound (begin : ActiveChannel env.Signer) (party : Party env) : Prop where
  seat : Seat begin party.inner
  complete : Complete party.bus

/-- An endpoint whose own call, or a message that it has heard, has changed nothing but
the count. -/
theorem calm_hears {mine theirs : Endpoint env} {msg : ParticipantMessage}
    {rest : List ParticipantMessage} (calm : Calm mine theirs)
    (next : onTheWay theirs mine = msg :: rest) :
    Calm ⟨mine.party, mine.heard + 1⟩ theirs where
  tail := calm.tail
  tail' := by
    have shorter : onTheWay theirs ⟨mine.party, mine.heard + 1⟩ = rest := by
      rw [onTheWay, ← List.drop_drop]
      change (onTheWay theirs mine).drop 1 = rest
      rw [next]
      rfl
    rw [shorter]
    rcases calm.tail' with empty | ⟨msg', one, _⟩
    · rw [next] at empty
      cases empty
    · rw [next] at one
      cases one
      exact Or.inl rfl
  settled := calm.settled
  settled' := calm.settled'

end Links

/-! What one call does to a link. -/
section Calls
variable {begin : ActiveChannel env.Signer} {own other : Address} {mine theirs : Endpoint env}

theorem refused_unchanged {channel : ActiveChannel env.Signer} {pending : Option ChannelUpdate}
    {amount : U256} {isFinal : Bool} {bus : Bus} (refused : Refused channel amount isFinal)
    (returns : (update env amount isFinal (.active channel pending, bus)).1 ≠ .panic) :
    (update env amount isFinal (.active channel pending, bus)).2 =
      (.active channel pending, bus) := by
  simp only [update] at returns ⊢
  rcases proposed : proposePayment env channel amount isFinal bus with ⟨result, after⟩
  rw [proposed] at returns
  cases result with
  | panic => exact absurd rfl returns
  | err error => rw [propose_payment_atomic _ _ _ _ _ _ proposed]
  | ok sent =>
      obtain ⟨newState, updated, pays, enough⟩ := propose_payment_ok proposed
      obtain ⟨valid, _, sig, _, signed, _⟩ := update_ok.mp updated
      cases refused with
      | final final =>
          rw [valid.notFinal] at final
          cases final
      | poor poor => exact absurd enough (Nat.not_le_of_lt poor)
      | unsigned unsigned =>
          rw [unsigned newState pays] at signed
          cases signed

/-- A patient update proposes from an idle endpoint, or it changes nothing. -/
theorem patient_update {party after : Party env} {heard : Nat} {side : Side} {amount : U256}
    {isFinal : Bool} {said : List ParticipantMessage} (seat : Seat begin party.inner)
    (patient : Patient ⟨party, heard⟩ (.update amount isFinal))
    (advanced : DemoAgreement.advance env side said party (.update amount isFinal) =
      some (.ok after)) :
    after = party ∨ ∃ channel newState sig sender, party.inner = .active channel none ∧
      ValidTransition env channel.state newState ∧
      after = ⟨.active channel (some ⟨channel.state.id, newState, single channel.partIdx sig⟩),
        party.bus ++ broadcast channel.partIdx sender channel.peers
          (.channelUpdate ⟨newState, channel.partIdx, sig⟩)⟩ := by
  rcases update_effect seat.frame advanced with same | ⟨channel, pending, phase, proposes⟩
  · exact Or.inl same
  · rcases party with ⟨inner, bus⟩
    cases phase
    cases pending with
    | none =>
        rcases after with ⟨inner', bus'⟩
        cases proposes with
        | unchanged => exact Or.inl rfl
        | proposed newState sig sender valid signed =>
            exact Or.inr ⟨channel, newState, sig, sender, rfl, valid, rfl⟩
    | some u =>
        left
        obtain ⟨returns, rfl⟩ := returned_ok (Option.some.inj advanced)
        rw [refused_unchanged patient returns]

/-- A message that is no answer is ignored, or it is a proposal that is accepted and
applied. -/
theorem hears_proposal {party after : Party env} {side : Side} {msg : LedgerChannelUpdate}
    {said : List ParticipantMessage} (bound : begin.partIdx < 2) (seat : Seat begin party.inner)
    (advanced : DemoAgreement.advance env side said party (.deliver (.channelUpdate msg)) =
      some (.ok after)) :
    after = party ∨ ∃ channel update sig sender signatures, party.inner = .active channel none ∧
      ValidTransition env channel.state msg.state ∧
      env.signEth channel.client.signer (stateHash env msg.state) = some sig ∧
      after = ⟨afterApply { channel with state := msg.state, signatures := signatures } update,
        party.bus ++ broadcast channel.partIdx sender channel.peers
            (.channelUpdateAccepted ⟨channel.state.id, msg.state.version, sig⟩) ++
          [.toWatcher (.watchRequest ⟨channel.params, msg.state, signatures⟩)]⟩ := by
  rcases (deliver_effect bound seat.frame advanced).2 with same | ⟨channel, pending, phase, delivers⟩
  · exact Or.inl same
  · rcases party with ⟨inner, bus⟩
    rcases after with ⟨inner', bus'⟩
    cases phase
    cases delivers with
    | unchanged => exact Or.inl rfl
    | accepted msg update sig sender signatures idle valid same signed =>
        subst idle
        exact Or.inr ⟨channel, update, sig, sender, signatures, rfl, valid, signed, rfl⟩

theorem single_free {partIdx : PartIdx} {sig : Signature} (bound : partIdx < 2) :
    (single partIdx sig)[1 - partIdx]? = some none := by
  interval_cases partIdx <;> rfl

/-- The acceptance of what an endpoint waits for completes it. -/
theorem hears_answer {party after : Party env} {side : Side} {acc : LedgerChannelUpdateAccepted}
    {heard : Nat} {state : State 1 2} {said : List ParticipantMessage} (bound : begin.partIdx < 2)
    (participant : begin.params.participants[1 - begin.partIdx]? = some other)
    (seat : Seat begin party.inner) (waits : Waits ⟨party, heard⟩ state)
    (accepts : Accepts env other acc state)
    (advanced : DemoAgreement.advance env side said party (.deliver (.channelUpdateAccepted acc)) =
      some (.ok after)) :
    ∃ (channel : ActiveChannel env.Signer) (update : ChannelUpdate)
      (signatures : Vector Signature 2),
      Seat begin (.active channel none) ∧
      after = ⟨afterApply { channel with state := state, signatures := signatures } update,
        party.bus ++ [.toWatcher (.watchRequest ⟨channel.params, state, signatures⟩)]⟩ := by
  rcases party with ⟨inner, bus⟩
  obtain ⟨channel, sig, rfl, valid⟩ := waits
  obtain ⟨params, partIdx, peers, client⟩ := seat
  have bound' : channel.partIdx < 2 := partIdx ▸ bound
  have matching (slots : Vector (Option Signature) 2) :
      Matches env ⟨channel.state.id, state, slots⟩ channel := ⟨valid.version, rfl⟩
  have owner : channel.params.participants[1 - channel.partIdx]? = some other := by
    rw [params, partIdx]
    exact participant
  have answers := (@participant_accepted_ok env
    ⟨channel.state.id, state, single channel.partIdx sig⟩ _ channel (1 - channel.partIdx) acc).mpr
    ⟨matching _, accepts.channel.trans valid.sameId, accepts.version, single_free bound',
      ⟨other, accepts.recovered, owner⟩, rfl⟩
  obtain ⟨signatures, collected⟩ :=
    @slots_filled _ _ _ _ acc.sig (@single_own _ sig bound') (single_free bound')
  have applies := (@apply_ok env ⟨channel.state.id, state, _⟩ channel bus _).mpr
    ⟨matching _, signatures, collected, rfl⟩
  have returns := update_accepted_returns bound' answers applies
  simp only [DemoAgreement.advance] at advanced
  split at advanced
  · rw [returns] at advanced
    cases advanced
    exact ⟨channel, _, signatures, ⟨params, partIdx, peers, client⟩, rfl⟩
  · cases advanced

/-- An acceptance from which no signer is recovered for the pending state changes nothing. -/
theorem unrecovered_refused {channel : ActiveChannel env.Signer} {update : ChannelUpdate}
    {acc : LedgerChannelUpdateAccepted} {error : env.SigError} {bus : Bus}
    (bound : channel.partIdx < 2) (matching : Matches env update channel)
    (id : acc.channel = update.channelId) (version : acc.version = update.newState.version)
    (unrecovered : env.recoverSigner (stateHash env update.newState) acc.sig = .err error) :
    processParticipantMsg env (.channelUpdateAccepted acc) (.active channel (some update), bus) =
      (.err (.addSignature (.recoveryFailed error)), (.active channel (some update), bus)) := by
  have index : (env.build.sub 1 channel.partIdx : Outcome (ChannelInner env.Signer ×
      Error env.SigError) Nat) = .ok (1 - channel.partIdx) := if_pos (Nat.le_of_lt_succ bound)
  have refused : ChannelUpdate.participantAccepted env channel (1 - channel.partIdx) acc update =
      (.err (.recoveryFailed error), update) := by
    simp [ChannelUpdate.participantAccepted, Op.bind_run, ensure_valid_channel_iff.mpr matching, id,
      version, hash_state, unrecovered]
  have answer : call update (offBus (ChannelUpdate.participantAccepted env channel
      (1 - channel.partIdx) acc)) (fun update error => (ChannelInner.active channel (some update),
        Error.addSignature error)) bus =
      (.err (.active channel (some update), .addSignature (.recoveryFailed error)), bus) := by
    simp only [call, offBus, refused]
  simp only [processParticipantMsg, progress, updateAccepted, Op.bind_run, Op.lift_run, index,
    answer]

end Calls

/-! The invariant is kept by each call of one endpoint. -/
section Steps
variable {begin : ActiveChannel env.Signer} {own other : Address} {mine theirs : Endpoint env}

/-- What a call of the first endpoint keeps. -/
structure Keeps (begin : ActiveChannel env.Signer) (own other : Address)
    (mine theirs after : Endpoint env) : Prop where
  sound : Sound begin after.party
  grows : (spoken mine.party.bus).length ≤ (spoken after.party.bus).length
  config : Config own other after theirs

theorem says_more {party : Party env} {heard : Nat} {new : List ParticipantMessage}
    (known : theirs.heard ≤ (spoken mine.party.bus).length)
    (said : spoken party.bus = spoken mine.party.bus ++ new) :
    onTheWay ⟨party, heard⟩ theirs = onTheWay mine theirs ++ new := by
  rw [onTheWay, said, List.drop_append_of_le_length known, onTheWay]

theorem settled_grows {answers : List (LedgerChannelUpdateAccepted × State 1 2)}
    {listener after : Endpoint env} (settled : Settled answers listener)
    (grows : appliedStates listener.party.bus ⊆ appliedStates after.party.bus) :
    Settled answers after := fun answer member => grows (settled answer member)

theorem update_keeps {side : Side} {amount : U256} {isFinal : Bool} {after : Party env}
    {said : List ParticipantMessage} (pair : begin.peers.length = 2) (bound : begin.partIdx < 2)
    (sound : Sound begin mine.party) (known : theirs.heard ≤ (spoken mine.party.bus).length)
    (config : Config own other mine theirs) (patient : Patient mine (.update amount isFinal))
    (advanced : DemoAgreement.advance env side said mine.party (.update amount isFinal) =
      some (.ok after)) :
    Keeps begin own other mine theirs ⟨after, mine.heard⟩ := by
  rcases patient_update sound.seat patient advanced with
    rfl | ⟨channel, newState, sig, sender, idle, valid, rfl⟩
  · exact ⟨sound, le_rfl, config⟩
  · have seat := sound.seat
    rw [idle] at seat
    obtain ⟨params, partIdx, peers, client⟩ := seat
    obtain ⟨recipient, single⟩ := broadcast_single (peers ▸ pair) (partIdx ▸ bound) sender
      (.channelUpdate ⟨newState, channel.partIdx, sig⟩)
    rw [single]
    have spoke : spoken (mine.party.bus ++ [.toParticipant sender recipient
        (.channelUpdate ⟨newState, channel.partIdx, sig⟩)]) = spoken mine.party.bus ++
          [.channelUpdate ⟨newState, channel.partIdx, sig⟩] := spoken_append _ _
    have applied : appliedStates (mine.party.bus ++ [.toParticipant sender recipient
        (.channelUpdate ⟨newState, channel.partIdx, sig⟩)]) = appliedStates mine.party.bus := by
      rw [applied_append]
      exact List.append_nil _
    constructor
    · exact ⟨⟨params, partIdx, peers, client⟩, complete_proposal sound.complete sender recipient _⟩
    · rw [spoke, List.length_append]
      exact Nat.le_add_right _ _
    · cases config with
      | calm calm =>
          have quiet := tail_idle idle calm.tail
          refine .calm ⟨?_, calm.tail', ?_, ?_⟩
          · rw [says_more known spoke, quiet]
            exact Or.inr ⟨_, rfl, channel, sig, rfl, valid⟩
          · rw [answered_snoc sound.complete]
            exact calm.settled
          · exact settled_grows calm.settled' (by rw [applied]; exact List.Subset.refl _)
      | ours answering =>
          have quiet := tail_idle idle answering.tail
          refine .ours
            { first := by rw [says_more known spoke, answering.first, quiet]; rfl
              tail := Or.inr ⟨_, rfl, channel, sig, rfl, valid⟩
              silent := answering.silent
              waits := answering.waits
              accepts := answering.accepts
              last := by rw [answered_snoc sound.complete, answering.last]
              settled := answering.settled
              settled' := settled_grows answering.settled'
                (by rw [applied]; exact List.Subset.refl _) }
      | theirs answering => exact absurd answering.waits (not_waiting idle)

theorem after_apply_seat {channel : ActiveChannel env.Signer} {update : ChannelUpdate}
    (seat : Seat begin (.active channel none)) : Seat begin (afterApply channel update) := by
  unfold afterApply
  split
  · trivial
  · exact seat

theorem hears_next {msg : ParticipantMessage}
    (next : (spoken theirs.party.bus)[mine.heard]? = some msg) (party : Party env) :
    onTheWay theirs mine = msg :: onTheWay theirs ⟨party, mine.heard + 1⟩ :=
  List.drop_eq_getElem?_toList_append.trans (by rw [next]; rfl)

theorem proposal_keeps {side : Side} {after : Party env} {msg : LedgerChannelUpdate}
    {said : List ParticipantMessage} (pair : begin.peers.length = 2) (bound : begin.partIdx < 2)
    (honest : ∀ hash sig, env.signEth begin.client.signer hash = some sig →
      env.recoverSigner hash sig = .ok own)
    (sound : Sound begin mine.party) (known : theirs.heard ≤ (spoken mine.party.bus).length)
    (calm : Calm mine theirs) (waits : Waits theirs msg.state)
    (heard : (spoken theirs.party.bus)[mine.heard]? = some (.channelUpdate msg))
    (next : onTheWay theirs mine = [.channelUpdate msg])
    (advanced : DemoAgreement.advance env side said mine.party (.deliver (.channelUpdate msg)) =
      some (.ok after)) :
    Keeps begin own other mine theirs ⟨after, mine.heard + 1⟩ := by
  rcases hears_proposal bound sound.seat advanced with
    rfl | ⟨channel, update, sig, sender, signatures, idle, valid, signed, rfl⟩
  · exact ⟨sound, le_rfl, .calm (calm_hears calm next)⟩
  · have seat := sound.seat
    rw [idle] at seat
    obtain ⟨params, partIdx, peers, client⟩ := seat
    let acc : LedgerChannelUpdateAccepted := ⟨channel.state.id, msg.state.version, sig⟩
    let req : StartWatchingLedgerChannelReq := ⟨channel.params, msg.state, signatures⟩
    obtain ⟨recipient, single⟩ := broadcast_single (peers ▸ pair) (partIdx ▸ bound) sender
      (.channelUpdateAccepted acc)
    rw [single]
    have spoke : spoken (mine.party.bus ++ [.toParticipant sender recipient
        (.channelUpdateAccepted acc)] ++ [.toWatcher (.watchRequest req)]) =
          spoken mine.party.bus ++ [.channelUpdateAccepted acc] := by
      rw [spoken_append, spoken_append]
      exact List.append_nil _
    have quiet := tail_idle idle calm.tail
    constructor
    · exact ⟨after_apply_seat ⟨params, partIdx, peers, client⟩,
        complete_answer sound.complete sender recipient acc req⟩
    · rw [spoke, List.length_append]
      exact Nat.le_add_right _ _
    · refine .ours
        { first := by rw [says_more known spoke, quiet]; rfl
          tail := Or.inl rfl
          silent := (List.cons.inj (next.symm.trans (hears_next heard _))).2.symm
          waits := waits
          accepts := ⟨valid.sameId.symm, rfl, honest _ sig (client ▸ signed)⟩
          last := answered_pair sound.complete _ _
          settled := calm.settled
          settled' := settled_grows calm.settled' ?_ }
      rw [applied_append, applied_append]
      exact List.subset_append_of_subset_left _ (List.subset_append_left _ _)

theorem answer_keeps {side : Side} {after : Party env} {acc : LedgerChannelUpdateAccepted}
    {state : State 1 2} {rest : List ParticipantMessage}
    {earlier : List (LedgerChannelUpdateAccepted × State 1 2)} {said : List ParticipantMessage}
    (bound : begin.partIdx < 2)
    (participant : begin.params.participants[1 - begin.partIdx]? = some other)
    (sound : Sound begin mine.party)
    (answering : Answering other theirs mine acc state rest earlier)
    (heard : (spoken theirs.party.bus)[mine.heard]? = some (.channelUpdateAccepted acc))
    (advanced : DemoAgreement.advance env side said mine.party
      (.deliver (.channelUpdateAccepted acc)) = some (.ok after)) :
    Keeps begin own other mine theirs ⟨after, mine.heard + 1⟩ := by
  obtain ⟨channel, update, signatures, seat, rfl⟩ :=
    hears_answer bound participant sound.seat answering.waits answering.accepts advanced
  let req : StartWatchingLedgerChannelReq := ⟨channel.params, state, signatures⟩
  have spoke : spoken (mine.party.bus ++ [.toWatcher (.watchRequest req)]) =
      spoken mine.party.bus := by
    rw [spoken_append]
    exact List.append_nil _
  have applied : appliedStates (mine.party.bus ++ [.toWatcher (.watchRequest req)]) =
      appliedStates mine.party.bus ++ [state] := applied_append _ _
  have left (party : Party env) : rest = onTheWay theirs ⟨party, mine.heard + 1⟩ :=
    (List.cons.inj (answering.first.symm.trans (hears_next heard party))).2
  constructor
  · exact ⟨after_apply_seat seat, complete_watch sound.complete req⟩
  · rw [spoke]
  · refine .calm ⟨Or.inl ?_, left _ ▸ answering.tail, ?_, ?_⟩
    · rw [onTheWay, spoke]
      exact answering.silent
    · rw [answered_snoc sound.complete]
      exact answering.settled'
    · rw [answering.last]
      intro answer member
      rw [applied]
      rcases List.mem_append.mp member with old | new
      · exact List.mem_append_left _ (answering.settled answer old)
      · rw [List.mem_singleton.mp new]
        exact List.mem_append_right _ (List.mem_singleton.mpr rfl)

/-- The next message is a proposal that its sender waits for, or the acceptance of what
the listener itself waits for. -/
theorem deliver_keeps {side : Side} {after : Party env} {msg : ParticipantMessage}
    {said : List ParticipantMessage} (pair : begin.peers.length = 2) (bound : begin.partIdx < 2)
    (participant : begin.params.participants[1 - begin.partIdx]? = some other)
    (honest : ∀ hash sig, env.signEth begin.client.signer hash = some sig →
      env.recoverSigner hash sig = .ok own)
    (sound : Sound begin mine.party) (known : theirs.heard ≤ (spoken mine.party.bus).length)
    (config : Config own other mine theirs)
    (heard : (spoken theirs.party.bus)[mine.heard]? = some msg)
    (advanced : DemoAgreement.advance env side said mine.party (.deliver msg) = some (.ok after)) :
    Keeps begin own other mine theirs ⟨after, mine.heard + 1⟩ := by
  have next := hears_next heard after
  cases config with
  | calm calm =>
      rcases calm.tail' with empty | ⟨proposal, one, waits⟩
      · rw [empty] at next
        cases next
      · have same := (List.cons.inj (one.symm.trans next)).1
        subst same
        exact proposal_keeps pair bound honest sound known calm waits heard one advanced
  | ours answering =>
      rw [answering.silent] at next
      cases next
  | theirs answering =>
      have same := (List.cons.inj (answering.first.symm.trans next)).1
      subst same
      exact answer_keeps bound participant sound answering heard advanced

end Steps

/-! Whole runs. -/
section Run
variable {channel : Side → ActiveChannel env.Signer} {world after : Side → Endpoint env}

structure Invariant (channel : Side → ActiveChannel env.Signer) (world : Side → Endpoint env) :
    Prop where
  sound : ∀ side, Sound (channel side) (world side).party
  known : ∀ side, (world side).heard ≤ (spoken (world side.other).party.bus).length
  config : ∀ side, Config (env.address (channel side).client.signer)
    (env.address (channel side.other).client.signer) (world side) (world side.other)

theorem start_invariant : Invariant channel (start env channel) where
  sound _ := ⟨⟨rfl, rfl, rfl, rfl⟩, complete_nil⟩
  known _ := le_rfl
  config _ := .calm
    { tail := Or.inl rfl
      tail' := Or.inl rfl
      settled := List.forall_mem_nil _
      settled' := List.forall_mem_nil _ }

/-- Every call of an endpoint that returns. -/
theorem advance_keeps (endpoints : Endpoints channel)
    (recovers : ∀ signer hash sig, env.signEth signer hash = some sig →
      env.recoverSigner hash sig = .ok (env.address signer))
    (invariant : Invariant channel world) {side : Side} {move : Move} {endpoint : Endpoint env}
    (patient : Patient (world side) move)
    (advanced : advance env side (spoken (world side.other).party.bus) (world side) move =
      some (.ok endpoint)) :
    Keeps (channel side) (env.address (channel side).client.signer)
        (env.address (channel side.other).client.signer) (world side) (world side.other) endpoint ∧
      endpoint.heard ≤ (spoken (world side.other).party.bus).length := by
  have bound : (channel side).partIdx < 2 := endpoints_bound endpoints side
  have known := invariant.known side.other
  rw [Side.other_other] at known
  cases move with
  | update amount isFinal =>
      obtain ⟨party, called, rfl⟩ := update_advances.mp advanced
      exact ⟨update_keeps (endpoints.peers side) bound (invariant.sound side) known
        (invariant.config side) patient called, invariant.known side⟩
  | deliver =>
      obtain ⟨msg, party, heard, called, rfl⟩ := deliver_advances.mp advanced
      constructor
      · exact deliver_keeps (endpoints.peers side) bound (participant_other endpoints side)
          (recovers (channel side).client.signer) (invariant.sound side) known
          (invariant.config side) heard called
      · exact (List.getElem?_eq_some_iff.mp heard).1

theorem step_invariant (endpoints : Endpoints channel)
    (recovers : ∀ signer hash sig, env.signEth signer hash = some sig →
      env.recoverSigner hash sig = .ok (env.address signer))
    (invariant : Invariant channel world) {side : Side} {move : Move}
    (patient : Patient (world side) move)
    (stepped : (system env).step world side move = some (.ok after)) :
    Invariant channel after := by
  obtain ⟨endpoint, advanced, rfl⟩ := step_ok.mp stepped
  obtain ⟨keeps, listens⟩ := advance_keeps endpoints recovers invariant patient advanced
  constructor
  · intro other
    by_cases moved : other = side
    · subst moved
      simpa using keeps.sound
    · rw [Function.update_of_ne moved]
      exact invariant.sound other
  · intro other
    by_cases moved : other = side
    · subst moved
      rw [Function.update_self, Function.update_of_ne (Side.other_ne other)]
      exact listens
    · have role : side = other.other := Side.eq_other (Ne.symm moved)
      subst role
      rw [Function.update_self, Function.update_of_ne moved]
      exact (invariant.known other).trans keeps.grows
  · intro other
    by_cases moved : other = side
    · subst moved
      rw [Function.update_self, Function.update_of_ne (Side.other_ne other)]
      exact keeps.config
    · have role : side = other.other := Side.eq_other (Ne.symm moved)
      subst role
      rw [Function.update_self, Function.update_of_ne moved]
      have config := keeps.config.symm
      rw [Side.other_other] at config
      exact config

theorem patient_invariant (endpoints : Endpoints channel)
    (recovers : ∀ signer hash sig, env.signEth signer hash = some sig →
      env.recoverSigner hash sig = .ok (env.address signer))
    (runs : PatientRuns env (start env channel) world) : Invariant channel world := by
  induction runs with
  | refl => exact start_invariant
  | tail _ stepped ih =>
      obtain ⟨side, move, patient, stepped⟩ := stepped
      exact step_invariant endpoints recovers ih patient stepped

/-- An acceptance that was heard is not the one that is on the way. -/
theorem heard_earlier {mine theirs : Endpoint env} {signer : Address}
    {acc : LedgerChannelUpdateAccepted} {state : State 1 2} {rest : List ParticipantMessage}
    {earlier : List (LedgerChannelUpdateAccepted × State 1 2)} (complete : Complete mine.party.bus)
    (answering : Answering signer mine theirs acc state rest earlier) :
    (acceptances ((spoken mine.party.bus).take theirs.heard)).length ≤ earlier.length := by
  have all := congrArg List.length complete.paired
  rw [answering.last, ← List.take_append_drop theirs.heard (spoken mine.party.bus),
    acceptances_append] at all
  have way : acceptances ((spoken mine.party.bus).drop theirs.heard) = acc :: acceptances rest :=
    congrArg acceptances answering.first
  rw [way] at all
  simp only [List.length_map, List.length_append, List.length_cons, List.length_nil] at all
  omega

theorem invariant_delivers (invariant : Invariant channel world) : NoLostUpdate world := by
  intro side k msg state found heard
  have member := List.mem_of_getElem? found
  cases invariant.config side with
  | calm calm => exact calm.settled _ member
  | theirs answering => exact answering.settled' _ member
  | ours answering =>
      have before := heard_earlier (invariant.sound side).complete answering
      rw [answering.last, List.getElem?_append_left (Nat.lt_of_lt_of_le heard before)] at found
      exact answering.settled _ (List.mem_of_getElem? found)

end Run

/-- In every run in which `update` is called only where no own update is pending, or where
it is refused, no update is lost. The states at first need not be equal. -/
theorem no_lost_update (env : Env) (channel : Side → ActiveChannel env.Signer)
    (endpoints : Endpoints channel)
    (recovers : ∀ signer hash sig, env.signEth signer hash = some sig →
      env.recoverSigner hash sig = .ok (env.address signer))
    (world : Side → Endpoint env) (runs : PatientRuns env (start env channel) world) :
    NoLostUpdate world :=
  invariant_delivers (patient_invariant endpoints recovers runs)

section Plain
open Opening UpdateAgreement

-- The payment is proposed, accepted, and completed by the acceptance.
theorem no_lost_update_payment : ∃ world, PatientRuns plainEnv (start plainEnv plainEnd) world ∧
    (∀ side, appliedStates (world side).party.bus = [plainPayment]) ∧ NoLostUpdate world := by
  obtain ⟨sender, receives⟩ := plain_receives
  have begun : PatientRuns plainEnv (start plainEnv plainEnd)
      (both (start plainEnv plainEnd .first) (start plainEnv plainEnd .second)) := by
    rw [both_eta]
    exact Relation.ReflTransGen.refl
  have proposed := begun.tail
    ⟨.first, .update 1 true, trivial, step_first (endpoint_updates plain_proposes)⟩
  have received := proposed.tail
    ⟨.second, .deliver, trivial, step_second (endpoint_hears rfl receives (by simp))⟩
  have completed := received.tail
    ⟨.first, .deliver, trivial, step_first (endpoint_hears rfl plain_completes (by simp))⟩
  refine ⟨_, completed, ?_,
    no_lost_update plainEnv plainEnd plain_endpoints plain_recovers _ completed⟩
  intro side
  cases side <;> rfl

/-- The first participant pays two units and goes on. -/
def plainSecond : State 1 2 :=
  { agreedState plainEnv plainProposal plainAnswer with
    version := 1
    outcome.balances := #v[#v[3, 8]]
    isFinal := false }

theorem plain_second : ValidTransition plainEnv
    (agreedState plainEnv plainProposal plainAnswer) plainSecond where
  sameId := rfl
  notFinal := rfl
  version := ⟨rfl, fun _ => by decide⟩
  assets := rfl
  totals := ⟨[11], by decide, by decide⟩

def plainOverwritten : Exchange plainEnv where
  channel := plainEnd
  initiator := .first
  newState := plainSecond
  sig side := plainSign (plainEnd side).client.signer (stateHash plainEnv plainSecond)

theorem plain_overwrites :
    update plainEnv 2 false
        (.active (plainEnd .first) (some (plainExchange.update false)), plainProposes) =
      (.ok (), (.active (plainEnd .first) (some (plainOverwritten.update false)), plainProposes ++
        broadcast 0 [1] plainProposal.peers (.channelUpdate plainOverwritten.proposal))) :=
  update_returns rfl rfl rfl (by decide) rfl
    (update_ok.mpr ⟨plain_second, by decide, _, _, rfl, rfl, rfl, rfl⟩)

-- The acceptance of the payment is no signature of the state that is pending now.
theorem plain_refuses (bus : Bus) :
    processParticipantMsg plainEnv (.channelUpdateAccepted plainExchange.acceptance)
        (.active (plainEnd .first) (some (plainOverwritten.update false)), bus) =
      (.err (.addSignature (.recoveryFailed plainExchange.acceptance.sig)),
        (.active (plainEnd .first) (some (plainOverwritten.update false)), bus)) := by
  have different : stateHash plainEnv plainPayment ≠ stateHash plainEnv plainSecond := by
    decide +kernel
  exact unrecovered_refused (by decide) ⟨plain_second.version, rfl⟩ rfl rfl
    (plain_unrecovered different)

/-- The payment is proposed and overwritten before it is accepted. Its acceptance arrives
at a proposer that is still active and that does not apply it. -/
theorem overwritten_update_lost : ∃ world channel pending,
    (system plainEnv).Reaches (start plainEnv plainEnd) world ∧
    (world .first).party.inner = .active channel (some pending) ∧ ¬NoLostUpdate world := by
  obtain ⟨sender, receives⟩ := plain_receives
  have begun : (system plainEnv).Reaches (start plainEnv plainEnd) _ := reaches_both _
  have proposed := reaches_first begun (endpoint_updates plain_proposes)
  have overwritten := reaches_first proposed (endpoint_updates plain_overwrites)
  have received := reaches_second overwritten (endpoint_hears rfl receives (by simp))
  have refused := reaches_first received (endpoint_hears rfl (plain_refuses _) (by simp))
  refine ⟨_, _, _, refused, rfl, ?_⟩
  intro kept
  have applied := kept .second 0 plainExchange.acceptance plainPayment rfl Nat.one_pos
  cases applied

end Plain

end Perun.DemoDelivery
