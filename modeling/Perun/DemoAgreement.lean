import Perun.UpdateAgreement
import Perun.DemoChannel

/-! Two demo endpoints never apply different states of one version. Messages are
late, out of order and repeated, both sides may propose at once and overwrite what
they proposed. What a side did is read off its bus: an endpoint that accepted at a
version has not proposed at it, since a pending update keeps it from accepting, and
acceptance and application are one call. -/
namespace Perun.DemoAgreement
open AbiTypes Payment Messages MessageBus Active TwoParty DemoChannel

structure Party (env : Env) where
  inner : ChannelInner env.Signer
  bus : Bus

inductive Move where
  | update (amount : U256) (isFinal : Bool)
  | deliver (msg : ParticipantMessage)

section Histories

/-- Everything said to participants. -/
def spoken (bus : Bus) : List ParticipantMessage :=
  bus.filterMap fun sent =>
    match sent with
    | .toParticipant _ _ msg => some msg
    | _ => none

def proposals (said : List ParticipantMessage) : List (State 1 2) :=
  said.filterMap fun msg =>
    match msg with
    | .channelUpdate msg => some msg.state
    | _ => none

def acceptances (said : List ParticipantMessage) : List LedgerChannelUpdateAccepted :=
  said.filterMap fun msg =>
    match msg with
    | .channelUpdateAccepted msg => some msg
    | _ => none

/-- Every state that is applied is sent to the watcher. -/
def appliedStates (bus : Bus) : List (State 1 2) :=
  bus.filterMap fun sent =>
    match sent with
    | .toWatcher (.watchRequest req) => some req.state
    | _ => none

/-- An endpoint signs what it proposes and what it accepts, and it applies the latter
in the same call. -/
def signedStates (bus : Bus) : List (State 1 2) :=
  proposals (spoken bus) ++ appliedStates bus

@[simp] theorem proposals_append (first second : List ParticipantMessage) :
    proposals (first ++ second) = proposals first ++ proposals second := List.filterMap_append

@[simp] theorem acceptances_append (first second : List ParticipantMessage) :
    acceptances (first ++ second) = acceptances first ++ acceptances second :=
  List.filterMap_append

@[simp] theorem proposals_proposal (msg : LedgerChannelUpdate) :
    proposals [.channelUpdate msg] = [msg.state] := rfl

@[simp] theorem acceptances_proposal (msg : LedgerChannelUpdate) :
    acceptances [.channelUpdate msg] = [] := rfl

@[simp] theorem proposals_acceptance (msg : LedgerChannelUpdateAccepted) :
    proposals [.channelUpdateAccepted msg] = [] := rfl

@[simp] theorem acceptances_acceptance (msg : LedgerChannelUpdateAccepted) :
    acceptances [.channelUpdateAccepted msg] = [msg] := rfl

end Histories

section System
variable (env : Env)

/-- A call that returns, with or without an error, leaves the endpoint behind. -/
def returned {ε : Type} (call : Outcome ε Unit × (ChannelInner env.Signer × Bus)) :
    Outcome Unit (Party env) :=
  match call with
  | (.panic, _) => .panic
  | (_, (inner, bus)) => .ok ⟨inner, bus⟩

def advance (_ : Side) (inbox : List ParticipantMessage) (party : Party env) :
    Move → Option (Outcome Unit (Party env))
  | .update amount isFinal =>
      some (returned env (update env amount isFinal (party.inner, party.bus)))
  | .deliver msg =>
      if msg ∈ inbox then
        some (returned env (processParticipantMsg env msg (party.inner, party.bus)))
      else none

def system : System (Party env) Move ParticipantMessage Unit where
  advance := advance env
  sent _ party := spoken party.bus

def start (channel : Side → ActiveChannel env.Signer) (side : Side) : Party env :=
  ⟨.active (channel side) none, []⟩

end System

/-- The version after the given number of updates. -/
def nth (version : BitVec 64) (count : Nat) : BitVec 64 := version + BitVec.ofNat 64 count

theorem nth_succ (version : BitVec 64) (count : Nat) :
    nth version (count + 1) = nth version count + 1 := by
  unfold nth
  rw [add_assoc]
  congr 1
  apply BitVec.eq_of_toNat_eq
  simp

-- Versions wrap around, so two of them differ as long as they are not too far apart.
theorem nth_ne {version : BitVec 64} {first second : Nat} (before : first < second)
    (near : second - first < 2 ^ 64) : nth version first ≠ nth version second := by
  intro same
  have values := congrArg BitVec.toNat (add_left_cancel same)
  rw [BitVec.toNat_ofNat, BitVec.toNat_ofNat] at values
  omega

/-- The order in which one endpoint proposed, accepted and applied. -/
structure History (version : BitVec 64) (said : List ParticipantMessage)
    (applied : List (State 1 2)) : Prop where
  numbered : ∀ (j : Nat) (state : State 1 2), applied[j]? = some state →
    state.version = nth version (j + 1)
  accepted : ∀ msg ∈ acceptances said, ∃ j < applied.length, msg.version = nth version (j + 1)
  proposed : ∀ state ∈ proposals said, ∃ j ≤ applied.length, state.version = nth version (j + 1)
  exclusive : ∀ msg ∈ acceptances said, ∀ state ∈ proposals said, msg.version ≠ state.version
  noReject : ∀ id version reason, .channelUpdateRejected id version reason ∉ said

namespace History
variable {version : BitVec 64} {said : List ParticipantMessage} {applied : List (State 1 2)}
  {state : State 1 2}

/-- A proposal is for the next version, which was not accepted yet. -/
theorem propose (history : History version said applied) (few : applied.length < 2 ^ 64)
    {msg : LedgerChannelUpdate} (next : msg.state.version = nth version (applied.length + 1)) :
    History version (said ++ [.channelUpdate msg]) applied where
  numbered := history.numbered
  accepted := by simpa using history.accepted
  proposed := by
    intro state member
    simp only [proposals_append, proposals_proposal, List.mem_append, List.mem_singleton] at member
    rcases member with old | rfl
    · exact history.proposed state old
    · exact ⟨applied.length, le_rfl, next⟩
  exclusive := by
    intro acceptance accepted state member
    have accepted : acceptance ∈ acceptances said := by simpa using accepted
    simp only [proposals_append, proposals_proposal, List.mem_append, List.mem_singleton] at member
    rcases member with old | rfl
    · exact history.exclusive acceptance accepted state old
    · obtain ⟨j, earlier, same⟩ := history.accepted acceptance accepted
      rw [same, next]
      exact nth_ne (by omega) (by omega)
  noReject := by simpa using history.noReject

/-- A state is applied that has the next version. -/
theorem apply (history : History version said applied)
    (next : state.version = nth version (applied.length + 1)) :
    History version said (applied ++ [state]) where
  numbered := by
    intro j other found
    rw [List.getElem?_append] at found
    split at found
    · exact history.numbered j other found
    · rename_i late
      rw [List.getElem?_singleton] at found
      split at found
      · rename_i last
        have index : j = applied.length := by omega
        cases found
        rw [index]
        exact next
      · cases found
  accepted := by
    intro msg member
    obtain ⟨j, earlier, same⟩ := history.accepted msg member
    exact ⟨j, by simp; omega, same⟩
  proposed := by
    intro other member
    obtain ⟨j, earlier, same⟩ := history.proposed other member
    exact ⟨j, by simp; omega, same⟩
  exclusive := history.exclusive
  noReject := history.noReject

/-- A state of the next version is accepted and applied, if none was proposed. -/
theorem accept (history : History version said applied)
    (next : state.version = nth version (applied.length + 1))
    (idle : ∀ other ∈ proposals said, other.version ≠ nth version (applied.length + 1))
    {msg : LedgerChannelUpdateAccepted} (same : msg.version = state.version) :
    History version (said ++ [.channelUpdateAccepted msg]) (applied ++ [state]) where
  numbered := (history.apply next).numbered
  accepted := by
    intro acceptance member
    simp only [acceptances_append, acceptances_acceptance, List.mem_append, List.mem_singleton]
      at member
    rcases member with old | rfl
    · exact (history.apply next).accepted acceptance old
    · exact ⟨applied.length, by simp, same.trans next⟩
  proposed := by simpa using (history.apply next).proposed
  exclusive := by
    intro acceptance member other proposed
    have inside : other ∈ proposals said := by simpa using proposed
    simp only [acceptances_append, acceptances_acceptance, List.mem_append, List.mem_singleton]
      at member
    rcases member with old | rfl
    · exact history.exclusive acceptance old other inside
    · rw [same, next]
      exact (idle other inside).symm
  noReject := by simpa using history.noReject

/-- After an application nothing was proposed at the new version. -/
theorem idle_after (history : History version said applied) (few : applied.length + 1 < 2 ^ 64)
    (proposed : state ∈ proposals said) : state.version ≠ nth version (applied.length + 1 + 1) := by
  obtain ⟨j, earlier, same⟩ := history.proposed state proposed
  rw [same]
  exact nth_ne (by omega) (by omega)

/-- One state is applied at each version. -/
theorem applied_unique (history : History version said applied) (few : applied.length < 2 ^ 64)
    {other : State 1 2} (first : state ∈ applied) (second : other ∈ applied)
    (same : state.version = other.version) : state = other := by
  obtain ⟨i, found⟩ := List.getElem?_of_mem first
  obtain ⟨j, found'⟩ := List.getElem?_of_mem second
  have bound := (List.getElem?_eq_some_iff.mp found).1
  have bound' := (List.getElem?_eq_some_iff.mp found').1
  rw [history.numbered i state found, history.numbered j other found'] at same
  rcases Nat.lt_trichotomy i j with before | rfl | after
  · exact absurd same (nth_ne (by omega) (by omega))
  · rw [found] at found'
    exact Option.some.inj found'
  · exact absurd same.symm (nth_ne (by omega) (by omega))

end History

/-- The phases of a run, and what stays of the channel. -/
def Frame {env : Env} (begin : ActiveChannel env.Signer) : ChannelInner env.Signer → Prop
  | .active channel _ => channel.params = begin.params ∧ channel.partIdx = begin.partIdx ∧
      channel.peers = begin.peers
  | .closing _ => True
  | _ => False

/-- The phase that belongs to a history. -/
def Fits {env : Env} (begin : ActiveChannel env.Signer) (said : List ParticipantMessage)
    (applied : List (State 1 2)) : ChannelInner env.Signer → Prop
  | .active channel pending =>
      Frame begin (.active channel pending) ∧
      channel.state.version = nth begin.state.version applied.length ∧
      match pending with
      | none => ∀ state ∈ proposals said,
          state.version ≠ nth begin.state.version (applied.length + 1)
      | some update => update.newState ∈ proposals said
  | .closing _ => True
  | _ => False

structure Kept {env : Env} (begin : ActiveChannel env.Signer) (party : Party env) : Prop where
  history : History begin.state.version (spoken party.bus) (appliedStates party.bus)
  fits : Fits begin (spoken party.bus) (appliedStates party.bus) party.inner
  checked : env.build.overflowChecks = true →
    begin.state.version.toNat + (appliedStates party.bus).length < 2 ^ 64

/-- Where an applied state comes from: the other side proposed it and it was
accepted here, or it was proposed here and accepted by the other side. -/
def Origin (env : Env) (other : Address) (own others : List ParticipantMessage)
    (state : State 1 2) : Prop :=
  (state ∈ proposals others ∧ ∃ msg ∈ acceptances own, msg.version = state.version) ∨
  (state ∈ proposals own ∧ ∃ msg ∈ acceptances others, msg.version = state.version ∧
    env.recoverSigner (stateHash env state) msg.sig = .ok other)

/-! What a call adds to the histories. -/
section Growth
variable {env : Env} {begin : ActiveChannel env.Signer}

theorem spoken_append (first second : Bus) : spoken (first ++ second) = spoken first ++ spoken second :=
  List.filterMap_append

theorem applied_append (first second : Bus) :
    appliedStates (first ++ second) = appliedStates first ++ appliedStates second :=
  List.filterMap_append

theorem applied_watch (req : StartWatchingLedgerChannelReq) :
    appliedStates [.toWatcher (.watchRequest req)] = [req.state] := rfl

theorem spoken_broadcast {peers : Peers} (pair : peers.length = 2) {partIdx : PartIdx}
    (bound : partIdx < 2) (sender : Identity) (msg : ParticipantMessage) :
    spoken (broadcast partIdx sender peers msg) = [msg] ∧
      appliedStates (broadcast partIdx sender peers msg) = [] := by
  obtain ⟨first, second, rfl⟩ := List.length_eq_two.mp pair
  rw [broadcast_pair partIdx first second msg bound sender]
  exact ⟨rfl, rfl⟩

theorem next_of_current {channel : ActiveChannel env.Signer} {new : BitVec 64} {count : Nat}
    (current : channel.state.version = nth begin.state.version count)
    (next : NextVersion env channel.state.version new) :
    new = nth begin.state.version (count + 1) := by
  rw [next.1, current, nth_succ]

/-- In a build with overflow checks the versions themselves bound the count. -/
theorem checked_next {channel : ActiveChannel env.Signer} {new : BitVec 64} {count : Nat}
    (current : channel.state.version = nth begin.state.version count)
    (next : NextVersion env channel.state.version new)
    (checked : env.build.overflowChecks = true → begin.state.version.toNat + count < 2 ^ 64)
    (on : env.build.overflowChecks = true) : begin.state.version.toNat + (count + 1) < 2 ^ 64 := by
  have room := next.2 on
  have before := checked on
  have value : channel.state.version.toNat = begin.state.version.toNat + count := by
    rw [current, nth, BitVec.toNat_add, BitVec.toNat_ofNat]
    omega
  omega

theorem count_lt {count : Nat}
    (checked : env.build.overflowChecks = true → begin.state.version.toNat + count < 2 ^ 64)
    (few : env.build.overflowChecks = false → count < 2 ^ 64) : count < 2 ^ 64 := by
  cases on : env.build.overflowChecks with
  | false => exact few on
  | true =>
      have bound := checked on
      omega

theorem after_apply_fits {channel : ActiveChannel env.Signer} {update : ChannelUpdate}
    {said : List ParticipantMessage} {applied : List (State 1 2)}
    (frame : Frame begin (.active channel none))
    (current : channel.state.version = nth begin.state.version applied.length)
    (idle : ∀ state ∈ proposals said,
      state.version ≠ nth begin.state.version (applied.length + 1)) :
    Fits begin said applied (afterApply channel update) := by
  unfold afterApply
  split
  · trivial
  · exact ⟨frame, current, idle⟩

/-- What one call makes of an endpoint, from what the other one has said. -/
structure Continues (begin : ActiveChannel env.Signer) (other : Address)
    (others : List ParticipantMessage) (party after : Party env) : Prop where
  kept : Kept begin after
  grows : spoken party.bus ⊆ spoken after.bus
  origin : ∀ state ∈ appliedStates after.bus,
    state ∈ appliedStates party.bus ∨ Origin env other (spoken after.bus) others state

variable {other : Address} {others : List ParticipantMessage}

theorem continues_unchanged {party : Party env} (kept : Kept begin party) :
    Continues begin other others party party := ⟨kept, fun _ member => member, fun _ => Or.inl⟩

variable {channel : ActiveChannel env.Signer} {pending : Option ChannelUpdate} {bus : Bus}
  {after : ChannelInner env.Signer × Bus}

theorem proposes_continues (pair : begin.peers.length = 2) (bound : begin.partIdx < 2)
    (kept : Kept begin ⟨.active channel pending, bus⟩)
    (few : env.build.overflowChecks = false → (appliedStates after.2).length < 2 ^ 64)
    (effect : Proposes channel pending bus after) :
    Continues begin other others ⟨.active channel pending, bus⟩ ⟨after.1, after.2⟩ := by
  cases effect with
  | unchanged => exact continues_unchanged kept
  | proposed newState sig sender valid signed =>
      obtain ⟨⟨params, partIdx, peers⟩, current, _⟩ := kept.fits
      obtain ⟨said, quiet⟩ := spoken_broadcast (peers ▸ pair) (partIdx ▸ bound) sender
        (.channelUpdate ⟨newState, channel.partIdx, sig⟩)
      simp only [applied_append, quiet, List.append_nil] at few
      have next := next_of_current current valid.version
      have history : History begin.state.version
          (spoken bus ++ [.channelUpdate ⟨newState, channel.partIdx, sig⟩]) (appliedStates bus) :=
        kept.history.propose (count_lt kept.checked few) next
      constructor
      · constructor
        · simpa only [spoken_append, said, applied_append, quiet, List.append_nil] using history
        · simp only [Fits, spoken_append, said, applied_append, quiet, List.append_nil]
          exact ⟨⟨params, partIdx, peers⟩, current, by simp⟩
        · simpa only [applied_append, quiet, List.append_nil] using kept.checked
      · intro msg member
        simp only [spoken_append]
        exact List.mem_append_left _ member
      · intro state member
        simp only [applied_append, quiet, List.append_nil] at member
        exact Or.inl member

theorem accepted_continues (pair : begin.peers.length = 2) (bound : begin.partIdx < 2)
    (kept : Kept begin ⟨.active channel none, bus⟩) {msg : LedgerChannelUpdate}
    {update : ChannelUpdate} {sig : Signature} {sender : Identity}
    {signatures : Vector Signature 2}
    (few : env.build.overflowChecks = false → (appliedStates bus).length + 1 < 2 ^ 64)
    (heard : .channelUpdate msg ∈ others) (valid : ValidTransition env channel.state msg.state) :
    Continues begin other others ⟨.active channel none, bus⟩
      ⟨afterApply { channel with state := msg.state, signatures := signatures } update,
        bus ++ broadcast channel.partIdx sender channel.peers
            (.channelUpdateAccepted ⟨channel.state.id, msg.state.version, sig⟩) ++
          [.toWatcher (.watchRequest ⟨channel.params, msg.state, signatures⟩)]⟩ := by
  obtain ⟨⟨params, partIdx, peers⟩, current, idle⟩ := kept.fits
  let acceptance : LedgerChannelUpdateAccepted := ⟨channel.state.id, msg.state.version, sig⟩
  obtain ⟨said, quiet⟩ := spoken_broadcast (peers ▸ pair) (partIdx ▸ bound) sender
    (.channelUpdateAccepted acceptance)
  have next := next_of_current current valid.version
  have checked := checked_next current valid.version kept.checked
  have speech : spoken (bus ++ broadcast channel.partIdx sender channel.peers
        (.channelUpdateAccepted acceptance) ++
      [.toWatcher (.watchRequest ⟨channel.params, msg.state, signatures⟩)]) =
      spoken bus ++ [.channelUpdateAccepted acceptance] := by
    rw [spoken_append, spoken_append, said]
    exact List.append_nil _
  have states : appliedStates (bus ++ broadcast channel.partIdx sender channel.peers
        (.channelUpdateAccepted acceptance) ++
      [.toWatcher (.watchRequest ⟨channel.params, msg.state, signatures⟩)]) =
      appliedStates bus ++ [msg.state] := by
    rw [applied_append, applied_append, quiet, List.append_nil, applied_watch]
  have proposed : msg.state ∈ proposals others := List.mem_filterMap.mpr ⟨_, heard, rfl⟩
  constructor
  · constructor
    · rw [speech, states]
      exact kept.history.accept next idle rfl
    · rw [speech, states]
      refine after_apply_fits ⟨params, partIdx, peers⟩ ?_ ?_
      · simpa using next
      · intro state member
        rw [List.length_append]
        exact kept.history.idle_after (count_lt checked few) (by simpa using member)
    · rw [states]
      simpa using checked
  · rw [speech]
    exact List.subset_append_left _ _
  · intro state member
    rw [states] at member
    rcases List.mem_append.mp member with old | new
    · exact Or.inl old
    · rw [List.mem_singleton.mp new, speech]
      exact Or.inr (Or.inl ⟨proposed, acceptance, by simp, rfl⟩)

theorem finished_continues {update signed : ChannelUpdate}
    (kept : Kept begin ⟨.active channel (some update), bus⟩) {msg : LedgerChannelUpdateAccepted}
    {signatures : Vector Signature 2}
    (few : env.build.overflowChecks = false → (appliedStates bus).length + 1 < 2 ^ 64)
    (heard : .channelUpdateAccepted msg ∈ others) (matching : Matches env update channel)
    (version : msg.version = update.newState.version)
    (recovered : env.recoverSigner (stateHash env update.newState) msg.sig = .ok other) :
    Continues begin other others ⟨.active channel (some update), bus⟩
      ⟨afterApply { channel with state := update.newState, signatures := signatures } signed,
        bus ++ [.toWatcher (.watchRequest ⟨channel.params, update.newState, signatures⟩)]⟩ := by
  obtain ⟨frame, current, proposed⟩ := kept.fits
  have next := next_of_current current matching.1
  have checked := checked_next current matching.1 kept.checked
  have speech : spoken
      (bus ++ [.toWatcher (.watchRequest ⟨channel.params, update.newState, signatures⟩)]) =
      spoken bus := by
    rw [spoken_append]
    exact List.append_nil _
  have states : appliedStates
      (bus ++ [.toWatcher (.watchRequest ⟨channel.params, update.newState, signatures⟩)]) =
      appliedStates bus ++ [update.newState] := applied_append _ _
  have accepted : msg ∈ acceptances others := List.mem_filterMap.mpr ⟨_, heard, rfl⟩
  constructor
  · constructor
    · rw [speech, states]
      exact kept.history.apply next
    · rw [speech, states]
      refine after_apply_fits frame ?_ ?_
      · simpa using next
      · intro state member
        rw [List.length_append]
        exact kept.history.idle_after (count_lt checked few) member
    · rw [states]
      simpa using checked
  · rw [speech]
    exact List.Subset.refl _
  · intro state member
    rw [states] at member
    rcases List.mem_append.mp member with old | new
    · exact Or.inl old
    · rw [List.mem_singleton.mp new, speech]
      exact Or.inr (Or.inr ⟨proposed, msg, accepted, version, recovered⟩)

theorem delivers_continues (pair : begin.peers.length = 2) (bound : begin.partIdx < 2)
    (participant : begin.params.participants[1 - begin.partIdx]? = some other)
    (kept : Kept begin ⟨.active channel pending, bus⟩) {msg : ParticipantMessage}
    (heard : msg ∈ others)
    (noReject : ∀ id version reason, .channelUpdateRejected id version reason ∉ others)
    (few : env.build.overflowChecks = false → (appliedStates after.2).length < 2 ^ 64)
    (effect : Delivers channel pending bus msg after) :
    Continues begin other others ⟨.active channel pending, bus⟩ ⟨after.1, after.2⟩ := by
  cases effect with
  | unchanged => exact continues_unchanged kept
  | accepted msg update sig sender signatures idle valid same signed =>
      subst idle
      refine accepted_continues pair bound kept (fun off => ?_) heard valid
      obtain ⟨⟨_, partIdx, peers⟩, _⟩ := kept.fits
      have quiet := (spoken_broadcast (peers ▸ pair) (partIdx ▸ bound) sender
        (.channelUpdateAccepted ⟨channel.state.id, msg.state.version, sig⟩)).2
      simpa [applied_append, quiet, applied_watch] using few off
  | finished update signed msg signer signatures waiting matching version recovered owner same =>
      subst waiting
      obtain ⟨⟨params, partIdx, _⟩, _⟩ := kept.fits
      rw [params, partIdx, participant] at owner
      cases owner
      refine finished_continues kept (fun off => ?_) heard matching version recovered
      simpa [applied_append, applied_watch] using few off
  | incomplete update signed msg waiting same =>
      subst waiting
      obtain ⟨frame, current, proposed⟩ := kept.fits
      have still : signed.newState ∈ proposals (spoken bus) := same ▸ proposed
      exact
        { kept := ⟨kept.history, ⟨frame, current, still⟩, kept.checked⟩
          grows := List.Subset.refl _
          origin := fun _ => Or.inl }
  | dropped id version reason => exact absurd heard (noReject id version reason)

theorem returned_ok {ε : Type} {call : Outcome ε Unit × (ChannelInner env.Signer × Bus)}
    {party : Party env} (ok : returned env call = .ok party) :
    call.1 ≠ .panic ∧ party = ⟨call.2.1, call.2.2⟩ := by
  rcases call with ⟨outcome, inner, bus⟩
  cases outcome with
  | ok value =>
      cases ok
      simp
  | err error =>
      cases ok
      simp
  | panic => cases ok

theorem update_advances {side : Side} {amount : U256} {isFinal : Bool}
    {inner inner' : ChannelInner env.Signer} {bus bus' : Bus}
    (returns : update env amount isFinal (inner, bus) = (.ok (), (inner', bus'))) :
    (system env).advance side others ⟨inner, bus⟩ (.update amount isFinal) =
      some (.ok ⟨inner', bus'⟩) := by
  simp only [system, advance, returns]
  rfl

theorem message_advances {side : Side} {msg : ParticipantMessage}
    {inner inner' : ChannelInner env.Signer} {bus bus' : Bus} (heard : msg ∈ others)
    (returns : processParticipantMsg env msg (inner, bus) = (.ok (), (inner', bus'))) :
    (system env).advance side others ⟨inner, bus⟩ (.deliver msg) = some (.ok ⟨inner', bus'⟩) := by
  simp only [system, advance, if_pos heard, returns]
  rfl

theorem frame_phases {inner : ChannelInner env.Signer} (frame : Frame begin inner) :
    (∃ channel pending, inner = .active channel pending) ∨ ∃ channel, inner = .closing channel := by
  cases inner with
  | active channel pending => exact Or.inl ⟨channel, pending, rfl⟩
  | closing channel => exact Or.inr ⟨channel, rfl⟩
  | proposed channel => exact frame.elim
  | agreedUpon channel => exact frame.elim
  | signed channel watching funded => exact frame.elim
  | temporaryInvalidState => exact frame.elim
  | forceClosing => exact frame.elim
  | closed => exact frame.elim

theorem update_effect {side : Side} {party after : Party env} {amount : U256} {isFinal : Bool}
    (frame : Frame begin party.inner)
    (advanced : advance env side others party (.update amount isFinal) = some (.ok after)) :
    after = party ∨ ∃ channel pending, party.inner = .active channel pending ∧
      Proposes channel pending party.bus (after.inner, after.bus) := by
  rcases party with ⟨inner, bus⟩
  obtain ⟨returns, rfl⟩ := returned_ok (Option.some.inj advanced)
  rcases frame_phases frame with ⟨channel, pending, rfl⟩ | ⟨channel, rfl⟩
  · exact Or.inr ⟨channel, pending, rfl, update_proposes rfl returns⟩
  · exact Or.inl rfl

theorem deliver_effect {side : Side} {party after : Party env} {msg : ParticipantMessage}
    (bound : begin.partIdx < 2) (frame : Frame begin party.inner)
    (advanced : advance env side others party (.deliver msg) = some (.ok after)) :
    msg ∈ others ∧ (after = party ∨ ∃ channel pending, party.inner = .active channel pending ∧
      Delivers channel pending party.bus msg (after.inner, after.bus)) := by
  rcases party with ⟨inner, bus⟩
  simp only [advance] at advanced
  split at advanced
  · rename_i heard
    obtain ⟨returns, rfl⟩ := returned_ok (Option.some.inj advanced)
    refine ⟨heard, ?_⟩
    rcases frame_phases frame with ⟨channel, pending, rfl⟩ | ⟨channel, rfl⟩
    · exact Or.inr ⟨channel, pending, rfl, message_delivers (frame.2.1 ▸ bound) rfl returns⟩
    · exact Or.inl rfl
  · cases advanced

/-- Every call that returns has one of the effects. -/
theorem advance_effect {side : Side} {party after : Party env} {move : Move}
    (bound : begin.partIdx < 2) (frame : Frame begin party.inner)
    (advanced : advance env side others party move = some (.ok after)) :
    after = party ∨ ∃ channel pending, party.inner = .active channel pending ∧
      (Proposes channel pending party.bus (after.inner, after.bus) ∨
        ∃ msg ∈ others, Delivers channel pending party.bus msg (after.inner, after.bus)) := by
  cases move with
  | update amount isFinal =>
      rcases update_effect frame advanced with same | ⟨channel, pending, phase, proposes⟩
      · exact Or.inl same
      · exact Or.inr ⟨channel, pending, phase, Or.inl proposes⟩
  | deliver msg =>
      obtain ⟨heard, same | ⟨channel, pending, phase, delivers⟩⟩ :=
        deliver_effect bound frame advanced
      · exact Or.inl same
      · exact Or.inr ⟨channel, pending, phase, Or.inr ⟨msg, heard, delivers⟩⟩

theorem after_apply_frame {channel : ActiveChannel env.Signer} {update : ChannelUpdate}
    (frame : Frame begin (.active channel none)) : Frame begin (afterApply channel update) := by
  unfold afterApply
  split
  · trivial
  · exact frame

/-- The log of applied states only grows. -/
theorem advance_frame (side : Side) {party after : Party env} {move : Move}
    (bound : begin.partIdx < 2) (frame : Frame begin party.inner)
    (advanced : advance env side others party move = some (.ok after)) :
    Frame begin after.inner ∧
      (appliedStates party.bus).length ≤ (appliedStates after.bus).length := by
  rcases advance_effect bound frame advanced with
    rfl | ⟨channel, pending, phase, proposes | ⟨msg, _, delivers⟩⟩
  · exact ⟨frame, le_rfl⟩
  · rcases party with ⟨inner, bus⟩
    rcases after with ⟨inner', bus'⟩
    cases phase
    cases proposes with
    | unchanged => exact ⟨frame, le_rfl⟩
    | proposed newState sig sender valid signed => exact ⟨frame, by simp [applied_append]⟩
  · rcases party with ⟨inner, bus⟩
    rcases after with ⟨inner', bus'⟩
    cases phase
    cases delivers with
    | unchanged => exact ⟨frame, le_rfl⟩
    | accepted msg update sig sender signatures idle valid same signed =>
        exact ⟨after_apply_frame frame, by simp [applied_append]⟩
    | finished update signed msg signer signatures waiting matching version recovered owner same =>
        exact ⟨after_apply_frame frame, by simp [applied_append]⟩
    | incomplete update signed msg waiting same => exact ⟨frame, le_rfl⟩
    | dropped id version reason => exact ⟨frame, le_rfl⟩

/-- Every call of an endpoint that returns. -/
theorem advance_continues (pair : begin.peers.length = 2) (bound : begin.partIdx < 2)
    (participant : begin.params.participants[1 - begin.partIdx]? = some other)
    (noReject : ∀ id version reason, .channelUpdateRejected id version reason ∉ others)
    {party after : Party env} (side : Side) {move : Move} (kept : Kept begin party)
    (few : env.build.overflowChecks = false → (appliedStates after.bus).length < 2 ^ 64)
    (frame : Frame begin party.inner)
    (advanced : advance env side others party move = some (.ok after)) :
    Continues begin other others party after := by
  rcases advance_effect bound frame advanced with
    rfl | ⟨channel, pending, phase, proposes | ⟨msg, heard, delivers⟩⟩
  · exact continues_unchanged kept
  · rcases party with ⟨inner, bus⟩
    cases phase
    exact proposes_continues pair bound kept few proposes
  · rcases party with ⟨inner, bus⟩
    cases phase
    exact delivers_continues pair bound participant kept heard noReject few delivers

end Growth

/-- Two endpoints of one channel. Their states need not even be equal at first. -/
structure Endpoints {env : Env} (channel : Side → ActiveChannel env.Signer) : Prop where
  partIdx : ∀ side, (channel side).partIdx = side.partIdx
  peers : ∀ side, (channel side).peers.length = 2
  participants : ∀ side other, (channel side).params.participants[other.partIdx]? =
    some (env.address (channel other).client.signer)

structure Invariant {env : Env} (channel : Side → ActiveChannel env.Signer)
    (world : Side → Party env) : Prop where
  kept : ∀ side, Kept (channel side) (world side)
  origin : ∀ side, ∀ state ∈ appliedStates (world side).bus,
    Origin env (env.address (channel side.other).client.signer) (spoken (world side).bus)
      (spoken (world side.other).bus) state

section Run
variable {env : Env} {channel : Side → ActiveChannel env.Signer} {world after : Side → Party env}

theorem origin_mono {other : Address} {own own' others others' : List ParticipantMessage}
    {state : State 1 2} (ownGrows : own ⊆ own') (othersGrow : others ⊆ others')
    (origin : Origin env other own others state) : Origin env other own' others' state := by
  have proposed {said said' : List ParticipantMessage} (grows : said ⊆ said') {state : State 1 2}
      (member : state ∈ proposals said) : state ∈ proposals said' := by
    obtain ⟨msg, inside, same⟩ := List.mem_filterMap.mp member
    exact List.mem_filterMap.mpr ⟨msg, grows inside, same⟩
  have accepted {said said' : List ParticipantMessage} (grows : said ⊆ said')
      {msg : LedgerChannelUpdateAccepted} (member : msg ∈ acceptances said) :
      msg ∈ acceptances said' := by
    obtain ⟨sent, inside, same⟩ := List.mem_filterMap.mp member
    exact List.mem_filterMap.mpr ⟨sent, grows inside, same⟩
  rcases origin with ⟨theirs, msg, ours, same⟩ | ⟨ours, msg, theirs, same⟩
  · exact Or.inl ⟨proposed othersGrow theirs, msg, accepted ownGrows ours, same⟩
  · exact Or.inr ⟨proposed ownGrows ours, msg, accepted othersGrow theirs, same⟩

theorem endpoints_bound (endpoints : Endpoints channel) (side : Side) :
    (channel side).partIdx < 2 := by
  rw [endpoints.partIdx]
  exact side.partIdx_lt

theorem participant_other (endpoints : Endpoints channel) (side : Side) :
    (channel side).params.participants[1 - (channel side).partIdx]? =
      some (env.address (channel side.other).client.signer) := by
  have index : 1 - side.partIdx = side.other.partIdx := by cases side <;> rfl
  rw [endpoints.partIdx, index]
  exact endpoints.participants side side.other

theorem step_frame (endpoints : Endpoints channel)
    (frame : ∀ side, Frame (channel side) (world side).inner) {side : Side} {move : Move}
    (stepped : (system env).step world side move = some (.ok after)) :
    (∀ side, Frame (channel side) (after side).inner) ∧
      ∀ side, (appliedStates (world side).bus).length ≤
        (appliedStates (after side).bus).length := by
  obtain ⟨party, advanced, rfl⟩ := step_ok.mp stepped
  obtain ⟨next, grows⟩ := advance_frame side (endpoints_bound endpoints side) (frame side)
    advanced
  constructor
  · intro other
    by_cases moved : other = side
    · subst moved
      simpa using next
    · rw [Function.update_of_ne moved]
      exact frame other
  · intro other
    by_cases moved : other = side
    · subst moved
      simpa using grows
    · rw [Function.update_of_ne moved]

theorem step_invariant (endpoints : Endpoints channel)
    (frame : ∀ side, Frame (channel side) (world side).inner)
    (invariant : Invariant channel world)
    (few : env.build.overflowChecks = false →
      ∀ side, (appliedStates (after side).bus).length < 2 ^ 64)
    {side : Side} {move : Move} (stepped : (system env).step world side move = some (.ok after)) :
    Invariant channel after := by
  obtain ⟨party, advanced, rfl⟩ := step_ok.mp stepped
  have silent := (invariant.kept side.other).history.noReject
  have few' (off : env.build.overflowChecks = false) :
      (appliedStates party.bus).length < 2 ^ 64 := by
    simpa using few off side
  have continues := advance_continues (endpoints.peers side) (endpoints_bound endpoints side)
    (participant_other endpoints side) silent side (invariant.kept side) few' (frame side) advanced
  constructor
  · intro other
    by_cases moved : other = side
    · subst moved
      simpa using continues.kept
    · rw [Function.update_of_ne moved]
      exact invariant.kept other
  · intro other state member
    by_cases moved : other = side
    · subst moved
      rw [Function.update_self] at member ⊢
      rw [Function.update_of_ne (Side.other_ne other)]
      rcases continues.origin state member with old | new
      · exact origin_mono continues.grows (List.Subset.refl _) (invariant.origin other state old)
      · exact new
    · have role : side = other.other := Side.eq_other (Ne.symm moved)
      subst role
      rw [Function.update_of_ne moved] at member ⊢
      rw [Function.update_self]
      exact origin_mono (List.Subset.refl _) continues.grows (invariant.origin other state member)

theorem start_invariant : Invariant channel (start env channel) where
  kept side :=
    { history :=
        { numbered := by
            intro j state found
            cases found
          accepted := by
            intro msg member
            cases member
          proposed := by
            intro state member
            cases member
          exclusive := by
            intro msg member
            cases member
          noReject := by
            intro id version reason member
            cases member }
      fits := ⟨⟨rfl, rfl, rfl⟩, (add_zero _).symm, by
        intro state member
        cases member⟩
      checked := fun _ => (channel side).state.version.isLt }
  origin side state member := by cases member

-- The phases of a run are known without a bound on its length.
theorem reaches_frame (endpoints : Endpoints channel)
    (reaches : (system env).Reaches (start env channel) world) :
    ∀ side, Frame (channel side) (world side).inner := by
  induction reaches with
  | refl => exact fun side => ⟨rfl, rfl, rfl⟩
  | tail _ stepped ih =>
      obtain ⟨side, move, stepped⟩ := stepped
      exact (step_frame endpoints ih stepped).1

theorem reaches_invariant (endpoints : Endpoints channel)
    (reaches : (system env).Reaches (start env channel) world)
    (few : env.build.overflowChecks = false →
      ∀ side, (appliedStates (world side).bus).length < 2 ^ 64) : Invariant channel world := by
  induction reaches with
  | refl => exact start_invariant
  | tail earlier stepped ih =>
      obtain ⟨side, move, stepped⟩ := stepped
      have frame := reaches_frame endpoints earlier
      have grows := (step_frame endpoints frame stepped).2
      exact step_invariant endpoints frame
        (ih fun off side => Nat.lt_of_le_of_lt (grows side) (few off side)) few stepped

/-- Nothing an endpoint said verifies as its signature of a state it has not signed:
of the states the other endpoint has signed, an acceptance is recovered only for
those that the sender has signed too, up to their hash. -/
def Unforged (channel : Side → ActiveChannel env.Signer) (world : Side → Party env) : Prop :=
  ∀ side, ∀ msg ∈ acceptances (spoken (world side).bus),
    ∀ state ∈ signedStates (world side.other).bus,
      env.recoverSigner (stateHash env state) msg.sig =
        .ok (env.address (channel side).client.signer) →
      ∃ own ∈ signedStates (world side).bus, stateHash env own = stateHash env state

/-- No two of the states that were signed have the same hash. -/
def CollisionFree (world : Side → Party env) : Prop :=
  ∀ side side', ∀ state ∈ signedStates (world side).bus,
    ∀ state' ∈ signedStates (world side').bus,
      stateHash env state = stateHash env state' → state = state'

/-- Nothing is both proposed and accepted at one version, on either side. -/
theorem not_both (invariant : Invariant channel world) {side : Side}
    {msg : LedgerChannelUpdateAccepted} {state : State 1 2} {version : BitVec 64}
    (accepted : msg ∈ acceptances (spoken (world side).bus)) (same : msg.version = version)
    (proposed : state ∈ proposals (spoken (world side).bus)) (same' : state.version = version) :
    False :=
  (invariant.kept side).history.exclusive msg accepted state proposed (same.trans same'.symm)

/-- One side accepted, the other one had proposed. -/
theorem accepted_agrees (invariant : Invariant channel world) (unforged : Unforged channel world)
    (collisionFree : CollisionFree world)
    (few : env.build.overflowChecks = false →
      ∀ side, (appliedStates (world side).bus).length < 2 ^ 64)
    {side : Side} {state other : State 1 2} (applied : state ∈ appliedStates (world side).bus)
    (same : state.version = other.version)
    (proposed : other ∈ proposals (spoken (world side.other).bus))
    {msg : LedgerChannelUpdateAccepted} (accepted : msg ∈ acceptances (spoken (world side).bus))
    (version : msg.version = other.version)
    (recovered : env.recoverSigner (stateHash env other) msg.sig =
      .ok (env.address (channel side).client.signer)) : state = other := by
  have signed : other ∈ signedStates (world side.other).bus := List.mem_append_left _ proposed
  obtain ⟨own, ours, hash⟩ := unforged side msg accepted other signed recovered
  have identical := collisionFree side side.other own ours other signed hash
  subst identical
  -- What it has signed it has proposed or applied.
  rcases List.mem_append.mp ours with mine | done
  · exact (not_both invariant accepted version mine rfl).elim
  · have bound := count_lt (invariant.kept side).checked fun off => few off side
    exact (invariant.kept side).history.applied_unique bound applied done same

end Run

/-- In every run of two endpoints that begin without a pending update, states of one
version that both have applied are equal. Only where versions wrap around does the
number of applied states have to be bounded. -/
theorem versions_agree (env : Env) (channel : Side → ActiveChannel env.Signer)
    (endpoints : Endpoints channel) (world : Side → Party env)
    (reaches : (system env).Reaches (start env channel) world)
    (few : env.build.overflowChecks = false →
      ∀ side, (appliedStates (world side).bus).length < 2 ^ 64)
    (unforged : Unforged channel world) (collisionFree : CollisionFree world) :
    ∀ first ∈ appliedStates (world .first).bus, ∀ second ∈ appliedStates (world .second).bus,
      first.version = second.version → first = second := by
  intro first applied second applied' same
  have invariant := reaches_invariant endpoints reaches few
  rcases invariant.origin .first first applied with
    ⟨_, msg, accepted, version⟩ | ⟨proposed, msg, accepted, version, recovered⟩
  · rcases invariant.origin .second second applied' with
      ⟨proposed', _⟩ | ⟨proposed', msg', accepted', version', recovered'⟩
    · -- Both accepted: the first one would also have proposed what the second applied.
      exact (not_both invariant accepted version proposed' same.symm).elim
    · exact accepted_agrees invariant unforged collisionFree few applied same proposed' accepted'
        version' recovered'
  · rcases invariant.origin .second second applied' with
      ⟨_, _⟩ | ⟨proposed', _⟩
    · exact (accepted_agrees invariant unforged collisionFree few applied' same.symm proposed
        accepted version recovered).symm
    · -- Both proposed: the second one would also have accepted.
      exact (not_both invariant accepted (version.trans same) proposed' rfl).elim

/-! The first participant pays one unit and closes the channel. -/
section Plain
open Opening UpdateAgreement

theorem plain_endpoints : Endpoints plainEnd where
  partIdx _ := rfl
  peers _ := rfl
  participants _ other := by cases other <;> rfl

def plainProposes : Bus := broadcast 0 [1] plainProposal.peers
  (.channelUpdate plainExchange.proposal)

def plainApplies : Bus := [.toWatcher (.watchRequest ⟨(plainEnd .first).params, plainPayment,
  #v[plainExchange.sig .first, plainExchange.sig .second]⟩)]

def plainPaid (side : Side) : ActiveChannel plainEnv.Signer :=
  { plainEnd side with
    state := plainPayment
    signatures := #v[plainExchange.sig .first, plainExchange.sig .second] }

theorem plain_proposes : update plainEnv 1 true (.active (plainEnd .first) none, []) =
    (.ok (), (.active (plainEnd .first) (some (plainExchange.update false)), plainProposes)) :=
  update_returns rfl rfl rfl (by decide) rfl
    (update_ok.mpr ⟨plain_payment, by decide, _, _, rfl, rfl, rfl, rfl⟩)

theorem plain_receives : ∃ sender,
    processParticipantMsg plainEnv (.channelUpdate plainExchange.proposal)
        (.active (plainEnd .second) none, []) =
      (.ok (), (.closing (plainPaid .second), broadcast 1 sender plainProposal.peers
        (.channelUpdateAccepted plainExchange.acceptance) ++ plainApplies)) := by
  obtain ⟨sender, accepts⟩ := plain_honest.accept_returns []
  exact ⟨sender, update_proposed_returns (plain_honest.handle_update_returns .second) accepts
    (plain_honest.apply_returns .second _)⟩

theorem plain_completes :
    processParticipantMsg plainEnv (.channelUpdateAccepted plainExchange.acceptance)
        (.active (plainEnd .first) (some (plainExchange.update false)), plainProposes) =
      (.ok (), (.closing (plainPaid .first), plainProposes ++ plainApplies)) :=
  update_accepted_returns (by decide) plain_honest.participant_accepted_returns
    (plain_honest.apply_returns .first plainProposes)

theorem plain_reaches : ∃ world, (system plainEnv).Reaches (start plainEnv plainEnd) world ∧
    (∀ side, appliedStates (world side).bus = [plainPayment]) ∧
    ∀ side, ∀ state ∈ signedStates (world side).bus, state = plainPayment := by
  obtain ⟨sender, receives⟩ := plain_receives
  have begun : (system plainEnv).Reaches (start plainEnv plainEnd) _ := reaches_both _
  have proposed := reaches_first begun (update_advances plain_proposes)
  have received := reaches_second proposed (message_advances (List.mem_singleton.mpr rfl) receives)
  have completed := reaches_first received
    (message_advances (List.mem_singleton.mpr rfl) plain_completes)
  refine ⟨_, completed, ?_, ?_⟩
  · intro side
    cases side <;> rfl
  · intro side state member
    cases side with
    | first =>
        rcases List.mem_pair.mp member with same | same
        · exact same
        · exact same
    | second => exact List.mem_singleton.mp member

/-- Both endpoints have applied the payment, the states of version 1 are equal. -/
theorem versions_agree_payment : ∃ world, (system plainEnv).Reaches (start plainEnv plainEnd) world ∧
    (∀ side, appliedStates (world side).bus = [plainPayment]) ∧
    ∀ first ∈ appliedStates (world .first).bus, ∀ second ∈ appliedStates (world .second).bus,
      first.version = second.version → first = second := by
  obtain ⟨world, reaches, applied, signed⟩ := plain_reaches
  have unforged : Unforged plainEnd world := by
    intro side msg _ state member _
    refine ⟨plainPayment, List.mem_append_right _ (by rw [applied]; simp), ?_⟩
    rw [signed side.other state member]
  have collisionFree : CollisionFree world := by
    intro side side' state member state' member' _
    rw [signed side state member, signed side' state' member']
  have few : plainEnv.build.overflowChecks = false →
      ∀ side, (appliedStates (world side).bus).length < 2 ^ 64 := by
    intro off
    cases off
  exact ⟨world, reaches, applied,
    versions_agree plainEnv plainEnd plain_endpoints world reaches few unforged collisionFree⟩

end Plain

end Perun.DemoAgreement
