import Perun.ApplicationSafety
import Perun.DemoServices

/-! What the services are told over all channels of the application: one conversation after
the other. A channel that is closed has had its conversation, and nothing is said between two
channels. -/
namespace Perun.ApplicationServices
open AbiTypes Messages MessageBus DemoApplication ApplicationRun ApplicationSafety DemoServices
open DemoChannel (ChannelInner)
open DemoRun (Starts)
open ApplicationDelivery (plainPlatform plainSetup plainIdle plainInner plainApplication
  plain_registers)

section Sessions
variable {p : Platform}

/-- The channels of a run, each with all that it went through: those that are over, and the
present one, or nothing. -/
structure Sessions (p : Platform) where
  past : List (List (ChannelInner p.env.Signer × Bus))
  present : List (ChannelInner p.env.Signer × Bus)

/-- The application drops a channel when it is closed. -/
def Sessions.observe (seen : Sessions p) (app : Application p) : Sessions p :=
  match app.state with
  | .active _ _ channel => ⟨seen.past, seen.present ++ [(channel, app.sent)]⟩
  | _ =>
    match seen.present with
    | [] => seen
    | passed => ⟨seen.past ++ [passed ++ [(.closed, app.sent)]], []⟩

/-- The channels among the states of a run. -/
def sessions (apps : List (Application p)) : Sessions p := apps.foldl Sessions.observe ⟨[], []⟩

theorem sessions_goes (apps : List (Application p)) (app : Application p) :
    sessions (apps ++ [app]) = (sessions apps).observe app := List.foldl_concat ..

theorem observe_active (seen : Sessions p) {app : Application p} {h w : Address}
    {channel : ChannelInner p.env.Signer} (active : app.state = .active h w channel) :
    seen.observe app = ⟨seen.past, seen.present ++ [(channel, app.sent)]⟩ := by
  rw [Sessions.observe, active]

/-- There is no channel. -/
def Idle : ApplicationState p.env.Signer → Prop
  | .active _ _ _ => False
  | _ => True

theorem observe_idle {seen : Sessions p} {app : Application p} (idle : Idle app.state)
    (nothing : seen.present = []) : seen.observe app = seen := by
  unfold Sessions.observe
  cases state : app.state with
  | active h w channel =>
      rw [state] at idle
      exact idle.elim
  | _ => simp only [nothing]

theorem observe_closed {seen : Sessions p} {app : Application p} (idle : Idle app.state)
    (opened : seen.present ≠ []) :
    seen.observe app = ⟨seen.past ++ [seen.present ++ [(.closed, app.sent)]], []⟩ := by
  unfold Sessions.observe
  cases state : app.state with
  | active h w channel =>
      rw [state] at idle
      exact idle.elim
  | _ =>
      cases passed : seen.present with
      | nil => exact absurd passed opened
      | cons state rest => rfl

/-- Each conversation is about its channel. -/
def Past (seen : Sessions p) (past : List (Conversation p.env)) : Prop :=
  List.Forall₂ (fun states conversation => About states (some conversation)) seen.past past

/-- What is being said about the channel that the application has. -/
def Speaking (seen : Sessions p) (said : Option (Conversation p.env)) :
    ApplicationState p.env.Signer → Prop
  | .active _ _ channel => Fits said channel ∧ About seen.present said
  | _ => said = none ∧ seen.present = []

/-- The conversations of earlier channels are over. -/
def Over (seen : Sessions p) (before sent : Bus) : ApplicationState p.env.Signer → Prop
  | .active _ _ channel => Serves p.env before seen.present channel sent
  | _ => services sent = before ∧ seen.present = []

theorem over_idle {seen : Sessions p} {before sent : Bus} {state : ApplicationState p.env.Signer}
    (idle : Idle state) :
    Over seen before sent state ↔ services sent = before ∧ seen.present = [] := by
  cases state with
  | active h w channel => exact idle.elim
  | _ => rfl

def Served (seen : Sessions p) (state : ApplicationState p.env.Signer) (sent : Bus) : Prop :=
  ∃ past : List (Conversation p.env), Past seen past ∧
    Over seen (past.flatMap Conversation.sent) sent state

end Sessions

section Steps
variable {p : Platform} {setup : Setup p} {before after : Application p} {seen : Sessions p}

/-- No channel before and after, and nothing for the services. -/
theorem idle_served (served : Served seen before.state before.sent) (idle : Idle before.state)
    (idle' : Idle after.state) (silent : services after.sent = services before.sent) :
    Served (seen.observe after) after.state after.sent := by
  obtain ⟨past, about, earlier⟩ := served
  obtain ⟨told, nothing⟩ := (over_idle idle).mp earlier
  rw [observe_idle idle' nothing]
  exact ⟨past, about, (over_idle idle').mpr ⟨silent.trans told, nothing⟩⟩

/-- The first phase of a channel. -/
theorem starts_served {h w : Address} {channel : ChannelInner p.env.Signer}
    (served : Served seen before.state before.sent) (idle : Idle before.state)
    (starts : Starts p.env channel) (state : after.state = .active h w channel)
    (silent : services after.sent = services before.sent) :
    Served (seen.observe after) after.state after.sent := by
  obtain ⟨past, about, earlier⟩ := served
  obtain ⟨told, nothing⟩ := (over_idle idle).mp earlier
  rw [observe_active seen state, state, nothing]
  refine ⟨past, about, ?_⟩
  rw [← told, ← silent]
  exact starts_serves starts

/-- A call of the channel, or none. -/
theorem serves_served {h w : Address} {channel : ChannelInner p.env.Signer}
    {past : List (Conversation p.env)} (about : Past seen past)
    (serves : Serves p.env (past.flatMap Conversation.sent)
      (seen.present ++ [(channel, after.sent)]) channel after.sent)
    (state : after.state = .active h w channel) :
    Served (seen.observe after) after.state after.sent := by
  rw [observe_active seen state, state]
  exact ⟨past, about, serves⟩

/-- A closed channel has had its conversation. -/
theorem closed_served {past : List (Conversation p.env)} (about : Past seen past)
    (opened : seen.present ≠ [])
    (serves : Serves p.env (past.flatMap Conversation.sent)
      (seen.present ++ [(.closed, after.sent)]) .closed after.sent)
    (idle : Idle after.state) : Served (seen.observe after) after.state after.sent := by
  obtain ⟨said, told⟩ := serves.told
  -- Only a channel whose first state was signed can close, so something was said.
  obtain ⟨conversation, rfl⟩ := Option.isSome_iff_exists.mp told.fits
  rw [observe_closed idle opened]
  refine ⟨past ++ [conversation], ?_, (over_idle idle).mpr ⟨?_, rfl⟩⟩
  · exact List.rel_append about (.cons told.about .nil)
  · rw [List.flatMap_append, List.flatMap_singleton]
    exact told.sent

theorem acts_served {next : ApplicationState p.env.Signer} {bus : Bus}
    (served : Served seen before.state before.sent) (acts : Acts setup before next bus)
    (state : after.state = next) (sent : after.sent = bus) :
    Served (seen.observe after) after.state after.sent := by
  cases acts with
  | kept =>
      cases phase : before.state with
      | active h w channel =>
          obtain ⟨past, about, earlier⟩ := served
          rw [phase] at earlier
          have serves : Serves p.env (past.flatMap Conversation.sent) seen.present channel
              before.sent := earlier
          rw [← sent] at serves
          exact serves_served about (serves_stays serves) (state.trans phase)
      | _ =>
          have idle : Idle before.state := by
            rw [phase]
            trivial
          exact idle_served served idle (state ▸ idle) (by rw [sent])
  | dialled initial =>
      exact idle_served served (by rw [initial]; trivial) (by rw [state]; trivial) (by rw [sent])
  | configured h w dialling =>
      exact idle_served served (by rw [dialling]; trivial) (by rw [state]; trivial) (by rw [sent])
  | listens h w closing =>
      exact idle_served served (by rw [closing]; trivial) (by rw [state]; trivial) (by rw [sent])
  | greeted h w sender next listening connected =>
      have idle : Idle after.state := by
        rw [state]
        rcases connected with rfl | rfl <;> trivial
      exact idle_served served (by rw [listening]; trivial) idle
        (by rw [sent, services_participant])
  | connects h w listening =>
      exact idle_served served (by rw [listening]; trivial) (by rw [state]; trivial) (by rw [sent])
  | greets h w connecting =>
      exact idle_served served (by rw [connecting]; trivial) (by rw [state]; trivial)
        (by rw [sent, services_participant])
  | proposes h w proposalId nonceShare sender waiting =>
      apply starts_served served (by rw [waiting]; trivial) (.proposed _ rfl) state
      rw [sent, services_append, services_broadcast, List.append_nil]
  | accepts h w prop nonceShare acc sig sender waiting =>
      apply starts_served served (by rw [waiting]; trivial)
        (.agreedUpon _ sig (by simp [acceptedChannel])) state
      rw [sent, services_append, services_append, services_broadcast, services_broadcast,
        List.append_nil, List.append_nil]
  | called h w channel next bus call outcome active ran back =>
      obtain ⟨past, about, earlier⟩ := served
      rw [active] at earlier
      have serves : Serves p.env (past.flatMap Conversation.sent) seen.present channel
          before.sent := earlier
      have later := call_serves serves ran back
      rw [← sent] at later
      exact serves_served about later state
  | closed h w channel bus call active ran =>
      obtain ⟨past, about, earlier⟩ := served
      rw [active] at earlier
      have serves : Serves p.env (past.flatMap Conversation.sent) seen.present channel
          before.sent := earlier
      have later := call_serves serves ran (by simp)
      rw [← sent] at later
      exact closed_served about (List.ne_nil_of_mem serves.here) later (by rw [state]; trivial)

theorem trace_served {first after : Application p} {apps : List (Application p)}
    (trace : Trace (Step setup) first apps after)
    (sound : Sound setup first first.state first.sent)
    (served : Served (sessions [first]) first.state first.sent) :
    Served (sessions apps) after.state after.sent := by
  induction trace with
  | start => exact served
  | goes apps before after earlier step ih =>
      rw [sessions_goes]
      exact acts_served ih (step_does (runs_sound earlier.reaches sound) step) rfl rfl

theorem served_told {state : ApplicationState p.env.Signer} {sent : Bus}
    (served : Served seen state sent) :
    ∃ (past : List (Conversation p.env)) (said : Option (Conversation p.env)),
      services sent = past.flatMap Conversation.sent ++ spoken said ∧ Past seen past ∧
      Speaking seen said state := by
  obtain ⟨past, about, earlier⟩ := served
  cases state with
  | active h w channel =>
      obtain ⟨said, told⟩ := earlier.told
      exact ⟨past, said, told.sent, about, told.fits, told.about⟩
  | _ =>
      obtain ⟨told, nothing⟩ := earlier
      exact ⟨past, none, told.trans (List.append_nil _).symm, about, rfl, nothing⟩

end Steps

/-- In every run of the application all that its services are told is a sequence of
conversations, one for each channel that the run had: those about the channels that are over,
and what fits the phase of the channel that it has. -/
theorem services_conversations (p : Platform) (setup : Setup p) (iface : Interface p)
    (rng : p.rand.StdRng) (apps : List (Application p)) (app : Application p)
    (trace : Trace (Step setup) (start iface rng) apps app) :
    ∃ (past : List (Conversation p.env)) (said : Option (Conversation p.env)),
      services app.sent = past.flatMap Conversation.sent ++ spoken said ∧
      Past (sessions apps) past ∧ Speaking (sessions apps) said app.state :=
  served_told (trace_served trace (start_sound iface rng) ⟨[], .nil, rfl, rfl⟩)

theorem services_conversations_registers : ∃ apps app,
    ∃ (past : List (Conversation plainPlatform.env))
      (conversation : Conversation plainPlatform.env),
    Trace (Step plainSetup) (start plainIdle ()) apps app ∧
    services app.sent = past.flatMap Conversation.sent ++ conversation.sent ∧
    conversation.forced = true := by
  obtain ⟨iface, sent, runs⟩ := plain_registers
  obtain ⟨apps, trace⟩ := Trace.of_reaches runs
  obtain ⟨past, said, told, _, fits, _⟩ :=
    services_conversations plainPlatform plainSetup plainIdle () apps _ trace
  obtain ⟨conversation, rfl, isForced⟩ := fits
  exact ⟨apps, _, past, conversation, trace, told, isForced⟩

end Perun.ApplicationServices
