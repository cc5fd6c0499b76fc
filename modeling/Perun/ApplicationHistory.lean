import Perun.ApplicationSafety
import Perun.Trace

/-! How the application came to its channel. It has listened after both sockets were free,
it has sent its own handshake, and from the first phase on the channel was changed by its
own calls only. -/
namespace Perun.ApplicationHistory
open AbiTypes Messages MessageBus DemoApplication ApplicationRun ApplicationSafety
open DemoChannel (ChannelInner)
open DemoRun (Starts CallRuns)
open DemoPhases (owner)
open ApplicationDelivery (plainPlatform plainSetup plainIdle plainHolder plainActive plain_opens)

section Histories
variable {p : Platform} (setup : Setup p) (first : Application p) (h w : Address)

/-- The application has listened since the sockets were free, or it connects. -/
inductive Listens : List (Application p) → Application p → Prop
  | listen (apps : List (Application p)) (idle after : Application p)
      (earlier : Trace (Step setup) first apps idle) (closing : idle.state = .closingSockets h w)
      (service : p.tcp.isActive idle.iface.service = false)
      (participant : p.tcp.isActive idle.iface.participant = false)
      (step : Step setup idle after) (state : after.state = .listening h w) :
      Listens (apps ++ [after]) after
  | goes (apps : List (Application p)) (before after : Application p)
      (listens : Listens apps before) (step : Step setup before after)
      (state : after.state = .listening h w ∨ after.state = .connecting h w) :
      Listens (apps ++ [after]) after

/-- It has sent the handshake of this session, and nothing since. -/
inductive Greets : List (Application p) → Application p → Prop
  | greet (apps : List (Application p)) (before after : Application p)
      (sender recipient : Identity) (listens : Listens setup first h w apps before)
      (step : Step setup before after)
      (sent : after.sent = before.sent ++ [.toParticipant sender recipient .auth])
      (state : after.state = .waitForProposal h w ∨ after.state = .waitForHandshake h w) :
      Greets (apps ++ [after]) after
  | goes (apps : List (Application p)) (before after : Application p)
      (greets : Greets apps before) (step : Step setup before after)
      (state : after.state = before.state) (sent : after.sent = before.sent) :
      Greets (apps ++ [after]) after

/-- It has opened a channel in this session. -/
inductive Opens : ChannelInner p.env.Signer → List (Application p) → Application p → Prop
  | open (apps : List (Application p)) (before after : Application p)
      (channel : ChannelInner p.env.Signer) (greets : Greets setup first h w apps before)
      (step : Step setup before after) (state : after.state = .active h w channel)
      (starts : Starts p.env channel) : Opens channel (apps ++ [after]) after
  | goes (apps : List (Application p)) (before after : Application p)
      (channel next : ChannelInner p.env.Signer) (opens : Opens channel apps before)
      (step : Step setup before after) (state : after.state = .active h w next)
      (runs : CallRuns p.env (channel, before.sent) (next, after.sent)) :
      Opens next (apps ++ [after]) after

/-- The history that belongs to a state. -/
def History (apps : List (Application p)) (app : Application p) :
    ApplicationState p.env.Signer → Prop
  | .listening h w => Listens setup first h w apps app
  | .connecting h w => Listens setup first h w apps app
  | .waitForProposal h w => Greets setup first h w apps app
  | .waitForHandshake h w => Greets setup first h w apps app
  | .active h w channel => Opens setup first h w channel apps app
  | _ => True

end Histories

section Steps
variable {p : Platform} {setup : Setup p} {first before after : Application p}
  {apps : List (Application p)}

/-- A step that changes neither the state nor the bus. -/
theorem kept_history (history : History setup first apps before before.state)
    (step : Step setup before after) (state : after.state = before.state)
    (sent : after.sent = before.sent) :
    History setup first (apps ++ [after]) after after.state := by
  cases phase : before.state with
  | listening h w =>
      rw [phase] at history state
      rw [state]
      exact .goes apps before after history step (Or.inl state)
  | connecting h w =>
      rw [phase] at history state
      rw [state]
      exact .goes apps before after history step (Or.inr state)
  | waitForProposal h w =>
      rw [phase] at history
      rw [state, phase]
      exact .goes apps before after history step state sent
  | waitForHandshake h w =>
      rw [phase] at history
      rw [state, phase]
      exact .goes apps before after history step state sent
  | active h w channel =>
      rw [phase] at history state
      rw [state]
      apply Opens.goes apps before after channel channel history step state
      rw [sent]
      exact Relation.ReflTransGen.refl
  | _ =>
      rw [state, phase]
      trivial

theorem does_history (earlier : Trace (Step setup) first apps before)
    (history : History setup first apps before before.state) (step : Step setup before after)
    (acts : Acts setup before after.state after.sent) :
    History setup first (apps ++ [after]) after after.state := by
  generalize state : after.state = next at acts
  generalize sent : after.sent = bus at acts
  cases acts with
  | kept =>
      rw [← state]
      exact kept_history history step state sent
  | dialled => trivial
  | configured => trivial
  | listens h w closing service participant =>
      exact .listen apps before after earlier closing service participant step state
  | greeted h w sender next listening connected =>
      rw [listening] at history
      rcases connected with rfl | rfl
      · exact .goes apps before after history step (Or.inl state)
      · exact .greet apps before after peer0 sender history step sent (Or.inl state)
  | connects h w listening =>
      rw [listening] at history
      exact .goes apps before after history step (Or.inr state)
  | greets h w connecting =>
      rw [connecting] at history
      exact .greet apps before after _ _ history step sent (Or.inr state)
  | proposes h w proposalId nonceShare sender waiting =>
      rw [waiting] at history
      exact .open apps before after _ history step state (.proposed _ rfl)
  | accepts h w prop nonceShare acc sig sender waiting =>
      rw [waiting] at history
      exact .open apps before after _ history step state
        (.agreedUpon _ sig (by simp [acceptedChannel]))
  | called h w channel next _ call outcome active ran back stillOpen =>
      rw [active] at history
      apply Opens.goes apps before after channel next history step state
      rw [sent]
      exact Relation.ReflTransGen.single ⟨call, outcome, ran, back⟩
  | closed => trivial

theorem trace_history {iface : Interface p} {rng : p.rand.StdRng} {app : Application p}
    (trace : Trace (Step setup) (start iface rng) apps app) :
    History setup (start iface rng) apps app app.state := by
  induction trace with
  | start => exact True.intro
  | goes apps before after earlier step ih =>
      have sound := runs_sound earlier.reaches (start_sound iface rng)
      exact does_history earlier ih step (step_does sound step)

end Steps

section Results
variable (p : Platform) (setup : Setup p) (iface : Interface p) (rng : p.rand.StdRng)

/-- While there is a channel the run has, in this order, listened since both sockets were
free, sent its handshake and nothing after it, opened the channel in its first phase, and
changed it by calls of the channel only. The channel is neither closed nor invalid, and it
is for the configured client and receiver. -/
theorem active_history (apps : List (Application p)) (app : Application p)
    (trace : Trace (Step setup) (start iface rng) apps app)
    (ethHolder withdrawReceiver : Address) (channel : ChannelInner p.env.Signer)
    (active : app.state = .active ethHolder withdrawReceiver channel) :
    Opens setup (start iface rng) ethHolder withdrawReceiver channel apps app ∧
      channel ≠ .closed ∧ channel ≠ .temporaryInvalidState ∧
      ∀ own, owner channel = some own →
        own.withdrawReceiver = withdrawReceiver ∧ own.client = setup.client := by
  have history := trace_history trace
  have sound := runs_sound trace.reaches (start_sound iface rng)
  have session := sound.session _ _ _ active
  rw [active] at history
  refine ⟨history, ?_, ?_, session.owned⟩
  · rintro rfl
    cases session.kept.2
  · rintro rfl
    cases session.kept.1

theorem active_history_opens : ∃ apps app,
    Trace (Step plainSetup) (start plainIdle ()) apps app ∧
    Opens plainSetup (start plainIdle ()) plainHolder plainHolder (.active plainActive none) apps
      app := by
  obtain ⟨iface, sent, runs⟩ := plain_opens
  obtain ⟨apps, trace⟩ := Trace.of_reaches runs
  exact ⟨apps, _, trace, (active_history plainPlatform plainSetup plainIdle () apps _ trace
    plainHolder plainHolder _ rfl).1⟩

end Results

end Perun.ApplicationHistory
