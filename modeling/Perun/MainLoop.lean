import Perun.ApplicationDelivery
import Perun.Button

/-! The main loop of the demo (`cortex-m-demo/src/main.rs`). A round polls the network, then
the application, where an error aborts, and then the four buttons, where an error is only
shown by a light. -/
namespace Perun.MainLoop
open AbiTypes Messages DemoApplication ApplicationRun
open Button (DebouncedButton Edge Poll runPolls run_cons edgeTimes run_spacing)

inductive Key where
  | proposeChannel
  | update
  | normalClose
  | forceClose
  deriving DecidableEq

/-- The edge that is waited for. One of the buttons is pulled the other way. -/
def Key.edge : Key → Edge
  | .update => .rising
  | _ => .falling

def Key.call : Key → Call
  | .proposeChannel => .proposeChannel
  | .update => .update 100 false
  | .normalClose => .update 0 true
  | .forceClose => .forceClose

/-- What changes from round to round. -/
structure Device (p : Platform) where
  app : Application p
  buttons : Key → DebouncedButton
  greenLed : Bool
  redLed : Bool
  blueLed : Bool
  lastToggleTime : BitVec 64

/-- What a round finds: the time in milliseconds, what the network stack makes of the
sockets, and the levels of the pins. -/
structure Inputs (p : Platform) where
  time : BitVec 64
  network : Interface p → Interface p
  levels : Key → Button.State

abbrev OnDevice (p : Platform) (α : Type) := Op Empty (Device p) α

section Code
variable {p : Platform} (setup : Setup p)

def debounceThreshhold : BitVec 64 := 100

def Device.create (iface : Interface p) (rng : p.rand.StdRng) (levels : Key → Button.State) :
    Device p :=
  ⟨start iface rng, fun key => .create (levels key) debounceThreshhold, false, false, false, 0⟩

def Inputs.arrive (inputs : Inputs p) (app : Application p) : Application p :=
  { app with iface := inputs.network app.iface }

def Inputs.poll (inputs : Inputs p) (key : Key) : Poll :=
  ⟨key.edge, inputs.levels key, inputs.time⟩

def onApp {α : Type} (method : Op Empty (Application p) α) : OnDevice p α := fun device =>
  let after := method device.app
  (after.1, { device with app := after.2 })

def onButton {α : Type} (key : Key) (method : Button.Method α) : OnDevice p α := fun device =>
  let after := method (device.buttons key)
  (after.1, { device with buttons := Function.update device.buttons key after.2 })

/-- A call of the application. The lights show how it went. -/
def press (key : Key) : OnDevice p Unit := fun device =>
  match key.call.run setup device.app with
  | (.ok _, app) => (.ok (), { device with app := app, greenLed := !device.greenLed })
  | (.err _, app) => (.ok (), { device with app := app, redLed := !device.redLed })
  | (.panic, app) => (.panic, { device with app := app })

def handleButton (inputs : Inputs p) (key : Key) : OnDevice p Unit := do
  let edge ← onButton key ((inputs.poll key).run p.env.build)
  if edge then press setup key else pure ()

def handleButtons (inputs : Inputs p) : List Key → OnDevice p Unit
  | [] => pure ()
  | key :: rest => do
      handleButton setup inputs key
      handleButtons inputs rest

def toggleBlue (time : BitVec 64) : OnDevice p Unit := do
  let device ← Op.get
  let limit ← Op.lift (p.env.build.addU64 device.lastToggleTime 1000)
  if limit.toNat < time.toNat then
    Op.modify fun device => { device with blueLed := !device.blueLed, lastToggleTime := time }
  else pure ()

def keys : List Key := [.proposeChannel, .update, .normalClose, .forceClose]

def round (inputs : Inputs p) : OnDevice p Unit := do
  Op.modify fun device => { device with app := inputs.arrive device.app }
  onApp (unwrapped (DemoApplication.poll setup))
  handleButtons setup inputs keys
  toggleBlue inputs.time

def rounds : List (Inputs p) → OnDevice p Unit
  | [] => pure ()
  | inputs :: rest => do
      round setup inputs
      rounds rest

end Code

/-! A run of the loop, seen from the application. -/
section Runs
variable {p : Platform} (setup : Setup p)

inductive Presses : List Key → Application p → Application p → Prop
  | none (app : Application p) : Presses [] app app
  | press (key : Key) (rest : List Key) (before middle after : Application p)
      (outcome : Outcome (DemoApplication.Error p) Unit)
      (ran : key.call.run setup before = (outcome, middle)) (back : outcome ≠ .panic)
      (later : Presses rest middle after) : Presses (key :: rest) before after

/-- In each round the network changes the sockets, the poll returns `Ok`, and some buttons
make their calls. -/
inductive AppRounds : List (Inputs p) → List (List Key) → Application p → Application p → Prop
  | none (app : Application p) : AppRounds [] [] app app
  | round (inputs : Inputs p) (rest : List (Inputs p)) (pressed : List Key)
      (later : List (List Key)) (before middle next after : Application p)
      (polled : DemoApplication.poll setup (inputs.arrive before) = (.ok (), middle))
      (presses : Presses setup pressed middle next)
      (continues : AppRounds rest later next after) :
      AppRounds (inputs :: rest) (pressed :: later) before after

end Runs

section Buttons
variable {p : Platform} {setup : Setup p} {inputs : Inputs p} {device after : Device p} {key : Key}

theorem press_ok (ran : press setup key device = (.ok (), after)) :
    after.buttons = device.buttons ∧ Presses setup [key] device.app after.app := by
  unfold press at ran
  rcases called : key.call.run setup device.app with ⟨_ | error | _, app⟩
  · rw [called] at ran
    cases ran
    exact ⟨rfl, .press key [] _ _ _ _ called (by simp) (.none app)⟩
  · rw [called] at ran
    cases ran
    exact ⟨rfl, .press key [] _ _ _ _ called (by simp) (.none app)⟩
  · rw [called] at ran
    cases ran

theorem handle_button_ok (ran : handleButton setup inputs key device = (.ok (), after)) :
    ∃ edge button, (inputs.poll key).run p.env.build (device.buttons key) = (.ok edge, button) ∧
      after.buttons = Function.update device.buttons key button ∧
      Presses setup (if edge then [key] else []) device.app after.app := by
  obtain ⟨edge, middle, polled, called⟩ := Op.bind_eq_ok.mp ran
  rcases poll : (inputs.poll key).run p.env.build (device.buttons key) with ⟨result, button⟩
  simp only [onButton, poll, Prod.mk.injEq] at polled
  rcases polled with ⟨rfl, rfl⟩
  refine ⟨edge, button, rfl, ?_⟩
  cases edge with
  | true => exact press_ok called
  | false =>
      cases called
      exact ⟨rfl, .none _⟩

theorem presses_append {first later : List Key} {before middle last : Application p}
    (presses : Presses setup first before middle) (presses' : Presses setup later middle last) :
    Presses setup (first ++ later) before last := by
  induction presses with
  | none => exact presses'
  | press key rest before middle after outcome ran back _ ih =>
      exact .press key _ before middle last outcome ran back (ih presses')

/-- Each button of a round reports whether it is among those that made their calls. -/
structure Reports (setup : Setup p) (inputs : Inputs p) (looked pressed : List Key)
    (device after : Device p) : Prop where
  order : pressed.Sublist looked
  calls : Presses setup pressed device.app after.app
  polled : ∀ key ∈ looked, (inputs.poll key).run p.env.build (device.buttons key) =
    (.ok (decide (key ∈ pressed)), after.buttons key)
  others : ∀ key ∉ looked, after.buttons key = device.buttons key

theorem handle_buttons_ok {looked : List Key} (distinct : looked.Nodup)
    (ran : handleButtons setup inputs looked device = (.ok (), after)) :
    ∃ pressed, Reports setup inputs looked pressed device after := by
  induction looked generalizing device with
  | nil =>
      cases ran
      exact ⟨[], List.Sublist.slnil, .none _, by simp, fun _ _ => rfl⟩
  | cons key rest ih =>
      obtain ⟨fresh, distinct'⟩ := List.nodup_cons.mp distinct
      obtain ⟨_, middle, first, later⟩ := Op.bind_eq_ok.mp ran
      obtain ⟨edge, button, polled, moved, called⟩ := handle_button_ok first
      obtain ⟨pressed, reports⟩ := ih distinct' later
      have absent : key ∉ pressed := fun member => fresh (reports.order.subset member)
      have told : decide (key ∈ (if edge then [key] else []) ++ pressed) = edge := by
        cases edge <;> simp [absent]
      refine ⟨_, ?_, presses_append called reports.calls, ?_, ?_⟩
      · cases edge with
        | true => exact reports.order.cons_cons key
        | false => exact reports.order.cons key
      · rintro other member
        by_cases same : other = key
        · subst same
          rw [told, polled, reports.others _ fresh, moved, Function.update_self]
        · have inside := (List.mem_cons.mp member).resolve_left same
          have kept : middle.buttons other = device.buttons other := by
            rw [moved, Function.update_of_ne same]
          have answer := reports.polled other inside
          rw [kept] at answer
          rw [answer]
          cases edge <;> simp [same]
      · rintro other absent
        have differs : other ≠ key := fun same => absent (same ▸ List.mem_cons_self)
        have outside : other ∉ rest := fun member => absent (List.mem_cons_of_mem key member)
        rw [reports.others other outside, moved, Function.update_of_ne differs]

theorem toggle_blue_keeps {time : BitVec 64} (ran : toggleBlue time device = (.ok (), after)) :
    after.app = device.app ∧ after.buttons = device.buttons := by
  obtain ⟨_, _, got, ran'⟩ := Op.bind_eq_ok.mp ran
  cases got
  obtain ⟨limit, _, added, ran''⟩ := Op.bind_eq_ok.mp ran'
  cases (Op.lift_eq_ok.mp added).2
  split at ran'' <;> cases ran'' <;> exact ⟨rfl, rfl⟩

theorem round_ok (ran : round setup inputs device = (.ok (), after)) :
    ∃ middle pressed, DemoApplication.poll setup (inputs.arrive device.app) = (.ok (), middle) ∧
      Reports setup inputs keys pressed { device with app := middle } after := by
  obtain ⟨_, _, arrived, ran'⟩ := Op.bind_eq_ok.mp ran
  cases arrived
  obtain ⟨_, middle, polled, ran''⟩ := Op.bind_eq_ok.mp ran'
  rcases poll : DemoApplication.poll setup (inputs.arrive device.app) with ⟨result, app⟩
  simp only [onApp, unwrapped, poll, Prod.mk.injEq] at polled
  rcases polled with ⟨returned, rfl⟩
  cases Outcome.unwrapErr_eq_ok.mp returned
  obtain ⟨_, next, handled, toggled⟩ := Op.bind_eq_ok.mp ran''
  obtain ⟨pressed, reports⟩ := handle_buttons_ok (by decide) handled
  obtain ⟨app', buttons⟩ := toggle_blue_keeps toggled
  refine ⟨app, pressed, rfl, reports.order, ?_, ?_, ?_⟩
  · rw [app']
    exact reports.calls
  · rw [buttons]
    exact reports.polled
  · rw [buttons]
    exact reports.others

theorem round_halts (failed : (DemoApplication.poll setup (inputs.arrive device.app)).1 ≠ .ok ()) :
    (round setup inputs device).1 = .panic := by
  rcases polled : DemoApplication.poll setup (inputs.arrive device.app) with ⟨_ | error | _, app⟩
  · rw [polled] at failed
    exact absurd rfl failed
  · simp [round, Op.bind_run, onApp, unwrapped, polled, Outcome.unwrapErr]
  · simp [round, Op.bind_run, onApp, unwrapped, polled, Outcome.unwrapErr]

end Buttons

section Results
variable {p : Platform} {setup : Setup p} {before after : Application p}

theorem presses_runs {pressed : List Key} (presses : Presses setup pressed before after) :
    Runs setup before after := by
  induction presses with
  | none => exact .refl
  | press key rest before middle after outcome ran back _ ih =>
      exact .head (.call key.call before middle outcome ran back) ih

theorem app_rounds_runs {inputs : List (Inputs p)} {pressed : List (List Key)}
    (rounds : AppRounds setup inputs pressed before after) : Runs setup before after := by
  induction rounds with
  | none => exact .refl
  | round inputs _ pressed _ before middle next after polled presses _ ih =>
      have arrives : Step setup before (inputs.arrive before) := .network before _
      have polls : Step setup (inputs.arrive before) middle :=
        .call .poll _ middle (.ok ()) polled (by simp)
      exact .head arrives (.head polls ((presses_runs presses).trans ih))

/-- A run as the application sees it. A button made its call in those rounds in which its
own debounced edge was reported, counted over all rounds. -/
structure Traced (setup : Setup p) (inputs : List (Inputs p)) (pressed : List (List Key))
    (device after : Device p) : Prop where
  rounds : AppRounds setup inputs pressed device.app after.app
  ordered : ∀ called ∈ pressed, called.Sublist keys
  edges : ∀ key, runPolls p.env.build (inputs.map fun round => round.poll key)
    (device.buttons key) = (.ok (pressed.map fun called => decide (key ∈ called)), after.buttons key)

theorem rounds_traced {inputs : List (Inputs p)} {device after : Device p}
    (ran : rounds setup inputs device = (.ok (), after)) :
    ∃ pressed, Traced setup inputs pressed device after := by
  induction inputs generalizing device with
  | nil =>
      cases ran
      exact ⟨[], .none _, by simp, fun _ => rfl⟩
  | cons first rest ih =>
      obtain ⟨_, next, ran', later⟩ := Op.bind_eq_ok.mp ran
      obtain ⟨middle, pressed, polled, reports⟩ := round_ok ran'
      obtain ⟨others, traced⟩ := ih later
      refine ⟨pressed :: others, ?_, ?_, ?_⟩
      · exact .round _ _ _ _ _ middle _ _ polled reports.calls traced.rounds
      · exact List.forall_mem_cons.mpr ⟨reports.order, traced.ordered⟩
      · intro key
        have looked : key ∈ keys := by cases key <;> decide
        exact run_cons.mpr ⟨_, _, _, reports.polled key looked, traced.edges key, rfl⟩

def callTimes (key : Key) : List (Inputs p) → List (List Key) → List Nat
  | inputs :: rest, called :: pressed =>
      if key ∈ called then inputs.time.toNat :: callTimes key rest pressed
      else callTimes key rest pressed
  | _, _ => []

theorem call_times_edges (key : Key) (inputs : List (Inputs p)) (pressed : List (List Key)) :
    callTimes key inputs pressed = edgeTimes (inputs.map fun round => round.poll key)
      (pressed.map fun called => decide (key ∈ called)) := by
  induction inputs generalizing pressed with
  | nil => rfl
  | cons first rest ih =>
      cases pressed with
      | nil => rfl
      | cons called others =>
          simp only [callTimes, List.map_cons, edgeTimes, decide_eq_true_eq, ih]
          rfl

theorem calls_apart {iface : Interface p} {rng : p.rand.StdRng} {levels : Key → Button.State}
    {inputs : List (Inputs p)} {pressed : List (List Key)} {after : Device p}
    (traced : Traced setup inputs pressed (.create iface rng levels) after)
    (ordered : inputs.Pairwise fun earlier later => earlier.time.toNat ≤ later.time.toNat)
    (small : ∀ round ∈ inputs, round.time.toNat + 100 < 2 ^ 64) (key : Key) :
    (callTimes key inputs pressed).Pairwise fun earlier later => earlier + 202 ≤ later := by
  have asked : ∀ poll ∈ inputs.map fun round => round.poll key, poll.edge = key.edge := by
    intro poll member
    obtain ⟨round, _, rfl⟩ := List.mem_map.mp member
    rfl
  have small' : ∀ poll ∈ inputs.map fun round => round.poll key,
      poll.time.toNat + (100 : BitVec 64).toNat < 2 ^ 64 := by
    intro poll member
    obtain ⟨round, found, rfl⟩ := List.mem_map.mp member
    exact small round found
  have first : (0 : BitVec 64).toNat + (100 : BitVec 64).toNat < 2 ^ 64 := by decide
  have spaced := run_spacing asked (List.pairwise_map.mpr ordered) (fun _ _ => Nat.zero_le _) first
    small' (traced.edges key)
  rw [call_times_edges]
  exact spaced.2

/-- A run of the main loop that has not aborted is a run of the application: rounds of a poll
that returned `Ok` and of the calls of the buttons with an edge, in their order. Two calls of
one button are more than 200 milliseconds apart, however its level bounces. -/
theorem main_loop_runs (p : Platform) (setup : Setup p) (iface : Interface p) (rng : p.rand.StdRng)
    (levels : Key → Button.State) (inputs : List (Inputs p)) (after : Device p)
    (ran : rounds setup inputs (.create iface rng levels) = (.ok (), after)) :
    Runs setup (start iface rng) after.app ∧ ∃ pressed,
      Traced setup inputs pressed (.create iface rng levels) after ∧
      ((inputs.Pairwise fun earlier later => earlier.time.toNat ≤ later.time.toNat) →
        (∀ round ∈ inputs, round.time.toNat + 100 < 2 ^ 64) → ∀ key,
        (callTimes key inputs pressed).Pairwise fun earlier later => earlier + 202 ≤ later) := by
  obtain ⟨pressed, traced⟩ := rounds_traced ran
  constructor
  · exact app_rounds_runs traced.rounds
  · exact ⟨pressed, traced, fun ordered small => calls_apart traced ordered small⟩

end Results

/-! The first round after a boot, with one button pressed. -/
section Plain
open ApplicationDelivery

def plainLevels (key : Key) : Button.State := if key = .update then .low else .high

def plainBoot : Device plainPlatform := .create plainIdle () plainLevels

/-- Nothing arrives, and a channel is to be closed by force. -/
def forced : Inputs plainPlatform :=
  ⟨101, id, fun key => if key = .forceClose then .low else plainLevels key⟩

section Idle
variable {p : Platform} {setup : Setup p} {inputs : Inputs p} {device : Device p} {key : Key}

theorem idle_button (same : inputs.levels key = (device.buttons key).lastState) :
    handleButton setup inputs key device = (.ok (), device) := by
  have polled : (inputs.poll key).run p.env.build (device.buttons key) =
      (.ok false, device.buttons key) := Button.poll_same same
  simp [handleButton, Op.bind_run, onButton, polled]

theorem refused_button {button : DebouncedButton} {app : Application p}
    {error : DemoApplication.Error p}
    (polled : (inputs.poll key).run p.env.build (device.buttons key) = (.ok true, button))
    (called : key.call.run setup device.app = (.err error, app)) :
    handleButton setup inputs key device = (.ok (), { device with
      app := app
      buttons := Function.update device.buttons key button
      redLed := !device.redLed }) := by
  simp [handleButton, Op.bind_run, onButton, polled, press, called]

theorem toggle_early {time : BitVec 64} (early : time.toNat ≤ 1000)
    (fresh : device.lastToggleTime = 0) : toggleBlue time device = (.ok (), device) := by
  have added : (p.env.build.addU64 0 1000 : Outcome Empty (BitVec 64)) = .ok 1000 :=
    Build.add_u64_iff.mpr ⟨rfl, fun _ => by decide⟩
  have waits : ¬(1000 : BitVec 64).toNat < time.toNat := Nat.not_lt_of_le early
  simp only [toggleBlue, Op.bind_run, Op.get_run, fresh, added, Op.lift_run, if_neg waits,
    Op.pure_run]

theorem handle_buttons_cons {rest : List Key} {middle after : Device p}
    (first : handleButton setup inputs key device = (.ok (), middle))
    (later : handleButtons setup inputs rest middle = (.ok (), after)) :
    handleButtons setup inputs (key :: rest) device = (.ok (), after) :=
  (Op.bind_ok first).trans later

theorem round_returns {app : Application p} {next : Device p}
    (polled : DemoApplication.poll setup (inputs.arrive device.app) = (.ok (), app))
    (handled : handleButtons setup inputs keys { device with app := app } = (.ok (), next))
    (early : inputs.time.toNat ≤ 1000) (fresh : next.lastToggleTime = 0) :
    round setup inputs device = (.ok (), next) := by
  have toggled := toggle_early early fresh
  simp only [round, Op.bind_run, Op.modify_run, onApp, unwrapped, polled, Outcome.unwrapErr_ok,
    handled, toggled]

end Idle

theorem plain_forces : ∃ after, rounds plainSetup [forced] plainBoot = (.ok (), after) ∧
    after.app.state = .connectingToConfigDealer ∧ after.redLed = true := by
  let dialled : Device plainPlatform :=
    { plainBoot with app := plainApplication .connectingToConfigDealer plainIdle [] }
  have polled : (forced.poll .forceClose).run plainPlatform.env.build (dialled.buttons .forceClose) =
      (.ok true, ⟨100, 101, .low⟩) :=
    Button.poll_adopts (by decide) ⟨fun _ => by decide, by decide⟩
  have idle (key : Key) (other : key ≠ .forceClose) :
      handleButton plainSetup forced key dialled = (.ok (), dialled) := by
    apply idle_button
    cases key with
    | forceClose => exact absurd rfl other
    | _ => rfl
  have last : handleButtons plainSetup forced [.forceClose] dialled = _ :=
    handle_buttons_cons (refused_button polled rfl) rfl
  have handled := handle_buttons_cons (idle .proposeChannel nofun) (handle_buttons_cons
    (idle .update nofun) (handle_buttons_cons (idle .normalClose nofun) last))
  have ran := @round_returns plainPlatform plainSetup forced plainBoot _ _ rfl handled
    (by decide) rfl
  exact ⟨_, Op.bind_ok ran, rfl, rfl⟩

/-- There is no channel yet, which the red light shows. -/
theorem main_loop_runs_forced : ∃ after, rounds plainSetup [forced] plainBoot = (.ok (), after) ∧
    after.app.state = .connectingToConfigDealer ∧ after.redLed = true ∧
    Runs plainSetup (start plainIdle ()) after.app := by
  obtain ⟨after, ran, dials, refused⟩ := plain_forces
  have runs := main_loop_runs plainPlatform plainSetup plainIdle () plainLevels [forced] after ran
  exact ⟨after, ran, dials, refused, runs.1⟩

end Plain

end Perun.MainLoop
