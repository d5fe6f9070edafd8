/-
# The detector of captive portals

The detector asks the network in a loop what it is behind. It enters the portal mode
after enough observations of a portal and leaves it when the users have logged in; while
the portal is there it moves the deadline of the marker, and otherwise it leaves a mode
whose deadline is over, as does the watchdog. Entering and leaving run under the lock of
the agent; what the detector does outside of the lock is one step for each thing it
reads and writes.

Time passes as the steps of the environment let it. The wall clock of a step is what
`date` prints there and may be anything; the uptime, where it can be read, is the time
that has passed.
-/

import OpenPath.Foundation.Transition
import OpenPath.Linux.CaptivePortal

namespace OpenPath.Linux.CaptivePortal

/-! ## Deadlines -/

/-- `is_portal_mode_active` and `is_portal_mode_expired` -/
def isPortalModeExpired (clock : Clock) (marker : Option Marker) : Bool :=
  (marker.bind Marker.expires).any fun expiry => decide (expiry ≤ clock.wall)

/-- What `refresh_portal_mode_expiry` does with what it has read. -/
inductive Refresh
  | notActive
  | close
  | extend (startTs : Nat) (monoStart : Option Nat)
  deriving DecidableEq

/-- `refresh_portal_mode_expiry` up to its writes. -/
def refreshPortalModeExpiry (settings : Settings) (clock : Clock) : Option Marker → Refresh
  | none => .notActive
  | some marker =>
      let startTs := marker.start.getD clock.wall
      let wallElapsed := clock.wall - startTs
      -- A step back of the wall clock closes the mode.
      if clock.wall < startTs then .close
      else
        match marker.monoStart, clock.uptime with
        | some monoStart, some monoNow =>
            if monoNow < monoStart then .close
            else if settings.maxLifetime ≤ max wallElapsed (monoNow - monoStart) then .close
            else .extend startTs marker.monoStart
        | _, _ =>
            if settings.maxLifetime ≤ wallElapsed then .close
            else .extend startTs marker.monoStart

/-! ## Observations -/

/-- What `get_captive_portal_state` prints. -/
inductive NetworkState
  | authenticated
  | portal
  | noNetwork
  deriving DecidableEq

structure DetectorSettings extends Settings where
  /-- `CAPTIVE_PORTAL_ENTER_THRESHOLD` -/
  enterThreshold : Nat := 2
  /-- `CAPTIVE_PORTAL_EXIT_THRESHOLD` -/
  exitThreshold : Nat := 1
  /-- `CAPTIVE_PORTAL_REENTRY_COOLDOWN_SECONDS`, where it is a number. -/
  cooldownSetting : Option Nat := none
  /-- `CAPTIVE_INTERVAL_NORMAL` -/
  intervalNormal : Nat := 60
  /-- `CAPTIVE_INTERVAL_PORTAL_ACTIVE` -/
  intervalPortalActive : Nat := 10
  /-- `CAPTIVE_INTERVAL_NO_NETWORK` -/
  intervalNoNetwork : Nat := 5

/-- How long the detector sleeps. -/
def DetectorSettings.interval (settings : DetectorSettings) : NetworkState → Nat
  | .authenticated => settings.intervalNormal
  | .portal => settings.intervalPortalActive
  | .noNetwork => settings.intervalNoNetwork

def DetectorSettings.longestInterval (settings : DetectorSettings) : Nat :=
  max settings.intervalNormal (max settings.intervalPortalActive settings.intervalNoNetwork)

theorem DetectorSettings.interval_le (settings : DetectorSettings) (state : NetworkState) :
    settings.interval state ≤ settings.longestInterval := by
  rw [longestInterval]
  cases state with
  | authenticated => exact Nat.le_max_left _ _
  | portal => exact (Nat.le_max_left _ _).trans (Nat.le_max_right _ _)
  | noNetwork => exact (Nat.le_max_right _ _).trans (Nat.le_max_right _ _)

def Observation.observe (observation : Observation) : NetworkState → Observation
  | .portal => { portalCount := observation.portalCount + 1, authenticatedCount := 0 }
  | .authenticated =>
      { portalCount := 0, authenticatedCount := observation.authenticatedCount + 1 }
  | .noNetwork => observation

/-- `update_captive_portal_observation`, of which the first lines are written. -/
def updateCaptivePortalObservation (chance : Chance) (state : NetworkState)
    (observation : Observation) : Observation :=
  match chance with
  | .refused => observation
  | .cut 0 => ⟨0, 0⟩
  | .cut 1 => { observation.observe state with authenticatedCount := 0 }
  | _ => observation.observe state

/-- The file of the last close, which holds the wall clock. -/
def recordPortalReentryCooldown (chance : Chance) (clock : Clock) (cooldown : Option Nat) :
    Option Nat :=
  match chance with
  | .refused => cooldown
  | .cut _ => none
  | _ => some clock.wall

def portalReentryCooldownActive (settings : DetectorSettings) (clock : Clock)
    (cooldown : Option Nat) : Bool :=
  cooldown.any fun cappedAt =>
    settings.cooldownSetting.getD 300 ≠ 0 &&
      (clock.wall < cappedAt || clock.wall - cappedAt < settings.cooldownSetting.getD 300)

def shouldEnterPortalMode (settings : DetectorSettings) (clock : Clock) (cooldown : Option Nat)
    (observation : Observation) : Bool :=
  !portalReentryCooldownActive settings clock cooldown &&
    settings.enterThreshold ≤ observation.portalCount

def shouldExitPortalMode (settings : DetectorSettings) (observation : Observation) : Bool :=
  settings.exitThreshold ≤ observation.authenticatedCount

namespace Lifetime

open Foundation TransitionSystem

/-! ## Processes -/

inductive Party
  | detector
  | watchdog
  deriving DecidableEq

/-- The next step of the process that holds the lock. -/
inductive Task
  | enter (step : EnterStep)
  | exit (step : ExitStep)
  deriving DecidableEq

/-- Where the detector calls `with_openpath_lock`. -/
inductive Purpose
  /-- A marker that is over is found at the start. -/
  | expiredAtStart
  | authenticated
  | portal
  /-- `refresh_portal_mode_expiry` closes the mode. -/
  | capReached
  /-- `close_expired_portal_mode`, after an observation. -/
  | expired (state : NetworkState)
  deriving DecidableEq

def Purpose.start : Purpose → Task
  | .portal => .enter .backUp
  | _ => .exit .restore

/-- Where the detector is. -/
inductive Place
  | stopped
  | starting
  | polling
  /-- It calls `refresh_portal_mode_expiry`. -/
  | refreshing
  /-- It is about to write the marker. -/
  | extending (startTs : Nat) (monoStart : Option Nat)
  /-- It has acted on an observation. -/
  | settling (state : NetworkState)
  | calling (purpose : Purpose)
  | asleep (wakeAt : Nat)
  deriving DecidableEq

structure Detector where
  place : Place
  /-- `CAPTIVE_PORTAL_DETECTED` -/
  detected : Bool
  deriving DecidableEq

structure State where
  host : Host
  /-- `$CAPTIVE_PORTAL_COOLDOWN_FILE` -/
  cooldown : Option Nat
  elapsed : Nat
  detector : Detector
  /-- The watchdog waits for the lock or holds it. -/
  watchdogCalls : Bool
  holder : Option (Party × Task)
  /-- Since when the firewall is relaxed for a portal and no exit has activated it. -/
  openSince : Option Nat
  deriving DecidableEq

/-- What a step finds. -/
structure Surroundings where
  chance : Chance := .done
  wall : Nat
  uptimeReadable : Bool := true
  upstream : Text := []
  network : NetworkState := .noNetwork

inductive Label
  | tick (seconds : Nat)
  /-- systemd starts the detector. -/
  | start
  /-- A step of the detector outside of the lock. -/
  | detector (surroundings : Surroundings)
  /-- A run of the watchdog. -/
  | watchdog (surroundings : Surroundings)
  | acquire (party : Party)
  | giveUp (party : Party)
  /-- The holder of the lock makes its next step. -/
  | step (surroundings : Surroundings)
  | die (party : Party)

def State.clock (s : State) (surroundings : Surroundings) : Clock where
  wall := surroundings.wall
  uptime := if surroundings.uptimeReadable then some s.elapsed else none

def State.env (s : State) (surroundings : Surroundings) : Env where
  chance := surroundings.chance
  clock := s.clock surroundings
  upstream := surroundings.upstream

def State.sleep (settings : DetectorSettings) (s : State) (state : NetworkState) : State :=
  { s with
    detector := { s.detector with place := .asleep (s.elapsed + settings.interval state) } }

def State.goTo (s : State) (place : Place) : State :=
  { s with detector := { s.detector with place } }

/-- The detector records the close and goes on to the lock. -/
def State.close (s : State) (surroundings : Surroundings) (purpose : Purpose) : State :=
  { s with
    cooldown := recordPortalReentryCooldown surroundings.chance (s.clock surroundings) s.cooldown
    detector := { s.detector with place := .calling purpose } }

/-- What the detector does after its call. -/
def State.returned (settings : DetectorSettings) (s : State) (succeeded : Bool) :
    Purpose → State
  | .expiredAtStart =>
      { s with detector := { place := .polling, detected := !succeeded } }
  | .authenticated =>
      { s with
        detector :=
          { place := .settling .authenticated, detected := s.detector.detected && !succeeded } }
  | .portal =>
      { s with
        detector := { place := .settling .portal, detected := s.detector.detected || succeeded } }
  | .capReached => s.goTo (.settling .portal)
  | .expired state =>
      { s with detector := { s.detector with detected := s.detector.detected && !succeeded } }.sleep
        settings state

/-- The detector acts on what it has observed. -/
def State.poll (settings : DetectorSettings) (s : State) (surroundings : Surroundings) : State :=
  let observation :=
    updateCaptivePortalObservation surroundings.chance surroundings.network s.host.observation
  let s := { s with host := { s.host with observation } }
  match surroundings.network with
  | .authenticated =>
      if (s.detector.detected || s.host.marker.isSome) &&
          shouldExitPortalMode settings observation then s.goTo (.calling .authenticated)
      else s.goTo (.settling .authenticated)
  | .portal =>
      if !s.detector.detected && s.host.marker.isNone then
        if shouldEnterPortalMode settings (s.clock surroundings) s.cooldown observation then
          s.goTo (.calling .portal)
        else s.goTo (.settling .portal)
      else if s.host.marker.isSome then s.goTo .refreshing
      else s.goTo (.settling .portal)
  | .noNetwork => s.goTo (.settling .noNetwork)

/-- A step of the detector outside of the lock. -/
def State.stepDetector (settings : DetectorSettings) (s : State) (surroundings : Surroundings) :
    Place → Option State
  | .stopped => none
  | .starting =>
      if isPortalModeExpired (s.clock surroundings) s.host.marker then
        some (s.close surroundings .expiredAtStart)
      else some { s with detector := { place := .polling, detected := s.host.marker.isSome } }
  | .polling => some (s.poll settings surroundings)
  | .refreshing =>
      match refreshPortalModeExpiry settings.toSettings (s.clock surroundings) s.host.marker with
      | .notActive => some (s.goTo (.settling .portal))
      | .close => some (s.close surroundings .capReached)
      | .extend startTs monoStart => some (s.goTo (.extending startTs monoStart))
  | .extending startTs monoStart =>
      let marker := writePortalModeMarker settings.toSettings surroundings.chance
        (s.clock surroundings) s.host.marker startTs monoStart
      some { s.goTo (.settling .portal) with host := { s.host with marker } }
  | .settling state =>
      if state ≠ .portal && isPortalModeExpired (s.clock surroundings) s.host.marker then
        some (s.close surroundings (.expired state))
      else some (s.sleep settings state)
  | .calling _ => none
  -- A change of the network wakes it early.
  | .asleep _ => some (s.goTo .polling)

/-- A process that holds the lock. -/
def State.holds (s : State) (party : Party) : Bool :=
  s.holder.any fun holder => holder.1 = party

/-- A call of a process ends. -/
def State.finish (settings : DetectorSettings) (s : State) (succeeded : Bool) : Party → State
  | .detector =>
      match s.detector.place with
      | .calling purpose => s.returned settings succeeded purpose
      | _ => s
  | .watchdog => { s with watchdogCalls := false }

/-- The task of a process that goes to the lock. -/
def State.call (s : State) : Party → Option Task
  | .detector =>
      match s.detector.place with
      | .calling purpose => some purpose.start
      | _ => none
  | .watchdog => if s.watchdogCalls then some (.exit .restore) else none

def State.stepTask (settings : DetectorSettings) (s : State) (surroundings : Surroundings)
    (party : Party) : Task → State
  | .enter step =>
      let ran := step.run settings.toSettings (s.env surroundings) s.host
      let after :=
        { s with
          host := ran.1
          openSince := if step = EnterStep.relax then s.openSince.or (some s.elapsed) else s.openSince }
      match ran.2 with
      | some next => { after with holder := some (party, .enter next) }
      | none => { after with holder := none }.finish settings true party
  | .exit step =>
      let ran := step.run (s.env surroundings) s.host
      match ran.2 with
      | some next => { s with host := ran.1, holder := some (party, .exit next) }
      | none =>
          { s with
            host := ran.1
            holder := none
            openSince := if surroundings.chance = Chance.done then none else s.openSince }.finish
            settings true party

def State.step (settings : DetectorSettings) (s : State) : Label → Option State
  | .tick seconds =>
      -- A sleep ends in time.
      match s.detector.place with
      | .asleep wakeAt =>
          if s.elapsed + seconds ≤ wakeAt then some { s with elapsed := s.elapsed + seconds }
          else none
      | _ => some { s with elapsed := s.elapsed + seconds }
  | .start =>
      if s.detector.place = .stopped then
        some { s with detector := { place := .starting, detected := false } }
      else none
  | .detector surroundings => s.stepDetector settings surroundings s.detector.place
  | .watchdog surroundings =>
      if s.watchdogCalls then none
      else if isPortalModeExpired (s.clock surroundings) s.host.marker then
        some
          { s with
            cooldown :=
              recordPortalReentryCooldown surroundings.chance (s.clock surroundings) s.cooldown
            watchdogCalls := true }
      else some s
  | .acquire party =>
      if s.holder = none then
        (s.call party).map fun task => { s with holder := some (party, task) }
      else none
  | .giveUp party =>
      if s.holds party || s.call party = none then none
      else some (s.finish settings false party)
  | .step surroundings =>
      s.holder.map fun holder => s.stepTask settings surroundings holder.1 holder.2
  | .die party =>
      let s := { s with holder := s.holder.filter fun holder => holder.1 ≠ party }
      match party with
      | .detector => some { s with detector := { place := .stopped, detected := false } }
      | .watchdog => some { s with watchdogCalls := false }

/-- No process runs, and there is no portal. -/
structure Starts (s : State) : Prop where
  detector : s.detector.place = .stopped
  watchdog : s.watchdogCalls = false
  holder : s.holder = none
  openSince : s.openSince = none
  firewall : s.host.firewall ≠ .permissive

def system (settings : DetectorSettings) : TransitionSystem State Label :=
  ofPartial Starts (State.step settings)

end Lifetime

end OpenPath.Linux.CaptivePortal
