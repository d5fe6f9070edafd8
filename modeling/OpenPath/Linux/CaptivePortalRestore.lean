/-
# Entering and leaving the captive portal mode

Three processes rewrite the DNS configuration: the detector enters and leaves the
portal mode, the watchdog leaves it when the deadline of the marker is over, and
`openpath-runtime-dependency-apply.sh` generates the configuration anew when a page
has found a dependency. `with_openpath_lock` lets one of them in at a time; a process
that waits for too long gives up, and one that dies leaves the lock and whatever it has
done so far.

A session goes from the first enter to the end of the next exit. What was in force
before it is kept beside the state for the statements; no step reads it.
-/

import OpenPath.Foundation.Transition
import OpenPath.Linux.CaptivePortal
import OpenPath.Linux.DnsmasqDecision

namespace OpenPath.Linux.CaptivePortal.Restore

open Foundation TransitionSystem Dnsmasq

/-! ## Runtime dependencies -/

/-- What `generate_dnsmasq_config` is called with: the settings of the agent and the
policy, and the domains that the overlay prints. -/
structure Generation where
  settings : DnsmasqSettings
  config : ControlPlaneConfig
  runtimeDependencyDomains : List Text
  policy : Policy.Sections

def Generation.text (generation : Generation) : Text :=
  generateDnsmasqConfig generation.settings generation.config generation.runtimeDependencyDomains
    generation.policy

inductive ApplyStep
  /-- `generate_dnsmasq_config` moves the new file into its place. -/
  | generate
  | restart
  | recordHash
  deriving DecidableEq

/-- What a step of the application finds: the policy, where there is a whitelist, and
the digest of the file that it generates. -/
structure ApplyEnv where
  chance : Chance := .done
  generation : Option Generation := none
  sha256sum : Text → Text

/-- A step of `run_runtime_dependency_apply_locked`, with what comes after it. -/
def ApplyStep.run (env : ApplyEnv) (host : Host) : ApplyStep → Host × Option ApplyStep
  | .generate =>
      match env.generation with
      | none => (host, none)
      | some generation =>
          if env.chance = .done then
            ({ host with config := some generation.text },
              -- `has_config_changed`
              if host.configHash = some (env.sha256sum generation.text) then none
              else some .restart)
          else (host, none)
  | .restart =>
      (host.restartDnsmasq env.chance, if env.chance = .done then some .recordHash else none)
  | .recordHash =>
      ({ host with
          configHash :=
            env.chance.written host.configHash ((host.config.map env.sha256sum).getD []) }, none)

/-! ## Processes -/

inductive Party
  | detector
  | watchdog
  | dependencyApply
  deriving DecidableEq

inductive Call
  | enter
  | exit
  | apply
  deriving DecidableEq

/-- Who calls what. -/
def Party.calls : Party → Call → Bool
  | .detector, .enter | .detector, .exit => true
  | .watchdog, .exit => true
  | .dependencyApply, .apply => true
  | _, _ => false

/-- The next step of the process that holds the lock. -/
inductive Task
  | enter (step : EnterStep)
  | exit (step : ExitStep)
  | apply (step : ApplyStep)
  deriving DecidableEq

def Call.start : Call → Task
  | .enter => .enter .backUp
  | .exit => .exit .restore
  | .apply => .apply .generate

/-- What was in force before a session, or came after it with a newer policy. -/
structure Saved where
  /-- The file that was in place, or that of the newest policy. -/
  config : Option Text
  /-- What dnsmasq ran with, the file that was in place, and those of newer policies. -/
  served : List Resolver
  firewall : FirewallMode
  deriving DecidableEq

structure State where
  host : Host
  waiting : List (Party × Call)
  holder : Option (Party × Task)
  session : Option Saved
  deriving DecidableEq

inductive Label
  /-- A process goes on to `with_openpath_lock`. -/
  | call (party : Party) (call : Call)
  | acquire (party : Party)
  | giveUp (party : Party)
  /-- The holder of the lock makes its next step. -/
  | step (env : Env) (apply : ApplyEnv)
  | die (party : Party)

/-- The process is in none of its calls. -/
def State.isIdle (s : State) (party : Party) : Bool :=
  s.waiting.all (·.1 ≠ party) && s.holder.all (·.1 ≠ party)

/-- What is in force. -/
def inForce (host : Host) : Saved where
  config := host.config
  served := [host.running, .serving host.config]
  firewall := host.firewall

/-- The lock goes to a process. The first enter of a session opens it. -/
def State.acquire (s : State) (party : Party) (call : Call) : State :=
  { s with
    waiting := s.waiting.filter (·.1 ≠ party)
    holder := some (party, call.start)
    session := if call = .enter then s.session.or (some (inForce s.host)) else s.session }

/-- What a newer policy brings into force. -/
def Saved.renew (saved : Saved) (config : Option Text) : Saved :=
  { saved with config, served := .serving config :: saved.served }

def State.stepTask (settings : Settings) (s : State) (env : Env) (apply : ApplyEnv)
    (party : Party) : Task → State
  | .enter step =>
      { s with
        host := (step.run settings env s.host).1
        holder := (step.run settings env s.host).2.map fun next => (party, .enter next) }
  | .exit step =>
      { s with
        host := (step.run env s.host).1
        holder := (step.run env s.host).2.map fun next => (party, .exit next)
        session := if (step.run env s.host).2 = none then none else s.session }
  | .apply step =>
      { s with
        host := (step.run apply s.host).1
        holder := (step.run apply s.host).2.map fun next => (party, .apply next)
        session :=
          if (step.run apply s.host).1.config = s.host.config then s.session
          else s.session.map fun saved => saved.renew (step.run apply s.host).1.config }

/-- The detector looks for the marker before it asks for the lock to enter. What else
has to hold before a call depends on the network and on the clock. -/
def State.step (settings : Settings) (s : State) : Label → Option State
  | .call party call =>
      if party.calls call && s.isIdle party && !(call = .enter && s.host.marker.isSome) then
        some { s with waiting := s.waiting ++ [(party, call)] }
      else none
  | .acquire party =>
      if s.holder = none then (s.waiting.lookup party).map (s.acquire party) else none
  | .giveUp party => some { s with waiting := s.waiting.filter (·.1 ≠ party) }
  | .step env apply => s.holder.map fun holder => s.stepTask settings env apply holder.1 holder.2
  | .die party =>
      some
        { s with
          waiting := s.waiting.filter (·.1 ≠ party)
          holder := s.holder.filter (·.1 ≠ party) }

/-- No process runs, and nothing of a portal is left. -/
structure Starts (s : State) : Prop where
  waiting : s.waiting = []
  holder : s.holder = none
  session : s.session = none
  config : holdsPortalConfig s.host.config = false
  backup : holdsPortalConfig s.host.backup = false

def system (settings : Settings) : TransitionSystem State Label :=
  ofPartial Starts (State.step settings)

/-! ## What a step keeps -/

/-- The holder of the lock completes an exit. -/
def State.completesExit (s : State) : Label → Bool
  | .step _ _ =>
      match s.holder with
      | some (_, .exit .activate) => true
      | _ => false
  | _ => false

/-- The holder of the lock is another writer than the portal mode. -/
def State.appliesDependencies (s : State) : Bool :=
  match s.holder with
  | some (_, .apply _) => true
  | _ => false

/-- While the marker is there, no other writer replaces the file of the portal mode; the
exit that ends a session leaves what was in force before it, or a newer policy; and the
backup is never the file of the portal mode. -/
structure Kept (s : State) (label : Label) (s' : State) : Prop where
  passthrough : s.appliesDependencies = true → s.host.marker.isSome = true →
    holdsPortalConfig s.host.config = true → s'.host.config = s.host.config
  restored : ∀ saved, s.session = some saved → s.completesExit label = true →
    s'.host.config = saved.config ∧ s'.host.running ∈ saved.served ∧
      s'.host.firewall = saved.firewall
  backup : holdsPortalConfig s'.host.backup = false

/-- dnsmasq serves what was in force before the session, or a newer policy. -/
def settled (host : Host) (session : Option Saved) : Bool :=
  session.all fun saved => saved.served.contains host.running

/-- A step of enter goes well. -/
def soundEnter (host : Host) (env : Env) : EnterStep → Bool
  -- The file of the portal mode is not in place, left by an enter that was cut off.
  | .backUp => !holdsPortalConfig host.config
  -- The file that is replaced is in the backup, and the new one is not cut short.
  | .writePassthrough =>
      env.upstream = [] || env.chance = .refused ||
        (host.config.isSome && host.backup = host.config &&
          holdsPortalConfig (env.chance.written host.config (passthroughConfig env.upstream)))
  -- The backup is that of this session, and the copy is not cut short.
  | .restore =>
      env.chance = .refused ||
        ((holdsPortalConfig host.config || host.backup = host.config) &&
          host.backup.all fun content => env.chance.written host.config content = some content)
  | .restart | .restartRestored | .relax | .mark => true

/-- A step of exit goes well. -/
def soundExit (host : Host) (session : Option Saved) (env : Env) : ExitStep → Bool
  -- The copy is not cut short; where there is none to make, dnsmasq runs as it should.
  | .restore =>
      if holdsPortalConfig host.config then
        env.chance = .refused ||
          host.backup.all fun content => env.chance.written host.config content = some content
      else settled host session
  -- dnsmasq comes back with the file that was copied.
  | .restart =>
      holdsPortalConfig host.config || env.chance.loads ||
        (env.chance = .refused && settled host session)
  -- The copy was made.
  | .dropBackup => !holdsPortalConfig host.config
  | .dropMarker | .resetObservation => true
  -- The rules are set.
  | .activate => session.isNone || activateFirewall env.chance host.firewall = .restrictive

/-- No dependency is applied while the file of the portal mode is in place and the marker
is there; a session begins with the firewall restrictive; and the steps of the calls go
well. -/
def sound (s : State) : Label → Bool
  | .acquire party =>
      !(s.waiting.lookup party = some .enter && s.session.isNone) ||
        s.host.firewall = .restrictive
  | .step env _ =>
      match s.holder with
      | some (_, .enter step) => soundEnter s.host env step
      | some (_, .exit step) => soundExit s.host s.session env step
      | some (_, .apply .generate) =>
          !(s.host.marker.isSome && holdsPortalConfig s.host.config)
      | _ => true
  | _ => true

/-! ## The invariant -/

/-- What holds of a session on the machine. -/
structure SessionKept (host : Host) (saved : Saved) : Prop where
  plain : holdsPortalConfig saved.config = false
  firewall : saved.firewall = .restrictive
  served : Resolver.serving saved.config ∈ saved.served
  inPlace : holdsPortalConfig host.config = false → host.config = saved.config
  backedUp : holdsPortalConfig host.config = true →
    host.backup = saved.config ∧ saved.config.isSome = true
  running : host.running = .down ∨
    (∃ config, host.running = .serving config ∧ holdsPortalConfig config = true) ∨
      host.running ∈ saved.served

structure Core (host : Host) (session : Option Saved) : Prop where
  backup : holdsPortalConfig host.backup = false
  closed : session = none → holdsPortalConfig host.config = false
  kept : ∀ saved, session = some saved → SessionKept host saved

/-- What the holder of the lock knows before its next step. -/
def Knows (host : Host) (session : Option Saved) : Task → Prop
  | .enter .writePassthrough => session.isSome = true ∧ holdsPortalConfig host.config = false
  | .enter _ => session.isSome = true
  | .exit .dropBackup => holdsPortalConfig host.config = true ∨ settled host session = true
  | .exit .dropMarker | .exit .resetObservation | .exit .activate =>
      holdsPortalConfig host.config = false ∧ settled host session = true
  | .exit .restore | .exit .restart | .apply _ => True

structure Inv (s : State) : Prop where
  core : Core s.host s.session
  knows : ∀ party task, s.holder = some (party, task) → Knows s.host s.session task

section Steps

variable {host : Host} {session : Option Saved} {settings : Settings} {env : Env}

theorem holdsPortalConfig_written {chance : Chance} {file : Option Text} {content : Text}
    (hfile : holdsPortalConfig file = false) (hcontent : isPortalConfig content = false) :
    holdsPortalConfig (chance.written file content) = false := by
  cases chance with
  | refused => exact hfile
  | cut length => exact isPortalConfig_take hcontent length
  | done | down | late => exact hcontent

section

variable (hcore : Core host session)
include hcore

theorem Core.restart (chance : Chance) : Core (host.restartDnsmasq chance) session := by
  have hloaded : Core { host with running := .serving host.config } session := by
    refine ⟨hcore.backup, hcore.closed, fun saved hsaved => ?_⟩
    have hkept := hcore.kept saved hsaved
    refine ⟨hkept.plain, hkept.firewall, hkept.served, hkept.inPlace, hkept.backedUp, Or.inr ?_⟩
    by_cases hportal : holdsPortalConfig host.config = true
    · exact Or.inl ⟨host.config, rfl, hportal⟩
    · right
      rw [hkept.inPlace (Bool.eq_false_iff.mpr hportal)]
      exact hkept.served
  have hdown : Core { host with running := .down } session := by
    refine ⟨hcore.backup, hcore.closed, fun saved hsaved => ?_⟩
    have hkept := hcore.kept saved hsaved
    exact ⟨hkept.plain, hkept.firewall, hkept.served, hkept.inPlace, hkept.backedUp, Or.inl rfl⟩
  cases chance with
  | done | late => exact hloaded
  | refused => exact hcore
  | cut length | down => exact hdown

/-- The backup may change while the file of the portal mode is not in place. -/
theorem Core.setBackup (hconfig : holdsPortalConfig host.config = false) {backup : Option Text}
    (hbackup : holdsPortalConfig backup = false) : Core { host with backup } session := by
  refine ⟨hbackup, hcore.closed, fun saved hsaved => ?_⟩
  have hkept := hcore.kept saved hsaved
  refine ⟨hkept.plain, hkept.firewall, hkept.served, hkept.inPlace, fun hportal => ?_,
    hkept.running⟩
  rw [hconfig] at hportal
  cases hportal

/-- The file of the portal mode comes into the place of the one in the backup. -/
theorem Core.openPortal (hsession : session.isSome = true)
    (hconfig : holdsPortalConfig host.config = false) (hthere : host.config.isSome = true)
    (hbackup : host.backup = host.config) {config : Option Text}
    (hportal : holdsPortalConfig config = true) : Core { host with config } session := by
  refine ⟨hcore.backup, fun hnone => ?_, fun saved hsaved => ?_⟩
  · rw [hnone] at hsession
    cases hsession
  · have hkept := hcore.kept saved hsaved
    have hplace := hkept.inPlace hconfig
    refine ⟨hkept.plain, hkept.firewall, hkept.served, fun hplain => ?_,
      fun _ => ⟨hbackup.trans hplace, hplace ▸ hthere⟩, hkept.running⟩
    rw [hportal] at hplain
    cases hplain

theorem Core.putBack (hsaved : holdsPortalConfig host.config = true ∨ host.backup = host.config) :
    Core { host with config := host.backup } session ∧
      holdsPortalConfig host.backup = false := by
  refine ⟨⟨hcore.backup, fun _ => hcore.backup, fun saved hsession => ?_⟩, hcore.backup⟩
  have hkept := hcore.kept saved hsession
  have hback : host.backup = saved.config := by
    rcases hsaved with hportal | hsame
    · exact (hkept.backedUp hportal).1
    · rw [hsame]
      exact hkept.inPlace (hsame ▸ hcore.backup)
  refine ⟨hkept.plain, hkept.firewall, hkept.served, fun _ => hback, fun hportal => ?_,
    hkept.running⟩
  rw [hcore.backup] at hportal
  cases hportal

/-- What neither changes the files nor the service. -/
theorem Core.frame {other : Host} (hconfig : other.config = host.config)
    (hbackup : other.backup = host.backup) (hrunning : other.running = host.running) :
    Core other session := by
  refine ⟨hbackup ▸ hcore.backup, hconfig ▸ hcore.closed, fun saved hsaved => ?_⟩
  have hkept := hcore.kept saved hsaved
  refine ⟨hkept.plain, hkept.firewall, hkept.served, ?_, ?_, hrunning ▸ hkept.running⟩
  · rw [hconfig]
    exact hkept.inPlace
  · rw [hconfig, hbackup]
    exact hkept.backedUp

end

theorem written_refused {chance : Chance} (hrefused : chance = .refused) (file : Option Text)
    (content : Text) : chance.written file content = file := by
  rw [hrefused]
  rfl

theorem Core.enter {step : EnterStep} (hcore : Core host session)
    (hknows : Knows host session (.enter step)) (hsound : soundEnter host env step = true) :
    Core (step.run settings env host).1 session := by
  cases step with
  | backUp =>
      have hconfig : holdsPortalConfig host.config = false := by simpa [soundEnter] using hsound
      rw [EnterStep.run]
      split
      · exact hcore
      · rename_i content hcontent
        refine hcore.setBackup hconfig (holdsPortalConfig_written hcore.backup ?_)
        rwa [hcontent] at hconfig
  | writePassthrough =>
      obtain ⟨hsession, hconfig⟩ := hknows
      rw [EnterStep.run]
      split
      · exact hcore
      · rename_i hupstream
        by_cases hrefused : env.chance = .refused
        · exact hcore.frame (written_refused hrefused _ _) rfl rfl
        · simp only [soundEnter, hupstream, hrefused, decide_false, Bool.false_or,
            Bool.and_eq_true, decide_eq_true_eq] at hsound
          obtain ⟨⟨hthere, hbackup⟩, hportal⟩ := hsound
          exact hcore.openPortal hsession hconfig hthere hbackup hportal
  | restart =>
      rw [EnterStep.run]
      split
      · exact hcore.restart env.chance
      split
      · exact hcore.restart env.chance
      · exact hcore.restart env.chance
  | restore =>
      rw [EnterStep.run]
      split
      · exact hcore
      · rename_i content hcontent
        by_cases hrefused : env.chance = .refused
        · exact hcore.frame (written_refused hrefused _ _) rfl rfl
        · simp only [soundEnter, hrefused, hcontent, decide_false, Bool.false_or,
            Bool.and_eq_true, Bool.or_eq_true, decide_eq_true_eq, Option.all_some] at hsound
          rw [hsound.2, ← hcontent]
          exact (hcore.putBack (hcontent ▸ hsound.1)).1
  | restartRestored => exact hcore.restart env.chance
  | relax =>
      rw [EnterStep.run]
      split
      · exact hcore.frame rfl rfl rfl
      · exact hcore.frame rfl rfl rfl
  | mark => exact hcore.frame rfl rfl rfl

theorem Knows.session_isSome {step : EnterStep} (hknows : Knows host session (.enter step)) :
    session.isSome = true := by
  cases step with
  | writePassthrough => exact hknows.1
  | backUp | restart | restore | restartRestored | relax | mark => exact hknows

theorem knows_enter {step next : EnterStep} (hknows : Knows host session (.enter step))
    (hsound : soundEnter host env step = true)
    (hnext : (step.run settings env host).2 = some next) :
    Knows (step.run settings env host).1 session (.enter next) := by
  have hsession := hknows.session_isSome
  cases step with
  | backUp =>
      have hconfig : holdsPortalConfig host.config = false := by simpa [soundEnter] using hsound
      rw [EnterStep.run] at hnext ⊢
      split at hnext
      · cases hnext
        exact ⟨hsession, hconfig⟩
      · cases hnext
        exact ⟨hsession, hconfig⟩
  | writePassthrough =>
      rw [EnterStep.run] at hnext
      split at hnext <;> (cases hnext; exact hsession)
  | restart =>
      rw [EnterStep.run] at hnext
      split at hnext
      · cases hnext
        exact hsession
      split at hnext <;> (cases hnext; exact hsession)
  | restore =>
      rw [EnterStep.run] at hnext
      split at hnext <;> (cases hnext; exact hsession)
  | restartRestored =>
      cases hnext
      exact hsession
  | relax =>
      rw [EnterStep.run] at hnext
      split at hnext <;> (cases hnext; exact hsession)
  | mark => cases hnext

theorem Core.exit {step : ExitStep} (hcore : Core host session)
    (hknows : Knows host session (.exit step)) (hsound : soundExit host session env step = true) :
    Core (step.run env host).1 session := by
  cases step with
  | restore =>
      rw [ExitStep.run]
      split
      · exact hcore
      · rename_i content hcontent
        split
        · rename_i hportal
          by_cases hrefused : env.chance = .refused
          · exact hcore.frame (written_refused hrefused _ _) rfl rfl
          · simp only [soundExit, hportal, if_true, hrefused, hcontent, decide_false,
              Bool.false_or, decide_eq_true_eq, Option.all_some] at hsound
            rw [hsound, ← hcontent]
            exact (hcore.putBack (.inl hportal)).1
        · exact hcore
  | restart => exact hcore.restart env.chance
  | dropBackup =>
      have hconfig : holdsPortalConfig host.config = false := by simpa [soundExit] using hsound
      refine hcore.setBackup hconfig ?_
      rw [Chance.removed]
      split
      · rfl
      · exact hcore.backup
  | dropMarker => exact hcore.frame rfl rfl rfl
  | resetObservation =>
      rw [ExitStep.run]
      split
      · exact hcore
      · exact hcore.frame rfl rfl rfl
  | activate => exact hcore.frame rfl rfl rfl

theorem settled_iff : settled host session = true ↔
    ∀ saved, session = some saved → host.running ∈ saved.served := by
  cases session with
  | none => simp [settled]
  | some saved => simp [settled]

/-- dnsmasq comes back with the file that was copied, or was not touched. -/
theorem Core.settled_restart (hcore : Core host session)
    (hconfig : holdsPortalConfig host.config = false)
    (hsound : env.chance.loads = true ∨ (env.chance = .refused ∧ settled host session = true)) :
    settled (host.restartDnsmasq env.chance) session = true := by
  have hloaded : settled { host with running := .serving host.config } session = true := by
    refine settled_iff.mpr fun saved hsaved => ?_
    have hkept := hcore.kept saved hsaved
    simpa only [hkept.inPlace hconfig] using hkept.served
  rcases hsound with hloads | ⟨hrefused, hsettled⟩
  · cases hchance : env.chance with
    | done | late => exact hloaded
    | refused | cut length | down =>
        rw [hchance] at hloads
        cases hloads
  · rw [hrefused]
    exact hsettled

theorem knows_exit {step next : ExitStep} (hcore : Core host session)
    (hknows : Knows host session (.exit step)) (hsound : soundExit host session env step = true)
    (hnext : (step.run env host).2 = some next) :
    Knows (step.run env host).1 session (.exit next) := by
  cases step with
  | restore =>
      have hskip : holdsPortalConfig host.config = true ∨ settled host session = true := by
        by_cases hportal : holdsPortalConfig host.config = true
        · exact Or.inl hportal
        · rw [soundExit, if_neg hportal] at hsound
          exact Or.inr hsound
      cases hbackup : host.backup with
      | none =>
          simp only [ExitStep.run, hbackup, Option.some.injEq] at hnext ⊢
          subst hnext
          exact hskip
      | some content =>
          by_cases hportal : holdsPortalConfig host.config = true
          · simp only [ExitStep.run, hbackup, hportal, if_true, Option.some.injEq] at hnext
            subst hnext
            exact trivial
          · simp only [ExitStep.run, hbackup, hportal, if_false, Option.some.injEq,
              Bool.false_eq_true] at hnext ⊢
            subst hnext
            exact hskip
  | restart =>
      cases hnext
      by_cases hportal : holdsPortalConfig (host.restartDnsmasq env.chance).config = true
      · exact Or.inl hportal
      · have hsame : (host.restartDnsmasq env.chance).config = host.config := by
          cases env.chance <;> rfl
        rw [hsame] at hportal
        simp only [soundExit, hportal, Bool.false_or, Bool.or_eq_true, Bool.and_eq_true,
          decide_eq_true_eq] at hsound
        exact Or.inr (hcore.settled_restart (Bool.eq_false_iff.mpr hportal) hsound)
  | dropBackup =>
      cases hnext
      have hconfig : holdsPortalConfig host.config = false := by simpa [soundExit] using hsound
      refine ⟨hconfig, hknows.resolve_left ?_⟩
      rw [hconfig]
      exact Bool.false_ne_true
  | dropMarker =>
      cases hnext
      exact hknows
  | resetObservation =>
      by_cases hrefused : env.chance = .refused
      · simp only [ExitStep.run, hrefused, if_true, Option.some.injEq] at hnext ⊢
        subst hnext
        exact hknows
      · simp only [ExitStep.run, hrefused, if_false, Option.some.injEq] at hnext ⊢
        subst hnext
        exact hknows
  | activate => cases hnext

theorem Core.renew (hcore : Core host session) {config : Option Text}
    (hplain : holdsPortalConfig config = false) :
    Core { host with config } (session.map fun saved => saved.renew config) := by
  refine ⟨hcore.backup, fun _ => hplain, fun renewed hrenewed => ?_⟩
  obtain ⟨saved, hsaved, rfl⟩ := Option.map_eq_some_iff.mp hrenewed
  have hkept := hcore.kept saved hsaved
  refine ⟨hplain, hkept.firewall, List.mem_cons_self, fun _ => rfl, fun hportal => ?_,
    hkept.running.imp_right fun h => h.imp_right (List.mem_cons_of_mem _)⟩
  rw [hplain] at hportal
  cases hportal

theorem config_restart (host : Host) (chance : Chance) :
    (host.restartDnsmasq chance).config = host.config := by
  cases chance <;> rfl

/-- The application leaves the machine as it was, or puts a generated file in its
place. -/
theorem generate_cases (env : ApplyEnv) (host : Host) :
    (ApplyStep.generate.run env host).1 = host ∨
      ∃ content, isPortalConfig content = false ∧
        (ApplyStep.generate.run env host).1 = { host with config := some content } := by
  cases hgeneration : env.generation with
  | none =>
      left
      simp only [ApplyStep.run, hgeneration]
  | some generation =>
      by_cases hdone : env.chance = .done
      · right
        simp only [ApplyStep.run, hgeneration, hdone, if_true]
        exact ⟨generation.text, isPortalConfig_generateDnsmasqConfig _ _ _ _, rfl⟩
      · left
        simp only [ApplyStep.run, hgeneration, hdone, if_false]

theorem Core.apply {env : ApplyEnv} {step : ApplyStep} (hcore : Core host session) :
    Core (step.run env host).1
      (if (step.run env host).1.config = host.config then session
        else session.map fun saved => saved.renew (step.run env host).1.config) := by
  cases step with
  | generate =>
      rcases generate_cases env host with hrun | ⟨content, hplain, hrun⟩
      · rw [hrun, if_pos rfl]
        exact hcore
      · rw [hrun]
        split
        · rename_i hsame
          exact hcore.frame hsame rfl rfl
        · exact hcore.renew hplain
  | restart =>
      rw [ApplyStep.run, if_pos (config_restart host env.chance)]
      exact hcore.restart env.chance
  | recordHash =>
      rw [ApplyStep.run, if_pos rfl]
      exact hcore.frame rfl rfl rfl

end Steps

section Invariant

variable {settings : Settings} {s s' : State} {env : Env} {applyEnv : ApplyEnv} {party : Party}
  {label : Label}

theorem Inv.enter {step : EnterStep} (inv : Inv s) (hholder : s.holder = some (party, .enter step))
    (hsound : soundEnter s.host env step = true) :
    Inv (s.stepTask settings env applyEnv party (.enter step)) := by
  have hknows := inv.knows party _ hholder
  refine ⟨inv.core.enter hknows hsound, fun other task hafter => ?_⟩
  obtain ⟨next, hnext, htask⟩ := Option.map_eq_some_iff.mp hafter
  cases htask
  exact knows_enter hknows hsound hnext

theorem eq_activate_of_run {step : ExitStep} {host : Host} (hdone : (step.run env host).2 = none) :
    step = .activate := by
  cases step with
  | activate => rfl
  | restore =>
      rw [ExitStep.run] at hdone
      split at hdone
      · cases hdone
      split at hdone <;> cases hdone
  | resetObservation =>
      rw [ExitStep.run] at hdone
      split at hdone <;> cases hdone
  | restart | dropBackup | dropMarker => cases hdone

theorem Inv.exit {step : ExitStep} (inv : Inv s) (hholder : s.holder = some (party, .exit step))
    (hsound : soundExit s.host s.session env step = true) :
    Inv (s.stepTask settings env applyEnv party (.exit step)) := by
  have hknows := inv.knows party _ hholder
  have hcore := inv.core.exit hknows hsound
  by_cases hdone : (step.run env s.host).2 = none
  · obtain rfl := eq_activate_of_run hdone
    refine ⟨⟨hcore.backup, fun _ => hknows.1, fun saved hsaved => ?_⟩, fun other task hafter => ?_⟩
    · cases hsaved
    · cases hafter
  · rw [State.stepTask, if_neg hdone]
    refine ⟨hcore, fun other task hafter => ?_⟩
    obtain ⟨next, hnext, htask⟩ := Option.map_eq_some_iff.mp hafter
    cases htask
    exact knows_exit inv.core hknows hsound hnext

theorem Inv.apply {step : ApplyStep} (inv : Inv s) :
    Inv (s.stepTask settings env applyEnv party (.apply step)) := by
  refine ⟨inv.core.apply, fun other task hafter => ?_⟩
  obtain ⟨next, -, htask⟩ := Option.map_eq_some_iff.mp hafter
  cases htask
  exact trivial

theorem Inv.acquire {call : Call} (inv : Inv s) (hcall : s.waiting.lookup party = some call)
    (hsound : sound s (.acquire party) = true) : Inv (s.acquire party call) := by
  have hcore := inv.core
  by_cases hopens : call = .enter ∧ s.session = none
  · obtain ⟨rfl, hnone⟩ := hopens
    have hfirewall : s.host.firewall = .restrictive := by
      simpa [sound, hcall, hnone] using hsound
    have hplain := hcore.closed hnone
    have hkept : SessionKept s.host (inForce s.host) :=
      { plain := hplain
        firewall := hfirewall
        served := List.mem_cons_of_mem _ List.mem_cons_self
        inPlace := fun _ => rfl
        backedUp := fun hportal => absurd (hplain.symm.trans hportal) Bool.false_ne_true
        running := Or.inr (Or.inr List.mem_cons_self) }
    rw [State.acquire, if_pos rfl, hnone]
    refine ⟨⟨hcore.backup, fun h => (by cases h), fun saved hsaved => ?_⟩, fun other task hafter => ?_⟩
    · cases hsaved
      exact hkept
    · cases hafter
      rfl
  · have hsession : (s.acquire party call).session = s.session := by
      rw [State.acquire]
      split
      · rename_i henter
        cases hopen : s.session with
        | none => exact absurd ⟨henter, hopen⟩ hopens
        | some saved => rfl
      · rfl
    refine ⟨hsession ▸ hcore, fun other task hafter => ?_⟩
    cases hafter
    cases call with
    | enter =>
        rw [hsession, Call.start]
        exact Option.isSome_iff_ne_none.mpr fun hnone => hopens ⟨rfl, hnone⟩
    | exit | apply => exact trivial

theorem Inv.step (inv : Inv s) (hsound : sound s label = true)
    (hstep : s.step settings label = some s') : Inv s' := by
  cases label with
  | call party call =>
      rw [State.step] at hstep
      split at hstep
      · cases hstep
        exact ⟨inv.core, inv.knows⟩
      · cases hstep
  | acquire party =>
      rw [State.step] at hstep
      split at hstep
      · obtain ⟨call, hcall, rfl⟩ := Option.map_eq_some_iff.mp hstep
        exact inv.acquire hcall hsound
      · cases hstep
  | giveUp party =>
      cases hstep
      exact ⟨inv.core, inv.knows⟩
  | step env applyEnv =>
      obtain ⟨⟨party, task⟩, hholder, rfl⟩ := Option.map_eq_some_iff.mp hstep
      cases task with
      | enter step =>
          rw [sound, hholder] at hsound
          exact inv.enter hholder hsound
      | exit step =>
          rw [sound, hholder] at hsound
          exact inv.exit hholder hsound
      | apply step => exact inv.apply
  | die party =>
      cases hstep
      refine ⟨inv.core, fun other task hafter => ?_⟩
      exact inv.knows other task (Option.filter_eq_some_iff.mp hafter).1

theorem inv_of_starts (hstarts : Starts s) : Inv s := by
  refine ⟨⟨hstarts.backup, fun _ => hstarts.config, fun saved hsaved => ?_⟩,
    fun party task hholder => ?_⟩
  · rw [hstarts.session] at hsaved
    cases hsaved
  · rw [hstarts.holder] at hholder
    cases hholder

/-- Only the holder of the lock changes the machine. -/
theorem host_of_step (hlabel : ∀ env applyEnv, label ≠ .step env applyEnv)
    (hstep : s.step settings label = some s') : s'.host = s.host := by
  cases label with
  | step env applyEnv => exact absurd rfl (hlabel env applyEnv)
  | call party call =>
      rw [State.step] at hstep
      split at hstep
      · cases hstep
        rfl
      · cases hstep
  | acquire party =>
      rw [State.step] at hstep
      split at hstep
      · obtain ⟨call, -, rfl⟩ := Option.map_eq_some_iff.mp hstep
        rfl
      · cases hstep
  | giveUp party | die party =>
      cases hstep
      rfl

/-- A dependency that is applied well leaves the file of the portal mode. -/
theorem passthrough_of_step (hsound : sound s label = true)
    (hstep : s.step settings label = some s') (happlies : s.appliesDependencies = true)
    (hmarker : s.host.marker.isSome = true) (hportal : holdsPortalConfig s.host.config = true) :
    s'.host.config = s.host.config := by
  cases label with
  | step env applyEnv =>
      obtain ⟨⟨party, task⟩, hholder, rfl⟩ := Option.map_eq_some_iff.mp hstep
      cases task with
      | enter step | exit step =>
          rw [State.appliesDependencies, hholder] at happlies
          cases happlies
      | apply step =>
          cases step with
          | generate => simp [sound, hholder, hmarker, hportal] at hsound
          | restart => exact config_restart s.host applyEnv.chance
          | recordHash => rfl
  | call party call | acquire party | giveUp party | die party =>
      rw [host_of_step (fun _ _ => Label.noConfusion) hstep]

/-- The end of an exit that goes well. -/
theorem restored_of_step (inv : Inv s) (hsound : sound s label = true)
    (hstep : s.step settings label = some s') {saved : Saved} (hsaved : s.session = some saved)
    (hcompletes : s.completesExit label = true) :
    s'.host.config = saved.config ∧ s'.host.running ∈ saved.served ∧
      s'.host.firewall = saved.firewall := by
  cases label with
  | call party call | acquire party | giveUp party | die party => cases hcompletes
  | step env applyEnv =>
      obtain ⟨⟨party, task⟩, hholder, rfl⟩ := Option.map_eq_some_iff.mp hstep
      obtain rfl : task = .exit .activate := by
        rw [State.completesExit, hholder] at hcompletes
        split at hcompletes
        · rename_i htask
          cases htask
          rfl
        · cases hcompletes
      obtain ⟨hplain, hsettled⟩ := inv.knows party _ hholder
      have hkept := inv.core.kept saved hsaved
      have hactivated : activateFirewall env.chance s.host.firewall = .restrictive := by
        simpa [sound, hholder, soundExit, hsaved] using hsound
      refine ⟨hkept.inPlace hplain, settled_iff.mp hsettled saved hsaved, ?_⟩
      rw [hkept.firewall]
      exact hactivated

/-- In every run whose steps meet the condition, the portal mode leaves what it found. -/
theorem kept_of_sound
    (hreach : (system settings).ReachableBy (fun s label => sound s label = true) s)
    (hsound : sound s label = true) (hstep : s.step settings label = some s') :
    Kept s label s' := by
  have inv : Inv s := hreach.invariant (fun _ hstarts => inv_of_starts hstarts)
    fun _ _ _ inv hsound hstep => inv.step hsound hstep
  exact
    { passthrough := passthrough_of_step hsound hstep
      restored := fun _ hsaved hcompletes => restored_of_step inv hsound hstep hsaved hcompletes
      backup := (inv.step hsound hstep).core.backup }

end Invariant

/-! ## Runs -/

def localConfig : Text := "server=/school.example/192.0.2.53\n".toList

/-- A machine under a policy, with no portal in sight. -/
def schoolDay : State where
  host :=
    { config := some localConfig
      backup := none
      configHash := none
      running := .serving (some localConfig)
      firewall := .restrictive
      marker := none
      observation := { portalCount := 2, authenticatedCount := 0 } }
  waiting := []
  holder := none
  session := none

theorem starts_schoolDay : Starts schoolDay := ⟨rfl, rfl, rfl, by decide, rfl⟩

/-- A step that works. -/
def works : Label :=
  .step { clock := { wall := 1000, uptime := some 50 }, upstream := "192.0.2.53".toList }
    { generation := none, sha256sum := id }

/-- The detector enters the portal mode. -/
def entering : List Label :=
  [.call .detector .enter, .acquire .detector, works, works, works, works, works]

/-- The detector leaves it again. The last step is left. -/
def leaving : List Label :=
  [.call .detector .exit, .acquire .detector, works, works, works, works, works]

/-- The portal mode is on. -/
def atPortal : State where
  host :=
    { config := some (passthroughConfig "192.0.2.53".toList)
      backup := some localConfig
      configHash := none
      running := .serving (some (passthroughConfig "192.0.2.53".toList))
      firewall := .permissive
      marker := some { start := some 1000, expires := some 1120, monoStart := some 50 }
      observation := { portalCount := 2, authenticatedCount := 0 } }
  waiting := []
  holder := none
  session := some (inForce schoolDay.host)

/-- Only the firewall is not back yet. -/
def almostBack : State where
  host := { schoolDay.host with firewall := .permissive, observation := ⟨0, 0⟩ }
  waiting := []
  holder := some (.detector, .exit .activate)
  session := some (inForce schoolDay.host)

/-- The watchdog dies in its exit, and a dependency waits in vain while the detector leaves. -/
def disturbed : List Label :=
  [.call .watchdog .exit, .acquire .watchdog, .die .watchdog, .call .dependencyApply .apply] ++
    leaving ++ [.giveUp .dependencyApply]

theorem kept_almostBack :
    Kept almostBack works { schoolDay with host := { schoolDay.host with observation := ⟨0, 0⟩ } } := by
  have hrun : runBy sound (State.step {}) schoolDay (entering ++ disturbed) = some almostBack := by
    decide
  have hstep : State.step {} almostBack works =
      some { schoolDay with host := { schoolDay.host with observation := ⟨0, 0⟩ } } := by
    decide
  exact kept_of_sound (reachableBy_runBy (entering ++ disturbed) (.start starts_schoolDay) hrun)
    (by decide) hstep

/-- A page at the portal has found a dependency. -/
def appliesDependency : List Label :=
  [.call .dependencyApply .apply, .acquire .dependencyApply]

def exampleGeneration : Generation where
  settings := exampleSettings
  config := noAddresses
  runtimeDependencyDomains := ["cdn.example.com".toList]
  policy := examplePolicy

/-- The dependency replaces the file of the portal mode while the marker is there. -/
theorem atPortal_not_kept :
    ∃ s label s', (system {}).Reachable s ∧ s.step {} label = some s' ∧ ¬ Kept s label s' := by
  have hrun : runBy (fun _ _ => true) (State.step {}) schoolDay (entering ++ appliesDependency) =
      some { atPortal with holder := some (.dependencyApply, .apply .generate) } := by
    decide +kernel
  refine ⟨_, .step {} { generation := some exampleGeneration, sha256sum := id }, _,
    (reachableBy_runBy (entering ++ appliesDependency) (.start starts_schoolDay) hrun).reachable,
    rfl, fun hkept => ?_⟩
  have hsame : some exampleGeneration.text = some (passthroughConfig "192.0.2.53".toList) :=
    hkept.passthrough rfl rfl (isPortalConfig_passthroughConfig "192.0.2.53".toList)
  have hplain : isPortalConfig exampleGeneration.text = false :=
    isPortalConfig_generateDnsmasqConfig _ _ _ _
  rw [Option.some.inj hsame, isPortalConfig_passthroughConfig] at hplain
  cases hplain

end OpenPath.Linux.CaptivePortal.Restore
