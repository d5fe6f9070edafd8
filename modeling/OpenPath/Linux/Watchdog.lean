/-
# The watchdog of dnsmasq

Each cycle of the watchdog checks the service, its files and their integrity, repairs what
it can, and counts the restarts that have left dnsmasq down. After three of them a cycle
tries to go back to a checkpoint before anything else, and enters the failure mode when
that does not help.

A cycle is given by the answers to its checks. A check that is made in a loop with pauses
counts with its last answer. The portal mode that a cycle may close first, and what a cycle
reports to the server, have no influence on the counter.
-/

import OpenPath.Text.Unicode
import Mathlib.Data.List.Induction
import Mathlib.Data.List.TakeWhile

namespace OpenPath.Linux.Watchdog

/-! ## Cycles -/

inductive Status
  | healthy | degraded | critical | tampered | protectedMode | failOpen
  deriving DecidableEq

inductive Action
  | rollbackRecovery | dnsmasqRestart | upstreamDns | resolvConf | integrityRecovery
  deriving DecidableEq

/-- What `attempt_rollback_recovery` meets: whether there is a checkpoint to go back to, and
the checks behind it. -/
structure Rollback where
  checkpoint : Bool
  dnsmasqRunning : Bool
  dnsResolving : Bool
  valid : Bool

/-- The checkpoint has brought the service back. -/
def Rollback.succeeds (rollback : Rollback) : Bool :=
  rollback.checkpoint && rollback.dnsmasqRunning && rollback.dnsResolving && rollback.valid

/-- The answers to the checks of a cycle, and how its recoveries end. -/
structure Cycle where
  rollback : Rollback
  failureModeOpen : Bool := false
  dnsmasqRunning : Bool
  upstreamDns : Bool
  resolvConf : Bool
  integrity : Bool
  /-- dnsmasq runs after its restart. -/
  restarted : Bool
  integrityRecovered : Bool

/-- The status file. -/
structure Health where
  status : Status
  failCount : Nat
  actions : List Action
  deriving DecidableEq

/-- The files of the watchdog. A counter that is missing or no number counts as zero. -/
structure Files where
  failCount : Nat := 0
  protectedFlag : Bool := false
  health : Option Health := none
  deriving DecidableEq

def maxConsecutiveFails : Nat := 3

/-! ## The program -/

def incrementFailCount (files : Files) : Files := { files with failCount := files.failCount + 1 }

def resetFailCount (files : Files) : Files := { files with failCount := 0 }

/-- `attempt_rollback_recovery` -/
def attemptRollbackRecovery (rollback : Rollback) (files : Files) : Bool × Files :=
  if rollback.succeeds then (true, resetFailCount files) else (false, files)

/-- The variables of `main`. -/
structure Vars where
  status : Status := .healthy
  actions : List Action := []
  recoveredCycle : Bool := false
  deriving DecidableEq

/-- `[ "$status" = "HEALTHY" ] || [ "$recovered_cycle" = true ]` -/
def Vars.ok (vars : Vars) : Bool := vars.status = .healthy || vars.recoveredCycle

/-- `[ "$status" = "HEALTHY" ] && status="DEGRADED"`, and the action. -/
def degrade (ok : Bool) (action : Action) (vars : Vars) : Vars :=
  if ok then vars
  else
    { vars with
      status := if vars.status = .healthy then .degraded else vars.status
      actions := vars.actions ++ [action] }

/-- The four checks. The first one overwrites the actions. -/
def check (cycle : Cycle) (vars : Vars) : Vars :=
  let vars :=
    if cycle.dnsmasqRunning then vars
    else { vars with status := .critical, actions := [.dnsmasqRestart] }
  let vars := degrade cycle.upstreamDns .upstreamDns vars
  let vars := degrade cycle.resolvConf .resolvConf vars
  degrade cycle.integrity .integrityRecovery vars

/-- One recovery action. -/
def recover (cycle : Cycle) (state : Vars × Files) (action : Action) : Vars × Files :=
  match action with
  | .rollbackRecovery | .upstreamDns | .resolvConf => state
  | .integrityRecovery =>
      if cycle.integrityRecovered then
        ({ state.1 with status := .degraded, recoveredCycle := true }, state.2)
      else ({ state.1 with status := .tampered }, state.2)
  | .dnsmasqRestart =>
      if cycle.restarted then
        ({ state.1 with status := .degraded, recoveredCycle := true }, state.2)
      else ({ state.1 with status := .critical }, incrementFailCount state.2)

/-- The checks, the recoveries and the end of `main`. -/
def finish (cycle : Cycle) (vars : Vars) (files : Files) : Bool × Files :=
  let checked := check cycle vars
  let (vars, files) := checked.actions.foldl (recover cycle) (checked, files)
  let files := if vars.ok then { resetFailCount files with protectedFlag := false } else files
  (vars.ok, { files with
    health := some { status := vars.status, failCount := files.failCount, actions := vars.actions } })

/-- `main`: whether it succeeds, and the files after it. -/
def main (cycle : Cycle) (files : Files) : Bool × Files :=
  if maxConsecutiveFails ≤ files.failCount then
    match attemptRollbackRecovery cycle.rollback files with
    | (true, restored) =>
        finish cycle { status := .degraded, actions := [.rollbackRecovery], recoveredCycle := true }
          restored
    | (false, files) =>
        -- The counter is not reset: somebody has to look at the machine.
        if cycle.failureModeOpen then
          (false, { files with health := some ⟨.failOpen, files.failCount, []⟩ })
        else
          (false, { files with
            protectedFlag := true, health := some ⟨.protectedMode, files.failCount, []⟩ })
  else finish cycle {} files

/-! ## One cycle -/

namespace Cycle

/-- dnsmasq was down, and its restart has left it down. -/
def stillDown (cycle : Cycle) : Bool := !cycle.dnsmasqRunning && !cycle.restarted

/-- All checks succeed at once. -/
def healthy (cycle : Cycle) : Bool :=
  cycle.dnsmasqRunning && cycle.upstreamDns && cycle.resolvConf && cycle.integrity

/-- dnsmasq has been restarted, or the integrity has been restored. -/
def recovers (cycle : Cycle) : Bool :=
  (!cycle.dnsmasqRunning && cycle.restarted) || (!cycle.integrity && cycle.integrityRecovered)

/-- The integrity is restored while dnsmasq stays down. -/
def restoresWhileDown (cycle : Cycle) : Bool :=
  cycle.stillDown && !cycle.integrity && cycle.integrityRecovered

end Cycle

/-- Variables with which the checks start. -/
def Fresh (vars : Vars) : Prop :=
  vars = {} ∨ vars = { status := .degraded, actions := [.rollbackRecovery], recoveredCycle := true }

section

variable (ok : Bool) (action : Action) (vars : Vars)

theorem degrade_status_iff :
    (degrade ok action vars).status = .healthy ↔ ok = true ∧ vars.status = .healthy := by
  cases ok with
  | true => simp [degrade]
  | false =>
      simp only [degrade, Bool.false_eq_true, if_false, false_and, iff_false]
      split
      · exact Status.noConfusion
      · assumption

@[simp]
theorem degrade_recoveredCycle : (degrade ok action vars).recoveredCycle = vars.recoveredCycle := by
  cases ok <;> rfl

@[simp]
theorem degrade_actions :
    (degrade ok action vars).actions = vars.actions ++ if ok then [] else [action] := by
  cases ok with
  | true => exact (List.append_nil _).symm
  | false => rfl

end

theorem check_status_iff (cycle : Cycle) (vars : Vars) :
    (check cycle vars).status = .healthy ↔ cycle.healthy = true ∧ vars.status = .healthy := by
  simp only [check, degrade_status_iff, Cycle.healthy, Bool.and_eq_true]
  cases cycle.dnsmasqRunning with
  | true => simp only [if_true, true_and]; tauto
  | false => simp

theorem check_recoveredCycle (cycle : Cycle) (vars : Vars) :
    (check cycle vars).recoveredCycle = vars.recoveredCycle := by
  simp only [check, degrade_recoveredCycle]
  split <;> rfl

/-- The recoveries that have consequences: the restart, and then the integrity. -/
def recoveries (cycle : Cycle) (state : Vars × Files) : Vars × Files :=
  let state := if cycle.dnsmasqRunning then state else recover cycle state .dnsmasqRestart
  if cycle.integrity then state else recover cycle state .integrityRecovery

variable {vars : Vars}

theorem foldl_recover_check (cycle : Cycle) (hfresh : Fresh vars) (state : Vars × Files) :
    (check cycle vars).actions.foldl (recover cycle) state = recoveries cycle state := by
  rcases hfresh with rfl | rfl
  · simp only [check, degrade_actions, recoveries]
    cases cycle.dnsmasqRunning <;> cases cycle.upstreamDns <;> cases cycle.resolvConf <;>
      cases cycle.integrity <;> rfl
  · simp only [check, degrade_actions, recoveries]
    cases cycle.dnsmasqRunning <;> cases cycle.upstreamDns <;> cases cycle.resolvConf <;>
      cases cycle.integrity <;> rfl

theorem recoveries_spec (cycle : Cycle) (vars : Vars) (files : Files) :
    (recoveries cycle (vars, files)).2 =
        (if cycle.stillDown then incrementFailCount files else files) ∧
      (recoveries cycle (vars, files)).1.ok = (vars.recoveredCycle || cycle.recovers ||
        (decide (vars.status = .healthy) && cycle.dnsmasqRunning && cycle.integrity)) := by
  cases hrunning : cycle.dnsmasqRunning with
  | true =>
      cases hintegrity : cycle.integrity with
      | true =>
          simp [recoveries, Cycle.recovers, Cycle.stillDown, hrunning, hintegrity, Vars.ok,
            Bool.or_comm]
      | false =>
          cases hrecovered : cycle.integrityRecovered <;>
            simp [recoveries, recover, Cycle.recovers, Cycle.stillDown, hrunning, hintegrity,
              hrecovered, Vars.ok]
  | false =>
      cases hintegrity : cycle.integrity with
      | true =>
          cases hrestarted : cycle.restarted <;>
            simp [recoveries, recover, Cycle.recovers, Cycle.stillDown, hrunning, hintegrity,
              hrestarted, Vars.ok]
      | false =>
          cases hrestarted : cycle.restarted <;> cases hrecovered : cycle.integrityRecovered <;>
            simp [recoveries, recover, Cycle.recovers, Cycle.stillDown, hrunning, hintegrity,
              hrestarted, hrecovered, Vars.ok]

/-- What the checks and the recoveries come to. -/
theorem finish_spec (cycle : Cycle) (hfresh : Fresh vars) (files : Files) :
    let ok := vars.recoveredCycle || cycle.recovers ||
      (decide (vars.status = .healthy) && cycle.healthy)
    (finish cycle vars files).1 = ok ∧
      (finish cycle vars files).2.failCount =
        (if ok then 0 else files.failCount + if cycle.stillDown then 1 else 0) ∧
      (finish cycle vars files).2.protectedFlag = (files.protectedFlag && !ok) := by
  obtain ⟨hfiles, hok⟩ := recoveries_spec cycle (check cycle vars) files
  have hhealthy : (decide ((check cycle vars).status = .healthy) && cycle.dnsmasqRunning &&
      cycle.integrity) = (decide (vars.status = .healthy) && cycle.healthy) := by
    rw [Bool.eq_iff_iff]
    simp only [Bool.and_eq_true, decide_eq_true_eq, check_status_iff, Cycle.healthy]
    tauto
  rw [check_recoveredCycle, hhealthy] at hok
  simp only [finish, foldl_recover_check cycle hfresh]
  generalize recoveries cycle (check cycle vars, files) = result at hfiles hok ⊢
  obtain ⟨checked, after⟩ := result
  dsimp only at hfiles hok ⊢
  rw [← hok, hfiles]
  cases checked.ok with
  | true => exact ⟨rfl, rfl, (Bool.and_false _).symm⟩
  | false =>
      cases cycle.stillDown with
      | true => exact ⟨rfl, rfl, (Bool.and_true _).symm⟩
      | false => exact ⟨rfl, rfl, (Bool.and_true _).symm⟩

/-- The cycle gets to its checks. -/
def Cycle.checks (cycle : Cycle) (files : Files) : Bool :=
  decide (files.failCount < maxConsecutiveFails) || cycle.rollback.succeeds

/-- A cycle from files on: whether it succeeds, and what becomes of the counter and the flag. -/
theorem main_spec (cycle : Cycle) (files : Files) :
    let ok := cycle.checks files &&
      (decide (maxConsecutiveFails ≤ files.failCount) || cycle.recovers || cycle.healthy)
    (main cycle files).1 = ok ∧
      (main cycle files).2.failCount =
        (if ok then 0
          else files.failCount + if cycle.checks files && cycle.stillDown then 1 else 0) ∧
      (main cycle files).2.protectedFlag =
        ((files.protectedFlag || (!cycle.checks files && !cycle.failureModeOpen)) && !ok) := by
  by_cases hlimit : maxConsecutiveFails ≤ files.failCount
  · cases hrollback : cycle.rollback.succeeds with
    | true =>
        have hmain : main cycle files = finish cycle
            { status := .degraded, actions := [.rollbackRecovery], recoveredCycle := true }
            (resetFailCount files) := by
          rw [main, if_pos hlimit, attemptRollbackRecovery, if_pos hrollback]
        have hfinish := finish_spec cycle (.inr rfl) (resetFailCount files)
        simp only [Cycle.checks, hmain, hrollback, hlimit, Bool.or_true, decide_true, Bool.true_or,
          Bool.and_self, Bool.not_true, Bool.and_false, if_true] at hfinish ⊢
        exact hfinish
    | false =>
        have hbelow : ¬ files.failCount < maxConsecutiveFails := not_lt.mpr hlimit
        have hrecovery : attemptRollbackRecovery cycle.rollback files = (false, files) := by
          rw [attemptRollbackRecovery, if_neg (Bool.eq_false_iff.mp hrollback)]
        simp only [main, hlimit, if_true, hrecovery, Cycle.checks, hbelow, hrollback, decide_false,
          Bool.or_self, Bool.false_and, Bool.not_false, Bool.true_and, Bool.and_true,
          Bool.false_eq_true, if_false, Nat.add_zero]
        cases hopen : cycle.failureModeOpen <;> simp
  · have hbelow : files.failCount < maxConsecutiveFails := not_le.mp hlimit
    have hmain : main cycle files = finish cycle {} files := by rw [main, if_neg hlimit]
    have hfinish := finish_spec cycle (.inl rfl) files
    simp only [Cycle.checks, hmain, hlimit, hbelow, decide_true, decide_false, Bool.true_or,
      Bool.false_or, Bool.true_and, Bool.not_true, Bool.false_and, Bool.or_false] at hfinish ⊢
    exact hfinish

/-! ## Runs -/

/-- The files after cycles, one after another. -/
def after (cycles : List Cycle) : Files := cycles.foldl (fun files cycle => (main cycle files).2) {}

/-- What a cycle says about dnsmasq: it succeeds, or its restart leaves dnsmasq down. -/
structure Entry where
  ok : Bool
  restartFailed : Bool

def entry (cycle : Cycle) (files : Files) : Entry where
  ok := (main cycle files).1
  restartFailed := cycle.checks files && cycle.stillDown

/-- The entries of cycles, the last one first. -/
def entries (cycles : List Cycle) : List Entry :=
  (cycles.foldl (fun state cycle => (entry cycle state.2 :: state.1, (main cycle state.2).2))
    (([], {}) : List Entry × Files)).1

/-- The restarts that have failed since the last cycle that succeeded. -/
def failedRestarts (entries : List Entry) : Nat :=
  (entries.takeWhile fun entry => !entry.ok).countP fun entry => entry.restartFailed

/-- A check of the cycle has found dnsmasq running. -/
def Cycle.foundRunning (cycle : Cycle) (files : Files) : Bool :=
  (decide (maxConsecutiveFails ≤ files.failCount) && cycle.rollback.succeeds) ||
    (cycle.checks files && !cycle.stillDown)

theorem after_concat (cycles : List Cycle) (cycle : Cycle) :
    after (cycles ++ [cycle]) = (main cycle (after cycles)).2 := by
  rw [after, List.foldl_append]
  rfl

theorem entries_concat (cycles : List Cycle) (cycle : Cycle) :
    entries (cycles ++ [cycle]) = entry cycle (after cycles) :: entries cycles := by
  have hfiles : ∀ (list : List Entry) (files : Files),
      (cycles.foldl (fun state cycle => (entry cycle state.2 :: state.1, (main cycle state.2).2))
        (list, files)).2 = cycles.foldl (fun files cycle => (main cycle files).2) files := by
    induction cycles with
    | nil => exact fun _ _ => rfl
    | cons first rest ih => exact fun list files => ih _ _
  rw [entries, List.foldl_append]
  simp only [List.foldl_cons, List.foldl_nil]
  rw [hfiles]
  rfl

theorem failCount_after (cycles : List Cycle) :
    (after cycles).failCount = failedRestarts (entries cycles) := by
  induction cycles using List.reverseRecOn with
  | nil => rfl
  | append_singleton cycles cycle ih =>
      obtain ⟨hok, hcount, -⟩ := main_spec cycle (after cycles)
      rw [after_concat, entries_concat, hcount, failedRestarts, List.takeWhile_cons, entry, hok]
      dsimp only
      split
      · rename_i hsucceeds
        rw [hsucceeds]
        rfl
      · rename_i hfails
        rw [Bool.eq_false_iff.mpr hfails, Bool.not_false, if_pos rfl, List.countP_cons, ih]
        rfl

/-- A cycle that succeeds has found dnsmasq running, if it has not restored the integrity
while dnsmasq stayed down. -/
theorem foundRunning_of_ok {cycle : Cycle} {files : Files}
    (hrestores : cycle.restoresWhileDown = false) (hok : (main cycle files).1 = true) :
    cycle.foundRunning files = true := by
  rw [(main_spec cycle files).1] at hok
  simp only [Bool.and_eq_true, Bool.or_eq_true, decide_eq_true_eq] at hok
  obtain ⟨hchecks, (hlimit | hrecovers) | hhealthy⟩ := hok
  · -- Behind the limit only a rollback leads to the checks.
    have hrollback : cycle.rollback.succeeds = true := by
      rw [Cycle.checks, Bool.or_eq_true, decide_eq_true_eq] at hchecks
      exact hchecks.resolve_left (not_lt.mpr hlimit)
    simp [Cycle.foundRunning, hlimit, hrollback]
  · have hup : cycle.stillDown = false := by
      simp only [Cycle.recovers, Cycle.restoresWhileDown, Cycle.stillDown, Bool.or_eq_true,
        Bool.and_eq_true, Bool.not_eq_true', Bool.and_eq_false_iff] at hrecovers hrestores ⊢
      grind
    simp [Cycle.foundRunning, hchecks, hup]
  · have hup : cycle.stillDown = false := by
      simp only [Cycle.healthy, Bool.and_eq_true] at hhealthy
      simp [Cycle.stillDown, hhealthy.1.1.1]
    simp [Cycle.foundRunning, hchecks, hup]

/-- After every sequence of cycles the counter is the number of restarts that have left
dnsmasq down since the last cycle that succeeded, and it is at most the limit. Below the
limit a cycle succeeds when everything is healthy or something has been recovered. A cycle
succeeds, resets the counter or leaves the protected mode only if it finds dnsmasq running;
both is said of cycles that do not restore the integrity while dnsmasq stays down. -/
theorem counter_of_cycles (cycles : List Cycle) :
    (after cycles).failCount = failedRestarts (entries cycles) ∧
      (after cycles).failCount ≤ maxConsecutiveFails ∧
      ∀ cycle : Cycle, cycle.restoresWhileDown = false →
        let files := after cycles
        let result := main cycle files
        (files.failCount < maxConsecutiveFails →
            (result.1 = true ↔ cycle.healthy = true ∨ cycle.recovers = true)) ∧
          (result.1 = true ∨ result.2.failCount < files.failCount ∨
              (files.protectedFlag = true ∧ result.2.protectedFlag = false) →
            cycle.foundRunning files = true) := by
  refine ⟨failCount_after cycles, ?_, ?_⟩
  · induction cycles using List.reverseRecOn with
    | nil => exact Nat.zero_le _
    | append_singleton cycles cycle ih =>
        obtain ⟨-, hcount, -⟩ := main_spec cycle (after cycles)
        rw [after_concat, hcount]
        split
        · exact Nat.zero_le _
        · rename_i hfails
          split
          · rename_i hdown
            -- A cycle that gets to its checks at the limit has rolled back, and succeeds.
            have hbelow : ¬ maxConsecutiveFails ≤ (after cycles).failCount := by
              intro hlimit
              rw [Bool.and_eq_true] at hdown
              simp [hdown.1, hlimit] at hfails
            omega
          · exact ih
  · intro cycle hrestores files result
    obtain ⟨hok, hcount, hflag⟩ := main_spec cycle files
    refine ⟨fun hbelow => ?_, fun hchange => foundRunning_of_ok hrestores ?_⟩
    · have hlimit : ¬ maxConsecutiveFails ≤ files.failCount := not_le.mpr hbelow
      simp [result, hok, Cycle.checks, hbelow, hlimit, or_comm]
    · by_contra hfails
      rw [Bool.not_eq_true] at hfails
      rw [← hok] at hcount hflag
      simp only [result, hfails, Bool.false_eq_true, if_false, false_or, Bool.not_false,
        Bool.and_true] at hchange hcount hflag
      rcases hchange with hless | ⟨hset, hcleared⟩
      · omega
      · rw [hset, hcleared] at hflag
        cases hflag

/-- Everything is down and stays so. -/
def Cycle.down : Cycle where
  rollback := ⟨false, false, false, false⟩
  dnsmasqRunning := false
  upstreamDns := true
  resolvConf := true
  integrity := true
  restarted := false
  integrityRecovered := false

/-- After two cycles with dnsmasq down, one that restarts it finds it running and resets the
counter. -/
theorem counter_of_cycles_restarted :
    (after [.down, .down]).failCount = 2 ∧
      (main { Cycle.down with restarted := true } (after [.down, .down])).2.failCount = 0 ∧
      { Cycle.down with restarted := true }.foundRunning (after [.down, .down]) = true :=
  ⟨by decide, by decide,
    ((counter_of_cycles [.down, .down]).2.2 _ (by decide)).2 (Or.inl (by decide))⟩

/-- The cycles in which dnsmasq was still down since the last one that found it running. -/
def downInARow (cycles : List Cycle) : Nat := (cycles.reverse.takeWhile Cycle.stillDown).length

/-- After four cycles with dnsmasq down the counter is three, and after one that finds it
running without `resolv.conf` the counter stays. -/
theorem counter_differs :
    (after (List.replicate 4 .down)).failCount = 3 ∧ downInARow (List.replicate 4 .down) = 4 ∧
      (after [.down, { Cycle.down with dnsmasqRunning := true, resolvConf := false }]).failCount = 1 ∧
      downInARow [.down, { Cycle.down with dnsmasqRunning := true, resolvConf := false }] = 0 := by
  decide

end OpenPath.Linux.Watchdog
