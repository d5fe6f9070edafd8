/-
# Reconnecting of the SSE listener

The listener keeps a connection to the server open and opens a new one when it ends. Each
delay is twice the last one, up to a maximum, and data is meant to bring back the minimum.

The script runs under `errexit` and `pipefail`, and a pipeline runs in subshells: what the
loop over the lines does to `backoff` is lost when the pipeline is over, and a pipeline
that fails ends the script. The delays are what `sleep` is called with, in seconds.
-/

import OpenPath.Text.Ascii
import Mathlib.Algebra.Order.Ring.Nat
import Mathlib.Data.List.Infix

namespace OpenPath.Linux.SseListener

/-! ## The file with the URL -/

/-- `tr -d '[:space:]'` -/
def withoutSpace (text : Text) : Text := text.filter fun c => !Ascii.isSpace c

/-- The part up to the next slash behind a marker that the text starts with. -/
def segmentAfter (marker text : Text) : Text :=
  if marker <+: text then (text.drop marker.length).takeWhile (· ≠ '/') else []

/-- `grep -oP '/w/\K[^/]+'`: every match starts behind the one before it, so as many
characters are skipped. -/
def tokens : Nat → Text → List Text
  | _, [] => []
  | skip + 1, _ :: rest => tokens skip rest
  | 0, c :: rest =>
      let token := segmentAfter "/w/".toList (c :: rest)
      if token = [] then tokens 0 rest else token :: tokens (token.length + 2) rest

/-- The lines of a command substitution. -/
def lines (found : List Text) : Text := "\n".toList.intercalate found

/-- `get_machine_token`; the file may be missing. -/
def getMachineToken (whitelistUrlFile : Option Text) : Option Text :=
  match whitelistUrlFile with
  | none => none
  | some content =>
      let whitelistUrl := withoutSpace content
      if whitelistUrl = [] then none
      else
        let token := lines (tokens 0 whitelistUrl)
        if token = [] then none else some token

/-- `grep -oP '^https?://[^/]+'` -/
def baseUrl (whitelistUrl : Text) : Text :=
  let secure := segmentAfter "https://".toList whitelistUrl
  let plain := segmentAfter "http://".toList whitelistUrl
  if secure ≠ [] then "https://".toList ++ secure
  else if plain ≠ [] then "http://".toList ++ plain
  else []

/-- `get_sse_url` -/
def getSseUrl (whitelistUrlFile : Option Text) : Option Text :=
  let base := baseUrl (withoutSpace (whitelistUrlFile.getD []))
  if base = [] then none else some (base ++ "/api/machines/events".toList)

/-! ## A connection -/

structure Settings where
  sseReconnectMin : Option Nat := none
  sseReconnectMax : Option Nat := none

/-- `${SSE_RECONNECT_MIN:-5}` -/
def Settings.min (settings : Settings) : Nat := settings.sseReconnectMin.getD 5

/-- `${SSE_RECONNECT_MAX:-60}` -/
def Settings.max (settings : Settings) : Nat := settings.sseReconnectMax.getD 60

/-- A line that `curl` prints, and the status that `trigger_update` has if the line makes
the listener call it. -/
structure Line where
  text : Text
  updateStatus : Nat := 0

/-- What one round of the listener meets: the file with the URL, the lines that come, and
the status with which `curl` ends. -/
structure Attempt where
  whitelistUrlFile : Option Text
  lines : List Line
  curlStatus : Nat

/-- `${line#data: }` -/
def payload (text : Text) : Text :=
  if "data: ".toList <+: text then text.drop 6 else text

def Line.changesWhitelist (line : Line) : Prop :=
  "data:".toList <+: line.text ∧ "\"whitelist-changed\"".toList <:+: payload line.text

instance (line : Line) : Decidable line.changesWhitelist := inferInstanceAs (Decidable (_ ∧ _))

/-- The status of the commands for a line. -/
def Line.status (line : Line) : Nat := if line.changesWhitelist then line.updateStatus else 0

/-- The loop over the lines: its status, and `backoff` in its subshell. A command that fails
ends the subshell. -/
def readLines (settings : Settings) : Nat → List Line → Nat × Nat
  | backoff, [] => (0, backoff)
  | _, line :: rest =>
      if line.status = 0 then readLines settings settings.min rest
      else (line.status, settings.min)

/-- The status of the pipeline under `pipefail`. The `backoff` of the subshell is dropped. -/
def pipelineStatus (settings : Settings) (backoff : Nat) (attempt : Attempt) : Nat :=
  let status := (readLines settings backoff attempt.lines).1
  if status ≠ 0 then status else attempt.curlStatus

/-! ## The loop -/

/-- The delay after the next connection. -/
def nextBackoff (settings : Settings) (backoff : Nat) : Nat :=
  if backoff * 2 > settings.max then settings.max else backoff * 2

/-- The delays, and whether the listener is still running. -/
def listen (settings : Settings) : Nat → List Attempt → List Nat × Bool
  | _, [] => ([], true)
  | backoff, attempt :: rest =>
      if getMachineToken attempt.whitelistUrlFile = none then ([], false)
      else if pipelineStatus settings backoff attempt ≠ 0 then ([], false)
      else
        let others := listen settings (nextBackoff settings backoff) rest
        (backoff :: others.1, others.2)

/-- `run_sse_listener` -/
def runSseListener (settings : Settings) (whitelistUrlFile : Option Text)
    (attempts : List Attempt) : List Nat × Bool :=
  if getSseUrl whitelistUrlFile = none then ([], false)
  else listen settings settings.min attempts

/-! ## What the delays are meant to be -/

/-- The delay before the `k`-th reconnection in a row without data. -/
def delay (settings : Settings) (k : Nat) : Nat := min settings.max (settings.min * 2 ^ k)

/-- The delays after each of the connections: data starts the count again. -/
def expectedDelays (settings : Settings) : Nat → List Attempt → List Nat
  | _, [] => []
  | k, attempt :: rest =>
      let k := if attempt.lines = [] then k else 0
      delay settings k :: expectedDelays settings (k + 1) rest

/-- The listener keeps running, and its delays are the ones that are meant. -/
def Reconnects (settings : Settings) (whitelistUrlFile : Option Text) (attempts : List Attempt) :
    Prop :=
  runSseListener settings whitelistUrlFile attempts = (expectedDelays settings 0 attempts, true)

/-! ## When the listener keeps running -/

/-- The connection has ended without a failure, and so have the updates. -/
def Attempt.EndsCleanly (attempt : Attempt) : Prop :=
  getMachineToken attempt.whitelistUrlFile ≠ none ∧ (∀ line ∈ attempt.lines, line.status = 0) ∧
    attempt.curlStatus = 0

theorem readLines_status_eq_zero_iff (settings : Settings) (backoff : Nat) (lines : List Line) :
    (readLines settings backoff lines).1 = 0 ↔ ∀ line ∈ lines, line.status = 0 := by
  induction lines generalizing backoff with
  | nil => exact ⟨fun _ line hline => absurd hline List.not_mem_nil, fun _ => rfl⟩
  | cons line rest ih =>
      rw [readLines, List.forall_mem_cons]
      split
      · rename_i hline
        rw [ih]
        exact ⟨fun hrest => ⟨hline, hrest⟩, And.right⟩
      · rename_i hline
        exact ⟨fun h => absurd h hline, fun h => absurd h.1 hline⟩

theorem pipelineStatus_eq_zero_iff (settings : Settings) (backoff : Nat) (attempt : Attempt) :
    pipelineStatus settings backoff attempt = 0 ↔
      (∀ line ∈ attempt.lines, line.status = 0) ∧ attempt.curlStatus = 0 := by
  rw [pipelineStatus, ← readLines_status_eq_zero_iff settings backoff]
  split
  · rename_i h
    exact ⟨fun h' => absurd h' h, fun h' => absurd h'.1 h⟩
  · rename_i h
    exact ⟨fun h' => ⟨not_not.mp h, h'⟩, And.right⟩

/-- The delays of a listener that keeps running. -/
def delays (settings : Settings) : Nat → Nat → List Nat
  | _, 0 => []
  | backoff, count + 1 => backoff :: delays settings (nextBackoff settings backoff) count

variable {settings : Settings} {attempts : List Attempt}

/-- The listener keeps running exactly when all connections end cleanly. What they bring
has no influence on the delays. -/
theorem listen_eq_iff {backoff : Nat} {expected : List Nat} :
    listen settings backoff attempts = (expected, true) ↔
      (∀ attempt ∈ attempts, attempt.EndsCleanly) ∧
        delays settings backoff attempts.length = expected := by
  induction attempts generalizing backoff expected with
  | nil =>
      rw [listen, List.length_nil, delays, Prod.mk.injEq]
      exact ⟨fun h => ⟨fun attempt hattempt => absurd hattempt List.not_mem_nil, h.1⟩,
        fun h => ⟨h.2, rfl⟩⟩
  | cons attempt rest ih =>
      rw [listen, List.forall_mem_cons, Attempt.EndsCleanly,
        ← pipelineStatus_eq_zero_iff settings backoff]
      split
      · rename_i htoken
        exact ⟨fun h => absurd (Prod.mk.inj h).2 Bool.false_ne_true, fun h => absurd htoken h.1.1.1⟩
      · rename_i htoken
        split
        · rename_i hstatus
          exact ⟨fun h => absurd (Prod.mk.inj h).2 Bool.false_ne_true,
            fun h => absurd h.1.1.2 hstatus⟩
        · rename_i hstatus
          have hrest := @ih (nextBackoff settings backoff)
            (listen settings (nextBackoff settings backoff) rest).1
          rw [List.length_cons, delays, Prod.mk.injEq]
          constructor
          · rintro ⟨rfl, hrunning⟩
            obtain ⟨hclean, hdelays⟩ := hrest.mp (Prod.ext rfl hrunning)
            exact ⟨⟨⟨htoken, not_not.mp hstatus⟩, hclean⟩, by rw [hdelays]⟩
          · rintro ⟨⟨-, hclean⟩, rfl⟩
            have h := (@ih (nextBackoff settings backoff) _).mpr ⟨hclean, rfl⟩
            exact ⟨by rw [h], by rw [h]⟩

/-! ## When the delays are right -/

theorem nextBackoff_delay (settings : Settings) (k : Nat) :
    nextBackoff settings (delay settings k) = delay settings (k + 1) := by
  have hdouble : settings.min * 2 ^ (k + 1) = settings.min * 2 ^ k * 2 := by
    rw [Nat.pow_succ, Nat.mul_assoc]
  simp only [nextBackoff, delay, hdouble, Nat.min_def]
  split <;> split <;> split <;> omega

theorem delay_zero (hle : settings.min ≤ settings.max) : delay settings 0 = settings.min := by
  rw [delay, Nat.pow_zero, Nat.mul_one]
  exact Nat.min_eq_right hle

/-- As long as no data comes the delays are right. -/
theorem delays_of_quiet (k : Nat) (hquiet : ∀ attempt ∈ attempts, attempt.lines = []) :
    delays settings (delay settings k) attempts.length = expectedDelays settings k attempts := by
  induction attempts generalizing k with
  | nil => rfl
  | cons attempt rest ih =>
      obtain ⟨hattempt, hrest⟩ := List.forall_mem_cons.mp hquiet
      rw [List.length_cons, delays, expectedDelays, if_pos hattempt, nextBackoff_delay, ih _ hrest]

/-- Where all delays are the same, data makes no difference. -/
theorem delays_of_constant (hconstant : ∀ k, delay settings k = delay settings 0)
    (first second : Nat) :
    delays settings (delay settings first) attempts.length =
      expectedDelays settings second attempts := by
  induction attempts generalizing first second with
  | nil => rfl
  | cons attempt rest ih =>
      rw [List.length_cons, delays, expectedDelays, nextBackoff_delay, ih _ _]
      rw [hconstant first, hconstant (if attempt.lines = [] then second else 0)]

/-- A delay that has been doubled is the minimum again only when all delays are the same. -/
theorem eq_of_delay_succ (hle : settings.min ≤ settings.max) {k : Nat}
    (hsame : delay settings (k + 1) = delay settings 0) :
    settings.min = 0 ∨ settings.min = settings.max := by
  rw [delay_zero hle, delay] at hsame
  rcases Nat.eq_zero_or_pos settings.min with hzero | hpos
  · exact .inl hzero
  · right
    have hmore : settings.min < settings.min * 2 ^ (k + 1) :=
      lt_mul_of_one_lt_right hpos (Nat.one_lt_two_pow (Nat.succ_ne_zero k))
    rcases min_choice settings.max (settings.min * 2 ^ (k + 1)) with hmax | hdoubled
    · rw [← hsame, hmax]
    · rw [hdoubled] at hsame
      exact absurd hsame hmore.ne'

/-- Data behind a delay that has been doubled makes the delays wrong. -/
theorem eq_of_delays (hle : settings.min ≤ settings.max) {k : Nat}
    (hdelays : delays settings (delay settings (k + 1)) attempts.length =
      expectedDelays settings (k + 1) attempts) (hdata : ∃ attempt ∈ attempts, attempt.lines ≠ []) :
    settings.min = 0 ∨ settings.min = settings.max := by
  induction attempts generalizing k with
  | nil =>
      obtain ⟨attempt, hattempt, -⟩ := hdata
      exact absurd hattempt List.not_mem_nil
  | cons attempt rest ih =>
      rw [List.length_cons, delays, expectedDelays, List.cons.injEq] at hdelays
      by_cases hquiet : attempt.lines = []
      · rw [if_pos hquiet, nextBackoff_delay] at hdelays
        refine ih hdelays.2 ?_
        obtain ⟨other, hother, hlines⟩ := hdata
        rcases List.mem_cons.mp hother with rfl | hrest
        · exact absurd hquiet hlines
        · exact ⟨other, hrest, hlines⟩
      · rw [if_neg hquiet] at hdelays
        exact eq_of_delay_succ hle hdelays.1

theorem delay_constant (hsame : settings.min = 0 ∨ settings.min = settings.max) (k : Nat) :
    delay settings k = delay settings 0 := by
  rcases hsame with hzero | hmax
  · simp only [delay, hzero, Nat.zero_mul]
  · have hpow : settings.max ≤ settings.max * 2 ^ k := Nat.le_mul_of_pos_right _ (Nat.two_pow_pos k)
    rw [delay, delay, hmax, Nat.pow_zero, Nat.mul_one, Nat.min_self]
    exact Nat.min_eq_left hpow

/-- The delays are the ones that are meant when the minimum is no larger than the maximum and
only the first connection brings data, or all delays are the same. -/
theorem delays_eq_expectedDelays_iff (settings : Settings) (attempts : List Attempt) :
    delays settings settings.min attempts.length = expectedDelays settings 0 attempts ↔
      (attempts ≠ [] → settings.min ≤ settings.max) ∧
        (settings.min = 0 ∨ settings.min = settings.max ∨
          ∀ attempt ∈ attempts.tail, attempt.lines = []) := by
  cases attempts with
  | nil => simp [delays, expectedDelays]
  | cons attempt rest =>
      have hcount : (if attempt.lines = [] then 0 else 0) = 0 := ite_self 0
      have hhead : settings.min = delay settings 0 ↔ settings.min ≤ settings.max := by
        refine ⟨fun h => ?_, fun h => (delay_zero h).symm⟩
        rw [h]
        exact Nat.min_le_left _ _
      rw [List.length_cons, delays, expectedDelays, hcount, List.cons.injEq, hhead, List.tail_cons]
      simp only [ne_eq, reduceCtorEq, not_false_eq_true, forall_const, Nat.zero_add]
      refine and_congr_right fun hle => ?_
      have hnext : nextBackoff settings settings.min = delay settings 1 := by
        rw [← nextBackoff_delay, delay_zero hle]
      rw [hnext]
      constructor
      · intro hdelays
        by_cases hdata : ∃ attempt ∈ rest, attempt.lines ≠ []
        · exact or_assoc.mp (.inl (eq_of_delays hle hdelays hdata))
        · push Not at hdata
          exact .inr (.inr hdata)
      · intro h
        rcases or_assoc.mpr h with hsame | hquiet
        · exact delays_of_constant (delay_constant hsame) 1 1
        · exact delays_of_quiet 1 hquiet

/-! ## The listener -/

/-- In a run the listener never stops by itself and waits as long as it should exactly when
the files can be read, every connection ends cleanly, the minimum is no larger than the
maximum, and only the first connection brings data or all delays are the same. -/
theorem reconnects_iff (settings : Settings) (whitelistUrlFile : Option Text)
    (attempts : List Attempt) :
    Reconnects settings whitelistUrlFile attempts ↔
      getSseUrl whitelistUrlFile ≠ none ∧ (∀ attempt ∈ attempts, attempt.EndsCleanly) ∧
        (attempts ≠ [] → settings.min ≤ settings.max) ∧
          (settings.min = 0 ∨ settings.min = settings.max ∨
            ∀ attempt ∈ attempts.tail, attempt.lines = []) := by
  rw [Reconnects, runSseListener, ← delays_eq_expectedDelays_iff]
  split
  · rename_i hurl
    exact ⟨fun h => absurd (Prod.mk.inj h).2 Bool.false_ne_true, fun h => absurd hurl h.1⟩
  · rename_i hurl
    rw [listen_eq_iff]
    exact ⟨fun h => ⟨hurl, h⟩, And.right⟩

/-- A server that cannot be reached ends the listener, and data in the second connection
does not bring back the minimum. -/
theorem not_reconnects :
    let file := some "https://school.example/w/abc/whitelist.txt\n".toList
    let line : Line := { text := "data: \x7b\"type\":\"connected\"\x7d".toList }
    runSseListener {} file [⟨file, [], 7⟩] = ([], false) ∧
      ¬ Reconnects {} file [⟨file, [], 7⟩] ∧
      runSseListener {} file [⟨file, [], 0⟩, ⟨file, [line], 0⟩] = ([5, 10], true) ∧
      ¬ Reconnects {} file [⟨file, [], 0⟩, ⟨file, [line], 0⟩] := by
  unfold Reconnects
  decide

end OpenPath.Linux.SseListener
