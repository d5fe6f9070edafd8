/-
# How long the portal mode stays open

The passthrough is open from the step of an enter that relaxes the firewall to the step
of an exit that activates it. An enter writes the marker after it has relaxed the
firewall, and an exit removes it before it activates the firewall; in between there is
no marker, and a process that dies there leaves the passthrough open for ever.

While the detector observes the portal, the lifetime is read off the uptime in the
marker, so that it ends in time whatever the wall clock does. With any other
observation only the wall clock is compared with the deadline.
-/

import OpenPath.Linux.CaptivePortalDetector

namespace OpenPath.Linux.CaptivePortal.Lifetime

open Foundation TransitionSystem

/-! ## What is wanted -/

/-- There is a marker with a deadline. -/
def HasDeadline (host : Host) : Prop :=
  ∃ marker, host.marker = some marker ∧ marker.expires.isSome = true

/-- A firewall that is relaxed for the portal has a marker with a deadline. -/
def Marked (host : Host) : Prop := host.firewall = .permissive → HasDeadline host

/-- The passthrough is not open longer than for the lifetime and the longest interval
between two observations. -/
def Capped (settings : DetectorSettings) (s : State) : Prop :=
  ∀ since, s.openSince = some since →
    s.elapsed ≤ since + settings.maxLifetime + settings.longestInterval

/-! ## Sound runs -/

/-- An enter has relaxed the firewall and not written the marker. -/
def State.marking (s : State) : Bool :=
  match s.holder with
  | some (_, .enter .mark) => true
  | _ => false

/-- An exit has removed the marker and not activated the firewall. -/
def State.closing (s : State) : Bool :=
  match s.holder with
  | some (_, .exit .resetObservation) | some (_, .exit .activate) => true
  | _ => false

/-- The lifetime of an open passthrough is not over. -/
def inTime (settings : DetectorSettings) (s : State) (elapsed : Nat) : Bool :=
  s.openSince.all fun since => elapsed ≤ since + settings.maxLifetime

/-- All lines of the marker are written. -/
def writesMarker : Chance → Bool
  | .refused => false
  | .cut length => 3 ≤ length
  | _ => true

def State.isAsleep (s : State) : Bool :=
  match s.detector.place with
  | .asleep _ => true
  | _ => false

/-- A step of the detector outside of the lock goes well. -/
def soundDetector (settings : DetectorSettings) (s : State) (surroundings : Surroundings) :
    Place → Bool
  | .refreshing => s.openSince.isNone || surroundings.uptimeReadable
  | .extending _ _ =>
      s.openSince.isNone || surroundings.chance = .refused || writesMarker surroundings.chance
  -- Once the lifetime is over, so is the deadline on the wall clock.
  | .settling state =>
      state = .portal || inTime settings s s.elapsed || s.host.marker.isNone ||
        isPortalModeExpired (s.clock surroundings) s.host.marker
  | _ => true

/-- A step under the lock goes well. -/
def soundTask (s : State) (surroundings : Surroundings) : Task → Bool
  | .enter .mark => writesMarker surroundings.chance && surroundings.uptimeReadable
  | .exit .activate => s.openSince.isNone || surroundings.chance = .done
  | _ => true

/-- Past the lifetime, time passes only while the detector sleeps and nobody holds the
lock, and the detector does not give up on the lock; no process dies between the
firewall and the marker; and the steps go well. -/
def sound (settings : DetectorSettings) (s : State) : Label → Bool
  | .tick seconds =>
      !s.marking &&
        (inTime settings s (s.elapsed + seconds) || (s.isAsleep && s.holder.isNone))
  | .detector surroundings => soundDetector settings s surroundings s.detector.place
  | .giveUp party => party = .watchdog || inTime settings s s.elapsed
  | .step surroundings => s.holder.all fun holder => soundTask s surroundings holder.2
  | .die party => !(s.holds party && s.openSince.isSome && (s.marking || s.closing))
  | .start | .watchdog _ | .acquire _ => true

/-! ## The invariant -/

/-- The marker is whole and of this passthrough. -/
def MarkedSince (since : Nat) (host : Host) : Prop :=
  ∃ marker, host.marker = some marker ∧ marker.expires.isSome = true ∧
    marker.monoStart = some since

/-- Where the detector may be while the passthrough is open. It comes to sleep over a
portal only if the lifetime was not over, and it enters only between a marker that was
removed and the firewall. -/
def Fits (settings : DetectorSettings) (s : State) (since : Nat) : Place → Prop
  | .settling .portal => s.elapsed ≤ since + settings.maxLifetime ∨ s.closing = true
  | .extending _ monoStart =>
      (s.elapsed ≤ since + settings.maxLifetime ∧ monoStart = some since) ∨ s.closing = true
  | .asleep wakeAt =>
      wakeAt ≤ since + settings.maxLifetime + settings.longestInterval ∨ s.closing = true
  | .calling .portal => s.closing = true ∨ s.marking = true
  | _ => True

/-- What holds while the passthrough is open. -/
structure Open (settings : DetectorSettings) (s : State) (since : Nat) : Prop where
  started : since ≤ s.elapsed
  bounded : s.elapsed ≤ since + settings.maxLifetime + settings.longestInterval
  marked : MarkedSince since s.host ∨ s.closing = true ∨ s.marking = true
  entered : s.marking = true → s.elapsed = since
  fits : Fits settings s since s.detector.place

/-- The holder of the lock is in its call. -/
def HolderCalls (s : State) : Party × Task → Prop
  | (.detector, .enter _) => s.detector.place = .calling .portal
  | (.detector, .exit _) => ∃ purpose, purpose ≠ .portal ∧ s.detector.place = .calling purpose
  | (.watchdog, .enter _) => False
  | (.watchdog, .exit _) => s.watchdogCalls = true

structure Inv (settings : DetectorSettings) (s : State) : Prop where
  holder : ∀ holder, s.holder = some holder → HolderCalls s holder
  early : ∀ party step, s.holder = some (party, .enter step) → step ≠ .mark →
    s.openSince = none
  marks : s.marking = true → s.openSince.isSome = true
  isOpen : ∀ since, s.openSince = some since → Open settings s since
  permissive : s.host.firewall = .permissive → s.openSince.isSome = true

section Invariant

variable {settings : DetectorSettings} {s s' : State} {since : Nat}

theorem inv_of_starts (h : Starts s) : Inv settings s := by
  constructor
  · intro holder hholder
    rw [h.holder] at hholder
    cases hholder
  · intro party step hholder
    rw [h.holder] at hholder
    cases hholder
  · intro hmarking
    rw [State.marking, h.holder] at hmarking
    cases hmarking
  · intro since hopen
    rw [h.openSince] at hopen
    cases hopen
  · exact fun hfirewall => absurd hfirewall h.firewall

theorem inTime_iff {elapsed : Nat} (hopen : s.openSince = some since) :
    inTime settings s elapsed = true ↔ elapsed ≤ since + settings.maxLifetime := by
  rw [inTime, hopen, Option.all_some, decide_eq_true_eq]

theorem marking_of_holder (h : s'.holder = s.holder) : s'.marking = s.marking := by
  rw [State.marking, h, State.marking]

theorem closing_of_holder (h : s'.holder = s.holder) : s'.closing = s.closing := by
  rw [State.closing, h, State.closing]

theorem Inv.not_detector (hinv : Inv settings s) (h : ∀ purpose, s.detector.place ≠ .calling purpose)
    {task : Task} : s.holder ≠ some (.detector, task) := by
  intro hholder
  have hcalls := hinv.holder _ hholder
  cases task with
  | enter step => exact h _ hcalls
  | exit step =>
      obtain ⟨purpose, _, hplace⟩ := hcalls
      exact h _ hplace

/-- The detector moves outside of the lock. What it may change is where it is, what the
marker says and what only it reads. -/
theorem Inv.move (hinv : Inv settings s)
    (hplace : ∀ purpose, s.detector.place ≠ .calling purpose)
    (hholder : s'.holder = s.holder) (hopen : s'.openSince = s.openSince)
    (helapsed : s'.elapsed = s.elapsed) (hwatchdog : s'.watchdogCalls = s.watchdogCalls)
    (hfirewall : s'.host.firewall = s.host.firewall)
    (hmarked : ∀ since, s.openSince = some since → MarkedSince since s.host →
      MarkedSince since s'.host ∨ s.closing = true)
    (hfits : ∀ since, s.openSince = some since → Open settings s since →
      Fits settings s' since s'.detector.place) :
    Inv settings s' := by
  have hmarking := marking_of_holder hholder
  have hclosing := closing_of_holder hholder
  constructor
  · rintro ⟨party, task⟩ hholds
    rw [hholder] at hholds
    cases party with
    | detector => exact absurd hholds (hinv.not_detector hplace)
    | watchdog =>
        have hcalls := hinv.holder _ hholds
        cases task with
        | enter step => exact hcalls
        | exit step => exact hwatchdog.trans hcalls
  · intro party step hholds hstep
    rw [hopen]
    exact hinv.early party step (hholder ▸ hholds) hstep
  · rw [hmarking, hopen]
    exact hinv.marks
  · intro since hsince
    rw [hopen] at hsince
    have hbefore := hinv.isOpen since hsince
    refine ⟨?_, ?_, ?_, ?_, hfits since hsince hbefore⟩
    · rw [helapsed]
      exact hbefore.started
    · rw [helapsed]
      exact hbefore.bounded
    · rw [hclosing, hmarking]
      rcases hbefore.marked with h | h
      · exact (hmarked since hsince h).imp_right .inl
      · exact .inr h
    · rw [hmarking, helapsed]
      exact hbefore.entered
  · rw [hfirewall, hopen]
    exact hinv.permissive

/-- While nobody switches the passthrough, where the detector may be depends on the time. -/
theorem fits_of_quiet {place : Place} (hfits : Fits settings s since place)
    (hclosing : s.closing = false) (hmarking : s.marking = false)
    (helapsed : s'.elapsed = s.elapsed) : Fits settings s' since place := by
  have hnever : ¬ (s.closing = true) := by
    rw [hclosing]
    exact Bool.false_ne_true
  cases place with
  | settling state =>
      cases state with
      | portal => exact .inl (helapsed ▸ hfits.resolve_right hnever)
      | authenticated => trivial
      | noNetwork => trivial
  | extending startTs monoStart => exact .inl (helapsed ▸ hfits.resolve_right hnever)
  | asleep wakeAt => exact .inl (hfits.resolve_right hnever)
  | calling purpose =>
      cases purpose with
      | portal =>
          have heither : s.closing = true ∨ s.marking = true := hfits
          rw [hmarking] at heither
          exact absurd (heither.resolve_left hnever) Bool.false_ne_true
      | _ => trivial
  | _ => trivial

/-- While an exit closes the passthrough, the detector may be anywhere. -/
theorem fits_of_closing {place : Place} (hclosing : s.closing = true) :
    Fits settings s since place := by
  cases place with
  | settling state =>
      cases state with
      | portal => exact .inr hclosing
      | authenticated => trivial
      | noNetwork => trivial
  | extending startTs monoStart => exact .inr hclosing
  | asleep wakeAt => exact .inr hclosing
  | calling purpose =>
      cases purpose with
      | portal => exact .inl hclosing
      | _ => trivial
  | _ => trivial

/-- A sleep that begins in time ends in time. -/
theorem fits_sleep {state : NetworkState}
    (h : s.elapsed ≤ since + settings.maxLifetime ∨ s.closing = true) :
    Fits settings (s.sleep settings state) since (.asleep (s.elapsed + settings.interval state)) := by
  have hinterval := settings.interval_le state
  rcases h with hintime | hclosing
  · left
    omega
  · exact .inr hclosing

variable {surroundings : Surroundings}

/-- The refresh of a marker that is whole: past the lifetime the mode is closed, and
otherwise the reference of the uptime stays. -/
theorem refresh_of_marked (hmarked : MarkedSince since s.host)
    (hreadable : surroundings.uptimeReadable = true) (hstarted : since ≤ s.elapsed) :
    refreshPortalModeExpiry settings.toSettings (s.clock surroundings) s.host.marker = .close ∨
      ∃ startTs, refreshPortalModeExpiry settings.toSettings (s.clock surroundings) s.host.marker =
        .extend startTs (some since) ∧ s.elapsed < since + settings.maxLifetime := by
  obtain ⟨marker, hmarker, _, hmono⟩ := hmarked
  rw [hmarker, refreshPortalModeExpiry]
  simp only [hmono, State.clock, hreadable, if_true]
  split
  · exact .inl rfl
  · split
    · exact .inl rfl
    · split
      · exact .inl rfl
      · next hcap =>
          refine .inr ⟨_, rfl, ?_⟩
          have hmax := Nat.le_max_right (surroundings.wall - marker.start.getD surroundings.wall)
            (s.elapsed - since)
          omega

theorem writePortalModeMarker_of_writes {chance : Chance} (h : writesMarker chance = true)
    (settings : Settings) (clock : Clock) (marker : Option Marker) (startTs : Nat)
    (monoStart : Option Nat) :
    writePortalModeMarker settings chance clock marker startTs monoStart =
      some (newMarker settings clock startTs monoStart) := by
  cases chance with
  | refused => cases h
  | cut length =>
      have hlength : 3 ≤ length := of_decide_eq_true h
      obtain ⟨more, rfl⟩ := Nat.exists_eq_add_of_le' hlength
      rfl
  | done | down | late => rfl

theorem marked_of_open (hopen : Open settings s since) (hclosing : s.closing = false)
    (hmarking : s.marking = false) : MarkedSince since s.host := by
  rcases hopen.marked with hmarked | h | h
  · exact hmarked
  · rw [hclosing] at h
    cases h
  · rw [hmarking] at h
    cases h

/-- Outside of the lock the detector sees the marker of an open passthrough, unless an
exit has removed it. -/
theorem Inv.marked (hinv : Inv settings s) (hplace : ∀ purpose, s.detector.place ≠ .calling purpose)
    (hopen : s.openSince = some since) : MarkedSince since s.host ∨ s.closing = true := by
  rcases (hinv.isOpen since hopen).marked with hmarked | hclosing | hmarking
  · exact .inl hmarked
  · exact .inr hclosing
  · exfalso
    rw [State.marking] at hmarking
    split at hmarking
    · next party hholder =>
        have hcalls := hinv.holder _ hholder
        cases party with
        | detector => exact hplace _ hcalls
        | watchdog => exact hcalls
    · cases hmarking

theorem isSome_of_marked (h : MarkedSince since s.host) : s.host.marker.isSome = true := by
  obtain ⟨marker, hmarker, _⟩ := h
  rw [hmarker, Option.isSome_some]

section

variable (hinv : Inv settings s)
include hinv

/-- One move of the detector to a place that needs nothing. -/
theorem Inv.goTo (hplace : ∀ purpose, s.detector.place ≠ .calling purpose) {place : Place}
    (hfits : ∀ since, s.openSince = some since → Fits settings (s.goTo place) since place) :
    Inv settings (s.goTo place) :=
  hinv.move hplace rfl rfl rfl rfl rfl (fun _ _ h => .inl h) fun since hsince _ => hfits since hsince

theorem inv_poll (hplace : s.detector.place = .polling) (surroundings : Surroundings) :
    Inv settings (s.poll settings surroundings) := by
  have hoffice : ∀ purpose, s.detector.place ≠ .calling purpose := by
    rw [hplace]
    exact fun _ => Place.noConfusion
  -- What the observation changes is read by the detector only.
  have hobserved : ∀ observation place,
      (∀ since, s.openSince = some since →
        Fits settings ({ s with host := { s.host with observation } }.goTo place) since place) →
      Inv settings ({ s with host := { s.host with observation } }.goTo place) :=
    fun observation place hfits => hinv.move hoffice rfl rfl rfl rfl rfl (fun _ _ h => .inl h)
      fun since hsince _ => hfits since hsince
  have hunmarked : s.host.marker.isSome = false → ∀ since, s.openSince = some since →
      s.closing = true := by
    intro hnone since hsince
    refine (hinv.marked hoffice hsince).resolve_left fun hmarked => ?_
    rw [isSome_of_marked hmarked] at hnone
    cases hnone
  rw [State.poll]
  cases surroundings.network with
  | authenticated =>
      dsimp only
      split
      · exact hobserved _ _ fun _ _ => trivial
      · exact hobserved _ _ fun _ _ => trivial
  | portal =>
      dsimp only
      split
      · next hnot =>
          have hnone : s.host.marker.isSome = false := by
            rw [Bool.and_eq_true, Option.isNone_iff_eq_none] at hnot
            rw [hnot.2, Option.isSome_none]
          split
          · exact hobserved _ _ fun since hsince => .inl (hunmarked hnone since hsince)
          · exact hobserved _ _ fun since hsince => .inr (hunmarked hnone since hsince)
      · split
        · exact hobserved _ _ fun _ _ => trivial
        · next hnone =>
            exact hobserved _ _ fun since hsince =>
              .inr (hunmarked (Bool.eq_false_iff.mpr hnone) since hsince)
  | noNetwork => exact hobserved _ _ fun _ _ => trivial

theorem inv_stepDetector (hsound : soundDetector settings s surroundings s.detector.place = true)
    (hstep : s.stepDetector settings surroundings s.detector.place = some s') :
    Inv settings s' := by
  cases hplace : s.detector.place with
  | stopped =>
      rw [hplace] at hstep
      cases hstep
  | starting =>
      have hoffice : ∀ purpose, s.detector.place ≠ .calling purpose := by
        rw [hplace]
        exact fun _ => Place.noConfusion
      rw [hplace, State.stepDetector] at hstep
      split at hstep
      · cases hstep
        exact hinv.move hoffice rfl rfl rfl rfl rfl (fun _ _ h => .inl h) fun _ _ _ => trivial
      · cases hstep
        exact hinv.move hoffice rfl rfl rfl rfl rfl (fun _ _ h => .inl h) fun _ _ _ => trivial
  | polling =>
      rw [hplace] at hstep
      cases hstep
      exact inv_poll hinv hplace surroundings
  | refreshing =>
      have hoffice : ∀ purpose, s.detector.place ≠ .calling purpose := by
        rw [hplace]
        exact fun _ => Place.noConfusion
      rw [hplace] at hsound
      rw [hplace, State.stepDetector] at hstep
      have hreads : ∀ since, s.openSince = some since → surroundings.uptimeReadable = true := by
        intro since hsince
        simpa [soundDetector, hsince] using hsound
      split at hstep
      · next hrefresh =>
          cases hstep
          refine hinv.goTo hoffice fun since hsince => .inr ?_
          refine (hinv.marked hoffice hsince).resolve_left fun hmarked => ?_
          rcases refresh_of_marked hmarked (hreads since hsince)
            (hinv.isOpen since hsince).started with h | ⟨_, h, _⟩
          · rw [hrefresh] at h
            cases h
          · rw [hrefresh] at h
            cases h
      · cases hstep
        exact hinv.move hoffice rfl rfl rfl rfl rfl (fun _ _ h => .inl h) fun _ _ _ => trivial
      · next startTs monoStart hrefresh =>
          cases hstep
          refine hinv.goTo hoffice fun since hsince => ?_
          refine (hinv.marked hoffice hsince).imp_left fun hmarked => ?_
          rcases refresh_of_marked hmarked (hreads since hsince)
            (hinv.isOpen since hsince).started with h | ⟨_, h, hintime⟩
          · rw [hrefresh] at h
            cases h
          · rw [hrefresh] at h
            cases h
            exact ⟨Nat.le_of_lt hintime, rfl⟩
  | extending startTs monoStart =>
      have hoffice : ∀ purpose, s.detector.place ≠ .calling purpose := by
        rw [hplace]
        exact fun _ => Place.noConfusion
      rw [hplace] at hsound
      rw [hplace] at hstep
      cases hstep
      have hfits : ∀ since, s.openSince = some since →
          (s.elapsed ≤ since + settings.maxLifetime ∧ monoStart = some since) ∨
            s.closing = true := by
        intro since hsince
        have hfits := (hinv.isOpen since hsince).fits
        rwa [hplace] at hfits
      refine hinv.move hoffice rfl rfl rfl rfl rfl ?_ fun since hsince _ =>
        (hfits since hsince).imp_left And.left
      intro since hsince hmarked
      refine (hfits since hsince).imp_left fun htimely => ?_
      simp only [soundDetector, hsince, Option.isNone_some, Bool.false_or, Bool.or_eq_true,
        decide_eq_true_eq] at hsound
      rcases hsound with hrefused | hwrites
      · rw [hrefused]
        exact hmarked
      · rw [htimely.2]
        exact ⟨_, writePortalModeMarker_of_writes hwrites _ _ _ _ _, rfl, rfl⟩
  | settling state =>
      have hoffice : ∀ purpose, s.detector.place ≠ .calling purpose := by
        rw [hplace]
        exact fun _ => Place.noConfusion
      rw [hplace] at hsound
      rw [hplace, State.stepDetector] at hstep
      split at hstep
      · cases hstep
        exact hinv.move hoffice rfl rfl rfl rfl rfl (fun _ _ h => .inl h) fun _ _ _ => trivial
      · next hexpired =>
          cases hstep
          refine hinv.move hoffice rfl rfl rfl rfl rfl (fun _ _ h => .inl h) fun since hsince hopen => ?_
          apply fits_sleep
          have hfits := hopen.fits
          rw [hplace] at hfits
          simp only [soundDetector, Bool.or_eq_true, decide_eq_true_eq, inTime_iff hsince,
            Option.isNone_iff_eq_none] at hsound
          rcases hsound with ((rfl | hintime) | hnone) | hover
          · exact hfits
          · exact .inl hintime
          · refine .inr ((hinv.marked hoffice hsince).resolve_left fun hmarked => ?_)
            have hthere := isSome_of_marked hmarked
            rw [hnone] at hthere
            cases hthere
          · simp only [hover, Bool.and_true, decide_eq_true_eq, not_not] at hexpired
            subst hexpired
            exact hfits
  | calling purpose =>
      rw [hplace] at hstep
      cases hstep
  | asleep wakeAt =>
      have hoffice : ∀ purpose, s.detector.place ≠ .calling purpose := by
        rw [hplace]
        exact fun _ => Place.noConfusion
      rw [hplace] at hstep
      cases hstep
      exact hinv.goTo hoffice fun _ _ => trivial

/-! ### Time -/

theorem inv_tick {seconds : Nat} (hsound : sound settings s (.tick seconds) = true)
    (hstep : s.step settings (.tick seconds) = some s') : Inv settings s' := by
  obtain ⟨hsame, hsleep⟩ : s' = { s with elapsed := s.elapsed + seconds } ∧
      ∀ wakeAt, s.detector.place = .asleep wakeAt → s.elapsed + seconds ≤ wakeAt := by
    rw [State.step] at hstep
    split at hstep
    · next wakeAt hplace =>
        split at hstep
        · next hwake =>
            refine ⟨(Option.some.inj hstep).symm, fun other hother => ?_⟩
            rw [hplace] at hother
            cases hother
            exact hwake
        · cases hstep
    · next hplace =>
        exact ⟨(Option.some.inj hstep).symm, fun wakeAt hother => absurd hother (hplace wakeAt)⟩
  subst hsame
  simp only [sound, Bool.and_eq_true, Bool.not_eq_true', Bool.or_eq_true] at hsound
  obtain ⟨hmarking, htime⟩ := hsound
  refine ⟨hinv.holder, hinv.early, hinv.marks, fun since hsince => ?_, hinv.permissive⟩
  have hbefore : s.openSince = some since := hsince
  have hopen := hinv.isOpen since hbefore
  rw [inTime_iff hbefore] at htime
  have hawake : s.isAsleep = false → s.elapsed + seconds ≤ since + settings.maxLifetime := by
    intro hawake
    refine htime.resolve_right fun hasleep => ?_
    rw [hawake] at hasleep
    cases hasleep.1
  refine ⟨Nat.le_add_right_of_le hopen.started, ?_, hopen.marked, fun h => ?_, ?_⟩
  · rcases htime with hintime | ⟨hasleep, hfree⟩
    · exact Nat.le_add_right_of_le hintime
    · cases hplace : s.detector.place with
      | asleep wakeAt =>
          have hfits := hopen.fits
          rw [hplace] at hfits
          rcases hfits with hwake | hclosing
          · exact (hsleep wakeAt hplace).trans hwake
          · rw [State.closing, Option.isNone_iff_eq_none.mp hfree] at hclosing
            cases hclosing
      | _ =>
          rw [State.isAsleep, hplace] at hasleep
          cases hasleep
  · have hmarks : s.marking = true := h
    rw [hmarking] at hmarks
    cases hmarks
  · have hfits := hopen.fits
    change Fits settings _ since s.detector.place
    cases hplace : s.detector.place with
    | settling state =>
        have hintime := hawake (by rw [State.isAsleep, hplace])
        cases state with
        | portal => exact .inl hintime
        | authenticated => trivial
        | noNetwork => trivial
    | extending startTs monoStart =>
        rw [hplace] at hfits
        have hintime := hawake (by rw [State.isAsleep, hplace])
        exact hfits.imp_left fun h => ⟨hintime, h.2⟩
    | asleep wakeAt =>
        rw [hplace] at hfits
        exact hfits
    | calling purpose =>
        rw [hplace] at hfits
        cases purpose with
        | portal => exact hfits
        | _ => trivial
    | _ => trivial

/-! ### Processes that start, wait and die -/

theorem inv_start (hstep : s.step settings .start = some s') : Inv settings s' := by
  rw [State.step] at hstep
  split at hstep
  · next hplace =>
      cases hstep
      refine hinv.move ?_ rfl rfl rfl rfl rfl (fun _ _ h => .inl h) fun _ _ _ => trivial
      rw [hplace]
      exact fun _ => Place.noConfusion
  · cases hstep

end

theorem Open.congr (hopen : Open settings s since) (hhost : s'.host = s.host)
    (helapsed : s'.elapsed = s.elapsed) (hholder : s'.holder = s.holder)
    (hfits : Fits settings s' since s'.detector.place) : Open settings s' since := by
  have hmarking := marking_of_holder hholder
  have hclosing := closing_of_holder hholder
  refine ⟨?_, ?_, ?_, ?_, hfits⟩
  · rw [helapsed]
    exact hopen.started
  · rw [helapsed]
    exact hopen.bounded
  · rw [hhost, hclosing, hmarking]
    exact hopen.marked
  · rw [hmarking, helapsed]
    exact hopen.entered

theorem inv_watchdog (hinv : Inv settings s)
    (hstep : s.step settings (.watchdog surroundings) = some s') : Inv settings s' := by
  rw [State.step] at hstep
  split at hstep
  · cases hstep
  · split at hstep
    · cases hstep
      refine ⟨?_, hinv.early, hinv.marks, fun since hsince => ?_, hinv.permissive⟩
      · rintro ⟨party, task⟩ hholds
        have hcalls := hinv.holder _ hholds
        cases party with
        | detector =>
            cases task with
            | enter step => exact hcalls
            | exit step => exact hcalls
        | watchdog =>
            cases task with
            | enter step => exact hcalls
            | exit step => rfl
      · exact (hinv.isOpen since hsince).congr rfl rfl rfl (hinv.isOpen since hsince).fits
    · cases hstep
      exact hinv

/-- An open passthrough that nobody switches is not entered. -/
theorem Inv.not_entering (hinv : Inv settings s) (hfree : s.holder = none)
    (hplace : s.detector.place = .calling .portal) : s.openSince = none := by
  cases hopen : s.openSince with
  | none => rfl
  | some since =>
      have hfits := (hinv.isOpen since hopen).fits
      rw [hplace] at hfits
      rcases hfits with h | h
      · rw [State.closing, hfree] at h
        cases h
      · rw [State.marking, hfree] at h
        cases h

variable {party : Party}

theorem inv_acquire (hinv : Inv settings s) (hstep : s.step settings (.acquire party) = some s') :
    Inv settings s' := by
  rw [State.step] at hstep
  split at hstep
  · next hfree =>
      obtain ⟨task, hcall, rfl⟩ := Option.map_eq_some_iff.mp hstep
      have hfirst : (task = .enter .backUp ∧ party = .detector ∧
            s.detector.place = .calling .portal) ∨
          (task = .exit .restore ∧ HolderCalls s (party, .exit .restore)) := by
        cases party with
        | detector =>
            rw [State.call] at hcall
            split at hcall
            · next purpose hplace =>
                cases Option.some.inj hcall
                cases purpose with
                | portal => exact .inl ⟨rfl, rfl, hplace⟩
                | _ => exact .inr ⟨rfl, _, fun h => Purpose.noConfusion h, hplace⟩
            · cases hcall
        | watchdog =>
            rw [State.call] at hcall
            split at hcall
            · next hcalls => exact .inr ⟨(Option.some.inj hcall).symm, hcalls⟩
            · cases hcall
      have hquiet : ({ s with holder := some (party, task) } : State).marking = false ∧
          ({ s with holder := some (party, task) } : State).closing = false := by
        rcases hfirst with ⟨rfl, _⟩ | ⟨rfl, _⟩
        · exact ⟨rfl, rfl⟩
        · exact ⟨rfl, rfl⟩
      constructor
      · rintro _ ⟨⟩
        rcases hfirst with ⟨rfl, rfl, hplace⟩ | ⟨rfl, hcalls⟩
        · exact hplace
        · cases party with
          | detector => exact hcalls
          | watchdog => exact hcalls
      · intro other step hholds hmark
        rcases hfirst with ⟨rfl, rfl, hplace⟩ | ⟨rfl, _⟩
        · exact hinv.not_entering hfree hplace
        · cases hholds
      · intro hmarking
        rw [hquiet.1] at hmarking
        cases hmarking
      · intro since hsince
        have hopen := hinv.isOpen since hsince
        have hmarked : MarkedSince since s.host := by
          refine marked_of_open hopen ?_ ?_
          · rw [State.closing, hfree]
          · rw [State.marking, hfree]
        refine ⟨hopen.started, hopen.bounded, .inl hmarked, fun h => ?_, ?_⟩
        · rw [hquiet.1] at h
          cases h
        · exact fits_of_quiet hopen.fits (by rw [State.closing, hfree])
            (by rw [State.marking, hfree]) rfl
      · exact hinv.permissive
  · cases hstep

/-! ### Calls that end without the lock -/

theorem inTime_of_sound (hparty : party = .detector)
    (hsound : sound settings s (.giveUp party) = true) (hsince : s.openSince = some since) :
    s.elapsed ≤ since + settings.maxLifetime := by
  subst hparty
  have hintime : inTime settings s s.elapsed = true := by
    simpa [sound] using hsound
  exact (inTime_iff hsince).mp hintime

section

variable (hinv : Inv settings s)
include hinv

/-- The invariant is about the detector only through where it is and whom the lock
belongs to. -/
theorem Inv.place (hfree : ∀ task, s.holder ≠ some (.detector, task)) {detector : Detector}
    (hfits : ∀ since, s.openSince = some since →
      Fits settings { s with detector } since detector.place) :
    Inv settings { s with detector } := by
  refine ⟨?_, hinv.early, hinv.marks, fun since hsince => ?_, hinv.permissive⟩
  · rintro ⟨party, task⟩ hholds
    cases party with
    | detector => exact absurd hholds (hfree task)
    | watchdog =>
        have hcalls := hinv.holder _ hholds
        cases task with
        | enter step => exact hcalls
        | exit step => exact hcalls
  · exact (hinv.isOpen since hsince).congr rfl rfl rfl (hfits since hsince)

/-- The watchdog is in no call and does not hold the lock. -/
theorem Inv.watchdogIdle (hfree : ∀ task, s.holder ≠ some (.watchdog, task)) :
    Inv settings { s with watchdogCalls := false } := by
  refine ⟨?_, hinv.early, hinv.marks, fun since hsince => ?_, hinv.permissive⟩
  · rintro ⟨party, task⟩ hholds
    cases party with
    | detector =>
        have hcalls := hinv.holder _ hholds
        cases task with
        | enter step => exact hcalls
        | exit step => exact hcalls
    | watchdog => exact absurd hholds (hfree task)
  · exact (hinv.isOpen since hsince).congr rfl rfl rfl (hinv.isOpen since hsince).fits

/-- What the detector does after a call, as long as the lifetime is not over or the
passthrough is closed. -/
theorem Inv.returned (hfree : ∀ task, s.holder ≠ some (.detector, task))
    (hintime : ∀ since, s.openSince = some since → s.elapsed ≤ since + settings.maxLifetime)
    (succeeded : Bool) (purpose : Purpose) :
    Inv settings (s.returned settings succeeded purpose) := by
  cases purpose with
  | expiredAtStart => exact hinv.place hfree fun _ _ => trivial
  | authenticated => exact hinv.place hfree fun _ _ => trivial
  | portal => exact hinv.place hfree fun since hsince => .inl (hintime since hsince)
  | capReached => exact hinv.place hfree fun since hsince => .inl (hintime since hsince)
  | expired state =>
      refine hinv.place hfree fun since hsince => ?_
      exact .inl (by
        have hinterval := settings.interval_le state
        have hle := hintime since hsince
        change s.elapsed + _ ≤ _
        omega)

theorem inv_giveUp (hsound : sound settings s (.giveUp party) = true)
    (hstep : s.step settings (.giveUp party) = some s') : Inv settings s' := by
  rw [State.step] at hstep
  split at hstep
  · cases hstep
  · next hwaits =>
      cases hstep
      rw [Bool.or_eq_true, not_or] at hwaits
      have hfree : ∀ task, s.holder ≠ some (party, task) := by
        intro task hholds
        apply hwaits.1
        rw [State.holds, hholds, Option.any_some, decide_eq_true_eq]
      cases party with
      | detector =>
          rw [State.finish]
          split
          · exact hinv.returned hfree (fun since hsince => inTime_of_sound rfl hsound hsince) _ _
          · exact hinv
      | watchdog => exact hinv.watchdogIdle hfree

end

/-- A process that has the lock between the firewall and the marker does not die. -/
theorem quiet_of_sound (hsound : sound settings s (.die party) = true)
    (hholds : s.holds party = true) (hopen : s.openSince = some since) :
    s.marking = false ∧ s.closing = false := by
  simpa [sound, hholds, hopen] using hsound

theorem inv_die (hinv : Inv settings s) (hsound : sound settings s (.die party) = true)
    (hstep : s.step settings (.die party) = some s') : Inv settings s' := by
  by_cases hholds : s.holds party = true
  · -- The lock is free again, and nobody was switching.
    have hfilter : s.holder.filter (fun holder => decide (holder.1 ≠ party)) = none := by
      rw [State.holds, Option.any_eq_true] at hholds
      obtain ⟨holder, hholder, hparty⟩ := hholds
      rw [hholder, Option.filter_some, of_decide_eq_true hparty]
      simp
    have hreleased : Inv settings { s with holder := none } := by
      refine ⟨?_, ?_, ?_, fun since hsince => ?_, hinv.permissive⟩
      · rintro _ ⟨⟩
      · rintro _ _ ⟨⟩
      · intro hmarking
        cases hmarking
      · obtain ⟨hmarking, hclosing⟩ := quiet_of_sound hsound hholds hsince
        have hopen := hinv.isOpen since hsince
        have hmarked : MarkedSince since s.host := marked_of_open hopen hclosing hmarking
        refine ⟨hopen.started, hopen.bounded, .inl hmarked, ?_,
          fits_of_quiet hopen.fits hclosing hmarking rfl⟩
        intro hmarks
        cases hmarks
    simp only [State.step, hfilter] at hstep
    cases party with
    | detector =>
        cases hstep
        exact hreleased.place (fun _ => (Option.some_ne_none _).symm) fun _ _ => trivial
    | watchdog =>
        cases hstep
        exact hreleased.watchdogIdle fun _ => (Option.some_ne_none _).symm
  · have hfilter : s.holder.filter (fun holder => decide (holder.1 ≠ party)) = s.holder := by
      cases hholder : s.holder with
      | none => rfl
      | some holder =>
          have hother : ¬ holder.1 = party := by
            simpa [State.holds, hholder] using hholds
          rw [Option.filter_some, if_pos (decide_eq_true hother)]
    have hfree : ∀ task, s.holder ≠ some (party, task) := by
      intro task hholder
      apply hholds
      rw [State.holds, hholder, Option.any_some, decide_eq_true_eq]
    simp only [State.step, hfilter] at hstep
    cases party with
    | detector =>
        cases hstep
        exact hinv.place hfree fun _ _ => trivial
    | watchdog =>
        cases hstep
        exact hinv.watchdogIdle hfree

/-! ### Steps under the lock -/

theorem restartDnsmasq_keeps (host : Host) (chance : Chance) :
    (host.restartDnsmasq chance).firewall = host.firewall ∧
      (host.restartDnsmasq chance).marker = host.marker := by
  cases chance with
  | done | refused | cut length | down | late => exact ⟨rfl, rfl⟩

/-- Until it relaxes the firewall, an enter leaves it. -/
theorem run_enter_early {env : Env} {host : Host} {step : EnterStep} (hrelax : step ≠ .relax)
    (hmark : step ≠ .mark) :
    ∃ next, (step.run settings.toSettings env host).2 = some next ∧ next ≠ .mark ∧
      (step.run settings.toSettings env host).1.firewall = host.firewall := by
  cases step with
  | backUp =>
      rw [EnterStep.run]
      split
      · exact ⟨_, rfl, EnterStep.noConfusion, rfl⟩
      · exact ⟨_, rfl, EnterStep.noConfusion, rfl⟩
  | writePassthrough =>
      rw [EnterStep.run]
      split
      · exact ⟨_, rfl, EnterStep.noConfusion, rfl⟩
      · exact ⟨_, rfl, EnterStep.noConfusion, rfl⟩
  | restart =>
      have hkeeps := (restartDnsmasq_keeps host env.chance).1
      rw [EnterStep.run]
      split
      · exact ⟨_, rfl, EnterStep.noConfusion, hkeeps⟩
      · split
        · exact ⟨_, rfl, EnterStep.noConfusion, hkeeps⟩
        · exact ⟨_, rfl, EnterStep.noConfusion, hkeeps⟩
  | restore =>
      rw [EnterStep.run]
      split
      · exact ⟨_, rfl, EnterStep.noConfusion, rfl⟩
      · exact ⟨_, rfl, EnterStep.noConfusion, rfl⟩
  | restartRestored =>
      exact ⟨_, rfl, EnterStep.noConfusion, (restartDnsmasq_keeps host env.chance).1⟩
  | relax => exact absurd rfl hrelax
  | mark => exact absurd rfl hmark

section

variable (hinv : Inv settings s)
include hinv

theorem inv_relax (hholder : s.holder = some (party, .enter .relax))
    (hplace : s.detector.place = .calling .portal) (surroundings : Surroundings) :
    Inv settings (s.stepTask settings surroundings .detector (.enter .relax)) := by
  have hclosed : s.openSince = none := hinv.early _ _ hholder EnterStep.noConfusion
  obtain ⟨firewall, hafter⟩ : ∃ firewall,
      s.stepTask settings surroundings .detector (.enter .relax) =
        { s with
          host := { s.host with firewall }
          openSince := some s.elapsed
          holder := some (.detector, .enter .mark) } := by
    cases hscoped : settings.scopedPassthrough with
    | true =>
        refine ⟨activateFirewall surroundings.chance s.host.firewall, ?_⟩
        simp only [State.stepTask, EnterStep.run, hscoped, if_true, hclosed, Option.none_or]
        rfl
    | false =>
        refine ⟨deactivateFirewall surroundings.chance s.host.firewall, ?_⟩
        simp only [State.stepTask, EnterStep.run, hscoped, if_true, hclosed, Option.none_or]
        rfl
  rw [hafter]
  refine ⟨?_, fun _ step hholds hstep => ?_, fun _ => rfl, fun since hsince => ?_, fun _ => rfl⟩
  · rintro _ ⟨⟩
    exact hplace
  · cases hholds
    exact absurd rfl hstep
  · cases hsince
    refine ⟨Nat.le_refl _, ?_, .inr (.inr rfl), fun _ => rfl, ?_⟩
    · exact (Nat.le_add_right _ _).trans (Nat.le_add_right _ _)
    · change Fits settings _ _ s.detector.place
      rw [hplace]
      exact .inr rfl

/-- The marker of the passthrough has the time at which it opened. -/
theorem inv_mark (hholder : s.holder = some (party, .enter .mark))
    (hplace : s.detector.place = .calling .portal)
    (hsound : soundTask s surroundings (.enter .mark) = true) :
    Inv settings (s.stepTask settings surroundings .detector (.enter .mark)) := by
  rw [soundTask, Bool.and_eq_true] at hsound
  obtain ⟨hwrites, hreadable⟩ := hsound
  have hmarking : s.marking = true := by rw [State.marking, hholder]
  have hafter : s.stepTask settings surroundings .detector (.enter .mark) =
      { s with
        host :=
          { s.host with
            marker := some (newMarker settings.toSettings (s.clock surroundings)
              surroundings.wall none) }
        holder := none
        detector := { place := .settling .portal, detected := true } } := by
    have hwritten := writePortalModeMarker_of_writes hwrites settings.toSettings
      (s.clock surroundings) s.host.marker surroundings.wall none
    simp only [State.stepTask, EnterStep.run, State.finish, hplace, State.returned, State.env,
      Bool.or_true, reduceCtorEq, if_false, State.clock] at hwritten ⊢
    rw [hwritten]
  rw [hafter]
  refine ⟨?_, ?_, ?_, fun since hsince => ?_, hinv.permissive⟩
  · rintro _ ⟨⟩
  · rintro _ _ ⟨⟩
  · intro hmarks
    cases hmarks
  · have hopen := hinv.isOpen since hsince
    have hentered := hopen.entered hmarking
    have hmarked : MarkedSince since { s.host with
        marker := some (newMarker settings.toSettings (s.clock surroundings)
          surroundings.wall none) } := by
      refine ⟨_, rfl, rfl, ?_⟩
      rw [newMarker, Option.none_or, State.clock, hreadable, hentered]
      rfl
    refine ⟨hopen.started, hopen.bounded, .inl hmarked, fun hmarks => ?_, ?_⟩
    · cases hmarks
    · left
      change s.elapsed ≤ _
      omega

theorem inv_enter {step : EnterStep} (hholder : s.holder = some (party, .enter step))
    (hsound : soundTask s surroundings (.enter step) = true) :
    Inv settings (s.stepTask settings surroundings party (.enter step)) := by
  obtain ⟨rfl, hplace⟩ : party = .detector ∧ s.detector.place = .calling .portal := by
    have hcalls := hinv.holder _ hholder
    cases party with
    | detector => exact ⟨rfl, hcalls⟩
    | watchdog => exact hcalls.elim
  by_cases hrelax : step = .relax
  · subst hrelax
    exact inv_relax hinv hholder hplace surroundings
  · by_cases hmark : step = .mark
    · subst hmark
      exact inv_mark hinv hholder hplace hsound
    · obtain ⟨next, hnext, hnotMark, hfirewall⟩ : ∃ next,
          (step.run settings.toSettings (s.env surroundings) s.host).2 = some next ∧ next ≠ .mark ∧
            (step.run settings.toSettings (s.env surroundings) s.host).1.firewall =
              s.host.firewall :=
        run_enter_early hrelax hmark
      have hclosed : s.openSince = none := hinv.early _ _ hholder hmark
      have hafter : s.stepTask settings surroundings .detector (.enter step) =
          { s with
            host := (step.run settings.toSettings (s.env surroundings) s.host).1
            holder := some (.detector, .enter next) } := by
        rw [State.stepTask]
        simp only [hnext, if_neg hrelax]
      rw [hafter]
      refine ⟨?_, fun _ _ _ _ => hclosed, fun hmarking => ?_, fun since hsince => ?_, ?_⟩
      · rintro _ ⟨⟩
        exact hplace
      · rw [State.marking] at hmarking
        split at hmarking
        · next hholds =>
            cases hholds
            exact absurd rfl hnotMark
        · cases hmarking
      · have hnone : some since = none := hsince.symm.trans hclosed
        cases hnone
      · intro hpermissive
        exact hinv.permissive (hfirewall.symm.trans hpermissive)

/-- A part of an exit that leaves the firewall: what it changes of the marker only counts
once it closes the passthrough. -/
theorem Inv.exitStep {step next : ExitStep} {host : Host}
    (hholder : s.holder = some (party, .exit step)) (hfirewall : host.firewall = s.host.firewall)
    (hnext : (next = .resetObservation ∨ next = .activate) ∨
      (host.marker = s.host.marker ∧ step ≠ .resetObservation ∧ step ≠ .activate)) :
    Inv settings { s with host, holder := some (party, .exit next) } := by
  refine ⟨?_, ?_, fun hmarks => ?_, fun since hsince => ?_, fun hpermissive => ?_⟩
  · rintro _ ⟨⟩
    have hcalls := hinv.holder _ hholder
    cases party with
    | detector => exact hcalls
    | watchdog => exact hcalls
  · rintro _ _ ⟨⟩
  · cases hmarks
  · have hopen := hinv.isOpen since hsince
    rcases hnext with hcloses | ⟨hmarker, hreset, hactivate⟩
    · have hclosing : ({ s with host, holder := some (party, .exit next) } : State).closing =
          true := by
        rcases hcloses with rfl | rfl
        · rfl
        · rfl
      exact ⟨hopen.started, hopen.bounded, .inr (.inl hclosing), fun hmarks => (by cases hmarks),
        fits_of_closing hclosing⟩
    · have hmarking : s.marking = false := by
        rw [State.marking, hholder]
      have hclosing : s.closing = false := by
        rw [State.closing, hholder]
        cases step with
        | resetObservation => exact absurd rfl hreset
        | activate => exact absurd rfl hactivate
        | _ => rfl
      obtain ⟨marker, hthere, hmarked⟩ := marked_of_open hopen hclosing hmarking
      exact ⟨hopen.started, hopen.bounded, .inl ⟨marker, hmarker.trans hthere, hmarked⟩,
        fun hmarks => (by cases hmarks), fits_of_quiet hopen.fits hclosing hmarking rfl⟩
  · exact hinv.permissive (hfirewall.symm.trans hpermissive)

/-- The firewall is activated, unless the passthrough was closed already. -/
theorem inv_activate (hholder : s.holder = some (party, .exit .activate))
    (hsound : soundTask s surroundings (.exit .activate) = true) :
    Inv settings (s.stepTask settings surroundings party (.exit .activate)) := by
  rw [soundTask, Bool.or_eq_true, Option.isNone_iff_eq_none, decide_eq_true_eq] at hsound
  have hclosed : (if surroundings.chance = .done then none else s.openSince) = none := by
    split
    · rfl
    · next hfails => exact hsound.resolve_right hfails
  have hafter : s.stepTask settings surroundings party (.exit .activate) =
      ({ s with
        host :=
          { s.host with firewall := activateFirewall surroundings.chance s.host.firewall }
        holder := none
        openSince := none } : State).finish settings true party := by
    rw [State.stepTask]
    simp only [ExitStep.run, hclosed]
    rfl
  have hshut : Inv settings { s with
      host := { s.host with firewall := activateFirewall surroundings.chance s.host.firewall }
      holder := none
      openSince := none } := by
    refine ⟨?_, ?_, ?_, ?_, fun hpermissive => ?_⟩
    · rintro _ ⟨⟩
    · rintro _ _ ⟨⟩
    · intro hmarks
      cases hmarks
    · rintro since ⟨⟩
    · exfalso
      have hfirewall : activateFirewall surroundings.chance s.host.firewall = .permissive :=
        hpermissive
      cases hchance : surroundings.chance with
      | refused =>
          rw [hchance] at hfirewall hsound
          have hopen := hinv.permissive hfirewall
          rw [hsound.resolve_right Chance.noConfusion] at hopen
          cases hopen
      | done | cut length | down | late =>
          rw [hchance] at hfirewall
          cases hfirewall
  rw [hafter]
  cases party with
  | detector =>
      rw [State.finish]
      split
      · exact hshut.returned (fun _ => (Option.some_ne_none _).symm) (fun _ h => by cases h) _ _
      · exact hshut
  | watchdog => exact hshut.watchdogIdle fun _ => (Option.some_ne_none _).symm

end

/-- Until it activates the firewall, an exit leaves it; until it removes the marker, it
leaves the marker. -/
theorem run_exit_early {env : Env} {host : Host} {step : ExitStep} (h : step ≠ .activate) :
    ∃ next, (step.run env host).2 = some next ∧ (step.run env host).1.firewall = host.firewall ∧
      ((next = .resetObservation ∨ next = .activate) ∨
        ((step.run env host).1.marker = host.marker ∧ step ≠ .resetObservation ∧
          step ≠ .activate)) := by
  cases step with
  | restore =>
      rw [ExitStep.run]
      split
      · exact ⟨_, rfl, rfl, .inr ⟨rfl, ExitStep.noConfusion, ExitStep.noConfusion⟩⟩
      · split
        · exact ⟨_, rfl, rfl, .inr ⟨rfl, ExitStep.noConfusion, ExitStep.noConfusion⟩⟩
        · exact ⟨_, rfl, rfl, .inr ⟨rfl, ExitStep.noConfusion, ExitStep.noConfusion⟩⟩
  | restart =>
      have hkeeps := restartDnsmasq_keeps host env.chance
      exact ⟨_, rfl, hkeeps.1, .inr ⟨hkeeps.2, ExitStep.noConfusion, ExitStep.noConfusion⟩⟩
  | dropBackup => exact ⟨_, rfl, rfl, .inr ⟨rfl, ExitStep.noConfusion, ExitStep.noConfusion⟩⟩
  | dropMarker => exact ⟨_, rfl, rfl, .inl (.inl rfl)⟩
  | resetObservation =>
      rw [ExitStep.run]
      split
      · exact ⟨_, rfl, rfl, .inl (.inr rfl)⟩
      · exact ⟨_, rfl, rfl, .inl (.inr rfl)⟩
  | activate => exact absurd rfl h

theorem inv_exit (hinv : Inv settings s) {step : ExitStep}
    (hholder : s.holder = some (party, .exit step))
    (hsound : soundTask s surroundings (.exit step) = true) :
    Inv settings (s.stepTask settings surroundings party (.exit step)) := by
  by_cases hactivate : step = .activate
  · subst hactivate
    exact inv_activate hinv hholder hsound
  · obtain ⟨next, hnext, hfirewall, hmarker⟩ : ∃ next,
        (step.run (s.env surroundings) s.host).2 = some next ∧
          (step.run (s.env surroundings) s.host).1.firewall = s.host.firewall ∧ _ :=
      run_exit_early hactivate
    rw [State.stepTask]
    simp only [hnext]
    exact hinv.exitStep hholder hfirewall hmarker

theorem inv_step (hinv : Inv settings s) {label : Label} (hsound : sound settings s label = true)
    (hstep : s.step settings label = some s') : Inv settings s' := by
  cases label with
  | tick seconds => exact inv_tick hinv hsound hstep
  | start => exact inv_start hinv hstep
  | detector surroundings => exact inv_stepDetector hinv hsound hstep
  | watchdog surroundings => exact inv_watchdog hinv hstep
  | acquire party => exact inv_acquire hinv hstep
  | giveUp party => exact inv_giveUp hinv hsound hstep
  | step surroundings =>
      obtain ⟨⟨party, task⟩, hholder, rfl⟩ := Option.map_eq_some_iff.mp hstep
      have htask : soundTask s surroundings task = true := by
        rwa [sound, hholder, Option.all_some] at hsound
      cases task with
      | enter step => exact inv_enter hinv hholder htask
      | exit step => exact inv_exit hinv hholder htask
  | die party => exact inv_die hinv hsound hstep

theorem activateFirewall_ne (chance : Chance) {firewall : FirewallMode}
    (h : firewall ≠ .permissive) : activateFirewall chance firewall ≠ .permissive := by
  cases chance with
  | refused => exact h
  | done | cut length | down | late => exact FirewallMode.noConfusion

theorem deactivateFirewall_ne {chance : Chance} (hchance : chance ≠ .done)
    {firewall : FirewallMode} (h : firewall ≠ .permissive) :
    deactivateFirewall chance firewall ≠ .permissive := by
  cases chance with
  | done => exact absurd rfl hchance
  | refused => exact h
  | cut length | down | late => exact FirewallMode.noConfusion

theorem host_finish (s : State) (succeeded : Bool) (party : Party) :
    (s.finish settings succeeded party).host = s.host := by
  cases party with
  | watchdog => rfl
  | detector =>
      rw [State.finish]
      split
      · next purpose _ => cases purpose <;> rfl
      · rfl

/-- Outside of the lock the detector leaves the firewall. -/
theorem firewall_stepDetector {surroundings : Surroundings} {place : Place}
    (hstep : s.stepDetector settings surroundings place = some s') :
    s'.host.firewall = s.host.firewall := by
  cases place with
  | stopped => cases hstep
  | calling purpose => cases hstep
  | asleep wakeAt =>
      cases hstep
      rfl
  | polling =>
      cases hstep
      unfold State.poll
      dsimp only
      split
      · split <;> rfl
      · split
        · split <;> rfl
        · split <;> rfl
      · rfl
  | starting =>
      rw [State.stepDetector] at hstep
      split at hstep <;> cases hstep <;> rfl
  | refreshing =>
      rw [State.stepDetector] at hstep
      split at hstep <;> cases hstep <;> rfl
  | extending startTs monoStart =>
      cases hstep
      rfl
  | settling state =>
      rw [State.stepDetector] at hstep
      split at hstep <;> cases hstep <;> rfl

/-- Under the lock only an enter without the scoped option relaxes the firewall. -/
theorem firewall_stepTask {surroundings : Surroundings} {party : Party} {task : Task}
    (hkeeps : task = .enter .relax → settings.scopedPassthrough = true ∨
      surroundings.chance ≠ .done)
    (h : s.host.firewall ≠ .permissive) :
    (s.stepTask settings surroundings party task).host.firewall ≠ .permissive := by
  cases task with
  | enter step =>
      have hran : (step.run settings.toSettings (s.env surroundings) s.host).1.firewall ≠
          .permissive := by
        by_cases hrelax : step = .relax
        · rw [hrelax, EnterStep.run]
          split
          · exact activateFirewall_ne _ h
          · next hscoped =>
              exact deactivateFirewall_ne ((hkeeps (by rw [hrelax])).resolve_left hscoped) h
        · by_cases hmark : step = .mark
          · rw [hmark]
            exact h
          · obtain ⟨next, -, -, hfirewall⟩ := @run_enter_early settings (s.env surroundings) s.host
              step hrelax hmark
            rwa [hfirewall]
      rw [State.stepTask]
      split
      · exact hran
      · rwa [host_finish]
  | exit step =>
      have hran : (step.run (s.env surroundings) s.host).1.firewall ≠ .permissive := by
        by_cases hactivate : step = .activate
        · rw [hactivate]
          exact activateFirewall_ne _ h
        · obtain ⟨next, -, hfirewall, -⟩ := @run_exit_early (s.env surroundings) s.host step hactivate
          rwa [hfirewall]
      rw [State.stepTask]
      split
      · exact hran
      · rwa [host_finish]

/-- No enter without the scoped option gets to relax the firewall. -/
def keepsFirewall (settings : DetectorSettings) (s : State) : Label → Bool
  | .step surroundings =>
      settings.scopedPassthrough || surroundings.chance ≠ .done ||
        s.holder.all fun holder => holder.2 ≠ .enter .relax
  | _ => true

theorem firewall_step {label : Label} (hkeeps : keepsFirewall settings s label = true)
    (h : s.host.firewall ≠ .permissive) (hstep : s.step settings label = some s') :
    s'.host.firewall ≠ .permissive := by
  cases label with
  | detector surroundings => rwa [firewall_stepDetector hstep]
  | step surroundings =>
      obtain ⟨⟨party, task⟩, hholder, rfl⟩ := Option.map_eq_some_iff.mp hstep
      refine firewall_stepTask (fun htask => ?_) h
      have htask : task = .enter .relax := htask
      subst htask
      simpa [keepsFirewall, hholder] using hkeeps
  | giveUp party =>
      rw [State.step] at hstep
      split at hstep
      · cases hstep
      · cases hstep
        rwa [host_finish]
  | tick seconds =>
      rw [State.step] at hstep
      split at hstep
      · split at hstep <;> cases hstep
        exact h
      · cases hstep
        exact h
  | start =>
      rw [State.step] at hstep
      split at hstep <;> cases hstep
      exact h
  | watchdog surroundings =>
      rw [State.step] at hstep
      split at hstep
      · cases hstep
      split at hstep <;> cases hstep <;> exact h
  | acquire party =>
      rw [State.step] at hstep
      split at hstep
      · obtain ⟨task, -, rfl⟩ := Option.map_eq_some_iff.mp hstep
        exact h
      · cases hstep
  | die party =>
      cases party with
      | detector | watchdog =>
          cases hstep
          exact h

end Invariant

/-! ## Runs -/

/-- A machine on which nothing runs yet. -/
def booted : State where
  host :=
    { config := some "server=/school.example/192.0.2.53\n".toList
      backup := none
      configHash := none
      running := .down
      firewall := .restrictive
      marker := none
      observation := ⟨0, 0⟩ }
  cooldown := none
  elapsed := 100
  detector := { place := .stopped, detected := false }
  watchdogCalls := false
  holder := none
  openSince := none

theorem starts_booted : Starts booted := ⟨rfl, rfl, rfl, rfl, FirewallMode.noConfusion⟩

/-- The detector has observed a portal twice and has the firewall relaxed. -/
def relaxing : List Label :=
  [.start, .detector { wall := 1000 }, .detector { wall := 1000, network := .portal },
    .detector { wall := 1000 }, .tick 10, .detector { wall := 1010 },
    .detector { wall := 1010, network := .portal }, .acquire .detector, .step { wall := 1010 },
    .step { wall := 1010 }, .step { wall := 1010 }, .step { wall := 1010 }]

/-- It writes the marker and sleeps. -/
def waitingForLogin : List Label :=
  [.step { wall := 1010 }, .detector { wall := 1010 }, .tick 10]

def atPortal : State where
  host :=
    { booted.host with
      backup := booted.host.config
      running := .serving booted.host.config
      firewall := .permissive
      marker := some { start := some 1010, expires := some 1130, monoStart := some 110 }
      observation := ⟨2, 0⟩ }
  cooldown := none
  elapsed := 120
  detector := { place := .asleep 120, detected := true }
  watchdogCalls := false
  holder := none
  openSince := some 110

/-- The detector dies before it writes the marker. -/
def unmarked : State where
  host := { atPortal.host with marker := none }
  cooldown := none
  elapsed := 110
  detector := { place := .stopped, detected := false }
  watchdogCalls := false
  holder := none
  openSince := some 110

/-- The wall clock is back in the past and the network is gone. -/
def lostNetwork : List Label :=
  (List.replicate 13 [.detector { wall := 0 }, .detector { wall := 0 }, .detector { wall := 0 },
    .tick 5]).flatten

def stillOpen : State :=
  { atPortal with
    host :=
      { atPortal.host with
        marker := some { start := some 1010, expires := some 1011, monoStart := some 110 } }
    elapsed := 185
    detector := { place := .asleep 185, detected := true } }

end OpenPath.Linux.CaptivePortal.Lifetime
