/-
# Runs of the ring of checkpoints

A run is a sequence of saves and restores, each of which may die in any of its
commands, and of changes that others make to the files in between. A ring remembers
for each slot which files its last save had to copy, if no command of that save up
to the metadata went wrong. The pointer names such a slot, unless a save that went
wrong comes to move the pointer or dies in moving it. A restore puts back what is in
the slot and leaves what is not.
-/

import OpenPath.Linux.CheckpointRing
import OpenPath.Foundation.Transition

namespace OpenPath.Linux.CheckpointRing

open Foundation

variable {Content : Type}

structure Ring (Content : Type) where
  disk : Disk Content
  intact : Nat → Option (Files Content)

/-- An operation, or a change of the files by others between two operations. -/
inductive Operation (Content : Type)
  | save (stamp : Stamp) (fates : Fates Content)
  | restore (target : Option Nat) (fates : Fates Content)
  | edit (live : Files Content)

/-- What a save that found these files has copied, if nothing went wrong. -/
def copied (live : Files Content) (fates : Fates Content) :
    Option (Files Content) :=
  if AllSucceed live fates then some live else none

def apply (maxCheckpoints : Nat) (ring : Ring Content) :
    Operation Content → Ring Content
  | .save stamp fates =>
      { disk := (execute fates (saveCheckpoint maxCheckpoints stamp) ring.disk).1
        intact :=
          if maxCheckpoints = 0 then ring.intact
          else Function.update ring.intact (nextSlot maxCheckpoints ring.disk)
            (copied ring.disk.live fates) }
  | .restore target fates =>
      { ring with disk := (execute fates (restoreCheckpoint target) ring.disk).1 }
  | .edit live => { ring with disk := { ring.disk with live } }

/-- No checkpoint was saved so far. -/
def Fresh (ring : Ring Content) : Prop :=
  ring.disk.current = .missing ∧ (∀ slot, ring.disk.slots slot = none) ∧
    ∀ slot, ring.intact slot = none

def system (Content : Type) (maxCheckpoints : Nat) :
    TransitionSystem (Ring Content) (Operation Content) :=
  .ofFunction Fresh (apply maxCheckpoints)

/-- A slot holds all of a checkpoint. -/
def Complete (ring : Ring Content) (slot : Nat) : Prop :=
  ∃ files metadata, ring.intact slot = some files ∧
    ring.disk.slots slot = some { files, metadata := some (.whole metadata) }

/-- The pointer names a complete checkpoint, once there is a pointer. -/
def PointerSound (ring : Ring Content) : Prop :=
  ring.disk.current ≠ .missing →
    ∃ slot, ring.disk.current = .holds slot ∧ Complete ring slot

/-- A restore that succeeds leaves the files as they were when the checkpoint was saved. -/
def Restores (ring : Ring Content) (target : Option Nat) (fates : Fates Content) : Prop :=
  (execute fates (restoreCheckpoint target) ring.disk).2 = some (.ok true) →
    ∃ slot, targetSlot target ring.disk = some slot ∧
      ring.intact slot = some (execute fates (restoreCheckpoint target) ring.disk).1.live

/-- When a save leaves the pointer at a complete checkpoint. -/
def SaveSound (maxCheckpoints : Nat) (live : Files Content) (fates : Fates Content) : Prop :=
  maxCheckpoints = 0 ∨
    (maxCheckpoints ≠ 1 ∧ (Interrupted live fates ∨ PointerLeft fates)) ∨
    (AllSucceed live fates ∧ (fates .movePointer = .succeeds ∨ PointerLeft fates))

/-- The operations of a run may be anything but a save that is not sound. -/
def Sound (maxCheckpoints : Nat) (ring : Ring Content) : Operation Content → Prop
  | .save _ fates => SaveSound maxCheckpoints ring.disk.live fates
  | .restore _ _ => True
  | .edit _ => True

/-- When a restore that succeeds returns what was saved: it dies instead, or nothing went
wrong in the last save of the checkpoint, and each copy and each file that is left alone is
as it was then. -/
def RestoreSound (ring : Ring Content) (target : Option Nat) (fates : Fates Content) : Prop :=
  ∀ slot content, targetSlot target ring.disk = some slot →
    ring.disk.slots slot = some content →
    (∃ file, (content.files file).isSome ∧ ∃ parts, fates (.copyOut file) = .dies parts) ∨
      ((ring.intact slot).isSome ∧
        ∀ file, restored (content.files file) (ring.disk.live file) (fates (.copyOut file)) =
          content.files file)

/-! ## What every run keeps -/

/-- What every sound run keeps. Only the slot that is saved next may be broken. -/
structure Inv (maxCheckpoints : Nat) (ring : Ring Content) : Prop where
  intact : ∀ slot files, ring.intact slot = some files →
    ∃ metadata, ring.disk.slots slot = some { files, metadata := some (.whole metadata) }
  named : ∀ slot, currentNumber ring.disk = some slot → (ring.disk.slots slot).isSome →
    (ring.intact slot).isSome
  pointed : ∀ slot, ring.disk.current = .holds slot → (ring.intact slot).isSome
  nonempty : ring.disk.current ≠ .empty
  inRange : ∀ slot, ring.disk.current = .holds slot → slot < maxCheckpoints
  broken : ∀ slot, (ring.disk.slots slot).isSome → (ring.intact slot).isSome ∨
    slot = nextSlot maxCheckpoints ring.disk

section Runs

variable {maxCheckpoints : Nat} {ring : Ring Content}

theorem inv_fresh (h : Fresh ring) : Inv maxCheckpoints ring := by
  obtain ⟨hcurrent, hslots, hintact⟩ := h
  constructor
  · intro slot files hsome
    rw [hintact slot] at hsome
    cases hsome
  · intro slot _ hthere
    rw [hslots slot] at hthere
    cases hthere
  · intro slot hholds
    rw [hcurrent] at hholds
    cases hholds
  · rw [hcurrent]
    exact Pointer.noConfusion
  · intro slot hholds
    rw [hcurrent] at hholds
    cases hholds
  · intro slot hthere
    rw [hslots slot] at hthere
    cases hthere

/-- A restore that can be counted on. -/
theorem restores_iff (h : Inv maxCheckpoints ring) (target : Option Nat) (fates : Fates Content) :
    Restores ring target fates ↔ RestoreSound ring target fates := by
  constructor
  · intro hrestores slot content htarget hslot
    rcases execute_restoreCheckpoint_cases htarget hslot fates with ⟨hdies, _⟩ | ⟨_, heq⟩
    · exact .inl hdies
    · obtain ⟨other, hother, hintact⟩ := hrestores (congrArg Prod.snd heq)
      obtain rfl := Option.some.inj (htarget.symm.trans hother)
      rw [heq] at hintact
      obtain ⟨metadata, hfiles⟩ := h.intact slot _ hintact
      have hcontent := Option.some.inj (hslot.symm.trans hfiles)
      refine .inr ⟨by rw [hintact]; rfl, fun file => ?_⟩
      rw [← restoredFiles_checkpointFiles content.files]
      exact (congrFun (congrArg Slot.files hcontent) file).symm
  · intro hsound hok
    obtain ⟨slot, content, htarget, hslot⟩ := exists_slot_of_restored hok
    refine ⟨slot, htarget, ?_⟩
    rcases execute_restoreCheckpoint_cases htarget hslot fates with ⟨_, hstopped⟩ | ⟨hlives, heq⟩
    · exact absurd hok hstopped
    · obtain ⟨hintact, hfiles⟩ := (hsound slot content htarget hslot).resolve_left hlives
      obtain ⟨files, hintact⟩ := Option.isSome_iff_exists.mp hintact
      obtain ⟨metadata, hcontent⟩ := h.intact slot files hintact
      have hsame := Option.some.inj (hslot.symm.trans hcontent)
      rw [heq, hintact, Option.some.injEq]
      funext file
      change files file = restoredFiles _ _ _ _ file
      rw [restoredFiles_checkpointFiles, hfiles file, hsame]

/-! ### Saves -/

variable {slot : Nat}

theorem nextSlot_ne (hzero : maxCheckpoints ≠ 0) (hone : maxCheckpoints ≠ 1) {disk : Disk Content}
    (h : currentNumber disk = some slot) :
    slot ≠ nextSlot maxCheckpoints disk := by
  rw [nextSlot, h, numeral, Option.getD_some]
  intro heq
  have hlt : slot < maxCheckpoints := by
    rw [heq]
    exact Nat.mod_lt _ (Nat.pos_of_ne_zero hzero)
  rcases Nat.lt_or_eq_of_le (Nat.succ_le_of_lt hlt) with hsucc | hsucc
  · rw [Nat.mod_eq_of_lt hsucc] at heq
    omega
  · rw [← hsucc, Nat.mod_self] at heq
    omega

variable {fates : Fates Content}

theorem isSome_copied {live : Files Content} (h : AllSucceed live fates) :
    (copied live fates).isSome := by
  rw [copied, if_pos h, Option.isSome_some]

/-- What a save keeps for a slot that is not the next one, or that it saves well. -/
theorem isSome_intact_save
    (h : slot ≠ nextSlot maxCheckpoints ring.disk → (ring.intact slot).isSome)
    (hslot : slot ≠ nextSlot maxCheckpoints ring.disk ∨ AllSucceed ring.disk.live fates) :
    (Function.update ring.intact (nextSlot maxCheckpoints ring.disk)
      (copied ring.disk.live fates) slot).isSome := by
  by_cases hnext : slot = nextSlot maxCheckpoints ring.disk
  · rw [hnext, Function.update_self]
    exact isSome_copied (hslot.resolve_left fun hne => hne hnext)
  · rw [Function.update_of_ne hnext]
    exact h hnext

section

variable (h : Inv maxCheckpoints ring)
include h

theorem inv_save (hmax : maxCheckpoints ≠ 0) (stamp : Stamp)
    (hsound : SaveSound maxCheckpoints ring.disk.live fates) :
    Inv maxCheckpoints (apply maxCheckpoints ring (.save stamp fates)) := by
  have htouched := touched_save fates stamp ring.disk hmax
  have hintact : (apply maxCheckpoints ring (.save stamp fates)).intact =
      Function.update ring.intact (nextSlot maxCheckpoints ring.disk)
        (copied ring.disk.live fates) := if_neg hmax
  have hcomplete : ∀ slot files,
      (apply maxCheckpoints ring (.save stamp fates)).intact slot = some files →
      ∃ metadata, (apply maxCheckpoints ring (.save stamp fates)).disk.slots slot =
        some { files, metadata := some (.whole metadata) } := by
    intro slot files hsome
    rw [hintact] at hsome
    by_cases hnext : slot = nextSlot maxCheckpoints ring.disk
    · subst hnext
      rw [Function.update_self, copied] at hsome
      split at hsome
      · next hall =>
          cases hsome
          exact slots_save_of_allSucceed hmax hall
      · cases hsome
    · rw [Function.update_of_ne hnext] at hsome
      obtain ⟨metadata, hslot⟩ := h.intact slot files hsome
      exact ⟨metadata, (htouched.slots slot hnext).trans hslot⟩
  have hothers : ∀ slot, ((apply maxCheckpoints ring (.save stamp fates)).disk.slots slot).isSome →
      ((apply maxCheckpoints ring (.save stamp fates)).intact slot).isSome ∨
        slot = nextSlot maxCheckpoints ring.disk := by
    intro slot hthere
    by_cases hnext : slot = nextSlot maxCheckpoints ring.disk
    · exact .inr hnext
    · rw [hintact, Function.update_of_ne hnext]
      exact h.broken slot ((congrArg Option.isSome (htouched.slots slot hnext)).symm.trans hthere)
  -- Where the pointer stays, its slot is not the next one or is saved well.
  have hstays : (∀ slot, currentNumber ring.disk = some slot →
        slot ≠ nextSlot maxCheckpoints ring.disk ∨ AllSucceed ring.disk.live fates) →
      (apply maxCheckpoints ring (.save stamp fates)).disk.current = ring.disk.current →
      Inv maxCheckpoints (apply maxCheckpoints ring (.save stamp fates)) := by
    intro hslots hcurrent
    have hnumber : currentNumber (apply maxCheckpoints ring (.save stamp fates)).disk =
        currentNumber ring.disk := by
      rw [currentNumber, currentNumber, hcurrent]
    have hnextSlot : nextSlot maxCheckpoints (apply maxCheckpoints ring (.save stamp fates)).disk =
        nextSlot maxCheckpoints ring.disk := by
      rw [nextSlot, hnumber, nextSlot]
    refine ⟨hcomplete, ?_, ?_, hcurrent ▸ h.nonempty, hcurrent ▸ h.inRange, ?_⟩
    · intro slot hslot hthere
      rw [hnumber] at hslot
      rw [hintact]
      refine isSome_intact_save (fun hnext => h.named slot hslot ?_) (hslots slot hslot)
      rwa [← htouched.slots slot hnext]
    · intro slot hslot
      rw [hcurrent] at hslot
      have hnumber : currentNumber ring.disk = some slot := by
        rw [currentNumber, hslot]
      rw [hintact]
      exact isSome_intact_save (fun _ => h.pointed slot hslot) (hslots slot hnumber)
    · intro slot hthere
      rw [hnextSlot]
      exact hothers slot hthere
  rcases hsound with hzero | ⟨hone, hleft⟩ | ⟨hall, hmove | hleft⟩
  · exact absurd hzero hmax
  · exact hstays (fun slot hslot => .inl (nextSlot_ne hmax hone hslot))
      (current_save_of_left hmax hleft)
  · have hcurrent : (apply maxCheckpoints ring (.save stamp fates)).disk.current =
        .holds (nextSlot maxCheckpoints ring.disk) := current_save_of_allSucceed hmax hall hmove
    have hnext : ((apply maxCheckpoints ring (.save stamp fates)).intact
        (nextSlot maxCheckpoints ring.disk)).isSome := by
      rw [hintact, Function.update_self]
      exact isSome_copied hall
    refine ⟨hcomplete, ?_, ?_, by rw [hcurrent]; exact Pointer.noConfusion, ?_, ?_⟩
    · intro slot hslot _
      rw [currentNumber, hcurrent] at hslot
      obtain rfl := Option.some.inj hslot
      exact hnext
    · intro slot hslot
      rw [hcurrent] at hslot
      cases hslot
      exact hnext
    · intro slot hslot
      rw [hcurrent] at hslot
      cases hslot
      exact Nat.mod_lt _ (Nat.pos_of_ne_zero hmax)
    · intro slot hthere
      rcases hothers slot hthere with hwhole | rfl
      · exact .inl hwhole
      · exact .inl hnext
  · exact hstays (fun _ _ => .inr hall) (current_save_of_left hmax (.inr hleft))

theorem Inv.congr {disk : Disk Content} (hslots : disk.slots = ring.disk.slots)
    (hcurrent : disk.current = ring.disk.current) :
    Inv maxCheckpoints { ring with disk } := by
  obtain ⟨live, slots, current⟩ := disk
  subst hslots hcurrent
  exact ⟨h.intact, h.named, h.pointed, h.nonempty, h.inRange, h.broken⟩

theorem inv_apply {operation : Operation Content} (hsound : Sound maxCheckpoints ring operation) :
    Inv maxCheckpoints (apply maxCheckpoints ring operation) := by
  cases operation with
  | save stamp fates =>
      by_cases hzero : maxCheckpoints = 0
      · subst hzero
        exact h
      · exact inv_save h hzero stamp hsound
  | restore target fates =>
      obtain ⟨hslots, hcurrent⟩ := restore_keeps fates target ring.disk
      exact h.congr hslots hcurrent
  | edit live => exact h.congr rfl rfl

theorem pointerSound_of_inv : PointerSound ring := by
  intro hpointer
  cases hcurrent : ring.disk.current with
  | missing => exact absurd hcurrent hpointer
  | empty => exact absurd hcurrent h.nonempty
  | holds slot =>
      obtain ⟨files, hintact⟩ := Option.isSome_iff_exists.mp (h.pointed slot hcurrent)
      obtain ⟨metadata, hslot⟩ := h.intact slot files hintact
      exact ⟨slot, rfl, files, metadata, hintact, hslot⟩

end

theorem inv_of_reachableBy
    (h : (system Content maxCheckpoints).ReachableBy (Sound maxCheckpoints) ring) :
    Inv maxCheckpoints ring := by
  refine h.invariant (fun _ => inv_fresh) ?_
  rintro source operation _ hinv hsound rfl
  exact inv_apply hinv hsound

/-- In every run in which no save that goes wrong comes to move the pointer, none is
interrupted in its move, and none is interrupted in a ring of one slot, the pointer names a
complete checkpoint; and a restore that succeeds leaves the saved files if and only if each
file is copied as it was saved and no file is there that was not saved. -/
theorem ring_sound (maxCheckpoints : Nat) (ring : Ring Content)
    (h : (system Content maxCheckpoints).ReachableBy (Sound maxCheckpoints) ring) :
    PointerSound ring ∧
      ∀ target fates, Restores ring target fates ↔ RestoreSound ring target fates :=
  ⟨pointerSound_of_inv (inv_of_reachableBy h), restores_iff (inv_of_reachableBy h)⟩

theorem previous_ne_next (hmax : 2 < maxCheckpoints) {slot : Nat}
    (hslot : previousSlot maxCheckpoints ring.disk = some slot) :
    slot ≠ nextSlot maxCheckpoints ring.disk := by
  obtain ⟨hprevious, -⟩ := Option.filter_eq_some_iff.mp hslot
  rw [← Option.some.inj hprevious, nextSlot]
  generalize numeral (currentNumber ring.disk) = current
  intro heq
  have hlt := Nat.mod_lt (current + 1) (by omega : 0 < maxCheckpoints)
  have hsum : current + maxCheckpoints - 1 = current + 1 + (maxCheckpoints - 2) := by omega
  rw [hsum, Nat.add_mod_eq_ite, Nat.mod_eq_of_lt (by omega : maxCheckpoints - 2 < maxCheckpoints)]
    at heq
  split at heq <;> omega

/-- In a ring of at least three slots, the checkpoint before the current one, if there is
one, is complete, and no further save breaks it, whatever becomes of its commands. -/
theorem previous_complete {slot : Nat} (hmax : 2 < maxCheckpoints)
    (h : (system Content maxCheckpoints).ReachableBy (Sound maxCheckpoints) ring)
    (hslot : previousSlot maxCheckpoints ring.disk = some slot) (stamp : Stamp)
    (fates : Fates Content) :
    Complete ring slot ∧ Complete (apply maxCheckpoints ring (.save stamp fates)) slot := by
  have hinv := inv_of_reachableBy h
  have hne := previous_ne_next hmax hslot
  obtain ⟨files, hintact⟩ := Option.isSome_iff_exists.mp
    ((hinv.broken slot (Option.filter_eq_some_iff.mp hslot).2).resolve_right hne)
  obtain ⟨metadata, hcontent⟩ := hinv.intact slot files hintact
  have hzero : maxCheckpoints ≠ 0 := by omega
  refine ⟨⟨files, metadata, hintact, hcontent⟩, files, metadata, ?_, ?_⟩
  · simpa [apply, hzero, hne] using hintact
  · exact ((touched_save fates stamp ring.disk hzero).slots slot hne).trans hcontent

end Runs

/-- A machine without a checkpoint and without policies of its browser. -/
def newMachine : Ring Nat where
  disk :=
    { live := fun file => if file = .firefoxPolicies then none else some 7
      slots := fun _ => none
      current := .missing }
  intact := fun _ => none

def preUpdate : Stamp where
  label := "pre-update"
  timestamp := "2025-01-01T00:00:00+00:00"
  timestampId := "20250101-000000"

/-- A machine with one checkpoint. -/
def savedMachine : Ring Nat :=
  apply 3 newMachine (.save preUpdate fun _ => .succeeds)

theorem reachableBy_savedMachine : (system Nat 3).ReachableBy (Sound 3) savedMachine := by
  have hsound : SaveSound 3 newMachine.disk.live fun _ => .succeeds :=
    .inr (.inr ⟨fun _ _ => rfl, .inl rfl⟩)
  have hfresh : Fresh newMachine := ⟨rfl, fun _ => rfl, fun _ => rfl⟩
  have hsave : (system Nat 3).step newMachine (.save preUpdate fun _ => .succeeds) savedMachine :=
    rfl
  exact TransitionSystem.ReachableBy.step (.start hfresh) (by exact hsound) hsave

theorem ring_sound_savedMachine :
    PointerSound savedMachine ∧
      ∀ target fates, Restores savedMachine target fates ↔ RestoreSound savedMachine target fates :=
  ring_sound 3 savedMachine reachableBy_savedMachine

/-- The policies change, and a save dies. -/
def brokenMachine : Ring Nat :=
  apply 3 (apply 3 savedMachine (.edit fun _ => some 8)) (.save preUpdate fun _ => .dies [])

theorem previous_complete_savedTwice :
    let ring := apply 3 brokenMachine (.save preUpdate fun _ => .succeeds)
    Complete ring 1 ∧ Complete (apply 3 ring (.save preUpdate fun _ => .dies [])) 1 := by
  have hedit : Sound 3 savedMachine (.edit fun _ => some 8) := trivial
  have hdies : Sound 3 (apply 3 savedMachine (.edit fun _ => some 8))
      (.save preUpdate fun _ => .dies []) := .inr (.inl ⟨by decide, .inr (.inr rfl)⟩)
  have hsaved : Sound 3 brokenMachine (.save preUpdate fun _ => .succeeds) :=
    .inr (.inr ⟨fun _ _ => rfl, .inl rfl⟩)
  exact previous_complete (by decide)
    (((reachableBy_savedMachine.step hedit rfl).step hdies rfl).step hsaved rfl) (by decide)
    preUpdate _

/-- The process dies between the two halves of `echo "$next" > .current`. -/
def cutPointer : Fates Nat
  | .movePointer => .dies [.removed none]
  | _ => .succeeds

theorem pointer_cut_and_file_left :
    (∃ ring, (system Nat 3).Reachable ring ∧ ¬ PointerSound ring) ∧
      ∃ ring target fates, (system Nat 3).Reachable ring ∧ ¬ Restores ring target fates := by
  constructor
  · refine ⟨apply 3 newMachine (.save preUpdate cutPointer),
      .step (.start ⟨rfl, fun _ => rfl, fun _ => rfl⟩) trivial rfl, fun hsound => ?_⟩
    obtain ⟨slot, hslot, _⟩ := hsound Pointer.noConfusion
    cases hslot
  · refine ⟨apply 3 savedMachine (.edit fun _ => some 8), none, fun _ => .succeeds,
      .step reachableBy_savedMachine.reachable trivial rfl, fun hrestores => ?_⟩
    obtain ⟨slot, hslot, hlive⟩ := hrestores rfl
    cases hslot
    have hpolicies := congrFun (Option.some.inj hlive) .firefoxPolicies
    cases hpolicies

end OpenPath.Linux.CheckpointRing
