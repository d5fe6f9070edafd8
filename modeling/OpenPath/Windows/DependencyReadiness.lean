/-
# Readiness of runtime dependencies on Windows

An entry of the overlay is ready once the DNS proxy has been reloaded with it and the
reload has been marked as applied. A reload and its mark may be apart, with updates
between them; the mark then names the generation that was read before the reload.

Here runs are paired with the pairs that were on disk at an applied reload since they
were added. A pair is added when an update puts it into the file and no entry that it
keeps has it, whether or not an entry that has expired is still on disk. An entry is
ready only for such a pair as long as no update adds a pair again whose old entry is
still on disk: the new entry then gets no generation and counts as an old one.
-/

import OpenPath.Foundation.Transition
import OpenPath.Windows.DependencyBlocks

namespace OpenPath.Windows.Overlay

open DotNet RuntimeDependency
open Foundation

/-! ## Runs -/

/-- A reload that has not been marked: the generation that was read before it, and the
pairs that were on disk and have stayed there. -/
structure Reload where
  generation : Nat
  pairs : List Pair

inductive Event
  | update (arguments : UpdateArguments) (now : Int) (requests : List JsonObject)
  | prune (context : PolicyContext) (now : Int)
  | clear
  | reload
  | markApplied
  | reloadAndMark

structure OverlayRun where
  file : Option OverlayDocument
  pending : Option Reload
  loaded : List Pair

namespace OverlayRun

def start : OverlayRun where
  file := none
  pending := none
  loaded := []

def document (run : OverlayRun) : OverlayDocument := readDocument run.file

def pairs (run : OverlayRun) : List Pair := pairKeys run.document.entries

/-- The pairs of a list that a rewritten file still has from the entries that were
kept. -/
def remaining (kept : List OverlayEntry) (file : Option OverlayDocument) (pairs : List Pair) :
    List Pair :=
  pairs.filter fun p => p ∈ pairKeys kept ∧ p ∈ pairKeys (readDocument file).entries

def rewrite (run : OverlayRun) (file : Option OverlayDocument) (kept : List OverlayEntry) :
    OverlayRun :=
  if file = run.file then run
  else
    { file
      pending := run.pending.map fun reload =>
        { reload with pairs := remaining kept file reload.pairs }
      loaded := remaining kept file run.loaded }

end OverlayRun

def serve (run : OverlayRun) : Event → OverlayRun
  | .update arguments now requests =>
      run.rewrite (applyRequests arguments now requests run.file)
        (run.document.entries.filter (keepsEntry arguments.context now))
  | .prune context now =>
      run.rewrite (pruneOverlay context now run.file)
        (run.document.entries.filter (listsEntry context now))
  | .clear => { run with file := none, loaded := [] }
  | .reload =>
      { run with pending := some { generation := run.document.generation, pairs := run.pairs } }
  | .markApplied =>
      match run.pending with
      | none => run
      | some reload =>
          { file := setOverlayApplied (some reload.generation) run.file
            pending := none
            loaded := run.loaded ++ reload.pairs }
  | .reloadAndMark =>
      { run with file := setOverlayApplied none run.file, loaded := run.loaded ++ run.pairs }

def overlayRuns : TransitionSystem OverlayRun Event := .ofFunction (· = .start) serve

/-- An update may admit a pair that is on disk only if it keeps an entry of the pair,
and the file may be removed only while no reload waits for its mark. -/
def NoneReadded (run : OverlayRun) : Event → Prop
  | .update arguments now requests =>
      ∀ c ∈ admitted arguments.context requests, ∃ p,
        hostsKey c.anchorHost c.dependencyHost = some p ∧
          (p ∈ run.pairs →
            p ∈ pairKeys (run.document.entries.filter (keepsEntry arguments.context now)))
  | .clear => run.pending = none
  | _ => True

/-! ## Files as they are written -/

section Files

variable {entries : List OverlayEntry} {file : Option OverlayDocument}

theorem foldl_max_generation (entries : List OverlayEntry) (generation : Nat) :
    generation ≤ entries.foldl (fun highest entry => max highest entry.generation) generation ∧
      ∀ entry ∈ entries, entry.generation ≤
        entries.foldl (fun highest entry => max highest entry.generation) generation := by
  induction entries generalizing generation with
  | nil => simp
  | cons entry rest ih =>
      obtain ⟨hgeneration, hrest⟩ := ih (max generation entry.generation)
      rw [List.foldl_cons]
      exact ⟨le_trans (le_max_left _ _) hgeneration,
        List.forall_mem_cons.mpr ⟨le_trans (le_max_right _ _) hgeneration, hrest⟩⟩

theorem generation_le_writeOverlay (entries : List OverlayEntry) (file : Option OverlayDocument) :
    (readDocument file).generation ≤ (writeOverlay entries file).generation := by
  refine le_trans ?_ (foldl_max_generation _ _).1
  split
  · exact Nat.le_refl _
  · exact Nat.le_succ _

@[simp]
theorem pairKey_stampEntry (added : List Pair) (generation : Nat) (entry : OverlayEntry) :
    pairKey (stampEntry added generation entry) = pairKey entry := by
  unfold stampEntry
  split
  · rfl
  · rfl

/-- An entry that is written has a new generation if its pair was not on disk, and
else the one that it had. -/
theorem mem_writeOverlay {entry : OverlayEntry}
    (hentry : entry ∈ (writeOverlay entries file).entries) :
    ∃ old ∈ entries, pairKey old = pairKey entry ∧ ∀ p, pairKey old = some p →
      (p ∉ pairKeys (readDocument file).entries ∧
          entry.generation = (readDocument file).generation + 1) ∨
        (p ∈ pairKeys (readDocument file).entries ∧ entry.generation = old.generation) := by
  obtain ⟨old, hold, rfl⟩ := List.mem_map.mp hentry
  refine ⟨old, hold, (pairKey_stampEntry _ _ old).symm, fun p hkey => ?_⟩
  have hadded : p ∈ addedPairs entries (readDocument file) ↔
      p ∉ pairKeys (readDocument file).entries := by
    rw [addedPairs, List.mem_filter, decide_eq_true_eq]
    exact and_iff_right (List.mem_filterMap.mpr ⟨old, hold, hkey⟩)
  have hstamped : (pairKey old).any (· ∈ addedPairs entries (readDocument file)) = true ↔
      p ∉ pairKeys (readDocument file).entries := by
    rw [hkey, Option.any_some, decide_eq_true_eq, hadded]
  by_cases hdisk : p ∈ pairKeys (readDocument file).entries
  · rw [stampEntry, if_neg fun h => hstamped.mp h hdisk]
    exact Or.inr ⟨hdisk, rfl⟩
  · rw [stampEntry, if_pos (hstamped.mpr hdisk),
      if_neg (List.ne_nil_of_mem (hadded.mpr hdisk))]
    exact Or.inl ⟨hdisk, rfl⟩

end Files

/-! ## Updates -/

variable {now : Int} {entries : List OverlayEntry} {entry : OverlayEntry}

/-- A request gives no entry another generation, and an entry that it adds has its key
and no generation. -/
theorem mem_mergeCandidate {expiresAt : Expiry} {c : Candidate}
    (hentry : entry ∈ mergeCandidate now expiresAt c entries) :
    (∃ old ∈ entries, pairKey old = pairKey entry ∧ old.generation = entry.generation) ∨
      (pairKey entry = hostsKey c.anchorHost c.dependencyHost ∧ entry.generation = 0) := by
  induction entries with
  | nil =>
      rw [List.mem_singleton.mp hentry]
      exact Or.inr ⟨rfl, rfl⟩
  | cons first rest ih =>
      rw [mergeCandidate] at hentry
      split at hentry
      · rcases List.mem_cons.mp hentry with rfl | hrest
        · exact Or.inl ⟨first, List.mem_cons_self, rfl, rfl⟩
        · exact Or.inl ⟨entry, List.mem_cons_of_mem _ hrest, rfl, rfl⟩
      · rcases List.mem_cons.mp hentry with rfl | hrest
        · exact Or.inl ⟨entry, List.mem_cons_self, rfl, rfl⟩
        · rcases ih hrest with ⟨old, hold, h⟩ | h
          · exact Or.inl ⟨old, List.mem_cons_of_mem _ hold, h⟩
          · exact Or.inr h

variable {arguments : UpdateArguments} {requests : List JsonObject}

theorem mem_mergedEntries (hentry : entry ∈ mergedEntries arguments now requests entries) :
    (∃ old ∈ entries.filter (keepsEntry arguments.context now),
        pairKey old = pairKey entry ∧ old.generation = entry.generation) ∨
      ∃ c ∈ admitted arguments.context requests,
        pairKey entry = hostsKey c.anchorHost c.dependencyHost ∧ entry.generation = 0 := by
  rw [mergedEntries] at hentry
  generalize entries.filter (keepsEntry arguments.context now) = kept at hentry ⊢
  generalize admitted arguments.context requests = candidates at hentry ⊢
  induction candidates generalizing kept with
  | nil => exact Or.inl ⟨entry, hentry, rfl, rfl⟩
  | cons c rest ih =>
      rcases ih _ hentry with ⟨middle, hmiddle, hkey, hgeneration⟩ | ⟨d, hd, h⟩
      · rw [← hkey, ← hgeneration]
        exact (mem_mergeCandidate hmiddle).imp_right fun h => ⟨c, List.mem_cons_self, h⟩
      · exact Or.inr ⟨d, List.mem_cons_of_mem _ hd, h⟩

theorem mem_updateOverlay
    (hentry : entry ∈ (updateOverlay arguments now requests entries).entries) :
    entry ∈ mergedEntries arguments now requests entries :=
  (List.mem_insertionSort _).mp (List.mem_of_mem_take hentry)

/-! ## The invariant -/

/-- The entries that would be ready if a generation were the applied one have their
pairs among those of a list. -/
def ReadyAt (document : OverlayDocument) (generation : Nat) (pairs : List Pair) : Prop :=
  ∀ entry ∈ document.entries, testEntryReady entry generation document.generation = true →
    ∃ p ∈ pairs, pairKey entry = some p

structure Sound (run : OverlayRun) : Prop where
  keyed : ∀ entry ∈ run.document.entries, (pairKey entry).isSome = true
  entries_le : ∀ entry ∈ run.document.entries, entry.generation ≤ run.document.generation
  applied_le : run.document.appliedGeneration ≤ run.document.generation
  ready : ReadyAt run.document run.document.appliedGeneration run.loaded
  pending_le : ∀ reload ∈ run.pending, reload.generation ≤ run.document.generation
  pending_ready : ∀ reload ∈ run.pending,
    ReadyAt run.document reload.generation (run.loaded ++ reload.pairs)

theorem sound_start : Sound .start where
  keyed _ h := absurd h List.not_mem_nil
  entries_le _ h := absurd h List.not_mem_nil
  applied_le := Nat.le_refl 0
  ready _ h := absurd h List.not_mem_nil
  pending_le _ h := absurd h (Option.not_mem_none _)
  pending_ready _ h := absurd h (Option.not_mem_none _)

/-- What may be written over the file, given the entries that are kept: an entry whose
generation is not new has the pair of one that was kept, and its generation or none. -/
structure Rewrites (run : OverlayRun) (kept : List OverlayEntry) (document : OverlayDocument) :
    Prop where
  applied_eq : document.appliedGeneration = run.document.appliedGeneration
  generation_le : run.document.generation ≤ document.generation
  entries_le : ∀ entry ∈ document.entries, entry.generation ≤ document.generation
  source : ∀ entry ∈ document.entries, ∃ p, pairKey entry = some p ∧
    (run.document.generation < entry.generation ∨
      ∃ old ∈ kept, pairKey old = some p ∧
        (entry.generation = old.generation ∨ entry.generation = 0))

section Rewriting

variable {run : OverlayRun} {kept : List OverlayEntry} {document : OverlayDocument}

section

variable (hsound : Sound run) (hkept : ∀ entry ∈ kept, entry ∈ run.document.entries)
  (hrewrites : Rewrites run kept document)
include hsound hkept hrewrites

/-- A file that is written over another has no more that would be ready. -/
theorem ReadyAt.rewrite {generation : Nat} (hgeneration : generation ≤ run.document.generation)
    {pairs : List Pair} (hready : ReadyAt run.document generation pairs) :
    ReadyAt document generation (OverlayRun.remaining kept (some document) pairs) := by
  intro entry hentry hentryReady
  obtain ⟨p, hkey, hsource⟩ := hrewrites.source entry hentry
  have hle := hrewrites.generation_le
  rcases hsource with hnew | ⟨old, hold, holdKey, hsame⟩
  · rw [testEntryReady, if_pos (Nat.lt_of_le_of_lt (Nat.zero_le _) hnew),
      decide_eq_true_eq] at hentryReady
    omega
  · have holdLe := hsound.entries_le old (hkept old hold)
    have holdReady : testEntryReady old generation run.document.generation = true := by
      simp only [testEntryReady] at hentryReady ⊢
      split at hentryReady
      · rename_i hpositive
        rw [decide_eq_true_eq] at hentryReady
        have hequal : entry.generation = old.generation := hsame.resolve_right (by omega)
        rw [if_pos (by omega), decide_eq_true_eq]
        omega
      · rw [Bool.and_eq_true, decide_eq_true_eq, decide_eq_true_eq] at hentryReady
        split
        · rw [decide_eq_true_eq]
          omega
        · rw [Bool.and_eq_true, decide_eq_true_eq, decide_eq_true_eq]
          omega
    obtain ⟨q, hq, hqKey⟩ := hready old (hkept old hold) holdReady
    obtain rfl : q = p := Option.some.inj (hqKey.symm.trans holdKey)
    refine ⟨q, List.mem_filter.mpr ⟨hq, ?_⟩, hkey⟩
    rw [decide_eq_true_eq]
    exact ⟨List.mem_filterMap.mpr ⟨old, hold, holdKey⟩, List.mem_filterMap.mpr ⟨entry, hentry, hkey⟩⟩

theorem Sound.rewrite : Sound (run.rewrite (some document) kept) := by
  unfold OverlayRun.rewrite
  split
  · exact hsound
  · refine ⟨?_, hrewrites.entries_le, ?_, ?_, ?_, ?_⟩
    · intro entry hentry
      obtain ⟨p, hkey, -⟩ := hrewrites.source entry hentry
      rw [hkey]
      rfl
    · exact hrewrites.applied_eq.trans_le (hsound.applied_le.trans hrewrites.generation_le)
    · have hready := hsound.ready.rewrite hsound hkept hrewrites hsound.applied_le
      rwa [← hrewrites.applied_eq] at hready
    · intro reload hreload
      obtain ⟨source, hsource, rfl⟩ := Option.mem_map.mp hreload
      exact (hsound.pending_le source hsource).trans hrewrites.generation_le
    · intro reload hreload
      obtain ⟨source, hsource, rfl⟩ := Option.mem_map.mp hreload
      have hready := (hsound.pending_ready source hsource).rewrite hsound hkept hrewrites
        (hsound.pending_le source hsource)
      rwa [OverlayRun.remaining, List.filter_append] at hready

end

/-- Writing entries over the file rewrites it in this sense. -/
theorem rewrites_writeOverlay {entries : List OverlayEntry}
    (hentries : ∀ entry ∈ entries, ∃ p, pairKey entry = some p ∧
      (p ∈ run.pairs → ∃ old ∈ kept, pairKey old = some p ∧
        (entry.generation = old.generation ∨ entry.generation = 0))) :
    Rewrites run kept (writeOverlay entries run.file) where
  applied_eq := rfl
  generation_le := generation_le_writeOverlay entries run.file
  entries_le := (foldl_max_generation _ _).2
  source entry hentry := by
    obtain ⟨source, hsource, hsameKey, hgeneration⟩ := mem_writeOverlay hentry
    obtain ⟨p, hkey, hpair⟩ := hentries source hsource
    refine ⟨p, hsameKey ▸ hkey, ?_⟩
    rcases hgeneration p hkey with ⟨-, hnew⟩ | ⟨hdisk, hsame⟩
    · exact Or.inl (hnew ▸ Nat.lt_succ_self _)
    · rw [hsame]
      exact Or.inr (hpair hdisk)

end Rewriting

/-! ## Marks -/

theorem generation_setOverlayApplied (generation : Option Nat) (file : Option OverlayDocument) :
    (readDocument (setOverlayApplied generation file)).generation = (readDocument file).generation ∧
      (readDocument (setOverlayApplied generation file)).entries = (readDocument file).entries := by
  cases file with
  | none => exact ⟨rfl, rfl⟩
  | some document =>
      simp only [setOverlayApplied, Option.map_some, readDocument, Option.getD_some]
      split
      · exact ⟨rfl, rfl⟩
      · exact ⟨rfl, rfl⟩

/-- A mark sets the applied generation to its own, and never back. -/
theorem appliedGeneration_setOverlayApplied (generation : Option Nat)
    (file : Option OverlayDocument) :
    (readDocument (setOverlayApplied generation file)).appliedGeneration =
      max (readDocument file).appliedGeneration
        ((generation.map (min · (readDocument file).generation)).getD (readDocument file).generation) := by
  cases file with
  | none =>
      cases generation with
      | none => rfl
      | some generation => simp [setOverlayApplied, readDocument]
  | some document =>
      simp only [setOverlayApplied, Option.map_some, readDocument, Option.getD_some]
      split
      · rename_i hle
        exact (max_eq_left hle).symm
      · rename_i hlt
        exact (max_eq_right (Nat.le_of_lt (Nat.lt_of_not_le hlt))).symm

theorem testEntryReady_max {first second generation : Nat}
    (hready : testEntryReady entry (max first second) generation = true) :
    testEntryReady entry first generation = true ∨ testEntryReady entry second generation = true := by
  by_cases hpositive : 0 < entry.generation
  · simp only [testEntryReady, if_pos hpositive, decide_eq_true_eq, le_max_iff] at hready ⊢
    exact hready
  · simp only [testEntryReady, if_neg hpositive, Bool.and_eq_true, decide_eq_true_eq,
      le_max_iff] at hready ⊢
    exact hready.2.imp (fun h => ⟨hready.1, h⟩) fun h => ⟨hready.1, h⟩

theorem ReadyAt.mono {document : OverlayDocument} {generation : Nat} {pairs more : List Pair}
    (hready : ReadyAt document generation pairs) (hsubset : pairs ⊆ more) :
    ReadyAt document generation more := fun entry hentry hentryReady =>
  (hready entry hentry hentryReady).imp fun _ h => ⟨hsubset h.1, h.2⟩

/-! ## Steps -/

section Steps

variable {run : OverlayRun} (hsound : Sound run)

include hsound

theorem Sound.update {arguments : UpdateArguments} {now : Int} {requests : List JsonObject}
    (hfresh : NoneReadded run (.update arguments now requests)) :
    Sound (serve run (.update arguments now requests)) := by
  rw [serve, applyRequests]
  split
  · refine hsound.rewrite (fun entry hentry => (List.mem_filter.mp hentry).1)
      (rewrites_writeOverlay fun entry hentry => ?_)
    rcases mem_mergedEntries (mem_updateOverlay hentry) with ⟨old, hold, hkey, hgeneration⟩ | ⟨c, hc, hkey, hnone⟩
    · obtain ⟨p, hp⟩ := Option.isSome_iff_exists.mp (hsound.keyed old (List.mem_filter.mp hold).1)
      exact ⟨p, hkey ▸ hp, fun _ => ⟨old, hold, hp, Or.inl hgeneration.symm⟩⟩
    · obtain ⟨p, hp, hkept⟩ := hfresh c hc
      refine ⟨p, hkey.trans hp, fun hdisk => ?_⟩
      obtain ⟨old, hold, holdKey⟩ := List.mem_filterMap.mp (hkept hdisk)
      exact ⟨old, hold, holdKey, Or.inr hnone⟩
  · unfold OverlayRun.rewrite
    rwa [if_pos rfl]

theorem Sound.prune (context : PolicyContext) (now : Int) :
    Sound (serve run (.prune context now)) := by
  rw [serve, pruneOverlay]
  split
  · refine hsound.rewrite (fun entry hentry => (List.mem_filter.mp hentry).1)
      (rewrites_writeOverlay fun entry hentry => ?_)
    obtain ⟨p, hp⟩ := Option.isSome_iff_exists.mp (hsound.keyed entry (List.mem_filter.mp hentry).1)
    exact ⟨p, hp, fun _ => ⟨entry, hentry, hp, Or.inl rfl⟩⟩
  · unfold OverlayRun.rewrite
    rwa [if_pos rfl]

theorem Sound.readyAt_pairs (generation : Nat) : ReadyAt run.document generation run.pairs := by
  intro entry hentry _
  obtain ⟨p, hp⟩ := Option.isSome_iff_exists.mp (hsound.keyed entry hentry)
  exact ⟨p, List.mem_filterMap.mpr ⟨entry, hentry, hp⟩, hp⟩

/-- A mark is right about the pairs that were loaded with its generation. -/
theorem Sound.mark {generation : Option Nat} {pending : Option Reload} {pairs : List Pair}
    (hpending : ∀ reload ∈ pending, reload ∈ run.pending)
    (htarget : ReadyAt run.document
      ((generation.map (min · run.document.generation)).getD run.document.generation)
      (run.loaded ++ pairs)) :
    Sound
      { file := setOverlayApplied generation run.file, pending, loaded := run.loaded ++ pairs } := by
  obtain ⟨hgeneration, hentries⟩ := generation_setOverlayApplied generation run.file
  have happlied := appliedGeneration_setOverlayApplied generation run.file
  have htargetLe : (generation.map (min · run.document.generation)).getD run.document.generation ≤
      run.document.generation := by
    cases generation with
    | none => exact Nat.le_refl _
    | some generation => exact Nat.min_le_right _ _
  have hsame : ∀ {at' : Nat} {pairs : List Pair}, ReadyAt run.document at' pairs →
      ReadyAt (readDocument (setOverlayApplied generation run.file)) at' pairs := by
    intro at' pairs hready entry hentry hentryReady
    rw [hentries] at hentry
    rw [hgeneration] at hentryReady
    exact hready entry hentry hentryReady
  refine ⟨?_, ?_, ?_, ?_, ?_, ?_⟩
  · intro entry hentry
    exact hsound.keyed entry (hentries ▸ hentry)
  · intro entry hentry
    exact (hsound.entries_le entry (hentries ▸ hentry)).trans_eq hgeneration.symm
  · exact happlied.trans_le ((max_le hsound.applied_le htargetLe).trans_eq hgeneration.symm)
  · refine hsame (fun entry hentry hentryReady => ?_)
    rw [OverlayRun.document, happlied] at hentryReady
    rcases testEntryReady_max hentryReady with hold | hnew
    · exact (hsound.ready.mono (List.subset_append_left _ _)) entry hentry hold
    · exact htarget entry hentry hnew
  · intro reload hreload
    exact (hsound.pending_le reload (hpending reload hreload)).trans_eq hgeneration.symm
  · intro reload hreload
    refine hsame ((hsound.pending_ready reload (hpending reload hreload)).mono ?_)
    rw [List.append_assoc]
    intro p hp
    rcases List.mem_append.mp hp with hloaded | hwaiting
    · exact List.mem_append_left _ hloaded
    · exact List.mem_append_right _ (List.mem_append_right _ hwaiting)

theorem Sound.serve {event : Event} (hfresh : NoneReadded run event) : Sound (serve run event) := by
  cases event with
  | update arguments now requests => exact hsound.update hfresh
  | prune context now => exact hsound.prune context now
  | clear =>
      have hnone : run.pending = none := hfresh
      have hstart : Overlay.serve run .clear = .start := by
        rw [Overlay.serve, hnone]
        rfl
      rw [hstart]
      exact sound_start
  | reload =>
      refine ⟨hsound.keyed, hsound.entries_le, hsound.applied_le, hsound.ready, ?_, ?_⟩
      · intro reload hreload
        rw [← Option.some.inj hreload]
        exact Nat.le_refl _
      · intro reload hreload
        rw [← Option.some.inj hreload]
        exact (hsound.readyAt_pairs _).mono (List.subset_append_right _ _)
  | markApplied =>
      rw [Overlay.serve]
      cases hpending : run.pending with
      | none => exact hsound
      | some reload =>
          have hle := hsound.pending_le reload hpending
          refine hsound.mark (fun _ h => by cases h) ?_
          rw [Option.map_some, Option.getD_some, Nat.min_eq_left hle]
          exact hsound.pending_ready reload hpending
  | reloadAndMark =>
      exact hsound.mark (fun _ h => h)
        ((hsound.readyAt_pairs _).mono (List.subset_append_right _ _))

end Steps

/-! ## All runs -/

/-- What readiness promises: an entry that is ready has a pair that was loaded by an
applied reload since it was added. -/
structure ReadinessHolds (run : OverlayRun) : Prop where
  ready : ∀ entry ∈ run.document.entries,
    testEntryReady entry run.document.appliedGeneration run.document.generation = true →
      ∃ p ∈ run.loaded, pairKey entry = some p
  applied_le : run.document.appliedGeneration ≤ run.document.generation

theorem generation_le_rewrite (run : OverlayRun) {kept : List OverlayEntry} :
    run.document.generation ≤
      (run.rewrite (some (writeOverlay entries run.file)) kept).document.generation := by
  unfold OverlayRun.rewrite
  split
  · exact Nat.le_refl _
  · exact generation_le_writeOverlay entries run.file

theorem generation_le_keep (run : OverlayRun) (kept : List OverlayEntry) :
    run.document.generation ≤ (run.rewrite run.file kept).document.generation := by
  unfold OverlayRun.rewrite
  rw [if_pos rfl]

/-- No event lowers the generation of the document, unless the document is removed. -/
theorem generation_le_serve (run : OverlayRun) (event : Event) (hfile : (serve run event).file ≠ none) :
    run.document.generation ≤ (serve run event).document.generation := by
  cases event with
  | update arguments now requests =>
      rw [serve, applyRequests]
      split
      · exact generation_le_rewrite run
      · exact generation_le_keep run _
  | prune context now =>
      rw [serve, pruneOverlay]
      split
      · exact generation_le_rewrite run
      · exact generation_le_keep run _
  | clear => exact absurd rfl hfile
  | reload => exact Nat.le_refl _
  | markApplied =>
      rw [serve]
      cases run.pending with
      | none => exact Nat.le_refl _
      | some reload => exact (generation_setOverlayApplied _ run.file).1.ge
  | reloadAndMark => exact (generation_setOverlayApplied _ run.file).1.ge

theorem sound_of_reachable {run : OverlayRun} (hreach : overlayRuns.ReachableBy NoneReadded run) :
    Sound run := by
  refine hreach.invariant ?_ ?_
  · rintro _ rfl
    exact sound_start
  · rintro source event _ hsound hfresh rfl
    exact hsound.serve hfresh

/-- In the runs in which no update adds a pair again whose old entry is on disk, what is
ready has been loaded since it was added. -/
theorem readiness_holds {run : OverlayRun} (hreach : overlayRuns.ReachableBy NoneReadded run) :
    ReadinessHolds run ∧
      ∀ event, (serve run event).file ≠ none →
        run.document.generation ≤ (serve run event).document.generation :=
  have hsound := sound_of_reachable hreach
  ⟨⟨hsound.ready, hsound.applied_le⟩, generation_le_serve run⟩

section Examples

def schoolArguments : UpdateArguments where
  context := policyContext ["s.io".toList] [] []
  capacity := 300
  ttlDays := 7

/-- A page of `s.io` that loads a script from `x.io`. -/
def scriptRequest : JsonObject :=
  [("anchorHost".toList, .string "s.io".toList), ("dependencyHost".toList, .string "x.io".toList),
   ("requestType".toList, .string "script".toList)]

def addEvent (day : Int) : Event := .update schoolArguments (day * ticksPerDay) [scriptRequest]

/-- A pair is added and loaded, and its entry is ready. -/
theorem readiness_holds_loaded :
    ReadinessHolds (serve (serve .start (addEvent 0)) .reloadAndMark) ∧
      (serve (serve .start (addEvent 0)) .reloadAndMark).document.appliedGeneration = 1 := by
  have hfresh : NoneReadded .start (addEvent 0) := by
    have hadmitted : ∀ c ∈ admitted schoolArguments.context [scriptRequest],
        ∃ p, hostsKey c.anchorHost c.dependencyHost = some p := by
      have hkeys : ∀ c ∈ admitted schoolArguments.context [scriptRequest],
          (hostsKey c.anchorHost c.dependencyHost).isSome = true := by decide +kernel
      exact fun c hc => Option.isSome_iff_exists.mp (hkeys c hc)
    exact fun c hc => (hadmitted c hc).imp fun _ hp => ⟨hp, fun h => absurd h List.not_mem_nil⟩
  have hmark : NoneReadded (serve .start (addEvent 0)) .reloadAndMark := trivial
  have hadded : overlayRuns.ReachableBy NoneReadded (serve .start (addEvent 0)) :=
    .step (.start rfl) hfresh rfl
  exact ⟨(readiness_holds (.step hadded hmark rfl)).1, by decide +kernel⟩

/-- The pair is added and loaded, and added again when its entry has expired. -/
def expiredEvents : List Event := [addEvent 0, .reloadAndMark, addEvent 8]

def expiredRun : OverlayRun := expiredEvents.foldl serve .start

/-- The new entry is ready at once. -/
theorem readded_ready :
    overlayRuns.Reachable expiredRun ∧
      ∃ entry ∈ expiredRun.document.entries,
        testEntryReady entry expiredRun.document.appliedGeneration
            expiredRun.document.generation = true ∧
          ∀ p ∈ expiredRun.loaded, pairKey entry ≠ some p :=
  have hstart : overlayRuns.Reachable .start := .start rfl
  ⟨TransitionSystem.reachable_foldl hstart expiredEvents, by decide +kernel⟩

end Examples

end OpenPath.Windows.Overlay
