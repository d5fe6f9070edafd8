/-
# Readiness of runtime dependencies on Linux

An entry of the overlay is ready once the name server has been reloaded with it. The
entries carry the generation in which they were added, and `mark-applied` notes the
generation of the document, so that the native host can tell which entries the last
reload has covered.

Here runs of the three commands are paired with the pairs that are covered in fact: a
`mark-applied` covers every pair of the document, and a pair is covered until it is
removed. The generations tell the truth about them as long as no host is let in with
a line break at its end. Such a host becomes another one when the file is read again.
-/

import OpenPath.Foundation.Transition
import OpenPath.Linux.DependencyBlocks

namespace OpenPath.Linux.Overlay

open Python RuntimeDependency
open OverlayEntry (pair)
open Foundation

/-! ## The native host -/

/-- `entry_is_ready` -/
def entryIsReady (entry : OverlayEntry) (generation appliedGeneration : Nat) : Bool :=
  if 0 < entry.generation then entry.generation ≤ appliedGeneration
  else 0 < generation && generation ≤ appliedGeneration

/-- `find_runtime_dependency_entry` -/
def findEntry (p : Pair) (entries : List OverlayEntry) : Option OverlayEntry :=
  entries.find? fun entry =>
    (normalizeText entry.anchorHost, normalizeText entry.dependencyHost) = p

/-- `is_runtime_dependency_ready` -/
def isReady (p : Pair) (file : Option OverlayDocument) : Bool :=
  let document := loadOverlayDocument file
  (findEntry p document.entries).any fun entry =>
    entryIsReady entry document.generation document.appliedGeneration

/-! ## Runs -/

inductive Command
  | update (arguments : UpdateArguments) (now : Int) (requests : List (Option Json))
  | domains (policy : PolicyArguments) (now : Int) (prune : Bool)
  | markApplied

/-- The file, and the pairs whose entries some `mark-applied` has covered. -/
structure OverlayRun where
  file : Option OverlayDocument
  covered : List Pair

namespace OverlayRun

def start : OverlayRun where
  file := none
  covered := []

def document (run : OverlayRun) : OverlayDocument := loadOverlayDocument run.file

def pairs (run : OverlayRun) : List Pair := run.document.entries.map OverlayEntry.pair

/-- Rewriting the file removes what is not among the entries that are kept, and what
is kept but not written. -/
def rewrite (run : OverlayRun) (file : Option OverlayDocument) (kept : List OverlayEntry) :
    OverlayRun where
  file := file
  covered :=
    if file = run.file then run.covered
    else run.covered.filter fun p =>
      p ∈ kept.map OverlayEntry.pair ∧ p ∈ (loadOverlayDocument file).entries.map OverlayEntry.pair

end OverlayRun

def execute (run : OverlayRun) : Command → OverlayRun
  | .update arguments now requests =>
      run.rewrite (commandUpdate arguments now requests run.file).document
        (pruneEntries run.document.entries now arguments.policy)
  | .domains policy now prune =>
      run.rewrite (commandDomains policy now prune run.file)
        (pruneEntries run.document.entries now policy)
  | .markApplied =>
      { file := commandMarkApplied run.file
        covered := run.pairs }

def overlayRuns : TransitionSystem OverlayRun Command := .ofFunction (· = .start) execute

/-- No request that the command admits has a host with a line break. -/
def AdmitsNoBreak (_ : OverlayRun) : Command → Prop
  | .update arguments _ requests =>
      ∀ c ∈ requests.filterMap arguments.policy.validateRequest,
        '\n' ∉ c.anchorHost ∧ '\n' ∉ c.dependencyHost
  | _ => True

/-! ## Tables of distinct pairs -/

/-- The hosts of an entry are read from the file as they stand there. -/
def OverlayEntry.Normal (entry : OverlayEntry) : Prop :=
  normalizeText entry.anchorHost = entry.anchorHost ∧
    normalizeText entry.dependencyHost = entry.dependencyHost

section Tables

variable {now expiresAt : Int} {policy : PolicyArguments} {entry : OverlayEntry}

theorem pruneEntry_of_normal {kept : OverlayEntry} (hnormal : entry.Normal)
    (hkept : pruneEntry now policy entry = some kept) : kept = entry := by
  unfold pruneEntry at hkept
  split at hkept
  · cases hkept
  split at hkept
  · cases hkept
  obtain ⟨c, hc, rfl⟩ := Option.map_eq_some_iff.mp hkept
  obtain ⟨hanchor, hdependency, -, -⟩ := hosts_of_validateCandidate hc
  have hanchorHost : c.anchorHost = entry.anchorHost := hanchor.trans hnormal.1
  have hdependencyHost : c.dependencyHost = entry.dependencyHost := hdependency.trans hnormal.2
  rw [hanchorHost, hdependencyHost]

variable {entries : List OverlayEntry}

theorem pruneEntries_sublist (hnormal : ∀ entry ∈ entries, entry.Normal) :
    (pruneEntries entries now policy).Sublist entries := by
  induction entries with
  | nil => exact List.Sublist.refl _
  | cons entry rest ih =>
      obtain ⟨hentry, hrest⟩ := List.forall_mem_cons.mp hnormal
      rw [pruneEntries, List.filterMap_cons]
      cases hkept : pruneEntry now policy entry with
      | none => exact (ih hrest).cons entry
      | some kept =>
          rw [pruneEntry_of_normal hentry hkept]
          exact (ih hrest).cons_cons entry

theorem byKey_of_nodup (hkeys : (entries.map pair).Nodup) :
    byKey entries = entries := by
  have hfold : ∀ table : List OverlayEntry, ((table ++ entries).map pair).Nodup →
      entries.foldl putEntry table = table ++ entries := by
    clear hkeys
    induction entries with
    | nil => simp
    | cons entry rest ih =>
        intro table htable
        have hnew : entry.pair ∉ table.map pair := by
          rw [List.map_append, List.nodup_append] at htable
          exact fun hmem => htable.2.2 _ hmem entry.pair (by simp) rfl
        rw [List.foldl_cons, putEntry, if_neg hnew, ih _ (by simpa using htable), List.append_assoc,
          List.singleton_append]
  exact hfold [] hkeys

variable {table : List OverlayEntry}

/-- A request gives no entry another generation, and an entry that it adds has the
pair of the request. -/
theorem mem_mergeCandidate {c : Candidate} (hentry : entry ∈ mergeCandidate now expiresAt table c) :
    (∃ old ∈ table, old.pair = entry.pair ∧ old.generation = entry.generation) ∨
      (entry.pair ∉ table.map pair ∧ entry.pair = c.pair) := by
  unfold mergeCandidate at hentry
  split at hentry
  · obtain ⟨old, hold, rfl⟩ := List.mem_map.mp hentry
    left
    refine ⟨old, hold, ?_⟩
    split
    · exact ⟨rfl, rfl⟩
    · exact ⟨rfl, rfl⟩
  · rename_i hnew
    rcases List.mem_append.mp hentry with hold | hadded
    · exact Or.inl ⟨entry, hold, rfl, rfl⟩
    · have hpair : entry.pair = c.pair := by
        rw [List.mem_singleton.mp hadded]
        rfl
      exact Or.inr ⟨hpair ▸ hnew, hpair⟩

variable {candidates : List Candidate}

theorem mem_mergeCandidates
    (hentry : entry ∈ candidates.foldl (mergeCandidate now expiresAt) table) :
    (∃ old ∈ table, old.pair = entry.pair ∧ old.generation = entry.generation) ∨
      (entry.pair ∉ table.map pair ∧ entry.pair ∈ candidates.map Candidate.pair) := by
  induction candidates generalizing table with
  | nil => exact Or.inl ⟨entry, hentry, rfl, rfl⟩
  | cons c rest ih =>
      rw [List.map_cons, List.mem_cons]
      rcases ih hentry with ⟨middle, hmiddle, hpair, hgeneration⟩ | ⟨hnew, hrest⟩
      · rw [← hpair, ← hgeneration]
        exact (mem_mergeCandidate hmiddle).imp_right fun h => ⟨h.1, Or.inl h.2⟩
      · rw [map_pair_mergeCandidate] at hnew
        refine Or.inr ⟨fun hold => hnew ?_, Or.inr hrest⟩
        split
        · exact hold
        · exact List.mem_append_left _ hold

theorem nodup_mergeCandidates (hkeys : (table.map pair).Nodup) :
    ((candidates.foldl (mergeCandidate now expiresAt) table).map pair).Nodup := by
  induction candidates generalizing table with
  | nil => exact hkeys
  | cons c rest ih =>
      refine ih ?_
      rw [map_pair_mergeCandidate]
      split
      · exact hkeys
      · rename_i hnew
        exact List.nodup_append.mpr ⟨hkeys, List.nodup_singleton _, fun p hp q hq heq =>
          hnew (List.mem_singleton.mp hq ▸ heq ▸ hp)⟩

end Tables

/-! ## Updates -/

section Updates

variable {arguments : UpdateArguments} {now : Int} {requests : List (Option Json)}
  {previous : OverlayDocument}

@[simp]
theorem pair_stampEntry (added : List Pair) (generation : Nat) (entry : OverlayEntry) :
    (stampEntry added generation entry).pair = entry.pair := by
  unfold stampEntry
  split
  · rfl
  · rfl

section

variable
  (hkeys : ((pruneEntries previous.entries now arguments.policy).map OverlayEntry.pair).Nodup)
include hkeys

/-- An entry after an update has been left by the pruning, with its generation, or is
new and has the next one. -/
theorem mem_updatedEntries {entry : OverlayEntry}
    (hentry : entry ∈ updatedEntries arguments now requests previous) :
    (∃ old ∈ pruneEntries previous.entries now arguments.policy,
        old.pair = entry.pair ∧ old.generation = entry.generation) ∨
      (entry.pair ∉ (pruneEntries previous.entries now arguments.policy).map pair ∧
        entry.generation = previous.generation + 1 ∧
        ∃ c ∈ requests.filterMap arguments.policy.validateRequest, c.pair = entry.pair) := by
  have hmem := (take_sublist _ _).subset hentry
  rw [List.mem_insertionSort, List.mem_map] at hmem
  obtain ⟨merged, hmerged, rfl⟩ := hmem
  have hadded : merged.pair ∈ addedKeys (mergedTable arguments now requests
        (pruneEntries previous.entries now arguments.policy))
        (pruneEntries previous.entries now arguments.policy) ↔
      merged.pair ∉ (pruneEntries previous.entries now arguments.policy).map pair := by
    rw [addedKeys, List.mem_filter, decide_eq_true_eq]
    exact and_iff_right (List.mem_map_of_mem hmerged)
  have hmem := hmerged
  rw [mergedTable, byKey_of_nodup hkeys] at hmem
  rw [pair_stampEntry]
  rcases mem_mergeCandidates hmem with ⟨old, hold, hpair, hgeneration⟩ | ⟨hnew, hc⟩
  · have hnot : merged.pair ∈ (pruneEntries previous.entries now arguments.policy).map
        pair := hpair ▸ List.mem_map_of_mem hold
    left
    refine ⟨old, hold, hpair, ?_⟩
    rw [stampEntry, if_neg fun h => hadded.mp h hnot]
    exact hgeneration
  · obtain ⟨c, hc, hpair⟩ := List.mem_map.mp hc
    refine Or.inr ⟨hnew, ?_, c, hc, hpair⟩
    rw [stampEntry, if_pos (hadded.mpr hnew)]

theorem nodup_updatedEntries :
    ((updatedEntries arguments now requests previous).map pair).Nodup := by
  have htable : ((mergedTable arguments now requests
      (pruneEntries previous.entries now arguments.policy)).map pair).Nodup := by
    rw [mergedTable, byKey_of_nodup hkeys]
    exact nodup_mergeCandidates hkeys
  refine List.Sublist.nodup ((take_sublist _ _).map _) ?_
  refine (((List.perm_insertionSort _ _).map pair).nodup_iff).mpr ?_
  rw [List.map_map]
  have hpair : (pair ∘ stampEntry (addedKeys (mergedTable arguments now requests
        (pruneEntries previous.entries now arguments.policy))
      (pruneEntries previous.entries now arguments.policy)) (previous.generation + 1)) =
      pair := funext fun entry => pair_stampEntry _ _ entry
  rwa [hpair]

end

theorem nextDocumentGeneration_ge (entries : List OverlayEntry) (previousGeneration : Nat) :
    previousGeneration ≤ nextDocumentGeneration entries previousGeneration ∧
      ∀ entry ∈ entries, entry.generation ≤ nextDocumentGeneration entries previousGeneration := by
  rw [nextDocumentGeneration]
  induction entries generalizing previousGeneration with
  | nil => simp
  | cons entry rest ih =>
      obtain ⟨hprevious, hrest⟩ := ih (max previousGeneration entry.generation)
      rw [List.foldl_cons]
      exact ⟨le_trans (le_max_left _ _) hprevious,
        List.forall_mem_cons.mpr ⟨le_trans (le_max_right _ _) hprevious, hrest⟩⟩

end Updates

/-! ## The invariant -/

/-- Each pair has one entry, which is covered if and only if its generation says so. -/
structure Sound (run : OverlayRun) : Prop where
  keys : run.pairs.Nodup
  normal : ∀ entry ∈ run.document.entries, entry.Normal
  positive : ∀ entry ∈ run.document.entries, 0 < entry.generation
  entries_le : ∀ entry ∈ run.document.entries, entry.generation ≤ run.document.generation
  applied_le : run.document.appliedGeneration ≤ run.document.generation
  covered_iff : ∀ entry ∈ run.document.entries,
    entry.pair ∈ run.covered ↔ entry.generation ≤ run.document.appliedGeneration
  covered_mem : ∀ p ∈ run.covered, p ∈ run.pairs

theorem sound_start : Sound .start where
  keys := List.nodup_nil
  normal _ h := absurd h List.not_mem_nil
  positive _ h := absurd h List.not_mem_nil
  entries_le _ h := absurd h List.not_mem_nil
  applied_le := Nat.le_refl 0
  covered_iff _ h := absurd h List.not_mem_nil
  covered_mem _ h := absurd h List.not_mem_nil

/-- What a command may write over the file, given the entries that it keeps. -/
structure Rewrites (run : OverlayRun) (kept : List OverlayEntry) (document : OverlayDocument) :
    Prop where
  keys : (document.entries.map OverlayEntry.pair).Nodup
  normal : ∀ entry ∈ document.entries, entry.Normal
  applied_eq : document.appliedGeneration = run.document.appliedGeneration
  generation_le : run.document.generation ≤ document.generation
  entries_le : ∀ entry ∈ document.entries, entry.generation ≤ document.generation
  source : ∀ entry ∈ document.entries,
    (∃ old ∈ kept, old.pair = entry.pair ∧ old.generation = entry.generation) ∨
      (entry.pair ∉ kept.map OverlayEntry.pair ∧ run.document.generation < entry.generation)

namespace Sound

variable {run : OverlayRun}

theorem rewrite (hsound : Sound run) {kept : List OverlayEntry} {document : OverlayDocument}
    (hkept : ∀ entry ∈ kept, entry ∈ run.document.entries) (hrewrites : Rewrites run kept document) :
    Sound (run.rewrite (some document) kept) := by
  unfold OverlayRun.rewrite
  by_cases hsame : some document = run.file
  · rw [if_pos hsame]
    have hrun : ({ file := some document, covered := run.covered } : OverlayRun) = run := by
      rw [hsame]
    rwa [hrun]
  · rw [if_neg hsame]
    refine ⟨hrewrites.keys, hrewrites.normal, ?_, hrewrites.entries_le, ?_, ?_, ?_⟩
    · intro entry hentry
      rcases hrewrites.source entry hentry with ⟨old, hold, -, hgeneration⟩ | ⟨-, hnew⟩
      · rw [← hgeneration]
        exact hsound.positive old (hkept old hold)
      · exact Nat.lt_of_le_of_lt (Nat.zero_le _) hnew
    · exact hrewrites.applied_eq.trans_le
        (hsound.applied_le.trans hrewrites.generation_le)
    · intro entry hentry
      have hpair : entry.pair ∈ document.entries.map pair := List.mem_map_of_mem hentry
      have happlied : document.appliedGeneration = run.document.appliedGeneration :=
        hrewrites.applied_eq
      rw [List.mem_filter, decide_eq_true_eq]
      rcases hrewrites.source entry hentry with ⟨old, hold, hsamePair, hgeneration⟩ | ⟨hnot, hnew⟩
      · have hkeptPair : entry.pair ∈ kept.map pair :=
          hsamePair ▸ List.mem_map_of_mem hold
        have hcovered := hsound.covered_iff old (hkept old hold)
        rw [hsamePair, hgeneration, ← happlied] at hcovered
        exact ⟨fun h => hcovered.mp h.1, fun h => ⟨hcovered.mpr h, hkeptPair, hpair⟩⟩
      · have hle := hsound.applied_le
        rw [← happlied] at hle
        exact ⟨fun h => absurd h.2.1 hnot, fun h =>
          absurd (Nat.lt_of_lt_of_le hnew (h.trans hle)) (Nat.lt_irrefl _)⟩
    · intro p hp
      exact (of_decide_eq_true (List.mem_filter.mp hp).2).2

theorem keep (hsound : Sound run) (kept : List OverlayEntry) :
    Sound (run.rewrite run.file kept) := by
  unfold OverlayRun.rewrite
  rwa [if_pos rfl]

variable (hsound : Sound run)

include hsound

section

variable (now : Int) (policy : PolicyArguments)

theorem pruned_sublist :
    (pruneEntries run.document.entries now policy).Sublist run.document.entries :=
  pruneEntries_sublist hsound.normal

theorem pruned_nodup :
    ((pruneEntries run.document.entries now policy).map pair).Nodup :=
  ((hsound.pruned_sublist now policy).map _).nodup hsound.keys

theorem prune :
    Rewrites run (pruneEntries run.document.entries now policy)
      { generation := nextDocumentGeneration (pruneEntries run.document.entries now policy)
          run.document.generation
        appliedGeneration := run.document.appliedGeneration
        entries := pruneEntries run.document.entries now policy } where
  keys := hsound.pruned_nodup now policy
  normal entry hentry := hsound.normal entry ((hsound.pruned_sublist now policy).subset hentry)
  applied_eq := rfl
  generation_le := (nextDocumentGeneration_ge _ _).1
  entries_le := (nextDocumentGeneration_ge _ _).2
  source entry hentry := Or.inl ⟨entry, hentry, rfl, rfl⟩

end

theorem update {arguments : UpdateArguments} {now : Int} {requests : List (Option Json)}
    (hbreak : AdmitsNoBreak run (.update arguments now requests)) :
    Rewrites run (pruneEntries run.document.entries now arguments.policy)
      { generation := nextDocumentGeneration (updatedEntries arguments now requests run.document)
          run.document.generation
        appliedGeneration := run.document.appliedGeneration
        entries := updatedEntries arguments now requests run.document } where
  keys := nodup_updatedEntries (hsound.pruned_nodup now arguments.policy)
  normal entry hentry := by
    rcases mem_updatedEntries (hsound.pruned_nodup now arguments.policy) hentry with
      ⟨old, hold, hpair, -⟩ | ⟨-, -, c, hc, hpair⟩
    · have hnormal := hsound.normal old ((hsound.pruned_sublist now _).subset hold)
      obtain ⟨hanchor, hdependency⟩ := Prod.mk.inj hpair
      rwa [OverlayEntry.Normal, ← hanchor, ← hdependency]
    · obtain ⟨request, -, hvalid⟩ := List.mem_filterMap.mp hc
      unfold PolicyArguments.validateRequest at hvalid
      split at hvalid
      · obtain ⟨hanchorHost, hdependencyHost, hanchorNe, hdependencyNe⟩ :=
          hosts_of_validateCandidate hvalid
        obtain ⟨hanchor, hdependency⟩ := Prod.mk.inj hpair
        obtain ⟨hanchorLine, hdependencyLine⟩ := hbreak c hc
        rw [OverlayEntry.Normal, ← hanchor, ← hdependency]
        rw [hanchorHost] at hanchorNe hanchorLine ⊢
        rw [hdependencyHost] at hdependencyNe hdependencyLine ⊢
        exact ⟨normalizeText_of_readHost (readHost_normalizeHost hanchorNe) hanchorLine,
          normalizeText_of_readHost (readHost_normalizeHost hdependencyNe) hdependencyLine⟩
      · cases hvalid
  applied_eq := rfl
  generation_le := (nextDocumentGeneration_ge _ _).1
  entries_le := (nextDocumentGeneration_ge _ _).2
  source entry hentry := by
    rcases mem_updatedEntries (hsound.pruned_nodup now arguments.policy) hentry with
      hold | ⟨hnew, hgeneration, -⟩
    · exact Or.inl hold
    · exact Or.inr ⟨hnew, by rw [hgeneration]; exact Nat.lt_succ_self _⟩

theorem markApplied : Sound (execute run .markApplied) := by
  rw [execute, commandMarkApplied]
  have hpairs : ∀ entry ∈ run.document.entries, entry.pair ∈ run.pairs := fun entry hentry =>
    List.mem_map_of_mem hentry
  split
  · rename_i hdone
    refine ⟨hsound.keys, hsound.normal, hsound.positive, hsound.entries_le, hsound.applied_le, ?_,
      fun _ hp => hp⟩
    intro entry hentry
    have hpositive := hsound.positive entry hentry
    have hle := hsound.entries_le entry hentry
    refine iff_of_true (hpairs entry hentry) ?_
    rcases hdone with hzero | happlied
    · have hnone : run.document.generation = 0 := hzero
      omega
    · exact hle.trans happlied
  · exact ⟨hsound.keys, hsound.normal, hsound.positive, hsound.entries_le, Nat.le_refl _,
      fun entry hentry => iff_of_true (hpairs entry hentry) (hsound.entries_le entry hentry),
      fun _ hp => hp⟩

theorem execute {command : Command} (hbreak : AdmitsNoBreak run command) :
    Sound (execute run command) := by
  cases command with
  | update arguments now requests =>
      rw [Overlay.execute, commandUpdate]
      dsimp only
      split
      · exact hsound.rewrite (fun entry hentry =>
          (hsound.pruned_sublist now arguments.policy).subset hentry) (hsound.update hbreak)
      · exact hsound.keep _
  | domains policy now prune =>
      rw [Overlay.execute, commandDomains]
      split
      · exact hsound.rewrite (fun entry hentry => (hsound.pruned_sublist now policy).subset hentry)
          (hsound.prune now policy)
      · exact hsound.keep _
  | markApplied => exact hsound.markApplied

theorem pair_of_findEntry {p : Pair} {entry : OverlayEntry}
    (hfind : findEntry p run.document.entries = some entry) :
    entry ∈ run.document.entries ∧ entry.pair = p := by
  have hentry : entry ∈ run.document.entries := List.mem_of_find?_eq_some hfind
  have hsame := List.find?_some hfind
  rw [decide_eq_true_eq, (hsound.normal entry hentry).1, (hsound.normal entry hentry).2] at hsame
  exact ⟨hentry, hsame⟩

/-- The native host finds the entry of a pair and reports what is covered. -/
theorem isReady_iff (p : Pair) : isReady p run.file = true ↔ p ∈ run.covered := by
  have hready : ∀ entry, findEntry p run.document.entries = some entry →
      (entryIsReady entry run.document.generation run.document.appliedGeneration = true ↔
        p ∈ run.covered) := by
    intro entry hfind
    obtain ⟨hentry, rfl⟩ := hsound.pair_of_findEntry hfind
    rw [entryIsReady, if_pos (hsound.positive entry hentry), decide_eq_true_eq,
      hsound.covered_iff entry hentry]
  rw [isReady, Option.any_eq_true]
  constructor
  · rintro ⟨entry, hfind, hentry⟩
    exact (hready entry hfind).mp hentry
  · intro hp
    obtain ⟨known, hknown, hpair⟩ := List.mem_map.mp (hsound.covered_mem p hp)
    have hsome : (findEntry p run.document.entries).isSome = true := by
      refine List.find?_isSome.mpr ⟨known, hknown, ?_⟩
      rw [decide_eq_true_eq, (hsound.normal known hknown).1, (hsound.normal known hknown).2]
      exact hpair
    obtain ⟨entry, hfind⟩ := Option.isSome_iff_exists.mp hsome
    exact ⟨entry, hfind, (hready entry hfind).mpr hp⟩

end Sound

/-! ## All runs -/

/-- What the generations promise. -/
structure GenerationsHold (run : OverlayRun) : Prop where
  entries_le : ∀ entry ∈ run.document.entries, entry.generation ≤ run.document.generation
  applied_le : run.document.appliedGeneration ≤ run.document.generation
  ready_iff : ∀ p, isReady p run.file = true ↔ p ∈ run.covered

/-- No command lowers the generation of the document. -/
theorem generation_le_execute (run : OverlayRun) (command : Command) :
    run.document.generation ≤ (execute run command).document.generation := by
  cases command with
  | update arguments now requests =>
      rw [execute, commandUpdate]
      dsimp only
      split
      · exact (nextDocumentGeneration_ge _ _).1
      · exact Nat.le_refl _
  | domains policy now prune =>
      rw [execute, commandDomains]
      split
      · exact (nextDocumentGeneration_ge _ _).1
      · exact Nat.le_refl _
  | markApplied =>
      rw [execute, commandMarkApplied]
      split
      · exact Nat.le_refl _
      · exact Nat.le_refl _

theorem sound_of_reachable {run : OverlayRun} (hreach : overlayRuns.ReachableBy AdmitsNoBreak run) :
    Sound run := by
  refine hreach.invariant ?_ ?_
  · rintro _ rfl
    exact sound_start
  · rintro source command _ hsound hbreak rfl
    exact hsound.execute hbreak

/-- In the runs that let in no host with a line break, a pair is reported as ready if
and only if some `mark-applied` has covered it since it was added. -/
theorem generations_hold {run : OverlayRun} (hreach : overlayRuns.ReachableBy AdmitsNoBreak run) :
    GenerationsHold run ∧
      ∀ command, run.document.generation ≤ (execute run command).document.generation :=
  have hsound := sound_of_reachable hreach
  ⟨⟨hsound.entries_le, hsound.applied_le, hsound.isReady_iff⟩, generation_le_execute run⟩

section Examples

def schoolPolicy : UpdateArguments where
  policy := policyArguments ["s.io".toList] [] []
  ttlDays := 7
  capacity := 300

/-- A page of `s.io` that loads a script from a host. -/
def scriptFrom (host : Text) : Option Json :=
  some (.object
    [("anchorHost".toList, .string "s.io".toList), ("dependencyHost".toList, .string host),
     ("requestType".toList, .string "script".toList)])

def cdnPair : Pair := ("s.io".toList, "x.io".toList)

def addCommand : Command := .update schoolPolicy 0 [scriptFrom "x.io".toList]

/-- A pair is added, covered, and ready. -/
theorem generations_hold_applied :
    GenerationsHold (execute (execute .start addCommand) .markApplied) ∧
      isReady cdnPair (execute (execute .start addCommand) .markApplied).file = true := by
  have hbreak : AdmitsNoBreak .start addCommand := by
    have hadmitted : ∀ c ∈ [scriptFrom "x.io".toList].filterMap
        schoolPolicy.policy.validateRequest, '\n' ∉ c.anchorHost ∧ '\n' ∉ c.dependencyHost := by
      decide +kernel
    exact hadmitted
  have hmark : AdmitsNoBreak (execute .start addCommand) .markApplied := trivial
  have hadded : overlayRuns.ReachableBy AdmitsNoBreak (execute .start addCommand) :=
    .step (.start rfl) hbreak rfl
  exact ⟨(generations_hold (.step hadded hmark rfl)).1, by decide +kernel⟩

/-- The pair was added and covered; then a request for it and one for its host with a line
break and a dot are merged, and the file is rewritten once more. -/
def lineBreakCommands : List Command :=
  [addCommand,
    .markApplied,
    .update schoolPolicy 60 [scriptFrom "x.io".toList, scriptFrom "x.io\n.".toList],
    .update schoolPolicy 120 [none]]

def lineBreakRun : OverlayRun := lineBreakCommands.foldl execute .start

/-- The pair has never been removed, but is no longer reported as ready. -/
theorem covered_not_ready :
    overlayRuns.Reachable lineBreakRun ∧ cdnPair ∈ lineBreakRun.covered ∧
      ¬ isReady cdnPair lineBreakRun.file = true :=
  have hstart : overlayRuns.Reachable .start := .start rfl
  ⟨TransitionSystem.reachable_foldl hstart lineBreakCommands, by decide +kernel⟩

end Examples

end OpenPath.Linux.Overlay
