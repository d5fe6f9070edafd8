/-
# Runtime dependencies of the Windows agent: queue

`Invoke-OpenPathRuntimeDependencyQueue` reads all files of the queue, removes them one by
one, has the overlay updated from what they said, and writes it. Nothing catches the error
of a file that cannot be read or parsed, or of a message that is null, and between the
removals and the write the requests are nowhere on disk.

What `Get-Content` and `ConvertFrom-Json` make of a file is a parameter: nothing where one
of them throws, and else the members of each message that the file adds to the batch,
with none for null. The queue holds the `.json` files in the order of their last writes.
-/

import OpenPath.Foundation.LatestRows
import OpenPath.Foundation.Spool
import OpenPath.Text.Utf8
import OpenPath.Windows.DependencyOverlay

namespace OpenPath.Windows.Overlay

open DotNet
open Foundation (Spool)

structure QueueFile where
  name : Text
  bytes : Bytes
  deriving DecidableEq

abbrev QueueState := Spool QueueFile (Option OverlayDocument)

/-- The queue and the overlay at the start of a pass. -/
def waiting (files : List QueueFile) (overlay : Option OverlayDocument) : QueueState where
  files := files
  store := overlay

section Queue

variable (read : Bytes → Option (List (Option JsonObject)))

def QueueFile.messages (file : QueueFile) : List (Option JsonObject) := (read file.bytes).getD []

/-- The overlay is written if some request counts. -/
def mergeRequests (arguments : UpdateArguments) (now : Int) (requests : List JsonObject)
    (state : QueueState) : QueueState where
  files := state.files
  store := applyRequests arguments now requests state.store

/-- `Invoke-OpenPathRuntimeDependencyQueue` -/
def invokeQueue (arguments : UpdateArguments) (now : Int) (files : List QueueFile)
    (overlay : Option OverlayDocument) :
    Spool.Pass QueueFile (Option OverlayDocument) :=
  if files.any fun file => (read file.bytes).isNone then
    { interim := [], final := waiting files overlay }
  else
    let removing := (waiting files overlay).removing files
    let removed := (waiting files overlay).removeAll files
    let messages := files.flatMap (QueueFile.messages read)
    if messages.any Option.isNone then { interim := removing, final := removed }
    else
      { interim := removing ++ [removed]
        final := mergeRequests arguments now (messages.filterMap id) removed }

/-! ## What a pass promises -/

/-- The valid requests of a file. -/
def QueueFile.asks (context : PolicyContext) (file : QueueFile) : List Candidate :=
  admitted context ((file.messages read).filterMap id)

/-- Some file of the batch has a message that is null. -/
def HasNull (files : List QueueFile) : Prop := ∃ file ∈ files, none ∈ file.messages read

/-- The objects in the messages of the batch. -/
def batchRequests (files : List QueueFile) : List JsonObject :=
  (files.flatMap (QueueFile.messages read)).filterMap id

end Queue

/-- The hosts of an entry are those of the request, as they stand or as they are read. -/
def OverlayEntry.Names (entry : OverlayEntry) (c : Candidate) : Prop :=
  (entry.anchorHost = c.anchorHost ∧ entry.dependencyHost = c.dependencyHost) ∨
    (equalsIgnoreCase (normalizeText entry.dependencyHost) c.dependencyHost &&
      equalsIgnoreCase (normalizeText entry.anchorHost) c.anchorHost) = true

/-- An entry says what a request of this pass asked for. -/
structure OverlayEntry.Records (arguments : UpdateArguments) (now : Int) (c : Candidate)
    (entry : OverlayEntry) : Prop where
  names : entry.Names c
  lastSeen_eq : entry.lastSeen = now
  expiresAt_eq : entry.expiresAt = .after (now + max 1 arguments.ttlDays * ticksPerDay)

/-- Some entry of the file says it. -/
def Shows (arguments : UpdateArguments) (now : Int) (c : Candidate)
    (file : Option OverlayDocument) : Prop :=
  ∃ entry ∈ (readDocument file).entries, entry.Records arguments now c

/-- The capacity reaches for a request in the entries that are left, with the requests
merged in. -/
def HasRoom (arguments : UpdateArguments) (now : Int) (requests : List JsonObject)
    (file : Option OverlayDocument) (c : Candidate) : Prop :=
  Foundation.Reaches OverlayEntry.lastSeen (max 1 arguments.capacity).toNat now
    (OverlayEntry.Records arguments now c)
    (mergedEntries arguments now requests (readDocument file).entries)

section Updates

variable {arguments : UpdateArguments} {now : Int} {c other : Candidate}

theorem exists_records_mergeCandidate (entries : List OverlayEntry) :
    ∃ entry ∈ mergeCandidate now (.after (now + max 1 arguments.ttlDays * ticksPerDay)) c entries,
      entry.Records arguments now c := by
  induction entries with
  | nil => exact ⟨_, List.mem_cons_self, Or.inl ⟨rfl, rfl⟩, rfl, rfl⟩
  | cons entry rest ih =>
      rw [mergeCandidate]
      split
      · next hsame => exact ⟨_, List.mem_cons_self, Or.inr hsame, rfl, rfl⟩
      · obtain ⟨merged, hmerged, hrecords⟩ := ih
        exact ⟨merged, List.mem_cons_of_mem _ hmerged, hrecords⟩

/-- A later request takes nothing back. -/
theorem records_mergeCandidate {entries : List OverlayEntry}
    (h : ∃ entry ∈ entries, entry.Records arguments now c) :
    ∃ entry ∈ mergeCandidate now (.after (now + max 1 arguments.ttlDays * ticksPerDay)) other
      entries, entry.Records arguments now c := by
  obtain ⟨entry, hentry, hrecords⟩ := h
  induction entries with
  | nil => exact absurd hentry List.not_mem_nil
  | cons first rest ih =>
      rw [mergeCandidate]
      split
      · rcases List.mem_cons.mp hentry with rfl | hrest
        · exact ⟨_, List.mem_cons_self, hrecords.names, rfl, rfl⟩
        · exact ⟨entry, List.mem_cons_of_mem _ hrest, hrecords⟩
      · rcases List.mem_cons.mp hentry with rfl | hrest
        · exact ⟨entry, List.mem_cons_self, hrecords⟩
        · obtain ⟨merged, hmerged, hrecords⟩ := ih hrest
          exact ⟨merged, List.mem_cons_of_mem _ hmerged, hrecords⟩

/-- Every admitted request is among the merged entries, so that a capacity for all of them
has room for each. -/
theorem hasRoom_of_length_le {requests : List JsonObject} {file : Option OverlayDocument}
    (hcapacity : (mergedEntries arguments now requests (readDocument file).entries).length ≤
      (max 1 arguments.capacity).toNat)
    (hc : c ∈ admitted arguments.context requests) :
    HasRoom arguments now requests file c := by
  have hlater : ∀ (candidates : List Candidate) (entries : List OverlayEntry),
      (∃ entry ∈ entries, entry.Records arguments now c) →
        ∃ entry ∈ candidates.foldl (fun kept c => mergeCandidate now
          (.after (now + max 1 arguments.ttlDays * ticksPerDay)) c kept) entries,
            entry.Records arguments now c := by
    intro candidates
    induction candidates with
    | nil => exact fun _ h => h
    | cons first rest ih => exact fun _ h => ih _ (records_mergeCandidate h)
  have hmerged : ∃ entry ∈ mergedEntries arguments now requests (readDocument file).entries,
      entry.Records arguments now c := by
    obtain ⟨before, after, hsplit⟩ := List.append_of_mem hc
    rw [mergedEntries, hsplit, List.foldl_append, List.foldl_cons]
    exact hlater after _ (exists_records_mergeCandidate _)
  obtain ⟨entry, hentry, hrecords⟩ := hmerged
  refine Foundation.exists_latest_iff.mp ⟨entry, ?_, hrecords, hrecords.lastSeen_eq⟩
  rw [List.take_of_length_le (by rwa [Foundation.latestFirst, List.length_insertionSort])]
  exact Foundation.mem_latestFirst.mpr hentry

theorem records_stampEntry (added : List Pair) (generation : Nat) (entry : OverlayEntry) :
    (stampEntry added generation entry).Records arguments now c ↔
      entry.Records arguments now c := by
  unfold stampEntry
  split
  · exact ⟨fun h => ⟨h.names, h.lastSeen_eq, h.expiresAt_eq⟩,
      fun h => ⟨h.names, h.lastSeen_eq, h.expiresAt_eq⟩⟩
  · exact Iff.rfl

/-- An admitted request is on disk after an update if and only if there is room for it. -/
theorem shows_applyRequests_iff {requests : List JsonObject} {file : Option OverlayDocument}
    (hc : c ∈ admitted arguments.context requests) :
    Shows arguments now c (applyRequests arguments now requests file) ↔
      HasRoom arguments now requests file c := by
  have hchanged : (updateOverlay arguments now requests (readDocument file).entries).changed :=
    decide_eq_true (List.length_pos_of_mem hc)
  rw [applyRequests, if_pos hchanged, HasRoom, ← Foundation.exists_latest_iff]
  constructor
  · rintro ⟨_, hentry, hrecords⟩
    obtain ⟨entry, hlatest, rfl⟩ := List.mem_map.mp hentry
    rw [records_stampEntry] at hrecords
    exact ⟨entry, hlatest, hrecords, hrecords.lastSeen_eq⟩
  · rintro ⟨entry, hlatest, hrecords, -⟩
    exact ⟨_, List.mem_map_of_mem hlatest, (records_stampEntry _ _ _).mpr hrecords⟩

end Updates

/-! ## Passes -/

section Passes

variable {read : Bytes → Option (List (Option JsonObject))} {arguments : UpdateArguments}
  {files : List QueueFile} (now : Int) (overlay : Option OverlayDocument)

theorem stops_iff :
    (files.any fun file => (read file.bytes).isNone) = true ↔
      ∃ file ∈ files, read file.bytes = none := by
  simp only [List.any_eq_true, Option.isNone_iff_eq_none]

theorem hasNull_iff :
    ((files.flatMap (QueueFile.messages read)).any Option.isNone) = true ↔
      HasNull read files := by
  simp only [HasNull, List.any_eq_true, Option.isNone_iff_eq_none, exists_eq_right, List.mem_flatMap]

/-- What a file of the batch asks for is admitted from the batch. -/
theorem asks_subset {file : QueueFile} (hfile : file ∈ files) (context : PolicyContext) :
    file.asks read context ⊆ admitted context (batchRequests read files) := by
  intro c hc
  obtain ⟨request, hrequest, hvalid⟩ := List.mem_filterMap.mp hc
  obtain ⟨message, hmessage, hsome⟩ := List.mem_filterMap.mp hrequest
  exact List.mem_filterMap.mpr ⟨request, List.mem_filterMap.mpr
    ⟨message, List.mem_flatMap.mpr ⟨file, hfile, hmessage⟩, hsome⟩, hvalid⟩

/-- A pass stops at once, or when all files are removed, or has merged the batch. -/
theorem invokeQueue_cases :
    ((∃ file ∈ files, read file.bytes = none) ∧
      invokeQueue read arguments now files overlay =
        { interim := [], final := waiting files overlay }) ∨
    ((¬ ∃ file ∈ files, read file.bytes = none) ∧ HasNull read files ∧
      invokeQueue read arguments now files overlay =
        { interim := (waiting files overlay).removing files
          final := (waiting files overlay).removeAll files }) ∨
    ((¬ ∃ file ∈ files, read file.bytes = none) ∧ ¬ HasNull read files ∧
      invokeQueue read arguments now files overlay =
        { interim := (waiting files overlay).removing files ++
            [(waiting files overlay).removeAll files]
          final := mergeRequests arguments now (batchRequests read files)
            ((waiting files overlay).removeAll files) }) := by
  unfold invokeQueue
  split
  · next hstops => exact Or.inl ⟨stops_iff.mp hstops, rfl⟩
  · next hreads =>
    dsimp only
    split
    · next hnull => exact Or.inr (Or.inl ⟨mt stops_iff.mpr hreads, hasNull_iff.mp hnull, rfl⟩)
    · next hobjects =>
      exact Or.inr (Or.inr ⟨mt stops_iff.mpr hreads, mt hasNull_iff.mpr hobjects, rfl⟩)

theorem shows_merged_iff {file : QueueFile} {c : Candidate} (hfile : file ∈ files)
    (hc : c ∈ file.asks read arguments.context) :
    Shows arguments now c (mergeRequests arguments now (batchRequests read files)
        ((waiting files overlay).removeAll files)).store ↔
      HasRoom arguments now (batchRequests read files) overlay c := by
  rw [mergeRequests, Spool.store_removeAll]
  exact shows_applyRequests_iff (asks_subset hfile arguments.context hc)

theorem not_waits {file : QueueFile} (hfile : file ∈ files) :
    file ∉ ((waiting files overlay).removeAll files).files :=
  fun hwaits => (Spool.mem_files_removeAll.mp hwaits).2 hfile

/-- A pass may lose a request unless it stops at once, or the overlay says already what
each asks for and goes on to say it. -/
theorem neverLost_invokeQueue_iff :
    Spool.NeverLost (Shows arguments now) (invokeQueue read arguments now files overlay) files
        (QueueFile.asks read arguments.context) ↔
      (∃ file ∈ files, read file.bytes = none) ∨
        ∀ file ∈ files, ∀ c ∈ file.asks read arguments.context,
          Shows arguments now c overlay ∧
            (HasNull read files ∨
              HasRoom arguments now (batchRequests read files) overlay c) := by
  rcases @invokeQueue_cases read arguments files now overlay with
    ⟨hbroken, hpass⟩ | ⟨hreads, hnull, hpass⟩ | ⟨hreads, hobjects, hpass⟩
  · rw [hpass]
    refine iff_of_true (fun state hstate file hfile c _ => ?_) (Or.inl hbroken)
    rw [List.nil_append, List.mem_singleton] at hstate
    rw [hstate]
    exact Or.inl hfile
  · rw [hpass]
    constructor
    · refine fun hsafe => Or.inr fun file hfile c hc => ⟨?_, Or.inl hnull⟩
      have hshows := (hsafe _ (List.mem_append_right _ List.mem_cons_self) file hfile c
        hc).resolve_left (not_waits overlay hfile)
      rwa [Spool.store_removeAll] at hshows
    · intro h state hstate file hfile c hc
      right
      have hshows := (h.resolve_left hreads file hfile c hc).1
      rcases List.mem_append.mp hstate with hremoving | hfinal
      · exact (Spool.of_mem_removing hremoving).1 ▸ hshows
      · rw [List.mem_singleton.mp hfinal, Spool.store_removeAll]
        exact hshows
  · rw [hpass]
    constructor
    · refine fun hsafe => Or.inr fun file hfile c hc => ⟨?_, Or.inr ?_⟩
      · have hshows := (hsafe _ (List.mem_append_left _ (List.mem_append_right _
          List.mem_cons_self)) file hfile c hc).resolve_left (not_waits overlay hfile)
        rwa [Spool.store_removeAll] at hshows
      · have hshows := (hsafe _ (List.mem_append_right _ List.mem_cons_self) file hfile c
          hc).resolve_left (not_waits overlay hfile)
        exact (shows_merged_iff now overlay hfile hc).mp hshows
    · intro h state hstate file hfile c hc
      right
      obtain ⟨hshows, hroom⟩ := h.resolve_left hreads file hfile c hc
      simp only [List.append_assoc, List.mem_append, List.mem_cons, List.cons_append,
        List.not_mem_nil, or_false, List.nil_append] at hstate
      rcases hstate with hremoving | rfl | rfl
      · exact (Spool.of_mem_removing hremoving).1 ▸ hshows
      · rw [Spool.store_removeAll]
        exact hshows
      · exact (shows_merged_iff now overlay hfile hc).mpr (hroom.resolve_left hobjects)

/-- A pass is complete if and only if each file can be read, and there is room for each
request, or the overlay says it already where a message is null. -/
theorem complete_invokeQueue_iff :
    Spool.Complete (Shows arguments now) (invokeQueue read arguments now files overlay) files
        (QueueFile.asks read arguments.context) ↔
      (¬ ∃ file ∈ files, read file.bytes = none) ∧
        ∀ file ∈ files, ∀ c ∈ file.asks read arguments.context,
          (HasNull read files ∧ Shows arguments now c overlay) ∨
            (¬ HasNull read files ∧
              HasRoom arguments now (batchRequests read files) overlay c) := by
  rcases @invokeQueue_cases read arguments files now overlay with
    ⟨hbroken, hpass⟩ | ⟨hreads, hnull, hpass⟩ | ⟨hreads, hobjects, hpass⟩
  · rw [hpass]
    refine iff_of_false (fun hcomplete => ?_) fun h => h.1 hbroken
    obtain ⟨file, hfile, -⟩ := hbroken
    exact hcomplete.removed file hfile hfile
  · rw [hpass]
    constructor
    · refine fun hcomplete => ⟨hreads, fun file hfile c hc => Or.inl ⟨hnull, ?_⟩⟩
      have hshows := hcomplete.shown file hfile c hc
      rwa [Spool.store_removeAll] at hshows
    · rintro ⟨-, h⟩
      refine ⟨fun file hfile c hc => ?_, fun file hfile => not_waits overlay hfile⟩
      rw [Spool.store_removeAll]
      exact ((h file hfile c hc).resolve_right fun hroom => hroom.1 hnull).2
  · rw [hpass]
    constructor
    · exact fun hcomplete => ⟨hreads, fun file hfile c hc => Or.inr ⟨hobjects,
        (shows_merged_iff now overlay hfile hc).mp (hcomplete.shown file hfile c hc)⟩⟩
    · rintro ⟨-, h⟩
      refine ⟨fun file hfile c hc => ?_, fun file hfile => not_waits overlay hfile⟩
      exact (shows_merged_iff now overlay hfile hc).mpr
        ((h file hfile c hc).resolve_left fun hshows => hobjects hshows.1).2

end Passes

end OpenPath.Windows.Overlay
