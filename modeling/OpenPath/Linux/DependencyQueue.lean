/-
# Runtime dependencies of the Linux agent: queue

`process_runtime_dependency_queue` takes the first files of the queue, puts them together
with a line break after each, and has the overlay updated from the result. Only if the
update succeeds are the files removed. The update reads the batch as UTF-8, and a line
that is no JSON counts as rejected; nothing catches other errors of the decoder or of the
parser, so that one such file makes the update fail and stays.

The queue holds the artifacts whose names end in `.json`, in the order of `sort -z`.
-/

import OpenPath.Foundation.LatestRows
import OpenPath.Foundation.Spool
import OpenPath.Linux.DependencyBlocks
import OpenPath.Text.Utf8

namespace OpenPath.Linux.Overlay

open Python
open Foundation (Spool)

structure QueueArtifact where
  name : Text
  isFile : Bool
  bytes : Bytes
  deriving DecidableEq

/-- `-type f -size -4096c` -/
def QueueArtifact.isRequest (artifact : QueueArtifact) : Bool :=
  artifact.isFile && artifact.bytes.length < 4096

/-- The result of `json.loads`: the parser may also fail with an error of another kind, as
it does on a text that is nested too deeply. -/
inductive Loaded
  | value (json : Json)
  | decodeError
  | otherError

/-- The request of a line, which is none where the line is rejected. -/
def Loaded.request : Loaded → Option Json
  | .value json => some json
  | _ => none

def Loaded.fails : Loaded → Bool
  | .otherError => true
  | _ => false

abbrev QueueState := Spool QueueArtifact (Option OverlayDocument)

/-- The queue and the overlay at the start of a pass. -/
def waiting (artifacts : List QueueArtifact) (overlay : Option OverlayDocument) : QueueState where
  files := artifacts
  store := overlay

structure QueueArguments where
  processLimit : Nat
  update : UpdateArguments

/-- `queue_files` -/
def queueFiles (processLimit : Nat) (artifacts : List QueueArtifact) : List QueueArtifact :=
  (artifacts.filter QueueArtifact.isRequest).take processLimit

/-- `rejected_files` -/
def rejectedFiles (artifacts : List QueueArtifact) : List QueueArtifact :=
  artifacts.filter fun artifact => !artifact.isRequest

def requestBatch (files : List QueueArtifact) : Bytes := files.flatMap fun file => file.bytes ++ [10]

/-- What the update reads of the batch, or nothing where it fails. -/
def readBatch (loads : Text → Loaded) (batch : Bytes) : Option (List (Option Json)) :=
  match Utf8.decodeStrict batch with
  | none => none
  | some text =>
      if (textLines text).any fun line => (loads line).fails then none
      else some ((textLines text).map fun line => (loads line).request)

/-- `update_runtime_dependency_overlay_from_requests` -/
def updateFromRequests (arguments : UpdateArguments) (now : Int) (requests : List (Option Json))
    (state : QueueState) : QueueState where
  files := state.files
  store := (commandUpdate arguments now requests state.store).document

/-- `process_runtime_dependency_queue`, for an overlay and the artifacts of the queue. -/
def processQueue (loads : Text → Loaded) (arguments : QueueArguments) (now : Int)
    (artifacts : List QueueArtifact) (overlay : Option OverlayDocument) :
    Spool.Pass QueueArtifact (Option OverlayDocument) :=
  let files := queueFiles arguments.processLimit artifacts
  let quarantining := (waiting artifacts overlay).removing (rejectedFiles artifacts)
  let quarantined := (waiting artifacts overlay).removeAll (rejectedFiles artifacts)
  if files = [] then { interim := quarantining, final := quarantined }
  else
    match readBatch loads (requestBatch files) with
    | none => { interim := quarantining, final := quarantined }
    | some requests =>
        let updated := updateFromRequests arguments.update now requests quarantined
        { interim := quarantining ++ quarantined :: updated.removing files
          final := updated.removeAll files }

/-! ## What a file asks for -/

def QueueArtifact.lines (file : QueueArtifact) : List Text :=
  textLines ((Utf8.decodeStrict file.bytes).getD [])

/-- The valid requests of a file. -/
def QueueArtifact.asks (loads : Text → Loaded) (policy : PolicyArguments) (file : QueueArtifact) :
    List Candidate :=
  (file.lines.map fun line => (loads line).request).filterMap policy.validateRequest

/-- The file is read without an error that nothing catches. -/
def QueueArtifact.Readable (loads : Text → Loaded) (file : QueueArtifact) : Prop :=
  (Utf8.decodeStrict file.bytes).isSome = true ∧ ∀ line ∈ file.lines, (loads line).fails = false

/-! ## What a pass promises -/

/-- An entry says what a request of this pass asked for. -/
structure OverlayEntry.Records (arguments : UpdateArguments) (now : Int) (c : Candidate)
    (entry : OverlayEntry) : Prop where
  pair_eq : entry.pair = c.pair
  requestType_mem : c.requestType ∈ entry.requestTypes
  lastSeen_eq : entry.lastSeen = now
  expiresAt_eq : entry.expiresAt = some (now + max arguments.ttlDays 1 * secondsPerDay)

/-- Some entry of the file says it. -/
def Shows (arguments : UpdateArguments) (now : Int) (c : Candidate)
    (file : Option OverlayDocument) : Prop :=
  ∃ entry ∈ (loadOverlayDocument file).entries, entry.Records arguments now c

/-- The capacity reaches for a request in the entries that are left, with the requests
merged in. A file that a merge does not change must show the request as it stands. -/
def HasRoom (arguments : UpdateArguments) (now : Int) (requests : List (Option Json))
    (file : Option OverlayDocument) (c : Candidate) : Prop :=
  let previous := loadOverlayDocument file
  let entries := pruneEntries previous.entries now arguments.policy
  let table := mergedTable arguments now requests entries
  if updatedEntries arguments now requests previous ≠ entries ∨ file = none then
    Foundation.Reaches OverlayEntry.lastSeen (stop arguments.capacity table.length) now
      (fun entry => entry.pair = c.pair) table
  else Shows arguments now c file

/-- The requests in the lines of the batch. -/
def batchRequests (loads : Text → Loaded) (files : List QueueArtifact) : List (Option Json) :=
  (files.flatMap QueueArtifact.lines).map fun line => (loads line).request

section Batch

theorem decodeStrict_append_newline (first rest : Bytes) :
    Utf8.decodeStrict (first ++ 10 :: rest) =
      (Utf8.decodeStrict first).bind fun text =>
        (Utf8.decodeStrict rest).map fun following => text ++ '\n' :: following :=
  Utf8.decodeStrictFrom_append_newline (fun _ h => absurd h (Option.not_mem_none _)) first rest

theorem decodeStrict_requestBatch (files : List QueueArtifact) :
    ((Utf8.decodeStrict (requestBatch files)).isSome = true ↔
        ∀ file ∈ files, (Utf8.decodeStrict file.bytes).isSome = true) ∧
      ∀ text, Utf8.decodeStrict (requestBatch files) = some text →
        textLines text = files.flatMap QueueArtifact.lines := by
  induction files with
  | nil =>
      refine ⟨by simp [requestBatch, Utf8.decodeStrict, Utf8.decodeStrictFrom], ?_⟩
      intro text htext
      rw [← Option.some.inj htext]
      rfl
  | cons file rest ih =>
      have hbatch : requestBatch (file :: rest) = file.bytes ++ 10 :: requestBatch rest := by
        simp [requestBatch]
      rw [hbatch, decodeStrict_append_newline, List.forall_mem_cons]
      cases hfile : Utf8.decodeStrict file.bytes with
      | none => exact ⟨by simp, fun _ h => by cases h⟩
      | some first =>
          rw [Option.bind_some, Option.isSome_map, ← ih.1]
          refine ⟨by simp, ?_⟩
          intro text htext
          obtain ⟨following, hfollowing, rfl⟩ := Option.map_eq_some_iff.mp htext
          rw [textLines_append_newline, ih.2 following hfollowing, List.flatMap_cons,
            QueueArtifact.lines, hfile, Option.getD_some]

theorem readBatch_requestBatch (loads : Text → Loaded) (files : List QueueArtifact) :
    ((readBatch loads (requestBatch files)).isSome = true ↔
        ∀ file ∈ files, file.Readable loads) ∧
      ∀ requests, readBatch loads (requestBatch files) = some requests →
        requests = batchRequests loads files := by
  obtain ⟨hdecodes, hlines⟩ := decodeStrict_requestBatch files
  have hreadable : (∀ file ∈ files, file.Readable loads) ↔
      (Utf8.decodeStrict (requestBatch files)).isSome = true ∧
        ∀ line ∈ files.flatMap QueueArtifact.lines, (loads line).fails = false := by
    rw [hdecodes]
    simp only [QueueArtifact.Readable, List.mem_flatMap]
    exact ⟨fun h => ⟨fun file hfile => (h file hfile).1,
      fun line ⟨file, hfile, hline⟩ => (h file hfile).2 line hline⟩,
      fun h file hfile => ⟨h.1 file hfile, fun line hline => h.2 line ⟨file, hfile, hline⟩⟩⟩
  rw [hreadable]
  unfold readBatch
  cases hdecode : Utf8.decodeStrict (requestBatch files) with
  | none => exact ⟨by simp, fun _ h => by cases h⟩
  | some text =>
      dsimp only
      rw [hlines text hdecode]
      split
      · rename_i hfails
        refine ⟨?_, fun _ h => by cases h⟩
        rw [List.any_eq_true] at hfails
        obtain ⟨line, hline, hfail⟩ := hfails
        refine iff_of_false (by simp) fun h => ?_
        rw [h.2 line hline] at hfail
        cases hfail
      · rename_i hfails
        rw [Bool.not_eq_true, List.any_eq_false] at hfails
        refine ⟨iff_of_true rfl ⟨rfl, fun line hline => Bool.eq_false_iff.mpr (hfails line hline)⟩, ?_⟩
        intro requests hrequests
        exact (Option.some.inj hrequests).symm

end Batch

/-! ## What an update leaves -/

section Updates

variable {arguments : UpdateArguments} {now expiresAt : Int} {table : List OverlayEntry}
  {c other : Candidate} {entry : OverlayEntry}

/-- An entry of the table belongs to another pair than the request, or was refreshed. -/
theorem eq_refresh_of_mem (hentry : entry ∈ mergeCandidate now expiresAt table c) :
    (entry ∈ table ∧ entry.pair ≠ c.pair) ∨
      ∃ old, (old ∈ table ∨ c.pair ∉ table.map OverlayEntry.pair ∧ old = newEntry c) ∧
        old.pair = c.pair ∧ entry = old.refresh c now expiresAt := by
  unfold mergeCandidate at hentry
  split at hentry
  · obtain ⟨old, hold, rfl⟩ := List.mem_map.mp hentry
    split
    · next hpair => exact Or.inr ⟨old, Or.inl hold, hpair, rfl⟩
    · next hpair => exact Or.inl ⟨hold, hpair⟩
  · next hnew =>
    rcases List.mem_append.mp hentry with hold | hadded
    · exact Or.inl ⟨hold, fun hpair => hnew (hpair ▸ List.mem_map_of_mem hold)⟩
    · exact Or.inr ⟨newEntry c, Or.inr ⟨hnew, rfl⟩, rfl, List.mem_singleton.mp hadded⟩

/-- The table has the pair of the request, and says of it what was asked for. -/
structure Recorded (arguments : UpdateArguments) (now : Int) (c : Candidate)
    (table : List OverlayEntry) : Prop where
  listed : c.pair ∈ table.map OverlayEntry.pair
  records : ∀ entry ∈ table, entry.pair = c.pair → entry.Records arguments now c

theorem recorded_mergeCandidate : Recorded arguments now c
    (mergeCandidate now (now + max arguments.ttlDays 1 * secondsPerDay) table c) where
  listed := by
    rw [map_pair_mergeCandidate]
    split
    · assumption
    · exact List.mem_append_right _ List.mem_cons_self
  records entry hentry hpair := by
    rcases eq_refresh_of_mem hentry with ⟨-, hother⟩ | ⟨old, -, hold, rfl⟩
    · exact absurd hpair hother
    · exact ⟨hold, mem_sorted.mpr (List.mem_dedup.mpr List.mem_cons_self), rfl, rfl⟩

/-- A later request takes nothing back. -/
theorem Recorded.mergeCandidate (h : Recorded arguments now c table) : Recorded arguments now c
    (mergeCandidate now (now + max arguments.ttlDays 1 * secondsPerDay) table other) where
  listed := by
    rw [map_pair_mergeCandidate]
    split
    · exact h.listed
    · exact List.mem_append_left _ h.listed
  records entry hentry hpair := by
    rcases eq_refresh_of_mem hentry with ⟨hold, -⟩ | ⟨old, hfrom, hother, rfl⟩
    · exact h.records entry hold hpair
    · have hpair : old.pair = c.pair := hpair
      rcases hfrom with hold | ⟨hnew, -⟩
      · have htype := (h.records old hold hpair).requestType_mem
        exact ⟨hpair, mem_sorted.mpr (List.mem_dedup.mpr (List.mem_cons_of_mem _ htype)), rfl, rfl⟩
      · exact absurd (hother ▸ hpair ▸ h.listed) hnew

/-- The table says what each admitted request asked for. -/
theorem recorded_mergedTable {requests : List (Option Json)} {entries : List OverlayEntry}
    (hc : c ∈ requests.filterMap arguments.policy.validateRequest) :
    Recorded arguments now c (mergedTable arguments now requests entries) := by
  have hlater : ∀ (candidates : List Candidate) (table : List OverlayEntry),
      Recorded arguments now c table → Recorded arguments now c (candidates.foldl
        (Overlay.mergeCandidate now (now + max arguments.ttlDays 1 * secondsPerDay)) table) := by
    intro candidates
    induction candidates with
    | nil => exact fun _ h => h
    | cons first rest ih => exact fun _ h => ih _ h.mergeCandidate
  obtain ⟨before, after, hsplit⟩ := List.append_of_mem hc
  rw [mergedTable, hsplit, List.foldl_append, List.foldl_cons]
  exact hlater after _ recorded_mergeCandidate

/-- The entries after an update are the first of the table, with some generations. -/
theorem updatedEntries_eq (requests : List (Option Json)) (previous : OverlayDocument) :
    ∃ stamp : OverlayEntry → OverlayEntry, (∀ entry, ∃ generation,
        stamp entry = { entry with generation }) ∧
      updatedEntries arguments now requests previous =
        ((Foundation.latestFirst OverlayEntry.lastSeen (mergedTable arguments now requests
          (pruneEntries previous.entries now arguments.policy))).take
            (stop arguments.capacity (mergedTable arguments now requests
              (pruneEntries previous.entries now arguments.policy)).length)).map stamp := by
  refine ⟨stampEntry (addedKeys (mergedTable arguments now requests
    (pruneEntries previous.entries now arguments.policy))
    (pruneEntries previous.entries now arguments.policy)) (previous.generation + 1), ?_, ?_⟩
  · intro entry
    unfold stampEntry
    split
    · exact ⟨_, rfl⟩
    · exact ⟨entry.generation, rfl⟩
  · have hseen : ∀ (added : List Pair) (generation : Nat) (entry : OverlayEntry),
        (stampEntry added generation entry).lastSeen = entry.lastSeen := by
      intro added generation entry
      unfold stampEntry
      split
      · rfl
      · rfl
    dsimp only [updatedEntries]
    rw [take_eq, List.length_insertionSort, List.length_map, List.map_take,
      Foundation.latestFirst]
    congr 1
    refine (List.map_insertionSort _ _ _ _ fun first _ second _ => ?_).symm
    rw [hseen, hseen]

/-- An admitted request is on disk after an update if and only if there is room for it. -/
theorem shows_commandUpdate_iff {requests : List (Option Json)} {file : Option OverlayDocument}
    (hc : c ∈ requests.filterMap arguments.policy.validateRequest) :
    Shows arguments now c (commandUpdate arguments now requests file).document ↔
      HasRoom arguments now requests file c := by
  unfold commandUpdate HasRoom
  dsimp only
  split
  · obtain ⟨stamp, hstamp, hentries⟩ := @updatedEntries_eq arguments now requests
      (loadOverlayDocument file)
    have hrecorded := @recorded_mergedTable arguments now c requests
      (pruneEntries (loadOverlayDocument file).entries now arguments.policy) hc
    rw [← Foundation.exists_latest_iff]
    change (∃ entry ∈ updatedEntries arguments now requests (loadOverlayDocument file),
      entry.Records arguments now c) ↔ _
    rw [hentries]
    constructor
    · rintro ⟨_, hentry, hrecords⟩
      obtain ⟨entry, hlatest, rfl⟩ := List.mem_map.mp hentry
      obtain ⟨generation, hgeneration⟩ := hstamp entry
      rw [hgeneration] at hrecords
      exact ⟨entry, hlatest, hrecords.pair_eq, hrecords.lastSeen_eq⟩
    · rintro ⟨entry, hlatest, hpair, -⟩
      obtain ⟨generation, hgeneration⟩ := hstamp entry
      obtain ⟨-, htype, hseen, hexpires⟩ := hrecorded.records entry
        (Foundation.mem_latestFirst.mp (List.mem_of_mem_take hlatest)) hpair
      refine ⟨stamp entry, List.mem_map_of_mem hlatest, ?_⟩
      rw [hgeneration]
      exact ⟨hpair, htype, hseen, hexpires⟩
  · exact Iff.rfl

end Updates

/-! ## Passes -/

section Passes

variable (loads : Text → Loaded) (arguments : QueueArguments) (now : Int)
  (artifacts : List QueueArtifact) (overlay : Option OverlayDocument)

theorem mem_queueFiles {artifact : QueueArtifact} {processLimit : Nat}
    (hfile : artifact ∈ queueFiles processLimit artifacts) :
    artifact ∈ artifacts ∧ artifact ∉ rejectedFiles artifacts := by
  obtain ⟨hmem, hrequest⟩ := List.mem_filter.mp (List.mem_of_mem_take hfile)
  refine ⟨hmem, fun hrejected => ?_⟩
  have hnot := (List.mem_filter.mp hrejected).2
  rw [hrequest] at hnot
  cases hnot

/-- What a file of the batch asks for is among the requests of the batch. -/
theorem asks_subset {file : QueueArtifact} {files : List QueueArtifact} (hfile : file ∈ files)
    (policy : PolicyArguments) :
    file.asks loads policy ⊆ (batchRequests loads files).filterMap policy.validateRequest := by
  intro c hc
  obtain ⟨request, hrequest, hvalid⟩ := List.mem_filterMap.mp hc
  obtain ⟨line, hline, rfl⟩ := List.mem_map.mp hrequest
  exact List.mem_filterMap.mpr
    ⟨_, List.mem_map_of_mem (List.mem_flatMap.mpr ⟨file, hfile, hline⟩), hvalid⟩

/-- There is room for each request of the batch. -/
def AllFit : Prop :=
  ∀ file ∈ queueFiles arguments.processLimit artifacts,
    ∀ c ∈ file.asks loads arguments.update.policy,
      HasRoom arguments.update now
        (batchRequests loads (queueFiles arguments.processLimit artifacts)) overlay c

/-- The state when the rejected files are gone. -/
def quarantined : QueueState := (waiting artifacts overlay).removeAll (rejectedFiles artifacts)

/-- The state when the batch has been merged. -/
def updated : QueueState :=
  updateFromRequests arguments.update now
    (batchRequests loads (queueFiles arguments.processLimit artifacts))
    (quarantined artifacts overlay)

theorem mem_quarantined {file : QueueArtifact}
    (hfile : file ∈ queueFiles arguments.processLimit artifacts) :
    file ∈ (quarantined artifacts overlay).files :=
  Spool.mem_files_removeAll.mpr (mem_queueFiles artifacts hfile)

theorem shows_updated_iff {file : QueueArtifact} {c : Candidate}
    (hfile : file ∈ queueFiles arguments.processLimit artifacts)
    (hc : c ∈ file.asks loads arguments.update.policy) :
    Shows arguments.update now c (updated loads arguments now artifacts overlay).store ↔
      HasRoom arguments.update now
        (batchRequests loads (queueFiles arguments.processLimit artifacts)) overlay c := by
  rw [updated, updateFromRequests, quarantined, Spool.store_removeAll]
  exact shows_commandUpdate_iff (asks_subset loads hfile arguments.update.policy hc)

/-- A pass stops before its update, or ends with the batch merged and removed. -/
theorem processQueue_cases :
    ((queueFiles arguments.processLimit artifacts = [] ∨
        ¬ ∀ file ∈ queueFiles arguments.processLimit artifacts, file.Readable loads) ∧
      processQueue loads arguments now artifacts overlay =
        { interim := (waiting artifacts overlay).removing (rejectedFiles artifacts)
          final := quarantined artifacts overlay }) ∨
    ((∀ file ∈ queueFiles arguments.processLimit artifacts, file.Readable loads) ∧
      processQueue loads arguments now artifacts overlay =
        { interim := (waiting artifacts overlay).removing (rejectedFiles artifacts) ++
            quarantined artifacts overlay ::
              (updated loads arguments now artifacts overlay).removing
                (queueFiles arguments.processLimit artifacts)
          final := (updated loads arguments now artifacts overlay).removeAll
            (queueFiles arguments.processLimit artifacts) }) := by
  obtain ⟨hreadable, hrequests⟩ := readBatch_requestBatch loads
    (queueFiles arguments.processLimit artifacts)
  rw [← hreadable]
  unfold processQueue
  dsimp only
  split
  · next hempty => exact Or.inl ⟨Or.inl hempty, rfl⟩
  · cases hread : readBatch loads (requestBatch (queueFiles arguments.processLimit artifacts)) with
    | none => exact Or.inl ⟨Or.inr Bool.false_ne_true, rfl⟩
    | some requests =>
        rw [hrequests requests hread]
        exact Or.inr ⟨rfl, rfl⟩

/-- A file of the batch waits until the update. -/
theorem waits_of_mem_quarantining {file : QueueArtifact} {state : QueueState}
    (hfile : file ∈ queueFiles arguments.processLimit artifacts)
    (hstate : state ∈ (waiting artifacts overlay).removing (rejectedFiles artifacts) ++
      [quarantined artifacts overlay]) : file ∈ state.files := by
  obtain ⟨hmem, hnot⟩ := mem_queueFiles artifacts hfile
  rcases List.mem_append.mp hstate with hinterim | hfinal
  · exact (Spool.of_mem_removing hinterim).2 file hmem hnot
  · rw [List.mem_singleton.mp hfinal]
    exact mem_quarantined arguments artifacts overlay hfile

/-- A pass loses no valid request if and only if it fails or there is room for each. -/
theorem neverLost_processQueue_iff :
    Spool.NeverLost (Shows arguments.update now)
        (processQueue loads arguments now artifacts overlay)
        (queueFiles arguments.processLimit artifacts)
        (QueueArtifact.asks loads arguments.update.policy) ↔
      (¬ ∀ file ∈ queueFiles arguments.processLimit artifacts, file.Readable loads) ∨
        AllFit loads arguments now artifacts overlay := by
  rcases processQueue_cases loads arguments now artifacts overlay with
    ⟨hstops, hpass⟩ | ⟨hreadable, hpass⟩
  · rw [hpass]
    refine iff_of_true (fun state hstate file hfile c _ => ?_) ?_
    · exact Or.inl (waits_of_mem_quarantining arguments artifacts overlay hfile hstate)
    · refine hstops.symm.imp_right fun hempty file hfile => ?_
      rw [hempty] at hfile
      exact absurd hfile List.not_mem_nil
  · rw [hpass]
    constructor
    · refine fun hsafe => Or.inr fun file hfile c hc => ?_
      rcases hsafe _ (List.mem_append_right _ List.mem_cons_self) file hfile c hc with
        hwaits | hshows
      · exact absurd hfile (Spool.mem_files_removeAll.mp hwaits).2
      · rw [Spool.store_removeAll] at hshows
        exact (shows_updated_iff loads arguments now artifacts overlay hfile hc).mp hshows
    · intro hfit state hstate file hfile c hc
      have hshows := (shows_updated_iff loads arguments now artifacts overlay hfile hc).mpr
        (hfit.resolve_left (not_not_intro hreadable) file hfile c hc)
      simp only [List.append_assoc, List.mem_append, List.mem_cons, List.cons_append,
        List.not_mem_nil, or_false] at hstate
      rcases hstate with hquarantining | rfl | hremoving | rfl
      · exact Or.inl (waits_of_mem_quarantining arguments artifacts overlay hfile
          (List.mem_append_left _ hquarantining))
      · exact Or.inl (mem_quarantined arguments artifacts overlay hfile)
      · exact Or.inr ((Spool.of_mem_removing hremoving).1 ▸ hshows)
      · rw [Spool.store_removeAll]
        exact Or.inr hshows

/-- A pass is complete if and only if each file of its batch can be read and there is room
for each request. -/
theorem complete_processQueue_iff :
    Spool.Complete (Shows arguments.update now)
        (processQueue loads arguments now artifacts overlay)
        (queueFiles arguments.processLimit artifacts)
        (QueueArtifact.asks loads arguments.update.policy) ↔
      (∀ file ∈ queueFiles arguments.processLimit artifacts, file.Readable loads) ∧
        AllFit loads arguments now artifacts overlay := by
  rcases processQueue_cases loads arguments now artifacts overlay with
    ⟨hstops, hpass⟩ | ⟨hreadable, hpass⟩
  · rw [hpass]
    rcases hstops with hempty | hunreadable
    · have hnone : ∀ file, file ∉ queueFiles arguments.processLimit artifacts := by
        rw [hempty]
        exact fun _ => List.not_mem_nil
      exact iff_of_true ⟨fun file hfile => absurd hfile (hnone file),
        fun file hfile => absurd hfile (hnone file)⟩
        ⟨fun file hfile => absurd hfile (hnone file), fun file hfile => absurd hfile (hnone file)⟩
    · refine iff_of_false (fun hcomplete => hunreadable fun file hfile => ?_)
        fun h => hunreadable h.1
      exact absurd (mem_quarantined arguments artifacts overlay hfile)
        (hcomplete.removed file hfile)
  · rw [hpass]
    constructor
    · refine fun hcomplete => ⟨hreadable, fun file hfile c hc => ?_⟩
      have hshows := hcomplete.shown file hfile c hc
      rw [Spool.store_removeAll] at hshows
      exact (shows_updated_iff loads arguments now artifacts overlay hfile hc).mp hshows
    · rintro ⟨-, hfit⟩
      refine ⟨fun file hfile c hc => ?_, fun file hfile hwaits => ?_⟩
      · rw [Spool.store_removeAll]
        exact (shows_updated_iff loads arguments now artifacts overlay hfile hc).mpr
          (hfit file hfile c hc)
      · exact (Spool.mem_files_removeAll.mp hwaits).2 hfile

end Passes

end OpenPath.Linux.Overlay
