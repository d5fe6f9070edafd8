/-
# Spool directories

Requests wait as files in a directory until a pass takes a batch of them, merges what
they ask for into a store, and removes the files. A pass may be stopped after any of its
writes, so it is given by the states that it leaves behind on its way and by the one that
it ends in. Nothing is lost in a pass if at each of these moments a file waits or the store
shows what it asks for; a pass is complete if in the end the store shows it all and the
batch is gone.
-/

import Mathlib.Data.List.Basic

namespace OpenPath.Foundation

/-- A directory of files beside a store. -/
structure Spool (File Store : Type*) where
  files : List File
  store : Store

namespace Spool

variable {File Store Item : Type*}

/-- The states on the way of a pass, and the one in which it ends. -/
structure Pass (File Store : Type*) where
  interim : List (Spool File Store)
  final : Spool File Store

/-- A file that waits in the directory, or what it asks for in the store, at each moment. -/
def NeverLost (shows : Item → Store → Prop) (pass : Pass File Store) (batch : List File)
    (asks : File → List Item) : Prop :=
  ∀ state ∈ pass.interim ++ [pass.final], ∀ file ∈ batch, ∀ item ∈ asks file,
    file ∈ state.files ∨ shows item state.store

structure Complete (shows : Item → Store → Prop) (pass : Pass File Store) (batch : List File)
    (asks : File → List Item) : Prop where
  shown : ∀ file ∈ batch, ∀ item ∈ asks file, shows item pass.final.store
  removed : ∀ file ∈ batch, file ∉ pass.final.files

variable [DecidableEq File]

def remove (state : Spool File Store) (file : File) : Spool File Store :=
  { state with files := state.files.filter (· ≠ file) }

/-- The states before each of the removals. -/
def removing : List File → Spool File Store → List (Spool File Store)
  | [], _ => []
  | file :: rest, state => state :: removing rest (state.remove file)

def removeAll (files : List File) (state : Spool File Store) : Spool File Store :=
  files.foldl remove state

@[simp]
theorem store_removeAll (files : List File) (state : Spool File Store) :
    (state.removeAll files).store = state.store := by
  induction files generalizing state with
  | nil => rfl
  | cons file rest ih => exact ih (state.remove file)

theorem mem_files_removeAll {files : List File} {state : Spool File Store} {file : File} :
    file ∈ (state.removeAll files).files ↔ file ∈ state.files ∧ file ∉ files := by
  induction files generalizing state with
  | nil => simp [removeAll]
  | cons first rest ih =>
      have hrest := @ih (state.remove first)
      rw [remove, List.mem_filter, decide_eq_true_eq] at hrest
      rw [List.mem_cons, not_or, ← and_assoc]
      exact hrest

/-- Removing files touches neither the store nor other files. -/
theorem of_mem_removing {files : List File} {state before : Spool File Store}
    (hbefore : before ∈ state.removing files) :
    before.store = state.store ∧ ∀ file ∈ state.files, file ∉ files → file ∈ before.files := by
  induction files generalizing state with
  | nil => cases hbefore
  | cons first rest ih =>
      rcases List.mem_cons.mp hbefore with rfl | hlater
      · exact ⟨rfl, fun _ hfile _ => hfile⟩
      · obtain ⟨hstore, hfiles⟩ := ih hlater
        refine ⟨hstore, fun file hfile hnot => hfiles file ?_ fun hmem =>
          hnot (List.mem_cons_of_mem _ hmem)⟩
        rw [List.mem_cons, not_or] at hnot
        exact List.mem_filter.mpr ⟨hfile, decide_eq_true hnot.1⟩

end Spool

end OpenPath.Foundation
