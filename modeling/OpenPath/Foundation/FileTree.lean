/-
# Trees of files

A tree of files, symbolic links and directories. Looking up a path goes down the
directories on it; a file or a link in between ends the way. Putting a tree at a
path and taking it away change what is seen below that path, and nothing else
but times.
-/

import Mathlib.Data.List.Basic

namespace OpenPath.Foundation

inductive FileTree (Name Content : Type)
  | file (content : Content) (mtime : Int)
  | link
  | directory (children : List (Name × FileTree Name Content)) (mtime : Int)

namespace FileTree

variable {Name Content : Type} [DecidableEq Name]

/-- What is seen at a path. -/
inductive Sight (Content : Type)
  /-- Nothing, in a directory or below nothing. -/
  | missing
  /-- There is a file on the way. -/
  | blocked
  /-- There is a link on the way. -/
  | behindLink
  | file (content : Content)
  | link
  | directory
  deriving DecidableEq

/-- The tree at a path. -/
@[grind =]
def find? : List Name → FileTree Name Content → Option (FileTree Name Content)
  | [], tree => some tree
  | name :: path, directory children _ => (children.lookup name).bind (find? path)
  | _ :: _, file _ _ => none
  | _ :: _, link => none

@[grind =]
def sight : List Name → FileTree Name Content → Sight Content
  | [], file content _ => .file content
  | [], link => .link
  | [], directory _ _ => .directory
  | _ :: _, file _ _ => .blocked
  | _ :: _, link => .behindLink
  | name :: path, directory children _ =>
      match children.lookup name with
      | none => .missing
      | some child => child.sight path

def mtime? (path : List Name) (tree : FileTree Name Content) : Option Int :=
  match tree.find? path with
  | some (file _ mtime) => some mtime
  | some (directory _ mtime) => some mtime
  | _ => none

/-- The names in a directory. -/
def names (path : List Name) (tree : FileTree Name Content) : Option (List Name) :=
  match tree.find? path with
  | some (directory children _) => some (children.map (·.1))
  | _ => none

/-- The children with one of them replaced, or taken away. -/
def setChild (name : Name) (new : Option (FileTree Name Content))
    (children : List (Name × FileTree Name Content)) : List (Name × FileTree Name Content) :=
  let others := children.filter (·.1 ≠ name)
  match new with
  | none => others
  | some tree => (name, tree) :: others

/-- The tree with another one at a path, or without the one there. -/
@[grind =]
def replace (new : Option (FileTree Name Content)) (now : Int) :
    List Name → FileTree Name Content → FileTree Name Content
  | [], tree => new.getD tree
  | name :: path, directory children mtime =>
      match path with
      | [] => directory (setChild name new children) now
      | _ :: _ =>
          match children.lookup name with
          | none => directory children mtime
          | some child => directory (setChild name (some (child.replace new now path)) children) mtime
  | _ :: _, file content mtime => file content mtime
  | _ :: _, link => link

/-! ## Children -/

variable {name : Name}

theorem lookup_cons_of_ne {other : Name} (differ : other ≠ name) (tree : FileTree Name Content)
    (children : List (Name × FileTree Name Content)) :
    ((name, tree) :: children).lookup other = children.lookup other := by
  rw [List.lookup_cons, beq_false_of_ne differ]

theorem lookup_filter_ne (name other : Name) (children : List (Name × FileTree Name Content)) :
    (children.filter (·.1 ≠ name)).lookup other =
      if other = name then none else children.lookup other := by
  induction children with
  | nil => simp
  | cons child children ih =>
      obtain ⟨first, tree⟩ := child
      by_cases same : first = name
      · subst same
        rw [List.filter_cons_of_neg (by simp), ih]
        split
        · rfl
        · rw [lookup_cons_of_ne ‹_›]
      · rw [List.filter_cons_of_pos (by simpa using same)]
        by_cases hit : other = first
        · subst hit
          simp [same]
        · rw [lookup_cons_of_ne hit, lookup_cons_of_ne hit, ih]

theorem lookup_setChild (name other : Name) (new : Option (FileTree Name Content))
    (children : List (Name × FileTree Name Content)) :
    (setChild name new children).lookup other =
      if other = name then new else children.lookup other := by
  cases new with
  | none => exact lookup_filter_ne name other children
  | some tree =>
      by_cases same : other = name
      · simp [setChild, same]
      · have rest := lookup_filter_ne name other children
        simp only [same, if_false] at rest ⊢
        exact (lookup_cons_of_ne same _ _).trans rest

/-! ## Sights along a path -/

variable {path : List Name} {tree : FileTree Name Content}

theorem sight_append_of_find? {sub : FileTree Name Content} (found : tree.find? path = some sub)
    (rest : List Name) :
    tree.sight (path ++ rest) = sub.sight rest := by
  induction path generalizing tree with
  | nil => cases found; rfl
  | cons name path ih =>
      cases tree with
      | file content mtime => cases found
      | link => cases found
      | directory children mtime =>
          obtain ⟨child, at_name, found⟩ := Option.bind_eq_some_iff.mp found
          simp only [List.cons_append, sight, at_name]
          exact ih found

/-- There is nothing below what is missing. -/
theorem sight_append_of_missing (missing : tree.sight path = .missing) (rest : List Name) :
    tree.sight (path ++ rest) = .missing := by
  induction path generalizing tree with
  | nil => cases tree <;> cases missing
  | cons name path ih =>
      cases tree with
      | file content mtime => cases missing
      | link => cases missing
      | directory children mtime =>
          simp only [List.cons_append, sight] at missing ⊢
          split at missing
          · rfl
          · exact ih missing

/-- What is below a link is behind it. -/
theorem sight_append_of_link (link : tree.sight path = .link ∨ tree.sight path = .behindLink)
    {rest : List Name} (below : rest ≠ []) : tree.sight (path ++ rest) = .behindLink := by
  induction path generalizing tree with
  | nil =>
      cases tree with
      | link =>
          obtain ⟨name, rest, rfl⟩ := List.exists_cons_of_ne_nil below
          rfl
      | file content mtime => simp [sight] at link
      | directory children mtime => simp [sight] at link
  | cons name path ih =>
      cases tree with
      | link => rfl
      | file content mtime => simp [sight] at link
      | directory children mtime =>
          simp only [List.cons_append, sight] at link ⊢
          split at link
          · simp at link
          · exact ih link

/-- What is below a file is blocked. -/
theorem sight_append_of_file
    (file : (∃ content, tree.sight path = .file content) ∨ tree.sight path = .blocked)
    {rest : List Name} (below : rest ≠ []) : tree.sight (path ++ rest) = .blocked := by
  induction path generalizing tree with
  | nil =>
      cases tree with
      | file content mtime =>
          obtain ⟨name, rest, rfl⟩ := List.exists_cons_of_ne_nil below
          rfl
      | link => simp [sight] at file
      | directory children mtime => simp [sight] at file
  | cons name path ih =>
      cases tree with
      | link => simp [sight] at file
      | file content mtime => rfl
      | directory children mtime =>
          simp only [List.cons_append, sight] at file ⊢
          split at file
          · simp at file
          · exact ih file

/-- What there is, is in a directory. -/
theorem sight_parent
    (there : (∃ content, tree.sight (path ++ [name]) = .file content) ∨
      tree.sight (path ++ [name]) = .directory) :
    tree.sight path = .directory := by
  cases above : tree.sight path with
  | directory => rfl
  | missing => simp [sight_append_of_missing above] at there
  | blocked => simp [sight_append_of_file (.inr above) (List.cons_ne_nil name [])] at there
  | file content =>
      simp [sight_append_of_file (.inl ⟨content, above⟩) (List.cons_ne_nil name [])] at there
  | link => simp [sight_append_of_link (.inl above) (List.cons_ne_nil name [])] at there
  | behindLink => simp [sight_append_of_link (.inr above) (List.cons_ne_nil name [])] at there

/-! ## Sights after a change -/

variable {new : Option (FileTree Name Content)} {now : Int}

/-- Only what is at the path or below looks different. -/
theorem sight_replace_of_not_prefix {other : List Name} (apart : ¬ path <+: other)
    (tree : FileTree Name Content) :
    (tree.replace new now path).sight other = tree.sight other := by
  induction path generalizing tree other with
  | nil => exact absurd List.nil_prefix apart
  | cons name path ih =>
      cases tree with
      | file content mtime => rfl
      | link => rfl
      | directory children mtime =>
          cases other with
          | nil =>
              cases path with
              | nil => rfl
              | cons next path =>
                  simp only [replace]
                  split <;> rfl
          | cons first other =>
              cases path with
              | nil =>
                  have differ : first ≠ name := by
                    rintro rfl
                    exact apart ⟨other, rfl⟩
                  simp only [replace, sight, lookup_setChild, differ, if_false]
              | cons next path =>
                  simp only [replace]
                  split
                  · rfl
                  · rename_i child at_name
                    by_cases same : first = name
                    · subst same
                      have apart_below : ¬ next :: path <+: other := fun below =>
                        apart (List.cons_prefix_cons.mpr ⟨rfl, below⟩)
                      simp only [sight, lookup_setChild, if_true, at_name]
                      exact ih apart_below child
                    · simp only [sight, lookup_setChild, same, if_false]

/-- Below the path there is what was put there. -/
theorem sight_replace_append {dir : List Name} (parent : tree.sight dir = .directory)
    (rest : List Name) :
    (tree.replace new now (dir ++ [name])).sight (dir ++ name :: rest) =
      match new with
      | none => .missing
      | some sub => sub.sight rest := by
  induction dir generalizing tree with
  | nil =>
      cases tree with
      | file content mtime => cases parent
      | link => cases parent
      | directory children mtime =>
          simp only [List.nil_append, replace, sight, lookup_setChild, if_true]
  | cons first dir ih =>
      cases tree with
      | file content mtime => cases parent
      | link => cases parent
      | directory children mtime =>
          simp only [sight] at parent
          split at parent
          · cases parent
          · rename_i child at_first
            cases dir with
            | nil =>
                simp only [List.cons_append, List.nil_append, replace, at_first, sight,
                  lookup_setChild, if_true]
                exact ih parent
            | cons second dir =>
                simp only [List.cons_append, replace, at_first, sight, lookup_setChild, if_true]
                exact ih parent

end FileTree

end OpenPath.Foundation
