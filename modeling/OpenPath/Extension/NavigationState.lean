/-
# Navigation generations

For every tab the extension keeps its newest navigation, with a number that no other
navigation has and a mark: whether the tab is being sent to the blocked screen, or has
been. An operation names the navigation that it is about, and does nothing when that
one is no longer the newest of its tab.
-/

import OpenPath.Text.JavaScript

namespace OpenPath.Extension

inductive NavigationSource
  | error
  | preflight
  | reconciliation
  deriving DecidableEq, Repr

structure NavigationIdentity where
  generation : Nat
  source : NavigationSource
  tabId : Int
  url : Text
  deriving DecidableEq

inductive RedirectMark
  | idle
  | pending
  | shown
  deriving DecidableEq, Repr

structure NavigationEntry where
  identity : NavigationIdentity
  redirect : RedirectMark

structure NavigationState where
  entries : Int → Option NavigationEntry
  nextGeneration : Nat

/-- `createNavigationState` -/
def createNavigationState : NavigationState where
  entries _ := none
  nextGeneration := 0

namespace NavigationState

variable (state : NavigationState) (identity : NavigationIdentity) (tabId : Int) (url : Text)

def current : Option NavigationEntry :=
  (state.entries identity.tabId).filter fun entry =>
    entry.identity.generation = identity.generation ∧ entry.identity.url = identity.url

/-- The identity that `begin` hands out. -/
def beginIdentity (source : NavigationSource) : NavigationIdentity where
  generation := state.nextGeneration + 1
  source := source
  tabId := tabId
  url := url

/-- `begin` -/
def beginNavigation (source : NavigationSource) : NavigationState where
  entries :=
    Function.update state.entries tabId
      (some { identity := state.beginIdentity tabId url source, redirect := .idle })
  nextGeneration := state.nextGeneration + 1

def dispose : NavigationState :=
  { state with entries := Function.update state.entries tabId none }

def get : Option NavigationIdentity := (state.entries tabId).map (·.identity)

def isCurrent : Bool := (state.current identity).isSome

/-- `match` -/
def matchUrl : Option NavigationIdentity :=
  ((state.entries tabId).filter fun entry => entry.identity.url = url).map (·.identity)

/-- The mark of the newest navigation of a tab is written. -/
def setRedirect (entry : NavigationEntry) (redirect : RedirectMark) : NavigationState :=
  { state with
    entries :=
      Function.update state.entries identity.tabId (some { entry with redirect := redirect }) }

def markShown : NavigationState :=
  match state.current identity with
  | some entry => if entry.redirect = .pending then state.setRedirect identity entry .shown else state
  | none => state

def releaseRedirect : NavigationState :=
  match state.current identity with
  | some entry => if entry.redirect = .pending then state.setRedirect identity entry .idle else state
  | none => state

/-- `reserveRedirect`, where it returns true. -/
def reserveRedirect : Option NavigationState :=
  match state.current identity with
  | some entry =>
      if entry.redirect = .idle then some (state.setRedirect identity entry .pending) else none
  | none => none

/-- The mark of a navigation that is the newest of its tab. -/
def mark : Option RedirectMark := (state.current identity).map (·.redirect)

variable {state identity tabId url} {entry : NavigationEntry}

theorem current_eq_some :
    state.current identity = some entry ↔
      state.entries identity.tabId = some entry ∧
        entry.identity.generation = identity.generation ∧ entry.identity.url = identity.url := by
  simp [current, Option.filter_eq_some_iff]

theorem isCurrent_iff :
    state.isCurrent identity = true ↔ ∃ entry, state.current identity = some entry :=
  Option.isSome_iff_exists

theorem matchUrl_eq_some {found : NavigationIdentity} (hfound : state.matchUrl tabId url = some found) :
    ∃ entry, state.entries tabId = some entry ∧ entry.identity = found ∧ found.url = url := by
  obtain ⟨entry, hentry, rfl⟩ := Option.map_eq_some_iff.mp hfound
  obtain ⟨hat, hurl⟩ := Option.filter_eq_some_iff.mp hentry
  exact ⟨entry, hat, rfl, of_decide_eq_true hurl⟩

variable {found : NavigationEntry} {other : Int}

theorem entries_dispose (hfound : (state.dispose tabId).entries other = some found) :
    state.entries other = some found := by
  by_cases hother : other = tabId
  · subst hother
    simp [dispose] at hfound
  · simpa [dispose, Function.update_of_ne hother] using hfound

theorem entries_beginNavigation {source : NavigationSource}
    (hfound : (state.beginNavigation tabId url source).entries other = some found) :
    other = tabId ∧ found = ⟨state.beginIdentity tabId url source, .idle⟩ ∨
      state.entries other = some found := by
  by_cases hother : other = tabId
  · subst hother
    exact .inl ⟨rfl, by simpa [beginNavigation] using hfound.symm⟩
  · exact .inr (by simpa [beginNavigation, Function.update_of_ne hother] using hfound)

theorem get_dispose (other : Int) :
    (state.dispose tabId).get other = if tabId = other then none else state.get other := by
  by_cases hother : tabId = other
  · subst hother
    simp [get, dispose]
  · simp [get, dispose, hother, Function.update_of_ne (Ne.symm hother)]

theorem get_beginNavigation (source : NavigationSource) (other : Int) :
    (state.beginNavigation tabId url source).get other =
      if tabId = other then some (state.beginIdentity tabId url source) else state.get other := by
  by_cases hother : tabId = other
  · subst hother
    simp [get, beginNavigation]
  · simp [get, beginNavigation, hother, Function.update_of_ne (Ne.symm hother)]

/-- Writing a mark keeps the newest navigations. -/
theorem get_setRedirect (hentry : state.current identity = some entry) (redirect : RedirectMark)
    (other : Int) :
    (state.setRedirect identity entry redirect).get other = state.get other := by
  by_cases hother : identity.tabId = other
  · subst hother
    simp [get, setRedirect, (current_eq_some.mp hentry).1]
  · simp [get, setRedirect, Function.update_of_ne (Ne.symm hother)]

theorem entries_setRedirect {redirect : RedirectMark}
    (hfound : (state.setRedirect identity entry redirect).entries other = some found) :
    other = identity.tabId ∧ found = { entry with redirect := redirect } ∨
      other ≠ identity.tabId ∧ state.entries other = some found := by
  by_cases hother : other = identity.tabId
  · subst hother
    exact .inl ⟨rfl, by simpa [setRedirect] using hfound.symm⟩
  · exact .inr ⟨hother, by simpa [setRedirect, Function.update_of_ne hother] using hfound⟩

/-- Writing a mark leaves the other navigations as they are. -/
theorem current_setRedirect_of_ne {other : NavigationIdentity}
    (hentry : state.current identity = some entry) (redirect : RedirectMark)
    (hother : other.generation ≠ identity.generation) :
    (state.setRedirect identity entry redirect).current other = state.current other := by
  obtain ⟨hat, hgeneration, -⟩ := current_eq_some.mp hentry
  by_cases htab : other.tabId = identity.tabId
  · simp [current, setRedirect, htab, hat, hgeneration, Option.filter, Ne.symm hother]
  · simp [current, setRedirect, Function.update_of_ne htab]

theorem reserveRedirect_eq_some {next : NavigationState}
    (hreserve : state.reserveRedirect identity = some next) :
    ∃ entry, state.current identity = some entry ∧ entry.redirect = .idle ∧
      next = state.setRedirect identity entry .pending := by
  rw [reserveRedirect] at hreserve
  split at hreserve
  · next entry hentry =>
    obtain ⟨hidle, hnext⟩ := Option.ite_none_right_eq_some.mp hreserve
    exact ⟨entry, hentry, hidle, (Option.some.inj hnext).symm⟩
  · cases hreserve

/-- A release changes nothing, or takes back the pending mark of the navigation. -/
theorem releaseRedirect_cases :
    state.releaseRedirect identity = state ∧ state.mark identity ≠ some .pending ∨
      ∃ entry, state.current identity = some entry ∧ entry.redirect = .pending ∧
        state.releaseRedirect identity = state.setRedirect identity entry .idle := by
  rw [releaseRedirect, mark]
  split
  · next entry hentry =>
    split
    · next hpending => exact .inr ⟨entry, hentry, hpending, rfl⟩
    · next hother => exact .inl ⟨rfl, by simpa [hentry] using hother⟩
  · next hnone => exact .inl ⟨rfl, by simp [hnone]⟩

theorem releaseRedirect_of_not_pending (hmark : state.mark identity ≠ some .pending) :
    state.releaseRedirect identity = state := by
  rcases (releaseRedirect_cases : state.releaseRedirect identity = state ∧ _ ∨ _) with
    ⟨hsame, -⟩ | ⟨entry, hentry, hpending, -⟩
  · exact hsame
  · exact absurd (by simp [mark, hentry, hpending]) hmark

theorem markShown_cases :
    state.markShown identity = state ∧ state.mark identity ≠ some .pending ∨
      ∃ entry, state.current identity = some entry ∧ entry.redirect = .pending ∧
        state.markShown identity = state.setRedirect identity entry .shown := by
  rw [markShown, mark]
  split
  · next entry hentry =>
    split
    · next hpending => exact .inr ⟨entry, hentry, hpending, rfl⟩
    · next hother => exact .inl ⟨rfl, by simpa [hentry] using hother⟩
  · next hnone => exact .inl ⟨rfl, by simp [hnone]⟩

theorem current_setRedirect (redirect : RedirectMark)
    (hentry : state.current identity = some entry) :
    (state.setRedirect identity entry redirect).current identity =
      some { entry with redirect := redirect } := by
  obtain ⟨-, hsame⟩ := current_eq_some.mp hentry
  exact current_eq_some.mpr ⟨Function.update_self _ _ _, hsame⟩

theorem mark_setRedirect (redirect : RedirectMark) (hentry : state.current identity = some entry) :
    (state.setRedirect identity entry redirect).mark identity = some redirect := by
  rw [mark, current_setRedirect redirect hentry]
  rfl

theorem releaseRedirect_markShown :
    (state.markShown identity).releaseRedirect identity = state.markShown identity := by
  apply releaseRedirect_of_not_pending
  rcases (markShown_cases : state.markShown identity = state ∧ _ ∨ _) with
    ⟨hsame, hmark⟩ | ⟨entry, hentry, -, hset⟩
  · rw [hsame]
    exact hmark
  · rw [hset, mark_setRedirect _ hentry]
    simp

end NavigationState

end OpenPath.Extension
