/-
# Reconciliation of the open tabs

A reconciliation that records a policy version went through every tab that was open
when it listed the tabs, and has an account of each tab whose host the check confirmed
to be blocked by that version. Since the list was made the tab was redirected, or went
to another page, or is in a newer navigation; or the redirect of its navigation was
taken by another flow. Where the URL of the tab could not be read or the redirect
failed, the reconciliation goes on all the same, and nothing is said about the tab.

Nothing here depends on how the flows interleave: every account is about the history
since the list, which other flows only extend, and about a navigation that, once it is
not the newest of its tab, never is again.
-/

import OpenPath.Extension.BlockedScreenRuns

namespace OpenPath.Extension.BlockedScreen

open Foundation JavaScript

/-! ## What other flows leave alone -/

/-- It happened after the given history. -/
def Shared.Since (shared : Shared) (past : List Happening) (happening : Happening) : Prop :=
  ∃ recent, shared.history = recent ++ past ∧ happening ∈ recent

/-- Every navigation has a number that was given out. -/
def Numbered (navigation : NavigationState) : Prop :=
  ∀ tabId entry, navigation.entries tabId = some entry →
    entry.identity.generation ≤ navigation.nextGeneration

/-- The navigations go on: numbers grow, and what is not the newest stays so. -/
structure NavigatesTo (navigation next : NavigationState) : Prop where
  grows : navigation.nextGeneration ≤ next.nextGeneration
  stale : ∀ identity, identity.generation ≤ navigation.nextGeneration →
    navigation.isCurrent identity = false → next.isCurrent identity = false
  numbered : Numbered navigation → Numbered next

/-- What a step of any flow does to the navigations and the history. -/
structure Grows (shared later : Shared) : Prop where
  navigates : NavigatesTo shared.navigation later.navigation
  extends_ : ∃ recent, later.history = recent ++ shared.history ∧
    ∀ tabId, later.urls tabId = shared.urls tabId ∨ .visited tabId ∈ recent

/-- A step that records no version. -/
structure Evolves (shared later : Shared) : Prop extends Grows shared later where
  recorded : later.recorded = shared.recorded
  version : later.version = shared.version

section Navigations

variable {navigation next last : NavigationState} {identity : NavigationIdentity}

theorem NavigatesTo.refl : NavigatesTo navigation navigation where
  grows := Nat.le_refl _
  stale _ _ hstale := hstale
  numbered hnumbered := hnumbered

theorem NavigatesTo.trans (h : NavigatesTo navigation next) (h' : NavigatesTo next last) :
    NavigatesTo navigation last where
  grows := h.grows.trans h'.grows
  stale other hbound hstale := h'.stale other (hbound.trans h.grows) (h.stale other hbound hstale)
  numbered hnumbered := h'.numbered (h.numbered hnumbered)

theorem isCurrent_eq_false :
    navigation.isCurrent identity = false ↔ ∀ entry, navigation.entries identity.tabId = some entry →
      entry.identity.generation = identity.generation → entry.identity.url ≠ identity.url := by
  rw [NavigationState.isCurrent, NavigationState.current, Option.isSome_eq_false_iff,
    Option.isNone_iff_eq_none, Option.filter_eq_none_iff]
  simp

theorem navigatesTo_dispose (tabId : Int) : NavigatesTo navigation (navigation.dispose tabId) where
  grows := Nat.le_refl _
  stale other _ hstale := by
    rw [isCurrent_eq_false] at hstale ⊢
    exact fun entry hentry => hstale entry (NavigationState.entries_dispose hentry)
  numbered hnumbered other entry hentry :=
    hnumbered other entry (NavigationState.entries_dispose hentry)

theorem navigatesTo_begin (tabId : Int) (url : Text) (source : NavigationSource) :
    NavigatesTo navigation (navigation.beginNavigation tabId url source) where
  grows := Nat.le_succ _
  stale other hbound hstale := by
    rw [isCurrent_eq_false] at hstale ⊢
    intro entry hentry hgeneration
    rcases NavigationState.entries_beginNavigation hentry with ⟨-, rfl⟩ | hold
    · rw [← hgeneration] at hbound
      exact absurd hbound (Nat.not_succ_le_self _)
    · exact hstale entry hold hgeneration
  numbered hnumbered other entry hentry := by
    rcases NavigationState.entries_beginNavigation hentry with ⟨-, rfl⟩ | hold
    · exact Nat.le_refl _
    · exact Nat.le_succ_of_le (hnumbered other entry hold)

theorem navigatesTo_setRedirect {entry : NavigationEntry} (redirect : RedirectMark)
    (hentry : navigation.current identity = some entry) :
    NavigatesTo navigation (navigation.setRedirect identity entry redirect) where
  grows := Nat.le_refl _
  stale other _ hstale := by
    rw [isCurrent_eq_false] at hstale ⊢
    intro found hfound
    rcases NavigationState.entries_setRedirect hfound with ⟨htab, rfl⟩ | ⟨-, hold⟩
    · exact hstale entry (htab ▸ (NavigationState.current_eq_some.mp hentry).1)
    · exact hstale found hold
  numbered hnumbered other found hfound := by
    rcases NavigationState.entries_setRedirect hfound with ⟨-, rfl⟩ | ⟨-, hold⟩
    · exact hnumbered _ entry (NavigationState.current_eq_some.mp hentry).1
    · exact hnumbered other found hold

theorem navigatesTo_releaseRedirect : NavigatesTo navigation (navigation.releaseRedirect identity) := by
  rcases NavigationState.releaseRedirect_cases with ⟨hsame, -⟩ | ⟨entry, hentry, -, hset⟩
  · rw [hsame]
    exact .refl
  · rw [hset]
    exact navigatesTo_setRedirect _ hentry

theorem navigatesTo_markShown : NavigatesTo navigation (navigation.markShown identity) := by
  rcases NavigationState.markShown_cases with ⟨hsame, -⟩ | ⟨entry, hentry, -, hset⟩
  · rw [hsame]
    exact .refl
  · rw [hset]
    exact navigatesTo_setRedirect _ hentry

theorem navigatesTo_reserveRedirect (hreserve : navigation.reserveRedirect identity = some next) :
    NavigatesTo navigation next := by
  obtain ⟨entry, hentry, -, rfl⟩ := NavigationState.reserveRedirect_eq_some hreserve
  exact navigatesTo_setRedirect _ hentry

end Navigations

variable {shared later last : Shared} {identity : NavigationIdentity}

theorem Evolves.refl : Evolves shared shared where
  navigates := .refl
  extends_ := ⟨[], rfl, fun _ => .inl rfl⟩
  recorded := rfl
  version := rfl

theorem Evolves.trans (h : Evolves shared later) (h' : Evolves later last) :
    Evolves shared last where
  navigates := h.navigates.trans h'.navigates
  extends_ := by
    obtain ⟨first, hfirst, hurls⟩ := h.extends_
    obtain ⟨second, hsecond, hurls'⟩ := h'.extends_
    refine ⟨second ++ first, by rw [hsecond, hfirst, List.append_assoc], fun tabId => ?_⟩
    rcases hurls' tabId with hsame | hvisited
    · rcases hurls tabId with hsame' | hvisited
      · exact .inl (hsame.trans hsame')
      · exact .inr (List.mem_append_right _ hvisited)
    · exact .inr (List.mem_append_left _ hvisited)
  recorded := h'.recorded.trans h.recorded
  version := h'.version.trans h.version

theorem Grows.since (h : Grows shared later) {past : List Happening} {happening : Happening}
    (hsince : shared.Since past happening) : later.Since past happening := by
  obtain ⟨recent, hrecent, hmem⟩ := hsince
  obtain ⟨more, hmore, -⟩ := h.extends_
  exact ⟨more ++ recent, by rw [hmore, hrecent, List.append_assoc], List.mem_append_right _ hmem⟩

theorem evolves_note (happening : Happening) : Evolves shared (shared.note happening) where
  navigates := .refl
  extends_ := ⟨[happening], rfl, fun _ => .inl rfl⟩
  recorded := rfl
  version := rfl

theorem evolves_noteAll (happenings : List Happening) :
    Evolves shared (shared.noteAll happenings) where
  navigates := .refl
  extends_ := ⟨happenings, rfl, fun _ => .inl rfl⟩
  recorded := rfl
  version := rfl

theorem evolves_begin (tabId : Int) (url : Text) (source : NavigationSource) :
    Evolves shared (shared.begin_ tabId url source) where
  navigates := navigatesTo_begin tabId url source
  extends_ := ⟨[_], rfl, fun _ => .inl rfl⟩
  recorded := rfl
  version := rfl

theorem evolves_dispose (tabId : Int) : Evolves shared (shared.dispose tabId) where
  navigates := navigatesTo_dispose tabId
  extends_ := ⟨[_], rfl, fun _ => .inl rfl⟩
  recorded := rfl
  version := rfl

theorem evolves_navigation {next : NavigationState}
    (hnext : NavigatesTo shared.navigation next) :
    Evolves shared { shared with navigation := next } where
  navigates := hnext
  extends_ := ⟨[], rfl, fun _ => .inl rfl⟩
  recorded := rfl
  version := rfl

theorem evolves_release : Evolves shared (shared.release identity) :=
  evolves_navigation navigatesTo_releaseRedirect

theorem evolves_shown : Evolves shared (shared.shown identity) :=
  evolves_navigation navigatesTo_markShown

theorem evolves_visit (tabId : Int) (url : Option Text) : Evolves shared (shared.visit tabId url) where
  navigates := .refl
  extends_ := by
    refine ⟨[.visited tabId], rfl, fun other => ?_⟩
    by_cases hother : other = tabId
    · exact .inr (by simp [hother])
    · exact .inl (Function.update_of_ne hother ..)
  recorded := rfl
  version := rfl

theorem evolves_close (tabId : Int) : Evolves shared (shared.close tabId) where
  navigates := .refl
  extends_ := ⟨[_], rfl, fun _ => .inl rfl⟩
  recorded := rfl
  version := rfl

/-! ### The blocked-screen flows -/

variable {flow : Flow}

theorem evolves_endFlow : Evolves shared (endFlow flow shared).1 := evolves_release

theorem evolves_showBlockedScreen : Evolves shared (showBlockedScreen flow shared).1 := by
  rw [showBlockedScreen]
  split
  · exact evolves_note _
  · exact evolves_endFlow

theorem evolves_redirectToBlockedScreenOnce :
    Evolves shared (redirectToBlockedScreenOnce flow shared).1 := by
  rw [redirectToBlockedScreenOnce]
  split
  · exact .refl
  · next navigation hreserve => exact evolves_navigation (navigatesTo_reserveRedirect hreserve)

theorem evolves_recoverOr (recovers blocked : Bool) {otherwise : Shared → Shared × Phase}
    (hotherwise : Evolves shared (otherwise shared).1) :
    Evolves shared (recoverOr recovers flow blocked otherwise shared).1 := by
  rw [recoverOr]
  split
  · exact .refl
  · exact hotherwise

theorem evolves_afterTabUrl (parseUrl : Text → Option ParsedUrl) (recovers : Bool)
    (blockedScreenUrl : Text) (answer : Option (Option Text)) :
    Evolves shared (afterTabUrl parseUrl recovers blockedScreenUrl flow answer shared).1 := by
  have hask : Evolves shared (afterTabUrl.askOrRecover recovers flow shared).1 := by
    rw [afterTabUrl.askOrRecover]
    split
    · exact .refl
    · split
      · exact evolves_recoverOr recovers true evolves_showBlockedScreen
      · exact evolves_showBlockedScreen
  rcases answer with _ | _ | url
  · exact hask
  · exact hask
  · rw [afterTabUrl]
    split
    · exact evolves_endFlow
    · exact hask

theorem evolves_afterConfirmation (recovers : Bool) (result : ConfirmationResult) :
    Evolves shared (afterConfirmation recovers flow result shared).1 := by
  rw [afterConfirmation]
  split
  · apply (evolves_note (.confirmed flow.identity flow.context.hostname)).trans
    dsimp only
    split
    · exact evolves_recoverOr recovers true evolves_showBlockedScreen
    · exact evolves_showBlockedScreen
  · split
    · exact evolves_recoverOr recovers false evolves_endFlow
    · exact evolves_endFlow

theorem evolves_afterRecovery (blocked recovered : Bool) :
    Evolves shared (afterRecovery flow blocked recovered shared).1 := by
  rw [afterRecovery]
  split
  · exact evolves_showBlockedScreen
  · exact evolves_endFlow

theorem evolves_afterRedirect (succeeded : Bool) :
    Evolves shared (afterRedirect flow succeeded shared).1 := by
  rw [afterRedirect]
  split
  · exact ((evolves_note _).trans evolves_shown).trans evolves_endFlow
  · exact (evolves_note _).trans evolves_endFlow

theorem evolves_handleNativePolicyNavigationPreflight (parseUrl : Text → Option ParsedUrl)
    (details : PreflightDetails) :
    Evolves shared (handleNativePolicyNavigationPreflight parseUrl details shared).1 := by
  rw [handleNativePolicyNavigationPreflight]
  split
  · exact .refl
  · split
    · exact evolves_dispose _
    · split
      · exact .refl
      · exact (evolves_begin _ _ _).trans evolves_redirectToBlockedScreenOnce

theorem evolves_handleBlockedScreenNavigationError (parseUrl : Text → Option ParsedUrl)
    (details : NavigationDetails) (recordBlockedDomain : Bool) :
    Evolves shared
      (handleBlockedScreenNavigationError parseUrl details recordBlockedDomain shared).1 := by
  rw [handleBlockedScreenNavigationError]
  split
  · exact .refl
  · split
    · exact .refl
    · split
      · dsimp only
        split
        · split
          · exact .refl
          · split
            · exact evolves_redirectToBlockedScreenOnce
            · exact (evolves_begin _ _ _).trans evolves_redirectToBlockedScreenOnce
        · exact (evolves_begin _ _ _).trans evolves_redirectToBlockedScreenOnce
      · exact .refl

/-! ### The reconciliation -/

theorem reconcileFrom_fst (run : Reconciliation) (entries : List TabHost) (shared : Shared) :
    (reconcileFrom run entries shared).1 = shared := by
  induction entries with
  | nil => rfl
  | cons entry rest ih =>
      rw [reconcileFrom]
      split
      · rfl
      · exact ih

theorem evolves_listTabs (parseUrl : Text → Option ParsedUrl) (openTabs : List (Int × Option Text))
    (shared : Shared) : Evolves shared (listTabs parseUrl openTabs shared).1 := by
  induction openTabs generalizing shared with
  | nil => exact .refl
  | cons first rest ih =>
      obtain ⟨tabId, url⟩ := first
      unfold listTabs
      split
      · split
        · exact ih shared
        · exact (evolves_begin _ _ _).trans (ih _)
      · exact ih shared

theorem evolves_afterVersion (force : Bool) (response : NativePolicyVersionResponse) :
    Evolves shared (afterVersion force response shared).1 := by
  rw [afterVersion]
  split
  · dsimp only
    split
    · exact .refl
    · exact .refl
  · exact .refl

theorem evolves_afterQuery (parseUrl : Text → Option ParsedUrl) (policyVersion : Text) :
    Evolves shared (afterQuery parseUrl policyVersion shared).1 := by
  have hlist := evolves_listTabs parseUrl shared.queryTabs shared
  unfold afterQuery
  dsimp only
  split
  · exact hlist
  · exact hlist

variable {run : Reconciliation} {entry : TabHost} {rest : List TabHost}

theorem evolves_skipTab : Evolves shared (skipTab run entry rest shared).1 := by
  rw [skipTab, reconcileFrom_fst]
  exact evolves_release

theorem evolves_afterCheck (query : Query) (response : VerifyResponse) :
    Evolves shared (afterCheck query response shared).1 := by
  rw [afterCheck]
  split
  · dsimp only
    rw [reconcileFrom_fst]
    exact evolves_noteAll _
  · exact .refl

theorem evolves_afterCurrentTabUrl (answer : Option (Option Text)) :
    Evolves shared (afterCurrentTabUrl run entry rest answer shared).1 := by
  cases answer with
  | none => exact evolves_skipTab
  | some currentUrl =>
      rw [afterCurrentTabUrl]
      split
      · rw [reconcileFrom_fst]
        exact .refl
      · split
        · rw [reconcileFrom_fst]
          exact .refl
        · next navigation hreserve =>
          exact (evolves_navigation (navigatesTo_reserveRedirect hreserve)).trans (evolves_note _)

theorem evolves_afterMove (succeeded : Bool) :
    Evolves shared (afterMove run entry rest succeeded shared).1 := by
  rw [afterMove]
  split
  · rw [reconcileFrom_fst]
    exact (evolves_note _).trans evolves_shown
  · exact (evolves_note _).trans evolves_skipTab

variable {recovers : Bool} {blockedScreenUrl : Text} {label : Label} {phase : Phase}
  {outcome : Shared × Phase} {parseUrl : Text → Option ParsedUrl}

/-- Every move but the recording of a version evolves what the flows share. -/
theorem evolves_move
    (hmove : move parseUrl recovers blockedScreenUrl label (shared, phase) = some outcome) :
    Evolves shared outcome.1 ∨ ∃ run, phase = .reconciled run ∧ outcome = record run shared := by
  unfold move at hmove
  split at hmove
  all_goals try (rename_i heq; cases heq)
  all_goals cases hmove
  · exact .inl (evolves_visit _ _)
  · exact .inl (evolves_close _)
  · exact .inl (evolves_dispose _)
  · exact .inl (evolves_handleNativePolicyNavigationPreflight _ _)
  · exact .inl (evolves_handleBlockedScreenNavigationError _ _ _)
  · exact .inl .refl
  · exact .inl (evolves_afterTabUrl _ _ _ _)
  · exact .inl (evolves_afterConfirmation _ _)
  · exact .inl evolves_endFlow
  · exact .inl (evolves_afterRecovery _ _)
  · exact .inl evolves_endFlow
  · exact .inl (evolves_afterRedirect _)
  · exact .inl (evolves_afterVersion _ _)
  · exact .inl .refl
  · exact .inl (evolves_afterQuery _ _)
  · exact .inl .refl
  · exact .inl (evolves_afterCheck _ _)
  · exact .inl .refl
  · exact .inl (evolves_afterCurrentTabUrl _)
  · exact .inl (evolves_afterMove _)
  · next run => exact .inr ⟨run, rfl, rfl⟩

theorem grows_record : Grows shared (record run shared).1 where
  navigates := .refl
  extends_ := ⟨[], rfl, fun _ => .inl rfl⟩

theorem grows_move
    (hmove : move parseUrl recovers blockedScreenUrl label (shared, phase) = some outcome) :
    Grows shared outcome.1 := by
  rcases evolves_move hmove with hevolves | ⟨run, -, rfl⟩
  · exact hevolves.toGrows
  · exact grows_record

/-! ## The account of a reconciliation -/

/-- What became of a tab since the reconciliation listed it. -/
inductive Accounted (shared : Shared) (run : Reconciliation) (entry : TabHost) : Prop
  /-- It was redirected to the blocked screen. -/
  | redirected (since : shared.Since run.past (.redirected entry.identity))
  /-- It went to another page, or was closed. -/
  | left (since : shared.Since run.past (.visited entry.tabId))
  /-- A newer navigation began in it. -/
  | superseded (stale : shared.navigation.isCurrent entry.identity = false)
  /-- Another flow had reserved the redirect of its navigation, or shown the screen. -/
  | occupied (taken : entry.identity ∈ run.occupied)

variable (parseUrl : Text → Option ParsedUrl)

/-- The list of a reconciliation. -/
structure Listed (shared : Shared) (query : Query) : Prop where
  complete : ∀ tabId url host, (tabId, some url) ∈ query.openTabs →
    extractHttpHost parseUrl (some url) = some host →
      ∃ entry ∈ query.tabHosts, entry.tabId = tabId ∧ entry.host = host ∧ entry.identity.url = url
  numbered : ∀ entry ∈ query.tabHosts,
    entry.identity.generation ≤ shared.navigation.nextGeneration
  shows : ∀ entry ∈ query.tabHosts, shared.urls entry.tabId = some entry.identity.url ∨
    shared.Since query.past (.visited entry.tabId)
  past : ∃ recent, shared.history = recent ++ query.past

/-- Every blocked tab is still to come, or accounted for, or failed. -/
def Progress (shared : Shared) (run : Reconciliation) (rest : List TabHost) : Prop :=
  ∀ entry ∈ run.tabHosts, run.blocks entry.host = true →
    entry ∈ rest ∨ entry.identity ∈ run.failed ∨ Accounted shared run entry

/-- What a reconciliation knows in a phase. -/
def Keeps (shared : Shared) : Phase → Prop
  | .checking query => Listed parseUrl shared query
  | .asking run entry rest =>
      Listed parseUrl shared run.toQuery ∧ entry :: rest ⊆ run.tabHosts ∧
        Progress shared run (entry :: rest)
  | .moving run entry rest =>
      Listed parseUrl shared run.toQuery ∧ entry :: rest ⊆ run.tabHosts ∧
        Progress shared run (entry :: rest)
  | .reconciled run => Listed parseUrl shared run.toQuery ∧ Progress shared run []
  | _ => True

variable {parseUrl} {query : Query}

theorem Listed.mono (h : Listed parseUrl shared query) (hgrows : Grows shared later) :
    Listed parseUrl later query where
  complete := h.complete
  numbered entry hentry := (h.numbered entry hentry).trans hgrows.navigates.grows
  shows entry hentry := by
    rcases h.shows entry hentry with hshows | hsince
    · obtain ⟨more, hmore, hurls⟩ := hgrows.extends_
      obtain ⟨recent, hrecent⟩ := h.past
      rcases hurls entry.tabId with hsame | hvisited
      · exact .inl (hsame.trans hshows)
      · exact .inr ⟨more ++ recent, by rw [hmore, hrecent, List.append_assoc],
          List.mem_append_left _ hvisited⟩
    · exact .inr (hgrows.since hsince)
  past := by
    obtain ⟨more, hmore, -⟩ := hgrows.extends_
    obtain ⟨recent, hrecent⟩ := h.past
    exact ⟨more ++ recent, by rw [hmore, hrecent, List.append_assoc]⟩

theorem Accounted.mono (h : Accounted shared run entry) (hgrows : Grows shared later)
    (hnumbered : entry.identity.generation ≤ shared.navigation.nextGeneration) :
    Accounted later run entry := by
  cases h with
  | redirected since => exact .redirected (hgrows.since since)
  | left since => exact .left (hgrows.since since)
  | superseded stale => exact .superseded (hgrows.navigates.stale _ hnumbered stale)
  | occupied taken => exact .occupied taken

theorem Progress.mono (h : Progress shared run rest) (hgrows : Grows shared later)
    (hlisted : Listed parseUrl shared run.toQuery) : Progress later run rest := by
  intro entry hentry hblocks
  rcases h entry hentry hblocks with hrest | hfailed | haccounted
  · exact .inl hrest
  · exact .inr (.inl hfailed)
  · exact .inr (.inr (haccounted.mono hgrows (hlisted.numbered entry hentry)))

theorem Keeps.mono (h : Keeps parseUrl shared phase) (hgrows : Grows shared later) :
    Keeps parseUrl later phase := by
  cases phase with
  | checking query => exact Listed.mono h hgrows
  | asking run entry rest => exact ⟨h.1.mono hgrows, h.2.1, h.2.2.mono hgrows h.1⟩
  | moving run entry rest => exact ⟨h.1.mono hgrows, h.2.1, h.2.2.mono hgrows h.1⟩
  | reconciled run => exact ⟨h.1.mono hgrows, h.2.mono hgrows h.1⟩
  | idle | showing | confirming | recovering | redirecting | versioning | querying | ended =>
      trivial

/-- The first of the tabs that are left is done with. -/
theorem Progress.advance (h : Progress shared run (entry :: rest))
    (hdone : run.blocks entry.host = true →
      entry.identity ∈ run.failed ∨ Accounted shared run entry) : Progress shared run rest := by
  intro other hother hblocks
  rcases h other hother hblocks with hrest | hdone'
  · rcases List.mem_cons.mp hrest with rfl | hrest
    · exact .inr (hdone hblocks)
    · exact .inl hrest
  · exact .inr hdone'

theorem Progress.with {other : Reconciliation} (h : Progress shared run rest)
    (hquery : other.toQuery = run.toQuery) (hresults : other.results = run.results)
    (hfailed : run.failed ⊆ other.failed) (hoccupied : run.occupied ⊆ other.occupied) :
    Progress shared other rest := by
  obtain ⟨query, results, failed, occupied⟩ := other
  obtain rfl := hquery
  obtain rfl := hresults
  intro entry hentry hblocks
  rcases h entry hentry hblocks with hrest | hmem | haccounted
  · exact .inl hrest
  · exact .inr (.inl (hfailed hmem))
  · refine .inr (.inr ?_)
    cases haccounted with
    | redirected since => exact .redirected since
    | left since => exact .left since
    | superseded stale => exact .superseded stale
    | occupied taken => exact .occupied (hoccupied taken)

theorem keeps_reconcileFrom (hlisted : Listed parseUrl shared run.toQuery)
    (hsub : rest ⊆ run.tabHosts) (hprogress : Progress shared run rest) :
    Keeps parseUrl shared (reconcileFrom run rest shared).2 := by
  induction rest with
  | nil => exact ⟨hlisted, hprogress⟩
  | cons entry rest ih =>
      rw [reconcileFrom]
      split
      · exact ⟨hlisted, hsub, hprogress⟩
      · next hskipped =>
        refine ih (fun other hother => hsub (List.mem_cons_of_mem _ hother)) (hprogress.advance ?_)
        intro hblocks
        rw [hblocks, Bool.true_and, Bool.not_eq_true] at hskipped
        exact .inr (.superseded hskipped)

variable (parseUrl) in
/-- What the list says of the tabs. -/
structure ListsTabs (shared : Shared) (openTabs : List (Int × Option Text))
    (listed : Shared × List TabHost) : Prop where
  complete : ∀ tabId url host, (tabId, some url) ∈ openTabs →
    extractHttpHost parseUrl (some url) = some host →
      ∃ entry ∈ listed.2, entry.tabId = tabId ∧ entry.host = host ∧ entry.identity.url = url
  numbered : ∀ entry ∈ listed.2, entry.identity.generation ≤ listed.1.navigation.nextGeneration
  open_ : ∀ entry ∈ listed.2, (entry.tabId, some entry.identity.url) ∈ openTabs
  urls : listed.1.urls = shared.urls

theorem ListsTabs.cons {start : Shared} {openTabs : List (Int × Option Text)}
    {listed : Shared × List TabHost} (h : ListsTabs parseUrl start openTabs listed)
    (hurls : start.urls = shared.urls) {tabId : Int} {text host : Text}
    (hhost : extractHttpHost parseUrl (some text) = some host)
    {identity : NavigationIdentity} (hurl : identity.url = text)
    (hnumber : identity.generation ≤ listed.1.navigation.nextGeneration) :
    ListsTabs parseUrl shared ((tabId, some text) :: openTabs)
      (listed.1, { tabId := tabId, host := host, identity := identity } :: listed.2) where
  complete other url name hmem hname := by
    rcases List.mem_cons.mp hmem with hsame | hmem
    · cases hsame
      obtain rfl := Option.some.inj (hhost.symm.trans hname)
      exact ⟨_, List.mem_cons_self, rfl, rfl, hurl⟩
    · obtain ⟨entry, hentry, hfields⟩ := h.complete other url name hmem hname
      exact ⟨entry, List.mem_cons_of_mem _ hentry, hfields⟩
  numbered entry hentry := by
    rcases List.mem_cons.mp hentry with rfl | hrest
    · exact hnumber
    · exact h.numbered entry hrest
  open_ entry hentry := by
    rcases List.mem_cons.mp hentry with rfl | hrest
    · rw [hurl]
      exact List.mem_cons_self
    · exact List.mem_cons_of_mem _ (h.open_ entry hrest)
  urls := h.urls.trans hurls

theorem listsTabs_listTabs (openTabs : List (Int × Option Text)) (shared : Shared)
    (hnumbered : Numbered shared.navigation) :
    ListsTabs parseUrl shared openTabs (listTabs parseUrl openTabs shared) := by
  induction openTabs generalizing shared with
  | nil =>
      exact
        { complete := by simp
          numbered := by simp [listTabs]
          open_ := by simp [listTabs]
          urls := rfl }
  | cons first rest ih =>
      obtain ⟨tabId, url⟩ := first
      unfold listTabs
      split
      · next text host hhost =>
        split
        · next identity hmatch =>
          obtain ⟨found, hfound, rfl, hurl⟩ := NavigationState.matchUrl_eq_some hmatch
          have hnumber := (hnumbered _ _ hfound).trans
            (evolves_listTabs parseUrl rest shared).navigates.grows
          exact (ih shared hnumbered).cons rfl hhost hurl hnumber
        · let begun := shared.begin_ tabId text .reconciliation
          have hnumber : (shared.navigation.beginIdentity tabId text .reconciliation).generation ≤
              (listTabs parseUrl rest begun).1.navigation.nextGeneration :=
            (evolves_listTabs parseUrl rest begun).navigates.grows
          have hurls : begun.urls = shared.urls := rfl
          exact (ih begun ((navigatesTo_begin _ _ _).numbered hnumbered)).cons hurls hhost rfl
            hnumber
      · next hother =>
        have hrest := ih shared hnumbered
        refine { hrest with complete := ?_, open_ := ?_ }
        · intro other text host hmem hhost
          rcases List.mem_cons.mp hmem with hsame | hmem
          · obtain ⟨-, rfl⟩ := Prod.mk.inj hsame
            exact absurd hhost (hother text host rfl)
          · exact hrest.complete other text host hmem hhost
        · exact fun entry hentry => List.mem_cons_of_mem _ (hrest.open_ entry hentry)

theorem keeps_afterQuery (hnumbered : Numbered shared.navigation) (policyVersion : Text) :
    Keeps parseUrl (afterQuery parseUrl policyVersion shared).1
      (afterQuery parseUrl policyVersion shared).2 := by
  have hlists : ListsTabs parseUrl shared shared.queryTabs
      (listTabs parseUrl shared.queryTabs shared) :=
    listsTabs_listTabs shared.queryTabs shared hnumbered
  obtain ⟨recent, hrecent, -⟩ := (evolves_listTabs parseUrl shared.queryTabs shared).extends_
  have hlisted : Listed parseUrl (listTabs parseUrl shared.queryTabs shared).1
      { policyVersion := policyVersion
        tabHosts := (listTabs parseUrl shared.queryTabs shared).2
        openTabs := shared.queryTabs
        past := shared.history } :=
    { complete := hlists.complete
      numbered := hlists.numbered
      shows := by
        intro entry hentry
        obtain ⟨tabId, -, hsame⟩ := List.mem_map.mp (hlists.open_ entry hentry)
        obtain ⟨rfl, hurl⟩ := Prod.mk.inj hsame
        exact .inl (by rw [hlists.urls, hurl])
      past := ⟨recent, hrecent⟩ }
  unfold afterQuery
  dsimp only
  split
  · next hempty =>
    refine ⟨hlisted, fun entry hentry => ?_⟩
    rw [List.isEmpty_iff.mp hempty] at hentry
    cases hentry
  · exact hlisted

theorem keeps_afterCheck (hlisted : Listed parseUrl shared query) (response : VerifyResponse) :
    Keeps parseUrl (afterCheck query response shared).1 (afterCheck query response shared).2 := by
  rw [afterCheck]
  split
  · dsimp only
    rw [reconcileFrom_fst]
    exact keeps_reconcileFrom (hlisted.mono (evolves_noteAll _).toGrows) (List.Subset.refl _)
      fun entry hentry _ => .inl hentry
  · trivial

theorem Listed.left (h : Listed parseUrl shared run.toQuery) (hentry : entry ∈ run.tabHosts)
    (hurl : shared.urls entry.tabId ≠ some entry.identity.url) :
    shared.Since run.past (.visited entry.tabId) :=
  (h.shows entry hentry).resolve_left hurl

section Tab

variable (hlisted : Listed parseUrl shared run.toQuery) (hsub : entry :: rest ⊆ run.tabHosts)
  (hprogress : Progress shared run (entry :: rest))
include hlisted hsub hprogress

theorem keeps_skipTab :
    Keeps parseUrl (skipTab run entry rest shared).1 (skipTab run entry rest shared).2 := by
  rw [skipTab, reconcileFrom_fst]
  have hgrows : Grows shared (shared.release entry.identity) := evolves_release.toGrows
  have hskipped : Progress (shared.release entry.identity)
      { run with failed := entry.identity :: run.failed } (entry :: rest) :=
    (hprogress.mono hgrows hlisted).with rfl rfl (List.subset_cons_self _ _) (List.Subset.refl _)
  refine keeps_reconcileFrom (hlisted.mono hgrows)
    (fun other hother => hsub (List.mem_cons_of_mem _ hother)) (hskipped.advance ?_)
  exact fun _ => .inl List.mem_cons_self

theorem keeps_afterCurrentTabUrl {answer : Option (Option Text)}
    (hanswer : ∀ currentUrl, answer = some currentUrl → shared.urls entry.tabId = currentUrl) :
    Keeps parseUrl (afterCurrentTabUrl run entry rest answer shared).1
      (afterCurrentTabUrl run entry rest answer shared).2 := by
  have hrest : rest ⊆ run.tabHosts := fun other hother => hsub (List.mem_cons_of_mem _ hother)
  cases answer with
  | none => exact keeps_skipTab hlisted hsub hprogress
  | some currentUrl =>
      rw [afterCurrentTabUrl]
      split
      · next hgone =>
        rw [reconcileFrom_fst]
        refine keeps_reconcileFrom hlisted hrest (hprogress.advance fun _ => .inr ?_)
        rcases hgone with hurl | hstale
        · rw [← hanswer currentUrl rfl] at hurl
          exact .left (hlisted.left (hsub List.mem_cons_self) hurl)
        · exact .superseded (by simpa using hstale)
      · split
        · rw [reconcileFrom_fst]
          have htaken : Progress shared { run with occupied := entry.identity :: run.occupied }
              (entry :: rest) :=
            hprogress.with rfl rfl (List.Subset.refl _) (List.subset_cons_self _ _)
          exact keeps_reconcileFrom hlisted hrest
            (htaken.advance fun _ => .inr (.occupied List.mem_cons_self))
        · next navigation hreserve =>
          have hgrows : Grows shared (Shared.note { shared with navigation := navigation }
              (.redirect entry.identity entry.tabId entry.host)) :=
            ((evolves_navigation (navigatesTo_reserveRedirect hreserve)).trans
              (evolves_note _)).toGrows
          exact ⟨hlisted.mono hgrows, hsub, hprogress.mono hgrows hlisted⟩

theorem keeps_afterMove (succeeded : Bool) :
    Keeps parseUrl (afterMove run entry rest succeeded shared).1
      (afterMove run entry rest succeeded shared).2 := by
  rw [afterMove]
  split
  · rw [reconcileFrom_fst]
    have hgrows : Grows shared
        ((shared.note (.redirected entry.identity)).shown entry.identity) :=
      ((evolves_note _).trans evolves_shown).toGrows
    refine keeps_reconcileFrom (hlisted.mono hgrows)
      (fun other hother => hsub (List.mem_cons_of_mem _ hother))
      ((hprogress.mono hgrows hlisted).advance fun _ => .inr (.redirected ?_))
    obtain ⟨recent, hrecent⟩ := hlisted.past
    exact ⟨.redirected entry.identity :: recent, congrArg (_ :: ·) hrecent, List.mem_cons_self⟩
  · have hgrows : Grows shared (shared.note (.refused entry.identity)) :=
      (evolves_note _).toGrows
    exact keeps_skipTab (hlisted.mono hgrows) hsub (hprogress.mono hgrows hlisted)

end Tab

/-! ## Runs of the reconciliation -/

variable (parseUrl) in
/-- The invariant of what the flows share. -/
structure Kept (shared : Shared) : Prop where
  numbered : Numbered shared.navigation
  recorded : ∀ run ∈ shared.recorded, Listed parseUrl shared run.toQuery ∧ Progress shared run []
  version : shared.version = [] ∨ ∃ run ∈ shared.recorded, run.policyVersion = shared.version

theorem Kept.evolves (h : Kept parseUrl shared) (hevolves : Evolves shared later) :
    Kept parseUrl later where
  numbered := hevolves.navigates.numbered h.numbered
  recorded run hrun := by
    rw [hevolves.recorded] at hrun
    obtain ⟨hlisted, hprogress⟩ := h.recorded run hrun
    exact ⟨hlisted.mono hevolves.toGrows, hprogress.mono hevolves.toGrows hlisted⟩
  version := by
    rw [hevolves.recorded, hevolves.version]
    exact h.version

theorem Kept.record (h : Kept parseUrl shared) (hlisted : Listed parseUrl shared run.toQuery)
    (hprogress : Progress shared run []) :
    Kept parseUrl (BlockedScreen.record run shared).1 where
  numbered := h.numbered
  recorded other hother := by
    have hold : Listed parseUrl shared other.toQuery ∧ Progress shared other [] := by
      rcases List.mem_cons.mp hother with rfl | hold
      · exact ⟨hlisted, hprogress⟩
      · exact h.recorded other hold
    exact ⟨hold.1.mono grows_record, hold.2.mono grows_record hold.1⟩
  version := .inr ⟨run, List.mem_cons_self, rfl⟩

section FlowPhases

variable {last : Shared}

theorem keeps_showBlockedScreen : Keeps parseUrl last (showBlockedScreen flow shared).2 := by
  rw [showBlockedScreen]
  split <;> trivial

theorem keeps_redirectToBlockedScreenOnce :
    Keeps parseUrl last (redirectToBlockedScreenOnce flow shared).2 := by
  rw [redirectToBlockedScreenOnce]
  split <;> trivial

theorem keeps_recoverOr (recovers blocked : Bool) {otherwise : Shared → Shared × Phase}
    (hotherwise : Keeps parseUrl last (otherwise shared).2) :
    Keeps parseUrl last (recoverOr recovers flow blocked otherwise shared).2 := by
  rw [recoverOr]
  split
  · trivial
  · exact hotherwise

theorem keeps_afterTabUrl (recovers : Bool) (blockedScreenUrl : Text)
    (answer : Option (Option Text)) :
    Keeps parseUrl last (afterTabUrl parseUrl recovers blockedScreenUrl flow answer shared).2 := by
  have hask : Keeps parseUrl last (afterTabUrl.askOrRecover recovers flow shared).2 := by
    rw [afterTabUrl.askOrRecover]
    split
    · trivial
    · split
      · exact keeps_recoverOr recovers true keeps_showBlockedScreen
      · exact keeps_showBlockedScreen
  rcases answer with _ | _ | url
  · exact hask
  · exact hask
  · rw [afterTabUrl]
    split
    · trivial
    · exact hask

theorem keeps_afterConfirmation (recovers : Bool) (result : ConfirmationResult) :
    Keeps parseUrl last (afterConfirmation recovers flow result shared).2 := by
  rw [afterConfirmation]
  split
  · dsimp only
    split
    · exact keeps_recoverOr recovers true keeps_showBlockedScreen
    · exact keeps_showBlockedScreen
  · split
    · exact keeps_recoverOr recovers false trivial
    · trivial

theorem keeps_afterRecovery (blocked recovered : Bool) :
    Keeps parseUrl last (afterRecovery flow blocked recovered shared).2 := by
  rw [afterRecovery]
  split
  · exact keeps_showBlockedScreen
  · trivial

theorem keeps_afterRedirect (succeeded : Bool) :
    Keeps parseUrl last (afterRedirect flow succeeded shared).2 := by
  rw [afterRedirect]
  split <;> trivial

theorem keeps_handleNativePolicyNavigationPreflight (details : PreflightDetails) :
    Keeps parseUrl last (handleNativePolicyNavigationPreflight parseUrl details shared).2 := by
  rw [handleNativePolicyNavigationPreflight]
  split
  · trivial
  · split
    · trivial
    · split
      · trivial
      · exact keeps_redirectToBlockedScreenOnce

theorem keeps_handleBlockedScreenNavigationError (details : NavigationDetails)
    (recordBlockedDomain : Bool) :
    Keeps parseUrl last
      (handleBlockedScreenNavigationError parseUrl details recordBlockedDomain shared).2 := by
  rw [handleBlockedScreenNavigationError]
  split
  · trivial
  · split
    · trivial
    · split
      · dsimp only
        split
        · split
          · trivial
          · split
            · exact keeps_redirectToBlockedScreenOnce
            · exact keeps_redirectToBlockedScreenOnce
        · exact keeps_redirectToBlockedScreenOnce
      · trivial

theorem keeps_afterVersion (force : Bool) (response : NativePolicyVersionResponse) :
    Keeps parseUrl last (afterVersion force response shared).2 := by
  rw [afterVersion]
  split
  · dsimp only
    split <;> trivial
  · trivial

end FlowPhases

theorem tabUrl_eq_some {answered : Bool} {tabId : Int} {currentUrl : Option Text}
    (hanswer : shared.tabUrl answered tabId = some currentUrl) :
    shared.urls tabId = currentUrl := by
  obtain ⟨-, hsame⟩ := Option.ite_none_right_eq_some.mp hanswer
  exact Option.some.inj hsame

theorem keeps_move (h : Kept parseUrl shared) (hkeeps : Keeps parseUrl shared phase)
    (hmove : move parseUrl recovers blockedScreenUrl label (shared, phase) = some outcome) :
    Kept parseUrl outcome.1 ∧ Keeps parseUrl outcome.1 outcome.2 := by
  constructor
  · rcases evolves_move hmove with hevolves | ⟨run, rfl, rfl⟩
    · exact h.evolves hevolves
    · exact h.record hkeeps.1 hkeeps.2
  · unfold move at hmove
    split at hmove
    all_goals try (rename_i heq; cases heq)
    all_goals cases hmove
    · trivial
    · trivial
    · trivial
    · exact keeps_handleNativePolicyNavigationPreflight _
    · exact keeps_handleBlockedScreenNavigationError _ _
    · trivial
    · exact keeps_afterTabUrl _ _ _
    · exact keeps_afterConfirmation _ _
    · trivial
    · exact keeps_afterRecovery _ _
    · trivial
    · exact keeps_afterRedirect _
    · exact keeps_afterVersion _ _
    · trivial
    · exact keeps_afterQuery h.numbered _
    · trivial
    · exact keeps_afterCheck hkeeps _
    · trivial
    · exact keeps_afterCurrentTabUrl hkeeps.1 hkeeps.2.1 hkeeps.2.2 fun _ hanswer =>
        tabUrl_eq_some hanswer
    · exact keeps_afterMove hkeeps.1 hkeeps.2.1 hkeeps.2.2 _
    · trivial

theorem kept_of_reachable {state : Interleaved Shared Phase}
    (hreach : (system parseUrl recovers blockedScreenUrl).Reachable state) :
    Kept parseUrl state.shared := by
  have hinit : ∀ shared, Initial shared →
      Kept parseUrl shared ∧ Keeps parseUrl shared .idle := by
    intro shared hinitial
    obtain ⟨hnavigation, hversion, -, hrecorded⟩ := hinitial
    refine ⟨⟨?_, by simp [hrecorded], .inl hversion⟩, trivial⟩
    rw [hnavigation]
    intro tabId entry hentry
    cases hentry
  have hmeets : (system parseUrl recovers blockedScreenUrl).ReachableBy
      (Interleaved.Meets fun _ _ _ => True) state := hreach
  exact (Interleaved.interference_free hinit
    (fun _ _ _ _ hkept hkeeps _ hmove => keeps_move hkept hkeeps hmove)
    (fun _ _ _ _ _ _ _ hother _ hmove => hother.mono (grows_move hmove)) hmeets).1

/-- A call that a reconciliation awaits fails: the version, the tabs or the check. -/
def Label.fails : Label → Bool
  | .policyVersion response => !response.any (·.success)
  | .tabs answered => !answered
  | .check response => !response.any (·.success)
  | _ => false

/-- A reconciliation one of whose calls fails is over, and has changed nothing by it. -/
theorem ended_of_fails (hfails : label.fails = true)
    (hmove : move parseUrl recovers blockedScreenUrl label (shared, phase) = some outcome) :
    outcome = (shared, .ended) := by
  unfold move at hmove
  split at hmove
  all_goals try (rename_i heq; cases heq)
  all_goals cases hmove
  all_goals try cases hfails
  · next response _ =>
    have hfailed : response.success = false := by simpa [Label.fails] using hfails
    rw [afterVersion, hfailed]
    rfl
  · rfl
  · rfl
  · next response _ =>
    have hfailed : response.success = false := by simpa [Label.fails] using hfails
    rw [afterCheck, hfailed]
    rfl
  · rfl

theorem move_ended (label : Label) (shared : Shared) :
    move parseUrl recovers blockedScreenUrl label (shared, .ended) = none := by
  cases label with
  | confirmation result => cases result <;> rfl
  | recovery recovered => cases recovered <;> rfl
  | policyVersion response => cases response <;> rfl
  | tabs answered => cases answered <;> rfl
  | check response => cases response <;> rfl
  | _ => rfl

/-- A reconciliation that is about to check the hosts of its tabs. -/
def checking : List (Nat × Label) :=
  [(0, .visit 1 (some blockedUrl)), (3, .refresh true),
    (3, .policyVersion (some { success := true, version := some "v1".toList })), (3, .tabs true)]

def failedCheck : Label := .check (some { success := false, results := [] })

end OpenPath.Extension.BlockedScreen
