/-
# Redirects of runs

What the flows may do to a tab, told by the history alone: a redirect is proper when the
navigation is the newest of its tab, the native host confirmed to the flow that the host
of that navigation is blocked, and every redirect of it before has failed.

The marks carry the proof. A flow holds the pending mark of a navigation from its
reservation to its end; no two flows hold one at a time, and while a mark is idle
every redirect so far has failed. The reconciliation releases a mark that it does not
hold when it cannot read the URL of a tab, so the last part needs runs in which that
does not happen while another flow holds the mark.
-/

import OpenPath.Extension.BlockedScreen

namespace OpenPath.Extension.BlockedScreen

open Foundation JavaScript
open NavigationState (current_eq_some entries_setRedirect entries_beginNavigation mark)

/-! ## What the history says -/

/-- The newest navigation of a tab. -/
def newest : List Happening → Int → Option NavigationIdentity
  | [], _ => none
  | .began identity :: past, tabId =>
      if identity.tabId = tabId then some identity else newest past tabId
  | .disposed disposed :: past, tabId => if disposed = tabId then none else newest past tabId
  | _ :: past, tabId => newest past tabId

/-- The redirects of a navigation that have not failed. -/
def attempts : List Happening → Nat → Nat
  | [], _ => 0
  | .redirect identity _ _ :: past, generation =>
      if identity.generation = generation then attempts past generation + 1
      else attempts past generation
  | .refused identity :: past, generation =>
      if identity.generation = generation then attempts past generation - 1
      else attempts past generation
  | _ :: past, generation => attempts past generation

variable (parseUrl : Text → Option ParsedUrl)

/-- The host of a URL, as one of the flows writes it. -/
def HostOf (url host : Text) : Prop :=
  ∃ parsed, parseUrl url = some parsed ∧
    (host = parsed.hostname ∨ host = toLowerCase parsed.hostname)

/-- A redirect that may follow what happened before. -/
structure ProperRedirect (past : List Happening) (identity : NavigationIdentity) (tabId : Int)
    (host : Text) : Prop where
  newest : newest past tabId = some identity
  confirmed : .confirmed identity host ∈ past
  hostOf : HostOf parseUrl identity.url host
  once : attempts past identity.generation = 0

/-- Every redirect is proper. -/
def Proper : List Happening → Prop
  | [] => True
  | .redirect identity tabId host :: past =>
      ProperRedirect parseUrl past identity tabId host ∧ Proper past
  | _ :: past => Proper past

/-- What neither begins a navigation nor redirects. -/
def Happening.neutral : Happening → Bool
  | .began _ => false
  | .disposed _ => false
  | .redirect _ _ _ => false
  | .refused _ => false
  | _ => true

variable {parseUrl} {past : List Happening} {happening : Happening}

section

variable (hneutral : Happening.neutral happening = true)
include hneutral

theorem newest_neutral (tabId : Int) : newest (happening :: past) tabId = newest past tabId := by
  cases happening <;> first | rfl | simp [Happening.neutral] at hneutral

theorem attempts_neutral (generation : Nat) :
    attempts (happening :: past) generation = attempts past generation := by
  cases happening <;> first | rfl | simp [Happening.neutral] at hneutral

theorem proper_neutral :
    Proper parseUrl (happening :: past) ↔ Proper parseUrl past := by
  cases happening <;> first | rfl | simp [Happening.neutral] at hneutral

end

theorem newest_mem {tabId : Int} {identity : NavigationIdentity}
    (hnewest : newest past tabId = some identity) : .began identity ∈ past := by
  induction past with
  | nil => cases hnewest
  | cons happening past ih =>
      cases happening with
      | began other =>
          rw [newest] at hnewest
          split at hnewest
          · obtain rfl := Option.some.inj hnewest
            exact List.mem_cons_self
          · exact List.mem_cons_of_mem _ (ih hnewest)
      | disposed other =>
          rw [newest] at hnewest
          split at hnewest
          · cases hnewest
          · exact List.mem_cons_of_mem _ (ih hnewest)
      | visited | confirmed | redirect | redirected | refused =>
          exact List.mem_cons_of_mem _ (ih hnewest)

/-- In a proper history no navigation has two redirects that have not failed. -/
theorem Proper.attempts_le_one (hproper : Proper parseUrl past) (generation : Nat) :
    attempts past generation ≤ 1 := by
  induction past with
  | nil => exact Nat.zero_le 1
  | cons happening past ih =>
      cases happening with
      | redirect identity tabId host =>
          obtain ⟨hredirect, hpast⟩ := hproper
          rw [attempts]
          split
          · next hsame =>
            have honce := hredirect.once
            rw [hsame] at honce
            omega
          · exact ih hpast
      | refused identity =>
          have hpast := ih hproper
          rw [attempts]
          split <;> omega
      | began | disposed | visited | confirmed | redirected =>
          exact ih hproper

/-! ## Marks and who holds them -/

/-- A flow that holds a mark, and whether its redirect is on the way. -/
structure Holder where
  identity : NavigationIdentity
  underway : Bool

variable (parseUrl)

/-- The newest navigations are the ones of the history. -/
structure Known (navigation : NavigationState) (history : List Happening) : Prop where
  placed : ∀ tabId entry, navigation.entries tabId = some entry → entry.identity.tabId = tabId
  newest : ∀ tabId, newest history tabId = navigation.get tabId
  bound : ∀ identity, .began identity ∈ history →
    identity.generation ≤ navigation.nextGeneration
  unique : ∀ first second, .began first ∈ history → .began second ∈ history →
    first.generation = second.generation → first = second
  fresh : ∀ generation, navigation.nextGeneration < generation → attempts history generation = 0
  proper : Proper parseUrl history

/-- The marks of the navigations agree with the history and with the flows that hold
them. -/
structure Inv (navigation : NavigationState) (history : List Happening)
    (holders : Nat → Option Holder) : Prop extends Known parseUrl navigation history where
  known : ∀ call holder, holders call = some holder → .began holder.identity ∈ history
  held : ∀ call holder entry, holders call = some holder →
    navigation.current holder.identity = some entry → entry.redirect = .pending
  owned : ∀ tabId entry, navigation.entries tabId = some entry → entry.redirect = .pending →
    ∃ call holder, holders call = some holder ∧ holder.identity = entry.identity
  apart : ∀ first second one other, holders first = some one → holders second = some other →
    one.identity.generation = other.identity.generation → first = second
  waiting : ∀ call holder, holders call = some holder → holder.underway = false →
    attempts history holder.identity.generation = 0
  idle : ∀ tabId entry, navigation.entries tabId = some entry → entry.redirect = .idle →
    attempts history entry.identity.generation = 0

variable {parseUrl} {navigation next : NavigationState} {history : List Happening}
  {holders : Nat → Option Holder} {call : Nat} {identity : NavigationIdentity}

theorem update_eq_some {value : Option Holder} {other : Nat} {holder : Holder}
    (hholder : Function.update holders call value other = some holder) :
    other = call ∧ value = some holder ∨ other ≠ call ∧ holders other = some holder := by
  by_cases hcall : other = call
  · subst hcall
    exact .inl ⟨rfl, by simpa using hholder⟩
  · exact .inr ⟨hcall, by simpa [Function.update_of_ne hcall] using hholder⟩

namespace Known

variable {entry : NavigationEntry}

section

variable (h : Known parseUrl navigation history)
include h

theorem began_entry {tabId : Int} (hentry : navigation.entries tabId = some entry) :
    .began entry.identity ∈ history := by
  apply newest_mem
  rw [h.newest tabId, NavigationState.get, hentry]
  rfl

section

variable (hknown : .began identity ∈ history)
include hknown

/-- A navigation that is known and current is the one of the entry. -/
theorem identity_of_current (hentry : navigation.current identity = some entry) :
    entry.identity = identity := by
  obtain ⟨hat, hgeneration, -⟩ := current_eq_some.mp hentry
  exact h.unique _ _ (h.began_entry hat) hknown hgeneration

theorem newest_of_current (hcurrent : navigation.isCurrent identity = true) :
    BlockedScreen.newest history identity.tabId = some identity := by
  obtain ⟨entry, hentry⟩ := NavigationState.isCurrent_iff.mp hcurrent
  rw [h.newest, NavigationState.get, (current_eq_some.mp hentry).1]
  exact congrArg some (h.identity_of_current hknown hentry)

theorem current_of_generation {tabId : Int} (hentry : navigation.entries tabId = some entry)
    (hsame : entry.identity.generation = identity.generation) :
    navigation.current identity = some entry := by
  obtain rfl := h.unique _ _ (h.began_entry hentry) hknown hsame
  have hplaced := h.placed tabId entry hentry
  exact current_eq_some.mpr ⟨hplaced ▸ hentry, rfl, rfl⟩

end

theorem setRedirect (hentry : navigation.current identity = some entry) (redirect : RedirectMark) :
    Known parseUrl (navigation.setRedirect identity entry redirect) history where
  placed other found hfound := by
    rcases entries_setRedirect hfound with ⟨rfl, rfl⟩ | ⟨-, hold⟩
    · exact h.placed _ entry (current_eq_some.mp hentry).1
    · exact h.placed other found hold
  newest other := (h.newest other).trans (NavigationState.get_setRedirect hentry redirect other).symm
  bound := h.bound
  unique := h.unique
  fresh := h.fresh
  proper := h.proper

/-- What neither begins a navigation nor disposes of one leaves the newest ones. -/
theorem note (hbegan : ∀ other, .began other ∈ happening :: history → .began other ∈ history)
    (hnewest : ∀ tabId, BlockedScreen.newest (happening :: history) tabId =
      BlockedScreen.newest history tabId)
    (hfresh : ∀ generation, navigation.nextGeneration < generation →
      attempts (happening :: history) generation = 0)
    (hproper : Proper parseUrl (happening :: history)) :
    Known parseUrl navigation (happening :: history) where
  placed := h.placed
  newest tabId := (hnewest tabId).trans (h.newest tabId)
  bound other hother := h.bound other (hbegan other hother)
  unique first second hfirst hsecond :=
    h.unique first second (hbegan first hfirst) (hbegan second hsecond)
  fresh := hfresh
  proper := hproper

end

end Known

namespace Inv

variable {holder : Holder}

section

variable (h : Inv parseUrl navigation history holders)
include h

/-- The marks depend on the navigation that each flow holds, and not on its redirect. -/
theorem goOn {later : Nat → Option Holder}
    (hlater : ∀ other, (later other).map Holder.identity = (holders other).map Holder.identity)
    (hhistory : Known parseUrl navigation (happening :: history))
    (hwaiting : ∀ other holder, later other = some holder → holder.underway = false →
      attempts (happening :: history) holder.identity.generation = 0)
    (hidle : ∀ tabId entry, navigation.entries tabId = some entry → entry.redirect = .idle →
      attempts (happening :: history) entry.identity.generation = 0) :
    Inv parseUrl navigation (happening :: history) later := by
  have hbefore : ∀ other holder, later other = some holder →
      ∃ one, holders other = some one ∧ one.identity = holder.identity := by
    intro other holder hholder
    have hsame := hlater other
    rw [hholder] at hsame
    exact Option.map_eq_some_iff.mp hsame.symm
  exact
    { hhistory with
      known := by
        intro other holder hholder
        obtain ⟨one, hone, hsame⟩ := hbefore other holder hholder
        exact List.mem_cons_of_mem _ (hsame ▸ h.known other one hone)
      held := by
        intro other holder entry hholder hentry
        obtain ⟨one, hone, hsame⟩ := hbefore other holder hholder
        exact h.held other one entry hone (hsame ▸ hentry)
      owned := by
        intro other entry hentry hpending
        obtain ⟨owner, one, hone, hsame⟩ := h.owned other entry hentry hpending
        have howner := hlater owner
        rw [hone] at howner
        obtain ⟨holder, hholder, hidentity⟩ := Option.map_eq_some_iff.mp howner
        exact ⟨owner, holder, hholder, hidentity.trans hsame⟩
      apart := by
        intro first second one another hfirst hsecond hgeneration
        obtain ⟨one', hone, hsameOne⟩ := hbefore first one hfirst
        obtain ⟨another', hanother, hsameAnother⟩ := hbefore second another hsecond
        exact h.apart first second one' another' hone hanother
          (by rw [hsameOne, hsameAnother, hgeneration])
      waiting := hwaiting
      idle := hidle }

theorem note (hneutral : Happening.neutral happening = true) :
    Inv parseUrl navigation (happening :: history) holders := by
  have hattempts : ∀ generation, attempts (happening :: history) generation =
      attempts history generation := attempts_neutral hneutral
  refine h.goOn (fun _ => rfl) (h.toKnown.note ?_ (newest_neutral hneutral) ?_
    ((proper_neutral hneutral).mpr h.proper)) ?_ ?_
  · intro other hother
    rcases List.mem_cons.mp hother with rfl | hold
    · simp [Happening.neutral] at hneutral
    · exact hold
  · exact fun generation hfresh => (hattempts generation).trans (h.fresh generation hfresh)
  · exact fun other holder hholder hunderway =>
      (hattempts _).trans (h.waiting other holder hholder hunderway)
  · exact fun tabId entry hentry hidle => (hattempts _).trans (h.idle tabId entry hentry hidle)

theorem noteAll {happenings : List Happening}
    (hneutral : ∀ happening ∈ happenings, Happening.neutral happening = true) :
    Inv parseUrl navigation (happenings ++ history) holders := by
  induction happenings with
  | nil => exact h
  | cons happening rest ih =>
      exact (ih fun other hother => hneutral other (List.mem_cons_of_mem _ hother)).note
        (hneutral happening List.mem_cons_self)

theorem dispose (tabId : Int) :
    Inv parseUrl (navigation.dispose tabId) (.disposed tabId :: history) holders := by
  have hsub : ∀ other entry, (navigation.dispose tabId).entries other = some entry →
      navigation.entries other = some entry :=
    fun other entry hentry => NavigationState.entries_dispose hentry
  have hold : ∀ other, .began other ∈ Happening.disposed tabId :: history →
      .began other ∈ history := by
    intro other hother
    simpa using hother
  exact
    { placed := fun other entry hentry => h.placed other entry (hsub other entry hentry)
      newest := by
        intro other
        rw [BlockedScreen.newest, NavigationState.get_dispose, h.newest]
      bound := fun other hother => h.bound other (hold other hother)
      unique := fun first second hfirst hsecond =>
        h.unique first second (hold first hfirst) (hold second hsecond)
      fresh := h.fresh
      proper := h.proper
      known := fun other holder hholder => List.mem_cons_of_mem _ (h.known other holder hholder)
      held := by
        intro other holder entry hholder hentry
        obtain ⟨hat, hsame⟩ := current_eq_some.mp hentry
        exact h.held other holder entry hholder
          (current_eq_some.mpr ⟨hsub _ entry hat, hsame⟩)
      owned := fun other entry hentry => h.owned other entry (hsub other entry hentry)
      apart := h.apart
      waiting := h.waiting
      idle := fun other entry hentry => h.idle other entry (hsub other entry hentry) }

theorem begin_ (tabId : Int) (url : Text) (source : NavigationSource) :
    Inv parseUrl (navigation.beginNavigation tabId url source)
      (.began (navigation.beginIdentity tabId url source) :: history) holders := by
  have hbegan : ∀ other,
      .began other ∈ Happening.began (navigation.beginIdentity tabId url source) :: history →
      other = navigation.beginIdentity tabId url source ∨ .began other ∈ history := by
    intro other hother
    simpa using hother
  have hnew : ∀ other, .began other ∈ history →
      other.generation ≠ (navigation.beginIdentity tabId url source).generation := by
    intro other hother
    have hbound := h.bound other hother
    exact Nat.ne_of_lt (Nat.lt_succ_of_le hbound)
  have hfresh := h.fresh (navigation.nextGeneration + 1) (Nat.lt_succ_self _)
  exact
    { placed := by
        intro other entry hentry
        rcases entries_beginNavigation hentry with ⟨rfl, rfl⟩ | hold
        · rfl
        · exact h.placed other entry hold
      newest := by
        intro other
        rw [BlockedScreen.newest, NavigationState.get_beginNavigation, h.newest]
        rfl
      bound := by
        intro other hother
        rcases hbegan other hother with rfl | hold
        · exact Nat.le_refl _
        · exact Nat.le_succ_of_le (h.bound other hold)
      unique := by
        intro first second hfirst hsecond hsame
        rcases hbegan first hfirst with rfl | hfirst <;> rcases hbegan second hsecond with rfl | hsecond
        · rfl
        · exact absurd hsame.symm (hnew second hsecond)
        · exact absurd hsame (hnew first hfirst)
        · exact h.unique first second hfirst hsecond hsame
      fresh := fun generation hlarge => h.fresh generation (Nat.lt_of_succ_lt hlarge)
      proper := h.proper
      known := fun other holder hholder => List.mem_cons_of_mem _ (h.known other holder hholder)
      held := by
        intro other holder entry hholder hentry
        obtain ⟨hat, hgeneration, hurl⟩ := current_eq_some.mp hentry
        rcases entries_beginNavigation hat with ⟨-, rfl⟩ | hold
        · exact absurd hgeneration.symm (hnew _ (h.known other holder hholder))
        · exact h.held other holder entry hholder
            (current_eq_some.mpr ⟨hold, hgeneration, hurl⟩)
      owned := by
        intro other entry hentry hpending
        rcases entries_beginNavigation hentry with ⟨-, rfl⟩ | hold
        · cases hpending
        · exact h.owned other entry hold hpending
      apart := h.apart
      waiting := h.waiting
      idle := by
        intro other entry hentry hidle
        rcases entries_beginNavigation hentry with ⟨-, rfl⟩ | hold
        · exact hfresh
        · exact h.idle other entry hold hidle }

theorem reserve (hfree : holders call = none) (hknown : .began identity ∈ history)
    (hreserve : navigation.reserveRedirect identity = some next) :
    Inv parseUrl next history
      (Function.update holders call (some { identity := identity, underway := false })) := by
  obtain ⟨entry, hentry, hidle, rfl⟩ := NavigationState.reserveRedirect_eq_some hreserve
  have hidentity := h.identity_of_current hknown hentry
  have hat := (current_eq_some.mp hentry).1
  have hother : ∀ other holder, holders other = some holder →
      holder.identity.generation ≠ identity.generation := by
    intro other holder hholder hsame
    have hcurrent := h.current_of_generation (h.known other holder hholder) hat
      (by rw [hidentity, hsame])
    have hpending := h.held other holder entry hholder hcurrent
    rw [hidle] at hpending
    cases hpending
  exact
    { h.toKnown.setRedirect hentry .pending with
      known := by
        intro other holder hholder
        rcases update_eq_some hholder with ⟨-, ⟨⟩⟩ | ⟨-, hold⟩
        · exact hknown
        · exact h.known other holder hold
      held := by
        intro other holder found hholder hfound
        rcases update_eq_some hholder with ⟨-, ⟨⟩⟩ | ⟨-, hold⟩
        · rw [NavigationState.current_setRedirect _ hentry] at hfound
          obtain rfl := Option.some.inj hfound
          rfl
        · rw [NavigationState.current_setRedirect_of_ne hentry _ (hother other holder hold)]
            at hfound
          exact h.held other holder found hold hfound
      owned := by
        intro other found hfound hpending
        rcases entries_setRedirect hfound with ⟨rfl, rfl⟩ | ⟨-, hold⟩
        · exact ⟨call, _, Function.update_self .., hidentity.symm⟩
        · obtain ⟨owner, holder, hholder, hsame⟩ := h.owned other found hold hpending
          have hcall : owner ≠ call := fun hcall => by simp [hcall, hfree] at hholder
          exact ⟨owner, holder, by rwa [Function.update_of_ne hcall], hsame⟩
      apart := by
        intro first second one another hfirst hsecond hsame
        rcases update_eq_some hfirst with ⟨rfl, ⟨⟩⟩ | ⟨-, hone⟩ <;>
          rcases update_eq_some hsecond with ⟨rfl, ⟨⟩⟩ | ⟨-, hanother⟩
        · rfl
        · exact absurd hsame.symm (hother second another hanother)
        · exact absurd hsame (hother first one hone)
        · exact h.apart first second one another hone hanother hsame
      waiting := by
        intro other holder hholder hunderway
        rcases update_eq_some hholder with ⟨-, ⟨⟩⟩ | ⟨-, hold⟩
        · have hnone := h.idle _ entry hat hidle
          rwa [hidentity] at hnone
        · exact h.waiting other holder hold hunderway
      idle := by
        intro other found hfound hfoundIdle
        rcases entries_setRedirect hfound with ⟨rfl, rfl⟩ | ⟨-, hold⟩
        · cases hfoundIdle
        · exact h.idle other found hold hfoundIdle }

variable (hholder : holders call = some holder)
include hholder

/-- A flow writes the final mark of its navigation, and holds it no longer. -/
theorem drop {entry : NavigationEntry} (hentry : navigation.current holder.identity = some entry)
    {redirect : RedirectMark} (hfinal : redirect ≠ .pending)
    (hidle : redirect = .idle → attempts history holder.identity.generation = 0) :
    Inv parseUrl (navigation.setRedirect holder.identity entry redirect) history
      (Function.update holders call none) := by
  have hidentity := h.identity_of_current (h.known call holder hholder) hentry
  have hsub : ∀ other found, Function.update holders call none other = some found →
      other ≠ call ∧ holders other = some found := by
    intro other found hfound
    rcases update_eq_some hfound with ⟨-, ⟨⟩⟩ | hold
    exact hold
  exact
    { h.toKnown.setRedirect hentry redirect with
      known := fun other found hfound => h.known other found (hsub other found hfound).2
      held := by
        intro other found result hfound hresult
        obtain ⟨hcall, hold⟩ := hsub other found hfound
        have hne : found.identity.generation ≠ holder.identity.generation :=
          fun hsame => hcall (h.apart other call found holder hold hholder hsame)
        rw [NavigationState.current_setRedirect_of_ne hentry _ hne] at hresult
        exact h.held other found result hold hresult
      owned := by
        intro other found hfound hpending
        rcases entries_setRedirect hfound with ⟨rfl, rfl⟩ | ⟨htab, hold⟩
        · exact absurd hpending hfinal
        · obtain ⟨owner, one, hone, hsame⟩ := h.owned other found hold hpending
          have hcall : owner ≠ call := by
            rintro rfl
            obtain rfl := Option.some.inj (hholder.symm.trans hone)
            rw [← h.placed other found hold, hsame] at htab
            exact htab rfl
          exact ⟨owner, one, by rwa [Function.update_of_ne hcall], hsame⟩
      apart := fun first second one another hfirst hsecond =>
        h.apart first second one another (hsub first one hfirst).2 (hsub second another hsecond).2
      waiting := fun other found hfound => h.waiting other found (hsub other found hfound).2
      idle := by
        intro other found hfound hfoundIdle
        rcases entries_setRedirect hfound with ⟨rfl, rfl⟩ | ⟨-, hold⟩
        · rw [hidentity]
          exact hidle hfoundIdle
        · exact h.idle other found hold hfoundIdle }

/-- A flow whose navigation is no longer the newest forgets it. -/
theorem forget (hmark : navigation.mark holder.identity ≠ some .pending) :
    Inv parseUrl navigation history (Function.update holders call none) := by
  have hsub : ∀ other found, Function.update holders call none other = some found →
      holders other = some found := by
    intro other found hfound
    rcases update_eq_some hfound with ⟨-, ⟨⟩⟩ | ⟨-, hold⟩
    exact hold
  exact
    { h.toKnown with
      known := fun other found hfound => h.known other found (hsub other found hfound)
      held := fun other found result hfound => h.held other found result (hsub other found hfound)
      owned := by
        intro other found hfound hpending
        obtain ⟨owner, one, hone, hsame⟩ := h.owned other found hfound hpending
        have hcall : owner ≠ call := by
          rintro rfl
          obtain rfl := Option.some.inj (hholder.symm.trans hone)
          have hcurrent := h.current_of_generation (h.known owner holder hholder) hfound
            (by rw [hsame])
          exact hmark (by simp [mark, hcurrent, hpending])
        exact ⟨owner, one, by rwa [Function.update_of_ne hcall], hsame⟩
      apart := fun first second one another hfirst hsecond =>
        h.apart first second one another (hsub first one hfirst) (hsub second another hsecond)
      waiting := fun other found hfound => h.waiting other found (hsub other found hfound)
      idle := h.idle }

theorem release (hunderway : holder.underway = false) :
    Inv parseUrl (navigation.releaseRedirect holder.identity) history
      (Function.update holders call none) := by
  rcases NavigationState.releaseRedirect_cases with ⟨hsame, hmark⟩ | ⟨entry, hentry, -, hset⟩
  · rw [hsame]
    exact h.forget hholder hmark
  · rw [hset]
    exact h.drop hholder hentry (by simp) fun _ => h.waiting call holder hholder hunderway

theorem shown :
    Inv parseUrl (navigation.markShown holder.identity) history
      (Function.update holders call none) := by
  rcases NavigationState.markShown_cases with ⟨hsame, hmark⟩ | ⟨entry, hentry, -, hset⟩
  · rw [hsame]
    exact h.forget hholder hmark
  · rw [hset]
    exact h.drop hholder hentry (by simp) (by simp)

end

/-- A flow that goes on holds the mark that it held. -/
theorem identity_update {before after : Bool}
    (hholder : holders call = some { identity := identity, underway := before }) (other : Nat) :
    (Function.update holders call
      (some { identity := identity, underway := after }) other).map Holder.identity =
        (holders other).map Holder.identity := by
  by_cases hcall : other = call
  · subst hcall
    simp [hholder]
  · rw [Function.update_of_ne hcall]

theorem redirect (h : Inv parseUrl navigation history holders)
    (hholder : holders call = some { identity := identity, underway := false }) {tabId : Int}
    {host : Text} (hproper : ProperRedirect parseUrl history identity tabId host) :
    Inv parseUrl navigation (.redirect identity tabId host :: history)
      (Function.update holders call (some { identity := identity, underway := true })) := by
  have hknown := h.known call _ hholder
  have hattempts : ∀ generation, generation ≠ identity.generation →
      attempts (.redirect identity tabId host :: history) generation = attempts history generation :=
    fun generation hother => if_neg (Ne.symm hother)
  refine h.goOn (identity_update hholder) (h.toKnown.note ?_ (fun _ => rfl) ?_
    ⟨hproper, h.proper⟩) ?_ ?_
  · intro other hother
    simpa using hother
  · intro generation hlarge
    have hbound := h.bound identity hknown
    rw [hattempts generation (by omega)]
    exact h.fresh generation hlarge
  · intro other holder hother hunderway
    rcases update_eq_some hother with ⟨-, ⟨⟩⟩ | ⟨hcall, hold⟩
    · cases hunderway
    · rw [hattempts _ fun hsame => hcall (h.apart other call holder _ hold hholder hsame)]
      exact h.waiting other holder hold hunderway
  · intro other entry hentry hidle
    have hne : entry.identity.generation ≠ identity.generation := by
      intro hsame
      have hpending := h.held call _ entry hholder (h.current_of_generation hknown hentry hsame)
      rw [hidle] at hpending
      cases hpending
    rw [hattempts _ hne]
    exact h.idle other entry hentry hidle

theorem refuse (h : Inv parseUrl navigation history holders)
    (hholder : holders call = some { identity := identity, underway := true }) :
    Inv parseUrl navigation (.refused identity :: history)
      (Function.update holders call (some { identity := identity, underway := false })) := by
  have hattempts : ∀ generation, attempts history generation = 0 →
      attempts (.refused identity :: history) generation = 0 := by
    intro generation hzero
    rw [attempts]
    split <;> omega
  refine h.goOn (identity_update hholder) (h.toKnown.note ?_ (fun _ => rfl)
    (fun generation hlarge => hattempts generation (h.fresh generation hlarge)) h.proper) ?_ ?_
  · intro other hother
    simpa using hother
  · intro other holder hother hunderway
    rcases update_eq_some hother with ⟨-, ⟨⟩⟩ | ⟨-, hold⟩
    · have hone := h.proper.attempts_le_one identity.generation
      rw [attempts, if_pos rfl]
      exact Nat.sub_eq_zero_of_le hone
    · exact hattempts _ (h.waiting other holder hold hunderway)
  · exact fun other entry hentry hidle => hattempts _ (h.idle other entry hentry hidle)

end Inv

/-! ## One move -/

/-- The mark that a flow holds in a phase. -/
def Phase.holding : Phase → Option Holder
  | .showing flow => some { identity := flow.identity, underway := false }
  | .confirming flow => some { identity := flow.identity, underway := false }
  | .recovering flow _ => some { identity := flow.identity, underway := false }
  | .redirecting flow => some { identity := flow.identity, underway := true }
  | .moving _ entry _ => some { identity := entry.identity, underway := true }
  | _ => none

variable (parseUrl)

/-- The flow is about the navigation that it holds. -/
structure Flow.Sound (flow : Flow) : Prop where
  tabId : flow.identity.tabId = flow.context.tabId
  hostOf : HostOf parseUrl flow.identity.url flow.context.hostname
  asks : flow.requireNativeConfirmation = true

structure TabHost.Sound (history : List Happening) (entry : TabHost) : Prop where
  began : .began entry.identity ∈ history
  tabId : entry.identity.tabId = entry.tabId
  hostOf : HostOf parseUrl entry.identity.url entry.host

/-- The tabs are known, and what the check confirmed is in the history. -/
def Reconciliation.Sound (history : List Happening) (run : Reconciliation)
    (entries : List TabHost) : Prop :=
  ∀ entry ∈ entries, entry.Sound parseUrl history ∧
    (run.blocks entry.host = true → .confirmed entry.identity entry.host ∈ history)

/-- What a call knows about the history. -/
def Phase.Knows (history : List Happening) : Phase → Prop
  | .showing flow => flow.Sound parseUrl
  | .confirming flow => flow.Sound parseUrl
  | .recovering flow blocked =>
      flow.Sound parseUrl ∧
        (blocked = true → .confirmed flow.identity flow.context.hostname ∈ history)
  | .redirecting flow => flow.Sound parseUrl
  | .checking query => ∀ entry ∈ query.tabHosts, entry.Sound parseUrl history
  | .asking run entry rest =>
      run.Sound parseUrl history (entry :: rest) ∧ run.blocks entry.host = true
  | .moving run entry rest => run.Sound parseUrl history (entry :: rest)
  | _ => True

variable {parseUrl} {later : List Happening} {entry : TabHost}

theorem TabHost.Sound.mono (h : entry.Sound parseUrl history) (hsub : history ⊆ later) :
    entry.Sound parseUrl later :=
  { h with began := hsub h.began }

variable {run : Reconciliation} {entries : List TabHost}

theorem Reconciliation.Sound.mono (h : run.Sound parseUrl history entries)
    (hsub : history ⊆ later) :
    run.Sound parseUrl later entries :=
  fun entry hentry => ⟨(h entry hentry).1.mono hsub, fun hblocks => hsub ((h entry hentry).2 hblocks)⟩

theorem Reconciliation.Sound.tail {rest : List TabHost}
    (h : run.Sound parseUrl history (entry :: rest)) : run.Sound parseUrl history rest :=
  fun other hother => h other (List.mem_cons_of_mem _ hother)

/-- Only the version and the results of the check matter. -/
theorem Reconciliation.Sound.congr {other : Reconciliation}
    (h : run.Sound parseUrl history entries) (hresults : other.results = run.results)
    (hversion : other.policyVersion = run.policyVersion) :
    other.Sound parseUrl history entries := by
  intro entry hentry
  rw [Reconciliation.blocks, hresults, hversion]
  exact h entry hentry

variable {phase : Phase}

theorem Phase.Knows.mono (h : phase.Knows parseUrl history) (hsub : history ⊆ later) :
    phase.Knows parseUrl later := by
  cases phase with
  | recovering flow blocked => exact ⟨h.1, fun hblocked => hsub (h.2 hblocked)⟩
  | checking query => exact fun entry hentry => (h entry hentry).mono hsub
  | asking run entry rest => exact ⟨h.1.mono hsub, h.2⟩
  | moving run entry rest => exact Reconciliation.Sound.mono h hsub
  | idle | showing | confirming | redirecting | versioning | querying | reconciled | ended =>
      exact h

variable (parseUrl)

/-- A call may move to a state and a phase. -/
structure Moves (holders : Nat → Option Holder) (call : Nat) (history : List Happening)
    (outcome : Shared × Phase) : Prop where
  inv : Inv parseUrl outcome.1.navigation outcome.1.history
    (Function.update holders call outcome.2.holding)
  knows : outcome.2.Knows parseUrl outcome.1.history
  grows : history ⊆ outcome.1.history

variable {parseUrl} {shared : Shared} {outcome : Shared × Phase}

theorem Moves.shrink (h : Moves parseUrl holders call later outcome) (hsub : history ⊆ later) :
    Moves parseUrl holders call history outcome :=
  { h with grows := fun _ hold => h.grows (hsub hold) }

/-- A call that holds no mark goes on without one. -/
theorem moves_free (h : Inv parseUrl shared.navigation shared.history holders)
    (hfree : holders call = none) (hphase : phase.holding = none)
    (hknows : phase.Knows parseUrl shared.history) :
    Moves parseUrl holders call shared.history (shared, phase) where
  inv := by
    have hsame : Function.update holders call phase.holding = holders := by
      rw [hphase, ← hfree, Function.update_eq_self]
    rw [hsame]
    exact h
  knows := hknows
  grows := List.Subset.refl _

section FlowMoves

variable {flow : Flow} (h : Inv parseUrl shared.navigation shared.history holders)
include h

theorem moves_redirectToBlockedScreenOnce (hfree : holders call = none)
    (hknown : .began flow.identity ∈ shared.history) (hsound : flow.Sound parseUrl) :
    Moves parseUrl holders call shared.history (redirectToBlockedScreenOnce flow shared) := by
  rw [redirectToBlockedScreenOnce]
  split
  · exact moves_free h hfree rfl trivial
  · next navigation hreserve =>
    exact
      { inv := h.reserve hfree hknown hreserve
        knows := hsound
        grows := List.Subset.refl _ }

variable (hholder : holders call = some { identity := flow.identity, underway := false })
include hholder

theorem moves_endFlow : Moves parseUrl holders call shared.history (endFlow flow shared) where
  inv := h.release hholder rfl
  knows := trivial
  grows := List.Subset.refl _

theorem moves_hold {phase : Phase}
    (hphase : phase.holding = some { identity := flow.identity, underway := false })
    (hknows : phase.Knows parseUrl shared.history) :
    Moves parseUrl holders call shared.history (shared, phase) where
  inv := by
    have hsame : Function.update holders call phase.holding = holders := by
      rw [hphase, ← hholder, Function.update_eq_self]
    rw [hsame]
    exact h
  knows := hknows
  grows := List.Subset.refl _

variable (hsound : flow.Sound parseUrl)
include hsound

theorem moves_showBlockedScreen
    (hconfirmed : .confirmed flow.identity flow.context.hostname ∈ shared.history) :
    Moves parseUrl holders call shared.history (showBlockedScreen flow shared) := by
  rw [showBlockedScreen]
  split
  · next hcurrent =>
    have hproper : ProperRedirect parseUrl shared.history flow.identity flow.context.tabId
        flow.context.hostname :=
      { newest := hsound.tabId ▸ h.newest_of_current (h.known call _ hholder) hcurrent
        confirmed := hconfirmed
        hostOf := hsound.hostOf
        once := h.waiting call _ hholder rfl }
    exact
      { inv := h.redirect hholder hproper
        knows := hsound
        grows := List.subset_cons_self _ _ }
  · exact moves_endFlow h hholder

theorem moves_recoverOr (recovers blocked : Bool) {otherwise : Shared → Shared × Phase}
    (hconfirmed : blocked = true →
      .confirmed flow.identity flow.context.hostname ∈ shared.history)
    (hotherwise : Moves parseUrl holders call shared.history (otherwise shared)) :
    Moves parseUrl holders call shared.history
      (recoverOr recovers flow blocked otherwise shared) := by
  rw [recoverOr]
  split
  · exact moves_hold h hholder rfl ⟨hsound, hconfirmed⟩
  · exact hotherwise

theorem moves_afterTabUrl (recovers : Bool) (blockedScreenUrl : Text)
    (answer : Option (Option Text)) :
    Moves parseUrl holders call shared.history
      (afterTabUrl parseUrl recovers blockedScreenUrl flow answer shared) := by
  have hask : Moves parseUrl holders call shared.history
      (afterTabUrl.askOrRecover recovers flow shared) := by
    rw [afterTabUrl.askOrRecover, if_pos hsound.asks]
    exact moves_hold h hholder rfl hsound
  rcases answer with _ | _ | url
  · exact hask
  · exact hask
  · rw [afterTabUrl]
    split
    · exact moves_endFlow h hholder
    · exact hask

theorem moves_afterConfirmation (recovers : Bool) (result : ConfirmationResult) :
    Moves parseUrl holders call shared.history
      (afterConfirmation recovers flow result shared) := by
  have hend : Moves parseUrl holders call shared.history (endFlow flow shared) :=
    moves_endFlow h hholder
  let known := shared.note (.confirmed flow.identity flow.context.hostname)
  have hnote : Inv parseUrl known.navigation known.history holders := h.note rfl
  have hconfirmed : .confirmed flow.identity flow.context.hostname ∈ known.history :=
    List.mem_cons_self
  have hshow : Moves parseUrl holders call known.history (showBlockedScreen flow known) :=
    moves_showBlockedScreen hnote hholder hsound hconfirmed
  rw [afterConfirmation]
  split
  · dsimp only
    split
    · exact (moves_recoverOr hnote hholder hsound recovers true (fun _ => hconfirmed)
        hshow).shrink (List.subset_cons_self _ _)
    · exact hshow.shrink (List.subset_cons_self _ _)
  · split
    · exact moves_recoverOr h hholder hsound recovers false (by simp) hend
    · exact hend

theorem moves_afterRecovery (blocked recovered : Bool)
    (hconfirmed : blocked = true →
      .confirmed flow.identity flow.context.hostname ∈ shared.history) :
    Moves parseUrl holders call shared.history (afterRecovery flow blocked recovered shared) := by
  rw [afterRecovery]
  split
  · next hblocked =>
    rw [Bool.and_eq_true] at hblocked
    exact moves_showBlockedScreen h hholder hsound (hconfirmed hblocked.1)
  · exact moves_endFlow h hholder

end FlowMoves

/-! ## The end of a redirect -/

variable {flow : Flow}

theorem moves_afterRedirect (h : Inv parseUrl shared.navigation shared.history holders)
    (hholder : holders call = some { identity := flow.identity, underway := true })
    (succeeded : Bool) :
    Moves parseUrl holders call shared.history (afterRedirect flow succeeded shared) := by
  rw [afterRedirect]
  split
  · exact
      { inv := by
          have hshown := (h.note rfl : Inv parseUrl shared.navigation
            (.redirected flow.identity :: shared.history) holders).shown hholder
          rwa [← NavigationState.releaseRedirect_markShown] at hshown
        knows := trivial
        grows := List.subset_cons_self _ _ }
  · have hrefused := h.refuse hholder
    have hreleased := hrefused.release (Function.update_self ..) rfl
    exact
      { inv := by rwa [Function.update_idem] at hreleased
        knows := trivial
        grows := List.subset_cons_self _ _ }

/-! ## The starts of the flows -/

theorem buildBlockedScreenContext_sound {details : NavigationDetails}
    {context : ConfirmBlockedScreenContext}
    (hcontext : buildBlockedScreenContext parseUrl details = some context) :
    HostOf parseUrl context.url context.hostname := by
  rw [buildBlockedScreenContext] at hcontext
  split at hcontext
  · cases hcontext
  · next hostname hhostname =>
    obtain ⟨-, hsame⟩ := Option.ite_none_left_eq_some.mp hcontext
    obtain rfl := Option.some.inj hsame
    obtain ⟨parsed, hparsed, rfl⟩ := Option.map_eq_some_iff.mp hhostname
    exact ⟨parsed, hparsed, .inl rfl⟩

section

variable (h : Inv parseUrl shared.navigation shared.history holders) (hfree : holders call = none)
include h hfree

theorem moves_begin {tabId : Int} {url : Text} {source : NavigationSource}
    (hidentity : flow.identity = shared.navigation.beginIdentity tabId url source)
    (hsound : flow.Sound parseUrl) :
    Moves parseUrl holders call shared.history
      (redirectToBlockedScreenOnce flow (shared.begin_ tabId url source)) := by
  have hbegun := h.begin_ tabId url source
  have hknown : .began flow.identity ∈ (shared.begin_ tabId url source).history := by
    rw [hidentity]
    exact List.mem_cons_self
  have hmoves : Moves parseUrl holders call (shared.begin_ tabId url source).history
      (redirectToBlockedScreenOnce flow (shared.begin_ tabId url source)) :=
    moves_redirectToBlockedScreenOnce hbegun hfree hknown hsound
  exact hmoves.shrink (List.subset_cons_self _ _)

theorem moves_handleNativePolicyNavigationPreflight (details : PreflightDetails) :
    Moves parseUrl holders call shared.history
      (handleNativePolicyNavigationPreflight parseUrl details shared) := by
  rw [handleNativePolicyNavigationPreflight]
  split
  · exact moves_free h hfree rfl trivial
  · split
    · have hdisposed : Moves parseUrl holders call (shared.dispose details.tabId).history
          (shared.dispose details.tabId, .ended) :=
        moves_free (h.dispose details.tabId) hfree rfl trivial
      exact hdisposed.shrink (List.subset_cons_self _ _)
    · split
      · exact moves_free h hfree rfl trivial
      · next context hcontext =>
        exact moves_begin h hfree rfl
          { tabId := rfl
            hostOf := buildBlockedScreenContext_sound hcontext
            asks := rfl }

theorem moves_handleBlockedScreenNavigationError (details : NavigationDetails)
    (recordBlockedDomain : Bool) :
    Moves parseUrl holders call shared.history
      (handleBlockedScreenNavigationError parseUrl details recordBlockedDomain shared) := by
  have hstay : Moves parseUrl holders call shared.history (shared, .ended) :=
    moves_free h hfree rfl trivial
  rw [handleBlockedScreenNavigationError]
  split
  · exact hstay
  · split
    · exact hstay
    · next context hcontext =>
      have hhost := buildBlockedScreenContext_sound hcontext
      split
      · dsimp only
        split
        · next existing hexisting =>
          obtain ⟨entry, hentry, rfl⟩ := Option.map_eq_some_iff.mp hexisting
          split
          · exact hstay
          · split
            · next hurl =>
              exact moves_redirectToBlockedScreenOnce h hfree (h.began_entry hentry)
                { tabId := h.placed _ entry hentry
                  hostOf := by rwa [← hurl] at hhost
                  asks := rfl }
            · exact moves_begin h hfree rfl { tabId := rfl, hostOf := hhost, asks := rfl }
        · exact moves_begin h hfree rfl { tabId := rfl, hostOf := hhost, asks := rfl }
      · exact hstay

end

/-! ## The reconciliation -/

theorem extractHttpHost_sound {url host : Text}
    (hhost : extractHttpHost parseUrl (some url) = some host) : HostOf parseUrl url host := by
  rw [extractHttpHost] at hhost
  obtain ⟨-, hhost⟩ := Option.ite_none_left_eq_some.mp hhost
  split at hhost
  · cases hhost
  · next parsed hparsed =>
    obtain ⟨-, hhost⟩ := Option.ite_none_right_eq_some.mp hhost
    obtain ⟨-, hhost⟩ := Option.ite_none_left_eq_some.mp hhost
    exact ⟨parsed, hparsed, .inr (Option.some.inj hhost).symm⟩

/-- Listing the tabs begins navigations and knows them all. -/
theorem listTabs_sound (openTabs : List (Int × Option Text))
    (h : Inv parseUrl shared.navigation shared.history holders) :
    Inv parseUrl (listTabs parseUrl openTabs shared).1.navigation
        (listTabs parseUrl openTabs shared).1.history holders ∧
      (∀ entry ∈ (listTabs parseUrl openTabs shared).2,
        entry.Sound parseUrl (listTabs parseUrl openTabs shared).1.history) ∧
      shared.history ⊆ (listTabs parseUrl openTabs shared).1.history := by
  induction openTabs generalizing shared with
  | nil => exact ⟨h, by simp [listTabs], List.Subset.refl _⟩
  | cons first rest ih =>
      obtain ⟨tabId, url⟩ := first
      unfold listTabs
      split
      · next text host hhost =>
        have hof := extractHttpHost_sound hhost
        split
        · next identity hmatch =>
          obtain ⟨found, hfound, rfl, hurl⟩ := NavigationState.matchUrl_eq_some hmatch
          obtain ⟨hinv, hentries, hgrows⟩ := ih h
          refine ⟨hinv, ?_, hgrows⟩
          intro entry hentry
          rcases List.mem_cons.mp hentry with rfl | hrest
          · exact
              { began := hgrows (h.began_entry hfound)
                tabId := h.placed tabId found hfound
                hostOf := by rwa [← hurl] at hof }
          · exact hentries entry hrest
        · let begun := shared.begin_ tabId text .reconciliation
          have hbegun : Inv parseUrl begun.navigation begun.history holders :=
            h.begin_ tabId text .reconciliation
          obtain ⟨hinv, hentries, hgrows⟩ := ih hbegun
          refine ⟨hinv, ?_, fun _ hold => hgrows (List.mem_cons_of_mem _ hold)⟩
          intro entry hentry
          rcases List.mem_cons.mp hentry with rfl | hrest
          · exact { began := hgrows List.mem_cons_self, tabId := rfl, hostOf := hof }
          · exact hentries entry hrest
      · exact ih h

theorem moves_afterQuery (h : Inv parseUrl shared.navigation shared.history holders)
    (hfree : holders call = none) (policyVersion : Text) :
    Moves parseUrl holders call shared.history (afterQuery parseUrl policyVersion shared) := by
  obtain ⟨hinv, hentries, hgrows⟩ := listTabs_sound shared.queryTabs h
  have hmoves : ∀ phase : Phase, phase.holding = none →
      phase.Knows parseUrl (listTabs parseUrl shared.queryTabs shared).1.history →
      Moves parseUrl holders call shared.history
        ((listTabs parseUrl shared.queryTabs shared).1, phase) :=
    fun phase hphase hknows => (moves_free hinv hfree hphase hknows).shrink hgrows
  unfold afterQuery
  dsimp only
  split
  · exact hmoves _ rfl trivial
  · exact hmoves _ rfl hentries

section ReconciliationMoves

variable {run : Reconciliation} {entry : TabHost} {rest : List TabHost}

section

variable (h : Inv parseUrl shared.navigation shared.history holders) (hfree : holders call = none)
include h hfree

theorem moves_reconcileFrom (hsound : run.Sound parseUrl shared.history rest) :
    Moves parseUrl holders call shared.history (reconcileFrom run rest shared) := by
  induction rest with
  | nil => exact moves_free h hfree rfl trivial
  | cons entry rest ih =>
      rw [reconcileFrom]
      split
      · next hvisit =>
        rw [Bool.and_eq_true] at hvisit
        exact moves_free h hfree rfl ⟨hsound, hvisit.1⟩
      · exact ih hsound.tail

theorem moves_afterCheck {query : Query}
    (hentries : ∀ entry ∈ query.tabHosts, entry.Sound parseUrl shared.history)
    (response : VerifyResponse) :
    Moves parseUrl holders call shared.history (afterCheck query response shared) := by
  rw [afterCheck]
  split
  · let run : Reconciliation :=
      { query with results := response.results, failed := [], occupied := [] }
    have hneutral : ∀ happening ∈ run.confirmations, Happening.neutral happening = true := by
      intro happening hhappening
      obtain ⟨entry, -, rfl⟩ := List.mem_map.mp hhappening
      rfl
    have hgrows : shared.history ⊆ run.confirmations ++ shared.history :=
      List.subset_append_right _ _
    have hsound : run.Sound parseUrl (run.confirmations ++ shared.history) query.tabHosts := by
      intro entry hentry
      refine ⟨(hentries entry hentry).mono hgrows, fun hblocks => List.mem_append_left _ ?_⟩
      exact List.mem_map.mpr ⟨entry, List.mem_filter.mpr ⟨hentry, hblocks⟩, rfl⟩
    let known := shared.noteAll run.confirmations
    have hnoted : Inv parseUrl known.navigation known.history holders := h.noteAll hneutral
    have hmoves : Moves parseUrl holders call known.history
        (reconcileFrom run query.tabHosts known) :=
      moves_reconcileFrom hnoted hfree hsound
    exact hmoves.shrink hgrows
  · exact moves_free h hfree rfl trivial

end

theorem release_of_not_pending (hmark : shared.navigation.mark identity ≠ some .pending) :
    shared.release identity = shared := by
  rw [Shared.release, NavigationState.releaseRedirect_of_not_pending hmark]

/-- A call that gave up its mark goes on. -/
theorem Moves.afterUpdate {value : Option Holder}
    (h : Moves parseUrl (Function.update holders call value) call history outcome) :
    Moves parseUrl holders call history outcome where
  inv := by
    have hinv := h.inv
    rwa [Function.update_idem] at hinv
  knows := h.knows
  grows := h.grows

/-- The URL of the tab is known, or could not be read while no other flow held the mark. -/
theorem moves_afterCurrentTabUrl (h : Inv parseUrl shared.navigation shared.history holders)
    (hfree : holders call = none) (hsound : run.Sound parseUrl shared.history (entry :: rest))
    (hblocks : run.blocks entry.host = true) (answer : Option (Option Text))
    (hundisturbed : answer = none →
      shared.navigation.mark entry.identity ≠ some .pending) :
    Moves parseUrl holders call shared.history
      (afterCurrentTabUrl run entry rest answer shared) := by
  obtain ⟨hentry, hconfirmed⟩ := hsound entry List.mem_cons_self
  cases answer with
  | none =>
      rw [afterCurrentTabUrl, skipTab, release_of_not_pending (hundisturbed rfl)]
      exact moves_reconcileFrom h hfree (hsound.tail.congr rfl rfl)
  | some currentUrl =>
      rw [afterCurrentTabUrl]
      split
      · exact moves_reconcileFrom h hfree hsound.tail
      · next hshows =>
        split
        · exact moves_reconcileFrom h hfree (hsound.tail.congr rfl rfl)
        · next navigation hreserve =>
          have hcurrent : shared.navigation.isCurrent entry.identity = true := by
            simpa using (not_or.mp hshows).2
          have hreserved := h.reserve hfree hentry.began hreserve
          have hproper : ProperRedirect parseUrl shared.history entry.identity entry.tabId
              entry.host :=
            { newest := hentry.tabId ▸ h.newest_of_current hentry.began hcurrent
              confirmed := hconfirmed hblocks
              hostOf := hentry.hostOf
              once := hreserved.waiting call _ (Function.update_self ..) rfl }
          have hredirect := hreserved.redirect (Function.update_self ..) hproper
          rw [Function.update_idem] at hredirect
          exact
            { inv := hredirect
              knows := hsound.mono (List.subset_cons_self _ _)
              grows := List.subset_cons_self _ _ }

theorem moves_afterMove (h : Inv parseUrl shared.navigation shared.history holders)
    (hholder : holders call = some { identity := entry.identity, underway := true })
    (hsound : run.Sound parseUrl shared.history (entry :: rest)) (succeeded : Bool) :
    Moves parseUrl holders call shared.history
      (afterMove run entry rest succeeded shared) := by
  have hfree : Function.update holders call none call = none := Function.update_self ..
  rw [afterMove]
  split
  · let final := (shared.note (.redirected entry.identity)).shown entry.identity
    have hnoted : Inv parseUrl shared.navigation (.redirected entry.identity :: shared.history)
        holders := h.note rfl
    have hfinal : Inv parseUrl final.navigation final.history
        (Function.update holders call none) := hnoted.shown hholder
    have hmoves : Moves parseUrl (Function.update holders call none) call final.history
        (reconcileFrom run rest final) :=
      moves_reconcileFrom hfinal hfree (hsound.tail.mono (List.subset_cons_self _ _))
    exact hmoves.afterUpdate.shrink (List.subset_cons_self _ _)
  · let final := (shared.note (.refused entry.identity)).release entry.identity
    have hreleased := (h.refuse hholder).release (Function.update_self ..) rfl
    rw [Function.update_idem] at hreleased
    have hfinal : Inv parseUrl final.navigation final.history
        (Function.update holders call none) := hreleased
    let skipped : Reconciliation := { run with failed := entry.identity :: run.failed }
    have hskipped : skipped.Sound parseUrl final.history rest :=
      (hsound.tail.mono (List.subset_cons_self _ _)).congr rfl rfl
    have hmoves : Moves parseUrl (Function.update holders call none) call final.history
        (reconcileFrom skipped rest final) :=
      moves_reconcileFrom hfinal hfree hskipped
    exact hmoves.afterUpdate.shrink (List.subset_cons_self _ _)

end ReconciliationMoves

/-! ## Runs -/

/-- The reconciliation does not fail to read the URL of a tab while a flow holds the
mark of its navigation. -/
def undisturbed (state : Interleaved Shared Phase) (label : Nat × Label) : Bool :=
  match state.phase label.1, label.2 with
  | .asking _ entry _, .tabUrl answered =>
      (state.shared.tabUrl answered entry.tabId).isSome ||
        state.shared.navigation.mark entry.identity != some .pending
  | _, _ => true

def Undisturbed (state : Interleaved Shared Phase) (label : Nat × Label) : Prop :=
  undisturbed state label = true

variable (parseUrl)

/-- The invariant of runs. -/
structure Sound (state : Interleaved Shared Phase) : Prop where
  inv : Inv parseUrl state.shared.navigation state.shared.history
    fun call => (state.phase call).holding
  knows : ∀ call, (state.phase call).Knows parseUrl state.shared.history

variable {parseUrl} {state : Interleaved Shared Phase}

theorem sound_initial (hinit : Initial state.shared) (hidle : ∀ call, state.phase call = .idle) :
    Sound parseUrl state := by
  obtain ⟨hnavigation, -, hhistory, -⟩ := hinit
  refine ⟨?_, fun call => by simp [hidle call, Phase.Knows]⟩
  rw [hnavigation, hhistory]
  exact
    { placed := by simp [createNavigationState]
      newest := fun _ => rfl
      bound := by simp
      unique := by simp
      fresh := fun _ _ => rfl
      proper := trivial
      known := by simp [hidle, Phase.holding]
      held := by simp [hidle, Phase.holding]
      owned := by simp [createNavigationState]
      apart := by simp [hidle, Phase.holding]
      waiting := by simp [hidle, Phase.holding]
      idle := by simp [createNavigationState] }

/-- What every move of a call keeps. -/
theorem Sound.after (h : Sound parseUrl state) {call : Nat} {outcome : Shared × Phase}
    (hmoves : Moves parseUrl (fun call => (state.phase call).holding) call state.shared.history
      outcome) : Sound parseUrl (state.after call outcome) where
  inv := by
    have hholders : (fun other => ((state.after call outcome).phase other).holding) =
        Function.update (fun other => (state.phase other).holding) call outcome.2.holding := by
      funext other
      by_cases hother : other = call
      · subst hother
        simp [Interleaved.after]
      · simp [Interleaved.after, Function.update_of_ne hother]
    rw [hholders]
    exact hmoves.inv
  knows other := by
    by_cases hother : other = call
    · subst hother
      simpa [Interleaved.after] using hmoves.knows
    · simpa [Interleaved.after, Function.update_of_ne hother] using
        (h.knows other).mono hmoves.grows

variable {recovers : Bool} {blockedScreenUrl : Text}

/-- Every move that does not disturb another flow is sound. -/
theorem moves_move {label : Label} (h : Inv parseUrl shared.navigation shared.history holders)
    (hholding : holders call = phase.holding) (hknows : phase.Knows parseUrl shared.history)
    (hundisturbed : ∀ run entry rest answered, phase = .asking run entry rest →
      label = .tabUrl answered → shared.tabUrl answered entry.tabId = none →
        shared.navigation.mark entry.identity ≠ some .pending)
    (hmove : move parseUrl recovers blockedScreenUrl label (shared, phase) = some outcome) :
    Moves parseUrl holders call shared.history outcome := by
  have hvisit : ∀ (seen : Shared) (happening : Happening), seen.navigation = shared.navigation →
      seen.history = happening :: shared.history → Happening.neutral happening = true →
      phase = .idle → Moves parseUrl holders call shared.history (seen, .ended) := by
    intro seen happening hnavigation hhistory hneutral hidle
    have hseen : Inv parseUrl seen.navigation seen.history holders := by
      rw [hnavigation, hhistory]
      exact h.note hneutral
    have hmoves : Moves parseUrl holders call seen.history (seen, .ended) :=
      moves_free hseen (by rw [hholding, hidle]; rfl) rfl trivial
    rw [hhistory] at hmoves
    exact hmoves.shrink (List.subset_cons_self _ _)
  unfold move at hmove
  split at hmove
  all_goals try (rename_i heq; cases heq)
  all_goals cases hmove
  · exact hvisit _ _ rfl rfl rfl rfl
  · exact hvisit _ _ rfl rfl rfl rfl
  · next tabId =>
    have hmoves : Moves parseUrl holders call (shared.dispose tabId).history
        (shared.dispose tabId, .ended) := moves_free (h.dispose tabId) hholding rfl trivial
    exact hmoves.shrink (List.subset_cons_self _ _)
  · next details => exact moves_handleNativePolicyNavigationPreflight h hholding details
  · next details recordBlockedDomain =>
    exact moves_handleBlockedScreenNavigationError h hholding details recordBlockedDomain
  · exact moves_free h hholding rfl trivial
  · next answered flow =>
    exact moves_afterTabUrl h hholding hknows recovers blockedScreenUrl
      (shared.tabUrl answered flow.context.tabId)
  · next result flow => exact moves_afterConfirmation h hholding hknows recovers result
  · exact moves_endFlow h hholding
  · next recovered flow blocked =>
    exact moves_afterRecovery h hholding hknows.1 blocked recovered hknows.2
  · exact moves_endFlow h hholding
  · next succeeded flow => exact moves_afterRedirect h hholding succeeded
  · next response force =>
    rw [afterVersion]
    split
    · dsimp only
      split
      · exact moves_free h hholding rfl trivial
      · exact moves_free h hholding rfl trivial
    · exact moves_free h hholding rfl trivial
  · exact moves_free h hholding rfl trivial
  · next policyVersion => exact moves_afterQuery h hholding policyVersion
  · exact moves_free h hholding rfl trivial
  · next response query => exact moves_afterCheck h hholding hknows response
  · exact moves_free h hholding rfl trivial
  · next answered run entry rest =>
    exact moves_afterCurrentTabUrl h hholding hknows.1 hknows.2
      (shared.tabUrl answered entry.tabId) (hundisturbed run entry rest answered rfl rfl)
  · next succeeded run entry rest => exact moves_afterMove h hholding hknows succeeded
  · next run =>
    have hrecorded : Inv parseUrl (record run shared).1.navigation (record run shared).1.history
        holders := h
    exact moves_free hrecorded hholding rfl trivial

theorem sound_of_undisturbed
    (hreach : (system parseUrl recovers blockedScreenUrl).ReachableBy Undisturbed state) :
    Sound parseUrl state := by
  induction hreach with
  | start hstart => exact sound_initial hstart.1 hstart.2
  | @step source target label _ hmeets hstep ih =>
      obtain ⟨outcome, hmove, rfl⟩ := hstep
      refine ih.after (moves_move ih.inv rfl (ih.knows label.1) ?_ hmove)
      intro run entry rest answered hphase hlabel hnone
      rw [Undisturbed, undisturbed, hphase, hlabel] at hmeets
      simpa [hnone] using hmeets

/-- In runs without a disturbance every redirect is proper, and every pending mark is
held by a flow in progress. -/
theorem proper_and_held_of_undisturbed {recovers : Bool} {blockedScreenUrl : Text}
    {state : Interleaved Shared Phase}
    (hreach : (system parseUrl recovers blockedScreenUrl).ReachableBy Undisturbed state) :
    Proper parseUrl state.shared.history ∧
      ∀ tabId entry, state.shared.navigation.entries tabId = some entry →
        entry.redirect = .pending → ∃ call holder,
          (state.phase call).holding = some holder ∧ holder.identity = entry.identity := by
  have hsound := sound_of_undisturbed hreach
  exact ⟨hsound.inv.proper, hsound.inv.owned⟩

/-! ## Runs on an example -/

def blockedUrl : Text := "https://blocked.test/page".toList

/-- The parts of the one URL that the examples use. -/
def samplePartsOf (url : Text) : Option ParsedUrl :=
  if url = blockedUrl then
    some
      { protocol := "https:".toList
        origin := "https://blocked.test".toList
        hostname := "blocked.test".toList
        pathname := "/page".toList
        searchParams := [] }
  else none

def sampleStart : Interleaved Shared Phase where
  shared :=
    { navigation := createNavigationState
      version := []
      tabs := []
      urls := fun _ => none
      history := []
      recorded := [] }
  phase _ := .idle

theorem reachable_sampleStart (condition : Interleaved Shared Phase → Nat × Label → Prop) :
    (system samplePartsOf false []).ReachableBy condition sampleStart :=
  .start ⟨⟨rfl, rfl, rfl, rfl⟩, fun _ => rfl⟩

/-- A tab goes to a blocked page, and the preflight redirects it. -/
def preflighted : List (Nat × Label) :=
  [(0, .visit 1 (some blockedUrl)),
    (1, .preflight { frameId := 0, tabId := 1, url := blockedUrl }),
    (1, .tabUrl true),
    (1, .confirmation (some (.flag true)))]

/-- The check of a reconciliation that finds the page blocked. -/
def blockedCheck (version : Text) : VerifyResponse where
  success := true
  results :=
    [{ domain := "blocked.test".toList
       verdict :=
        { error := none
          policyActive := some (.bool true)
          policyDecision := some (.string "blocked".toList)
          policyReason := some (.string "default-deny".toList)
          policyVersion := some (.string version) } }]

/-- A reconciliation that gets as far as the URL of the tab. -/
def reconciling (version : Text) : List (Nat × Label) :=
  [(2, .refresh true), (2, .policyVersion (some { success := true, version := some version })),
    (2, .tabs true), (2, .check (some (blockedCheck version)))]

/-- The error of the page that the preflight redirects. -/
def timedOut : NavigationDetails where
  documentUrl := none
  error := "NS_ERROR_NET_TIMEOUT".toList
  frameId := none
  originUrl := none
  tabId := 1
  type := some "main_frame".toList
  url := blockedUrl

/-- The preflight redirects the tab, and its mark stays when a reconciliation cannot read
the URL of the tab. -/
theorem proper_preflighted : ∃ state : Interleaved Shared Phase,
    state.shared.navigation.entries 1 =
        some ⟨⟨1, .preflight, 1, blockedUrl⟩, .shown⟩ ∧
      Proper samplePartsOf state.shared.history := by
  obtain ⟨state, hrun, hshown⟩ : ∃ state,
      TransitionSystem.runBy undisturbed (Interleaved.stepOf (move samplePartsOf false []))
        sampleStart (preflighted ++ [(1, .redirected true)] ++ reconciling "v1".toList ++
          [(2, .tabUrl false)]) = some state ∧
      state.shared.navigation.entries 1 = some ⟨⟨1, .preflight, 1, blockedUrl⟩, .shown⟩ :=
    ⟨_, rfl, rfl⟩
  have hreach := Interleaved.reachableBy_runBy _ (reachable_sampleStart _) hrun
  exact ⟨state, hshown, (proper_and_held_of_undisturbed hreach).1⟩

/-- The reconciliation cannot read the URL of the tab and releases the mark that the
preflight holds, and the error of the page redirects the tab once more. -/
theorem redirected_twice : ∃ state,
    (system samplePartsOf false []).Reachable state ∧
      attempts state.shared.history 1 = 2 ∧ ¬ Proper samplePartsOf state.shared.history := by
  obtain ⟨state, hrun, hattempts⟩ : ∃ state,
      TransitionSystem.runBy (fun _ _ => true) (Interleaved.stepOf (move samplePartsOf false []))
        sampleStart
        (preflighted ++ reconciling "v1".toList ++
          [(2, .tabUrl false), (3, .navigationError timedOut true), (3, .tabUrl true),
            (3, .confirmation (some (.flag true)))]) = some state ∧
      attempts state.shared.history 1 = 2 := ⟨_, rfl, rfl⟩
  have hreach := Interleaved.reachableBy_runBy _ (reachable_sampleStart _) hrun
  refine ⟨state, hreach.reachable, hattempts, fun hproper => ?_⟩
  have hone := hproper.attempts_le_one 1
  omega

end OpenPath.Extension.BlockedScreen
