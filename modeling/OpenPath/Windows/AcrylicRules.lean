/-
# The rules in the hosts file of the DNS proxy

`New-AcrylicHostsDefinition` writes its lines as texts. Here they are rules: a name that
is refused with everything under it, a forward rule or an address, or a comment. The
texts of the definition are those of the rules, blank lines aside.

The rules for the essential domains come first and depend on the configured addresses
alone. There is one pair for each always-allowed domain, without an exclusion, and no
refusal among them.
-/

import OpenPath.Windows.AcrylicDefinition

namespace OpenPath.Windows.Acrylic

open DotNet
open Foundation (Re)

/-! ## Rules -/

/-- What a line of the definition says. -/
inductive DefinitionRule
  | comment (text : Text)
  | refuse (name : Text)
  | hosts (line : HostsLine)
  deriving DecidableEq

def DefinitionRule.render : DefinitionRule → Text
  | .comment text => text
  | .refuse name => "NX >".toList ++ name
  | .hosts line => line.render

/-- A name in either case, in which `*` stands for any text. -/
def namePattern (name : Text) : Re Char :=
  .sequence (name.map fun c =>
    if c = '*' then anyText else .sat fun d => d.toUpper == c.toUpper)

/-- What `>` makes of a name: the name with everything under it. -/
def refusedPattern (name : Text) : Re Char :=
  .cat (.opt (.cat anyText (.lit '.'))) (namePattern name)

/-- Some line refuses the name. -/
def Refuses (rules : List DefinitionRule) (host : Text) : Prop :=
  ∃ name, .refuse name ∈ rules ∧ host ∈ (refusedPattern name).lang

def hostsLines (rules : List DefinitionRule) : List HostsLine :=
  rules.filterMap fun rule =>
    match rule with
    | .hosts line => some line
    | _ => none

@[simp]
theorem mem_hostsLines {rules : List DefinitionRule} {line : HostsLine} :
    line ∈ hostsLines rules ↔ .hosts line ∈ rules := by
  rw [hostsLines, List.mem_filterMap]
  constructor
  · rintro ⟨rule, hrule, hline⟩
    cases rule with
    | comment text => cases hline
    | refuse name => cases hline
    | hosts other => rwa [← Option.some.inj hline]
  · exact fun hline => ⟨.hosts line, hline, rfl⟩

section Patterns

variable {host name : Text}

theorem namePattern_of_plain (hplain : '*' ∉ name) : namePattern name = ignoringCase name := by
  rw [namePattern, ignoringCase]
  congr 1
  refine List.map_congr_left fun c hc => if_neg ?_
  rintro rfl
  exact hplain hc

/-- A name without a wildcard refuses itself and what lies under it. -/
theorem mem_refusedPattern (hplain : '*' ∉ name) (hline : '\n' ∉ host) :
    host ∈ (refusedPattern name).lang ↔ Under name host := by
  have hblocked := @mem_blockedPattern host [name] hline
  simp only [List.mem_singleton, exists_eq_left] at hblocked
  rw [← hblocked, refusedPattern, namePattern_of_plain hplain, blockedPattern,
    Re.mem_lang_cat_opt, Re.mem_lang_cat_opt, Re.mem_lang_cat, Re.mem_lang_cat]
  simp [Re.mem_lang_oneOf]

end Patterns

theorem coversHost_iff_under {set : List Text} {host : Text} :
    Overlay.coversHost set host = true ↔ ∃ name ∈ set, Under name host := by
  simp only [Overlay.coversHost, containsIgnoreCase, equalsIgnoreCase, endsWithIgnoreCase,
    Bool.or_eq_true, List.any_eq_true, beq_iff_eq, List.isSuffixOf_iff_suffix, Under,
    ← exists_or, ← and_or_left]

/-! ## The rules of the definition -/

def forwardRules (domains blockedSubdomains : List Text) : List DefinitionRule :=
  domains.flatMap fun domain =>
    (getAcrylicForwardRules domain blockedSubdomains).map .hosts

/-- One group of essential domains, after the rules and the domains of the groups before. -/
def addGroupRules (state : List DefinitionRule × List Text) (group : String × List Text) :
    List DefinitionRule × List Text :=
  let seen := group.2.foldl (addNormalized normalizeAlwaysAllowedDomain) state.2
  let groupRules := forwardRules (seen.drop state.2.length) []
  if groupRules = [] then (state.1, seen)
  else
    (state.1 ++ (if state.1 = [] then [] else [.comment []]) ++
      .comment group.1.toList :: groupRules, seen)

def essentialRules (configHosts : List Text) : List DefinitionRule :=
  ((alwaysAllowedDomainGroups configHosts).foldl addGroupRules ([], [])).1

def refusals (blockedSubdomains : List Text) : List DefinitionRule :=
  ((blockedSubdomains.map trim).filter (· ≠ [])).map .refuse

def exactRules (domains : List Text) : List DefinitionRule :=
  ((domains.map trim).filter (· ≠ [])).map fun domain => .hosts (.forward (.host domain))

/-- The rules of `New-AcrylicHostsDefinition`. -/
def definitionRules (machine : Machine) (domains dependencies blockedSubdomains : List Text) :
    List DefinitionRule :=
  essentialRules machine.configHosts ++ refusals blockedSubdomains ++
    forwardRules domains blockedSubdomains ++ exactRules dependencies ++
    forwardRules (captivePortalNames machine.captivePortalDomains) blockedSubdomains

/-! ## The texts of the rules -/

theorem map_render_forwardRules (domains blockedSubdomains : List Text) :
    (forwardRules domains blockedSubdomains).map DefinitionRule.render =
      forwardLines domains blockedSubdomains := by
  simp only [forwardRules, forwardLines, List.map_flatMap, List.map_map]
  rfl

theorem map_render_refusals (blockedSubdomains : List Text) :
    (refusals blockedSubdomains).map DefinitionRule.render = blockedLines blockedSubdomains := by
  rw [refusals, blockedLines, List.map_map]
  rfl

theorem map_render_exactRules (domains : List Text) :
    (exactRules domains).map DefinitionRule.render = exactLines domains := by
  rw [exactRules, exactLines, List.map_map]
  rfl

theorem addGroup_render (state : List DefinitionRule × List Text)
    (group : String × List Text) :
    addGroup (state.1.map DefinitionRule.render, state.2) group =
      ((addGroupRules state group).1.map DefinitionRule.render, (addGroupRules state group).2) := by
  simp only [addGroup, addGroupRules, ← map_render_forwardRules, List.map_eq_nil_iff]
  split
  · rfl
  · by_cases hstate : state.1 = []
    · simp [hstate, DefinitionRule.render]
    · simp [hstate, DefinitionRule.render]

theorem map_render_essentialRules (configHosts : List Text) :
    (essentialRules configHosts).map DefinitionRule.render = essentialLines configHosts := by
  have hgroups : ∀ (groups : List (String × List Text))
      (state : List DefinitionRule × List Text),
      groups.foldl addGroup (state.1.map DefinitionRule.render, state.2) =
        ((groups.foldl addGroupRules state).1.map DefinitionRule.render,
          (groups.foldl addGroupRules state).2) := by
    intro groups
    induction groups with
    | nil => exact fun _ => rfl
    | cons group groups ih =>
        intro state
        rw [List.foldl_cons, List.foldl_cons, addGroup_render, ih]
  have hall := hgroups (alwaysAllowedDomainGroups configHosts) ([], [])
  rw [List.map_nil] at hall
  rw [essentialRules, essentialLines, hall]

/-- A section that is left out without lines has the same lines. -/
theorem lines_of_optional_section (title : Text) (description : String) (lines : List Text) :
    ((if lines = [] then []
      else [newAcrylicHostsSection title description lines]).flatMap HostsSection.lines) =
        lines.filter (!isBlank ·) := by
  by_cases hlines : lines = []
  · simp [hlines]
  · simp [hlines, newAcrylicHostsSection]

/-- The lines of the sections are the rules, rendered, but for blank lines. -/
theorem lines_hostsSections (machine : Machine)
    (domains dependencies blockedSubdomains : List Text) :
    (hostsSections machine domains dependencies blockedSubdomains).flatMap HostsSection.lines =
      ((definitionRules machine domains dependencies blockedSubdomains).map
        DefinitionRule.render).filter (!isBlank ·) := by
  have hsection : ∀ (title : Text) (description : String) (lines : List Text),
      [newAcrylicHostsSection title description lines].flatMap HostsSection.lines =
        lines.filter (!isBlank ·) := fun _ _ _ => List.flatMap_singleton _ _
  rw [hostsSections, extraSections, definitionRules]
  simp only [List.flatMap_append, hsection, lines_of_optional_section, List.map_append,
    List.filter_append, map_render_essentialRules, map_render_refusals, map_render_forwardRules,
    map_render_exactRules, List.append_assoc]

/-! ## The essential rules -/

/-- The rules are those of the domains, and refuse nothing. -/
structure RulesOf (rules : List DefinitionRule) (domains : List Text) : Prop where
  hosts : ∀ line, .hosts line ∈ rules ↔
    ∃ domain ∈ domains, line ∈ getAcrylicForwardRules domain []
  not_refuse : ∀ name, .refuse name ∉ rules

theorem hosts_mem_forwardRules {domains blockedSubdomains : List Text} {line : HostsLine} :
    .hosts line ∈ forwardRules domains blockedSubdomains ↔
      ∃ domain ∈ domains, line ∈ getAcrylicForwardRules domain blockedSubdomains := by
  simp [forwardRules]

theorem refuse_not_mem_forwardRules (domains blockedSubdomains : List Text) (name : Text) :
    .refuse name ∉ forwardRules domains blockedSubdomains := by
  simp [forwardRules]

theorem isPrefix_foldl_addNormalized (normalize : Text → Option Text) (added domains : List Text) :
    domains <+: added.foldl (addNormalized normalize) domains := by
  induction added generalizing domains with
  | nil => exact List.prefix_rfl
  | cons domain added ih =>
      refine List.IsPrefix.trans ?_ (ih _)
      unfold addNormalized
      split
      · unfold addDistinct
        split
        · exact List.prefix_rfl
        · exact List.prefix_append _ _
      · exact List.prefix_rfl

theorem rulesOf_addGroupRules {state : List DefinitionRule × List Text}
    (h : RulesOf state.1 state.2) (group : String × List Text) :
    RulesOf (addGroupRules state group).1 (addGroupRules state group).2 := by
  obtain ⟨added, hadded⟩ :=
    isPrefix_foldl_addNormalized normalizeAlwaysAllowedDomain group.2 state.2
  have hsecond : (addGroupRules state group).2 = state.2 ++ added := by
    rw [hadded, addGroupRules]
    exact (apply_ite Prod.snd _ _ _).trans (ite_self _)
  have hmem : ∀ rule, (∀ text, rule ≠ .comment text) →
      (rule ∈ (addGroupRules state group).1 ↔ rule ∈ state.1 ∨ rule ∈ forwardRules added []) := by
    intro rule hcomment
    rw [addGroupRules, ← hadded, List.drop_left]
    by_cases hnone : forwardRules added [] = []
    · simp [hnone]
    · by_cases hstate : state.1 = []
      · simp [hnone, hstate, hcomment]
      · simp [hnone, hstate, hcomment]
  refine ⟨fun line => ?_, fun name => ?_⟩
  · rw [hmem _ (by simp), hsecond, h.hosts, hosts_mem_forwardRules]
    simp only [List.mem_append, or_and_right, exists_or]
  · rw [hmem _ (by simp), not_or]
    exact ⟨h.not_refuse name, refuse_not_mem_forwardRules _ _ _⟩

theorem snd_foldl_addGroupRules (groups : List (String × List Text))
    (state : List DefinitionRule × List Text) :
    (groups.foldl addGroupRules state).2 =
      (groups.flatMap Prod.snd).foldl (addNormalized normalizeAlwaysAllowedDomain) state.2 := by
  induction groups generalizing state with
  | nil => rfl
  | cons group groups ih =>
      rw [List.foldl_cons, ih, List.flatMap_cons, List.foldl_append, addGroupRules]
      congr 1
      exact (apply_ite Prod.snd _ _ _).trans (ite_self _)

/-- The essential rules are the forward rules of the always-allowed domains. -/
theorem rulesOf_essentialRules (configHosts : List Text) :
    RulesOf (essentialRules configHosts) (getAlwaysAllowedDomains configHosts) := by
  have hgroups : ∀ (groups : List (String × List Text))
      (state : List DefinitionRule × List Text), RulesOf state.1 state.2 →
      RulesOf (groups.foldl addGroupRules state).1 (groups.foldl addGroupRules state).2 := by
    intro groups
    induction groups with
    | nil => exact fun _ h => h
    | cons group groups ih => exact fun _ h => ih _ (rulesOf_addGroupRules h group)
  have hsecond : ((alwaysAllowedDomainGroups configHosts).foldl addGroupRules ([], [])).2 =
      getAlwaysAllowedDomains configHosts := by
    rw [snd_foldl_addGroupRules, getAlwaysAllowedDomains]
    congr 1
    simp [alwaysAllowedDomainGroups]
  rw [essentialRules, ← hsecond]
  exact hgroups _ ([], []) ⟨by simp, by simp⟩

end OpenPath.Windows.Acrylic
