/-
# Blocked subdomains and runtime dependencies on both agents

A rule of the policy may name a domain or, behind a wildcard, the domains under it.
Either form is meant to keep dependencies at or under the domain out of the overlay of
both agents and out of the names that they forward. The agents read only the first
form.
-/

import OpenPath.Linux.DependencyBlocks
import OpenPath.Windows.DependencyBlocks

namespace OpenPath.Policy

open RuntimeDependency

section Blocks

variable (whitelist rules : List Text)

/-- What the agents make of a rule that the validator admits. -/
theorem rules_as_read {rule : Text} (hrule : Admitted rule) :
    ("*.".toList <+: rule →
        Linux.Overlay.splitHosts rule = [] ∧ Windows.Overlay.normalizeText rule = []) ∧
      (¬ "*.".toList <+: rule → ¬ ".local".toList <:+ ruleDomain rule →
        Linux.Overlay.splitHosts rule = [ruleDomain rule] ∧
          Windows.Overlay.normalizeText rule = ruleDomain rule) :=
  ⟨fun hwild => ⟨Linux.Overlay.splitHosts_of_wildcard hrule hwild,
      Windows.Overlay.normalizeText_of_wildcard hrule hwild⟩,
    fun hplain hlocal => ⟨Linux.Overlay.splitHosts_of_plain hrule hplain hlocal,
      Windows.Overlay.normalizeText_of_plain hrule hplain hlocal⟩⟩

/-- On each agent the blocks win over a pass if and only if each dependency that it
would let in otherwise, and that a rule blocks, is refused for a name that the agent
reads from a rule. A rule is read as its domain, and not at all behind a wildcard. -/
theorem blocks_win_iff (linuxProtected windowsProtected : List Text) (ttlDays capacity now : Int)
    (lines : List (Option Json)) (linuxFile : Option Linux.Overlay.OverlayDocument)
    (requests : List JsonObject) (windowsFile : Option Windows.Overlay.OverlayDocument) :
    (Linux.Overlay.BlocksWin (Linux.Overlay.policyArguments whitelist linuxProtected rules) rules
          ttlDays capacity now lines linuxFile ↔
        Linux.Overlay.RespectsRules (Linux.Overlay.policyArguments whitelist linuxProtected rules)
          rules
          (Linux.Overlay.overlayObjects now linuxFile ++ Linux.Overlay.requestObjects lines)) ∧
      (Windows.Overlay.BlocksWin (Windows.Overlay.policyContext whitelist windowsProtected rules)
          rules capacity ttlDays now requests windowsFile ↔
        Windows.Overlay.RespectsRules
          (Windows.Overlay.policyContext whitelist windowsProtected rules) rules now requests
          windowsFile) ∧
      ∀ rule ∈ rules, Admitted rule →
        ("*.".toList <+: rule →
            Linux.Overlay.splitHosts rule = [] ∧ Windows.Overlay.normalizeText rule = []) ∧
          (¬ "*.".toList <+: rule → ¬ ".local".toList <:+ ruleDomain rule →
            Linux.Overlay.splitHosts rule = [ruleDomain rule] ∧
              Windows.Overlay.normalizeText rule = ruleDomain rule) :=
  ⟨Linux.Overlay.blocksWin_iff ttlDays capacity now lines linuxFile,
    Windows.Overlay.blocksWin_iff capacity ttlDays now requests windowsFile,
    fun _ _ hrule => rules_as_read hrule⟩

end Blocks

/-- A page of `s.io` that loads a script from `a.x.io`. -/
def scriptRequest : JsonObject :=
  [("anchorHost".toList, .string "s.io".toList),
   ("dependencyHost".toList, .string "a.x.io".toList),
   ("requestType".toList, .string "script".toList)]

/-- With the rule `*.x.io` both agents let the script in. -/
theorem wildcard_rule_not_respected :
    Admitted "*.x.io".toList ∧
      ¬ Linux.Overlay.BlocksWin
        (Linux.Overlay.policyArguments ["s.io".toList] [] ["*.x.io".toList])
        ["*.x.io".toList] 7 300 0 [some (.object scriptRequest)] none ∧
      ¬ Windows.Overlay.BlocksWin
        (Windows.Overlay.policyContext ["s.io".toList] [] ["*.x.io".toList])
        ["*.x.io".toList] 300 7 0 [scriptRequest] none := by
  have hrule : Admitted "*.x.io".toList := by decide
  refine ⟨hrule, fun hwin => ?_, fun hwin => ?_⟩
  · refine hwin.accepted ("s.io".toList, "a.x.io".toList) (by decide +kernel) ?_
    exact ⟨_, List.mem_singleton_self _, hrule, by decide +kernel⟩
  · refine hwin.accepted
      { anchorHost := "s.io".toList, dependencyHost := "a.x.io".toList, lastSeen := 0
        expiresAt := .after (7 * Windows.Overlay.ticksPerDay), generation := 0 }
      (by decide +kernel) ?_
    exact ⟨_, List.mem_singleton_self _, hrule, by decide⟩

end OpenPath.Policy
