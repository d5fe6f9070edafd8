/-
# From the calls of the service to the answers of DNS

Rules enter the tables through calls of the service. The enabled rules of a group are
exported, an agent reads them, and the configuration of its DNS server is made of them.
Each part keeps what the one after it needs: as long as the rules in the tables are in
normal form, which well-behaved calls keep, the enabled rows of the group alone decide which
names are resolved on either platform.
-/

import OpenPath.Api.StoredRules
import OpenPath.Linux.ControlPlane
import OpenPath.Policy.Agreement
import OpenPath.Windows.DecisionAgreement

namespace OpenPath.Policy.ServedPolicy

open Api Api.ExportGroup Api.GroupsStorage Api.StoredRules Agreement
open Linux.Dnsmasq (DnsmasqSettings LongestRulesAllow dnsRules exampleSettings
  generateDnsmasqConfig noAddresses)
open Windows (acceptContent filterSections)
open Windows.ControlPlane (schoolMachine)
open Windows.NativeHost (Refused Rendered)

/-- The document of a group that is enabled, of tables whose rules are in normal form. -/
structure Served (ctx : CallContext) (store : Store) (groupId document : Text) : Prop where
  normal : AllInNormalForm store
  group : ∃ group, getGroupById store groupId = some group ∧ group.enabled = true
  exported : exportGroup ctx store groupId = some document

section

variable {ctx : CallContext} {store : Store} {groupId document : Text}

theorem validRules_of_normal (hnormal : AllInNormalForm store) :
    ValidRules (getRulesByGroup ctx store groupId none) :=
  ValidGroup.rules (fun row hrow _ => (hnormal row hrow).accepted) ctx

/-- Well-behaved calls keep the tables so. -/
theorem normal_of_wellBehaved (hreach : calls.ReachableBy WellBehaved store) :
    AllInNormalForm store :=
  (invariant_of_wellBehaved hreach).normal

variable (served : Served ctx store groupId document)
include served

theorem Served.document_eq : document = renderContent (getRulesByGroup ctx store groupId none) := by
  obtain ⟨group, hgroup, henabled⟩ := served.group
  rw [exportGroup_eq hgroup served.exported, renderGroup, henabled]
  rfl

/-- What dnsmasq resolves is decided by the rows of the group, those over the protected
domains aside. -/
theorem linux_resolves_iff (settings : DnsmasqSettings) (config : Linux.ControlPlaneConfig)
    {runtimeDependencyDomains : List Text}
    (hdependencies : ∀ line ∈ runtimeDependencyDomains, '\n' ∉ line) (host : Text) :
    Linux.Dnsmasq.Resolves (generateDnsmasqConfig settings config runtimeDependencyDomains
        (Linux.parseWhitelistSections config document)) host ↔
      LongestRulesAllow (dnsRules config runtimeDependencyDomains
        (Linux.protectControlPlaneRules (Linux.refreshOpenpathProtectedDomains config)
          (exportedSections (getRulesByGroup ctx store groupId none)))) host := by
  have hvalid := @validRules_of_normal ctx store groupId served.normal
  have hplain : ∀ type, ∀ value ∈ enabledValues (getRulesByGroup ctx store groupId none) type,
      '\n' ∉ value := by
    intro type value hvalue hbreak
    exact absurd ((plainEntry_of_mem hvalid hvalue).no_space '\n' hbreak) (by decide)
  rw [served.document_eq, Linux.parseWhitelistSections, readSections_renderContent hvalid]
  refine (Linux.Dnsmasq.resolves_iff settings config (fun line hline => ?_) host).1
  rcases List.mem_append.mp hline with hline | hblocked
  · rcases List.mem_append.mp hline with hlisted | hdependency
    · rcases (Linux.mem_protected_whitelist (Linux.protectedList_refresh config) line).mp hlisted with
        hvalue | hprotected
      · exact hplain _ _ hvalue
      · exact Linux.Dnsmasq.newline_not_mem_refresh config line hprotected
    · exact hdependencies line hdependency
  · exact hplain _ _ ((Linux.mem_protected_blockedSubdomains line).mp hblocked).1

/-- The Windows agent accepts the document, and the names that its DNS proxy forwards are
decided by the rows of the group. -/
theorem windows_resolves_iff (isWordChar : Char → Bool) (machine : Windows.Acrylic.Machine) :
    let sections := filterSections machine.configHosts
      ((exportedSections (getRulesByGroup ctx store groupId none)).map DotNet.trim)
    ∃ policy, acceptContent isWordChar machine.configHosts document = .ok policy ∧
      ∀ host, '\n' ∉ host → (Windows.NativeHost.Resolves machine policy.sections host ↔
        Rendered machine sections host ∧ ¬ Refused sections host) := by
  have hread := @parse_renderContent isWordChar _
    (@validRules_of_normal ctx store groupId served.normal)
  rw [← served.document_eq] at hread
  refine ⟨_, Windows.acceptContent_eq _ (by rw [hread]), fun host hline => ?_⟩
  rw [hread]
  exact and_congr (Windows.NativeHost.forwards_policyRules_iff hline)
    (not_congr Windows.NativeHost.refuses_policyRules_iff)

end

def createTyped (type : RulesValidation.RuleType) (value : String) : CallContext × Call :=
  ({ sampleContext with uuid := fun n => (value ++ toString n).toList },
    .createRule { groupId := "math".toList, type, value := value.toList, comment := none })

/-- Three rules are created, and the second one is switched off. -/
def createdStore : Store :=
  serve (serve (serve oneGroup (createCall " HTTPS://Example.com/ "))
    (createTyped .whitelist "off.example.org")) (createTyped .blockedSubdomain "ads.example.com")

def sampleStore : Store :=
  { createdStore with
    rules := createdStore.rules.map fun row =>
      if row.value.text = "off.example.org".toList then { row with enabled := false } else row }

def sampleDocument : Text :=
  "## WHITELIST\nexample.com\n\n## BLOCKED-SUBDOMAINS\nads.example.com\n".toList

theorem served_sample : Served sampleContext sampleStore "math".toList sampleDocument where
  normal := by
    have hstart : calls.ReachableBy WellBehaved oneGroup := .start rfl
    have hcreated : calls.ReachableBy WellBehaved createdStore := by
      refine ((hstart.step ?_ rfl).step ?_ rfl).step ?_ rfl
      all_goals exact fun _ => ⟨by decide, by decide, by decide, fun _ => by decide⟩
    intro row hrow
    obtain ⟨created, hmem, rfl⟩ := List.mem_map.mp hrow
    have hnormal := normal_of_wellBehaved hcreated created hmem
    split
    · exact hnormal
    · exact hnormal
  group := ⟨_, rfl, rfl⟩
  exported := by decide +kernel

theorem linux_resolves_iff_sample :
    Linux.Dnsmasq.Resolves (generateDnsmasqConfig exampleSettings noAddresses []
        (Linux.parseWhitelistSections noAddresses sampleDocument)) "ads.example.com".toList ↔
      LongestRulesAllow (dnsRules noAddresses []
        (Linux.protectControlPlaneRules (Linux.refreshOpenpathProtectedDomains noAddresses)
          (exportedSections (getRulesByGroup sampleContext sampleStore "math".toList none))))
        "ads.example.com".toList :=
  linux_resolves_iff served_sample _ _ (List.forall_mem_nil _) _

theorem windows_resolves_iff_sample :
    let sections := filterSections schoolMachine.configHosts
      ((exportedSections (getRulesByGroup sampleContext sampleStore "math".toList none)).map
        DotNet.trim)
    ∃ policy, acceptContent Ascii.isWordChar schoolMachine.configHosts sampleDocument = .ok policy ∧
      (Windows.NativeHost.Resolves schoolMachine policy.sections "ads.example.com".toList ↔
        Rendered schoolMachine sections "ads.example.com".toList ∧
          ¬ Refused sections "ads.example.com".toList) := by
  obtain ⟨policy, haccepted, hresolves⟩ :=
    windows_resolves_iff served_sample Ascii.isWordChar schoolMachine
  exact ⟨policy, haccepted, hresolves _ (by decide)⟩

end OpenPath.Policy.ServedPolicy
