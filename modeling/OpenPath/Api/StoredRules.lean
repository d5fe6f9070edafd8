/-
# The stored rules

Every service call that writes rules cleans its values once. Cleaning once does
not always clean: a value with a second scheme, or with a second trailing slash,
is left with one, and the validator that runs next cleans again before it looks,
so it accepts what is stored in another form than the one it saw. Bulk creation
and approval do not run the validator at all.

The module gives the five calls as one transition system and shows that a run
keeps every stored rule in normal form as long as each value that is written is
clean after one cleaning, and is valid where no validator looks at it.
-/

import OpenPath.Api.RequestReview
import OpenPath.Foundation.Transition

namespace OpenPath.Api.StoredRules

open Foundation JavaScript RulesValidation GroupsService RequestReview

/-- A stored value in normal form: cleaning it changes nothing, and the
validator of its type accepts it as it stands. -/
structure InNormalForm (type : RuleType) (value : Text) : Prop where
  clean : cleanRuleValue value (type = .blockedPath) = value
  accepted : valid (validateAs type value) = true

/-- Every stored rule is in normal form. -/
def AllInNormalForm (store : Store) : Prop :=
  ∀ row ∈ store.rules, InNormalForm row.type row.value.text

/-! ## The calls -/

/-- The service calls that write rules, with their inputs. -/
inductive Call
  | createRule (input : CreateRuleInput)
  | bulkCreateRules (input : BulkCreateRulesInput)
  | updateRule (input : UpdateRuleInput)
  | approveRequest (id : Text) (groupId : Option Text) (user : Auth.JWTPayload)
  | cloneGroup (input : CloneGroupInput)

/-- The tables after a call that may have failed. -/
def settle {α : Type} (store : Store) : Except ServiceFailure (α × Store) → Store
  | .ok (_, after) => after
  | .error _ => store

def serve (store : Store) : CallContext × Call → Store
  | (ctx, .createRule input) => settle store (createRule ctx input store)
  | (ctx, .bulkCreateRules input) => settle store (bulkCreateRules ctx input store)
  | (ctx, .updateRule input) => settle store (updateRule ctx input store)
  | (ctx, .approveRequest id groupId user) =>
      settle store (approveRequest ctx id groupId user store)
  | (ctx, .cloneGroup input) => settle store (cloneGroup ctx input store)

/-- The calls, one after another, from tables without rules. -/
def calls : TransitionSystem Store (CallContext × Call) :=
  .ofFunction (fun store => store.rules = []) serve

/-! ## The condition -/

/-- What is left of a value after one cleaning, and is stored. -/
def keptValue (type : RuleType) (value : Text) : Text :=
  trim (cleanRuleValue value (type = .blockedPath))

/-- One cleaning was enough: no further scheme is in front of what is left and,
but for blocked paths, no slash is at its end. -/
structure CleanedOnce (type : RuleType) (value : Text) : Prop where
  no_http : ¬ "http://".toList <+: keptValue type value
  no_https : ¬ "https://".toList <+: keptValue type value
  no_any : ¬ "*://".toList <+: keptValue type value
  no_slash : type ≠ .blockedPath → (keptValue type value).getLast? ≠ some '/'

/-- The condition on a call. A value that is validated has to be clean after one
cleaning; a value of a bulk call has to be valid then; the root domain that an
approval stores has to be a valid domain. -/
def WellBehaved (store : Store) : CallContext × Call → Prop
  | (_, .createRule input) =>
      valid (validateRuleValue (cleanRuleValue input.value (input.type = .blockedPath))
        input.type) = true → CleanedOnce input.type input.value
  | (_, .bulkCreateRules input) =>
      ∀ value ∈ input.values, keptValue input.type value ≠ [] →
        valid (validateAs input.type (keptValue input.type value)) = true ∧
          (input.type = .allowedPath → (keptValue input.type value).getLast? ≠ some '/')
  | (_, .updateRule input) =>
      ∀ existing value, GroupsStorage.getRuleById store input.id = some existing →
        input.value = some value →
        valid (validateRuleValue (cleanRuleValue value (existing.type = .blockedPath))
          existing.type) = true → CleanedOnce existing.type value
  | (ctx, .approveRequest id groupId user) =>
      ∀ request target, checkApproval ctx id groupId user store = .ok (request, target) →
        valid (validateDomain (GroupsStorage.normalizeDomain
          (Domain.getRootDomain request.domain.text))) = true
  | (_, .cloneGroup _) => True

/-! ## What is stored -/

variable {value : Text}

theorem trim_eq_of_isLower (hlower : ∀ c ∈ value, Unicode.isLower c = true) (type : RuleType) :
    GroupsStorage.normalizeRuleValue type value = trim value := by
  unfold GroupsStorage.normalizeRuleValue GroupsStorage.normalizeDomain
  split
  · rfl
  · rw [toLowerCase_of_isLower hlower]

theorem trimmed_trim (value : Text) : Trimmed isSpace (trim value) :=
  Foundation.trimmed_trim isSpace value

theorem isLower_trim (hlower : ∀ c ∈ value, Unicode.isLower c = true) :
    ∀ c ∈ trim value, Unicode.isLower c = true :=
  fun c hc => hlower c (JavaScript.mem_of_mem_trim hc)

theorem isLower_keptValue (type : RuleType) (value : Text) :
    ∀ c ∈ keptValue type value, Unicode.isLower c = true :=
  isLower_trim (isLower_cleanRuleValue _ _)

variable {type : RuleType}

theorem inNormalForm_of_valid (trimmed : Trimmed isSpace value)
    (hlower : ∀ c ∈ value, Unicode.isLower c = true)
    (hvalid : valid (validateAs type value) = true)
    (hslash : type = .allowedPath → value.getLast? ≠ some '/') :
    InNormalForm type value where
  clean := cleanRuleValue_of_clean (clean_of_valid trimmed hlower hvalid hslash)
  accepted := hvalid

section

variable (honce : CleanedOnce type value)
  (hvalid : valid (validateRuleValue (cleanRuleValue value (type = .blockedPath)) type) = true)
include honce hvalid

/-- Where one cleaning was enough, the validator sees the value that is
stored. -/
theorem valid_keptValue : valid (validateAs type (keptValue type value)) = true := by
  have htrim : trim (cleanRuleValue value (type = .blockedPath)) = keptValue type value := rfl
  have hlower : toLowerCase (keptValue type value) = keptValue type value :=
    toLowerCase_of_isLower (isLower_keptValue type value)
  have hhttp : stripHttp (keptValue type value) = keptValue type value := by
    rw [stripHttp, if_neg honce.no_http, if_neg honce.no_https]
  have hany : stripAnyScheme (keptValue type value) = keptValue type value :=
    stripPrefix_of_not_prefix honce.no_any
  have hpath : cleanRuleValue (cleanRuleValue value (type = .blockedPath)) true =
      keptValue type value := by
    rw [cleanRuleValue_eq, htrim, hlower, hhttp, hany]
    rfl
  have hplain : type ≠ .blockedPath →
      cleanRuleValue (cleanRuleValue value (type = .blockedPath)) false =
        keptValue type value := by
    intro hne
    rw [cleanRuleValue_eq, htrim, hlower, hhttp, hany]
    simp [stripTrailingSlash, honce.no_slash hne]
  unfold validateRuleValue at hvalid
  dsimp only at hvalid
  have hcleaned : (if type = .blockedPath ∨ type = .allowedPath then
        cleanRuleValue (cleanRuleValue value (type = .blockedPath)) true
      else cleanRuleValue (cleanRuleValue value (type = .blockedPath)) false) =
        keptValue type value := by
    split
    · exact hpath
    · rename_i hnot
      exact hplain fun h => hnot (Or.inl h)
  rw [hcleaned] at hvalid
  split at hvalid
  · cases hvalid
  · exact hvalid

/-- What is stored of a value that was cleaned once and validated. -/
theorem inNormalForm_keptValue : InNormalForm type (keptValue type value) := by
  refine inNormalForm_of_valid (trimmed_trim _) (isLower_keptValue type value)
    (valid_keptValue honce hvalid) ?_
  rintro rfl
  exact honce.no_slash (by decide)

end

/-! ## The invariant

The identifiers of rules are distinct, so that an update changes the one row
whose type was used to validate the new value. -/

structure RulesInvariant (rules : List RuleRow) : Prop where
  normal : ∀ row ∈ rules, InNormalForm row.type row.value.text
  distinct : (rules.map (·.id)).Nodup

/-- The invariant of the runs. -/
def Invariant (store : Store) : Prop := RulesInvariant store.rules

theorem RulesInvariant.append {rules : List RuleRow} (hinv : RulesInvariant rules)
    {row : RuleRow} (hfresh : row.id ∉ rules.map (·.id))
    (hrow : InNormalForm row.type row.value.text) : RulesInvariant (rules ++ [row]) where
  normal := by
    intro other hother
    rcases List.mem_append.mp hother with hold | hnew
    · exact hinv.normal other hold
    · rw [List.mem_singleton] at hnew
      exact hnew ▸ hrow
  distinct := by
    rw [List.map_append, List.nodup_append]
    refine ⟨hinv.distinct, by simp, ?_⟩
    intro a ha b hb
    simp only [List.map_cons, List.map_nil, List.mem_singleton] at hb
    rintro rfl
    exact hfresh (hb ▸ ha)

variable {ctx : CallContext} {store store' : Store} {id : Text}

theorem createRule_invariant {input : CreateRuleInput} (hinv : RulesInvariant store.rules)
    (hbehaved : WellBehaved store (ctx, .createRule input))
    (hcall : createRule ctx input store = .ok (id, store')) :
    RulesInvariant store'.rules := by
  obtain ⟨cleaned, result, hcleaned, hcreate⟩ := createRule_eq_ok hcall
  obtain ⟨rfl, -, hvalid⟩ := cleanAndValidate_eq_ok.mp hcleaned
  refine GroupsStorage.createRule_preserves hinv ?_ hcreate
  intro rows row hrows hfresh htype hvalue
  rw [trim_eq_of_isLower (isLower_cleanRuleValue _ _)] at hvalue
  refine hrows.append hfresh ?_
  rw [htype, GroupsStorage.text_of_ofText_trimmed (trimmed_trim _) hvalue]
  exact inNormalForm_keptValue (hbehaved hvalid) hvalid

theorem bulkCreateRules_invariant {input : BulkCreateRulesInput} {count : Nat}
    (hinv : RulesInvariant store.rules)
    (hbehaved : WellBehaved store (ctx, .bulkCreateRules input))
    (hcall : bulkCreateRules ctx input store = .ok (count, store')) :
    RulesInvariant store'.rules := by
  refine GroupsStorage.bulkCreateRules_preserves hinv ?_ (bulkCreateRules_eq_ok hcall)
  intro cleaned hcleaned nonempty rows row hrows hfresh htype hvalue
  obtain ⟨value, hmember, rfl⟩ := List.mem_map.mp hcleaned
  have hlower := isLower_cleanRuleValue value (input.type = .blockedPath)
  have hdomain : GroupsStorage.normalizeDomain
      (cleanRuleValue value (input.type = .blockedPath)) = keptValue input.type value := by
    rw [GroupsStorage.normalizeDomain, toLowerCase_of_isLower hlower]
    rfl
  rw [hdomain] at nonempty hvalue
  have hkept : trim (keptValue input.type value) = keptValue input.type value :=
    trim_trim _
  rw [trim_eq_of_isLower (isLower_keptValue _ _), hkept] at hvalue
  obtain ⟨hvalid, hslash⟩ := hbehaved value hmember nonempty
  refine hrows.append hfresh ?_
  rw [htype, GroupsStorage.text_of_ofText_trimmed (trimmed_trim _) hvalue]
  exact inNormalForm_of_valid (trimmed_trim _) (isLower_keptValue _ _) hvalid hslash

theorem setRule_map_id (id : Text) (value : Option (VarChar 500))
    (comment : Option (Option DbText)) (store : Store) :
    (GroupsStorage.setRule id value comment store).rules.map (·.id) =
      store.rules.map (·.id) := by
  unfold GroupsStorage.setRule
  rw [List.map_map]
  apply List.map_congr_left
  intro row _
  by_cases hid : row.id = id
  · simp [hid]
  · simp [hid]

section

variable (hinv : RulesInvariant store.rules)
include hinv

theorem updateRule_invariant {input : UpdateRuleInput} {updated : RuleRow}
    (hbehaved : WellBehaved store (ctx, .updateRule input))
    (hcall : updateRule ctx input store = .ok (updated, store')) :
    RulesInvariant store'.rules := by
  obtain ⟨existing, cleaned, result, hexisting, hcleaned, hupdate⟩ := updateRule_eq_ok hcall
  rcases GroupsStorage.updateRule_cases hupdate with
    rfl | ⟨found, value, comment, hfound, hvalue, rfl⟩
  · exact hinv
  obtain rfl : existing = found := Option.some.inj (hexisting.symm.trans hfound)
  refine ⟨?_, by simpa [setRule_map_id] using hinv.distinct⟩
  intro row hrow
  obtain ⟨old, hold, rfl⟩ := List.mem_map.mp hrow
  by_cases hid : old.id = input.id
  · obtain rfl := GroupsStorage.eq_of_getRuleById hinv.distinct hexisting hold hid
    rw [if_pos hid]
    rcases hvalue with ⟨-, rfl⟩ | ⟨text, stored, htext, rfl, hstored⟩
    · exact hinv.normal old hold
    · dsimp only at htext
      subst htext
      rcases option_mapM_eq_ok.mp hcleaned with ⟨-, hnone⟩ | ⟨raw, clean, hraw, hclean, hsome⟩
      · cases hnone
      obtain rfl := Option.some.inj hsome
      obtain ⟨rfl, -, hvalid⟩ := cleanAndValidate_eq_ok.mp hclean
      rw [trim_eq_of_isLower (isLower_cleanRuleValue _ _)] at hstored
      change InNormalForm old.type stored.text
      rw [GroupsStorage.text_of_ofText_trimmed (trimmed_trim _) hstored]
      exact inNormalForm_keptValue (hbehaved old raw hexisting hraw hvalid) hvalid
  · rw [if_neg hid]
    exact hinv.normal old hold

theorem approveRequest_invariant {groupId : Option Text} {user : Auth.JWTPayload}
    {updated : RequestRow} (hbehaved : WellBehaved store (ctx, .approveRequest id groupId user))
    (hcall : approveRequest ctx id groupId user store = .ok (updated, store')) :
    RulesInvariant store'.rules := by
  obtain ⟨request, target, hcheck, happrove⟩ := approveRequest_eq_ok hcall
  obtain ⟨result, middle, hcreate, hstatus⟩ := approveWhitelistRequest_eq_ok happrove
  have hvalid := hbehaved request target hcheck
  have hrules : middle.rules = store'.rules :=
    congrArg (fun outcome => outcome.2.rules) hstatus
  rw [← hrules]
  refine GroupsStorage.createRule_preserves hinv ?_ hcreate
  intro rows row hrows hfresh htype hvalue
  refine hrows.append hfresh ?_
  have hlower := isLower_trim (isLower_toLowerCase (Domain.getRootDomain request.domain.text))
  rw [htype, GroupsStorage.text_of_ofText_trimmed (trimmed_trim _) hvalue]
  exact inNormalForm_of_valid (trimmed_trim _) hlower hvalid (by rintro ⟨⟩)

theorem cloneGroup_invariant {input : CloneGroupInput}
    (hcall : cloneGroup ctx input store = .ok (id, store')) :
    RulesInvariant store'.rules := by
  obtain ⟨source, created, copied, -, hcreate, hcopy, rfl⟩ := cloneGroup_eq_ok hcall
  have hcreated : created.rules = store.rules := by
    rw [(GroupsStorage.createGroup_eq_ok hcreate).2]
  rw [GroupsStorage.touchGroupUpdatedAt_rules]
  refine GroupsStorage.insertCopies_preserves (hcreated ▸ hinv) ?_ hcopy
  intro rule hrule rows row hrows hfresh htype hvalue
  have hmember : rule ∈ store.rules := hcreated ▸ (List.mem_filter.mp hrule).1
  refine hrows.append hfresh ?_
  rw [htype, hvalue]
  exact hinv.normal rule hmember

/-- Every well-behaved call keeps the invariant. -/
theorem serve_invariant {call : Call} (hbehaved : WellBehaved store (ctx, call)) :
    RulesInvariant (serve store (ctx, call)).rules := by
  cases call with
  | createRule input =>
      cases hcall : createRule ctx input store with
      | error failure => simpa [serve, settle, hcall] using hinv
      | ok result => simpa [serve, settle, hcall] using createRule_invariant hinv hbehaved hcall
  | bulkCreateRules input =>
      cases hcall : bulkCreateRules ctx input store with
      | error failure => simpa [serve, settle, hcall] using hinv
      | ok result =>
          simpa [serve, settle, hcall] using bulkCreateRules_invariant hinv hbehaved hcall
  | updateRule input =>
      cases hcall : updateRule ctx input store with
      | error failure => simpa [serve, settle, hcall] using hinv
      | ok result => simpa [serve, settle, hcall] using updateRule_invariant hinv hbehaved hcall
  | approveRequest id groupId user =>
      cases hcall : approveRequest ctx id groupId user store with
      | error failure => simpa [serve, settle, hcall] using hinv
      | ok result =>
          simpa [serve, settle, hcall] using approveRequest_invariant hinv hbehaved hcall
  | cloneGroup input =>
      cases hcall : cloneGroup ctx input store with
      | error failure => simpa [serve, settle, hcall] using hinv
      | ok result => simpa [serve, settle, hcall] using cloneGroup_invariant hinv hcall

end

/-- The invariant holds in every run of well-behaved calls. -/
theorem invariant_of_wellBehaved (hreach : calls.ReachableBy WellBehaved store) : Invariant store := by
  refine hreach.invariant (fun start hstart => ?_) ?_
  · have hempty : start.rules = [] := hstart
    rw [Invariant, hempty]
    exact ⟨by simp, by simp⟩
  · rintro source ⟨ctx, call⟩ target hinv hbehaved rfl
    exact serve_invariant hinv hbehaved

/-- In every run of well-behaved calls, all stored rules are in normal form. -/
theorem allInNormalForm_of_wellBehaved {store : Store}
    (hreach : calls.ReachableBy WellBehaved store) : AllInNormalForm store :=
  (invariant_of_wellBehaved hreach).normal

/-! ## A run that is not well behaved -/

/-- Tables with one group and no rules. -/
def oneGroup : Store where
  groups := [{ id := "math".toList, name := "math".toList, displayName := "Math".toList,
               enabled := true, visibility := .priv, ownerUserId := none, updatedAt := 0 }]
  rules := []
  requests := []

def sampleContext : CallContext where
  uuid n := ("rule-" ++ toString n).toList
  now := 1
  localeLe left right := decide (left ≤ right)
  driverMessage _ := "driver error"

def createCall (value : String) : CallContext × Call :=
  (sampleContext,
    .createRule
      { groupId := "math".toList, type := .whitelist, value := value.toList, comment := none })

theorem oneGroup_reachable (call : CallContext × Call) :
    calls.Reachable (serve oneGroup call) := by
  have hstart : calls.Reachable oneGroup := .start rfl
  exact hstart.step trivial rfl

/-- Of a value with two schemes one is removed before it is stored, and the
other only before it is validated. -/
theorem stored_rule_with_scheme :
    ∃ store, calls.Reachable store ∧ ¬ AllInNormalForm store := by
  refine ⟨serve oneGroup (createCall "https://https://example.com"),
    oneGroup_reachable _, ?_⟩
  have hstored : (serve oneGroup (createCall "https://https://example.com")).rules.map
      (fun row => (row.type, row.value.text)) =
        [(.whitelist, "https://example.com".toList)] := by
    decide +kernel
  intro hall
  obtain ⟨row, hrow, hfields⟩ := List.mem_map.mp
    (hstored ▸ List.mem_singleton_self (RuleType.whitelist, "https://example.com".toList))
  obtain ⟨htype, htext⟩ := Prod.mk.inj hfields
  have hclean := (hall row hrow).clean
  rw [htype, htext] at hclean
  revert hclean
  decide

/-- Two paths, one of which is blank. -/
def bulkCall : CallContext × Call :=
  ({ sampleContext with uuid := fun n => ("path-" ++ toString n).toList },
    .bulkCreateRules
      { groupId := "math".toList, type := .blockedPath
        values := ["https://example.com/Games/".toList, "  ".toList] })

/-- A run of two well-behaved calls, which store cleaned values. -/
theorem allInNormalForm_example :
    AllInNormalForm (serve (serve oneGroup (createCall " HTTPS://Example.com/ ")) bulkCall) := by
  have hstart : calls.ReachableBy WellBehaved oneGroup := .start rfl
  refine allInNormalForm_of_wellBehaved ((hstart.step ?_ rfl).step ?_ rfl)
  · exact fun _ => ⟨by decide, by decide, by decide, fun _ => by decide⟩
  · show ∀ value ∈ _, _
    decide

end OpenPath.Api.StoredRules
