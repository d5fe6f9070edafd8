/-
# Cache of exported documents

The server keeps the last document of each group under a version that is joined
from the time of the last change, the group's flag and the fields of its rules. A
call that finds the version it computed answers with the document that is kept,
and otherwise renders the rows it has read.

The version is a text in which the fields are not escaped. Calls answer with
what an uncached rendering would give as long as two calls that read the same
time and flag read the same rules, or rules in whose fields nothing can be taken
for a separator.
-/

import OpenPath.Api.ExportGroup
import OpenPath.Api.Mutations
import OpenPath.Foundation.JoinedKeys
import OpenPath.Foundation.Transition
import OpenPath.Text.IsoDate

namespace OpenPath.Api.ExportCache

open Foundation JavaScript IsoDate RulesValidation GroupsStorage ExportGroup

/-! ## The version -/

def ruleTypeText : RuleType → Text
  | .whitelist => "whitelist".toList
  | .blockedSubdomain => "blocked_subdomain".toList
  | .blockedPath => "blocked_path".toList
  | .allowedPath => "allowed_path".toList

def flag (enabled : Bool) : Char := if enabled then '1' else '0'

/-- `rule.comment ?? ''` -/
def commentText (rule : RuleRow) : Text := (rule.comment.map (·.text)).getD []

def ruleEntry (rule : RuleRow) : Text :=
  rule.id ++ ':' :: (ruleTypeText rule.type ++ ':' ::
    (rule.value.text ++ [':', flag rule.enabled, ':'] ++ commentText rule))

/-- The UTF-16 code units of a character. -/
def codeUnits (c : Char) : List Nat :=
  if c.toNat < 0x10000 then [c.toNat]
  else [0xd800 + (c.toNat - 0x10000) / 0x400, 0xdc00 + (c.toNat - 0x10000) % 0x400]

/-- `texts.sort()` -/
def sort (texts : List Text) : List Text :=
  texts.insertionSort fun first second => first.flatMap codeUnits ≤ second.flatMap codeUnits

def rulesVersion (rules : List RuleRow) : Text := join (sort (rules.map ruleEntry)) ['|']

def versionOf (group : GroupRow) (rules : List RuleRow) : Text :=
  toISOString group.updatedAt ++ ':' :: flag group.enabled :: ':' :: rulesVersion rules

/-! ## Calls -/

structure ExportCacheEntry where
  version : Text
  content : Text

/-- A map with the order of insertion. -/
abbrev ExportMap := List (Text × ExportCacheEntry)

namespace ExportMap

/-- Delete a key and set it again, which moves it to the end. -/
def put (cache : ExportMap) (groupId : Text) (entry : ExportCacheEntry) : ExportMap :=
  cache.filter (·.1 ≠ groupId) ++ [(groupId, entry)]

/-- Delete the oldest keys until no more than the maximum are left. -/
def evict (maximum : Nat) (cache : ExportMap) : ExportMap :=
  cache.drop (cache.length - maximum)

end ExportMap

/-- The rest of a call that has read the group and its rules. -/
def answerFor (maximum : Nat) (groupId : Text) (group : GroupRow) (rules : List RuleRow)
    (cache : ExportMap) : Text × ExportMap :=
  let version := versionOf group rules
  match (cache.lookup groupId).filter (·.version = version) with
  | some hit => (hit.content, cache.put groupId hit)
  | none =>
      if !group.enabled then
        (disabledContent, cache.put groupId { version := version, content := disabledContent })
      else
        let content := renderContent rules
        (content, (cache.put groupId { version := version, content := content }).evict maximum)

/-- A comparison of texts by the collation. Texts may be distinct and rank equal. -/
structure Collation where
  le : Text → Text → Bool
  total : ∀ first second, le first second = true ∨ le second first = true
  trans : ∀ first second third, le first second = true → le second third = true →
    le first third = true

/-- The rules in the order of the collation. -/
def sortRules (collation : Collation) (rows : List RuleRow) : List RuleRow :=
  rows.insertionSort fun left right => collation.le left.value.text right.value.text

/-- A call that has read the row of its group. -/
structure ExportCall where
  groupId : Text
  group : GroupRow
  deriving DecidableEq

/-- What a call read, and what it returned. -/
structure ExportAnswer where
  groupId : Text
  group : GroupRow
  rules : List RuleRow
  text : Text

/-- A server with calls under way. The answers that it has given are kept. -/
structure Server where
  store : Store
  calls : List ExportCall
  cache : ExportMap
  answers : List ExportAnswer

/-- The server after a call has read its rules. -/
def Server.answerCall (maximum : Nat) (server : Server) (call : ExportCall)
    (rules : List RuleRow) : Server :=
  let result := answerFor maximum call.groupId call.group rules server.cache
  { store := server.store
    calls := server.calls.erase call
    cache := result.2
    answers :=
      { groupId := call.groupId, group := call.group, rules := rules, text := result.1 } ::
        server.answers }

inductive ExportLabel
  | mutate (mutation : Mutation)
  | readGroup (groupId : Text)
  | readRules (call : ExportCall) (rows : List RuleRow)

/-- The database answers with the rules of a group in any order. A date that the
language cannot represent has no text, and the call that reads it fails. -/
inductive ExportStep (collation : Collation) (maximum : Nat) :
    Server → ExportLabel → Server → Prop
  | mutate (server : Server) (mutation : Mutation) :
      ExportStep collation maximum server (.mutate mutation)
        { server with store := mutation.apply server.store }
  | missing (server : Server) (groupId : Text)
      (hgroup : getGroupById server.store groupId = none) :
      ExportStep collation maximum server (.readGroup groupId) server
  | readGroup (server : Server) (groupId : Text) (group : GroupRow)
      (hgroup : getGroupById server.store groupId = some group) :
      ExportStep collation maximum server (.readGroup groupId)
        { server with calls := { groupId := groupId, group := group } :: server.calls }
  | readRules (server : Server) (call : ExportCall) (rows : List RuleRow)
      (hcall : call ∈ server.calls) (hdate : Representable call.group.updatedAt)
      (hrows : rows.Perm (listRuleRowsByGroup server.store call.groupId none)) :
      ExportStep collation maximum server (.readRules call rows)
        (server.answerCall maximum call (sortRules collation rows))

/-- A process starts with an empty cache, over whatever tables there are. -/
def Started (server : Server) : Prop :=
  server.calls = [] ∧ server.cache = [] ∧ server.answers = []

def exports (collation : Collation) (maximum : Nat) : TransitionSystem Server ExportLabel where
  init := Started
  step := ExportStep collation maximum

/-- The answer is what an uncached call would have rendered. -/
def ExportAnswer.Rendered (answer : ExportAnswer) : Prop :=
  answer.text = renderGroup answer.group answer.rules

/-! ## When versions tell rules apart -/

/-- A rule in whose entry the fields can be told apart. Identifiers are UUIDs,
which have neither character. -/
structure PlainRule (rule : RuleRow) : Prop where
  id_colon : ':' ∉ rule.id
  id_bar : '|' ∉ rule.id
  value_bar : '|' ∉ rule.value.text
  value_unmarked : Unmarked ':' ['0', '1'] rule.value.text
  comment_bar : '|' ∉ commentText rule

/-- The rules of two calls are plain, and distinct values of theirs rank apart. -/
structure Distinguishable (collation : Collation) (rules rules' : List RuleRow) : Prop where
  plain : ∀ rule ∈ rules ++ rules', PlainRule rule
  apart : ∀ rule ∈ rules ++ rules', ∀ rule' ∈ rules ++ rules',
    collation.le rule.value.text rule'.value.text = true →
      collation.le rule'.value.text rule.value.text = true → rule.value.text = rule'.value.text

/-- A call reads the same rules as each earlier call that read the same time and
flag of the group, or its rules can be told from that call's. -/
def ReadsApart (collation : Collation) (server : Server) : ExportLabel → Prop
  | .readRules call rows =>
      ∀ answer ∈ server.answers, answer.groupId = call.groupId →
        answer.group.updatedAt = call.group.updatedAt →
          answer.group.enabled = call.group.enabled →
            answer.rules = sortRules collation rows ∨
              Distinguishable collation answer.rules (sortRules collation rows)
  | _ => True

theorem flag_injective {first second : Bool} (heq : flag first = flag second) :
    first = second := by
  revert heq
  cases first <;> cases second <;> decide

theorem ruleTypeText_injective {first second : RuleType}
    (heq : ruleTypeText first = ruleTypeText second) : first = second := by
  revert heq
  cases first <;> cases second <;> decide

variable {rule : RuleRow}

theorem exported_of_ruleEntry {rule' : RuleRow} (hplain : PlainRule rule)
    (hplain' : PlainRule rule') (heq : ruleEntry rule = ruleEntry rule') :
    exported rule = exported rule' := by
  have htype : ∀ type, ':' ∉ ruleTypeText type := by
    intro type
    cases type <;> decide
  have hflag : ∀ enabled, flag enabled ∈ ['0', '1'] := by decide
  obtain ⟨-, hrest⟩ := append_separator_inj hplain.id_colon hplain'.id_colon heq
  obtain ⟨htypes, hrest⟩ := append_separator_inj (htype _) (htype _) hrest
  obtain ⟨hvalue, henabled, -⟩ := append_marker_inj hplain.value_unmarked hplain'.value_unmarked
    (by decide) (hflag _) (hflag _) hrest
  rw [exported, exported, ruleTypeText_injective htypes, hvalue, flag_injective henabled]

theorem bar_not_mem_ruleEntry (hplain : PlainRule rule) : '|' ∉ ruleEntry rule := by
  have htype : '|' ∉ ruleTypeText rule.type := by
    cases rule.type <;> decide
  have hflag : '|' ≠ flag rule.enabled := by
    cases rule.enabled <;> decide
  simp [ruleEntry, hplain.id_bar, htype, hplain.value_bar, hflag, hplain.comment_bar]

theorem ruleEntry_ne_nil (rule : RuleRow) : ruleEntry rule ≠ [] := by
  simp [ruleEntry]

variable {rules rules' : List RuleRow}

/-- Rules with the same version export the same. -/
theorem perm_exported_of_rulesVersion (hplain : ∀ rule ∈ rules ++ rules', PlainRule rule)
    (heq : rulesVersion rules = rulesVersion rules') :
    (rules.map exported).Perm (rules'.map exported) := by
  have hentries : ∀ {list : List RuleRow}, (∀ rule ∈ list, PlainRule rule) →
      ∀ entry ∈ sort (list.map ruleEntry), '|' ∉ entry ∧ entry ≠ [] := by
    intro list hlist entry hentry
    rw [sort, List.mem_insertionSort] at hentry
    obtain ⟨rule, hrule, rfl⟩ := List.mem_map.mp hentry
    exact ⟨bar_not_mem_ruleEntry (hlist rule hrule), ruleEntry_ne_nil rule⟩
  have hsorted : sort (rules.map ruleEntry) = sort (rules'.map ruleEntry) :=
    intercalate_inj (hentries fun rule h => hplain rule (List.mem_append_left _ h))
      (hentries fun rule h => hplain rule (List.mem_append_right _ h)) heq
  have hperm : (rules.map ruleEntry).Perm (rules'.map ruleEntry) := by
    have hsort : ∀ texts, (sort texts).Perm texts := fun texts => List.perm_insertionSort _ texts
    exact (hsort _).symm.trans (hsorted ▸ hsort _)
  apply perm_map_of_perm_map ?_ hperm
  intro rule hrule rule' hrule'
  exact exported_of_ruleEntry (hplain rule hrule) (hplain rule' hrule')

/-! ## What is rendered -/

/-- The rules are in the order of the collation. -/
def InOrder (collation : Collation) (rules : List RuleRow) : Prop :=
  rules.Pairwise fun left right => collation.le left.value.text right.value.text = true

theorem inOrder_sortRules (collation : Collation) (rows : List RuleRow) :
    InOrder collation (sortRules collation rows) := by
  have : Std.Total fun left right : RuleRow =>
      collation.le left.value.text right.value.text = true :=
    ⟨fun left right => collation.total left.value.text right.value.text⟩
  have : IsTrans RuleRow fun left right =>
      collation.le left.value.text right.value.text = true :=
    ⟨fun left middle right => collation.trans left.value.text middle.value.text right.value.text⟩
  exact List.pairwise_insertionSort _ rows

variable {collation : Collation}

theorem enabledValues_congr (hrules : InOrder collation rules)
    (hrules' : InOrder collation rules') (happart : Distinguishable collation rules rules')
    (hperm : (rules.map exported).Perm (rules'.map exported)) (type : RuleType) :
    enabledValues rules type = enabledValues rules' type := by
  have hmem : ∀ {list : List RuleRow} {value : Text}, value ∈ enabledValues list type →
      ∃ rule ∈ list, rule.value.text = value := by
    intro list value hvalue
    obtain ⟨rule, hrule, rfl⟩ := List.mem_map.mp hvalue
    exact ⟨rule, (List.mem_filter.mp hrule).1, rfl⟩
  have hpairwise : ∀ {list : List RuleRow}, InOrder collation list →
      (enabledValues list type).Pairwise fun first second => collation.le first second = true :=
    fun hlist => List.pairwise_map.mpr (hlist.filter _)
  apply List.Perm.eq_of_pairwise ?_ (hpairwise hrules) (hpairwise hrules')
  · rw [enabledValues_eq, enabledValues_eq]
    exact (hperm.filter _).map _
  · intro first second hfirst hsecond hle hge
    obtain ⟨rule, hrule, rfl⟩ := hmem hfirst
    obtain ⟨rule', hrule', rfl⟩ := hmem hsecond
    exact happart.apart rule (List.mem_append_left _ hrule) rule'
      (List.mem_append_right _ hrule') hle hge

variable {group' : GroupRow}

theorem versionOf_inj {group : GroupRow} (hdate : Representable group.updatedAt)
    (hdate' : Representable group'.updatedAt)
    (heq : versionOf group rules = versionOf group' rules') :
    group.updatedAt = group'.updatedAt ∧ group.enabled = group'.enabled ∧
      rulesVersion rules = rulesVersion rules' := by
  unfold versionOf toISOString at heq
  simp only [List.append_assoc, List.singleton_append] at heq
  obtain ⟨hbody, hrest⟩ :=
    append_separator_inj (not_mem_isoBody group.updatedAt) (not_mem_isoBody group'.updatedAt) heq
  simp only [List.cons.injEq, true_and] at hrest
  refine ⟨toISOString_injOn hdate hdate' ?_, flag_injective hrest.1, hrest.2⟩
  rw [toISOString, toISOString, hbody]

theorem renderGroup_congr {group : GroupRow} (hrules : InOrder collation rules)
    (hrules' : InOrder collation rules') (henabled : group.enabled = group'.enabled)
    (hapart : rules = rules' ∨ Distinguishable collation rules rules')
    (hversion : rulesVersion rules = rulesVersion rules') :
    renderGroup group rules = renderGroup group' rules' := by
  have hcontent : renderContent rules = renderContent rules' := by
    rcases hapart with rfl | hapart
    · rfl
    · apply renderContent_congr
      exact enabledValues_congr hrules hrules' hapart
        (perm_exported_of_rulesVersion hapart.plain hversion)
  rw [renderGroup, renderGroup, henabled, hcontent]

/-! ## Runs -/

/-- An entry was rendered by a call for its group. -/
def MadeBy (answers : List ExportAnswer) (groupId : Text) (entry : ExportCacheEntry) : Prop :=
  ∃ answer ∈ answers, answer.groupId = groupId ∧
    entry.version = versionOf answer.group answer.rules ∧
    entry.content = renderGroup answer.group answer.rules

structure Sound (collation : Collation) (server : Server) : Prop where
  rendered : ∀ answer ∈ server.answers, answer.Rendered
  inOrder : ∀ answer ∈ server.answers, InOrder collation answer.rules
  dated : ∀ answer ∈ server.answers, Representable answer.group.updatedAt
  cached : ∀ groupId entry, (groupId, entry) ∈ server.cache → MadeBy server.answers groupId entry

variable {groupId : Text} {entry : ExportCacheEntry}

theorem mem_put {cache : ExportMap} {other : Text} {kept : ExportCacheEntry}
    (hmem : (other, kept) ∈ cache.put groupId entry) :
    (other, kept) ∈ cache ∨ (other = groupId ∧ kept = entry) := by
  unfold ExportMap.put at hmem
  rcases List.mem_append.mp hmem with hold | hnew
  · exact Or.inl (List.mem_filter.mp hold).1
  · exact Or.inr (Prod.mk.inj (List.mem_singleton.mp hnew))

theorem mem_of_lookup {cache : ExportMap} (hlookup : cache.lookup groupId = some entry) :
    (groupId, entry) ∈ cache := by
  induction cache with
  | nil => cases hlookup
  | cons pair rest ih =>
      obtain ⟨key, kept⟩ := pair
      rw [List.lookup_cons] at hlookup
      by_cases hkey : groupId = key
      · rw [hkey, beq_self_eq_true] at hlookup
        rw [hkey, ← Option.some.inj hlookup]
        exact List.mem_cons_self
      · rw [beq_false_of_ne hkey] at hlookup
        exact List.mem_cons_of_mem _ (ih hlookup)

/-- What a call answers and what it leaves in the cache: a document that is kept
under its version, or the one that it renders. -/
theorem answerFor_cases (maximum : Nat) (groupId : Text) (group : GroupRow)
    (rules : List RuleRow) (cache : ExportMap) :
    (∃ hit, (groupId, hit) ∈ cache ∧ hit.version = versionOf group rules ∧
        (answerFor maximum groupId group rules cache).1 = hit.content ∧
        ∀ other kept, (other, kept) ∈ (answerFor maximum groupId group rules cache).2 →
          (other, kept) ∈ cache) ∨
      ((answerFor maximum groupId group rules cache).1 = renderGroup group rules ∧
        ∀ other kept, (other, kept) ∈ (answerFor maximum groupId group rules cache).2 →
          (other, kept) ∈ cache ∨ (other = groupId ∧ kept =
            { version := versionOf group rules, content := renderGroup group rules })) := by
  unfold answerFor
  dsimp only
  cases hhit : (cache.lookup groupId).filter (·.version = versionOf group rules) with
  | some hit =>
      obtain ⟨hlookup, hversion⟩ := Option.filter_eq_some_iff.mp hhit
      have hmem := mem_of_lookup hlookup
      refine Or.inl ⟨hit, hmem, by simpa using hversion, rfl, ?_⟩
      intro other kept hother
      rcases mem_put hother with hold | ⟨rfl, rfl⟩
      · exact hold
      · exact hmem
  | none =>
      right
      dsimp only
      cases henabled : group.enabled with
      | false =>
          have hrender : renderGroup group rules = disabledContent := by
            simp [renderGroup, henabled]
          rw [hrender]
          exact ⟨rfl, fun other kept hother => mem_put hother⟩
      | true =>
          have hrender : renderGroup group rules = renderContent rules := by
            simp [renderGroup, henabled]
          rw [hrender]
          exact ⟨rfl, fun other kept hother => mem_put (List.mem_of_mem_drop hother)⟩

theorem MadeBy.mono {answers : List ExportAnswer} (hmade : MadeBy answers groupId entry)
    (answer : ExportAnswer) :
    MadeBy (answer :: answers) groupId entry := by
  obtain ⟨maker, hmaker, hrest⟩ := hmade
  exact ⟨maker, List.mem_cons_of_mem _ hmaker, hrest⟩

variable {server : Server} {maximum : Nat} {rows : List RuleRow}

theorem Sound.answerCall (hserver : Sound collation server) {call : ExportCall}
    (hdate : Representable call.group.updatedAt)
    (hapart : ReadsApart collation server (.readRules call rows)) :
    Sound collation (server.answerCall maximum call (sortRules collation rows)) := by
  have horder := inOrder_sortRules collation rows
  have hcases := answerFor_cases maximum call.groupId call.group (sortRules collation rows)
    server.cache
  have htext : (answerFor maximum call.groupId call.group (sortRules collation rows)
      server.cache).1 = renderGroup call.group (sortRules collation rows) := by
    rcases hcases with ⟨hit, hhit, hversion, htext, -⟩ | ⟨htext, -⟩
    · obtain ⟨answer, hanswer, hgroup, hmade, hcontent⟩ := hserver.cached _ _ hhit
      obtain ⟨htime, henabled, hrules⟩ :=
        versionOf_inj (hserver.dated answer hanswer) hdate (hmade.symm.trans hversion)
      rw [htext, hcontent]
      exact renderGroup_congr (hserver.inOrder answer hanswer) horder henabled
        (hapart answer hanswer hgroup htime henabled) hrules
    · exact htext
  refine ⟨?_, ?_, ?_, ?_⟩
  · intro answer hanswer
    rcases List.mem_cons.mp hanswer with rfl | hold
    · exact htext
    · exact hserver.rendered answer hold
  · intro answer hanswer
    rcases List.mem_cons.mp hanswer with rfl | hold
    · exact horder
    · exact hserver.inOrder answer hold
  · intro answer hanswer
    rcases List.mem_cons.mp hanswer with rfl | hold
    · exact hdate
    · exact hserver.dated answer hold
  · intro groupId entry hentry
    rcases hcases with ⟨hit, hhit, -, -, hkept⟩ | ⟨-, hkept⟩
    · exact (hserver.cached _ _ (hkept groupId entry hentry)).mono _
    · rcases hkept groupId entry hentry with hold | ⟨rfl, rfl⟩
      · exact (hserver.cached _ _ hold).mono _
      · exact ⟨_, List.mem_cons_self, rfl, rfl, rfl⟩

theorem Sound.of_reachable
    (hreach : (exports collation maximum).ReachableBy (ReadsApart collation) server) :
    Sound collation server := by
  refine hreach.invariant ?_ ?_
  · rintro start ⟨-, hcache, hanswers⟩
    refine ⟨?_, ?_, ?_, ?_⟩ <;> simp [hcache, hanswers]
  · intro source label target hsource hcondition hstep
    cases hstep with
    | mutate mutation => exact ⟨hsource.rendered, hsource.inOrder, hsource.dated, hsource.cached⟩
    | missing groupId hgroup => exact hsource
    | readGroup groupId group hgroup =>
        exact ⟨hsource.rendered, hsource.inOrder, hsource.dated, hsource.cached⟩
    | readRules call rows hcall hdate hrows => exact hsource.answerCall hdate hcondition

/-- In a run in which calls that read the same time and flag of a group read the
same rules, or rules that can be told apart, every call returns what an uncached
rendering of the rows it read would give. -/
theorem answers_rendered {collation : Collation} {maximum : Nat} {server : Server}
    (hreach : (exports collation maximum).ReachableBy (ReadsApart collation) server) :
    ∀ answer ∈ server.answers, answer.Rendered :=
  (Sound.of_reachable hreach).rendered

/-! ## Two sets of rules under one version -/

/-- Texts in the order of their code points. -/
def codePoints : Collation where
  le := codePointLe
  total := codePointLe_total
  trans _ _ _ := codePointLe_trans

def mathGroup : GroupRow where
  id := "math".toList
  name := "math".toList
  displayName := "Math".toList
  enabled := true
  visibility := .priv
  ownerUserId := none
  updatedAt := 0

def algebra : RuleRow where
  id := "a1".toList
  groupId := mathGroup.id
  type := .whitelist
  value := ⟨"algebra.org".toList, by decide, by decide⟩
  enabled := true
  comment := none
  createdAt := 0

def games : RuleRow :=
  { algebra with id := "b2".toList, value := ⟨"games.org".toList, by decide, by decide⟩ }

def startServer : Server where
  store := { groups := [mathGroup], rules := [algebra, games], requests := [] }
  calls := []
  cache := []
  answers := []

def mathCall : ExportCall where
  groupId := mathGroup.id
  group := mathGroup

/-- A call is under way. -/
def Server.withCall (server : Server) : Server :=
  { server with calls := mathCall :: server.calls }

/-- The document has been served with both rules. -/
def servedServer : Server :=
  startServer.withCall.answerCall 5000 mathCall (sortRules codePoints [algebra, games])

theorem step_withCall (hgroup : getGroupById server.store mathGroup.id = some mathGroup) :
    (exports codePoints 5000).step server (.readGroup mathGroup.id) server.withCall :=
  .readGroup server mathGroup.id mathGroup hgroup

theorem step_answerCall (hcall : mathCall ∈ server.calls)
    (hrows : rows.Perm (listRuleRowsByGroup server.store mathGroup.id none)) :
    (exports codePoints 5000).step server (.readRules mathCall rows)
      (server.answerCall 5000 mathCall (sortRules codePoints rows)) :=
  .readRules server mathCall rows hcall (by unfold Representable; decide) hrows

theorem reachable_servedServer :
    (exports codePoints 5000).ReachableBy (ReadsApart codePoints) servedServer := by
  have hstart : (exports codePoints 5000).ReachableBy (ReadsApart codePoints) startServer :=
    .start ⟨rfl, rfl, rfl⟩
  have hapart : ReadsApart codePoints startServer (.readGroup mathGroup.id) := trivial
  have hcalled := hstart.step hapart (step_withCall rfl)
  refine hcalled.step ?_ (step_answerCall List.mem_cons_self (List.Perm.refl _))
  intro answer hanswer
  cases hanswer

/-- A second call reads the rows in another order. -/
theorem servedServer_rendered :
    ∃ server, (exports codePoints 5000).ReachableBy (ReadsApart codePoints) server ∧
      server.answers.length = 2 ∧ ∀ answer ∈ server.answers, answer.Rendered := by
  have hapart : ReadsApart codePoints servedServer (.readGroup mathGroup.id) := trivial
  have hsame : sortRules codePoints [algebra, games] = sortRules codePoints [games, algebra] := by
    decide
  have hread : ReadsApart codePoints servedServer.withCall (.readRules mathCall [games, algebra]) := by
    intro answer hanswer _ _ _
    rw [List.mem_singleton.mp hanswer]
    exact Or.inl hsame
  have hserved := (reachable_servedServer.step hapart (step_withCall rfl)).step hread
    (step_answerCall List.mem_cons_self (List.Perm.swap algebra games []))
  exact ⟨_, hserved, rfl, answers_rendered hserved⟩

/-- The context of a call in the millisecond of the group's last change. -/
def sameMillisecond : CallContext where
  uuid := fun _ => []
  now := 0
  localeLe := codePoints.le
  driverMessage := fun _ => ""

/-- The other rule is deleted, and written into the comment of the one that
stays. -/
def changedServer : Server :=
  { servedServer with
    store := (Mutation.updateRule sameMillisecond algebra.id
        { value := none, comment := some (some "|b2:whitelist:games.org:1:".toList) }).apply
      ((Mutation.deleteRule sameMillisecond games.id).apply servedServer.store) }

/-- The rule as it is then. -/
def commentedAlgebra : RuleRow :=
  { algebra with comment := some ⟨"|b2:whitelist:games.org:1:".toList, by decide⟩ }

/-- The server goes on serving the deleted rule. -/
theorem deleted_rule_served :
    ∃ server, (exports codePoints 5000).Reachable server ∧
      ∃ answer ∈ server.answers, answer.rules = [commentedAlgebra] ∧
        answer.text = "## WHITELIST\nalgebra.org\ngames.org\n".toList ∧ ¬ answer.Rendered := by
  have hchanged : (exports codePoints 5000).Reachable changedServer := by
    have hdeleted := reachable_servedServer.reachable.step trivial
      (ExportStep.mutate servedServer (.deleteRule sameMillisecond games.id))
    exact hdeleted.step trivial (ExportStep.mutate _ (.updateRule sameMillisecond algebra.id _))
  have hcalled := hchanged.step trivial (step_withCall (by decide))
  have hrows : [commentedAlgebra].Perm
      (listRuleRowsByGroup changedServer.withCall.store mathGroup.id none) := by
    have hread : listRuleRowsByGroup changedServer.withCall.store mathGroup.id none =
        [commentedAlgebra] := by
      decide
    rw [hread]
  have hanswered := hcalled.step trivial (step_answerCall List.mem_cons_self hrows)
  refine ⟨_, hanswered, _, List.mem_cons_self, rfl, ?_, ?_⟩
  · decide
  · unfold ExportAnswer.Rendered
    decide

end OpenPath.Api.ExportCache
