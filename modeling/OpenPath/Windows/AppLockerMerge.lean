/-
# Merging the rules of OpenPath into the AppLocker policy

The local policy of a machine holds rules of its administrator and, known by the start of
their names, those of OpenPath. `Merge-OpenPathAppLockerPolicyXml` replaces the latter,
collection by collection, and sets the enforcement mode of a collection that it has rules
for; `Remove-OpenPathNonAdminAppControl` takes the rules out again and leaves the modes.

A policy is the list of its `RuleCollection` elements. The merge works on the first
collection of a type, and adds one where there is none. Other children of the policy and
other attributes are neither read nor changed.
-/

import OpenPath.Text.DotNet

namespace OpenPath.Windows.AppLocker

open DotNet

variable {Body : Type}

/-- A child of a rule collection: an element, whose `Name` may be absent, or a text or a
comment, whose name is none of OpenPath's. -/
inductive Node (Body : Type)
  | element (name : Option Text) (body : Body)
  | other (body : Body)
  deriving DecidableEq

/-- A `RuleCollection` element. -/
structure Collection (Body : Type) where
  type : Text
  enforcementMode : Option Text
  children : List (Node Body)
  deriving DecidableEq

abbrev Policy (Body : Type) := List (Collection Body)

/-- `$script:OpenPathAppControlRulePrefix` -/
def openPathAppControlRulePrefix : Text := "OpenPath non-admin app control".toList

/-- `Get-OpenPathAppLockerRuleName` -/
def Node.ruleName : Node Body → Text
  | .element name _ => name.getD []
  | .other _ => []

def Node.isElement : Node Body → Bool
  | .element _ _ => true
  | .other _ => false

/-- `Test-OpenPathAppLockerRuleManaged` -/
def Node.isManaged (rule : Node Body) : Bool :=
  startsWithIgnoreCase rule.ruleName openPathAppControlRulePrefix

/-- The collection without the rules of OpenPath. -/
def Collection.withoutManaged (target : Collection Body) : Collection Body :=
  { target with children := target.children.filter fun rule => !rule.isManaged }

/-- Some element of the collection is no rule of OpenPath. -/
def Collection.hasUnmanaged (target : Collection Body) : Bool :=
  target.children.any fun rule => rule.isElement && !rule.isManaged

/-- `SetAttribute` of the enforcement mode that the source has. -/
def Collection.setMode (target source : Collection Body) : Collection Body :=
  { target with enforcementMode := source.enforcementMode.or target.enforcementMode }

/-- A collection without old rules of OpenPath takes those of the source. -/
def Collection.takeRules (kept source : Collection Body) : Collection Body :=
  if source.children = [] then
    if kept.hasUnmanaged then kept else kept.setMode source
  else
    { kept with
      enforcementMode := source.enforcementMode.or kept.enforcementMode
      children := kept.children ++ source.children }

/-- What the merge does with the collection of a type. -/
def Collection.merge (target source : Collection Body) : Collection Body :=
  target.withoutManaged.takeRules source

/-- `Get-OpenPathAppLockerCollection`: the first collection of a type. -/
def appLockerCollection (policy : Policy Body) (type : Text) : Option (Collection Body) :=
  policy.find? fun collection => equalsIgnoreCase collection.type type

/-- `ImportNode` of a collection without its children. -/
def Collection.shallow (source : Collection Body) : Collection Body :=
  { source with children := [] }

/-- The first collection of the type of the source is merged with it, or a new one. -/
def mergeCollection (current : Policy Body) (source : Collection Body) : Policy Body :=
  match current with
  | [] => [source.shallow.merge source]
  | target :: others =>
      if equalsIgnoreCase target.type source.type then target.merge source :: others
      else target :: mergeCollection others source

/-- `Merge-OpenPathAppLockerPolicyXml` -/
def merge (currentPolicy openPathPolicy : Policy Body) : Policy Body :=
  openPathPolicy.foldl mergeCollection currentPolicy

/-- The rules of OpenPath are removed, as in `Remove-OpenPathNonAdminAppControl`. -/
def removeManaged (policy : Policy Body) : Policy Body :=
  policy.map Collection.withoutManaged

/-! ## One collection -/

/-- The children that are no rules of OpenPath. -/
def Collection.unmanaged (target : Collection Body) : List (Node Body) :=
  target.children.filter fun rule => !rule.isManaged

/-- The rules of OpenPath. -/
def Collection.managed (target : Collection Body) : List (Node Body) :=
  target.children.filter Node.isManaged

/-- All children are rules of OpenPath. -/
def Collection.IsOwned (source : Collection Body) : Prop :=
  ∀ rule ∈ source.children, rule.isManaged = true

section Collections

variable {target source : Collection Body}

theorem Collection.IsOwned.unmanaged (h : source.IsOwned) : source.unmanaged = [] := by
  rw [Collection.unmanaged, List.filter_eq_nil_iff]
  intro rule hrule
  rw [h rule hrule]
  exact Bool.false_ne_true

theorem Collection.IsOwned.managed (h : source.IsOwned) : source.managed = source.children :=
  List.filter_eq_self.mpr h

theorem Collection.children_withoutManaged (target : Collection Body) :
    target.withoutManaged.children = target.unmanaged :=
  rfl

theorem Collection.hasUnmanaged_eq (target : Collection Body) :
    target.hasUnmanaged = target.unmanaged.any Node.isElement := by
  rw [hasUnmanaged, unmanaged, List.any_filter]
  simp only [Bool.and_comm]

theorem Collection.unmanaged_unmanaged (target : Collection Body) :
    target.withoutManaged.unmanaged = target.unmanaged := by
  rw [unmanaged, children_withoutManaged, unmanaged, List.filter_filter]
  simp only [Bool.and_self]

theorem Collection.managed_withoutManaged (target : Collection Body) :
    target.withoutManaged.managed = [] := by
  rw [managed, children_withoutManaged, unmanaged, List.filter_filter, List.filter_eq_nil_iff]
  intro rule _
  simp

@[simp] theorem Collection.type_merge : (target.merge source).type = target.type := by
  unfold Collection.merge Collection.takeRules
  split
  · split <;> rfl
  · rfl

theorem Collection.children_merge :
    (target.merge source).children = target.unmanaged ++ source.children := by
  unfold Collection.merge Collection.takeRules
  split
  · next hempty =>
    rw [hempty, List.append_nil]
    split <;> rfl
  · rfl

/-- The mode that a merge leaves: that of the source where it has rules or the collection
has no other elements. -/
theorem Collection.enforcementMode_merge :
    (target.merge source).enforcementMode =
      if source.children = [] ∧ target.unmanaged.any Node.isElement = true then
        target.enforcementMode
      else source.enforcementMode.or target.enforcementMode := by
  unfold Collection.merge Collection.takeRules
  rw [Collection.hasUnmanaged_eq, Collection.unmanaged_unmanaged]
  by_cases hempty : source.children = []
  · by_cases hothers : target.unmanaged.any Node.isElement = true
    · rw [if_pos hempty, if_pos hothers, if_pos ⟨hempty, hothers⟩]
      rfl
    · rw [if_pos hempty, if_neg hothers, if_neg fun h => hothers h.2]
      rfl
  · rw [if_neg hempty, if_neg fun h => hempty h.1]
    rfl

theorem Collection.unmanaged_merge (h : source.IsOwned) :
    (target.merge source).unmanaged = target.unmanaged := by
  have hsource : source.children.filter (fun rule => !rule.isManaged) = [] := h.unmanaged
  rw [unmanaged, children_merge, List.filter_append, hsource, List.append_nil]
  exact target.unmanaged_unmanaged

theorem Collection.managed_merge (h : source.IsOwned) :
    (target.merge source).managed = source.children := by
  have htarget : target.unmanaged.filter Node.isManaged = [] := target.managed_withoutManaged
  have hsource : source.children.filter Node.isManaged = source.children := h.managed
  rw [managed, children_merge, List.filter_append, htarget, hsource, List.nil_append]

theorem Collection.merge_merge (h : source.IsOwned) :
    (target.merge source).merge source = target.merge source := by
  have htype : ((target.merge source).merge source).type = (target.merge source).type := type_merge
  have hchildren : ((target.merge source).merge source).children =
      (target.merge source).children := by
    rw [children_merge, unmanaged_merge h, children_merge]
  have hmode : ((target.merge source).merge source).enforcementMode =
      (target.merge source).enforcementMode := by
    rw [enforcementMode_merge, unmanaged_merge h, enforcementMode_merge]
    split
    · rfl
    · cases source.enforcementMode <;> rfl
  cases hmerged : (target.merge source).merge source
  rw [hmerged] at htype hchildren hmode
  subst htype hchildren hmode
  rfl

end Collections

/-! ## The collections of a policy -/

/-- A policy that OpenPath makes: it has one collection of a type, with its own rules. -/
structure IsOpenPathPolicy (policy : Policy Body) : Prop where
  types : policy.Pairwise fun first second => equalsIgnoreCase first.type second.type = false
  owned : ∀ source ∈ policy, source.IsOwned

variable {source : Collection Body} {policy : Policy Body}

/-- No other collection has the type of the first. -/
theorem IsOpenPathPolicy.appLockerCollection_eq_none (h : IsOpenPathPolicy (source :: policy))
    {type : Text} (htype : equalsIgnoreCase source.type type = true) :
    appLockerCollection policy type = none := by
  rw [appLockerCollection, List.find?_eq_none]
  intro other hother
  rw [equalsIgnoreCase_comm, ← equalsIgnoreCase_congr htype]
  rw [(List.pairwise_cons.mp h.types).1 other hother]
  exact Bool.false_ne_true

theorem IsOpenPathPolicy.tail (h : IsOpenPathPolicy (source :: policy)) : IsOpenPathPolicy policy where
  types := h.types.tail
  owned := fun other hother => h.owned other (List.mem_cons_of_mem source hother)

section Policies

variable {current openPath : Policy Body} {source : Collection Body}

theorem appLockerCollection_cons (target : Collection Body) (others : Policy Body) (type : Text) :
    appLockerCollection (target :: others) type =
      if equalsIgnoreCase target.type type then some target
      else appLockerCollection others type := by
  rw [appLockerCollection, List.find?_cons]
  cases equalsIgnoreCase target.type type <;> rfl

theorem appLockerCollection_congr {first second : Text}
    (h : equalsIgnoreCase first second = true) (policy : Policy Body) :
    appLockerCollection policy first = appLockerCollection policy second := by
  rw [appLockerCollection, appLockerCollection]
  congr 1
  funext collection
  rw [equalsIgnoreCase_comm, equalsIgnoreCase_congr h, equalsIgnoreCase_comm]

theorem appLockerCollection_mergeCollection (type : Text) :
    appLockerCollection (mergeCollection current source) type =
      if equalsIgnoreCase source.type type then
        some (((appLockerCollection current source.type).getD source.shallow).merge source)
      else appLockerCollection current type := by
  induction current with
  | nil =>
      rw [mergeCollection, appLockerCollection_cons, Collection.type_merge]
      rfl
  | cons target others ih =>
      rw [mergeCollection, appLockerCollection_cons target others source.type,
        appLockerCollection_cons target others type]
      by_cases hsource : equalsIgnoreCase target.type source.type = true
      · rw [if_pos hsource, if_pos hsource, appLockerCollection_cons, Collection.type_merge,
          equalsIgnoreCase_congr hsource]
        split <;> rfl
      · rw [if_neg hsource, if_neg hsource, appLockerCollection_cons, ih]
        by_cases htarget : equalsIgnoreCase target.type type = true
        · have hother : ¬ equalsIgnoreCase source.type type = true := by
            intro htype
            rw [equalsIgnoreCase_comm] at htype
            rw [equalsIgnoreCase_comm, ← equalsIgnoreCase_congr htype, equalsIgnoreCase_comm] at hsource
            exact hsource htarget
          rw [if_pos htarget, if_pos htarget, if_neg hother]
        · rw [if_neg htarget, if_neg htarget]

theorem appLockerCollection_merge (h : IsOpenPathPolicy openPath) (type : Text) :
    appLockerCollection (merge current openPath) type =
      match appLockerCollection openPath type with
      | none => appLockerCollection current type
      | some source =>
          some (((appLockerCollection current type).getD source.shallow).merge source) := by
  induction openPath generalizing current with
  | nil => rfl
  | cons source openPath ih =>
      have hmerge : merge current (source :: openPath) =
          merge (mergeCollection current source) openPath := rfl
      rw [hmerge, ih h.tail, appLockerCollection_mergeCollection, appLockerCollection_cons]
      by_cases htype : equalsIgnoreCase source.type type = true
      · rw [if_pos htype, if_pos htype, h.appLockerCollection_eq_none htype,
          appLockerCollection_congr htype]
      · rw [if_neg htype, if_neg htype]

/-! ## What a merge keeps -/

/-- Each collection keeps its place, its type and the given rules, and what is added has
none of them. -/
inductive Extends (rules : Collection Body → List (Node Body)) : Policy Body → Policy Body → Prop
  | added {after : Policy Body} (none : ∀ collection ∈ after, rules collection = []) :
      Extends rules [] after
  | kept {old new : Collection Body} {olds news : Policy Body} (type : new.type = old.type)
      (same : rules new = rules old) (rest : Extends rules olds news) :
      Extends rules (old :: olds) (new :: news)

section Extends

variable {rules : Collection Body → List (Node Body)} {first second third : Policy Body}

theorem Extends.refl (policy : Policy Body) : Extends rules policy policy := by
  induction policy with
  | nil => exact .added fun _ hcollection => (List.not_mem_nil hcollection).elim
  | cons collection policy ih => exact .kept rfl rfl ih

/-- What is added to collections without the rules has none. -/
theorem Extends.none (h : Extends rules first second)
    (hfirst : ∀ collection ∈ first, rules collection = []) :
    ∀ collection ∈ second, rules collection = [] := by
  induction h with
  | added hnone => exact hnone
  | @kept old new olds news type same rest ih =>
      intro collection hcollection
      rcases List.mem_cons.mp hcollection with rfl | hrest
      · exact same.trans (hfirst old List.mem_cons_self)
      · exact ih (fun other hother => hfirst other (List.mem_cons_of_mem old hother)) collection hrest

theorem Extends.trans (h : Extends rules first second) (hnext : Extends rules second third) :
    Extends rules first third := by
  induction h generalizing third with
  | added hnone => exact .added (hnext.none hnone)
  | kept type same rest ih =>
      cases hnext with
      | kept typeNext sameNext restNext =>
          exact .kept (typeNext.trans type) (sameNext.trans same) (ih restNext)

end Extends

theorem extends_mergeCollection (h : source.IsOwned) :
    Extends Collection.unmanaged current (mergeCollection current source) := by
  induction current with
  | nil =>
      apply Extends.added
      intro collection hcollection
      rw [List.mem_singleton.mp hcollection, Collection.unmanaged_merge h]
      rfl
  | cons target others ih =>
      rw [mergeCollection]
      split
      · exact .kept Collection.type_merge (Collection.unmanaged_merge h) (.refl others)
      · exact .kept rfl rfl ih

/-- A merge keeps all rules that are not OpenPath's. -/
theorem extends_merge (h : IsOpenPathPolicy openPath) :
    Extends Collection.unmanaged current (merge current openPath) := by
  induction openPath generalizing current with
  | nil => exact .refl current
  | cons source openPath ih =>
      exact (extends_mergeCollection (h.owned source List.mem_cons_self)).trans (ih h.tail)

variable {policies : List (Policy Body)}

theorem extends_merges (h : ∀ openPath ∈ policies, IsOpenPathPolicy openPath) :
    Extends Collection.unmanaged current (policies.foldl merge current) := by
  induction policies generalizing current with
  | nil => exact .refl current
  | cons openPath policies ih =>
      exact (extends_merge (h openPath List.mem_cons_self)).trans
        (ih fun other hother => h other (List.mem_cons_of_mem openPath hother))

/-! ## Merging twice -/

theorem mergeCollection_eq_self {collection : Collection Body}
    (hfound : appLockerCollection current source.type = some collection)
    (hmerged : collection.merge source = collection) : mergeCollection current source = current := by
  induction current with
  | nil => cases hfound
  | cons target others ih =>
      rw [appLockerCollection_cons] at hfound
      rw [mergeCollection]
      split
      · next htype =>
        rw [if_pos htype] at hfound
        obtain rfl := Option.some_inj.mp hfound
        rw [hmerged]
      · next htype =>
        rw [if_neg htype] at hfound
        rw [ih hfound]

theorem IsOpenPathPolicy.appLockerCollection_eq_some {policy : Policy Body}
    (h : IsOpenPathPolicy policy) (hsource : source ∈ policy) :
    appLockerCollection policy source.type = some source := by
  induction policy with
  | nil => exact (List.not_mem_nil hsource).elim
  | cons first policy ih =>
      rw [appLockerCollection_cons]
      rcases List.mem_cons.mp hsource with rfl | hrest
      · rw [if_pos (equalsIgnoreCase_self _)]
      · rw [(List.pairwise_cons.mp h.types).1 source hrest]
        exact ih h.tail hrest

/-- A second merge of the same policy changes nothing. -/
theorem merge_merge (h : IsOpenPathPolicy openPath) :
    merge (merge current openPath) openPath = merge current openPath := by
  have hfixed : ∀ source ∈ openPath,
      mergeCollection (merge current openPath) source = merge current openPath := by
    intro source hsource
    have hfound : appLockerCollection (merge current openPath) source.type = _ :=
      appLockerCollection_merge h source.type
    rw [h.appLockerCollection_eq_some hsource] at hfound
    exact mergeCollection_eq_self hfound (Collection.merge_merge (h.owned source hsource))
  have hfold : ∀ sources : Policy Body, (∀ source ∈ sources, source ∈ openPath) →
      sources.foldl mergeCollection (merge current openPath) = merge current openPath := by
    intro sources hsources
    induction sources with
    | nil => rfl
    | cons source sources ih =>
        rw [List.foldl_cons, hfixed source (hsources source List.mem_cons_self)]
        exact ih fun other hother => hsources other (List.mem_cons_of_mem source hother)
  exact hfold openPath fun _ hsource => hsource

/-! ## Collections that a merge leaves alone -/

/-- An earlier collection has the type. -/
def HasEarlier (front : Policy Body) (type : Text) : Prop :=
  ∃ found ∈ front.map Collection.type, equalsIgnoreCase found type = true

variable {front : Policy Body}

/-- A source of another type, or of that of an earlier collection, is not merged with a
collection. -/
theorem mergeCollection_append {target : Collection Body} (others : Policy Body)
    (h : equalsIgnoreCase target.type source.type = false ∨ HasEarlier front target.type) :
    ∃ before after, mergeCollection (front ++ target :: others) source = before ++ target :: after ∧
      before.map Collection.type = front.map Collection.type := by
  induction front with
  | nil =>
      have htype : equalsIgnoreCase target.type source.type = false := by
        refine h.resolve_right fun hearlier => ?_
        obtain ⟨found, hfound, _⟩ := hearlier
        exact List.not_mem_nil hfound
      refine ⟨[], mergeCollection others source, ?_, rfl⟩
      rw [List.nil_append, mergeCollection, htype]
      rfl
  | cons first front ih =>
      rw [List.cons_append, mergeCollection]
      split
      · exact ⟨first.merge source :: front, others, rfl, by simp⟩
      · next hfirst =>
        have hrest : equalsIgnoreCase target.type source.type = false ∨
            HasEarlier front target.type := by
          rcases h with htype | ⟨found, hfound, hsame⟩
          · exact .inl htype
          · rcases List.mem_cons.mp hfound with rfl | hlater
            · left
              rw [← equalsIgnoreCase_congr hsame]
              exact Bool.eq_false_iff.mpr hfirst
            · exact .inr ⟨found, hlater, hsame⟩
        obtain ⟨before, after, hmerged, htypes⟩ := ih hrest
        refine ⟨first :: before, after, ?_, ?_⟩
        · rw [hmerged, List.cons_append]
        · rw [List.map_cons, List.map_cons, htypes]

/-- A collection of another type, or after one of its type, is left alone. -/
theorem merge_append {target : Collection Body} (others : Policy Body)
    (h : appLockerCollection openPath target.type = none ∨ HasEarlier front target.type) :
    ∃ before after, merge (front ++ target :: others) openPath = before ++ target :: after ∧
      before.map Collection.type = front.map Collection.type := by
  induction openPath generalizing front others with
  | nil => exact ⟨front, others, rfl, rfl⟩
  | cons source openPath ih =>
      have hsource : equalsIgnoreCase target.type source.type = false ∨
          HasEarlier front target.type := by
        refine h.imp_left fun hnone => ?_
        rw [appLockerCollection_cons] at hnone
        split at hnone
        · cases hnone
        · next htype =>
          rw [equalsIgnoreCase_comm]
          exact Bool.eq_false_iff.mpr htype
      obtain ⟨before, after, hmerged, htypes⟩ :=
        mergeCollection_append others hsource
      have hrest : appLockerCollection openPath target.type = none ∨
          HasEarlier before target.type := by
        rcases h with hnone | hearlier
        · rw [appLockerCollection_cons] at hnone
          split at hnone
          · cases hnone
          · exact .inl hnone
        · rw [HasEarlier, htypes]
          exact .inr hearlier
      obtain ⟨beforeNext, afterNext, hnext, htypesNext⟩ := ih after hrest
      refine ⟨beforeNext, afterNext, ?_, htypesNext.trans htypes⟩
      rw [← hnext, ← hmerged]
      rfl

/-! ## Removing the rules -/

/-- Of a policy that a merge has extended, the removal leaves the rules that it had. -/
theorem Extends.removeManaged {before after : Policy Body}
    (h : Extends Collection.unmanaged before after)
    (hbefore : ∀ collection ∈ before, collection.managed = []) :
    Extends Collection.children before (removeManaged after) := by
  induction h with
  | added hnone =>
      apply Extends.added
      intro collection hcollection
      obtain ⟨found, hfound, rfl⟩ := List.mem_map.mp hcollection
      exact hnone found hfound
  | @kept old new olds news type same rest ih =>
      have hchildren : old.unmanaged = old.children := by
        refine List.filter_eq_self.mpr fun rule hrule => ?_
        have hnone := List.filter_eq_nil_iff.mp (hbefore old List.mem_cons_self) rule hrule
        rw [Bool.eq_false_iff.mpr hnone]
        rfl
      exact .kept type (same.trans hchildren)
        (ih fun collection hcollection => hbefore collection (List.mem_cons_of_mem old hcollection))

/-! ## Enforcement modes -/

/-- The enforcement mode of the first collection of a type. -/
def enforcementModeOf (policy : Policy Body) (type : Text) : Option Text :=
  (appLockerCollection policy type).bind Collection.enforcementMode

/-- The first collection of the type has an element that is no rule of OpenPath. -/
def hasOthers (policy : Policy Body) (type : Text) : Bool :=
  (appLockerCollection policy type).any Collection.hasUnmanaged

/-- The mode after a merge: that of the OpenPath policy where it has rules for the type, or
there are no others. -/
def modeAfter (type : Text) (others : Bool) (mode : Option Text) (openPath : Policy Body) :
    Option Text :=
  match appLockerCollection openPath type with
  | none => mode
  | some source =>
      if source.children = [] ∧ others = true then mode else source.enforcementMode.or mode

theorem enforcementModeOf_merge (h : IsOpenPathPolicy openPath) (type : Text) :
    enforcementModeOf (merge current openPath) type =
      modeAfter type (hasOthers current type) (enforcementModeOf current type) openPath := by
  rw [enforcementModeOf, appLockerCollection_merge h, modeAfter, enforcementModeOf, hasOthers]
  cases appLockerCollection openPath type with
  | none => rfl
  | some source =>
      rw [Option.bind_some, Collection.enforcementMode_merge]
      cases appLockerCollection current type with
      | none =>
          rw [Option.getD_none, Option.bind_none, Option.any_none]
          cases hmode : source.enforcementMode <;> simp [Collection.shallow, hmode, Collection.unmanaged]
      | some target =>
          rw [Option.getD_some, Option.bind_some, Option.any_some, Collection.hasUnmanaged_eq]

theorem hasOthers_merge (h : IsOpenPathPolicy openPath) (type : Text) :
    hasOthers (merge current openPath) type = hasOthers current type := by
  rw [hasOthers, appLockerCollection_merge h, hasOthers]
  cases hsource : appLockerCollection openPath type with
  | none => rfl
  | some source =>
      have howned := h.owned source (List.mem_of_find?_eq_some hsource)
      rw [Option.any_some, Collection.hasUnmanaged_eq, Collection.unmanaged_merge howned]
      cases appLockerCollection current type with
      | none => rfl
      | some target =>
          rw [Option.getD_some, Option.any_some, Collection.hasUnmanaged_eq]

theorem enforcementModeOf_merges (h : ∀ openPath ∈ policies, IsOpenPathPolicy openPath)
    (type : Text) :
    enforcementModeOf (policies.foldl merge current) type =
      policies.foldl (modeAfter type (hasOthers current type)) (enforcementModeOf current type) := by
  induction policies generalizing current with
  | nil => rfl
  | cons openPath policies ih =>
      have hfirst := h openPath List.mem_cons_self
      rw [List.foldl_cons, List.foldl_cons,
        ih fun other hother => h other (List.mem_cons_of_mem openPath hother),
        hasOthers_merge hfirst, enforcementModeOf_merge hfirst]

theorem enforcementModeOf_removeManaged (policy : Policy Body) (type : Text) :
    enforcementModeOf (removeManaged policy) type = enforcementModeOf policy type := by
  induction policy with
  | nil => rfl
  | cons target others ih =>
      rw [enforcementModeOf, enforcementModeOf] at ih ⊢
      rw [removeManaged, List.map_cons, appLockerCollection_cons, appLockerCollection_cons]
      have htype : target.withoutManaged.type = target.type := rfl
      rw [htype]
      split
      · rfl
      · exact ih

/-- A merge keeps what is not OpenPath's and gives the first collection of each of its
types exactly the new rules; the others are left alone. Merging again changes nothing, and
removing gives back the rules before the merges, with the modes that they have left. -/
theorem merge_frame {policies : List (Policy Body)}
    (h : ∀ openPath ∈ policies, IsOpenPathPolicy openPath) :
    (∀ openPath ∈ policies,
      Extends Collection.unmanaged current (merge current openPath) ∧
      (∀ source ∈ openPath, ∃ target,
        appLockerCollection (merge current openPath) source.type = some target ∧
          target.managed = source.children) ∧
      (∀ front target others, current = front ++ target :: others →
        appLockerCollection openPath target.type = none ∨ HasEarlier front target.type →
          (merge current openPath)[front.length]? = some target) ∧
      merge (merge current openPath) openPath = merge current openPath) ∧
    ((∀ collection ∈ current, collection.managed = []) →
      Extends Collection.children current (removeManaged (policies.foldl merge current))) ∧
    ∀ type, enforcementModeOf (removeManaged (policies.foldl merge current)) type =
      policies.foldl (modeAfter type (hasOthers current type))
        (enforcementModeOf current type) := by
  refine ⟨fun openPath hopenPath => ?_, fun hnone => (extends_merges h).removeManaged hnone,
    fun type => ?_⟩
  · have hpolicy := h openPath hopenPath
    refine ⟨extends_merge hpolicy, fun source hsource => ?_, ?_, merge_merge hpolicy⟩
    · have hfound : appLockerCollection (merge current openPath) source.type = _ :=
        appLockerCollection_merge hpolicy source.type
      rw [hpolicy.appLockerCollection_eq_some hsource] at hfound
      exact ⟨_, hfound, Collection.managed_merge (hpolicy.owned source hsource)⟩
    · rintro front target others rfl hapart
      obtain ⟨before, after, hmerged, htypes⟩ := merge_append others hapart
      have hlength : before.length = front.length := by
        rw [← List.length_map Collection.type, htypes, List.length_map]
      rw [hmerged, ← hlength, List.getElem?_append_right (Nat.le_refl _), Nat.sub_self]
      rfl
  · rw [enforcementModeOf_removeManaged, enforcementModeOf_merges h]

/-! ### A rule of each -/

/-- The administrator watches executables with a rule of their own. -/
def auditedPolicy : Policy Nat :=
  [{ type := "Exe".toList
     enforcementMode := some "AuditOnly".toList
     children := [.element (some "Vendor allow".toList) 1] }]

def enforcedPolicy : Policy Nat :=
  [{ type := "Exe".toList
     enforcementMode := some "Enabled".toList
     children := [.element (some "OpenPath non-admin app control Exe system allow all".toList) 2] }]

theorem isOpenPathPolicy_enforcedPolicy : IsOpenPathPolicy enforcedPolicy where
  types := List.pairwise_singleton _ _
  owned := by
    intro source hsource rule hrule
    obtain rfl := List.mem_singleton.mp hsource
    obtain rfl := List.mem_singleton.mp hrule
    decide

theorem merge_frame_enforcedPolicy :
    removeManaged (merge auditedPolicy enforcedPolicy) ≠ [] ∧
      Extends Collection.children auditedPolicy
        (removeManaged (merge auditedPolicy enforcedPolicy)) := by
  have hpolicies : ∀ openPath ∈ [enforcedPolicy], IsOpenPathPolicy openPath := by
    intro openPath hopenPath
    obtain rfl := List.mem_singleton.mp hopenPath
    exact isOpenPathPolicy_enforcedPolicy
  have hnone : ∀ collection ∈ auditedPolicy, collection.managed = [] := by
    intro collection hcollection
    obtain rfl := List.mem_singleton.mp hcollection
    decide
  exact ⟨by decide, (merge_frame hpolicies).2.1 hnone⟩

/-- The collection that was only watched is enforced once the rules are removed. -/
theorem not_enforcementModeOf_removeManaged :
    enforcementModeOf auditedPolicy "Exe".toList = some "AuditOnly".toList ∧
      enforcementModeOf (removeManaged (merge auditedPolicy enforcedPolicy)) "Exe".toList =
        some "Enabled".toList := by
  decide

end Policies

end OpenPath.Windows.AppLocker
