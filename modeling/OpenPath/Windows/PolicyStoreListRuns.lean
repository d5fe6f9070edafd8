/-
# Synchronised lists

A list that was synchronised keeps what is not the agent's and holds each requested text; a
second run changes nothing, and a removal takes just the agent's entries away. The numbers for
the added entries are chosen from the file alone, so that a value that only the registry holds
may lie in their way.
-/

import OpenPath.Windows.PolicyStoreListPlan

namespace OpenPath.Windows.PolicyStore

open Foundation RegistryPol

variable {characters : Characters}

/-! ## Values by names -/

section Values

variable {properties : List Property} {name other : Utf16}

/-- What the registry holds under a name. -/
def valueOf (characters : Characters) (name : Utf16) (properties : List Property) :
    Option RegistryValue :=
  (findProperty characters name properties).map Property.value

/-- No two values have the same name. -/
def DistinctNames (characters : Characters) (properties : List Property) : Prop :=
  (properties.map fun property => fold characters.upper property.name).Nodup

theorem testPolicyNameEqual_comm {first second : Utf16} :
    testPolicyNameEqual characters.upper first second =
      testPolicyNameEqual characters.upper second first := by
  rw [Bool.eq_iff_iff, testPolicyNameEqual_iff, testPolicyNameEqual_iff, eq_comm]

theorem valueOf_cons (property : Property) :
    valueOf characters name (property :: properties) =
      if testPolicyNameEqual characters.upper property.name name = true then some property.value
      else valueOf characters name properties := by
  rw [valueOf, findProperty, List.find?_cons]
  split
  · next h => rw [if_pos h]; rfl
  · next h => rw [if_neg (by rw [h]; exact Bool.false_ne_true)]; rfl

theorem findProperty_congr (h : testPolicyNameEqual characters.upper name other = true) :
    findProperty characters name properties = findProperty characters other properties := by
  simp only [findProperty, testPolicyNameEqual_congr h]

theorem valueOf_congr (h : testPolicyNameEqual characters.upper name other = true) :
    valueOf characters name properties = valueOf characters other properties := by
  rw [valueOf, findProperty_congr h, valueOf]

theorem valueOf_setProperty (value : RegistryValue) :
    valueOf characters name (setProperty characters.upper other value properties) =
      if testPolicyNameEqual characters.upper other name = true then some value
      else valueOf characters name properties := by
  induction properties with
  | nil =>
      rw [setProperty, valueOf_cons]
  | cons property properties ih =>
      rw [setProperty]
      split
      · next hsame =>
          have hnames : testPolicyNameEqual characters.upper property.name name =
              testPolicyNameEqual characters.upper other name := by
            rw [testPolicyNameEqual, testPolicyNameEqual, testPolicyNameEqual_iff.mp hsame]
          rw [valueOf_cons, valueOf_cons, hnames]
          split <;> rfl
      · next hother =>
          rw [valueOf_cons, ih, valueOf_cons]
          by_cases hname : testPolicyNameEqual characters.upper other name = true
          · have hproperty : ¬ testPolicyNameEqual characters.upper property.name name = true := by
              rwa [testPolicyNameEqual_congr hname] at hother
            simp [hname, hproperty]
          · simp [hname]

theorem valueOf_removeProperty :
    valueOf characters name (removeProperty characters.upper other properties) =
      if testPolicyNameEqual characters.upper other name = true then none
      else valueOf characters name properties := by
  induction properties with
  | nil => simp [removeProperty, valueOf, findProperty]
  | cons property properties ih =>
      rw [removeProperty] at ih ⊢
      rw [List.filter_cons]
      by_cases hsame : testPolicyNameEqual characters.upper property.name other = true
      · have hnames : testPolicyNameEqual characters.upper property.name name =
            testPolicyNameEqual characters.upper other name := by
          rw [testPolicyNameEqual, testPolicyNameEqual, testPolicyNameEqual_iff.mp hsame]
        rw [hsame, if_neg (by decide), ih, valueOf_cons, hnames]
        split <;> rfl
      · rw [Bool.not_eq_true] at hsame
        rw [hsame, if_pos (by decide), valueOf_cons, ih, valueOf_cons]
        by_cases hname : testPolicyNameEqual characters.upper other name = true
        · rw [testPolicyNameEqual_congr hname] at hsame
          simp [hname, hsame]
        · simp [hname]

theorem valueOf_eq_none (h : ∀ property ∈ properties,
    testPolicyNameEqual characters.upper property.name name = false) :
    valueOf characters name properties = none := by
  rw [valueOf, findProperty, List.find?_eq_none.mpr]
  · rfl
  · intro property hproperty
    rw [h property hproperty]
    exact Bool.false_ne_true

variable {property : Property}

theorem valueOf_of_mem (hdistinct : DistinctNames characters properties)
    (h : property ∈ properties) (hname : testPolicyNameEqual characters.upper property.name name) :
    valueOf characters name properties = some property.value := by
  induction properties with
  | nil => exact (List.not_mem_nil h).elim
  | cons first properties ih =>
      rw [DistinctNames, List.map_cons, List.nodup_cons] at hdistinct
      rw [valueOf_cons]
      obtain rfl | hrest := List.mem_cons.mp h
      · rw [if_pos hname]
      · rw [if_neg, ih hdistinct.2 hrest]
        intro hfirst
        apply hdistinct.1
        rw [testPolicyNameEqual_iff] at hname hfirst
        exact List.mem_map.mpr ⟨property, hrest, hname.trans hfirst.symm⟩

theorem eq_of_sameName (hdistinct : DistinctNames characters properties) {first second : Property}
    (hfirst : first ∈ properties) (hsecond : second ∈ properties)
    (h : testPolicyNameEqual characters.upper first.name second.name = true) : first = second :=
  List.inj_on_of_nodup_map hdistinct hfirst hsecond (testPolicyNameEqual_iff.mp h)

theorem map_fold_setProperty (value : RegistryValue) :
    (setProperty characters.upper name value properties).map
        (fun property => fold characters.upper property.name) =
      properties.map (fun property => fold characters.upper property.name) ∨
    (setProperty characters.upper name value properties).map
        (fun property => fold characters.upper property.name) =
      properties.map (fun property => fold characters.upper property.name) ++
        [fold characters.upper name] ∧
      ∀ property ∈ properties, fold characters.upper property.name ≠ fold characters.upper name := by
  induction properties with
  | nil => exact .inr ⟨rfl, fun property h => (List.not_mem_nil h).elim⟩
  | cons property properties ih =>
      rw [setProperty]
      split
      · exact .inl rfl
      · next hother =>
          rw [testPolicyNameEqual_iff] at hother
          rw [List.map_cons, List.map_cons]
          obtain hsame | ⟨hadded, hnew⟩ := ih
          · exact .inl (congrArg _ hsame)
          · exact .inr ⟨congrArg _ hadded, List.forall_mem_cons.mpr ⟨hother, hnew⟩⟩

theorem distinctNames_setProperty (value : RegistryValue)
    (h : DistinctNames characters properties) :
    DistinctNames characters (setProperty characters.upper name value properties) := by
  rw [DistinctNames] at h ⊢
  obtain hsame | ⟨hadded, hnew⟩ := @map_fold_setProperty characters properties name value
  · rwa [hsame]
  · rw [hadded, List.nodup_append]
    refine ⟨h, List.pairwise_singleton _ _, ?_⟩
    intro first hfirst second hsecond heq
    obtain ⟨property, hproperty, rfl⟩ := List.mem_map.mp hfirst
    exact hnew property hproperty (heq.trans (List.mem_singleton.mp hsecond))

variable {value : RegistryValue}

section

variable (h : property ∈ setProperty characters.upper name value properties)
include h

theorem name_of_mem_setProperty :
    property ∈ properties ∨ property.name = name ∨
      ∃ earlier ∈ properties, property.name = earlier.name ∧
        testPolicyNameEqual characters.upper earlier.name name = true := by
  induction properties with
  | nil => exact .inr (.inl (congrArg Property.name (List.mem_singleton.mp h)))
  | cons first properties ih =>
      rw [setProperty] at h
      split at h
      · next hsame =>
          obtain rfl | hrest := List.mem_cons.mp h
          · exact .inr (.inr ⟨first, List.mem_cons_self, rfl, hsame⟩)
          · exact .inl (List.mem_cons_of_mem _ hrest)
      · obtain rfl | hrest := List.mem_cons.mp h
        · exact .inl List.mem_cons_self
        · obtain hmem | hname | ⟨earlier, hearlier, hequal⟩ := ih hrest
          · exact .inl (List.mem_cons_of_mem _ hmem)
          · exact .inr (.inl hname)
          · exact .inr (.inr ⟨earlier, List.mem_cons_of_mem _ hearlier, hequal⟩)

/-- A value of another name was there before. -/
theorem mem_of_mem_setProperty
    (hname : testPolicyNameEqual characters.upper property.name name = false) :
    property ∈ properties := by
  obtain hmem | rfl | ⟨earlier, -, hequal, hsame⟩ := name_of_mem_setProperty h
  · exact hmem
  · rw [testPolicyNameEqual, beq_self_eq_true] at hname
    cases hname
  · rw [hequal, hsame] at hname
    cases hname

end

/-! ### Many values -/

variable {desired : List Property}

theorem valueOf_withProperties (hdistinct : DistinctNames characters desired) :
    valueOf characters name (withProperties characters.upper properties desired) =
      (valueOf characters name desired).or (valueOf characters name properties) := by
  induction desired generalizing properties with
  | nil => rfl
  | cons first desired ih =>
      have hrest : DistinctNames characters desired := (List.nodup_cons.mp hdistinct).2
      have hfirst : ∀ property ∈ desired,
          fold characters.upper property.name ≠ fold characters.upper first.name := by
        intro property hproperty heq
        exact (List.nodup_cons.mp hdistinct).1 (List.mem_map.mpr ⟨property, hproperty, heq⟩)
      have hcons : withProperties characters.upper properties (first :: desired) =
          withProperties characters.upper
            (setProperty characters.upper first.name first.value properties) desired := rfl
      rw [hcons, ih hrest, valueOf_setProperty, valueOf_cons]
      split
      · next hsame =>
          rw [valueOf_eq_none, Option.none_or, Option.some_or]
          intro property hproperty
          rw [← testPolicyNameEqual_congr hsame, ← Bool.not_eq_true, testPolicyNameEqual_iff]
          exact hfirst property hproperty
      · rfl

variable {surplus : List Property}

theorem valueOf_withoutProperties :
    valueOf characters name (withoutProperties characters.upper properties surplus) =
      if (surplus.any fun property => testPolicyNameEqual characters.upper property.name name) then
        none
      else valueOf characters name properties := by
  induction surplus generalizing properties with
  | nil => rfl
  | cons first surplus ih =>
      have hcons : withoutProperties characters.upper properties (first :: surplus) =
          withoutProperties characters.upper
            (removeProperty characters.upper first.name properties) surplus := rfl
      rw [hcons, ih, valueOf_removeProperty, List.any_cons]
      cases testPolicyNameEqual characters.upper first.name name with
      | true => simp
      | false => simp

theorem mem_withProperties (h : property ∈ withProperties characters.upper properties desired)
    (hname : ∀ other ∈ desired,
      testPolicyNameEqual characters.upper property.name other.name = false) :
    property ∈ properties := by
  induction desired generalizing properties with
  | nil => exact h
  | cons first desired ih =>
      obtain ⟨hfirst, hrest⟩ := List.forall_mem_cons.mp hname
      exact mem_of_mem_setProperty (ih h hrest) hfirst

theorem mem_withoutProperties
    (h : property ∈ withoutProperties characters.upper properties surplus) :
    property ∈ properties ∧ ∀ other ∈ surplus,
      testPolicyNameEqual characters.upper property.name other.name = false := by
  induction surplus generalizing properties with
  | nil => exact ⟨h, fun other hother => (List.not_mem_nil hother).elim⟩
  | cons first surplus ih =>
      obtain ⟨hmem, hrest⟩ := ih h
      obtain ⟨hproperty, hfirst⟩ := List.mem_filter.mp hmem
      exact ⟨hproperty, List.forall_mem_cons.mpr ⟨by simpa using hfirst, hrest⟩⟩

/-! ### Numbered values -/

theorem withoutNewline_fold (name : Utf16) :
    withoutNewline (fold characters.upper name) = fold characters.upper (withoutNewline name) := by
  have hlast : (fold characters.upper name).getLast? = some 10 ↔ name.getLast? = some 10 := by
    have hten : (10 : UInt16) < 64 := by decide
    rw [fold, List.getLast?_map, Option.map_eq_some_iff]
    constructor
    · rintro ⟨unit, hunit, hupper⟩
      rw [hunit, (characters.upper_eq_iff unit 10 hten).mp hupper]
    · exact fun h => ⟨10, h, (characters.upper_eq_iff 10 10 hten).mpr rfl⟩
  rw [withoutNewline, withoutNewline]
  split
  · next h => rw [if_pos (hlast.mp h), fold, fold, List.map_dropLast]
  · next h => rw [if_neg (mt hlast.mpr h)]

theorem isNumbered_congr (h : testPolicyNameEqual characters.upper name other = true) :
    isNumbered characters name = isNumbered characters other := by
  have hfold : ∀ text : Utf16, isNumbered characters text =
      (withoutNewline (fold characters.upper text) != [] &&
        (withoutNewline (fold characters.upper text)).all characters.isDigit) := by
    intro text
    rw [withoutNewline_fold, isNumbered]
    cases withoutNewline text with
    | nil => rfl
    | cons unit rest =>
        simp only [fold, List.map_cons, List.all_cons, List.all_map, Function.comp_def,
          characters.isDigit_upper]
        rfl
  rw [hfold, hfold, testPolicyNameEqual_iff.mp h]

theorem findProperty_numberedProperties (h : isNumbered characters name = true) :
    findProperty characters name (numberedProperties characters properties) =
      findProperty characters name properties := by
  rw [findProperty, numberedProperties, List.find?_filter, findProperty]
  congr 1
  funext property
  cases hname : testPolicyNameEqual characters.upper property.name name with
  | false => simp
  | true => simp [isNumbered_congr hname, h]

end Values

/-! ## The mirror -/

section Mirror

variable {call : SyncCall} {union : List Utf16} {desired properties : List Property}

/-- What the registry is to have: numbered values with different names. -/
structure Desired (characters : Characters) (desired : List Property) : Prop where
  distinct : DistinctNames characters desired
  numbered : ∀ property ∈ desired, isNumbered characters property.name = true

theorem desired_setProperty {name : Utf16} (value : RegistryValue)
    (h : Desired characters desired) (hname : isNumbered characters name = true) :
    Desired characters (setProperty characters.upper name value desired) where
  distinct := distinctNames_setProperty value h.distinct
  numbered property hproperty := by
    obtain hmem | rfl | ⟨earlier, hearlier, hequal, -⟩ := name_of_mem_setProperty hproperty
    · exact h.numbered property hmem
    · exact hname
    · rw [hequal]
      exact h.numbered earlier hearlier

variable {entries : List Entry}

theorem desired_foldlM {start : List Property}
    (hnumbered : ∀ entry ∈ entries, isNumbered characters entry.valueName = true)
    (hstart : Desired characters start)
    (h : entries.foldlM
      (fun desired entry =>
        if isInt32 entry.type then
          (convertFromData (policyData entry)).map fun value =>
            setProperty characters.upper entry.valueName (registryValue value) desired
        else none) start = some desired) :
    Desired characters desired := by
  induction entries generalizing start with
  | nil =>
      cases h
      exact hstart
  | cons entry entries ih =>
      obtain ⟨hentry, hrest⟩ := List.forall_mem_cons.mp hnumbered
      rw [List.foldlM_cons] at h
      obtain ⟨next, hnext, hlater⟩ := Option.bind_eq_some_iff.mp h
      split at hnext
      · obtain ⟨value, -, rfl⟩ := Option.map_eq_some_iff.mp hnext
        exact ih hrest (desired_setProperty _ hstart hentry) hlater
      · cases hnext

theorem desired_of_desiredProperties {key : Utf16}
    (h : desiredProperties characters key entries = some desired) :
    Desired characters desired := by
  have hstart : Desired characters [] :=
    ⟨List.nodup_nil, fun property hproperty => (List.not_mem_nil hproperty).elim⟩
  refine desired_foldlM (fun entry hentry => ?_) hstart h
  have hlist := (List.mem_filter.mp (List.mem_filter.mp hentry).1).2
  rw [isListEntry, Bool.and_eq_true] at hlist
  exact hlist.2

/-- What the mirror takes away, and what it writes. -/
abbrev surplusOf (characters : Characters) (call : SyncCall) (union : List Utf16)
    (desired properties : List Property) : List Property :=
  (numberedProperties characters properties).filter (isSurplus characters call union desired)

abbrev writtenOf (characters : Characters) (desired properties : List Property) : List Property :=
  desired.filter fun property =>
    !isCurrent characters (numberedProperties characters properties) property

theorem mirrored_eq : mirrored characters call union desired properties =
    withProperties characters.upper
      (withoutProperties characters.upper properties
        (surplusOf characters call union desired properties))
      (writtenOf characters desired properties) := rfl

variable {property : Property}

/-- Nothing that is desired is taken away. -/
theorem surplus_apart {surplus : Property}
    (h : surplus ∈ surplusOf characters call union desired properties)
    (hproperty : property ∈ desired) :
    testPolicyNameEqual characters.upper surplus.name property.name = false := by
  have hsurplus := (List.mem_filter.mp h).2
  rw [isSurplus, Bool.and_eq_true, Bool.and_eq_true, Option.isNone_iff_eq_none] at hsurplus
  have hnone := List.find?_eq_none.mp hsurplus.1.2 property hproperty
  rw [testPolicyNameEqual_comm]
  exact Bool.eq_false_of_not_eq_true hnone

theorem valueOf_mirrored (hdesired : Desired characters desired) (name : Utf16) :
    valueOf characters name (mirrored characters call union desired properties) =
      (valueOf characters name (writtenOf characters desired properties)).or
        (if (surplusOf characters call union desired properties).any
            fun property => testPolicyNameEqual characters.upper property.name name then none
          else valueOf characters name properties) := by
  have hdistinct : DistinctNames characters (writtenOf characters desired properties) :=
    hdesired.distinct.sublist (List.filter_sublist.map _)
  rw [mirrored_eq, valueOf_withProperties hdistinct, valueOf_withoutProperties]

/-- What is current has the lines that are desired. -/
theorem isCurrent_iff (h : isNumbered characters property.name = true) :
    isCurrent characters (numberedProperties characters properties) property = true ↔
      ∃ value, valueOf characters property.name properties = some value ∧
        joinLines value.texts = joinLines property.value.texts := by
  rw [isCurrent, findProperty_numberedProperties h, valueOf]
  cases findProperty characters property.name properties with
  | none => simp
  | some found => simp

section

variable (hdesired : Desired characters desired)
include hdesired

theorem valueOf_desired (h : property ∈ desired) :
    ∃ value, valueOf characters property.name
        (mirrored characters call union desired properties) = some value ∧
      joinLines value.texts = joinLines property.value.texts := by
  have hself : testPolicyNameEqual characters.upper property.name property.name = true :=
    testPolicyNameEqual_iff.mpr rfl
  have hwritten : DistinctNames characters (writtenOf characters desired properties) :=
    hdesired.distinct.sublist (List.filter_sublist.map _)
  rw [valueOf_mirrored hdesired]
  by_cases hcurrent :
      isCurrent characters (numberedProperties characters properties) property = true
  · -- It is not written and not taken away, so it stays as it is.
    have hnone : valueOf characters property.name
        (writtenOf characters desired properties) = none := by
      apply valueOf_eq_none
      intro other hother
      obtain ⟨hmem, hnot⟩ := List.mem_filter.mp hother
      rw [← Bool.not_eq_true]
      intro hname
      rw [eq_of_sameName hdesired.distinct hmem h hname, hcurrent] at hnot
      cases hnot
    have hany : (surplusOf characters call union desired properties).any
        (fun surplus => testPolicyNameEqual characters.upper surplus.name property.name) =
        false := by
      rw [List.any_eq_false]
      intro surplus hsurplus
      rw [surplus_apart hsurplus h]
      exact Bool.false_ne_true
    obtain ⟨value, hvalue, hlines⟩ := (isCurrent_iff (hdesired.numbered property h)).mp hcurrent
    refine ⟨value, ?_, hlines⟩
    rw [hnone, Option.none_or, hany, if_neg Bool.false_ne_true, hvalue]
  · have hmem : property ∈ writtenOf characters desired properties := by
      rw [List.mem_filter]
      exact ⟨h, by simpa using hcurrent⟩
    exact ⟨property.value, by rw [valueOf_of_mem hwritten hmem hself, Option.some_or], rfl⟩

/-- A value that is no surplus and agrees with what is desired stays. -/
theorem valueOf_mirrored_of_agrees (hdistinct : DistinctNames characters properties)
    (hmem : property ∈ properties) (hunion : ¬ Has characters union (firstText property.value))
    (hprune : call.pruneUnownedRegistryValues = false)
    (hagrees : ∀ other ∈ desired,
      testPolicyNameEqual characters.upper other.name property.name = true →
        joinLines property.value.texts = joinLines other.value.texts) :
    valueOf characters property.name (mirrored characters call union desired properties) =
      some property.value := by
  have hvalue : valueOf characters property.name properties = some property.value :=
    valueOf_of_mem hdistinct hmem (testPolicyNameEqual_iff.mpr rfl)
  have hnone : valueOf characters property.name (writtenOf characters desired properties) =
      none := by
    apply valueOf_eq_none
    intro other hother
    obtain ⟨hdesire, hnot⟩ := List.mem_filter.mp hother
    rw [← Bool.not_eq_true]
    intro hname
    have hcurrent :
        isCurrent characters (numberedProperties characters properties) other = true := by
      rw [isCurrent_iff (hdesired.numbered other hdesire), valueOf_congr hname]
      exact ⟨property.value, hvalue, hagrees other hdesire hname⟩
    rw [hcurrent] at hnot
    cases hnot
  have hany : (surplusOf characters call union desired properties).any
      (fun surplus => testPolicyNameEqual characters.upper surplus.name property.name) = false := by
    rw [List.any_eq_false]
    intro surplus hsurplus hname
    obtain ⟨hfiltered, hsurplus⟩ := List.mem_filter.mp hsurplus
    rw [eq_of_sameName hdistinct (List.mem_of_mem_filter hfiltered) hmem hname, isSurplus, hprune,
      Bool.or_false, Bool.and_eq_true] at hsurplus
    exact hunion hsurplus.2
  rw [valueOf_mirrored hdesired, hnone, Option.none_or, hany, if_neg Bool.false_ne_true, hvalue]

theorem mirrored_mirrored {listed : List Utf16}
    (hlisted : ∀ text, Has characters listed text → Has characters union text) :
    mirrored characters call listed desired (mirrored characters call union desired properties) =
      mirrored characters call union desired properties := by
  have hsurplus : surplusOf characters call listed desired
      (mirrored characters call union desired properties) = [] := by
    rw [List.filter_eq_nil_iff]
    intro property hproperty hsurplus
    obtain ⟨hmem, hnumbered⟩ := List.mem_filter.mp hproperty
    rw [isSurplus, hnumbered, Bool.true_and, Bool.and_eq_true, Option.isNone_iff_eq_none]
      at hsurplus
    obtain ⟨hnone, htaken⟩ := hsurplus
    have hapart : ∀ other ∈ writtenOf characters desired properties,
        testPolicyNameEqual characters.upper property.name other.name = false := by
      intro other hother
      rw [testPolicyNameEqual_comm]
      exact Bool.eq_false_of_not_eq_true
        (List.find?_eq_none.mp hnone other (List.mem_of_mem_filter hother))
    obtain ⟨hbefore, hleft⟩ := mem_withoutProperties (mem_withProperties hmem hapart)
    -- It would have been taken away the first time.
    have hfirst : property ∈ surplusOf characters call union desired properties := by
      refine List.mem_filter.mpr ⟨List.mem_filter.mpr ⟨hbefore, hnumbered⟩, ?_⟩
      rw [isSurplus, hnumbered, hnone, Bool.true_and, Option.isNone_none, Bool.true_and]
      rw [Bool.or_eq_true] at htaken ⊢
      exact htaken.imp (hlisted _) id
    have hself := hleft property hfirst
    rw [testPolicyNameEqual, beq_self_eq_true] at hself
    cases hself
  have hwritten : writtenOf characters desired
      (mirrored characters call union desired properties) = [] := by
    rw [List.filter_eq_nil_iff]
    intro property hproperty hnot
    have hcurrent : isCurrent characters (numberedProperties characters
        (mirrored characters call union desired properties)) property = true :=
      (isCurrent_iff (hdesired.numbered property hproperty)).mpr (valueOf_desired hdesired hproperty)
    rw [hcurrent] at hnot
    cases hnot
  conv_lhs => rw [mirrored_eq, hsurplus, hwritten]
  rfl

end

end Mirror

/-! ## Runs -/

/-- Nobody else replaces the file, and the ledger can be read. -/
def undisturbed : StoreEvent → Bool
  | .otherWriter _ => false
  | .ledgerReads readable => readable
  | _ => true

theorem quiet_undisturbed : Quiet undisturbed := fun _ => rfl

variable {start : Store}

theorem pol_of_mayHold {pol : Option Bytes} (h : MayHold undisturbed start pol) : pol = start.pol :=
  h.elim id fun habsurd => by cases habsurd

theorem readable_of_mayRead {readable : Bool} (hstart : start.ledgerReadable = true)
    (h : MayRead undisturbed start readable) : readable = true :=
  h.elim (fun heq => heq.trans hstart) id

section Runs

variable {call : SyncCall} {start after : Store} {outcomes : List (Outcome StoreEvent)}

/-- The texts that the ledger lists for the key of a call. -/
abbrev listedTexts (characters : Characters) (call : SyncCall) (store : Store) : List Utf16 :=
  ownedTexts characters store.ledger call.key

variable {result : StoreResult}

section

variable (hreadable : start.ledgerReadable = true)
  (hquiet : ∀ outcome ∈ outcomes, outcome.Within undisturbed)
include hreadable hquiet

/-- What an undisturbed synchronisation leaves. -/
theorem syncEnds_of_run
    (hrun : Program.run (machine characters.upper) outcomes
      (start, syncManagedPolicyList characters call) = (after, .done result)) :
    ∃ plan union, SyncEnds characters undisturbed call (listedTexts characters call start) start
      plan union after := by
  have hwp : (syncManagedPolicyList characters call).Wp (events characters.upper undisturbed)
      (fun _ _ => True) start (SyncPost characters undisturbed call start) :=
    wp_syncManagedPolicyList
  have hpost := hwp.run_rest outcomes
  rw [Program.run_restrict hquiet, hrun] at hpost
  obtain ⟨readable, plan, union, hmay, hends⟩ := hpost
  have htrue := readable_of_mayRead hreadable hmay
  have hstart : ({ start with ledgerReadable := readable } : Store) = start := by
    rw [htrue, ← hreadable]
  rw [hstart, htrue] at hends
  exact ⟨plan, union, hends⟩

/-- What a removal leaves that nobody disturbs. -/
theorem listRemoved_of_run {removal : RemoveListCall} {result : RemoveResult}
    (hrun : Program.run (machine characters.upper) outcomes
      (start, removeManagedPolicyList characters removal) = (after, .done result)) :
    ListRemoved characters undisturbed removal (ownedTexts characters start.ledger removal.key)
      start result after := by
  have hwp : (removeManagedPolicyList characters removal).Wp (events characters.upper undisturbed)
      (fun _ _ => True) start (RemoveListPost characters undisturbed removal start) :=
    wp_removeManagedPolicyList
  have hpost := hwp.run_rest outcomes
  rw [Program.run_restrict hquiet, hrun] at hpost
  obtain ⟨readable, hmay, hremoved⟩ := hpost
  rw [readable_of_mayRead hreadable hmay] at hremoved
  exact hremoved

end

/-! ### What can be written -/

theorem repair_numberName (n : Nat) : Utf16.WellFormed (numberName n) := by
  have hdigits : ∀ text : Utf16, (∀ unit ∈ text, unit ≤ 57) → Utf16.WellFormed text := by
    intro text h
    induction text with
    | nil => rfl
    | cons unit text ih =>
        obtain ⟨hunit, hrest⟩ := List.forall_mem_cons.mp h
        have hhigh : Utf16.isHighSurrogate unit = false := by grind [Utf16.isHighSurrogate]
        have hlow : Utf16.isLowSurrogate unit = false := by grind [Utf16.isLowSurrogate]
        rw [Utf16.WellFormed, Utf16.repair_cons hhigh hlow, ih hrest]
  exact hdigits _ fun unit hunit => (isAsciiDigit_of_mem hunit).2

/-- A key that is well-formed and holds no terminator. -/
def RegularKey (key : Utf16) : Prop := (⟨key, []⟩ : Target).Regular

theorem regular_numberedEntry {key : Utf16} (h : RegularKey key) (number : Nat) (value : Utf16) :
    (numberedEntry key number value).Regular where
  key := h.key
  valueName := by
    intro hzero
    have hdigit : (48 : UInt16) ≤ 0 := (isAsciiDigit_of_mem hzero).1
    exact absurd hdigit (by decide)
  wellFormedKey := h.wellFormedKey
  wellFormedValueName := repair_numberName number

theorem regular_listPlan {key : Utf16} {owned requested : List Utf16} {entries : List Entry}
    (hkey : RegularKey key) (h : ∀ entry ∈ entries, entry.Regular) :
    ∀ entry ∈ (listPlan characters key owned requested entries).entries, entry.Regular := by
  intro entry hentry
  obtain hforeign | hadded := mem_listPlan.mp hentry
  · exact h entry (List.mem_of_mem_filter hforeign)
  · obtain ⟨index, value, -, rfl⟩ := mem_addedEntries.mp hadded
    exact regular_numberedEntry hkey _ value

/-! ### The contract -/

/-- Without pruning, numbered values stay that are neither listed nor requested. -/
def RegistryKept (characters : Characters) (call : SyncCall) (entries : List Entry)
    (start after : Store) : Prop :=
  call.pruneUnownedRegistryValues = false →
    ∀ property ∈ start.properties characters.upper call.key,
      isNumbered characters property.name = true →
      ¬ Has characters (listedTexts characters call start) (firstText property.value) →
      ¬ Has characters (addedTexts characters call.key (listedTexts characters call start)
        call.values entries) (firstText property.value) →
      valueOf characters property.name (after.properties characters.upper call.key) =
        some property.value

/-- Without pruning, such a value agrees with what the plan has under its name. -/
def MirrorAgrees (characters : Characters) (call : SyncCall) (entries : List Entry)
    (start : Store) : Prop :=
  call.pruneUnownedRegistryValues = false →
    ∀ property ∈ start.properties characters.upper call.key,
      isNumbered characters property.name = true →
      ¬ Has characters (listedTexts characters call start) (firstText property.value) →
      ¬ Has characters (addedTexts characters call.key (listedTexts characters call start)
        call.values entries) (firstText property.value) →
      ∀ desired, desiredProperties characters call.key
          (listPlan characters call.key (listedTexts characters call start) call.values
            entries).entries = some desired →
        ∀ other ∈ desired,
          testPolicyNameEqual characters.upper other.name property.name = true →
            joinLines property.value.texts = joinLines other.value.texts

/-- What a synchronised list promises. -/
structure ListContract (characters : Characters) (call : SyncCall) (entries merged : List Entry)
    (start after : Store) : Prop where
  foreign : foreignEntries characters call.key (listedTexts characters call after) merged =
    foreignEntries characters call.key (listedTexts characters call start) entries
  eachOnce : EachOnce characters call.key (listedTexts characters call start) call.values
    (listedTexts characters call after) entries merged
  uniqueNames : UniqueNames characters call.key (listedTexts characters call after) merged
  registry : RegistryKept characters call entries start after
  idempotent : ∀ outcomes : List (Outcome StoreEvent),
    (∀ outcome ∈ outcomes, outcome.Within undisturbed) → ∀ later result,
      Program.run (machine characters.upper) outcomes
          (after, syncManagedPolicyList characters call) = (later, .done result) →
        later.pol = after.pol ∧ later.registry = after.registry
  removal : ∀ removal : RemoveListCall, removal.key = call.key →
    ∀ outcomes : List (Outcome StoreEvent),
      (∀ outcome ∈ outcomes, outcome.Within undisturbed) → ∀ later result,
        Program.run (machine characters.upper) outcomes
            (after, removeManagedPolicyList characters removal) = (later, .done result) →
          readEntries later.pol = .ok
            (foreignEntries characters call.key (listedTexts characters call start) entries)

/-- The texts can be written, the numbers are free in the file, and the registry agrees with
what is written under them. -/
structure ListCondition (characters : Characters) (call : SyncCall) (entries : List Entry)
    (start : Store) : Prop where
  survives : ∀ value ∈ addedTexts characters call.key (listedTexts characters call start)
    call.values entries, Survives characters value
  namesFree : NamesFree characters call.key (listedTexts characters call start) call.values entries
  mirrorAgrees : MirrorAgrees characters call entries start

/-- What an undisturbed synchronisation makes of the file, the ledger and the registry. -/
structure Synchronised (characters : Characters) (call : SyncCall) (entries : List Entry)
    (union : List Utf16) (start after : Store) : Prop where
  readable : after.ledgerReadable = true
  read : readEntries start.pol = .ok entries
  written : readEntries after.pol = .ok (listPlan characters call.key
    (listedTexts characters call start) call.values entries).entries
  unchanged : (listPlan characters call.key (listedTexts characters call start) call.values
    entries).entries = entries → after.pol = start.pol
  lists : Lists characters (listedTexts characters call start)
    (addedTexts characters call.key (listedTexts characters call start) call.values entries)
    (listedTexts characters call after)
  known : ∀ text, Has characters union text →
    Has characters (listedTexts characters call start) text ∨
      Has characters (addedTexts characters call.key (listedTexts characters call start)
        call.values entries) text
  listed : ∀ text, Has characters (listedTexts characters call after) text →
    Has characters union text
  mirror : ∃ desired, desiredProperties characters call.key
      (listPlan characters call.key (listedTexts characters call start) call.values
        entries).entries = some desired ∧
    after.registry = (start.setProperties characters.upper call.key
      (mirrored characters call union desired
        (start.properties characters.upper call.key))).registry

theorem synchronised_of_run (hkey : RegularKey call.key) (hreadable : start.ledgerReadable = true)
    (hquiet : ∀ outcome ∈ outcomes, outcome.Within undisturbed)
    (hrun : Program.run (machine characters.upper) outcomes
      (start, syncManagedPolicyList characters call) = (after, .done result)) :
    ∃ entries union, Synchronised characters call entries union start after := by
  obtain ⟨plan, union, hends⟩ := syncEnds_of_run hreadable hquiet hrun
  obtain ⟨pol, entries, hmay, hread, rfl, hmerge⟩ := hends.merge
  have hpol := pol_of_mayHold hmay
  subst hpol
  have hlisted := hends.listed (hends.readable.trans hreadable)
  refine ⟨entries, union, hends.readable.trans hreadable, hread, ?_, ?_,
    ⟨hlisted.1, fun text htext => ?_⟩, hends.quiet quiet_undisturbed, hlisted.2, hends.mirror⟩
  · obtain ⟨hsame, hpol⟩ | ⟨-, hpol, hfits⟩ := hmerge
    · rw [hpol, hread]
      exact congrArg _ hsame.symm
    · rw [hpol]
      exact readEntries_content (regular_listPlan hkey (regular_of_readEntries hread)) hfits
  · intro hsame
    obtain ⟨-, hpol⟩ | ⟨hchanged, -⟩ := hmerge
    · exact hpol
    · exact absurd hsame hchanged
  · exact hends.quiet quiet_undisturbed text (hlisted.2 text htext)

section Contract

variable {entries : List Entry} {union : List Utf16} {later : Store}

section

variable (h : Synchronised characters call entries union start after)
include h

/-- Reading the values of the key after the mirror. -/
theorem Synchronised.properties :
    ∃ desired, desiredProperties characters call.key
        (listPlan characters call.key (listedTexts characters call start) call.values
          entries).entries = some desired ∧
      after.properties characters.upper call.key = mirrored characters call union desired
        (start.properties characters.upper call.key) := by
  obtain ⟨desired, hdesired, hregistry⟩ := h.mirror
  refine ⟨desired, hdesired, ?_⟩
  rw [Store.properties, hregistry]
  exact properties_setProperties _ _ _

section

variable
  (hsurvives : ∀ value ∈ addedTexts characters call.key (listedTexts characters call start) call.values entries, Survives characters value)
include hsurvives

/-- Synchronising once more changes nothing, where the texts survive. -/
theorem Synchronised.again {other : List Entry} {next : List Utf16}
    (hlater : Synchronised characters call other next after later) :
    later.pol = after.pol ∧ later.registry = after.registry := by
  have hother : other = (listPlan characters call.key (listedTexts characters call start)
      call.values entries).entries := Except.ok.inj (hlater.read.symm.trans h.written)
  have hplan : listPlan characters call.key (listedTexts characters call after) call.values other =
      listPlan characters call.key (listedTexts characters call start) call.values entries := by
    rw [hother]
    exact listPlan_listPlan h.lists hsurvives
  constructor
  · apply hlater.unchanged
    rw [hplan, hother]
  · obtain ⟨desired, hdesired, hproperties⟩ := h.properties
    obtain ⟨desired', hdesired', hregistry⟩ := hlater.mirror
    rw [hplan, hdesired] at hdesired'
    cases hdesired'
    have hadded : addedTexts characters call.key (listedTexts characters call after) call.values
        other = addedTexts characters call.key (listedTexts characters call start) call.values
          entries := congrArg ListPlan.owned hplan
    have hnext : ∀ text, Has characters next text → Has characters union text := by
      intro text htext
      obtain hlisted | hnew := hlater.known text htext
      · exact h.listed text hlisted
      · rw [hadded] at hnew
        exact h.listed text (h.lists.new text hnew)
    rw [hregistry, hproperties, mirrored_mirrored (desired_of_desiredProperties hdesired) hnext,
      ← hproperties, setProperties_properties]

/-- A removal takes the agent's entries away, where the texts survive. -/
theorem Synchronised.removed {removal : RemoveListCall} (hsame : removal.key = call.key)
    {result : RemoveResult}
    (hremoved : ListRemoved characters undisturbed removal
      (ownedTexts characters after.ledger removal.key) after result later) :
    readEntries later.pol = .ok
      (foreignEntries characters call.key (listedTexts characters call start) entries) := by
  obtain ⟨pol, merged, hmay, hread, hfile⟩ := hremoved.file
  rw [pol_of_mayHold hmay] at hread hfile
  rw [hsame] at hfile
  have hmerged := Except.ok.inj (hread.symm.trans h.written)
  have hforeign : foreignEntries characters call.key (listedTexts characters call after) merged =
      foreignEntries characters call.key (listedTexts characters call start) entries := by
    rw [hmerged]
    exact foreignEntries_listPlan h.lists hsurvives
  obtain ⟨hall, hpol⟩ | ⟨hpol, hfits⟩ := hfile
  · rw [hpol, hread, ← hforeign]
    exact congrArg _ hall.symm
  · rw [hpol, ← hforeign]
    refine readEntries_content (fun entry hentry => ?_) hfits
    exact regular_of_readEntries hread entry (List.mem_of_mem_filter hentry)

end

theorem Synchronised.registryKept_iff
    (hdistinct : DistinctNames characters (start.properties characters.upper call.key)) :
    RegistryKept characters call entries start after ↔
      MirrorAgrees characters call entries start := by
  obtain ⟨desired, hdesired, hproperties⟩ := h.properties
  have hwell := desired_of_desiredProperties hdesired
  constructor
  · intro hkept hprune property hmem hnumbered hlisted hadded desired' hdesired' other hother hname
    rw [hdesired] at hdesired'
    cases hdesired'
    have hvalue := hkept hprune property hmem hnumbered hlisted hadded
    obtain ⟨value, hdesire, hlines⟩ := valueOf_desired hwell hother
    rw [hproperties, ← valueOf_congr hname, hdesire] at hvalue
    cases hvalue
    exact hlines
  · intro hagrees hprune property hmem hnumbered hlisted hadded
    rw [hproperties]
    refine valueOf_mirrored_of_agrees hwell hdistinct hmem (fun hunion => ?_) hprune
      (hagrees hprune property hmem hnumbered hlisted hadded desired hdesired)
    exact (h.known _ hunion).elim hlisted hadded

end

end Contract

/-- A list that was synchronised, with nobody beside, keeps its contract just when the texts can
be written, the numbers are free in the file and the registry has nothing else under them. -/
theorem listContract_iff (hkey : RegularKey call.key) (hreadable : start.ledgerReadable = true)
    (hdistinct : DistinctNames characters (start.properties characters.upper call.key))
    (hquiet : ∀ outcome ∈ outcomes, outcome.Within undisturbed) {result : StoreResult}
    (hrun : Program.run (machine characters.upper) outcomes
      (start, syncManagedPolicyList characters call) = (after, .done result)) :
    ∃ entries merged, readEntries start.pol = .ok entries ∧ readEntries after.pol = .ok merged ∧
      (ListContract characters call entries merged start after ↔
        ListCondition characters call entries start) := by
  obtain ⟨entries, union, h⟩ := synchronised_of_run hkey hreadable hquiet hrun
  refine ⟨entries, _, h.read, h.written, fun hcontract => ?_, fun hcondition => ?_⟩
  · have hsurvives := survives_of_eachOnce h.lists hcontract.eachOnce
    exact ⟨hsurvives, (uniqueNames_iff h.lists hsurvives).mp hcontract.uniqueNames,
      (h.registryKept_iff hdistinct).mp hcontract.registry⟩
  · have hsurvives := hcondition.survives
    refine ⟨foreignEntries_listPlan h.lists hsurvives, eachOnce_of_survives h.lists hsurvives,
      (uniqueNames_iff h.lists hsurvives).mpr hcondition.namesFree,
      (h.registryKept_iff hdistinct).mpr hcondition.mirrorAgrees, ?_, ?_⟩
    · intro outcomes hquiet later result hrun
      obtain ⟨other, next, hlater⟩ := synchronised_of_run hkey h.readable hquiet hrun
      exact h.again hsurvives hlater
    · intro removal hsame outcomes hquiet later result hrun
      exact h.removed hsurvives hsame (listRemoved_of_run h.readable hquiet hrun)

end Runs

/-! ## A value of the registry alone -/

/-- Letters change, and nothing else does. -/
theorem asciiUpper_cases (unit : UInt16) :
    asciiUpper unit = unit ∨
      (97 ≤ unit ∧ unit ≤ 122) ∧ 65 ≤ asciiUpper unit ∧ asciiUpper unit ≤ 90 := by
  rw [asciiUpper]
  grind

theorem isAsciiDigit_asciiUpper (unit : UInt16) :
    isAsciiDigit (asciiUpper unit) = isAsciiDigit unit := by
  have hcases := asciiUpper_cases unit
  grind [isAsciiDigit]

theorem isAsciiDigit_of_le (unit : UInt16) (hlow : 48 ≤ unit) (hhigh : unit ≤ 57) :
    isAsciiDigit unit = true := by
  rw [isAsciiDigit, decide_eq_true hlow, decide_eq_true hhigh, Bool.and_self]

theorem isHighSurrogate_asciiUpper (unit : UInt16) :
    Utf16.isHighSurrogate (asciiUpper unit) = Utf16.isHighSurrogate unit := by
  have hcases := asciiUpper_cases unit
  grind [Utf16.isHighSurrogate]

theorem isLowSurrogate_asciiUpper (unit : UInt16) :
    Utf16.isLowSurrogate (asciiUpper unit) = Utf16.isLowSurrogate unit := by
  have hcases := asciiUpper_cases unit
  grind [Utf16.isLowSurrogate]

theorem asciiUpper_replacement : asciiUpper Utf16.replacement = Utf16.replacement := rfl

theorem asciiUpper_eq_iff (unit other : UInt16) (hother : other < 64) :
    asciiUpper unit = other ↔ unit = other := by
  have hcases := asciiUpper_cases unit
  grind

def asciiCharacters : Characters where
  upper := asciiUpper
  isDigit := isAsciiDigit
  isDigit_of_ascii := isAsciiDigit_of_le
  isDigit_upper := isAsciiDigit_asciiUpper
  isHighSurrogate_upper := isHighSurrogate_asciiUpper
  isLowSurrogate_upper := isLowSurrogate_asciiUpper
  upper_replacement := asciiUpper_replacement
  upper_eq_iff := asciiUpper_eq_iff

/-- The list below the key `S` is to have the text `x`. -/
def sampleSync : SyncCall where
  key := [83]
  values := [[120]]
  lookup := .found ⟨.localGpo, []⟩

/-- A store without a file, with some values in the registry. -/
def storeWith (properties : List Property) : Store :=
  { sampleStore with pol := none, registry := fun _ => properties }

/-- The list is synchronised without disturbance. -/
def runSample (start : Store) : Store × Work StoreResult StoreResult :=
  Program.run (machine asciiUpper) (smooth 16)
    (start, syncManagedPolicyList asciiCharacters sampleSync)

/-- The value `1` holds `y`. -/
def sampleProperty : Property := ⟨[49], ⟨1, [[121]]⟩⟩

theorem regularKey_sample : RegularKey sampleSync.key := by
  constructor
  · decide
  · decide
  · decide
  · decide

def sampleEntry (number unit : UInt16) : Entry := ⟨[83], [number], 1, Utf16.getBytes [unit, 0]⟩

/-- The file has `1` with `y` and, listed in the ledger, `2` with `z`. The registry has both, and
`7` besides. -/
def listedStore : Store :=
  { storeWith [sampleProperty, ⟨[50], ⟨1, [[122]]⟩⟩, ⟨[55], ⟨1, [[113]]⟩⟩] with
    pol := some (content [sampleEntry 49 121, sampleEntry 50 122])
    ledger := Ledger.empty.setList asciiUpper [83] (some [[122]]) }

theorem addedTexts_sample : addedTexts asciiCharacters sampleSync.key
    (listedTexts asciiCharacters sampleSync listedStore) sampleSync.values
      [sampleEntry 49 121, sampleEntry 50 122] = [[120]] := by
  decide

theorem mirrorAgrees_sample : MirrorAgrees asciiCharacters sampleSync
    [sampleEntry 49 121, sampleEntry 50 122] listedStore := by
  intro _ property hproperty _ hlisted _ desired hdesired
  have hnew : desiredProperties asciiCharacters sampleSync.key
      (listPlan asciiCharacters sampleSync.key (listedTexts asciiCharacters sampleSync listedStore)
        sampleSync.values [sampleEntry 49 121, sampleEntry 50 122]).entries =
          some [sampleProperty, ⟨[50], ⟨1, [[120]]⟩⟩] := by
    decide +kernel
  obtain rfl := Option.some.inj (hdesired.symm.trans hnew)
  revert property
  unfold Has
  decide +kernel

/-- The entry `y` of somebody else stays, `x` gets the number of `z`, and `7` is left alone. -/
theorem listContract_sample : ∃ merged, readEntries (runSample listedStore).1.pol = .ok merged ∧
    ListContract asciiCharacters sampleSync [sampleEntry 49 121, sampleEntry 50 122] merged
      listedStore (runSample listedStore).1 := by
  have hresult : (runSample listedStore).2.result? = some
      { applied := true, changed := true, owner := some ⟨.localGpo, []⟩ } := by decide +kernel
  have hdistinct : DistinctNames asciiCharacters
      (listedStore.properties asciiCharacters.upper sampleSync.key) := by
    unfold DistinctNames
    decide
  obtain ⟨entries, merged, hread, hmerged, hiff⟩ :=
    listContract_iff regularKey_sample rfl hdistinct (within_smooth _ 16)
      (Program.eq_of_result? hresult)
  have hentries : readEntries listedStore.pol =
      .ok [sampleEntry 49 121, sampleEntry 50 122] := by decide +kernel
  obtain rfl := Except.ok.inj (hentries.symm.trans hread)
  refine ⟨merged, hmerged, hiff.mpr ⟨?_, ?_, mirrorAgrees_sample⟩⟩
  · rw [addedTexts_sample, List.forall_mem_singleton]
    decide
  · unfold NamesFree
    decide +kernel

/-- The added entry gets the number of a value that only the registry holds: the operation
succeeds, and the value is gone. -/
theorem not_listContract_sample : ∃ result,
    runSample (storeWith [sampleProperty]) = ((runSample (storeWith [sampleProperty])).1, .done result) ∧
      result.applied = true ∧ ∀ entries merged,
        readEntries (storeWith [sampleProperty]).pol = .ok entries →
          ¬ ListContract asciiCharacters sampleSync entries merged (storeWith [sampleProperty])
            (runSample (storeWith [sampleProperty])).1 := by
  have hresult : (runSample (storeWith [sampleProperty])).2.result? = some
      { applied := true, changed := true, owner := some ⟨.localGpo, []⟩ } := by decide
  refine ⟨_, Program.eq_of_result? hresult, rfl, ?_⟩
  intro entries merged hread hcontract
  have hentries : entries = [] := (Except.ok.inj hread).symm
  subst hentries
  have hlisted : ¬ Has asciiCharacters
      (listedTexts asciiCharacters sampleSync (storeWith [sampleProperty])) [121] := by
    rw [Has]
    decide
  have hadded : ¬ Has asciiCharacters (addedTexts asciiCharacters sampleSync.key
      (listedTexts asciiCharacters sampleSync (storeWith [sampleProperty])) sampleSync.values [])
      [121] := by
    rw [Has]
    decide
  have hkept := hcontract.registry rfl sampleProperty (List.mem_singleton_self _)
    (by decide) hlisted hadded
  exact absurd hkept (by decide)

end OpenPath.Windows.PolicyStore
