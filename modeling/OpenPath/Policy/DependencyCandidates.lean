/-
# Candidates of runtime dependencies on both agents

The two agents check a candidate with code of their own. They read a host in the same
way where it is made of characters that both languages trim and lower-case alike: the
four separators of ASCII are white space in Python only, and the capital I with a dot
has no lower case of its own in .NET.

They differ in what they refuse besides. Windows passes over a dependency that the
whitelist covers already; some fields are sensitive for one of them only; and Windows
finds the members of an object without regard to case.
-/

import OpenPath.Policy.DependencyBlocks

namespace OpenPath.Policy

open RuntimeDependency

/-! ## Texts and objects that both read alike -/

/-- Python and .NET agree on whether the character is white space, and on its lower
case apart from the end of words. -/
def Common (c : Char) : Prop :=
  ¬ (0x1c ≤ c.toNat ∧ c.toNat ≤ 0x1f) ∧ c ≠ Unicode.capitalDottedI

instance (c : Char) : Decidable (Common c) := inferInstanceAs (Decidable (_ ∧ _))

/-- One domain, with white space around it or not. -/
structure OneDomain (entry : Text) : Prop where
  common : ∀ c ∈ entry, Common c
  word : ∀ c ∈ Python.strip entry, Python.isSpace c = false

/-- The fields that some agent refuses. -/
def sensitiveFields : List Text :=
  Linux.Overlay.sensitiveFields ++ Windows.Overlay.sensitiveFields

/-- The fields that the agents look at. -/
def candidateFields : List Text :=
  ["anchorHost".toList, "dependencyHost".toList, "requestType".toList] ++ sensitiveFields

/-- A request whose members are spelled as the agents spell them, without a field that
only one of them refuses, and with a plain request type where it has one. -/
structure PlainRequest (object : JsonObject) : Prop where
  spelled : ∀ field ∈ candidateFields, ∀ entry ∈ object,
    DotNet.equalsIgnoreCase entry.1 field = true → entry.1 = field
  shared : ∀ field ∈ sensitiveFields, (object.lookup field).isSome = true →
    field ∈ Linux.Overlay.sensitiveFields ∧ field ∈ Windows.Overlay.sensitiveFields
  hosts : ∀ field ∈ ["anchorHost".toList, "dependencyHost".toList],
    ∀ c ∈ Json.text (object.lookup field), Common c
  requestType : ∀ value, object.lookup "requestType".toList = some value →
    ∃ text, value = .string text ∧ ∀ c ∈ text, c.toNat < 0x80 ∧ Common c

/-! ## Hosts -/

theorem isSpace_eq_isWhiteSpace {c : Char} (hc : Common c) :
    Python.isSpace c = DotNet.isWhiteSpace c := by
  have hseparator := hc.1
  rw [Python.isSpace, Bool.or_eq_left_iff_imp]
  simp only [Bool.and_eq_true, decide_eq_true_eq]
  exact fun h => absurd h hseparator

variable {value : Text}

theorem strip_eq_trim (hvalue : ∀ c ∈ value, Common c) : Python.strip value = DotNet.trim value :=
  Foundation.trim_congr fun c hc => isSpace_eq_isWhiteSpace (hvalue c hc)

theorem sigma_mem_lower (hsigma : Unicode.capitalSigma ∈ value) :
    Unicode.smallSigma ∈ Python.lower value ∨ Unicode.finalSigma ∈ Python.lower value := by
  have hfrom : ∀ before : Text, Unicode.smallSigma ∈ Unicode.lowerFrom before value ∨
      Unicode.finalSigma ∈ Unicode.lowerFrom before value := by
    induction value with
    | nil => cases hsigma
    | cons c rest ih =>
        intro before
        rw [Unicode.lowerFrom, List.mem_append, List.mem_append]
        rcases List.mem_cons.mp hsigma with rfl | hmem
        · have hchar : Unicode.lowerChar before Unicode.capitalSigma rest =
              [if Unicode.endsWord before rest then Unicode.finalSigma else Unicode.smallSigma] := by
            rw [Unicode.lowerChar, if_neg (by decide), if_neg (by decide), if_pos rfl]
          rw [hchar, List.mem_singleton, List.mem_singleton]
          split
          · exact Or.inr (Or.inl rfl)
          · exact Or.inl (Or.inl rfl)
        · exact (ih hmem (c :: before)).imp Or.inr Or.inr
  exact hfrom []

theorem sigma_not_mem_of_readHost {isAlnum : Char → Bool} {host : Text}
    (hread : ReadHost isAlnum host) {c : Char} (hc : c ∈ [Unicode.smallSigma, Unicode.finalSigma])
    (hclass : isAlnum c = false) : c ∉ host := by
  intro hmem
  rcases char_of_hostName hread.word hread.whole c hmem with halnum | rfl | rfl | rfl
  · rw [hclass] at halnum
    cases halnum
  · revert hc
    decide
  · revert hc
    decide
  · revert hc
    decide

/-- Both agents read a host of such characters in the same way. -/
theorem normalizeHost_agree {value : Option Json} (hvalue : ∀ c ∈ Json.text value, Common c) :
    Linux.Overlay.normalizeHost value = Windows.Overlay.normalizeHost value := by
  have hcut : Python.stripDots (Python.strip (Json.text value)) =
      DotNet.trimDots (DotNet.trim (Json.text value)) := by
    rw [strip_eq_trim hvalue]
    rfl
  have hchars : ∀ c ∈ DotNet.trimDots (DotNet.trim (Json.text value)), Common c := fun c hc =>
    hvalue c (Foundation.mem_of_mem_trim (Foundation.mem_of_mem_trim hc))
  have hlinux := Linux.Overlay.normalizeHost_ne_nil_iff value
  have hwindows := Windows.Overlay.normalizeHost_ne_nil_iff value
  have hlinuxEq := @Linux.Overlay.normalizeHost_eq value
  have hwindowsEq := @Windows.Overlay.normalizeHost_eq value
  rw [hcut] at hlinux hlinuxEq
  rw [Windows.Overlay.lowerForm] at hwindows hwindowsEq
  generalize DotNet.trimDots (DotNet.trim (Json.text value)) = cut at *
  by_cases hsigma : Unicode.capitalSigma ∈ cut
  · have hnotLinux : ¬ Linux.Overlay.normalizeHost value ≠ [] := by
      intro hne
      have hread := hlinux.mp hne
      rcases sigma_mem_lower hsigma with hmem | hmem
      · exact sigma_not_mem_of_readHost hread (by decide) (by decide) hmem
      · exact sigma_not_mem_of_readHost hread (by decide) (by decide) hmem
    have hnotWindows : ¬ Windows.Overlay.normalizeHost value ≠ [] := fun hne =>
      sigma_not_mem_of_readHost (hwindows.mp hne) (c := Unicode.smallSigma) (by decide) (by decide)
        (List.mem_map.mpr ⟨_, hsigma, if_pos rfl⟩)
    rw [not_not.mp hnotLinux, not_not.mp hnotWindows]
  · have hlower : Python.lower cut = DotNet.toLowerInvariant cut :=
      DotNet.toLowerCase_eq_toLowerInvariant fun c hc =>
        ⟨fun heq => hsigma (heq ▸ hc), (hchars c hc).2⟩
    have hform : ReadHost isLowerAlphanumeric (DotNet.toLowerInvariant cut) ↔
        ReadHost Windows.Overlay.isHostAlphanumeric (DotNet.toLowerInvariant cut) := by
      have hdotted := DotNet.capitalDottedI_not_mem_toLowerInvariant fun hmem =>
        (hchars _ hmem).2 rfl
      have hcapital := DotNet.noCapital_toLowerInvariant cut
      exact ⟨fun h => h.mono fun _ _ => Windows.Overlay.isHostAlphanumeric_of_isLowerAlphanumeric,
        fun h => h.mono fun c hc halnum =>
          Windows.Overlay.isLowerAlphanumeric_of_isHostAlphanumeric halnum (hcapital c hc)
            fun heq => hdotted (heq ▸ hc)⟩
    rw [hlower] at hlinux hlinuxEq
    by_cases hread : ReadHost isLowerAlphanumeric (DotNet.toLowerInvariant cut)
    · rw [hlinuxEq (hlinux.mpr hread), hwindowsEq (hwindows.mpr (hform.mp hread))]
    · rw [not_not.mp (mt hlinux.mp hread), not_not.mp (mt hwindows.mp (mt hform.mpr hread))]

/-! ## Policies -/

/-- Linux reads a domain of a policy as Windows does. -/
theorem mem_splitHosts_iff {entry name : Text} (hentry : OneDomain entry) :
    name ∈ Linux.Overlay.splitHosts entry ↔
      Windows.Overlay.normalizeText entry ≠ [] ∧ Windows.Overlay.normalizeText entry = name := by
  have hagree : Linux.Overlay.normalizeText entry = Windows.Overlay.normalizeText entry :=
    normalizeHost_agree hentry.common
  have hnil : Linux.Overlay.normalizeText [] = [] := by decide
  have hstrip : Linux.Overlay.normalizeText (Python.strip entry) =
      Linux.Overlay.normalizeText entry := by
    have hcut : Python.strip (Python.strip entry) = Python.strip entry :=
      Foundation.trim_trim Python.isSpace entry
    rw [Linux.Overlay.normalizeText, Linux.Overlay.normalizeHost, Json.text_string, hcut]
    rfl
  rw [Linux.Overlay.splitHosts, ← Python.split_strip]
  by_cases hempty : Python.strip entry = []
  · rw [hempty, hnil] at hstrip
    rw [hempty, ← hagree, ← hstrip]
    simp [Python.split]
  · rw [Linux.Overlay.split_of_no_space hempty hentry.word, List.map_singleton, hstrip, hagree,
      List.mem_filter, List.mem_singleton, decide_eq_true_eq]
    constructor
    · rintro ⟨rfl, hne⟩
      exact ⟨hne, rfl⟩
    · rintro ⟨hne, rfl⟩
      exact ⟨rfl, hne⟩

/-- The domains of a policy cover the same hosts on both agents. -/
theorem covers_agree {entries : List Text} (hentries : ∀ entry ∈ entries, OneDomain entry)
    (value : Option Json) :
    Linux.Overlay.hostMatches (Windows.Overlay.normalizeHost value)
        (Linux.Overlay.splitHosts ([' '].intercalate entries)) =
      Windows.Overlay.coversHost (Windows.Overlay.hostSet entries)
        (Windows.Overlay.normalizeHost value) := by
  have hmem : ∀ name : Text, name ∈ Linux.Overlay.splitHosts ([' '].intercalate entries) ↔
      name ∈ Windows.Overlay.hostSet entries := by
    intro name
    rw [Linux.Overlay.mem_splitHosts_intercalate, Windows.Overlay.mem_hostSet]
    exact exists_congr fun entry => and_congr_right fun hentry =>
      mem_splitHosts_iff (hentries entry hentry)
  rw [Bool.eq_iff_iff, Linux.Overlay.hostMatches_iff,
    Windows.Overlay.coversHost_iff (Windows.Overlay.noCapital_normalizeHost value)]
  exact exists_congr fun name => and_congr_left fun _ => hmem name

/-! ## Requests -/

section Requests

variable {object : JsonObject} {field : Text}

/-- Windows finds the fields that the agents look at where Linux does. -/
theorem property_eq_lookup
    (hspelled : ∀ entry ∈ object, DotNet.equalsIgnoreCase entry.1 field = true → entry.1 = field) :
    Windows.Overlay.property object field = object.lookup field := by
  rw [Windows.Overlay.property]
  induction object with
  | nil => rfl
  | cons entry rest ih =>
      obtain ⟨hentry, hrest⟩ := List.forall_mem_cons.mp hspelled
      obtain ⟨key, value⟩ := entry
      by_cases hsame : key = field
      · have hfound : DotNet.equalsIgnoreCase key field = true := by
          rw [hsame, DotNet.equalsIgnoreCase, beq_self_eq_true]
        rw [List.find?_cons_of_pos
          (p := fun member : Text × Json => DotNet.equalsIgnoreCase member.1 field) hfound, hsame,
          List.lookup_cons_self]
        rfl
      · have hnotFound : ¬ DotNet.equalsIgnoreCase key field = true := mt hentry hsame
        rw [List.find?_cons_of_neg
          (p := fun member : Text × Json => DotNet.equalsIgnoreCase member.1 field) hnotFound,
          ih hrest, List.lookup_cons, beq_false_of_ne (Ne.symm hsame)]

section

variable (hobject : PlainRequest object)
include hobject

theorem PlainRequest.property_eq (hfield : field ∈ candidateFields) :
    Windows.Overlay.property object field = object.lookup field :=
  property_eq_lookup (hobject.spelled field hfield)

/-- A request without a field that only one agent refuses is refused by both for its
fields or by neither. -/
theorem PlainRequest.sensitive_agree :
    (Linux.Overlay.sensitiveFields.any fun field => (object.lookup field).isSome) =
      Windows.Overlay.sensitiveFields.any fun field =>
        (Windows.Overlay.property object field).isSome := by
  have hlinux : ∀ field ∈ Linux.Overlay.sensitiveFields, field ∈ sensitiveFields := fun field h =>
    List.mem_append_left _ h
  have hwindows : ∀ field ∈ Windows.Overlay.sensitiveFields, field ∈ sensitiveFields :=
    fun field h => List.mem_append_right _ h
  have hproperty : ∀ field ∈ sensitiveFields,
      Windows.Overlay.property object field = object.lookup field := fun field h =>
    hobject.property_eq (List.mem_append_right _ h)
  rw [Bool.eq_iff_iff, List.any_eq_true, List.any_eq_true]
  constructor
  · rintro ⟨field, hfield, hsome⟩
    have hshared := hobject.shared field (hlinux field hfield) hsome
    exact ⟨field, hshared.2, by rwa [hproperty field (hlinux field hfield)]⟩
  · rintro ⟨field, hfield, hsome⟩
    rw [hproperty field (hwindows field hfield)] at hsome
    exact ⟨field, (hobject.shared field (hwindows field hfield) hsome).1, hsome⟩

theorem PlainRequest.host_agree (hfield : field ∈ ["anchorHost".toList, "dependencyHost".toList]) :
    Linux.Overlay.normalizeHost (object.lookup field) =
      Windows.Overlay.normalizeHost (Windows.Overlay.property object field) := by
  have hcandidate : field ∈ candidateFields := by
    simp only [candidateFields, List.mem_append, List.mem_cons, List.not_mem_nil, or_false] at hfield ⊢
    exact Or.inl (hfield.imp_right Or.inl)
  rw [hobject.property_eq hcandidate]
  exact normalizeHost_agree (hobject.hosts field hfield)

theorem PlainRequest.requestType_agree :
    Python.lower (Python.strip
        (Python.str ((object.lookup "requestType".toList).getD (.string [])))) =
      Windows.Overlay.requestTypeOf object := by
  rw [Windows.Overlay.requestTypeOf, hobject.property_eq (by simp [candidateFields])]
  cases hlookup : object.lookup "requestType".toList with
  | none => rfl
  | some value =>
      obtain ⟨text, rfl, htext⟩ := hobject.requestType value hlookup
      rw [Option.getD_some, Python.str, Json.text_string, strip_eq_trim fun c hc => (htext c hc).2]
      exact (Windows.Overlay.toLowerInvariant_of_ascii fun c hc =>
        (htext c (DotNet.mem_of_mem_trim hc)).1).symm

end

end Requests

theorem noCapital_mainFrame : DotNet.NoCapital "main_frame".toList := by
  have hlower : ("main_frame".toList.all fun c => !Ascii.isUpper c) = true := by decide
  intro c hc
  simpa using List.all_eq_true.mp hlower c hc

/-! ## Agreement -/

/-- The candidate that Windows makes of the one that Linux accepts. -/
def toWindows (c : Linux.Overlay.Candidate) : Windows.Overlay.Candidate where
  anchorHost := c.anchorHost
  dependencyHost := c.dependencyHost
  requestType := c.requestType

/-- Both agents read the hosts of a plain request in the same way, and Windows accepts
what Linux accepts but for the dependencies that the whitelist covers already. -/
theorem candidates_agree {whitelist protectedHosts rules : List Text}
    (hpolicy : ∀ entry ∈ whitelist ++ protectedHosts ++ rules, OneDomain entry)
    {object : JsonObject} (hobject : PlainRequest object) :
    (∀ field ∈ ["anchorHost".toList, "dependencyHost".toList],
        Linux.Overlay.normalizeHost (object.lookup field) =
          Windows.Overlay.normalizeHost (Windows.Overlay.property object field)) ∧
      (Windows.Overlay.testCandidate object
          (Windows.Overlay.policyContext whitelist protectedHosts rules)).toOption =
        (((Linux.Overlay.policyArguments whitelist protectedHosts rules).validate object).filter
          fun c => !Linux.Overlay.hostMatches c.dependencyHost
            (Linux.Overlay.splitHosts ([' '].intercalate whitelist))).map toWindows := by
  refine ⟨fun field hfield => hobject.host_agree hfield, ?_⟩
  obtain ⟨hallowed, hrules⟩ := List.forall_mem_append.mp hpolicy
  obtain ⟨hwhitelist, hprotected⟩ := List.forall_mem_append.mp hallowed
  have hanchor := hobject.host_agree (List.mem_cons_self (a := "anchorHost".toList))
  have hdependency : Linux.Overlay.normalizeHost (object.lookup "dependencyHost".toList) = _ :=
    hobject.host_agree (List.mem_cons_of_mem _ List.mem_cons_self)
  rw [Linux.Overlay.policyArguments, Linux.Overlay.PolicyArguments.validate,
    Linux.Overlay.validateCandidate, Windows.Overlay.testCandidate, Windows.Overlay.policyContext,
    hobject.sensitive_agree, hobject.requestType_agree, hanchor, hdependency]
  dsimp only
  rw [covers_agree hwhitelist, covers_agree hprotected, covers_agree hprotected, covers_agree hrules]
  have hmain : DotNet.equalsIgnoreCase (Windows.Overlay.requestTypeOf object) "main_frame".toList =
        true ↔ Windows.Overlay.requestTypeOf object = "main_frame".toList :=
    DotNet.equalsIgnoreCase_iff (DotNet.noCapital_toLowerInvariant _) noCapital_mainFrame
  have hsame := DotNet.equalsIgnoreCase_iff
    (Windows.Overlay.noCapital_normalizeHost (Windows.Overlay.property object "anchorHost".toList))
    (Windows.Overlay.noCapital_normalizeHost
      (Windows.Overlay.property object "dependencyHost".toList))
  have hcovered := covers_agree hwhitelist (Windows.Overlay.property object "dependencyHost".toList)
  generalize Windows.Overlay.requestTypeOf object = requestType at *
  generalize Windows.Overlay.normalizeHost
    (Windows.Overlay.property object "anchorHost".toList) = anchorHost at *
  generalize Windows.Overlay.normalizeHost
    (Windows.Overlay.property object "dependencyHost".toList) = dependencyHost at *
  split
  · rfl
  split
  · rfl
  by_cases hframe : requestType = "main_frame".toList
  · rw [if_pos hframe, if_pos (hmain.mpr hframe)]
    rfl
  rw [if_neg hframe, if_neg (mt hmain.mp hframe)]
  by_cases hequal : anchorHost = dependencyHost
  · rw [if_pos hequal, if_pos (hsame.mpr hequal)]
    rfl
  rw [if_neg hequal, if_neg (mt hsame.mp hequal)]
  split
  · rfl
  split
  · rfl
  split
  · rfl
  rw [Option.filter_some, hcovered]
  split
  · rename_i hlisted
    rw [hlisted]
    rfl
  · rename_i hlisted
    rw [Bool.not_eq_true] at hlisted
    rw [hlisted]
    rfl

theorem plainRequest_script : PlainRequest scriptRequest := by
  have hspelled : (candidateFields.all fun field => scriptRequest.all fun entry =>
      !DotNet.equalsIgnoreCase entry.1 field || entry.1 == field) = true := by decide +kernel
  have hshared : (sensitiveFields.all fun field => (scriptRequest.lookup field).isNone) = true := by
    decide +kernel
  have hhosts : (["anchorHost".toList, "dependencyHost".toList].all fun field =>
      (Json.text (scriptRequest.lookup field)).all fun c => decide (Common c)) = true := by
    decide +kernel
  have hscript : ("script".toList.all fun c => decide (c.toNat < 0x80 ∧ Common c)) = true := by
    decide
  refine ⟨fun field hfield entry hentry hequal => ?_, fun field hfield hsome => ?_,
    fun field hfield c hc => ?_, fun value hvalue => ⟨"script".toList, ?_, fun c hc => ?_⟩⟩
  · have hentrySpelled := List.all_eq_true.mp (List.all_eq_true.mp hspelled field hfield) entry hentry
    simpa [hequal] using hentrySpelled
  · have hnone := List.all_eq_true.mp hshared field hfield
    rw [Option.isNone_iff_eq_none] at hnone
    rw [hnone] at hsome
    cases hsome
  · exact of_decide_eq_true (List.all_eq_true.mp (List.all_eq_true.mp hhosts field hfield) c hc)
  · exact (Option.some.inj hvalue).symm
  · exact of_decide_eq_true (List.all_eq_true.mp hscript c hc)

theorem oneDomain_s_io : OneDomain "s.io".toList := by
  have hcommon : ("s.io".toList.all fun c => decide (Common c)) = true := by decide
  have hword : ((Python.strip "s.io".toList).all fun c => !Python.isSpace c) = true := by decide
  exact ⟨fun c hc => of_decide_eq_true (List.all_eq_true.mp hcommon c hc), fun c hc => by
    simpa using List.all_eq_true.mp hword c hc⟩

theorem candidates_agree_script :
    (Windows.Overlay.testCandidate scriptRequest
        (Windows.Overlay.policyContext ["s.io".toList] [] [])).toOption =
      (((Linux.Overlay.policyArguments ["s.io".toList] [] []).validate scriptRequest).filter
        fun c => !Linux.Overlay.hostMatches c.dependencyHost
          (Linux.Overlay.splitHosts ([' '].intercalate ["s.io".toList]))).map toWindows :=
  (@candidates_agree ["s.io".toList] [] [] (List.forall_mem_singleton.mpr oneDomain_s_io)
    scriptRequest plainRequest_script).2

/-- A page of `s.io` that loads a script from `a.s.io`. -/
def siblingRequest : JsonObject :=
  [("anchorHost".toList, .string "s.io".toList),
   ("dependencyHost".toList, .string "a.s.io".toList),
   ("requestType".toList, .string "script".toList)]

/-- Linux accepts the dependency, though the whitelist covers it; Windows passes over
it. -/
theorem whitelisted_dependency_passed_over :
    ((Linux.Overlay.policyArguments ["s.io".toList] [] []).validate siblingRequest).isSome = true ∧
      Windows.Overlay.testCandidate siblingRequest
          (Windows.Overlay.policyContext ["s.io".toList] [] []) =
        .error (.skipped "dependency-already-whitelisted".toList) := by
  decide

end OpenPath.Policy
