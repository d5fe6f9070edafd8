/-
# Forward rules of the Windows agent

The DNS proxy of the Windows agent forwards the names that its hosts file says: a
name, a name with everything under it, or what a pattern matches. For a domain of
the whitelist the agent writes the first two, or, where some blocked subdomain lies
under the domain, the name and a pattern with a look-ahead that leaves those out.
A domain that spells an address for `sslip.io` gets that address as a fixed entry,
and its forward rules are commented out.

Names are compared without regard to the case of letters.
-/

import OpenPath.Windows.ProtectedDomains

namespace OpenPath.Windows.Acrylic

open DotNet
open Foundation (Re stripPrefix)

/-! ## Lines -/

/-- What a forward rule names. -/
inductive ForwardRule
  | host (domain : Text)
  | tree (domain : Text)
  | treeWithout (blocked : List Text) (domain : Text)
  deriving DecidableEq

inductive HostsLine
  | address (ip domain : Text)
  | forward (rule : ForwardRule)
  | comment (rule : ForwardRule)
  deriving DecidableEq

/-- `[regex]::Escape` -/
def regexEscape (value : Text) : Text :=
  value.flatMap fun c =>
    if c ∈ "\\*+?|\x7b[()^$.# ".toList then ['\\', c]
    else if c = '\n' then ['\\', 'n']
    else if c = '\r' then ['\\', 'r']
    else if c = '\t' then ['\\', 't']
    else if c.toNat = 0xc then ['\\', 'f']
    else [c]

def ForwardRule.render : ForwardRule → Text
  | .host domain => domain
  | .tree domain => '>' :: domain
  | .treeWithout blocked domain =>
      "/^(?!(?:.*\\.)?(?:".toList ++ ['|'].intercalate (blocked.map regexEscape) ++
        ")$).*\\.".toList ++ regexEscape domain ++ ['$']

def HostsLine.render : HostsLine → Text
  | .address ip domain => ip ++ ' ' :: domain
  | .forward rule => "FW ".toList ++ rule.render
  | .comment rule => "# FW ".toList ++ rule.render

/-! ## What a rule matches -/

/-- A word in either case. -/
def ignoringCase (word : Text) : Re Char :=
  .sequence (word.map fun c => .sat fun d => d.toUpper == c.toUpper)

/-- `.*` -/
def anyText : Re Char := .star (.sat (· ≠ '\n'))

/-- `(?:.*\.)?(?:a|b)`, which the look-ahead compares with the whole name. -/
def blockedPattern (blocked : List Text) : Re Char :=
  .cat (.opt (.cat anyText (.lit '.'))) (.oneOf (blocked.map ignoringCase))

/-- `.*\.domain` -/
def treePattern (domain : Text) : Re Char := .cat anyText (.cat (.lit '.') (ignoringCase domain))

/-- The name is the domain or lies under it. -/
def Under (domain host : Text) : Prop :=
  host.map Char.toUpper = domain.map Char.toUpper ∨
    ('.' :: domain).map Char.toUpper <:+ host.map Char.toUpper

instance (domain host : Text) : Decidable (Under domain host) :=
  inferInstanceAs (Decidable (_ ∨ _))

def ForwardRule.Matches (host : Text) : ForwardRule → Prop
  | .host domain => host.map Char.toUpper = domain.map Char.toUpper
  | .tree domain => Under domain host
  | .treeWithout blocked domain =>
      host ∉ (blockedPattern blocked).lang ∧ host ∈ (treePattern domain).lang

/-- Some forward rule among the lines matches the name. -/
def Forwards (lines : List HostsLine) (host : Text) : Prop :=
  ∃ rule, .forward rule ∈ lines ∧ rule.Matches host

/-! ## Addresses in names -/

/-- `\d{1,3}(?:[.-]\d{1,3}){3}` -/
def octetsPattern : Re Char :=
  .cat ((Re.sat Ascii.isDigit).between 1 3)
    (.times (.cat (.sat fun c => c == '.' || c == '-') ((Re.sat Ascii.isDigit).between 1 3)) 3)

/-- `\.sslip\.io$` -/
def sslipSuffix : Text := ".sslip.io".toList

/-- The places at which `(?:^|\.)` lets the address start. -/
def addressStarts : Text → List Text
  | [] => []
  | c :: rest => if c = '.' then rest :: addressStarts rest else addressStarts rest

/-- The address at the start of a text that goes on with the suffix to its end. -/
def addressBefore (value : Text) : Option Text :=
  let ip := value.take (value.length - sslipSuffix.length)
  let suffix := value.drop (value.length - sslipSuffix.length)
  if octetsPattern.accepts ip && equalsIgnoreCase suffix sslipSuffix then some ip else none

def parseOctet (digits : Text) : Nat :=
  digits.foldl (fun value c => 10 * value + (c.toNat - '0'.toNat)) 0

/-- `Resolve-SslipIpv4Address` -/
def resolveSslipIpv4Address (domain : Text) : Option Text :=
  match (domain :: addressStarts domain).findSome? addressBefore with
  | none => none
  | some ip =>
      let octets := ((ip.map fun c => if c = '-' then '.' else c).splitOn '.').map parseOctet
      if octets.any (· > 255) then none
      else some (['.'].intercalate (octets.map (Nat.toDigits 10)))

/-! ## The rules of a domain -/

/-- The blocked subdomains under a domain. -/
def blockedDescendants (domain : Text) (blockedSubdomains : List Text) : List Text :=
  (blockedSubdomains.map normalizeEntry).filter fun subdomain =>
    subdomain ≠ [] ∧ domain.length + 1 < subdomain.length ∧
      ('.' :: domain).map Char.toUpper <:+ subdomain.map Char.toUpper

def getAcrylicForwardRules (domain : Text) (blockedSubdomains : List Text) : List HostsLine :=
  let normalizedDomain := trim domain
  if normalizedDomain = [] then []
  else
    let blocked := blockedDescendants normalizedDomain blockedSubdomains
    match resolveSslipIpv4Address normalizedDomain with
    | some ip =>
        if blocked = [] then [.address ip normalizedDomain, .comment (.tree normalizedDomain)]
        else
          [.address ip normalizedDomain, .comment (.host normalizedDomain),
           .comment (.treeWithout blocked normalizedDomain)]
    | none =>
        if blocked = [] then [.forward (.host normalizedDomain), .forward (.tree normalizedDomain)]
        else
          [.forward (.host normalizedDomain), .forward (.treeWithout blocked normalizedDomain)]

/-! ## Patterns and suffixes -/

section Patterns

variable {host domain : Text}

theorem mem_ignoringCase (word value : Text) :
    value ∈ (ignoringCase word).lang ↔ value.map Char.toUpper = word.map Char.toUpper :=
  Re.mem_lang_sequence_key Char.toUpper word value

/-- A name in which a dot and a word in either case end. -/
theorem mem_treePattern (hline : '\n' ∉ host) :
    host ∈ (treePattern domain).lang ↔
      ('.' :: domain).map Char.toUpper <:+ host.map Char.toUpper := by
  refine ⟨fun hmem => ?_, ?_⟩
  · obtain ⟨front, -, rest, hrest, rfl⟩ := (Re.mem_lang_cat _ _ _).mp hmem
    obtain ⟨dot, hdot, tail, htail, rfl⟩ := (Re.mem_lang_cat _ _ _).mp hrest
    rw [(Re.mem_lang_lit _ _).mp hdot]
    rw [mem_ignoringCase] at htail
    refine ⟨front.map Char.toUpper, ?_⟩
    simp [htail]
  · rintro ⟨front, hfront⟩
    have hsplit : host.take front.length ++ host.drop front.length = host :=
      List.take_append_drop _ _
    have hdrop : (host.drop front.length).map Char.toUpper = ('.' :: domain).map Char.toUpper := by
      rw [List.map_drop, ← hfront, List.drop_left]
    have hfrontText : host.take front.length ∈ anyText.lang := by
      refine Re.mem_lang_star_sat.mpr fun c hc => ?_
      simpa using fun h : c = '\n' => hline (h ▸ List.mem_of_mem_take hc)
    refine (Re.mem_lang_cat _ _ _).mpr ⟨_, hfrontText, _, ?_, hsplit⟩
    cases htail : host.drop front.length with
    | nil =>
        rw [htail] at hdrop
        cases hdrop
    | cons c tail =>
        rw [htail, List.map_cons, List.map_cons] at hdrop
        obtain ⟨hc, hword⟩ := List.cons.inj hdrop
        have hdot : c = '.' := (Ascii.toUpper_eq_dot_iff c).mp hc
        exact (Re.mem_lang_cat _ _ _).mpr
          ⟨[c], (Re.mem_lang_lit _ _).mpr (by rw [hdot]), tail,
            (mem_ignoringCase _ _).mpr hword, rfl⟩

/-- The look-ahead rules a name out that is one of the blocked names or lies under
one. -/
theorem mem_blockedPattern {blocked : List Text} (hline : '\n' ∉ host) :
    host ∈ (blockedPattern blocked).lang ↔ ∃ name ∈ blocked, Under name host := by
  have hequal : host ∈ (Re.oneOf (blocked.map ignoringCase)).lang ↔
      ∃ name ∈ blocked, host.map Char.toUpper = name.map Char.toUpper := by
    simp [Re.mem_lang_oneOf, mem_ignoringCase]
  have hunder : host ∈ (Re.cat (.cat anyText (.lit '.'))
      (.oneOf (blocked.map ignoringCase))).lang ↔
      ∃ name ∈ blocked, ('.' :: name).map Char.toUpper <:+ host.map Char.toUpper := by
    have htrees : ∀ name : Text, host ∈ (treePattern name).lang ↔
        ('.' :: name).map Char.toUpper <:+ host.map Char.toUpper :=
      fun name => mem_treePattern hline
    rw [Re.mem_lang_cat]
    simp only [← htrees, treePattern, ← Re.mem_lang_cat_cat]
    simp only [Re.mem_lang_oneOf, Re.mem_lang_cat _ (ignoringCase _), List.mem_map,
      exists_exists_and_eq_and]
    grind
  rw [blockedPattern, Re.mem_lang_cat_opt, hequal, hunder]
  simp only [Under, and_or_left, exists_or]

end Patterns

/-! ## The decision for a name -/

/-- What an entry of the blocked subdomains names. -/
def blockedName (entry : Text) : Text := stripPrefix "*.".toList (normalizeEntry entry)

/-- The name lies under the domain and is not the domain. -/
def StrictlyUnder (domain name : Text) : Prop :=
  domain.length + 1 < name.length ∧ ('.' :: domain).map Char.toUpper <:+ name.map Char.toUpper

instance (domain name : Text) : Decidable (StrictlyUnder domain name) :=
  inferInstanceAs (Decidable (_ ∧ _))

section Decision

variable {host domain : Text} {blockedSubdomains : List Text}

/-- A name under another does not match what the other does not match. -/
theorem Under.trans {first second third : Text} (hfirst : Under second first)
    (hsecond : Under third second) : Under third first := by
  have hdot : ∀ name : Text, ('.' :: name).map Char.toUpper = '.' :: name.map Char.toUpper :=
    fun name => rfl
  rcases hfirst with hequal | hsuffix
  · rwa [Under, hequal]
  · rcases hsecond with hequal | hsuffix'
    · right
      rwa [hdot, ← hequal, ← hdot]
    · right
      rw [hdot second] at hsuffix
      exact hsuffix'.trans ((List.suffix_cons _ _).trans hsuffix)

theorem mem_blockedDescendants (name : Text) :
    name ∈ blockedDescendants domain blockedSubdomains ↔
      StrictlyUnder domain name ∧ ∃ entry ∈ blockedSubdomains, normalizeEntry entry = name := by
  have hnonempty : StrictlyUnder domain name → name ≠ [] := by
    rintro ⟨hlength, -⟩ rfl
    simp at hlength
  simp only [blockedDescendants, List.mem_filter, List.mem_map, decide_eq_true_eq]
  rw [and_comm]
  refine and_congr_left fun _ => ⟨fun hname => hname.2, fun hname => ⟨hnonempty hname, hname⟩⟩

/-- The name that an entry with a wildcard has in the pattern is under what the
entry names. -/
theorem under_blockedName (entry : Text) : Under (blockedName entry) (normalizeEntry entry) := by
  by_cases hwild : "*.".toList <+: normalizeEntry entry
  · obtain ⟨name, hname⟩ := hwild
    right
    rw [blockedName, ← hname, Foundation.stripPrefix_append]
    exact (List.suffix_cons '*' ('.' :: name)).map Char.toUpper
  · left
    rw [blockedName, Foundation.stripPrefix_of_not_prefix hwild]

/-- The entries with a wildcard aside, the names in the pattern are those the
entries name. -/
theorem exists_blockedDescendant
    (hwild : ∀ entry ∈ blockedSubdomains, "*.".toList <+: normalizeEntry entry →
      ¬ Under (blockedName entry) host) :
    (∃ name ∈ blockedDescendants domain blockedSubdomains, Under name host) ↔
      ∃ entry ∈ blockedSubdomains,
        StrictlyUnder domain (blockedName entry) ∧ Under (blockedName entry) host := by
  have hplain : ∀ entry ∈ blockedSubdomains, Under (blockedName entry) host →
      blockedName entry = normalizeEntry entry := fun entry hentry hunder =>
    Foundation.stripPrefix_of_not_prefix fun hstar => hwild entry hentry hstar hunder
  constructor
  · rintro ⟨name, hname, hunder⟩
    obtain ⟨hstrict, entry, hentry, rfl⟩ := (mem_blockedDescendants name).mp hname
    have hhost : Under (blockedName entry) host := hunder.trans (under_blockedName entry)
    refine ⟨entry, hentry, ?_⟩
    rw [hplain entry hentry hhost]
    exact ⟨hstrict, hunder⟩
  · rintro ⟨entry, hentry, hstrict, hunder⟩
    rw [hplain entry hentry hunder] at hstrict hunder
    exact ⟨_, (mem_blockedDescendants _).mpr ⟨hstrict, entry, hentry, rfl⟩, hunder⟩

theorem Under.length_le {name : Text} (hunder : Under name host) :
    name.length ≤ host.length := by
  rcases hunder with hequal | hsuffix
  · have hlength := congrArg List.length hequal
    simp only [List.length_map] at hlength
    exact hlength.ge
  · have hlength := hsuffix.length_le
    simp only [List.length_map, List.length_cons] at hlength
    omega

theorem not_under_of_strictlyUnder {name : Text} (hname : StrictlyUnder domain name)
    (hhost : host.map Char.toUpper = domain.map Char.toUpper) : ¬ Under name host := by
  intro hunder
  have hlength : host.length = domain.length := by
    simpa using congrArg List.length hhost
  have hle := hunder.length_le
  have hlt := hname.1
  omega

/-- Without a static address, the forward rules match what is under the domain and
under no blocked name in the pattern. -/
theorem forwards_of_no_address (hdomain : trim domain ≠ [])
    (haddress : resolveSslipIpv4Address (trim domain) = none) (hline : '\n' ∉ host) :
    Forwards (getAcrylicForwardRules domain blockedSubdomains) host ↔
      Under (trim domain) host ∧
        ¬ ∃ name ∈ blockedDescendants (trim domain) blockedSubdomains, Under name host := by
  by_cases hblocked : blockedDescendants (trim domain) blockedSubdomains = []
  · have hrules : getAcrylicForwardRules domain blockedSubdomains =
        [.forward (.host (trim domain)), .forward (.tree (trim domain))] := by
      simp [getAcrylicForwardRules, hdomain, haddress, hblocked]
    rw [Forwards, hrules, hblocked]
    simp only [List.mem_cons, HostsLine.forward.injEq, List.not_mem_nil, or_false,
      exists_eq_or_imp, exists_eq_left, ForwardRule.Matches, false_and, exists_false,
      not_false_eq_true, and_true]
    exact ⟨fun hmatches => hmatches.elim Or.inl id, Or.inr⟩
  · have hrules : getAcrylicForwardRules domain blockedSubdomains =
        [.forward (.host (trim domain)),
         .forward (.treeWithout (blockedDescendants (trim domain) blockedSubdomains)
           (trim domain))] := by
      simp [getAcrylicForwardRules, hdomain, haddress, hblocked]
    have hself : host.map Char.toUpper = (trim domain).map Char.toUpper →
        ¬ ∃ name ∈ blockedDescendants (trim domain) blockedSubdomains, Under name host := by
      rintro hhost ⟨name, hname, hunder⟩
      exact not_under_of_strictlyUnder ((mem_blockedDescendants name).mp hname).1 hhost hunder
    rw [Forwards, hrules]
    simp only [List.mem_cons, HostsLine.forward.injEq, List.not_mem_nil, or_false,
      exists_eq_or_imp, exists_eq_left, ForwardRule.Matches, mem_blockedPattern hline,
      mem_treePattern hline]
    constructor
    · rintro (hhost | ⟨hnot, htree⟩)
      · exact ⟨Or.inl hhost, hself hhost⟩
      · exact ⟨Or.inr htree, hnot⟩
    · rintro ⟨hhost | htree, hnot⟩
      · exact Or.inl hhost
      · exact Or.inr ⟨hnot, htree⟩

theorem not_forwards_of_address {ip : Text}
    (haddress : resolveSslipIpv4Address (trim domain) = some ip) :
    ¬ Forwards (getAcrylicForwardRules domain blockedSubdomains) host := by
  rintro ⟨rule, hrule, -⟩
  unfold getAcrylicForwardRules at hrule
  by_cases hdomain : trim domain = []
  · simp [hdomain] at hrule
  · by_cases hblocked : blockedDescendants (trim domain) blockedSubdomains = []
    · simp [hdomain, haddress, hblocked] at hrule
    · simp [hdomain, haddress, hblocked] at hrule

theorem getAcrylicForwardRules_of_address {ip : Text} (hdomain : trim domain ≠ [])
    (haddress : resolveSslipIpv4Address (trim domain) = some ip) :
    ∃ rules : List ForwardRule, getAcrylicForwardRules domain blockedSubdomains =
      .address ip (trim domain) :: rules.map .comment := by
  by_cases hblocked : blockedDescendants (trim domain) blockedSubdomains = []
  · exact ⟨[.tree (trim domain)], by simp [getAcrylicForwardRules, hdomain, haddress, hblocked]⟩
  · exact ⟨[.host (trim domain), .treeWithout _ (trim domain)],
      by simp only [getAcrylicForwardRules, hdomain, haddress, hblocked]; rfl⟩

theorem getAcrylicForwardRules_cons {entry : Text}
    (hentry : ¬ StrictlyUnder (trim domain) (normalizeEntry entry)) :
    getAcrylicForwardRules domain (entry :: blockedSubdomains) =
      getAcrylicForwardRules domain blockedSubdomains := by
  have hblocked : blockedDescendants (trim domain) (entry :: blockedSubdomains) =
      blockedDescendants (trim domain) blockedSubdomains := by
    refine List.filter_cons_of_neg ?_
    rw [decide_eq_true_eq]
    exact fun hname => hentry hname.2
  rw [getAcrylicForwardRules, hblocked, ← getAcrylicForwardRules]

/-- The forward rules of a domain that spells no address match the names under it
that are under no blocked name strictly below it. A domain that spells one has a
fixed entry, and comments behind it. -/
theorem forwards_iff (hdomain : trim domain ≠ []) (hline : '\n' ∉ host)
    (hwild : ∀ entry ∈ blockedSubdomains, "*.".toList <+: normalizeEntry entry →
      ¬ Under (blockedName entry) host) :
    (Forwards (getAcrylicForwardRules domain blockedSubdomains) host ↔
      resolveSslipIpv4Address (trim domain) = none ∧ Under (trim domain) host ∧
        ∀ entry ∈ blockedSubdomains, StrictlyUnder (trim domain) (blockedName entry) →
          ¬ Under (blockedName entry) host) ∧
      (∀ ip, resolveSslipIpv4Address (trim domain) = some ip →
        ∃ rules : List ForwardRule, getAcrylicForwardRules domain blockedSubdomains =
          .address ip (trim domain) :: rules.map .comment) ∧
      ∀ entry, ¬ StrictlyUnder (trim domain) (normalizeEntry entry) →
        getAcrylicForwardRules domain (entry :: blockedSubdomains) =
          getAcrylicForwardRules domain blockedSubdomains := by
  refine ⟨?_, fun _ => getAcrylicForwardRules_of_address hdomain,
    fun _ => getAcrylicForwardRules_cons⟩
  cases haddress : resolveSslipIpv4Address (trim domain) with
  | some ip => simpa using not_forwards_of_address haddress
  | none =>
      rw [forwards_of_no_address hdomain haddress hline, exists_blockedDescendant hwild]
      simp

/-- A blocked subdomain in another case, with a host on either side of it, and a wildcard
beside them. -/
theorem forwards_beside_blocked_subdomain :
    Forwards (getAcrylicForwardRules "example.org".toList
        ["Ads.Example.org".toList, "*.video.example.org".toList]) "www.example.org".toList ∧
      ¬ Forwards (getAcrylicForwardRules "example.org".toList
        ["Ads.Example.org".toList, "*.video.example.org".toList])
          "x.ads.example.org".toList :=
  ⟨(forwards_iff (by decide) (by decide) (by decide)).1.mpr
      ⟨by decide, by decide, by decide⟩,
    fun hforwards => by
      have hrules := (forwards_iff (by decide) (by decide) (by decide)).1.mp hforwards
      exact absurd (hrules.2.2 "Ads.Example.org".toList List.mem_cons_self) (by decide)⟩

/-- A whitelist domain without a forward rule, and a blocked subdomain that its own
domain keeps forwarding. -/
theorem address_and_blocked_domain :
    ¬ (Forwards (getAcrylicForwardRules "nce.10.0.0.1.sslip.io".toList [])
          "nce.10.0.0.1.sslip.io".toList ↔
        Under "nce.10.0.0.1.sslip.io".toList "nce.10.0.0.1.sslip.io".toList ∧
          ¬ ∃ entry ∈ ([] : List Text),
            Under (blockedName entry) "nce.10.0.0.1.sslip.io".toList) ∧
      ¬ (Forwards (getAcrylicForwardRules "example.org".toList ["example.org".toList])
          "example.org".toList ↔
        Under "example.org".toList "example.org".toList ∧
          ¬ ∃ entry ∈ ["example.org".toList],
            Under (blockedName entry) "example.org".toList) := by
  have haddress : resolveSslipIpv4Address (trim "nce.10.0.0.1.sslip.io".toList) =
      some "10.0.0.1".toList := by decide
  have hunder : Under "nce.10.0.0.1.sslip.io".toList "nce.10.0.0.1.sslip.io".toList := Or.inl rfl
  have hblocked : Under (blockedName "example.org".toList) "example.org".toList := by decide
  have hforwards : Forwards (getAcrylicForwardRules "example.org".toList ["example.org".toList])
      "example.org".toList :=
    (forwards_of_no_address (by decide) (by decide) (by decide)).mpr
      ⟨Or.inl rfl, by decide⟩
  refine ⟨fun hiff => ?_, fun hiff => ?_⟩
  · exact not_forwards_of_address haddress (hiff.mpr ⟨hunder, by simp⟩)
  · exact (hiff.mp hforwards).2 ⟨_, List.mem_cons_self, hblocked⟩

end Decision

end OpenPath.Windows.Acrylic
