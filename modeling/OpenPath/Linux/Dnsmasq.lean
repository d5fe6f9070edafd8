/-
# How dnsmasq reads its configuration

A line `server=/a/b/value` holds one directive for each domain between the
slashes. dnsmasq drops dots before a domain and the one after it, takes `#` for
every name, and compares labels without regard to case. A query is answered by a
directive whose domain is the longest suffix of the host; which of several with
the same domain answers is left open here.
-/

import OpenPath.Foundation.LongestSuffix
import OpenPath.Linux.DomainValidation

namespace OpenPath.Linux.Dnsmasq

open Foundation Ascii

/-- The settings that name domains. -/
inductive Setting
  | server
  | address
  | ipset
  deriving DecidableEq

structure Directive where
  setting : Setting
  domain : Text
  value : Text
  deriving DecidableEq

def Setting.marker : Setting → Text
  | .server => "server=/".toList
  | .address => "address=/".toList
  | .ipset => "ipset=/".toList

/-- The directives that a line holds for a setting. -/
def readSetting (line : Text) (setting : Setting) : List Directive :=
  if setting.marker.isPrefixOf line then
    let fields := (line.drop setting.marker.length).splitOn '/'
    fields.dropLast.map fun domain => { setting, domain, value := fields.getLast?.getD [] }
  else []

def readLine (line : Text) : List Directive :=
  [Setting.server, Setting.address, Setting.ipset].flatMap (readSetting line)

def readDirectives (config : Text) : List Directive := (config.splitOn '\n').flatMap readLine

/-- The labels of a name. -/
def labels (name : Text) : List Text :=
  let lower := name.map Char.toLower
  (if lower.getLast? = some '.' then lower.dropLast else lower).splitOn '.'

def Directive.name (directive : Directive) : List Text :=
  if directive.domain = ['#'] then [] else labels (directive.domain.dropWhile (· == '.'))

/-- The directives that answer queries. -/
def answering (directives : List Directive) : List Directive :=
  directives.filter (·.setting ≠ .ipset)

/-- What it is to ask the upstream resolver. -/
def Directive.Upstream (directive : Directive) : Prop := directive.setting = .server

/-- A directive that may answer a query for a host. -/
def Answers (config : Text) (host : Text) (directive : Directive) : Prop :=
  LongestMatch Directive.name (answering (readDirectives config)) (labels host) directive

/-- Whichever directive answers, the host is resolved upstream. -/
def Resolves (config : Text) (host : Text) : Prop :=
  SurelyPermits Directive.name Directive.Upstream (answering (readDirectives config)) (labels host)

/-- Some directive that may answer resolves the host upstream. -/
def MayResolve (config : Text) (host : Text) : Prop :=
  ∃ directive, Answers config host directive ∧ directive.Upstream

/-! ## Reading single lines -/

theorem labels_ne_nil (name : Text) : labels name ≠ [] := List.splitOn_ne_nil _ _

/-- The first character of a setting, which no two settings share. -/
def Setting.initial : Setting → Char
  | .server => 's'
  | .address => 'a'
  | .ipset => 'i'

theorem Setting.head_marker (setting : Setting) : ∃ rest, setting.marker = setting.initial :: rest := by
  cases setting with
  | server => exact ⟨"erver=/".toList, rfl⟩
  | address => exact ⟨"ddress=/".toList, rfl⟩
  | ipset => exact ⟨"pset=/".toList, rfl⟩

theorem Setting.initial_injective {first second : Setting}
    (hinitial : first.initial = second.initial) : first = second := by
  cases first <;> cases second <;> first | rfl | cases hinitial

/-- A setting is read from lines that start with its first character. -/
theorem readSetting_eq_nil {line : Text} {setting : Setting}
    (hhead : line.head? ≠ some setting.initial) : readSetting line setting = [] := by
  refine if_neg fun hprefix => hhead ?_
  obtain ⟨rest, rfl⟩ := List.isPrefixOf_iff_prefix.mp hprefix
  obtain ⟨tail, htail⟩ := setting.head_marker
  rw [htail]
  rfl

/-- A line that starts like none of the settings is not read. -/
theorem readLine_eq_nil {line : Text}
    (hhead : ∀ setting : Setting, line.head? ≠ some setting.initial) : readLine line = [] := by
  simp [readLine, readSetting_eq_nil (hhead _)]

theorem readDirectives_unlines {lines : List Text} (hlines : ∀ line ∈ lines, '\n' ∉ line) :
    readDirectives (unlines '\n' lines) = lines.flatMap readLine := by
  have hblank : readLine [] = [] := readLine_eq_nil (by simp)
  rw [readDirectives, splitOn_unlines hlines, List.flatMap_append, List.flatMap_singleton, hblank,
    List.append_nil]

/-- A line with one domain holds one directive. -/
theorem readLine_single (setting : Setting) {domain value : Text} (hdomain : '/' ∉ domain)
    (hvalue : '/' ∉ value) :
    readLine (setting.marker ++ domain ++ '/' :: value) = [{ setting, domain, value }] := by
  have hfields : (domain ++ '/' :: value).splitOn '/' = [domain, value] := by
    have hjoin : domain ++ '/' :: value = ['/'].intercalate [domain, value] := by simp
    rw [hjoin]
    exact List.splitOn_intercalate '/' (by simp [hdomain, hvalue]) (by simp)
  have hread : readSetting (setting.marker ++ domain ++ '/' :: value) setting =
      [{ setting, domain, value }] := by
    have hprefix : setting.marker.isPrefixOf (setting.marker ++ domain ++ '/' :: value) = true := by
      rw [List.isPrefixOf_iff_prefix, List.append_assoc]
      exact List.prefix_append _ _
    rw [readSetting, if_pos hprefix, List.append_assoc, List.drop_left, hfields]
    rfl
  have hother : ∀ other : Setting, other ≠ setting →
      readSetting (setting.marker ++ domain ++ '/' :: value) other = [] := by
    intro other hne
    apply readSetting_eq_nil
    obtain ⟨tail, htail⟩ := setting.head_marker
    rw [htail]
    exact fun h => hne (Setting.initial_injective (Option.some.inj h).symm)
  simp only [readLine, List.flatMap_cons, List.flatMap_nil, List.append_nil]
  cases setting with
  | server => rw [hread, hother .address (by decide), hother .ipset (by decide)]; rfl
  | address => rw [hread, hother .server (by decide), hother .ipset (by decide)]; rfl
  | ipset => rw [hread, hother .server (by decide), hother .address (by decide)]; rfl

/-! ## Validated lines -/

theorem alphanumeric_ne {c d : Char} (hc : isAlphanumeric c = true)
    (hd : isAlphanumeric d = false) : c ≠ d := by
  rintro rfl
  rw [hc] at hd
  cases hd

/-- What `sanitizeDomain` leaves of a validated line names what was checked. -/
theorem dropWhile_sanitizeDomain {domain : Text} (hvalid : ValidLine domain) :
    (sanitizeDomain domain).dropWhile (· == '.') = checkedDomain domain := by
  obtain ⟨c, rest, hcheck, hc⟩ := hvalid.head
  have hdot : (c == '.') = false := by
    simpa using alphanumeric_ne hc (d := '.') (by decide)
  have hkept : (checkedDomain domain).filter isDomainChar = checkedDomain domain :=
    List.filter_eq_self.mpr hvalid.chars
  have hkeep : (fun c => isAlphanumeric c || c == '.' || c == '-') = isDomainChar := rfl
  by_cases hwild : "*.".toList.isPrefixOf domain = true
  · have hdomain : domain = '*' :: '.' :: checkedDomain domain := by
      obtain ⟨tail, rfl⟩ := List.isPrefixOf_iff_prefix.mp hwild
      simp [checkedDomain]
    have hsanitized : sanitizeDomain domain = '.' :: checkedDomain domain := by
      rw [sanitizeDomain, hkeep, hdomain, List.filter_cons_of_neg (by decide),
        List.filter_cons_of_pos (by decide), ← hdomain, hkept]
    rw [hsanitized, List.dropWhile_cons_of_pos (by simp), hcheck,
      List.dropWhile_cons_of_neg (by simp [hdot])]
  · have hdomain : checkedDomain domain = domain := if_neg hwild
    have hsanitized : sanitizeDomain domain = checkedDomain domain := by
      rw [sanitizeDomain, hkeep, ← hkept, hdomain]
    rw [hsanitized, hcheck, List.dropWhile_cons_of_neg (by simp [hdot])]

theorem isDomainChar_sanitizeDomain (domain : Text) :
    ∀ c ∈ sanitizeDomain domain, isDomainChar c = true :=
  fun _ hc => (List.mem_filter.mp hc).2

theorem not_mem_sanitizeDomain (domain : Text) {c : Char} (hc : isDomainChar c = false) :
    c ∉ sanitizeDomain domain := by
  intro hmem
  rw [isDomainChar_sanitizeDomain domain c hmem] at hc
  cases hc

/-- The directive of a validated line has the labels of the line. -/
theorem name_sanitizeDomain {domain : Text} (hvalid : ValidLine domain) (setting : Setting)
    (value : Text) :
    Directive.name { setting, domain := sanitizeDomain domain, value } =
      labels (checkedDomain domain) := by
  have hplain : sanitizeDomain domain ≠ ['#'] := by
    intro hsharp
    exact not_mem_sanitizeDomain domain (c := '#') (by decide) (by simp [hsharp])
  rw [Directive.name, if_neg hplain, dropWhile_sanitizeDomain hvalid]

end OpenPath.Linux.Dnsmasq
