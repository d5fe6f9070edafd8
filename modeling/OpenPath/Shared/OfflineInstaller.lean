/-
# Configuration of an offline installer

The configuration that an offline installer carries, and the schema that both
its writer and its reader check it against: the bounds of its texts and lists,
the address of the server, the time at which the token expires, and the host
names of captive portals. The schema is strict, so that a stored configuration
has exactly these fields.

Parsing a URL is the platform's; the schema looks at five parts of the result.
-/

import OpenPath.Foundation.Regex
import OpenPath.Text.IsoDate
import OpenPath.Text.JavaScript
import Mathlib.Data.Rat.Defs

namespace OpenPath.OfflineInstaller

open Foundation JavaScript

/-! ## The layout of the trailer -/

def headerMagic : String := "OPWSI1\x00\x00"
def epilogueMagic : String := "OPWS"
def schemaVersion : Nat := 1
def flags : Nat := 0
def headerSize : Nat := 52
def epilogueSize : Nat := 16
def slotLength : Nat := 65536

/-! ## Values -/

/-- A value of JSON. -/
inductive Json
  | null
  | bool (value : Bool)
  | number (value : Rat)
  | string (value : Text)
  | array (items : List Json)
  | object (fields : List (Text × Json))

namespace Json

def string? : Json → Option Text
  | string value => some value
  | _ => none

def bool? : Json → Option Bool
  | bool value => some value
  | _ => none

def array? : Json → Option (List Json)
  | array items => some items
  | _ => none

/-- The schema version, which is a literal. -/
def isOne : Json → Bool
  | number value => value == 1
  | _ => false

/-- `z.object({ … }).strict()`: no other fields than these. -/
def strictObject? (keys : List Text) : Json → Option (List (Text × Json))
  | object fields => if fields.all fun field => keys.contains field.1 then some fields else none
  | _ => none

def strings? (json : Json) : Option (List Text) := json.array?.bind fun items => items.mapM string?

end Json

inductive AppControlProfile
  | managedBrowserCompatibility
  | strictApplicationAllowlist
  deriving DecidableEq

def AppControlProfile.text : AppControlProfile → Text
  | managedBrowserCompatibility => "ManagedBrowserCompatibility".toList
  | strictApplicationAllowlist => "StrictApplicationAllowlist".toList

def AppControlProfile.ofText (value : Text) : Option AppControlProfile :=
  if value = managedBrowserCompatibility.text then some managedBrowserCompatibility
  else if value = strictApplicationAllowlist.text then some strictApplicationAllowlist
  else none

/-- A catalogue of applications is a list of values that the schema leaves open. -/
structure Options where
  approvedStudentBrowsers : List Text
  installFirefoxIfMissing : Bool
  enforceManagedBrowserBoundary : Bool
  appControlProfile : Option AppControlProfile
  approvedApplicationCatalog : Option (List Json)

structure Config where
  apiUrl : Text
  classroomId : Text
  enrollmentToken : Text
  enrollmentTokenExpiresAt : Text
  captivePortalDomains : List Text
  options : Options

/-! ## Checks -/

def maxApiUrlLength : Nat := 2048
def maxClassroomIdLength : Nat := 128
def maxEnrollmentTokenLength : Nat := 8192
def maxCaptivePortalDomains : Nat := 16
def maxCaptivePortalDomainLength : Nat := 253
def maxApprovedStudentBrowsers : Nat := 8
def maxApprovedStudentBrowserLength : Nat := 64

/-- `z.string().min(1).max(maximum)` -/
def hasLength (maximum : Nat) (value : Text) : Bool :=
  1 ≤ length value && length value ≤ maximum

/-- The parts of a parsed URL that the schema looks at. -/
structure ParsedUrl where
  protocol : Text
  hostname : Text
  username : Text
  password : Text
  hash : Text

/-- `parseUrl` is the constructor `URL`, which throws on other texts. -/
def isValidHttpsUrl (parseUrl : Text → Option ParsedUrl) (value : Text) : Bool :=
  match parseUrl value with
  | none => false
  | some parsed =>
      parsed.protocol == "https:".toList && 0 < length parsed.hostname &&
        length parsed.username == 0 && length parsed.password == 0 && length parsed.hash == 0

def isHostnameChar (c : Char) : Bool := ('a' ≤ c && c ≤ 'z') || ('0' ≤ c && c ≤ '9')

/-- `/^[a-z0-9](?:[a-z0-9-]{0,61}[a-z0-9])?$/` -/
def hostnameLabelPattern : Re Char :=
  .cat (.sat isHostnameChar)
    (.opt (.cat (.between (.sat fun c => isHostnameChar c || c == '-') 0 61) (.sat isHostnameChar)))

def isValidHostname (value : Text) : Bool :=
  if maxCaptivePortalDomainLength < length value then false
  else
    let normalized := toLowerCase value
    if includes normalized "..".toList then false
    else
      let labels := split normalized '.'
      let tld := labels.getLast?.getD []
      2 ≤ labels.length && 2 ≤ length tld && labels.all hostnameLabelPattern.accepts

def isDecimal (c : Char) : Bool := '0' ≤ c && c ≤ '9'

/-- `/^\d{4}-\d{2}-\d{2}T\d{2}:\d{2}:\d{2}\.\d{3}Z$/` -/
def utcTimestampPattern : Re Char :=
  let digits := Re.times (.sat isDecimal)
  .sequence [digits 4, .lit '-', digits 2, .lit '-', digits 2, .lit 'T', digits 2, .lit ':',
    digits 2, .lit ':', digits 2, .lit '.', digits 3, .lit 'Z']

/-- The number at a place of a timestamp. -/
def field (value : Text) (start width : Nat) : Int :=
  ((value.drop start).take width).foldl (fun n c => 10 * n + (c.toNat - '0'.toNat : Nat)) 0

/-- The day of a date, counted from the epoch. -/
def daysFromCivil (year month day : Int) : Int :=
  let y := if month ≤ 2 then year - 1 else year
  let yearOfEra := y % 400
  let dayOfYear := (153 * (if month ≤ 2 then month + 9 else month - 3) + 2) / 5 + day - 1
  y / 400 * 146097 + (yearOfEra * 365 + yearOfEra / 4 - yearOfEra / 100 + dayOfYear) - 719468

/-- `new Date(value).getTime()` for a text of the pattern. A date that does not
exist is some other date, with another text. -/
def timeValue (value : Text) : Int :=
  let days := daysFromCivil (field value 0 4) (field value 5 2) (field value 8 2)
  ((days * 24 + field value 11 2) * 60 + field value 14 2) * 60000 + field value 17 2 * 1000 +
    field value 20 3

def isUtcIsoTimestamp (value : Text) : Bool :=
  utcTimestampPattern.accepts value && IsoDate.toISOString (timeValue value) == value

def isCaptivePortalDomain (value : Text) : Bool :=
  hasLength maxCaptivePortalDomainLength value && isValidHostname value

def Options.valid (options : Options) : Bool :=
  options.approvedStudentBrowsers.all (hasLength maxApprovedStudentBrowserLength) &&
    options.approvedStudentBrowsers.length ≤ maxApprovedStudentBrowsers

def Config.valid (parseUrl : Text → Option ParsedUrl) (config : Config) : Bool :=
  hasLength maxApiUrlLength config.apiUrl && isValidHttpsUrl parseUrl config.apiUrl &&
    hasLength maxClassroomIdLength config.classroomId &&
    hasLength maxEnrollmentTokenLength config.enrollmentToken &&
    isUtcIsoTimestamp config.enrollmentTokenExpiresAt &&
    config.captivePortalDomains.all isCaptivePortalDomain &&
    config.captivePortalDomains.length ≤ maxCaptivePortalDomains && config.options.valid

/-! ## Reading and writing values -/

def key (name : String) : Text := name.toList

def strings (values : List Text) : Json := .array (values.map .string)

def catalogJson (applications : List Json) : Json :=
  .object [(key "schemaVersion", .number 1), (key "applications", .array applications)]

/-- An optional field that is not there is not written. -/
def optionalField (name : String) (value : Option Json) : List (Text × Json) :=
  match value with
  | some json => [(key name, json)]
  | none => []

def Options.toJson (options : Options) : Json :=
  .object ([(key "approvedStudentBrowsers", strings options.approvedStudentBrowsers),
    (key "installFirefoxIfMissing", .bool options.installFirefoxIfMissing),
    (key "enforceManagedBrowserBoundary", .bool options.enforceManagedBrowserBoundary)] ++
    optionalField "appControlProfile"
      (options.appControlProfile.map fun profile => .string profile.text) ++
    optionalField "approvedApplicationCatalog"
      (options.approvedApplicationCatalog.map catalogJson))

def Config.toJson (config : Config) : Json :=
  .object [(key "schemaVersion", .number 1), (key "apiUrl", .string config.apiUrl),
    (key "classroomId", .string config.classroomId),
    (key "enrollmentToken", .string config.enrollmentToken),
    (key "enrollmentTokenExpiresAt", .string config.enrollmentTokenExpiresAt),
    (key "captivePortalDomains", strings config.captivePortalDomains),
    (key "options", config.options.toJson)]

def catalogOfJson (json : Json) : Option (List Json) := do
  let fields ← json.strictObject? [key "schemaVersion", key "applications"]
  let version ← fields.lookup (key "schemaVersion")
  if !version.isOne then none
  else (← fields.lookup (key "applications")).array?

def Options.ofJson (json : Json) : Option Options := do
  let fields ← json.strictObject? [key "approvedStudentBrowsers", key "installFirefoxIfMissing",
    key "enforceManagedBrowserBoundary", key "appControlProfile", key "approvedApplicationCatalog"]
  let approvedStudentBrowsers ← (← fields.lookup (key "approvedStudentBrowsers")).strings?
  let installFirefoxIfMissing ← (← fields.lookup (key "installFirefoxIfMissing")).bool?
  let enforceManagedBrowserBoundary ←
    (← fields.lookup (key "enforceManagedBrowserBoundary")).bool?
  let appControlProfile ← (fields.lookup (key "appControlProfile")).mapM fun profile =>
    profile.string?.bind AppControlProfile.ofText
  let approvedApplicationCatalog ←
    (fields.lookup (key "approvedApplicationCatalog")).mapM catalogOfJson
  return { approvedStudentBrowsers, installFirefoxIfMissing, enforceManagedBrowserBoundary,
           appControlProfile, approvedApplicationCatalog }

/-- The fields of a configuration, before its values are checked. -/
def Config.ofJson (json : Json) : Option Config := do
  let fields ← json.strictObject? [key "schemaVersion", key "apiUrl", key "classroomId",
    key "enrollmentToken", key "enrollmentTokenExpiresAt", key "captivePortalDomains",
    key "options"]
  let version ← fields.lookup (key "schemaVersion")
  if !version.isOne then none
  else
    let apiUrl ← (← fields.lookup (key "apiUrl")).string?
    let classroomId ← (← fields.lookup (key "classroomId")).string?
    let enrollmentToken ← (← fields.lookup (key "enrollmentToken")).string?
    let enrollmentTokenExpiresAt ← (← fields.lookup (key "enrollmentTokenExpiresAt")).string?
    let captivePortalDomains ← (← fields.lookup (key "captivePortalDomains")).strings?
    let options ← Options.ofJson (← fields.lookup (key "options"))
    return { apiUrl, classroomId, enrollmentToken, enrollmentTokenExpiresAt, captivePortalDomains,
             options }

/-- `WINDOWS_OFFLINE_INSTALLER_CONFIG_SCHEMA.parse` -/
def parseConfig (parseUrl : Text → Option ParsedUrl) (json : Json) : Option Config :=
  (Config.ofJson json).filter (·.valid parseUrl)

/-! ## What is written is read back -/

theorem strings?_strings (values : List Text) : (strings values).strings? = some values := by
  induction values with
  | nil => rfl
  | cons value values ih =>
      simp only [strings, Json.strings?, Json.array?, Option.bind_some, List.map_cons,
        List.mapM_cons] at ih ⊢
      rw [ih]
      rfl

theorem Options.ofJson_toJson (options : Options) : ofJson options.toJson = some options := by
  obtain ⟨browsers, install, enforce, profile, catalog⟩ := options
  -- The optional fields decide which fields the object has.
  rcases profile with _ | _ | _ <;> rcases catalog with _ | applications
  all_goals
    show (strings browsers).strings?.bind _ = _
    rw [strings?_strings]
    rfl

theorem Config.ofJson_toJson (config : Config) : ofJson config.toJson = some config := by
  obtain ⟨apiUrl, classroomId, token, expiresAt, domains, options⟩ := config
  show (strings domains).strings?.bind _ = _
  rw [strings?_strings]
  show (Options.ofJson options.toJson).bind _ = _
  rw [Options.ofJson_toJson]
  rfl

/-- A configuration that meets the schema is read back from its value. -/
theorem parseConfig_toJson {parseUrl : Text → Option ParsedUrl} {config : Config}
    (hvalid : config.valid parseUrl = true) : parseConfig parseUrl config.toJson = some config := by
  rw [parseConfig, Config.ofJson_toJson, Option.filter_some, if_pos hvalid]

end OpenPath.OfflineInstaller
