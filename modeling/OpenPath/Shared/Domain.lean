/-
# Root domains

Extraction of the root domain of a URL or domain string: the last two labels,
or the last three where the last two are a country-code second-level domain.
Manual approvals whitelist the root domain of what was requested.
-/

import OpenPath.Text.JavaScript

namespace OpenPath.Domain

open Foundation JavaScript

/-- Common country-code second-level domains. These require three parts to
identify the root domain. -/
def ccSlds : List String :=
  ["co.uk", "org.uk", "me.uk", "ac.uk", "gov.uk", "ltd.uk", "plc.uk", "net.uk", "sch.uk",
    "com.au", "net.au", "org.au", "edu.au", "gov.au", "asn.au", "id.au", "com.br", "net.br",
    "org.br", "gov.br", "edu.br", "com.ar", "net.ar", "org.ar", "gov.ar", "edu.ar", "gob.ar",
    "com.mx", "net.mx", "org.mx", "gob.mx", "edu.mx", "com.es", "org.es", "gob.es", "edu.es",
    "co.jp", "or.jp", "ne.jp", "ac.jp", "go.jp", "gr.jp", "co.nz", "net.nz", "org.nz",
    "govt.nz", "ac.nz", "school.nz", "co.za", "org.za", "gov.za", "net.za", "edu.za", "co.in",
    "net.in", "org.in", "gov.in", "ac.in", "edu.in", "com.cn", "net.cn", "org.cn", "gov.cn",
    "edu.cn", "co.kr", "or.kr", "ne.kr", "go.kr", "ac.kr", "com.sg", "org.sg", "edu.sg",
    "gov.sg", "com.hk", "org.hk", "edu.hk", "gov.hk", "com.tw", "org.tw", "edu.tw", "gov.tw",
    "com.my", "org.my", "edu.my", "gov.my", "com.ph", "org.ph", "edu.ph", "gov.ph", "com.vn",
    "org.vn", "edu.vn", "gov.vn", "com.tr", "org.tr", "edu.tr", "gov.tr", "com.ua", "org.ua",
    "edu.ua", "gov.ua", "com.ru", "org.ru", "edu.ru", "gov.ru", "com.pl", "org.pl", "edu.pl",
    "gov.pl"]

/-- `replace(/^(https?:\/\/)?(www\.)?/, '')` -/
def stripProtocolAndWww (value : Text) : Text :=
  let value :=
    if "http://".toList <+: value then value.drop 7
    else if "https://".toList <+: value then value.drop 8
    else value
  stripPrefix "www.".toList value

/-- `replace(/^\*\.?/, '')` -/
def stripWildcard : Text → Text
  | '*' :: '.' :: rest => rest
  | '*' :: rest => rest
  | value => value

/-- The text before the first separator, `value.split(separator)[0]`. -/
def before (separator : Char) (value : Text) : Text :=
  value.takeWhile (· != separator)

/-- `parts.slice(-n)` -/
def lastParts (n : Nat) (parts : List Text) : List Text :=
  parts.drop (parts.length - n)

/-- Extract the root domain from a URL or domain string. -/
def getRootDomain (value : Text) : Text :=
  let domain := stripProtocolAndWww value
  let domain := before '#' (before '?' (before '/' domain))
  let domain := stripWildcard (before ':' domain)
  let parts := split domain '.'
  if parts.length < 2 then domain
  else if 3 ≤ parts.length ∧ (String.ofList (join (lastParts 2 parts) ['.'])) ∈ ccSlds then
    join (lastParts 3 parts) ['.']
  else join (lastParts 2 parts) ['.']

/-- Normalize manually submitted request domains to the root domain. -/
def normalizeManualRequestDomain (value : Text) : Text := getRootDomain value

end OpenPath.Domain
