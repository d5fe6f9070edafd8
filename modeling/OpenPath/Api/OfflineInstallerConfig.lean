/-
# Settings of offline downloads

A download reference lives for a configured number of minutes and allows a
configured number of attempts, and files that no reference names are kept for a
configured number of hours. Each of the three settings is a positive number with a
maximum, and carries the two bounds that `readPositiveIntEnv` checks.
-/

import OpenPath.Text.Unicode

namespace OpenPath.Api

/-- A setting between one and a maximum. -/
structure PositiveSetting (maximum : Nat) where
  value : Nat
  positive : 0 < value
  le_maximum : value ≤ maximum

def isDigit (c : Char) : Bool := '0'.toNat ≤ c.toNat && c.toNat ≤ '9'.toNat

def maxDownloadTtlMinutes : Nat := 60
def maxDownloadAttempts : Nat := 10
def maxArtifactRetentionHours : Nat := 24 * 7

structure WindowsOfflineInstallerConfig where
  downloadRefTtlMinutes : PositiveSetting maxDownloadTtlMinutes
  downloadRefMaxAttempts : PositiveSetting maxDownloadAttempts
  artifactRetentionHours : PositiveSetting maxArtifactRetentionHours

/-- The settings of a service whose environment sets none of them. -/
def defaultWindowsOfflineInstallerConfig : WindowsOfflineInstallerConfig where
  downloadRefTtlMinutes := ⟨10, by decide, by decide⟩
  downloadRefMaxAttempts := ⟨3, by decide, by decide⟩
  artifactRetentionHours := ⟨24, by decide, by decide⟩

end OpenPath.Api
