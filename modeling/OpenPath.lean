import OpenPath.Api.ReviewRaces
import OpenPath.Api.ScheduleRaces
import OpenPath.Policy.StoredEtag
import OpenPath.Api.CloneGroup
import OpenPath.Api.EventRouting
import OpenPath.Api.ExportCache
import OpenPath.Api.ScheduleLookup
import OpenPath.Api.WhitelistNotices
import OpenPath.Api.ArtifactCleanup
import OpenPath.Api.OfflineInstallerTrailer
import OpenPath.Api.PublishLock
import OpenPath.Api.TemplatePublication
import OpenPath.Api.SseHubIndex
import OpenPath.Linux.CaptivePortalRestore
import OpenPath.Linux.DependencyReadiness
import OpenPath.Linux.FirewallOrder
import OpenPath.Linux.NativeHostRuns
import OpenPath.Linux.SseCoalescer
import OpenPath.Policy.DependencyCandidates
import OpenPath.Policy.DependencyQueue
import OpenPath.Windows.AppControlCompleteness
import OpenPath.Windows.AppLockerMerge
import OpenPath.Windows.DependencyReadiness
import OpenPath.Windows.PolicyStoreVersion
import OpenPath.Windows.CaptivePortalQueue
import OpenPath.Windows.CheckpointRestore
import OpenPath.Linux.CheckpointRingRuns
import OpenPath.Linux.CaptivePortalLifetime
import OpenPath.Extension.NativeTransportRuns
import OpenPath.Extension.TabReconciliation
import OpenPath.Extension.DependencyResults
import OpenPath.Api.RefreshTokens
import OpenPath.Api.OneTimeTokenRuns
import OpenPath.Api.FirstAdmin
import OpenPath.Api.RoleGroupRuns
import OpenPath.Windows.AcrylicPolicyLock
import OpenPath.Api.EventCollector
import OpenPath.Policy.RootDomains
import OpenPath.Linux.DependencyHostLines
import OpenPath.Windows.PolicyStoreData
import OpenPath.Windows.SseCoalescer
import OpenPath.Api.GroupNames
import OpenPath.Linux.SseListener
import OpenPath.Linux.Watchdog
import OpenPath.Policy.ServedPolicy
