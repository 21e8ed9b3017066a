import VoyaVPN.SingboxOutbounds
import VoyaVPN.SingboxInbounds
import VoyaVPN.DnsAddress
import VoyaVPN.SingboxRouting
import VoyaVPN.SingboxDns
import VoyaVPN.SingboxEntry
import VoyaVPN.GroupResolution
import VoyaVPN.FuelRun
import VoyaVPN.GeneratorTermination
import VoyaVPN.RuleMatching
import VoyaVPN.UserRouteRules
import VoyaVPN.UserRuleSoundness
import VoyaVPN.DnsFinal
import VoyaVPN.NestedRules
import VoyaVPN.BareRules
import VoyaVPN.ReferenceClosure
import VoyaVPN.ConfigIndependence
import VoyaVPN.NamedRuleSets
import VoyaVPN.RestartPolicy
import VoyaVPN.GeneratedServers
import VoyaVPN.RuleOutbounds
import VoyaVPN.InputRuns
import VoyaVPN.PlatformProcess
import VoyaVPN.Supervisor
import VoyaVPN.SupervisorSteps
import VoyaVPN.SupervisorTracking
import VoyaVPN.StaleExits
import VoyaVPN.CrashHandling
import VoyaVPN.RuntimeService
import VoyaVPN.RuntimeFiles
import VoyaVPN.ProcessRunner
import VoyaVPN.RunnerTracking
import VoyaVPN.SettingsSave
import VoyaVPN.ConfigMutation
import VoyaVPN.ConfigCoherence
import VoyaVPN.ProcessForest
import VoyaVPN.ElevatedStop
import VoyaVPN.TreeKill
import VoyaVPN.PathWalk
import VoyaVPN.PrivilegeLauncher
import VoyaVPN.LauncherConfinement
import VoyaVPN.KeyedTable
import VoyaVPN.ProfileNormalize
import VoyaVPN.ActionRules
import VoyaVPN.VoyaStore
import VoyaVPN.ManagerSession
import VoyaVPN.ProfileManager
import VoyaVPN.SubscriptionManager
import VoyaVPN.RoutingManager
import VoyaVPN.ProfileSelection
import VoyaVPN.SubscriptionSelection
import VoyaVPN.RoutingSelection
import VoyaVPN.ActiveSelection
import VoyaVPN.ProfileBundle
import VoyaVPN.RecordMerge
import VoyaVPN.ImportLoop
import VoyaVPN.ImportText
import VoyaVPN.ImportOutcome
import VoyaVPN.BundleImport
import VoyaVPN.ImportCompleteness
import VoyaVPN.ImportBystanders
import VoyaVPN.ImportRepeat
import VoyaVPN.BundleReferences
import VoyaVPN.SettingsValidation
import VoyaVPN.ListenPorts
import VoyaVPN.ShareCommon
import VoyaVPN.ShareUri
import VoyaVPN.StreamQuery
import VoyaVPN.ShareFormats
import VoyaVPN.LinkReading
import VoyaVPN.Base64Text
import VoyaVPN.CredentialLinks
import VoyaVPN.BundleValidator
import VoyaVPN.IpDisplay
import VoyaVPN.Download
import VoyaVPN.SubscriptionFetch
import VoyaVPN.FetchSafety
import VoyaVPN.FileTree
import VoyaVPN.AssetBatch
import VoyaVPN.AssetCommit
import VoyaVPN.InsecureFlags
import VoyaVPN.Switchboard
import VoyaVPN.SystemProxy
import VoyaVPN.ProxySettings
import VoyaVPN.SystemProxyManager
import VoyaVPN.DirtyMarker
import VoyaVPN.ProxyWithdrawal
import VoyaVPN.Socks5Address
import VoyaVPN.ListMove
import VoyaVPN.RuleMoves
import VoyaVPN.CappedSum
import VoyaVPN.TrafficStats
import VoyaVPN.TrafficBooks
import VoyaVPN.ProfileMoves
import VoyaVPN.RepeatedItems
import VoyaVPN.ProfileDedupe
import VoyaVPN.EarlyData
import VoyaVPN.Sip008
import VoyaVPN.WireguardSections
import VoyaVPN.OptionsKept
import VoyaVPN.RedactionSound
import VoyaVPN.ShellWords
import VoyaVPN.CodecRoundTrip
import VoyaVPN.AutostartSound
import VoyaVPN.PemBlocks
import VoyaVPN.ClashApi
import VoyaVPN.PacServer
import VoyaVPN.ProxyExceptions
import VoyaVPN.ScriptSettings
import VoyaVPN.Speedtest
import VoyaVPN.SpeedtestResults
import VoyaVPN.GroupCycles
import VoyaVPN.GroupStore
import VoyaVPN.SpeedtestRows
import VoyaVPN.RulesetAssets
