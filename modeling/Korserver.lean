import Korserver.PythonText
import Korserver.IpAddressCore
import Korserver.PythonValue
import Korserver.PacketFilter
import Korserver.Runs
import Korserver.ConfigCore
import Korserver.Config
import Korserver.FileStore
import Korserver.RoutingCore
import Korserver.Routing
import Korserver.NftablesCore
import Korserver.Nftables
import Korserver.KillSwitch
import Korserver.PolicyRoutingCore
import Korserver.NftablesServiceCore
import Korserver.NftablesService
import Korserver.PolicyRouting
import Korserver.StaleTargets
import Korserver.SetNames
import Korserver.Effects
import Korserver.UpstreamServiceCore
import Korserver.TargetNames
import Korserver.HexText
import Korserver.FwmarkArithmetic
import Korserver.SetElements
import Korserver.SetRefresh
import Korserver.RulesetFields
import Korserver.StaticRefresh
import Korserver.DefaultRules
import Korserver.UpstreamService
import Korserver.ActiveInterface
import Korserver.PushedParserCore
import Korserver.Dnsmasq
import Korserver.ScriptTextCore
import Korserver.AddressText
import Korserver.ScriptText
import Korserver.UntrustedListsCore
import Korserver.UntrustedLists
import Korserver.Interleavings
import Korserver.PushedStoreCore
import Korserver.PushedStore
import Korserver.Connections
import Korserver.Enablement
import Korserver.Failover
import Korserver.Watch
import Korserver.LoadedSets
import Korserver.PushedLists
import Korserver.PushedLines
import Korserver.PushedRules
import Korserver.ConfigLoader
import Korserver.SettingsCore
import Korserver.Settings
import Korserver.DeepMerge
import Korserver.SettingsRaceCore
import Korserver.SettingsRace
import Korserver.AuthSessions
import Korserver.AdminAccessCore
import Korserver.AttemptLimit
import Korserver.LoginLimitCore
import Korserver.LoginLimit
import Korserver.SecondFactor
import Korserver.MaskedValuesCore
import Korserver.MaskedValues
import Korserver.SourceEdit
import Korserver.MaskedDumps
import Korserver.ProfileRequestsCore
import Korserver.ProfileData
import Korserver.UpstreamPatch
import Korserver.ProfileReferences
import Korserver.ConfigMapping
import Korserver.TunnelNumbers
import Korserver.ConfigModel
import Korserver.ProfileNumbers
import Korserver.ProfileActivation
import Korserver.OpenconnectCore
import Korserver.SecretText
import Korserver.Openconnect
import Korserver.TerminalCore
import Korserver.Terminal
import Korserver.PasswdRaceCore
import Korserver.PasswdRace
import Korserver.HostDnsCore
import Korserver.HostDns
import Korserver.HostDnsCrash
import Korserver.HostDnsRedirect
import Korserver.DockerCompatCore
import Korserver.DockerCompat
import Korserver.GroupEdit
import Korserver.UserConfigCore
import Korserver.UserConfigLines
import Korserver.UserConfigValidation
import Korserver.UserConfig
import Korserver.GroupPolicy
import Korserver.SecretOrder
import Korserver.MaskedPieces
import Korserver.TerminalOutput
import Korserver.ByteFormats
import Korserver.CertPinCore
import Korserver.CertPin
import Korserver.Masquerade
import Korserver.PolicyKernelCore
import Korserver.PolicyKernel
import Korserver.UnexpectedStateCore
import Korserver.UnexpectedState
import Korserver.ConfigPrecedence
import Korserver.DamagedPushed
import Korserver.SyncLaw
import Korserver.PushedEncodings
import Korserver.AddressRoundTrip
import Korserver.ListRefresh
import Korserver.OtpCore
import Korserver.OtpRecords
import Korserver.PublicDomains
import Korserver.RouteEditing
import Korserver.AuthFailuresCore
import Korserver.CrossOrigin
import Korserver.AuthFailures
import Korserver.DotenvQuotes
import Korserver.EnvOrder
import Korserver.Identifiers
import Korserver.LogRotation
import Korserver.LogStamps
import Korserver.GroupFiles
import Korserver.OcservConfCore
import Korserver.RestartSettings
import Korserver.SessionIdentity
import Korserver.GroupDeletion
