import Brewmble.Execution
import Brewmble.Rest
import Brewmble.Daemon
import Brewmble.DaemonSteps
import Brewmble.UpgradeLock
import Brewmble.UpgradeHandle
import Brewmble.RebootExclusion
import Brewmble.StatusSummary
import Brewmble.Fallible
import Brewmble.PairedSlots
import Brewmble.Credentials
import Brewmble.Migration
import Brewmble.CredentialSteps
import Brewmble.CredentialPairs
import Brewmble.PemFile
import Brewmble.ConfigValidation
import Brewmble.ServedLeaf
import Brewmble.Numerals
import Brewmble.IpAddress
import Brewmble.AddressText
import Brewmble.Ipv6Text
import Brewmble.ResolveUrl
import Brewmble.UrlText
import Brewmble.ServerIdentity
import Brewmble.CliConfig
import Brewmble.Pin
import Brewmble.CliCommands
import Brewmble.CliSteps
import Brewmble.Precedence
import Brewmble.PinGate
import Brewmble.Lasting
import Brewmble.PinStore
import Brewmble.Claiming
import Brewmble.MergedNodes
import Brewmble.Discovery
import Brewmble.ProfileCommands
import Brewmble.RepinnedEntry
import Brewmble.NormalConfig
import Brewmble.Growing
import Brewmble.CommandRuns
import Brewmble.Rediscovery
import Brewmble.AddressUrls
import Brewmble.Inodes
import Brewmble.AtomicWrite
import Brewmble.ConfigWrites
import Brewmble.Scripts
import Brewmble.CommandLines
import Brewmble.PackageManagers
import Brewmble.CacheRefresh
import Brewmble.CachePolicy
import Brewmble.StatusWorkers
import Brewmble.StatusTargets
import Brewmble.CapturedLeaf
import Brewmble.MergedPins
import Brewmble.MigrationRuns
import Brewmble.Separators
import Brewmble.Fingerprints
import Brewmble.RefreshInterval
import Brewmble.CaInit
import Brewmble.BareIpv6
import Brewmble.MergeOrder
import Brewmble.FullUpgrade
import Brewmble.HostUpgrades
import Brewmble.Answers
import Brewmble.FleetRequests
import Brewmble.Announcement
import Brewmble.IssuedDirectories
import Brewmble.CaRotation
import Brewmble.IssuedValidity
import Brewmble.DiscoverTable
import Brewmble.PathChanges
import Brewmble.ConfigPaths
import Brewmble.ConfigFiles
import Brewmble.DaemonFiles
import Brewmble.DaemonStart
import Brewmble.LegacyKeychain
import Brewmble.StatusProgress
import Brewmble.Shutdown
import Brewmble.Writebacks
import Brewmble.OverlappingCommands
