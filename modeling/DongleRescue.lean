import DongleRescue.Cli.Arguments
import DongleRescue.Cli.ChipPlan
import DongleRescue.Cli.Commands
import DongleRescue.Cli.Diagnosis
import DongleRescue.Cli.Flags
import DongleRescue.Cli.FullerHosts
import DongleRescue.Cli.History
import DongleRescue.Cli.HotPlug
import DongleRescue.Cli.Interleaving
import DongleRescue.Cli.Learning
import DongleRescue.Cli.Lifecycle
import DongleRescue.Cli.Listing
import DongleRescue.Cli.ListingOrder
import DongleRescue.Cli.Main
import DongleRescue.Cli.OneKb
import DongleRescue.Cli.Replay
import DongleRescue.Cli.Reports
import DongleRescue.Cli.Rollback
import DongleRescue.Cli.Spelling
import DongleRescue.Cli.StateTable
import DongleRescue.Cli.Survival
import DongleRescue.Data.Cells
import DongleRescue.Data.Facts
import DongleRescue.Data.Glob
import DongleRescue.Data.Json
import DongleRescue.Data.JsonCuts
import DongleRescue.Data.JsonForms
import DongleRescue.Data.JsonLayout
import DongleRescue.Data.JsonOrder
import DongleRescue.Data.JsonReader
import DongleRescue.Data.JsonRoundTrip
import DongleRescue.Data.JsonText
import DongleRescue.Data.Keyed
import DongleRescue.Data.Lines
import DongleRescue.Data.Numerals
import DongleRescue.Data.Python
import DongleRescue.Data.Searches
import DongleRescue.Data.Sha256
import DongleRescue.Data.Text
import DongleRescue.Data.Tuples
import DongleRescue.Data.Words
import DongleRescue.Diagnostics.Ambient
import DongleRescue.Diagnostics.BlockLines
import DongleRescue.Diagnostics.Classifier
import DongleRescue.Diagnostics.Escalation
import DongleRescue.Diagnostics.Evidence
import DongleRescue.Diagnostics.FirmwareAgreement
import DongleRescue.Diagnostics.MissingFirmware
import DongleRescue.Diagnostics.RejectedLog
import DongleRescue.Diagnostics.ShownCommands
import DongleRescue.Firmware.Containment
import DongleRescue.Firmware.HostCheck
import DongleRescue.Firmware.InstallCommands
import DongleRescue.Firmware.LogRoundTrip
import DongleRescue.Firmware.Owners
import DongleRescue.Firmware.Paths
import DongleRescue.Firmware.Pipeline
import DongleRescue.Firmware.Presence
import DongleRescue.Firmware.Probes
import DongleRescue.Firmware.Resolver
import DongleRescue.Host
import DongleRescue.Identification.Confirmation
import DongleRescue.Identification.KernelClaims
import DongleRescue.Identification.ModuleNames
import DongleRescue.Identification.Resolver
import DongleRescue.KnowledgeBase
import DongleRescue.Linux.Bodies
import DongleRescue.Linux.Globs
import DongleRescue.Linux.Grammar
import DongleRescue.Linux.KernelPatterns
import DongleRescue.Linux.LogAccess
import DongleRescue.Linux.ModulesAlias
import DongleRescue.Linux.RebootSignals
import DongleRescue.Linux.Releases
import DongleRescue.Linux.Rows
import DongleRescue.Linux.Written
import DongleRescue.Posix.Command
import DongleRescue.Posix.FileSystem
import DongleRescue.Posix.Join
import DongleRescue.Posix.Path
import DongleRescue.Posix.Realpath
import DongleRescue.Posix.Shell
import DongleRescue.Posix.Utilities
import DongleRescue.Repair.AliasMatch
import DongleRescue.Repair.Capability
import DongleRescue.Repair.CommandLines
import DongleRescue.Repair.Journal
import DongleRescue.Repair.JournalFailures
import DongleRescue.Repair.JournalRuns
import DongleRescue.Repair.JournalShapes
import DongleRescue.Repair.Persistence
import DongleRescue.Repair.Planner
import DongleRescue.Repair.RollbackTargets
import DongleRescue.Repair.TornWrites
import DongleRescue.Repair.Transaction
import DongleRescue.Repair.TransactionIds
import DongleRescue.Types
import DongleRescue.Usb.Enumeration
import DongleRescue.Usb.Levels
import DongleRescue.Usb.Modalias
import DongleRescue.Usb.RoundTrip
import DongleRescue.Usb.Snapshot
import DongleRescue.Usb.Survey
import DongleRescue.Verification.Checker
import DongleRescue.Verification.OtherAdapters
import DongleRescue.Verification.Trichotomy
import DongleRescue.Windows.Accepted
import DongleRescue.Windows.Blocks
import DongleRescue.Windows.CommandLine
import DongleRescue.Windows.EnumPs
import DongleRescue.Windows.InstanceIds
import DongleRescue.Windows.Printing
import DongleRescue.Windows.RoundTrip
