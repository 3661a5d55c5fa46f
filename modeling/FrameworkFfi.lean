import FrameworkFfi.Abi.Platform
import FrameworkFfi.Abi.Result
import FrameworkFfi.Abi.Status
import FrameworkFfi.Accounting.Accounts
import FrameworkFfi.Accounting.Aggregates
import FrameworkFfi.Accounting.HandedOver
import FrameworkFfi.Accounting.LostSerial
import FrameworkFfi.Accounting.Operations
import FrameworkFfi.Accounting.Outcomes
import FrameworkFfi.Accounting.OwnershipLedger
import FrameworkFfi.Accounting.Quiet
import FrameworkFfi.Accounting.Release
import FrameworkFfi.Accounting.SwallowedErrors
import FrameworkFfi.AudioCard.Exchange
import FrameworkFfi.AudioCard.Provenance
import FrameworkFfi.Calls.Allocations
import FrameworkFfi.Calls.Arguments
import FrameworkFfi.Calls.Commands
import FrameworkFfi.Calls.Descriptions
import FrameworkFfi.Calls.Events
import FrameworkFfi.Calls.Families
import FrameworkFfi.Calls.Fits
import FrameworkFfi.Calls.HandedBack
import FrameworkFfi.Calls.Handling
import FrameworkFfi.Calls.Progress
import FrameworkFfi.Calls.Queries
import FrameworkFfi.Calls.Refusals
import FrameworkFfi.Calls.Returning
import FrameworkFfi.Calls.Sessions
import FrameworkFfi.Calls.Settings
import FrameworkFfi.Calls.Steps
import FrameworkFfi.Calls.Texts
import FrameworkFfi.Calls.Tokens
import FrameworkFfi.Controls
import FrameworkFfi.Controls.Motion
import FrameworkFfi.Diagnostics
import FrameworkFfi.Exports.Controls
import FrameworkFfi.Exports.Diagnostics
import FrameworkFfi.Exports.Inventory
import FrameworkFfi.Exports.Operation
import FrameworkFfi.Exports.System
import FrameworkFfi.Exports.Thermal
import FrameworkFfi.Exports.Versions
import FrameworkFfi.Host.Ownership
import FrameworkFfi.Host.Request
import FrameworkFfi.Host.Silent
import FrameworkFfi.Inventory.ActiveCharge
import FrameworkFfi.Inventory.BayViews
import FrameworkFfi.Inventory.Builder
import FrameworkFfi.Inventory.Capabilities
import FrameworkFfi.Inventory.ConnectedPorts
import FrameworkFfi.Inventory.Conversions
import FrameworkFfi.Inventory.Detect
import FrameworkFfi.Inventory.FeatureFlags
import FrameworkFfi.Inventory.FlaggedModules
import FrameworkFfi.Inventory.InputDeck
import FrameworkFfi.Inventory.Isolation
import FrameworkFfi.Inventory.NForN
import FrameworkFfi.Inventory.Origins
import FrameworkFfi.Inventory.Placement
import FrameworkFfi.Inventory.PlacementRun
import FrameworkFfi.Inventory.PlacementSpec
import FrameworkFfi.Inventory.Ports
import FrameworkFfi.Inventory.Query
import FrameworkFfi.Inventory.Reordering
import FrameworkFfi.Inventory.ReportedOnceRun
import FrameworkFfi.Inventory.SlotFields
import FrameworkFfi.Inventory.UsbSlots
import FrameworkFfi.Inventory.WellFormed
import FrameworkFfi.Inventory.WellFormedRun
import FrameworkFfi.Library.Chunks
import FrameworkFfi.Library.Correlation
import FrameworkFfi.Library.FlagMask
import FrameworkFfi.Library.Program.Alike
import FrameworkFfi.Library.Program.Ensures
import FrameworkFfi.Library.Program.Events
import FrameworkFfi.Library.Program.Frame
import FrameworkFfi.Library.Program.Ledger
import FrameworkFfi.Library.Program.Sequence
import FrameworkFfi.Library.Program.Succeeds
import FrameworkFfi.Library.Search
import FrameworkFfi.PanicData
import FrameworkFfi.PanicSafety
import FrameworkFfi.Pd
import FrameworkFfi.Pd.PowerInfo
import FrameworkFfi.PdControllers
import FrameworkFfi.Port80
import FrameworkFfi.Port80.Handover
import FrameworkFfi.Runtime
import FrameworkFfi.Runtime.Drivers
import FrameworkFfi.SmartBattery
import FrameworkFfi.Status.FreshToken
import FrameworkFfi.Status.Interleaving
import FrameworkFfi.Status.Report
import FrameworkFfi.Status.Store
import FrameworkFfi.TextFields
import FrameworkFfi.Thermal
import FrameworkFfi.Thermal.Lossless
import FrameworkFfi.Thermal.RoundTrip
import FrameworkFfi.Thermal.SensorNames
import FrameworkFfi.Thermal.Thresholds
import FrameworkFfi.Versions
import FrameworkFfi.Versions.Enumeration
import FrameworkFfi.Versions.PeripheralViews
