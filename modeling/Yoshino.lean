import Yoshino.Library.Runs
import Yoshino.Library.PriorityNode
import Yoshino.Library.FirstMax
import Yoshino.Library.CString
import Yoshino.Library.Cycles
import Yoshino.Library.SignedArithmetic
import Yoshino.Library.IntExtraction
import Yoshino.Library.Concatenation
import Yoshino.Library.Rounding
import Yoshino.Library.Overflow
import Yoshino.PowerHal.HintManager
import Yoshino.PowerHal.Service
import Yoshino.PowerHal.Steps
import Yoshino.PowerHal.Modes
import Yoshino.PowerHal.SwitchedOff
import Yoshino.PowerHal.BoostDuration
import Yoshino.PowerHal.BoostWindow
import Yoshino.PowerHal.MainState
import Yoshino.PowerHal.Restart
import Yoshino.PowerHal.InteractionHandler
import Yoshino.PowerHal.InteractionBoost
import Yoshino.PowerHal.InteractionWait
import Yoshino.Lights.Light
import Yoshino.Lights.Nodes
import Yoshino.Lights.Led
import Yoshino.Lights.Flags
import Yoshino.Lights.Backlight
import Yoshino.Lights.BacklightHistory
import Yoshino.Lights.Constructor
import Yoshino.TrimArea.Client
import Yoshino.TrimArea.Splitting
import Yoshino.TrimArea.Delivery
import Yoshino.TrimArea.Words
import Yoshino.Properties.Loader
import Yoshino.Properties.Lines
import Yoshino.Properties.Grammar
import Yoshino.Properties.Imports
import Yoshino.Customization.Text
import Yoshino.Customization.Device
import Yoshino.Customization.Parsers
import Yoshino.Customization.CarrierBundle
import Yoshino.Customization.ModemSwitcher
import Yoshino.Customization.ModemImages
import Yoshino.Customization.Configurator
import Yoshino.Customization.Selector
import Yoshino.Customization.Step
import Yoshino.Customization.Underway
import Yoshino.Customization.ModemOutcome
import Yoshino.Customization.ModemCalls
import Yoshino.Customization.SetConfiguration
import Yoshino.Customization.Frame
import Yoshino.Customization.RebootLoop
import Yoshino.Customization.Operations
import Yoshino.Customization.ModemRequests
import Yoshino.Customization.ImsOff
import Yoshino.Customization.ModemLists
import Yoshino.Customization.RealImages
import Yoshino.Customization.StaleConfiguration
import Yoshino.Customization.SetupWizard
import Yoshino.Customization.WizardReboot
import Yoshino.Customization.NetworkSwitcher
import Yoshino.Customization.NetworkRestored
import Yoshino.Customization.PendingModem
import Yoshino.Customization.MappingMatch
import Yoshino.Customization.ServiceProviders
import Yoshino.Customization.FailedSet
import Yoshino.Customization.RefusedModem
import Yoshino.Customization.EvaluationKey
import Yoshino.Customization.EventIntent
import Yoshino.Customization.ConfigSelectors
import Yoshino.Customization.PollingObserver
import Yoshino.Customization.PollingOnce
import Yoshino.Customization.PollingSwitcher
import Yoshino.Library.BitFields
import Yoshino.Library.Updates
import Yoshino.Library.Blocks
import Yoshino.Library.Exceptions
import Yoshino.PowerHal.Stats
import Yoshino.PowerHal.StatSections
import Yoshino.PowerHal.StatWrites
import Yoshino.PowerHal.StatAttribution
import Yoshino.Dpm.Utf16
import Yoshino.Dpm.Utf8
import Yoshino.Dpm.RoundTrip
import Yoshino.Dpm.ExtensionRuns
import Yoshino.Dpm.DecodedLength
import Yoshino.Gralloc.Formats
import Yoshino.Gralloc.Sizes
import Yoshino.Gralloc.Handles
import Yoshino.Gralloc.Planes
import Yoshino.Gralloc.LinearYuv
import Yoshino.Gralloc.PlaneRoom
import Yoshino.Gralloc.PlanesInside
import Yoshino.Gralloc.UbwcData
import Yoshino.Gralloc.BufferManager
import Yoshino.Gralloc.FailedAllocation
import Yoshino.Gralloc.TestAllocation
import Yoshino.Display.Rects
import Yoshino.Display.LayerConfig
import Yoshino.Display.ResourceDefault
import Yoshino.Display.PipeOrder
import Yoshino.Display.Layout
import Yoshino.Display.PipeSearch
import Yoshino.Display.Acquisition
import Yoshino.Display.PipeReservation
import Yoshino.Display.PipeOwners
import Yoshino.Library.Threads
import Yoshino.Display.SyncTask
import Yoshino.Display.SyncTaskPhases
import Yoshino.Display.SyncTaskDone
import Yoshino.Display.SyncTaskCrossing
import Yoshino.Library.PartialRuns
import Yoshino.Hwc.Layer
import Yoshino.Hwc.Display
import Yoshino.Hwc.Session
import Yoshino.Hwc.Books
import Yoshino.Hwc.Sound
import Yoshino.Hwc.Edits
import Yoshino.Hwc.SessionSound
import Yoshino.Hwc.Descriptors
import Yoshino.Hwc.Fences
import Yoshino.Hwc.SecureExternal
import Yoshino.Hwc.SkipValidate
import Yoshino.Hwc.Negotiation
import Yoshino.Core.CompManager
import Yoshino.Core.DisplayBase
import Yoshino.Core.Sharing
import Yoshino.Core.Commit
