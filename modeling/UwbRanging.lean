import UwbRanging.Bits
import UwbRanging.Config.Basic
import UwbRanging.Config.Environment
import UwbRanging.Config.File
import UwbRanging.DataTree
import UwbRanging.Decimal.Binary64
import UwbRanging.Decimal.Fixed
import UwbRanging.Decimal.Literal
import UwbRanging.Decimal.Scaled
import UwbRanging.Decimal.Shortest
import UwbRanging.Engine.Attempt
import UwbRanging.Engine.Basic
import UwbRanging.Engine.Tally
import UwbRanging.Engine.Timeline
import UwbRanging.Error
import UwbRanging.Exchange.Table
import UwbRanging.Exchange.History
import UwbRanging.Exchange.Waiter
import UwbRanging.Frame.Address
import UwbRanging.Frame.Basic
import UwbRanging.Frame.Blink
import UwbRanging.Frame.Element
import UwbRanging.Frame.Error
import UwbRanging.Frame.Handshake
import UwbRanging.Frame.Header
import UwbRanging.Frame.HeaderForm
import UwbRanging.Frame.Level
import UwbRanging.Frame.Payload
import UwbRanging.Frame.PayloadForm
import UwbRanging.Frame.Settings
import UwbRanging.Frame.Timestamp
import UwbRanging.Frame.TimestampForm
import UwbRanging.Frame.TimestampLayout
import UwbRanging.Frame.Timing
import UwbRanging.Json.Basic
import UwbRanging.Json.Form
import UwbRanging.Json.Parser
import UwbRanging.Json.Printer
import UwbRanging.Main
import UwbRanging.Message.Basic
import UwbRanging.Message.Form
import UwbRanging.Radio.Attribute
import UwbRanging.Radio.Config
import UwbRanging.Radio.Form
import UwbRanging.Radio.Tuning
import UwbRanging.Simulation.Air
import UwbRanging.Simulation.Batch
import UwbRanging.Simulation.Draws
import UwbRanging.Simulation.Form
import UwbRanging.Simulation.History
import UwbRanging.Simulation.Options
import UwbRanging.Simulation.Radio
import UwbRanging.Simulation.Scenario
import UwbRanging.Simulation.Session
import UwbRanging.Simulation.Setup
import UwbRanging.Text.Character
import UwbRanging.Text.Hex
import UwbRanging.Text.Utf8
import UwbRanging.Toml.Basic
import UwbRanging.Toml.Parser
import UwbRanging.Toml.Scalar
import UwbRanging.Toml.Text
import UwbRanging.Toml.Tree
import UwbRanging.Transport.Endpoint
import UwbRanging.Transport.Pending
import UwbRanging.Transport.Traffic
import UwbRanging.Twr.Estimate
import UwbRanging.Twr.Slot
import UwbRanging.Wire.LittleEndian
import UwbRanging.Wire.LongMask
import UwbRanging.Wire.Reader
import UwbRanging.Proofs.Bits
import UwbRanging.Proofs.BitFields
import UwbRanging.Proofs.Wire.LongMask
import UwbRanging.Proofs.Frame.Header
import UwbRanging.Proofs.Frame.Blink
import UwbRanging.Proofs.Frame.Peers
import UwbRanging.Proofs.Frame.Payload
import UwbRanging.Proofs.Frame.RoundTrip
import UwbRanging.Proofs.Exchange.Table
import UwbRanging.Proofs.Exchange.Trace
import UwbRanging.Proofs.Twr.Exactness
import UwbRanging.Proofs.Engine.Trace
import UwbRanging.Proofs.Engine.Isolation
import UwbRanging.Proofs.Exchange.History
import UwbRanging.Proofs.Exchange.Waiting
import UwbRanging.Proofs.Exchange.Refinement
import UwbRanging.Proofs.Engine.Cleanup
import UwbRanging.Proofs.Frame.Steady
import UwbRanging.Proofs.Wire.Foretells
import UwbRanging.Proofs.Wire.Accepts
import UwbRanging.Proofs.Wire.SameBits
import UwbRanging.Proofs.Frame.Accepts
import UwbRanging.Proofs.Frame.Canonical
import UwbRanging.Proofs.Twr.Range
import UwbRanging.Proofs.Frame.Compression
import UwbRanging.Proofs.Transport.Pending
import UwbRanging.Proofs.Transport.Dispatch
import UwbRanging.Proofs.Transport.Matching
import UwbRanging.Proofs.Transport.Attributes
import UwbRanging.Proofs.Text.Utf8
import UwbRanging.Proofs.Text.Hex
import UwbRanging.Proofs.Json.RoundTrip
import UwbRanging.Proofs.Json.Lawful
import UwbRanging.Proofs.Message.RoundTrip
import UwbRanging.Proofs.Simulation.BlinkPath
import UwbRanging.Proofs.Simulation.History
import UwbRanging.Proofs.Exchange.Broadcast
import UwbRanging.Proofs.Simulation.Transmission
import UwbRanging.Proofs.Engine.Hearing
import UwbRanging.Proofs.Engine.Slots
import UwbRanging.Proofs.Simulation.Attempt
import UwbRanging.Proofs.Simulation.Batch
import UwbRanging.Proofs.Simulation.Ranging
import UwbRanging.Proofs.Radio.Register
import UwbRanging.Proofs.Radio.Tuning
import UwbRanging.Proofs.Radio.Validation
import UwbRanging.Proofs.Simulation.Registers
import UwbRanging.Proofs.Simulation.Setting
import UwbRanging.Proofs.Engine.Requests
import UwbRanging.Proofs.Engine.Pace
import UwbRanging.Proofs.Engine.Verdict
import UwbRanging.Proofs.Twr.Unwrapping
import UwbRanging.Proofs.Frame.Length
import UwbRanging.Proofs.Frame.Entries
import UwbRanging.Proofs.Frame.Refusal
import UwbRanging.Proofs.Frame.Numbering
import UwbRanging.Frame.Station
import UwbRanging.Proofs.Frame.Station
import UwbRanging.Proofs.Frame.Received
import UwbRanging.Proofs.Frame.Heard
import UwbRanging.Proofs.Frame.Cut
import UwbRanging.Proofs.Frame.Unwritable
import UwbRanging.Proofs.Frame.Peer
import UwbRanging.Proofs.Message.Report
import UwbRanging.Proofs.Engine.Tally
import UwbRanging.Proofs.Decimal.Finite
import UwbRanging.Proofs.Config.Validation
import UwbRanging.Proofs.Simulation.Connecting
import UwbRanging.Proofs.Engine.Bystander
import UwbRanging.Proofs.Simulation.Bystander
import UwbRanging.Proofs.Simulation.Placement
import UwbRanging.Proofs.Wire.MaskBits
import UwbRanging.Proofs.Engine.Timeline
import UwbRanging.Proofs.Frame.AddressText
