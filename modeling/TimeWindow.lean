import TimeWindow.Main
import TimeWindow.Session
import TimeWindow.Proofs.Endpoint.Forms
import TimeWindow.Proofs.Endpoint.ClockUse
import TimeWindow.Proofs.Calendar.DayNumber
import TimeWindow.Proofs.Text.Decimal
import TimeWindow.Proofs.Endpoint.Timestamp
import TimeWindow.Proofs.Window.Order
import TimeWindow.Proofs.Window.Request
import TimeWindow.Proofs.Window.Saturation
import TimeWindow.Proofs.Window.Spelled
import TimeWindow.Proofs.Program.Print
import TimeWindow.Proofs.Program.Shown
import TimeWindow.Proofs.Program.ErrorLines
import TimeWindow.Proofs.Program.Inverted
import TimeWindow.Proofs.Program.Run
import TimeWindow.Proofs.Selector.Choice
import TimeWindow.Proofs.Program.Outcome
import TimeWindow.Proofs.Json.Number
import TimeWindow.Proofs.Json.Pair
import TimeWindow.Proofs.Program.Modes
import TimeWindow.Proofs.CommandLine.Phrase
import TimeWindow.Proofs.CommandLine.ReadBack
import TimeWindow.Proofs.Program.Story
import TimeWindow.Proofs.Program.Unused
import TimeWindow.Proofs.Program.Verbosity
import TimeWindow.Proofs.Program.Readings
import TimeWindow.Proofs.Json.Grammar
import TimeWindow.Proofs.Selector.Token
import TimeWindow.Proofs.Calendar.Succession
import TimeWindow.Proofs.Endpoint.Figures
import TimeWindow.Proofs.Endpoint.DateTime
import TimeWindow.Proofs.Endpoint.Tail
import TimeWindow.Proofs.Endpoint.Separator
import TimeWindow.Proofs.Endpoint.Epoch
import TimeWindow.Proofs.Window.Milliseconds
import TimeWindow.Proofs.Window.Strict
import TimeWindow.Proofs.Window.Drift
import TimeWindow.Proofs.Window.Nesting
import TimeWindow.Proofs.Calendar.Sorted
import TimeWindow.Proofs.Endpoint.Loose
import TimeWindow.Proofs.Endpoint.Unambiguous
import TimeWindow.Proofs.Endpoint.Range
import TimeWindow.Proofs.Endpoint.Padding
import TimeWindow.Proofs.Text.Bytes
import TimeWindow.Proofs.Endpoint.Bytewise
import TimeWindow.Proofs.Clock.Minutes
