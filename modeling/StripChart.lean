import StripChart.Binary
import StripChart.ByName
import StripChart.Channels
import StripChart.Client
import StripChart.Color
import StripChart.Command
import StripChart.CommandLine
import StripChart.Config
import StripChart.Connection
import StripChart.Counters
import StripChart.Decimal
import StripChart.Decimal.Layout
import StripChart.Decimal.Numeral
import StripChart.Decimal.Places
import StripChart.Decimal.Shortest
import StripChart.Effect
import StripChart.Endpoint
import StripChart.Engine
import StripChart.Failure
import StripChart.Frame
import StripChart.Frame.Received
import StripChart.Frame.Splitter
import StripChart.Handler
import StripChart.Json
import StripChart.Json.Reader
import StripChart.Json.Shape
import StripChart.Json.Token
import StripChart.Json.Writer
import StripChart.Line
import StripChart.Link
import StripChart.Log
import StripChart.Machine
import StripChart.Main
import StripChart.Message.Incoming
import StripChart.Message.Outgoing
import StripChart.Message.PlotRequest
import StripChart.Message.TabNews
import StripChart.Notice
import StripChart.Painter
import StripChart.Queue
import StripChart.Registry
import StripChart.Renderer
import StripChart.Ring
import StripChart.Sample
import StripChart.Scalar
import StripChart.Session
import StripChart.Snapshot
import StripChart.Summary
import StripChart.Tab
import StripChart.Text.Blank
import StripChart.Text.Hex
import StripChart.Text.Utf8
import StripChart.Window
import StripChart.Zoom
import StripChart.Proofs.Ring
import StripChart.Proofs.Framing
import StripChart.Proofs.Reassembly
import StripChart.Proofs.Likeness
import StripChart.Proofs.Delivery
import StripChart.Proofs.Marks
import StripChart.Proofs.Clean
import StripChart.Proofs.Publishing
import StripChart.Proofs.Ticks
import StripChart.Proofs.Requests
import StripChart.Proofs.Pictures
import StripChart.Proofs.Channels
import StripChart.Proofs.History
import StripChart.Proofs.Refusal
import StripChart.Proofs.Screen
import StripChart.Proofs.Closing
import StripChart.Proofs.Mailbox
import StripChart.Proofs.Text
import StripChart.Proofs.RoundTrip
import StripChart.Proofs.Upkeep
import StripChart.Proofs.Tally
import StripChart.Proofs.Fates
import StripChart.Proofs.Handling
import StripChart.Proofs.Hearing
import StripChart.Proofs.Unusable
import StripChart.Proofs.Faults
import StripChart.Proofs.Replies
import StripChart.Proofs.Accounts
import StripChart.Proofs.Pending
import StripChart.Proofs.Lines
import StripChart.Proofs.Square
import StripChart.Proofs.Sizes
import StripChart.Proofs.Records
import StripChart.Proofs.Requested
import StripChart.Proofs.Grammar
import StripChart.Proofs.Streams
import StripChart.Proofs.Lifecycle
import StripChart.Proofs.Extremes
import StripChart.Proofs.Shape
import StripChart.Proofs.Fulfilment
import StripChart.Proofs.Exact
import StripChart.Proofs.Zooming
import StripChart.Proofs.Rounding
import StripChart.Proofs.Operations
import StripChart.Proofs.Overflow
import StripChart.Proofs.News
import StripChart.Proofs.Selecting
import StripChart.Proofs.FiniteNumbers
import StripChart.Proofs.Pacing
import StripChart.Proofs.Numerals
import StripChart.Proofs.Points
import StripChart.Proofs.Finite
import StripChart.Proofs.Describing
import StripChart.Proofs.Plotting
import StripChart.Proofs.Capacities
import StripChart.Proofs.Rereading
import StripChart.Proofs.Colors
