import NetworkAgent.Activity
import NetworkAgent.Address.Ip
import NetworkAgent.Address.Prefix
import NetworkAgent.Address.Uri
import NetworkAgent.Commit.Delta
import NetworkAgent.Commit.Marker
import NetworkAgent.Commit.Tracker
import NetworkAgent.Decimal.Binary
import NetworkAgent.Decimal.Read
import NetworkAgent.Decimal.Shortest
import NetworkAgent.Error
import NetworkAgent.Json.Syntax
import NetworkAgent.Management
import NetworkAgent.Message.Common
import NetworkAgent.Message.Gnmi
import NetworkAgent.Message.Notification
import NetworkAgent.Message.Programming
import NetworkAgent.Message.Registration
import NetworkAgent.Metadata
import NetworkAgent.Options
import NetworkAgent.Path.Element
import NetworkAgent.Path.Notation
import NetworkAgent.Path.Subtree
import NetworkAgent.Probe
import NetworkAgent.Programming
import NetworkAgent.Proofs.Commit.Boundary
import NetworkAgent.Proofs.Commit.Cancellation
import NetworkAgent.Proofs.Commit.Interleaving
import NetworkAgent.Proofs.Commit.Marker
import NetworkAgent.Proofs.Commit.MarkerData
import NetworkAgent.Proofs.Commit.Moves
import NetworkAgent.Proofs.Commit.Streaming
import NetworkAgent.Proofs.Commit.Tracking
import NetworkAgent.Proofs.Course
import NetworkAgent.Proofs.Json.Grammar
import NetworkAgent.Proofs.Json.Reading
import NetworkAgent.Proofs.Json.Skipping
import NetworkAgent.Proofs.Log
import NetworkAgent.Proofs.Management.Addressing
import NetworkAgent.Proofs.Options
import NetworkAgent.Proofs.Path.Concatenation
import NetworkAgent.Proofs.Path.Counterpart
import NetworkAgent.Proofs.Path.Elements
import NetworkAgent.Proofs.Path.Grammar
import NetworkAgent.Proofs.Path.RoundTrip
import NetworkAgent.Proofs.Path.Subtree
import NetworkAgent.Proofs.Path.Translation
import NetworkAgent.Proofs.Probe.Exit
import NetworkAgent.Proofs.Probe.Moves
import NetworkAgent.Proofs.Retry
import NetworkAgent.Proofs.Session.Acknowledged
import NetworkAgent.Proofs.Session.Options
import NetworkAgent.Proofs.Session.Overlap
import NetworkAgent.Proofs.Session.Registration
import NetworkAgent.Proofs.Session.RootContainer
import NetworkAgent.Proofs.Session.Sequence
import NetworkAgent.Proofs.Session.Sweep
import NetworkAgent.Proofs.Session.Traffic
import NetworkAgent.Proofs.Session.Turns
import NetworkAgent.Proofs.Session.Windows
import NetworkAgent.Proofs.Stream.Cancellation
import NetworkAgent.Proofs.Stream.Delivery
import NetworkAgent.Proofs.Stream.Handles
import NetworkAgent.Proofs.Stream.Moves
import NetworkAgent.Proofs.Stream.Pace
import NetworkAgent.Retry
import NetworkAgent.Service
import NetworkAgent.Session.Basic
import NetworkAgent.Session.Connect
import NetworkAgent.Session.Ledger
import NetworkAgent.Session.Operation
import NetworkAgent.Settings.Basic
import NetworkAgent.Settings.Layer
import NetworkAgent.Settings.Load
import NetworkAgent.Settings.Place
import NetworkAgent.Settings.Tree
import NetworkAgent.Simulation.Channel
import NetworkAgent.Simulation.Operation
import NetworkAgent.Simulation.Queue
import NetworkAgent.Simulation.Scenario
import NetworkAgent.Simulation.Schedule
import NetworkAgent.Simulation.Script
import NetworkAgent.Simulation.Station
import NetworkAgent.Simulation.Task
import NetworkAgent.Simulation.World
import NetworkAgent.Status
import NetworkAgent.Status.Header
import NetworkAgent.Stream.Pump
import NetworkAgent.Stream.Registry
import NetworkAgent.Stream.Topic
import NetworkAgent.Text.Blank
import NetworkAgent.Text.Hex
import NetworkAgent.Text.Percent
import NetworkAgent.Text.Printable
import NetworkAgent.Text.Quoted
import NetworkAgent.Text.Utf8
import NetworkAgent.Toml.Document
import NetworkAgent.Toml.Lexeme
import NetworkAgent.Toml.Moment
import NetworkAgent.Toml.Number
import NetworkAgent.Toml.Reader
import NetworkAgent.Proofs.Text.Numeral
import NetworkAgent.Proofs.Address.Reading
import NetworkAgent.Proofs.Address.Prefix
import NetworkAgent.Proofs.Text.Repair
import NetworkAgent.Proofs.Management.Values
import NetworkAgent.Proofs.Probe.Rounds
import NetworkAgent.Proofs.Settings.Layering
