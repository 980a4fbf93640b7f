import EntityWire.Complaint
import EntityWire.Component.Basic
import EntityWire.Component.Kind
import EntityWire.Component.Kinds
import EntityWire.Entity
import EntityWire.Event.Basic
import EntityWire.Event.Channel
import EntityWire.Inspect.Arguments
import EntityWire.Inspect.Command
import EntityWire.Inspect.Directory
import EntityWire.Inspect.Report
import EntityWire.Json.Basic
import EntityWire.Json.Number
import EntityWire.Json.Pack
import EntityWire.Json.Reader
import EntityWire.Json.Text
import EntityWire.Json.Value
import EntityWire.Main
import EntityWire.Message.Basic
import EntityWire.Message.Conversion
import EntityWire.Number.Binary
import EntityWire.Number.Layout
import EntityWire.Number.Shortest
import EntityWire.Ordered.Map
import EntityWire.Ordered.Set
import EntityWire.Registry.Basic
import EntityWire.Registry.Lookup
import EntityWire.Registry.Transfer
import EntityWire.Scene.Basic
import EntityWire.Scene.File
import EntityWire.Spatial.Origin
import EntityWire.Spatial.Pose
import EntityWire.Text.Control
import EntityWire.Text.Display
import EntityWire.Text.Hex
import EntityWire.Text.Quoted
import EntityWire.Text.Unprintable
import EntityWire.Text.Utf8
import EntityWire.Wire.Choice
import EntityWire.Wire.Collection
import EntityWire.Wire.Error
import EntityWire.Wire.Form
import EntityWire.Wire.Marker
import EntityWire.Wire.Record
import EntityWire.Wire.Scan
import EntityWire.Wire.Skip
import EntityWire.Wire.Token
import EntityWire.Wire.Write
import EntityWire.WireId
import EntityWire.Proofs.Answer
import EntityWire.Proofs.Association
import EntityWire.Proofs.Component.Carriage
import EntityWire.Proofs.Component.Coordinates
import EntityWire.Proofs.Component.Domain
import EntityWire.Proofs.Component.Foreign
import EntityWire.Proofs.Component.Same
import EntityWire.Proofs.Component.Settles
import EntityWire.Proofs.Event.Delivery
import EntityWire.Proofs.Event.Encoding
import EntityWire.Proofs.Event.Reading
import EntityWire.Proofs.Event.Ring
import EntityWire.Proofs.Event.Run
import EntityWire.Proofs.Event.View
import EntityWire.Proofs.Extent
import EntityWire.Proofs.Inspect.Dump
import EntityWire.Proofs.Json.Pack
import EntityWire.Proofs.Json.Reader
import EntityWire.Proofs.Json.WellFormed
import EntityWire.Proofs.Message.Absent
import EntityWire.Proofs.Message.Compatible
import EntityWire.Proofs.Message.Domain
import EntityWire.Proofs.Message.Passage
import EntityWire.Proofs.Message.Resolves
import EntityWire.Proofs.Message.RoundTrip
import EntityWire.Proofs.Number.NotNaN
import EntityWire.Proofs.Number.Value
import EntityWire.Proofs.Ordered.Map
import EntityWire.Proofs.Ordered.Set
import EntityWire.Proofs.Positional
import EntityWire.Proofs.Registry.Acceptance
import EntityWire.Proofs.Registry.Collision
import EntityWire.Proofs.Registry.Consistency
import EntityWire.Proofs.Registry.Declaration
import EntityWire.Proofs.Registry.Filling
import EntityWire.Proofs.Registry.Installation
import EntityWire.Proofs.Registry.Lookup
import EntityWire.Proofs.Registry.Misaddressed
import EntityWire.Proofs.Registry.Transfer
import EntityWire.Proofs.Scene.Bridge
import EntityWire.Proofs.Scene.File
import EntityWire.Proofs.Scene.Loading
import EntityWire.Proofs.Scene.Transport
import EntityWire.Proofs.Text.Hex
import EntityWire.Proofs.Text.Order
import EntityWire.Proofs.Text.Utf8
import EntityWire.Proofs.Wire.Collection
import EntityWire.Proofs.Wire.Defaults
import EntityWire.Proofs.Wire.Entries
import EntityWire.Proofs.Wire.Extent
import EntityWire.Proofs.Wire.Foreign
import EntityWire.Proofs.Wire.Gives
import EntityWire.Proofs.Wire.Head
import EntityWire.Proofs.Wire.Length
import EntityWire.Proofs.Wire.Place
import EntityWire.Proofs.Wire.Positional
import EntityWire.Proofs.Wire.Record
import EntityWire.Proofs.Wire.Resolves
import EntityWire.Proofs.Wire.RoundTrip
import EntityWire.Proofs.Wire.WellFormed
import EntityWire.Proofs.Wire.Written
import EntityWire.Proofs.WireId
