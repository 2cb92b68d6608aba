import StreamMux.Application
import StreamMux.ByteStream
import StreamMux.Bytes
import StreamMux.Client.Basic
import StreamMux.Client.Config
import StreamMux.Client.Error
import StreamMux.Clock
import StreamMux.Connection.Basic
import StreamMux.Connection.Config
import StreamMux.Connection.Dispatch
import StreamMux.Connection.KeepAlive
import StreamMux.Connection.Request
import StreamMux.Console.Arguments
import StreamMux.Console.Command
import StreamMux.Console.Prompt
import StreamMux.Console.Run
import StreamMux.Console.Style
import StreamMux.Daemon
import StreamMux.Duration
import StreamMux.Endpoint.Basic
import StreamMux.Endpoint.Calls
import StreamMux.Endpoint.Producing
import StreamMux.Endpoint.Requests
import StreamMux.Endpoint.Tasks
import StreamMux.ErrorCode
import StreamMux.Exchange.Basic
import StreamMux.Exchange.Inbound
import StreamMux.Exchange.Outbound
import StreamMux.Failure
import StreamMux.Fifo
import StreamMux.Frame.Basic
import StreamMux.Frame.Decode
import StreamMux.Frame.Encode
import StreamMux.Frame.Error
import StreamMux.Frame.Flags
import StreamMux.Frame.Reader
import StreamMux.Frame.Type
import StreamMux.FrameQueue
import StreamMux.FrameQueue.Receiver
import StreamMux.Framing
import StreamMux.Instances
import StreamMux.IoError
import StreamMux.Limiter
import StreamMux.Limiter.Askers
import StreamMux.Main
import StreamMux.Network.Address
import StreamMux.Network.Link
import StreamMux.Payload
import StreamMux.Pipe
import StreamMux.Proofs.Agreement.Accord
import StreamMux.Proofs.Agreement.Acting
import StreamMux.Proofs.Agreement.Calls
import StreamMux.Proofs.Agreement.Duty
import StreamMux.Proofs.Agreement.Frames
import StreamMux.Proofs.Agreement.Hearing
import StreamMux.Proofs.Agreement.Link
import StreamMux.Proofs.Agreement.Mirror
import StreamMux.Proofs.Agreement.Talk
import StreamMux.Proofs.Agreement.Tasks
import StreamMux.Proofs.Agreement.Telling
import StreamMux.Proofs.Agreement.Traffic
import StreamMux.Proofs.Agreement.Wire
import StreamMux.Proofs.Agreement.Working
import StreamMux.Proofs.Client.Validation
import StreamMux.Proofs.Connection.Answering
import StreamMux.Proofs.Connection.Apart
import StreamMux.Proofs.Connection.Arrival
import StreamMux.Proofs.Connection.Credit
import StreamMux.Proofs.Connection.Dropping
import StreamMux.Proofs.Connection.Fragments
import StreamMux.Proofs.Connection.HalfClose
import StreamMux.Proofs.Connection.History
import StreamMux.Proofs.Connection.Isolation
import StreamMux.Proofs.Connection.Ownership
import StreamMux.Proofs.Connection.Replenishing
import StreamMux.Proofs.Connection.Step
import StreamMux.Proofs.Connection.Terminal
import StreamMux.Proofs.Connection.WireDiscipline
import StreamMux.Proofs.Echo.Answer
import StreamMux.Proofs.Echo.Consumer
import StreamMux.Proofs.Echo.Delivery
import StreamMux.Proofs.Echo.Ends
import StreamMux.Proofs.Echo.Feeding
import StreamMux.Proofs.Echo.Lane
import StreamMux.Proofs.Echo.Passing
import StreamMux.Proofs.Echo.Rest
import StreamMux.Proofs.Echo.Stage
import StreamMux.Proofs.Endpoint.Advancing
import StreamMux.Proofs.Endpoint.Apart
import StreamMux.Proofs.Endpoint.Leaving
import StreamMux.Proofs.Endpoint.Calling
import StreamMux.Proofs.Endpoint.Draining
import StreamMux.Proofs.Endpoint.Ending
import StreamMux.Proofs.Endpoint.Replenishing
import StreamMux.Proofs.Endpoint.Watching
import StreamMux.Proofs.Endpoint.Working
import StreamMux.Proofs.Endpoint.Yielding
import StreamMux.Proofs.Exchange.Answering
import StreamMux.Proofs.Exchange.Credit
import StreamMux.Proofs.Exchange.Discipline
import StreamMux.Proofs.Exchange.Effect
import StreamMux.Proofs.Exchange.Ending
import StreamMux.Proofs.Exchange.Fragments
import StreamMux.Proofs.Exchange.Move
import StreamMux.Proofs.Exchange.Own
import StreamMux.Proofs.Exchange.Replenishing
import StreamMux.Proofs.Frame.Bounds
import StreamMux.Proofs.Frame.Failures
import StreamMux.Proofs.Frame.Landing
import StreamMux.Proofs.Frame.Reencoding
import StreamMux.Proofs.Frame.RoundTrip
import StreamMux.Proofs.Frame.Truncation
import StreamMux.Proofs.FrameQueue.Abandoned
import StreamMux.Proofs.FrameQueue.Lanes
import StreamMux.Proofs.Limiter.Conservation
import StreamMux.Proofs.Outbound.Acts
import StreamMux.Proofs.Outbound.Announcing
import StreamMux.Proofs.Outbound.Closing
import StreamMux.Proofs.Outbound.Lanes
import StreamMux.Proofs.Outbound.Requests
import StreamMux.Proofs.Outbound.Standing
import StreamMux.Proofs.Server.Accounting
import StreamMux.Proofs.Server.Admission
import StreamMux.Proofs.Settings.Layering
import StreamMux.Proofs.Stream.Splitting
import StreamMux.Proofs.StreamId.Allocation
import StreamMux.Proofs.StreamId.Search
import StreamMux.Proofs.Trace
import StreamMux.Proofs.Transfer.Answer
import StreamMux.Proofs.Transfer.Ends
import StreamMux.Proofs.Transfer.Rest
import StreamMux.Proofs.Transfer.Stage
import StreamMux.Proofs.World.Course
import StreamMux.Proofs.World.Delivery
import StreamMux.Proofs.World.Keeping
import StreamMux.Proofs.World.Opening
import StreamMux.Proofs.World.Passing
import StreamMux.Proofs.World.Resting
import StreamMux.Proofs.World.Run
import StreamMux.Proofs.World.Turn
import StreamMux.Registry
import StreamMux.Server.Admission
import StreamMux.Server.Basic
import StreamMux.Server.Error
import StreamMux.Server.Hosting
import StreamMux.Settings
import StreamMux.StreamId
import StreamMux.Text.Blank
import StreamMux.Text.Invisible
import StreamMux.Text.Lossy
import StreamMux.Text.Lowercase
import StreamMux.Text.Number
import StreamMux.Text.Quoted
import StreamMux.World
import StreamMux.Yaml.Document
import StreamMux.Yaml.Glyph
import StreamMux.Yaml.Layout
import StreamMux.Yaml.Node
import StreamMux.Yaml.Scalar
import StreamMux.Yaml.Tag
import StreamMux.Yaml.Token
