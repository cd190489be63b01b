import FrameTransition.Decimal.Shortest
import FrameTransition.Decimal.Read
import FrameTransition.Text.Blank
import FrameTransition.Text.GraphemeExtend
import FrameTransition.Text.Quoted
import FrameTransition.Text.Utf8
import FrameTransition.FileSystem
import FrameTransition.Config.Basic
import FrameTransition.Config.Progress
import FrameTransition.Frame
import FrameTransition.Quad
import FrameTransition.Throughput
import FrameTransition.Pixels.Rows
import FrameTransition.Pixels.Words
import FrameTransition.Snippet.Line
import FrameTransition.Snippet.Sanitize
import FrameTransition.Snippet.Template
import FrameTransition.Shader.Interface
import FrameTransition.Shader.Link
import FrameTransition.Shader.UniformLayout
import FrameTransition.Shader.UniformBuffer
import FrameTransition.Host
import FrameTransition.Render.Renderer
import FrameTransition.Render.History
import FrameTransition.Video.Decoder
import FrameTransition.Video.Encoder
import FrameTransition.Video.Probe
import FrameTransition.Yaml.Cursor
import FrameTransition.Yaml.Scalar
import FrameTransition.Yaml.Event
import FrameTransition.Config.Record
import FrameTransition.Config.Document
import FrameTransition.Config.Load
import FrameTransition.Glsl.Diagnostic
import FrameTransition.Glsl.Keyword
import FrameTransition.Glsl.Tree
import FrameTransition.Glsl.Parse.Basic
import FrameTransition.Glsl.Parse.Declaration
import FrameTransition.Glsl.Parse.Item
import FrameTransition.Glsl.Directive
import FrameTransition.Glsl.Constant
import FrameTransition.Glsl.Operator
import FrameTransition.Glsl.Builtin
import FrameTransition.Glsl.Scope
import FrameTransition.Glsl.Typing
import FrameTransition.Glsl.Flow
import FrameTransition.Glsl.Compile
import FrameTransition.Image.Basic
import FrameTransition.Image.Netpbm
import FrameTransition.Image.Open
import FrameTransition.CommandLine.Arguments
import FrameTransition.CommandLine.Run
import FrameTransition.CommandLine.Complete
import FrameTransition.Main
import FrameTransition.Video.ReadAhead
import FrameTransition.Proofs.Decimal.Numerals
import FrameTransition.Proofs.Pixels.RoundTrip
import FrameTransition.Proofs.Pixels.Words
import FrameTransition.Proofs.Render.Draw
import FrameTransition.Proofs.Render.Step
import FrameTransition.Proofs.Render.Contract
import FrameTransition.Proofs.Render.Lifecycle
import FrameTransition.Proofs.Render.Setup
import FrameTransition.Proofs.Render.Configure
import FrameTransition.Proofs.Render.Limits
import FrameTransition.Proofs.Render.PixelPath
import FrameTransition.Proofs.Number.Order
import FrameTransition.Proofs.Number.Rounding
import FrameTransition.Proofs.Config.Progress
import FrameTransition.Proofs.Video.Decoding
import FrameTransition.Proofs.Video.Promises
import FrameTransition.Proofs.Video.ReadAhead
import FrameTransition.Proofs.Video.Encoding
import FrameTransition.Proofs.Video.Timing
import FrameTransition.Proofs.Shader.Program
import FrameTransition.Proofs.Shader.Resolution
import FrameTransition.Proofs.Shader.BlockLayout
import FrameTransition.Proofs.Snippet.Treatment
import FrameTransition.Proofs.Snippet.ParameterBlock
import FrameTransition.Proofs.Snippet.Layout
import FrameTransition.Proofs.Shader.Coverage
import FrameTransition.Proofs.Shader.Linking
import FrameTransition.Proofs.Shader.Relevance
import FrameTransition.Proofs.Shader.ParameterWrites
import FrameTransition.Proofs.Snippet.Parameters
import FrameTransition.Proofs.Snippet.Comments
import FrameTransition.Proofs.Snippet.Grammar
import FrameTransition.Proofs.Snippet.Numbering
import FrameTransition.Proofs.Snippet.Stability
import FrameTransition.Proofs.Snippet.OneLine
import FrameTransition.Proofs.Session.Steps
import FrameTransition.Proofs.Config.Records
import FrameTransition.Proofs.CommandLine.Launch
import FrameTransition.Proofs.CommandLine.Failure
import FrameTransition.Proofs.Video.Rates
import FrameTransition.Proofs.Video.Probing
import FrameTransition.Proofs.Video.Ending
import FrameTransition.Proofs.Pixels.Writes
import FrameTransition.Proofs.Shader.Entries
