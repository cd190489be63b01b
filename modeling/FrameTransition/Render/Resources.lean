import FrameTransition.Frame
import FrameTransition.Quad
import FrameTransition.Render.Device
import FrameTransition.Shader.Program
import FrameTransition.Shader.UniformBuffer

/-!
# What is made on a device

Once a device is acquired, everything that drawing takes is made on it for one size of frame: the pipeline,
the quad, the texture with its staging rows, the parameter buffer with the size of the frame written to it,
and the target. None of this can fail with an error: a device that was given what it does not take says so
by itself, outside of any call, and what becomes of its objects then is left out here. So is what has no
content of its own, the sampler, the views and the bind group.
-/

namespace FrameTransition.Render

/-- What the device draws by: both stages, what the fragment stage is bound to, and how vertices are read. -/
structure Pipeline where
  vertex : Shader.StageInterface
  fragment : Shader.StageInterface
  entries : List Shader.LayoutEntry
  vertices : Quad.BufferLayout
  deriving DecidableEq

/-- The pipeline of a program. -/
def Pipeline.create (program : Shader.Program) (layout : Shader.UniformLayout) : Pipeline :=
  ⟨program.vertex, program.fragment, layout.entries, Quad.layout program.positionLocation⟩

/-- What a configured renderer has on its device. -/
structure Resources where
  pipeline : Pipeline
  quad : List Quad.Vertex
  /-- RGBA rows of the last frame drawn, kept to be written over. -/
  staging : List UInt8
  /-- The parameter buffer, if the program has a block and every write to it was taken. -/
  parameters : Option Shader.UniformBuffer
  target : Target
  deriving DecidableEq

namespace Resources

/-- Everything for frames of a size. -/
def create (program : Shader.Program) (layout : Shader.UniformLayout) (width height : Nat) : Resources where
  pipeline := .create program layout
  quad := Quad.vertices
  staging := List.replicate (width * height * Pixels.rgbaSize) 0
  parameters := layout.params.bind fun block => Shader.UniformBuffer.create? block width height
  target := .create width height

/-- The rows of a frame as the device takes them, written over those of the frame before. -/
def stage (resources : Resources) (width height : Nat) (input : Frame) : List UInt8 :=
  (Pixels.expandRows? input.data width height resources.staging).getD resources.staging

/-- Writes the progress and the rows of a frame. -/
def load (resources : Resources) (width height : Nat) (progress : Number) (input : Frame) : Resources :=
  { resources with
    parameters := resources.parameters.bind (·.setProgress? progress)
    staging := resources.stage width height input }

end Resources

/-- The pixels that are read back of a target, in a frame that keeps its size. -/
def Target.receive (target : Target) (readback : Readback target.size) (output : Frame) : List UInt8 :=
  (Pixels.packRows? readback.bytes target.pitch target.width target.height output.data).getD output.data

end FrameTransition.Render
