import FrameTransition.FileSystem
import FrameTransition.Render.State
import FrameTransition.Shader.Stage

/-!
# What can go wrong with a transition

One type for every refusal between the configuration and the drawn frame. A constructor is a cause and
carries what the message needs; the wording is in `TransitionError.message` alone.
-/

namespace FrameTransition

/-- The shape of a frame: its declared size and the bytes it holds. -/
structure FrameShape where
  width : Nat
  height : Nat
  length : Nat
  deriving DecidableEq

/-- Why configuring or driving a renderer failed. -/
inductive TransitionError where
  | configInvalid (reason : String)
  | sourceUnavailable (path : Path) (cause : FileError)
  | shaderCompileFailed (stage : Shader.Stage) (diagnostic : String)
  | shaderLinkFailed (diagnostic : String)
  | contextCreationFailed (reason : String)
  | dimensionMismatch (expected actual : FrameShape)
  | notConfigured
  | alreadyConfigured (state : Render.State)
  | readback (reason : String)
  deriving DecidableEq

namespace TransitionError

/-- The sentence about an error. -/
def message : TransitionError → String
  | configInvalid reason => "invalid configuration: " ++ reason
  | sourceUnavailable path cause =>
    "transition source " ++ path.shown ++ " is unavailable: " ++ cause.message
  | shaderCompileFailed stage diagnostic => stage.name ++ " shader failed to compile:\n" ++ diagnostic
  | shaderLinkFailed diagnostic => "shader program failed to link: " ++ diagnostic
  | contextCreationFailed reason => "rendering context creation failed: " ++ reason
  | dimensionMismatch expected actual =>
    s!"frame is {actual.width}x{actual.height} ({actual.length} bytes), " ++
      s!"renderer is configured for {expected.width}x{expected.height} ({expected.length} bytes)"
  | notConfigured => "renderer is not configured"
  | alreadyConfigured state => s!"renderer cannot be configured from the {state.name} state"
  | readback reason => "GPU readback failed: " ++ reason

/-- The cause below an error, where it has one of its own. -/
def cause? : TransitionError → Option String
  | sourceUnavailable _ cause => some cause.message
  | _ => none

/-- A failed build as a transition error: a fault of the link has a kind of its own. -/
def ofFault (fault : Shader.Fault) : TransitionError :=
  match fault.stage with
  | .link => shaderLinkFailed fault.diagnostic
  | stage => shaderCompileFailed stage fault.diagnostic

end TransitionError

end FrameTransition
