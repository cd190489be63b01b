/-!
# Stages of a program build

A program is built in three stages: the vertex shader, the fragment shader, and the link of the two.
A build that fails says at which stage and why.
-/

namespace FrameTransition.Shader

/-- A step of the program build. -/
inductive Stage where
  | vertex
  | fragment
  | link
  deriving DecidableEq

def Stage.name : Stage → String
  | vertex => "vertex"
  | fragment => "fragment"
  | link => "link"

/-- The stages in the order they run. -/
def Stage.all : List Stage := [vertex, fragment, link]

/-- A failed build. -/
structure Fault where
  stage : Stage
  diagnostic : String
  deriving DecidableEq

def Fault.message (fault : Fault) : String :=
  fault.stage.name ++ " stage: " ++ fault.diagnostic

end FrameTransition.Shader
