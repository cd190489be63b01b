/-!
# States of a renderer

What the owner of a renderer can see of its life: it starts `uninitialized`; configuring it once leads
to `ready` or to `failed`; the first drawn frame leads to `rendering`; tearing a configured renderer
down leads to `destroyed`.
-/

namespace FrameTransition.Render

/-- The visible state of a renderer. -/
inductive State where
  /-- Never configured. -/
  | uninitialized
  /-- Configured, no frame drawn. -/
  | ready
  /-- Configured, at least one frame drawn. -/
  | rendering
  /-- Configuring failed. -/
  | failed
  /-- Torn down after it was configured. -/
  | destroyed
  deriving DecidableEq

def State.name : State → String
  | uninitialized => "uninitialized"
  | ready => "ready"
  | rendering => "rendering"
  | failed => "failed"
  | destroyed => "destroyed"

/-- Every state, in the order of a life. -/
def State.all : List State := [uninitialized, ready, rendering, failed, destroyed]

/-- The states in which a renderer holds a configured size. -/
def State.isActive : State → Bool
  | ready => true
  | rendering => true
  | _ => false

end FrameTransition.Render
