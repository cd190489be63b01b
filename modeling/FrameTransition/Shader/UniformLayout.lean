import FrameTransition.Shader.Interface
import FrameTransition.Shader.Stage

/-!
# Where the program's resources are bound

A renderer supplies three resources to a fragment stage: the frame as an image, a sampler for it, and a
block with the transition's progress and the frame's size. `Global.role?` says which of them a global
variable stands for, if any; resolution takes the last global of each role, and each must be in group 0.

`UniformLayout.entries` lists what is resolved as the entries of a bind group layout.
-/

namespace FrameTransition.Shader

/-- The global that holds the frame. -/
def textureName : String := "_to_texture"

/-- The global that holds the frame's sampler. -/
def samplerName : String := "_to_sampler"

/-- The block member written for every frame. -/
def progressMember : String := "progress"

/-- The block member written once. -/
def resolutionMember : String := "resolution"

/-- A block with the transition's parameters, and where in it they are. -/
structure ParamsBlock where
  binding : Nat
  size : Nat
  progressOffset : Option Nat
  resolutionOffset : Option Nat
  deriving DecidableEq, Inhabited

/-- The resolved bindings of a fragment stage, all in group 0. -/
structure UniformLayout where
  texture : Option Nat
  sampler : Option Nat
  params : Option ParamsBlock
  deriving DecidableEq, Inhabited

/-- What a global variable is to the renderer. -/
inductive Role where
  | texture (binding : Nat)
  | sampler (binding : Nat)
  | params (block : ParamsBlock)
  deriving DecidableEq

/-- The name of a role's resource in messages. -/
def Role.subject : Role → String
  | texture _ => textureName
  | sampler _ => samplerName
  | params _ => "transition parameters"

/-- The role of a global, with the group it is bound in. A block is known by its members alone, whatever
its own name; the image and the sampler are known by name and type. -/
def Global.role? (var : Global) : Option (Nat × Role) :=
  var.binding.bind fun place =>
    match var.type with
    | .image _ => if var.name = some textureName then some (place.group, .texture place.binding) else none
    | .sampler _ =>
      if var.name = some samplerName then some (place.group, .sampler place.binding) else none
    | .record _ members span =>
      let progress := members.offset? progressMember
      let resolution := members.offset? resolutionMember
      if var.space = .uniform ∧ (progress.isSome ∨ resolution.isSome) then
        some (place.group, .params ⟨place.binding, span, progress, resolution⟩)
      else none
    | _ => none

namespace UniformLayout

/-- Nothing resolved. -/
def empty : UniformLayout := ⟨none, none, none⟩

/-- The layout with one role filled, over whatever filled it before. -/
def assign (layout : UniformLayout) : Role → UniformLayout
  | .texture binding => { layout with texture := some binding }
  | .sampler binding => { layout with sampler := some binding }
  | .params block => { layout with params := some block }

/-- Takes one global with a role into a layout. -/
def accept (layout : UniformLayout) (entry : Nat × Role) : Except Fault UniformLayout :=
  if entry.1 = 0 then .ok (layout.assign entry.2)
  else .error ⟨.link, s!"{entry.2.subject} must live in bind group 0, found group {entry.1}"⟩

/-- The layout of a fragment stage. -/
def resolve (stage : StageInterface) : Except Fault UniformLayout :=
  (stage.globals.filterMap (·.role?)).foldlM accept empty

end UniformLayout

/-- The kind of resource at a binding. -/
inductive ResourceKind where
  /-- A two-dimensional image of filterable floats. -/
  | texture
  /-- A filtering sampler. -/
  | sampler
  /-- A uniform buffer at a fixed place, with its least size where that is not zero. -/
  | uniformBuffer (minimumSize : Option Nat)
  deriving DecidableEq

/-- An entry of a bind group layout: one resource, seen by the fragment stage only. -/
structure LayoutEntry where
  binding : Nat
  kind : ResourceKind
  deriving DecidableEq

/-- The entry of a parameter block. -/
def ParamsBlock.entry (block : ParamsBlock) : LayoutEntry :=
  ⟨block.binding, .uniformBuffer (if block.size = 0 then none else some block.size)⟩

/-- The entries for whatever is resolved: image, sampler, block. -/
def UniformLayout.entries (layout : UniformLayout) : List LayoutEntry :=
  (layout.texture.map fun binding => ⟨binding, .texture⟩).toList ++
    (layout.sampler.map fun binding => ⟨binding, .sampler⟩).toList ++
    (layout.params.map (·.entry)).toList

end FrameTransition.Shader
