import FrameTransition.Number.Format

/-!
# The quad a frame is drawn on

Two triangles that cover clip space. Each vertex is a position of two 32-bit coordinates, read from one
vertex buffer without gaps.
-/

namespace FrameTransition.Quad

/-- A point of clip space. -/
structure Vertex where
  x : Number
  y : Number
  deriving DecidableEq

/-- Both triangles, vertex by vertex. -/
def vertices : List Vertex :=
  [⟨.real (-1), .real (-1)⟩, ⟨.real 1, .real (-1)⟩, ⟨.real (-1), .real 1⟩,
    ⟨.real (-1), .real 1⟩, ⟨.real 1, .real 1⟩, ⟨.real 1, .real (-1)⟩]

/-- Bytes from one vertex to the next: two coordinates of four bytes. -/
def stride : Nat := 8

/-- How often the buffer advances. -/
inductive StepMode where
  | vertex
  deriving DecidableEq

/-- The form of an attribute in the buffer. -/
inductive AttributeFormat where
  | float32x2
  deriving DecidableEq

/-- A vertex attribute: where the shader takes it and where it lies in the vertex. -/
structure Attribute where
  location : Nat
  offset : Nat
  format : AttributeFormat
  deriving DecidableEq

/-- How a vertex buffer is read. -/
structure BufferLayout where
  stride : Nat
  step : StepMode
  attributes : List Attribute
  deriving DecidableEq

/-- The buffer of the quad, with the position bound to a shader location. -/
def layout (location : Nat) : BufferLayout :=
  ⟨stride, .vertex, [⟨location, 0, .float32x2⟩]⟩

end FrameTransition.Quad
