/-!
# What a compiled stage shows

A `StageInterface` is what is left of a compiled shader stage for linking and for binding resources:
its entry points with the types and bindings of what goes in and comes out, and its global variables.
Structures occur in both, nested to any depth, so the types are a mutual family; `Members.toList` is the
view that statements about members are made through.

`Ty.describe` is the notation that link messages use for types.
-/

namespace FrameTransition.Shader

/-- What the bits of a scalar mean. -/
inductive ScalarKind where
  | sint
  | uint
  | float
  | bool
  deriving DecidableEq, Inhabited

/-- A scalar type: a kind and a width in bytes. -/
structure Scalar where
  kind : ScalarKind
  width : Nat
  deriving DecidableEq, Inhabited

namespace Scalar

def float32 : Scalar := ⟨.float, 4⟩
def float64 : Scalar := ⟨.float, 8⟩
def int32 : Scalar := ⟨.sint, 4⟩
def uint32 : Scalar := ⟨.uint, 4⟩
def bool : Scalar := ⟨.bool, 1⟩

end Scalar

/-- The number of components of a vector, of columns or of rows of a matrix. -/
inductive VectorSize where
  | two
  | three
  | four
  deriving DecidableEq, Inhabited

def VectorSize.toNat : VectorSize → Nat
  | two => 2
  | three => 3
  | four => 4

def VectorSize.ofNat? : Nat → Option VectorSize
  | 2 => some two
  | 3 => some three
  | 4 => some four
  | _ => none

/-- How the texels of an image are addressed. -/
inductive ImageDimension where
  | one
  | two
  | three
  | cube
  deriving DecidableEq, Inhabited

/-- What an image gives when it is read. -/
inductive ImageClass where
  /-- Filtered or fetched texels of a kind, with several samples each or one. -/
  | sampled (kind : ScalarKind) (multisampled : Bool)
  /-- Depths, compared with a reference. -/
  | depth
  deriving DecidableEq, Inhabited

/-- The shape of an image. -/
structure ImageShape where
  dimension : ImageDimension
  arrayed : Bool
  contents : ImageClass
  deriving DecidableEq, Inhabited

/-- The ordinary picture: two-dimensional, filtered floats. -/
def ImageShape.picture : ImageShape := ⟨.two, false, .sampled .float false⟩

/-- A value that the pipeline supplies or consumes by itself. -/
abbrev BuiltinName := String

/-- Where a value comes from or goes to. -/
inductive Binding where
  | location (index : Nat)
  | builtin (name : BuiltinName)
  deriving DecidableEq

mutual

/-- The type of a value. -/
inductive Ty where
  | scalar (scalar : Scalar)
  | vector (size : VectorSize) (scalar : Scalar)
  | matrix (columns rows : VectorSize) (scalar : Scalar)
  | image (shape : ImageShape)
  | sampler (comparison : Bool)
  /-- Elements set `stride` bytes apart; without a length their number is only known when run. -/
  | array (element : Ty) (length : Option Nat) (stride : Nat)
  /-- Members within `span` bytes. -/
  | record (name : String) (members : Members) (span : Nat)

/-- The members of a structure, in order. -/
inductive Members where
  | nil
  | cons (name : Option String) (type : Ty) (binding : Option Binding) (offset : Nat)
      (rest : Members)

end

deriving instance DecidableEq for Ty, Members

instance : Inhabited Ty := ⟨.scalar .float32⟩

/-- One member of a structure. -/
structure Member where
  name : Option String
  type : Ty
  binding : Option Binding
  offset : Nat
  deriving DecidableEq, Inhabited

namespace Members

/-- The members one by one. -/
def toList : Members → List Member
  | nil => []
  | cons name type binding offset rest => ⟨name, type, binding, offset⟩ :: rest.toList

def ofList : List Member → Members
  | [] => nil
  | m :: ms => cons m.name m.type m.binding m.offset (ofList ms)

@[simp] theorem toList_ofList (ms : List Member) : (ofList ms).toList = ms := by
  induction ms with
  | nil => rfl
  | cons m ms ih => simp [ofList, toList, ih]

/-- Where the first member of a name starts. -/
def offset? (members : Members) (name : String) : Option Nat :=
  (members.toList.find? fun m => m.name = some name).map (·.offset)

end Members

/-- A named value that goes into an entry point. -/
structure Argument where
  name : Option String
  type : Ty
  binding : Option Binding
  deriving DecidableEq

/-- What comes out of an entry point. -/
structure Result where
  type : Ty
  binding : Option Binding
  deriving DecidableEq

/-- The kind of work an entry point does. -/
inductive EntryKind where
  | vertex
  | fragment
  | compute
  deriving DecidableEq

/-- A function a stage can start in. -/
structure EntryPoint where
  name : String
  kind : EntryKind
  arguments : List Argument
  result : Option Result
  deriving DecidableEq

/-- The memory a global variable lives in. -/
inductive AddressSpace where
  | uniform
  | storage
  /-- One invocation sees it alone. -/
  | invocation
  /-- Images and samplers are no memory, only handles to it. -/
  | handle
  deriving DecidableEq

/-- The place of a resource among those bound to a program. -/
structure ResourceBinding where
  group : Nat
  binding : Nat
  deriving DecidableEq

/-- A variable of a whole stage. -/
structure Global where
  name : Option String
  space : AddressSpace
  binding : Option ResourceBinding
  type : Ty
  deriving DecidableEq

/-- The interface of one compiled stage. -/
structure StageInterface where
  entryPoints : List EntryPoint
  globals : List Global
  deriving DecidableEq

/-- The entry point called `main` of a kind. -/
def StageInterface.main? (stage : StageInterface) (kind : EntryKind) : Option EntryPoint :=
  stage.entryPoints.find? fun entry => entry.kind = kind ∧ entry.name = "main"

/-! ## Types in messages -/

def ScalarKind.describe : ScalarKind → String
  | sint => "Sint"
  | uint => "Uint"
  | float => "Float"
  | bool => "Bool"

def Scalar.describe (scalar : Scalar) : String :=
  "Scalar \x7b kind: " ++ scalar.kind.describe ++ ", width: " ++ toString scalar.width ++ " \x7d"

def VectorSize.describe : VectorSize → String
  | two => "Bi"
  | three => "Tri"
  | four => "Quad"

def ImageDimension.describe : ImageDimension → String
  | one => "D1"
  | two => "D2"
  | three => "D3"
  | cube => "Cube"

def ImageClass.describe : ImageClass → String
  | sampled kind multisampled =>
    "Sampled \x7b kind: " ++ kind.describe ++ ", multi: " ++ toString multisampled ++ " \x7d"
  | depth => "Depth \x7b multi: false \x7d"

/-- A type as link messages write it. -/
def Ty.describe : Ty → String
  | scalar s => "Scalar(" ++ s.describe ++ ")"
  | vector size s =>
    "Vector \x7b size: " ++ size.describe ++ ", scalar: " ++ s.describe ++ " \x7d"
  | matrix columns rows s =>
    "Matrix \x7b columns: " ++ columns.describe ++ ", rows: " ++ rows.describe ++
      ", scalar: " ++ s.describe ++ " \x7d"
  | image shape =>
    "Image \x7b dim: " ++ shape.dimension.describe ++ ", arrayed: " ++ toString shape.arrayed ++
      ", class: " ++ shape.contents.describe ++ " \x7d"
  | sampler comparison => "Sampler \x7b comparison: " ++ toString comparison ++ " \x7d"
  | array element length stride =>
    "Array \x7b base: " ++ element.describe ++ ", size: " ++
      (length.elim "Dynamic" fun n => "Constant(" ++ toString n ++ ")") ++
      ", stride: " ++ toString stride ++ " \x7d"
  | record name _ span => "Struct \x7b name: " ++ name ++ ", span: " ++ toString span ++ " \x7d"

example : (Ty.vector .two .float32).describe =
    "Vector \x7b size: Bi, scalar: Scalar \x7b kind: Float, width: 4 \x7d \x7d" := by decide +kernel

end FrameTransition.Shader
