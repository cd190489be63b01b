import FrameTransition.Shader.Interface

/-!
# Where the members of a block are

The members of a block lie in memory in the order they are written, each at the next offset that its type's
alignment allows. A scalar is aligned to its width, a vector of two to twice that and longer ones to four
times that, although a vector of three takes only three widths: a scalar fits behind it. The block ends at
a multiple of the largest alignment in it.

There are two rules, which differ for arrays and matrices only: in the stricter one their elements and
columns are set at least sixteen bytes apart.
-/

namespace FrameTransition.Shader

/-- How arrays and matrices are aligned in a block. -/
inductive LayoutRule where
  | std140
  | std430
  deriving DecidableEq

/-- The least alignment of an array or matrix under a rule. -/
def LayoutRule.leastAlignment : LayoutRule → Nat
  | std140 => 16
  | std430 => 1

/-- How many widths of its scalar a vector is aligned to. -/
def VectorSize.alignment : VectorSize → Nat
  | two => 2
  | three => 4
  | four => 4

/-- The least multiple of `alignment` that is not below `n`. -/
def roundUp (alignment n : Nat) : Nat :=
  (n + alignment - 1) / alignment * alignment

/-- Where a type may start and how many bytes it takes. -/
structure Extent where
  alignment : Nat
  span : Nat
  deriving DecidableEq

mutual

/-- A type with the offsets and strides a rule gives inside it, and its extent. Images and samplers have
none, nor have under the stricter rule matrices of two rows. -/
def Ty.laidOut? (rule : LayoutRule) : Ty → Option (Ty × Extent)
  | .scalar scalar => some (.scalar scalar, ⟨scalar.width, scalar.width⟩)
  | .vector size scalar =>
    some (.vector size scalar, ⟨size.alignment * scalar.width, size.toNat * scalar.width⟩)
  | .matrix columns rows scalar =>
    if rule = .std140 ∧ rows = .two then none
    else
      let alignment := max (rows.alignment * scalar.width) rule.leastAlignment
      some (.matrix columns rows scalar, ⟨alignment, columns.toNat * alignment⟩)
  | .array element length _ =>
    (element.laidOut? rule).map fun (element, extent) =>
      let alignment := max extent.alignment rule.leastAlignment
      let stride := roundUp alignment extent.span
      (.array element length stride, ⟨alignment, length.getD 1 * stride⟩)
  | .record name members _ =>
    (members.laidOut? rule 0 1).map fun (members, extent) =>
      (.record name members extent.span, extent)
  | .image _ => none
  | .sampler _ => none

/-- Members from a free offset on, behind others whose largest alignment is given. -/
def Members.laidOut? (rule : LayoutRule) (free alignment : Nat) : Members → Option (Members × Extent)
  | .nil => some (.nil, ⟨alignment, roundUp alignment free⟩)
  | .cons name type binding _ rest =>
    (type.laidOut? rule).bind fun (type, extent) =>
      let offset := roundUp extent.alignment free
      (rest.laidOut? rule (offset + extent.span) (max alignment extent.alignment)).map
        fun (rest, total) => (.cons name type binding offset rest, total)

end

/-- A structure of named members under a rule. -/
def recordOf? (rule : LayoutRule) (name : String) (members : List (String × Ty)) : Option Ty :=
  let members := Members.ofList (members.map fun (name, type) => ⟨some name, type, none, 0⟩)
  ((Ty.record name members 0).laidOut? rule).map (·.1)

mutual

/-- The extent of a type with the offsets it has. -/
def Ty.extent : Ty → Extent
  | .scalar scalar => ⟨scalar.width, scalar.width⟩
  | .vector size scalar => ⟨size.alignment * scalar.width, size.toNat * scalar.width⟩
  | .matrix columns rows scalar =>
    ⟨rows.alignment * scalar.width, columns.toNat * (rows.alignment * scalar.width)⟩
  | .array element length stride => ⟨element.extent.alignment, length.getD 1 * stride⟩
  | .record _ members span => ⟨members.alignment, span⟩
  | .image _ => ⟨1, 0⟩
  | .sampler _ => ⟨1, 0⟩

/-- The largest alignment of members. -/
def Members.alignment : Members → Nat
  | .nil => 1
  | .cons _ type _ _ rest => max type.extent.alignment rest.alignment

end

/-- An array outside of blocks: its elements are as close as their alignment allows. -/
def arrayOf (element : Ty) (length : Option Nat) : Ty :=
  .array element length (roundUp element.extent.alignment element.extent.span)

/-! ## What a block may hold -/

/-- The least alignment of arrays and structures in memory that is read as uniform. -/
def uniformAlignment : Nat := 16

mutual

/-- How a type is to be aligned in uniform memory, if it may be there: no booleans, and arrays and
structures at multiples of sixteen. -/
def Ty.uniformAlignment? : Ty → Option Nat
  | .scalar scalar => if scalar.kind = .bool then none else some scalar.width
  | .vector size scalar =>
    if scalar.kind = .bool then none else some (size.alignment * scalar.width)
  | .matrix _ rows scalar => some (rows.alignment * scalar.width)
  | .array element length stride =>
    element.uniformAlignment?.bind fun alignment =>
      if length.isSome ∧ stride % uniformAlignment = 0 then some (max alignment uniformAlignment)
      else none
  | .record _ members _ => members.uniformAlignment? uniformAlignment 0
  | .image _ => none
  | .sampler _ => none

/-- The same of members, at or behind a free offset. Behind a structure, sixteen-byte units are not
shared. -/
def Members.uniformAlignment? (alignment free : Nat) : Members → Option Nat
  | .nil => some alignment
  | .cons _ type _ offset rest =>
    type.uniformAlignment?.bind fun own =>
      if offset % own = 0 ∧ free ≤ offset then
        let free := match type with
          | .record _ _ span => offset + roundUp uniformAlignment span
          | _ => offset
        rest.uniformAlignment? (max alignment own) free
      else none

end

mutual

/-- A type whose values can be shared with the program that runs the shader. -/
def Ty.isShareable : Ty → Bool
  | .scalar scalar => scalar.kind ≠ .bool
  | .vector _ scalar => scalar.kind ≠ .bool
  | .matrix _ _ _ => true
  | .array element _ _ => element.isShareable
  | .record _ members _ => members.isShareable
  | .image _ => false
  | .sampler _ => false

def Members.isShareable : Members → Bool
  | .nil => true
  | .cons _ type _ _ rest => type.isShareable && rest.isShareable

end

mutual

/-- A type of which a variable can be made: every array in it has a length. -/
def Ty.isConstructible : Ty → Bool
  | .scalar _ => true
  | .vector _ _ => true
  | .matrix _ _ _ => true
  | .array element length _ => element.isConstructible && length.isSome
  | .record _ members _ => members.isConstructible
  | .image _ => false
  | .sampler _ => false

def Members.isConstructible : Members → Bool
  | .nil => true
  | .cons _ type _ _ rest => type.isConstructible && rest.isConstructible

end

/-- A scalar fits into the tail of a vector of three. -/
example : recordOf? .std140 "P" [("a", .vector .three .float32), ("b", .scalar .float32)] =
    some (.record "P" (.cons (some "a") (.vector .three .float32) none 0
      (.cons (some "b") (.scalar .float32) none 12 .nil)) 16) := by decide +kernel

end FrameTransition.Shader
