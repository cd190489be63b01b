import FrameTransition.Glsl.Operator

/-!
# Overloads

A function name may stand for several functions that differ in their parameters. A call takes the one
whose parameters have exactly the types of the arguments; else the arguments are converted, and the one
whose conversions are better at some argument and worse at none. Where none is, the call is ambiguous.
-/

namespace FrameTransition.Glsl

open FrameTransition.Shader

/-- What a call of a function does besides giving a value. -/
inductive Target where
  /-- A function of the shader, in the order they were announced. -/
  | declared (index : Nat)
  /-- A function of its arguments alone. -/
  | pure
  /-- A function that compares neighbouring fragments. -/
  | derivative
  /-- Puts an image and a sampler together. -/
  | combine
  /-- Reads an image through the sampler it is put together with. -/
  | sample (ownLevel : Bool)
  /-- Reads an image, or asks about it, without a sampler. -/
  | fetch
  /-- A function that is known but not supported. -/
  | unsupported
  deriving DecidableEq

structure Overload where
  parameters : List (Ty × Passing)
  /-- The type of the value, or none. -/
  result : Option Ty
  target : Target
  deriving DecidableEq

/-- An argument is stored into, so that its type must be the parameter's. -/
def Passing.isStored : Passing → Bool
  | .output => true
  | .inout => true
  | _ => false

/-- How an argument gets to its parameter. -/
inductive Conversion where
  | exact
  | intToFloat
  | intToDouble
  | floatToDouble
  | other
  deriving DecidableEq

/-- The scalars of two types of one shape. -/
def scalarsOfShape? (target source : Ty) : Option (Scalar × Scalar) :=
  match scalarOf? target, scalarOf? source with
  | some t, some s => if withScalar s target = source then some (t, s) else none
  | _, _ => none

/-- The conversion of a type to another, if there is one. -/
def conversion? (target source : Ty) : Option Conversion :=
  if target = source then some .exact
  else
    (scalarsOfShape? target source).bind fun (t, s) =>
      match rank? t, rank? s with
      | some reached, some present =>
        if reached < present then none
        else if t = .float64 ∧ s = .float32 then some .floatToDouble
        else if t = .float32 then some .intToFloat
        else if t = .float64 then some .intToDouble
        else some .other
      | _, _ => none

/-- The conversion of an argument to a parameter. -/
def Passing.conversion? (passing : Passing) (parameter argument : Ty) : Option Conversion :=
  if passing.isStored ∧ parameter ≠ argument then none
  else Glsl.conversion? parameter argument

/-- Whether a conversion is better than another: none of the two may be. -/
def Conversion.isBetter? (new old : Conversion) : Option Bool :=
  match new, old with
  | _, .exact => some false
  | .floatToDouble, _ => some true
  | _, .floatToDouble => some false
  | .intToFloat, .intToDouble => some true
  | .intToDouble, .intToFloat => some false
  | _, _ => none

/-- The conversions of a call's arguments to the parameters of an overload. -/
def Overload.conversions? (overload : Overload) (arguments : List Ty) : Option (List Conversion) :=
  if overload.parameters.length = arguments.length then
    (overload.parameters.zip arguments).mapM fun ((type, passing), argument) =>
      passing.conversion? type argument
  else none

/-- The best overload so far, and whether another is as good. -/
structure Choice where
  overload : Overload
  conversions : List Conversion
  ambiguous : Bool

/-- Compares an overload with the best so far, argument by argument: what is exact now is not compared,
and the first difference counts; one in the other direction makes the call ambiguous. -/
def Choice.consider (choice : Choice) (overload : Overload) (conversions : List Conversion) : Choice :=
  let verdicts := (conversions.zip choice.conversions).filterMap fun (new, old) =>
    if new = .exact then none else new.isBetter? old
  match verdicts with
  | [] => ⟨overload, conversions, true⟩
  | first :: rest =>
    let ambiguous := choice.ambiguous || rest.any (· ≠ first)
    if first then ⟨overload, conversions, ambiguous⟩ else { choice with ambiguous := ambiguous }

/-- The overload a call takes, if there is exactly one. -/
def resolve? (overloads : List Overload) (arguments : List Ty) : Option Overload :=
  let fitting := overloads.filterMap fun overload =>
    (overload.conversions? arguments).map fun conversions => (overload, conversions)
  match fitting.find? fun (_, conversions) => conversions.all (· = .exact) with
  | some (overload, _) => some overload
  | none =>
    match fitting with
    | [] => none
    | (overload, conversions) :: others =>
      let first : Choice := ⟨overload, conversions, false⟩
      let choice := others.foldl (fun best (overload, conversions) =>
        best.consider overload conversions) first
      if choice.ambiguous then none else some choice.overload

end FrameTransition.Glsl
