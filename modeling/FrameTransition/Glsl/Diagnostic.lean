import FrameTransition.Glsl.Token

/-!
# What is wrong with a shader text
-/

namespace FrameTransition.Glsl

/-- Why a shader text is refused. -/
inductive Diagnostic where
  /-- A token that cannot stand where it does, or the end of the text. -/
  | unexpected (token : Option Token)
  /-- A directive that is unknown, incomplete or refuses the text. -/
  | directive (name : String)
  | unknown (name : String)
  | redeclared (name : String)
  /-- A value of the wrong type. -/
  | mismatch (place : String)
  /-- Something that is written correctly but may not stand there. -/
  | forbidden (what : String)
  /-- A constant that has no value. -/
  | noValue (what : String)
  | noEntryPoint
  /-- A text nested or expanded too deep to be read. -/
  | tooDeep
  deriving DecidableEq

namespace Diagnostic

/-- A token in a message. -/
def shown : Token → String
  | .word name => "\x60" ++ name ++ "\x60"
  | .mark text => "\x60" ++ text ++ "\x60"
  | .integer value _ => toString value
  | .float _ => "a number"
  | .stray => "a stray character"

/-- The sentence about a fault. -/
def message : Diagnostic → String
  | unexpected (some token) => "unexpected " ++ shown token
  | unexpected none => "unexpected end of the shader"
  | directive name => "bad directive " ++ name
  | unknown name => "unknown name " ++ name
  | redeclared name => name ++ " is declared already"
  | mismatch place => "wrong type of " ++ place
  | forbidden what => what ++ " is not allowed here"
  | noValue what => what ++ " has no value"
  | noEntryPoint => "there is no main function"
  | tooDeep => "the shader is nested too deep"

end Diagnostic

end FrameTransition.Glsl
