import FrameTransition.Text.Blank
import FrameTransition.Text.Quoted

/-!
# Paths

A path is a text whose parts are set off by slashes. Joining and taking the parent work on the text
and never look at a file system, so `..` stays as it is written. Empty parts do not count, nor does a
`.` anywhere but at the front of a relative path.
-/

namespace FrameTransition

/-- A path, as it is written. -/
structure Path where
  text : List Char
  deriving DecidableEq, Inhabited

namespace Path

def ofString (s : String) : Path := ⟨s.toList⟩

def toString (p : Path) : String := String.ofList p.text

/-- The quoted form shown in messages. -/
def shown (p : Path) : String := String.ofList (Text.quoted p.text)

/-- The path starts at the root. -/
def isAbsolute (p : Path) : Bool := p.text.head? = some '/'

def isRelative (p : Path) : Bool := !p.isAbsolute

/-- `p` seen from the directory `base`. An absolute path stands for itself; otherwise one slash is set
between the two unless `base` is empty or ends in one. -/
def join (base p : Path) : Path :=
  if p.isAbsolute then p
  else if base.text = [] ∨ base.text.getLast? = some '/' then ⟨base.text ++ p.text⟩
  else ⟨base.text ++ '/' :: p.text⟩

/-- A part of a path and the number of characters up to its end. -/
structure Part where
  name : List Char
  stop : Nat
  deriving DecidableEq

/-- The parts that count, of the pieces that start at character `start`. -/
def partsFrom (rooted : Bool) (start : Nat) : List (List Char) → List Part
  | [] => []
  | piece :: pieces =>
    let stop := start + piece.length
    let counts := piece ≠ [] ∧ (piece ≠ ['.'] ∨ (start = 0 ∧ rooted = false))
    let later := partsFrom rooted (stop + 1) pieces
    if counts then ⟨piece, stop⟩ :: later else later

/-- The parts of a path, the root not among them. -/
def parts (p : Path) : List Part :=
  partsFrom p.isAbsolute 0 (Text.splitOn '/' p.text)

/-- The path without its last part. The root and the empty path have no parent; a single relative
part has the empty path for a parent. -/
def parent? (p : Path) : Option Path :=
  match p.parts.reverse with
  | [] => none
  | [_] => some (if p.isAbsolute then ⟨['/']⟩ else ⟨[]⟩)
  | _ :: previous :: _ => some ⟨p.text.take previous.stop⟩

/-- What follows the last point of the last part. A part that only starts with a point has none, nor
has `..`. -/
def extension? (p : Path) : Option (List Char) :=
  match p.parts.getLast? with
  | none => none
  | some part =>
    if part.name = ['.', '.'] then none
    else
      let backward := part.name.reverse
      let after := backward.takeWhile (· ≠ '.')
      match backward.dropWhile (· ≠ '.') with
      | _ :: before => if before = [] then none else some after.reverse
      | [] => none

example : ((ofString "conf/c.yml").parent?.map toString) = some "conf" := by decide +kernel

example : ((ofString "a//b/").parent?.map toString) = some "a" := by decide +kernel

example : ((ofString "./c.yml").parent?.map toString) = some "." := by decide +kernel

example : ((ofString "c.yml").parent?.map toString) = some "" ∧ (ofString "/").parent? = none := by
  decide +kernel

end Path

end FrameTransition
