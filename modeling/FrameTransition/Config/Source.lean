import FrameTransition.Session

/-!
# Where a snippet comes from
-/

namespace FrameTransition

/-- The origin of a transition snippet. -/
inductive Source where
  /-- The pass-through transition the library brings. -/
  | builtin
  /-- A text given directly. -/
  | inline (text : List Char)
  /-- A file, read when the renderer is configured. -/
  | file (path : Path)
  deriving DecidableEq, Inhabited

/-- The bytes a file was found to hold, as a snippet. -/
def Source.textOfFile (path : Path) (found : Except FileError (List UInt8)) :
    Except TransitionError (List Char) :=
  (found >>= textOfBytes).mapError (.sourceUnavailable path ·)

/-- The snippet of a source; `none` is the built-in one. Only a file source asks the host. -/
def Source.load : Source → Session (Except TransitionError (Option (List Char)))
  | builtin => return .ok none
  | inline text => return .ok (some text)
  | file path => do
    let found ← Session.readFile path
    return some <$> textOfFile path found

end FrameTransition
