import FrameTransition.Snippet.Line

/-!
# Sanitizing a snippet

A snippet is read line by line (`Snippet/Line.lean`). The body has a line for each line of the snippet,
kept or empty, so that line numbers in a compiler's diagnostics are the snippet's own; the members that
were lifted are collected in source order, as often as they are written.
-/

namespace FrameTransition.Snippet

/-- A snippet without clashing declarations. -/
structure Sanitized where
  body : List Char
  members : List Member
  deriving DecidableEq

/-- The body's line for a line of the snippet, ended by a line feed. -/
def bodyLine (line : List Char) : List Char :=
  (treatment line).text line ++ ['\n']

/-- The members a line adds. -/
def lineMembers (line : List Char) : List Member :=
  (treatment line).members

/-- The snippet without clashing declarations, and what was lifted from it. -/
def sanitize (snippet : List Char) : Sanitized where
  body := (Text.lines snippet).flatMap bodyLine
  members := (Text.lines snippet).flatMap lineMembers

end FrameTransition.Snippet
