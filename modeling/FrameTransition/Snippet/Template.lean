import FrameTransition.Snippet.Sanitize

/-!
# The fragment shader around a snippet

A snippet defines `vec4 transition(vec2 uv)`. The template declares everything it may use in front of it
and the entry point that calls it behind it. Between the two the numbering of lines starts anew, so the
snippet's first line is line 1.

The parameter block has no instance name: its members are plain identifiers, and a snippet may declare
variables of the same names without harm.
-/

namespace FrameTransition.Snippet

/-- Version, inputs and outputs, and the frame's texture. -/
def prelude : String :=
  "#version 450\n" ++
  "layout(location = 0) in vec2 _uv;\n" ++
  "layout(location = 0) out vec4 _fragColor;\n" ++
  "\n" ++
  "layout(set = 0, binding = 0) uniform texture2D _to_texture;\n" ++
  "layout(set = 0, binding = 1) uniform sampler _to_sampler;\n"

/-- The start of the parameter block, with the members every transition has. -/
def blockStart : String :=
  "\n" ++
  "layout(std140, set = 0, binding = 2) uniform TransitionParams \x7b\n" ++
  "    float progress;\n" ++
  "    vec2 resolution;\n"

/-- The end of the parameter block. -/
def blockEnd : String := "\x7d;\n"

/-- Names a snippet uses for the frame. -/
def defines : String :=
  "\n" ++
  "#define to sampler2D(_to_texture, _to_sampler)\n" ++
  "#define texture2D texture\n"

/-- Starts the line numbering of the snippet. -/
def lineMark : String := "\n#line 1\n"

/-- The entry point: the transition's colour is the output. -/
def footer : String :=
  "\n" ++
  "void main() \x7b\n" ++
  "    _fragColor = transition(_uv);\n" ++
  "\x7d\n"

/-- The snippet used where none is given: every pixel of the frame as it is. -/
def defaultTransition : String :=
  "vec4 transition(vec2 uv) \x7b\n" ++
  "    return texture2D(to, uv);\n" ++
  "\x7d\n"

/-- The vertex stage of every transition. It maps the quad to `_uv` between 0 and 1. -/
def vertexShader : String :=
  "#version 450\n" ++
  "layout(location = 0) in vec2 position;\n" ++
  "layout(location = 0) out vec2 _uv;\n" ++
  "\n" ++
  "void main() \x7b\n" ++
  "    gl_Position = vec4(position, 0.0, 1.0);\n" ++
  "    _uv = position * 0.5 + 0.5;\n" ++
  "\x7d\n"

/-- The line of a lifted member in the parameter block. -/
def memberLine (m : Member) : List Char :=
  "    ".toList ++ m.declaration ++ ['\n']

/-- Everything in front of the snippet. It depends on the snippet only through the lifted members. -/
def header (members : List Member) : List Char :=
  prelude.toList ++ blockStart.toList ++ members.flatMap memberLine ++ blockEnd.toList
    ++ defines.toList ++ lineMark.toList

/-- The fragment shader for a snippet, or for the default transition. -/
def assemble (snippet : Option (List Char)) : List Char :=
  let parts := sanitize (snippet.getD defaultTransition.toList)
  header parts.members ++ parts.body ++ footer.toList

end FrameTransition.Snippet
