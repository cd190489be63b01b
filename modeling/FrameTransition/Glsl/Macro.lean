import FrameTransition.Glsl.Diagnostic

/-!
# Macros

A macro stands for other tokens, with or without arguments. What comes out of a macro is read again
together with what follows it, but never by the macro it came from: every token carries the names of the
macros that are hidden from it. A macro with parameters that is not called stands for itself.

Expansion is bounded by a count of steps, since a few short macros can stand for a very long text.
-/

namespace FrameTransition.Glsl

/-- What a name stands for. Without a list of parameters it is never called. -/
structure Macro where
  parameters : Option (List String)
  body : List Token
  deriving DecidableEq

/-- The macros defined at a place, by name. -/
abbrev Macros := List (String × Macro)

/-- A token and the names of the macros that may not be used on it. -/
structure Marked where
  token : Token
  hidden : List String

namespace Macro

/-- The arguments of a call, behind the opening parenthesis, with the closing one and what follows it.
Only commas outside further parentheses part them. -/
def takeArguments (depth : Nat) (current : List Marked) :
    List Marked → Option (List (List Marked) × Marked × List Marked)
  | [] => none
  | m :: rest =>
    if m.token = .mark ")" then
      if depth = 0 then some ([current.reverse], m, rest)
      else takeArguments (depth - 1) (m :: current) rest
    else if m.token = .mark "(" then takeArguments (depth + 1) (m :: current) rest
    else if m.token = .mark "," ∧ depth = 0 then
      (takeArguments 0 [] rest).map fun (later, close, rest) => (current.reverse :: later, close, rest)
    else takeArguments depth (m :: current) rest

/-- The body with the arguments in place of the parameters; `hidden` is hidden from all of it. -/
def substitute (body : List Token) (parameters : List String) (arguments : List (List Marked))
    (hidden : List String) : List Marked :=
  body.flatMap fun token =>
    let replacement : Option (List Marked) := match token with
      | .word name => (parameters.zip arguments).lookup name
      | _ => none
    match replacement with
    | some argument => argument.map fun m => { m with hidden := m.hidden ++ hidden }
    | none => [⟨token, hidden⟩]

/-- The arguments fit the parameters. No argument at all is written like one empty argument. -/
def takes (parameters : List String) (arguments : List (List Marked)) : Bool :=
  if parameters.isEmpty then arguments.length = 1 && arguments.all (·.isEmpty)
  else arguments.length = parameters.length

/-- Replaces macros until none is left. -/
def expand (macros : Macros) (fuel : Nat) (tokens : List Marked) : Except Diagnostic (List Marked) := do
  match fuel with
  | 0 => throw .tooDeep
  | fuel + 1 =>
    match tokens with
    | [] => return []
    | m :: rest =>
      let name? := match m.token with
        | .word name => if m.hidden.contains name then none else some name
        | _ => none
      match name?.bind fun name => (macros.lookup name).map fun found => (name, found) with
      | none => return m :: (← expand macros fuel rest)
      | some (name, ⟨none, body⟩) =>
        expand macros fuel (substitute body [] [] (name :: m.hidden) ++ rest)
      | some (name, ⟨some parameters, body⟩) =>
        match rest with
        | ⟨.mark "(", _⟩ :: after =>
          match takeArguments 0 [] after with
          | none => throw (.unexpected none)
          | some (arguments, close, rest) =>
            if !takes parameters arguments then throw (.forbidden "this count of macro arguments")
            let arguments ← arguments.mapM (expand macros fuel)
            let hidden := name :: m.hidden.filter close.hidden.contains
            expand macros fuel (substitute body parameters arguments hidden ++ rest)
        | _ => return m :: (← expand macros fuel rest)

/-- The most steps of an expansion. -/
def expansionLimit : Nat := 1000000

/-- Tokens with all macros replaced. -/
def expandAll (macros : Macros) (tokens : List Token) : Except Diagnostic (List Token) := do
  return (← expand macros expansionLimit (tokens.map (⟨·, []⟩))).map (·.token)

end Macro

end FrameTransition.Glsl
