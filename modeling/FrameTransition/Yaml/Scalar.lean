import FrameTransition.Yaml.Token

/-!
# Scalars of a YAML text

The five ways to write a scalar, each a function from a cursor at its first character to its text and the
cursor after it; `none` says that the text is malformed.

A line break between the lines of a scalar is folded: one break is a space, and of several the first is
left out. `Fold` holds the blanks and breaks since the last visible character until it is known what
follows them. The loops take a fuel: no more steps than there are characters, and every step but the last
reads at least one.
-/

namespace FrameTransition.Yaml

/-- Blanks and breaks that may become part of a scalar. -/
structure Fold where
  /-- Blanks on the line of the last visible character. -/
  blanks : List Char
  /-- The text of the first break. -/
  firstBreak : List Char
  /-- The text of the breaks after it. -/
  laterBreaks : List Char
  /-- A line has been left, so blanks no longer count. -/
  leftLine : Bool

namespace Fold

/-- Nothing yet. -/
def empty : Fold := ⟨[], [], [], false⟩

/-- What folded breaks contribute. -/
def brokenText (fold : Fold) : List Char :=
  if fold.firstBreak = ['\n'] then
    if fold.laterBreaks = [] then [' '] else fold.laterBreaks
  else fold.firstBreak ++ fold.laterBreaks

/-- What blanks and breaks contribute in front of a visible character. -/
def text (fold : Fold) : List Char :=
  if fold.leftLine then fold.brokenText else fold.blanks

/-- Takes in the line break at a cursor. -/
def addBreak (fold : Fold) (cursor : Cursor) : Fold :=
  if fold.leftLine then { fold with laterBreaks := fold.laterBreaks ++ cursor.breakText }
  else { fold with blanks := [], firstBreak := cursor.breakText, leftLine := true }

end Fold

/-- Reads blanks and breaks into a fold. `forbidden` refuses a character, given whether a line was left
and the column. -/
def foldGap (forbidden : Bool → Nat → Char → Bool) :
    Nat → Fold → Cursor → Option (Fold × Cursor)
  | 0, fold, cursor => some (fold, cursor)
  | fuel + 1, fold, cursor =>
    match cursor.rest with
    | [] => some (fold, cursor)
    | c :: _ =>
      if isBlank c then
        if forbidden fold.leftLine cursor.mark.column c then none
        else
          let taken := if fold.leftLine then fold else { fold with blanks := fold.blanks ++ [c] }
          foldGap forbidden fuel taken (cursor.advance 1)
      else if isBreak c then foldGap forbidden fuel (fold.addBreak cursor) cursor.skipBreak
      else some (fold, cursor)

/-! ## Plain scalars -/

/-- The characters with a meaning of their own between brackets. -/
def isFlowIndicator (c : Char) : Bool :=
  c = ',' || c = '?' || c = '[' || c = ']' || c = '\x7b' || c = '\x7d'

/-- How far a run of a plain scalar without gaps goes. Between brackets a colon right before one of the
indicators is refused. -/
def plainRun (inFlow : Bool) : List Char → Option (List Char)
  | [] => some []
  | c :: rest =>
    if isBlank c || isBreak c then some []
    else if inFlow && c = ':' && startsWith isFlowIndicator rest then none
    else if c = ':' && atGap rest then some []
    else if inFlow && isFlowIndicator c then some []
    else (plainRun inFlow rest).map (c :: ·)

/-- A plain scalar as far as it has been read. -/
structure PlainState where
  text : List Char
  fold : Fold
  cursor : Cursor

/-- Goes on with a plain scalar line by line. Lines after the first are indented by at least `indent`,
except between brackets, and a tab does not indent. -/
def plainLines (inFlow : Bool) (indent : Nat) : Nat → PlainState → Option PlainState
  | 0, state => some state
  | fuel + 1, state =>
    if state.cursor.atDocumentMark || startsWith (· = '#') state.cursor.rest then some state
    else do
      let run ← plainRun inFlow state.cursor.rest
      let read : PlainState :=
        if run = [] then state
        else ⟨state.text ++ state.fold.text ++ run, .empty, state.cursor.advance run.length⟩
      if startsWith (fun c => isBlank c || isBreak c) read.cursor.rest then
        let forbidden := fun leftLine column c => leftLine && column < indent && c = '\t'
        let (fold, cursor) ← foldGap forbidden read.cursor.rest.length read.fold read.cursor
        let gone : PlainState := ⟨read.text, fold, cursor⟩
        if !inFlow && cursor.mark.column < indent then some gone
        else plainLines inFlow indent fuel gone
      else some read

/-- A plain scalar, and whether it ended after a line break. -/
def plainScalar (inFlow : Bool) (indent : Nat) (cursor : Cursor) :
    Option (List Char × Bool × Cursor) :=
  (plainLines inFlow indent (cursor.rest.length + 1) ⟨[], .empty, cursor⟩).map fun state =>
    (state.text, state.fold.leftLine, state.cursor)

/-! ## Quoted scalars -/

/-- The character a one-letter escape stands for. -/
def simpleEscape? : Char → Option Char
  | '0' => some '\x00'
  | 'a' => some '\x07'
  | 'b' => some '\x08'
  | 't' => some '\t'
  | '\t' => some '\t'
  | 'n' => some '\n'
  | 'v' => some '\x0b'
  | 'f' => some '\x0c'
  | 'r' => some '\r'
  | 'e' => some '\x1b'
  | ' ' => some ' '
  | '"' => some '"'
  | '/' => some '/'
  | '\\' => some '\\'
  | 'N' => some '\u0085'
  | '_' => some '\u00a0'
  | 'L' => some '\u2028'
  | 'P' => some '\u2029'
  | _ => none

/-- The number of hexadecimal digits after an escape letter. -/
def codeLength? : Char → Option Nat
  | 'x' => some 2
  | 'u' => some 4
  | 'U' => some 8
  | _ => none

/-- The character of a code point. Surrogates are none. -/
def charOfCode? (code : Nat) : Option Char :=
  if code.isValidChar then some (Char.ofNat code) else none

/-- The character of an escape sequence after its backslash, and the length of the sequence. -/
def escape? : List Char → Option (Char × Nat)
  | [] => none
  | letter :: rest =>
    match simpleEscape? letter with
    | some c => some (c, 2)
    | none => do
      let length ← codeLength? letter
      let digits := rest.take length
      if digits.length = length ∧ digits.all isHexDigit then
        let c ← charOfCode? (digits.foldl (fun n d => n * 16 + hexValue d) 0)
        return (c, 2 + length)
      else none

/-- A run of a quoted scalar without gaps: its text, the cursor after it, and whether it ended in an
escaped line break. The text comes in reverse. -/
def quotedRun (single : Bool) : Nat → List Char → Cursor → Option (List Char × Bool × Cursor)
  | 0, text, cursor => some (text, false, cursor)
  | fuel + 1, text, cursor =>
    match cursor.rest with
    | [] => some (text, false, cursor)
    | c :: rest =>
      if isBlank c || isBreak c then some (text, false, cursor)
      else if single then
        if c = '\'' then
          if startsWith (· = '\'') rest then quotedRun single fuel ('\'' :: text) (cursor.advance 2)
          else some (text, false, cursor)
        else quotedRun single fuel (c :: text) (cursor.advance 1)
      else if c = '"' then some (text, false, cursor)
      else if c = '\\' then
        if startsWith isBreak rest then some (text, true, (cursor.advance 1).skipBreak)
        else
          match escape? rest with
          | some (escaped, length) => quotedRun single fuel (escaped :: text) (cursor.advance length)
          | none => none
      else quotedRun single fuel (c :: text) (cursor.advance 1)

/-- Goes on with a quoted scalar after its opening quote or after a gap. -/
def quotedParts (single : Bool) : Nat → List Char → Cursor → Option (List Char × Cursor)
  | 0, _, _ => none
  | fuel + 1, text, cursor =>
    if cursor.atDocumentMark || cursor.rest = [] then none
    else do
      let (run, escapedBreak, after) ← quotedRun single cursor.rest.length [] cursor
      let text := text ++ run.reverse
      if startsWith (· = if single then '\'' else '"') after.rest then
        return (text, after.advance 1)
      else
        let (fold, next) ← foldGap (fun _ _ _ => false) after.rest.length
          { Fold.empty with leftLine := escapedBreak } after
        quotedParts single fuel (text ++ fold.text) next

/-- A quoted scalar. -/
def quotedScalar (single : Bool) (cursor : Cursor) : Option (List Char × Cursor) :=
  quotedParts single (cursor.rest.length + 1) [] (cursor.advance 1)

/-! ## Block scalars -/

/-- What becomes of the line breaks at the end of a block scalar. -/
inductive Chomping where
  /-- One stays. -/
  | clip
  /-- None stays. -/
  | strip
  /-- All stay. -/
  | keep
  deriving DecidableEq

/-- The header of a block scalar. -/
structure BlockHeader where
  chomping : Chomping
  /-- Indentation beyond that of the surroundings, if it is given. -/
  increment : Option Nat

/-- A chomping sign, if one comes. -/
def chomping? (cursor : Cursor) : Option Chomping × Cursor :=
  match cursor.rest with
  | '+' :: _ => (some .keep, cursor.advance 1)
  | '-' :: _ => (some .strip, cursor.advance 1)
  | _ => (none, cursor)

/-- An indentation digit, if one comes. Zero is refused. -/
def increment? (cursor : Cursor) : Option (Option Nat × Cursor) :=
  match cursor.rest with
  | c :: _ =>
    if c = '0' then none
    else if c.isDigit then some (some (hexValue c), cursor.advance 1)
    else some (none, cursor)
  | [] => some (none, cursor)

/-- The header with its sign and digit in either order, up to the end of its line. -/
def blockHeader (cursor : Cursor) : Option (BlockHeader × Cursor) := do
  let (sign, afterSign) := chomping? cursor
  let (increment, afterDigit) ← increment? afterSign
  let (lateSign, afterBoth) :=
    if sign = none ∧ increment ≠ none then chomping? afterDigit else (none, afterDigit)
  let ended := afterBoth.skipBlanks.skipComment
  if atLineEnd ended.rest then
    return (⟨(sign.or lateSign).getD .clip, increment⟩, ended.skipBreak)
  else none

/-- Past the indentation and the empty lines that come next: their breaks, the deepest indentation seen,
and the cursor. Without an indentation any number of spaces is taken. A tab does not indent. -/
def blockBreaks (indent : Option Nat) :
    Nat → Nat → List Char → Cursor → Option (Nat × List Char × Cursor)
  | 0, deepest, breaks, cursor => some (deepest, breaks, cursor)
  | fuel + 1, deepest, breaks, cursor =>
    let spaces := (cursor.rest.takeWhile (· = ' ')).length
    let taken := match indent with
      | some column => min spaces (column - cursor.mark.column)
      | none => spaces
    let cursor := cursor.advance taken
    let deepest := max deepest cursor.mark.column
    let short := indent.all (cursor.mark.column < ·)
    if short && startsWith (· = '\t') cursor.rest then none
    else if startsWith isBreak cursor.rest then
      blockBreaks indent fuel deepest (breaks ++ cursor.breakText) cursor.skipBreak
    else some (deepest, breaks, cursor)

/-- A block scalar as far as it has been read. -/
structure BlockState where
  text : List Char
  /-- The break after the last line. -/
  lastBreak : List Char
  /-- The breaks of the empty lines after it. -/
  laterBreaks : List Char
  /-- The last line started with a blank, so the break after it is not folded. -/
  startedBlank : Bool
  cursor : Cursor

/-- The lines of a block scalar. -/
def blockLines (literal : Bool) (indent : Nat) : Nat → BlockState → Option BlockState
  | 0, state => some state
  | fuel + 1, state =>
    if state.cursor.mark.column = indent ∧ state.cursor.rest ≠ [] then do
      let startsBlank := startsWith isBlank state.cursor.rest
      let folds := !literal && state.lastBreak = ['\n'] && !state.startedBlank && !startsBlank
      let joint :=
        if folds then (if state.laterBreaks = [] then [' '] else state.laterBreaks)
        else state.lastBreak ++ state.laterBreaks
      let line := state.cursor.rest.takeWhile (! isBreak ·)
      let ended := state.cursor.advance line.length
      let (_, breaks, next) ← blockBreaks (some indent) ended.rest.length 0 [] ended.skipBreak
      blockLines literal indent fuel
        ⟨state.text ++ joint ++ line, ended.breakText, breaks, startsBlank, next⟩
    else some state

/-- A block scalar inside a block that is indented to a column; outside of all blocks there is none. -/
def blockScalar (literal : Bool) (surroundings : Option Nat) (cursor : Cursor) :
    Option (List Char × Cursor) := do
  let (header, body) ← blockHeader (cursor.advance 1)
  let given := header.increment.map fun increment => surroundings.getD 0 + increment
  let (deepest, breaks, first) ← blockBreaks given (body.rest.length + 1) 0 [] body
  let least := max 1 (surroundings.elim 0 (· + 1))
  let indent := given.getD (max deepest least)
  let state ← blockLines literal indent (first.rest.length + 1) ⟨[], [], breaks, false, first⟩
  let tail := match header.chomping with
    | .strip => []
    | .clip => state.lastBreak
    | .keep => state.lastBreak ++ state.laterBreaks
  return (state.text ++ tail, state.cursor)

end FrameTransition.Yaml
