import FrameTransition.Yaml.Scan

/-!
# From tokens to events

The events of a YAML stream are its nodes in order, with the start and the end of each collection and of
each document. `Event.ofTokens` reads them off the tokens with a stack of what is expected, one event a
step, and gives the events that come before the first malformed place.
-/

namespace FrameTransition.Yaml

/-- A scalar with its properties. -/
structure Scalar where
  anchor : Option (List Char)
  tag : Option (List Char)
  text : List Char
  style : Style
  deriving DecidableEq

/-- A step through a stream. -/
inductive Event where
  | documentStart
  | documentEnd
  | alias (name : List Char)
  | scalar (scalar : Scalar)
  | sequenceStart (anchor tag : Option (List Char))
  | sequenceEnd
  | mappingStart (anchor tag : Option (List Char))
  | mappingEnd
  deriving DecidableEq

/-- What comes next in a stream. -/
inductive Expect where
  /-- A document, or the end. Only the first one may do without a mark. -/
  | document (first : Bool)
  | documentContent
  | documentEnd
  | blockNode
  | blockSequenceEntry
  | indentlessEntry
  | blockMappingKey
  | blockMappingValue
  | flowSequenceEntry (first : Bool)
  | pairKey
  | pairValue
  | pairEnd
  | flowMappingKey (first : Bool)
  | flowMappingValue
  | flowMappingEmptyValue
  deriving DecidableEq

/-- What stands for a tag handle. -/
structure TagDirective where
  handle : List Char
  leader : List Char

/-- The handles every document has. -/
def standardTags : List TagDirective :=
  [⟨"!".toList, "!".toList⟩, ⟨"!!".toList, "tag:yaml.org,2002:".toList⟩]

/-- A stream in the middle of being read. -/
structure Parse where
  tokens : List Token
  /-- What is expected, the nearest first. -/
  stack : List Expect
  /-- The handles of the current document. -/
  tags : List TagDirective

/-- A step: an event, if it has one, and the stream after it; or nothing, at a malformed place. -/
abbrev ParseStep := Option (Option Event × Parse)

namespace Parse

/-- The next token; at a malformed place there is none. -/
def peek (p : Parse) : Option Token := p.tokens.head?

def skip (p : Parse) : Parse := { p with tokens := p.tokens.tail }

def expect (p : Parse) (next : List Expect) : Parse := { p with stack := next ++ p.stack }

/-- A node that is not written. -/
def emptyScalar : Event := .scalar ⟨none, none, [], .plain⟩

/-! ## Documents -/

/-- The directives before a document. Each handle, and the version, may be given once. -/
def directives : Nat → Bool → List TagDirective → Parse → Option Parse
  | 0, _, _, _ => none
  | fuel + 1, versioned, tags, p =>
    match p.peek with
    | none => none
    | some (.versionDirective major minor) =>
      if versioned || major ≠ 1 || (minor ≠ 1 && minor ≠ 2) then none
      else directives fuel true tags p.skip
    | some (.tagDirective handle leader) =>
      if tags.any fun tag => tag.handle = handle then none
      else directives fuel versioned (tags ++ [⟨handle, leader⟩]) p.skip
    | some _ =>
      let missing := standardTags.filter fun tag => !tags.any fun given => given.handle = tag.handle
      some { p with tags := tags ++ missing }

/-- Past marks that end a document which is over already. -/
def skipDocumentEnds (p : Parse) : Parse :=
  { p with tokens := p.tokens.dropWhile (· = .documentEnd) }

/-- A document that starts at its mark. -/
def markedDocument (p : Parse) : ParseStep := do
  let p ← directives (p.tokens.length + 1) false [] p
  match p.peek with
  | some .documentStart =>
    return (some .documentStart, p.skip.expect [.documentContent, .documentEnd])
  | _ => none

def document (p : Parse) (first : Bool) : ParseStep := do
  let p := if first then p else p.skipDocumentEnds
  match ← p.peek with
  | .streamEnd => return (none, { p with tokens := [], stack := [] })
  | .versionDirective _ _ | .tagDirective _ _ | .documentStart => p.markedDocument
  | _ =>
    if first then
      let p ← directives 1 false [] p
      return (some .documentStart, p.expect [.blockNode, .documentEnd])
    else p.markedDocument

/-! ## Nodes -/

/-- The full tag of a handle and a suffix. A handle must be known. -/
def fullTag (p : Parse) (handle suffix : List Char) : Option (List Char) :=
  if handle = [] then some suffix
  else (p.tags.find? fun tag => tag.handle = handle).map fun tag => tag.leader ++ suffix

/-- The properties of a node, in either order, not resolved yet. -/
def properties (p : Parse) :
    Option (Option (List Char) × Option (List Char × List Char) × Parse) := do
  match ← p.peek with
  | .anchor name =>
    match ← p.skip.peek with
    | .tag handle suffix => return (some name, some (handle, suffix), p.skip.skip)
    | _ => return (some name, none, p.skip)
  | .tag handle suffix =>
    match ← p.skip.peek with
    | .anchor name => return (some name, some (handle, suffix), p.skip.skip)
    | _ => return (none, some (handle, suffix), p.skip)
  | _ => return (none, none, p)

/-- A node. Only in blocks may it be a block, and only as the value of a key may it be a sequence that
is not indented. One with properties may be empty. -/
def node (p : Parse) (block indentless : Bool) : ParseStep := do
  match ← p.peek with
  | .alias name => return (some (.alias name), p.skip)
  | _ =>
    let (anchor, written, p) ← p.properties
    let tag ← match written with
      | some (handle, suffix) => (p.fullTag handle suffix).map some
      | none => some none
    match ← p.peek with
    | .blockEntry =>
      if indentless then return (some (.sequenceStart anchor tag), p.expect [.indentlessEntry])
      else if anchor.isSome || tag.isSome then return (some (.scalar ⟨anchor, tag, [], .plain⟩), p)
      else none
    | .scalar text style => return (some (.scalar ⟨anchor, tag, text, style⟩), p.skip)
    | .flowSequenceStart =>
      return (some (.sequenceStart anchor tag), p.skip.expect [.flowSequenceEntry true])
    | .flowMappingStart =>
      return (some (.mappingStart anchor tag), p.skip.expect [.flowMappingKey true])
    | token =>
      if block ∧ token = .blockSequenceStart then
        return (some (.sequenceStart anchor tag), p.skip.expect [.blockSequenceEntry])
      else if block ∧ token = .blockMappingStart then
        return (some (.mappingStart anchor tag), p.skip.expect [.blockMappingKey])
      else if anchor.isSome || tag.isSome then
        return (some (.scalar ⟨anchor, tag, [], .plain⟩), p)
      else none

/-- A node, unless one of some tokens shows that it is not written. -/
def nodeUnless (p : Parse) (absent : List Token) (block indentless : Bool) (after : Expect) :
    ParseStep := do
  let token ← p.peek
  let p := p.expect [after]
  if token ∈ absent then return (some emptyScalar, p) else p.node block indentless

/-! ## Collections -/

def blockSequenceEntry (p : Parse) : ParseStep := do
  match ← p.peek with
  | .blockEntry => p.skip.nodeUnless [.blockEntry, .blockEnd] true false .blockSequenceEntry
  | .blockEnd => return (some .sequenceEnd, p.skip)
  | _ => none

def indentlessEntry (p : Parse) : ParseStep := do
  match ← p.peek with
  | .blockEntry =>
    p.skip.nodeUnless [.blockEntry, .key, .value, .blockEnd] true false .indentlessEntry
  | _ => return (some .sequenceEnd, p)

def blockMappingKey (p : Parse) : ParseStep := do
  match ← p.peek with
  | .key => p.skip.nodeUnless [.key, .value, .blockEnd] true true .blockMappingValue
  | .blockEnd => return (some .mappingEnd, p.skip)
  | _ => none

def blockMappingValue (p : Parse) : ParseStep := do
  match ← p.peek with
  | .value => p.skip.nodeUnless [.key, .value, .blockEnd] true true .blockMappingKey
  | _ => return (some emptyScalar, p.expect [.blockMappingKey])

/-- Past the comma before every entry but the first, unless the collection ends. -/
def pastComma (p : Parse) (first : Bool) (closing : Token) : Option Parse := do
  let token ← p.peek
  if first ∨ token = closing then return p
  else if token = .flowEntry then return p.skip
  else none

def flowSequenceEntry (p : Parse) (first : Bool) : ParseStep := do
  let p ← p.pastComma first .flowSequenceEnd
  match ← p.peek with
  | .key => return (some (.mappingStart none none), p.skip.expect [.pairKey])
  | .flowSequenceEnd => return (some .sequenceEnd, p.skip)
  | _ => (p.expect [.flowSequenceEntry false]).node false false

def pairKey (p : Parse) : ParseStep := do
  let token ← p.peek
  if token = .value ∨ token = .flowEntry ∨ token = .flowSequenceEnd then
    return (some emptyScalar, p.skip.expect [.pairValue])
  else (p.expect [.pairValue]).node false false

def pairValue (p : Parse) : ParseStep := do
  match ← p.peek with
  | .value => p.skip.nodeUnless [.flowEntry, .flowSequenceEnd] false false .pairEnd
  | _ => return (some emptyScalar, p.expect [.pairEnd])

def flowMappingKey (p : Parse) (first : Bool) : ParseStep := do
  let p ← p.pastComma first .flowMappingEnd
  match ← p.peek with
  | .key => p.skip.nodeUnless [.value, .flowEntry, .flowMappingEnd] false false .flowMappingValue
  | .flowMappingEnd => return (some .mappingEnd, p.skip)
  | _ => (p.expect [.flowMappingEmptyValue]).node false false

def flowMappingValue (p : Parse) : ParseStep := do
  match ← p.peek with
  | .value =>
    p.skip.nodeUnless [.flowEntry, .flowMappingEnd] false false (.flowMappingKey false)
  | _ => return (some emptyScalar, p.expect [.flowMappingKey false])

/-- The end of a document, marked or not. The next one starts at its mark. -/
def documentEnd (p : Parse) : ParseStep := do
  let token ← p.peek
  let p := if token = .documentEnd then p.skip else p
  return (some .documentEnd, { p with tags := [] }.expect [.document false])

def documentContent (p : Parse) : ParseStep := do
  match ← p.peek with
  | .versionDirective _ _ | .tagDirective _ _ | .documentStart | .documentEnd | .streamEnd =>
    return (some emptyScalar, p)
  | _ => p.node true false

/-- One step: what is expected first is taken off the stack. -/
def step (p : Parse) : ParseStep :=
  match p.stack with
  | [] => none
  | next :: stack =>
    let p := { p with stack }
    match next with
    | .document first => p.document first
    | .documentContent => p.documentContent
    | .documentEnd => p.documentEnd
    | .blockNode => p.node true false
    | .blockSequenceEntry => p.blockSequenceEntry
    | .indentlessEntry => p.indentlessEntry
    | .blockMappingKey => p.blockMappingKey
    | .blockMappingValue => p.blockMappingValue
    | .flowSequenceEntry first => p.flowSequenceEntry first
    | .pairKey => p.pairKey
    | .pairValue => p.pairValue
    | .pairEnd => return (some .mappingEnd, p.expect [.flowSequenceEntry false])
    | .flowMappingKey first => p.flowMappingKey first
    | .flowMappingValue => p.flowMappingValue
    | .flowMappingEmptyValue => do
      let _ ← p.peek
      return (some emptyScalar, p.expect [.flowMappingKey false])

/-- The events from here on, and whether the stream is well formed to its end. -/
def events : Nat → Parse → List Event × Bool
  | 0, _ => ([], false)
  | fuel + 1, p =>
    if p.stack = [] then ([], true)
    else
      match p.step with
      | none => ([], false)
      | some (event, next) =>
        let (later, wellFormed) := events fuel next
        (event.toList ++ later, wellFormed)

end Parse

/-- The events of a token list up to the first malformed place, and whether there is none. Between two
tokens no more than three events are implied. -/
def Event.ofTokens (tokens : List Token) : List Event × Bool :=
  match tokens with
  | .streamStart :: rest => Parse.events (4 * (rest.length + 2)) ⟨rest, [.document true], []⟩
  | _ => ([], false)

/-- The events of a text up to the first malformed place, and whether there is none. -/
def Event.ofChars (cs : List Char) : List Event × Bool :=
  Event.ofTokens (Token.ofChars cs).1

end FrameTransition.Yaml
