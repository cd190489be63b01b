import FrameTransition.Glsl.Parse.Expression

/-!
# Reading declarations

A declaration is known by its first words: qualifiers or a type. Only behind them does it turn out
whether it declares variables, a block or a function (`Declared`).
-/

namespace FrameTransition.Glsl

namespace Parse

/-! ## Types and qualifiers -/

/-- The names of one member declaration, up to the semicolon. -/
def memberNames (fuel : Nat) : Parse (List (String × List (Option Expr))) := do
  match fuel with
  | 0 => fail .tooDeep
  | fuel + 1 =>
    let name ← freeName
    let parts ← dimensions fuel
    if ← mark? "," then
      return (name, parts) :: (← memberNames fuel)
    else
      mark ";"
      return [(name, parts)]

mutual

/-- A type, with the structure it defines where it does. -/
def typeName (fuel : Nat) : Parse (Option RecordDefinition × TypeName) := do
  match fuel with
  | 0 => fail .tooDeep
  | fuel + 1 =>
    if ← word? "struct" then
      let name ← freeName
      mark "\x7b"
      let members ← memberDeclarations fuel
      modify fun reader => { reader with records := name :: reader.records }
      return (some ⟨name, members⟩, ⟨.named name, ← dimensions fuel⟩)
    else
      let base ← baseType
      match base with
      | .void => return (none, ⟨base, []⟩)
      | _ => return (none, ⟨base, ← dimensions fuel⟩)

/-- The members of a structure or block up to the closing brace, at least one. -/
def memberDeclarations (fuel : Nat) : Parse (List MemberDeclaration) := do
  match fuel with
  | 0 => fail .tooDeep
  | fuel + 1 =>
    let (definition, type) ← typeName fuel
    if definition.isSome then fail (.forbidden "a structure inside a structure")
    let names ← memberNames fuel
    let first : MemberDeclaration := ⟨type, names⟩
    if ← mark? "\x7d" then return [first] else return first :: (← memberDeclarations fuel)

end

/-- A type that defines nothing. -/
def plainType (fuel : Nat) : Parse TypeName := do
  let (definition, type) ← typeName fuel
  if definition.isSome then fail (.forbidden "a new structure") else return type

/-- Layout qualifiers up to the closing parenthesis, at least one. -/
def layoutQualifiers (fuel : Nat) : Parse (List LayoutQualifier) := do
  match fuel with
  | 0 => fail .tooDeep
  | fuel + 1 =>
    let name ← freeName
    let value ← if ← mark? "=" then some <$> conditional fuel else pure none
    if ← mark? "," then
      return ⟨name, value⟩ :: (← layoutQualifiers fuel)
    else
      mark ")"
      return [⟨name, value⟩]

/-- The words that may stand in front of a type. -/
def qualifierWords : List String :=
  ["layout", "in", "out", "uniform", "buffer", "shared", "const", "restrict", "readonly", "writeonly",
    "coherent", "volatile", "flat", "noperspective", "smooth", "centroid", "sample", "invariant",
    "lowp", "mediump", "highp"]

def storageOfWord? : String → Option StorageQualifier
  | "const" => some .const
  | "in" => some .input
  | "out" => some .output
  | "uniform" => some .uniform
  | "buffer" => some .buffer
  | "shared" => some .workgroup
  | _ => none

def interpolationOfWord? : String → Option Interpolation
  | "flat" => some .flat
  | "noperspective" => some .linear
  | "smooth" => some .perspective
  | _ => none

/-- Qualifiers with one more word, if it may be added: there is one storage, one interpolation, one
sampling and one precision at most. -/
def addQualifier (qualifiers : Qualifiers) (word : String) : Option Qualifiers :=
  match storageOfWord? word, interpolationOfWord? word with
  | some storage, _ =>
    if qualifiers.storage.isSome then none else some { qualifiers with storage := some storage }
  | none, some interpolation =>
    if qualifiers.interpolation.isSome then none
    else some { qualifiers with interpolation := some interpolation }
  | none, none =>
    if word = "centroid" ∨ word = "sample" then
      if qualifiers.sampling then none else some { qualifiers with sampling := true }
    else if word = "lowp" ∨ word = "mediump" ∨ word = "highp" then
      if qualifiers.precise then none else some { qualifiers with precise := true }
    else if word = "invariant" then
      if qualifiers.invariant then none else some { qualifiers with invariant := true }
    else if word = "readonly" ∨ word = "writeonly" then some { qualifiers with memory := true }
    else some qualifiers

/-- What stands in front of a type, added to `done`. -/
def qualifiersFrom (fuel : Nat) (done : Qualifiers) : Parse Qualifiers := do
  match fuel with
  | 0 => fail .tooDeep
  | fuel + 1 =>
    match ← peek with
    | some (.word "layout") =>
      skip
      mark "("
      let more ← layoutQualifiers fuel
      qualifiersFrom fuel { done with layout := done.layout ++ more }
    | some (.word word) =>
      if qualifierWords.contains word then
        match addQualifier done word with
        | some more =>
          skip
          qualifiersFrom fuel more
        | none => refuse
      else return done
    | _ => return done

/-! ## Declarations -/

/-- The declared variables behind a type, up to the semicolon. -/
def declarators (fuel : Nat) : Parse (List Declarator) := do
  match fuel with
  | 0 => fail .tooDeep
  | fuel + 1 =>
    if ← mark? ";" then return []
    else
      let name ← freeName
      let parts ← dimensions fuel
      let initial ← if ← mark? "=" then some <$> initializer fuel else pure none
      let first : Declarator := ⟨name, parts, initial⟩
      if ← mark? "," then
        return first :: (← declarators fuel)
      else
        mark ";"
        return [first]

def passing : Parse Passing := do
  if ← word? "in" then return .value
  else if ← word? "out" then return .output
  else if ← word? "inout" then return .inout
  else if ← word? "const" then return .constant
  else return .value

/-- The parameters of a function up to the closing parenthesis. A last parameter without a name is
not counted, and a comma may stand behind the last one. -/
def parameters (fuel : Nat) : Parse (List Parameter) := do
  match fuel with
  | 0 => fail .tooDeep
  | fuel + 1 =>
    if (← atType) || (← atWord ["in", "out", "inout", "const"]) then
      let passing ← passing
      let type ← plainType fuel
      if ← mark? "," then
        return ⟨none, type, passing⟩ :: (← parameters fuel)
      else if ← atFreeName then
        let name ← freeName
        let parts ← dimensions fuel
        let first : Parameter :=
          ⟨some name, { type with dimensions := parts ++ type.dimensions }, passing⟩
        if ← mark? "," then
          return first :: (← parameters fuel)
        else
          mark ")"
          return [first]
      else
        mark ")"
        return []
    else
      mark ")"
      return []

/-- What a declaration turned out to be. A function's body is left to read. -/
inductive Declared where
  | plain (declarations : List Declaration)
  | functionHead (definition : List Declaration) (signature : Signature)

/-- The declaration of a block, behind its qualifiers and its name. -/
def blockDeclaration (fuel : Nat) (qualifiers : Qualifiers) (name : String) : Parse Declaration := do
  let members ← memberDeclarations fuel
  if ← mark? ";" then
    return .block qualifiers name members none
  else
    let instanceName ← freeName
    let parts ← dimensions fuel
    mark ";"
    return .block qualifiers name members (some (instanceName, parts))

/-- A declaration behind its qualifiers. -/
def declarationAfter (fuel : Nat) (qualifiers : Qualifiers) : Parse Declared := do
  if ← atType then
    let (definition, type) ← typeName fuel
    let defined := (definition.map Declaration.record).toList
    let reader ← get
    match reader.rest with
    | .word name :: .mark "(" :: rest =>
      if isFreeName name then
        set { reader with rest := rest }
        let parameters ← match rest with
          | .word "void" :: _ => do
            skip
            mark ")"
            pure []
          | _ => parameters fuel
        return .functionHead defined ⟨name, type, parameters⟩
      else refuse
    | _ =>
      let _ ← mark? ","
      return .plain (defined ++ [.variableList qualifiers type (← declarators fuel)])
  else if ← mark? ";" then
    return .plain [.qualifiersOnly qualifiers]
  else
    let name ← freeName
    if ← mark? "\x7b" then
      return .plain [← blockDeclaration fuel qualifiers name]
    else if qualifiers.invariant then
      mark ";"
      return .plain [.invariant name, .qualifiersOnly { qualifiers with invariant := false }]
    else refuse

/-- A declaration, if one comes next. -/
def declaration? (fuel : Nat) : Parse (Option Declared) := do
  if (← atType) || (← atWord qualifierWords) then
    let qualifiers ← qualifiersFrom fuel .none
    return some (← declarationAfter fuel qualifiers)
  else if ← word? "precision" then
    if !(← atWord ["lowp", "mediump", "highp"]) then refuse
    skip
    let type ← plainType fuel
    mark ";"
    return some (.plain [.precision type])
  else
    return none

/-- A declaration inside a function: no function may be defined there. -/
def localDeclaration (fuel : Nat) : Parse (List Statement) := do
  match ← declaration? fuel with
  | some (.plain declarations) => return declarations.map .declaration
  | some (.functionHead definition signature) =>
    mark ";"
    return (definition ++ [Declaration.prototype signature]).map .declaration
  | none => refuse

end Parse

end FrameTransition.Glsl
