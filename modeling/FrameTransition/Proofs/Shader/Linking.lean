import FrameTransition.Proofs.Shader.First
import FrameTransition.Proofs.Shader.Program
import Mathlib.Data.List.Forall2
import Mathlib.Data.List.Nodup

/-!
# What linking answers

`Links` says what the answer for two stages is, with no recursion over types and no search: `Flattens` relates
a value to the varyings it shows, and whatever is to be the first of its kind is said to be it (`IsFirst`). The
cases exclude each other and one always holds, since linking gives the answer of every one
(`matchStages_eq_iff`).

Each part has its own lemma: what an entry point reads and writes, whether one input is supplied, the first
input that is not, and the attribute of the positions.
-/

namespace FrameTransition.Shader

/-! ## Varyings of a value -/

/-- The varyings a value shows, in order. With a location of its own it is one, whatever its type, and what is
built in shows none. Without a binding, a structure shows what its members show, and other values nothing. -/
inductive Flattens : Ty → Option Binding → List Varying → Prop
  | located (type : Ty) (location : Nat) : Flattens type (some (.location location)) [⟨location, type⟩]
  | builtin (type : Ty) (name : BuiltinName) : Flattens type (some (.builtin name)) []
  | record {name : String} {members : Members} {span : Nat} {parts : List (List Varying)} :
      List.Forall₂ (fun (m : Member) part => Flattens m.type m.binding part) members.toList parts →
        Flattens (.record name members span) none parts.flatten
  | other {type : Ty} : (∀ name members span, type ≠ .record name members span) → Flattens type none []

mutual

/-- A type is flattened as it is read. -/
theorem Ty.flattens_varyings (type : Ty) : Flattens type none type.varyings := by
  cases type with
  | record name members span =>
    obtain ⟨parts, hparts, hflatten⟩ := members.exists_parts
    show Flattens _ none members.varyings
    rw [← hflatten]
    exact .record hparts
  | scalar scalar => exact .other (by intros; simp)
  | vector size scalar => exact .other (by intros; simp)
  | matrix columns rows scalar => exact .other (by intros; simp)
  | image shape => exact .other (by intros; simp)
  | sampler comparison => exact .other (by intros; simp)
  | array element length stride => exact .other (by intros; simp)
termination_by structural type

/-- Member by member. -/
theorem Members.exists_parts (members : Members) :
    ∃ parts, List.Forall₂ (fun (m : Member) part => Flattens m.type m.binding part) members.toList parts ∧
      parts.flatten = members.varyings := by
  cases members with
  | nil => exact ⟨[], .nil, rfl⟩
  | cons name type binding offset rest =>
    obtain ⟨parts, hparts, hflatten⟩ := rest.exists_parts
    cases binding with
    | none =>
      have htype := type.flattens_varyings
      refine ⟨type.varyings :: parts, .cons htype hparts, ?_⟩
      rw [List.flatten_cons, hflatten]
      rfl
    | some binding =>
      cases binding with
      | location location =>
        refine ⟨[⟨location, type⟩] :: parts, .cons (.located type location) hparts, ?_⟩
        rw [List.flatten_cons, hflatten]
        rfl
      | builtin name =>
        refine ⟨[] :: parts, .cons (.builtin type name) hparts, ?_⟩
        rw [List.flatten_cons, hflatten]
        rfl
termination_by structural members

end

mutual

/-- There is one way only to flatten a type. -/
theorem Ty.eq_varyings (type : Ty) {shown : List Varying} (h : Flattens type none shown) :
    shown = type.varyings := by
  cases type with
  | record name members span =>
    cases h with
    | record hparts => exact members.flatten_eq hparts
    | other hother => exact absurd rfl (hother name members span)
  | scalar scalar => cases h; rfl
  | vector size scalar => cases h; rfl
  | matrix columns rows scalar => cases h; rfl
  | image shape => cases h; rfl
  | sampler comparison => cases h; rfl
  | array element length stride => cases h; rfl
termination_by structural type

theorem Members.flatten_eq (members : Members) {parts : List (List Varying)}
    (h : List.Forall₂ (fun (m : Member) part => Flattens m.type m.binding part) members.toList parts) :
    parts.flatten = members.varyings := by
  cases members with
  | nil =>
    cases h
    rfl
  | cons name type binding offset rest =>
    cases h with
    | @cons _ part _ parts hhead hrest =>
      have htail := rest.flatten_eq hrest
      cases binding with
      | none =>
        have hpart := type.eq_varyings hhead
        rw [List.flatten_cons, htail, hpart]
        rfl
      | some binding =>
        rw [List.flatten_cons, htail]
        cases hhead <;> rfl
termination_by structural members

end

theorem flattens_iff {type : Ty} {binding : Option Binding} {shown : List Varying} :
    Flattens type binding shown ↔ varyingsOf type binding = shown := by
  cases binding with
  | none =>
    constructor
    · intro h
      exact (type.eq_varyings h).symm
    · rintro rfl
      exact type.flattens_varyings
  | some binding =>
    cases binding with
    | location location =>
      constructor
      · intro h
        cases h
        rfl
      · rintro rfl
        exact .located type location
    | builtin name =>
      constructor
      · intro h
        cases h
        rfl
      · rintro rfl
        exact .builtin type name

/-! ## Entry points -/

/-- The first entry point of a kind that is called `main`. -/
def StageInterface.IsMain (stage : StageInterface) (kind : EntryKind) (entry : EntryPoint) : Prop :=
  IsFirst (fun entry => entry.kind = kind ∧ entry.name = "main") stage.entryPoints entry

/-- No entry point of a kind is called `main`. -/
def StageInterface.LacksMain (stage : StageInterface) (kind : EntryKind) : Prop :=
  ∀ entry ∈ stage.entryPoints, entry.kind = kind → entry.name ≠ "main"

/-- The varyings that an entry point takes, those of its arguments in order. -/
def EntryPoint.Reads (entry : EntryPoint) (inputs : List Varying) : Prop :=
  ∃ parts, List.Forall₂ (fun (a : Argument) part => Flattens a.type a.binding part) entry.arguments parts ∧
    inputs = parts.flatten

/-- The varyings that an entry point gives. -/
def EntryPoint.Writes (entry : EntryPoint) (outputs : List Varying) : Prop :=
  match entry.result with
  | some result => Flattens result.type result.binding outputs
  | none => outputs = []

theorem main?_eq_some_iff {stage : StageInterface} {kind : EntryKind} {entry : EntryPoint} :
    stage.main? kind = some entry ↔ stage.IsMain kind entry :=
  find?_eq_some_iff_isFirst

theorem main?_eq_none_iff {stage : StageInterface} {kind : EntryKind} :
    stage.main? kind = none ↔ stage.LacksMain kind := by
  simp [StageInterface.main?, StageInterface.LacksMain]

theorem reads_iff {entry : EntryPoint} {inputs : List Varying} :
    entry.Reads inputs ↔ entry.inputs = inputs := by
  have hparts : ∀ arguments : List Argument, ∀ parts,
      List.Forall₂ (fun (a : Argument) part => Flattens a.type a.binding part) arguments parts ↔
        arguments.map (fun a => varyingsOf a.type a.binding) = parts := by
    intro arguments
    induction arguments with
    | nil => simp [eq_comm]
    | cons argument arguments ih =>
      intro parts
      cases parts with
      | nil => simp
      | cons part parts => rw [List.forall₂_cons, flattens_iff, ih, List.map_cons, List.cons.injEq]
  unfold EntryPoint.Reads EntryPoint.inputs
  simp only [hparts, List.flatMap_def]
  constructor
  · rintro ⟨parts, rfl, rfl⟩
    rfl
  · rintro rfl
    exact ⟨_, rfl, rfl⟩

theorem writes_iff {entry : EntryPoint} {outputs : List Varying} :
    entry.Writes outputs ↔ entry.outputs = outputs := by
  unfold EntryPoint.Writes EntryPoint.outputs
  cases entry.result with
  | none => exact eq_comm
  | some result => exact flattens_iff

/-! ## One input -/

/-- The first output at the location of an input has its type. -/
def Supplies (outputs : List Varying) (input : Varying) : Prop :=
  ∃ output, IsFirst (fun output => output.location = input.location) outputs output ∧
    output.type = input.type

/-- What is wrong with an input that is not supplied. -/
inductive Misses (outputs : List Varying) (input : Varying) : LinkError → Prop
  | notWritten : (∀ output ∈ outputs, output.location ≠ input.location) →
      Misses outputs input (.notWritten input.location)
  | typeMismatch {output : Varying} :
      IsFirst (fun output => output.location = input.location) outputs output → output.type ≠ input.type →
        Misses outputs input (.typeMismatch input.location output.type input.type)

theorem checkInput_of_isFirst {outputs : List Varying} {input output : Varying}
    (h : IsFirst (fun output => output.location = input.location) outputs output) :
    checkInput outputs input =
      if output.type = input.type then .ok ()
      else .error (.typeMismatch input.location output.type input.type) := by
  unfold checkInput
  rw [find?_eq_some_iff_isFirst.mpr h]

theorem checkInput_of_misses {outputs : List Varying} {input : Varying} {error : LinkError}
    (h : Misses outputs input error) : checkInput outputs input = .error error := by
  cases h with
  | notWritten hnone =>
    have hfind : outputs.find? (fun output => decide (output.location = input.location)) = none := by
      simpa using hnone
    unfold checkInput
    rw [hfind]
  | typeMismatch hfirst htype => rw [checkInput_of_isFirst hfirst, if_neg htype]

theorem checkInput_of_supplies {outputs : List Varying} {input : Varying} (h : Supplies outputs input) :
    checkInput outputs input = .ok () := by
  obtain ⟨output, hfirst, htype⟩ := h
  rw [checkInput_of_isFirst hfirst, if_pos htype]

/-- An input is supplied, or there is something wrong with it. -/
theorem supplies_or_misses (outputs : List Varying) (input : Varying) :
    Supplies outputs input ∨ ∃ error, Misses outputs input error := by
  by_cases hsome : ∃ output ∈ outputs, output.location = input.location
  · obtain ⟨output, hfirst⟩ := exists_isFirst hsome
    by_cases htype : output.type = input.type
    · exact .inl ⟨output, hfirst, htype⟩
    · exact .inr ⟨_, .typeMismatch hfirst htype⟩
  · refine .inr ⟨_, .notWritten ?_⟩
    intro output hmem hlocation
    exact hsome ⟨output, hmem, hlocation⟩

/-! ## All inputs -/

theorem forM_checkInput_cons (outputs : List Varying) (input : Varying) (inputs : List Varying) :
    (input :: inputs).forM (checkInput outputs) =
      (checkInput outputs input >>= fun _ => inputs.forM (checkInput outputs)) := rfl

theorem forM_checkInput_of_supplies {outputs inputs : List Varying}
    (h : ∀ input ∈ inputs, Supplies outputs input) : inputs.forM (checkInput outputs) = .ok () := by
  induction inputs with
  | nil => rfl
  | cons input inputs ih =>
    obtain ⟨hinput, hrest⟩ := List.forall_mem_cons.mp h
    rw [forM_checkInput_cons, checkInput_of_supplies hinput]
    exact ih hrest

/-- The first input that is not supplied is the one reported. -/
theorem forM_checkInput_of_misses {outputs inputs : List Varying} {input : Varying} {error : LinkError}
    (hfirst : IsFirst (fun input => ¬ Supplies outputs input) inputs input)
    (h : Misses outputs input error) : inputs.forM (checkInput outputs) = .error error := by
  induction inputs with
  | nil => exact absurd hfirst.mem List.not_mem_nil
  | cons head inputs ih =>
    rw [forM_checkInput_cons]
    by_cases hhead : Supplies outputs head
    · have hrest := (IsFirst.cons_iff (p := fun input => ¬ Supplies outputs input) (not_not.mpr hhead)).mp hfirst
      rw [checkInput_of_supplies hhead]
      exact ih hrest
    · have hfirst' := IsFirst.head (p := fun input => ¬ Supplies outputs input) hhead inputs
      obtain rfl := hfirst'.unique hfirst
      rw [checkInput_of_misses h]
      rfl

/-! ## The attribute of the positions -/

/-- The argument comes from a location of its own. -/
def Argument.IsAt (argument : Argument) (location : Nat) : Prop :=
  argument.binding = some (.location location)

/-- Where the positions go: to the first argument with a location that is called `position`, or without such a
one to the only argument that has a location. -/
inductive PositionAt (arguments : List Argument) : Nat → Prop
  | named {argument : Argument} {location : Nat} :
      IsFirst (fun a => (∃ l, a.IsAt l) ∧ a.name = some "position") arguments argument →
        argument.IsAt location → PositionAt arguments location
  | only {before after : List Argument} {argument : Argument} {location : Nat} :
      arguments = before ++ argument :: after → (∀ a ∈ before, ∀ l, ¬ a.IsAt l) →
        (∀ a ∈ after, ∀ l, ¬ a.IsAt l) → argument.IsAt location →
          (∀ a ∈ arguments, (∃ l, a.IsAt l) → a.name ≠ some "position") → PositionAt arguments location

theorem attribute?_eq_some_iff {argument : Argument} {found : Attribute} :
    argument.attribute? = some found ↔ argument.IsAt found.location ∧ argument.name = found.name := by
  obtain ⟨name, location⟩ := found
  unfold Argument.attribute? Argument.IsAt
  cases argument.binding with
  | none => simp
  | some binding =>
    cases binding with
    | location index => simp [and_comm]
    | builtin builtin => simp

theorem attribute?_eq_none_iff {argument : Argument} :
    argument.attribute? = none ↔ ∀ location, ¬ argument.IsAt location := by
  constructor
  · intro h location hat
    have hsome : argument.attribute? = some ⟨argument.name, location⟩ := attribute?_eq_some_iff.mpr ⟨hat, rfl⟩
    rw [h] at hsome
    cases hsome
  · intro h
    cases hattribute : argument.attribute? with
    | none => rfl
    | some found => exact absurd (attribute?_eq_some_iff.mp hattribute).1 (h found.location)

/-- Of the attributes, the first one called `position` is that of the first argument with a location and this
name. -/
theorem find?_attributes_eq_some_iff {arguments : List Argument} {found : Attribute} :
    (arguments.filterMap (·.attribute?)).find? (fun candidate => candidate.name = some "position") =
        some found ↔
      ∃ argument, IsFirst (fun a => (∃ l, a.IsAt l) ∧ a.name = some "position") arguments argument ∧
        argument.attribute? = some found := by
  have hnamed : (fun a : Argument => ∃ shown, a.attribute? = some shown ∧
      decide (shown.name = some "position") = true) =
        fun a => (∃ l, a.IsAt l) ∧ a.name = some "position" := by
    funext a
    simp only [decide_eq_true_eq, eq_iff_iff, attribute?_eq_some_iff]
    constructor
    · rintro ⟨shown, ⟨hat, hname⟩, hposition⟩
      exact ⟨⟨shown.location, hat⟩, hname.trans hposition⟩
    · rintro ⟨⟨location, hat⟩, hname⟩
      exact ⟨⟨a.name, location⟩, ⟨hat, rfl⟩, hname⟩
  rw [find?_filterMap_eq_some_iff, hnamed]

theorem find?_attributes_eq_none_iff {arguments : List Argument} :
    (arguments.filterMap (·.attribute?)).find? (fun candidate => candidate.name = some "position") = none ↔
      ∀ a ∈ arguments, (∃ l, a.IsAt l) → a.name ≠ some "position" := by
  rw [List.find?_eq_none]
  simp only [List.mem_filterMap, attribute?_eq_some_iff, decide_eq_true_eq, forall_exists_index, and_imp]
  constructor
  · intro h a ha location hat hname
    exact h ⟨a.name, location⟩ a ha hat rfl hname
  · intro h shown a ha hat hname hposition
    exact h a ha shown.location hat (hname.trans hposition)

/-- There is one attribute just if one argument alone has a location. -/
theorem attributes_eq_singleton_iff {arguments : List Argument} {found : Attribute} :
    arguments.filterMap (·.attribute?) = [found] ↔
      ∃ before argument after, arguments = before ++ argument :: after ∧
        (∀ a ∈ before, ∀ l, ¬ a.IsAt l) ∧ (∀ a ∈ after, ∀ l, ¬ a.IsAt l) ∧
          argument.attribute? = some found := by
  rw [List.filterMap_eq_cons_iff]
  simp only [List.filterMap_eq_nil_iff, attribute?_eq_none_iff]
  constructor
  · rintro ⟨before, argument, after, hsplit, hbefore, hfound, hafter⟩
    exact ⟨before, argument, after, hsplit, hbefore, hafter, hfound⟩
  · rintro ⟨before, argument, after, hsplit, hbefore, hafter, hfound⟩
    exact ⟨before, argument, after, hsplit, hbefore, hfound, hafter⟩

/-- The location that linking takes for the positions. -/
def EntryPoint.position? (entry : EntryPoint) : Option Nat :=
  (positionAttribute? (entry.arguments.filterMap (·.attribute?))).map (·.location)

theorem position?_eq_some_iff {entry : EntryPoint} {location : Nat} :
    entry.position? = some location ↔ PositionAt entry.arguments location := by
  unfold EntryPoint.position? positionAttribute?
  cases hnamed : (entry.arguments.filterMap (·.attribute?)).find?
      (fun candidate => candidate.name = some "position") with
  | some found =>
    obtain ⟨argument, hfirst, hfound⟩ := find?_attributes_eq_some_iff.mp hnamed
    have hat := (attribute?_eq_some_iff.mp hfound).1
    constructor
    · intro h
      obtain rfl : found.location = location := by simpa using h
      exact .named hfirst hat
    · intro h
      cases h with
      | named hother hlocation =>
        obtain rfl := hfirst.unique hother
        have hsame : some (Binding.location found.location) = some (.location location) := hat.symm.trans hlocation
        simpa using hsame
      | only _ _ _ _ hnone => exact absurd hfirst.holds.2 (hnone argument hfirst.mem hfirst.holds.1)
  | none =>
    have hnone := find?_attributes_eq_none_iff.mp hnamed
    constructor
    · intro h
      cases hattributes : entry.arguments.filterMap (·.attribute?) with
      | nil => simp [hattributes] at h
      | cons only others =>
        cases others with
        | cons second others => simp [hattributes] at h
        | nil =>
          obtain ⟨before, argument, after, hsplit, hbefore, hafter, hfound⟩ :=
            attributes_eq_singleton_iff.mp hattributes
          obtain rfl : only.location = location := by simpa [hattributes] using h
          exact .only hsplit hbefore hafter (attribute?_eq_some_iff.mp hfound).1 hnone
    · intro h
      cases h with
      | named hfirst hat => exact absurd hfirst.holds.2 (hnone _ hfirst.mem hfirst.holds.1)
      | @only before after argument _ hsplit hbefore hafter hat _ =>
        have hfound : argument.attribute? = some ⟨argument.name, location⟩ :=
          attribute?_eq_some_iff.mpr ⟨hat, rfl⟩
        have hattributes := attributes_eq_singleton_iff.mpr ⟨before, argument, after, hsplit, hbefore, hafter, hfound⟩
        simp [hattributes]

/-! ## The answer -/

/-- What linking is to answer for two stages. A stage without its entry point comes before all else, then the
first input that is not supplied, and then the attribute of the positions. -/
inductive Links (vertex fragment : StageInterface) : Except LinkError Nat → Prop
  | noVertexEntry : vertex.LacksMain .vertex → Links vertex fragment (.error .noVertexEntry)
  | noFragmentEntry {producer : EntryPoint} : vertex.IsMain .vertex producer →
      fragment.LacksMain .fragment → Links vertex fragment (.error .noFragmentEntry)
  | varying {producer consumer : EntryPoint} {outputs inputs : List Varying} {input : Varying}
      {error : LinkError} : vertex.IsMain .vertex producer → fragment.IsMain .fragment consumer →
      producer.Writes outputs → consumer.Reads inputs →
      IsFirst (fun input => ¬ Supplies outputs input) inputs input → Misses outputs input error →
        Links vertex fragment (.error error)
  | noPosition {producer consumer : EntryPoint} {outputs inputs : List Varying} :
      vertex.IsMain .vertex producer → fragment.IsMain .fragment consumer →
      producer.Writes outputs → consumer.Reads inputs → (∀ input ∈ inputs, Supplies outputs input) →
      (∀ location, ¬ PositionAt producer.arguments location) → Links vertex fragment (.error .noPosition)
  | linked {producer consumer : EntryPoint} {outputs inputs : List Varying} {location : Nat} :
      vertex.IsMain .vertex producer → fragment.IsMain .fragment consumer →
      producer.Writes outputs → consumer.Reads inputs → (∀ input ∈ inputs, Supplies outputs input) →
      PositionAt producer.arguments location → Links vertex fragment (.ok location)

section Stages

variable {vertex fragment : StageInterface} {producer consumer : EntryPoint}

theorem matchStages_of_lacksMain (h : vertex.LacksMain .vertex) :
    matchStages vertex fragment = .error .noVertexEntry := by
  unfold matchStages
  rw [main?_eq_none_iff.mpr h]
  rfl

theorem matchStages_of_fragment_lacksMain (hvertex : vertex.IsMain .vertex producer)
    (h : fragment.LacksMain .fragment) : matchStages vertex fragment = .error .noFragmentEntry := by
  unfold matchStages
  rw [main?_eq_some_iff.mpr hvertex, main?_eq_none_iff.mpr h]
  rfl

/-- With both entry points there, the inputs are checked and then the positions are looked for. -/
theorem matchStages_of_isMain (hvertex : vertex.IsMain .vertex producer)
    (hfragment : fragment.IsMain .fragment consumer) :
    matchStages vertex fragment =
      (consumer.inputs.forM (checkInput producer.outputs) >>= fun _ =>
        match producer.position? with
        | some location => .ok location
        | none => .error .noPosition) := by
  unfold matchStages EntryPoint.position?
  rw [main?_eq_some_iff.mpr hvertex, main?_eq_some_iff.mpr hfragment]
  dsimp only
  cases positionAttribute? (producer.arguments.filterMap (·.attribute?)) <;> rfl

theorem matchStages_of_links {answer : Except LinkError Nat} (h : Links vertex fragment answer) :
    matchStages vertex fragment = answer := by
  cases h with
  | noVertexEntry hvertex => exact matchStages_of_lacksMain hvertex
  | noFragmentEntry hvertex hfragment => exact matchStages_of_fragment_lacksMain hvertex hfragment
  | varying hvertex hfragment houtputs hinputs hfirst hmisses =>
    rw [matchStages_of_isMain hvertex hfragment, writes_iff.mp houtputs, reads_iff.mp hinputs,
      forM_checkInput_of_misses hfirst hmisses]
    rfl
  | @noPosition producer consumer _ _ hvertex hfragment houtputs hinputs hsupplied hnone =>
    have hposition : producer.position? = none := by
      apply Option.eq_none_iff_forall_not_mem.mpr
      intro location hlocation
      exact hnone location (position?_eq_some_iff.mp hlocation)
    rw [matchStages_of_isMain hvertex hfragment, writes_iff.mp houtputs, reads_iff.mp hinputs,
      forM_checkInput_of_supplies hsupplied, hposition]
    rfl
  | linked hvertex hfragment houtputs hinputs hsupplied hposition =>
    rw [matchStages_of_isMain hvertex hfragment, writes_iff.mp houtputs, reads_iff.mp hinputs,
      forM_checkInput_of_supplies hsupplied, position?_eq_some_iff.mpr hposition]
    rfl

/-- Some answer is right for any two stages. -/
theorem exists_links (vertex fragment : StageInterface) : ∃ answer, Links vertex fragment answer := by
  cases hvertex : vertex.main? .vertex with
  | none => exact ⟨_, .noVertexEntry (main?_eq_none_iff.mp hvertex)⟩
  | some producer =>
    have hproducer := main?_eq_some_iff.mp hvertex
    cases hfragment : fragment.main? .fragment with
    | none => exact ⟨_, .noFragmentEntry hproducer (main?_eq_none_iff.mp hfragment)⟩
    | some consumer =>
      have hconsumer := main?_eq_some_iff.mp hfragment
      have houtputs : producer.Writes producer.outputs := writes_iff.mpr rfl
      have hinputs : consumer.Reads consumer.inputs := reads_iff.mpr rfl
      by_cases hsupplied : ∀ input ∈ consumer.inputs, Supplies producer.outputs input
      · cases hposition : producer.position? with
        | some location =>
          exact ⟨_, .linked hproducer hconsumer houtputs hinputs hsupplied (position?_eq_some_iff.mp hposition)⟩
        | none =>
          refine ⟨_, .noPosition hproducer hconsumer houtputs hinputs hsupplied ?_⟩
          intro location hlocation
          rw [position?_eq_some_iff.mpr hlocation] at hposition
          cases hposition
      · have hbad : ∃ input ∈ consumer.inputs, ¬ Supplies producer.outputs input := by
          simpa using hsupplied
        obtain ⟨input, hfirst⟩ := exists_isFirst hbad
        obtain ⟨error, hmisses⟩ := (supplies_or_misses producer.outputs input).resolve_left hfirst.holds
        exact ⟨_, .varying hproducer hconsumer houtputs hinputs hfirst hmisses⟩

theorem links_iff {answer : Except LinkError Nat} :
    Links vertex fragment answer ↔ matchStages vertex fragment = answer := by
  constructor
  · exact matchStages_of_links
  · rintro rfl
    obtain ⟨answer, hlinks⟩ := exists_links vertex fragment
    rw [matchStages_of_links hlinks]
    exact hlinks

end Stages

/-! ## Locations that are not repeated -/

/-- Where no location is repeated, supplying an input is writing it. -/
theorem supplies_iff_mem {outputs : List Varying} (hnodup : (outputs.map (·.location)).Nodup)
    {input : Varying} : Supplies outputs input ↔ input ∈ outputs := by
  constructor
  · rintro ⟨output, hfirst, htype⟩
    have hlocation := hfirst.holds
    obtain rfl : output = input := by
      cases output
      cases input
      simp_all
    exact hfirst.mem
  · intro hmem
    obtain ⟨output, hfirst⟩ := exists_isFirst (p := fun output => output.location = input.location) ⟨input, hmem, rfl⟩
    obtain rfl := List.inj_on_of_nodup_map hnodup hfirst.mem hmem hfirst.holds
    exact ⟨output, hfirst, rfl⟩

/-- Linking found nothing wrong with the varyings: if it failed, it did for want of positions. -/
def PassesVaryings (vertex fragment : StageInterface) : Prop :=
  matchStages vertex fragment = .error .noPosition ∨ ∃ location, matchStages vertex fragment = .ok location

theorem passesVaryings_iff {vertex fragment : StageInterface} {producer consumer : EntryPoint}
    {outputs inputs : List Varying} (hvertex : vertex.IsMain .vertex producer)
    (hfragment : fragment.IsMain .fragment consumer) (houtputs : producer.Writes outputs)
    (hinputs : consumer.Reads inputs) :
    PassesVaryings vertex fragment ↔ ∀ input ∈ inputs, Supplies outputs input := by
  have hmatch := matchStages_of_isMain hvertex hfragment
  rw [writes_iff.mp houtputs, reads_iff.mp hinputs] at hmatch
  by_cases hsupplied : ∀ input ∈ inputs, Supplies outputs input
  · rw [forM_checkInput_of_supplies hsupplied] at hmatch
    refine iff_of_true ?_ hsupplied
    cases hposition : producer.position? with
    | some location =>
      rw [hposition] at hmatch
      exact .inr ⟨location, hmatch⟩
    | none =>
      rw [hposition] at hmatch
      exact .inl hmatch
  · have hbad : ∃ input ∈ inputs, ¬ Supplies outputs input := by
      simpa using hsupplied
    obtain ⟨input, hfirst⟩ := exists_isFirst hbad
    obtain ⟨error, hmisses⟩ := (supplies_or_misses outputs input).resolve_left hfirst.holds
    rw [forM_checkInput_of_misses hfirst hmisses] at hmatch
    have herror : matchStages vertex fragment = .error error := hmatch
    refine iff_of_false ?_ hsupplied
    unfold PassesVaryings
    rw [herror]
    cases hmisses <;> simp

/-- What linking two stages comes to. -/
structure LinkContract (vertex fragment : StageInterface) : Prop where
  /-- Of all answers one is right, and it is given. -/
  answer : ∀ answer, Links vertex fragment answer ↔ matchStages vertex fragment = answer
  /-- An error is a fault of the link, with its own message. -/
  fault : link vertex fragment = (matchStages vertex fragment).mapError fun error => ⟨.link, error.message⟩
  /-- If no location is written twice, the varyings pass just if every input is among the outputs. -/
  subset : ∀ producer consumer outputs inputs, vertex.IsMain .vertex producer →
    fragment.IsMain .fragment consumer → producer.Writes outputs → consumer.Reads inputs →
      (outputs.map (·.location)).Nodup → (PassesVaryings vertex fragment ↔ inputs ⊆ outputs)

/-- Linking answers for every two stages as it is to answer. -/
theorem link_contract (vertex fragment : StageInterface) : LinkContract vertex fragment where
  answer := fun _ => links_iff
  fault := rfl
  subset := by
    intro producer consumer outputs inputs hvertex hfragment houtputs hinputs hnodup
    rw [passesVaryings_iff hvertex hfragment houtputs hinputs]
    simp only [supplies_iff_mem hnodup]
    rfl

end FrameTransition.Shader
