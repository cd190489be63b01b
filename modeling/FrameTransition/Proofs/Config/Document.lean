import FrameTransition.Config.Document
import FrameTransition.Proofs.Config.Pairs

/-!
# YAML documents, pair by pair

The reader that the program is run with goes through pairs as documented, for every record without two fields of
one name (`documented_pairs`). A text whose events are a mapping is read as the pairs of that mapping, provided that its
scalars have no tags and that it has no aliases (`read_of_events`).
-/

namespace FrameTransition.Document

open Yaml (Scalar Event)

/-- A scalar without a tag. -/
abbrev Untagged := {scalar : Scalar // scalar.tag = none}

namespace Untagged

/-- The scalar is empty or spells null, and is written plainly. -/
def isNull (scalar : Untagged) : Bool :=
  scalar.1.style = .plain && (scalar.1.text = [] || Document.isNull scalar.1.text)

/-- The number that the scalar is. -/
def number? (scalar : Untagged) : Option Number :=
  if scalar.1.style = .plain then Document.number? scalar.1.text else none

end Untagged

/-- The way of the reader through pairs. -/
def pairs (schema : Schema) : PairReader reader schema where
  Scalar := Untagged
  IsNull scalar := scalar.isNull = true
  number? := Untagged.number?
  text scalar := scalar.1.text
  refusal?
    | .unknownField _ _ => some .unknownField
    | .duplicateField _ => some .duplicateField
    | .invalidType _ => some .invalidType
    | _ => none
  Met := Met
  start := []
  held? met name := met.lookup name
  take met key scalar := add schema met key (.ok scalar.1)

/-! ## Values without tags -/

theorem unfit_untagged (scalar : Untagged) : unfit scalar.1 = .invalidType (.scalar scalar.1.text) := by
  unfold unfit
  rw [scalar.2]
  rfl

theorem isAbsent_untagged (scalar : Untagged) : isAbsent scalar.1 = .ok scalar.isNull := by
  unfold isAbsent Untagged.isNull
  rw [scalar.2]
  by_cases hplain : scalar.1.style = .plain
  · simp [hplain]
  · simp [hplain]

theorem number_untagged (scalar : Untagged) : number scalar.1 =
    match scalar.number? with
    | some x => .ok x
    | none => .error (.invalidType (.scalar scalar.1.text)) := by
  have hplainly : mayBeNumber scalar.1 = decide (scalar.1.style = .plain) := by simp [mayBeNumber, scalar.2]
  unfold number Untagged.number?
  rw [hplainly, unfit_untagged]
  by_cases hplain : scalar.1.style = .plain
  · rw [if_pos hplain, decide_eq_true hplain]
    rfl
  · rw [if_neg hplain, decide_eq_false hplain]
    cases Document.number? scalar.1.text with
    | none | some => rfl

section Values

variable {scalar : Untagged}

theorem value_null (kind : FieldKind) (h : scalar.isNull = true) : value kind scalar.1 = .ok none := by
  unfold value
  rw [isAbsent_untagged, h]
  rfl

theorem value_text (h : ¬ scalar.isNull = true) : value .text scalar.1 = .ok (some (.text scalar.1.text)) := by
  unfold value
  rw [isAbsent_untagged, Bool.eq_false_iff.mpr h]
  rfl

theorem value_number (h : ¬ scalar.isNull = true) :
    value .number scalar.1 = (number scalar.1).map fun x => some (.number x) := by
  unfold value
  rw [isAbsent_untagged, Bool.eq_false_iff.mpr h]
  show (number scalar.1 >>= fun x => pure (some (FieldValue.number x))) = _
  cases number scalar.1 with
  | error | ok => rfl

theorem value_of_number {x : Number} (h : ¬ scalar.isNull = true) (hnumber : scalar.number? = some x) :
    value .number scalar.1 = .ok (some (.number x)) := by
  rw [value_number h, number_untagged, hnumber]
  rfl

theorem value_of_misfit (h : ¬ scalar.isNull = true) (hnumber : scalar.number? = none) :
    value .number scalar.1 = .error (.invalidType (.scalar scalar.1.text)) := by
  rw [value_number h, number_untagged, hnumber]
  rfl

end Values

variable {schema : Schema}

/-! ## Keys -/

/-- The key of a field finds it. -/
theorem find?_key {field : String × FieldKind} (hapart : (schema.fields.map (·.1)).Nodup)
    (hfield : field ∈ schema.fields) :
    (schema.fields.find? fun other => other.1.toList = field.1.toList) = some field := by
  cases hfound : schema.fields.find? fun other => other.1.toList = field.1.toList with
  | none => simpa using List.find?_eq_none.mp hfound field hfield
  | some other =>
    have hname : other.1 = field.1 := String.toList_inj.mp (by simpa using List.find?_some hfound)
    rw [List.inj_on_of_nodup_map hapart (List.mem_of_find?_eq_some hfound) hfield hname]

theorem add_of_unknown {key : List Char} {found : Except DocumentError Scalar} (hclosed : schema.closed = true)
    (met : Met) (h : ∀ field ∈ schema.fields, key ≠ field.1.toList) :
    add schema met key found = .error (.unknownField key (schema.fields.map (·.1))) := by
  have hnone : (schema.fields.find? fun field => field.1.toList = key) = none :=
    List.find?_eq_none.mpr fun field hfield heq => h field hfield (of_decide_eq_true heq).symm
  unfold add
  rw [hnone]
  exact if_pos hclosed

theorem add_of_met {field : String × FieldKind} {met : Met} {found : Except DocumentError Scalar}
    (hapart : (schema.fields.map (·.1)).Nodup) (hfield : field ∈ schema.fields)
    (hmet : (met.lookup field.1).isSome = true) :
    add schema met field.1.toList found = .error (.duplicateField field.1) := by
  unfold add
  rw [find?_key hapart hfield]
  exact if_pos hmet

theorem add_of_new {field : String × FieldKind} {met : Met} (hapart : (schema.fields.map (·.1)).Nodup)
    (hfield : field ∈ schema.fields) (hmet : met.lookup field.1 = none) (scalar : Scalar) :
    add schema met field.1.toList (.ok scalar) = (value field.2 scalar).map fun value => (field.1, value) :: met := by
  unfold add
  rw [find?_key hapart hfield]
  dsimp only
  rw [hmet]
  show (do return (field.1, ← value field.2 scalar) :: met) = _
  cases value field.2 scalar with
  | error | ok => rfl

/-- A value that is there sets its field. -/
theorem sets_of_value {name : String} {kind : FieldKind} {met : Met} {scalar : Untagged}
    {found : Option FieldValue} (hapart : (schema.fields.map (·.1)).Nodup) (hfield : (name, kind) ∈ schema.fields)
    (hmet : met.lookup name = none) (hvalue : value kind scalar.1 = .ok found) :
    (pairs schema).Sets met name found ((pairs schema).take met name.toList scalar) := by
  refine ⟨(name, found) :: met, ?_, List.lookup_cons_self, fun other hother => ?_⟩
  · exact (add_of_new hapart hfield hmet scalar.1).trans (by rw [hvalue]; rfl)
  · show List.lookup other ((name, found) :: met) = _
    rw [List.lookup_cons, beq_false_of_ne hother]
    rfl

/-- The reader does with a pair what is documented. -/
theorem documented_pairs (hapart : (schema.fields.map (·.1)).Nodup) : (pairs schema).Documented where
  held_start _ := rfl
  unknown hclosed met _ _ h := ⟨_, add_of_unknown hclosed met h, rfl⟩
  repeated _ _ hfield hmet _ := ⟨_, add_of_met hapart hfield hmet, rfl⟩
  null _ _ hfield hmet _ hnull := sets_of_value hapart hfield hmet (value_null _ hnull)
  number _ _ hfield hmet _ _ hnull hnumber := sets_of_value hapart hfield hmet (value_of_number hnull hnumber)
  misfit _ _ hfield hmet _ hnull hnumber :=
    ⟨_, (add_of_new hapart hfield hmet _).trans (congrArg _ (value_of_misfit hnull hnumber)), rfl⟩
  text _ _ hfield hmet _ hnull := sets_of_value hapart hfield hmet (value_text hnull)

/-! ## Events of a mapping -/

/-- The events of pairs, the keys written plainly. -/
def eventsOf (entries : List (List Char × Untagged)) : List Event :=
  entries.flatMap fun pair => [.scalar ⟨none, none, pair.1, .plain⟩, .scalar pair.2.1]

/-- The event is part of a node, and stands for itself. -/
def IsOwn : Event → Prop
  | .documentStart | .documentEnd | .alias _ => False
  | _ => True

theorem isOwn_of_mem_eventsOf {entries : List (List Char × Untagged)} {event : Event}
    (h : event ∈ Event.mappingStart none none :: (eventsOf entries ++ [.mappingEnd])) : IsOwn event := by
  simp only [eventsOf, List.mem_append, List.mem_cons, List.mem_flatMap, List.not_mem_nil, or_false] at h
  rcases h with rfl | ⟨pair, -, rfl | rfl⟩ | rfl <;> exact trivial

theorem firstDocument_of_own {events : List Event} (h : ∀ event ∈ events, IsOwn event) (rest : List Event) :
    firstDocument (events ++ .documentEnd :: rest) = (events, some rest) := by
  induction events with
  | nil => rfl
  | cons event events ih =>
    have hrest := ih fun other hother => h other (List.mem_cons_of_mem _ hother)
    have hown := h event List.mem_cons_self
    rw [List.cons_append, firstDocument, hrest]
    · rintro rfl
      exact hown
    · rintro rfl
      exact hown

theorem resolve_of_own {events : List Event} (h : ∀ event ∈ events, IsOwn event) (anchors : Anchors)
    (targets : List (Nat × Event)) :
    ∃ found, resolve anchors targets events = (events.map .plain, found, true) := by
  induction events generalizing anchors targets with
  | nil => exact ⟨targets, rfl⟩
  | cons event events ih =>
    have hown := h event List.mem_cons_self
    have hrest := ih fun other hother => h other (List.mem_cons_of_mem _ hother)
    rw [resolve]
    · cases anchor? event with
      | none =>
        obtain ⟨found, hfound⟩ := hrest anchors targets
        exact ⟨found, by simp only [hfound, List.map_cons]⟩
      | some name =>
        obtain ⟨found, hfound⟩ := hrest (anchors.add name) ((anchors.names, event) :: targets)
        exact ⟨found, by simp only [hfound, List.map_cons]⟩
    · rintro name rfl
      exact hown

/-- The entries of a mapping are read as the pairs they are. -/
theorem entries_eventsOf (targets : List (Nat × Event)) (entries : List (List Char × Untagged)) (met : Met) :
    Document.entries schema targets met ((eventsOf entries ++ [Event.mappingEnd]).map Step.plain) =
      (entries.foldlM (fun met pair => add schema met pair.1 (.ok pair.2.1)) met).map fun met => (met, []) := by
  induction entries generalizing met with
  | nil => rfl
  | cons pair entries ih =>
    rw [List.foldlM_cons]
    show (do
      let met ← add schema met pair.1 (.ok pair.2.1)
      Document.entries schema targets met ((eventsOf entries ++ [Event.mappingEnd]).map Step.plain)) = _
    cases add schema met pair.1 (.ok pair.2.1) with
    | error => rfl
    | ok after => exact ih after

/-- The events of a text that is a mapping. -/
def mappingEvents (entries : List (List Char × Untagged)) : List Event :=
  .documentStart :: (.mappingStart none none :: (eventsOf entries ++ [.mappingEnd]) ++ [.documentEnd])

theorem fieldsOf_mappingEvents (entries : List (List Char × Untagged)) :
    fieldsOf schema (mappingEvents entries) true =
      entries.foldlM (fun met pair => add schema met pair.1 (.ok pair.2.1)) [] := by
  let node : List Event := .mappingStart none none :: (eventsOf entries ++ [.mappingEnd])
  have hown : ∀ event ∈ node, IsOwn event := fun _ => isOwn_of_mem_eventsOf
  have hdocument : firstDocument (mappingEvents entries) = (node, some []) := firstDocument_of_own hown []
  obtain ⟨targets, hresolve⟩ := resolve_of_own hown ⟨[], 0⟩ []
  unfold fieldsOf
  rw [if_neg (fun h => List.cons_ne_nil _ _ h.1), hdocument]
  dsimp only
  rw [hresolve]
  show (Document.entries schema targets [] ((eventsOf entries ++ [Event.mappingEnd]).map Step.plain) >>=
    fun read => _) = _
  rw [entries_eventsOf]
  cases entries.foldlM (fun met pair => add schema met pair.1 (.ok pair.2.1)) [] with
  | error | ok => rfl

/-- A text with the events of a mapping is read as its pairs. -/
theorem read_of_events {text : List Char} {entries : List (List Char × Untagged)}
    (h : Event.ofChars text = (mappingEvents entries, true)) :
    reader.read schema text = (pairs schema).read entries := by
  show (fields schema text).map recordOf = ((pairs schema).run entries).map _
  unfold fields
  rw [h]
  exact congrArg (Except.map recordOf) (fieldsOf_mappingEvents entries)

end FrameTransition.Document
