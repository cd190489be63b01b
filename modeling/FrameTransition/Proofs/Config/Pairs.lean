import FrameTransition.Config.Record
import Mathlib.Data.List.Induction
import Mathlib.Data.List.Nodup

/-!
# Records that are read pair by pair

What reads a mapping as a record goes through its pairs, each a key with a scalar, up to the first that it refuses.
A `PairReader` is such a way to go. What one step of it does is documented, and is all that is assumed here
(`Documented`): it looks at the key before the scalar, and at what it holds of a field before it takes a value.

The rest is about whole sequences. Why a pair is refused depends on the keys in front of it, and on nothing else
(`Offends`). What is held after some pairs is what these give (`Holds`), which each pair that is taken preserves. A
run ends in the refusal of the first pair that offends (`refuses_run_iff`), and takes all pairs if there is none.
Whether there is one does not depend on their order (`unoffended_iff`).
-/

namespace FrameTransition

/-- The kinds of refusals of a pair. -/
inductive Refusal where
  | unknownField
  | duplicateField
  | invalidType
  deriving DecidableEq

/-- A way through the pairs of a mapping, whose scalars have no tags. -/
structure PairReader (reader : RecordReader) (schema : Schema) where
  Scalar : Type
  IsNull : Scalar → Prop
  /-- The number that a scalar is, if it is one and plainly written. -/
  number? : Scalar → Option Number
  text : Scalar → List Char
  refusal? : reader.Fault → Option Refusal
  /-- What was met so far. -/
  Met : Type
  start : Met
  /-- What is held of a field: nothing before it was met, and then its value, which may be none. -/
  held? : Met → String → Option (Option FieldValue)
  take : Met → List Char → Scalar → Except reader.Fault Met

namespace PairReader

variable {reader : RecordReader} {schema : Schema} (pairs : PairReader reader schema)

/-- A key with its scalar. -/
abbrev Pair := List Char × pairs.Scalar

/-- A step ends in a refusal. -/
def Refuses {α : Type} (result : Except reader.Fault α) (refusal : Refusal) : Prop :=
  ∃ fault, result = .error fault ∧ pairs.refusal? fault = some refusal

/-- A step sets a field and leaves the others as they are. -/
def Sets (met : pairs.Met) (name : String) (value : Option FieldValue) (result : Except reader.Fault pairs.Met) :
    Prop :=
  ∃ after, result = .ok after ∧ pairs.held? after name = some value ∧
    ∀ other ≠ name, pairs.held? after other = pairs.held? met other

/-- What is documented of one step. -/
structure Documented : Prop where
  held_start : ∀ name, pairs.held? pairs.start name = none
  /-- A key that is no field's is refused where the record is closed, -/
  unknown : schema.closed = true → ∀ met key scalar, (∀ field ∈ schema.fields, key ≠ field.1.toList) →
    pairs.Refuses (pairs.take met key scalar) .unknownField
  /-- and so is one whose field was met. -/
  repeated : ∀ met, ∀ field ∈ schema.fields, (pairs.held? met field.1).isSome = true → ∀ scalar,
    pairs.Refuses (pairs.take met field.1.toList scalar) .duplicateField
  /-- A field that was not met is set to no value by null, -/
  null : ∀ met, ∀ field ∈ schema.fields, pairs.held? met field.1 = none → ∀ scalar, pairs.IsNull scalar →
    pairs.Sets met field.1 none (pairs.take met field.1.toList scalar)
  /-- a number to a scalar that is one, -/
  number : ∀ met name, (name, .number) ∈ schema.fields → pairs.held? met name = none →
    ∀ scalar x, ¬ pairs.IsNull scalar → pairs.number? scalar = some x →
      pairs.Sets met name (some (.number x)) (pairs.take met name.toList scalar)
  misfit : ∀ met name, (name, .number) ∈ schema.fields → pairs.held? met name = none →
    ∀ scalar, ¬ pairs.IsNull scalar → pairs.number? scalar = none →
      pairs.Refuses (pairs.take met name.toList scalar) .invalidType
  /-- and a text to any scalar, as it is written. -/
  text : ∀ met name, (name, .text) ∈ schema.fields → pairs.held? met name = none →
    ∀ scalar, ¬ pairs.IsNull scalar →
      pairs.Sets met name (some (.text (pairs.text scalar))) (pairs.take met name.toList scalar)

/-- Goes through pairs, one after the other. -/
def run (entries : List pairs.Pair) : Except reader.Fault pairs.Met :=
  entries.foldlM (fun met pair => pairs.take met pair.1 pair.2) pairs.start

/-- The record that pairs make. A field that is not met is missing. -/
def read (entries : List pairs.Pair) : Except reader.Fault Record :=
  (pairs.run entries).map fun met name => (pairs.held? met name).join

/-! ## Pairs that are refused -/

/-- Why a pair is refused after those in front of it. A field that was set to null was met. -/
inductive Offends (before : List pairs.Pair) : pairs.Pair → Refusal → Prop
  | unknown {key : List Char} {scalar : pairs.Scalar} (h : ∀ field ∈ schema.fields, key ≠ field.1.toList) :
      Offends before (key, scalar) .unknownField
  | repeated {field : String × FieldKind} {earlier : pairs.Pair} {scalar : pairs.Scalar}
      (hfield : field ∈ schema.fields) (hmem : earlier ∈ before) (h : earlier.1 = field.1.toList) :
      Offends before (field.1.toList, scalar) .duplicateField
  | misfit {name : String} {scalar : pairs.Scalar} (hfield : (name, .number) ∈ schema.fields)
      (hnew : ∀ earlier ∈ before, earlier.1 ≠ name.toList) (hnull : ¬ pairs.IsNull scalar)
      (h : pairs.number? scalar = none) : Offends before (name.toList, scalar) .invalidType

/-- No pair is refused after those in front of it. -/
def Unoffended (entries : List pairs.Pair) : Prop :=
  ∀ before pair after refusal, entries = before ++ pair :: after → ¬ pairs.Offends before pair refusal

/-- A pair is refused after those in front of it, and it is the first. -/
def FirstOffends (entries : List pairs.Pair) (refusal : Refusal) : Prop :=
  ∃ before pair after, entries = before ++ pair :: after ∧ pairs.Unoffended before ∧
    pairs.Offends before pair refusal

/-- The key of a pair is a field's, and where that holds a number the scalar is null or one. -/
def Fits (pair : pairs.Pair) : Prop :=
  ∃ field ∈ schema.fields, pair.1 = field.1.toList ∧
    (field.2 = .number → pairs.IsNull pair.2 ∨ ∃ x, pairs.number? pair.2 = some x)

/-- What a scalar sets a field to. -/
inductive Gives : FieldKind → pairs.Scalar → Option FieldValue → Prop
  | null {kind : FieldKind} {scalar : pairs.Scalar} (h : pairs.IsNull scalar) : Gives kind scalar none
  | number {scalar : pairs.Scalar} {x : Number} (hnull : ¬ pairs.IsNull scalar)
      (h : pairs.number? scalar = some x) : Gives .number scalar (some (.number x))
  | text {scalar : pairs.Scalar} (hnull : ¬ pairs.IsNull scalar) :
      Gives .text scalar (some (.text (pairs.text scalar)))

/-- What is held of the fields is what some pairs give. -/
def Holds (before : List pairs.Pair) (met : pairs.Met) : Prop :=
  ∀ field ∈ schema.fields,
    match pairs.held? met field.1 with
    | none => ∀ earlier ∈ before, earlier.1 ≠ field.1.toList
    | some value => ∃ earlier ∈ before, earlier.1 = field.1.toList ∧ pairs.Gives field.2 earlier.2 value

/-- A record that refuses other keys, and has no two fields of one name. -/
structure IsStrict (schema : Schema) : Prop where
  closed : schema.closed = true
  apart : (schema.fields.map (·.1)).Nodup

variable {pairs} {before after entries others : List pairs.Pair} {pair : pairs.Pair} {refusal : Refusal}
  {met : pairs.Met} {field other : String × FieldKind}

theorem IsStrict.eq_of_key (h : IsStrict schema) (hfield : field ∈ schema.fields) (hother : other ∈ schema.fields)
    (hkey : field.1.toList = other.1.toList) : field = other :=
  List.inj_on_of_nodup_map h.apart hfield hother (String.toList_inj.mp hkey)

theorem Refuses.unique {α : Type} {result : Except reader.Fault α} {refusal' : Refusal}
    (h : pairs.Refuses result refusal) (h' : pairs.Refuses result refusal') : refusal = refusal' := by
  obtain ⟨fault, rfl, hrefusal⟩ := h
  obtain ⟨fault', heq, hrefusal'⟩ := h'
  cases heq
  exact Option.some.inj (hrefusal.symm.trans hrefusal')

theorem unoffended_nil : pairs.Unoffended [] := by
  intro before pair after refusal heq
  simp at heq

theorem unoffended_snoc_iff : pairs.Unoffended (before ++ [pair]) ↔
    pairs.Unoffended before ∧ ∀ refusal, ¬ pairs.Offends before pair refusal := by
  constructor
  · intro h
    constructor
    · intro front one rest refusal heq
      exact h front one (rest ++ [pair]) refusal (by simp [heq])
    · exact fun refusal => h before pair [] refusal rfl
  · rintro ⟨hbefore, hpair⟩ front one rest refusal heq
    rcases List.eq_nil_or_concat rest with rfl | ⟨rest, last, rfl⟩
    · obtain ⟨rfl, hone⟩ := List.append_inj' heq rfl
      cases hone
      exact hpair refusal
    · rw [List.concat_eq_append, ← List.cons_append, ← List.append_assoc] at heq
      exact hbefore front one rest refusal (List.append_inj' heq rfl).1

/-- A pair is not refused if its key is a field's and new and its scalar fits. -/
theorem not_offends_iff (h : IsStrict schema) : (∀ refusal, ¬ pairs.Offends before pair refusal) ↔
    pairs.Fits pair ∧ ∀ earlier ∈ before, earlier.1 ≠ pair.1 := by
  obtain ⟨key, scalar⟩ := pair
  constructor
  · intro hnone
    by_cases hknown : ∃ field ∈ schema.fields, key = field.1.toList
    · obtain ⟨⟨name, kind⟩, hfield, rfl⟩ := hknown
      have hnew : ∀ earlier ∈ before, earlier.1 ≠ name.toList :=
        fun earlier hmem hkey => hnone _ (.repeated hfield hmem hkey)
      refine ⟨⟨_, hfield, rfl, ?_⟩, hnew⟩
      rintro rfl
      by_contra hfits
      obtain ⟨hnull, hnumber⟩ := not_or.mp hfits
      exact hnone _ (.misfit hfield hnew hnull (Option.eq_none_iff_forall_ne_some.mpr (not_exists.mp hnumber)))
    · exact absurd (.unknown fun field hfield hkey => hknown ⟨field, hfield, hkey⟩) (hnone .unknownField)
  · rintro ⟨⟨field, hfield, hkey, hfits⟩, hnew⟩ refusal hoffends
    cases hoffends with
    | unknown hunknown => exact hunknown field hfield hkey
    | repeated _ hmem hearlier => exact hnew _ hmem hearlier
    | misfit hother _ hnull hnumber =>
      obtain rfl := h.eq_of_key hother hfield hkey
      rcases hfits rfl with hvoid | ⟨x, hx⟩
      · exact hnull hvoid
      · cases hnumber.symm.trans hx

theorem Offends.unique {refusal' : Refusal} (h : pairs.Offends before pair refusal)
    (h' : pairs.Offends before pair refusal') : refusal = refusal' := by
  obtain ⟨key, scalar⟩ := pair
  generalize hpair : (key, scalar) = pair at h'
  cases h with
  | unknown hunknown =>
    cases h' with
    | unknown => rfl
    | repeated hfield | misfit hfield =>
      cases hpair
      exact absurd rfl (hunknown _ hfield)
  | repeated hfield hmem hearlier =>
    cases h' with
    | unknown hunknown =>
      cases hpair
      exact absurd rfl (hunknown _ hfield)
    | repeated => rfl
    | misfit _ hnew =>
      exact absurd (hearlier.trans (congrArg Prod.fst hpair)) (hnew _ hmem)
  | misfit hfield hnew =>
    cases h' with
    | unknown hunknown =>
      cases hpair
      exact absurd rfl (hunknown _ hfield)
    | repeated _ hmem hearlier => exact absurd (hearlier.trans (congrArg Prod.fst hpair).symm) (hnew _ hmem)
    | misfit => rfl

/-- Whether any pair is refused can be seen without their order. -/
theorem unoffended_iff (h : IsStrict schema) :
    pairs.Unoffended entries ↔ (∀ pair ∈ entries, pairs.Fits pair) ∧ (entries.map (·.1)).Nodup := by
  induction entries using List.reverseRecOn with
  | nil => exact iff_of_true unoffended_nil ⟨nofun, List.nodup_nil⟩
  | append_singleton before pair ih =>
    rw [unoffended_snoc_iff, ih, not_offends_iff h, List.map_append, List.nodup_append]
    simp only [List.mem_append, List.mem_singleton, List.map_cons, List.map_nil]
    constructor
    · rintro ⟨⟨hfits, honce⟩, hpair, hnew⟩
      refine ⟨?_, honce, List.nodup_singleton _, by simpa using hnew⟩
      rintro one (hmem | rfl)
      · exact hfits one hmem
      · exact hpair
    · rintro ⟨hfits, honce, -, hnew⟩
      exact ⟨⟨fun one hmem => hfits one (.inl hmem), honce⟩, hfits pair (.inr rfl), by simpa using hnew⟩

theorem Gives.unique {kind : FieldKind} {scalar : pairs.Scalar} {value value' : Option FieldValue}
    (h : pairs.Gives kind scalar value) (h' : pairs.Gives kind scalar value') : value = value' := by
  cases h with
  | null hnull =>
    cases h' with
    | null => rfl
    | number hvalue | text hvalue => exact absurd hnull hvalue
  | number hvalue hnumber =>
    cases h' with
    | null hnull => exact absurd hnull hvalue
    | number _ hother => rw [Option.some.inj (hnumber.symm.trans hother)]
  | text hvalue =>
    cases h' with
    | null hnull => exact absurd hnull hvalue
    | text => rfl

/-! ## One pair -/

theorem holds_start (h : pairs.Documented) : pairs.Holds [] pairs.start := by
  intro field hfield
  rw [h.held_start]
  exact nofun

/-- A field is held if and only if it was met. -/
theorem Holds.isSome_iff (h : pairs.Holds before met) (hfield : field ∈ schema.fields) :
    (pairs.held? met field.1).isSome = true ↔ ∃ earlier ∈ before, earlier.1 = field.1.toList := by
  have hheld := h field hfield
  cases hvalue : pairs.held? met field.1 with
  | none =>
    rw [hvalue] at hheld
    exact iff_of_false nofun fun ⟨earlier, hmem, hkey⟩ => hheld earlier hmem hkey
  | some value =>
    rw [hvalue] at hheld
    obtain ⟨earlier, hmem, hkey, -⟩ := hheld
    exact iff_of_true rfl ⟨earlier, hmem, hkey⟩

/-- A pair that sets its field to what it gives is one that is held. -/
theorem Holds.set {name : String} {kind : FieldKind} {scalar : pairs.Scalar} {value : Option FieldValue}
    {result : Except reader.Fault pairs.Met} (h : pairs.Holds before met) (hstrict : IsStrict schema)
    (hfield : (name, kind) ∈ schema.fields) (hgives : pairs.Gives kind scalar value)
    (hsets : pairs.Sets met name value result) :
    ∃ after, result = .ok after ∧ pairs.Holds (before ++ [(name.toList, scalar)]) after := by
  obtain ⟨after, hresult, hself, hothers⟩ := hsets
  refine ⟨after, hresult, fun other hother => ?_⟩
  by_cases hname : other.1 = name
  · obtain rfl : other = (name, kind) := hstrict.eq_of_key hother hfield (congrArg String.toList hname)
    rw [hself]
    exact ⟨_, List.mem_append_right _ (List.mem_singleton_self _), rfl, hgives⟩
  · have hheld := h other hother
    rw [hothers _ hname]
    cases hvalue : pairs.held? met other.1 with
    | none =>
      rw [hvalue] at hheld
      intro one hone hkey
      rcases List.mem_append.mp hone with hmem | hmem
      · exact hheld one hmem hkey
      · rw [List.mem_singleton.mp hmem] at hkey
        exact hname (String.toList_inj.mp hkey).symm
    | some held =>
      rw [hvalue] at hheld
      obtain ⟨one, hmem, hgiven⟩ := hheld
      exact ⟨one, List.mem_append_left _ hmem, hgiven⟩

/-- Where no key is repeated, a field has the value that its pair gives. -/
theorem Holds.join_eq_some_iff {name : String} {kind : FieldKind} {value : FieldValue}
    (h : pairs.Holds before met) (honce : (before.map (·.1)).Nodup) (hfield : (name, kind) ∈ schema.fields) :
    (pairs.held? met name).join = some value ↔
      ∃ pair ∈ before, pair.1 = name.toList ∧ pairs.Gives kind pair.2 (some value) := by
  have hheld := h (name, kind) hfield
  rw [Option.join_eq_some_iff]
  cases hmet : pairs.held? met name with
  | none =>
    rw [hmet] at hheld
    exact iff_of_false nofun fun ⟨pair, hmem, hkey, _⟩ => hheld pair hmem hkey
  | some found =>
    rw [hmet] at hheld
    obtain ⟨earlier, hearlier, hname, hgives⟩ := hheld
    constructor
    · intro hvalue
      rw [Option.some.inj hvalue] at hgives
      exact ⟨earlier, hearlier, hname, hgives⟩
    · rintro ⟨pair, hmem, hkey, hgiven⟩
      obtain rfl := List.inj_on_of_nodup_map honce hmem hearlier (hkey.trans hname.symm)
      rw [hgives.unique hgiven]

/-- What becomes of a pair: it is refused, or taken. -/
theorem Holds.take_cases (h : pairs.Holds before met) (hpairs : pairs.Documented) (hstrict : IsStrict schema)
    (pair : pairs.Pair) :
    (∃ refusal, pairs.Offends before pair refusal ∧ pairs.Refuses (pairs.take met pair.1 pair.2) refusal) ∨
      (∀ refusal, ¬ pairs.Offends before pair refusal) ∧
        ∃ after, pairs.take met pair.1 pair.2 = .ok after ∧ pairs.Holds (before ++ [pair]) after := by
  obtain ⟨key, scalar⟩ := pair
  by_cases hknown : ∃ field ∈ schema.fields, key = field.1.toList
  case neg =>
    have hunknown : ∀ field ∈ schema.fields, key ≠ field.1.toList :=
      fun field hfield hkey => hknown ⟨field, hfield, hkey⟩
    exact .inl ⟨_, .unknown hunknown, hpairs.unknown hstrict.closed met key scalar hunknown⟩
  obtain ⟨⟨name, kind⟩, hfield, rfl⟩ := hknown
  by_cases hmet : ∃ earlier ∈ before, earlier.1 = name.toList
  case pos =>
    have hheld := (h.isSome_iff hfield).mpr hmet
    obtain ⟨earlier, hmem, hkey⟩ := hmet
    exact .inl ⟨_, .repeated hfield hmem hkey, hpairs.repeated met _ hfield hheld scalar⟩
  have hnew : ∀ earlier ∈ before, earlier.1 ≠ name.toList := fun earlier hmem hkey => hmet ⟨earlier, hmem, hkey⟩
  have hheld : pairs.held? met name = none := by
    rw [← Option.not_isSome_iff_eq_none, h.isSome_iff hfield]
    exact hmet
  by_cases hnull : pairs.IsNull scalar
  case pos =>
    refine .inr ⟨(not_offends_iff hstrict).mpr ⟨⟨_, hfield, rfl, fun _ => .inl hnull⟩, hnew⟩, ?_⟩
    exact h.set hstrict hfield (.null hnull) (hpairs.null met _ hfield hheld scalar hnull)
  cases kind with
  | text =>
    refine .inr ⟨(not_offends_iff hstrict).mpr ⟨⟨_, hfield, rfl, nofun⟩, hnew⟩, ?_⟩
    exact h.set hstrict hfield (.text hnull) (hpairs.text met name hfield hheld scalar hnull)
  | number =>
    cases hnumber : pairs.number? scalar with
    | none =>
      exact .inl ⟨_, .misfit hfield hnew hnull hnumber, hpairs.misfit met name hfield hheld scalar hnull hnumber⟩
    | some x =>
      refine .inr ⟨(not_offends_iff hstrict).mpr ⟨⟨_, hfield, rfl, fun _ => .inr ⟨x, hnumber⟩⟩, hnew⟩, ?_⟩
      exact h.set hstrict hfield (.number hnull hnumber)
        (hpairs.number met name hfield hheld scalar x hnull hnumber)

/-! ## All pairs -/

theorem run_snoc (before : List pairs.Pair) (pair : pairs.Pair) :
    pairs.run (before ++ [pair]) = pairs.run before >>= fun met => pairs.take met pair.1 pair.2 := by
  unfold run
  rw [List.foldlM_append]
  simp only [List.foldlM_cons, List.foldlM_nil, bind_pure]

theorem Refuses.bind {α β : Type} {result : Except reader.Fault α} (h : pairs.Refuses result refusal)
    (next : α → Except reader.Fault β) : pairs.Refuses (result >>= next) refusal := by
  obtain ⟨fault, rfl, hrefusal⟩ := h
  exact ⟨fault, rfl, hrefusal⟩

theorem refuses_map_iff {α β : Type} {result : Except reader.Fault α} {f : α → β} :
    pairs.Refuses (result.map f) refusal ↔ pairs.Refuses result refusal := by
  cases result with
  | error | ok => simp [Refuses, Except.map]

/-- What a run comes to: the refusal of the first pair that offends, or what all the pairs give. -/
theorem run_cases (hpairs : pairs.Documented) (hstrict : IsStrict schema) (entries : List pairs.Pair) :
    (∃ refusal, pairs.FirstOffends entries refusal ∧ pairs.Refuses (pairs.run entries) refusal) ∨
      pairs.Unoffended entries ∧ ∃ met, pairs.run entries = .ok met ∧ pairs.Holds entries met := by
  induction entries using List.reverseRecOn with
  | nil => exact .inr ⟨unoffended_nil, pairs.start, rfl, holds_start hpairs⟩
  | append_singleton before pair ih =>
    rw [run_snoc]
    rcases ih with ⟨refusal, ⟨front, one, rest, rfl, hfront, hone⟩, hrefuses⟩ | ⟨hbefore, met, hrun, hholds⟩
    · exact .inl ⟨refusal, ⟨front, one, rest ++ [pair], by simp, hfront, hone⟩, hrefuses.bind _⟩
    · rw [hrun]
      rcases hholds.take_cases hpairs hstrict pair with ⟨refusal, hoffends, hrefuses⟩ | ⟨hnone, hafter⟩
      · exact .inl ⟨refusal, ⟨before, pair, [], rfl, hbefore, hoffends⟩, hrefuses⟩
      · exact .inr ⟨unoffended_snoc_iff.mpr ⟨hbefore, hnone⟩, hafter⟩

theorem FirstOffends.unique {refusal' : Refusal} (h : pairs.FirstOffends entries refusal)
    (h' : pairs.FirstOffends entries refusal') : refusal = refusal' := by
  obtain ⟨before, pair, rest, rfl, hbefore, hoffends⟩ := h
  obtain ⟨before', pair', rest', heq, hbefore', hoffends'⟩ := h'
  rcases List.append_eq_append_iff.mp heq with ⟨more, rfl, hmore⟩ | ⟨more, rfl, hmore⟩
  · cases more with
    | nil =>
      cases hmore
      rw [List.append_nil] at hoffends'
      exact hoffends.unique hoffends'
    | cons one more =>
      cases hmore
      exact absurd hoffends (hbefore' _ _ _ _ rfl)
  · cases more with
    | nil =>
      cases hmore
      rw [List.append_nil] at hoffends
      exact hoffends.unique hoffends'
    | cons one more =>
      cases hmore
      exact absurd hoffends' (hbefore _ _ _ _ rfl)

/-- A run ends in the refusal of the first pair that offends. -/
theorem refuses_run_iff (hpairs : pairs.Documented) (hstrict : IsStrict schema) :
    pairs.Refuses (pairs.run entries) refusal ↔ pairs.FirstOffends entries refusal := by
  rcases run_cases hpairs hstrict entries with ⟨found, hfirst, hrefuses⟩ | ⟨hnone, met, hrun, -⟩
  · constructor
    · intro h
      exact h.unique hrefuses ▸ hfirst
    · intro h
      exact h.unique hfirst ▸ hrefuses
  · refine iff_of_false ?_ ?_
    · rintro ⟨fault, herror, -⟩
      cases hrun.symm.trans herror
    · rintro ⟨before, pair, rest, heq, -, hoffends⟩
      exact hnone before pair rest refusal heq hoffends

end PairReader

end FrameTransition
