import FrameTransition.Config.Load
import FrameTransition.Proofs.Config.Document

/-!
# Parameters from records

`Tells` is what a record says of the parameters, each of its fields on its own.

`ParseContract` is what a user can rely on who writes parameters as a mapping. The format is that of any reader that
goes through the pairs as documented. `parse_of_pairs` then needs the text only for the pairs that the reader finds in
it. What is wrong with a mapping is told from its keys and scalars alone, so neither the reader's way through them nor
its words for a refusal are a part of it.

Nothing is said of scalars with tags, or of what a reader finds in a text.
-/

namespace FrameTransition

namespace FieldValue

variable {value : FieldValue}

theorem number?_eq_some_iff {x : Number} : value.number? = some x ↔ value = .number x := by
  cases value with
  | number | text => simp [number?]

theorem text?_eq_some_iff {text : List Char} : value.text? = some text ↔ value = .text text := by
  cases value with
  | number | text => simp [text?]

end FieldValue

namespace Parameters

/-! ## Records of parameters -/

theorem eq_of_some_iff {parameters other : Parameters}
    (hduration : ∀ x, parameters.duration = some x ↔ other.duration = some x)
    (hoffset : ∀ x, parameters.offset = some x ↔ other.offset = some x)
    (hsource : ∀ path, parameters.source = some path ↔ other.source = some path) : parameters = other := by
  obtain ⟨duration, offset, source⟩ := parameters
  obtain ⟨duration', offset', source'⟩ := other
  rw [mk.injEq]
  exact ⟨Option.ext hduration, Option.ext hoffset, Option.ext hsource⟩

/-- What a record says of the parameters. -/
structure Tells (record : Record) (parameters : Parameters) : Prop where
  duration_iff : ∀ x, parameters.duration = some x ↔ record "duration" = some (.number x)
  offset_iff : ∀ x, parameters.offset = some x ↔ record "offset" = some (.number x)
  source_iff : ∀ path, parameters.source = some path ↔ record "source" = some (.text path.text)

theorem tells_ofRecord (record : Record) : Tells record (ofRecord record) where
  duration_iff x := by simp [ofRecord, Option.bind_eq_some_iff, FieldValue.number?_eq_some_iff]
  offset_iff x := by simp [ofRecord, Option.bind_eq_some_iff, FieldValue.number?_eq_some_iff]
  source_iff path := by
    obtain ⟨text⟩ := path
    simp [ofRecord, Option.bind_eq_some_iff, FieldValue.text?_eq_some_iff]

/-- The parameters of a record are those it tells. -/
theorem tells_iff {record : Record} {parameters : Parameters} :
    Tells record parameters ↔ ofRecord record = parameters := by
  constructor
  · intro h
    have htells := tells_ofRecord record
    exact eq_of_some_iff (fun x => (htells.duration_iff x).trans (h.duration_iff x).symm)
      (fun x => (htells.offset_iff x).trans (h.offset_iff x).symm)
      (fun path => (htells.source_iff path).trans (h.source_iff path).symm)
  · rintro rfl
    exact tells_ofRecord record

/-! ## Mappings of parameters -/

/-- The keys that hold times. -/
def timeKeys : List (List Char) := ["duration".toList, "offset".toList]

/-- The keys of parameters. -/
def keys : List (List Char) := timeKeys ++ ["source".toList]

variable {reader : RecordReader} (pairs : PairReader reader schema)

/-- The scalar is null or a number. -/
def IsTime (scalar : pairs.Scalar) : Prop :=
  pairs.IsNull scalar ∨ ∃ x, pairs.number? scalar = some x

/-- The pairs make parameters. -/
structure Acceptable (entries : List pairs.Pair) : Prop where
  known : ∀ pair ∈ entries, pair.1 ∈ keys
  once : (entries.map (·.1)).Nodup
  times : ∀ pair ∈ entries, pair.1 ∈ timeKeys → IsTime pairs pair.2

/-- The key of a pair is refused after those in front of it, whatever its scalar is. One with null counts as
there. -/
inductive WrongKey (before : List pairs.Pair) (key : List Char) : Refusal → Prop
  | unknown (h : key ∉ keys) : WrongKey before key .unknownField
  | repeated (h : key ∈ keys) (hbefore : key ∈ before.map (·.1)) : WrongKey before key .duplicateField

/-- What is wrong with a pair after those in front of it. -/
inductive Wrong (before : List pairs.Pair) (pair : pairs.Pair) : Refusal → Prop
  | key {refusal : Refusal} (h : WrongKey pairs before pair.1 refusal) : Wrong before pair refusal
  | time (htime : pair.1 ∈ timeKeys) (hnew : pair.1 ∉ before.map (·.1)) (h : ¬ IsTime pairs pair.2) :
      Wrong before pair .invalidType

/-- What is wrong with the first pair with which something is. -/
def FirstWrong (entries : List pairs.Pair) (refusal : Refusal) : Prop :=
  ∃ before pair after, entries = before ++ pair :: after ∧ Acceptable pairs before ∧
    Wrong pairs before pair refusal

/-- The pairs give parameters: a key with null gives nothing, as one that is not there. -/
structure Given (entries : List pairs.Pair) (parameters : Parameters) : Prop where
  duration_iff : ∀ x, parameters.duration = some x ↔
    ∃ pair ∈ entries, pair.1 = "duration".toList ∧ ¬ pairs.IsNull pair.2 ∧ pairs.number? pair.2 = some x
  offset_iff : ∀ x, parameters.offset = some x ↔
    ∃ pair ∈ entries, pair.1 = "offset".toList ∧ ¬ pairs.IsNull pair.2 ∧ pairs.number? pair.2 = some x
  source_iff : ∀ path, parameters.source = some path ↔
    ∃ pair ∈ entries, pair.1 = "source".toList ∧ ¬ pairs.IsNull pair.2 ∧ pairs.text pair.2 = path.text

/-- What becomes of a text that is read as some pairs. -/
structure ParseContract (text : List Char) (entries : List pairs.Pair) : Prop where
  succeeds_iff : (∃ parameters, parse reader text = .ok parameters) ↔ Acceptable pairs entries
  given : ∀ parameters, parse reader text = .ok parameters → Given pairs entries parameters
  refuses_iff : ∀ refusal, pairs.Refuses (parse reader text) refusal ↔ FirstWrong pairs entries refusal
  /-- Nothing else goes wrong. -/
  refused : ∀ fault, parse reader text = .error fault → ∃ refusal, pairs.refusal? fault = some refusal
  /-- The same pairs in another order give the same. -/
  perm : ∀ other others, reader.read schema other = pairs.read others → others.Perm entries →
    ∀ parameters, parse reader text = .ok parameters → parse reader other = .ok parameters
  /-- A key that is refused is reported, also if any other scalar and any other pairs follow it. -/
  key : ∀ before pair after refusal, entries = before ++ pair :: after → Acceptable pairs before →
    WrongKey pairs before pair.1 refusal → pairs.Refuses (parse reader text) refusal ∧
      ∀ other scalar others, reader.read schema other = pairs.read (before ++ (pair.1, scalar) :: others) →
        pairs.Refuses (parse reader other) refusal

variable {pairs} {before entries others : List pairs.Pair} {pair : pairs.Pair} {refusal : Refusal}
  {text : List Char} {parameters : Parameters}

theorem isStrict_schema : PairReader.IsStrict schema where
  closed := rfl
  apart := by decide

theorem mem_schema_iff {field : String × FieldKind} : field ∈ schema.fields ↔
    field = ("duration", .number) ∨ field = ("offset", .number) ∨ field = ("source", .text) := by
  simp [schema]

theorem mem_keys_iff {key : List Char} : key ∈ keys ↔ ∃ field ∈ schema.fields, key = field.1.toList := by
  simp [keys, timeKeys, schema]

theorem mem_timeKeys_iff {key : List Char} :
    key ∈ timeKeys ↔ ∃ name, (name, FieldKind.number) ∈ schema.fields ∧ key = name.toList := by
  simp [timeKeys, schema]

theorem fits_iff : pairs.Fits pair ↔ pair.1 ∈ keys ∧ (pair.1 ∈ timeKeys → IsTime pairs pair.2) := by
  unfold PairReader.Fits
  rw [mem_keys_iff, mem_timeKeys_iff]
  constructor
  · rintro ⟨field, hfield, hkey, hfits⟩
    refine ⟨⟨field, hfield, hkey⟩, ?_⟩
    rintro ⟨name, hname, hkey'⟩
    obtain rfl := isStrict_schema.eq_of_key hfield hname (hkey.symm.trans hkey')
    exact hfits rfl
  · rintro ⟨⟨⟨name, kind⟩, hfield, hkey⟩, htime⟩
    refine ⟨_, hfield, hkey, ?_⟩
    rintro rfl
    exact htime ⟨name, hfield, hkey⟩

theorem acceptable_iff : Acceptable pairs entries ↔ pairs.Unoffended entries := by
  rw [PairReader.unoffended_iff isStrict_schema]
  simp only [fits_iff]
  constructor
  · rintro ⟨hknown, honce, htimes⟩
    exact ⟨fun pair hmem => ⟨hknown pair hmem, htimes pair hmem⟩, honce⟩
  · rintro ⟨hfits, honce⟩
    exact ⟨fun pair hmem => (hfits pair hmem).1, honce, fun pair hmem => (hfits pair hmem).2⟩

theorem wrong_iff : Wrong pairs before pair refusal ↔ pairs.Offends before pair refusal := by
  obtain ⟨key, scalar⟩ := pair
  constructor
  · intro h
    cases h with
    | key h =>
      cases h with
      | unknown hunknown =>
        exact .unknown fun field hfield hkey => hunknown (mem_keys_iff.mpr ⟨field, hfield, hkey⟩)
      | repeated hkey hbefore =>
        obtain ⟨field, hfield, rfl⟩ := mem_keys_iff.mp hkey
        obtain ⟨earlier, hmem, hearlier⟩ := List.mem_map.mp hbefore
        exact .repeated hfield hmem hearlier
    | time htime hnew h =>
      obtain ⟨name, hname, rfl⟩ := mem_timeKeys_iff.mp htime
      obtain ⟨hnull, hnumber⟩ := not_or.mp h
      exact .misfit hname (fun earlier hmem hearlier => hnew (List.mem_map.mpr ⟨earlier, hmem, hearlier⟩)) hnull
        (Option.eq_none_iff_forall_ne_some.mpr (not_exists.mp hnumber))
  · intro h
    cases h with
    | unknown hunknown =>
      refine .key (.unknown fun hkey => ?_)
      obtain ⟨field, hfield, rfl⟩ := mem_keys_iff.mp hkey
      exact hunknown field hfield rfl
    | repeated hfield hmem hearlier =>
      exact .key (.repeated (mem_keys_iff.mpr ⟨_, hfield, rfl⟩) (List.mem_map.mpr ⟨_, hmem, hearlier⟩))
    | misfit hname hnew hnull hnumber =>
      refine .time (mem_timeKeys_iff.mpr ⟨_, hname, rfl⟩) (fun hbefore => ?_) ?_
      · obtain ⟨earlier, hmem, hearlier⟩ := List.mem_map.mp hbefore
        exact hnew earlier hmem hearlier
      · rintro (hvoid | ⟨x, hx⟩)
        · exact hnull hvoid
        · cases hnumber.symm.trans hx

theorem firstWrong_iff : FirstWrong pairs entries refusal ↔ pairs.FirstOffends entries refusal := by
  unfold FirstWrong PairReader.FirstOffends
  simp only [acceptable_iff, wrong_iff]

/-! ## Texts that are read as pairs -/

theorem parse_eq (hread : reader.read schema text = pairs.read entries) :
    parse reader text =
      (pairs.run entries).map fun met => ofRecord fun name => (pairs.held? met name).join := by
  unfold parse
  rw [hread, PairReader.read]
  cases pairs.run entries with
  | error | ok => rfl

/-- What was held of the fields is what is given. -/
theorem given_of_holds {met : pairs.Met} (hholds : pairs.Holds entries met) (honce : (entries.map (·.1)).Nodup) :
    Given pairs entries (ofRecord fun name => (pairs.held? met name).join) := by
  have htells := tells_ofRecord fun name => (pairs.held? met name).join
  have hnumber : ∀ {scalar x}, pairs.Gives .number scalar (some (.number x)) ↔
      ¬ pairs.IsNull scalar ∧ pairs.number? scalar = some x :=
    ⟨fun | .number hnull h => ⟨hnull, h⟩, fun ⟨hnull, h⟩ => .number hnull h⟩
  have htext : ∀ {scalar text}, pairs.Gives .text scalar (some (.text text)) ↔
      ¬ pairs.IsNull scalar ∧ pairs.text scalar = text :=
    ⟨fun | .text hnull => ⟨hnull, rfl⟩, fun ⟨hnull, h⟩ => h ▸ .text hnull⟩
  have hduration : ("duration", FieldKind.number) ∈ schema.fields := mem_schema_iff.mpr (.inl rfl)
  have hoffset : ("offset", FieldKind.number) ∈ schema.fields := mem_schema_iff.mpr (.inr (.inl rfl))
  have hsource : ("source", FieldKind.text) ∈ schema.fields := mem_schema_iff.mpr (.inr (.inr rfl))
  constructor
  · intro x
    rw [htells.duration_iff, hholds.join_eq_some_iff honce hduration]
    simp only [hnumber]
  · intro x
    rw [htells.offset_iff, hholds.join_eq_some_iff honce hoffset]
    simp only [hnumber]
  · intro path
    rw [htells.source_iff, hholds.join_eq_some_iff honce hsource]
    simp only [htext]

/-- What becomes of a text: the pairs in it make parameters, or one of them is the first to be wrong. -/
theorem parse_cases (hpairs : pairs.Documented) (hread : reader.read schema text = pairs.read entries) :
    (∃ refusal, FirstWrong pairs entries refusal ∧ pairs.Refuses (parse reader text) refusal) ∨
      Acceptable pairs entries ∧ ∃ parameters, parse reader text = .ok parameters ∧
        Given pairs entries parameters := by
  rw [parse_eq hread]
  rcases PairReader.run_cases hpairs isStrict_schema entries with
    ⟨refusal, hfirst, fault, hrun, hrefusal⟩ | ⟨hnone, met, hrun, hholds⟩
  · rw [hrun]
    exact .inl ⟨refusal, firstWrong_iff.mpr hfirst, fault, rfl, hrefusal⟩
  · rw [hrun]
    have hacceptable := acceptable_iff.mpr hnone
    exact .inr ⟨hacceptable, _, rfl, given_of_holds hholds hacceptable.once⟩

theorem not_firstWrong (h : Acceptable pairs entries) : ¬ FirstWrong pairs entries refusal := by
  rintro ⟨before, pair, after, heq, -, hwrong⟩
  exact acceptable_iff.mp h before pair after refusal heq (wrong_iff.mp hwrong)

theorem Acceptable.perm (h : Acceptable pairs entries) (hperm : others.Perm entries) : Acceptable pairs others where
  known pair hmem := h.known pair (hperm.mem_iff.mp hmem)
  once := ((hperm.map _).nodup_iff).mpr h.once
  times pair hmem := h.times pair (hperm.mem_iff.mp hmem)

theorem Given.perm (h : Given pairs entries parameters) (hperm : others.Perm entries) :
    Given pairs others parameters where
  duration_iff x := by simp only [hperm.mem_iff, h.duration_iff]
  offset_iff x := by simp only [hperm.mem_iff, h.offset_iff]
  source_iff path := by simp only [hperm.mem_iff, h.source_iff]

theorem Given.unique {parameters' : Parameters} (h : Given pairs entries parameters)
    (h' : Given pairs entries parameters') : parameters = parameters' :=
  eq_of_some_iff (fun x => (h.duration_iff x).trans (h'.duration_iff x).symm)
    (fun x => (h.offset_iff x).trans (h'.offset_iff x).symm)
    (fun path => (h.source_iff path).trans (h'.source_iff path).symm)

section Parsing

variable (hpairs : pairs.Documented) (hread : reader.read schema text = pairs.read entries)

include hpairs hread

theorem exists_parse_iff : (∃ parameters, parse reader text = .ok parameters) ↔ Acceptable pairs entries := by
  rcases parse_cases hpairs hread with ⟨refusal, hfirst, fault, hparse, -⟩ | ⟨hacceptable, parameters, hparse, -⟩
  · refine iff_of_false ?_ fun hacceptable => not_firstWrong hacceptable hfirst
    rintro ⟨parameters, hok⟩
    cases hparse.symm.trans hok
  · exact iff_of_true ⟨parameters, hparse⟩ hacceptable

theorem parse_eq_ok_iff : parse reader text = .ok parameters ↔
    Acceptable pairs entries ∧ Given pairs entries parameters := by
  rcases parse_cases hpairs hread with ⟨refusal, hfirst, fault, hparse, -⟩ | ⟨hacceptable, found, hparse, hgiven⟩
  · rw [hparse]
    exact iff_of_false nofun fun ⟨hacceptable, _⟩ => not_firstWrong hacceptable hfirst
  · rw [hparse, Except.ok.injEq]
    constructor
    · rintro rfl
      exact ⟨hacceptable, hgiven⟩
    · exact fun h => hgiven.unique h.2

theorem refuses_parse_iff : pairs.Refuses (parse reader text) refusal ↔ FirstWrong pairs entries refusal := by
  rw [parse_eq hread, PairReader.refuses_map_iff, PairReader.refuses_run_iff hpairs isStrict_schema, firstWrong_iff]

end Parsing

/-- A text that is read as pairs gives what these give, each on its own, or is refused for the first that is
wrong. -/
theorem parse_of_pairs (hpairs : pairs.Documented) (hread : reader.read schema text = pairs.read entries) :
    ParseContract pairs text entries where
  succeeds_iff := exists_parse_iff hpairs hread
  given parameters hok := ((parse_eq_ok_iff hpairs hread).mp hok).2
  refuses_iff _ := refuses_parse_iff hpairs hread
  refused := by
    intro fault herror
    rcases parse_cases hpairs hread with ⟨refusal, -, found, hparse, hrefusal⟩ | ⟨-, parameters, hparse, -⟩
    · cases hparse.symm.trans herror
      exact ⟨refusal, hrefusal⟩
    · cases hparse.symm.trans herror
  perm := by
    intro other others hother hperm parameters hok
    obtain ⟨hacceptable, hgiven⟩ := (parse_eq_ok_iff hpairs hread).mp hok
    exact (parse_eq_ok_iff hpairs hother).mpr ⟨hacceptable.perm hperm, hgiven.perm hperm⟩
  key := by
    intro before pair after refusal hentries hbefore hkey
    refine ⟨?_, fun other scalar others hother => ?_⟩
    · exact (refuses_parse_iff hpairs hread).mpr ⟨before, pair, after, hentries, hbefore, .key hkey⟩
    · exact (refuses_parse_iff hpairs hother).mpr ⟨before, _, others, rfl, hbefore, .key hkey⟩

theorem parse_document : parse Document.reader text =
    (Document.fields schema text).map fun met => ofRecord (Document.recordOf met) := by
  show ((Document.fields schema text).map Document.recordOf).map ofRecord = _
  cases Document.fields schema text with
  | error | ok => rfl

/-- The fields in another order than usual, one of them null. -/
theorem parse_of_pairs_shuffled :
    let text := "source: fade.glsl\noffset: ~\nduration: +2.5\n".toList
    let plain (text : String) : Document.Untagged := ⟨⟨.none, .none, text.toList, .plain⟩, rfl⟩
    let entries : List (Document.pairs schema).Pair :=
      [("source".toList, plain "fade.glsl"), ("offset".toList, plain "~"), ("duration".toList, plain "+2.5")]
    (Document.pairs schema).Documented ∧
      Document.reader.read schema text = (Document.pairs schema).read entries ∧
      ParseContract (Document.pairs schema) text entries ∧
      parse Document.reader text = .ok ⟨some (.real (5 / 2)), .none, some (.ofString "fade.glsl")⟩ := by
  intro text plain entries
  have hpairs : (Document.pairs schema).Documented := Document.documented_pairs isStrict_schema.apart
  have hread : Document.reader.read schema text = (Document.pairs schema).read entries :=
    Document.read_of_events (by decide +kernel)
  have hparse : (Document.fields schema text).map (fun met => ofRecord (Document.recordOf met)) =
      .ok ⟨some (.real (5 / 2)), .none, some (.ofString "fade.glsl")⟩ := by
    decide +kernel
  exact ⟨hpairs, hread, parse_of_pairs hpairs hread, parse_document.trans hparse⟩

end Parameters

end FrameTransition
