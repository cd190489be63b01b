import FrameTransition.Proofs.Text.Lines
import FrameTransition.Proofs.Video.Rates
import Mathlib.Data.List.Induction

/-!
# What is read of a probe

A probe prints lines, and four keys matter. `lastValue?` is the value of a key in the last line that has the
key, blanks at the ends of the line left out, and nothing else of a text is looked at (`parseProbe_eq`). The
contract draws the consequences: which lines may come and go, which may change places, what a later value does
to an earlier one, and that a stream which is printed is read back, whatever stands between its lines
(`parseProbe_printed`).

A line is looked at by `valueOf?` alone, so a rearrangement of lines is no matter as soon as it leaves the
values of each key as they were.
-/

namespace FrameTransition.Video

/-! ## Lines with a key and a value -/

/-- The keys that describe a stream. -/
inductive ProbeKey where
  | width
  | height
  | rate
  | duration
  deriving DecidableEq

namespace ProbeKey

/-- A key as it is printed. -/
def name : ProbeKey → List Char
  | width => "width".toList
  | height => "height".toList
  | rate => "r_frame_rate".toList
  | duration => "duration".toList

/-- A value that can be read as one of its key. -/
def CanRead (value : List Char) : ProbeKey → Prop
  | width => Decimal.unsigned32? value ≠ none
  | height => Decimal.unsigned32? value ≠ none
  | rate => Rate.ofChars? value ≠ none
  | duration => Decimal.binary64? value ≠ none

theorem name_inj {key other : ProbeKey} : key.name = other.name ↔ key = other := by
  constructor
  · cases key <;> cases other <;> decide
  · exact congrArg name

theorem not_mem_name (key : ProbeKey) : '=' ∉ key.name := by
  cases key <;> decide

theorem not_isBlank_name (key : ProbeKey) : ∀ c ∈ key.name, ¬ Text.isBlank c := by
  cases key <;> exact Text.not_isBlank_of_all (by decide)

/-- The complaint about a stream without a value of the key. A duration need not be known. -/
def fault? : ProbeKey → Option VideoError
  | width => some .noWidth
  | height => some .noHeight
  | rate => some .noRate
  | duration => none

/-- A line as it is printed. -/
def line (key : ProbeKey) (value : List Char) : List Char :=
  key.name ++ '=' :: value

end ProbeKey

/-- The value of a key in a line without blanks at its ends. -/
def cut? (key : ProbeKey) (trimmed : List Char) : Option (List Char) :=
  match Text.splitOnce? '=' trimmed with
  | some (name, value) => if name = key.name then some value else none
  | none => none

/-- The value of a key in a line. -/
def valueOf? (key : ProbeKey) (line : List Char) : Option (List Char) :=
  cut? key (Text.trim line)

/-- The value of a key in the last line of a text that has one. -/
def lastValue? (key : ProbeKey) (text : List Char) : Option (List Char) :=
  ((Text.splitOn '\n' text).filterMap (valueOf? key)).getLast?

/-- A line that says nothing of a stream. -/
inductive IsForeign (line : List Char) : Prop
  | silent (h : '=' ∉ line)
  | other {name value : List Char} (htrim : Text.trim line = name ++ '=' :: value) (hname : '=' ∉ name)
      (hother : ∀ key : ProbeKey, name ≠ key.name)

variable {key : ProbeKey} {line value text other : List Char} {lines others : List (List Char)}

theorem cut?_append_cons {name : List Char} (hname : '=' ∉ name) (value : List Char) :
    cut? key (name ++ '=' :: value) = if name = key.name then some value else none := by
  rw [cut?, Text.splitOnce?_append_cons hname]

theorem valueOf?_eq_some_iff :
    valueOf? key line = some value ↔ Text.trim line = key.name ++ '=' :: value := by
  constructor
  · intro h
    unfold valueOf? cut? at h
    split at h
    · next name found hsplit =>
      obtain ⟨htrim, -⟩ := Text.splitOnce?_eq_some_iff.mp hsplit
      split_ifs at h with hname
      cases h
      rw [htrim, hname]
    · cases h
  · intro h
    rw [valueOf?, h, cut?_append_cons key.not_mem_name, if_pos rfl]

/-- No key has a value in a foreign line. -/
theorem IsForeign.valueOf?_eq_none (h : IsForeign line) (key : ProbeKey) : valueOf? key line = none := by
  cases h with
  | silent h =>
    have htrim : '=' ∉ Text.trim line := fun hmem => h (Text.mem_of_mem_trim hmem)
    rw [valueOf?, cut?, Text.splitOnce?_eq_none_iff.mpr htrim]
  | other htrim hname hother => rw [valueOf?, htrim, cut?_append_cons hname, if_neg (hother key)]

/-! ## Reading line by line -/

namespace Probed

theorem set_eq (probed : Probed) (name value : List Char) : probed.set name value =
    ⟨if name = ProbeKey.width.name then Decimal.unsigned32? value else probed.width,
      if name = ProbeKey.height.name then Decimal.unsigned32? value else probed.height,
      if name = ProbeKey.rate.name then Rate.ofChars? value else probed.rate,
      if name = ProbeKey.duration.name then Decimal.binary64? value else probed.duration⟩ := by
  by_cases hkey : ∃ key : ProbeKey, name = key.name
  · obtain ⟨key, rfl⟩ := hkey
    cases key <;> rfl
  · have hother : ∀ key : ProbeKey, name ≠ key.name := fun key h => hkey ⟨key, h⟩
    have hset : probed.set name value = probed :=
      calc probed.set name value = _ := if_neg (hother .width)
        _ = _ := if_neg (hother .height)
        _ = _ := if_neg (hother .rate)
        _ = probed := if_neg (hother .duration)
    rw [hset, if_neg (hother .width), if_neg (hother .height), if_neg (hother .rate), if_neg (hother .duration)]

/-- A line changes what it has a value for. -/
theorem readLine_eq (probed : Probed) (line : List Char) : probed.readLine line =
    ⟨(valueOf? .width line).elim probed.width Decimal.unsigned32?,
      (valueOf? .height line).elim probed.height Decimal.unsigned32?,
      (valueOf? .rate line).elim probed.rate Rate.ofChars?,
      (valueOf? .duration line).elim probed.duration Decimal.binary64?⟩ := by
  have helim : ∀ {α : Type} (name value : List Char) (old : Option α) (read : List Char → Option α)
      (key : ProbeKey), (if name = key.name then some value else none).elim old read =
        if name = key.name then read value else old := by
    intro α name value old read key
    split_ifs <;> rfl
  simp only [readLine, valueOf?, cut?]
  cases Text.splitOnce? '=' (Text.trim line) with
  | none => rfl
  | some found =>
    obtain ⟨name, value⟩ := found
    simp only [helim, set_eq]

end Probed

/-- What the last values of a text say. -/
def said (text : List Char) : Probed where
  width := (lastValue? .width text).bind Decimal.unsigned32?
  height := (lastValue? .height text).bind Decimal.unsigned32?
  rate := (lastValue? .rate text).bind Rate.ofChars?
  duration := (lastValue? .duration text).bind Decimal.binary64?

/-- The last value is in the last line, or else it was there before. -/
theorem getLast?_filterMap_concat (key : ProbeKey) (lines : List (List Char)) (line : List Char) :
    ((lines ++ [line]).filterMap (valueOf? key)).getLast? =
      (valueOf? key line).or (lines.filterMap (valueOf? key)).getLast? := by
  rw [List.filterMap_append, List.getLast?_append]
  cases hvalue : valueOf? key line with
  | none | some => simp [hvalue]

theorem foldl_readLine (lines : List (List Char)) : lines.foldl Probed.readLine Probed.empty =
    ⟨(lines.filterMap (valueOf? .width)).getLast?.bind Decimal.unsigned32?,
      (lines.filterMap (valueOf? .height)).getLast?.bind Decimal.unsigned32?,
      (lines.filterMap (valueOf? .rate)).getLast?.bind Rate.ofChars?,
      (lines.filterMap (valueOf? .duration)).getLast?.bind Decimal.binary64?⟩ := by
  have hlast : ∀ {α : Type} (new old : Option (List Char)) (read : List Char → Option α),
      new.elim (old.bind read) read = (new.or old).bind read := by
    intro α new old read
    cases new <;> rfl
  induction lines using List.reverseRecOn with
  | nil => rfl
  | append_singleton lines line ih =>
    rw [List.foldl_concat, ih, Probed.readLine_eq]
    simp only [getLast?_filterMap_concat, hlast]

/-- Line feeds alone separate what is read: a carriage return in front of one is a blank. -/
theorem filterMap_lines (key : ProbeKey) (text : List Char) :
    (Text.lines text).filterMap (valueOf? key) = (Text.splitOn '\n' text).filterMap (valueOf? key) := by
  rw [List.filterMap_eq_flatMap_toList, List.filterMap_eq_flatMap_toList]
  refine Text.flatMap_lines ?_ (fun line => ?_) text
  · cases key <;> rfl
  · rw [valueOf?, Text.trim_dropReturn, ← valueOf?]

theorem parseProbe_eq (text : List Char) : parseProbe text = (said text).info := by
  rw [parseProbe, foldl_readLine]
  simp only [filterMap_lines]
  rfl

/-- The last width counts, and the duration that cannot be read takes the other back. -/
example : parseProbe "width=1\nduration=2.5\r\nheight=4\n r_frame_rate=25\nwidth=3\nduration=N/A\n".toList =
    .ok ⟨3, 4, ⟨25, 1⟩, none⟩ := by decide +kernel

/-! ## What is found and what is missing -/

namespace Probed

theorem info_eq_ok_iff {probed : Probed} {stream : Info} : probed.info = .ok stream ↔
    probed = ⟨some stream.width, some stream.height, some stream.rate, stream.duration⟩ := by
  obtain ⟨width, height, rate, duration⟩ := probed
  obtain ⟨w, h, r, d⟩ := stream
  unfold info
  cases width <;> cases height <;> cases rate <;>
    simp [throw, throwThe, MonadExceptOf.throw, pure, Except.pure]

/-- No value of the key was read. -/
def Lacks (probed : Probed) : ProbeKey → Prop
  | .width => probed.width = none
  | .height => probed.height = none
  | .rate => probed.rate = none
  | .duration => probed.duration = none

theorem info_eq_error_iff {probed : Probed} {fault : VideoError} : probed.info = .error fault ↔
    (fault = .noWidth ∧ probed.Lacks .width) ∨
    (fault = .noHeight ∧ ¬ probed.Lacks .width ∧ probed.Lacks .height) ∨
    (fault = .noRate ∧ ¬ probed.Lacks .width ∧ ¬ probed.Lacks .height ∧ probed.Lacks .rate) := by
  obtain ⟨width, height, rate, duration⟩ := probed
  unfold info Lacks
  cases width <;> cases height <;> cases rate <;>
    simp [throw, throwThe, MonadExceptOf.throw, pure, Except.pure, eq_comm]

end Probed

/-- Nothing can be read of the last value of a key, if there is one. -/
def Missing (key : ProbeKey) (text : List Char) : Prop :=
  ∀ value, lastValue? key text = some value → ¬ key.CanRead value

theorem lacks_said_iff (key : ProbeKey) (text : List Char) : (said text).Lacks key ↔ Missing key text := by
  have hbind : ∀ {α : Type} {read : List Char → Option α}, (∀ value, key.CanRead value ↔ read value ≠ none) →
      ((lastValue? key text).bind read = none ↔ Missing key text) := by
    intro α read hread
    rw [Option.bind_eq_none_iff]
    refine forall₂_congr fun value _ => ?_
    rw [hread, not_not]
  cases key <;> exact hbind fun _ => Iff.rfl

theorem parseProbe_eq_ok_iff {stream : Info} : parseProbe text = .ok stream ↔
    said text = ⟨some stream.width, some stream.height, some stream.rate, stream.duration⟩ := by
  rw [parseProbe_eq, Probed.info_eq_ok_iff]

/-- Sizes fit their words. -/
theorem le_of_parseProbe {stream : Info} (h : parseProbe text = .ok stream) :
    stream.width ≤ Decimal.maxUnsigned32 ∧ stream.height ≤ Decimal.maxUnsigned32 := by
  have hsaid := parseProbe_eq_ok_iff.mp h
  have hread : ∀ {key n}, (lastValue? key text).bind Decimal.unsigned32? = some n → n ≤ Decimal.maxUnsigned32 := by
    intro key n hn
    obtain ⟨value, -, hvalue⟩ := Option.bind_eq_some_iff.mp hn
    exact (Decimal.natural?_eq_some_iff.mp hvalue).2
  exact ⟨hread (congrArg Probed.width hsaid), hread (congrArg Probed.height hsaid)⟩

theorem parseProbe_eq_error_iff {fault : VideoError} : parseProbe text = .error fault ↔
    (fault = .noWidth ∧ Missing .width text) ∨
    (fault = .noHeight ∧ ¬ Missing .width text ∧ Missing .height text) ∨
    (fault = .noRate ∧ ¬ Missing .width text ∧ ¬ Missing .height text ∧ Missing .rate text) := by
  rw [parseProbe_eq, Probed.info_eq_error_iff, lacks_said_iff, lacks_said_iff, lacks_said_iff]

/-- A stream that was found lacks nothing it needs. -/
theorem not_missing_of_ok {stream : Info} {fault : VideoError} (h : parseProbe text = .ok stream)
    (hfault : key.fault? = some fault) : ¬ Missing key text := by
  rw [← lacks_said_iff, parseProbe_eq_ok_iff.mp h]
  cases key with
  | width | height | rate => exact nofun
  | duration => cases hfault

/-- Only the last values count. -/
theorem parseProbe_congr (h : ∀ key, lastValue? key text = lastValue? key other) :
    parseProbe text = parseProbe other := by
  simp only [parseProbe_eq, said, h]

/-! ## Lines that are put together -/

theorem lastValue?_append_cons (key : ProbeKey) (front back : List Char) :
    lastValue? key (front ++ '\n' :: back) = (lastValue? key back).or (lastValue? key front) := by
  rw [lastValue?, Text.splitOn_append_cons, List.filterMap_append, List.getLast?_append, ← lastValue?,
    ← lastValue?]

theorem lastValue?_of_not_mem (hline : '\n' ∉ line) : lastValue? key line = valueOf? key line := by
  rw [lastValue?, Text.splitOn_of_not_mem hline]
  cases hvalue : valueOf? key line with
  | none | some => simp [hvalue]

@[simp]
theorem valueOf?_nil (key : ProbeKey) : valueOf? key [] = none := by
  cases key <;> rfl

theorem lastValue?_nil (key : ProbeKey) : lastValue? key [] = none := by
  rw [lastValue?_of_not_mem List.not_mem_nil, valueOf?_nil]

theorem lastValue?_flatMap (key : ProbeKey) (h : ∀ line ∈ lines, '\n' ∉ line) :
    lastValue? key (lines.flatMap (· ++ ['\n'])) = (lines.filterMap (valueOf? key)).getLast? := by
  have hsplit := Text.splitOn_flatMap_append h []
  rw [List.append_nil] at hsplit
  rw [lastValue?, hsplit, List.filterMap_append]
  simp [Text.splitOn]

theorem lastValue?_join (key : ProbeKey) (h : ∀ line ∈ lines, '\n' ∉ line) :
    lastValue? key (Text.join ['\n'] lines) = (lines.filterMap (valueOf? key)).getLast? := by
  cases lines with
  | nil => exact lastValue?_nil key
  | cons line lines => rw [lastValue?, Text.splitOn_join (List.cons_ne_nil _ _) h]

/-- A line feed behind the last line is no matter. -/
theorem lastValue?_concat (key : ProbeKey) (text : List Char) :
    lastValue? key (text ++ ['\n']) = lastValue? key text := by
  rw [lastValue?_append_cons, lastValue?_nil, Option.none_or]

theorem lastValue?_withReturns (key : ProbeKey) (text : List Char) :
    lastValue? key (Text.withReturns text) = lastValue? key text := by
  induction text using Text.byLines with
  | last last hlast => rw [Text.withReturns_of_not_mem hlast]
  | line line rest hline ih =>
    have hended : '\n' ∉ line ++ ['\r'] := by
      rw [List.mem_append, not_or]
      exact ⟨hline, by decide⟩
    have hvalue : valueOf? key (line ++ ['\r']) = valueOf? key line := by
      rw [valueOf?, Text.trim_append_of_blank line (List.forall_mem_singleton.mpr rfl), ← valueOf?]
    rw [Text.withReturns_cons hline, lastValue?_append_cons, lastValue?_append_cons, ih,
      lastValue?_of_not_mem hended, lastValue?_of_not_mem hline, hvalue]

/-- The values of a key stand in the lines that have one. -/
theorem filterMap_filter (key : ProbeKey) (lines : List (List Char)) :
    (lines.filter fun line => (valueOf? key line).isSome).filterMap (valueOf? key) =
      lines.filterMap (valueOf? key) := by
  rw [List.filterMap_filter]
  congr 1
  funext line
  cases hvalue : valueOf? key line with
  | none | some => simp

/-! ## A later value -/

/-- A line has a value for one key. -/
theorem valueOf?_of_ne {found : ProbeKey} (hvalue : valueOf? key line = some value) (hne : found ≠ key) :
    valueOf? found line = none := by
  have htrim := valueOf?_eq_some_iff.mp hvalue
  rw [valueOf?, htrim, cut?_append_cons key.not_mem_name, if_neg]
  exact fun hname => hne (ProbeKey.name_inj.mp hname).symm

theorem lastValue?_of_later (hline : '\n' ∉ line) (hvalue : valueOf? key line = some value)
    (text : List Char) : lastValue? key (text ++ '\n' :: line) = some value := by
  rw [lastValue?_append_cons, lastValue?_of_not_mem hline, hvalue, Option.some_or]

theorem lastValue?_of_other {found : ProbeKey} (hline : '\n' ∉ line) (hvalue : valueOf? key line = some value)
    (hne : found ≠ key) (text : List Char) :
    lastValue? found (text ++ '\n' :: line) = lastValue? found text := by
  rw [lastValue?_append_cons, lastValue?_of_not_mem hline, valueOf?_of_ne hvalue hne, Option.none_or]

/-- A value that cannot be read takes back what was said before. -/
theorem missing_of_later_iff {found : ProbeKey} (hline : '\n' ∉ line) (hvalue : valueOf? key line = some value)
    (hread : ¬ key.CanRead value) :
    Missing found (text ++ '\n' :: line) ↔ found = key ∨ Missing found text := by
  unfold Missing
  by_cases hfound : found = key
  · rw [hfound, lastValue?_of_later hline hvalue]
    refine iff_of_true ?_ (.inl rfl)
    intro later hlater
    cases hlater
    exact hread
  · rw [lastValue?_of_other hline hvalue hfound, or_iff_right hfound]

theorem exists_error_of_later {fault : VideoError} (hfault : key.fault? = some fault) (hline : '\n' ∉ line)
    (hvalue : valueOf? key line = some value) (hread : ¬ key.CanRead value) (text : List Char) :
    ∃ found, parseProbe (text ++ '\n' :: line) = .error found ∧
      ∀ stream, parseProbe text = .ok stream → found = fault := by
  have hmissing : ∀ found, Missing found (text ++ '\n' :: line) ↔ found = key ∨ Missing found text :=
    fun _ => missing_of_later_iff hline hvalue hread
  cases hparse : parseProbe (text ++ '\n' :: line) with
  | ok stream => exact absurd ((hmissing key).mpr (.inl rfl)) (not_missing_of_ok hparse hfault)
  | error found =>
    refine ⟨found, rfl, fun stream hok => ?_⟩
    -- What is missing now was not missing before, so the key is the one of the line.
    have hkey : ∀ {lacked : ProbeKey} {complaint}, lacked.fault? = some complaint →
        Missing lacked (text ++ '\n' :: line) → complaint = fault := by
      intro lacked complaint hcomplaint hlacks
      obtain rfl := ((hmissing lacked).mp hlacks).resolve_right (not_missing_of_ok hok hcomplaint)
      exact Option.some.inj (hcomplaint.symm.trans hfault)
    rcases parseProbe_eq_error_iff.mp hparse with ⟨rfl, h⟩ | ⟨rfl, -, h⟩ | ⟨rfl, -, -, h⟩
    · exact hkey rfl h
    · exact hkey rfl h
    · exact hkey rfl h

theorem parseProbe_of_unread_duration (hline : '\n' ∉ line) (hvalue : valueOf? .duration line = some value)
    (hread : ¬ ProbeKey.duration.CanRead value) (text : List Char) :
    parseProbe (text ++ '\n' :: line) =
      (parseProbe text).map fun stream => { stream with duration := none } := by
  have hnone : Decimal.binary64? value = none := not_not.mp hread
  have hsaid : said (text ++ '\n' :: line) = { said text with duration := none } := by
    have hother : ∀ found ≠ ProbeKey.duration, lastValue? found (text ++ '\n' :: line) = lastValue? found text :=
      fun _ hne => lastValue?_of_other hline hvalue hne text
    simp only [said, hother .width nofun, hother .height nofun, hother .rate nofun,
      lastValue?_of_later hline hvalue, Option.bind_some, hnone]
  rw [parseProbe_eq, parseProbe_eq, hsaid]
  obtain ⟨width, height, rate, duration⟩ := said text
  cases width <;> cases height <;> cases rate <;> rfl

/-! ## What is printed of a stream -/

/-- What is printed for the duration of a stream, if anything. -/
inductive PrintsDuration : Option (List Char) → Option Number → Prop
  | missing : PrintsDuration none none
  | unknown : PrintsDuration (some "N/A".toList) none
  | known {text : List Char} {x : Number} (h : Decimal.binary64? text = some x) :
      PrintsDuration (some text) (some x)

/-- What is printed for a key. -/
def printedValue? (stream : Info) (duration : Option (List Char)) : ProbeKey → Option (List Char)
  | .width => some (toString stream.width).toList
  | .height => some (toString stream.height).toList
  | .rate => some stream.rate.text.toList
  | .duration => duration

/-- The lines that are printed of a stream. -/
def printed (stream : Info) (duration : Option (List Char)) : List (List Char) :=
  [.width, .height, .rate, .duration].filterMap fun key =>
    (printedValue? stream duration key).map key.line

section Printed

variable {stream : Info} {duration : Option (List Char)}

theorem not_isBlank_printedValue? (hrate : stream.rate.Positive)
    (hduration : PrintsDuration duration stream.duration) {value : List Char}
    (h : printedValue? stream duration key = some value) : ∀ c ∈ value, ¬ Text.isBlank c := by
  cases key with
  | width | height =>
    cases h
    exact (Decimal.numeral_toString _).not_isBlank
  | rate =>
    cases h
    exact not_isBlank_text hrate
  | duration =>
    obtain rfl : duration = some value := h
    generalize stream.duration = read at hduration
    cases hduration with
    | unknown => exact Text.not_isBlank_of_all (by decide)
    | known h => exact Decimal.not_isBlank_of_number? h

theorem not_isBlank_line (h : ∀ c ∈ value, ¬ Text.isBlank c) : ∀ c ∈ key.line value, ¬ Text.isBlank c := by
  rw [ProbeKey.line, List.forall_mem_append, List.forall_mem_cons]
  exact ⟨key.not_isBlank_name, by decide, h⟩

theorem valueOf?_line {found : ProbeKey} (h : ∀ c ∈ value, ¬ Text.isBlank c) :
    valueOf? found (key.line value) = if key = found then some value else none := by
  have hword : Text.IsWord (key.line value) :=
    ⟨List.append_ne_nil_of_right_ne_nil _ (List.cons_ne_nil _ _), not_isBlank_line h⟩
  have htrim : Text.trim (key.line value) = key.line value :=
    (Text.trim_eq_iff hword).mpr ⟨[], [], nofun, nofun, (List.append_nil _).symm⟩
  rw [valueOf?, htrim, ProbeKey.line, cut?_append_cons key.not_mem_name]
  simp only [ProbeKey.name_inj]

/-- Of what is printed, each key has its own value back. -/
theorem filterMap_printed (hrate : stream.rate.Positive) (hduration : PrintsDuration duration stream.duration)
    (key : ProbeKey) :
    (printed stream duration).filterMap (valueOf? key) = (printedValue? stream duration key).toList := by
  have hline : ∀ found : ProbeKey, ((printedValue? stream duration found).map found.line).bind (valueOf? key) =
      if found = key then printedValue? stream duration key else none := by
    intro found
    cases hvalue : printedValue? stream duration found with
    | none =>
      split_ifs with hkey
      · rw [← hkey, hvalue, Option.map_none, Option.bind_none]
      · rfl
    | some value =>
      rw [Option.map_some, Option.bind_some, valueOf?_line (not_isBlank_printedValue? hrate hduration hvalue)]
      split_ifs with hkey
      · rw [← hkey, hvalue]
      · rfl
  rw [printed, List.filterMap_filterMap]
  simp only [hline]
  cases key with
  | width | height | rate => rfl
  | duration => cases duration <;> rfl

theorem lastValue?_of_perm (hrate : stream.rate.Positive) (hduration : PrintsDuration duration stream.duration)
    (hperm : lines.Perm (printed stream duration ++ others))
    (hothers : ∀ line ∈ others, IsForeign line ∧ '\n' ∉ line) (key : ProbeKey) :
    lastValue? key (lines.flatMap (· ++ ['\n'])) = printedValue? stream duration key := by
  have hfeed : ∀ line ∈ lines, '\n' ∉ line := by
    intro line hline
    rcases List.mem_append.mp (hperm.mem_iff.mp hline) with hprinted | hother
    · obtain ⟨found, -, hfound⟩ := List.mem_filterMap.mp hprinted
      obtain ⟨value, hvalue, rfl⟩ := Option.map_eq_some_iff.mp hfound
      have hblank := not_isBlank_printedValue? hrate hduration hvalue
      exact fun hmem => not_isBlank_line hblank _ hmem (by decide)
    · exact (hothers line hother).2
  have hforeign : others.filterMap (valueOf? key) = [] :=
    List.filterMap_eq_nil_iff.mpr fun line hline => (hothers line hline).1.valueOf?_eq_none key
  have hvalues := hperm.filterMap (valueOf? key)
  rw [List.filterMap_append, hforeign, List.append_nil, filterMap_printed hrate hduration] at hvalues
  rw [lastValue?_flatMap key hfeed]
  cases hvalue : printedValue? stream duration key with
  | none =>
    rw [hvalue] at hvalues
    rw [List.perm_nil.mp hvalues, List.getLast?_nil]
  | some value =>
    rw [hvalue] at hvalues
    rw [List.perm_singleton.mp hvalues, List.getLast?_singleton]

/-- What is printed of a stream is read back, among other lines and in any order. -/
theorem parseProbe_printed (hwidth : stream.width ≤ Decimal.maxUnsigned32)
    (hheight : stream.height ≤ Decimal.maxUnsigned32) (hrate : stream.rate.Positive)
    (hduration : PrintsDuration duration stream.duration)
    (hperm : lines.Perm (printed stream duration ++ others))
    (hothers : ∀ line ∈ others, IsForeign line ∧ '\n' ∉ line) :
    parseProbe (lines.flatMap (· ++ ['\n'])) = .ok stream := by
  have hlast := lastValue?_of_perm hrate hduration hperm hothers
  have hsize : ∀ n ≤ Decimal.maxUnsigned32, Decimal.unsigned32? (toString n).toList = some n :=
    fun n hn => Decimal.natural?_eq_some_iff.mpr ⟨Decimal.numeral_toString n, hn⟩
  have hread : duration.bind Decimal.binary64? = stream.duration := by
    generalize stream.duration = read at hduration
    cases hduration with
    | missing => rfl
    | unknown => decide +kernel
    | known h => exact h
  rw [parseProbe_eq_ok_iff, said]
  simp only [hlast, printedValue?, Option.bind_some, hsize _ hwidth, hsize _ hheight,
    ofChars?_eq_some_iff.mpr (writesRate_text hrate), hread]

end Printed

/-! ## The contract -/

/-- What holds of the reading of probes. -/
structure ProbeContract : Prop where
  /-- A stream is found if the last values say it, -/
  ok_iff : ∀ (text : List Char) (stream : Info), parseProbe text = .ok stream ↔
    said text = ⟨some stream.width, some stream.height, some stream.rate, stream.duration⟩
  /-- and the first of the values that are missing is complained about otherwise. -/
  error_iff : ∀ (text : List Char) (fault : VideoError), parseProbe text = .error fault ↔
    (fault = .noWidth ∧ Missing .width text) ∨
    (fault = .noHeight ∧ ¬ Missing .width text ∧ Missing .height text) ∨
    (fault = .noRate ∧ ¬ Missing .width text ∧ ¬ Missing .height text ∧ Missing .rate text)
  lastValues : ∀ text other : List Char, (∀ key, lastValue? key text = lastValue? key other) →
    parseProbe text = parseProbe other
  /-- Every text is lines with line feeds between them. -/
  joined : ∀ text : List Char, ∃ lines : List (List Char), (∀ line ∈ lines, '\n' ∉ line) ∧
    Text.join ['\n'] lines = text
  /-- Lines that say nothing come and go. -/
  foreign : ∀ (before after : List (List Char)) (line : List Char),
    (∀ found ∈ before ++ line :: after, '\n' ∉ found) → IsForeign line →
      parseProbe (Text.join ['\n'] (before ++ line :: after)) = parseProbe (Text.join ['\n'] (before ++ after))
  /-- Lines change places with those that do not have their key. -/
  rearranged : ∀ lines others : List (List Char), (∀ line ∈ lines, '\n' ∉ line) → (∀ line ∈ others, '\n' ∉ line) →
    (∀ key, lines.filter (fun line => (valueOf? key line).isSome) =
      others.filter fun line => (valueOf? key line).isSome) →
      parseProbe (Text.join ['\n'] lines) = parseProbe (Text.join ['\n'] others)
  /-- Blanks around a line are no matter, -/
  trimmed : ∀ lines others : List (List Char), (∀ line ∈ lines, '\n' ∉ line) → (∀ line ∈ others, '\n' ∉ line) →
    lines.map Text.trim = others.map Text.trim →
      parseProbe (Text.join ['\n'] lines) = parseProbe (Text.join ['\n'] others)
  /-- nor are the endings of lines. -/
  returns : ∀ text : List Char, parseProbe (Text.withReturns text) = parseProbe text
  ended : ∀ text : List Char, parseProbe (text ++ ['\n']) = parseProbe text
  /-- A value that cannot be read takes back an earlier one: a stream that needs it is not found any more. -/
  takenBack : ∀ (key : ProbeKey) (fault : VideoError) (text line value : List Char), key.fault? = some fault →
    '\n' ∉ line → valueOf? key line = some value → ¬ key.CanRead value →
      ∃ found, parseProbe (text ++ '\n' :: line) = .error found ∧
        ∀ stream, parseProbe text = .ok stream → found = fault
  forgotten : ∀ text line value : List Char, '\n' ∉ line → valueOf? .duration line = some value →
    ¬ ProbeKey.duration.CanRead value →
      parseProbe (text ++ '\n' :: line) = (parseProbe text).map fun stream => { stream with duration := none }
  /-- What is printed of a stream is read back. -/
  readsBack : ∀ (stream : Info) (duration : Option (List Char)) (lines others : List (List Char)),
    stream.width ≤ Decimal.maxUnsigned32 → stream.height ≤ Decimal.maxUnsigned32 → stream.rate.Positive →
    PrintsDuration duration stream.duration → lines.Perm (printed stream duration ++ others) →
    (∀ line ∈ others, IsForeign line ∧ '\n' ∉ line) →
      parseProbe (lines.flatMap (· ++ ['\n'])) = .ok stream

theorem probeContract : ProbeContract where
  ok_iff _ _ := parseProbe_eq_ok_iff
  error_iff _ _ := parseProbe_eq_error_iff
  lastValues _ _ := parseProbe_congr
  joined text := ⟨Text.splitOn '\n' text, fun _ => Text.not_mem_of_mem_splitOn, Text.join_splitOn '\n' text⟩
  foreign before after line hfeed hforeign := by
    have hrest : ∀ found ∈ before ++ after, '\n' ∉ found := by
      intro found hfound
      apply hfeed
      rw [List.mem_append, List.mem_cons]
      exact (List.mem_append.mp hfound).imp_right .inr
    apply parseProbe_congr
    intro key
    rw [lastValue?_join key hfeed, lastValue?_join key hrest, List.filterMap_append, List.filterMap_append,
      List.filterMap_cons_none (hforeign.valueOf?_eq_none key)]
  rearranged lines others hlines hothers hfilter := by
    apply parseProbe_congr
    intro key
    rw [lastValue?_join key hlines, lastValue?_join key hothers, ← filterMap_filter key lines, hfilter key,
      filterMap_filter]
  trimmed lines others hlines hothers htrim := by
    have hcut : ∀ (key : ProbeKey) (found : List (List Char)),
        found.filterMap (valueOf? key) = (found.map Text.trim).filterMap (cut? key) :=
      fun key found => List.filterMap_map.symm
    apply parseProbe_congr
    intro key
    rw [lastValue?_join key hlines, lastValue?_join key hothers, hcut, htrim, ← hcut]
  returns text := parseProbe_congr fun key => lastValue?_withReturns key text
  ended text := parseProbe_congr fun key => lastValue?_concat key text
  takenBack _ _ text _ _ hfault hline hvalue hread := exists_error_of_later hfault hline hvalue hread text
  forgotten text _ _ hline hvalue hread := parseProbe_of_unread_duration hline hvalue hread text
  readsBack _ _ _ _ hwidth hheight hrate hduration hperm hothers :=
    parseProbe_printed hwidth hheight hrate hduration hperm hothers

end FrameTransition.Video
