import FrameTransition.Proofs.CommandLine.Attempts
import FrameTransition.Proofs.Decimal.Numerals
import FrameTransition.Proofs.Text.Words
import FrameTransition.Proofs.Video.Timing
import FrameTransition.Video.Encoder

/-!
# Frame rates as they are written

`WritesRate` is the language of frame rates: one numeral, or two with a slash between them, each of a positive
value that fits its word and with any blanks around it. `ofChars?_eq_some_iff` says that a rate is read from
the texts of this language and from no others. Among them is what is printed of a rate for an encoder
(`writesRate_text`), so a positive rate is read back as it was.

Wherever a stream's rate comes from, a reader of rates has seen it. So no stream that was probed, with the
rate asked for put in or not, has a tick of no length or a time without a denominator (`Timed`).
-/

namespace FrameTransition.Video

/-! ## The language of rates -/

/-- A part of a rate: a numeral of a positive value that fits its word, with blanks around it. -/
structure WritesPart (part : Int) (text : List Char) : Prop where
  pos : 0 < part
  le : part ≤ lastRatePart
  written : ∃ lead numeral trail, (∀ c ∈ lead, Text.isBlank c) ∧ (∀ c ∈ trail, Text.isBlank c) ∧
    Decimal.Numeral part.toNat numeral ∧ text = lead ++ (numeral ++ trail)

/-- A text that stands for a rate. -/
inductive WritesRate : Rate → List Char → Prop
  /-- So many frames a second. -/
  | whole {n : Int} {text : List Char} (h : WritesPart n text) : WritesRate ⟨n, 1⟩ text
  | fraction {n d : Int} {front back : List Char} (hn : WritesPart n front) (hd : WritesPart d back) :
      WritesRate ⟨n, d⟩ (front ++ '/' :: back)

variable {text : List Char} {part : Int} {rate : Rate}

/-- A part of a rate is what is read of a trimmed text, if that is positive. -/
theorem writesPart_iff : WritesPart part text ↔ 0 < part ∧ Decimal.signed32? (Text.trim text) = some part := by
  constructor
  · rintro ⟨hpos, hle, lead, numeral, trail, hlead, htrail, hnumeral, rfl⟩
    rw [Text.trim_append hlead htrail hnumeral.isWord, Decimal.signed32?_eq_some_iff hpos]
    exact ⟨hpos, hnumeral, hle⟩
  · rintro ⟨hpos, hread⟩
    obtain ⟨hnumeral, hle⟩ := (Decimal.signed32?_eq_some_iff hpos).mp hread
    obtain ⟨lead, trail, hlead, htrail, htext⟩ := (Text.trim_eq_iff hnumeral.isWord).mp rfl
    exact ⟨hpos, hle, lead, _, trail, hlead, htrail, hnumeral, htext⟩

/-- No part has a slash in it. -/
theorem WritesPart.not_mem (h : WritesPart part text) : '/' ∉ text := by
  obtain ⟨-, -, lead, numeral, trail, hlead, htrail, hnumeral, rfl⟩ := h
  have hblank : ∀ {blanks : List Char}, (∀ c ∈ blanks, Text.isBlank c) → '/' ∉ blanks :=
    fun hblanks hmem => absurd (hblanks '/' hmem) (by decide)
  have hdigits : ∀ {digits : List Char} {n : Nat}, Decimal.IsDigits digits n → '/' ∉ digits :=
    fun hdigits hmem => absurd (hdigits.isDigit '/' hmem) (by decide)
  rw [List.mem_append, List.mem_append, not_or, not_or]
  refine ⟨hblank hlead, ?_, hblank htrail⟩
  cases hnumeral with
  | bare h => exact hdigits h
  | plus h =>
    rw [List.mem_cons, not_or]
    exact ⟨by decide, hdigits h⟩

/-- A rate has one slash in it at most, the one between its parts. -/
theorem WritesRate.count_le (h : WritesRate rate text) : text.count '/' ≤ 1 := by
  cases h with
  | whole h => simp [List.count_eq_zero_of_not_mem h.not_mem]
  | fraction hn hd =>
    simp [List.count_append, List.count_eq_zero_of_not_mem hn.not_mem,
      List.count_eq_zero_of_not_mem hd.not_mem]

/-! ## Reading -/

theorem ofChars?_append {front back : List Char} (hfront : '/' ∉ front) :
    Rate.ofChars? (front ++ '/' :: back) = some rate ↔
      WritesPart rate.numerator front ∧ WritesPart rate.denominator back := by
  rw [Rate.ofChars?, Text.splitOnce?_append_cons hfront, writesPart_iff, writesPart_iff]
  obtain ⟨n, d⟩ := rate
  dsimp only
  constructor
  · intro h
    obtain ⟨⟨n', d'⟩, hparts, hpositive⟩ := Option.bind_eq_some_iff.mp h
    obtain ⟨_, hnumerator, hparts⟩ := Option.bind_eq_some_iff.mp hparts
    obtain ⟨_, hdenominator, hpair⟩ := Option.map_eq_some_iff.mp hparts
    cases hpair
    dsimp only at hpositive
    split_ifs at hpositive with hpos
    cases hpositive
    exact ⟨⟨hpos.1, hnumerator⟩, hpos.2, hdenominator⟩
  · rintro ⟨⟨hn, hnumerator⟩, hd, hdenominator⟩
    simp [hnumerator, hdenominator, hn, hd]

theorem ofChars?_of_not_mem (h : '/' ∉ text) :
    Rate.ofChars? text = some rate ↔ WritesPart rate.numerator text ∧ rate.denominator = 1 := by
  rw [Rate.ofChars?, Text.splitOnce?_eq_none_iff.mpr h, writesPart_iff]
  obtain ⟨n, d⟩ := rate
  dsimp only
  constructor
  · intro h
    obtain ⟨⟨n', d'⟩, hparts, hpositive⟩ := Option.bind_eq_some_iff.mp h
    obtain ⟨_, hnumerator, hpair⟩ := Option.map_eq_some_iff.mp hparts
    cases hpair
    dsimp only at hpositive
    split_ifs at hpositive with hpos
    cases hpositive
    exact ⟨⟨hpos.1, hnumerator⟩, rfl⟩
  · rintro ⟨⟨hn, hnumerator⟩, rfl⟩
    simp [hnumerator, hn]

/-- A rate is read where it is written. -/
theorem ofChars?_eq_some_iff : Rate.ofChars? text = some rate ↔ WritesRate rate text := by
  constructor
  · intro h
    by_cases hslash : '/' ∈ text
    · obtain ⟨front, back, rfl, hfront⟩ := List.eq_append_cons_of_mem hslash
      obtain ⟨hn, hd⟩ := (ofChars?_append hfront).mp h
      exact .fraction hn hd
    · obtain ⟨hn, hd⟩ := (ofChars?_of_not_mem hslash).mp h
      obtain ⟨n, d⟩ := rate
      obtain rfl : d = 1 := hd
      exact .whole hn
  · intro h
    cases h with
    | whole h => exact (ofChars?_of_not_mem h.not_mem).mpr ⟨h, rfl⟩
    | fraction hn hd => exact (ofChars?_append hn.not_mem).mpr ⟨hn, hd⟩

/-- Blanks, a plus sign and zeros in front are no matter, but a second slash is. -/
example : Rate.ofChars? " +0030 /\t1001".toList = some ⟨30, 1001⟩ ∧ Rate.ofChars? "30/1/1".toList = none ∧
    Rate.ofChars? "2147483648".toList = none := by decide +kernel

/-! ## Printing -/

theorem numeral_toString (hpos : 0 < part) : Decimal.Numeral part.toNat (toString part).toList := by
  obtain ⟨n, rfl⟩ := Int.eq_ofNat_of_zero_le hpos.le
  exact Decimal.numeral_toString n

theorem writesPart_toString (hpos : 0 < part) (hle : part ≤ lastRatePart) :
    WritesPart part (toString part).toList :=
  ⟨hpos, hle, [], _, [], nofun, nofun, numeral_toString hpos, (List.append_nil _).symm⟩

theorem toList_text (rate : Rate) : rate.text.toList =
    (toString rate.numerator).toList ++ '/' :: (toString rate.denominator).toList := by
  show (toString rate.numerator ++ "/" ++ toString rate.denominator).toList = _
  rw [String.toList_append, String.toList_append, List.append_assoc]
  rfl

/-- What is printed of a positive rate stands for it. -/
theorem writesRate_text (h : rate.Positive) : WritesRate rate rate.text.toList := by
  rw [toList_text]
  exact .fraction (writesPart_toString h.numerator_pos h.numerator_le)
    (writesPart_toString h.denominator_pos h.denominator_le)

theorem not_isBlank_text (h : rate.Positive) : ∀ c ∈ rate.text.toList, ¬ Text.isBlank c := by
  rw [toList_text, List.forall_mem_append, List.forall_mem_cons]
  exact ⟨(numeral_toString h.numerator_pos).not_isBlank, by decide,
    (numeral_toString h.denominator_pos).not_isBlank⟩

/-! ## Streams with a rate -/

/-- A stream whose frames have their times. -/
structure Timed (info : Info) : Prop where
  positive : info.rate.Positive
  base_pos : 0 < info.timeBase.denominator
  /-- No time is the one that stands for a base without a denominator. -/
  seconds_eq : ∀ tick : Int, (info.timestamp tick).seconds =
    Number.div Format.binary64.round
      (Number.mul Format.binary64.round (.ofInt Format.binary64.round tick)
        (.ofInt Format.binary64.round info.rate.denominator))
      (.ofInt Format.binary64.round info.rate.numerator)
  /-- Nor is the number of frames in a second, which is positive. -/
  framesPerSecond_eq : info.framesPerSecond =
    Number.div Format.binary64.round (.ofInt Format.binary64.round info.rate.numerator)
      (.ofInt Format.binary64.round info.rate.denominator)
  framesPerSecond_pos : ∃ v : ℚ, info.framesPerSecond.value? = some v ∧ 0 < v
  /-- Only the first frame is shown at zero, for as long as the count of ticks fits its word. -/
  seconds_pos : ∀ tick : ℕ, 0 < tick → tick ≤ lastTick →
    ∃ v : ℚ, (info.timestamp tick).seconds.value? = some v ∧ 0 < v

section Timed

variable {info : Info}

theorem framesPerSecond_eq (h : info.rate.Positive) : info.framesPerSecond =
    Number.div Format.binary64.round (.ofInt Format.binary64.round info.rate.numerator)
      (.ofInt Format.binary64.round info.rate.denominator) :=
  if_neg h.denominator_pos.ne'

/-- The smallest quotient of two parts is a number of the format. -/
theorem holds_smallest : Format.binary64.Holds (.real (1 / 2 ^ 31)) :=
  ⟨0x3e00000000000000, by decide +kernel⟩

theorem framesPerSecond_pos (h : info.rate.Positive) :
    ∃ v : ℚ, info.framesPerSecond.value? = some v ∧ 0 < v := by
  have hround : Format.binary64.round.Admissible .binary64 := Format.admissible_round Format.proper_binary64
  obtain ⟨n, hn, hnOne, hnTop⟩ := exists_part hround h.numerator_pos h.numerator_le
  obtain ⟨d, hd, hdOne, hdTop⟩ := exists_part hround h.denominator_pos h.denominator_le
  have hlow : 1 / 2 ^ 31 ≤ n / d := div_le_div₀ (by linarith) hnOne (by linarith) hdTop
  have hhigh : n / d ≤ 2 ^ 31 := (div_le_self (by linarith) hdOne).trans hnTop
  obtain ⟨v, hv, hvLow, -⟩ := hround.exists_value holds_smallest Format.holds_powers.1 hlow hhigh
  refine ⟨v, ?_, lt_of_lt_of_le (by positivity) hvLow⟩
  rw [framesPerSecond_eq h]
  apply Number.value?_of_place?
  rw [(Number.rounds_div hround.eq_zero hd (by linarith)).finite hn, hv]

theorem seconds_pos (h : info.rate.Positive) {tick : ℕ} (hpos : 0 < tick) (hlast : tick ≤ lastTick) :
    ∃ v : ℚ, (info.timestamp tick).seconds.value? = some v ∧ 0 < v := by
  have hround : Format.binary64.round.Admissible .binary64 := Format.admissible_round Format.proper_binary64
  obtain ⟨n, hn, hnOne, hnTop⟩ := exists_part hround h.denominator_pos h.denominator_le
  obtain ⟨d, hd, hdOne, hdTop⟩ := exists_part hround h.numerator_pos h.numerator_le
  have hone : (1 : ℚ) ≤ ((tick : ℤ) : ℚ) := by exact_mod_cast hpos
  have htop : ((tick : ℤ) : ℚ) ≤ 2 ^ 63 := by
    have hle : tick ≤ 2 ^ 63 := hlast.trans (by decide)
    exact_mod_cast hle
  obtain ⟨t, ht, htOne, htTop⟩ :=
    hround.exists_value Format.binary64_holds_one Format.holds_powers.2.1 hone htop
  have hticks : (Number.ofInt Format.binary64.round tick).value? = some t :=
    Number.value?_of_place? ((place?_ofInt hround tick).trans ht)
  have hproduct : t * n ≤ 2 ^ 94 :=
    calc t * n ≤ 2 ^ 63 * 2 ^ 31 := mul_le_mul htTop hnTop (by linarith) (by positivity)
      _ = 2 ^ 94 := by norm_num
  obtain ⟨p, hp, hpOne, hpTop⟩ := hround.exists_value Format.binary64_holds_one Format.holds_powers.2.2
    (one_le_mul_of_one_le_of_one_le htOne hnOne) hproduct
  have hlow : 1 / 2 ^ 31 ≤ p / d := div_le_div₀ (by linarith) hpOne (by linarith) hdTop
  have hhigh : p / d ≤ 2 ^ 94 := (div_le_self (by linarith) hdOne).trans hpTop
  obtain ⟨v, hv, hvLow, -⟩ := hround.exists_value holds_smallest Format.holds_powers.2.2 hlow hhigh
  have hmul := Number.rounds_mul hround.eq_zero hn (by linarith)
  have hdiv := Number.rounds_div hround.eq_zero hd (by linarith)
  refine ⟨v, ?_, lt_of_lt_of_le (by positivity) hvLow⟩
  rw [Timestamp.seconds, secondsWith_eq h]
  apply Number.value?_of_place?
  rw [hdiv.finite (Number.value?_of_place? ((hmul.finite hticks).trans hp)), hv]

theorem timed (h : info.rate.Positive) : Timed info where
  positive := h
  base_pos := h.numerator_pos
  seconds_eq := secondsWith_eq h
  framesPerSecond_eq := framesPerSecond_eq h
  framesPerSecond_pos := framesPerSecond_pos h
  seconds_pos _ := seconds_pos h

end Timed

/-- A probe that finds a stream has printed a text that describes it. -/
theorem exists_text_of_probe {host : (request : Request) → request.Answer} {path : Path} {stream : Info}
    (h : (probe path).run host = .ok stream) : ∃ text, parseProbe text = .ok stream := by
  rw [probe, Session.run_bind, Session.run_start] at h
  cases hstarted : host (.start (probeCommand path)) with
  | error cause =>
    rw [hstarted] at h
    cases h
  | ok program =>
    rw [hstarted] at h
    replace h : infoOfCompletion (program []) = .ok stream := h
    unfold infoOfCompletion at h
    split_ifs at h
    cases htext : Utf8.decode? (program []).output with
    | error fault =>
      rw [htext] at h
      cases h
    | ok text =>
      rw [htext] at h
      exact ⟨text, h⟩

/-- The stream of a job has a positive rate, its own or the one asked for. -/
theorem positive_of_openVideo {host : (request : Request) → request.Answer} {path : Path}
    {asked : Option (List Char)} {stream : Info}
    (h : (CommandLine.openVideo path asked).run.run host = .ok stream) : stream.rate.Positive := by
  obtain ⟨_, -, h⟩ := Steps.eq_ok_of_bind h
  obtain ⟨_, -, h⟩ := Steps.eq_ok_of_bind h
  obtain ⟨found, hfound, h⟩ := Steps.eq_ok_of_bind h
  obtain ⟨rate, hrate, h⟩ := Steps.eq_ok_of_bind h
  cases h
  obtain ⟨text, htext⟩ := exists_text_of_probe (CommandLine.eq_ok_of_attempt hfound)
  replace hrate : (CommandLine.rateOf found asked).mapError id = .ok rate := hrate
  cases hread : CommandLine.rateOf found asked with
  | error failure =>
    rw [hread] at hrate
    cases hrate
  | ok read =>
    rw [hread] at hrate
    cases hrate
    exact Rate.positive_of_rateOf htext hread

/-! ## The contract -/

/-- What holds of the rates of streams. -/
structure RateContract : Prop where
  /-- A rate is read from the texts that stand for it, -/
  reads_iff : ∀ (text : List Char) (rate : Rate), Rate.ofChars? text = some rate ↔ WritesRate rate text
  /-- which have one slash in them or none. -/
  count_le : ∀ (text : List Char) (rate : Rate), WritesRate rate text → text.count '/' ≤ 1
  /-- What an encoder is started with is read back. -/
  readsBack : ∀ (path : Path) (width height : Nat) (rate : Rate), rate.Positive →
    ∃ before after text, (Encoder.command path width height rate).arguments =
      before ++ "-r".toList :: text :: after ∧ text = rate.text.toList ∧ Rate.ofChars? text = some rate
  timed_of_probed : ∀ (text : List Char) (stream : Info), parseProbe text = .ok stream → Timed stream
  timed_of_asked : ∀ (stream : Info) (text : List Char) (rate : Rate),
    CommandLine.rateOf stream (some text) = .ok rate → Timed { stream with rate }
  /-- The stream that a job decodes and encodes, whatever the host answers. -/
  timed_of_opened : ∀ (host : (request : Request) → request.Answer) (path : Path)
    (asked : Option (List Char)) (stream : Info),
    (CommandLine.openVideo path asked).run.run host = .ok stream → Timed stream

theorem rateContract : RateContract where
  reads_iff _ _ := ofChars?_eq_some_iff
  count_le _ _ := WritesRate.count_le
  readsBack path width height rate h :=
    ⟨["-y", "-loglevel", "error", "-f", "rawvideo", "-pix_fmt", "rgb24", "-s",
        s!"{width}x{height}"].map (·.toList), _, _, rfl, rfl, ofChars?_eq_some_iff.mpr (writesRate_text h)⟩
  timed_of_probed _ _ h := timed (Rate.positive_of_parseProbe h)
  timed_of_asked stream text rate h := by
    apply timed
    show rate.Positive
    cases hread : Rate.ofChars? text with
    | none =>
      rw [CommandLine.rateOf, hread] at h
      cases h
    | some read =>
      rw [CommandLine.rateOf, hread] at h
      cases h
      exact Rate.positive_of_ofChars? hread
  timed_of_opened _ _ _ _ h := timed (positive_of_openVideo h)

end FrameTransition.Video
