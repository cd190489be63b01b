import FrameTransition.CommandLine.Run
import FrameTransition.Proofs.Config.Progress
import FrameTransition.Proofs.Video.Promises

/-!
# When the frames of a video are shown

A decoder counts its frames in ticks of the stream's rate, the renderer asks for seconds, and the shader
sees progress. `inTime_of_opened` says that time does not run backwards on this way: of two frames that a
decoder hands out the later one has no smaller time and no smaller progress, the first frame has progress
zero, and every time is finite.

It rests on the rate being positive, which every reader of a rate sees to (`Rate.Positive`). Ticks, their
product with the length of a tick and the quotient are rounded one after the other; each of these steps
keeps the order, and none leaves the range between zero and `2 ^ 94`, which lies far inside the format.
-/

namespace FrameTransition.Video

/-! ## Rates -/

/-- The largest part of a rate. -/
def lastRatePart : Int := 2147483647

/-- A rate of frames that are shown one after the other. -/
structure Rate.Positive (rate : Rate) : Prop where
  numerator_pos : 0 < rate.numerator
  numerator_le : rate.numerator ≤ lastRatePart
  denominator_pos : 0 < rate.denominator
  denominator_le : rate.denominator ≤ lastRatePart

theorem le_of_signed32? {text : List Char} {value : Int} (h : Decimal.signed32? text = some value) :
    value ≤ lastRatePart := by
  have hrange := (Option.filter_eq_some_iff.mp h).2
  exact (of_decide_eq_true hrange).2

/-- A rate that can be read is positive. -/
theorem Rate.positive_of_ofChars? {text : List Char} {rate : Rate} (h : Rate.ofChars? text = some rate) :
    rate.Positive := by
  unfold Rate.ofChars? at h
  obtain ⟨⟨n, d⟩, hparts, hrate⟩ := Option.bind_eq_some_iff.mp h
  dsimp only at hrate
  split at hrate
  · next hpositive =>
    cases hrate
    cases hsplit : Text.splitOnce? '/' text with
    | none =>
      rw [hsplit] at hparts
      obtain ⟨whole, hwhole, hpair⟩ := Option.map_eq_some_iff.mp hparts
      cases hpair
      exact ⟨hpositive.1, le_of_signed32? hwhole, hpositive.2, show (1 : Int) ≤ lastRatePart by decide⟩
    | some parts =>
      rw [hsplit] at hparts
      obtain ⟨numerator, hnumerator, hparts⟩ := Option.bind_eq_some_iff.mp hparts
      obtain ⟨denominator, hdenominator, hpair⟩ := Option.map_eq_some_iff.mp hparts
      cases hpair
      exact ⟨hpositive.1, le_of_signed32? hnumerator, hpositive.2, le_of_signed32? hdenominator⟩
  · cases hrate

namespace Probed

/-- A rate that was read so far is positive. -/
def RatePositive (probed : Probed) : Prop :=
  ∀ rate, probed.rate = some rate → rate.Positive

theorem RatePositive.set {probed : Probed} (h : probed.RatePositive) (key value : List Char) :
    (probed.set key value).RatePositive := by
  unfold Probed.set
  split_ifs with hwidth hheight hrate hduration
  · exact h
  · exact h
  · exact fun _ => Rate.positive_of_ofChars?
  · exact h
  · exact h

theorem RatePositive.readLine {probed : Probed} (h : probed.RatePositive) (line : List Char) :
    (probed.readLine line).RatePositive := by
  unfold Probed.readLine
  split
  · exact h.set _ _
  · exact h

theorem RatePositive.of_info {probed : Probed} (h : probed.RatePositive) {stream : Info}
    (hinfo : probed.info = .ok stream) : stream.rate.Positive := by
  unfold Probed.info at hinfo
  cases hwidth : probed.width with
  | none => simp [hwidth] at hinfo
  | some width =>
    cases hheight : probed.height with
    | none => simp [hwidth, hheight] at hinfo
    | some height =>
      cases hrate : probed.rate with
      | none => simp [hwidth, hheight, hrate] at hinfo
      | some rate =>
        simp only [hwidth, hheight, hrate] at hinfo
        cases hinfo
        exact h rate hrate

end Probed

/-- A probe without a rate describes no stream. -/
theorem Rate.positive_of_parseProbe {text : List Char} {stream : Info}
    (h : parseProbe text = .ok stream) : stream.rate.Positive := by
  have hread : ((Text.lines text).foldl Probed.readLine Probed.empty).RatePositive :=
    List.foldlRecOn (Text.lines text) Probed.readLine nofun fun _ hprobed line _ => hprobed.readLine line
  exact hread.of_info h

/-- The rate of a stream is positive, and so is one that is asked for in its place. -/
theorem Rate.positive_of_rateOf {text : List Char} {stream : Info} {asked : Option (List Char)}
    {rate : Rate} (hprobe : parseProbe text = .ok stream)
    (hrate : CommandLine.rateOf stream asked = .ok rate) : rate.Positive := by
  unfold CommandLine.rateOf at hrate
  cases asked with
  | some asked =>
    dsimp only at hrate
    cases hread : Rate.ofChars? asked with
    | none =>
      rw [hread] at hrate
      cases hrate
    | some found =>
      rw [hread] at hrate
      cases hrate
      exact positive_of_ofChars? hread
  | none =>
    cases hrate
    exact positive_of_parseProbe hprobe

/-! ## Seconds -/

/-- The largest number of ticks: a decoder counts its frames in a signed 64-bit word. -/
def lastTick : Nat := 9223372036854775807

section Seconds

variable {ρ : Rounding} {info : Info} {i j : ℕ}

theorem place?_ofInt (hρ : ρ.Admissible .binary64) (k : ℤ) : (Number.ofInt ρ k).place? = (ρ k).place? :=
  Number.place?_ofExact hρ.eq_zero _ _

/-- A part of a rate is rounded to a number from one to `2 ^ 31`. -/
theorem exists_part (hρ : ρ.Admissible .binary64) {part : ℤ} (hpos : 0 < part)
    (hle : part ≤ lastRatePart) :
    ∃ v : ℚ, (Number.ofInt ρ part).value? = some v ∧ 1 ≤ v ∧ v ≤ 2 ^ 31 := by
  have hpart : (part : ℚ) ≤ 2 ^ 31 := by
    have hlast : part ≤ 2 ^ 31 := hle.trans (by decide)
    exact_mod_cast hlast
  obtain ⟨v, hv, hone, htop⟩ := hρ.exists_value Format.binary64_holds_one Format.holds_powers.1
    (by exact_mod_cast hpos) hpart
  exact ⟨v, Number.value?_of_place? ((place?_ofInt hρ part).trans hv), hone, htop⟩

/-- The two steps behind the ticks, with the values they are taken at. -/
theorem exists_rounds_seconds (hρ : ρ.Admissible .binary64) (hrate : info.rate.Positive) :
    ∃ n d : ℚ, 1 ≤ n ∧ n ≤ 2 ^ 31 ∧ 1 ≤ d ∧
      Number.Rounds ρ (· * n) (Number.mul ρ · (.ofInt ρ info.rate.denominator)) ∧
      Number.Rounds ρ (· / d) (Number.div ρ · (.ofInt ρ info.rate.numerator)) := by
  have hzero := hρ.eq_zero
  obtain ⟨n, hn, hnOne, hnTop⟩ := exists_part hρ hrate.denominator_pos hrate.denominator_le
  obtain ⟨d, hd, hdOne, -⟩ := exists_part hρ hrate.numerator_pos hrate.numerator_le
  exact ⟨n, d, hnOne, hnTop, hdOne, Number.rounds_mul hzero hn (by linarith),
    Number.rounds_div hzero hd (by linarith)⟩

theorem secondsWith_eq (hrate : info.rate.Positive) (tick : ℤ) :
    (info.timestamp tick).secondsWith ρ =
      Number.div ρ (Number.mul ρ (.ofInt ρ tick) (.ofInt ρ info.rate.denominator))
        (.ofInt ρ info.rate.numerator) :=
  if_neg hrate.numerator_pos.ne'

theorem secondsWith_le (hρ : ρ.Admissible .binary64) (hrate : info.rate.Positive) (hij : i ≤ j) :
    Number.le ((info.timestamp i).secondsWith ρ) ((info.timestamp j).secondsWith ρ) = true := by
  obtain ⟨n, d, hn, -, hd, hmul, hdiv⟩ := exists_rounds_seconds hρ hrate
  have hticks : Number.le (.ofInt ρ i) (.ofInt ρ j) = true := by
    rw [Number.le_congr (place?_ofInt hρ i) (place?_ofInt hρ j)]
    exact hρ.le_of_le (by exact_mod_cast hij)
  rw [secondsWith_eq hrate, secondsWith_eq hrate]
  refine hdiv.le (fun _ _ hle => div_le_div_of_nonneg_right hle (by linarith)) hρ.le_of_le ?_
  exact hmul.le (fun _ _ hle => mul_le_mul_of_nonneg_right hle (by linarith)) hρ.le_of_le hticks

/-- No step of the arithmetic leaves the range from zero to `2 ^ 94`. -/
theorem exists_secondsWith (hρ : ρ.Admissible .binary64) (hrate : info.rate.Positive)
    (hi : i ≤ lastTick) :
    ∃ v : ℚ, ((info.timestamp i).secondsWith ρ).value? = some v ∧ 0 ≤ v ∧ v ≤ 2 ^ 94 := by
  obtain ⟨n, d, hn, hnTop, hd, hmul, hdiv⟩ := exists_rounds_seconds hρ hrate
  have hzero := Format.holds_zero .binary64 Format.proper_binary64
  have hlast : (i : ℚ) ≤ 2 ^ 63 := by
    have hle : i ≤ 2 ^ 63 := hi.trans (by decide)
    exact_mod_cast hle
  obtain ⟨t, ht, htPos, htTop⟩ :=
    hρ.exists_value hzero Format.holds_powers.2.1 (x := ((i : ℤ) : ℚ)) (by positivity) (by simpa using hlast)
  have hticks : (Number.ofInt ρ i).value? = some t :=
    Number.value?_of_place? ((place?_ofInt hρ i).trans ht)
  have hproduct : t * n ≤ 2 ^ 94 :=
    calc t * n ≤ 2 ^ 63 * 2 ^ 31 := mul_le_mul htTop hnTop (by linarith) (by positivity)
      _ = 2 ^ 94 := by norm_num
  obtain ⟨p, hp, hpPos, hpTop⟩ :=
    hρ.exists_value hzero Format.holds_powers.2.2 (mul_nonneg htPos (by linarith)) hproduct
  obtain ⟨q, hq, hqPos, hqTop⟩ := hρ.exists_value hzero Format.holds_powers.2.2
    (div_nonneg hpPos (by linarith)) ((div_le_self hpPos hd).trans hpTop)
  refine ⟨q, Number.value?_of_place? ?_, hqPos, hqTop⟩
  rw [secondsWith_eq hrate, hdiv.finite (Number.value?_of_place? ((hmul.finite hticks).trans hp)), hq]

/-- The first frame is shown at zero. -/
theorem place?_secondsWith_zero (hρ : ρ.Admissible .binary64) (hrate : info.rate.Positive) :
    ((info.timestamp 0).secondsWith ρ).place? = (Number.real 0).place? := by
  have hzero := hρ.eq_zero
  obtain ⟨n, d, -, -, -, hmul, hdiv⟩ := exists_rounds_seconds hρ hrate
  have hticks : (Number.ofInt ρ 0).value? = some 0 := rfl
  have hproduct : (Number.mul ρ (.ofInt ρ 0) (.ofInt ρ info.rate.denominator)).place? =
      some (.ofRat 0) := by
    rw [hmul.finite hticks, zero_mul, hzero]
    rfl
  rw [secondsWith_eq hrate, hdiv.finite (Number.value?_of_place? hproduct), zero_div, hzero]

end Seconds

/-! ## Frames of a decoder -/

namespace Decoder

variable {decoder : Decoder}

/-- No answer but a frame comes before a frame. -/
theorem getElem?_framesOf_take {calls k : Nat} {frame : Frame}
    (h : (decoder.take calls)[k]? = some (.ok (some frame))) :
    (framesOf (decoder.take calls))[k]? = some frame := by
  induction calls generalizing decoder k with
  | zero => cases h
  | succ calls ih =>
    rcases decoder.lacksFrame_or_next with hlacks | ⟨data, output, hnext⟩
    · have hmem := mem_framesOf (List.mem_of_getElem? h)
      rw [framesOf_take_of_lacksFrame hlacks] at hmem
      cases hmem
    · rw [take, hnext] at h ⊢
      cases k with
      | zero =>
        cases h
        rfl
      | succ k => exact ih h

end Decoder

/-- Two frames are shown in order: what is made of their times in seconds, of the time that has passed
since the offset, and of progress. -/
structure InTime (seconds : Timestamp → Number) (elapsed progress : Number → Number)
    (earlier later : Timestamp) : Prop where
  seconds_le : Number.le (seconds earlier) (seconds later) = true
  progress_le : Number.le (progress (seconds earlier)) (progress (seconds later)) = true
  /-- The first frame of a stream shows the transition before its start. -/
  progress_of_first : earlier.ticks = 0 → (progress (seconds earlier)).value? = some 0
  /-- Times stay finite for as long as the count of ticks fits its word. -/
  isFinite_earlier : earlier.ticks ≤ lastTick →
    (seconds earlier).isFinite = true ∧ (elapsed (seconds earlier)).isFinite = true
  isFinite_later : later.ticks ≤ lastTick →
    (seconds later).isFinite = true ∧ (elapsed (seconds later)).isFinite = true

section Order

variable {config : Config} {wide narrow : Rounding} {info : Info} {i j : ℕ}

theorem isFinite_times (hconfig : config.Obtained) (hwide : wide.Admissible .binary64)
    (hrate : info.rate.Positive) (hi : (info.timestamp i).ticks ≤ lastTick) :
    ((info.timestamp i).secondsWith wide).isFinite = true ∧
      (Number.sub wide ((info.timestamp i).secondsWith wide) config.offset).isFinite = true := by
  obtain ⟨v, hv, hpos, htop⟩ := exists_secondsWith hwide hrate (Int.ofNat_le.mp hi)
  exact ⟨Number.isFinite_of_value? hv, Config.isFinite_elapsed hconfig hwide Format.holds_powers.2.2 hv hpos htop⟩

theorem inTime (hconfig : config.Obtained) (hwide : wide.Admissible .binary64)
    (hnarrow : narrow.Admissible .binary32) (hrate : info.rate.Positive) (hij : i ≤ j) :
    InTime (·.secondsWith wide) (Number.sub wide · config.offset) (config.progressWith wide narrow)
      (info.timestamp i) (info.timestamp j) where
  seconds_le := secondsWith_le hwide hrate hij
  progress_le := Config.progressWith_le hwide hnarrow (secondsWith_le hwide hrate hij)
  progress_of_first := by
    intro hfirst
    obtain rfl : i = 0 := Int.ofNat_eq_zero.mp hfirst
    have hzero : ((info.timestamp (0 : ℕ)).secondsWith wide).place? = (Number.real 0).place? :=
      place?_secondsWith_zero hwide hrate
    refine Config.value?_progressWith_of_le_offset hwide hnarrow ?_
    rw [Number.le_congr hzero rfl]
    exact config.zero_le_offset
  isFinite_earlier := isFinite_times hconfig hwide hrate
  isFinite_later := isFinite_times hconfig hwide hrate

end Order

/-- Of two frames that a decoder hands out of a stream, probed as it is or set to another rate, the later
one is shown no earlier and with no less progress, under all admissible roundings and under the one the
library runs with. -/
theorem inTime_of_opened {config : Config} (hconfig : config.Obtained) {text : List Char}
    {stream : Info} {asked : Option (List Char)} {rate : Rate} (hprobe : parseProbe text = .ok stream)
    (hrate : CommandLine.rateOf stream asked = .ok rate) {bytes : List UInt8} {exit : Exit}
    {decoder : Decoder} (hopened : decoder.Opened { stream with rate } bytes exit) {calls i j : Nat}
    (hij : i ≤ j) {earlier later : Frame} (hearlier : (decoder.take calls)[i]? = some (.ok (some earlier)))
    (hlater : (decoder.take calls)[j]? = some (.ok (some later))) :
    ∃ s t : Timestamp, earlier.timestamp = some s ∧ later.timestamp = some t ∧
      s.ticks = i ∧ t.ticks = j ∧
      (∀ {wide narrow : Rounding}, wide.Admissible .binary64 → narrow.Admissible .binary32 →
        InTime (·.secondsWith wide) (Number.sub wide · config.offset) (config.progressWith wide narrow)
          s t) ∧
      InTime Timestamp.seconds (Number.sub Format.binary64.round · config.offset) config.progressAt
        s t := by
  have hpositive : Rate.Positive { stream with rate : Info }.rate := Rate.positive_of_rateOf hprobe hrate
  have hstamp : ∀ tick : Nat, decoder.info.timestamp (decoder.index + tick : Nat) =
      { stream with rate : Info }.timestamp tick := by
    intro tick
    rw [hopened.info_eq, hopened.index_eq, Nat.zero_add]
  refine ⟨_, _, Decoder.timestamp_of_take (Decoder.getElem?_framesOf_take hearlier),
    Decoder.timestamp_of_take (Decoder.getElem?_framesOf_take hlater), ?_⟩
  rw [hstamp, hstamp]
  exact ⟨rfl, rfl, fun hwide hnarrow => inTime hconfig hwide hnarrow hpositive hij,
    inTime hconfig (Format.admissible_round Format.proper_binary64)
      (Format.admissible_round Format.proper_binary32) hpositive hij⟩

/-- The two frames of a probed stream of one pixel, under the default transition. -/
theorem inTime_of_opened_one_pixel :
    let text := "width=1\nheight=1\nr_frame_rate=30000/1001\n".toList
    let info : Info := ⟨1, 1, ⟨30000, 1001⟩, none⟩
    let decoder : Decoder := ⟨info, 0, [[1, 2], [3, 4, 5, 6]], .success⟩
    let first : Frame := ⟨1, 1, some ⟨0, ⟨1001, 30000⟩⟩, [1, 2, 3]⟩
    let second : Frame := ⟨1, 1, some ⟨1, ⟨1001, 30000⟩⟩, [4, 5, 6]⟩
    Config.default.Obtained ∧ parseProbe text = .ok info ∧
      CommandLine.rateOf info none = .ok ⟨30000, 1001⟩ ∧
      decoder.Opened info [1, 2, 3, 4, 5, 6] .success ∧
      (decoder.take 2)[0]? = some (.ok (some first)) ∧ (decoder.take 2)[1]? = some (.ok (some second)) ∧
      InTime Timestamp.seconds (Number.sub Format.binary64.round · Config.default.offset)
        Config.default.progressAt ⟨0, ⟨1001, 30000⟩⟩ ⟨1, ⟨1001, 30000⟩⟩ := by
  have hprobe : parseProbe "width=1\nheight=1\nr_frame_rate=30000/1001\n".toList =
      .ok ⟨1, 1, ⟨30000, 1001⟩, none⟩ := by decide +kernel
  have hopened : Decoder.Opened ⟨1, 1, ⟨30000, 1001⟩, none⟩ [1, 2, 3, 4, 5, 6] .success
      ⟨⟨1, 1, ⟨30000, 1001⟩, none⟩, 0, [[1, 2], [3, 4, 5, 6]], .success⟩ := ⟨rfl, rfl, rfl, rfl⟩
  have hrate : CommandLine.rateOf ⟨1, 1, ⟨30000, 1001⟩, none⟩ none = .ok ⟨30000, 1001⟩ := rfl
  have hfirst : (Decoder.take 2 ⟨⟨1, 1, ⟨30000, 1001⟩, none⟩, 0, [[1, 2], [3, 4, 5, 6]], .success⟩)[0]? =
      some (.ok (some ⟨1, 1, some ⟨0, ⟨1001, 30000⟩⟩, [1, 2, 3]⟩)) := rfl
  have hsecond : (Decoder.take 2 ⟨⟨1, 1, ⟨30000, 1001⟩, none⟩, 0, [[1, 2], [3, 4, 5, 6]], .success⟩)[1]? =
      some (.ok (some ⟨1, 1, some ⟨1, ⟨1001, 30000⟩⟩, [4, 5, 6]⟩)) := rfl
  obtain ⟨s, t, hs, ht, -, -, -, hinTime⟩ :=
    inTime_of_opened .default hprobe hrate hopened (Nat.zero_le 1) hfirst hsecond
  cases hs
  cases ht
  exact ⟨.default, hprobe, hrate, hopened, hfirst, hsecond, hinTime⟩

end FrameTransition.Video
