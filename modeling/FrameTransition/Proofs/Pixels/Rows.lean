import FrameTransition.Pixels.Rows
import Mathlib.Tactic.IntervalCases
import Mathlib.Tactic.Ring

/-!
# Bytes of cut and converted rows

Where each byte of a row conversion comes from. A picture of `width` pixels a row has byte `channel` of
pixel `column` of row `row` at `3 * (row * width + column) + channel` when it is packed RGB and at
`4 * (row * width + column) + channel` when it is RGBA; a padded picture starts its rows every `stride`
bytes. `getElem?_expandRows` and `getElem?_packRows` say for the two conversions which byte of the source
stands at such a place, and `ext_of_pixels` that these places are all there are. A conversion of a whole
picture therefore keeps nothing of the buffer it writes into (`expandRows_of_length`,
`exists_packRows_of_length`).

The cutting functions recurse on what is left of the buffer; here they become slices at multiples of the
row length (`getElem?_wholeRows`, `getElem?_rows`), and lists of rows of one length are indexed by a row
and a place in it (`getElem?_flatMap_append`).
-/

namespace FrameTransition.Pixels

/-! ## Lists of rows of one length -/

theorem length_flatMap_of_length {α β : Type} {f : α → List β} {size : Nat} {items : List α}
    (h : ∀ item ∈ items, (f item).length = size) :
    (items.flatMap f).length = items.length * size := by
  induction items with
  | nil => simp
  | cons item items ih =>
    rw [List.flatMap_cons, List.length_append, h item List.mem_cons_self,
      ih fun other hother => h other (List.mem_cons_of_mem _ hother), List.length_cons]
    ring

/-- A place in a concatenation of rows of one length is a place in one of the rows. -/
theorem getElem?_flatMap_append {α β : Type} {f : α → List β} {size : Nat} {items : List α}
    (h : ∀ item ∈ items, (f item).length = size) {row place : Nat} {item : α}
    (hitem : items[row]? = some item) (hplace : place < size) (back : List β) :
    (items.flatMap f ++ back)[row * size + place]? = (f item)[place]? := by
  induction items generalizing row with
  | nil => cases hitem
  | cons first items ih =>
    have hfirst : (f first).length = size := h first List.mem_cons_self
    rw [List.flatMap_cons, List.append_assoc]
    cases row with
    | zero =>
      cases hitem
      rw [List.getElem?_append_left (by omega), Nat.zero_mul, Nat.zero_add]
    | succ row =>
      have hindex : (row + 1) * size + place - size = row * size + place := by
        rw [Nat.succ_mul]
        omega
      rw [List.getElem?_append_right (by rw [hfirst, Nat.succ_mul]; omega), hfirst, hindex]
      exact ih (fun other hother => h other (List.mem_cons_of_mem _ hother)) hitem

/-! ## Cutting -/

/-- A row that was cut out starts at a multiple of the row length. -/
theorem getElem?_wholeRows {size : Nat} (hsize : 0 < size) (bytes : List UInt8) (row : Nat) :
    (wholeRows size bytes)[row]? =
      if row < bytes.length / size then some ((bytes.drop (row * size)).take size) else none := by
  fun_induction wholeRows size bytes generalizing row with
  | case1 bytes hfits ih =>
    have hcount : bytes.length / size = (bytes.drop size).length / size + 1 := by
      rw [List.length_drop, ← Nat.sub_add_cancel hfits.2, Nat.add_div_right _ hsize,
        Nat.sub_add_cancel hfits.2]
    cases row with
    | zero => simp [hcount]
    | succ row =>
      rw [List.getElem?_cons_succ, ih, hcount, List.drop_drop]
      simp only [Nat.add_lt_add_iff_right, Nat.succ_mul, Nat.add_comm size]
  | case2 bytes hshort =>
    have hcount : bytes.length / size = 0 := Nat.div_eq_of_lt (by omega)
    simp [hcount]

theorem length_wholeRows {size : Nat} (hsize : 0 < size) (bytes : List UInt8) :
    (wholeRows size bytes).length = bytes.length / size := by
  fun_induction wholeRows size bytes with
  | case1 bytes hfits ih =>
    rw [List.length_cons, ih, List.length_drop, ← Nat.add_div_right _ hsize,
      Nat.sub_add_cancel hfits.2]
  | case2 bytes hshort => exact (Nat.div_eq_of_lt (by omega)).symm

/-- A buffer of whole rows is cut into all of them. -/
theorem length_wholeRows_of_length {size count : Nat} (hsize : 0 < size) {bytes : List UInt8}
    (h : bytes.length = count * size) : (wholeRows size bytes).length = count := by
  rw [length_wholeRows hsize, h, Nat.mul_div_cancel _ hsize]

theorem getElem?_wholeRows_of_length {size count : Nat} (hsize : 0 < size) {bytes : List UInt8}
    (h : bytes.length = count * size) {row : Nat} (hrow : row < count) :
    (wholeRows size bytes)[row]? = some ((bytes.drop (row * size)).take size) := by
  rw [getElem?_wholeRows hsize, h, Nat.mul_div_cancel _ hsize, if_pos hrow]

theorem length_of_mem_wholeRows {size : Nat} {bytes row : List UInt8}
    (h : row ∈ wholeRows size bytes) : row.length = size := by
  fun_induction wholeRows size bytes with
  | case1 bytes hfits ih =>
    rcases List.mem_cons.mp h with rfl | hlater
    · exact List.length_take_of_le hfits.2
    · exact ih hlater
  | case2 bytes hshort => cases h

/-- A row of a padded picture starts at a multiple of the pitch. -/
theorem getElem?_rows {size : Nat} (hsize : 0 < size) (bytes : List UInt8) (row : Nat) :
    (rows size bytes)[row]? =
      if row * size < bytes.length then some ((bytes.drop (row * size)).take size) else none := by
  fun_induction rows size bytes generalizing row with
  | case1 bytes hfits ih =>
    have hpos : 0 < bytes.length := List.length_pos_iff.mpr hfits.2
    cases row with
    | zero => simp [hpos]
    | succ row =>
      have hlt : row * size < bytes.length - size ↔ (row + 1) * size < bytes.length := by
        rw [Nat.succ_mul]
        omega
      rw [List.getElem?_cons_succ, ih, List.drop_drop, List.length_drop]
      simp only [hlt, Nat.succ_mul, Nat.add_comm size]
  | case2 bytes hempty =>
    have hnil : bytes = [] := by
      by_contra hne
      exact hempty ⟨hsize, hne⟩
    simp [hnil]

/-- The last row of a padded picture may be short. -/
theorem length_rows {size : Nat} (hsize : 0 < size) (bytes : List UInt8) :
    (rows size bytes).length = (bytes.length + size - 1) / size := by
  fun_induction rows size bytes with
  | case1 bytes hfits ih =>
    have hpos : 0 < bytes.length := List.length_pos_iff.mpr hfits.2
    rw [List.length_cons, ih, List.length_drop]
    by_cases hlast : bytes.length ≤ size
    · have hnone : (bytes.length - size + size - 1) / size = 0 := Nat.div_eq_of_lt (by omega)
      have hone : (bytes.length + size - 1) / size = 1 :=
        Nat.div_eq_of_lt_le (by omega) (by omega)
      rw [hnone, hone]
    · rw [← Nat.add_div_right _ hsize]
      congr 1
      omega
  | case2 bytes hempty =>
    have hnil : bytes = [] := by
      by_contra hne
      exact hempty ⟨hsize, hne⟩
    rw [hnil, List.length_nil, List.length_nil, Nat.zero_add]
    exact (Nat.div_eq_of_lt (by omega)).symm

/-- A byte of a slice at a multiple of the row length. -/
theorem getElem?_slice {size place : Nat} (hplace : place < size) (start : Nat) (bytes : List UInt8) :
    ((bytes.drop start).take size)[place]? = bytes[start + place]? := by
  rw [List.getElem?_take_of_lt hplace, List.getElem?_drop]

/-! ## Converting pixels -/

/-- The colours of a pixel stay the first three of its bytes. -/
theorem getElem?_addAlpha {rgb : List UInt8} {pixel channel : Nat} (hpixel : 3 * pixel + 3 ≤ rgb.length)
    (hchannel : channel < 3) : (addAlpha rgb)[4 * pixel + channel]? = rgb[3 * pixel + channel]? := by
  fun_induction addAlpha rgb generalizing pixel with
  | case1 r g b rest ih =>
    cases pixel with
    | zero => interval_cases channel <;> rfl
    | succ pixel =>
      have hrest : 3 * pixel + 3 ≤ rest.length := by
        simp only [List.length_cons] at hpixel
        omega
      have hfour : 4 * (pixel + 1) + channel = 4 * pixel + channel + 1 + 1 + 1 + 1 := by ring
      have hthree : 3 * (pixel + 1) + channel = 3 * pixel + channel + 1 + 1 + 1 := by ring
      rw [hfour, hthree]
      simpa only [List.getElem?_cons_succ] using ih hrest
  | case2 rgb hshort =>
    match rgb, hshort with
    | r :: g :: b :: rest, hshort => exact absurd rfl (hshort r g b rest)
    | [], _ | [_], _ | [_, _], _ =>
      simp only [List.length_cons, List.length_nil] at hpixel
      omega

/-- The last byte of a pixel is its alpha. -/
theorem getElem?_addAlpha_alpha {rgb : List UInt8} {pixel : Nat} (hpixel : 3 * pixel + 3 ≤ rgb.length) :
    (addAlpha rgb)[4 * pixel + 3]? = some 255 := by
  fun_induction addAlpha rgb generalizing pixel with
  | case1 r g b rest ih =>
    cases pixel with
    | zero => rfl
    | succ pixel =>
      have hrest : 3 * pixel + 3 ≤ rest.length := by
        simp only [List.length_cons] at hpixel
        omega
      have hfour : 4 * (pixel + 1) + 3 = 4 * pixel + 3 + 1 + 1 + 1 + 1 := by ring
      rw [hfour]
      simpa only [List.getElem?_cons_succ] using ih hrest
  | case2 rgb hshort =>
    match rgb, hshort with
    | r :: g :: b :: rest, hshort => exact absurd rfl (hshort r g b rest)
    | [], _ | [_], _ | [_, _], _ =>
      simp only [List.length_cons, List.length_nil] at hpixel
      omega

theorem getElem?_dropAlpha {rgba : List UInt8} {pixel channel : Nat}
    (hpixel : 4 * pixel + 4 ≤ rgba.length) (hchannel : channel < 3) :
    (dropAlpha rgba)[3 * pixel + channel]? = rgba[4 * pixel + channel]? := by
  fun_induction dropAlpha rgba generalizing pixel with
  | case1 r g b a rest ih =>
    cases pixel with
    | zero => interval_cases channel <;> rfl
    | succ pixel =>
      have hrest : 4 * pixel + 4 ≤ rest.length := by
        simp only [List.length_cons] at hpixel
        omega
      have hfour : 4 * (pixel + 1) + channel = 4 * pixel + channel + 1 + 1 + 1 + 1 := by ring
      have hthree : 3 * (pixel + 1) + channel = 3 * pixel + channel + 1 + 1 + 1 := by ring
      rw [hfour, hthree]
      simpa only [List.getElem?_cons_succ] using ih hrest
  | case2 rgba hshort =>
    match rgba, hshort with
    | r :: g :: b :: a :: rest, hshort => exact absurd rfl (hshort r g b a rest)
    | [], _ | [_], _ | [_, _], _ | [_, _, _], _ =>
      simp only [List.length_cons, List.length_nil] at hpixel
      omega

theorem length_dropAlpha (pixels : Nat) (rgba : List UInt8) (h : rgba.length = pixels * 4) :
    (dropAlpha rgba).length = pixels * 3 := by
  induction pixels generalizing rgba with
  | zero =>
    have hnil : rgba = [] := List.length_eq_zero_iff.mp (by omega)
    subst hnil
    rfl
  | succ pixels ih =>
    match rgba, h with
    | r :: g :: b :: a :: rest, h =>
      have hrest := ih rest (by simp only [List.length_cons] at h; omega)
      simp only [dropAlpha, List.length_cons, hrest]
      ring
    | [], h | [_], h | [_, _], h | [_, _, _], h =>
      simp only [List.length_cons, List.length_nil] at h
      omega

/-! ## From a frame to a texture -/

section Expand

variable {rgb rgba out : List UInt8} {width height : Nat}

/-- A texture that holds the rows gets them, whatever it held before. -/
theorem exists_expandRows (hwidth : 0 < width) (hrgba : width * height * rgbaSize ≤ rgba.length) :
    ∃ out, expandRows? rgb width height rgba = some out := by
  unfold expandRows?
  rw [if_neg (by omega)]
  dsimp only
  split
  · exact ⟨rgba, rfl⟩
  · rw [if_neg (by omega)]
    exact ⟨_, rfl⟩

/-- The rows of a frame that are converted, each as a slice of it. -/
theorem getElem?_takeRows {size : Nat} (hsize : 0 < size) {row : Nat} (hrow : row < height)
    (hrgb : (row + 1) * size ≤ rgb.length) :
    ((wholeRows size rgb).take height)[row]? = some ((rgb.drop (row * size)).take size) := by
  have hcount : row < rgb.length / size := (Nat.le_div_iff_mul_le hsize).mpr hrgb
  rw [List.getElem?_take_of_lt hrow, getElem?_wholeRows hsize, if_pos hcount]

/-- An expanded texture with at least one row written: `written` are the rows of the frame, and the
texture keeps what is below them and what is behind them. -/
theorem expandRows_eq_append (hout : expandRows? rgb width height rgba = some out)
    {written : List (List UInt8)} (hwritten : (wholeRows (width * 3) rgb).take height = written)
    (hne : written ≠ []) :
    width * height * 4 ≤ rgba.length ∧
      out = rgba.take ((height - written.length) * (width * 4)) ++
        (written.reverse.flatMap addAlpha ++ rgba.drop (width * height * 4)) := by
  unfold expandRows? at hout
  simp only [rgbSize, rgbaSize, hwritten, if_neg hne] at hout
  split at hout
  · cases hout
  · split at hout
    · cases hout
    · next hfits =>
      rw [← List.append_assoc]
      exact ⟨by omega, (Option.some.inj hout).symm⟩

/-- The rows that were written, each of its full length. -/
theorem length_addAlpha_of_mem {written : List (List UInt8)}
    (hwritten : (wholeRows (width * 3) rgb).take height = written) :
    ∀ slice ∈ written.reverse, (addAlpha slice).length = width * 4 := by
  intro slice hslice
  rw [List.mem_reverse, ← hwritten] at hslice
  exact length_addAlpha width slice (length_of_mem_wholeRows (List.mem_of_mem_take hslice))

/-- The part of a texture below the rows that were written. -/
theorem length_takeUnwritten (hfits : width * height * 4 ≤ rgba.length) (written : Nat) :
    (rgba.take ((height - written) * (width * 4))).length = (height - written) * (width * 4) := by
  refine List.length_take_of_le (Nat.le_trans (Nat.mul_le_mul_right _ (Nat.sub_le _ _)) ?_)
  rwa [← Nat.mul_assoc, Nat.mul_comm height]

/-- Expanding writes over a texture's bytes and adds none. -/
theorem length_expandRows (hout : expandRows? rgb width height rgba = some out) :
    out.length = rgba.length := by
  by_cases hne : (wholeRows (width * rgbSize) rgb).take height = []
  · unfold expandRows? at hout
    split at hout
    · cases hout
    · dsimp only at hout
      rw [if_pos hne] at hout
      rw [Option.some.inj hout]
  · generalize hwritten : (wholeRows (width * rgbSize) rgb).take height = written at hne
    obtain ⟨hfits, hpieces⟩ := expandRows_eq_append hout hwritten hne
    have hall : written.length ≤ height := hwritten ▸ List.length_take_le _ _
    have hrows : (height - written.length) * (width * 4) + written.length * (width * 4) =
        width * height * 4 := by
      rw [← Nat.add_mul, Nat.sub_add_cancel hall]
      ring
    rw [hpieces, List.length_append, List.length_append, length_takeUnwritten hfits,
      length_flatMap_of_length (length_addAlpha_of_mem hwritten), List.length_reverse, List.length_drop]
    omega

/-- A row of a frame, cut out of it, has all its pixels. -/
theorem pixel_le_length_slice {row column : Nat} (hrgb : (row + 1) * (width * 3) ≤ rgb.length)
    (hcolumn : column < width) :
    3 * column + 3 ≤ ((rgb.drop (row * (width * 3))).take (width * 3)).length := by
  rw [Nat.succ_mul] at hrgb
  rw [List.length_take, List.length_drop]
  omega

/-- Row `row` of the frame is row `height - 1 - row` of the texture, with its alpha. -/
theorem getElem?_expandRows_addAlpha (hout : expandRows? rgb width height rgba = some out)
    {row column channel : Nat} (hrow : row < height) (hrgb : (row + 1) * (width * 3) ≤ rgb.length)
    (hcolumn : column < width) (hchannel : channel < 4) :
    out[4 * ((height - 1 - row) * width + column) + channel]? =
      (addAlpha ((rgb.drop (row * (width * 3))).take (width * 3)))[4 * column + channel]? := by
  have hfound := getElem?_takeRows (by omega : 0 < width * 3) hrow hrgb
  generalize hwritten : (wholeRows (width * 3) rgb).take height = written at hfound
  have hlast : row < written.length := (List.getElem?_eq_some_iff.mp hfound).1
  obtain ⟨hfits, hpieces⟩ :=
    expandRows_eq_append hout hwritten (List.length_pos_iff.mp (Nat.zero_lt_of_lt hlast))
  have hall : written.length ≤ height := hwritten ▸ List.length_take_le _ _
  have hrow' : written.reverse[written.length - 1 - row]? =
      some ((rgb.drop (row * (width * 3))).take (width * 3)) := by
    rw [List.getElem?_reverse (by omega), ← hfound]
    congr 1
    omega
  -- The texture is counted from the bottom, the written rows from the last one back.
  have hindex : 4 * ((height - 1 - row) * width + column) + channel =
      (height - written.length) * (width * 4) +
        ((written.length - 1 - row) * (width * 4) + (4 * column + channel)) := by
    rw [show height - 1 - row = (height - written.length) + (written.length - 1 - row) by omega]
    ring
  rw [hpieces, hindex, List.getElem?_append_right (by rw [length_takeUnwritten hfits]; omega),
    length_takeUnwritten hfits, Nat.add_sub_cancel_left,
    getElem?_flatMap_append (length_addAlpha_of_mem hwritten) hrow' (by omega)]

/-- The colours of row `row` of the frame are those of row `height - 1 - row` of the texture. -/
theorem getElem?_expandRows (hout : expandRows? rgb width height rgba = some out)
    {row column channel : Nat} (hrow : row < height) (hrgb : (row + 1) * (width * 3) ≤ rgb.length)
    (hcolumn : column < width) (hchannel : channel < 3) :
    out[4 * ((height - 1 - row) * width + column) + channel]? =
      rgb[3 * (row * width + column) + channel]? := by
  rw [getElem?_expandRows_addAlpha hout hrow hrgb hcolumn (by omega),
    getElem?_addAlpha (pixel_le_length_slice hrgb hcolumn) hchannel, getElem?_slice (by omega)]
  congr 1
  ring

/-- Each pixel that is written is opaque. -/
theorem getElem?_expandRows_alpha (hout : expandRows? rgb width height rgba = some out)
    {row column : Nat} (hrow : row < height) (hrgb : (row + 1) * (width * 3) ≤ rgb.length)
    (hcolumn : column < width) :
    out[4 * ((height - 1 - row) * width + column) + 3]? = some 255 := by
  rw [getElem?_expandRows_addAlpha hout hrow hrgb hcolumn (by omega),
    getElem?_addAlpha_alpha (pixel_le_length_slice hrgb hcolumn)]

end Expand

/-! ## From a picture that is read back to a frame -/

section Pack

variable {padded rgb out : List UInt8} {stride width height : Nat}

/-- The rows of a picture that are packed: no more than the frame has, and none that is not there. -/
theorem packRows_eq_append (hout : packRows? padded stride width height rgb = some out)
    {source : List (List UInt8)}
    (hsource : (rows stride padded).take (min height (rgb.length / (width * rgbSize))) = source) :
    (∀ row ∈ source, width * 4 ≤ row.length) ∧
      out = source.flatMap (fun row => dropAlpha (row.take (width * 4))) ++
        rgb.drop (source.length * (width * 3)) := by
  unfold packRows? at hout
  split at hout
  · cases hout
  · dsimp only at hout
    rw [hsource] at hout
    split at hout
    · cases hout
    · next hlong =>
      refine ⟨fun row hrow => ?_, (Option.some.inj hout).symm⟩
      have hnot := List.any_eq_false.mp (Bool.eq_false_iff.mpr hlong) row hrow
      simp only [decide_eq_true_eq, Nat.not_lt] at hnot
      exact hnot

/-- The rows of a picture, each as a slice of it. -/
theorem getElem?_takePadded (hstride : 0 < stride) {count row : Nat} (hrow : row < count)
    (hpadded : row * stride < padded.length) :
    ((rows stride padded).take count)[row]? = some ((padded.drop (row * stride)).take stride) := by
  rw [List.getElem?_take_of_lt hrow, getElem?_rows hstride, if_pos hpadded]

/-- A picture is packed if of every row that is there the pixels are there. -/
theorem exists_packRows (hwidth : 0 < width) (hstride : width * 4 ≤ stride)
    (hpixels : ∀ row < min height (rgb.length / (width * 3)), row * stride < padded.length →
      row * stride + width * 4 ≤ padded.length) :
    ∃ out, packRows? padded stride width height rgb = some out := by
  unfold packRows?
  rw [if_neg (by omega)]
  dsimp only
  rw [if_neg]
  · exact ⟨_, rfl⟩
  · simp only [List.any_eq_true, decide_eq_true_eq, not_exists, not_and, Nat.not_lt]
    intro slice hslice
    obtain ⟨row, hfound⟩ := List.mem_iff_getElem?.mp hslice
    have hcount : row < min height (rgb.length / (width * rgbSize)) :=
      Nat.lt_of_lt_of_le (List.getElem?_eq_some_iff.mp hfound).1 (List.length_take_le _ _)
    rw [List.getElem?_take_of_lt hcount, getElem?_rows (by omega)] at hfound
    split at hfound
    · next hthere =>
      have hall := hpixels row hcount hthere
      rw [← Option.some.inj hfound, List.length_take, List.length_drop]
      simp only [rgbaSize]
      omega
    · cases hfound

/-- Row `row` of the picture is row `row` of the frame. -/
theorem getElem?_packRows (hout : packRows? padded stride width height rgb = some out)
    {row column channel : Nat} (hrow : row < height) (hrgb : (row + 1) * (width * 3) ≤ rgb.length)
    (hpadded : row * stride < padded.length) (hcolumn : column < width) (hchannel : channel < 3) :
    out[3 * (row * width + column) + channel]? = padded[row * stride + (4 * column + channel)]? := by
  have hstride : 0 < stride := by
    by_contra hzero
    have hnone : packRows? padded stride width height rgb = none := if_pos (.inr (by omega))
    rw [hnone] at hout
    cases hout
  have hcount : row < min height (rgb.length / (width * 3)) :=
    Nat.lt_min.mpr ⟨hrow, (Nat.le_div_iff_mul_le (by omega)).mpr hrgb⟩
  have hfound := getElem?_takePadded hstride hcount hpadded
  generalize hsource : (rows stride padded).take (min height (rgb.length / (width * 3))) = source
    at hfound
  obtain ⟨hlong, hpieces⟩ := packRows_eq_append hout hsource
  have hrows : ∀ slice ∈ source, (dropAlpha (slice.take (width * 4))).length = width * 3 :=
    fun slice hslice => length_dropAlpha width _ (List.length_take_of_le (hlong slice hslice))
  have hslice := hlong _ (List.mem_of_getElem? hfound)
  have hindex : 3 * (row * width + column) + channel = row * (width * 3) + (3 * column + channel) := by
    ring
  rw [hpieces, hindex, getElem?_flatMap_append hrows hfound (by omega),
    getElem?_dropAlpha (by rw [List.length_take_of_le hslice]; omega) hchannel,
    List.getElem?_take_of_lt (by omega), getElem?_slice (by rw [List.length_take] at hslice; omega)]

/-- Packing writes over a frame's bytes and adds none. -/
theorem length_packRows (hout : packRows? padded stride width height rgb = some out) :
    out.length = rgb.length := by
  generalize hsource : (rows stride padded).take (min height (rgb.length / (width * 3))) = source
  obtain ⟨hlong, hpieces⟩ := packRows_eq_append hout hsource
  have hrows : ∀ slice ∈ source, (dropAlpha (slice.take (width * 4))).length = width * 3 :=
    fun slice hslice => length_dropAlpha width _ (List.length_take_of_le (hlong slice hslice))
  have hcount : source.length ≤ rgb.length / (width * 3) := by
    rw [← hsource]
    exact Nat.le_trans (List.length_take_le _ _) (Nat.min_le_right _ _)
  have hfits : source.length * (width * 3) ≤ rgb.length :=
    Nat.le_trans (Nat.mul_le_mul_right _ hcount) (Nat.div_mul_le_self _ _)
  rw [hpieces, List.length_append, length_flatMap_of_length hrows, List.length_drop]
  omega

end Pack

/-! ## Whole pictures -/

section Whole

variable {rgb rgba padded : List UInt8} {stride width height : Nat}

/-- A row that a frame of whole rows has lies inside it. -/
theorem rowEnd_le_of_length {row : Nat} (hrow : row < height)
    (hrgb : rgb.length = 3 * (width * height)) : (row + 1) * (width * 3) ≤ rgb.length := by
  calc (row + 1) * (width * 3) ≤ height * (width * 3) := Nat.mul_le_mul_right _ hrow
    _ = rgb.length := by rw [hrgb]; ring

/-- The length of a frame, counted in rows. -/
theorem length_eq_rows (hrgb : rgb.length = 3 * (width * height)) :
    rgb.length = height * (width * 3) := by
  rw [hrgb]
  ring

/-- Packed RGB of one size is equal if every colour byte of every pixel is. -/
theorem ext_of_pixels {one two : List UInt8}
    (hone : one.length = 3 * (width * height)) (htwo : two.length = 3 * (width * height))
    (h : ∀ row < height, ∀ column < width, ∀ channel < 3,
      one[3 * (row * width + column) + channel]? = two[3 * (row * width + column) + channel]?) :
    one = two := by
  refine List.ext_getElem? fun index => ?_
  by_cases hindex : index < 3 * (width * height)
  · have hpixel : index / 3 < width * height := by omega
    have hwidth : 0 < width := Nat.pos_of_mul_pos_right (Nat.zero_lt_of_lt hpixel)
    have hplace := h (index / 3 / width) (Nat.div_lt_of_lt_mul hpixel) (index / 3 % width)
      (Nat.mod_lt _ hwidth) (index % 3) (Nat.mod_lt _ (by decide))
    rwa [Nat.div_add_mod', Nat.div_add_mod] at hplace
  · rw [List.getElem?_eq_none (by omega), List.getElem?_eq_none (by omega)]

/-- A texture takes every frame of its size. -/
theorem exists_expandRows_of_length (rgb : List UInt8) (hwidth : 0 < width)
    (hrgba : rgba.length = 4 * (width * height)) :
    ∃ texels, expandRows? rgb width height rgba = some texels :=
  exists_expandRows hwidth (by rw [hrgba, rgbaSize, Nat.mul_comm])

/-- A whole frame fills a texture of its size, and nothing is left of what the texture held before. -/
theorem expandRows_of_length (hwidth : 0 < width) (hheight : 0 < height)
    (hrgb : rgb.length = 3 * (width * height)) (hrgba : rgba.length = 4 * (width * height)) :
    expandRows? rgb width height rgba = some ((wholeRows (width * 3) rgb).reverse.flatMap addAlpha) := by
  have hcount : (wholeRows (width * 3) rgb).length = height :=
    length_wholeRows_of_length (by omega) (length_eq_rows hrgb)
  have hall : (wholeRows (width * 3) rgb).take height = wholeRows (width * 3) rgb :=
    List.take_of_length_le (by omega)
  obtain ⟨out, hout⟩ := exists_expandRows_of_length rgb hwidth hrgba
  obtain ⟨-, hpieces⟩ := expandRows_eq_append hout hall (List.length_pos_iff.mp (by omega))
  rw [hout, hpieces, hcount, Nat.sub_self, Nat.zero_mul, List.take_zero, List.nil_append,
    List.drop_eq_nil_of_le (by omega), List.append_nil]

/-- A picture of all its rows packs to one frame, and nothing is left of what the frame held before. -/
theorem exists_packRows_of_length (hwidth : 0 < width) (hstride : width * 4 ≤ stride)
    (hpadded : padded.length = stride * height) :
    ∃ packed : List UInt8, packed.length = 3 * (width * height) ∧
      ∀ target : List UInt8, target.length = 3 * (width * height) →
        packRows? padded stride width height target = some packed := by
  have hrow : ∀ row < height, row * stride + stride ≤ padded.length := by
    intro row hrow
    calc row * stride + stride = (row + 1) * stride := (Nat.succ_mul _ _).symm
      _ ≤ height * stride := Nat.mul_le_mul_right _ hrow
      _ = padded.length := by rw [hpadded, Nat.mul_comm]
  have hpacks (target : List UInt8) : ∃ out, packRows? padded stride width height target = some out := by
    refine exists_packRows hwidth hstride fun row hcount _ => ?_
    have hreach := hrow row (Nat.lt_of_lt_of_le hcount (Nat.min_le_left _ _))
    omega
  obtain ⟨packed, hpacked⟩ := hpacks (List.replicate (3 * (width * height)) 0)
  have hlength : packed.length = 3 * (width * height) :=
    (length_packRows hpacked).trans List.length_replicate
  refine ⟨packed, hlength, fun target htarget => ?_⟩
  obtain ⟨out, hout⟩ := hpacks target
  rw [hout]
  refine congrArg some (ext_of_pixels ((length_packRows hout).trans htarget) hlength ?_)
  intro row hheight column hcolumn channel hchannel
  have hreach := hrow row hheight
  rw [getElem?_packRows hout hheight (rowEnd_le_of_length hheight htarget) (by omega) hcolumn hchannel,
    getElem?_packRows hpacked hheight (rowEnd_le_of_length hheight List.length_replicate) (by omega)
      hcolumn hchannel]

end Whole

end FrameTransition.Pixels
