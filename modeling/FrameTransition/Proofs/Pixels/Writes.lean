import FrameTransition.Proofs.Pixels.Rows

/-!
# Which bytes a conversion writes

Both conversions write into a buffer that exists already, and buffers may be short or long: a frame may end
in the middle of a row, a picture in the middle of its padding. `Expanded` and `Packed` say byte by byte what
there is afterwards. Of the rows that count, every pixel is written, from a place inside the source to a place
inside the target; every other byte of the target is as it was.

That nothing else is written rests on division: a place in the part of a buffer that was written over is a place
in one of its rows (`exists_pixel_of_lt`). What is written depends on the colours of the picture's rows only, so
its alpha and its padding make no difference.
-/

namespace FrameTransition.Pixels

/-! ## How many rows count -/

/-- The rows of a frame that are expanded: whole ones, no more than the texture has. -/
def expandedRows (rgb : List UInt8) (width height : Nat) : Nat :=
  min height (rgb.length / (3 * width))

/-- The rows of a picture that are packed: no more than are asked for, than the frame has whole ones, and than
the picture has begun. -/
def packedRows (padded : List UInt8) (stride width height : Nat) (rgb : List UInt8) : Nat :=
  min height (min (rgb.length / (3 * width)) ((padded.length + stride - 1) / stride))

/-! ## What is written -/

/-- A texture after a frame was expanded into it. -/
structure Expanded (rgb : List UInt8) (width height : Nat) (rgba out : List UInt8) : Prop where
  length : out.length = rgba.length
  /-- No place is outside its buffer. -/
  inside : ∀ row < expandedRows rgb width height, ∀ column < width,
    3 * (row * width + column) + 3 ≤ rgb.length ∧ 4 * ((height - 1 - row) * width + column) + 4 ≤ rgba.length
  colours : ∀ row < expandedRows rgb width height, ∀ column < width, ∀ channel < 3,
    out[4 * ((height - 1 - row) * width + column) + channel]? = rgb[3 * (row * width + column) + channel]?
  alpha : ∀ row < expandedRows rgb width height, ∀ column < width,
    out[4 * ((height - 1 - row) * width + column) + 3]? = some 255
  /-- The rest is left alone. -/
  kept : ∀ place, (∀ row < expandedRows rgb width height, ∀ column < width, ∀ channel < 4,
    place ≠ 4 * ((height - 1 - row) * width + column) + channel) → out[place]? = rgba[place]?

/-- A frame after a picture was packed into it. -/
structure Packed (padded : List UInt8) (stride width height : Nat) (rgb out : List UInt8) : Prop where
  length : out.length = rgb.length
  /-- No place is outside its buffer. -/
  inside : ∀ row < packedRows padded stride width height rgb, ∀ column < width,
    row * stride + 4 * column + 4 ≤ padded.length ∧ 3 * (row * width + column) + 3 ≤ rgb.length
  colours : ∀ row < packedRows padded stride width height rgb, ∀ column < width, ∀ channel < 3,
    out[3 * (row * width + column) + channel]? = padded[row * stride + 4 * column + channel]?
  /-- The rest is left alone. -/
  kept : ∀ place, (∀ row < packedRows padded stride width height rgb, ∀ column < width, ∀ channel < 3,
    place ≠ 3 * (row * width + column) + channel) → out[place]? = rgb[place]?

/-- Two pictures differ at most in alpha and padding, as far as they are packed. -/
structure SameColours (padded other : List UInt8) (stride width height : Nat) (rgb : List UInt8) : Prop where
  length : other.length = padded.length
  colours : ∀ row < packedRows padded stride width height rgb, ∀ column < width, ∀ channel < 3,
    other[row * stride + 4 * column + channel]? = padded[row * stride + 4 * column + channel]?

/-! ## Places -/

/-- A place among pixels of one size is in one of the rows. -/
theorem exists_pixel_of_lt {size width rows place : Nat} (hsize : 0 < size)
    (hplace : place < rows * (width * size)) :
    ∃ row < rows, ∃ column < width, ∃ channel < size, place = size * (row * width + column) + channel := by
  have hpixel : place / size < rows * width := by
    rw [Nat.div_lt_iff_lt_mul hsize, Nat.mul_assoc]
    exact hplace
  have hwidth : 0 < width := Nat.pos_of_mul_pos_left (Nat.zero_lt_of_lt hpixel)
  refine ⟨place / size / width, (Nat.div_lt_iff_lt_mul hwidth).mpr hpixel, place / size % width,
    Nat.mod_lt _ hwidth, place % size, Nat.mod_lt _ hsize, ?_⟩
  rw [Nat.div_add_mod', Nat.div_add_mod]

/-- The pixels of a row end where the row ends. -/
theorem pixelEnd_le_rowEnd {size width row column : Nat} (hcolumn : column < width) :
    size * (row * width + column) + size ≤ (row + 1) * (width * size) := by
  calc size * (row * width + column) + size = (row * width + (column + 1)) * size := by ring
    _ ≤ (row * width + width) * size := Nat.mul_le_mul_right _ (by omega)
    _ = (row + 1) * (width * size) := by ring

/-- A buffer that was written over from one place to another is outside of them as it was. -/
theorem getElem?_overwritten {old middle : List UInt8} {start stop place : Nat} (hstart : start ≤ old.length)
    (hmiddle : start + middle.length = stop) (hplace : place < start ∨ stop ≤ place) :
    (old.take start ++ (middle ++ old.drop stop))[place]? = old[place]? := by
  have hfirst : (old.take start).length = start := List.length_take_of_le hstart
  rcases hplace with hbefore | hbehind
  · rw [List.getElem?_append_left (by omega), List.getElem?_take_of_lt hbefore]
  · rw [List.getElem?_append_right (by omega), List.getElem?_append_right (by omega), List.getElem?_drop, hfirst]
    congr 1
    omega

/-! ## Expanding -/

section Expand

variable {rgb rgba out : List UInt8} {width height row column : Nat}

theorem length_takeRows (hwidth : 0 < width) :
    ((wholeRows (width * 3) rgb).take height).length = expandedRows rgb width height := by
  rw [List.length_take, length_wholeRows (by omega), expandedRows, Nat.mul_comm width]

/-- A row that counts ends inside the frame. -/
theorem rowEnd_le_of_lt_expandedRows (hwidth : 0 < width) (hrow : row < expandedRows rgb width height) :
    (row + 1) * (width * 3) ≤ rgb.length := by
  rw [Nat.mul_comm width]
  exact (Nat.le_div_iff_mul_le (by omega)).mp (Nat.lt_of_lt_of_le hrow (Nat.min_le_right _ _))

/-- The rows of the texture that are written over are the last ones. -/
theorem expandRows_eq_overwritten (hwidth : 0 < width) (hout : expandRows? rgb width height rgba = some out)
    (hsome : 0 < expandedRows rgb width height) :
    ∃ middle, middle.length = expandedRows rgb width height * (width * 4) ∧
      out = rgba.take ((height - expandedRows rgb width height) * (width * 4)) ++
        (middle ++ rgba.drop (width * height * 4)) := by
  have hcount : ((wholeRows (width * 3) rgb).take height).length = expandedRows rgb width height :=
    length_takeRows hwidth
  generalize hwritten : (wholeRows (width * 3) rgb).take height = written at hcount
  obtain ⟨-, hpieces⟩ := expandRows_eq_append hout hwritten (List.length_pos_iff.mp (by omega))
  refine ⟨_, ?_, hcount ▸ hpieces⟩
  rw [length_flatMap_of_length (length_addAlpha_of_mem hwritten), List.length_reverse, hcount]

/-- A frame without a whole row leaves the texture as it was. -/
theorem expandRows_of_no_row (hwidth : 0 < width) (hnone : expandedRows rgb width height = 0) :
    expandRows? rgb width height rgba = some rgba := by
  have hrows : (wholeRows (width * rgbSize) rgb).take height = [] :=
    List.length_eq_zero_iff.mp ((length_takeRows hwidth).trans hnone)
  unfold expandRows?
  rw [if_neg (by omega)]
  dsimp only
  rw [if_pos hrows]

theorem getElem?_expandRows_of_unwritten (hwidth : 0 < width)
    (hrgba : 4 * (width * height) ≤ rgba.length) (hout : expandRows? rgb width height rgba = some out)
    {place : Nat} (hplace : ∀ row < expandedRows rgb width height, ∀ column < width, ∀ channel < 4,
      place ≠ 4 * ((height - 1 - row) * width + column) + channel) :
    out[place]? = rgba[place]? := by
  rcases Nat.eq_zero_or_pos (expandedRows rgb width height) with hnone | hsome
  · rw [expandRows_of_no_row hwidth hnone] at hout
    rw [Option.some.inj hout]
  · obtain ⟨middle, hmiddle, hpieces⟩ := expandRows_eq_overwritten hwidth hout hsome
    generalize hrows : expandedRows rgb width height = count at *
    have hall : count ≤ height := hrows ▸ Nat.min_le_left _ _
    have hstop : (height - count) * (width * 4) + count * (width * 4) = width * height * 4 := by
      rw [← Nat.add_mul, Nat.sub_add_cancel hall]
      ring
    have houtside : place < (height - count) * (width * 4) ∨ width * height * 4 ≤ place := by
      by_contra hwithin
      obtain ⟨row, hrow, column, hcolumn, channel, hchannel, hpixel⟩ :=
        exists_pixel_of_lt (by decide : 0 < 4)
          (by omega : place - (height - count) * (width * 4) < count * (width * 4))
      -- Row `row` of those written over comes from the frame's row `count - 1 - row`.
      refine hplace (count - 1 - row) (by omega) column hcolumn channel hchannel ?_
      rw [show height - 1 - (count - 1 - row) = (height - count) + row by omega,
        ← Nat.sub_add_cancel (by omega : (height - count) * (width * 4) ≤ place), hpixel]
      ring
    rw [hpieces]
    exact getElem?_overwritten (by omega) (by omega) houtside

/-- A texture that holds its rows is written where it is to be, and nowhere else. -/
theorem exists_expanded (hwidth : 0 < width) (hrgba : 4 * (width * height) ≤ rgba.length) :
    ∃ out, expandRows? rgb width height rgba = some out ∧ Expanded rgb width height rgba out := by
  have hfits : width * height * rgbaSize ≤ rgba.length := by rwa [rgbaSize, Nat.mul_comm]
  obtain ⟨out, hout⟩ : ∃ out, expandRows? rgb width height rgba = some out := exists_expandRows hwidth hfits
  have hheight : ∀ row < expandedRows rgb width height, row < height := fun row hrow =>
    Nat.lt_of_lt_of_le hrow (Nat.min_le_left _ _)
  refine ⟨out, hout, length_expandRows hout, ?_, ?_, ?_, ?_⟩
  · intro row hrow column hcolumn
    have hsource := rowEnd_le_of_lt_expandedRows hwidth hrow
    have htarget : (height - 1 - row + 1) * (width * 4) ≤ 4 * (width * height) := by
      calc (height - 1 - row + 1) * (width * 4) ≤ height * (width * 4) :=
            Nat.mul_le_mul_right _ (by have := hheight row hrow; omega)
        _ = 4 * (width * height) := by ring
    exact ⟨(pixelEnd_le_rowEnd hcolumn).trans hsource,
      (pixelEnd_le_rowEnd hcolumn).trans (htarget.trans hrgba)⟩
  · intro row hrow column hcolumn channel hchannel
    exact getElem?_expandRows hout (hheight row hrow) (rowEnd_le_of_lt_expandedRows hwidth hrow) hcolumn
      hchannel
  · intro row hrow column hcolumn
    exact getElem?_expandRows_alpha hout (hheight row hrow) (rowEnd_le_of_lt_expandedRows hwidth hrow) hcolumn
  · intro place hplace
    exact getElem?_expandRows_of_unwritten hwidth hrgba hout hplace

end Expand

/-! ## Packing -/

section Pack

variable {padded other rgb out : List UInt8} {stride width height row column : Nat}

/-- A row counts if the frame has it whole and the picture has begun it. -/
theorem lt_packedRows_iff (hstride : 0 < stride) :
    row < packedRows padded stride width height rgb ↔
      row < min height (rgb.length / (width * 3)) ∧ row * stride < padded.length := by
  have hbegun : row < (padded.length + stride - 1) / stride ↔ row * stride < padded.length := by
    rw [← Nat.succ_le_iff, Nat.le_div_iff_mul_le hstride, Nat.succ_mul]
    omega
  rw [packedRows, ← Nat.min_assoc, lt_min_iff, hbegun, Nat.mul_comm 3]

/-- A row that counts ends inside the frame. -/
theorem rowEnd_le_of_lt_packedRows (hwidth : 0 < width) (hrow : row < packedRows padded stride width height rgb) :
    (row + 1) * (width * 3) ≤ rgb.length := by
  rw [Nat.mul_comm width]
  have hcount : row < rgb.length / (3 * width) :=
    Nat.lt_of_lt_of_le hrow ((Nat.min_le_right _ _).trans (Nat.min_le_left _ _))
  exact (Nat.le_div_iff_mul_le (by omega)).mp hcount

theorem length_takePadded (hstride : 0 < stride) :
    ((rows stride padded).take (min height (rgb.length / (width * 3)))).length =
      packedRows padded stride width height rgb := by
  rw [List.length_take, length_rows hstride, packedRows, Nat.mul_comm width, Nat.min_assoc]

theorem getElem?_packRows_of_unwritten (hstride : 0 < stride)
    (hout : packRows? padded stride width height rgb = some out) {place : Nat}
    (hplace : ∀ row < packedRows padded stride width height rgb, ∀ column < width, ∀ channel < 3,
      place ≠ 3 * (row * width + column) + channel) :
    out[place]? = rgb[place]? := by
  have hcount : ((rows stride padded).take (min height (rgb.length / (width * 3)))).length =
      packedRows padded stride width height rgb := length_takePadded hstride
  generalize hsource : (rows stride padded).take (min height (rgb.length / (width * 3))) = source at hcount
  obtain ⟨hlong, hpieces⟩ := packRows_eq_append hout hsource
  have hrows : ∀ slice ∈ source, (dropAlpha (slice.take (width * 4))).length = width * 3 :=
    fun slice hslice => length_dropAlpha width _ (List.length_take_of_le (hlong slice hslice))
  have hbehind : source.length * (width * 3) ≤ place := by
    by_contra hwithin
    obtain ⟨row, hrow, column, hcolumn, channel, hchannel, hpixel⟩ :=
      exists_pixel_of_lt (by decide : 0 < 3) (Nat.lt_of_not_le hwithin)
    exact hplace row (hcount ▸ hrow) column hcolumn channel hchannel hpixel
  have hlength : 0 + (source.flatMap fun slice => dropAlpha (slice.take (width * 4))).length =
      source.length * (width * 3) := by
    rw [Nat.zero_add, length_flatMap_of_length hrows]
  rw [hpieces]
  exact getElem?_overwritten (Nat.zero_le _) hlength (.inr hbehind)

/-- A picture that has the pixels of the last row that counts is packed where it is to be, and nowhere else. -/
theorem exists_packed (hwidth : 0 < width) (hstride : 4 * width ≤ stride)
    (hlast : packedRows padded stride width height rgb = 0 ∨
      (packedRows padded stride width height rgb - 1) * stride + 4 * width ≤ padded.length) :
    ∃ out, packRows? padded stride width height rgb = some out ∧ Packed padded stride width height rgb out := by
  have hpixels : ∀ row < packedRows padded stride width height rgb,
      row * stride + 4 * width ≤ padded.length := by
    intro row hrow
    have hstart : row * stride ≤ (packedRows padded stride width height rgb - 1) * stride :=
      Nat.mul_le_mul_right _ (by omega)
    omega
  obtain ⟨out, hout⟩ : ∃ out, packRows? padded stride width height rgb = some out := by
    refine exists_packRows hwidth (by omega) fun row hrow hbegun => ?_
    rw [Nat.mul_comm width]
    exact hpixels row ((lt_packedRows_iff (by omega)).mpr ⟨hrow, hbegun⟩)
  refine ⟨out, hout, length_packRows hout, ?_, ?_, ?_⟩
  · intro row hrow column hcolumn
    have hsource := hpixels row hrow
    exact ⟨by omega, (pixelEnd_le_rowEnd hcolumn).trans (rowEnd_le_of_lt_packedRows hwidth hrow)⟩
  · intro row hrow column hcolumn channel hchannel
    obtain ⟨hcount, hbegun⟩ := (lt_packedRows_iff (by omega)).mp hrow
    rw [Nat.add_assoc]
    exact getElem?_packRows hout (Nat.lt_of_lt_of_le hcount (Nat.min_le_left _ _))
      (rowEnd_le_of_lt_packedRows hwidth hrow) hbegun hcolumn hchannel
  · intro place hplace
    exact getElem?_packRows_of_unwritten (by omega) hout hplace

theorem SameColours.packedRows_eq (hsame : SameColours padded other stride width height rgb) :
    packedRows other stride width height rgb = packedRows padded stride width height rgb := by
  rw [packedRows, hsame.length, packedRows]

/-- What is packed is said by the colours. -/
theorem Packed.eq_of_sameColours {out' : List UInt8} (hout : Packed padded stride width height rgb out)
    (hout' : Packed other stride width height rgb out')
    (hsame : SameColours padded other stride width height rgb) : out' = out := by
  refine List.ext_getElem? fun place => ?_
  by_cases hwritten : ∃ row < packedRows padded stride width height rgb, ∃ column < width, ∃ channel < 3,
      place = 3 * (row * width + column) + channel
  · obtain ⟨row, hrow, column, hcolumn, channel, hchannel, rfl⟩ := hwritten
    rw [hout'.colours row (hsame.packedRows_eq ▸ hrow) column hcolumn channel hchannel,
      hsame.colours row hrow column hcolumn channel hchannel,
      hout.colours row hrow column hcolumn channel hchannel]
  · have hleft : ∀ row < packedRows padded stride width height rgb, ∀ column < width, ∀ channel < 3,
        place ≠ 3 * (row * width + column) + channel := fun row hrow column hcolumn channel hchannel hplace =>
      hwritten ⟨row, hrow, column, hcolumn, channel, hchannel, hplace⟩
    rw [hout'.kept place (hsame.packedRows_eq ▸ hleft), hout.kept place hleft]

end Pack

/-! ## Both ways -/

/-- Whatever the lengths of the buffers are, a texture that holds its rows gets the whole rows of a frame, and a
frame gets the rows of a picture whose pixels are there. The bytes of those pixels are written and no others, and
the alpha and the padding of the picture make no difference. -/
theorem writes_of_width {width : Nat} (hwidth : 1 ≤ width) :
    (∀ height rgb rgba, 4 * (width * height) ≤ rgba.length →
      ∃ out, expandRows? rgb width height rgba = some out ∧ Expanded rgb width height rgba out) ∧
    ∀ stride height padded rgb, 4 * width ≤ stride →
      (packedRows padded stride width height rgb = 0 ∨
        (packedRows padded stride width height rgb - 1) * stride + 4 * width ≤ padded.length) →
      ∃ out, packRows? padded stride width height rgb = some out ∧
        Packed padded stride width height rgb out ∧
        ∀ other, SameColours padded other stride width height rgb →
          packRows? other stride width height rgb = some out := by
  refine ⟨fun height rgb rgba hrgba => exists_expanded hwidth hrgba, ?_⟩
  intro stride height padded rgb hstride hlast
  obtain ⟨out, hout, hpacked⟩ := exists_packed hwidth hstride hlast
  refine ⟨out, hout, hpacked, fun other hsame => ?_⟩
  have hother : packedRows other stride width height rgb = 0 ∨
      (packedRows other stride width height rgb - 1) * stride + 4 * width ≤ other.length := by
    rw [hsame.packedRows_eq, hsame.length]
    exact hlast
  obtain ⟨out', hout', hpacked'⟩ := exists_packed hwidth hstride hother
  rw [hout', hpacked.eq_of_sameColours hpacked' hsame]

/-- A frame that ends in its second row, a texture with a byte to spare, and a picture that ends with the pixels
of its second row, packed into a frame with two bytes to spare. -/
theorem writes_of_width_two :
    1 ≤ 2 ∧ 4 * (2 * 3) ≤ (List.replicate 25 (98 : UInt8)).length ∧
    Expanded [1, 2, 3, 4, 5, 6, 7] 2 3 (List.replicate 25 98)
      (List.replicate 16 98 ++ [1, 2, 3, 255, 4, 5, 6, 255, 98]) ∧
    4 * 2 ≤ 9 ∧
    packedRows [1, 2, 3, 90, 4, 5, 6, 91, 92, 7, 8, 9, 93, 10, 11, 12, 94] 9 2 3 (List.replicate 14 99) = 2 ∧
    Packed [1, 2, 3, 90, 4, 5, 6, 91, 92, 7, 8, 9, 93, 10, 11, 12, 94] 9 2 3 (List.replicate 14 99)
      [1, 2, 3, 4, 5, 6, 7, 8, 9, 10, 11, 12, 99, 99] ∧
    packRows? [1, 2, 3, 80, 4, 5, 6, 81, 82, 7, 8, 9, 83, 10, 11, 12, 84] 9 2 3 (List.replicate 14 99) =
      some [1, 2, 3, 4, 5, 6, 7, 8, 9, 10, 11, 12, 99, 99] := by
  obtain ⟨hexpands, hpacks⟩ := writes_of_width (by decide : 1 ≤ 2)
  obtain ⟨texels, htexels, hexpanded⟩ :=
    hexpands 3 [1, 2, 3, 4, 5, 6, 7] (List.replicate 25 98) (by decide)
  obtain ⟨packed, hframe, hpacked, hother⟩ :=
    hpacks 9 3 [1, 2, 3, 90, 4, 5, 6, 91, 92, 7, 8, 9, 93, 10, 11, 12, 94] (List.replicate 14 99) (by decide)
      (.inr (by decide))
  have htexture : expandRows? [1, 2, 3, 4, 5, 6, 7] 2 3 (List.replicate 25 98) =
      some (List.replicate 16 98 ++ [1, 2, 3, 255, 4, 5, 6, 255, 98]) := by
    decide +kernel
  have hpicture : packRows? [1, 2, 3, 90, 4, 5, 6, 91, 92, 7, 8, 9, 93, 10, 11, 12, 94] 9 2 3
      (List.replicate 14 99) = some [1, 2, 3, 4, 5, 6, 7, 8, 9, 10, 11, 12, 99, 99] := by
    decide +kernel
  obtain rfl := Option.some.inj (htexture.symm.trans htexels)
  obtain rfl := Option.some.inj (hpicture.symm.trans hframe)
  exact ⟨by decide, by decide, hexpanded, by decide, by decide, hpacked,
    hother _ ⟨rfl, by decide +kernel⟩⟩

end FrameTransition.Pixels
