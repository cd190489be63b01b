import FrameTransition.Proofs.Pixels.Rows

/-!
# From a frame to a texture and back

A frame goes into a texture with its last row first, something is drawn, and the picture that was drawn
is packed into a frame again. The drawing that shows the frame unchanged has its `y` axis upwards, so row
`row` of the picture is row `height - 1 - row` of the texture; then the frame comes back as it was. Were
the texture copied as it lies, the frame would come back upside down, and after two such trips as it was.

Neither depends on what the buffers held before, on the pitch of the picture, or on what it holds in its
padding and its alpha bytes: `Shows` says nothing of those.
-/

namespace FrameTransition.Pixels

/-- A picture shows a texture: its row `row` has the colours of the texture's row `source row`. Its rows
start every `stride` bytes, and it reaches to the end of the last row's pixels. -/
structure Shows (width height stride : Nat) (source : Nat → Nat) (texels padded : List UInt8) : Prop where
  reaches : (height - 1) * stride + 4 * width ≤ padded.length
  colours : ∀ row < height, ∀ column < width, ∀ channel < 3,
    padded[row * stride + (4 * column + channel)]? =
      texels[4 * (source row * width + column) + channel]?

/-- A frame's rows in reverse order. -/
def reverseRows (width : Nat) (rgb : List UInt8) : List UInt8 :=
  (wholeRows (width * rgbSize) rgb).reverse.flatten

/-- What comes back of a frame as `result`: whatever the texture and the frame it is packed into held
before, the frame fits the texture, and each picture that shows the texture packs to `result`. -/
def ComesBackAs (width height stride : Nat) (source : Nat → Nat) (rgb result : List UInt8) : Prop :=
  ∀ rgba target : List UInt8, rgba.length = 4 * (width * height) →
    target.length = 3 * (width * height) →
    ∃ texels, expandRows? rgb width height rgba = some texels ∧
      ∀ padded, Shows width height stride source texels padded →
        packRows? padded stride width height target = some result

variable {width height stride : Nat} {rgb : List UInt8}

theorem length_of_mem_reverse_wholeRows {size : Nat} :
    ∀ row ∈ (wholeRows size rgb).reverse, (id row).length = size :=
  fun _ hrow => length_of_mem_wholeRows (List.mem_reverse.mp hrow)

theorem length_reverseRows (hwidth : 0 < width) (hrgb : rgb.length = 3 * (width * height)) :
    (reverseRows width rgb).length = 3 * (width * height) := by
  rw [reverseRows, rgbSize, List.flatten_eq_flatMap,
    length_flatMap_of_length length_of_mem_reverse_wholeRows, List.length_reverse,
    length_wholeRows_of_length (by omega) (length_eq_rows hrgb)]
  ring

theorem getElem?_reverseRows (hrgb : rgb.length = 3 * (width * height)) {row column channel : Nat}
    (hrow : row < height) (hcolumn : column < width) (hchannel : channel < 3) :
    (reverseRows width rgb)[3 * (row * width + column) + channel]? =
      rgb[3 * ((height - 1 - row) * width + column) + channel]? := by
  have hsize : 0 < width * 3 := by omega
  have hfound : (wholeRows (width * 3) rgb).reverse[row]? =
      some ((rgb.drop ((height - 1 - row) * (width * 3))).take (width * 3)) := by
    have hlength := length_wholeRows_of_length hsize (length_eq_rows hrgb)
    rw [List.getElem?_reverse (by omega), hlength]
    exact getElem?_wholeRows_of_length hsize (length_eq_rows hrgb) (by omega)
  have hplace := getElem?_flatMap_append length_of_mem_reverse_wholeRows hfound
    (by omega : 3 * column + channel < width * 3) []
  have hindex : 3 * (row * width + column) + channel = row * (width * 3) + (3 * column + channel) := by
    ring
  rw [List.append_nil] at hplace
  rw [reverseRows, rgbSize, List.flatten_eq_flatMap, hindex, hplace, id, getElem?_slice (by omega)]
  congr 1
  ring

/-- Rows reversed twice are in order again. -/
theorem reverseRows_reverseRows (hwidth : 0 < width) (hrgb : rgb.length = 3 * (width * height)) :
    reverseRows width (reverseRows width rgb) = rgb := by
  have honce := length_reverseRows hwidth hrgb
  refine ext_of_pixels (length_reverseRows hwidth honce) hrgb ?_
  intro row hrow column hcolumn channel hchannel
  rw [getElem?_reverseRows honce hrow hcolumn hchannel,
    getElem?_reverseRows hrgb (by omega) hcolumn hchannel,
    show height - 1 - (height - 1 - row) = row by omega]

/-! ## One trip -/

/-- A picture that shows a texture packs to the frame whose colours the texture has in the rows shown. -/
theorem packRows_of_shows {source : Nat → Nat} {texels padded target result : List UInt8}
    (hwidth : 0 < width) (hstride : 4 * width ≤ stride)
    (hshows : Shows width height stride source texels padded)
    (htarget : target.length = 3 * (width * height)) (hresult : result.length = 3 * (width * height))
    (hcolours : ∀ row < height, ∀ column < width, ∀ channel < 3,
      texels[4 * (source row * width + column) + channel]? =
        result[3 * (row * width + column) + channel]?) :
    packRows? padded stride width height target = some result := by
  have hpixels : ∀ row < height, row * stride + 4 * width ≤ padded.length := by
    intro row hrow
    calc row * stride + 4 * width ≤ (height - 1) * stride + 4 * width :=
          Nat.add_le_add_right (Nat.mul_le_mul_right _ (by omega)) _
      _ ≤ padded.length := hshows.reaches
  have hpacks : ∃ packed, packRows? padded stride width height target = some packed := by
    refine exists_packRows hwidth (by omega) fun row hrow _ => ?_
    have hreach := hpixels row (Nat.lt_of_lt_of_le hrow (Nat.min_le_left _ _))
    omega
  obtain ⟨packed, hpacked⟩ := hpacks
  rw [hpacked]
  refine congrArg some (ext_of_pixels ((length_packRows hpacked).trans htarget) hresult ?_)
  intro row hrow column hcolumn channel hchannel
  have hreach := hpixels row hrow
  rw [getElem?_packRows hpacked hrow (rowEnd_le_of_length hrow htarget) (by omega) hcolumn hchannel,
    hshows.colours row hrow column hcolumn channel hchannel,
    hcolours row hrow column hcolumn channel hchannel]

/-- Drawn with the `y` axis upwards, a frame comes back as it was. -/
theorem comesBackAs_self (hwidth : 0 < width) (hstride : 4 * width ≤ stride)
    (hrgb : rgb.length = 3 * (width * height)) :
    ComesBackAs width height stride (fun row => height - 1 - row) rgb rgb := by
  intro rgba target hrgba htarget
  obtain ⟨texels, htexels⟩ := exists_expandRows_of_length rgb hwidth hrgba
  refine ⟨texels, htexels, fun padded hshows =>
    packRows_of_shows hwidth hstride hshows htarget hrgb ?_⟩
  intro row hrow column hcolumn channel hchannel
  exact getElem?_expandRows htexels hrow (rowEnd_le_of_length hrow hrgb) hcolumn hchannel

/-- Copied as it lies, a frame comes back upside down. -/
theorem comesBackAs_reverseRows (hwidth : 0 < width) (hstride : 4 * width ≤ stride)
    (hrgb : rgb.length = 3 * (width * height)) :
    ComesBackAs width height stride id rgb (reverseRows width rgb) := by
  intro rgba target hrgba htarget
  obtain ⟨texels, htexels⟩ := exists_expandRows_of_length rgb hwidth hrgba
  refine ⟨texels, htexels, fun padded hshows =>
    packRows_of_shows hwidth hstride hshows htarget (length_reverseRows hwidth hrgb) ?_⟩
  intro row hrow column hcolumn channel hchannel
  have hsource : height - 1 - row < height := by omega
  have hcolour :=
    getElem?_expandRows htexels hsource (rowEnd_le_of_length hsource hrgb) hcolumn hchannel
  rw [show height - 1 - (height - 1 - row) = row by omega] at hcolour
  rw [getElem?_reverseRows hrgb hrow hcolumn hchannel, ← hcolour, id]

/-- A texture laid out at the pitch of a picture that is read back is shown as it lies. -/
theorem shows_padRows (hwidth : 0 < width) (hheight : 0 < height) {texels : List UInt8}
    (htexels : texels.length = 4 * (width * height)) (filler : UInt8) :
    Shows width height (paddedBytesPerRow width) id texels (padRows filler width texels) := by
  have hsize : 0 < width * 4 := by omega
  have hpitch : width * 4 ≤ paddedBytesPerRow width := le_paddedBytesPerRow width
  have hcount : texels.length = height * (width * 4) := by rw [htexels]; ring
  have hrows : ∀ row ∈ wholeRows (width * 4) texels,
      (row ++ List.replicate (paddedBytesPerRow width - row.length) filler).length =
        paddedBytesPerRow width := by
    intro row hrow
    rw [List.length_append, List.length_replicate, length_of_mem_wholeRows hrow]
    omega
  refine ⟨?_, fun row hrow column hcolumn channel hchannel => ?_⟩
  · have hlength : (padRows filler width texels).length = height * paddedBytesPerRow width := by
      rw [padRows, rgbaSize, length_flatMap_of_length hrows, length_wholeRows_of_length hsize hcount]
    calc (height - 1) * paddedBytesPerRow width + 4 * width
        ≤ (height - 1) * paddedBytesPerRow width + paddedBytesPerRow width := by omega
      _ = (height - 1 + 1) * paddedBytesPerRow width := (Nat.succ_mul _ _).symm
      _ = (padRows filler width texels).length := by rw [hlength, Nat.sub_add_cancel hheight]
  · have hplace := getElem?_flatMap_append hrows (getElem?_wholeRows_of_length hsize hcount hrow)
      (by omega : 4 * column + channel < paddedBytesPerRow width) []
    have hinside : 4 * column + channel <
        ((texels.drop (row * (width * 4))).take (width * 4)).length := by
      have hend : (row + 1) * (width * 4) ≤ texels.length :=
        hcount ▸ Nat.mul_le_mul_right _ hrow
      rw [Nat.succ_mul] at hend
      rw [List.length_take, List.length_drop]
      omega
    rw [List.append_nil] at hplace
    rw [padRows, rgbaSize, hplace, List.getElem?_append_left hinside, getElem?_slice (by omega), id]
    congr 1
    ring

/-! ## There and back -/

/-- A frame that was expanded comes back as it was from every picture that shows the texture with the
`y` axis upwards, and upside down from every picture that shows it as it lies; a second trip of that kind
undoes the first. Rows at the pitch of a picture that is read back are one such picture. -/
theorem packRows_expandRows (hwidth : 1 ≤ width) (hheight : 1 ≤ height) (hstride : 4 * width ≤ stride)
    (hrgb : rgb.length = 3 * (width * height)) :
    ComesBackAs width height stride (fun row => height - 1 - row) rgb rgb ∧
    ComesBackAs width height stride id rgb (reverseRows width rgb) ∧
    ComesBackAs width height stride id (reverseRows width rgb) rgb ∧
    4 * width ≤ paddedBytesPerRow width ∧
    ∀ texels : List UInt8, texels.length = 4 * (width * height) → ∀ filler,
      Shows width height (paddedBytesPerRow width) id texels (padRows filler width texels) := by
  have hagain := comesBackAs_reverseRows hwidth hstride (length_reverseRows hwidth hrgb)
  rw [reverseRows_reverseRows hwidth hrgb] at hagain
  have hpitch : width * 4 ≤ paddedBytesPerRow width := le_paddedBytesPerRow width
  exact ⟨comesBackAs_self hwidth hstride hrgb, comesBackAs_reverseRows hwidth hstride hrgb, hagain,
    by omega, fun texels htexels filler => shows_padRows hwidth hheight htexels filler⟩

/-- Three rows of two pixels, at a pitch of nine bytes with anything in the alpha and padding bytes. -/
theorem packRows_expandRows_two_by_three :
    (1 ≤ 2 ∧ 1 ≤ 3 ∧ 4 * 2 ≤ 9 ∧
      [1, 2, 3, 4, 5, 6, 7, 8, 9, 10, 11, 12, 13, 14, 15, 16, 17, 18].length = 3 * (2 * 3)) ∧
    packRows? [1, 2, 3, 90, 4, 5, 6, 91, 92, 7, 8, 9, 93, 10, 11, 12, 94, 95, 13, 14, 15, 96, 16, 17, 18, 97]
        9 2 3 (List.replicate 18 99) =
      some [1, 2, 3, 4, 5, 6, 7, 8, 9, 10, 11, 12, 13, 14, 15, 16, 17, 18] ∧
    packRows? [13, 14, 15, 90, 16, 17, 18, 91, 92, 7, 8, 9, 93, 10, 11, 12, 94, 95, 1, 2, 3, 96, 4, 5, 6, 97]
        9 2 3 (List.replicate 18 99) =
      some (reverseRows 2 [1, 2, 3, 4, 5, 6, 7, 8, 9, 10, 11, 12, 13, 14, 15, 16, 17, 18]) := by
  have hexpanded : expandRows? [1, 2, 3, 4, 5, 6, 7, 8, 9, 10, 11, 12, 13, 14, 15, 16, 17, 18] 2 3
      (List.replicate 24 98) =
      some [13, 14, 15, 255, 16, 17, 18, 255, 7, 8, 9, 255, 10, 11, 12, 255, 1, 2, 3, 255, 4, 5, 6, 255] := by
    decide +kernel
  obtain ⟨hturned, hstraight, -, -, -⟩ :=
    @packRows_expandRows 2 3 9 [1, 2, 3, 4, 5, 6, 7, 8, 9, 10, 11, 12, 13, 14, 15, 16, 17, 18]
      (by decide) (by decide) (by decide) (by decide)
  refine ⟨by decide, ?_, ?_⟩
  · obtain ⟨texels, htexels, hpacks⟩ := hturned (List.replicate 24 98) (List.replicate 18 99) rfl rfl
    obtain rfl := Option.some.inj (hexpanded.symm.trans htexels)
    exact hpacks _ ⟨by decide, by decide +kernel⟩
  · obtain ⟨texels, htexels, hpacks⟩ := hstraight (List.replicate 24 98) (List.replicate 18 99) rfl rfl
    obtain rfl := Option.some.inj (hexpanded.symm.trans htexels)
    exact hpacks _ ⟨by decide, by decide +kernel⟩

end FrameTransition.Pixels
