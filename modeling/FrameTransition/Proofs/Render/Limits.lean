import FrameTransition.Proofs.Pixels.Words
import FrameTransition.Render.Words
import Mathlib.Order.Bounds.Basic

/-!
# Sizes within the limits of a device

A size is accepted when its sides and its read-back buffer are within the limits, and the sides are looked at
first (`checkSize_eq_ok_iff`). That order is what keeps the check itself in machine words: no pitch is
computed for a side that the texture does not have (`checkSize?_of_le`). With a size all smaller ones are
accepted, and no buffer of pixels of that size is larger than the one that was checked. `sizeCheck_of_le`
puts this together for every device whose textures have no side longer than `Pixels.largestSide`.
-/

namespace FrameTransition

namespace Pixels

variable {width height : Nat}

/-- The longest side is the last multiple of 64 that a word of 32 bits has room for, at four bytes a pixel. -/
example : largestSide = Nat.pow 2 30 - 64 := by decide

theorem isLeast_paddedBytesPerRow (width : Nat) :
    IsLeast {pitch | 256 ∣ pitch ∧ 4 * width ≤ pitch} (paddedBytesPerRow width) := by
  have hrow : 4 * width ≤ paddedBytesPerRow width := Nat.mul_comm width 4 ▸ le_paddedBytesPerRow width
  refine ⟨⟨Nat.dvd_mul_left _ _, hrow⟩, fun pitch => ?_⟩
  rintro ⟨⟨count, rfl⟩, hle⟩
  unfold paddedBytesPerRow rgbaSize pitchAlignment
  omega

theorem paddedBytesPerRow_mono {other : Nat} (h : other ≤ width) :
    paddedBytesPerRow other ≤ paddedBytesPerRow width := by
  obtain ⟨⟨hdvd, hrow⟩, -⟩ := isLeast_paddedBytesPerRow width
  exact (isLeast_paddedBytesPerRow other).2 ⟨hdvd, (Nat.mul_le_mul_left 4 h).trans hrow⟩

theorem readbackSize_mono {otherWidth otherHeight : Nat} (hwidth : otherWidth ≤ width)
    (hheight : otherHeight ≤ height) : readbackSize otherWidth otherHeight ≤ readbackSize width height :=
  Nat.mul_le_mul (paddedBytesPerRow_mono hwidth) hheight

/-- The pixels of every row lie within what is read back. -/
theorem row_le_readbackSize {row : Nat} (hrow : row < height) :
    row * paddedBytesPerRow width + width * rgbaSize ≤ readbackSize width height :=
  calc row * paddedBytesPerRow width + width * rgbaSize
      ≤ row * paddedBytesPerRow width + paddedBytesPerRow width :=
        Nat.add_le_add_left (le_paddedBytesPerRow width) _
    _ = (row + 1) * paddedBytesPerRow width := (Nat.succ_mul _ _).symm
    _ ≤ height * paddedBytesPerRow width := Nat.mul_le_mul_right _ hrow
    _ = readbackSize width height := Nat.mul_comm _ _

theorem texels_le_readbackSize (width height : Nat) : 4 * width * height ≤ readbackSize width height :=
  Nat.mul_le_mul_right height (isLeast_paddedBytesPerRow width).1.2

theorem byteLength_le_texels (width height : Nat) : Frame.byteLength width height ≤ 4 * width * height := by
  unfold Frame.byteLength bytesPerPixel
  rw [Nat.mul_assoc 4, Nat.mul_comm 4]
  exact Nat.mul_le_mul_left _ (by decide)

end Pixels

namespace Render.Limits

variable {limits : Limits} {width height : Nat}

/-- The sides that a texture has. -/
def HasSides (limits : Limits) (width height : Nat) : Prop :=
  width ≤ limits.maxTexture ∧ height ≤ limits.maxTexture

theorem hasSides_iff : limits.HasSides width height ↔
    ¬ (limits.maxTexture < width ∨ limits.maxTexture < height) := by
  rw [not_or, Nat.not_lt, Nat.not_lt, HasSides]

theorem checkSize_of_not_hasSides (h : ¬ limits.HasSides width height) :
    limits.checkSize width height = .error (limits.sideError width height) :=
  if_pos (not_not.mp (mt hasSides_iff.mpr h))

theorem checkSize_of_hasSides (h : limits.HasSides width height) :
    limits.checkSize width height =
      if limits.maxBuffer < Pixels.readbackSize width height then
        .error (limits.bufferError width height (Pixels.readbackSize width height))
      else .ok () :=
  if_neg (hasSides_iff.mp h)

theorem checkSize_eq_ok_iff :
    limits.checkSize width height = .ok () ↔
      limits.HasSides width height ∧ Pixels.readbackSize width height ≤ limits.maxBuffer := by
  by_cases hsides : limits.HasSides width height
  · rw [checkSize_of_hasSides hsides]
    by_cases hbuffer : limits.maxBuffer < Pixels.readbackSize width height
    · simp [hbuffer]
    · simp [hbuffer, hsides, Nat.not_lt.mp hbuffer]
  · simp [checkSize_of_not_hasSides hsides, hsides]

/-- The check has its result in words too, since the sides are compared first. -/
theorem checkSize?_of_le (h : limits.maxTexture ≤ Pixels.largestSide) (width height : Nat) :
    limits.checkSize? width height = some (limits.checkSize width height) := by
  unfold checkSize?
  by_cases hsides : limits.HasSides width height
  · have hreadback := Pixels.readbackSize?_of_le (hsides.1.trans h) (hsides.2.trans h)
    rw [if_neg (hasSides_iff.mp hsides), hreadback, checkSize_of_hasSides hsides]
    exact (apply_ite some _ _ _).symm
  · rw [if_pos (not_not.mp (mt hasSides_iff.mpr hsides)), checkSize_of_not_hasSides hsides]

/-- What the check of a size promises. -/
structure SizeCheck (limits : Limits) (width height : Nat) : Prop where
  /-- No size that it computes leaves its word. -/
  inWords : limits.checkSize? width height = some (limits.checkSize width height)
  isLeast_pitch : IsLeast {pitch | 256 ∣ pitch ∧ 4 * width ≤ pitch} (Pixels.paddedBytesPerRow width)
  accepts_iff : limits.checkSize width height = .ok () ↔
    width ≤ limits.maxTexture ∧ height ≤ limits.maxTexture ∧
      Pixels.paddedBytesPerRow width * height ≤ limits.maxBuffer
  /-- The texture is named first, whatever the buffer needs. -/
  side : limits.maxTexture < width ∨ limits.maxTexture < height →
    limits.checkSize width height = .error (limits.sideError width height)
  buffer : width ≤ limits.maxTexture → height ≤ limits.maxTexture →
    limits.maxBuffer < Pixels.paddedBytesPerRow width * height →
    limits.checkSize width height =
      .error (limits.bufferError width height (Pixels.paddedBytesPerRow width * height))
  smaller : limits.checkSize width height = .ok () → ∀ otherWidth ≤ width, ∀ otherHeight ≤ height,
    limits.checkSize otherWidth otherHeight = .ok ()
  lastPixel : limits.checkSize width height = .ok () → 0 < width → 0 < height →
    (height - 1) * Pixels.paddedBytesPerRow width + 4 * width ≤ Pixels.readbackSize width height
  texels : limits.checkSize width height = .ok () → 4 * width * height ≤ limits.maxBuffer
  frame : limits.checkSize width height = .ok () → Frame.byteLength width height ≤ limits.maxBuffer

theorem sizeCheck_of_le (limits : Limits) (h : limits.maxTexture ≤ Pixels.largestSide) (width height : Nat) :
    SizeCheck limits width height := by
  have htexels : limits.checkSize width height = .ok () → 4 * width * height ≤ limits.maxBuffer :=
    fun hok => (Pixels.texels_le_readbackSize width height).trans (checkSize_eq_ok_iff.mp hok).2
  constructor
  case inWords => exact checkSize?_of_le h width height
  case isLeast_pitch => exact Pixels.isLeast_paddedBytesPerRow width
  case accepts_iff => exact checkSize_eq_ok_iff.trans and_assoc
  case side => exact fun hside => checkSize_of_not_hasSides fun hsides => hasSides_iff.mp hsides hside
  case buffer =>
    intro hwidth hheight hbuffer
    rw [checkSize_of_hasSides ⟨hwidth, hheight⟩]
    exact if_pos hbuffer
  case smaller =>
    intro hok otherWidth hwidth otherHeight hheight
    obtain ⟨hsides, hbuffer⟩ := checkSize_eq_ok_iff.mp hok
    exact checkSize_eq_ok_iff.mpr ⟨⟨hwidth.trans hsides.1, hheight.trans hsides.2⟩,
      (Pixels.readbackSize_mono hwidth hheight).trans hbuffer⟩
  case lastPixel =>
    intro _ _ hheight
    rw [Nat.mul_comm 4]
    exact Pixels.row_le_readbackSize (Nat.sub_lt hheight Nat.one_pos)
  case texels => exact htexels
  case frame => exact fun hok => (Pixels.byteLength_le_texels width height).trans (htexels hok)

/-- A device whose textures have the longest sides, and whose buffer is exactly enough for the size. -/
theorem sizeCheck_of_le_longest :
    SizeCheck ⟨1073741760, 1536⟩ 65 3 ∧ Limits.checkSize ⟨1073741760, 1536⟩ 65 3 = .ok () ∧
      SizeCheck ⟨1073741760, 1535⟩ 65 3 ∧ Limits.checkSize ⟨1073741760, 1535⟩ 65 3 ≠ .ok () :=
  ⟨sizeCheck_of_le ⟨1073741760, 1536⟩ (by decide) 65 3, by decide,
    sizeCheck_of_le ⟨1073741760, 1535⟩ (by decide) 65 3, by decide⟩

end Render.Limits

end FrameTransition
