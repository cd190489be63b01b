import FrameTransition.Frame
import Mathlib.Data.Nat.Prime.Basic
import Mathlib.Tactic.Ring

/-!
# Sizes that fit their words

Up to a side of `largestSide` pixels no size computed in machine words is lost: every step has the result
that the same step has in numbers (`sizesFit_of_le`).

Of larger frames words keep a rest (`Frame.wordLength_eq`). It is never zero where there are pixels
(`Frame.wordLength_ne_zero`), and the size checks agree as long as it is the whole.
-/

namespace FrameTransition

namespace Pixels

/-- The largest side whose row pitch fits a word of 32 bits. -/
def largestSide : Nat := 1073741760

/-- The sizes that belong to a picture are those computed in words. -/
structure SizesFit (width height : Nat) : Prop where
  rowBytes : rowBytes? width = some (width * rgbaSize)
  pitch : paddedBytesPerRow? width = some (paddedBytesPerRow width)
  readback : readbackSize? width height = some (readbackSize width height)
  /-- A packed frame. -/
  frame : bufferSize? width height rgbSize = some (Frame.byteLength width height)
  /-- The rows of a texture. -/
  staging : bufferSize? width height rgbaSize = some (width * height * rgbaSize)

variable {width height : Nat}

theorem inWord?_of_lt {bits value : Nat} (h : value < Nat.pow 2 bits) : inWord? bits value = some value :=
  if_pos h

theorem inWord?_32_of_le {value : Nat} (h : value ≤ 4294967040) : inWord? 32 value = some value :=
  inWord?_of_lt (Nat.lt_of_le_of_lt h (by decide))

/-- Counting the alignments that are begun rounds up. -/
theorem begunAlignments_mul_eq (width : Nat) :
    begunAlignments (width * rgbaSize) * pitchAlignment = paddedBytesPerRow width := by
  unfold begunAlignments paddedBytesPerRow rgbaSize pitchAlignment
  split <;> omega

theorem paddedBytesPerRow_le (hwidth : width ≤ largestSide) : paddedBytesPerRow width ≤ 4294967040 := by
  unfold largestSide at hwidth
  unfold paddedBytesPerRow rgbaSize pitchAlignment
  omega

theorem rowBytes?_of_le (hwidth : width ≤ largestSide) : rowBytes? width = some (width * rgbaSize) :=
  inWord?_32_of_le ((le_paddedBytesPerRow width).trans (paddedBytesPerRow_le hwidth))

theorem paddedBytesPerRow?_of_le (hwidth : width ≤ largestSide) :
    paddedBytesPerRow? width = some (paddedBytesPerRow width) := by
  unfold paddedBytesPerRow?
  rw [rowBytes?_of_le hwidth, Option.bind_eq_bind, Option.bind_some, begunAlignments_mul_eq]
  exact inWord?_32_of_le (paddedBytesPerRow_le hwidth)

theorem readbackSize?_of_le (hwidth : width ≤ largestSide) (hheight : height ≤ largestSide) :
    readbackSize? width height = some (readbackSize width height) := by
  have hsize : paddedBytesPerRow width * height ≤ 4294967040 * largestSide :=
    Nat.mul_le_mul (paddedBytesPerRow_le hwidth) hheight
  unfold readbackSize?
  rw [paddedBytesPerRow?_of_le hwidth, Option.bind_eq_bind, Option.bind_some]
  exact inWord?_of_lt (Nat.lt_of_le_of_lt hsize (by decide))

theorem bufferSize?_of_le (hwidth : width ≤ largestSide) (hheight : height ≤ largestSide)
    {pixelSize : Nat} (hpixel : pixelSize ≤ rgbaSize) :
    bufferSize? width height pixelSize = some (width * height * pixelSize) := by
  have hpixels : width * height ≤ largestSide * largestSide := Nat.mul_le_mul hwidth hheight
  have hsize : width * height * pixelSize ≤ largestSide * largestSide * rgbaSize :=
    Nat.mul_le_mul hpixels hpixel
  unfold bufferSize?
  rw [inWord?_of_lt (Nat.lt_of_le_of_lt hpixels (by decide)), Option.bind_eq_bind, Option.bind_some]
  exact inWord?_of_lt (Nat.lt_of_le_of_lt hsize (by decide))

theorem sizesFit_of_le (hwidth : width ≤ largestSide) (hheight : height ≤ largestSide) :
    SizesFit width height where
  rowBytes := rowBytes?_of_le hwidth
  pitch := paddedBytesPerRow?_of_le hwidth
  readback := readbackSize?_of_le hwidth hheight
  frame := bufferSize?_of_le hwidth hheight (by decide)
  staging := bufferSize?_of_le hwidth hheight (Nat.le_refl _)

end Pixels

namespace Frame

variable {frame : Frame} {width height : Nat}

theorem byteLength_eq (width height : Nat) : byteLength width height = 3 * width * height := by
  unfold byteLength bytesPerPixel
  ring

theorem wordLength_eq (width height : Nat) : wordLength width height = 3 * width * height % 2 ^ 64 := by
  show width * height % 2 ^ 64 * 3 % 2 ^ 64 = _
  rw [Nat.mod_mul_mod, Nat.mul_comm, Nat.mul_assoc]

theorem wordLength_of_lt (h : 3 * width * height < 2 ^ 64) : wordLength width height = 3 * width * height := by
  rw [wordLength_eq, Nat.mod_eq_of_lt h]

/-- Counted in a word, the bytes of a frame that has pixels do not come to none. -/
theorem wordLength_ne_zero (hwidth : 0 < width) (hheight : 0 < height) (hlt : width < 2 ^ 32)
    (hlt' : height < 2 ^ 32) : wordLength width height ≠ 0 := by
  have hpixels : width * height < 2 ^ 32 * 2 ^ 32 := Nat.mul_lt_mul'' hlt hlt'
  rw [wordLength_eq, Nat.mul_assoc]
  intro hzero
  have hdvd : 2 ^ 64 ∣ width * height :=
    (Nat.Coprime.pow_left 64 (by decide)).dvd_of_dvd_mul_left (Nat.dvd_of_mod_eq_zero hzero)
  exact absurd (Nat.le_of_dvd (Nat.mul_pos hwidth hheight) hdvd) (Nat.not_le_of_lt hpixels)

/-- The check counts in words, and that is no matter as long as they do not wrap. -/
theorem check_eq_checkShape (frame : Frame) (h : 3 * width * height < 2 ^ 64) :
    frame.check width height = frame.checkShape (expectedShape width height) := by
  unfold check expectedShape
  rw [wordLength_of_lt h, byteLength_eq]

end Frame

end FrameTransition
