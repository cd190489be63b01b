/-!
# Rows of pixels

Frames are packed RGB, top row first. A texture holds RGBA, bottom row first; a drawn picture comes
back as RGBA rows, top row first, each padded to a fixed pitch. `expandRows?` goes from the frame to the
texture, `packRows?` from the picture to a frame. Both write into a buffer that exists already and leave
alone what no whole row reaches. `none` says that a row would lie outside its buffer or that a row has
no length to be cut by.
-/

namespace FrameTransition.Pixels

/-- Bytes of an RGB pixel. -/
def rgbSize : Nat := 3

/-- Bytes of an RGBA pixel. -/
def rgbaSize : Nat := 4

/-- The row pitch of a picture that is read back is a multiple of this. -/
def pitchAlignment : Nat := 256

/-- The row pitch of a picture of some width: its pixels, rounded up to the alignment. -/
def paddedBytesPerRow (width : Nat) : Nat :=
  (width * rgbaSize + pitchAlignment - 1) / pitchAlignment * pitchAlignment

/-- The bytes of a picture that is read back. -/
def readbackSize (width height : Nat) : Nat :=
  paddedBytesPerRow width * height

/-! ## Cutting bytes into rows -/

/-- The whole rows of a buffer, cut every `size` bytes. A rest shorter than a row is left out. -/
def wholeRows (size : Nat) (bytes : List UInt8) : List (List UInt8) :=
  if _h : 0 < size ∧ size ≤ bytes.length then
    bytes.take size :: wholeRows size (bytes.drop size)
  else []
termination_by bytes.length
decreasing_by simp only [List.length_drop]; omega

/-- The rows of a buffer, cut every `size` bytes. The last one may be short. -/
def rows (size : Nat) (bytes : List UInt8) : List (List UInt8) :=
  if _h : 0 < size ∧ bytes ≠ [] then
    bytes.take size :: rows size (bytes.drop size)
  else []
termination_by bytes.length
decreasing_by
  have := List.length_pos_iff.mpr _h.2
  simp only [List.length_drop]; omega

/-! ## Pixels -/

/-- Gives every RGB pixel an opaque alpha. -/
def addAlpha : List UInt8 → List UInt8
  | r :: g :: b :: rest => r :: g :: b :: 255 :: addAlpha rest
  | _ => []

/-- Takes the alpha off every RGBA pixel. -/
def dropAlpha : List UInt8 → List UInt8
  | r :: g :: b :: _ :: rest => r :: g :: b :: dropAlpha rest
  | _ => []

/-! ## Between frames and textures -/

/-- Writes the rows of a packed RGB buffer into an RGBA buffer, the first row last. Only whole rows
count, and no more than `height` of them; they fill the buffer's rows from the bottom up. -/
def expandRows? (rgb : List UInt8) (width height : Nat) (rgba : List UInt8) : Option (List UInt8) :=
  if width = 0 then none
  else
    let source := (wholeRows (width * rgbSize) rgb).take height
    if source = [] then some rgba
    else if rgba.length < width * height * rgbaSize then none
    else
      let untouched := (height - source.length) * (width * rgbaSize)
      some (rgba.take untouched ++ source.reverse.flatMap addAlpha
        ++ rgba.drop (width * height * rgbaSize))

/-- Writes the pixels of padded RGBA rows into a packed RGB buffer, in order. Rows end with the shorter
of the two buffers, and no more than `height` of them are taken. -/
def packRows? (padded : List UInt8) (stride width height : Nat) (rgb : List UInt8) :
    Option (List UInt8) :=
  if width = 0 ∨ stride = 0 then none
  else
    let count := min height (rgb.length / (width * rgbSize))
    let source := (rows stride padded).take count
    if source.any fun row => row.length < width * rgbaSize then none
    else
      some (source.flatMap (fun row => dropAlpha (row.take (width * rgbaSize)))
        ++ rgb.drop (source.length * (width * rgbSize)))

/-- Lays RGBA rows out at the pitch of a picture that is read back, the padding filled with a byte. -/
def padRows (filler : UInt8) (width : Nat) (rgba : List UInt8) : List UInt8 :=
  (wholeRows (width * rgbaSize) rgba).flatMap fun row =>
    row ++ List.replicate (paddedBytesPerRow width - row.length) filler

/-! ## Lengths -/

theorem length_addAlpha (pixels : Nat) (rgb : List UInt8) (h : rgb.length = pixels * 3) :
    (addAlpha rgb).length = pixels * 4 := by
  induction pixels generalizing rgb with
  | zero =>
    have : rgb = [] := List.length_eq_zero_iff.mp (by omega)
    subst this
    rfl
  | succ n ih =>
    match rgb, h with
    | [], h => simp only [List.length_nil] at h; omega
    | [_], h => simp only [List.length_cons, List.length_nil] at h; omega
    | [_, _], h => simp only [List.length_cons, List.length_nil] at h; omega
    | r :: g :: b :: rest, h =>
      have := ih rest (by simp only [List.length_cons] at h; omega)
      simp only [addAlpha, List.length_cons, this]
      omega

/-- The pitch holds the row. -/
theorem le_paddedBytesPerRow (width : Nat) : width * rgbaSize ≤ paddedBytesPerRow width := by
  simp only [paddedBytesPerRow, rgbaSize, pitchAlignment]
  omega

end FrameTransition.Pixels
