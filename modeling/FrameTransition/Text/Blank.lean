/-!
# Blank characters, words and lines

Blank means the property White_Space, with its characters beyond ASCII. On it rest trimming and
splitting into words. Lines end at a line feed; one carriage return right before the line feed belongs
to the ending, while a carriage return anywhere else, or at the end of an unfinished last line, is text.
-/

namespace FrameTransition.Text

/-- The property White_Space. -/
def isBlank (c : Char) : Bool :=
  let n := c.toNat
  (0x09 ≤ n && n ≤ 0x0D) || n == 0x20 || n == 0x85 || n == 0xA0 || n == 0x1680
    || (0x2000 ≤ n && n ≤ 0x200A) || n == 0x2028 || n == 0x2029 || n == 0x202F || n == 0x205F
    || n == 0x3000

/-- The text from its first character that is not blank. -/
def trimStart (cs : List Char) : List Char :=
  cs.dropWhile isBlank

/-- The text up to its last character that is not blank. -/
def trimEnd (cs : List Char) : List Char :=
  (cs.reverse.dropWhile isBlank).reverse

/-- The text without blanks at either end. -/
def trim (cs : List Char) : List Char :=
  trimEnd (trimStart cs)

/-- The pieces between the separators, one more than there are separators. -/
def splitOn (separator : Char) : List Char → List (List Char)
  | [] => [[]]
  | c :: rest =>
    if c = separator then [] :: splitOn separator rest
    else
      match splitOn separator rest with
      | [] => [[c]]
      | piece :: pieces => (c :: piece) :: pieces

/-- The pieces between blanks, the empty ones dropped. -/
def words : List Char → List (List Char)
  | [] => []
  | c :: rest =>
    if isBlank c then words rest
    else
      match rest with
      | [] => [[c]]
      | next :: _ =>
        if isBlank next then [c] :: words rest
        else
          match words rest with
          | [] => [[c]]
          | word :: others => (c :: word) :: others

/-- Pieces joined by a separator. -/
def join (separator : List Char) : List (List Char) → List Char
  | [] => []
  | [piece] => piece
  | piece :: pieces => piece ++ separator ++ join separator pieces

/-- The text before and after the first separator, if there is one. -/
def splitOnce? (separator : Char) (cs : List Char) : Option (List Char × List Char) :=
  match cs.dropWhile (· ≠ separator) with
  | [] => none
  | _ :: after => some (cs.takeWhile (· ≠ separator), after)

/-- A line without its ending: the carriage return before a line feed goes. -/
def dropReturn (line : List Char) : List Char :=
  if line.getLast? = some '\r' then line.dropLast else line

/-- The lines of a text. A text that ends in a line feed has no empty line after it. -/
def lines (cs : List Char) : List (List Char) :=
  go (splitOn '\n' cs)
where
  /-- All pieces but the last ended in a line feed; the last is a line only if it has text. -/
  go : List (List Char) → List (List Char)
    | [] => []
    | [last] => if last = [] then [] else [last]
    | line :: rest => dropReturn line :: go rest

/-! ## Facts about splitting -/

theorem splitOn_ne_nil (separator : Char) (cs : List Char) : splitOn separator cs ≠ [] := by
  cases cs with
  | nil => simp [splitOn]
  | cons c rest =>
    simp only [splitOn]
    split
    · simp
    · split <;> simp

/-- Splitting loses nothing: the pieces joined by the separator are the text. -/
theorem join_splitOn (separator : Char) (cs : List Char) :
    join [separator] (splitOn separator cs) = cs := by
  induction cs with
  | nil => rfl
  | cons c rest ih =>
    simp only [splitOn]
    split
    · subst_vars
      cases h : splitOn c rest with
      | nil => exact absurd h (splitOn_ne_nil _ _)
      | cons piece pieces => rw [← ih, h]; simp [join]
    · cases h : splitOn separator rest with
      | nil => exact absurd h (splitOn_ne_nil _ _)
      | cons piece pieces =>
        rw [h] at ih
        rw [← ih]
        cases pieces <;> simp [join]

example : lines "a\r\nb\r".toList = ["a".toList, "b\r".toList] := by decide +kernel

example : lines "a\n".toList = ["a".toList] ∧ lines "\n\n".toList = [[], []] := by decide +kernel

end FrameTransition.Text
