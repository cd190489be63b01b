import FrameTransition.Text.GraphemeExtend

/-!
# Quoted text

A text between double quotes, on one line and visible throughout: the quote and the backslash carry a
backslash, four controls have a letter of their own, and every other character that is unprintable or
that extends the one before it is written as `\u` with its code point in braces. A single quote stands
as it is.
-/

namespace FrameTransition.Text

/-- The escape by code point: lowercase hexadecimal, no leading zeros, in braces. -/
def codeEscape (c : Char) : List Char :=
  '\\' :: 'u' :: '\x7b' :: (Nat.toDigits 16 c.toNat ++ ['\x7d'])

/-- One character as it stands between the quotes. -/
def quoteChar (c : Char) : List Char :=
  match c with
  | '\x00' => ['\\', '0']
  | '\t' => ['\\', 't']
  | '\r' => ['\\', 'r']
  | '\n' => ['\\', 'n']
  | '\\' => ['\\', '\\']
  | '"' => ['\\', '"']
  | _ => if isGraphemeExtend c || isUnprintable c then codeEscape c else [c]

/-- The quoted form of a text. -/
def quoted (cs : List Char) : List Char :=
  '"' :: (cs.flatMap quoteChar ++ ['"'])

example : quoted "it's \"q\" \\ \n".toList = "\"it's \\\"q\\\" \\\\ \\n\"".toList := by decide +kernel

/-- A combining accent is escaped wherever it stands, an accented letter never. -/
example : quoteChar '\u0301' = "\\u\x7b301\x7d".toList ∧ quoteChar 'é' = ['é'] := by decide +kernel

end FrameTransition.Text
