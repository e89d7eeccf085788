import ReflectCheck.Text.GraphemeExtend
import ReflectCheck.Text.Unprintable

/-!
# Quoted text

The quoted form of a string, as reports show string values: the text between double
quotes, where

* NUL, tab, carriage return, line feed, the backslash and the double quote are written
  as `\0`, `\t`, `\r`, `\n`, `\\` and `\"`;
* a grapheme-extending character, or one without a visible form, is written as
  `\u{h}` with its code point in lowercase hexadecimal, without leading zeros;
* every other character, the apostrophe included, is written as itself.

Each character is written on its own, so the quoted form of a concatenation is the
concatenation of the quoted forms (`escape_append`).
-/

namespace ReflectCheck.Text

/-- The lowercase hexadecimal digits of `n`, without leading zeros. -/
def hexDigits (n : Nat) : List Char := Nat.toDigits 16 n

/-- How a single character is written inside quotes. -/
def escapeChar (c : Char) : List Char :=
  if c = '\x00' then ['\\', '0']
  else if c = '\t' then ['\\', 't']
  else if c = '\r' then ['\\', 'r']
  else if c = '\n' then ['\\', 'n']
  else if c = '\\' then ['\\', '\\']
  else if c = '"' then ['\\', '"']
  else if isGraphemeExtend c || !isPrintable c then
    ['\\', 'u', '\x7b'] ++ hexDigits c.toNat ++ ['\x7d']
  else [c]

/-- The characters of `cs` as they are written inside quotes. -/
def escape (cs : List Char) : List Char := cs.flatMap escapeChar

/-- The quoted form of `s`: its escaped characters between double quotes. -/
def quote (s : String) : String := String.ofList ('"' :: escape s.toList ++ ['"'])

@[simp] theorem escape_nil : escape [] = [] := rfl

@[simp] theorem escape_cons (c : Char) (cs : List Char) :
    escape (c :: cs) = escapeChar c ++ escape cs := by
  simp [escape]

theorem escape_append (a b : List Char) : escape (a ++ b) = escape a ++ escape b := by
  simp [escape]

end ReflectCheck.Text
