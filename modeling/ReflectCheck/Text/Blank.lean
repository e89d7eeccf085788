import ReflectCheck.Text.RangeTable

/-!
# Blank characters

The characters with the Unicode property `White_Space`: the ASCII tab, line feed,
vertical tab, form feed, carriage return and space, and the Unicode spaces and line
separators. Expressions skip them between tokens, and a description made of them only
counts as missing.
-/

namespace ReflectCheck.Text

/-- The code points with `White_Space`, as 10 sorted, disjoint, inclusive ranges. -/
def blank : RangeTable := ⟨#[
  (0x9, 0xD), (0x20, 0x20), (0x85, 0x85), (0xA0, 0xA0), (0x1680, 0x1680), (0x2000, 0x200A),
  (0x2028, 0x2029), (0x202F, 0x202F), (0x205F, 0x205F), (0x3000, 0x3000)]⟩

/-- Whether `c` is a blank character. -/
def isBlank (c : Char) : Bool := blank.contains c.toNat

/-- `s` with blank characters removed from both ends. -/
def trimBlank (s : String) : String :=
  String.ofList (((s.toList.dropWhile isBlank).reverse.dropWhile isBlank).reverse)

/-- Whether `s` has no character other than blanks. -/
def isBlankText (s : String) : Bool := s.toList.all isBlank

end ReflectCheck.Text
