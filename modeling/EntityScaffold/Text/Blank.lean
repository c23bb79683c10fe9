/-!
# White space

The characters with the Unicode property White_Space. Quoted identifiers of a document type
declaration may be preceded by any of them, which is more than the four blanks of XML itself.
-/

namespace EntityScaffold.Text

/-- A character with the property White_Space. -/
def isBlank (c : Char) : Bool :=
  let n := c.toNat
  (9 ≤ n && n ≤ 13) || n == 0x20 || n == 0x85 || n == 0xA0 || n == 0x1680 ||
    (0x2000 ≤ n && n ≤ 0x200A) || n == 0x2028 || n == 0x2029 || n == 0x202F || n == 0x205F ||
    n == 0x3000

/-- The text without the white space at its start. -/
def dropBlanks (s : List Char) : List Char :=
  s.dropWhile isBlank

end EntityScaffold.Text
