/-!
# Blank characters

The characters that trimming removes: the ASCII blanks and separators, the next-line control, and the
space separators of Unicode.  Zero-width characters are not blank.
-/

namespace ApiLint.Text

/-- Is the character blank? -/
def isBlank (c : Char) : Bool :=
  let n := c.toNat
  (9 ≤ n && n ≤ 13) || (28 ≤ n && n ≤ 32) || n == 0x85 || n == 0xa0 || n == 0x1680
    || (0x2000 ≤ n && n ≤ 0x200a) || n == 0x2028 || n == 0x2029 || n == 0x202f || n == 0x205f
    || n == 0x3000

/-- Drop blank characters at the start. -/
def trimStart (cs : List Char) : List Char := cs.dropWhile isBlank

/-- Drop blank characters at both ends. -/
def trimChars (cs : List Char) : List Char := (trimStart (trimStart cs).reverse).reverse

/-- Drop blank characters at both ends. -/
def trim (s : String) : String := String.ofList (trimChars s.toList)

end ApiLint.Text
