/-!
# Blanks and control characters

The Unicode property `White_Space` decides what separates words and what is trimmed; the general
category `Cc` decides what a name may not hold. Both sets are closed for good by the Unicode
stability policy, so they are written out.

* `trim` drops blanks at both ends of a line.
* `splitWord` takes the first word, a longest stretch without a blank, off a text.
-/

namespace Skirmish.Text

/-- The Unicode property `White_Space`. -/
def isBlank (c : Char) : Bool :=
  let n := c.toNat
  (9 ≤ n && n ≤ 13) || n == 0x20 || n == 0x85 || n == 0xA0 || n == 0x1680 ||
  (0x2000 ≤ n && n ≤ 0x200A) || n == 0x2028 || n == 0x2029 || n == 0x202F || n == 0x205F ||
  n == 0x3000

/-- The Unicode category `Cc`: below `20`, or from `7F` to `9F`. -/
def isControl (c : Char) : Bool :=
  let n := c.toNat
  n < 0x20 || (0x7F ≤ n && n ≤ 0x9F)

/-- `cs` without the `isBlank` characters at its end. -/
def trimEnd : List Char → List Char
  | [] => []
  | c :: rest =>
    match trimEnd rest with
    | [] => if isBlank c then [] else [c]
    | kept => c :: kept

/-- `cs` without the `isBlank` characters at either end. -/
def trim (cs : List Char) : List Char :=
  trimEnd (cs.dropWhile isBlank)

/-- The first run of characters that are not `isBlank`, and what is behind it. -/
def splitWord (cs : List Char) : List Char × List Char :=
  let start := cs.dropWhile isBlank
  (start.takeWhile (!isBlank ·), start.dropWhile (!isBlank ·))

/-- Every character is `isBlank`; so also for the empty text. -/
def isBlankText (text : String) : Bool :=
  text.toList.all isBlank

end Skirmish.Text
