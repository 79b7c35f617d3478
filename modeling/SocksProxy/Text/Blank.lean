/-
  White space: the characters with the Unicode property White_Space.

  * `trim` takes it off both ends of a text, `words` splits a text at it.
-/
import SocksProxy.Text.Ranges

namespace SocksProxy.Text

/-- The code points of white space. -/
def blankRanges : List (Nat × Nat) :=
  [(0x9, 0xd), (0x20, 0x20), (0x85, 0x85), (0xa0, 0xa0), (0x1680, 0x1680), (0x2000, 0x200a),
   (0x2028, 0x2029), (0x202f, 0x202f), (0x205f, 0x205f), (0x3000, 0x3000)]

/-- Whether a character is white space. -/
def isBlank (c : Char) : Bool :=
  inRanges c.toNat blankRanges

/-- The text without the white space at either end. -/
def trim (s : List Char) : List Char :=
  ((s.dropWhile isBlank).reverse.dropWhile isBlank).reverse

/-- The words of a text, given the characters of the word so far in reverse. -/
def wordsFrom (word : List Char) : List Char → List (List Char)
  | [] => if word.isEmpty then [] else [word.reverse]
  | c :: s =>
    if isBlank c then
      if word.isEmpty then wordsFrom [] s else word.reverse :: wordsFrom [] s
    else wordsFrom (c :: word) s

/-- The words of a text: its longest parts without white space. -/
def words (s : List Char) : List (List Char) :=
  wordsFrom [] s

end SocksProxy.Text
