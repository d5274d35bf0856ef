/-!
# Blank characters and trimming

* `isBlank` : the characters with the Unicode property `White_Space`;
* `trimStart`, `trimEnd`, `trim` : a text without the blanks at its ends;
* `words` : the maximal runs of characters that are not blank.
-/

namespace Fanout.Text

/-- The 25 characters with the property `White_Space`. -/
def isBlank (c : Char) : Bool :=
  let n := c.toNat
  (9 ≤ n && n ≤ 13) || n == 32 || n == 0x85 || n == 0xA0 || n == 0x1680 ||
    (0x2000 ≤ n && n ≤ 0x200A) || n == 0x2028 || n == 0x2029 || n == 0x202F || n == 0x205F ||
    n == 0x3000

def trimStart (cs : List Char) : List Char := cs.dropWhile isBlank

/-- A text without the longest ending in which every character satisfies `p`. -/
def dropEndWhile (p : Char → Bool) (cs : List Char) : List Char := (cs.reverse.dropWhile p).reverse

def trimEnd (cs : List Char) : List Char := dropEndWhile isBlank cs

def trim (cs : List Char) : List Char := trimEnd (trimStart cs)

/-- The words still to come, where `word` is the reversed word being read. -/
def wordsFrom (word : List Char) : List Char → List (List Char)
  | [] => if word.isEmpty then [] else [word.reverse]
  | c :: cs =>
    if isBlank c then (if word.isEmpty then wordsFrom [] cs else word.reverse :: wordsFrom [] cs)
    else wordsFrom (c :: word) cs

def words (cs : List Char) : List (List Char) := wordsFrom [] cs

end Fanout.Text
