/-!
# Characters of source texts

* `isGap` : the characters between tokens;
* `isWordStart`, `isWordPart` : the characters of names. Every character that is neither a gap, nor
  a control character, nor punctuation of the language may stand in a name.
-/

namespace Fanout.Source

/-- The space separators of Unicode. -/
def isSpaceSeparator (n : Nat) : Bool :=
  n == 0x20 || n == 0xA0 || n == 0x1680 || (0x2000 ≤ n && n ≤ 0x200A) || n == 0x202F ||
    n == 0x205F || n == 0x3000

def isGap (c : Char) : Bool :=
  let n := c.toNat
  (9 ≤ n && n ≤ 13) || isSpaceSeparator n || n == 0x200B || n == 0x2028 || n == 0x2029 ||
    n == 0x2060 || n == 0xFEFF

def isDigit (c : Char) : Bool := '0' ≤ c && c ≤ '9'

def isHexDigit (c : Char) : Bool := isDigit c || ('a' ≤ c && c ≤ 'f') || ('A' ≤ c && c ≤ 'F')

def isPunctuation (c : Char) : Bool :=
  c == ':' || c == ';' || c == '\x60' || c == '"' || c == '\'' || c == '@' || c == '#' || c == '.' ||
    c == ',' || c == '|' || c == '^' || c == '&' || c == '<' || c == '=' || c == '>' || c == '+' ||
    c == '-' || c == '*' || c == '/' || c == '\\' || c == '%' || c == '?' || c == '!' || c == '~' ||
    c == '(' || c == ')' || c == '[' || c == ']' || c == '\x7b' || c == '\x7d'

def isWordPart (c : Char) : Bool := c.toNat > 0x1F && !isGap c && !isPunctuation c

def isWordStart (c : Char) : Bool := isWordPart c && !isDigit c

/-- The characters that end a line. -/
def isLineEnd (c : Char) : Bool := c == '\n' || c == '\u2028' || c == '\u2029'

end Fanout.Source
