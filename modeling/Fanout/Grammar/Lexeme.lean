import Fanout.Source.Cursor

/-!
# Lexemes

* `Source.skipGap?` : the cursor after blanks and comments, and the comments;
* `operators`, `Source.operatorAt` : the longest operator at a place;
* `Lexeme` : a kind of token, named by the syntax node it becomes, with the function that finds its
  end;
* `mark`, `glyph`, `keyword`, `word`, `number`, … : the lexemes of the language;
* `statementEnd` : the place where a line break or a closing brace ends a statement.
-/

namespace Fanout.Source

/-! ## Gaps -/

def skipLineComment (s : Source) (c : Cursor) : Cursor :=
  s.skipWhile (fun ch => !isLineEnd ch && ch != '\r') c

def skipBlockCommentWith (s : Source) : Nat → Cursor → Option Cursor
  | 0, _ => none
  | fuel + 1, c =>
    match s.char? c with
    | none => none
    | some ch =>
      if ch == '*' && s.charAt c 1 == '/' then some (s.advance 2 c)
      else skipBlockCommentWith s fuel (c.pass ch)

def skipComment? (s : Source) (c : Cursor) : Option Cursor :=
  if s.charAt c 0 != '/' then none
  else if s.charAt c 1 == '/' then some (s.skipLineComment (s.advance 2 c))
  else if s.charAt c 1 == '*' then s.skipBlockCommentWith (s.chars.size - c.index) (s.advance 2 c)
  else none

/-- What stands between two tokens. -/
structure Gap where
  next : Cursor
  /-- The comments, each with its end, the last one first. -/
  comments : List (Cursor × Cursor)
  /-- Whether a line ends in the gap, outside of comments. -/
  broken : Bool

def gapWith (s : Source) : Nat → Gap → Gap
  | 0, g => g
  | fuel + 1, g =>
    match s.char? g.next with
    | none => g
    | some ch =>
      if isGap ch then gapWith s fuel { g with next := g.next.pass ch, broken := g.broken || isLineEnd ch }
      else if ch == '/' then
        match s.skipComment? g.next with
        | some stop => gapWith s fuel { g with next := stop, comments := (g.next, stop) :: g.comments }
        | none => g
      else g

def gap (s : Source) (c : Cursor) : Gap := s.gapWith (s.chars.size - c.index) ⟨c, [], false⟩

/-! ## Operators -/

/-- Operators of more than one character; one that another one starts with stands after it. -/
def longOperators : List (List Char) :=
  [">>>=", "...", "===", "!==", "**=", "<<=", ">>=", ">>>", "&&=", "||=", "??=", "==", "!=", "<=",
    ">=", "=>", "&&", "||", "??", "?.", "++", "--", "+=", "-=", "*=", "/=", "%=", "&=", "|=", "^=",
    "<<", ">>", "**"].map String.toList

/-- The longest operator at the cursor. A question mark before `.5` stands alone. -/
def operatorAt (s : Source) (c : Cursor) : List Char :=
  match longOperators.find? (s.startsWith c) with
  | some op =>
    if op == ['?', '.'] && isDigit (s.charAt c 2) then ['?'] else op
  | none => [s.charAt c 0]

end Fanout.Source

namespace Fanout.Grammar
open Source

structure Lexeme where
  kind : String
  named : Bool := false
  /-- Whether the token must start right where the one before ended. -/
  immediate : Bool := false
  /-- Whether the token leaves no node. -/
  silent : Bool := false
  scan : Source → Cursor → Option Cursor

namespace Lexeme

/-- An operator or a bracket, as the longest operator at its place. -/
def mark (text : String) : Lexeme where
  kind := text
  scan s c := if s.operatorAt c == text.toList then some (s.advance text.length c) else none

/-- A single character, whatever follows it. -/
def glyph (ch : Char) : Lexeme where
  kind := ch.toString
  scan s c := if s.char? c == some ch then some (c.pass ch) else none

def skipWordEscape? (s : Source) (c : Cursor) : Option Cursor :=
  if s.charAt c 0 != '\\' || s.charAt c 1 != 'u' then none
  else if s.charAt c 2 == '\x7b' then
    let stop := s.skipWhile isHexDigit (s.advance 3 c)
    if stop.index > c.index + 3 && s.charAt stop 0 == '\x7d' then some (s.advance 1 stop) else none
  else if (List.range 4).all fun i => isHexDigit (s.charAt c (2 + i)) then some (s.advance 6 c)
  else none

def skipWordWith (s : Source) : Nat → Cursor → Cursor
  | 0, c => c
  | fuel + 1, c =>
    match s.char? c with
    | none => c
    | some ch =>
      if isWordPart ch then skipWordWith s fuel (c.pass ch)
      else match skipWordEscape? s c with
        | some stop => skipWordWith s fuel stop
        | none => c

def skipWord? (s : Source) (c : Cursor) : Option Cursor :=
  match s.char? c with
  | none => none
  | some ch =>
    if isWordStart ch || (skipWordEscape? s c).isSome then
      some (skipWordWith s (s.chars.size - c.index) c)
    else none

/-- The name at the cursor, empty where none stands. -/
def wordAt (s : Source) (c : Cursor) : String :=
  match skipWord? s c with
  | some stop => s.slice c stop
  | none => ""

/-- A given word that leaves no named node. -/
def keyword (text : String) : Lexeme where
  kind := text
  scan s c := (skipWord? s c).filter fun stop => s.slice c stop == text

/-- A given word that becomes a named leaf. -/
def leafWord (kind : String) (text : String) : Lexeme where
  kind := kind
  named := true
  scan s c := (skipWord? s c).filter fun stop => s.slice c stop == text

/-- Any word but some. -/
def word (kind : String) (except : List String) : Lexeme where
  kind := kind
  named := true
  scan s c := (skipWord? s c).filter fun stop => !except.contains (s.slice c stop)

def privateName : Lexeme where
  kind := "private_property_identifier"
  named := true
  scan s c := if s.char? c == some '#' then skipWord? s (c.pass '#') else none

/-! ## Numbers -/

/-- The cursor after digits between which single underscores may stand. -/
def skipDigitsWith (s : Source) (p : Char → Bool) : Nat → Cursor → Cursor
  | 0, c => c
  | fuel + 1, c =>
    if p (s.charAt c 0) then skipDigitsWith s p fuel (s.advance 1 c)
    else if s.charAt c 0 == '_' && p (s.charAt c 1) then skipDigitsWith s p fuel (s.advance 2 c)
    else c

def skipDigits (s : Source) (p : Char → Bool) (c : Cursor) : Cursor :=
  if p (s.charAt c 0) then skipDigitsWith s p (s.chars.size - c.index) c else c

def skipExponent (s : Source) (c : Cursor) : Cursor :=
  if s.charAt c 0 == 'e' || s.charAt c 0 == 'E' then
    let sign := s.charAt c 1 == '+' || s.charAt c 1 == '-'
    let digits := s.advance (if sign then 2 else 1) c
    if isDigit (s.charAt digits 0) then skipDigits s isDigit digits else c
  else c

def skipDecimal (s : Source) (c : Cursor) : Cursor :=
  let whole := skipDigits s isDigit c
  if s.charAt whole 0 == 'n' then s.advance 1 whole
  else if s.charAt whole 0 == '.' then
    skipExponent s (skipDigits s isDigit (s.advance 1 whole))
  else skipExponent s whole

/-- The cursor after a number with a letter that names its base. -/
def skipBased? (s : Source) (c : Cursor) : Option Cursor :=
  if s.charAt c 0 != '0' then none
  else
    let p? : Option (Char → Bool) := match s.charAt c 1 with
      | 'x' | 'X' => some isHexDigit
      | 'b' | 'B' => some fun ch => ch == '0' || ch == '1'
      | 'o' | 'O' => some fun ch => '0' ≤ ch && ch ≤ '7'
      | _ => none
    p?.bind fun p =>
      if p (s.charAt c 2) then
        let stop := skipDigits s p (s.advance 2 c)
        some (if s.charAt stop 0 == 'n' then s.advance 1 stop else stop)
      else none

def number : Lexeme where
  kind := "number"
  named := true
  scan s c :=
    match skipBased? s c with
    | some stop => some stop
    | none =>
      if isDigit (s.charAt c 0) then some (skipDecimal s c)
      else if s.charAt c 0 == '.' && isDigit (s.charAt c 1) then
        some (skipExponent s (skipDigits s isDigit (s.advance 1 c)))
      else none

/-! ## Strings, templates, regular expressions and markup -/

/-- A run of characters that must not be empty. -/
def run (kind : String) (p : Char → Bool) : Lexeme where
  kind := kind
  named := true
  immediate := true
  scan s c :=
    let stop := s.skipWhile p c
    if stop.index > c.index then some stop else none

def stringText (quote : Char) : Lexeme :=
  run "string_fragment" fun ch => ch != quote && ch != '\\' && ch != '\n' && ch != '\r'

def attributeText (quote : Char) : Lexeme :=
  run "string_fragment" fun ch => ch != quote && ch != '&'

/-- The length of the escape whose character after the backslash stands at the cursor. -/
def escapeLength (s : Source) (c : Cursor) : Option Nat :=
  let hexes (k n : Nat) := (List.range n).all fun i => isHexDigit (s.charAt c (k + i))
  let octal (ch : Char) := '0' ≤ ch && ch ≤ '7'
  match s.char? c with
  | none => none
  | some 'x' => if hexes 1 2 then some 3 else none
  | some 'u' =>
    if s.charAt c 1 == '\x7b' then
      let stop := s.skipWhile isHexDigit (s.advance 2 c)
      if stop.index > c.index + 2 && s.charAt stop 0 == '\x7d' then some (stop.index + 1 - c.index)
      else none
    else if hexes 1 4 then some 5 else none
  | some '\r' => if isLineEnd (s.charAt c 1) then some 2 else some 1
  | some ch =>
    if octal ch then
      if octal (s.charAt c 1) then (if octal (s.charAt c 2) then some 3 else some 2) else some 1
    else some 1

def escape : Lexeme where
  kind := "escape_sequence"
  named := true
  immediate := true
  scan s c :=
    if s.char? c == some '\\' then
      (escapeLength s (c.pass '\\')).map fun n => s.advance (n + 1) c
    else none

def closing (ch : Char) : Lexeme := { glyph ch with immediate := true }

def skipTemplateWith (s : Source) : Nat → Cursor → Option Cursor
  | 0, _ => none
  | fuel + 1, c =>
    match s.char? c with
    | none => none
    | some ch =>
      if ch == '\x60' || ch == '\\' || (ch == '$' && s.charAt c 1 == '\x7b') then some c
      else skipTemplateWith s fuel (c.pass ch)

def templateText : Lexeme where
  kind := "string_fragment"
  named := true
  immediate := true
  scan s c := (skipTemplateWith s (s.chars.size + 1 - c.index) c).filter (·.index > c.index)

def substitution : Lexeme where
  kind := "$\x7b"
  immediate := true
  scan s c := if s.charAt c 0 == '$' && s.charAt c 1 == '\x7b' then some (s.advance 2 c) else none

def skipPatternWith (s : Source) : Nat → Bool → Cursor → Cursor
  | 0, _, c => c
  | fuel + 1, inClass, c =>
    match s.char? c with
    | none => c
    | some ch =>
      if ch == '\n' || (ch == '/' && !inClass) then c
      else if ch == '\\' then
        if s.charAt c 1 == '\n' || s.charAt c 1 == '\x00' then c
        else skipPatternWith s fuel inClass (s.advance 2 c)
      else if ch == '[' then skipPatternWith s fuel true (c.pass ch)
      else if ch == ']' then skipPatternWith s fuel false (c.pass ch)
      else skipPatternWith s fuel inClass (c.pass ch)

def regexPattern : Lexeme where
  kind := "regex_pattern"
  named := true
  immediate := true
  scan s c :=
    let stop := skipPatternWith s (s.chars.size - c.index) false c
    if stop.index > c.index then some stop else none

def regexFlags : Lexeme := run "regex_flags" fun ch => 'a' ≤ ch && ch ≤ 'z'

/-- Whether a text between markup tags holds more than line breaks and the blanks after them. -/
def holdsText (text : List Char) : Bool :=
  let (found, _) := text.foldl (fun (found, atBreak) ch =>
    let atBreak := if ch == '\n' then true else atBreak && isGap ch
    (found || !atBreak, atBreak)) (false, false)
  found

def markupText : Lexeme where
  kind := "jsx_text"
  named := true
  immediate := true
  scan s c :=
    let stop := s.skipWhile
      (fun ch => ch != '<' && ch != '>' && ch != '\x7b' && ch != '\x7d' && ch != '&') c
    if stop.index > c.index && stop.index < s.chars.size && holdsText (s.slice c stop).toList then
      some stop
    else none

/-- A reference such as `&amp;`. -/
def characterReference : Lexeme where
  kind := "html_character_reference"
  named := true
  immediate := true
  scan s c :=
    if s.char? c != some '&' then none
    else
      let start := c.pass '&'
      let isLetter (ch : Char) := ('a' ≤ ch && ch ≤ 'z') || ('A' ≤ ch && ch ≤ 'Z')
      let (p, first, limit) : (Char → Bool) × Nat × Nat :=
        if s.charAt start 0 == '#' then
          if s.charAt start 1 == 'x' || s.charAt start 1 == 'X' then (isHexDigit, 2, 6)
          else (isDigit, 1, 5)
        else (isLetter, 0, 30)
      let body := s.advance first start
      let stop := s.skipWhile p body
      if stop.index > body.index && stop.index ≤ body.index + limit && s.charAt stop 0 == ';' then
        some (s.advance 1 stop)
      else none

def dashedName : Lexeme where
  kind := "identifier"
  named := true
  scan s c :=
    let plain (ch : Char) :=
      isDigit ch || ('a' ≤ ch && ch ≤ 'z') || ('A' ≤ ch && ch ≤ 'Z') || ch == '_' || ch == '$'
    if isDigit (s.charAt c 0) || !plain (s.charAt c 0) then none
    else
      let stop := s.skipWhile plain c
      if s.charAt stop 0 == '-' then some (s.skipWhile (fun ch => plain ch || ch == '-') stop)
      else none

/-- The first line of a script that names its interpreter. -/
def interpreterLine : Lexeme where
  kind := "hash_bang_line"
  named := true
  scan s c :=
    if s.charAt c 0 == '#' && s.charAt c 1 == '!' then some (s.skipWhile (· != '\n') c) else none

def endOfText : Lexeme where
  kind := "end"
  silent := true
  scan s c := if s.char? c == none then some c else none

/-! ## Ends of statements without a semicolon -/

/-- Whether a statement may end at a line break before the token at the cursor. -/
def startsStatement (typed : Bool) (s : Source) (c : Cursor) : Bool :=
  match s.charAt c 0 with
  | '\x60' | ',' | ':' | ';' | '*' | '%' | '>' | '<' | '=' | '?' | '^' | '|' | '&' | '/' => false
  | '.' => !typed && isDigit (s.charAt c 1)
  | '(' | '[' => typed
  | '+' => s.charAt c 1 == '+'
  | '-' => s.charAt c 1 == '-'
  | '!' => s.charAt c 1 != '='
  | 'i' =>
    let w := wordAt s c
    w != "in" && w != "instanceof"
  | _ => true

/-- Whether a statement may end in front of the token at the cursor without a semicolon: at the end
of the text, before a closing brace, or at a line break before a token that does not go on with
it. -/
def endsBefore (typed : Bool) (s : Source) (next : Cursor) (broken : Bool) : Bool :=
  if s.firm.contains next.index then false
  else match s.char? next with
    | none => true
    | some '\x7d' => true
    | some _ => broken && startsStatement typed s next

/-- An end of a statement that takes no characters. -/
def statementEnd (typed : Bool) : Lexeme where
  kind := "statement_end"
  immediate := true
  silent := true
  scan s c :=
    let g := s.gap c
    if endsBefore typed s g.next g.broken then some c else none

/-- A text, whatever stands behind it. -/
def spelled (text : String) : Lexeme where
  kind := text
  scan s c := if s.startsWith c text.toList then some (s.advance text.length c) else none

end Lexeme
end Fanout.Grammar
