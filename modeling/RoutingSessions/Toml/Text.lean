/-
  RoutingSessions.Toml.Text — the strings of TOML.

  Strings are basic, with escapes, or literal, without; either kind may span lines
  between tripled quotes.  A line feed right behind the opening quotes is dropped, a
  line end of two characters counts as one line feed, and a backslash at the end of
  a line joins what follows the white space after it.
-/
import RoutingSessions.Handle

namespace RoutingSessions.Toml

/-! ## Characters -/

/-- White space inside a line. -/
def isSpace (c : Char) : Bool := c = ' ' || c = '\t'

/-- A character that may stand in a string or comment: no control other than the tab. -/
def isVisible (c : Char) : Bool := c = '\t' || (0x20 ≤ c.toNat && c.toNat ≠ 0x7F)

/-- The text behind a line end, if it begins with one. -/
def lineEnd? : List Char → Option (List Char)
  | '\n' :: s => some s
  | '\r' :: '\n' :: s => some s
  | _ => none

/-- The text behind white space. -/
def skipSpace (s : List Char) : List Char := s.dropWhile isSpace

/-! ## Escapes -/

/-- The character that a short escape stands for. -/
def shortEscape? : Char → Option Char
  | 'b' => some '\x08'
  | 't' => some '\t'
  | 'n' => some '\n'
  | 'f' => some '\x0c'
  | 'r' => some '\r'
  | '"' => some '"'
  | '\\' => some '\\'
  | _ => none

/-- The character of a code point in hexadecimal digits. -/
def codePoint? (digits : List Char) : Option Char :=
  match Octets.numberFrom? 0 digits with
  | some n => if n < 0xD800 || (0xE000 ≤ n && n ≤ 0x10FFFF) then some (Char.ofNat n) else none
  | none => none

/-! ## One line -/

/-- Puts a character before what is read of a string. -/
def andThen (c : Option Char) (rest : Option (List Char × List Char)) :
    Option (List Char × List Char) :=
  match c, rest with
  | some c, some (cs, s) => some (c :: cs, s)
  | _, _ => none

/-- A basic string up to its closing quote, and the text after it. -/
def readBasic : List Char → Option (List Char × List Char)
  | [] => none
  | '"' :: s => some ([], s)
  | '\\' :: 'u' :: a :: b :: c :: d :: s => andThen (codePoint? [a, b, c, d]) (readBasic s)
  | '\\' :: 'U' :: a :: b :: c :: d :: e :: f :: g :: h :: s =>
    andThen (codePoint? [a, b, c, d, e, f, g, h]) (readBasic s)
  | '\\' :: e :: s => andThen (shortEscape? e) (readBasic s)
  | c :: s => if isVisible c && c ≠ '\\' then andThen (some c) (readBasic s) else none

/-- A literal string up to its closing quote, and the text after it. -/
def readLiteral : List Char → Option (List Char × List Char)
  | [] => none
  | '\'' :: s => some ([], s)
  | c :: s => if isVisible c then andThen (some c) (readLiteral s) else none

/-! ## Several lines -/

/-- What closes a string: three quotes, and up to two more that belong to the string. -/
def closing? (quote : Char) : List Char → Option (List Char × List Char)
  | a :: b :: c :: d :: e :: s =>
    if a = quote && b = quote && c = quote then
      if d = quote then
        if e = quote then some ([quote, quote], s) else some ([quote], e :: s)
      else some ([], d :: e :: s)
    else none
  | [a, b, c, d] =>
    if a = quote && b = quote && c = quote then
      if d = quote then some ([quote], []) else some ([], [d])
    else none
  | [a, b, c] => if a = quote && b = quote && c = quote then some ([], []) else none
  | _ => none

/-- A backslash stands at the end of a line: only white space comes before the line end. -/
def joinsLines (s : List Char) : Bool := (lineEnd? (skipSpace s)).isSome

/-- A basic string over several lines, and the text after it.  While `joining`, white space and
line ends are dropped. -/
def readBasicLines (joining : Bool) (s : List Char) : Option (List Char × List Char) :=
  match closing? '"' s with
  | some r => some r
  | none =>
    match s with
    | [] => none
    | '\r' :: '\n' :: s =>
      if joining then readBasicLines true s else andThen (some '\n') (readBasicLines false s)
    | '\n' :: s =>
      if joining then readBasicLines true s else andThen (some '\n') (readBasicLines false s)
    | '\\' :: s =>
      if joinsLines s then readBasicLines true s
      else
        match s with
        | 'u' :: a :: b :: c :: d :: s =>
          andThen (codePoint? [a, b, c, d]) (readBasicLines false s)
        | 'U' :: a :: b :: c :: d :: e :: f :: g :: h :: s =>
          andThen (codePoint? [a, b, c, d, e, f, g, h]) (readBasicLines false s)
        | e :: s => andThen (shortEscape? e) (readBasicLines false s)
        | [] => none
    | c :: s =>
      if joining && isSpace c then readBasicLines true s
      else if isVisible c then andThen (some c) (readBasicLines false s)
      else none
termination_by s.length

/-- A literal string over several lines, and the text after it. -/
def readLiteralLines (s : List Char) : Option (List Char × List Char) :=
  match closing? '\'' s with
  | some r => some r
  | none =>
    match s with
    | [] => none
    | '\r' :: '\n' :: s => andThen (some '\n') (readLiteralLines s)
    | '\n' :: s => andThen (some '\n') (readLiteralLines s)
    | c :: s => if isVisible c then andThen (some c) (readLiteralLines s) else none
termination_by s.length

/-- The text without a line end at its beginning. -/
def dropLineEnd (s : List Char) : List Char := (lineEnd? s).getD s

/-- The string at the beginning of the text, and the text after it. -/
def readString : List Char → Option (List Char × List Char)
  | '"' :: '"' :: '"' :: s => readBasicLines false (dropLineEnd s)
  | '\'' :: '\'' :: '\'' :: s => readLiteralLines (dropLineEnd s)
  | '"' :: s => readBasic s
  | '\'' :: s => readLiteral s
  | _ => none

end RoutingSessions.Toml
