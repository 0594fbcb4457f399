/-
  RoutingSessions.Text.Quoted — texts as diagnostics quote them.

  The text stands between double quotes.  Quotes and backslashes take a backslash,
  line ends, tabs and the null character have a short form, and a character without
  a glyph of its own is shown by its hexadecimal code point.
-/
import RoutingSessions.Text.Unprintable

namespace RoutingSessions

/-- A code point in lower-case hexadecimal digits, between braces. -/
def showCodePoint (c : Char) : List Char :=
  '\\' :: 'u' :: '{' :: Nat.toDigits 16 c.toNat ++ ['}']

/-- A character as it stands in a quoted text. -/
def quoteChar (c : Char) : List Char :=
  match c with
  | '\x00' => ['\\', '0']
  | '\t' => ['\\', 't']
  | '\r' => ['\\', 'r']
  | '\n' => ['\\', 'n']
  | '\\' => ['\\', '\\']
  | '"' => ['\\', '"']
  | c => if isUnprintable c then showCodePoint c else [c]

/-- A text between quotes. -/
def quoted (s : String) : String := String.ofList ('"' :: s.toList.flatMap quoteChar ++ ['"'])

end RoutingSessions
