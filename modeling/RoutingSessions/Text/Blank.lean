/-
  RoutingSessions.Text.Blank — white space, and text without it at the ends.

  White space is the Unicode property `White_Space`: twenty-five characters, of
  which six are ASCII.  Format characters such as the byte order mark and the
  Mongolian vowel separator are not among them.

  Main statement:
    * `trimStart_eq_nil_iff` — nothing is left of a text exactly when all of it is
      white space.
-/

namespace RoutingSessions

/-! ## The property -/

/-- A white-space character, by the Unicode property. -/
def isBlank (c : Char) : Bool :=
  let n := c.toNat
  (9 ≤ n && n ≤ 13) || n == 0x20 || n == 0x85 || n == 0xA0 || n == 0x1680
    || (0x2000 ≤ n && n ≤ 0x200A) || n == 0x2028 || n == 0x2029 || n == 0x202F
    || n == 0x205F || n == 0x3000

/-! ## Text without white space at its ends -/

/-- The text from its first character that is not blank. -/
def trimStart (s : List Char) : List Char := s.dropWhile isBlank

/-- The text without the blanks at either end. -/
def trim (s : List Char) : List Char := (trimStart (trimStart s).reverse).reverse

/-- Nothing but white space, or nothing at all. -/
def isBlankText (s : String) : Bool := s.toList.all isBlank

theorem trimStart_eq_nil_iff {s : List Char} : trimStart s = [] ↔ ∀ c ∈ s, isBlank c = true := by
  induction s with
  | nil => simp [trimStart]
  | cons c s ih =>
    by_cases h : isBlank c = true
    · have hs : trimStart (c :: s) = trimStart s := by simp [trimStart, h]
      rw [hs, ih]
      simp [h]
    · simp [trimStart, List.dropWhile, h]

end RoutingSessions
