/-
  RoutingSessions.Expression — regular expressions, as far as patterns need them.

  An expression is read item by item: an anchor, a dot for any character of the line,
  a dot and a star for a run of such characters, or a character that stands for
  itself, with a backslash before it if it would not do so otherwise.  Expressions
  that write anything else are not read.

  A matcher may know more expressions than these.  On these it has to agree.  A pattern
  is turned into an expression by replacing text in its escaped form.

  Main statements:
    * `Runs`, `Finds` — what the items are found in.
    * `plain_lawful` — the expressions that are read have a matcher of their own.
-/

namespace RoutingSessions.Expression

/-! ## Writing -/

/-- A character that does not stand for itself, unless there is a backslash before it. -/
def isMeta (c : Char) : Bool :=
  ['\\', '.', '+', '*', '?', '(', ')', '|', '[', ']', '{', '}', '^', '$', '#', '&', '-',
    '~'].contains c

/-- The character, so that it stands for itself. -/
def escapeChar (c : Char) : List Char := if isMeta c then ['\\', c] else [c]

/-! ## Reading -/

/-- A part of an expression. -/
inductive Item where
  /-- The place before the text. -/
  | start
  /-- The place behind the text. -/
  | finish
  /-- Any one character of a line. -/
  | dot
  /-- Any run of characters of a line. -/
  | dots
  /-- The character itself. -/
  | literal (c : Char)
deriving DecidableEq

/-- The item that the character writes alone. -/
def single? (c : Char) : Option Item :=
  if c = '^' then some .start
  else if c = '$' then some .finish
  else if c = '.' then some .dot
  else if isMeta c then none
  else some (.literal c)

/-- The items of an expression, if there are no others in it. -/
def read : List Char → Option (List Item)
  | [] => some []
  | [c] => (single? c).map fun item => [item]
  | c :: d :: rest =>
    if c = '\\' then
      if isMeta d then (read rest).map (.literal d :: ·) else none
    else if c = '.' ∧ d = '*' then (read rest).map (.dots :: ·)
    else (single? c).bind fun item => (read (d :: rest)).map (item :: ·)

theorem read_backslash {c : Char} {rest : List Char} (hc : isMeta c = true) :
    read ('\\' :: c :: rest) = (read rest).map (.literal c :: ·) := by
  rw [read, if_pos rfl, if_pos hc]

theorem read_dots (rest : List Char) :
    read ('.' :: '*' :: rest) = (read rest).map (.dots :: ·) := by
  rw [read, if_neg (by decide), if_pos ⟨rfl, rfl⟩]

/-- A character that writes an item alone does so unless a star follows. -/
theorem read_single {c : Char} {item : Item} {rest : List Char} (hc : single? c = some item)
    (hrest : rest.head? ≠ some '*') : read (c :: rest) = (read rest).map (item :: ·) := by
  cases rest with
  | nil =>
    show (single? c).map _ = _
    rw [hc]
    rfl
  | cons d rest =>
    have hslash : c ≠ '\\' := by
      rintro rfl
      cases hc
    have hstar : ¬(c = '.' ∧ d = '*') := fun h => hrest (congrArg some h.2)
    rw [read, if_neg hslash, if_neg hstar, hc]
    rfl

/-! ## Meaning -/

/-- The item takes the run of characters that stands between the two texts. -/
def Item.Takes : Item → (before run after : List Char) → Prop
  | .start, before, run, _ => run = [] ∧ before = []
  | .finish, _, run, after => run = [] ∧ after = []
  | .dot, _, run, _ => ∃ c, c ≠ '\n' ∧ run = [c]
  | .dots, _, run, _ => ∀ c ∈ run, c ≠ '\n'
  | .literal c, _, run, _ => run = [c]

/-- From the place between the two texts on, each item takes a run of characters. -/
def Runs : List Item → (before rest : List Char) → Prop
  | [], _, _ => True
  | item :: items, before, rest =>
    ∃ run after, rest = run ++ after ∧ item.Takes before run after
      ∧ Runs items (before ++ run) after

/-- The items are found in the text, at some place. -/
def Finds (items : List Item) (text : List Char) : Prop :=
  ∃ before rest, text = before ++ rest ∧ Runs items before rest

/-- Every way to cut a text in two is found by the length of the first part. -/
theorem exists_append_iff {P : List Char → List Char → Prop} {text : List Char} :
    (∃ first last, text = first ++ last ∧ P first last)
      ↔ ∃ k ∈ List.range (text.length + 1), P (text.take k) (text.drop k) := by
  constructor
  · rintro ⟨first, last, rfl, h⟩
    have hle : first.length ≤ (first ++ last).length :=
      List.length_append ▸ Nat.le_add_right _ _
    refine ⟨first.length, List.mem_range.2 (Nat.lt_succ_of_le hle), ?_⟩
    rwa [List.take_left, List.drop_left]
  · rintro ⟨k, _, h⟩
    exact ⟨_, _, (List.take_append_drop k text).symm, h⟩

instance (item : Item) (before run after : List Char) : Decidable (item.Takes before run after) :=
  match item with
  | .start => inferInstanceAs (Decidable (run = [] ∧ before = []))
  | .finish => inferInstanceAs (Decidable (run = [] ∧ after = []))
  | .dot =>
    match run with
    | [] => .isFalse fun ⟨_, _, h⟩ => nomatch h
    | [c] => decidable_of_iff (c ≠ '\n')
        ⟨fun h => ⟨c, h, rfl⟩, fun ⟨_, h, heq⟩ => (List.cons.inj heq).1 ▸ h⟩
    | _ :: _ :: _ => .isFalse fun ⟨_, _, h⟩ => nomatch h
  -- the characters of the run are tried, not all there are
  | .dots => List.decidableBAll (· ≠ '\n') run
  | .literal c => inferInstanceAs (Decidable (run = [c]))

instance decidableRuns : (items : List Item) → (before rest : List Char) →
    Decidable (Runs items before rest)
  | [], _, _ => .isTrue trivial
  | _ :: items, before, rest =>
    have := fun k => decidableRuns items (before ++ rest.take k) (rest.drop k)
    decidable_of_iff' _ exists_append_iff

instance (items : List Item) (text : List Char) : Decidable (Finds items text) :=
  decidable_of_iff' _ exists_append_iff

/-! ## Replacing -/

/-- The text with every occurrence of the two characters replaced, from the left. -/
def replacePair (a b : Char) (sub : List Char) : List Char → List Char
  | [] => []
  | [c] => [c]
  | c :: d :: rest =>
    if c = a ∧ d = b then sub ++ replacePair a b sub rest
    else c :: replacePair a b sub (d :: rest)

/-! ## Matchers -/

/-- A library for regular expressions. -/
structure Matcher where
  /-- The expression in which every character of the text stands for itself. -/
  escape : String → String
  /-- Whether the expression is found in a text, unless the expression is refused. -/
  compile : String → Option (String → Bool)
  /-- What is said of an expression that is refused. -/
  complaint : String → String

/-- What is relied on: how texts are escaped, and that the expressions above mean what they say. -/
structure Matcher.Lawful (m : Matcher) : Prop where
  /-- Escaping puts one backslash before each character that needs it, and nothing else. -/
  toList_escape : ∀ text, (m.escape text).toList = text.toList.flatMap escapeChar
  /-- Expressions that are read, if they are not refused, are found where their items are. -/
  found_iff : ∀ {expression items found}, read expression.toList = some items →
    m.compile expression = some found → ∀ text, found text = true ↔ Finds items text.toList

/-- The expression for a pattern over names: anchored on both sides, all of it escaped, and then
the wildcards put back, stars first. -/
def Matcher.translate (m : Matcher) (pattern : String) : String :=
  let escaped := (m.escape pattern).toList
  let starred := replacePair '\\' '*' ['.', '*'] escaped
  "^" ++ String.ofList (replacePair '\\' '?' ['.'] starred) ++ "$"

/-- Whether the pattern covers a text, unless its expression is refused. -/
def Matcher.compilePattern (m : Matcher) (pattern : String) : Option (String → Bool) :=
  m.compile (m.translate pattern)

/-- The matcher that knows the expressions that are read, and no others. -/
def plain : Matcher where
  escape text := String.ofList (text.toList.flatMap escapeChar)
  compile expression :=
    (read expression.toList).map fun items text => decide (Finds items text.toList)
  complaint _ := "not supported"

theorem plain_lawful : plain.Lawful where
  toList_escape _ := String.toList_ofList
  found_iff := by
    intro expression items found hread hfound text
    have hcompile : (read expression.toList).map
        (fun items (text : String) => decide (Finds items text.toList)) = some found := hfound
    rw [hread] at hcompile
    cases hcompile
    exact decide_eq_true_iff

end RoutingSessions.Expression
