/-
  RoutingSessions.Proofs.Glob — what a pattern covers, and what its expression finds.

  A pattern is turned into an expression by replacing pairs of characters in its
  escaped form.  Such a pair could lie across two characters of the pattern, say where
  a backslash stands before a star.  It never does: each character is written as a
  block that begins neither with a star nor with a question mark, so no pair ends
  where a block begins.

  What is covered is said without a matcher: the text is one piece after the other,
  and each character of the pattern takes its piece.

  Main statements:
    * `replacePair_flatMap` — pairs are replaced block by block.
    * `read_translate` — the expression of a pattern, item by item.
    * `finds_iff_cutBy` — what the expression is found in.
    * `matchesText_iff_cutBy` — what a pattern that compiles covers.
-/
import Mathlib.Data.List.Forall2
import RoutingSessions.Expression.Engine
import RoutingSessions.Glob

namespace RoutingSessions

namespace Expression

/-! ## §1. Replacing block by block. -/

section Blocks

variable {a b c d : Char} {sub rest l : List Char} {f : Char → List Char}

/-- One or two characters, of which the first is another one. -/
def IsBlock (b : Char) (block : List Char) : Prop :=
  ∃ c, c ≠ b ∧ (block = [c] ∨ ∃ d, block = [c, d])

theorem replacePair_pair (a b : Char) (sub rest : List Char) :
    replacePair a b sub (a :: b :: rest) = sub ++ replacePair a b sub rest := by
  rw [replacePair, if_pos ⟨rfl, rfl⟩]

theorem replacePair_of_ne (h : c = a → d ≠ b) :
    replacePair a b sub (c :: d :: rest) = c :: replacePair a b sub (d :: rest) := by
  rw [replacePair, if_neg fun hpair => h hpair.1 hpair.2]

/-- No pair begins with a character before a block. -/
theorem replacePair_of_head? (hrest : rest.head? ≠ some b) :
    replacePair a b sub (c :: rest) = c :: replacePair a b sub rest := by
  cases rest with
  | nil => rfl
  | cons d rest => exact replacePair_of_ne fun _ hd => hrest (congrArg some hd)

theorem IsBlock.head?_append {block : List Char} (h : IsBlock b block) (rest : List Char) :
    (block ++ rest).head? ≠ some b := by
  obtain ⟨c, hc, rfl | ⟨d, rfl⟩⟩ := h <;> exact fun heq => hc (Option.some.inj heq)

theorem head?_flatMap_append (hf : ∀ c, IsBlock b (f c)) (hrest : rest.head? ≠ some b) :
    (l.flatMap f ++ rest).head? ≠ some b := by
  cases l with
  | nil => exact hrest
  | cons c l =>
    rw [List.flatMap_cons, List.append_assoc]
    exact (hf c).head?_append _

/-- **Pairs are replaced block by block**, if no block begins like a pair ends. -/
theorem replacePair_flatMap (hf : ∀ c, IsBlock b (f c)) (l : List Char) :
    replacePair a b sub (l.flatMap f) = l.flatMap fun c => if f c = [a, b] then sub else f c := by
  induction l with
  | nil => rfl
  | cons c l ih =>
    have hnext : (l.flatMap f).head? ≠ some b := by
      have hhead : (l.flatMap f ++ []).head? ≠ some b := head?_flatMap_append hf nofun
      rwa [List.append_nil] at hhead
    rw [List.flatMap_cons, List.flatMap_cons, ← ih]
    obtain ⟨d, hd, hblock | ⟨e, hblock⟩⟩ := hf c
    · -- too short to be a pair, and no pair ends where the next block begins
      rw [hblock, if_neg (by simp)]
      exact replacePair_of_head? hnext
    · rw [hblock]
      by_cases hpair : [d, e] = [a, b]
      · obtain ⟨rfl, rfl⟩ : d = a ∧ e = b := by simpa using hpair
        rw [if_pos rfl]
        exact replacePair_pair d e sub _
      · rw [if_neg hpair]
        show replacePair a b sub (d :: e :: l.flatMap f)
          = d :: e :: replacePair a b sub (l.flatMap f)
        rw [replacePair_of_ne fun hd he => hpair (by rw [hd, he]), replacePair_of_head? hnext]

end Blocks

/-! ## §2. The expression of a pattern. -/

/-- The character of a pattern as its expression writes it. -/
def written (c : Char) : List Char :=
  if c = '*' then ['.', '*'] else if c = '?' then ['.'] else escapeChar c

/-- The item for the character of a pattern. -/
def itemOf (c : Char) : Item :=
  if c = '*' then .dots else if c = '?' then .dot else .literal c

theorem escapeChar_isBlock {b : Char} (hb : isMeta b = true) (hslash : b ≠ '\\') (c : Char) :
    IsBlock b (escapeChar c) := by
  unfold escapeChar
  split
  next => exact ⟨'\\', hslash.symm, .inr ⟨c, rfl⟩⟩
  next hc => exact ⟨c, fun heq => hc (heq ▸ hb), .inl rfl⟩

/-- Only the character itself is written with a backslash before it. -/
theorem escapeChar_eq_pair {c d : Char} (hd : isMeta d = true) :
    escapeChar c = ['\\', d] ↔ c = d := by
  unfold escapeChar
  constructor
  · split
    · intro h
      exact (List.cons.inj (List.cons.inj h).2).1
    · intro h
      cases h
  · rintro rfl
    rw [if_pos hd]

theorem written_isBlock (c : Char) : IsBlock '*' (written c) := by
  unfold written
  split
  · exact ⟨'.', by decide, .inr ⟨'*', rfl⟩⟩
  · split
    · exact ⟨'.', by decide, .inl rfl⟩
    · exact escapeChar_isBlock (by decide) (by decide) c

/-- The escaped character, once the stars are put back. -/
theorem starred_isBlock (c : Char) :
    IsBlock '?' (if escapeChar c = ['\\', '*'] then ['.', '*'] else escapeChar c) := by
  split
  · exact ⟨'.', by decide, .inr ⟨'*', rfl⟩⟩
  · exact escapeChar_isBlock (by decide) (by decide) c

/-- Replacing in what is escaped writes each character. -/
theorem written_eq (c : Char) :
    (let starred := if escapeChar c = ['\\', '*'] then ['.', '*'] else escapeChar c
      if starred = ['\\', '?'] then ['.'] else starred) = written c := by
  unfold written
  by_cases hstar : c = '*'
  · rw [if_pos ((escapeChar_eq_pair (by decide)).2 hstar), if_pos hstar]
    rfl
  · rw [if_neg fun h => hstar ((escapeChar_eq_pair (by decide)).1 h), if_neg hstar]
    by_cases hquestion : c = '?'
    · rw [if_pos hquestion]
      exact if_pos ((escapeChar_eq_pair (by decide)).2 hquestion)
    · rw [if_neg hquestion]
      exact if_neg fun h => hquestion ((escapeChar_eq_pair (by decide)).1 h)

/-- **The expression of a pattern** writes one character of it after the other. -/
theorem toList_translate {m : Matcher} (hm : m.Lawful) (pattern : String) :
    (m.translate pattern).toList = '^' :: (pattern.toList.flatMap written ++ ['$']) := by
  have hwritten : replacePair '\\' '?' ['.'] (replacePair '\\' '*' ['.', '*']
      (m.escape pattern).toList) = pattern.toList.flatMap written := by
    rw [hm.toList_escape, replacePair_flatMap (escapeChar_isBlock (by decide) (by decide)),
      replacePair_flatMap starred_isBlock, ← funext written_eq]
  rw [← hwritten, Matcher.translate, String.toList_append, String.toList_append]
  show '^' :: ((String.ofList _).toList ++ ['$']) = _
  rw [String.toList_ofList]

/-- The backslash of the pattern does not escape the star behind it. -/
example : plain.translate "\\*a.?" = "^\\\\.*a\\..$" := by decide +kernel

/-! ## §3. Its items. -/

theorem single?_eq_literal {c : Char} (hc : isMeta c = false) : single? c = some (.literal c) := by
  have hne : ∀ d, isMeta d = true → c ≠ d := by
    rintro d hd rfl
    rw [hc] at hd
    cases hd
  rw [single?, if_neg (hne '^' (by decide)), if_neg (hne '$' (by decide)),
    if_neg (hne '.' (by decide)), hc]
  rfl

/-- Each character is read as one item, unless a star follows. -/
theorem read_written (c : Char) {rest : List Char} (hrest : rest.head? ≠ some '*') :
    read (written c ++ rest) = (read rest).map (itemOf c :: ·) := by
  unfold written itemOf
  by_cases hstar : c = '*'
  · rw [if_pos hstar, if_pos hstar]
    exact read_dots rest
  rw [if_neg hstar, if_neg hstar]
  by_cases hquestion : c = '?'
  · rw [if_pos hquestion, if_pos hquestion]
    exact read_single rfl hrest
  rw [if_neg hquestion, if_neg hquestion, escapeChar]
  cases hc : isMeta c with
  | true => exact read_backslash hc
  | false => exact read_single (single?_eq_literal hc) hrest

theorem read_flatMap_written (pattern : List Char) :
    read (pattern.flatMap written ++ ['$']) = some (pattern.map itemOf ++ [.finish]) := by
  induction pattern with
  | nil => rfl
  | cons c pattern ih =>
    -- what a question mark writes is not made a run by what is behind it
    have hnext : (pattern.flatMap written ++ ['$']).head? ≠ some '*' :=
      head?_flatMap_append written_isBlock (by decide)
    rw [List.flatMap_cons, List.append_assoc, read_written c hnext, ih]
    rfl

/-- **The expression of a pattern is read** as one item for each character, between the anchors. -/
theorem read_translate {m : Matcher} (hm : m.Lawful) (pattern : String) :
    read (m.translate pattern).toList
      = some (.start :: (pattern.toList.map itemOf ++ [.finish])) := by
  have hnext : (pattern.toList.flatMap written ++ ['$']).head? ≠ some '*' :=
    head?_flatMap_append written_isBlock (by decide)
  have hstart : single? '^' = some .start := rfl
  rw [toList_translate hm, read_single hstart hnext, read_flatMap_written]
  rfl

end Expression

/-! ## §4. Pieces of text. -/

namespace Glob

/-- The character of a pattern takes the piece of text: a star any run of characters of a line, a
question mark one such character, and any other character itself. -/
def Fits (c : Char) (piece : List Char) : Prop :=
  if c = '*' then ∀ d ∈ piece, d ≠ '\n'
  else if c = '?' then ∃ d, d ≠ '\n' ∧ piece = [d]
  else piece = [c]

/-- The text is one piece after the other, one for each character of the pattern. -/
def CutBy (pattern text : List Char) : Prop :=
  ∃ pieces, List.Forall₂ Fits pattern pieces ∧ pieces.flatten = text

section CutBy

variable {c : Char} {pattern text : List Char}

theorem cutBy_nil : CutBy [] text ↔ text = [] := by
  constructor
  · rintro ⟨_, ⟨⟩, rfl⟩
    rfl
  · rintro rfl
    exact ⟨[], .nil, rfl⟩

theorem cutBy_cons :
    CutBy (c :: pattern) text ↔
      ∃ piece rest, text = piece ++ rest ∧ Fits c piece ∧ CutBy pattern rest := by
  constructor
  · rintro ⟨_, hall, rfl⟩
    cases hall with
    | @cons _ piece _ pieces hpiece hpieces =>
      exact ⟨piece, pieces.flatten, rfl, hpiece, pieces, hpieces, rfl⟩
  · rintro ⟨piece, _, rfl, hpiece, pieces, hpieces, rfl⟩
    exact ⟨piece :: pieces, .cons hpiece hpieces, rfl⟩

end CutBy

/-! ## §5. What the expression finds. -/

section Finds

open Expression (Item Runs Finds itemOf)

theorem takes_itemOf (c : Char) (before piece rest : List Char) :
    (itemOf c).Takes before piece rest ↔ Fits c piece := by
  unfold itemOf Fits
  split
  · rfl
  · split
    · rfl
    · rfl

/-- Up to the end of the text, the items take what the characters of the pattern take. -/
theorem runs_iff_cutBy {pattern before rest : List Char} :
    Runs (pattern.map itemOf ++ [.finish]) before rest ↔ CutBy pattern rest := by
  induction pattern generalizing before rest with
  | nil =>
    rw [cutBy_nil]
    constructor
    · rintro ⟨_, _, rfl, ⟨rfl, rfl⟩, _⟩
      rfl
    · rintro rfl
      exact ⟨[], [], rfl, ⟨rfl, rfl⟩, trivial⟩
  | cons c pattern ih =>
    rw [cutBy_cons]
    show (∃ piece rest', rest = piece ++ rest' ∧ (itemOf c).Takes before piece rest'
      ∧ Runs (pattern.map itemOf ++ [.finish]) (before ++ piece) rest') ↔ _
    simp only [takes_itemOf, ih]

/-- **What the items of a pattern are found in**: the anchors leave no other place than the whole
text. -/
theorem finds_iff_cutBy {pattern text : List Char} :
    Finds (.start :: (pattern.map itemOf ++ [.finish])) text ↔ CutBy pattern text := by
  constructor
  · rintro ⟨_, rest, rfl, _, _, rfl, ⟨rfl, rfl⟩, hruns⟩
    exact runs_iff_cutBy.1 hruns
  · intro hcut
    exact ⟨[], text, rfl, [], text, rfl, ⟨rfl, rfl⟩, runs_iff_cutBy.2 hcut⟩

end Finds

/-! ## §6. Patterns that compile. -/

theorem compile_eq_ok {m : Expression.Matcher} {pattern : String} {g : Glob} :
    compile m pattern = .ok g ↔ m.compilePattern pattern = some g.matchesText := by
  unfold compile
  cases m.compilePattern pattern with
  | none => exact ⟨nofun, nofun⟩
  | some found =>
    rw [Option.some.injEq, Except.ok.injEq]
    constructor
    · rintro rfl
      rfl
    · rintro rfl
      rfl

theorem exists_compile {m : Expression.Matcher} {pattern : String} :
    (∃ g, compile m pattern = .ok g) ↔ ∃ found, m.compilePattern pattern = some found := by
  simp only [compile_eq_ok]
  constructor
  · rintro ⟨g, hg⟩
    exact ⟨_, hg⟩
  · rintro ⟨found, hfound⟩
    exact ⟨⟨found⟩, hfound⟩

section Compiled

variable {m : Expression.Matcher} {pattern text : String} {g : Glob} {found : String → Bool}

theorem found_iff (hm : m.Lawful) (hfound : m.compilePattern pattern = some found) :
    found text = true ↔ CutBy pattern.toList text.toList :=
  (hm.found_iff (Expression.read_translate hm pattern) hfound text).trans finds_iff_cutBy

theorem matchesText_iff (hm : m.Lawful) (hg : compile m pattern = .ok g) :
    g.matchesText text = true ↔ CutBy pattern.toList text.toList :=
  found_iff hm (compile_eq_ok.1 hg)

end Compiled

/-- **A pattern covers a text exactly if the text is cut into pieces that its characters take.**
This holds for every lawful matcher and of every pattern that it compiles, for every text; and it
holds of what the matcher finds the expression of the pattern in. -/
theorem matchesText_iff_cutBy {m : Expression.Matcher} (hm : m.Lawful) (pattern text : String) :
    (∀ g, compile m pattern = .ok g →
        (g.matchesText text = true ↔ CutBy pattern.toList text.toList))
      ∧ ∀ found, m.compilePattern pattern = some found →
        (found text = true ↔ CutBy pattern.toList text.toList) :=
  ⟨fun _ hg => matchesText_iff hm hg, fun _ hfound => found_iff hm hfound⟩

/-- A backslash before a star is a piece of its own, and the star still takes a run. -/
theorem matchesText_iff_cutBy_backslash :
    Expression.engine.Lawful ∧ (Expression.engine.compilePattern "\\*[?").isSome = true
      ∧ (∃ g, compile Expression.engine "\\*[?" = .ok g)
      ∧ CutBy "\\*[?".toList "\\ab[c".toList ∧ ¬CutBy "\\*[?".toList "\\a\n[c".toList := by
  have hlawful := Expression.engine_lawful
  obtain ⟨found, hfound⟩ : ∃ found, Expression.engine.compilePattern "\\*[?" = some found :=
    Option.isSome_iff_exists.1 (by decide +kernel)
  have hg : compile Expression.engine "\\*[?" = .ok ⟨found⟩ := compile_eq_ok.2 hfound
  have hfinds : found "\\ab[c" = true := by
    have h : (Expression.engine.compilePattern "\\*[?").map (· "\\ab[c") = some true := by
      decide +kernel
    rw [hfound] at h
    exact Option.some.inj h
  have hmisses : found "\\a\n[c" ≠ true := by
    have h : (Expression.engine.compilePattern "\\*[?").map (· "\\a\n[c") = some false := by
      decide +kernel
    rw [hfound] at h
    exact ne_true_of_eq_false (Option.some.inj h)
  refine ⟨hlawful, by rw [hfound]; rfl, ⟨_, hg⟩, ?_, fun hcut => hmisses ?_⟩
  · exact ((matchesText_iff_cutBy hlawful "\\*[?" "\\ab[c").2 found hfound).1 hfinds
  · exact ((matchesText_iff_cutBy hlawful "\\*[?" "\\a\n[c").1 _ hg).2 hcut

end Glob

end RoutingSessions
