/-
  RoutingSessions.Proofs.Text — what trimming and cutting do to a text, said without
  a scan.

  Trimming splits a text in three, and the middle is certain: white space on both
  sides of it, none at its own ends.  Cutting at a separator is the only way to write
  the text as pieces without separators, joined by them.  Bytes are cut into lines in
  one way only, too, since a carriage return before a line feed goes with it.

  Main statements:
    * `trimsTo_iff` — the text without the white space at its ends.
    * `cutsInto_iff` — the pieces between the separators.
    * `cutsIntoLines_iff` — the lines of a byte text.
    * `decodeUtf8?_eq_some_iff` — the text that bytes encode.
-/
import RoutingSessions.Text.Blank
import RoutingSessions.Text.Lines

namespace RoutingSessions

/-! ## §1. White space at the ends. -/

section Trim

variable {s core lead tail : List Char}

/-- The text is `core` with white space before and behind it, and `core` has none at its ends. -/
def TrimsTo (s core : List Char) : Prop :=
  ∃ lead tail, s = lead ++ (core ++ tail)
    ∧ (∀ c ∈ lead, isBlank c = true) ∧ (∀ c ∈ tail, isBlank c = true)
    ∧ (∀ c, core.head? = some c → isBlank c = false)
    ∧ ∀ c, core.getLast? = some c → isBlank c = false

theorem trimStart_append (hlead : ∀ c ∈ lead, isBlank c = true) (s : List Char) :
    trimStart (lead ++ s) = trimStart s := by
  show (lead ++ s).dropWhile isBlank = s.dropWhile isBlank
  exact List.dropWhile_append_of_pos hlead

/-- Nothing is taken off a text that begins with something else. -/
theorem trimStart_of_head? (hs : ∀ c, s.head? = some c → isBlank c = false) : trimStart s = s := by
  cases s with
  | nil => rfl
  | cons c s =>
    have hc : isBlank c = false := hs c rfl
    show (c :: s).dropWhile isBlank = c :: s
    rw [List.dropWhile_cons, hc]
    rfl

theorem head?_trimStart {c : Char} (h : (trimStart s).head? = some c) : isBlank c = false := by
  have hnot := List.head?_dropWhile_not isBlank s
  rw [show s.dropWhile isBlank = trimStart s from rfl, h] at hnot
  simpa using hnot

/-- What trimming takes off at the beginning. -/
theorem exists_append_trimStart (s : List Char) :
    ∃ lead, s = lead ++ trimStart s ∧ ∀ c ∈ lead, isBlank c = true := by
  refine ⟨s.takeWhile isBlank, ?_, ?_⟩
  · exact List.takeWhile_append_dropWhile.symm
  · intro c hc
    exact List.all_eq_true.1 List.all_takeWhile c hc

theorem trimsTo_trim (s : List Char) : TrimsTo s (trim s) := by
  obtain ⟨lead, hs, hlead⟩ := exists_append_trimStart s
  obtain ⟨tail, ht, htail⟩ := exists_append_trimStart (trimStart s).reverse
  -- the end of the text is the beginning of its reverse
  have hsplit : trimStart s = trim s ++ tail.reverse := by
    have hrev := congrArg List.reverse ht
    rw [List.reverse_reverse, List.reverse_append] at hrev
    exact hrev
  refine ⟨lead, tail.reverse, ?_, hlead, ?_, ?_, ?_⟩
  · rw [← hsplit]
    exact hs
  · intro c hc
    exact htail c (List.mem_reverse.1 hc)
  · intro c hc
    have hhead : (trimStart s).head? = some c := by
      rw [hsplit, List.head?_append, hc]
      rfl
    exact head?_trimStart hhead
  · intro c hc
    unfold trim at hc
    rw [List.getLast?_reverse] at hc
    exact head?_trimStart hc

/-- **The middle of a text is what trimming leaves of it.** -/
theorem trimsTo_iff : TrimsTo s core ↔ trim s = core := by
  constructor
  · intro h
    obtain ⟨lead, tail, rfl, hlead, htail, hhead, hlast⟩ := h
    have hblank : ∀ c ∈ tail.reverse, isBlank c = true := by
      intro c hc
      exact htail c (List.mem_reverse.1 hc)
    unfold trim
    rw [trimStart_append hlead]
    cases core with
    | nil =>
      -- white space only
      have hnil : trimStart tail = [] := trimStart_eq_nil_iff.2 htail
      show (trimStart (trimStart tail).reverse).reverse = []
      rw [hnil]
      rfl
    | cons a core =>
      have hstart : trimStart (a :: core ++ tail) = a :: core ++ tail := trimStart_of_head? hhead
      have hfinish : trimStart (a :: core).reverse = (a :: core).reverse := by
        apply trimStart_of_head?
        intro c hc
        rw [List.head?_reverse] at hc
        exact hlast c hc
      rw [hstart, List.reverse_append, trimStart_append hblank, hfinish, List.reverse_reverse]
  · intro h
    rw [← h]
    exact trimsTo_trim s

end Trim

/-! ## §2. Pieces between separators. -/

section Pieces

variable {sep : Char} {s p : List Char} {parts : List (List Char)}

/-- The text is the pieces, of which there is at least one, with a separator between neighbours
and none inside. -/
def CutsInto (sep : Char) (s : List Char) (parts : List (List Char)) : Prop :=
  parts ≠ [] ∧ (∀ p ∈ parts, sep ∉ p) ∧ joinWith sep parts = s

theorem not_mem_of_mem_pieces (h : p ∈ pieces sep s) : sep ∉ p := by
  induction s generalizing p with
  | nil =>
    have hp : p = [] := by simpa [pieces] using h
    rw [hp]
    exact List.not_mem_nil
  | cons c s ih =>
    unfold pieces at h
    split at h
    · cases h with
      | head => exact List.not_mem_nil
      | tail _ h => exact ih h
    · rename_i hc
      have hne : sep ≠ c := fun heq => hc heq.symm
      split at h
      next =>
        have hp : p = [c] := by simpa using h
        rw [hp]
        simpa using hne
      next q qs hq =>
        rw [hq] at ih
        cases h with
        | head =>
          have hmem : sep ∉ q := ih (List.mem_cons_self ..)
          simp [hne, hmem]
        | tail _ h => exact ih (List.mem_cons_of_mem _ h)

theorem pieces_of_not_mem (h : sep ∉ p) : pieces sep p = [p] := by
  induction p with
  | nil => rfl
  | cons c p ih =>
    have hc : ¬c = sep := fun heq => h (heq ▸ List.mem_cons_self ..)
    have hp : sep ∉ p := fun hmem => h (List.mem_cons_of_mem _ hmem)
    rw [pieces, if_neg hc, ih hp]

/-- The first separator ends the first piece. -/
theorem pieces_append (h : sep ∉ p) (s : List Char) :
    pieces sep (p ++ sep :: s) = p :: pieces sep s := by
  induction p with
  | nil =>
    show pieces sep (sep :: s) = [] :: pieces sep s
    rw [pieces, if_pos rfl]
  | cons c p ih =>
    have hc : ¬c = sep := fun heq => h (heq ▸ List.mem_cons_self ..)
    have hp : sep ∉ p := fun hmem => h (List.mem_cons_of_mem _ hmem)
    show pieces sep (c :: (p ++ sep :: s)) = (c :: p) :: pieces sep s
    rw [pieces, if_neg hc, ih hp]

theorem pieces_joinWith (hne : parts ≠ []) (hparts : ∀ p ∈ parts, sep ∉ p) :
    pieces sep (joinWith sep parts) = parts := by
  induction parts with
  | nil => exact absurd rfl hne
  | cons p parts ih =>
    have hp : sep ∉ p := hparts p (List.mem_cons_self ..)
    cases parts with
    | nil => exact pieces_of_not_mem hp
    | cons q parts =>
      show pieces sep (p ++ sep :: joinWith sep (q :: parts)) = p :: q :: parts
      rw [pieces_append hp, ih (List.cons_ne_nil _ _)]
      intro r hr
      exact hparts r (List.mem_cons_of_mem _ hr)

/-- **A text is cut in one way only.** -/
theorem cutsInto_iff : CutsInto sep s parts ↔ pieces sep s = parts := by
  constructor
  · intro h
    obtain ⟨hne, hparts, rfl⟩ := h
    exact pieces_joinWith hne hparts
  · intro h
    rw [← h]
    refine ⟨pieces_ne_nil sep s, ?_, joinWith_pieces sep s⟩
    intro p hp
    exact not_mem_of_mem_pieces hp

/-- What stands in joined pieces stands in one of them, or between them. -/
theorem mem_joinWith {c : Char} (h : c ∈ joinWith sep parts) : c = sep ∨ ∃ p ∈ parts, c ∈ p := by
  induction parts with
  | nil => cases h
  | cons p parts ih =>
    cases parts with
    | nil => exact .inr ⟨p, List.mem_cons_self .., h⟩
    | cons q parts =>
      have hmem : c ∈ p ++ sep :: joinWith sep (q :: parts) := h
      rw [List.mem_append, List.mem_cons] at hmem
      rcases hmem with hp | rfl | hrest
      · exact .inr ⟨p, List.mem_cons_self .., hp⟩
      · exact .inl rfl
      · rcases ih hrest with hsep | ⟨r, hr, hc⟩
        · exact .inl hsep
        · exact .inr ⟨r, List.mem_cons_of_mem _ hr, hc⟩

end Pieces

/-! ## §3. Lines of bytes. -/

section Lines

variable {bytes line rest : List UInt8} {lines : List (List UInt8)}

/-- The bytes are these lines.  A line feed ends a line, and a carriage return in front of it
belongs to the end of the line; the last line may lack its end if there is something in it. -/
inductive CutsIntoLines : List UInt8 → List (List UInt8) → Prop where
  | nil : CutsIntoLines [] []
  | last {line : List UInt8} : 10 ∉ line → line ≠ [] → CutsIntoLines line [line]
  | lineFeed {line rest : List UInt8} {lines : List (List UInt8)} : 10 ∉ line →
      line.getLast? ≠ some 13 → CutsIntoLines rest lines →
      CutsIntoLines (line ++ 10 :: rest) (line :: lines)
  | returnLineFeed {line rest : List UInt8} {lines : List (List UInt8)} : 10 ∉ line →
      CutsIntoLines rest lines → CutsIntoLines (line ++ 13 :: 10 :: rest) (line :: lines)

/-- A line is gathered up to its line feed. -/
theorem byteLinesFrom_append (hline : 10 ∉ line) (before rest : List UInt8) :
    byteLinesFrom before (line ++ rest) = byteLinesFrom (line.reverse ++ before) rest := by
  induction line generalizing before with
  | nil => rfl
  | cons b line ih =>
    have hb : ¬b = 10 := fun heq => hline (heq ▸ List.mem_cons_self ..)
    have hrest : 10 ∉ line := fun hmem => hline (List.mem_cons_of_mem _ hmem)
    show byteLinesFrom before (b :: (line ++ rest)) = _
    rw [byteLinesFrom, if_neg hb, ih hrest, List.reverse_cons, List.append_assoc]
    rfl

theorem byteLines_append_lineFeed (hline : 10 ∉ line) (rest : List UInt8) :
    byteLines (line ++ 10 :: rest) = chompReturn line :: byteLines rest := by
  unfold byteLines
  rw [byteLinesFrom_append hline, List.append_nil, byteLinesFrom, if_pos rfl, List.reverse_reverse]

theorem byteLines_of_not_mem (hline : 10 ∉ line) (hne : line ≠ []) : byteLines line = [line] := by
  have h := byteLinesFrom_append hline [] []
  rw [List.append_nil, List.append_nil] at h
  rw [byteLines, h, byteLinesFrom, if_neg (by simpa using hne), List.reverse_reverse]

theorem chompReturn_of_getLast? (h : line.getLast? ≠ some 13) : chompReturn line = line := if_neg h

theorem chompReturn_append (line : List UInt8) : chompReturn (line ++ [13]) = line := by
  unfold chompReturn
  rw [if_pos List.getLast?_concat, List.dropLast_concat]

/-- What was gathered and what follows is cut as a whole. -/
theorem cutsIntoLines_byteLinesFrom (hline : 10 ∉ line) (bytes : List UInt8) :
    CutsIntoLines (line.reverse ++ bytes) (byteLinesFrom line bytes) := by
  induction bytes generalizing line with
  | nil =>
    rw [byteLinesFrom, List.append_nil]
    cases line with
    | nil => exact .nil
    | cons b line => exact .last (fun hmem => hline (List.mem_reverse.1 hmem)) (by simp)
  | cons b bytes ih =>
    rw [byteLinesFrom]
    by_cases hb : b = 10
    · subst hb
      rw [if_pos rfl]
      have hrest : CutsIntoLines bytes (byteLinesFrom [] bytes) := ih List.not_mem_nil
      have hclean : 10 ∉ line.reverse := fun hmem => hline (List.mem_reverse.1 hmem)
      by_cases hreturn : line.reverse.getLast? = some 13
      · -- the carriage return is taken off the line
        obtain ⟨kept, hkept⟩ := List.getLast?_eq_some_iff.1 hreturn
        rw [hkept] at hclean ⊢
        rw [chompReturn_append, List.append_assoc]
        exact .returnLineFeed (fun hmem => hclean (List.mem_append_left _ hmem)) hrest
      · rw [chompReturn_of_getLast? hreturn]
        exact .lineFeed hclean hreturn hrest
    · rw [if_neg hb]
      have hmore : 10 ∉ b :: line := by
        intro hmem
        rcases List.mem_cons.1 hmem with heq | hmem
        · exact hb heq.symm
        · exact hline hmem
      have hcut := ih hmore
      rw [List.reverse_cons, List.append_assoc] at hcut
      exact hcut

/-- **Bytes are cut into lines in one way only.** -/
theorem cutsIntoLines_iff : CutsIntoLines bytes lines ↔ byteLines bytes = lines := by
  constructor
  · intro h
    induction h with
    | nil => rfl
    | last hline hne => exact byteLines_of_not_mem hline hne
    | lineFeed hline hreturn _ ih =>
      rw [byteLines_append_lineFeed hline, chompReturn_of_getLast? hreturn, ih]
    | @returnLineFeed line rest lines hline _ ih =>
      have hwith : 10 ∉ line ++ [13] := by simpa using hline
      rw [show line ++ 13 :: 10 :: rest = line ++ [13] ++ 10 :: rest by simp,
        byteLines_append_lineFeed hwith, chompReturn_append, ih]
  · rintro rfl
    exact cutsIntoLines_byteLinesFrom List.not_mem_nil bytes

end Lines

/-! ## §4. Text in bytes. -/

/-- Bytes are decoded as the text that they encode. -/
theorem decodeUtf8?_eq_some_iff {bytes : List UInt8} {text : String} :
    decodeUtf8? bytes = some text ↔ text.toUTF8.data.toList = bytes := by
  unfold decodeUtf8? String.fromUTF8?
  constructor
  · intro h
    split at h
    next hvalid =>
      rw [← Option.some.inj h]
      rfl
    next => cases h
  · rintro rfl
    exact dif_pos text.isValidUTF8

end RoutingSessions
