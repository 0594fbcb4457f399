/-
  RoutingSessions.Expression.Engine — a matcher to run on.

  Of a line, an expression that is anchored on both sides, matching runs over the items
  from the end and keeps, for every suffix of the text, whether the rest of the line
  covers it; a line with many runs costs no more than one step for each pair of item and
  text character.  Every other expression is tried at every place.

  Expressions that would need much memory are refused.  How much one needs is an
  estimate; nothing relies on it but that short expressions are compiled.

  Main statements:
    * `covers_iff` — matching a line decides what its pieces mean.
    * `finds_iff_covers` — which is what its items are found in.
    * `engine_lawful` — the engine is one that can be relied on.
-/
import RoutingSessions.Expression

namespace RoutingSessions.Expression

/-! ## Lines -/

/-- A part of a line. -/
inductive Piece where
  /-- Any run of characters. -/
  | anyRun
  /-- Any one character. -/
  | anyOne
  /-- The character itself. -/
  | exactly (c : Char)
deriving DecidableEq

/-- The piece that the item is, unless it is an anchor. -/
def Item.piece? : Item → Option Piece
  | .start => none
  | .finish => none
  | .dot => some .anyOne
  | .dots => some .anyRun
  | .literal c => some (.exactly c)

/-- The pieces up to the anchor at the end, if there is no other anchor. -/
def pieces? : List Item → Option (List Piece)
  | [] => none
  | [.finish] => some []
  | item :: items => item.piece?.bind fun p => (pieces? items).map (p :: ·)

/-- The pieces of an expression that is anchored on both sides, and nowhere else. -/
def line? : List Item → Option (List Piece)
  | .start :: items => pieces? items
  | _ => none

/-- A character that a wildcard can stand for. -/
def inLine (c : Char) : Bool := c ≠ '\n'

/-! ## Matching lines -/

/-- Given for every suffix of `text` whether it is covered from the next piece on, says the
same from `piece` on.  Both lists start with the whole text and end with the empty suffix. -/
def Piece.extend (piece : Piece) : List Char → List Bool → List Bool
  | c :: cs, here :: rest =>
    match piece with
    | .anyRun =>
      let tail := Piece.extend .anyRun cs rest
      (here || (inLine c && tail.headD false)) :: tail
    | .anyOne => (inLine c && rest.headD false) :: Piece.extend .anyOne cs rest
    | .exactly d => (c == d && rest.headD false) :: Piece.extend (.exactly d) cs rest
  | [], here :: _ =>
    match piece with
    | .anyRun => [here]
    | _ => [false]
  | _, [] => []

/-- For every suffix of `text`, from the whole to the empty one, whether the pieces cover it. -/
def coverage (ps : List Piece) (text : List Char) : List Bool :=
  match ps with
  | [] => List.replicate text.length false ++ [true]
  | p :: ps => p.extend text (coverage ps text)

/-- Whether the pieces cover a text: the head of the coverage list. -/
def covers (ps : List Piece) (text : List Char) : Bool := (coverage ps text).headD false

/-! ### One step of matching -/

theorem coverage_cons (g : List Piece) (c : Char) (cs : List Char) :
    ∃ b, coverage g (c :: cs) = b :: coverage g cs := by
  induction g with
  | nil => exact ⟨false, by simp [coverage, List.replicate_succ]⟩
  | cons p ps ih =>
    obtain ⟨b, hb⟩ := ih
    cases p <;> exact ⟨_, by simp only [coverage, hb, Piece.extend]; rfl⟩

theorem coverage_nil (g : List Piece) : ∃ b, coverage g [] = [b] := by
  induction g with
  | nil => exact ⟨true, rfl⟩
  | cons p ps ih =>
    obtain ⟨b, hb⟩ := ih
    cases p <;> exact ⟨_, by simp only [coverage, hb, Piece.extend]; rfl⟩

@[simp] theorem covers_nil_nil : covers [] [] = true := rfl

@[simp] theorem covers_nil_cons (c : Char) (cs : List Char) : covers [] (c :: cs) = false := by
  simp [covers, coverage, List.replicate_succ]

@[simp] theorem covers_anyRun_nil (ps : List Piece) : covers (.anyRun :: ps) [] = covers ps [] := by
  obtain ⟨b, hb⟩ := coverage_nil ps
  simp [covers, coverage, hb, Piece.extend]

@[simp] theorem covers_anyOne_nil (ps : List Piece) : covers (.anyOne :: ps) [] = false := by
  obtain ⟨b, hb⟩ := coverage_nil ps
  simp [covers, coverage, hb, Piece.extend]

@[simp] theorem covers_exactly_nil (d : Char) (ps : List Piece) :
    covers (.exactly d :: ps) [] = false := by
  obtain ⟨b, hb⟩ := coverage_nil ps
  simp [covers, coverage, hb, Piece.extend]

@[simp] theorem covers_anyRun_cons (ps : List Piece) (c : Char) (cs : List Char) :
    covers (.anyRun :: ps) (c :: cs)
      = (covers ps (c :: cs) || (inLine c && covers (.anyRun :: ps) cs)) := by
  obtain ⟨b, hb⟩ := coverage_cons ps c cs
  simp [covers, coverage, hb, Piece.extend]

@[simp] theorem covers_anyOne_cons (ps : List Piece) (c : Char) (cs : List Char) :
    covers (.anyOne :: ps) (c :: cs) = (inLine c && covers ps cs) := by
  obtain ⟨b, hb⟩ := coverage_cons ps c cs
  simp [covers, coverage, hb, Piece.extend]

@[simp] theorem covers_exactly_cons (d : Char) (ps : List Piece) (c : Char) (cs : List Char) :
    covers (.exactly d :: ps) (c :: cs) = (c == d && covers ps cs) := by
  obtain ⟨b, hb⟩ := coverage_cons ps c cs
  simp [covers, coverage, hb, Piece.extend]

/-! ## The meaning of a line -/

/-- The pieces cover the text: it cuts into one run of characters for each of them. -/
inductive Covers : List Piece → List Char → Prop where
  | nil : Covers [] []
  | anyRun {g : List Piece} {run text : List Char} :
      (∀ c ∈ run, inLine c = true) → Covers g text → Covers (.anyRun :: g) (run ++ text)
  | anyOne {g : List Piece} {c : Char} {text : List Char} :
      inLine c = true → Covers g text → Covers (.anyOne :: g) (c :: text)
  | exactly {g : List Piece} {c : Char} {text : List Char} :
      Covers g text → Covers (.exactly c :: g) (c :: text)

theorem covers_iff {g : List Piece} {text : List Char} : covers g text = true ↔ Covers g text := by
  induction g generalizing text with
  | nil =>
    cases text with
    | nil => simp [Covers.nil]
    | cons c cs => simp only [covers_nil_cons, Bool.false_eq_true, false_iff]; nofun
  | cons p ps ih =>
    cases p with
    | anyRun =>
      induction text with
      | nil =>
        rw [covers_anyRun_nil, ih]
        refine ⟨fun h => @Covers.anyRun _ [] _ (by simp) h, fun h => ?_⟩
        generalize ht : ([] : List Char) = t at h
        cases h with
        | anyRun _ h =>
          obtain ⟨rfl, rfl⟩ := List.append_eq_nil_iff.1 ht.symm
          exact h
      | cons c cs iht =>
        rw [covers_anyRun_cons, Bool.or_eq_true, Bool.and_eq_true, ih, iht]
        constructor
        · rintro (h | ⟨hc, h⟩)
          · exact @Covers.anyRun _ [] _ (by simp) h
          · cases h with
            | anyRun hr h =>
              refine @Covers.anyRun _ (c :: _) _ (fun d hd => ?_) h
              rcases List.mem_cons.1 hd with rfl | hd
              · exact hc
              · exact hr d hd
        · intro h
          generalize ht : c :: cs = t at h
          cases h with
          | @anyRun _ run text hr h =>
            cases run with
            | nil => exact Or.inl (by simpa [ht] using h)
            | cons d run =>
              obtain ⟨rfl, rfl⟩ := List.cons.inj ht
              exact Or.inr ⟨hr _ (by simp), .anyRun (fun e he => hr e (by simp [he])) h⟩
    | anyOne =>
      cases text with
      | nil => simp only [covers_anyOne_nil, Bool.false_eq_true, false_iff]; nofun
      | cons c cs =>
        rw [covers_anyOne_cons, Bool.and_eq_true, ih]
        exact ⟨fun ⟨hc, h⟩ => .anyOne hc h, fun h => by cases h with | anyOne hc h => exact ⟨hc, h⟩⟩
    | exactly d =>
      cases text with
      | nil => simp only [covers_exactly_nil, Bool.false_eq_true, false_iff]; nofun
      | cons c cs =>
        rw [covers_exactly_cons, Bool.and_eq_true, ih, beq_iff_eq]
        constructor
        · rintro ⟨rfl, h⟩
          exact .exactly h
        · intro h
          cases h with
          | exactly h => exact ⟨rfl, h⟩

/-! ## Lines and their items -/

/-- The first piece covers a run of characters that its item takes. -/
theorem covers_cons {item : Item} {p : Piece} (hp : item.piece? = some p) {ps : List Piece}
    (before : List Char) {text : List Char} :
    Covers (p :: ps) text ↔
      ∃ run after, text = run ++ after ∧ item.Takes before run after ∧ Covers ps after := by
  constructor
  · intro h
    cases h with
    | @anyRun _ run after hrun hafter =>
      cases item <;> cases hp
      exact ⟨run, after, rfl, fun c hc => of_decide_eq_true (hrun c hc), hafter⟩
    | @anyOne _ c after hc hafter =>
      cases item <;> cases hp
      exact ⟨[c], after, rfl, ⟨c, of_decide_eq_true hc, rfl⟩, hafter⟩
    | @exactly _ c after hafter =>
      cases item <;> cases hp
      exact ⟨[c], after, rfl, rfl, hafter⟩
  · intro hruns
    obtain ⟨run, after, rfl, htakes, hafter⟩ := hruns
    cases item with
    | start => cases hp
    | finish => cases hp
    | dot =>
      obtain ⟨c, hc, rfl⟩ := htakes
      cases hp
      exact .anyOne (decide_eq_true hc) hafter
    | dots =>
      cases hp
      exact .anyRun (fun c hc => decide_eq_true (htakes c hc)) hafter
    | literal c =>
      obtain rfl : run = [c] := htakes
      cases hp
      exact .exactly hafter

theorem runs_finish {before rest : List Char} : Runs [.finish] before rest ↔ rest = [] := by
  constructor
  · rintro ⟨_, _, rfl, ⟨rfl, rfl⟩, _⟩
    rfl
  · rintro rfl
    exact ⟨[], [], rfl, ⟨rfl, rfl⟩, trivial⟩

/-- Up to the end of the text, the items take what the pieces cover. -/
theorem runs_iff_covers {items : List Item} {ps : List Piece} (h : pieces? items = some ps)
    {before rest : List Char} : Runs items before rest ↔ Covers ps rest := by
  induction items using pieces?.induct generalizing ps before rest with
  | case1 => cases h
  | case2 =>
    cases h
    rw [runs_finish]
    constructor
    · rintro rfl
      exact .nil
    · rintro ⟨⟩
      rfl
  | case3 item items hlast ih =>
    rw [pieces?.eq_3 item items hlast] at h
    obtain ⟨p, hp, h⟩ := Option.bind_eq_some_iff.1 h
    obtain ⟨ps, hps, rfl⟩ := Option.map_eq_some_iff.1 h
    rw [covers_cons hp before]
    simp only [Runs, ih hps]

/-- **A line is found in what its pieces cover**: the anchor in front leaves no other place than
the whole text. -/
theorem finds_iff_covers {items : List Item} {ps : List Piece} (h : line? items = some ps)
    {text : List Char} : Finds items text ↔ Covers ps text := by
  unfold line? at h
  split at h
  next items =>
    constructor
    · rintro ⟨_, rest, rfl, _, _, rfl, ⟨rfl, rfl⟩, hruns⟩
      exact (runs_iff_covers h).1 hruns
    · intro hcovers
      exact ⟨[], text, rfl, [], text, rfl, ⟨rfl, rfl⟩, (runs_iff_covers h).2 hcovers⟩
  next => cases h

/-! ## The limit -/

/-- The memory that an item is taken to need. -/
def Item.cost : Item → Nat
  | .start => 0
  | .finish => 0
  | .dot => 700
  | .dots => 700
  | .literal _ => 64

/-- The memory that an expression is taken to need. -/
def cost : List Item → Nat
  | [] => 0
  | item :: items => item.cost + cost items

/-- The memory that an expression may need: ten mebibytes. -/
def costLimit : Nat := 10485760

/-! ## The engine -/

/-- Whether the items are found in the text. -/
def Item.foundIn (items : List Item) (text : String) : Bool :=
  match line? items with
  | some ps => covers ps text.toList
  | none => decide (Finds items text.toList)

theorem Item.foundIn_iff {items : List Item} {text : String} :
    Item.foundIn items text = true ↔ Finds items text.toList := by
  unfold Item.foundIn
  split
  next h => exact covers_iff.trans (finds_iff_covers h).symm
  next => exact decide_eq_true_iff

/-- The matcher of the program. -/
def engine : Matcher where
  escape text := String.ofList (text.toList.flatMap escapeChar)
  compile expression :=
    (read expression.toList).bind fun items =>
      if cost items ≤ costLimit then some (Item.foundIn items) else none
  complaint _ := s!"Compiled regex exceeds size limit of {costLimit} bytes."

theorem engine_lawful : engine.Lawful where
  toList_escape _ := String.toList_ofList
  found_iff := by
    intro expression items found hread hfound text
    have hcompile : (read expression.toList).bind (fun items =>
        if cost items ≤ costLimit then some (Item.foundIn items) else none) = some found := hfound
    rw [hread, Option.bind_some] at hcompile
    split at hcompile
    next =>
      cases hcompile
      exact Item.foundIn_iff
    next => cases hcompile

end RoutingSessions.Expression
