/-
  RoutingSessions.Proofs.Naming.Expansion — templates expand in one pass.

  What a template means is said without a scanner.  A template is cut from the left:
  where a placeholder begins it is taken whole, and any other character is literal, so
  also a brace that opens nothing.  A name has no braces in it.  So two placeholders
  never overlap, no placeholder is lost by taking another one first, and the cut is the
  only one there is.

  The scanner reads on after a brace before it knows whether a placeholder begins there.
  If none does, it has the name read so far to give back, and that it may do so without
  looking at the name again is what has to be shown: nothing begins inside a name.

  Main statements:
    * `cut_segments` — scanning cuts a template.
    * `Cut.unique`, `Cut.split` — there is one cut, and all placeholders are in it.
    * `expandTemplate_eq_onePass` — expansion replaces the placeholders of the cut.
-/
import RoutingSessions.Naming

namespace RoutingSessions.Template

/-! ## §1. Cuts. -/

/-- The text can be the name of a placeholder. -/
structure IsName (name : List Char) : Prop where
  ne_nil : name ≠ []
  chars : ∀ c ∈ name, isNameChar c = true

/-- The placeholder of that name, as templates write it. -/
def enclosed (name : List Char) : List Char := '{' :: (name ++ ['}'])

/-- A placeholder stands at the beginning of the text. -/
def Opens (text : List Char) : Prop := ∃ name rest, IsName name ∧ text = enclosed name ++ rest

/-- The text, cut from the left into placeholders and the literal characters between them. -/
inductive Cut : List Char → List Segment → Prop where
  | nil : Cut [] []
  | placeholder {name text : List Char} {l : List Segment} :
      IsName name → Cut text l →
        Cut (enclosed name ++ text) (.placeholder (String.ofList name) :: l)
  | literal {c : Char} {text : List Char} {l : List Segment} :
      ¬Opens (c :: text) → Cut text l → Cut (c :: text) (.literal c :: l)

/-- The segment as templates write it. -/
def Segment.text : Segment → List Char
  | .literal c => [c]
  | .placeholder name => enclosed name.toList

/-- The names of the placeholders, from the left. -/
def names (l : List Segment) : List String :=
  l.filterMap fun
    | .literal _ => none
    | .placeholder name => some name

/-! ## §2. Where a placeholder begins. -/

section Opens

variable {c : Char} {name rest text : List Char}

theorem ne_brace_of_isNameChar (hc : isNameChar c = true) : c ≠ '{' ∧ c ≠ '}' := by
  constructor
  · rintro rfl
    exact absurd hc (by decide)
  · rintro rfl
    exact absurd hc (by decide)

theorem eq_brace_of_opens (h : Opens (c :: text)) : c = '{' := by
  obtain ⟨name, rest, _, heq⟩ := h
  exact (List.cons.inj heq).1

/-- After the opening brace, the name is as much as can be read of one. -/
theorem takeWhile_name (hname : ∀ c ∈ name, isNameChar c = true) (hc : isNameChar c = false) :
    (name ++ c :: rest).takeWhile isNameChar = name := by
  rw [List.takeWhile_append_of_pos hname, List.takeWhile_cons_of_neg (by simp [hc]),
    List.append_nil]

/-- A brace with a name behind it opens a placeholder only if there is a name and the next
character closes it. -/
theorem not_opens_of_name (hname : ∀ d ∈ name, isNameChar d = true) (hc : isNameChar c = false)
    (hopen : c ≠ '}' ∨ name = []) : ¬Opens ('{' :: (name ++ c :: rest)) := by
  rintro ⟨other, rest', hother, heq⟩
  have htail : name ++ c :: rest = other ++ '}' :: rest' := by
    rw [enclosed, List.cons_append, List.append_assoc] at heq
    exact (List.cons.inj heq).2
  -- both names are all that can be read
  have hsame : name = other := by
    have hread := congrArg (List.takeWhile isNameChar) htail
    rw [takeWhile_name hname hc, takeWhile_name hother.chars (by decide)] at hread
    exact hread
  subst hsame
  have hclose : c = '}' := (List.cons.inj (List.append_cancel_left htail)).1
  rcases hopen with hne | hnil
  · exact hne hclose
  · exact hother.ne_nil hnil

/-- A name that the text ends with is not closed. -/
theorem not_opens_of_end (hname : ∀ d ∈ name, isNameChar d = true) : ¬Opens ('{' :: name) := by
  rintro ⟨other, rest, _, heq⟩
  have hclose : '}' ∈ name := by
    rw [(List.cons.inj heq).2]
    simp
  exact (ne_brace_of_isNameChar (hname _ hclose)).2 rfl

/-- Two placeholders at the beginning of one text are the same. -/
theorem enclosed_append_inj {name' rest' : List Char} (hname : IsName name) (hname' : IsName name')
    (h : enclosed name ++ rest = enclosed name' ++ rest') : name = name' ∧ rest = rest' := by
  have htail : name ++ '}' :: rest = name' ++ '}' :: rest' := by
    simp only [enclosed, List.cons_append, List.append_assoc] at h
    exact (List.cons.inj h).2
  have hsame := congrArg (List.takeWhile isNameChar) htail
  rw [takeWhile_name hname.chars (by decide), takeWhile_name hname'.chars (by decide)] at hsame
  subst hsame
  exact ⟨rfl, (List.cons.inj (List.append_cancel_left htail)).2⟩

end Opens

/-! ## §3. Scanning. -/

namespace Cut

variable {name text : List Char} {l m : List Segment}

/-- What holds no opening brace is literal. -/
theorem append_literals (hname : ∀ c ∈ name, c ≠ '{') (h : Cut text l) :
    Cut (name ++ text) (name.map .literal ++ l) := by
  induction name with
  | nil => exact h
  | cons c name ih =>
    have hc := hname c List.mem_cons_self
    exact .literal (fun hopens => hc (eq_brace_of_opens hopens))
      (ih fun d hd => hname d (List.mem_cons_of_mem _ hd))

/-- A brace that opens nothing, and the name behind it. -/
theorem brace_append (hname : ∀ c ∈ name, isNameChar c = true)
    (hopens : ¬Opens ('{' :: (name ++ text))) (h : Cut text l) :
    Cut ('{' :: (name ++ text)) (.literal '{' :: (name.map .literal ++ l)) :=
  .literal hopens (h.append_literals fun c hc => (ne_brace_of_isNameChar (hname c hc)).1)

/-- **Scanning cuts the text**, also after a brace and the name read so far. -/
theorem scan (text : List Char) :
    Cut text (scan none text) ∧ ∀ name : List Char, (∀ c ∈ name, isNameChar c = true) →
      Cut ('{' :: (name.reverse ++ text)) (Template.scan (some name) text) := by
  induction text with
  | nil =>
    refine ⟨.nil, fun name hname => ?_⟩
    have hname' : ∀ c ∈ name.reverse, isNameChar c = true :=
      fun c hc => hname c (List.mem_reverse.1 hc)
    rw [Template.scan]
    have hopens : ¬Opens ('{' :: (name.reverse ++ [])) := by
      rw [List.append_nil]
      exact not_opens_of_end hname'
    have hcut := brace_append hname' hopens .nil
    rwa [List.append_nil (List.map _ _)] at hcut
  | cons c text ih =>
    obtain ⟨hrest, hname_rest⟩ := ih
    -- outside of a name, a brace may begin one and everything else is literal
    have hfirst : Cut (c :: text) (Template.scan none (c :: text)) := by
      rw [Template.scan]
      split
      next hc =>
        subst hc
        exact hname_rest [] fun d hd => nomatch hd
      next hc => exact .literal (fun hopens => hc (eq_brace_of_opens hopens)) hrest
    refine ⟨hfirst, fun name hname => ?_⟩
    have hname' : ∀ d ∈ name.reverse, isNameChar d = true :=
      fun d hd => hname d (List.mem_reverse.1 hd)
    rw [Template.scan]
    by_cases hc : isNameChar c = true
    · -- the name goes on
      rw [if_pos hc]
      have hlonger := hname_rest (c :: name) (List.forall_mem_cons.2 ⟨hc, hname⟩)
      rwa [List.reverse_cons, List.append_assoc] at hlonger
    · rw [if_neg hc]
      have hc : isNameChar c = false := Bool.eq_false_iff.2 hc
      by_cases hclose : c = '}' ∧ name ≠ []
      · -- the name ends, and a placeholder with it
        obtain ⟨rfl, hne⟩ := hclose
        rw [if_pos (by simpa using hne)]
        have hcut := Cut.placeholder ⟨List.reverse_ne_nil_iff.2 hne, hname'⟩ hrest
        rwa [enclosed, List.cons_append, List.append_assoc] at hcut
      · -- the name ends, and the brace before it opens nothing
        rw [if_neg (by simpa using hclose)]
        have hopen : c ≠ '}' ∨ name.reverse = [] := by
          rw [List.reverse_eq_nil_iff]
          exact Decidable.not_and_iff_not_or_not.1 hclose |>.imp_right Decidable.not_not.1
        exact brace_append hname' (not_opens_of_name hname' hc hopen) hfirst

/-- **There is one cut.** -/
theorem unique (hl : Cut text l) (hm : Cut text m) : l = m := by
  induction hl generalizing m with
  | nil => cases hm with
    | nil => rfl
  | @placeholder name text l hname _ ih =>
    generalize htext : enclosed name ++ text = all at hm
    cases hm with
    | nil => cases htext
    | placeholder hname' hm =>
      obtain ⟨rfl, rfl⟩ := enclosed_append_inj hname hname' htext
      rw [ih hm]
    | literal hopens _ => exact absurd ⟨name, text, hname, htext.symm⟩ hopens
  | @literal c text l hopens _ ih =>
    generalize htext : c :: text = all at hm
    cases hm with
    | nil => cases htext
    | @placeholder name rest _ hname _ => exact absurd ⟨name, rest, hname, htext⟩ hopens
    | literal _ hm =>
      obtain ⟨rfl, rfl⟩ := List.cons.inj htext
      rw [ih hm]

/-- The segments, one after the other, are the text. -/
theorem text_eq (h : Cut text l) : l.flatMap Segment.text = text := by
  induction h with
  | nil => rfl
  | placeholder _ _ ih =>
    rw [List.flatMap_cons, ih, Segment.text, String.toList_ofList]
  | literal _ _ ih =>
    rw [List.flatMap_cons, ih]
    rfl

/-- The placeholders are called by names. -/
theorem isName (h : Cut text l) {name : String} (hmem : name ∈ names l) : IsName name.toList := by
  induction h with
  | nil => cases hmem
  | placeholder hname _ ih =>
    rcases List.mem_cons.1 hmem with rfl | hmem
    · rw [String.toList_ofList]
      exact hname
    · exact ih hmem
  | literal _ _ ih => exact ih hmem

end Cut

/-! ## §4. No placeholder is lost. -/

/-- The closing brace and the characters of a name open nothing. -/
theorem eq_nil_of_enclosed {name before d : List Char} (hname : IsName name) (hb : before ≠ [])
    (h : enclosed name = before ++ '{' :: d) : False := by
  cases before with
  | nil => exact hb rfl
  | cons b before =>
    have htail : name ++ ['}'] = before ++ '{' :: d := (List.cons.inj h).2
    have hmem : '{' ∈ name ++ ['}'] := by
      rw [htail]
      simp
    rcases List.mem_append.1 hmem with hmem | hmem
    · exact (ne_brace_of_isNameChar (hname.chars _ hmem)).1 rfl
    · exact absurd (List.mem_singleton.1 hmem) (by decide)

/-- **Every placeholder in the text is in the cut**, with what stands before and behind it. -/
theorem Cut.split {text name before after : List Char} {l : List Segment} (h : Cut text l)
    (hname : IsName name) (htext : text = before ++ (enclosed name ++ after)) :
    ∃ first last, l = first ++ .placeholder (String.ofList name) :: last
      ∧ first.flatMap Segment.text = before ∧ last.flatMap Segment.text = after := by
  induction h generalizing before with
  | nil => simp [enclosed] at htext
  | @placeholder name' text l hname' hrest ih =>
    rcases List.append_eq_append_iff.1 htext with ⟨d, rfl, hd⟩ | ⟨d, hd, htail⟩
    · -- it stands behind the first placeholder
      obtain ⟨first, last, rfl, hfirst, hlast⟩ := ih hd
      refine ⟨.placeholder (String.ofList name') :: first, last, rfl, ?_, hlast⟩
      rw [List.flatMap_cons, hfirst, Segment.text, String.toList_ofList]
    · cases before with
      | nil =>
        -- it is the first placeholder
        obtain ⟨rfl, rfl⟩ := enclosed_append_inj hname' hname htext
        exact ⟨[], l, rfl, rfl, hrest.text_eq⟩
      | cons b before =>
        cases d with
        | nil =>
          -- it stands right behind the first placeholder
          have hnext : text = [] ++ (enclosed name ++ after) := htail.symm
          obtain ⟨first, last, rfl, hfirst, hlast⟩ := ih hnext
          refine ⟨.placeholder (String.ofList name') :: first, last, rfl, ?_, hlast⟩
          rw [List.flatMap_cons, hfirst, Segment.text, String.toList_ofList, hd, List.append_nil,
            List.append_nil]
        | cons c d =>
          -- it would begin inside the first placeholder
          have hc : '{' = c := (List.cons.inj htail).1
          subst hc
          exact (eq_nil_of_enclosed hname' (List.cons_ne_nil b before) hd).elim
  | @literal c text l hopens _ ih =>
    cases before with
    | nil => exact absurd ⟨name, after, hname, htext⟩ hopens
    | cons b before =>
      obtain ⟨rfl, htail⟩ := List.cons.inj htext
      obtain ⟨first, last, rfl, hfirst, hlast⟩ := ih htail
      refine ⟨.literal c :: first, last, rfl, ?_, hlast⟩
      rw [List.flatMap_cons, hfirst]
      rfl

/-! ## §5. Expansion. -/

section Expansion

variable {vars vars' : List (String × String)}

/-- The leftmost placeholder that no variable is called like. -/
def missing? (vars : List (String × String)) (l : List Segment) : Option String :=
  (names l).find? fun name => decide (name ∉ vars.map Prod.fst)

/-- What stands for the segment: a literal for itself, and for a placeholder the value of the
first variable that is called like it. -/
def Segment.filled (vars : List (String × String)) : Segment → List Char
  | .literal c => [c]
  | .placeholder name =>
    match vars.find? (·.1 = name) with
    | some v => v.2.toList
    | none => []

/-- The segments with each placeholder replaced, once, unless a value is missing. -/
def onePass (vars : List (String × String)) (l : List Segment) : Except NamingError String :=
  match missing? vars l with
  | some name => .error (.unresolved name)
  | none => .ok (String.ofList (l.flatMap (Segment.filled vars)))

/-- The value is that of the first variable of the name. -/
theorem valueOf?_eq_find? (name : String) (vars : List (String × String)) :
    valueOf? name vars = (vars.find? (·.1 = name)).map (·.2) := by
  induction vars with
  | nil => rfl
  | cons v vars ih =>
    rw [valueOf?]
    by_cases hv : v.1 = name
    · rw [if_pos hv, List.find?_cons_of_pos (by simpa using hv)]
      rfl
    · rw [if_neg hv, List.find?_cons_of_neg (by simpa using hv), ih]

theorem valueOf?_eq_none {name : String} :
    valueOf? name vars = none ↔ name ∉ vars.map Prod.fst := by
  rw [valueOf?_eq_find?, Option.map_eq_none_iff, List.find?_eq_none]
  constructor
  · intro hnone hmem
    obtain ⟨v, hv, rfl⟩ := List.mem_map.1 hmem
    exact hnone v hv (decide_eq_true rfl)
  · intro hnot v hv htrue
    exact hnot (List.mem_map.2 ⟨v, hv, of_decide_eq_true htrue⟩)

theorem mem_of_valueOf? {name value : String} (h : valueOf? name vars = some value) :
    name ∈ vars.map Prod.fst := by
  rw [valueOf?_eq_find?] at h
  obtain ⟨v, hv, _⟩ := Option.map_eq_some_iff.1 h
  have hname := List.find?_some hv
  exact List.mem_map.2 ⟨v, List.mem_of_find?_eq_some hv, of_decide_eq_true hname⟩

theorem filled_placeholder {name value : String} (h : valueOf? name vars = some value) :
    (Segment.placeholder name).filled vars = value.toList := by
  rw [valueOf?_eq_find?] at h
  obtain ⟨v, hv, rfl⟩ := Option.map_eq_some_iff.1 h
  rw [Segment.filled, hv]

theorem missing?_literal (vars : List (String × String)) (c : Char) (l : List Segment) :
    missing? vars (.literal c :: l) = missing? vars l := rfl

theorem missing?_placeholder (vars : List (String × String)) (name : String) (l : List Segment) :
    missing? vars (.placeholder name :: l)
      = if name ∈ vars.map Prod.fst then missing? vars l else some name := by
  have hnames : names (.placeholder name :: l) = name :: names l := rfl
  rw [missing?, hnames]
  by_cases hmem : name ∈ vars.map Prod.fst
  · rw [if_pos hmem, List.find?_cons_of_neg (by simpa using hmem)]
    rfl
  · rw [if_neg hmem, List.find?_cons_of_pos (by simpa using hmem)]

/-- **The segments are replaced one by one**, up to the first one without a value. -/
theorem expandSegments_eq (vars : List (String × String)) (l : List Segment) :
    expandSegments vars l = match missing? vars l with
      | some name => .error name
      | none => .ok (l.flatMap (Segment.filled vars)) := by
  induction l with
  | nil => rfl
  | cons s l ih =>
    cases s with
    | literal c =>
      rw [expandSegments, ih, missing?_literal]
      cases missing? vars l with
      | some name => rfl
      | none => rfl
    | placeholder name =>
      rw [expandSegments, missing?_placeholder]
      cases hv : valueOf? name vars with
      | none => rw [if_neg (valueOf?_eq_none.1 hv)]
      | some value =>
        rw [if_pos (mem_of_valueOf? hv), ih, List.flatMap_cons, filled_placeholder hv]
        cases missing? vars l with
        | some other => rfl
        | none => rfl

theorem missing?_eq_none {l : List Segment} :
    missing? vars l = none ↔ ∀ name ∈ names l, name ∈ vars.map Prod.fst := by
  rw [missing?, List.find?_eq_none]
  simp

/-- Which name is missing depends on the names alone. -/
theorem missing?_congr (h : vars.map Prod.fst = vars'.map Prod.fst) (l : List Segment) :
    missing? vars l = missing? vars' l := by
  rw [missing?, missing?, h]

theorem onePass_eq_error {l : List Segment} {e : NamingError} :
    onePass vars l = .error e ↔ ∃ name, missing? vars l = some name ∧ e = .unresolved name := by
  unfold onePass
  cases missing? vars l with
  | none => simp
  | some name => simp [eq_comm]

end Expansion

/-- A template has one cut into segments. -/
theorem cut_segments (template : String) : Cut template.toList (segments template) :=
  (Cut.scan template.toList).1

/-- Expansion goes through the cut. -/
theorem expandTemplate_eq (template : String) (vars : List (String × String)) :
    expandTemplate template vars = onePass vars (segments template) := by
  unfold expandTemplate expand onePass
  rw [expandSegments_eq]
  cases missing? vars (segments template) with
  | some name => rfl
  | none => rfl

/-- **Templates expand in one pass.**  A template has one cut from the left into placeholders and
literal characters: its segments, one after the other, are the template, its placeholders have
names, and it misses none.  Expansion gives the literals as they are, and for each placeholder the
value of the first variable that is called like it.  It fails exactly if a placeholder has no
value, and names the leftmost such placeholder; whether it fails, and on which, does not depend on
the values. -/
theorem expandTemplate_eq_onePass (template : String) :
    ∃ l, (Cut template.toList l ∧ ∀ m, Cut template.toList m → m = l)
      ∧ l.flatMap Segment.text = template.toList
      ∧ (∀ name ∈ names l, IsName name.toList)
      ∧ (∀ name before after, IsName name →
          template.toList = before ++ (enclosed name ++ after) →
          ∃ first last, l = first ++ .placeholder (String.ofList name) :: last
            ∧ first.flatMap Segment.text = before ∧ last.flatMap Segment.text = after)
      ∧ (∀ vars, expandTemplate template vars = match missing? vars l with
          | some name => .error (.unresolved name)
          | none => .ok (String.ofList (l.flatMap (Segment.filled vars))))
      ∧ (∀ vars, (∃ e, expandTemplate template vars = .error e)
          ↔ ∃ name ∈ names l, name ∉ vars.map Prod.fst)
      ∧ ∀ vars vars', vars.map Prod.fst = vars'.map Prod.fst →
          ∀ e, expandTemplate template vars = .error e
            ↔ expandTemplate template vars' = .error e := by
  have hcut := cut_segments template
  refine ⟨segments template, ⟨hcut, fun m hm => hm.unique hcut⟩, hcut.text_eq,
    fun name hname => hcut.isName hname, fun name before after hname => hcut.split hname,
    expandTemplate_eq template, fun vars => ?fails, fun vars vars' hnames e => ?values⟩
  case fails =>
    rw [expandTemplate_eq]
    constructor
    · rintro ⟨e, he⟩
      obtain ⟨name, hmissing, _⟩ := onePass_eq_error.1 he
      have hnot := List.find?_some hmissing
      exact ⟨name, List.mem_of_find?_eq_some hmissing, of_decide_eq_true hnot⟩
    · rintro ⟨name, hmem, hnot⟩
      cases hmissing : missing? vars (segments template) with
      | none => exact absurd (missing?_eq_none.1 hmissing name hmem) hnot
      | some other => exact ⟨.unresolved other, onePass_eq_error.2 ⟨other, hmissing, rfl⟩⟩
  case values =>
    rw [expandTemplate_eq, expandTemplate_eq, onePass_eq_error, onePass_eq_error,
      missing?_congr hnames]

/-- Braces that open nothing stay, and what a value looks like does not matter. -/
example :
    (expandTemplate "\x7b\x7d\x7b\x7ba\x7d\x7ba\x7bb\x7d\x7b"
        [("b", "\x7ba\x7d"), ("a", "1"), ("a", "2")]).toOption
      = some "\x7b\x7d\x7b1\x7ba\x7ba\x7d\x7b" := by decide +kernel

end RoutingSessions.Template
