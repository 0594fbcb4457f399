/-
  RoutingSessions.Proofs.Naming.Skeleton — no markup comes in through a name.

  Four characters delimit markup.  What is left of a payload when everything else is
  taken away is its skeleton, and it is that of the template: values are escaped, and
  the text of a placeholder holds no delimiter that its value could be short of.

  Names of sessions and routes are expanded from values that are not escaped.  They
  enter a payload as values themselves, and as such they are escaped like all others.

  Main statements:
    * `skeleton_escape` — what is escaped has no skeleton.
    * `skeleton_expandTemplate` — values without a skeleton leave that of the template.
    * `Namer.skeleton_payload` — the payloads of sessions and routes.
-/
import RoutingSessions.Proofs.Naming.Expansion
import RoutingSessions.Proofs.Request

namespace RoutingSessions

namespace Markup

/-! ## §1. Delimiters. -/

/-- The characters that begin and end tags and attribute values. -/
def isDelimiter (c : Char) : Bool := c == '<' || c == '>' || c == '"' || c == '\''

/-- The delimiters of a text, in order. -/
def skeleton (s : String) : List Char := s.toList.filter isDelimiter

/-- No character is written with a delimiter. -/
theorem filter_escapeChar (c : Char) : (escapeChar c).filter isDelimiter = [] := by
  unfold escapeChar
  split
  · rfl
  · rfl
  · rfl
  · rfl
  · rfl
  next hlt hgt hquot hapos =>
    have hplain : ¬isDelimiter c = true := by
      simpa [isDelimiter] using And.intro (And.intro (And.intro hlt hgt) hquot) hapos
    rw [List.filter_cons_of_neg hplain, List.filter_nil]

theorem filter_escapeChars (s : List Char) : (escapeChars s).filter isDelimiter = [] := by
  induction s with
  | nil => rfl
  | cons c s ih =>
    show (escapeChar c ++ escapeChars s).filter isDelimiter = []
    rw [List.filter_append, filter_escapeChar, ih, List.append_nil]

/-- **What is escaped has no skeleton.** -/
theorem skeleton_escape (s : String) : skeleton (escape s) = [] := by
  rw [skeleton, escape, String.toList_ofList, filter_escapeChars]

end Markup

/-! ## §2. Expansion. -/

namespace Template

open Markup (isDelimiter skeleton)

variable {vars : List (String × String)}

theorem filter_enclosed {name : List Char} (hname : IsName name) :
    (enclosed name).filter isDelimiter = [] := by
  have hchars : name.filter isDelimiter = [] := by
    rw [List.filter_eq_nil_iff]
    intro c hc hdelim
    have hletter := hname.chars c hc
    -- no delimiter can stand in a name
    simp only [isDelimiter, Bool.or_eq_true, beq_iff_eq] at hdelim
    rcases hdelim with ((rfl | rfl) | rfl) | rfl <;> exact absurd hletter (by decide)
  show ('{' :: (name ++ ['}'])).filter isDelimiter = []
  rw [List.filter_cons_of_neg (by decide), List.filter_append, hchars]
  rfl

/-- A placeholder gives a skeleton only if a value has one. -/
theorem filter_filled_placeholder (hvars : ∀ v ∈ vars, skeleton v.2 = []) (name : String) :
    ((Segment.placeholder name).filled vars).filter isDelimiter = [] := by
  rw [Segment.filled]
  cases hv : vars.find? (·.1 = name) with
  | none => rfl
  | some v => exact hvars v (List.mem_of_find?_eq_some hv)

/-- Replacing the placeholders leaves the skeleton. -/
theorem Cut.filter_filled {text : List Char} {l : List Segment} (h : Cut text l)
    (hvars : ∀ v ∈ vars, skeleton v.2 = []) :
    (l.flatMap (Segment.filled vars)).filter isDelimiter = text.filter isDelimiter := by
  induction h with
  | nil => rfl
  | @placeholder name text l hname _ ih =>
    rw [List.flatMap_cons, List.filter_append, List.filter_append, ih, filter_enclosed hname,
      filter_filled_placeholder hvars]
  | @literal c text l _ _ ih =>
    show ([c] ++ l.flatMap (Segment.filled vars)).filter isDelimiter
      = ([c] ++ text).filter isDelimiter
    rw [List.filter_append, List.filter_append, ih]

/-- **Values without a skeleton leave that of the template.** -/
theorem skeleton_expandTemplate {template out : String}
    (h : expandTemplate template vars = .ok out) (hvars : ∀ v ∈ vars, skeleton v.2 = []) :
    skeleton out = skeleton template := by
  rw [expandTemplate_eq, onePass] at h
  cases hmissing : missing? vars (segments template) with
  | some name =>
    rw [hmissing] at h
    cases h
  | none =>
    rw [hmissing] at h
    cases h
    rw [skeleton, String.toList_ofList]
    exact (cut_segments template).filter_filled hvars

/-- Escaped values leave the skeleton of the template. -/
theorem skeleton_escapeValues {template out : String}
    (h : expandTemplate template (escapeValues vars) = .ok out) :
    skeleton out = skeleton template := by
  refine skeleton_expandTemplate h fun v hv => ?_
  obtain ⟨w, _, rfl⟩ := List.mem_map.1 hv
  exact Markup.skeleton_escape w.2

end Template

/-! ## §3. Payloads. -/

namespace Namer

open Markup (skeleton)

variable {n : Namer} {s : Session} {r : Route} {payload : String}

theorem skeleton_sessionConfig (h : n.sessionConfig s = .ok payload) :
    skeleton payload = skeleton n.rules.sessionConfig := by
  obtain ⟨name, _, h⟩ := bind_eq_ok.1 h
  exact Template.skeleton_escapeValues h

theorem skeleton_routeConfig (h : n.routeConfig s r = .ok payload) :
    skeleton payload = skeleton n.rules.routeConfig := by
  obtain ⟨name, _, h⟩ := bind_eq_ok.1 h
  obtain ⟨sessionName, _, h⟩ := bind_eq_ok.1 h
  exact Template.skeleton_escapeValues h

/-- **No markup comes in through a name.**  Whatever the service, the rules, the session and the
route are called, a payload has the skeleton of its template.  So the payloads of two sessions have
one skeleton, and those of two routes. -/
theorem skeleton_payload (n : Namer) :
    (∀ s payload, n.sessionConfig s = .ok payload →
        skeleton payload = skeleton n.rules.sessionConfig)
      ∧ (∀ s r payload, n.routeConfig s r = .ok payload →
        skeleton payload = skeleton n.rules.routeConfig)
      ∧ (∀ s s' payload payload', n.sessionConfig s = .ok payload →
        n.sessionConfig s' = .ok payload' → skeleton payload = skeleton payload')
      ∧ ∀ s s' r r' payload payload', n.routeConfig s r = .ok payload →
        n.routeConfig s' r' = .ok payload' → skeleton payload = skeleton payload' :=
  ⟨fun _ _ h => skeleton_sessionConfig h, fun _ _ _ h => skeleton_routeConfig h,
    fun _ _ _ _ h h' => (skeleton_sessionConfig h).trans (skeleton_sessionConfig h').symm,
    fun _ _ _ _ _ _ h h' => (skeleton_routeConfig h).trans (skeleton_routeConfig h').symm⟩

/-- A topic that closes the attribute it is put into, and opens a tag, does neither. -/
theorem skeleton_payload_hostile :
    ∃ (n : Namer) (s s' : Session) (payload payload' : String),
      n.sessionConfig s = .ok payload ∧ n.sessionConfig s' = .ok payload'
        ∧ payload = "<s name='a'/>" ∧ payload' = "<s name='&apos;/&gt;&lt;x'/>"
        ∧ skeleton payload = skeleton payload' := by
  let n : Namer := ⟨"r", { sessionConfig := "<s name='\x7btopic\x7d'/>" }⟩
  have hplain : n.sessionConfig ⟨"a", ""⟩ = .ok "<s name='a'/>" :=
    eq_ok_of_toOption (by decide +kernel)
  have hhostile : n.sessionConfig ⟨"'/><x", ""⟩ = .ok "<s name='&apos;/&gt;&lt;x'/>" :=
    eq_ok_of_toOption (by decide +kernel)
  exact ⟨n, _, _, _, _, hplain, hhostile, rfl, rfl,
    (skeleton_payload n).2.2.1 _ _ _ _ hplain hhostile⟩

end Namer

end RoutingSessions
