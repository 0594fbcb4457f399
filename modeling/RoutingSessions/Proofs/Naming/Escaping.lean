/-
  RoutingSessions.Proofs.Naming.Escaping — escaping loses nothing.

  A value may look escaped already: it may hold an entity, or an ampersand in front of
  what would make it one.  Since an ampersand is itself written as an entity, the
  entities of an escaped text are those that escaping put there.  A reader that replaces
  them from left to right, and does not look again at what it has put in their place,
  ends with the value.

  Main statements:
    * `entity_of_ampersand` — every ampersand of an escaped text begins an entity.
    * `unescapeChars_escapeChars` — reading the entities gives back the text.
    * `escape_lossless` — both, and that no two texts are written alike.
-/
import RoutingSessions.Proofs.Naming.Skeleton

namespace RoutingSessions.Markup

/-! ## §1. Entities. -/

/-- The five predefined entities. -/
def entities : List String := ["&amp;", "&lt;", "&gt;", "&quot;", "&apos;"]

/-- The text with its entities replaced, from left to right.  An ampersand that begins none of
them stands for itself. -/
def unescapeChars : List Char → List Char
  | [] => []
  | '&' :: 'a' :: 'm' :: 'p' :: ';' :: s => '&' :: unescapeChars s
  | '&' :: 'l' :: 't' :: ';' :: s => '<' :: unescapeChars s
  | '&' :: 'g' :: 't' :: ';' :: s => '>' :: unescapeChars s
  | '&' :: 'q' :: 'u' :: 'o' :: 't' :: ';' :: s => '"' :: unescapeChars s
  | '&' :: 'a' :: 'p' :: 'o' :: 's' :: ';' :: s => '\'' :: unescapeChars s
  | c :: s => c :: unescapeChars s

/-- The text with its entities replaced, from left to right. -/
def unescape (s : String) : String := String.ofList (unescapeChars s.toList)

/-- Markup finds nothing in the text but characters and entities. -/
structure Clean (s : List Char) : Prop where
  delimiters : ∀ c ∈ s, isDelimiter c = false
  ampersands : ∀ before after, s = before ++ '&' :: after →
    ∃ e ∈ entities, e.toList <+: '&' :: after

variable {c : Char} {s before after : List Char}

/-! ## §2. What is written for a character. -/

/-- A character is written as an entity or, if it is no ampersand, as itself. -/
theorem escapeChar_cases (c : Char) :
    (∃ e ∈ entities, escapeChar c = e.toList) ∨ c ≠ '&' ∧ escapeChar c = [c] := by
  unfold escapeChar
  split
  · exact .inl ⟨"&amp;", by decide, rfl⟩
  · exact .inl ⟨"&lt;", by decide, rfl⟩
  · exact .inl ⟨"&gt;", by decide, rfl⟩
  · exact .inl ⟨"&quot;", by decide, rfl⟩
  · exact .inl ⟨"&apos;", by decide, rfl⟩
  next hamp _ _ _ _ => exact .inr ⟨hamp, rfl⟩

/-- The only ampersand of an entity is the one that it begins with. -/
theorem not_mem_tail_entity {e : String} (he : e ∈ entities) : '&' ∉ e.toList.tail := by
  revert e
  decide

/-- An ampersand that is written for a character begins an entity. -/
theorem entity_of_escapeChar (h : escapeChar c = before ++ '&' :: after) :
    before = [] ∧ ∃ e ∈ entities, e.toList = '&' :: after := by
  rcases escapeChar_cases c with ⟨e, he, hwritten⟩ | ⟨hamp, hwritten⟩
  · rw [hwritten] at h
    cases before with
    | nil => exact ⟨rfl, e, he, h⟩
    | cons b before =>
      have htail : '&' ∉ before ++ '&' :: after := by
        have hnone := not_mem_tail_entity he
        rw [h] at hnone
        exact hnone
      exact absurd (List.mem_append_right _ (List.mem_cons_self ..)) htail
  · have hmem : '&' ∈ [c] := by
      rw [← hwritten, h]
      exact List.mem_append_right _ (List.mem_cons_self ..)
    exact absurd (List.mem_singleton.1 hmem).symm hamp

/-! ## §3. What is written for a text. -/

/-- **Every ampersand of an escaped text begins an entity.** -/
theorem entity_of_ampersand (h : escapeChars s = before ++ '&' :: after) :
    ∃ e ∈ entities, e.toList <+: '&' :: after := by
  induction s generalizing before with
  | nil => exact absurd h.symm (by simp [escapeChars])
  | cons c s ih =>
    have hcut : escapeChar c ++ escapeChars s = before ++ '&' :: after := h
    rcases List.append_eq_append_iff.1 hcut with ⟨more, _, hrest⟩ | ⟨more, hfirst, hrest⟩
    · -- the ampersand is written for a later character
      exact ih hrest
    · cases more with
      | nil =>
        have hfirst : escapeChars s = [] ++ '&' :: after := hrest.symm
        exact ih hfirst
      | cons b more =>
        -- the ampersand is written for `c`, and the entity ends before the rest begins
        obtain rfl : '&' = b := (List.cons.inj hrest).1
        obtain ⟨_, e, he, hentity⟩ := entity_of_escapeChar hfirst
        refine ⟨e, he, ?_⟩
        rw [hentity, hrest]
        exact List.prefix_append ('&' :: more) (escapeChars s)

theorem clean_escapeChars (s : List Char) : Clean (escapeChars s) where
  delimiters c hc := by
    have hnone := List.filter_eq_nil_iff.1 (filter_escapeChars s) c hc
    exact Bool.eq_false_iff.2 hnone
  ampersands _ _ h := entity_of_ampersand h

theorem unescapeChars_cons (hc : c ≠ '&') (s : List Char) :
    unescapeChars (c :: s) = c :: unescapeChars s := by
  rw [unescapeChars] <;> exact fun _ hamp _ => hc hamp

/-- What is written for a character is read as that character, whatever follows. -/
theorem unescapeChars_escapeChar_append (c : Char) (s : List Char) :
    unescapeChars (escapeChar c ++ s) = c :: unescapeChars s := by
  unfold escapeChar
  split
  · rfl
  · rfl
  · rfl
  · rfl
  · rfl
  next hamp _ _ _ _ => exact unescapeChars_cons hamp s

/-- **Reading the entities of an escaped text gives back the text.** -/
theorem unescapeChars_escapeChars (s : List Char) : unescapeChars (escapeChars s) = s := by
  induction s with
  | nil => rfl
  | cons c s ih =>
    show unescapeChars (escapeChar c ++ escapeChars s) = c :: s
    rw [unescapeChars_escapeChar_append, ih]

/-! ## §4. Whole texts. -/

theorem unescape_escape (s : String) : unescape (escape s) = s := by
  rw [unescape, escape, String.toList_ofList, unescapeChars_escapeChars, String.ofList_toList]

/-- **Escaping loses nothing.**  An escaped text holds no delimiter, and no ampersand but those
that begin an entity; replacing the entities from left to right gives back the text, also if it
looked escaped before.  So no two texts are written alike; and the parts of a text are written one
after the other. -/
theorem escape_lossless :
    (∀ s, Clean (escape s).toList)
      ∧ (∀ s, unescape (escape s) = s)
      ∧ Function.Injective escape
      ∧ ∀ s t, escape (s ++ t) = escape s ++ escape t := by
  refine ⟨fun s => ?_, unescape_escape, Function.LeftInverse.injective unescape_escape,
    fun s t => ?_⟩
  · rw [escape, String.toList_ofList]
    exact clean_escapeChars s.toList
  · unfold escape
    rw [String.toList_append, escapeChars_append, String.ofList_append]

/-- A text that holds an entity is told apart from the text that the entity stands for, and its own
ampersand begins an entity in turn. -/
theorem escape_lossless_lookalike :
    escape "a&lt;" = "a&amp;lt;" ∧ unescape "a&amp;lt;" = "a&lt;" ∧ escape "a&lt;" ≠ escape "a<"
      ∧ ∃ e ∈ entities, e.toList <+: '&' :: "amp;lt;".toList := by
  have hwritten : escape "a&lt;" = "a&amp;lt;" := by decide +kernel
  have hsplit : "a&amp;lt;".toList = ['a'] ++ '&' :: "amp;lt;".toList := by decide +kernel
  obtain ⟨hclean, hread, hinj, _⟩ := escape_lossless
  have hback := hread "a&lt;"
  have hstart := (hclean "a&lt;").ampersands ['a'] "amp;lt;".toList
  rw [hwritten] at hback hstart
  exact ⟨hwritten, hback, hinj.ne (by decide), hstart hsplit⟩

end RoutingSessions.Markup
