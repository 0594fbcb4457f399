/-
  RoutingSessions.Proofs.Settings — what the configured filters ignore.

  The settings say what is ignored without saying how: by reserved names, by
  participants, by topic patterns, by partition patterns.  The chain that is built from
  them leaves out every filter that would ignore nothing.  Here its verdicts are those
  that the settings describe, and those of the chain in which nothing is left out.

  Main statements:
    * `mapM_eq_ok` — a list is read if each of its items is.
    * `build_eq_ok` — the chain that is built, filter by filter.
    * `ignoresEndpoint_buildAll`, `ignoresPartition_buildAll` — what all the filters ignore.
    * `any_build` — leaving out filters changes no verdict.
    * `build_faithful` — when there is a chain, and what it ignores.
-/
import Mathlib.Data.List.Forall2
import RoutingSessions.Proofs.Glob
import RoutingSessions.Proofs.Request
import RoutingSessions.Settings

namespace RoutingSessions

/-! ## §1. Lists of which each item is read. -/

section Lists

variable {ε ε' α β : Type} {R : α → β → Prop} {l : List α} {bs : List β}

theorem map_eq_ok {f : α → β} {x : Except ε α} {b : β} :
    x.map f = .ok b ↔ ∃ a, x = .ok a ∧ b = f a := by
  cases x with
  | error e => simp [Except.map]
  | ok a => simp [Except.map, eq_comm]

theorem mapError_eq_ok {f : ε → ε'} {x : Except ε α} {a : α} :
    x.mapError f = .ok a ↔ x = .ok a := by
  cases x <;> simp [Except.mapError]

/-- **A list is read if each of its items is.** -/
theorem mapM_eq_ok {f : α → Except ε β} :
    l.mapM f = .ok bs ↔ List.Forall₂ (fun a b => f a = .ok b) l bs := by
  induction l generalizing bs with
  | nil =>
    rw [List.forall₂_nil_left_iff, List.mapM_nil]
    show Except.ok [] = Except.ok bs ↔ _
    rw [Except.ok.injEq, eq_comm]
  | cons a l ih =>
    rw [List.mapM_cons, bind_eq_ok, List.forall₂_cons_left_iff]
    constructor
    · intro h
      obtain ⟨b, hb, h⟩ := h
      obtain ⟨rest, hrest, h⟩ := bind_eq_ok.1 h
      cases h
      exact ⟨b, rest, hb, ih.1 hrest, rfl⟩
    · intro h
      obtain ⟨b, rest, hb, hrest, rfl⟩ := h
      exact ⟨b, hb, bind_eq_ok.2 ⟨rest, ih.2 hrest, rfl⟩⟩

theorem exists_forall₂_iff : (∃ bs, List.Forall₂ R l bs) ↔ ∀ a ∈ l, ∃ b, R a b := by
  induction l with
  | nil => simp
  | cons a l ih =>
    rw [List.forall_mem_cons, ← ih]
    constructor
    · intro h
      obtain ⟨_, h⟩ := h
      cases h with
      | @cons _ b _ bs hb hbs => exact ⟨⟨b, hb⟩, bs, hbs⟩
    · intro h
      obtain ⟨⟨b, hb⟩, bs, hbs⟩ := h
      exact ⟨b :: bs, .cons hb hbs⟩

/-- Something holds of one of the results if it holds of one of the items. -/
theorem exists_mem_forall₂_iff {P : α → Prop} {Q : β → Prop} (h : List.Forall₂ R l bs)
    (hPQ : ∀ a b, R a b → (Q b ↔ P a)) : (∃ b ∈ bs, Q b) ↔ ∃ a ∈ l, P a := by
  induction h with
  | nil => simp
  | @cons a b l bs hb _ ih =>
    rw [List.exists_mem_cons_iff, List.exists_mem_cons_iff, hPQ a b hb, ih]

end Lists

theorem Glob.compileAll_eq_mapM (m : Expression.Matcher) (patterns : List String) :
    compileAll m patterns = patterns.mapM (compile m) := by
  induction patterns with
  | nil => rfl
  | cons p ps ih =>
    rw [List.mapM_cons, ← ih, compileAll]
    cases compile m p with
    | error e => rfl
    | ok g => cases compileAll m ps <;> rfl

theorem Filter.readParticipants_eq_mapM (texts : List String) :
    readParticipants texts
      = texts.mapM fun t => (Octets.read 12 t.toList).mapError FilterError.participant := by
  induction texts with
  | nil => rfl
  | cons t ts ih =>
    rw [List.mapM_cons, ← ih, readParticipants]
    cases Octets.read 12 t.toList with
    | error e => rfl
    | ok id => cases readParticipants ts <;> rfl

/-! ## §2. What a selection selects. -/

namespace Selection

/-- The patterns that a selection is written with. -/
def patterns : Selection → List String
  | .all => []
  | .only l => l
  | .allBut l => l
  | .pattern p => [p]

/-- The selection selects the topic: all of them, those that a pattern covers, or those that none
does. -/
def Selects (topic : String) : Selection → Prop
  | .all => True
  | .only l => ∃ p ∈ l, Glob.CutBy p.toList topic.toList
  | .allBut l => ¬∃ p ∈ l, Glob.CutBy p.toList topic.toList
  | .pattern p => Glob.CutBy p.toList topic.toList

end Selection

section Patterns

variable {m : Expression.Matcher} {patterns : List String} {globs : List Glob}
  {selection : Selection} {selector : Selector} {text : String}

theorem compileAll_eq_ok :
    Glob.compileAll m patterns = .ok globs ↔
      List.Forall₂ (fun p g => Glob.compile m p = .ok g) patterns globs := by
  rw [Glob.compileAll_eq_mapM, mapM_eq_ok]

theorem exists_compileAll :
    (∃ globs, Glob.compileAll m patterns = .ok globs)
      ↔ ∀ p ∈ patterns, ∃ g, Glob.compile m p = .ok g := by
  simp only [compileAll_eq_ok]
  exact exists_forall₂_iff

theorem any_matchesText (hm : m.Lawful) (h : Glob.compileAll m patterns = .ok globs) :
    globs.any (·.matchesText text) = true ↔
      ∃ p ∈ patterns, Glob.CutBy p.toList text.toList := by
  rw [List.any_eq_true]
  exact exists_mem_forall₂_iff (compileAll_eq_ok.1 h) fun p g hg => Glob.matchesText_iff hm hg

theorem exists_selection_compile :
    (∃ selector, selection.compile m = .ok selector)
      ↔ ∀ p ∈ selection.patterns, ∃ g, Glob.compile m p = .ok g := by
  cases selection with
  | all => simp [Selection.compile, Selection.patterns]
  | only l =>
    show (∃ selector, (Glob.compileAll m l).map Selector.anyOf = .ok selector) ↔ ∀ p ∈ l, _
    rw [← exists_compileAll]
    simp [map_eq_ok]
  | allBut l =>
    show (∃ selector, (Glob.compileAll m l).map Selector.noneOf = .ok selector) ↔ ∀ p ∈ l, _
    rw [← exists_compileAll]
    simp [map_eq_ok]
  | pattern p =>
    show (∃ selector, (Glob.compile m p).map (fun g => Selector.anyOf [g]) = .ok selector) ↔ _
    simp [map_eq_ok, Selection.patterns]

/-- **A compiled selection selects what the selection says.** -/
theorem selects_iff (hm : m.Lawful) (h : selection.compile m = .ok selector) :
    selector.selects text = true ↔ selection.Selects text := by
  cases selection with
  | all =>
    cases h
    simp [Selector.selects, Selection.Selects]
  | only l =>
    obtain ⟨globs, hglobs, rfl⟩ := map_eq_ok.1 h
    exact any_matchesText hm hglobs
  | allBut l =>
    obtain ⟨globs, hglobs, rfl⟩ := map_eq_ok.1 h
    show (!globs.any (·.matchesText text)) = true ↔ ¬_
    rw [Bool.not_eq_true', ← Bool.not_eq_true, any_matchesText hm hglobs]
  | pattern p =>
    obtain ⟨g, hg, rfl⟩ := map_eq_ok.1 h
    show [g].any (·.matchesText text) = true ↔ _
    rw [List.any_cons, List.any_nil, Bool.or_false]
    exact Glob.matchesText_iff hm hg

end Patterns

/-! ## §3. What each filter ignores. -/

section Filters

variable {m : Expression.Matcher} {texts patterns : List String} {selection : Selection}
  {wildcards : Bool} {f : Filter} {watched : WatchList} {e : Endpoint} {topic partition : String}

theorem ofParticipants_eq_ok :
    Filter.ofParticipants texts = .ok f ↔
      ∃ ids, List.Forall₂ (fun t id => Octets.read 12 t.toList = .ok id) texts ids
        ∧ f = .participants ids := by
  unfold Filter.ofParticipants
  rw [map_eq_ok]
  simp only [Filter.readParticipants_eq_mapM, mapM_eq_ok, mapError_eq_ok]

theorem ofSelection_eq_ok :
    Filter.ofSelection m selection = .ok f ↔
      ∃ selector, selection.compile m = .ok selector ∧ f = .topics selector := by
  unfold Filter.ofSelection
  rw [map_eq_ok]
  simp only [mapError_eq_ok]

theorem ofPartitions_eq_ok :
    Filter.ofPartitions m patterns wildcards = .ok f ↔
      ∃ globs, Glob.compileAll m patterns = .ok globs ∧ f = .partitions globs wildcards := by
  unfold Filter.ofPartitions
  rw [map_eq_ok]
  simp only [mapError_eq_ok]

theorem ignoresEndpoint_ofParticipants (h : Filter.ofParticipants texts = .ok f) :
    f.ignoresEndpoint watched e = true ↔
      ∃ t ∈ texts, Octets.read 12 t.toList = .ok e.handle.participant := by
  obtain ⟨ids, hids, rfl⟩ := ofParticipants_eq_ok.1 h
  show decide (e.handle.participant ∈ ids) = true ↔ _
  rw [decide_eq_true_iff, ← exists_mem_forall₂_iff (Q := fun id => id = e.handle.participant) hids]
  · simp
  · intro t id hid
    rw [hid, Except.ok.injEq]

theorem ignoresEndpoint_ofSelection (hm : m.Lawful)
    (h : Filter.ofSelection m selection = .ok f) :
    f.ignoresEndpoint watched e = true ↔ ¬selection.Selects e.topic := by
  obtain ⟨selector, hselector, rfl⟩ := ofSelection_eq_ok.1 h
  show (!selector.selects e.topic) = true ↔ _
  rw [Bool.not_eq_true', ← Bool.not_eq_true, selects_iff hm hselector]

theorem ignoresPartition_ofPartitions (hm : m.Lawful)
    (h : Filter.ofPartitions m patterns wildcards = .ok f) :
    f.ignoresPartition topic partition = true ↔
      (wildcards = true ∧ isWildcardPartition partition = true)
        ∨ ∃ p ∈ patterns, Glob.CutBy p.toList partition.toList := by
  obtain ⟨globs, hglobs, rfl⟩ := ofPartitions_eq_ok.1 h
  show (wildcards && isWildcardPartition partition || globs.any (·.matchesText partition)) = true
    ↔ _
  rw [Bool.or_eq_true, Bool.and_eq_true, any_matchesText hm hglobs]

end Filters

/-! ## §4. The chain that is built. -/

namespace FilterSettings

variable {m : Expression.Matcher} {s : FilterSettings} {participants topics partitions : Filter}
  {chain whole : List Filter} {watched : WatchList} {e : Endpoint} {topic partition : String}

/-- Everything that the settings list can be read: the participants as they are written, and the
patterns by the matcher. -/
structure Readable (m : Expression.Matcher) (s : FilterSettings) : Prop where
  participants : ∀ t ∈ s.ignoredParticipants, ∃ id, Octets.read 12 t.toList = .ok id
  topics : ∀ p ∈ s.topics.patterns, ∃ found, m.compilePattern p = some found
  partitions : ∀ p ∈ s.ignorePartitions, ∃ found, m.compilePattern p = some found

/-- The filters for what the settings list. -/
structure Describes (m : Expression.Matcher) (s : FilterSettings)
    (participants topics partitions : Filter) : Prop where
  participants : Filter.ofParticipants s.ignoredParticipants = .ok participants
  topics : Filter.ofSelection m s.topics = .ok topics
  partitions : Filter.ofPartitions m s.ignorePartitions s.ignoreWildcardPartitions = .ok partitions

/-- The chain in which no filter is left out. -/
def buildAll (m : Expression.Matcher) (s : FilterSettings) : Except FilterError (List Filter) := do
  let participants ← Filter.ofParticipants s.ignoredParticipants
  let topics ← Filter.ofSelection m s.topics
  let partitions ← Filter.ofPartitions m s.ignorePartitions s.ignoreWildcardPartitions
  return [if s.ignoreBuiltinTopics then .builtinTopics else .nothing, participants, topics,
    partitions]

theorem exists_describes :
    (∃ participants topics partitions, s.Describes m participants topics partitions)
      ↔ s.Readable m := by
  have hparticipants : (∃ f, Filter.ofParticipants s.ignoredParticipants = .ok f)
      ↔ ∀ t ∈ s.ignoredParticipants, ∃ id, Octets.read 12 t.toList = .ok id := by
    rw [← exists_forall₂_iff]
    simp [ofParticipants_eq_ok]
  have htopics : (∃ f, Filter.ofSelection m s.topics = .ok f)
      ↔ ∀ p ∈ s.topics.patterns, ∃ found, m.compilePattern p = some found := by
    simp only [← Glob.exists_compile]
    rw [← exists_selection_compile]
    simp [ofSelection_eq_ok]
  have hpartitions :
      (∃ f, Filter.ofPartitions m s.ignorePartitions s.ignoreWildcardPartitions = .ok f)
        ↔ ∀ p ∈ s.ignorePartitions, ∃ found, m.compilePattern p = some found := by
    simp only [← Glob.exists_compile]
    rw [← exists_compileAll]
    simp [ofPartitions_eq_ok]
  constructor
  · intro h
    obtain ⟨participants, topics, partitions, h⟩ := h
    exact ⟨hparticipants.1 ⟨_, h.participants⟩, htopics.1 ⟨_, h.topics⟩,
      hpartitions.1 ⟨_, h.partitions⟩⟩
  · intro h
    obtain ⟨participants, hps⟩ := hparticipants.2 h.participants
    obtain ⟨topics, hts⟩ := htopics.2 h.topics
    obtain ⟨partitions, hqs⟩ := hpartitions.2 h.partitions
    exact ⟨participants, topics, partitions, hps, hts, hqs⟩

theorem buildAll_eq_ok :
    s.buildAll m = .ok chain ↔
      ∃ participants topics partitions, s.Describes m participants topics partitions
        ∧ chain = [if s.ignoreBuiltinTopics then .builtinTopics else .nothing, participants,
            topics, partitions] := by
  unfold FilterSettings.buildAll
  simp only [bind_eq_ok]
  constructor
  · intro h
    obtain ⟨participants, hps, topics, hts, partitions, hqs, h⟩ := h
    cases h
    exact ⟨participants, topics, partitions, ⟨hps, hts, hqs⟩, rfl⟩
  · intro h
    obtain ⟨participants, topics, partitions, ⟨hps, hts, hqs⟩, rfl⟩ := h
    exact ⟨participants, hps, topics, hts, partitions, hqs, rfl⟩

/-! ### Filters that are left out -/

/-- The filter, if it is asked for. -/
def kept (asked : Bool) (f : Filter) : List Filter := if asked then [f] else []

/-- A filter that is not asked for can be built all the same. -/
theorem addIf_eq_ok {asked : Bool} {filter : Except FilterError Filter}
    (hskip : asked = false → ∃ f, filter = .ok f) :
    addIf asked filter chain = .ok whole ↔
      ∃ f, filter = .ok f ∧ whole = chain ++ kept asked f := by
  cases asked with
  | true =>
    show filter.map (fun f => chain ++ [f]) = .ok whole ↔ _
    rw [map_eq_ok]
    rfl
  | false =>
    obtain ⟨f, hf⟩ := hskip rfl
    show Except.ok chain = .ok whole ↔ ∃ g, filter = .ok g ∧ whole = chain ++ []
    rw [hf, Except.ok.injEq, List.append_nil]
    simp [eq_comm]

/-- Participants are listed, so the chain has a filter for them. -/
def asksParticipants (s : FilterSettings) : Bool := !s.ignoredParticipants.isEmpty

/-- Not all topics are selected. -/
def asksTopics (s : FilterSettings) : Bool := s.topics ≠ .all

/-- Partitions are ignored, by patterns or because they are patterns. -/
def asksPartitions (s : FilterSettings) : Bool :=
  s.ignoreWildcardPartitions || !s.ignorePartitions.isEmpty

theorem nil_of_not_asksParticipants (h : s.asksParticipants = false) :
    s.ignoredParticipants = [] := by
  unfold asksParticipants at h
  simpa using h

theorem all_of_not_asksTopics (h : s.asksTopics = false) : s.topics = .all := by
  unfold asksTopics at h
  simpa using h

theorem nil_of_not_asksPartitions (h : s.asksPartitions = false) :
    s.ignoreWildcardPartitions = false ∧ s.ignorePartitions = [] := by
  unfold asksPartitions at h
  simpa using h

/-- **The chain that is built**, filter by filter. -/
theorem build_eq_ok :
    s.build m = .ok chain ↔
      ∃ participants topics partitions, s.Describes m participants topics partitions
        ∧ chain = kept s.ignoreBuiltinTopics .builtinTopics ++ kept s.asksParticipants participants
            ++ kept s.asksTopics topics ++ kept s.asksPartitions partitions := by
  -- what is not asked for lists nothing, and so it can be read
  have hparticipants : s.asksParticipants = false →
      ∃ f, Filter.ofParticipants s.ignoredParticipants = .ok f := by
    intro h
    rw [nil_of_not_asksParticipants h]
    exact ⟨_, rfl⟩
  have htopics : s.asksTopics = false → ∃ f, Filter.ofSelection m s.topics = .ok f := by
    intro h
    rw [all_of_not_asksTopics h]
    exact ⟨_, rfl⟩
  have hpartitions : s.asksPartitions = false →
      ∃ f, Filter.ofPartitions m s.ignorePartitions s.ignoreWildcardPartitions = .ok f := by
    intro h
    rw [(nil_of_not_asksPartitions h).2]
    exact ⟨_, rfl⟩
  have hbuiltin : s.ignoreBuiltinTopics = false →
      ∃ f, (Except.ok Filter.builtinTopics : Except FilterError Filter) = .ok f := by
    intro _
    exact ⟨_, rfl⟩
  show (addIf s.ignoreBuiltinTopics (.ok .builtinTopics) [] >>= fun first =>
    addIf s.asksParticipants (Filter.ofParticipants s.ignoredParticipants) first >>= fun second =>
    addIf s.asksTopics (Filter.ofSelection m s.topics) second >>= fun third =>
    addIf s.asksPartitions (Filter.ofPartitions m s.ignorePartitions s.ignoreWildcardPartitions)
      third) = .ok chain ↔ _
  simp only [bind_eq_ok, addIf_eq_ok hbuiltin, addIf_eq_ok hparticipants, addIf_eq_ok htopics,
    addIf_eq_ok hpartitions]
  constructor
  · intro h
    obtain ⟨_, ⟨_, hf, rfl⟩, _, ⟨participants, hps, rfl⟩, _, ⟨topics, hts, rfl⟩, partitions, hqs,
      rfl⟩ := h
    cases hf
    exact ⟨participants, topics, partitions, ⟨hps, hts, hqs⟩, rfl⟩
  · intro h
    obtain ⟨participants, topics, partitions, ⟨hps, hts, hqs⟩, rfl⟩ := h
    exact ⟨_, ⟨_, rfl, rfl⟩, _, ⟨participants, hps, rfl⟩, _, ⟨topics, hts, rfl⟩, partitions, hqs,
      rfl⟩

/-! ### Verdicts -/

/-- Leaving out a filter that ignores nothing changes no verdict. -/
theorem any_kept {verdict : Filter → Bool} {asked : Bool} {f : Filter}
    (h : asked = false → verdict f = false) : (kept asked f).any verdict = verdict f := by
  cases asked with
  | true => exact Bool.or_false _
  | false =>
    rw [h rfl]
    rfl

theorem any_kept_builtinTopics {verdict : Filter → Bool} (h : verdict .nothing = false)
    (asked : Bool) :
    (kept asked .builtinTopics).any verdict
      = verdict (if asked then .builtinTopics else .nothing) := by
  cases asked with
  | true => exact Bool.or_false _
  | false => exact h.symm

/-- **What is left out would ignore nothing**: the chain that is built gives the verdicts of the
chain with all filters. -/
theorem any_build {verdict : Filter → Bool} (hchain : s.build m = .ok chain)
    (hwhole : s.buildAll m = .ok whole) (hnothing : verdict .nothing = false)
    (hparticipants : s.ignoredParticipants = [] →
      ∀ f, Filter.ofParticipants s.ignoredParticipants = .ok f → verdict f = false)
    (htopics : s.topics = .all → ∀ f, Filter.ofSelection m s.topics = .ok f → verdict f = false)
    (hpartitions : s.ignoreWildcardPartitions = false → s.ignorePartitions = [] →
      ∀ f, Filter.ofPartitions m s.ignorePartitions s.ignoreWildcardPartitions = .ok f →
        verdict f = false) :
    chain.any verdict = whole.any verdict := by
  obtain ⟨participants, topics, partitions, h, rfl⟩ := build_eq_ok.1 hchain
  obtain ⟨participants', topics', partitions', h', rfl⟩ := buildAll_eq_ok.1 hwhole
  -- both chains are built from the same filters
  obtain rfl : participants = participants' :=
    Except.ok.inj (h.participants.symm.trans h'.participants)
  obtain rfl : topics = topics' := Except.ok.inj (h.topics.symm.trans h'.topics)
  obtain rfl : partitions = partitions' := Except.ok.inj (h.partitions.symm.trans h'.partitions)
  have hskipped : s.asksPartitions = false → verdict partitions = false := by
    intro hasks
    obtain ⟨hwildcards, hnil⟩ := nil_of_not_asksPartitions hasks
    exact hpartitions hwildcards hnil _ h.partitions
  rw [List.any_append, List.any_append, List.any_append, any_kept_builtinTopics hnothing,
    any_kept fun hasks => hparticipants (nil_of_not_asksParticipants hasks) _ h.participants,
    any_kept fun hasks => htopics (all_of_not_asksTopics hasks) _ h.topics, any_kept hskipped]
  simp only [List.any_cons, List.any_nil, Bool.or_false, Bool.or_assoc]

/-! ## §5. What the settings ignore. -/

/-- The topic is reserved for infrastructure, by one of three beginnings. -/
def IsReserved (topic : String) : Prop :=
  "DCPS".toList <+: topic.toList ∨ "rti/".toList <+: topic.toList
    ∨ "ros_discovery_info".toList <+: topic.toList

/-- The settings ignore the endpoint: by a reserved name, by its participant, or because its topic
is not selected. -/
def IgnoresEndpoint (s : FilterSettings) (e : Endpoint) : Prop :=
  (s.ignoreBuiltinTopics = true ∧ IsReserved e.topic)
    ∨ (∃ t ∈ s.ignoredParticipants, Octets.read 12 t.toList = .ok e.handle.participant)
    ∨ ¬s.topics.Selects e.topic

/-- The settings ignore the partition: because it is a pattern itself, or by a pattern. -/
def IgnoresPartition (s : FilterSettings) (partition : String) : Prop :=
  (s.ignoreWildcardPartitions = true ∧ ∃ c ∈ partition.toList, c = '*' ∨ c = '?' ∨ c = '[')
    ∨ ∃ p ∈ s.ignorePartitions, Glob.CutBy p.toList partition.toList

theorem isBuiltinTopic_iff : isBuiltinTopic topic = true ↔ IsReserved topic := by
  unfold isBuiltinTopic builtinBeginnings IsReserved
  simp only [List.any_cons, List.any_nil, Bool.or_false, Bool.or_eq_true,
    List.isPrefixOf_iff_prefix]

theorem isWildcardPartition_iff :
    isWildcardPartition partition = true
      ↔ ∃ c ∈ partition.toList, c = '*' ∨ c = '?' ∨ c = '[' := by
  unfold isWildcardPartition
  simp only [List.any_eq_true, Bool.or_eq_true, decide_eq_true_eq, or_assoc]

theorem ignoresEndpoint_builtinTopics :
    (if s.ignoreBuiltinTopics then Filter.builtinTopics else .nothing).ignoresEndpoint watched e
        = true
      ↔ s.ignoreBuiltinTopics = true ∧ IsReserved e.topic := by
  rw [← isBuiltinTopic_iff]
  cases s.ignoreBuiltinTopics with
  | true =>
    show isBuiltinTopic e.topic = true ↔ _
    simp
  | false =>
    show false = true ↔ _
    simp

theorem ignoresEndpoint_buildAll (hm : m.Lawful) (hwhole : s.buildAll m = .ok whole) :
    (Filter.chain whole).ignoresEndpoint watched e = true ↔ s.IgnoresEndpoint e := by
  obtain ⟨participants, topics, partitions, h, rfl⟩ := buildAll_eq_ok.1 hwhole
  have hpartitions : partitions.ignoresEndpoint watched e = false := by
    obtain ⟨globs, _, rfl⟩ := ofPartitions_eq_ok.1 h.partitions
    rfl
  rw [Filter.ignoresEndpoint_chain]
  simp only [List.any_cons, List.any_nil, hpartitions, Bool.or_false, Bool.or_eq_true]
  rw [ignoresEndpoint_builtinTopics, ignoresEndpoint_ofParticipants h.participants,
    ignoresEndpoint_ofSelection hm h.topics]
  rfl

theorem ignoresPartition_buildAll (hm : m.Lawful) (hwhole : s.buildAll m = .ok whole) :
    (Filter.chain whole).ignoresPartition topic partition = true
      ↔ s.IgnoresPartition partition := by
  obtain ⟨participants, topics, partitions, h, rfl⟩ := buildAll_eq_ok.1 hwhole
  have hbuiltin : (if s.ignoreBuiltinTopics then Filter.builtinTopics
      else .nothing).ignoresPartition topic partition = false := by
    cases s.ignoreBuiltinTopics <;> rfl
  have hparticipants : participants.ignoresPartition topic partition = false := by
    obtain ⟨ids, _, rfl⟩ := ofParticipants_eq_ok.1 h.participants
    rfl
  have htopics : topics.ignoresPartition topic partition = false := by
    obtain ⟨selector, _, rfl⟩ := ofSelection_eq_ok.1 h.topics
    rfl
  rw [Filter.ignoresPartition_chain]
  simp only [List.any_cons, List.any_nil, hbuiltin, hparticipants, htopics, Bool.or_false,
    Bool.false_or]
  rw [ignoresPartition_ofPartitions hm h.partitions, isWildcardPartition_iff]
  rfl

theorem ignoresEndpoint_build (hm : m.Lawful) (hchain : s.build m = .ok chain)
    (hwhole : s.buildAll m = .ok whole) :
    (Filter.chain chain).ignoresEndpoint watched e
      = (Filter.chain whole).ignoresEndpoint watched e := by
  rw [Filter.ignoresEndpoint_chain, Filter.ignoresEndpoint_chain]
  apply any_build hchain hwhole
  · rfl
  · intro hnil f hf
    rw [Bool.eq_false_iff, ne_eq, ignoresEndpoint_ofParticipants hf, hnil]
    simp
  · intro hall f hf
    rw [Bool.eq_false_iff, ne_eq, ignoresEndpoint_ofSelection hm hf, hall]
    simp [Selection.Selects]
  · intro _ _ f hf
    obtain ⟨globs, _, rfl⟩ := ofPartitions_eq_ok.1 hf
    rfl

theorem ignoresPartition_build (hm : m.Lawful) (hchain : s.build m = .ok chain)
    (hwhole : s.buildAll m = .ok whole) :
    (Filter.chain chain).ignoresPartition topic partition
      = (Filter.chain whole).ignoresPartition topic partition := by
  rw [Filter.ignoresPartition_chain, Filter.ignoresPartition_chain]
  apply any_build hchain hwhole
  · rfl
  · intro _ f hf
    obtain ⟨ids, _, rfl⟩ := ofParticipants_eq_ok.1 hf
    rfl
  · intro _ f hf
    obtain ⟨selector, _, rfl⟩ := ofSelection_eq_ok.1 hf
    rfl
  · intro hwildcards hnil f hf
    rw [Bool.eq_false_iff, ne_eq, ignoresPartition_ofPartitions hm hf, hwildcards, hnil]
    simp

theorem exists_build : (∃ chain, s.build m = .ok chain) ↔ s.Readable m := by
  rw [← exists_describes]
  constructor
  · intro h
    obtain ⟨chain, hchain⟩ := h
    obtain ⟨participants, topics, partitions, h, _⟩ := build_eq_ok.1 hchain
    exact ⟨participants, topics, partitions, h⟩
  · intro h
    obtain ⟨participants, topics, partitions, h⟩ := h
    exact ⟨_, build_eq_ok.2 ⟨participants, topics, partitions, h, rfl⟩⟩

theorem exists_buildAll (hchain : s.build m = .ok chain) : ∃ whole, s.buildAll m = .ok whole := by
  obtain ⟨participants, topics, partitions, h, _⟩ := build_eq_ok.1 hchain
  exact ⟨_, buildAll_eq_ok.2 ⟨participants, topics, partitions, h, rfl⟩⟩

/-- **The filters mean what the settings say**, for every lawful matcher.  There is a chain exactly
if everything that the settings list can be read.  Then it ignores an endpoint, whichever way its
data goes, and a partition exactly if the settings say so, and it gives the verdicts of the chain in
which no filter is left out.  Settings that are accepted have a chain. -/
theorem build_faithful {m : Expression.Matcher} (hm : m.Lawful) (s : FilterSettings) :
    ((∃ chain, s.build m = .ok chain) ↔ s.Readable m)
      ∧ (∀ chain, s.build m = .ok chain →
        (∀ watched e, (Filter.chain chain).ignoresEndpoint watched e = true ↔ s.IgnoresEndpoint e)
          ∧ (∀ topic partition, (Filter.chain chain).ignoresPartition topic partition = true
            ↔ s.IgnoresPartition partition)
          ∧ ∃ whole, s.buildAll m = .ok whole
            ∧ (∀ watched e, (Filter.chain chain).ignoresEndpoint watched e
              = (Filter.chain whole).ignoresEndpoint watched e)
            ∧ ∀ topic partition, (Filter.chain chain).ignoresPartition topic partition
              = (Filter.chain whole).ignoresPartition topic partition)
      ∧ ∀ settings : Settings, settings.filters = s → settings.validate m = .ok () →
        ∃ chain, settings.buildFilters m = .ok chain ∧ s.build m = .ok chain := by
  refine ⟨exists_build, ?_, ?_⟩
  · intro chain hchain
    obtain ⟨whole, hwhole⟩ := exists_buildAll hchain
    refine ⟨?_, ?_, whole, hwhole, ?_, ?_⟩
    · intro watched e
      rw [ignoresEndpoint_build hm hchain hwhole]
      exact ignoresEndpoint_buildAll hm hwhole
    · intro topic partition
      rw [ignoresPartition_build hm hchain hwhole]
      exact ignoresPartition_buildAll hm hwhole
    · intro watched e
      exact ignoresEndpoint_build hm hchain hwhole
    · intro topic partition
      exact ignoresPartition_build hm hchain hwhole
  · intro settings hfilters hvalid
    obtain ⟨chain, hchain⟩ := Settings.buildFilters_of_validate hvalid
    subst hfilters
    exact ⟨chain, hchain, mapError_eq_ok.1 hchain⟩

/-- The filters of the sample settings ignore a partition by its beginning, a topic that is not
selected, and the participant that is listed; they let the default partition through. -/
theorem build_faithful_sample :
    let m := Expression.engine
    let s := Settings.sample.filters
    let ours : ParticipantId := ⟨[1, 15, 172, 16, 0, 0, 0, 0, 0, 0, 0, 1], rfl⟩
    let other : ParticipantId := .replicate 12 7
    let entity : Octets 4 := .replicate 4 3
    m.Lawful ∧ ∃ chain, s.build m = .ok chain
      ∧ (Filter.chain chain).ignoresPartition "T" "debug1" = true
      ∧ (Filter.chain chain).ignoresPartition "T" "" ≠ true
      ∧ (Filter.chain chain).ignoresEndpoint .empty
          ⟨.ofParts other entity, .incoming, "Internal/x", "U", []⟩ = true
      ∧ (Filter.chain chain).ignoresEndpoint .empty ⟨.ofParts ours entity, .outgoing, "T", "U", []⟩
          = true := by
  intro m s ours other entity
  have hm : m.Lawful := Expression.engine_lawful
  have hours : Octets.read 12 "01.0f.ac.10.00.00.00.00.00.00.00.01".toList = .ok ours :=
    eq_ok_of_toOption (by decide +kernel)
  obtain ⟨covered, hinternal⟩ : ∃ found, m.compilePattern "Internal/*" = some found :=
    Option.isSome_iff_exists.1 (by decide +kernel)
  obtain ⟨found, hdebug⟩ : ∃ found, m.compilePattern "debug*" = some found :=
    Option.isSome_iff_exists.1 (by decide +kernel)
  have hreadable : s.Readable m := by
    refine ⟨?_, ?_, ?_⟩
    · intro t ht
      rw [List.mem_singleton.1 ht]
      exact ⟨ours, hours⟩
    · intro p hp
      rw [List.mem_singleton.1 hp]
      exact ⟨covered, hinternal⟩
    · intro p hp
      rw [List.mem_singleton.1 hp]
      exact ⟨found, hdebug⟩
  -- what the matcher says of the texts in question
  have hx : covered "Internal/x" = true := by
    have h : (m.compilePattern "Internal/*").map (· "Internal/x") = some true := by decide +kernel
    rw [hinternal] at h
    exact Option.some.inj h
  have hone : found "debug1" = true := by
    have h : (m.compilePattern "debug*").map (· "debug1") = some true := by decide +kernel
    rw [hdebug] at h
    exact Option.some.inj h
  have hempty : found "" ≠ true := by
    have h : (m.compilePattern "debug*").map (· "") = some false := by decide +kernel
    rw [hdebug] at h
    exact ne_true_of_eq_false (Option.some.inj h)
  obtain ⟨hbuild, hmeans, _⟩ := build_faithful hm s
  obtain ⟨chain, hchain⟩ := hbuild.2 hreadable
  obtain ⟨hendpoint, hpartition, _⟩ := hmeans chain hchain
  refine ⟨hm, chain, hchain, ?_, ?_, ?_, ?_⟩
  · apply (hpartition "T" "debug1").2
    exact .inr ⟨"debug*", List.mem_singleton.2 rfl, (Glob.found_iff hm hdebug).1 hone⟩
  · intro hignored
    rcases (hpartition "T" "").1 hignored with ⟨_, c, hc, _⟩ | ⟨p, hp, hcut⟩
    · cases hc
    · rw [List.mem_singleton.1 hp] at hcut
      exact hempty ((Glob.found_iff hm hdebug).2 hcut)
  · apply (hendpoint .empty _).2
    refine .inr (.inr fun hselects => hselects ?_)
    exact ⟨"Internal/*", List.mem_singleton.2 rfl, (Glob.found_iff hm hinternal).1 hx⟩
  · apply (hendpoint .empty _).2
    exact .inr (.inl ⟨_, List.mem_singleton.2 rfl, hours⟩)

end FilterSettings

end RoutingSessions
