/-
  RoutingSessions.Proofs.Naming.Stock — which live resources the stock rules tell apart.

  Under the stock rules a session is called by its topic and, in brackets behind it,
  by its partition; a route by its topic and direction.  This leaves three ways for
  two resources to meet in one entity: a partition that is called like the label of
  the default one, a bracket inside a topic or a partition, and routes that differ
  only in their types.  There is no other way: the separators in an entity are
  certain, since the name of a session ends with a bracket.

  Main statements:
    * `sessionName_stock`, `routeName_stock` — the names.
    * `entity_eq_iff_overlaps` — resources whose routes have the topics of their
      sessions.
    * `stock_entity_eq_iff` — live resources, after any run.
    * `stock_entity_collision` — different ones may have one entity.
    * `eq_of_entity?_eq` — those of plain sessions do not.
-/
import RoutingSessions.Proofs.Naming.Joints
import RoutingSessions.Proofs.Observer.Bookkeeping

namespace RoutingSessions

/-! ## §1. Texts joined by one character. -/

/-- Two texts joined by a character, read back: where the first text ends is certain unless the
character is in one of the texts. -/
theorem append_cons_eq_iff {α : Type} {c : α} {l l' m m' : List α} :
    l ++ c :: m = l' ++ c :: m' ↔
      (l = l' ∧ m = m') ∨ (∃ d, l' = l ++ c :: d ∧ m = d ++ c :: m')
        ∨ ∃ d, l = l' ++ c :: d ∧ m' = d ++ c :: m := by
  constructor
  · intro h
    rcases List.append_eq_append_iff.1 h with ⟨d, rfl, hd⟩ | ⟨d, rfl, hd⟩
    · cases d with
      | nil => exact .inl ⟨(List.append_nil l).symm, (List.cons.inj hd).2⟩
      | cons a d =>
        injection hd with ha hd
        exact .inr (.inl ⟨d, ha ▸ rfl, hd⟩)
    · cases d with
      | nil => exact .inl ⟨List.append_nil l', (List.cons.inj hd).2.symm⟩
      | cons a d =>
        injection hd with ha hd
        exact .inr (.inr ⟨d, ha ▸ rfl, hd⟩)
  · rintro (⟨rfl, rfl⟩ | ⟨d, rfl, rfl⟩ | ⟨d, rfl, rfl⟩)
    · rfl
    · rw [List.append_assoc]
      rfl
    · rw [List.append_assoc]
      rfl

/-! ## §2. The stock names. -/

/-- What the stock rules call the partition of a session. -/
def Session.stockLabel (s : Session) : String := if s.isDefault then "default" else s.partition

namespace Session

variable {s s' : Session}

theorem stockLabel_of_default (h : s.partition = "") : s.stockLabel = "default" :=
  if_pos (String.isEmpty_iff.2 h)

theorem stockLabel_of_named (h : s.partition ≠ "") : s.stockLabel = s.partition :=
  if_neg fun hempty => h (String.isEmpty_iff.1 hempty)

/-- Two partitions with one label are the same, or the default one and the one that is called so. -/
theorem stockLabel_eq_iff : s.stockLabel = s'.stockLabel ↔ s.partition = s'.partition
    ∨ (s.partition = "" ∧ s'.partition = "default")
    ∨ (s.partition = "default" ∧ s'.partition = "") := by
  by_cases hs : s.partition = "" <;> by_cases hs' : s'.partition = ""
  · simp [stockLabel_of_default, hs, hs']
  · rw [stockLabel_of_default hs, stockLabel_of_named hs', hs]
    constructor
    · exact fun h => .inr (.inl ⟨rfl, h.symm⟩)
    · rintro (h | ⟨_, h⟩ | ⟨_, h⟩)
      · exact absurd h.symm hs'
      · exact h.symm
      · exact absurd h hs'
  · rw [stockLabel_of_named hs, stockLabel_of_default hs', hs']
    simp [hs]
  · rw [stockLabel_of_named hs, stockLabel_of_named hs']
    simp [hs, hs']

end Session

namespace Namer

open Template

/-- A service with the stock rules. -/
def stock (service : String) : Namer := ⟨service, {}⟩

variable {service name : String} {s s' : Session} {r r' : Route}

theorem segments_stock_sessionName :
    segments (stock service).rules.sessionName
      = [.placeholder "topic", .literal '(', .placeholder "partition", .literal ')'] :=
  show segments ({} : NamingRules).sessionName = _ by decide +kernel

theorem segments_stock_routeName :
    segments (stock service).rules.routeName
      = [.placeholder "topic", .literal '.', .placeholder "direction"] :=
  show segments ({} : NamingRules).routeName = _ by decide +kernel

theorem partitionLabel_stock (service : String) (s : Session) :
    (stock service).partitionLabel s = s.stockLabel := rfl

theorem expand_stock_sessionName (service : String) (s : Session) :
    expand (stock service).rules.sessionName ((stock service).sessionNameValues s)
      = .ok (String.ofList (s.topic.toList ++ '(' :: (s.stockLabel.toList ++ [')']))) := by
  unfold expand
  rw [segments_stock_sessionName, ← partitionLabel_stock service]
  rfl

theorem expand_stock_routeName (service : String) (s : Session) (r : Route) :
    expand (stock service).rules.routeName ((stock service).routeNameValues s r)
      = .ok (String.ofList (r.topic.toList ++ '.' :: r.direction.label.toList)) := by
  unfold expand
  rw [segments_stock_routeName]
  show Except.ok (String.ofList (r.topic.toList ++ '.' :: (r.direction.label.toList ++ []))) = _
  rw [List.append_nil]

/-- Topic and label, in brackets. -/
theorem sessionName_stock (h : (stock service).sessionName s = .ok name) :
    name.toList = s.topic.toList ++ '(' :: (s.stockLabel.toList ++ [')']) := by
  obtain ⟨htext, _⟩ := expandTemplate_of_sessionName h
  unfold expandTemplate at htext
  rw [expand_stock_sessionName] at htext
  cases htext
  exact String.toList_ofList

/-- Topic and direction. -/
theorem routeName_stock (h : (stock service).routeName s r = .ok name) :
    name.toList = r.topic.toList ++ '.' :: r.direction.label.toList := by
  obtain ⟨htext, _⟩ := expandTemplate_of_routeName h
  unfold expandTemplate at htext
  rw [expand_stock_routeName] at htext
  cases htext
  exact String.toList_ofList

/-! ## §3. What the names tell apart. -/

/-- Topic and label of one session run into those of the other: with a bracket between them they
are one text. -/
def RunTogether (s s' : Session) : Prop :=
  (s.topic = s'.topic ∧ s.stockLabel = s'.stockLabel)
    ∨ (∃ between, s'.topic = s.topic ++ "(" ++ between
      ∧ s.stockLabel = between ++ "(" ++ s'.stockLabel)
    ∨ ∃ between, s.topic = s'.topic ++ "(" ++ between
      ∧ s'.stockLabel = between ++ "(" ++ s.stockLabel

theorem runTogether_iff : RunTogether s s' ↔
    s.topic.toList ++ '(' :: s.stockLabel.toList
      = s'.topic.toList ++ '(' :: s'.stockLabel.toList := by
  have hsurjective : Function.Surjective String.toList :=
    fun l => ⟨String.ofList l, String.toList_ofList⟩
  have hone : "(".toList = ['('] := rfl
  rw [append_cons_eq_iff]
  simp only [RunTogether, ← String.toList_inj, String.toList_append, hone, hsurjective.exists,
    List.append_assoc, List.singleton_append]

theorem runTogether_iff_of_topic (htopic : s.topic = s'.topic) :
    RunTogether s s' ↔ s.stockLabel = s'.stockLabel := by
  rw [runTogether_iff, htopic, List.append_cancel_left_eq, List.cons.injEq, String.toList_inj]
  simp

/-- Two sessions have one name exactly if they run together. -/
theorem stock_sessionName_eq_iff {name' : String} (h : (stock service).sessionName s = .ok name)
    (h' : (stock service).sessionName s' = .ok name') : name = name' ↔ RunTogether s s' := by
  rw [← String.toList_inj, sessionName_stock h, sessionName_stock h', runTogether_iff]
  simp only [← List.cons_append, ← List.append_assoc, List.append_cancel_right_eq]

theorem dot_notMem_label (d : Direction) : '.' ∉ d.label.toList := by
  cases d <;> decide

theorem label_injective {d d' : Direction} (h : d.label = d'.label) : d = d' := by
  revert h
  cases d <;> cases d' <;> decide

/-- Two routes have one name exactly if they agree in topic and direction. -/
theorem stock_routeName_eq_iff {name' : String} (h : (stock service).routeName s r = .ok name)
    (h' : (stock service).routeName s' r' = .ok name') :
    name = name' ↔ r.topic = r'.topic ∧ r.direction = r'.direction := by
  rw [← String.toList_inj, routeName_stock h, routeName_stock h', append_cons_eq_iff]
  constructor
  · rintro (⟨htopic, hlabel⟩ | ⟨d, -, hlabel⟩ | ⟨d, -, hlabel⟩)
    · exact ⟨String.toList_inj.1 htopic, label_injective (String.toList_inj.1 hlabel)⟩
    -- no label holds a dot
    · exact absurd (hlabel ▸ List.mem_append_right d List.mem_cons_self) (dot_notMem_label _)
    · exact absurd (hlabel ▸ List.mem_append_right d List.mem_cons_self) (dot_notMem_label _)
  · rintro ⟨htopic, hdirection⟩
    exact .inl ⟨by rw [htopic], by rw [hdirection]⟩

/-- The name of a session ends with a bracket, so no colon of a joint can belong to it. -/
theorem stock_sessionName_ne_append_colon (h : (stock service).sessionName s = .ok name)
    (other : String) : name ≠ other ++ ":" := by
  intro heq
  have hlist : (s.topic.toList ++ '(' :: s.stockLabel.toList) ++ [')'] = other.toList ++ [':'] := by
    rw [List.append_assoc, List.cons_append, ← sessionName_stock h, heq, String.toList_append]
    rfl
  obtain ⟨_, hlast⟩ := List.append_inj' hlist rfl
  cases hlast

/-! ## §4. Entities. -/

theorem stock_sessionEntity_eq_iff {entity entity' : String}
    (h : (stock service).sessionEntity s = .ok entity)
    (h' : (stock service).sessionEntity s' = .ok entity') :
    entity = entity' ↔ RunTogether s s' := by
  obtain ⟨name, hname, rfl⟩ := exists_of_sessionEntity h
  obtain ⟨name', hname', rfl⟩ := exists_of_sessionEntity h'
  rw [qualify_right_inj]
  exact stock_sessionName_eq_iff hname hname'

theorem stock_routeEntity_eq_iff {entity entity' : String}
    (h : (stock service).routeEntity s r = .ok entity)
    (h' : (stock service).routeEntity s' r' = .ok entity') :
    entity = entity' ↔ RunTogether s s' ∧ r.topic = r'.topic ∧ r.direction = r'.direction := by
  obtain ⟨name, routeName, hname, hroute, rfl⟩ := exists_of_routeEntity h
  obtain ⟨name', routeName', hname', hroute', rfl⟩ := exists_of_routeEntity h'
  rw [qualify_right_inj, qualify_eq_iff (holdsSeparator_sessionName hname)
    (holdsSeparator_sessionName hname'), ← stock_sessionName_eq_iff hname hname',
    ← stock_routeName_eq_iff hroute hroute']
  constructor
  · rintro (hsame | ⟨hcolon, -⟩ | ⟨hcolon, -⟩)
    · exact hsame
    -- a doubtful colon would be the last character of a session's name
    · exact absurd hcolon (stock_sessionName_ne_append_colon hname' name)
    · exact absurd hcolon (stock_sessionName_ne_append_colon hname name')
  · exact .inl

/-! ## §5. Resources. -/

/-- The stock rules do not tell the two resources apart. -/
def Overlaps (k k' : Resource) : Prop :=
  match k.route, k'.route with
  | none, none => RunTogether k.session k'.session
  | some r, some r' => k.session.topic = k'.session.topic
      ∧ k.session.stockLabel = k'.session.stockLabel ∧ r.direction = r'.direction
  | _, _ => False

/-- A route carries the topic of its session. -/
def OfOneTopic (k : Resource) : Prop := ∀ r, k.route = some r → r.topic = k.session.topic

variable {n : Namer} {k k' : Resource} {entity entity' : String}

/-- **Resources that overlap have one entity, and no others have.** -/
theorem entity_eq_iff_overlaps (hk : OfOneTopic k) (hk' : OfOneTopic k')
    (h : (stock service).entity? k = some entity) (h' : (stock service).entity? k' = some entity') :
    entity = entity' ↔ Overlaps k k' := by
  obtain ⟨s, _ | r⟩ := k <;> obtain ⟨s', _ | r'⟩ := k'
  · exact stock_sessionEntity_eq_iff (entity?_ofSession.1 h) (entity?_ofSession.1 h')
  · exact iff_of_false
      (sessionEntity_ne_routeEntity (entity?_ofSession.1 h) (entity?_ofRoute.1 h')) id
  · exact iff_of_false
      (sessionEntity_ne_routeEntity (entity?_ofSession.1 h') (entity?_ofRoute.1 h)).symm id
  · -- topics that are equal cannot run into labels, so the labels are equal as well
    have htopic : r.topic = s.topic := hk r rfl
    have htopic' : r'.topic = s'.topic := hk' r' rfl
    rw [stock_routeEntity_eq_iff (entity?_ofRoute.1 h) (entity?_ofRoute.1 h'), htopic, htopic']
    constructor
    · rintro ⟨htogether, hsame, hdirection⟩
      exact ⟨hsame, (runTogether_iff_of_topic hsame).1 htogether, hdirection⟩
    · rintro ⟨hsame, hlabel, hdirection⟩
      exact ⟨(runTogether_iff_of_topic hsame).2 hlabel, hsame, hdirection⟩

/-! ## §6. Live resources. -/

/-- A live route carries the topic of its session. -/
theorem ofOneTopic_of_needs {roster : Roster} (hr : roster.Coherent)
    (hneeds : roster.needs k = true) : OfOneTopic k := by
  obtain ⟨s, route⟩ := k
  rintro r rfl
  obtain ⟨h, hseat⟩ := Roster.hasRoute_iff.1 hneeds
  exact hr.topics _ hseat

/-- **Which live resources the stock rules tell apart.**  After any run, two resources that are
needed and that have entities have the same one exactly if they overlap: sessions whose topics and
labels run together, or routes in one direction of sessions with one topic and one label.  A
deletion of either is a deletion of that entity. -/
theorem stock_entity_eq_iff (service : String) (filters : List Filter)
    (steps : List Observer.Step) :
    let roster := (Observer.runAll steps (.new filters)).1.roster
    ∀ k k' entity entity', roster.needs k = true → roster.needs k' = true →
      (stock service).entity? k = some entity → (stock service).entity? k' = some entity' →
        (entity = entity' ↔ Overlaps k k')
          ∧ ∀ router, (stock service).deleteRequest router k = .ok (.delete router entity) := by
  intro roster k k' entity entity' hneeds hneeds' h h'
  have hcoherent : roster.Coherent := Observer.coherent_runAll filters steps
  exact ⟨entity_eq_iff_overlaps (ofOneTopic_of_needs hcoherent hneeds)
      (ofOneTopic_of_needs hcoherent hneeds') h h', fun _ => deleteRequest_of_entity? h⟩

/-- Two sessions with brackets in their topics, and a session with a route for each of two types. -/
theorem stock_entity_eq_iff_brackets :
    let odd : Endpoint := ⟨.replicate 16 1, .outgoing, "A(b", "U", ["c"]⟩
    let even : Endpoint := ⟨.replicate 16 2, .outgoing, "A", "U", ["b(c"]⟩
    let retyped : Endpoint := ⟨.replicate 16 3, .outgoing, "A", "V", ["b(c"]⟩
    let steps : List Observer.Step := [odd, even, retyped].map fun e => .notice ⟨.discovered, e⟩
    let roster := (Observer.runAll steps (.new [])).1.roster
    let n := stock "rs"
    let s : Session := ⟨"A(b", "c"⟩
    let s' : Session := ⟨"A", "b(c"⟩
    let r : Route := ⟨.outgoing, "A", "U"⟩
    let r' : Route := ⟨.outgoing, "A", "V"⟩
    roster.needs (.ofSession s) = true ∧ roster.needs (.ofSession s') = true
      ∧ roster.needs (.ofRoute s' r) = true ∧ roster.needs (.ofRoute s' r') = true
      ∧ n.entity? (.ofSession s) = some "rs::domain_route::A(b(c)"
      ∧ n.entity? (.ofSession s') = some "rs::domain_route::A(b(c)"
      ∧ n.entity? (.ofRoute s' r) = some "rs::domain_route::A(b(c)::A.OUT"
      ∧ n.entity? (.ofRoute s' r') = some "rs::domain_route::A(b(c)::A.OUT"
      ∧ Overlaps (.ofSession s) (.ofSession s') ∧ Overlaps (.ofRoute s' r) (.ofRoute s' r')
      ∧ n.deleteRequest "rs" (.ofSession s) = .ok (.delete "rs" "rs::domain_route::A(b(c)") := by
  intro odd even retyped steps roster n s s' r r'
  have hs : roster.needs (.ofSession s) = true := by decide +kernel
  have hs' : roster.needs (.ofSession s') = true := by decide +kernel
  have hr : roster.needs (.ofRoute s' r) = true := by decide +kernel
  have hr' : roster.needs (.ofRoute s' r') = true := by decide +kernel
  have hes : n.entity? (.ofSession s) = some "rs::domain_route::A(b(c)" := by decide +kernel
  have hes' : n.entity? (.ofSession s') = some "rs::domain_route::A(b(c)" := by decide +kernel
  have her : n.entity? (.ofRoute s' r) = some "rs::domain_route::A(b(c)::A.OUT" := by
    decide +kernel
  have her' : n.entity? (.ofRoute s' r') = some "rs::domain_route::A(b(c)::A.OUT" := by
    decide +kernel
  obtain ⟨hsessions, hdelete⟩ := stock_entity_eq_iff "rs" [] steps _ _ _ _ hs hs' hes hes'
  obtain ⟨hroutes, _⟩ := stock_entity_eq_iff "rs" [] steps _ _ _ _ hr hr' her her'
  exact ⟨hs, hs', hr, hr', hes, hes', her, her', hsessions.1 rfl, hroutes.1 rfl, hdelete "rs"⟩

/-- **Different live resources may have one entity.**  A publication in the default partition and
in one that is called `default` leaves the latter.  What is reported is deleted by requests for
entities of the session and the route that stay. -/
theorem stock_entity_collision :
    let both : Endpoint := ⟨.replicate 16 1, .outgoing, "T", "U", ["", "default"]⟩
    let o := (Observer.runAll [.notice ⟨.discovered, both⟩] (.new [])).1
    let left := o.notice ⟨.modified, { both with partitions := [""] }⟩
    let n := stock "rs"
    let kept : Resource := .ofSession ⟨"T", ""⟩
    let dropped : Resource := .ofSession ⟨"T", "default"⟩
    let route : Route := ⟨.outgoing, "T", "U"⟩
    let entity := "rs::domain_route::T(default)"
    kept ≠ dropped ∧ o.roster.needs kept = true ∧ o.roster.needs dropped = true
      ∧ n.entity? kept = some entity ∧ n.entity? dropped = some entity
      ∧ left.2 = [.deleteRoute dropped.session route, .deleteSession dropped.session]
      ∧ left.1.roster.needs kept = true
      ∧ n.deleteRequest "rs" dropped = .ok (.delete "rs" entity) := by
  intro both o left n kept dropped route entity
  have hentity : n.entity? dropped = some entity := by decide +kernel
  exact ⟨by decide, by decide +kernel, by decide +kernel, by decide +kernel, hentity,
    by decide +kernel, by decide +kernel, deleteRequest_of_entity? hentity⟩

/-! ## §7. Plain sessions. -/

/-- No bracket in the topic, and no partition that is called like the default one. -/
structure PlainSession (s : Session) : Prop where
  topic : '(' ∉ s.topic.toList
  partition : s.partition ≠ "default"

theorem PlainSession.eq_of_runTogether (hs : PlainSession s) (hs' : PlainSession s')
    (h : RunTogether s s') : s = s' := by
  have hbracket : ∀ t between : String, '(' ∈ (t ++ "(" ++ between).toList := by
    intro t between
    simp
  rcases h with ⟨htopic, hlabel⟩ | ⟨between, htopic, -⟩ | ⟨between, htopic, -⟩
  · rcases Session.stockLabel_eq_iff.1 hlabel with hpartition | ⟨-, h'⟩ | ⟨h', -⟩
    · obtain ⟨topic, p⟩ := s
      cases htopic
      cases hpartition
      rfl
    · exact absurd h' hs'.partition
    · exact absurd h' hs.partition
  · exact absurd (htopic ▸ hbracket s.topic between) hs'.topic
  · exact absurd (htopic ▸ hbracket s'.topic between) hs.topic

/-- **Live resources of plain sessions have entities of their own**, but for routes that differ in
their types alone. -/
theorem eq_of_entity?_eq {filters : List Filter} {steps : List Observer.Step}
    (hneeds : (Observer.runAll steps (.new filters)).1.roster.needs k = true)
    (hneeds' : (Observer.runAll steps (.new filters)).1.roster.needs k' = true)
    (hk : PlainSession k.session) (hk' : PlainSession k'.session)
    (htypes : ∀ r r', k.route = some r → k'.route = some r' → r.typeName = r'.typeName)
    (h : (stock service).entity? k = some entity) (h' : (stock service).entity? k' = some entity) :
    k = k' := by
  have hone := ofOneTopic_of_needs (Observer.coherent_runAll filters steps) hneeds
  have hone' := ofOneTopic_of_needs (Observer.coherent_runAll filters steps) hneeds'
  have hoverlaps : Overlaps k k' := (entity_eq_iff_overlaps hone hone' h h').1 rfl
  obtain ⟨s, _ | r⟩ := k <;> obtain ⟨s', _ | r'⟩ := k'
  · obtain rfl : s = s' := hk.eq_of_runTogether hk' hoverlaps
    rfl
  · exact hoverlaps.elim
  · exact hoverlaps.elim
  · obtain ⟨htopic, hlabel, hdirection⟩ := hoverlaps
    obtain rfl : s = s' := hk.eq_of_runTogether hk' (.inl ⟨htopic, hlabel⟩)
    have hroute : r = r' := by
      have hsame : r.topic = r'.topic := (hone r rfl).trans (hone' r' rfl).symm
      have htype : r.typeName = r'.typeName := htypes r r' rfl rfl
      obtain ⟨direction, topic, typeName⟩ := r
      cases hdirection
      cases hsame
      cases htype
      rfl
    rw [hroute]

end Namer

end RoutingSessions
