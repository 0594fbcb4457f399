/-
  RoutingSessions.Proofs.Naming.Joints — what an entity tells of the names it is
  joined from.

  No name holds the separator, but a name may begin or end with a colon.  So the
  separator of an entity can be read in two places: three colons in a row are a name
  that ends with one, or a name that begins with one.  That is the only doubt.

  Main statements:
    * `append_colons_eq_iff` — two texts joined by the separator, read back.
    * `routeEntity_eq_iff` — routes of one entity have the same names, or names that
      differ in the side of the joint on which a colon stands.
    * `routeEntity_collision` — there are such routes.
-/
import RoutingSessions.Proofs.Request

namespace RoutingSessions

/-! ## §1. The separator inside a text. -/

theorem holdsSeparator_iff {l : List Char} :
    holdsSeparator l = true ↔ ∃ before after, l = before ++ ':' :: ':' :: after := by
  induction l with
  | nil => simp [holdsSeparator]
  | cons a l ih =>
    cases l with
    | nil =>
      simp only [holdsSeparator, Bool.false_eq_true, false_iff]
      rintro ⟨before, after, h⟩
      have hlen := congrArg List.length h
      simp only [List.length_cons, List.length_nil, List.length_append] at hlen
      omega
    | cons b l =>
      rw [holdsSeparator, Bool.or_eq_true, ih]
      constructor
      · rintro (h | ⟨before, after, h⟩)
        · simp only [Bool.and_eq_true, beq_iff_eq] at h
          obtain ⟨rfl, rfl⟩ := h
          exact ⟨[], l, rfl⟩
        · exact ⟨a :: before, after, by rw [h]; rfl⟩
      · rintro ⟨before, after, h⟩
        cases before with
        | nil =>
          injection h with ha h
          injection h with hb _
          exact .inl (by simp [ha, hb])
        | cons c before =>
          injection h with _ h
          exact .inr ⟨before, after, h⟩

/-- A beginning that is followed by the separator holds it, if it reaches over two characters
of what follows. -/
theorem eq_colon_of_append {d m m' : List Char}
    (h : ':' :: ':' :: m = d ++ ':' :: ':' :: m') (hd : holdsSeparator d = false) :
    (d = [] ∧ m = m') ∨ (d = [':'] ∧ m = ':' :: m') := by
  cases d with
  | nil =>
    injection h with _ h
    injection h with _ h
    exact .inl ⟨rfl, h⟩
  | cons a d =>
    injection h with ha h
    subst ha
    cases d with
    | nil =>
      injection h with _ h
      exact .inr ⟨rfl, h⟩
    | cons b d =>
      -- two characters more are the separator itself
      injection h with hb _
      subst hb
      have hin : holdsSeparator (':' :: ':' :: d) = true := holdsSeparator_iff.2 ⟨[], d, rfl⟩
      rw [hin] at hd
      cases hd

theorem not_holdsSeparator_right {l d : List Char} (h : holdsSeparator (l ++ d) = false) :
    holdsSeparator d = false := by
  rw [Bool.eq_false_iff] at h ⊢
  intro hd
  obtain ⟨before, after, rfl⟩ := holdsSeparator_iff.1 hd
  exact h (holdsSeparator_iff.2 ⟨l ++ before, after, (List.append_assoc _ _ _).symm⟩)

/-- **Two texts joined by the separator, read back.**  If the first text does not hold the
separator, then where it ends is certain up to one colon. -/
theorem append_colons_eq_iff {l l' m m' : List Char}
    (hl : holdsSeparator l = false) (hl' : holdsSeparator l' = false) :
    l ++ ':' :: ':' :: m = l' ++ ':' :: ':' :: m' ↔
      (l = l' ∧ m = m') ∨ (l' = l ++ [':'] ∧ m = ':' :: m')
        ∨ (l = l' ++ [':'] ∧ m' = ':' :: m) := by
  constructor
  · intro h
    rcases List.append_eq_append_iff.1 h with ⟨d, rfl, hd⟩ | ⟨d, rfl, hd⟩
    · rcases eq_colon_of_append hd (not_holdsSeparator_right hl') with ⟨rfl, hm⟩ | ⟨rfl, hm⟩
      · exact .inl ⟨(List.append_nil l).symm, hm⟩
      · exact .inr (.inl ⟨rfl, hm⟩)
    · rcases eq_colon_of_append hd (not_holdsSeparator_right hl) with ⟨rfl, hm⟩ | ⟨rfl, hm⟩
      · exact .inl ⟨List.append_nil l', hm.symm⟩
      · exact .inr (.inr ⟨rfl, hm⟩)
  · rintro (⟨rfl, rfl⟩ | ⟨rfl, rfl⟩ | ⟨rfl, rfl⟩)
    · rfl
    · rw [List.append_assoc]
      rfl
    · rw [List.append_assoc]
      rfl

/-! ## §2. Qualified names. -/

theorem toList_qualify (parent name : String) :
    (qualify parent name).toList = parent.toList ++ ':' :: ':' :: name.toList := by
  show (parent ++ entitySeparator ++ name).toList = _
  rw [String.toList_append, String.toList_append, List.append_assoc]
  rfl

theorem qualify_right_inj {parent name name' : String} :
    qualify parent name = qualify parent name' ↔ name = name' := by
  constructor
  · intro h
    have hlist := congrArg String.toList h
    rw [toList_qualify, toList_qualify] at hlist
    have htail := List.append_cancel_left hlist
    injection htail with _ htail
    injection htail with _ htail
    exact String.toList_injective htail
  · rintro rfl
    rfl

theorem qualify_qualify (parent name inner : String) :
    qualify (qualify parent name) inner = qualify parent (qualify name inner) := by
  apply String.toList_injective
  simp only [toList_qualify, List.append_assoc, List.cons_append]

theorem holdsSeparator_qualify (parent name : String) :
    holdsSeparator (qualify parent name).toList = true :=
  holdsSeparator_iff.2 ⟨_, _, toList_qualify parent name⟩

/-- Two qualified names, read back. -/
theorem qualify_eq_iff {parent parent' name name' : String}
    (hp : holdsSeparator parent.toList = false) (hp' : holdsSeparator parent'.toList = false) :
    qualify parent name = qualify parent' name' ↔
      (parent = parent' ∧ name = name') ∨ (parent' = parent ++ ":" ∧ name = ":" ++ name')
        ∨ (parent = parent' ++ ":" ∧ name' = ":" ++ name) := by
  have hone : ":".toList = [':'] := rfl
  rw [← String.toList_inj, toList_qualify, toList_qualify, append_colons_eq_iff hp hp']
  simp only [← String.toList_inj, String.toList_append, hone, List.singleton_append]

/-! ## §3. The names of sessions and routes. -/

theorem checkName_eq_ok {name accepted : String} :
    checkName name = .ok accepted ↔
      isBlankText name = false ∧ holdsSeparator name.toList = false ∧ accepted = name := by
  unfold checkName
  cases isBlankText name <;> cases holdsSeparator name.toList <;> simp [eq_comm]

namespace Namer

variable {n : Namer} {s s' : Session} {r r' : Route} {entity entity' name : String}

/-- A session's name is what its template gives, and was not refused. -/
theorem expandTemplate_of_sessionName (h : n.sessionName s = .ok name) :
    expandTemplate n.rules.sessionName (n.sessionNameValues s) = .ok name
      ∧ isBlankText name = false ∧ holdsSeparator name.toList = false := by
  unfold sessionName at h
  obtain ⟨_, _, h⟩ := bind_eq_ok.1 h
  obtain ⟨text, htext, h⟩ := bind_eq_ok.1 h
  obtain ⟨hblank, hsep, rfl⟩ := checkName_eq_ok.1 h
  exact ⟨htext, hblank, hsep⟩

/-- A route's name is what its template gives, and was not refused. -/
theorem expandTemplate_of_routeName (h : n.routeName s r = .ok name) :
    expandTemplate n.rules.routeName (n.routeNameValues s r) = .ok name
      ∧ isBlankText name = false ∧ holdsSeparator name.toList = false := by
  unfold routeName at h
  obtain ⟨_, _, h⟩ := bind_eq_ok.1 h
  obtain ⟨text, htext, h⟩ := bind_eq_ok.1 h
  obtain ⟨hblank, hsep, rfl⟩ := checkName_eq_ok.1 h
  exact ⟨htext, hblank, hsep⟩

theorem holdsSeparator_sessionName (h : n.sessionName s = .ok name) :
    holdsSeparator name.toList = false :=
  (expandTemplate_of_sessionName h).2.2

/-- The entity under which all sessions are created. -/
def domain (n : Namer) : String := qualify n.service n.rules.domainRoute

theorem exists_of_sessionEntity (h : n.sessionEntity s = .ok entity) :
    ∃ name, n.sessionName s = .ok name ∧ entity = qualify n.domain name := by
  unfold sessionEntity at h
  obtain ⟨parent, hparent, h⟩ := bind_eq_ok.1 h
  obtain ⟨name, hname, h⟩ := bind_eq_ok.1 h
  unfold sessionParent at hparent
  obtain ⟨_, _, hparent⟩ := bind_eq_ok.1 hparent
  cases hparent
  cases h
  exact ⟨name, hname, rfl⟩

theorem exists_of_routeEntity (h : n.routeEntity s r = .ok entity) :
    ∃ name routeName, n.sessionName s = .ok name ∧ n.routeName s r = .ok routeName
      ∧ entity = qualify n.domain (qualify name routeName) := by
  unfold routeEntity at h
  obtain ⟨parent, hparent, h⟩ := bind_eq_ok.1 h
  obtain ⟨routeName, hroute, h⟩ := bind_eq_ok.1 h
  obtain ⟨name, hname, rfl⟩ := exists_of_sessionEntity hparent
  cases h
  exact ⟨name, routeName, hname, hroute, qualify_qualify _ _ _⟩

/-! ## §4. Entities. -/

/-- No session has the entity of a route, whatever the rules. -/
theorem sessionEntity_ne_routeEntity (h : n.sessionEntity s = .ok entity)
    (h' : n.routeEntity s' r = .ok entity') : entity ≠ entity' := by
  obtain ⟨name, hname, rfl⟩ := exists_of_sessionEntity h
  obtain ⟨name', routeName, _, _, rfl⟩ := exists_of_routeEntity h'
  intro heq
  -- the session's name would be a qualified one, and hold the separator
  have hsep := holdsSeparator_sessionName hname
  rw [qualify_right_inj.1 heq, holdsSeparator_qualify] at hsep
  cases hsep

/-- **What entities tell of names.**  Two routes have the same entity exactly if they have the
same names, or if the session name of one is that of the other with a colon behind it, and the
route name of the other is that of the one with a colon before it.  No session has the entity of
a route. -/
theorem routeEntity_eq_iff (n : Namer) :
    (∀ s r s' r' entity entity',
      n.routeEntity s r = .ok entity → n.routeEntity s' r' = .ok entity' →
      ∃ name routeName name' routeName',
        n.sessionName s = .ok name ∧ n.routeName s r = .ok routeName
          ∧ n.sessionName s' = .ok name' ∧ n.routeName s' r' = .ok routeName'
          ∧ (entity = entity' ↔ (name = name' ∧ routeName = routeName')
            ∨ (name' = name ++ ":" ∧ routeName = ":" ++ routeName')
            ∨ (name = name' ++ ":" ∧ routeName' = ":" ++ routeName)))
      ∧ ∀ s s' r entity entity', n.sessionEntity s = .ok entity →
          n.routeEntity s' r = .ok entity' → entity ≠ entity' := by
  constructor
  · intro s r s' r' entity entity' h h'
    obtain ⟨name, routeName, hname, hroute, rfl⟩ := exists_of_routeEntity h
    obtain ⟨name', routeName', hname', hroute', rfl⟩ := exists_of_routeEntity h'
    refine ⟨name, routeName, name', routeName', hname, hroute, hname', hroute', ?_⟩
    rw [qualify_right_inj]
    exact qualify_eq_iff (holdsSeparator_sessionName hname) (holdsSeparator_sessionName hname')
  · intro s s' r entity entity' h h'
    exact sessionEntity_ne_routeEntity h h'

/-- A namer that calls sessions by their partitions. -/
def byPartition : Namer := ⟨"rs", { sessionName := "\x7bpartition\x7d" }⟩

theorem routeEntity_eq_iff_byPartition :
    let s : Session := ⟨"x", "p:"⟩
    let s' : Session := ⟨":x", "p"⟩
    let r : Route := ⟨.outgoing, "x", "T"⟩
    let r' : Route := ⟨.outgoing, ":x", "T"⟩
    let entity := "rs::domain_route::p:::x.OUT"
    byPartition.routeEntity s r = .ok entity ∧ byPartition.routeEntity s' r' = .ok entity
      ∧ byPartition.sessionEntity s = .ok "rs::domain_route::p:"
      ∧ "rs::domain_route::p:" ≠ entity
      ∧ ∃ name routeName name' routeName',
        byPartition.sessionName s = .ok name ∧ byPartition.routeName s r = .ok routeName
          ∧ byPartition.sessionName s' = .ok name' ∧ byPartition.routeName s' r' = .ok routeName'
          ∧ ((name = name' ∧ routeName = routeName')
            ∨ (name' = name ++ ":" ∧ routeName = ":" ++ routeName')
            ∨ (name = name' ++ ":" ∧ routeName' = ":" ++ routeName)) := by
  intro s s' r r' entity
  have h : byPartition.routeEntity s r = .ok entity := eq_ok_of_toOption (by decide +kernel)
  have h' : byPartition.routeEntity s' r' = .ok entity := eq_ok_of_toOption (by decide +kernel)
  have hsession : byPartition.sessionEntity s = .ok "rs::domain_route::p:" :=
    eq_ok_of_toOption (by decide +kernel)
  obtain ⟨hroutes, hsessions⟩ := routeEntity_eq_iff byPartition
  obtain ⟨name, routeName, name', routeName', hn, hr, hn', hr', hiff⟩ :=
    hroutes s r s' r' entity entity h h'
  exact ⟨h, h', hsession, hsessions s s' r' _ entity hsession h',
    name, routeName, name', routeName', hn, hr, hn', hr', hiff.1 rfl⟩

/-- Equal entities do not make equal names: a session whose name ends with a colon shares the
entities of its routes with another one. -/
theorem routeEntity_collision :
    let s : Session := ⟨"x", "p:"⟩
    let s' : Session := ⟨":x", "p"⟩
    let r : Route := ⟨.outgoing, "x", "T"⟩
    let r' : Route := ⟨.outgoing, ":x", "T"⟩
    byPartition.routeEntity s r = .ok "rs::domain_route::p:::x.OUT"
      ∧ byPartition.routeEntity s' r' = .ok "rs::domain_route::p:::x.OUT"
      ∧ byPartition.sessionName s = .ok "p:" ∧ byPartition.sessionName s' = .ok "p"
      ∧ byPartition.routeName s r = .ok "x.OUT" ∧ byPartition.routeName s' r' = .ok ":x.OUT" := by
  refine ⟨?_, ?_, ?_, ?_, ?_, ?_⟩ <;> exact eq_ok_of_toOption (by decide +kernel)

end Namer

end RoutingSessions
