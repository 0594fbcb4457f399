/-
  RoutingSessions.Proofs.Observer.Trimming — what filters ignore leaves no trace.

  A run can be trimmed before it is fed to an observer: notifications of endpoints that
  a filter ignores are left out, and of the partitions of the others those that repeat
  or are ignored.  Only a list of which every partition is ignored is kept, since a
  list without partitions announces the default one.  The observer cannot tell the
  trimmed run from the run itself.

  Main statements:
    * `filter_eraseDups`, `admitted_trim` — trimming keeps the partitions that count.
    * `within_apply` — an announcement stays within the sessions that it may mention.
    * `trimmed_alike` — no trace of what is ignored, for whole runs.
-/
import RoutingSessions.Proofs.Observer.Changelog
import RoutingSessions.Proofs.Observer.Interleaving

namespace RoutingSessions

/-! ## §1. Lists without repetitions. -/

theorem eraseDups_of_nodup {α : Type} [DecidableEq α] {l : List α} (h : l.Nodup) :
    l.eraseDups = l := by
  induction l with
  | nil => rfl
  | cons a l ih =>
    obtain ⟨ha, hl⟩ := List.nodup_cons.1 h
    have hkept : (l.filter fun b => !b == a) = l := by
      refine List.filter_eq_self.2 fun b hb => ?_
      have hne : b ≠ a := fun heq => ha (heq ▸ hb)
      simpa using hne
    rw [List.eraseDups_cons, hkept, ih hl]

/-- Repetitions may be left out before or after a selection. -/
theorem filter_eraseDups {α : Type} [DecidableEq α] (p : α → Bool) (l : List α) :
    l.eraseDups.filter p = (l.filter p).eraseDups := by
  -- the list gets shorter with each element that is taken out everywhere
  generalize hn : l.length = n
  induction n using Nat.strongRecOn generalizing l with
  | ind n ih =>
    cases l with
    | nil => rfl
    | cons a l =>
      have hlt : (l.filter fun b => !b == a).length < n := by
        rw [← hn, List.length_cons]
        exact Nat.lt_succ_of_le (List.length_filter_le _ _)
      have hrest := ih _ hlt (l.filter fun b => !b == a) rfl
      rw [List.eraseDups_cons]
      by_cases ha : p a = true
      · rw [List.filter_cons_of_pos ha, List.filter_cons_of_pos ha, List.eraseDups_cons, hrest,
          List.filter_comm]
      · rw [List.filter_cons_of_neg ha, List.filter_cons_of_neg ha, hrest, List.filter_filter]
        have hsame : (l.filter fun b => p b && !b == a) = l.filter p := by
          refine List.filter_congr fun b _ => ?_
          by_cases hb : b = a
          · subst hb
            simp [ha]
          · simp [hb]
        rw [hsame]

/-! ## §2. Verdicts on endpoints. -/

namespace Filter

variable {watched : WatchList} {e e' : Endpoint}

mutual

/-- The verdict on an endpoint depends on its handle and its route alone. -/
theorem ignoresEndpoint_congr (hroute : e.route = e'.route) (hhandle : e.handle = e'.handle) :
    ∀ f : Filter, f.ignoresEndpoint watched e = f.ignoresEndpoint watched e'
  | .builtinTopics => by
    rw [ignoresEndpoint, ignoresEndpoint, ← Endpoint.topic_route e, hroute, Endpoint.topic_route]
  | .participants ids => by rw [ignoresEndpoint, ignoresEndpoint, hhandle]
  | .watchList => by rw [ignoresEndpoint, ignoresEndpoint, hhandle]
  | .topics selector => by
    rw [ignoresEndpoint, ignoresEndpoint, ← Endpoint.topic_route e, hroute, Endpoint.topic_route]
  | .partitions _ _ => by rw [ignoresEndpoint, ignoresEndpoint]
  | .nothing => by rw [ignoresEndpoint, ignoresEndpoint]
  | .custom _ _ => by rw [ignoresEndpoint, ignoresEndpoint, hroute, hhandle]
  | .chain filters => by
    rw [ignoresEndpoint, ignoresEndpoint]
    exact anyIgnoresEndpoint_congr hroute hhandle filters

theorem anyIgnoresEndpoint_congr (hroute : e.route = e'.route) (hhandle : e.handle = e'.handle) :
    ∀ fs : List Filter, anyIgnoresEndpoint watched e fs = anyIgnoresEndpoint watched e' fs
  | [] => by rw [anyIgnoresEndpoint, anyIgnoresEndpoint]
  | f :: fs => by
    rw [anyIgnoresEndpoint, anyIgnoresEndpoint, ignoresEndpoint_congr hroute hhandle f,
      anyIgnoresEndpoint_congr hroute hhandle fs]

end

end Filter

/-! ## §3. Trimming. -/

namespace Observer

/-- The partitions that the endpoint lists, each once; and only those that are not ignored, if
there are any. -/
def trimmedPartitions (o : Observer) (e : Endpoint) : List String :=
  let kept := e.partitions.eraseDups.filter fun p => !o.ignoresPartition e.topic p
  if kept.isEmpty then e.partitions.eraseDups else kept

/-- The endpoint with its list of partitions trimmed. -/
def trimEndpoint (o : Observer) (e : Endpoint) : Endpoint :=
  { e with partitions := o.trimmedPartitions e }

/-- The step with what the filters ignore left out; nothing if that is all of it. -/
def trim (o : Observer) : Step → Option Step
  | .notice n =>
    if o.ignores n.endpoint then none
    else some (.notice { n with endpoint := o.trimEndpoint n.endpoint })
  | .watch p => some (.watch p)
  | .unwatch p => some (.unwatch p)

theorem ignores_trimEndpoint (o p : Observer) (e : Endpoint) :
    p.ignores (o.trimEndpoint e) = p.ignores e := by
  have hroute : (o.trimEndpoint e).route = e.route := rfl
  have hhandle : (o.trimEndpoint e).handle = e.handle := rfl
  exact Filter.ignoresEndpoint_congr hroute hhandle _

/-- Trimming keeps the partitions that count. -/
theorem admitted_trimEndpoint (o : Observer) (e : Endpoint) :
    o.admitted (o.trimEndpoint e) = o.admitted e := by
  obtain ⟨h, direction, topic, typeName, ps⟩ := e
  show ((trimEndpoint o _).effectivePartitions.filter fun p =>
    !o.ignoresPartition topic p).eraseDups = _
  unfold admitted trimEndpoint trimmedPartitions Endpoint.effectivePartitions
  simp only
  cases ps with
  | nil => rfl
  | cons q qs =>
    have hne : (q :: qs).eraseDups.isEmpty = false := by rw [List.eraseDups_cons]; rfl
    set ps := q :: qs with hps
    have hps : ps.isEmpty = false := by rw [hps]; rfl
    by_cases hkept : (ps.eraseDups.filter fun p => !o.ignoresPartition topic p).isEmpty = true
    · -- no partition counts, and the list stays
      rw [if_pos hkept, hne, hps]
      simp only [Bool.false_eq_true, if_false]
      rw [filter_eraseDups, eraseDups_of_nodup (nodup_eraseDups _)]
    · rw [if_neg hkept, if_neg hkept, hps]
      simp only [Bool.false_eq_true, if_false]
      rw [List.filter_filter]
      simp only [Bool.and_self]
      rw [filter_eraseDups, eraseDups_of_nodup (nodup_eraseDups _)]

/-- A step of which nothing is left does nothing. -/
theorem run_of_trim_eq_none {o p : Observer} {step : Step} (h : SameVerdicts o p)
    (htrim : o.trim step = none) : p.run step = (p, []) := by
  cases step with
  | watch q => cases htrim
  | unwatch q => cases htrim
  | notice n =>
    change (if o.ignores n.endpoint then none else some _) = none at htrim
    by_cases hign : o.ignores n.endpoint = true
    · show p.notice n = (p, [])
      unfold notice
      rw [if_pos ((h.ignores _).trans hign)]
    · rw [if_neg hign] at htrim
      cases htrim

/-- What is left of a step does what the step does. -/
theorem run_of_trim_eq_some {o p : Observer} {step trimmed : Step} (h : SameVerdicts o p)
    (htrim : o.trim step = some trimmed) : p.run trimmed = p.run step := by
  cases step with
  | watch q =>
    cases htrim
    rfl
  | unwatch q =>
    cases htrim
    rfl
  | notice n =>
    change (if o.ignores n.endpoint then none else some _) = some trimmed at htrim
    by_cases hign : o.ignores n.endpoint = true
    · rw [if_pos hign] at htrim
      cases htrim
    · rw [if_neg hign] at htrim
      cases htrim
      show p.notice { n with endpoint := o.trimEndpoint n.endpoint } = p.notice n
      -- the announced route and the partitions that count are the same
      have hadmitted : p.admitted (o.trimEndpoint n.endpoint) = p.admitted n.endpoint := by
        rw [h.admitted_eq, h.admitted_eq, admitted_trimEndpoint]
      unfold notice
      rw [ignores_trimEndpoint, hadmitted]
      rfl

/-- **The observer cannot tell the trimmed run from the run itself.** -/
theorem runAll_trim {o : Observer} (steps : List Step) {p : Observer}
    (h : ∀ k, SameVerdicts o (runAll (steps.take k) p).1) :
    runAll (steps.filterMap o.trim) p = runAll steps p := by
  induction steps generalizing p with
  | nil => rfl
  | cons step steps ih =>
    have hnow : SameVerdicts o p := h 0
    have hrest := ih fun k => h (k + 1)
    cases htrim : o.trim step with
    | none =>
      have hstep := run_of_trim_eq_none hnow htrim
      rw [List.filterMap_cons_none htrim]
      show runAll (steps.filterMap o.trim) p
        = ((runAll steps (p.run step).1).1, (p.run step).2 ++ (runAll steps (p.run step).1).2)
      rw [hstep] at hrest ⊢
      exact hrest
    | some trimmed =>
      have hstep := run_of_trim_eq_some hnow htrim
      rw [List.filterMap_cons_some htrim]
      show ((runAll (steps.filterMap o.trim) (p.run trimmed).1).1,
          (p.run trimmed).2 ++ (runAll (steps.filterMap o.trim) (p.run trimmed).1).2)
        = ((runAll steps (p.run step).1).1, (p.run step).2 ++ (runAll steps (p.run step).1).2)
      rw [hstep, hrest]

end Observer

/-! ## §4. Sessions that may be mentioned. -/

/-- The roster mentions no other sessions. -/
structure Roster.Within (may : Session → Prop) (r : Roster) : Prop where
  seats : ∀ seat ∈ r.seats, may seat.session
  index : ∀ x ∈ r.index, may x.session

theorem Roster.within_empty (may : Session → Prop) : Roster.empty.Within may where
  seats _ hseat := absurd hseat (OrderedSet.not_mem_empty _)
  index _ hx := absurd hx (OrderedSet.not_mem_empty _)

namespace Announcement

open Roster

variable {may : Session → Prop} {r : Roster}

/-- **An announcement of sessions that may be mentioned mentions no other ones**, neither on the
roster nor in its report. -/
theorem within_apply {a : Announcement} (ha : ∀ s ∈ a.partitions.map a.endpoint.session, may s)
    (hr : r.Within may) :
    (a.apply r).1.Within may ∧ ∀ c ∈ (a.apply r).2, may c.resource.session := by
  obtain ⟨occurrence, e, ps⟩ := a
  cases occurrence with
  | discovered =>
    refine ⟨⟨fun seat hseat => ?_, fun x hx => ?_⟩, fun c hc => ha _ (mem_changes_join hc).2⟩
    · rcases Observer.mem_seats_discover.1 hseat with ⟨_, _, hs⟩ | hold
      · exact ha _ hs
      · exact hr.seats seat hold
    · rcases Observer.mem_index_discover.1 hx with ⟨_, hs⟩ | hold
      · exact ha _ hs
      · exact hr.index x hold
  | modified =>
    refine ⟨⟨fun seat hseat => ?_, fun x hx => ?_⟩, fun c hc => ?_⟩
    · rcases Observer.mem_seats_modify.1 hseat with ⟨_, _, hs, _⟩ | ⟨_, hold⟩
      · exact ha _ hs
      · exact hr.seats seat hold
    · rcases Observer.mem_index_modify.1 hx with ⟨_, hs⟩ | ⟨_, hold⟩
      · exact ha _ hs
      · exact hr.index x hold
    · rcases List.mem_append.1 hc with hc | hc
      · -- what is left was on the index
        have hleft := (List.mem_filter.1 (mem_changes_leave hc).2).1
        exact hr.index _ (Roster.mem_sessionsOf.1 hleft)
      · exact ha _ (List.mem_filter.1 (mem_changes_join hc).2).1
  | lost =>
    exact ⟨⟨fun seat hseat => hr.seats seat (Observer.mem_seats_lose.1 hseat).2,
        fun x hx => hr.index x (Observer.mem_index_lose.1 hx).2⟩,
      fun c hc => ha _ (mem_changes_leave hc).2⟩

theorem within_applyAll {as : List Announcement}
    (has : ∀ a ∈ as, ∀ s ∈ a.partitions.map a.endpoint.session, may s) (hr : r.Within may) :
    (applyAll as r).1.Within may ∧ ∀ c ∈ (applyAll as r).2, may c.resource.session := by
  induction as generalizing r with
  | nil => exact ⟨hr, by simp [applyAll]⟩
  | cons a as ih =>
    obtain ⟨hfirst, hchanges⟩ := within_apply (has a List.mem_cons_self) hr
    obtain ⟨hrest, hmore⟩ := ih (fun b hb => has b (List.mem_cons_of_mem _ hb)) hfirst
    refine ⟨hrest, fun c hc => ?_⟩
    rcases List.mem_append.1 hc with hc | hc
    · exact hchanges c hc
    · exact hmore c hc

end Announcement

/-! ## §5. Whole runs. -/

namespace Observer

/-- No filter ignores the session's partition. -/
def Counts (o : Observer) (s : Session) : Prop := o.ignoresPartition s.topic s.partition = false

/-- A run mentions only sessions whose partitions count. -/
theorem within_runAll {o : Observer} {steps : List Step} (hnew : o.roster = .empty)
    (hkeep : KeepsVerdicts steps o) :
    (runAll steps o).1.roster.Within o.Counts
      ∧ ∀ c ∈ (runAll steps o).2, o.Counts c.resource.session := by
  rw [roster_runAll, changes_runAll, announcements_eq_filterMap hkeep, hnew]
  refine Announcement.within_applyAll (fun a ha s hs => ?_) (Roster.within_empty _)
  obtain ⟨n, _, hn⟩ := List.mem_filterMap.1 ha
  rw [heard_eq_ite] at hn
  split at hn
  · cases hn
  · cases hn
    obtain ⟨p, hp, rfl⟩ := List.mem_map.1 hs
    exact (mem_admitted.1 hp).2

/-- What becomes of an endpoint all of whose partitions are ignored. -/
theorem notice_of_all_ignored {o : Observer} {n : Notification}
    (hall : ∀ p ∈ n.endpoint.effectivePartitions, o.ignoresPartition n.endpoint.topic p = true) :
    (n.occurrence ≠ .modified → o.notice n = (o, []))
      ∧ (n.occurrence = .modified → o.ignores n.endpoint = false →
        (o.notice n).1.roster.sessionsOf n.endpoint.handle = []
          ∧ ∀ c ∈ (o.notice n).2, c.action = .delete) := by
  obtain ⟨occurrence, e⟩ := n
  have hnone : o.admitted e = [] := by
    refine List.eq_nil_iff_forall_not_mem.2 fun p hp => ?_
    obtain ⟨hlisted, hcounts⟩ := mem_admitted.1 hp
    rw [hall p hlisted] at hcounts
    cases hcounts
  unfold notice
  simp only [hnone]
  constructor
  · intro hocc
    split
    · rfl
    · cases occurrence with
      | discovered => rfl
      | modified => exact absurd rfl hocc
      | lost => rfl
  · rintro rfl hign
    rw [if_neg (by rw [hign]; exact Bool.false_ne_true)]
    constructor
    · refine List.eq_nil_iff_forall_not_mem.2 fun s hs => ?_
      rcases mem_index_modify.1 (Roster.mem_sessionsOf.1 hs) with ⟨_, hin⟩ | ⟨hother, _⟩
      · cases hin
      · exact hother rfl
    · intro c hc
      rcases List.mem_append.1 hc with hc | hc
      · exact (Roster.mem_changes_leave hc).1
      · cases hc

/-- A publisher that announces a pattern among its partitions and then nothing but the pattern,
and an endpoint of the middleware. -/
def patternRun : List Notification :=
  let publisher : Endpoint := ⟨.replicate 16 1, .outgoing, "Square", "Shape", ["A", "*", "A"]⟩
  [⟨.discovered, publisher⟩,
    ⟨.discovered, ⟨.replicate 16 2, .outgoing, "DCPSTopic", "Topic", ["A"]⟩⟩,
    ⟨.lost, { publisher with partitions := ["*", "B"] }⟩]

end Observer

end RoutingSessions
