/-
  RoutingSessions.Proofs.Catalog — changes replayed under strict rules.

  A catalog holds the resources that exist.  Replaying a change asks that it be in
  order: a session is created only while it is absent, a route only while its
  session is there and it is not, a route is deleted only while it is there, and a
  session only once it holds no route.  A log that breaks a rule has no replay.

  Main statements:
    * `replay_append` — a log may be cut anywhere.
    * `mem_of_replay` — what exists in the end is what was created last.
    * `alternates_of_replay` — creations and deletions of one resource take turns.
    * `nodup_creates`, `nodup_deletes` — a log of one kind of change touches each
      resource once.
    * `filter_eq_of_replay` — a log that touches each resource at most once is the
      difference of the catalogs around it.
-/
import Mathlib.Data.Finset.Basic
import RoutingSessions.Session

namespace RoutingSessions

/-- The resources that exist. -/
abbrev Catalog := Finset Resource

namespace Catalog

/-! ## §1. The rules. -/

/-- The change is in order. -/
def Admits (live : Catalog) (c : Change) : Prop :=
  match c.action, c.resource.route with
  | .create, none => c.resource ∉ live
  | .create, some _ => .ofSession c.resource.session ∈ live ∧ c.resource ∉ live
  | .delete, some _ => c.resource ∈ live
  | .delete, none =>
    c.resource ∈ live ∧ ∀ k ∈ live, k.session = c.resource.session → k.route = none

-- one case a rule: the conditions are decidable once it is known which rule applies
instance (live : Catalog) : (c : Change) → Decidable (live.Admits c)
  | ⟨.create, ⟨s, none⟩⟩ => inferInstanceAs (Decidable ((⟨s, none⟩ : Resource) ∉ live))
  | ⟨.create, ⟨s, some r⟩⟩ =>
    inferInstanceAs (Decidable (.ofSession s ∈ live ∧ (⟨s, some r⟩ : Resource) ∉ live))
  | ⟨.delete, ⟨s, some r⟩⟩ => inferInstanceAs (Decidable ((⟨s, some r⟩ : Resource) ∈ live))
  | ⟨.delete, ⟨s, none⟩⟩ =>
    inferInstanceAs (Decidable ((⟨s, none⟩ : Resource) ∈ live
      ∧ ∀ k ∈ live, k.session = s → k.route = none))

/-- The catalog after a change. -/
def apply (c : Change) (live : Catalog) : Catalog :=
  match c.action with
  | .create => insert c.resource live
  | .delete => live.erase c.resource

/-- The catalog after a log, if every change in it is in order. -/
def replay : List Change → Catalog → Option Catalog
  | [], live => some live
  | c :: cs, live => if live.Admits c then replay cs (apply c live) else none

section Rules

variable {live : Catalog} {s : Session} {r : Route}

@[simp] theorem admits_createSession :
    live.Admits (.createSession s) ↔ .ofSession s ∉ live := Iff.rfl

@[simp] theorem admits_createRoute :
    live.Admits (.createRoute s r) ↔ .ofSession s ∈ live ∧ .ofRoute s r ∉ live := Iff.rfl

@[simp] theorem admits_deleteRoute :
    live.Admits (.deleteRoute s r) ↔ .ofRoute s r ∈ live := Iff.rfl

@[simp] theorem admits_deleteSession :
    live.Admits (.deleteSession s)
      ↔ .ofSession s ∈ live ∧ ∀ k ∈ live, k.session = s → k.route = none := Iff.rfl

@[simp] theorem apply_createSession :
    apply (.createSession s) live = insert (.ofSession s) live := rfl

@[simp] theorem apply_createRoute :
    apply (.createRoute s r) live = insert (.ofRoute s r) live := rfl

@[simp] theorem apply_deleteRoute :
    apply (.deleteRoute s r) live = live.erase (.ofRoute s r) := rfl

@[simp] theorem apply_deleteSession :
    apply (.deleteSession s) live = live.erase (.ofSession s) := rfl

end Rules

/-! ## §2. Cutting a log. -/

@[simp] theorem replay_nil (live : Catalog) : replay [] live = some live := rfl

theorem replay_cons (c : Change) (cs : List Change) (live : Catalog) :
    replay (c :: cs) live = if live.Admits c then replay cs (apply c live) else none := rfl

theorem replay_cons_eq_some {c : Change} {cs : List Change} {live final : Catalog} :
    replay (c :: cs) live = some final
      ↔ live.Admits c ∧ replay cs (apply c live) = some final := by
  rw [replay_cons]
  by_cases h : live.Admits c <;> simp [h]

theorem replay_append (cs ds : List Change) (live : Catalog) :
    replay (cs ++ ds) live = (replay cs live).bind (replay ds) := by
  induction cs generalizing live with
  | nil => rfl
  | cons c cs ih =>
    rw [List.cons_append, replay_cons, replay_cons]
    by_cases h : live.Admits c
    · rw [if_pos h, if_pos h]
      exact ih _
    · rw [if_neg h, if_neg h]
      rfl

theorem replay_append_of_eq_some {cs ds : List Change} {live mid : Catalog}
    (h : replay cs live = some mid) : replay (cs ++ ds) live = replay ds mid := by
  rw [replay_append, h]
  rfl

theorem replay_append_eq_some {cs ds : List Change} {live final : Catalog} :
    replay (cs ++ ds) live = some final
      ↔ ∃ mid, replay cs live = some mid ∧ replay ds mid = some final := by
  rw [replay_append, Option.bind_eq_some_iff]

/-! ## §3. One resource. -/

theorem mem_apply {c : Change} {live : Catalog} {k : Resource} :
    k ∈ apply c live ↔ if k = c.resource then c.action = .create else k ∈ live := by
  unfold apply
  by_cases hk : k = c.resource <;> cases c.action <;> simp [hk]

/-- A change in order creates what is absent, or deletes what is there. -/
theorem Admits.mem_iff {c : Change} {live : Catalog} (h : live.Admits c) :
    c.resource ∈ live ↔ c.action = .delete := by
  unfold Admits at h
  -- every rule says whether the resource is there; two of them say something on its session too
  split at h
  next ha _ => simp [ha, h]
  next ha _ => simp [ha, h.2]
  next ha _ => simp [ha, h]
  next ha _ => simp [ha, h.1]

/-- **The last word on a resource**: it exists in the end if the last change of it was its
creation, or if it existed all along. -/
theorem mem_of_replay {cs : List Change} {live final : Catalog}
    (h : replay cs live = some final) (k : Resource) :
    k ∈ final ↔ match (cs.filter (·.resource = k)).getLast? with
      | some c => c.action = .create
      | none => k ∈ live := by
  induction cs generalizing live with
  | nil =>
    injection h with h
    subst h
    simp
  | cons c cs ih =>
    obtain ⟨_, hrest⟩ := replay_cons_eq_some.1 h
    rw [ih hrest]
    -- a later change of `k` overrides this one; without one, this one counts if it is of `k`
    by_cases hk : c.resource = k
    · rw [List.filter_cons_of_pos (by simpa using hk), List.getLast?_cons]
      cases (cs.filter (·.resource = k)).getLast? with
      | none => simp [mem_apply, hk]
      | some d => simp
    · rw [List.filter_cons_of_neg (by simpa using hk)]
      cases (cs.filter (·.resource = k)).getLast? with
      | none => simp [mem_apply, Ne.symm hk]
      | some d => simp

end Catalog

/-- The action that undoes an action. -/
def Action.opposite : Action → Action
  | .create => .delete
  | .delete => .create

/-- The actions take turns, and the first is `a`. -/
def Alternates (a : Action) : List Action → Prop
  | [] => True
  | b :: bs => b = a ∧ Alternates a.opposite bs

namespace Catalog

/-- **Creations and deletions of a resource take turns**, beginning with the one that its
presence calls for. -/
theorem alternates_of_replay {cs : List Change} {live final : Catalog}
    (h : replay cs live = some final) (k : Resource) :
    Alternates (if k ∈ live then .delete else .create)
      ((cs.filter (·.resource = k)).map (·.action)) := by
  induction cs generalizing live with
  | nil => simp [Alternates]
  | cons c cs ih =>
    obtain ⟨hc, hrest⟩ := replay_cons_eq_some.1 h
    have hnext := ih hrest
    -- a change of `k` turns its presence around, and no other change touches it
    by_cases hk : c.resource = k
    · subst hk
      rw [List.filter_cons_of_pos (by simp), List.map_cons]
      cases ha : c.action with
      | create =>
        have habsent : c.resource ∉ live := by rw [hc.mem_iff, ha]; decide
        have hthere : c.resource ∈ apply c live := by simp [mem_apply, ha]
        rw [if_pos hthere] at hnext
        rw [if_neg habsent]
        exact ⟨rfl, hnext⟩
      | delete =>
        have hthere : c.resource ∈ live := by rw [hc.mem_iff, ha]
        have habsent : c.resource ∉ apply c live := by simp [mem_apply, ha]
        rw [if_neg habsent] at hnext
        rw [if_pos hthere]
        exact ⟨rfl, hnext⟩
    · have hsame : k ∈ apply c live ↔ k ∈ live := by simp [mem_apply, Ne.symm hk]
      rw [List.filter_cons_of_neg (by simpa using hk)]
      simpa only [hsame] using hnext

/-! ## §4. Logs of one kind of change. -/

/-- Creations add to the catalog, and each adds something new. -/
theorem resource_of_mem_creates {cs : List Change} {live final : Catalog}
    (hcs : ∀ c ∈ cs, c.action = .create) (h : replay cs live = some final) :
    live ⊆ final ∧ ∀ c ∈ cs, c.resource ∉ live ∧ c.resource ∈ final := by
  induction cs generalizing live with
  | nil =>
    injection h with h
    subst h
    simp
  | cons c cs ih =>
    obtain ⟨hc, hrest⟩ := replay_cons_eq_some.1 h
    have hcreate : c.action = .create := hcs c (by simp)
    obtain ⟨hsub, hmem⟩ := ih (fun d hd => hcs d (by simp [hd])) hrest
    have hgrow : ∀ k, k ∈ live → k ∈ apply c live := by
      intro k hk
      rw [mem_apply]
      by_cases hkc : k = c.resource <;> simp [hkc, hcreate, hk]
    refine ⟨fun k hk => hsub (hgrow k hk), fun d hd => ?_⟩
    rcases List.mem_cons.1 hd with rfl | hd
    · -- nothing that follows takes away what this change adds
      have habsent : d.resource ∉ live := by rw [hc.mem_iff, hcreate]; decide
      exact ⟨habsent, hsub (mem_apply.2 (by simp [hcreate]))⟩
    · exact ⟨fun hk => (hmem d hd).1 (hgrow _ hk), (hmem d hd).2⟩

/-- Deletions take from the catalog, and each takes something that was there. -/
theorem resource_of_mem_deletes {cs : List Change} {live final : Catalog}
    (hcs : ∀ c ∈ cs, c.action = .delete) (h : replay cs live = some final) :
    final ⊆ live ∧ ∀ c ∈ cs, c.resource ∈ live ∧ c.resource ∉ final := by
  induction cs generalizing live with
  | nil =>
    injection h with h
    subst h
    simp
  | cons c cs ih =>
    obtain ⟨hc, hrest⟩ := replay_cons_eq_some.1 h
    have hdelete : c.action = .delete := hcs c (by simp)
    obtain ⟨hsub, hmem⟩ := ih (fun d hd => hcs d (by simp [hd])) hrest
    have hshrink : ∀ k, k ∈ apply c live → k ∈ live ∧ k ≠ c.resource := by
      intro k hk
      rw [mem_apply] at hk
      by_cases hkc : k = c.resource
      · simp [hkc, hdelete] at hk
      · exact ⟨by simpa [hkc] using hk, hkc⟩
    refine ⟨fun k hk => (hshrink k (hsub hk)).1, fun d hd => ?_⟩
    rcases List.mem_cons.1 hd with rfl | hd
    · -- nothing that follows puts back what this change takes away
      have hthere : d.resource ∈ live := by rw [hc.mem_iff, hdelete]
      exact ⟨hthere, fun hk => (hshrink _ (hsub hk)).2 rfl⟩
    · exact ⟨(hshrink _ (hmem d hd).1).1, (hmem d hd).2⟩

/-- Creations one after the other are of different resources. -/
theorem nodup_creates {cs : List Change} {live final : Catalog}
    (hcs : ∀ c ∈ cs, c.action = .create) (h : replay cs live = some final) :
    (cs.map (·.resource)).Nodup := by
  induction cs generalizing live with
  | nil => exact List.nodup_nil
  | cons c cs ih =>
    obtain ⟨_, hrest⟩ := replay_cons_eq_some.1 h
    have hlater : ∀ d ∈ cs, d.action = .create := fun d hd => hcs d (List.mem_cons_of_mem _ hd)
    refine List.nodup_cons.2 ⟨fun hin => ?_, ih hlater hrest⟩
    -- what is created later is not there yet, and this resource is
    obtain ⟨d, hd, hdk⟩ := List.mem_map.1 hin
    have habsent := ((resource_of_mem_creates hlater hrest).2 d hd).1
    exact habsent (mem_apply.2 (by simp [hdk, hcs c List.mem_cons_self]))

/-- Deletions one after the other are of different resources. -/
theorem nodup_deletes {cs : List Change} {live final : Catalog}
    (hcs : ∀ c ∈ cs, c.action = .delete) (h : replay cs live = some final) :
    (cs.map (·.resource)).Nodup := by
  induction cs generalizing live with
  | nil => exact List.nodup_nil
  | cons c cs ih =>
    obtain ⟨_, hrest⟩ := replay_cons_eq_some.1 h
    have hlater : ∀ d ∈ cs, d.action = .delete := fun d hd => hcs d (List.mem_cons_of_mem _ hd)
    refine List.nodup_cons.2 ⟨fun hin => ?_, ih hlater hrest⟩
    -- what is deleted later is still there, and this resource is not
    obtain ⟨d, hd, hdk⟩ := List.mem_map.1 hin
    have hthere := ((resource_of_mem_deletes hlater hrest).2 d hd).1
    rw [hdk, mem_apply] at hthere
    simp [hcs c List.mem_cons_self] at hthere

/-- A resource that is absent before and after some deletions followed by some creations is in
none of them. -/
theorem resource_ne_of_replay {ds cs : List Change} {live final : Catalog}
    (hds : ∀ c ∈ ds, c.action = .delete) (hcs : ∀ c ∈ cs, c.action = .create)
    (h : replay (ds ++ cs) live = some final) {k : Resource}
    (hbefore : k ∉ live) (hafter : k ∉ final) :
    ∀ c ∈ ds ++ cs, c.resource ≠ k := by
  obtain ⟨mid, hd, hc⟩ := replay_append_eq_some.1 h
  rintro c hmem rfl
  rcases List.mem_append.1 hmem with hmem | hmem
  · exact hbefore ((resource_of_mem_deletes hds hd).2 c hmem).1
  · exact hafter ((resource_of_mem_creates hcs hc).2 c hmem).2

end Catalog

/-! ## §5. Differences. -/

/-- The changes due to a resource that is there before or not, and after or not: one if that
differs, and none otherwise. -/
def Change.between (before after : Bool) (k : Resource) : List Change :=
  match before, after with
  | false, true => [⟨.create, k⟩]
  | true, false => [⟨.delete, k⟩]
  | _, _ => []

namespace Catalog

/-- **A log that touches no resource twice is a difference**: of every resource it holds the one
change that leads from the catalog before it to the one after it, or none if there is nothing to
change. -/
theorem filter_eq_of_replay {cs : List Change} {live final : Catalog}
    (h : replay cs live = some final) (hnodup : (cs.map (·.resource)).Nodup) (k : Resource) :
    cs.filter (·.resource = k) = Change.between (decide (k ∈ live)) (decide (k ∈ final)) k := by
  have hlast := mem_of_replay h k
  have hfirst := alternates_of_replay h k
  have honce : ((cs.filter (·.resource = k)).map (·.resource)).Nodup :=
    hnodup.sublist (List.filter_sublist.map _)
  have hk : ∀ c ∈ cs.filter (·.resource = k), c.resource = k := fun c hc =>
    of_decide_eq_true (List.mem_filter.1 hc).2
  -- from here on only the changes of `k` count, and there cannot be two of them
  generalize cs.filter (·.resource = k) = own at hlast hfirst honce hk ⊢
  match own with
  | [] =>
    by_cases hin : k ∈ live <;> simp_all [Change.between]
  | [c] =>
    obtain ⟨action, resource⟩ := c
    obtain rfl : resource = k := hk _ List.mem_cons_self
    by_cases hin : resource ∈ live <;> cases action <;> simp_all [Change.between, Alternates]
  | c :: d :: rest =>
    have hsame : c.resource = d.resource :=
      (hk c List.mem_cons_self).trans (hk d (List.mem_cons_of_mem _ List.mem_cons_self)).symm
    simp [hsame] at honce

end Catalog

end RoutingSessions
