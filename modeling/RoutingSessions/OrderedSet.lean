/-
  RoutingSessions.OrderedSet — finite sets kept as strictly ascending lists.

  The order is part of the type, so two sets with the same members are equal, and
  a listing needs no sorting.

  Main statements:
    * `mem_insert`, `mem_erase`, `mem_ofList` — what each operation does to the members.
    * `ext` — a set is determined by its members.
-/

namespace RoutingSessions

/-- A finite set, listed in strictly ascending order. -/
structure OrderedSet (α : Type) [Ord α] where
  /-- The members, in ascending order. -/
  toList : List α
  ascending : toList.Pairwise (fun a b => compare a b = .lt)

namespace OrderedSet

variable {α : Type} [Ord α]

instance : Membership α (OrderedSet α) := ⟨fun s a => a ∈ s.toList⟩

theorem mem_def {s : OrderedSet α} {a : α} : a ∈ s ↔ a ∈ s.toList := Iff.rfl

instance [DecidableEq α] (a : α) (s : OrderedSet α) : Decidable (a ∈ s) :=
  inferInstanceAs (Decidable (a ∈ s.toList))

/-- The set without members. -/
def empty : OrderedSet α := ⟨[], .nil⟩

instance : Inhabited (OrderedSet α) := ⟨empty⟩

/-! ## Insertion -/

/-- Puts `a` at its place in an ascending list that lacks it. -/
def insertInto (a : α) : List α → List α
  | [] => [a]
  | b :: bs =>
    match compare a b with
    | .lt => a :: b :: bs
    | .eq => b :: bs
    | .gt => b :: insertInto a bs

theorem mem_insertInto [Std.LawfulEqOrd α] {a b : α} {l : List α} :
    b ∈ insertInto a l ↔ b = a ∨ b ∈ l := by
  induction l with
  | nil => simp [insertInto]
  | cons c cs ih =>
    unfold insertInto
    split
    · simp
    · rename_i h
      have := Std.LawfulEqOrd.eq_of_compare h
      subst this
      simp
    · simp only [List.mem_cons, ih]
      constructor
      · rintro (h | h | h) <;> simp [h]
      · rintro (h | h | h) <;> simp [h]

theorem pairwise_insertInto [Std.TransOrd α] [Std.LawfulEqOrd α] {a : α} {l : List α}
    (h : l.Pairwise (fun a b => compare a b = .lt)) :
    (insertInto a l).Pairwise (fun a b => compare a b = .lt) := by
  induction l with
  | nil => simp [insertInto]
  | cons c cs ih =>
    have hc := List.pairwise_cons.1 h
    unfold insertInto
    split
    · rename_i hlt
      refine List.pairwise_cons.2 ⟨fun d hd => ?_, h⟩
      rcases List.mem_cons.1 hd with rfl | hd
      · exact hlt
      · exact Std.TransCmp.lt_trans hlt (hc.1 d hd)
    · exact h
    · rename_i hgt
      refine List.pairwise_cons.2 ⟨fun d hd => ?_, ih hc.2⟩
      rcases mem_insertInto.1 hd with rfl | hd
      · exact Std.OrientedCmp.gt_iff_lt.1 hgt
      · exact hc.1 d hd

/-- The set with `a` in it. -/
def insert [Std.TransOrd α] [Std.LawfulEqOrd α] (a : α) (s : OrderedSet α) : OrderedSet α :=
  ⟨insertInto a s.toList, pairwise_insertInto s.ascending⟩

/-- The set of the listed values. -/
def ofList [Std.TransOrd α] [Std.LawfulEqOrd α] (l : List α) : OrderedSet α :=
  l.foldl (fun s a => s.insert a) empty

/-! ## Selection and removal -/

/-- The members that satisfy `p`. -/
def filter (p : α → Bool) (s : OrderedSet α) : OrderedSet α :=
  ⟨s.toList.filter p, s.ascending.filter p⟩

/-- The set without `a`. -/
def erase [DecidableEq α] (a : α) (s : OrderedSet α) : OrderedSet α :=
  s.filter (fun b => decide (b ≠ a))

/-! ## Members of each -/

@[simp] theorem not_mem_empty (a : α) : ¬ a ∈ (empty : OrderedSet α) := by
  simp [mem_def, empty]

@[simp] theorem mem_insert [Std.TransOrd α] [Std.LawfulEqOrd α] {a b : α} {s : OrderedSet α} :
    b ∈ s.insert a ↔ b = a ∨ b ∈ s := mem_insertInto

@[simp] theorem mem_filter {p : α → Bool} {a : α} {s : OrderedSet α} :
    a ∈ s.filter p ↔ a ∈ s ∧ p a = true := List.mem_filter

@[simp] theorem mem_erase [DecidableEq α] {a b : α} {s : OrderedSet α} :
    b ∈ s.erase a ↔ b ≠ a ∧ b ∈ s := by
  simp [erase, and_comm]

theorem mem_foldl_insert [Std.TransOrd α] [Std.LawfulEqOrd α] {a : α} {l : List α}
    {s : OrderedSet α} : a ∈ l.foldl (fun s b => s.insert b) s ↔ a ∈ l ∨ a ∈ s := by
  induction l generalizing s with
  | nil => simp
  | cons b bs ih =>
    rw [List.foldl_cons, ih, mem_insert, List.mem_cons, or_assoc, or_left_comm]

@[simp] theorem mem_ofList [Std.TransOrd α] [Std.LawfulEqOrd α] {a : α} {l : List α} :
    a ∈ (ofList l : OrderedSet α) ↔ a ∈ l := by
  rw [ofList, mem_foldl_insert]
  simp

theorem nodup_toList [Std.ReflOrd α] (s : OrderedSet α) : s.toList.Nodup := by
  refine s.ascending.imp fun {a b} hlt heq => ?_
  subst heq
  rw [Std.ReflOrd.compare_self] at hlt
  cases hlt

/-- Two ascending lists with the same members are the same list. -/
theorem eq_of_ascending [Std.TransOrd α] {l m : List α}
    (hl : l.Pairwise (fun a b => compare a b = .lt))
    (hm : m.Pairwise (fun a b => compare a b = .lt)) (h : ∀ a, a ∈ l ↔ a ∈ m) : l = m := by
  induction l generalizing m with
  | nil =>
    cases m with
    | nil => rfl
    | cons b bs => exact absurd ((h b).2 (by simp)) (by simp)
  | cons a as ih =>
    cases m with
    | nil => exact absurd ((h a).1 (by simp)) (by simp)
    | cons b bs =>
      have ha := List.pairwise_cons.1 hl
      have hb := List.pairwise_cons.1 hm
      have irrefl : ∀ c : α, compare c c ≠ .lt := fun c hc => by
        have : compare c c = .eq := Std.ReflCmp.compare_self
        rw [this] at hc
        cases hc
      have hab : a = b := by
        rcases List.mem_cons.1 ((h a).1 (by simp)) with h1 | h1
        · exact h1
        · rcases List.mem_cons.1 ((h b).2 (by simp)) with h2 | h2
          · exact h2.symm
          · exact absurd (Std.TransCmp.lt_trans (ha.1 b h2) (hb.1 a h1)) (irrefl a)
      subst hab
      refine congrArg (a :: ·) (ih ha.2 hb.2 fun c => ?_)
      constructor
      · intro hc
        rcases List.mem_cons.1 ((h c).1 (by simp [hc])) with rfl | h1
        · exact absurd (ha.1 c hc) (irrefl c)
        · exact h1
      · intro hc
        rcases List.mem_cons.1 ((h c).2 (by simp [hc])) with rfl | h1
        · exact absurd (hb.1 c hc) (irrefl c)
        · exact h1

theorem ext [Std.TransOrd α] {s t : OrderedSet α} (h : ∀ a, a ∈ s ↔ a ∈ t) : s = t := by
  obtain ⟨l, hl⟩ := s
  obtain ⟨m, hm⟩ := t
  have : l = m := eq_of_ascending hl hm h
  subst this
  rfl

/-! ## Operations that change nothing -/

theorem insert_of_mem [Std.TransOrd α] [Std.LawfulEqOrd α] {a : α} {s : OrderedSet α}
    (h : a ∈ s) : s.insert a = s :=
  ext fun b => by
    rw [mem_insert, or_iff_right_of_imp]
    rintro rfl
    exact h

theorem erase_of_not_mem [Std.TransOrd α] [DecidableEq α] {a : α} {s : OrderedSet α}
    (h : a ∉ s) : s.erase a = s :=
  ext fun b => by
    rw [mem_erase, and_iff_right_of_imp]
    rintro hb rfl
    exact h hb

end OrderedSet

end RoutingSessions
