import Walkthrough.Text.Letter

/-!
# Sets of ids

A set of ids is the strictly ascending list of its members, in the order of their letters. So two
sets with the same members are equal, and the order in which a set is shown is that of the list.

* `IdSet` — the sets, with `∈`.
* `IdSet.insert`, `IdSet.union`, `IdSet.diff`, `IdSet.ofList` — with what is in them.
* `IdSet.ext` — a set is what is in it.
-/

namespace Walkthrough

open Walkthrough.Text (Letters)

structure IdSet where
  /-- The members, ascending. -/
  toList : List Letters
  ascending : toList.Pairwise (· < ·)

namespace IdSet

instance : DecidableEq IdSet := fun a b =>
  if h : a.toList = b.toList then isTrue (by cases a; cases b; simp_all)
  else isFalse fun he => h (he ▸ rfl)

instance : Membership Letters IdSet := ⟨fun s id => id ∈ s.toList⟩

theorem mem_def {id : Letters} {s : IdSet} : id ∈ s ↔ id ∈ s.toList := Iff.rfl

instance (id : Letters) (s : IdSet) : Decidable (id ∈ s) :=
  inferInstanceAs (Decidable (id ∈ s.toList))

def empty : IdSet := ⟨[], .nil⟩

instance : EmptyCollection IdSet := ⟨empty⟩
instance : Inhabited IdSet := ⟨empty⟩

@[simp] theorem not_mem_empty (id : Letters) : id ∉ (∅ : IdSet) := List.not_mem_nil

/-- An ascending list with one more member. -/
def place (id : Letters) : List Letters → List Letters
  | [] => [id]
  | a :: rest =>
    if id < a then id :: a :: rest
    else if id = a then a :: rest
    else a :: place id rest

theorem mem_place {id x : Letters} {ids : List Letters} : x ∈ place id ids ↔ x = id ∨ x ∈ ids := by
  fun_induction place id ids <;> grind

theorem pairwise_place {id : Letters} {ids : List Letters} (h : ids.Pairwise (· < ·)) :
    (place id ids).Pairwise (· < ·) := by
  fun_induction place id ids with
  | case1 => simp
  | case2 a rest hlt =>
    refine List.pairwise_cons.2 ⟨fun x hx => ?_, h⟩
    rcases List.mem_cons.1 hx with rfl | hx
    · exact hlt
    · exact List.lt_trans hlt (List.rel_of_pairwise_cons h hx)
  | case3 => exact h
  | case4 a rest hlt hne ih =>
    refine List.pairwise_cons.2 ⟨fun x hx => ?_, ih (List.pairwise_cons.1 h).2⟩
    rcases mem_place.1 hx with rfl | hx
    · exact Std.lt_of_le_of_ne (List.not_lt.1 hlt) (Ne.symm hne)
    · exact List.rel_of_pairwise_cons h hx

def insert (id : Letters) (s : IdSet) : IdSet := ⟨place id s.toList, pairwise_place s.ascending⟩

@[simp] theorem mem_insert {id x : Letters} {s : IdSet} : x ∈ s.insert id ↔ x = id ∨ x ∈ s :=
  mem_place

def insertAll (ids : List Letters) (s : IdSet) : IdSet := ids.foldl (fun s id => s.insert id) s

@[simp] theorem mem_insertAll {ids : List Letters} {x : Letters} {s : IdSet} :
    x ∈ s.insertAll ids ↔ x ∈ ids ∨ x ∈ s := by
  unfold insertAll
  induction ids generalizing s with
  | nil => simp
  | cons id rest ih => simp [ih, or_assoc, or_left_comm]

theorem insertAll_append (ids more : List Letters) (s : IdSet) :
    s.insertAll (ids ++ more) = (s.insertAll ids).insertAll more :=
  List.foldl_append

theorem forall_mem_insert {P : Letters → Prop} {id : Letters} {s : IdSet} :
    (∀ x ∈ s.insert id, P x) ↔ P id ∧ ∀ x ∈ s, P x := by
  simp [or_imp, forall_and]

theorem forall_mem_insertAll {P : Letters → Prop} {ids : List Letters} {s : IdSet} :
    (∀ x ∈ s.insertAll ids, P x) ↔ (∀ x ∈ ids, P x) ∧ ∀ x ∈ s, P x := by
  simp [or_imp, forall_and]

def ofList (ids : List Letters) : IdSet := (∅ : IdSet).insertAll ids

@[simp] theorem mem_ofList {ids : List Letters} {x : Letters} : x ∈ ofList ids ↔ x ∈ ids := by
  simp [ofList]

def union (s t : IdSet) : IdSet := s.insertAll t.toList

@[simp] theorem mem_union {s t : IdSet} {x : Letters} : x ∈ s.union t ↔ x ∈ s ∨ x ∈ t := by
  rw [union, mem_insertAll, ← mem_def, or_comm]

/-- What is in the first set only. -/
def diff (s t : IdSet) : IdSet :=
  ⟨s.toList.filter fun id => decide (id ∉ t), s.ascending.filter _⟩

@[simp] theorem mem_diff {s t : IdSet} {x : Letters} : x ∈ s.diff t ↔ x ∈ s ∧ x ∉ t := by
  simp [diff, mem_def]

/-- Two ascending lists with the same members are equal. -/
theorem eq_of_mem_iff {as bs : List Letters} (ha : as.Pairwise (· < ·)) (hb : bs.Pairwise (· < ·))
    (h : ∀ x, x ∈ as ↔ x ∈ bs) : as = bs := by
  induction as generalizing bs with
  | nil =>
    cases bs with
    | nil => rfl
    | cons b bs => simpa using h b
  | cons a as ih =>
    cases bs with
    | nil => simpa using h a
    | cons b bs =>
      have hab : a = b := by
        rcases List.mem_cons.1 ((h a).1 (by simp)) with rfl | ha'
        · rfl
        rcases List.mem_cons.1 ((h b).2 (by simp)) with rfl | hb'
        · rfl
        exact absurd (List.lt_trans (List.rel_of_pairwise_cons ha hb')
          (List.rel_of_pairwise_cons hb ha')) (List.lt_irrefl a)
      subst hab
      congr 1
      refine ih (List.pairwise_cons.1 ha).2 (List.pairwise_cons.1 hb).2 fun x => ?_
      have hx := h x
      simp only [List.mem_cons] at hx
      constructor
      · intro hm
        rcases hx.1 (.inr hm) with rfl | hm'
        · exact absurd (List.rel_of_pairwise_cons ha hm) (List.lt_irrefl _)
        · exact hm'
      · intro hm
        rcases hx.2 (.inr hm) with rfl | hm'
        · exact absurd (List.rel_of_pairwise_cons hb hm) (List.lt_irrefl _)
        · exact hm'

/-- A set is what is in it. -/
theorem ext {s t : IdSet} (h : ∀ x, x ∈ s ↔ x ∈ t) : s = t := by
  have := eq_of_mem_iff s.ascending t.ascending h
  cases s
  cases t
  simp_all

theorem insert_of_mem {id : Letters} {s : IdSet} (h : id ∈ s) : s.insert id = s :=
  ext fun _ => mem_insert.trans (or_iff_right_of_imp fun heq => heq ▸ h)

end IdSet

end Walkthrough
