/-!
# Stable sorting by a numeric key

`sortOn key l` puts the members of `l` in ascending order of their keys; members with equal keys
keep the order they had.

* `insertOn`: puts one member in front of the first one whose key is not smaller.
* `sortOn_perm`: sorting neither adds nor drops a member.
* `sortOn_filter_key`, `sortOn_filter`: the members of one key come out in the order they went in.
* `sortOn_pairwise`, `sortOn_eq_self`: what comes out is in order, and stays as it is if sorted
  again.
* `mem_or_le_of_sortOn_eq_append`: what stands in front of a member.
* `exists_of_sortOn_eq_append`: where the first member with a property was before sorting.
-/

namespace DocQuery

variable {α : Type}

/-- Puts `a` in front of the first member whose key is not smaller than its own. -/
def insertOn (key : α → Nat) (a : α) : List α → List α
  | [] => [a]
  | b :: l => if key a ≤ key b then a :: b :: l else b :: insertOn key a l

/-- The members of a list in ascending order of their keys, equal keys in the given order. -/
def sortOn (key : α → Nat) : List α → List α
  | [] => []
  | a :: l => insertOn key a (sortOn key l)

theorem insertOn_perm (key : α → Nat) (a : α) (l : List α) :
    (insertOn key a l).Perm (a :: l) := by
  induction l with
  | nil => exact .refl _
  | cons b l ih =>
    rw [insertOn]
    split
    · exact .refl _
    · exact (ih.cons b).trans (.swap a b l)

theorem sortOn_perm (key : α → Nat) (l : List α) : (sortOn key l).Perm l := by
  induction l with
  | nil => exact .nil
  | cons a l ih => exact (insertOn_perm key a _).trans (ih.cons a)

theorem insertOn_filter_key (key : α → Nat) (a : α) (k : Nat) (l : List α) :
    (insertOn key a l).filter (key · == k) = (a :: l).filter (key · == k) := by
  induction l with
  | nil => rfl
  | cons b l ih =>
    rw [insertOn]
    split
    · rfl
    · rename_i hle
      rw [List.filter_cons, ih]
      grind

/-- **Sorting is stable.** The members of one key come out in the order they went in. -/
theorem sortOn_filter_key (key : α → Nat) (k : Nat) (l : List α) :
    (sortOn key l).filter (key · == k) = l.filter (key · == k) := by
  induction l with
  | nil => rfl
  | cons a l ih =>
    rw [sortOn, insertOn_filter_key, List.filter_cons, List.filter_cons, ih]

theorem sortOn_filter {key : α → Nat} {k : Nat} {p : α → Bool} (hp : ∀ a, p a = true → key a = k)
    (l : List α) : (sortOn key l).filter p = l.filter p := by
  have hread : ∀ m : List α, m.filter p = (m.filter (key · == k)).filter p := by
    intro m
    rw [List.filter_filter]
    refine List.filter_congr fun a _ => ?_
    by_cases ha : p a = true
    · simp [ha, hp a ha]
    · simp [ha]
  rw [hread, sortOn_filter_key, ← hread]

theorem insertOn_pairwise (key : α → Nat) (a : α) {l : List α}
    (h : l.Pairwise fun b c => key b ≤ key c) :
    (insertOn key a l).Pairwise fun b c => key b ≤ key c := by
  induction l with
  | nil => exact List.pairwise_singleton _ a
  | cons b l ih =>
    obtain ⟨hb, hl⟩ := List.pairwise_cons.mp h
    rw [insertOn]
    split
    · rename_i hle
      refine List.pairwise_cons.mpr ⟨fun c hc => ?_, h⟩
      rcases List.mem_cons.mp hc with rfl | hc
      · exact hle
      · exact Nat.le_trans hle (hb c hc)
    · rename_i hlt
      refine List.pairwise_cons.mpr ⟨fun c hc => ?_, ih hl⟩
      rcases List.mem_cons.mp ((insertOn_perm key a l).mem_iff.mp hc) with rfl | hc
      · omega
      · exact hb c hc

theorem sortOn_pairwise (key : α → Nat) (l : List α) :
    (sortOn key l).Pairwise fun b c => key b ≤ key c := by
  induction l with
  | nil => exact List.Pairwise.nil
  | cons a l ih => exact insertOn_pairwise key a ih

theorem sortOn_eq_self {key : α → Nat} {l : List α} (h : l.Pairwise fun b c => key b ≤ key c) :
    sortOn key l = l := by
  induction l with
  | nil => rfl
  | cons a l ih =>
    obtain ⟨ha, hl⟩ := List.pairwise_cons.mp h
    rw [sortOn, ih hl]
    cases l with
    | nil => rfl
    | cons b l => rw [insertOn, if_pos (ha b List.mem_cons_self)]

/-- A member stands in front of another one or has no smaller key. -/
theorem mem_or_le_of_sortOn_eq_append {key : α → Nat} {l front back : List α} {a b : α}
    (h : sortOn key l = front ++ a :: back) (hb : b ∈ l) : b ∈ front ∨ key a ≤ key b := by
  have hsorted := List.pairwise_append.mp (h ▸ sortOn_pairwise key l)
  rw [← (sortOn_perm key l).mem_iff, h, List.mem_append, List.mem_cons] at hb
  rcases hb with hb | rfl | hb
  · exact .inl hb
  · exact .inr (Nat.le_refl _)
  · exact .inr ((List.pairwise_cons.mp hsorted.2.1).1 b hb)

/-- **The first member with a property.** The one that comes out first has the smallest key of them,
and of those with that key it went in first. -/
theorem exists_of_sortOn_eq_append {key : α → Nat} {l front back : List α} {a : α} {p : α → Prop}
    (h : sortOn key l = front ++ a :: back) (hfront : ∀ b ∈ front, ¬ p b) :
    ∃ before after, l = before ++ a :: after ∧ (∀ b ∈ before, p b → key a < key b) ∧
      ∀ b ∈ after, p b → key a ≤ key b := by
  have hkey : l.filter (key · == key a) =
      front.filter (key · == key a) ++ a :: back.filter (key · == key a) := by
    rw [← sortOn_filter_key, h, List.filter_append, List.filter_cons_of_pos (by simp)]
  have hle : ∀ b ∈ l, p b → key a ≤ key b := fun b hb hpb =>
    (mem_or_le_of_sortOn_eq_append h hb).resolve_left fun hmem => hfront b hmem hpb
  -- of the members with the key of `a`, those in front of it are the same before sorting
  obtain ⟨before₁, rest, rfl, hbefore₁, hrest⟩ := List.filter_eq_append_iff.mp hkey
  obtain ⟨before₂, after, rfl, hbefore₂, -, -⟩ := List.filter_eq_cons_iff.mp hrest
  refine ⟨before₁ ++ before₂, after, (List.append_assoc ..).symm, fun b hb hpb => ?_,
    fun b hb hpb => hle b (by simp [hb]) hpb⟩
  refine Nat.lt_of_le_of_ne (hle b ?_ hpb) fun heq => ?_
  · rcases List.mem_append.mp hb with hb | hb <;> simp [hb]
  · rcases List.mem_append.mp hb with hb | hb
    · have hmem : b ∈ before₁.filter (key · == key a) :=
        List.mem_filter.mpr ⟨hb, by simp [heq]⟩
      rw [hbefore₁] at hmem
      exact hfront b (List.mem_filter.mp hmem).1 hpb
    · exact hbefore₂ b hb (by simp [heq])

end DocQuery
