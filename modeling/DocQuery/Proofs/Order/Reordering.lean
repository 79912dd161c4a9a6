import Mathlib.Data.List.FinRange
import Mathlib.Data.List.Sort

/-!
# Reorderings

A reordering of a list moves its items to other places, but those that conflict stay in order.

* `Reordering`, `Reordering.perm`.
* `Reordering.filter_eq`: items that all conflict with each other are left as they are.
* **`Reordering.filterMap_eq`**: so is everything that is read from such items alone.
* `Reordering.swap_front`: neighbours that do not conflict may change places.
-/

namespace DocQuery

/-- Two lists have the same items, and of two items that conflict the same one comes first. -/
def Reordering {α : Type} (conflict : α → α → Prop) (l l' : List α) : Prop :=
  ∃ place : Fin l.length ≃ Fin l'.length, (∀ i, l'.get (place i) = l.get i) ∧
    ∀ i j, i < j → conflict (l.get i) (l.get j) → place i < place j

namespace Reordering

variable {α β : Type} {conflict : α → α → Prop} {l l' : List α}

theorem perm (h : Reordering conflict l l') : l'.Perm l := by
  obtain ⟨place, hplace, -⟩ := h
  have hall : (List.finRange l'.length).Perm ((List.finRange l.length).map place) := by
    refine (List.perm_ext_iff_of_nodup (List.nodup_finRange _)
      ((List.nodup_finRange _).map place.injective)).mpr fun j => ?_
    obtain ⟨i, rfl⟩ := place.surjective j
    simp
  have hitems : ((List.finRange l.length).map place).map l'.get = l := by
    rw [List.map_map]
    refine Eq.trans ?_ (List.map_get_finRange l)
    exact List.map_congr_left fun i _ => hplace i
  have hmap := hall.map l'.get
  rwa [List.map_get_finRange, hitems] at hmap

theorem mem_iff (h : Reordering conflict l l') {a : α} : a ∈ l' ↔ a ∈ l := h.perm.mem_iff

/-- The places of some items of a list, in order. -/
def places (p : α → Bool) (l : List α) : List (Fin l.length) :=
  (List.finRange l.length).filter fun i => p (l.get i)

theorem map_get_places (p : α → Bool) (l : List α) : (places p l).map l.get = l.filter p := by
  rw [places, ← Function.comp_def p, ← List.filter_map, List.map_get_finRange]

theorem pairwise_places (p : α → Bool) (l : List α) : (places p l).Pairwise (· < ·) :=
  (List.sortedLT_finRange _).pairwise.filter _

theorem mem_places {p : α → Bool} {l : List α} {i : Fin l.length} :
    i ∈ places p l ↔ p (l.get i) = true := by
  rw [places, List.mem_filter]
  exact and_iff_right (List.mem_finRange i)

theorem nodup_places (p : α → Bool) (l : List α) : (places p l).Nodup :=
  (pairwise_places p l).imp fun hlt => ne_of_lt hlt

/-- **Items that all conflict with each other stay as they are.** -/
theorem filter_eq (h : Reordering conflict l l') {p : α → Bool}
    (hp : ∀ a b, p a = true → p b = true → conflict a b) : l'.filter p = l.filter p := by
  obtain ⟨place, hplace, horder⟩ := h
  -- the places move to places in order, and these are all places of such items
  have hsorted : ((places p l).map place).Pairwise (· < ·) := by
    refine List.pairwise_map.mpr ((pairwise_places p l).imp_of_mem ?_)
    intro i j hi hj hlt
    exact horder i j hlt (hp _ _ (mem_places.mp hi) (mem_places.mp hj))
  have hperm : ((places p l).map place).Perm (places p l') := by
    refine (List.perm_ext_iff_of_nodup ((nodup_places p l).map place.injective)
      (nodup_places p l')).mpr fun j => ?_
    obtain ⟨i, rfl⟩ := place.surjective j
    rw [List.mem_map_of_injective place.injective, mem_places, mem_places, hplace]
  have hplaces : (places p l).map place = places p l' :=
    hperm.eq_of_pairwise' hsorted (pairwise_places p l')
  rw [← map_get_places p l', ← hplaces, List.map_map, ← map_get_places p l]
  exact List.map_congr_left fun i _ => hplace i

/-- **What is read from items that all conflict stays as it is.** -/
theorem filterMap_eq (h : Reordering conflict l l') {f : α → Option β}
    (hf : ∀ a b, (f a).isSome → (f b).isSome → conflict a b) : l'.filterMap f = l.filterMap f := by
  have hread : ∀ m : List α, m.filterMap f = (m.filter fun a => (f a).isSome).filterMap f := by
    intro m
    rw [List.filterMap_filter]
    congr 1
    funext a
    cases f a <;> rfl
  rw [hread l', hread l, h.filter_eq hf]

/-- Two items in front that do not conflict may be swapped. -/
theorem swap_front {a b : α} (h : ¬ conflict a b) (l : List α) :
    Reordering conflict (a :: b :: l) (b :: a :: l) := by
  let place : Fin (l.length + 2) ≃ Fin (l.length + 2) := Equiv.swap 0 1
  have hplace : ∀ i, (place i).val = if i.val = 0 then 1 else if i.val = 1 then 0 else i.val := by
    rintro ⟨_ | _ | i, hi⟩
    · exact congrArg Fin.val (Equiv.swap_apply_left (0 : Fin (l.length + 2)) 1)
    · exact congrArg Fin.val (Equiv.swap_apply_right (0 : Fin (l.length + 2)) 1)
    · exact congrArg Fin.val
        (Equiv.swap_apply_of_ne_of_ne (by simp [Fin.ext_iff]) (by simp [Fin.ext_iff]))
  refine ⟨place, ?_, fun i j hlt hconflict => ?_⟩
  · rintro ⟨_ | _ | i, hi⟩
    · exact congrArg (b :: a :: l).get (Equiv.swap_apply_left 0 1)
    · exact congrArg (b :: a :: l).get (Equiv.swap_apply_right 0 1)
    · exact congrArg (b :: a :: l).get (Fin.ext (hplace ⟨i + 2, hi⟩))
  · have hfree : ¬ (i.val = 0 ∧ j.val = 1) := by
      rintro ⟨hi, hj⟩
      obtain rfl : i = (0 : Fin (l.length + 2)) := Fin.ext hi
      obtain rfl : j = (1 : Fin (l.length + 2)) := Fin.ext hj
      exact h hconflict
    change i.val < j.val at hlt
    change (place i).val < (place j).val
    rw [hplace, hplace]
    split_ifs <;> omega

end Reordering

end DocQuery
