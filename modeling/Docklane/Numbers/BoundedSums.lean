import Mathlib.Algebra.GroupWithZero.Nat
import Mathlib.Algebra.Order.BigOperators.Group.List
import Mathlib.Algebra.Order.Monoid.Unbundled.MinMax
import Mathlib.Logic.Function.Basic
import Mathlib.Tactic.Common

/-!
# Sums under a bound

A sum that is cut off at a bound after every summand is the whole sum cut off once
(`foldl_min_add`). A total can be shared out among items of limited capacity exactly if the
capacities add up to it: `exists_shares` is the harder half, `List.sum_le_sum` of Mathlib the other.
-/

namespace BoundedSums

/-- Cutting off at `bound` along the way and at the end come to the same. -/
theorem foldl_min_add {α : Type} [AddCommMonoid α] [LinearOrder α] [IsOrderedAddMonoid α]
    {bound : α} {xs : List α} (hxs : ∀ x ∈ xs, 0 ≤ x) (start : α) :
    xs.foldl (fun sum x => min bound (sum + x)) (min bound start) = min bound (start + xs.sum) := by
  induction xs generalizing start with
  | nil => simp
  | cons x xs ih =>
    have hx : bound ≤ bound + x := le_add_of_nonneg_right (hxs x (by simp))
    have hstep : min bound (min bound start + x) = min bound (start + x) := by
      rw [← min_add_add_right, ← min_assoc, min_eq_left hx]
    rw [List.foldl_cons, hstep, ih (fun y hy => hxs y (by simp [hy])), List.sum_cons, add_assoc]

/-- A total within the capacities of the items can be shared out among them. -/
theorem exists_shares {ι κ : Type} [DecidableEq κ] {key : ι → κ} {cap : ι → ℕ} {items : List ι}
    (hkeys : (items.map key).Nodup) {total : ℕ} (htotal : total ≤ (items.map cap).sum) :
    ∃ share : κ → ℕ, (∀ x ∈ items, share (key x) ≤ cap x) ∧
      (items.map fun x => share (key x)).sum = total := by
  induction items generalizing total with
  | nil => exact ⟨fun _ => 0, by simp, by simp at htotal ⊢; omega⟩
  | cons x xs ih =>
    -- the first item takes all it can
    rw [List.map_cons, List.sum_cons] at htotal
    rw [List.map_cons, List.nodup_cons] at hkeys
    have hleft : total - min (cap x) total ≤ (xs.map cap).sum := by omega
    obtain ⟨share, hshare, hsum⟩ := ih hkeys.2 hleft
    have hrest : ∀ y ∈ xs, Function.update share (key x) (min (cap x) total) (key y) =
        share (key y) := by
      intro y hy
      refine Function.update_of_ne ?_ _ _
      intro heq
      exact hkeys.1 (heq ▸ List.mem_map_of_mem hy)
    refine ⟨Function.update share (key x) (min (cap x) total), ?_, ?_⟩
    · intro y hy
      rcases List.mem_cons.mp hy with rfl | hy
      · simp
      · rw [hrest y hy]
        exact hshare y hy
    · rw [List.map_cons, List.sum_cons, List.map_congr_left hrest, hsum, Function.update_self]
      omega

end BoundedSums
