import Mathlib.Algebra.BigOperators.Fin
import Mathlib.Data.List.Nodup

/-!
# Lists with positions

Where the members of a list stand, and lists whose members carry their positions.

* `idxOf?_eq_some_iff_of_nodup`: where a member of a list without repetition is found.
* `nodup_take_iff`: nothing is repeated up to a position if no member before it came before.
* `pairwise_zipIdx`: positions go up.
* `sum_map_zipIdx`: a sum over the members of an array with their positions.
-/

namespace DeviceAtlas

/-- Where nothing is repeated, each member is found in its place. -/
theorem idxOf?_eq_some_iff_of_nodup {α : Type*} [DecidableEq α] {l : List α} (nodup : l.Nodup)
    {a : α} {i : ℕ} : l.idxOf? a = some i ↔ l[i]? = some a := by
  rw [List.idxOf?_eq_some_iff, List.getElem?_eq_some_iff]
  refine exists_congr fun within => and_iff_left_of_imp fun here j before same => ?_
  have places := (nodup.getElem_inj_iff).1 (same.trans here.symm)
  omega

/-- Up to a position nothing is repeated if no member before it came before. -/
theorem nodup_take_iff {α : Type*} {l : List α} {k : ℕ} :
    (l.take k).Nodup ↔ ∀ j < k, ∀ a, l[j]? = some a → a ∉ l.take j := by
  induction k with
  | zero => simp
  | succ k ih =>
    have last : (∀ j < k + 1, ∀ a, l[j]? = some a → a ∉ l.take j) ↔
        (∀ j < k, ∀ a, l[j]? = some a → a ∉ l.take j) ∧ ∀ a, l[k]? = some a → a ∉ l.take k := by
      constructor
      · intro all
        exact ⟨fun j below => all j (Nat.lt_succ_of_lt below), all k (Nat.lt_succ_self k)⟩
      · rintro ⟨before, here⟩ j below
        rcases Nat.lt_succ_iff_lt_or_eq.1 below with below | rfl
        · exact before j below
        · exact here
    rw [last, ← ih, List.take_add_one]
    cases l[k]? with
    | none => simp
    | some a =>
      rw [Option.toList_some, List.nodup_append_comm, List.singleton_append, List.nodup_cons,
        and_comm]
      simp

/-- Positions go up. -/
theorem pairwise_zipIdx {α : Type*} (l : List α) (first : ℕ) :
    (l.zipIdx first).Pairwise fun x y => x.2 < y.2 := by
  have numbers : ((l.zipIdx first).map Prod.snd).Pairwise (· < ·) := by
    rw [List.zipIdx_map_snd]
    exact List.pairwise_lt_range'
  exact List.pairwise_map.1 numbers

theorem sum_map_zipIdx {α : Type*} (xs : Array α) (f : α × ℕ → ℕ) :
    (xs.toList.zipIdx.map f).sum = ∑ i : Fin xs.size, f (xs[i], i) := by
  have listed : xs.toList.zipIdx = List.ofFn fun i : Fin xs.size => (xs[i], (i : ℕ)) := by
    apply List.ext_getElem <;> simp
  rw [listed, List.map_ofFn, List.sum_ofFn]
  rfl

end DeviceAtlas
