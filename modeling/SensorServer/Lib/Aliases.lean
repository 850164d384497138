import SensorServer.Lib.Table

/-! Renaming one name after the other. As long as no new name is an old one, the order of the
renamings does not matter: together they look each name up in the table of them all. -/

namespace Aliases
variable {α β : Type} [DecidableEq α]

def replace (pair : α × α) (x : α) : α := if x = pair.1 then pair.2 else x

def replaceAll (pairs : List (α × α)) (x : α) : α := pairs.foldl (fun y pair => replace pair y) x

def Apart (pairs : List (α × α)) : Prop := ∀ p ∈ pairs, ∀ q ∈ pairs, p.2 ≠ q.1

instance (pairs : List (α × α)) : Decidable (Apart pairs) :=
  inferInstanceAs (Decidable (∀ p ∈ pairs, ∀ q ∈ pairs, p.2 ≠ q.1))

variable {pairs others : List (α × α)} {x : α}

theorem replaceAll_append (pairs others : List (α × α)) (x : α) :
    replaceAll (pairs ++ others) x = replaceAll others (replaceAll pairs x) := by
  simp [replaceAll, List.foldl_append]

theorem replaceAll_of_fresh (fresh : ∀ p ∈ pairs, x ≠ p.1) : replaceAll pairs x = x := by
  induction pairs with
  | nil => rfl
  | cons pair pairs ih =>
    have same : replace pair x = x := by simp [replace, fresh pair List.mem_cons_self]
    change replaceAll pairs (replace pair x) = x
    rw [same]
    exact ih (fun p listed => fresh p (List.mem_cons_of_mem pair listed))

theorem replaceAll_eq_lookup (apart : Apart pairs) : replaceAll pairs x = (pairs.lookup x).getD x := by
  induction pairs with
  | nil => rfl
  | cons pair pairs ih =>
    obtain ⟨old, new⟩ := pair
    change replaceAll pairs (replace (old, new) x) = _
    by_cases renamed : x = old
    · subst renamed
      have fresh : ∀ p ∈ pairs, new ≠ p.1 := fun p listed =>
        apart (x, new) List.mem_cons_self p (List.mem_cons_of_mem _ listed)
      simp [replace, replaceAll_of_fresh fresh]
    · have rest : Apart pairs := fun p listed q listed' =>
        apart p (List.mem_cons_of_mem _ listed) q (List.mem_cons_of_mem _ listed')
      simp [replace, renamed, List.lookup_cons, beq_false_of_ne renamed, ih rest]

theorem replaceAll_reads (f : α → β) (same : ∀ p ∈ pairs, f p.2 = f p.1) : f (replaceAll pairs x) = f x := by
  induction pairs generalizing x with
  | nil => rfl
  | cons pair pairs ih =>
    have step : f (replace pair x) = f x := by
      by_cases renamed : x = pair.1
      · simp [replace, renamed, same pair List.mem_cons_self]
      · simp [replace, renamed]
    change f (replaceAll pairs (replace pair x)) = f x
    rw [ih (fun p listed => same p (List.mem_cons_of_mem pair listed)), step]

theorem replaceAll_twice (apart : Apart pairs) : replaceAll pairs (replaceAll pairs x) = replaceAll pairs x := by
  rw [replaceAll_eq_lookup (x := x) apart]
  cases found : pairs.lookup x with
  | none => rw [Option.getD_none, replaceAll_eq_lookup apart, found, Option.getD_none]
  | some name =>
    rw [Option.getD_some]
    exact replaceAll_of_fresh (fun p listed => apart _ (mem_of_lookup found) p listed)

theorem lookup_congr (distinct : (others.map Prod.fst).Nodup) (same : ∀ p, p ∈ pairs ↔ p ∈ others) :
    pairs.lookup x = others.lookup x := by
  cases found : pairs.lookup x with
  | some name => exact (lookup_of_mem distinct ((same _).mp (mem_of_lookup found))).symm
  | none =>
    cases other : others.lookup x with
    | none => rfl
    | some name =>
      have listed := (same _).mpr (mem_of_lookup other)
      exact absurd (List.lookup_eq_none_iff.mp found _ listed) (by simp)

end Aliases
