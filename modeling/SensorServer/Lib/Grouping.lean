import SensorServer.Lib.Table
import Mathlib.Data.List.Induction

/-! One pass over keyed rows that folds each row into the group of its key; a new key
opens its group at the end. -/
namespace Grouping

variable {κ β γ : Type} [DecidableEq κ] (empty : γ) (step : γ → β → γ)

/-- `groups[key] = step(groups[key], value)`, where a missing group is empty. -/
def add : List (κ × γ) → κ → β → List (κ × γ)
  | [], key, value => [(key, step empty value)]
  | (k, group) :: rest, key, value =>
    if k = key then (k, step group value) :: rest else (k, group) :: add rest key value

def collect (rows : List (κ × β)) : List (κ × γ) :=
  rows.foldl (fun groups row => add empty step groups row.1 row.2) []

def valuesOf (rows : List (κ × β)) (key : κ) : List β := (rows.filter (fun r => r.1 = key)).map Prod.snd

variable {empty : γ} {step : γ → β → γ}

theorem lookup_add (groups : List (κ × γ)) (key k : κ) (value : β) :
    (add empty step groups key value).lookup k =
      if k = key then some (step ((groups.lookup key).getD empty) value) else groups.lookup k := by
  induction groups with
  | nil => by_cases same : k = key <;> simp [add, same, List.lookup_cons, beq_false_of_ne]
  | cons entry rest ih =>
    obtain ⟨first, group⟩ := entry
    unfold add
    by_cases hit : first = key
    · subst hit
      by_cases same : k = first <;> simp [same, List.lookup_cons, beq_false_of_ne]
    · have other : key ≠ first := fun equal => hit equal.symm
      simp only [hit, if_false, List.lookup_cons, ih, beq_false_of_ne other]
      by_cases same : k = key
      · simp [same, beq_false_of_ne other]
      · simp [same]

theorem keys_add (groups : List (κ × γ)) (key : κ) (value : β) :
    (add empty step groups key value).map Prod.fst =
      if key ∈ groups.map Prod.fst then groups.map Prod.fst else groups.map Prod.fst ++ [key] := by
  induction groups with
  | nil => simp [add]
  | cons entry rest ih =>
    obtain ⟨first, group⟩ := entry
    unfold add
    by_cases hit : first = key
    · simp [hit]
    · have other : key ≠ first := fun equal => hit equal.symm
      simp only [hit, if_false, List.map_cons, ih, List.mem_cons, other, false_or]
      split <;> simp

theorem collect_append (rows : List (κ × β)) (row : κ × β) :
    collect empty step (rows ++ [row]) = add empty step (collect empty step rows) row.1 row.2 := by
  simp [collect]

theorem valuesOf_append (rows : List (κ × β)) (row : κ × β) (key : κ) :
    valuesOf (rows ++ [row]) key = valuesOf rows key ++ if row.1 = key then [row.2] else [] := by
  by_cases same : row.1 = key <;> simp [valuesOf, same]

theorem valuesOf_absent {rows : List (κ × β)} {key : κ} (absent : key ∉ rows.map Prod.fst) :
    valuesOf rows key = [] := by
  have none_ : rows.filter (fun r => r.1 = key) = [] := by
    rw [List.filter_eq_nil_iff]
    intro r member same
    exact absent (List.mem_map.mpr ⟨r, member, by simpa using same⟩)
  rw [valuesOf, none_, List.map_nil]

/-- A key has a group exactly if it occurs: the fold of its values in order. -/
theorem lookup_collect (rows : List (κ × β)) (key : κ) :
    (collect empty step rows).lookup key =
      if key ∈ rows.map Prod.fst then some ((valuesOf rows key).foldl step empty) else none := by
  induction rows using List.reverseRecOn with
  | nil => rfl
  | append_singleton rows row ih =>
    rw [collect_append, lookup_add, valuesOf_append, List.map_append]
    by_cases same : key = row.1
    · subst same
      have group : ((collect empty step rows).lookup row.1).getD empty =
          (valuesOf rows row.1).foldl step empty := by
        rw [ih]
        split
        · rfl
        · next absent => rw [valuesOf_absent absent]; rfl
      simp [group]
    · have other : ¬ row.1 = key := fun equal => same equal.symm
      rw [if_neg same, if_neg other, List.append_nil, ih]
      simp only [List.mem_append, List.map_cons, List.map_nil, List.mem_singleton, same, or_false]

theorem keys_collect (rows : List (κ × β)) :
    ((collect empty step rows).map Prod.fst).Nodup ∧
      ∀ key, key ∈ (collect empty step rows).map Prod.fst ↔ key ∈ rows.map Prod.fst := by
  induction rows using List.reverseRecOn with
  | nil => simp [collect]
  | append_singleton rows row ih =>
    obtain ⟨distinct, members⟩ := ih
    rw [collect_append, keys_add]
    split
    · next present =>
      refine ⟨distinct, fun key => ?_⟩
      rw [members, List.map_append, List.mem_append]
      refine ⟨Or.inl, fun either => either.elim id (fun last => ?_)⟩
      rw [List.map_singleton, List.mem_singleton] at last
      exact last ▸ (members row.1).mp present
    · next absent =>
      constructor
      · rw [List.nodup_append]
        refine ⟨distinct, List.nodup_singleton _, fun a old b new => ?_⟩
        rw [List.mem_singleton] at new
        rintro rfl
        exact absent (new ▸ old)
      · intro key
        simp only [List.mem_append, members, List.map_append, List.map_cons, List.map_nil]

theorem ascending_keys [LinearOrder κ] {rows : List (κ × β)} (sorted : rows.Pairwise (fun a b => a.1 ≤ b.1)) :
    ((collect empty step rows).map Prod.fst).Pairwise (· ≤ ·) := by
  induction rows using List.reverseRecOn with
  | nil => simp [collect]
  | append_singleton rows row ih =>
    obtain ⟨before, -, last⟩ := List.pairwise_append.mp sorted
    rw [collect_append, keys_add]
    split
    · exact ih before
    · refine List.pairwise_append.mpr ⟨ih before, List.pairwise_singleton _ _, fun a old b new => ?_⟩
      obtain ⟨r, member, rfl⟩ := List.mem_map.mp (((keys_collect rows).2 a).mp old)
      rw [List.mem_singleton.mp new]
      exact last r member row (List.mem_singleton_self _)

theorem collect_sorted [LinearOrder κ] {rows : List (κ × β)} (sorted : rows.Pairwise (fun a b => a.1 ≤ b.1)) :
    collect empty step rows =
      (OrderBy.distinct (rows.map Prod.fst)).map (fun key => (key, (valuesOf rows key).foldl step empty)) := by
  obtain ⟨distinct, members⟩ := @keys_collect _ _ _ _ empty step rows
  have keys : (collect empty step rows).map Prod.fst = OrderBy.distinct (rows.map Prod.fst) := by
    have perm : ((collect empty step rows).map Prod.fst).Perm (OrderBy.distinct (rows.map Prod.fst)) := by
      rw [List.perm_ext_iff_of_nodup distinct (OrderBy.nodup_distinct _)]
      exact fun key => (members key).trans OrderBy.mem_distinct.symm
    exact perm.eq_of_sortedLE (ascending_keys sorted).sortedLE List.sortedLE_insertionSort
  rw [← keys, List.map_map]
  refine (List.map_id _).symm.trans (List.map_congr_left (fun group member => ?_))
  have present : group.1 ∈ rows.map Prod.fst := (members group.1).mp (List.mem_map_of_mem member)
  have found := @lookup_collect _ _ _ _ empty step rows group.1
  rw [if_pos present, lookup_of_mem distinct member] at found
  exact Prod.ext rfl (Option.some.inj found)

theorem collect_lexicographic {ρ : Type} [LinearOrder κ] {key : ρ → κ} {time : ρ → Int} {value : ρ → β}
    (rows : List ρ) :
    collect empty step ((OrderBy.lexicographic (fun r => toLex (key r, time r)) rows).map
        (fun r => (key r, value r))) =
      (OrderBy.distinct (rows.map key)).map (fun k =>
        (k, ((OrderBy.ascending time (rows.filter (fun r => key r = k))).map value).foldl step empty)) := by
  have sorted : ((OrderBy.lexicographic (fun r => toLex (key r, time r)) rows).map
      (fun r => (key r, value r))).Pairwise (fun a b => a.1 ≤ b.1) := by
    rw [List.pairwise_map]
    refine (OrderBy.pairwise_lexicographic (fun r => toLex (key r, time r)) rows).imp (fun {a b} ordered => ?_)
    exact (Prod.Lex.toLex_le_toLex.mp ordered).elim le_of_lt (fun equal => equal.1.le)
  have keys : OrderBy.distinct (((OrderBy.lexicographic (fun r => toLex (key r, time r)) rows).map
      (fun r => (key r, value r))).map Prod.fst) = OrderBy.distinct (rows.map key) := by
    refine OrderBy.distinct_congr (fun k => ?_)
    simp [OrderBy.mem_lexicographic]
  rw [collect_sorted sorted, keys]
  refine List.map_congr_left (fun k _ => ?_)
  have own : ∀ r ∈ rows.filter (fun r => key r = k), key r = k := by simp
  rw [valuesOf, List.filter_map, List.map_map, ← OrderBy.lexicographic_of_key own, OrderBy.lexicographic_filter]
  rfl

end Grouping
