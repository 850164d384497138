import Mathlib.Data.List.Dedup

/-! Materialised aggregates: one row for each group of a raw table, which stays as it
was computed until it is recomputed. A row names its group and counts its members. -/

structure Aggregate (ρ γ τ : Type) where
  group : ρ → γ
  row : γ → List ρ → τ
  key : τ → γ
  count : τ → Nat
  keyed : ∀ g rs, key (row g rs) = g
  counted : ∀ g rs, count (row g rs) = rs.length

namespace Aggregate
variable {ρ γ τ : Type} [DecidableEq γ] (a : Aggregate ρ γ τ)

def members (raw : List ρ) (g : γ) : List ρ := raw.filter (fun r => a.group r = g)

def view (raw : List ρ) : List τ := (raw.map a.group).dedup.map (fun g => a.row g (a.members raw g))

def Exact (raw : List ρ) (rows : List τ) : Prop := ∀ t, t ∈ rows ↔ t ∈ a.view raw

def recompute (chosen : γ → Bool) (raw : List ρ) (rows : List τ) : List τ :=
  rows.filter (fun t => !chosen (a.key t)) ++ (a.view raw).filter (fun t => chosen (a.key t))

variable {a} {raw raw' : List ρ} {rows : List τ}

theorem mem_members {g : γ} {r : ρ} : r ∈ a.members raw g ↔ r ∈ raw ∧ a.group r = g := by
  simp [members]

theorem mem_view {t : τ} :
    t ∈ a.view raw ↔ (∃ r ∈ raw, a.group r = a.key t) ∧ t = a.row (a.key t) (a.members raw (a.key t)) := by
  unfold view
  rw [List.mem_map]
  constructor
  · rintro ⟨g, inside, rfl⟩
    rw [a.keyed]
    obtain ⟨r, present, same⟩ := List.mem_map.mp (List.mem_dedup.mp inside)
    exact ⟨⟨r, present, same⟩, rfl⟩
  · rintro ⟨⟨r, present, same⟩, equal⟩
    refine ⟨a.key t, List.mem_dedup.mpr (List.mem_map.mpr ⟨r, present, same⟩), equal.symm⟩

theorem row_mem_view {r : ρ} (present : r ∈ raw) :
    a.row (a.group r) (a.members raw (a.group r)) ∈ a.view raw := by
  rw [mem_view, a.keyed]
  exact ⟨⟨r, present, rfl⟩, rfl⟩

theorem mem_view_iff {t : τ} : t ∈ a.view raw ↔ ∃ r ∈ raw, a.row (a.group r) (a.members raw (a.group r)) = t := by
  constructor
  · intro listed
    obtain ⟨⟨r, present, same⟩, computed⟩ := mem_view.mp listed
    exact ⟨r, present, by rw [same, ← computed]⟩
  · rintro ⟨r, present, rfl⟩
    exact row_mem_view present

theorem exact_view : a.Exact raw (a.view raw) := fun _ => Iff.rfl

theorem exists_iff_members {g : γ} : (∃ r ∈ raw, a.group r = g) ↔ a.members raw g ≠ [] := by
  simp [members, List.filter_eq_nil_iff]

theorem mem_view_congr {t : τ} (same : a.members raw' (a.key t) = a.members raw (a.key t)) :
    t ∈ a.view raw' ↔ t ∈ a.view raw := by
  rw [mem_view, mem_view, exists_iff_members, exists_iff_members, same]

theorem not_exact_of_fewer {t : τ} (computed : t ∈ a.view raw) (kept : t ∈ rows)
    (fewer : (a.members raw' (a.key t)).length < (a.members raw (a.key t)).length) :
    ¬ a.Exact raw' rows := by
  intro exact
  have before : a.count t = (a.members raw (a.key t)).length := by
    conv_lhs => rw [(mem_view.mp computed).2]
    exact a.counted _ _
  have now : a.count t = (a.members raw' (a.key t)).length := by
    conv_lhs => rw [(mem_view.mp ((exact t).mp kept)).2]
    exact a.counted _ _
  omega

theorem members_filter (keep : ρ → Bool) (g : γ) :
    a.members (raw.filter keep) g = (a.members raw g).filter keep := by
  unfold members
  rw [List.filter_filter, List.filter_filter]
  exact List.filter_congr (fun r _ => Bool.and_comm _ _)

theorem members_filter_fewer {keep : ρ → Bool} {r : ρ} (present : r ∈ raw) (dropped : keep r = false) :
    (a.members (raw.filter keep) (a.group r)).length < (a.members raw (a.group r)).length := by
  rw [members_filter, List.length_filter_lt_length_iff_exists]
  exact ⟨r, mem_members.mpr ⟨present, rfl⟩, by simp [dropped]⟩

theorem members_filter_other {keep : ρ → Bool} {g : γ}
    (kept : ∀ r ∈ raw, a.group r = g → keep r = true) :
    a.members (raw.filter keep) g = a.members raw g := by
  rw [members_filter, List.filter_eq_self]
  intro r member
  obtain ⟨present, same⟩ := mem_members.mp member
  exact kept r present same

/-- Once rows are dropped from the raw table, recomputing the chosen groups restores
exactness if and only if every dropped row is in a chosen group. -/
theorem exact_recompute_iff (exact : a.Exact raw rows) (chosen : γ → Bool) (keep : ρ → Bool) :
    a.Exact (raw.filter keep) (a.recompute chosen (raw.filter keep) rows) ↔
      ∀ r ∈ raw, keep r = false → chosen (a.group r) = true := by
  constructor
  · intro restored r present dropped
    by_contra other
    have computed := row_mem_view (a := a) present
    have kept : a.row (a.group r) (a.members raw (a.group r)) ∈
        a.recompute chosen (raw.filter keep) rows := by
      refine List.mem_append_left _ (List.mem_filter.mpr ⟨(exact _).mpr computed, ?_⟩)
      simpa [a.keyed] using other
    refine not_exact_of_fewer computed kept ?_ restored
    rw [a.keyed]
    exact members_filter_fewer present dropped
  · intro covered t
    unfold recompute
    rw [List.mem_append, List.mem_filter, List.mem_filter]
    cases choice : chosen (a.key t) with
    | true => simp
    | false =>
      have untouched : a.members (raw.filter keep) (a.key t) = a.members raw (a.key t) := by
        refine members_filter_other (fun r present same => ?_)
        by_contra dropped
        have inside := covered r present (by simpa using dropped)
        rw [same, choice] at inside
        cases inside
      simp [exact t, mem_view_congr untouched]

theorem exact_filter_iff (exact : a.Exact raw rows) (keep : ρ → Bool) :
    a.Exact (raw.filter keep) rows ↔ ∀ r ∈ raw, keep r = true := by
  constructor
  · intro still r present
    by_contra dropped
    have computed := row_mem_view (a := a) present
    refine not_exact_of_fewer computed ((exact _).mpr computed) ?_ still
    rw [a.keyed]
    exact members_filter_fewer present (by simpa using dropped)
  · intro all
    rw [List.filter_eq_self.mpr all]
    exact exact

theorem not_exact_of_gone (exact : a.Exact raw rows) {r : ρ} (present : r ∈ raw)
    (gone : ∀ q ∈ raw', a.group q ≠ a.group r) : ¬ a.Exact raw' rows := by
  have computed := row_mem_view (a := a) present
  have none_ : a.members raw' (a.group r) = [] := by
    simpa [members, List.filter_eq_nil_iff] using gone
  have some_ : r ∈ a.members raw (a.group r) := mem_members.mpr ⟨present, rfl⟩
  refine not_exact_of_fewer computed ((exact _).mpr computed) ?_
  rw [a.keyed, none_]
  exact List.length_pos_of_mem some_

section Regroup
variable {f : ρ → ρ} {φ : γ → γ} {h : τ → τ}

theorem members_map (moves : ∀ r, a.group (f r) = φ (a.group r)) (g : γ) :
    a.members (raw.map f) g = (raw.filter (fun r => φ (a.group r) = g)).map f := by
  simp [members, List.filter_map, Function.comp_def, moves]

theorem members_within (g : γ) :
    a.members raw g = (raw.filter (fun r => φ (a.group r) = φ g)).filter (fun r => a.group r = g) := by
  rw [List.filter_filter]
  refine List.filter_congr (fun r _ => ?_)
  by_cases same : a.group r = g <;> simp [same]

/-- The aggregate stays exact if and only if no two groups get one name. -/
theorem exact_map_iff (exact : a.Exact raw rows) (moves : ∀ r, a.group (f r) = φ (a.group r))
    (relabels : ∀ g rs, h (a.row g rs) = a.row (φ g) (rs.map f)) :
    a.Exact (raw.map f) (rows.map h) ↔
      ∀ r ∈ raw, ∀ q ∈ raw, φ (a.group r) = φ (a.group q) → a.group r = a.group q := by
  have computed : ∀ r, h (a.row (a.group r) (a.members raw (a.group r))) =
      a.row (φ (a.group r)) ((a.members raw (a.group r)).map f) := fun r => relabels _ _
  constructor
  · intro still r present q present' merged
    by_contra apart
    have kept : a.row (φ (a.group r)) ((a.members raw (a.group r)).map f) ∈ rows.map h := by
      rw [← computed]
      exact List.mem_map_of_mem ((exact _).mpr (row_mem_view present))
    have listed := (mem_view.mp ((still _).mp kept)).2
    rw [a.keyed, members_map moves] at listed
    have counts := congrArg a.count listed
    rw [a.counted, a.counted, List.length_map, List.length_map, members_within (φ := φ)] at counts
    -- the row counts the members of one group, the raw table now holds those of both
    have fewer : ((raw.filter (fun s => φ (a.group s) = φ (a.group r))).filter
        (fun s => a.group s = a.group r)).length < (raw.filter (fun s => φ (a.group s) = φ (a.group r))).length := by
      rw [List.length_filter_lt_length_iff_exists]
      exact ⟨q, by simp [present', merged], by simpa using fun same => apart same.symm⟩
    omega
  · intro apart t
    have same : ∀ r ∈ raw, a.members (raw.map f) (φ (a.group r)) = (a.members raw (a.group r)).map f := by
      intro r present
      rw [members_map moves, members]
      congr 1
      refine List.filter_congr (fun q present' => ?_)
      by_cases merged : φ (a.group q) = φ (a.group r)
      · simp [apart q present' r present merged]
      · have other : a.group q ≠ a.group r := fun one => merged (by rw [one])
        simp [merged, other]
    rw [mem_view_iff, List.mem_map]
    constructor
    · rintro ⟨s, listed, rfl⟩
      obtain ⟨r, present, rfl⟩ := mem_view_iff.mp ((exact s).mp listed)
      refine ⟨f r, List.mem_map_of_mem present, ?_⟩
      rw [moves, same r present, computed]
    · rintro ⟨_, listed, rfl⟩
      obtain ⟨r, present, rfl⟩ := List.mem_map.mp listed
      refine ⟨_, (exact _).mpr (row_mem_view present), ?_⟩
      rw [moves, same r present, computed]

end Regroup

end Aggregate
