import Mathlib.Data.List.Chain
import Mathlib.Order.Lattice

/-! A window of time cut into pieces, one from each change of a value to the next. The
bounds are written in any form that denotes an instant. -/
namespace StepFunction

variable {σ τ β ρ : Type}

structure Piece (σ β : Type) where
  start : σ
  stop : σ
  value : β

def pieces (start stop : σ) (current : β) : List (σ × β) → List (Piece σ β)
  | [] => [⟨start, stop, current⟩]
  | (time, value) :: rest => ⟨start, time, current⟩ :: pieces time stop value rest

variable [LinearOrder τ]

def IsLatest (time : ρ → τ) (rows : List ρ) (x : τ) : Option ρ → Prop
  | none => ∀ r ∈ rows, ¬ time r ≤ x
  | some r => r ∈ rows ∧ time r ≤ x ∧ ∀ q ∈ rows, time q ≤ x → time q ≤ time r

def Piece.Holds (instant : σ → τ) (p : Piece σ β) (x : τ) : Prop :=
  instant p.start ≤ x ∧ x < instant p.stop

/-- The pieces go from one bound of the window to the other without a gap or an overlap. -/
structure Covers (instant : σ → τ) (start stop : σ) (ps : List (Piece σ β)) : Prop where
  first : ps.head?.map Piece.start = some start
  last : ps.getLast?.map Piece.stop = some stop
  joined : ps.IsChain (fun p q => p.stop = q.start)
  ordered : ∀ p ∈ ps, instant p.start ≤ instant p.stop

section Pieces
variable {start stop : σ} {current : β} {changes : List (σ × β)}

theorem pieces_ne_nil : pieces start stop current changes ≠ [] := by
  cases changes <;> simp [pieces]

theorem head?_pieces : (pieces start stop current changes).head?.map Piece.start = some start := by
  cases changes <;> rfl

theorem getLast?_pieces : (pieces start stop current changes).getLast?.map Piece.stop = some stop := by
  induction changes generalizing start current with
  | nil => rfl
  | cons change rest ih =>
    rw [pieces, List.getLast?_cons_of_ne_nil pieces_ne_nil]
    exact ih

theorem joined_pieces : (pieces start stop current changes).IsChain (fun p q => p.stop = q.start) := by
  induction changes generalizing start current with
  | nil => exact List.isChain_singleton _
  | cons change rest ih =>
    rw [pieces, List.isChain_cons]
    refine ⟨fun q first => ?_, ih⟩
    have start_ := @head?_pieces _ _ change.1 stop change.2 rest
    rw [Option.mem_def.mp first] at start_
    exact (Option.some.inj start_).symm

variable {instant : σ → τ}

structure Sorted (instant : σ → τ) (start stop : σ) (changes : List (σ × β)) : Prop where
  ascending : changes.Pairwise (fun a b => instant a.1 ≤ instant b.1)
  above : ∀ c ∈ changes, instant start ≤ instant c.1
  below : ∀ c ∈ changes, instant c.1 ≤ instant stop

theorem Sorted.tail {change : σ × β} (sorted : Sorted instant start stop (change :: changes)) :
    Sorted instant change.1 stop changes := by
  obtain ⟨first, rest⟩ := List.pairwise_cons.mp sorted.ascending
  exact ⟨rest, first, fun c member => sorted.below c (List.mem_cons_of_mem _ member)⟩

theorem ordered_pieces (sorted : Sorted instant start stop changes) (ordered : instant start ≤ instant stop) :
    ∀ p ∈ pieces start stop current changes, instant start ≤ instant p.start ∧
      instant p.start ≤ instant p.stop ∧ instant p.stop ≤ instant stop := by
  induction changes generalizing start current with
  | nil =>
    intro p member
    rw [pieces, List.mem_singleton] at member
    subst member
    exact ⟨le_rfl, ordered, le_rfl⟩
  | cons change rest ih =>
    have above := sorted.above change List.mem_cons_self
    have below := sorted.below change List.mem_cons_self
    intro p member
    rw [pieces, List.mem_cons] at member
    rcases member with rfl | later
    · exact ⟨le_rfl, above, below⟩
    · obtain ⟨after_, inside⟩ := ih sorted.tail below p later
      exact ⟨above.trans after_, inside⟩

theorem covers_pieces (sorted : Sorted instant start stop changes) (ordered : instant start ≤ instant stop) :
    Covers instant start stop (pieces start stop current changes) where
  first := head?_pieces
  last := getLast?_pieces
  joined := joined_pieces
  ordered p member := (ordered_pieces sorted ordered p member).2.1

/-- A piece has the value of the newest change up to any of its instants. -/
theorem value_pieces (sorted : Sorted instant start stop changes) (ordered : instant start ≤ instant stop)
    {p : Piece σ β} (member : p ∈ pieces start stop current changes) {x : τ} (holds : p.Holds instant x) :
    ∃ found, IsLatest (fun c => instant c.1) changes x found ∧ p.value = found.elim current Prod.snd := by
  induction changes generalizing start current with
  | nil =>
    rw [pieces, List.mem_singleton] at member
    subst member
    exact ⟨none, fun c none_ => absurd none_ List.not_mem_nil, rfl⟩
  | cons change rest ih =>
    rw [pieces, List.mem_cons] at member
    rcases member with rfl | later
    · -- before the first change
      refine ⟨none, fun c among early => ?_, rfl⟩
      have first : instant change.1 ≤ instant c.1 := by
        rcases List.mem_cons.mp among with rfl | more
        · exact le_rfl
        · exact sorted.tail.above c more
      exact absurd (holds.2.trans_le first) (not_lt.mpr early)
    · have inside := sorted.below change List.mem_cons_self
      have passed : instant change.1 ≤ x :=
        (ordered_pieces sorted.tail inside p later).1.trans holds.1
      obtain ⟨found, latest, value⟩ := ih sorted.tail inside later
      cases found with
      | none =>
        refine ⟨some change, ⟨List.mem_cons_self, passed, fun c among early => ?_⟩, value⟩
        rcases List.mem_cons.mp among with rfl | more
        · exact le_rfl
        · exact absurd early (latest c more)
      | some newest =>
        obtain ⟨among, early, newer⟩ := latest
        refine ⟨some newest, ⟨List.mem_cons_of_mem _ among, early, fun c other before => ?_⟩, value⟩
        rcases List.mem_cons.mp other with rfl | more
        · exact sorted.tail.above newest among
        · exact newer c more before

end Pieces

theorem Covers.holds {instant : σ → τ} {start stop : σ} {ps : List (Piece σ β)}
    (covers : Covers instant start stop ps) {x : τ} (after_ : instant start ≤ x) (before : x < instant stop) :
    ∃ p ∈ ps, p.Holds instant x := by
  obtain ⟨first, last, joined, -⟩ := covers
  induction ps generalizing start with
  | nil => cases first
  | cons p ps ih =>
    have opens : p.start = start := Option.some.inj first
    by_cases inside : x < instant p.stop
    · exact ⟨p, List.mem_cons_self, opens ▸ after_, inside⟩
    · cases ps with
      | nil =>
        have closes : p.stop = stop := Option.some.inj last
        exact absurd (closes ▸ before) inside
      | cons q rest =>
        obtain ⟨next, chain⟩ := List.isChain_cons_cons.mp joined
        obtain ⟨r, among, holds⟩ := ih (not_lt.mp inside) (by rw [next]; rfl) (by simpa using last) chain
        exact ⟨r, List.mem_cons_of_mem _ among, holds⟩

section Latest
variable {time : ρ → τ} {rows : List ρ} {x start stop : τ}

theorem isLatest_map {γ : Type} {f : γ → ρ} {rows : List γ} {found : Option ρ}
    (latest : IsLatest time (rows.map f) x found) :
    ∃ source, IsLatest (fun r => time (f r)) rows x source ∧ source.map f = found := by
  cases found with
  | none => exact ⟨none, fun r member => latest (f r) (List.mem_map_of_mem member), rfl⟩
  | some newest =>
    obtain ⟨among, early, newer⟩ := latest
    obtain ⟨r, member, rfl⟩ := List.mem_map.mp among
    exact ⟨some r, ⟨member, early, fun q other => newer (f q) (List.mem_map_of_mem other)⟩, rfl⟩

theorem isLatest_window (after_ : start ≤ x) (before : x ≤ stop) {recent earlier : Option ρ}
    (window : IsLatest time (rows.filter (fun r => decide (start ≤ time r) && decide (time r ≤ stop))) x recent)
    (prior : (∀ r, earlier = some r → r ∈ rows ∧ time r < start ∧
        ∀ q ∈ rows, time q < start → time q ≤ time r) ∧
      (earlier = none → ∀ r ∈ rows, ¬ time r < start)) :
    IsLatest time rows x (recent.or earlier) := by
  have inside : ∀ q ∈ rows, time q ≤ x → ¬ time q < start →
      q ∈ rows.filter (fun r => decide (start ≤ time r) && decide (time r ≤ stop)) := by
    intro q member early late
    have bounds : start ≤ time q ∧ time q ≤ stop := ⟨not_lt.mp late, early.trans before⟩
    exact List.mem_filter.mpr ⟨member, by simp [bounds]⟩
  cases recent with
  | some newest =>
    obtain ⟨among, early, newer⟩ := window
    obtain ⟨member, bounds⟩ := List.mem_filter.mp among
    simp only [Bool.and_eq_true, decide_eq_true_eq] at bounds
    refine ⟨member, early, fun q other upTo => ?_⟩
    by_cases outside : time q < start
    · exact outside.le.trans bounds.1
    · exact newer q (inside q other upTo outside) upTo
  | none =>
    have older : ∀ q ∈ rows, time q ≤ x → time q < start := by
      intro q member early
      by_contra late
      exact window q (inside q member early late) early
    cases earlier with
    | none => exact fun q member early => prior.2 rfl q member (older q member early)
    | some newest =>
      obtain ⟨member, past, newer⟩ := prior.1 newest rfl
      exact ⟨member, past.le.trans after_, fun q other early => newer q other (older q other early)⟩

end Latest

end StepFunction
