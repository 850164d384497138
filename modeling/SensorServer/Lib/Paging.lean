import Mathlib.Data.List.Basic
import Mathlib.Order.Lattice
import Mathlib.Tactic.Common

/-! Paging through rows in order of a key with an inclusive cursor: a page is the first
rows at or after the cursor, and the next cursor is the key of the last row shown. -/
namespace Paging

variable {ρ τ : Type} [LinearOrder τ] (key : ρ → τ) (limit : Nat) (rows : List ρ)

def since (c : τ) : List ρ := rows.filter (fun r => decide (c ≤ key r))

def page (c : τ) : List ρ := (since key rows c).take limit

def turn (c : τ) : Option ρ :=
  if limit < (since key rows c).length then (page key limit rows c).getLast? else none

/-- The beginnings of the pages, while the beginning of each further one is accepted. -/
def walk (enters : τ → Bool) : Nat → τ → Option (List τ)
  | 0, _ => none
  | fuel + 1, c => match turn key limit rows c with
    | none => some [c]
    | some r => if enters (key r) then (walk enters fuel (key r)).map (c :: ·) else none

inductive Begins (first : τ) : τ → Prop where
  | first : Begins first first
  | next {c : τ} {r : ρ} : Begins first c → turn key limit rows c = some r → Begins first (key r)

/-- Every page with rows behind it ends later than it begins, at an accepted beginning. -/
def Paced (enters : τ → Bool) (first : τ) : Prop :=
  ∀ c r, Begins key limit rows first c → turn key limit rows c = some r → c < key r ∧ enters (key r) = true

variable {key limit rows}

theorem mem_since {c : τ} {r : ρ} : r ∈ since key rows c ↔ r ∈ rows ∧ c ≤ key r := by
  simp [since]

theorem turn_eq_some {c : τ} {r : ρ} (turned : turn key limit rows c = some r) :
    limit < (since key rows c).length ∧ r ∈ page key limit rows c := by
  unfold turn at turned
  split at turned
  · next more => exact ⟨more, List.mem_of_getLast? turned⟩
  · cases turned

theorem mem_of_turn {c : τ} {r : ρ} (turned : turn key limit rows c = some r) : r ∈ rows ∧ c ≤ key r :=
  mem_since.mp (List.mem_of_mem_take (turn_eq_some turned).2)

theorem page_of_turn_none {c : τ} (positive : 0 < limit) (last : turn key limit rows c = none) :
    page key limit rows c = since key rows c := by
  unfold turn at last
  split at last
  · next more =>
    rw [List.getLast?_eq_none_iff, page, List.take_eq_nil_iff] at last
    rcases last with zero | empty
    · exact absurd zero (Nat.ne_of_gt positive)
    · rw [empty] at more
      cases more
  · next fits => exact List.take_of_length_le (Nat.le_of_not_lt fits)

theorem since_since {c d : τ} (later : c ≤ d) : since key (since key rows c) d = since key rows d := by
  unfold since
  rw [List.filter_filter]
  refine List.filter_congr (fun r _ => ?_)
  by_cases inside : d ≤ key r
  · simp [inside, later.trans inside]
  · simp [inside]

theorem begins_head {first c : τ} (begins : Begins key limit rows first c) :
    c = first ∨ ∃ r, turn key limit rows first = some r ∧ Begins key limit rows (key r) c := by
  induction begins with
  | first => exact .inl rfl
  | @next c r _ turned ih =>
    rcases ih with rfl | ⟨r₀, start, inside⟩
    · exact .inr ⟨r, turned, .first⟩
    · exact .inr ⟨r₀, start, .next inside turned⟩

theorem Begins.cons {first c : τ} {r : ρ} (turned : turn key limit rows first = some r)
    (begins : Begins key limit rows (key r) c) : Begins key limit rows first c := by
  induction begins with
  | first => exact .next .first turned
  | next _ again ih => exact .next ih again

theorem paced_of_turn_none {enters : τ → Bool} {c : τ} (last : turn key limit rows c = none) :
    Paced key limit rows enters c := by
  intro d r begins turned
  rcases begins_head begins with rfl | ⟨r₀, start, -⟩
  · rw [last] at turned
    cases turned
  · rw [last] at start
    cases start

theorem paced_iff_of_turn {enters : τ → Bool} {c : τ} {r : ρ} (turned : turn key limit rows c = some r) :
    Paced key limit rows enters c ↔
      (c < key r ∧ enters (key r) = true) ∧ Paced key limit rows enters (key r) := by
  constructor
  · exact fun paced => ⟨paced c r .first turned, fun d q begins => paced d q (begins.cons turned)⟩
  · rintro ⟨first, rest⟩ d q begins again
    rcases begins_head begins with rfl | ⟨r₀, start, inside⟩
    · cases turned.symm.trans again
      exact first
    · cases turned.symm.trans start
      exact rest d q inside again

theorem exists_walk {enters : τ → Bool} (n : Nat) (c : τ) (paced : Paced key limit rows enters c)
    (bound : (rows.filter (fun r => decide (c < key r))).length < n) :
    ∃ starts, walk key limit rows enters n c = some starts := by
  induction n generalizing c with
  | zero => cases bound
  | succ n ih =>
    unfold walk
    cases turned : turn key limit rows c with
    | none => exact ⟨[c], rfl⟩
    | some r =>
      obtain ⟨⟨later, open_⟩, rest⟩ := (paced_iff_of_turn turned).mp paced
      have fewer : (rows.filter (fun q => decide (key r < key q))).length <
          (rows.filter (fun q => decide (c < key q))).length := by
        have nested : rows.filter (fun q => decide (key r < key q)) =
            (rows.filter (fun q => decide (c < key q))).filter (fun q => decide (key r < key q)) := by
          rw [List.filter_filter]
          refine List.filter_congr (fun q _ => ?_)
          by_cases after : key r < key q
          · simp [after, later.trans after]
          · simp [after]
        rw [nested, List.length_filter_lt_length_iff_exists]
        exact ⟨r, List.mem_filter.mpr ⟨(mem_of_turn turned).1, by simpa using later⟩, by simp⟩
      obtain ⟨starts, walked⟩ := ih (key r) rest (by omega)
      exact ⟨c :: starts, by simp [open_, walked]⟩

theorem paced_of_walk {enters : τ → Bool} {n : Nat} {c : τ} {starts : List τ}
    (walked : walk key limit rows enters n c = some starts) : Paced key limit rows enters c := by
  induction n generalizing c starts with
  | zero => cases walked
  | succ n ih =>
    unfold walk at walked
    cases turned : turn key limit rows c with
    | none => exact paced_of_turn_none turned
    | some r =>
      rw [turned] at walked
      dsimp only at walked
      split at walked
      · next open_ =>
        obtain ⟨rest, inside, -⟩ := Option.map_eq_some_iff.mp walked
        have paced := ih inside
        rcases (mem_of_turn turned).2.lt_or_eq with later | same
        · exact (paced_iff_of_turn turned).mpr ⟨⟨later, open_⟩, paced⟩
        · -- the page that does not advance is asked for again
          rw [same]
          exact paced
      · cases walked

theorem walk_iff_paced {enters : τ → Bool} {c : τ} :
    (∃ n starts, walk key limit rows enters n c = some starts) ↔ Paced key limit rows enters c :=
  ⟨fun ⟨_, _, walked⟩ => paced_of_walk walked, fun paced =>
    ⟨_, exists_walk _ c paced (Nat.lt_succ_self _)⟩⟩

theorem turn_map (c : τ) : turn id limit (rows.map key) c = (turn key limit rows c).map key := by
  have since_map : since id (rows.map key) c = (since key rows c).map key := List.filter_map
  unfold turn page
  rw [since_map, List.length_map, ← List.map_take, List.getLast?_map]
  split <;> rfl

theorem walk_map (enters : τ → Bool) (n : Nat) (c : τ) :
    walk id limit (rows.map key) enters n c = walk key limit rows enters n c := by
  induction n generalizing c with
  | zero => rfl
  | succ n ih =>
    unfold walk
    rw [turn_map]
    cases turn key limit rows c with
    | none => rfl
    | some r => simp only [Option.map_some, id, ih]

theorem paced_map {enters : τ → Bool} {c : τ} :
    Paced id limit (rows.map key) enters c ↔ Paced key limit rows enters c := by
  rw [← walk_iff_paced, ← walk_iff_paced]
  simp only [walk_map]

theorem walk_increases {enters : τ → Bool} {n : Nat} {c : τ} {starts : List τ}
    (walked : walk key limit rows enters n c = some starts) :
    starts.Pairwise (· < ·) ∧ ∀ s ∈ starts, c ≤ s := by
  induction n generalizing c starts with
  | zero => cases walked
  | succ n ih =>
    have paced := paced_of_walk walked
    unfold walk at walked
    cases turned : turn key limit rows c with
    | none =>
      rw [turned] at walked
      cases walked
      exact ⟨List.pairwise_singleton _ _, by simp⟩
    | some r =>
      obtain ⟨⟨later, open_⟩, -⟩ := (paced_iff_of_turn turned).mp paced
      rw [turned] at walked
      dsimp only at walked
      rw [if_pos open_] at walked
      obtain ⟨rest, inside, rfl⟩ := Option.map_eq_some_iff.mp walked
      obtain ⟨increasing, above⟩ := ih inside
      refine ⟨List.pairwise_cons.mpr ⟨fun s member => lt_of_lt_of_le later (above s member), increasing⟩, ?_⟩
      intro s member
      rcases List.mem_cons.mp member with rfl | member
      · exact le_rfl
      · exact later.le.trans (above s member)

/-- The pages of a finished walk show every row at or after its beginning, and no other. -/
theorem walk_covers {enters : τ → Bool} (positive : 0 < limit)
    (sorted : rows.Pairwise (fun a b => key a ≤ key b)) {n : Nat} {c : τ} {starts : List τ}
    (walked : walk key limit rows enters n c = some starts) (r : ρ) :
    (∃ s ∈ starts, r ∈ page key limit rows s) ↔ r ∈ since key rows c := by
  induction n generalizing c starts with
  | zero => cases walked
  | succ n ih =>
    unfold walk at walked
    cases turned : turn key limit rows c with
    | none =>
      rw [turned] at walked
      cases walked
      simp [page_of_turn_none positive turned]
    | some last =>
      rw [turned] at walked
      dsimp only at walked
      split at walked
      · obtain ⟨rest, inside, rfl⟩ := Option.map_eq_some_iff.mp walked
        rw [List.exists_mem_cons_iff, ih inside]
        constructor
        · rintro (shown | beyond)
          · exact List.mem_of_mem_take shown
          · obtain ⟨present, after⟩ := mem_since.mp beyond
            exact mem_since.mpr ⟨present, (mem_of_turn turned).2.trans after⟩
        · intro member
          have ordered : (since key rows c).Pairwise (fun a b => key a ≤ key b) := sorted.filter _
          rw [← List.take_append_drop limit (since key rows c)] at member ordered
          rcases List.mem_append.mp member with shown | behind
          · exact .inl shown
          · refine .inr (mem_since.mpr ⟨(mem_since.mp (List.mem_of_mem_drop behind)).1, ?_⟩)
            exact (List.pairwise_append.mp ordered).2.2 last (turn_eq_some turned).2 r behind
      · cases walked

end Paging
