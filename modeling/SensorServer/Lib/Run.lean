import Mathlib.Data.List.Basic

/-! Runs of a deterministic system over a list of events, and interleavings of
two processes over a shared state. -/
namespace Run

variable {σ ε : Type}

def run (step : σ → ε → σ) (s : σ) (es : List ε) : σ := es.foldl step s

@[simp] theorem run_nil (step : σ → ε → σ) (s : σ) : run step s [] = s := rfl

@[simp] theorem run_cons (step : σ → ε → σ) (s : σ) (e : ε) (es : List ε) :
    run step s (e :: es) = run step (step s e) es := rfl

theorem run_append (step : σ → ε → σ) (s : σ) (before rest : List ε) :
    run step s (before ++ rest) = run step (run step s before) rest := List.foldl_append

/-- Every event of the run meets a condition in the state it finds. -/
def Along (step : σ → ε → σ) (ok : σ → ε → Prop) : σ → List ε → Prop
  | _, [] => True
  | s, e :: es => ok s e ∧ Along step ok (step s e) es

instance decidableAlong (step : σ → ε → σ) (ok : σ → ε → Prop) [∀ s e, Decidable (ok s e)] :
    ∀ (s : σ) (es : List ε), Decidable (Along step ok s es)
  | _, [] => inferInstanceAs (Decidable True)
  | s, e :: es =>
    have := decidableAlong step ok (step s e) es
    inferInstanceAs (Decidable (ok s e ∧ Along step ok (step s e) es))

theorem along_and {step : σ → ε → σ} {ok good : σ → ε → Prop} {s : σ} {es : List ε}
    (first : Along step ok s es) (second : Along step good s es) :
    Along step (fun s e => ok s e ∧ good s e) s es := by
  induction es generalizing s with
  | nil => trivial
  | cons e es ih => exact ⟨⟨first.1, second.1⟩, ih first.2 second.2⟩

theorem along_of_all {step : σ → ε → σ} {ok : σ → ε → Prop} (s : σ) (es : List ε)
    (all : ∀ e ∈ es, ∀ t, ok t e) : Along step ok s es := by
  induction es generalizing s with
  | nil => trivial
  | cons e es ih =>
    exact ⟨all e List.mem_cons_self s, ih (step s e) (fun f hf => all f (List.mem_cons_of_mem _ hf))⟩

theorem invariant {step : σ → ε → σ} {ok : σ → ε → Prop} {inv : σ → Prop}
    (preserved : ∀ s e, inv s → ok s e → inv (step s e)) {s : σ} {es : List ε}
    (start : inv s) (allowed : Along step ok s es) : inv (run step s es) := by
  induction es generalizing s with
  | nil => exact start
  | cons e es ih => exact ih (preserved s e start allowed.1) allowed.2

theorem along_of_invariant {step : σ → ε → σ} {ok good : σ → ε → Prop} {inv : σ → Prop}
    (preserved : ∀ s e, inv s → ok s e → inv (step s e))
    (meets : ∀ s e, inv s → ok s e → good s e) {s : σ} {es : List ε}
    (start : inv s) (allowed : Along step ok s es) : Along step good s es := by
  induction es generalizing s with
  | nil => trivial
  | cons e es ih =>
    exact ⟨meets s e start allowed.1, ih (preserved s e start allowed.1) allowed.2⟩

/-- Two conditions that agree wherever the invariant holds are met along the same runs. -/
theorem along_iff {step : σ → ε → σ} {good ok : σ → ε → Prop} {inv : σ → Prop}
    (agree : ∀ s e, inv s → (good s e ↔ ok s e)) (preserved : ∀ s e, inv s → ok s e → inv (step s e))
    {s : σ} {es : List ε} (start : inv s) : Along step good s es ↔ Along step ok s es := by
  induction es generalizing s with
  | nil => exact Iff.rfl
  | cons e es ih =>
    constructor
    · rintro ⟨first, rest⟩
      have allowed := (agree s e start).mp first
      exact ⟨allowed, (ih (preserved s e start allowed)).mp rest⟩
    · rintro ⟨allowed, rest⟩
      exact ⟨(agree s e start).mpr allowed, (ih (preserved s e start allowed)).mpr rest⟩

theorem along_part {τ : Type} {step : σ → ε → σ} {image : τ → ε → τ} {ok : τ → ε → Prop} {part : σ → τ}
    (commutes : ∀ s e, part (step s e) = image (part s) e) (s : σ) (es : List ε) :
    Along step (fun s e => ok (part s) e) s es ↔ Along image ok (part s) es := by
  induction es generalizing s with
  | nil => exact Iff.rfl
  | cons e es ih => exact and_congr Iff.rfl (commutes s e ▸ ih (step s e))

/-- A view of the state on which every step is an event of another machine, or nothing, runs as the
events do. -/
theorem run_filterMap {τ δ : Type} {step : σ → δ → σ} {image : τ → ε → τ} {view : σ → τ} {part : δ → Option ε}
    {inv : σ → Prop} {ok : σ → δ → Prop}
    (acts : ∀ s d, inv s → ok s d → view (step s d) = (part d).elim (view s) (image (view s)))
    (kept : ∀ s d, inv s → ok s d → inv (step s d)) {s : σ} {ds : List δ} (start : inv s)
    (allowed : Along step ok s ds) : view (run step s ds) = run image (view s) (ds.filterMap part) := by
  induction ds generalizing s with
  | nil => rfl
  | cons d ds ih =>
    have first := acts s d start allowed.1
    have rest := ih (kept s d start allowed.1) allowed.2
    cases event : part d with
    | none =>
      rw [event] at first
      rw [run_cons, rest, first, List.filterMap_cons_none event]
      rfl
    | some e =>
      rw [event] at first
      rw [run_cons, rest, first, List.filterMap_cons_some event]
      rfl

/-- A relation that every event keeps relates the ends of the two runs. -/
theorem related_run {τ : Type} {step : σ → ε → σ} {image : τ → ε → τ} {R : σ → τ → Prop}
    (kept : ∀ s t e, R s t → R (step s e) (image t e)) {s : σ} {t : τ} (start : R s t) (es : List ε) :
    R (run step s es) (run image t es) := by
  induction es generalizing s t with
  | nil => exact start
  | cons e es ih => exact ih (kept s t e start)

end Run

inductive Interleaved {α : Type} : List α → List α → List α → Prop where
  | nil : Interleaved [] [] []
  | left {x : α} {xs ys zs : List α} : Interleaved xs ys zs → Interleaved (x :: xs) ys (x :: zs)
  | right {y : α} {xs ys zs : List α} : Interleaved xs ys zs → Interleaved xs (y :: ys) (y :: zs)

namespace Interleaved
variable {α : Type}

theorem nil_left {ys zs : List α} (h : Interleaved [] ys zs) : zs = ys := by
  generalize he : ([] : List α) = xs at h
  induction h with
  | nil => rfl
  | left _ _ => cases he
  | right _ ih => exact congrArg _ (ih he)

theorem one_two {a x y : α} {zs : List α} (h : Interleaved [a] [x, y] zs) :
    zs = [a, x, y] ∨ zs = [x, a, y] ∨ zs = [x, y, a] := by
  cases h with
  | left rest => exact .inl (congrArg _ rest.nil_left)
  | right rest =>
    cases rest with
    | left last => exact .inr (.inl (congrArg _ (congrArg _ last.nil_left)))
    | right last =>
      cases last with
      | left done => exact .inr (.inr (congrArg _ (congrArg _ (congrArg _ done.nil_left))))

def weave (x : α) (own : List α) (rest : List α → List (List α)) : List α → List (List α)
  | [] => [own]
  | y :: ys => (rest (y :: ys)).map (x :: ·) ++ (weave x own rest ys).map (y :: ·)

def merges : List α → List α → List (List α)
  | [], ys => [ys]
  | x :: xs, ys => weave x (x :: xs) (merges xs) ys

theorem merges_nil (xs : List α) : merges xs [] = [xs] := by cases xs <;> rfl

theorem mem_merges {xs ys zs : List α} (h : Interleaved xs ys zs) : zs ∈ merges xs ys := by
  induction h with
  | nil => exact List.mem_singleton.mpr rfl
  | @left x xs ys zs _ ih =>
    cases ys with
    | nil =>
      rw [merges_nil, List.mem_singleton] at ih ⊢
      rw [ih]
    | cons y ys => exact List.mem_append_left _ (List.mem_map.mpr ⟨zs, ih, rfl⟩)
  | @right y xs ys zs _ ih =>
    cases xs with
    | nil =>
      rw [merges, List.mem_singleton] at ih ⊢
      rw [ih]
    | cons x xs => exact List.mem_append_right _ (List.mem_map.mpr ⟨zs, ih, rfl⟩)

end Interleaved
