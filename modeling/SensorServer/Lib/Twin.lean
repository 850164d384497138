import SensorServer.Lib.Program
import SensorServer.Lib.Run

/-! Two runs of one program: a program is twin for a relation when related states
give the same result or exception and leave related states behind. -/
namespace Program

variable {ε σ α β : Type}

def Twin (R : σ → σ → Prop) (m : Prog ε σ α) : Prop :=
  ∀ s t, R s t → (outcome m s).1 = (outcome m t).1 ∧ R (after m s) (after m t)

section Twin
variable {R : σ → σ → Prop}

theorem Twin.pure (a : α) : Twin R (Pure.pure a : Prog ε σ α) := fun _ _ alike => ⟨rfl, alike⟩

theorem Twin.fail (e : ε) : Twin R (Program.fail e : Prog ε σ α) := fun _ _ alike => ⟨rfl, alike⟩

theorem Twin.read {f : σ → α} (same : ∀ s t, R s t → f s = f t) :
    Twin R (Program.read f : Prog ε σ α) :=
  fun s t alike => ⟨congrArg Except.ok (same s t alike), alike⟩

theorem Twin.read_bind {f : σ → β} {rest : β → Prog ε σ α} (same : ∀ s t, R s t → f s = f t)
    (inside : ∀ b, Twin (fun s t => R s t ∧ f s = b) (rest b)) : Twin R (Program.read f >>= rest) := by
  intro s t alike
  obtain ⟨result, kept, -⟩ := inside (f s) s t ⟨alike, rfl⟩
  rw [after_read_bind, after_read_bind, outcome_bind_ok (outcome_read f s),
    outcome_bind_ok (outcome_read f t), ← same s t alike]
  exact ⟨result, kept⟩

theorem Twin.write {f : σ → σ} (kept : ∀ s t, R s t → R (f s) (f t)) :
    Twin R (Program.write f : Prog ε σ Unit) := fun s t alike => ⟨rfl, kept s t alike⟩

theorem Twin.bind {m : Prog ε σ α} {f : α → Prog ε σ β} (first : Twin R m)
    (rest : ∀ a, Twin R (f a)) : Twin R (m >>= f) := by
  intro s t alike
  have both := first s t alike
  unfold after at both ⊢
  rw [outcome_bind, outcome_bind]
  rcases left : outcome m s with ⟨e | a, u⟩ <;> rcases right : outcome m t with ⟨d | b, v⟩ <;>
    rw [left, right] at both <;> obtain ⟨same, kept⟩ := both <;> cases same
  · exact ⟨rfl, kept⟩
  · exact rest a u v kept

theorem Twin.bind_returning {result : α → Prop} {m : Prog ε σ α} {f : α → Prog ε σ β} (first : Twin R m)
    (returns : Returns result m) (rest : ∀ a, result a → Twin R (f a)) : Twin R (m >>= f) := by
  intro s t alike
  have both := first s t alike
  unfold after at both ⊢
  rw [outcome_bind, outcome_bind]
  rcases left : outcome m s with ⟨e | a, u⟩ <;> rcases right : outcome m t with ⟨d | b, v⟩ <;>
    rw [left, right] at both <;> obtain ⟨same, kept⟩ := both <;> cases same
  · exact ⟨rfl, kept⟩
  · exact rest a (returns s a u left) u v kept

theorem Twin.attempt {m : Prog ε σ α} (valid : Twin R m) : Twin R (Program.attempt m) := by
  intro s t alike
  obtain ⟨same, kept⟩ := valid s t alike
  rw [after_attempt, after_attempt]
  refine ⟨?_, kept⟩
  rw [outcome_attempt, outcome_attempt]
  rcases left : outcome m s with ⟨e | a, u⟩ <;> rcases right : outcome m t with ⟨d | b, v⟩ <;>
    rw [left, right] at same <;> cases same

theorem Twin.rescue {m : Prog ε σ α} {handler : ε → Prog ε σ α} (first : Twin R m)
    (rest : ∀ e, Twin R (handler e)) : Twin R (Program.rescue m handler) := by
  intro s t alike
  have both := first s t alike
  unfold after at both ⊢
  rw [outcome_rescue, outcome_rescue]
  rcases left : outcome m s with ⟨e | a, u⟩ <;> rcases right : outcome m t with ⟨d | b, v⟩ <;>
    rw [left, right] at both <;> obtain ⟨same, kept⟩ := both <;> cases same
  · exact rest e u v kept
  · exact ⟨rfl, kept⟩

theorem Twin.when {c : Bool} {m : Prog ε σ Unit} (valid : c = true → Twin R m) :
    Twin R (Program.when c m) := by
  unfold Program.when
  split
  · exact valid ‹_›
  · exact Twin.pure ()

theorem Twin.forEach {xs : List α} {body : α → Prog ε σ Unit} (round : ∀ x ∈ xs, Twin R (body x)) :
    Twin R (Program.forEach xs body) := by
  induction xs with
  | nil => exact Twin.pure ()
  | cons x xs ih =>
    exact Twin.bind (round x List.mem_cons_self) (fun _ => ih (fun y hy => round y (List.mem_cons_of_mem _ hy)))

end Twin
end Program

namespace Run

variable {σ ε ω π : Type}

def trace (step : σ → ε → σ) (look : σ → ε → ω) : σ → List ε → List ω
  | _, [] => []
  | s, e :: es => look s e :: trace step look (step s e) es

/-- Two runs over paired events show the same when every pair shows the same and
leaves related states behind. -/
theorem trace_congr {step : σ → ε → σ} {look : σ → ε → ω} {left right : π → ε} {R : σ → σ → Prop}
    {ok : σ → π → Prop}
    (sync : ∀ s t p, R s t → ok s p →
      look s (left p) = look t (right p) ∧ R (step s (left p)) (step t (right p)))
    {s t : σ} {pairs : List π} (related : R s t) (allowed : Along (fun s p => step s (left p)) ok s pairs) :
    trace step look s (pairs.map left) = trace step look t (pairs.map right) := by
  induction pairs generalizing s t with
  | nil => rfl
  | cons p ps ih =>
    obtain ⟨same, kept⟩ := sync s t p related allowed.1
    exact congrArg₂ List.cons same (ih kept allowed.2)

end Run
