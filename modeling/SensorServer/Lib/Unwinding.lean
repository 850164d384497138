import SensorServer.Lib.Run
import Mathlib.Data.List.Forall2

/-! An observer who may see some events only. A relation between two states is unwinding when
the unseen events keep it on one side and every seen event has a counterpart on the other. -/
namespace Unwinding

variable {σ τ ε φ : Type}

structure Unwinds (step : σ → ε → σ) (image : τ → φ → τ) (R : σ → τ → Prop) (ok : ε → Prop)
    (seen : ε → Bool) (counterpart : ε → φ → Prop) : Prop where
  unseen : ∀ s t e, R s t → ok e → seen e = false → R (step s e) t
  seen : ∀ s t e, R s t → ok e → seen e = true → ∃ f, counterpart e f ∧ R (step s e) (image t f)

variable {step : σ → ε → σ} {image : τ → φ → τ} {R : σ → τ → Prop} {ok : ε → Prop} {seen : ε → Bool}
  {counterpart : ε → φ → Prop}

/-- The observer's run is a run of counterparts of the events that are seen. -/
theorem Unwinds.run (unwinds : Unwinds step image R ok seen counterpart) {s : σ} {t : τ} {es : List ε}
    (start : R s t) (allowed : ∀ e ∈ es, ok e) :
    ∃ fs, List.Forall₂ counterpart (es.filter seen) fs ∧ R (Run.run step s es) (Run.run image t fs) := by
  induction es generalizing s t with
  | nil => exact ⟨[], .nil, start⟩
  | cons e es ih =>
    have rest : ∀ f ∈ es, ok f := fun f member => allowed f (List.mem_cons_of_mem _ member)
    have first := allowed e List.mem_cons_self
    cases visible : seen e with
    | false =>
      obtain ⟨fs, paired, ends⟩ := ih (unwinds.unseen s t e start first visible) rest
      exact ⟨fs, by simpa [visible] using paired, ends⟩
    | true =>
      obtain ⟨f, answers, kept⟩ := unwinds.seen s t e start first visible
      obtain ⟨fs, paired, ends⟩ := ih kept rest
      exact ⟨f :: fs, by simpa [visible] using ⟨answers, paired⟩, ends⟩

end Unwinding
