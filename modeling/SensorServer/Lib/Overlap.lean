import SensorServer.Lib.Run

/-! Two operations on one shared value, each a read followed by writes computed from what
it read, in any order of their steps. -/
namespace Overlap

variable {σ : Type}

abbrev Op (σ : Type) := σ → List (σ → σ)

def applied (writes : List (σ → σ)) (s : σ) : σ := writes.foldl (fun t w => w t) s

def exec (op : Op σ) (s : σ) : σ := applied (op s) s

/-- The shared value, and the writes each operation still has to make once it has read. -/
structure State (σ : Type) where
  shared : σ
  left : Option (List (σ → σ))
  right : Option (List (σ → σ))

def advance (op : Op σ) (shared : σ) : Option (List (σ → σ)) → σ × Option (List (σ → σ))
  | none => (shared, some (op shared))
  | some [] => (shared, some [])
  | some (w :: ws) => (w shared, some ws)

def step (x y : Op σ) (s : State σ) : Bool → State σ
  | false => ⟨(advance x s.shared s.left).1, (advance x s.shared s.left).2, s.right⟩
  | true => ⟨(advance y s.shared s.right).1, s.left, (advance y s.shared s.right).2⟩

def race (x y : Op σ) (schedule : List Bool) (s : σ) : State σ :=
  Run.run (step x y) ⟨s, none, none⟩ schedule

structure State.Finished (s : State σ) : Prop where
  left : s.left = some []
  right : s.right = some []

@[simp] theorem applied_nil (s : σ) : applied [] s = s := rfl

@[simp] theorem applied_cons (w : σ → σ) (ws : List (σ → σ)) (s : σ) :
    applied (w :: ws) s = applied ws (w s) := rfl

theorem step_write (x y : Op σ) (s : σ) (w : σ → σ) (ws : List (σ → σ)) (right : Option (List (σ → σ))) :
    step x y ⟨s, some (w :: ws), right⟩ false = ⟨w s, some ws, right⟩ := rfl

theorem step_left_short (x y : Op σ) {ts : List (σ → σ)} (short : ts.length ≤ 1) (s : σ)
    (right : Option (List (σ → σ))) : step x y ⟨s, some ts, right⟩ false = ⟨applied ts s, some [], right⟩ := by
  match ts, short with
  | [], _ => rfl
  | [t], _ => rfl

theorem step_right_short (x y : Op σ) {ts : List (σ → σ)} (short : ts.length ≤ 1) (s : σ)
    (left : Option (List (σ → σ))) : step x y ⟨s, left, some ts⟩ true = ⟨applied ts s, left, some []⟩ := by
  match ts, short with
  | [], _ => rfl
  | [t], _ => rfl

theorem applied_append (us ws : List (σ → σ)) (s : σ) :
    applied (us ++ ws) s = applied ws (applied us s) := List.foldl_append

/-! One of the two makes the same single write whatever the other did, and it commutes. -/

section Oblivious
variable {x y : Op σ}

/-- The writes `ts` stay the same wherever the other operation can lead, and commute with it. -/
structure Oblivious (x y : Op σ) (ts : List (σ → σ)) (reached : σ → Prop) : Prop where
  short : ts.length ≤ 1
  same : ∀ r, reached r → y r = ts
  kept : ∀ s, ∀ w ∈ x s, ∀ r, reached r → reached (w r)
  commutes : ∀ s, ∀ w ∈ x s, ∀ r, w (applied ts r) = applied ts (w r)

/-- What has happened so far: the other read before the write, or after it. -/
inductive Ordered (x : Op σ) (ts : List (σ → σ)) (s : σ) : State σ → Prop where
  | fresh : Ordered x ts s ⟨s, none, none⟩
  | read : Ordered x ts s ⟨s, none, some ts⟩
  | written : Ordered x ts s ⟨applied ts s, none, some []⟩
  | before {us ws : List (σ → σ)} (split : x s = us ++ ws) : Ordered x ts s ⟨applied us s, some ws, none⟩
  | beforeRead {us ws : List (σ → σ)} (split : x s = us ++ ws) :
      Ordered x ts s ⟨applied us s, some ws, some ts⟩
  | beforeWritten {us ws : List (σ → σ)} (split : x s = us ++ ws) :
      Ordered x ts s ⟨applied ts (applied us s), some ws, some []⟩
  | after {us ws : List (σ → σ)} (split : x (applied ts s) = us ++ ws) :
      Ordered x ts s ⟨applied us (applied ts s), some ws, some []⟩

theorem Oblivious.reached_applied {ts : List (σ → σ)} {reached : σ → Prop}
    (oblivious : Oblivious x y ts reached) {s r : σ}
    (start : reached r) {us : List (σ → σ)} (own : ∀ w ∈ us, w ∈ x s) : reached (applied us r) := by
  induction us generalizing r with
  | nil => exact start
  | cons w us ih =>
    exact ih (oblivious.kept s w (own w List.mem_cons_self) r start)
      (fun v member => own v (List.mem_cons_of_mem w member))

theorem applied_snoc (us : List (σ → σ)) (w : σ → σ) (s : σ) : applied (us ++ [w]) s = w (applied us s) :=
  applied_append us [w] s

theorem Oblivious.ordered_step {ts : List (σ → σ)} {reached : σ → Prop}
    (oblivious : Oblivious x y ts reached) {s : σ}
    (start : reached s) {state : State σ} (ordered : Ordered x ts s state) (turn : Bool) :
    Ordered x ts s (step x y state turn) := by
  -- one more of the other's writes is behind it
  have shift : ∀ {us ws : List (σ → σ)} {w : σ → σ} {r : σ}, x r = us ++ w :: ws → x r = (us ++ [w]) ++ ws :=
    fun split => by rw [split, List.append_assoc, List.singleton_append]
  have own : ∀ {us ws : List (σ → σ)} {r : σ}, x r = us ++ ws → ∀ w ∈ us, w ∈ x r :=
    fun split w member => split ▸ List.mem_append_left _ member
  cases ordered with
  | fresh =>
    cases turn with
    | false => exact @Ordered.before σ x ts s [] (x s) rfl
    | true =>
      unfold step advance
      rw [oblivious.same s start]
      exact .read
  | read =>
    cases turn with
    | false => exact @Ordered.beforeRead σ x ts s [] (x s) rfl
    | true =>
      rw [step_right_short x y oblivious.short s none]
      exact .written
  | written =>
    cases turn with
    | false => exact @Ordered.after σ x ts s [] (x (applied ts s)) rfl
    | true => exact .written
  | @before us ws split =>
    cases turn with
    | false =>
      cases ws with
      | nil => exact .before split
      | cons w ws =>
        rw [step_write, ← applied_snoc us w s]
        exact .before (shift split)
    | true =>
      unfold step advance
      rw [oblivious.same _ (oblivious.reached_applied start (own split))]
      exact .beforeRead split
  | @beforeRead us ws split =>
    cases turn with
    | false =>
      cases ws with
      | nil => exact .beforeRead split
      | cons w ws =>
        rw [step_write, ← applied_snoc us w s]
        exact .beforeRead (shift split)
    | true =>
      rw [step_right_short x y oblivious.short (applied us s) (some ws)]
      exact .beforeWritten split
  | @beforeWritten us ws split =>
    cases turn with
    | false =>
      cases ws with
      | nil => exact .beforeWritten split
      | cons w ws =>
        have moved : w (applied ts (applied us s)) = applied ts (applied (us ++ [w]) s) := by
          rw [applied_snoc]
          exact oblivious.commutes s w (split ▸ List.mem_append_right _ List.mem_cons_self) _
        rw [step_write, moved]
        exact .beforeWritten (shift split)
    | true => exact .beforeWritten split
  | @after us ws split =>
    cases turn with
    | false =>
      cases ws with
      | nil => exact .after split
      | cons w ws =>
        rw [step_write, ← applied_snoc us w (applied ts s)]
        exact .after (shift split)
    | true => exact .after split

theorem Oblivious.ordered_race {ts : List (σ → σ)} {reached : σ → Prop}
    (oblivious : Oblivious x y ts reached) {s : σ}
    (start : reached s) (schedule : List Bool) : Ordered x ts s (race x y schedule s) :=
  @Run.invariant _ _ (step x y) (fun _ _ => True) (Ordered x ts s)
    (fun _ turn ordered _ => oblivious.ordered_step start ordered turn) _ schedule .fresh
    (Run.along_of_all _ schedule (fun _ _ _ => trivial))

/-- Every schedule ends as one of the two serial orders does. -/
theorem Oblivious.serial {ts : List (σ → σ)} {reached : σ → Prop} (oblivious : Oblivious x y ts reached) {s : σ}
    (start : reached s) {schedule : List Bool} (finished : (race x y schedule s).Finished) :
    (race x y schedule s).shared = exec y (exec x s) ∨ (race x y schedule s).shared = exec x (exec y s) := by
  have alone : exec y s = applied ts s := by
    unfold exec
    rw [oblivious.same s start]
  have second : exec y (exec x s) = applied ts (exec x s) := by
    have there : reached (exec x s) := oblivious.reached_applied start (fun _ member => member)
    unfold exec at there ⊢
    rw [oblivious.same _ there]
  rw [alone, second]
  have ordered := oblivious.ordered_race start schedule
  generalize race x y schedule s = state at ordered finished ⊢
  cases ordered with
  | fresh => cases finished.left
  | read => cases finished.left
  | written => cases finished.left
  | before split => cases finished.right
  | beforeRead split =>
    have done : ts = [] := Option.some.inj finished.right
    have last := Option.some.inj finished.left
    subst done last
    rw [List.append_nil] at split
    exact .inl (by rw [exec, split]; rfl)
  | beforeWritten split =>
    have last := Option.some.inj finished.left
    subst last
    rw [List.append_nil] at split
    exact .inl (by rw [exec, split])
  | after split =>
    have last := Option.some.inj finished.left
    subst last
    rw [List.append_nil] at split
    exact .inr (by rw [exec, split])

end Oblivious

section Single
variable {x y : Op σ}

/-- Both read the value at first, and `first` wrote before `second`. -/
def stale (first second : Op σ) (s : σ) : σ := applied (second s) (exec first s)

inductive Crossed (x y : Op σ) (s : σ) : State σ → Prop where
  | fresh : Crossed x y s ⟨s, none, none⟩
  | leftRead : Crossed x y s ⟨s, some (x s), none⟩
  | rightRead : Crossed x y s ⟨s, none, some (y s)⟩
  | bothRead : Crossed x y s ⟨s, some (x s), some (y s)⟩
  | leftDone : Crossed x y s ⟨exec x s, some [], none⟩
  | rightDone : Crossed x y s ⟨exec y s, none, some []⟩
  | leftAhead : Crossed x y s ⟨exec x s, some [], some (y s)⟩
  | rightAhead : Crossed x y s ⟨exec y s, some (x s), some []⟩
  | leftFirst : Crossed x y s ⟨exec x s, some [], some (y (exec x s))⟩
  | rightFirst : Crossed x y s ⟨exec y s, some (x (exec y s)), some []⟩
  | done {r : σ} (ends : r ∈ [exec y (exec x s), exec x (exec y s), stale x y s, stale y x s]) :
      Crossed x y s ⟨r, some [], some []⟩

theorem crossed_step (left : ∀ s, (x s).length ≤ 1) (right : ∀ s, (y s).length ≤ 1) {s : σ} {state : State σ}
    (crossed : Crossed x y s state) (turn : Bool) : Crossed x y s (step x y state turn) := by
  cases crossed with
  | fresh => cases turn with
    | false => exact .leftRead
    | true => exact .rightRead
  | leftRead => cases turn with
    | false =>
      rw [step_left_short x y (left s) s none]
      exact .leftDone
    | true => exact .bothRead
  | rightRead => cases turn with
    | false => exact .bothRead
    | true =>
      rw [step_right_short x y (right s) s none]
      exact .rightDone
  | bothRead => cases turn with
    | false =>
      rw [step_left_short x y (left s) s (some (y s))]
      exact .leftAhead
    | true =>
      rw [step_right_short x y (right s) s (some (x s))]
      exact .rightAhead
  | leftDone => cases turn with
    | false => exact .leftDone
    | true => exact .leftFirst
  | rightDone => cases turn with
    | false => exact .rightFirst
    | true => exact .rightDone
  | leftAhead => cases turn with
    | false => exact .leftAhead
    | true =>
      rw [step_right_short x y (right s) (exec x s) (some [])]
      exact .done (r := stale x y s) (by simp)
  | rightAhead => cases turn with
    | false =>
      rw [step_left_short x y (left s) (exec y s) (some [])]
      exact .done (r := stale y x s) (by simp)
    | true => exact .rightAhead
  | leftFirst => cases turn with
    | false => exact .leftFirst
    | true =>
      rw [step_right_short x y (right (exec x s)) (exec x s) (some [])]
      exact .done (r := exec y (exec x s)) (by simp)
  | rightFirst => cases turn with
    | false =>
      rw [step_left_short x y (left (exec y s)) (exec y s) (some [])]
      exact .done (r := exec x (exec y s)) (by simp)
    | true => exact .rightFirst
  | done ends => cases turn with
    | false => exact .done ends
    | true => exact .done ends

theorem single_ends (left : ∀ s, (x s).length ≤ 1) (right : ∀ s, (y s).length ≤ 1) {s : σ}
    {schedule : List Bool} (finished : (race x y schedule s).Finished) :
    (race x y schedule s).shared ∈ [exec y (exec x s), exec x (exec y s), stale x y s, stale y x s] := by
  have crossed : Crossed x y s (race x y schedule s) :=
    @Run.invariant _ _ (step x y) (fun _ _ => True) (Crossed x y s)
      (fun _ turn crossed _ => crossed_step left right crossed turn) _ schedule .fresh
      (Run.along_of_all _ schedule (fun _ _ _ => trivial))
  generalize race x y schedule s = state at crossed finished ⊢
  cases crossed with
  | fresh => cases finished.left
  | leftRead => cases finished.right
  | rightRead => cases finished.left
  | bothRead =>
    have idle := Option.some.inj finished.left
    have none := Option.some.inj finished.right
    simp [exec, idle, none]
  | leftDone => cases finished.right
  | rightDone => cases finished.left
  | leftAhead =>
    have none := Option.some.inj finished.right
    simp [stale, none]
  | rightAhead =>
    have idle := Option.some.inj finished.left
    simp [stale, idle]
  | leftFirst =>
    have none : y (exec x s) = [] := Option.some.inj finished.right
    have same : exec y (exec x s) = exec x s := by rw [exec, none, applied_nil]
    simp [same]
  | rightFirst =>
    have idle : x (exec y s) = [] := Option.some.inj finished.left
    have same : exec x (exec y s) = exec y s := by rw [exec, idle, applied_nil]
    simp [same]
  | done ends => exact ends

theorem single_reaches (left : ∀ s, (x s).length ≤ 1) (right : ∀ s, (y s).length ≤ 1) {s r : σ}
    (ends : r ∈ [exec y (exec x s), exec x (exec y s), stale x y s, stale y x s]) :
    ∃ schedule, (race x y schedule s).Finished ∧ (race x y schedule s).shared = r := by
  have run : ∀ schedule, race x y schedule s = ⟨r, some [], some []⟩ →
      ∃ schedule, (race x y schedule s).Finished ∧ (race x y schedule s).shared = r :=
    fun schedule ended => ⟨schedule, by rw [ended]; exact ⟨rfl, rfl⟩, by rw [ended]⟩
  have readLeft : ∀ t m, step x y ⟨t, none, m⟩ false = ⟨t, some (x t), m⟩ := fun _ _ => rfl
  have readRight : ∀ t m, step x y ⟨t, m, none⟩ true = ⟨t, m, some (y t)⟩ := fun _ _ => rfl
  simp only [List.mem_cons, List.not_mem_nil, or_false] at ends
  rcases ends with rfl | rfl | rfl | rfl
  · refine run [false, false, true, true] ?_
    simp only [race, Run.run_cons, Run.run_nil, readLeft, readRight, step_left_short x y (left _),
      step_right_short x y (right _)]
    rfl
  · refine run [true, true, false, false] ?_
    simp only [race, Run.run_cons, Run.run_nil, readLeft, readRight, step_left_short x y (left _),
      step_right_short x y (right _)]
    rfl
  · refine run [false, true, false, true] ?_
    simp only [race, Run.run_cons, Run.run_nil, readLeft, readRight, step_left_short x y (left _),
      step_right_short x y (right _)]
    rfl
  · refine run [false, true, true, false] ?_
    simp only [race, Run.run_cons, Run.run_nil, readLeft, readRight, step_left_short x y (left _),
      step_right_short x y (right _)]
    rfl

end Single

end Overlap
