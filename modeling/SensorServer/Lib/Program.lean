import Mathlib.Logic.Relation

/-! Programs over a state that keeps its writes when an exception ends them.
Every statement commits on its own, so a failing program leaves a prefix of its
writes behind; a rule that only speaks about normal returns would miss those. -/
namespace Program

abbrev Prog (ε σ α : Type) := ExceptT ε (StateM σ) α

variable {ε σ α β : Type}

/-- How a program ends from a state: its result or exception, and the last state. -/
def outcome (m : Prog ε σ α) (s : σ) : Except ε α × σ := m.run.run s

def after (m : Prog ε σ α) (s : σ) : σ := (outcome m s).2

def read (f : σ → α) : Prog ε σ α := ExceptT.mk (fun s => (.ok (f s), s))
def write (f : σ → σ) : Prog ε σ Unit := ExceptT.mk (fun s => (.ok (), f s))
def fail (e : ε) : Prog ε σ α := ExceptT.mk (fun s => (.error e, s))

def attempt (m : Prog ε σ α) : Prog ε σ Bool :=
  ExceptT.mk (fun s => match outcome m s with
    | (.ok _, t) => (.ok true, t)
    | (.error _, t) => (.ok false, t))

def rescue (m : Prog ε σ α) (handler : ε → Prog ε σ α) : Prog ε σ α :=
  ExceptT.mk (fun s => match outcome m s with
    | (.ok a, t) => (.ok a, t)
    | (.error e, t) => outcome (handler e) t)

def when (c : Bool) (m : Prog ε σ Unit) : Prog ε σ Unit := if c then m else pure ()

def forEach : List α → (α → Prog ε σ Unit) → Prog ε σ Unit
  | [], _ => pure ()
  | x :: xs, body => do body x; forEach xs body

@[simp] theorem outcome_pure (a : α) (s : σ) :
    outcome (pure a : Prog ε σ α) s = (.ok a, s) := rfl

@[simp] theorem outcome_read (f : σ → α) (s : σ) :
    outcome (read f : Prog ε σ α) s = (.ok (f s), s) := rfl

@[simp] theorem outcome_write (f : σ → σ) (s : σ) :
    outcome (write f : Prog ε σ Unit) s = (.ok (), f s) := rfl

@[simp] theorem outcome_fail (e : ε) (s : σ) :
    outcome (fail e : Prog ε σ α) s = (.error e, s) := rfl

theorem outcome_bind (m : Prog ε σ α) (f : α → Prog ε σ β) (s : σ) :
    outcome (m >>= f) s = match outcome m s with
      | (.ok a, t) => outcome (f a) t
      | (.error e, t) => (.error e, t) := by
  unfold outcome ExceptT.run StateT.run
  simp only [bind, ExceptT.bind, ExceptT.mk, StateT.bind, ExceptT.bindCont]
  rcases m s with ⟨_ | a, t⟩ <;> rfl

theorem outcome_attempt (m : Prog ε σ α) (s : σ) :
    outcome (attempt m) s = match outcome m s with
      | (.ok _, t) => (.ok true, t)
      | (.error _, t) => (.ok false, t) := rfl

theorem outcome_rescue (m : Prog ε σ α) (handler : ε → Prog ε σ α) (s : σ) :
    outcome (rescue m handler) s = match outcome m s with
      | (.ok a, t) => (.ok a, t)
      | (.error e, t) => outcome (handler e) t := rfl

theorem outcome_bind_ok {m : Prog ε σ α} {f : α → Prog ε σ β} {s t : σ} {a : α}
    (first : outcome m s = (.ok a, t)) : outcome (m >>= f) s = outcome (f a) t := by
  rw [outcome_bind, first]

theorem outcome_bind_error {m : Prog ε σ α} {f : α → Prog ε σ β} {s t : σ} {e : ε}
    (first : outcome m s = (.error e, t)) : outcome (m >>= f) s = (.error e, t) := by
  rw [outcome_bind, first]

theorem outcome_bind_congr {m : Prog ε σ α} {f g : α → Prog ε σ β} {s : σ}
    (same : ∀ a t, outcome m s = (.ok a, t) → outcome (f a) t = outcome (g a) t) :
    outcome (m >>= f) s = outcome (m >>= g) s := by
  rw [outcome_bind, outcome_bind]
  rcases first : outcome m s with ⟨e | a, t⟩
  · rfl
  · exact same a t first

theorem outcome_bind_eq_ok {m : Prog ε σ α} {f : α → Prog ε σ β} {s u : σ} {b : β} :
    outcome (m >>= f) s = (.ok b, u) ↔ ∃ a t, outcome m s = (.ok a, t) ∧ outcome (f a) t = (.ok b, u) := by
  rw [outcome_bind]
  rcases outcome m s with ⟨e | a, t⟩
  · constructor
    · intro h
      cases h
    · rintro ⟨a, t, h, -⟩
      cases h
  · constructor
    · exact fun h => ⟨a, t, rfl, h⟩
    · rintro ⟨a, t, ⟨⟩, h⟩
      exact h

@[simp] theorem after_pure (a : α) (s : σ) : after (pure a : Prog ε σ α) s = s := rfl
@[simp] theorem after_read (f : σ → α) (s : σ) : after (read f : Prog ε σ α) s = s := rfl
@[simp] theorem after_write (f : σ → σ) (s : σ) : after (write f : Prog ε σ Unit) s = f s := rfl
@[simp] theorem after_fail (e : ε) (s : σ) : after (fail e : Prog ε σ α) s = s := rfl

theorem after_bind_ok {m : Prog ε σ α} {f : α → Prog ε σ β} {s t : σ} {a : α}
    (first : outcome m s = (.ok a, t)) : after (m >>= f) s = after (f a) t :=
  congrArg Prod.snd (outcome_bind_ok first)

theorem after_bind_error {m : Prog ε σ α} {f : α → Prog ε σ β} {s t : σ} {e : ε}
    (first : outcome m s = (.error e, t)) : after (m >>= f) s = t :=
  congrArg Prod.snd (outcome_bind_error first)

@[simp] theorem after_read_bind (f : σ → α) (g : α → Prog ε σ β) (s : σ) :
    after (read f >>= g) s = after (g (f s)) s := after_bind_ok rfl

theorem outcome_of_isOk {m : Prog ε σ Unit} {s : σ} (returns : (outcome m s).1.isOk = true) :
    outcome m s = (.ok (), after m s) := by
  unfold after
  rcases run : outcome m s with ⟨_ | ⟨⟩, t⟩
  · rw [run] at returns
    cases returns
  · rfl

theorem outcome_of_toOption {m : Prog ε σ α} {s : σ} {a : α}
    (returns : (outcome m s).1.toOption = some a) : outcome m s = (.ok a, after m s) := by
  unfold after
  rcases run : outcome m s with ⟨_ | b, t⟩
  · rw [run] at returns
    cases returns
  · rw [run] at returns
    cases returns
    rfl

theorem after_attempt (m : Prog ε σ α) (s : σ) : after (attempt m) s = after m s := by
  simp only [after, outcome_attempt]
  split <;> simp_all

/-! Three-part assertions: what holds before, after a return, after an exception. -/

def Triple (pre : σ → Prop) (m : Prog ε σ α) (post : α → σ → Prop) (raised : σ → Prop) : Prop :=
  ∀ s, pre s → match outcome m s with
    | (.ok a, t) => post a t
    | (.error _, t) => raised t

section Triple
variable {pre : σ → Prop} {post : α → σ → Prop} {raised : σ → Prop}

theorem Triple.pure {a : α} (entail : ∀ s, pre s → post a s) :
    Triple pre (Pure.pure a : Prog ε σ α) post raised := entail

theorem Triple.write {f : σ → σ} {post : Unit → σ → Prop} (entail : ∀ s, pre s → post () (f s)) :
    Triple pre (Program.write f : Prog ε σ Unit) post raised := entail

theorem Triple.bind {m : Prog ε σ α} {f : α → Prog ε σ β} {last : β → σ → Prop}
    (first : Triple pre m post raised) (rest : ∀ a, Triple (post a) (f a) last raised) :
    Triple pre (m >>= f) last raised := by
  intro s hs
  have h := first s hs
  rw [outcome_bind]
  rcases ho : outcome m s with ⟨_ | a, t⟩
  · simpa [ho] using h
  · exact rest a t (by simpa [ho] using h)

theorem Triple.after {m : Prog ε σ α} {last : σ → Prop}
    (valid : Triple pre m (fun _ => last) last) (s : σ) (hs : pre s) : last (after m s) := by
  have h := valid s hs
  rcases ho : outcome m s with ⟨_ | a, t⟩ <;> simpa [Program.after, ho] using h

end Triple

structure Closed (R : σ → σ → Prop) : Prop where
  refl : ∀ s, R s s
  trans : ∀ {a b c}, R a b → R b c → R a c

def Upholds (R : σ → σ → Prop) (m : Prog ε σ α) : Prop := ∀ s, R s (after m s)

section Upholds
variable {R : σ → σ → Prop}

theorem Upholds.pure (closed : Closed R) (a : α) : Upholds R (Pure.pure a : Prog ε σ α) :=
  fun s => closed.refl s

theorem Upholds.read (closed : Closed R) (f : σ → α) : Upholds R (Program.read f : Prog ε σ α) :=
  fun s => closed.refl s

theorem Upholds.fail (closed : Closed R) (e : ε) : Upholds R (Program.fail e : Prog ε σ α) :=
  fun s => closed.refl s

theorem Upholds.bind (closed : Closed R) {m : Prog ε σ α} {f : α → Prog ε σ β}
    (first : Upholds R m) (rest : ∀ a, Upholds R (f a)) : Upholds R (m >>= f) := by
  intro s
  have h := first s
  unfold after at h ⊢
  rw [outcome_bind]
  rcases ho : outcome m s with ⟨_ | a, t⟩
  · simpa [ho] using h
  · rw [ho] at h
    exact closed.trans h (rest a t)

theorem Upholds.rest (closed : Closed R) {m : Prog ε σ α} {f : α → Prog ε σ β}
    (valid : ∀ a, Upholds R (f a)) (s : σ) : R (after m s) (after (m >>= f) s) := by
  unfold after
  rw [outcome_bind]
  rcases outcome m s with ⟨_ | a, t⟩
  · exact closed.refl t
  · exact valid a t

theorem Upholds.bind_within {S : σ → σ → Prop} {m : Prog ε σ α} {f : α → Prog ε σ β}
    (stop : ∀ {a b}, R a b → S a b) (absorb : ∀ {a b c}, R a b → S b c → S a c)
    (first : Upholds R m) (rest : ∀ a, Upholds S (f a)) : Upholds S (m >>= f) := by
  intro s
  have h := first s
  unfold after at h ⊢
  rw [outcome_bind]
  rcases ho : outcome m s with ⟨_ | a, t⟩
  · rw [ho] at h
    exact stop h
  · rw [ho] at h
    exact absorb h (rest a t)

theorem Upholds.attempt {m : Prog ε σ α} (valid : Upholds R m) : Upholds R (Program.attempt m) := by
  intro s
  rw [after_attempt]
  exact valid s

theorem Upholds.when (closed : Closed R) {c : Bool} {m : Prog ε σ Unit} (valid : c = true → Upholds R m) :
    Upholds R (Program.when c m) := by
  unfold Program.when
  split
  · exact valid ‹_›
  · exact Upholds.pure closed ()

theorem Upholds.rescue (closed : Closed R) {m : Prog ε σ α} {handler : ε → Prog ε σ α}
    (first : Upholds R m) (rest : ∀ e, Upholds R (handler e)) :
    Upholds R (Program.rescue m handler) := by
  intro s
  have h := first s
  unfold after at h ⊢
  rw [outcome_rescue]
  rcases ho : outcome m s with ⟨e | a, t⟩
  · rw [ho] at h
    exact closed.trans h (rest e t)
  · simpa [ho] using h

theorem Upholds.forEach (closed : Closed R) {xs : List α} {body : α → Prog ε σ Unit}
    (round : ∀ x ∈ xs, Upholds R (body x)) : Upholds R (Program.forEach xs body) := by
  induction xs with
  | nil => exact Upholds.pure closed ()
  | cons x xs ih =>
    exact Upholds.bind closed (round x List.mem_cons_self)
      (fun _ => ih (fun y hy => round y (List.mem_cons_of_mem _ hy)))

theorem Upholds.mono {S : σ → σ → Prop} {m : Prog ε σ α} (entail : ∀ s t, R s t → S s t)
    (valid : Upholds R m) : Upholds S m :=
  fun s => entail s _ (valid s)

end Upholds

def Returns (result : α → Prop) (m : Prog ε σ α) : Prop :=
  ∀ s a t, outcome m s = (.ok a, t) → result a

section Returns
variable {result : α → Prop}

theorem Returns.pure {a : α} (h : result a) : Returns result (Pure.pure a : Prog ε σ α) := by
  rintro s b t ⟨⟩
  exact h

theorem Returns.bind_returning {first : β → Prop} {m : Prog ε σ β} {f : β → Prog ε σ α}
    (returns : Returns first m) (rest : ∀ b, first b → Returns result (f b)) :
    Returns result (m >>= f) := by
  intro s a t h
  rw [outcome_bind] at h
  rcases ho : outcome m s with ⟨_ | b, u⟩
  · rw [ho] at h
    cases h
  · rw [ho] at h
    exact rest b (returns s b u ho) u a t h

theorem Returns.bind {m : Prog ε σ β} {f : β → Prog ε σ α} (rest : ∀ b, Returns result (f b)) :
    Returns result (m >>= f) :=
  @Returns.bind_returning ε σ α β result (fun _ => True) m f (fun _ _ _ _ => trivial) (fun b _ => rest b)

theorem Returns.mono {narrower : α → Prop} {m : Prog ε σ α} (entail : ∀ a, narrower a → result a)
    (returns : Returns narrower m) : Returns result m :=
  fun s a t h => entail a (returns s a t h)

theorem Upholds.bind_returning {R : σ → σ → Prop} (closed : Closed R) {m : Prog ε σ α}
    {f : α → Prog ε σ β} (first : Upholds R m) (returns : Returns result m)
    (rest : ∀ a, result a → Upholds R (f a)) : Upholds R (m >>= f) := by
  intro s
  have h := first s
  unfold after at h ⊢
  rw [outcome_bind]
  rcases ho : outcome m s with ⟨_ | a, t⟩
  · simpa [ho] using h
  · rw [ho] at h
    exact closed.trans h (rest a (returns s a t ho) t)

theorem Upholds.query {R : σ → σ → Prop} {f : σ → β} {fact : β → Prop} {rest : β → Prog ε σ α}
    (known : ∀ s, fact (f s)) (inside : ∀ b, fact b → Upholds R (rest b)) :
    Upholds R (Program.read f >>= rest) := by
  intro s
  rw [after_read_bind]
  exact inside (f s) (known s) s

end Returns

def Total (m : Prog ε σ α) : Prop := ∀ s, ∃ a t, outcome m s = (.ok a, t)

section Total

theorem Total.pure (a : α) : Total (Pure.pure a : Prog ε σ α) := fun s => ⟨a, s, rfl⟩

theorem Total.read (f : σ → α) : Total (Program.read f : Prog ε σ α) := fun s => ⟨f s, s, rfl⟩

theorem Total.write (f : σ → σ) : Total (Program.write f : Prog ε σ Unit) := fun s => ⟨(), f s, rfl⟩

theorem Total.attempt (m : Prog ε σ α) : Total (Program.attempt m) := by
  intro s
  rw [outcome_attempt]
  rcases outcome m s with ⟨e | a, t⟩
  · exact ⟨false, t, rfl⟩
  · exact ⟨true, t, rfl⟩

theorem Total.bind {m : Prog ε σ α} {f : α → Prog ε σ β} (first : Total m) (rest : ∀ a, Total (f a)) :
    Total (m >>= f) := by
  intro s
  obtain ⟨a, t, run⟩ := first s
  rw [outcome_bind_ok run]
  exact rest a t

theorem Total.when {c : Bool} {m : Prog ε σ Unit} (inside : Total m) : Total (Program.when c m) := by
  unfold Program.when
  split
  · exact inside
  · exact Total.pure ()

theorem Total.forEach {xs : List α} {body : α → Prog ε σ Unit} (round : ∀ x ∈ xs, Total (body x)) :
    Total (Program.forEach xs body) := by
  induction xs with
  | nil => exact Total.pure ()
  | cons x xs ih =>
    exact Total.bind (round x List.mem_cons_self)
      (fun _ => ih (fun y member => round y (List.mem_cons_of_mem _ member)))

end Total

def Clean (m : Prog ε σ α) : Prop := ∀ s e t, outcome m s = (.error e, t) → t = s

section Clean

theorem Clean.pure (a : α) : Clean (Pure.pure a : Prog ε σ α) := fun _ _ _ run => by cases run

theorem Clean.fail (e : ε) : Clean (Program.fail e : Prog ε σ α) := fun _ _ _ run => by cases run; rfl

theorem Clean.query {f : σ → β} {rest : β → Prog ε σ α} (inside : ∀ b, Clean (rest b)) :
    Clean (Program.read f >>= rest) :=
  fun s e t run => inside (f s) s e t ((outcome_bind_ok (outcome_read f s)).symm.trans run)

/-- The second part fails only where the first has not written. -/
theorem Clean.bind {m : Prog ε σ α} {f : α → Prog ε σ β} (first : Clean m) (rest : ∀ a, Clean (f a))
    (settled : ∀ s a t, outcome m s = (.ok a, t) → t = s ∨ Total (f a)) : Clean (m >>= f) := by
  intro s e t run
  rw [outcome_bind] at run
  rcases ho : outcome m s with ⟨_ | a, u⟩
  · rw [ho] at run
    cases run
    exact first s e t ho
  · rw [ho] at run
    rcases settled s a u ho with rfl | total
    · exact rest a u e t run
    · obtain ⟨b, v, ended⟩ := total u
      rw [show outcome (f a) u = (.error e, t) from run] at ended
      cases ended

end Clean

/-! Committed changes. A change is allowed or not in the state it is applied to;
a program emits allowed changes when its last state is reached by such changes. -/

section Emits
variable {χ : Type} (apply : σ → χ → σ)

def Change (allowed : σ → χ → Prop) (s t : σ) : Prop := ∃ c, allowed s c ∧ t = apply s c

def Journal (allowed : σ → χ → Prop) : σ → σ → Prop := Relation.ReflTransGen (Change apply allowed)

theorem journal_closed (allowed : σ → χ → Prop) : Closed (Journal apply allowed) :=
  ⟨fun _ => Relation.ReflTransGen.refl, fun h k => h.trans k⟩

theorem journal_single {allowed : σ → χ → Prop} {s : σ} {c : χ} (ok : allowed s c) :
    Journal apply allowed s (apply s c) :=
  Relation.ReflTransGen.single ⟨c, ok, rfl⟩

theorem journal_induction {allowed : σ → χ → Prop} {R : σ → σ → Prop} (closed : Closed R)
    (each : ∀ s c, allowed s c → R s (apply s c)) {s t : σ} (h : Journal apply allowed s t) : R s t := by
  induction h with
  | refl => exact closed.refl s
  | tail _ last ih =>
    obtain ⟨c, ok, rfl⟩ := last
    exact closed.trans ih (each _ c ok)

end Emits

end Program
