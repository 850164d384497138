import Mathlib.Data.List.Dedup
import Mathlib.Data.List.Sort
import Mathlib.Data.Prod.Lex

/-! Relational tables as row lists. A primary key is unique by construction, and
a serial key is also below the counter that hands out the next one. -/

theorem mem_of_lookup {κ β : Type} [BEq κ] [LawfulBEq κ] {entries : List (κ × β)} {k : κ} {value : β}
    (found : entries.lookup k = some value) : (k, value) ∈ entries := by
  obtain ⟨before, rest, split, -⟩ := List.lookup_eq_some_iff.mp found
  rw [split]
  exact List.mem_append_right before List.mem_cons_self

theorem lookup_of_mem {κ β : Type} [BEq κ] [LawfulBEq κ] {entries : List (κ × β)}
    (distinct : (entries.map Prod.fst).Nodup) {entry : κ × β} (member : entry ∈ entries) :
    entries.lookup entry.1 = some entry.2 := by
  induction entries with
  | nil => cases member
  | cons first rest ih =>
    rw [List.map_cons, List.nodup_cons] at distinct
    rcases List.mem_cons.mp member with rfl | later
    · rw [List.lookup_cons, beq_self_eq_true]
    · have other : entry.1 ≠ first.1 := fun same => distinct.1 (same ▸ List.mem_map_of_mem later)
      rw [List.lookup_cons, beq_false_of_ne other]
      exact ih distinct.2 later

theorem lookup_filter_key {κ β : Type} [DecidableEq κ] (p : κ → Bool) (entries : List (κ × β)) (k : κ) :
    (entries.filter (fun e => p e.1)).lookup k = if p k = true then entries.lookup k else none := by
  induction entries with
  | nil => simp
  | cons entry rest ih =>
    obtain ⟨key, value⟩ := entry
    rw [List.filter_cons, List.lookup_cons]
    by_cases same : k = key
    · subst same
      by_cases kept : p k = true <;> simp [kept, ih]
    · rw [beq_false_of_ne same, ← ih]
      split
      · rw [List.lookup_cons, beq_false_of_ne same]
      · rfl

theorem lookup_filter_ne {κ β : Type} [DecidableEq κ] (entries : List (κ × β)) (k other : κ) :
    (entries.filter (fun e => e.1 ≠ k)).lookup other = if other = k then none else entries.lookup other := by
  rw [lookup_filter_key (fun key => decide (key ≠ k))]
  by_cases same : other = k <;> simp [same]

theorem lookup_filterMap_key {κ β : Type} [DecidableEq κ] (f : κ → Option β) (keys : List κ) (k : κ) :
    (keys.filterMap (fun key => (f key).map (fun value => (key, value)))).lookup k =
      if k ∈ keys then f k else none := by
  induction keys with
  | nil => rfl
  | cons first keys ih =>
    cases found : f first with
    | none =>
      rw [List.filterMap_cons_none (by rw [found]; rfl), ih]
      by_cases same : k = first
      · simp [same, found]
      · simp [same]
    | some value =>
      rw [List.filterMap_cons_some (by rw [found]; rfl), List.lookup_cons, ih]
      by_cases same : k = first
      · simp [same, found]
      · simp [same, beq_false_of_ne]

theorem lookup_tabulate {κ β : Type} [DecidableEq κ] (f : κ → β) (keys : List κ) (k : κ) :
    (keys.map (fun k => (k, f k))).lookup k = if k ∈ keys then some (f k) else none := by
  induction keys with
  | nil => rfl
  | cons first keys ih =>
    rw [List.map_cons, List.lookup_cons, ih]
    by_cases same : k = first
    · simp [same]
    · simp [same, beq_false_of_ne]

theorem lookup_map_snd {κ β γ : Type} [DecidableEq κ] (f : κ → β → γ) (entries : List (κ × β)) (k : κ) :
    (entries.map (fun e => (e.1, f e.1 e.2))).lookup k = (entries.lookup k).map (f k) := by
  induction entries with
  | nil => rfl
  | cons entry entries ih =>
    rw [List.map_cons, List.lookup_cons, List.lookup_cons, ih]
    cases same : k == entry.1 with
    | false => rfl
    | true => rw [eq_of_beq same]; rfl

structure Table {κ ρ : Type} (key : ρ → κ) where
  rows : List ρ
  unique : (rows.map key).Nodup

namespace Table
variable {κ ρ : Type} {key : ρ → κ}

theorem ext {s t : Table key} (same : s.rows = t.rows) : s = t := by
  cases s
  cases t
  cases same
  rfl

instance [DecidableEq ρ] : DecidableEq (Table key) := fun s t =>
  decidable_of_iff (s.rows = t.rows) ⟨ext, fun h => h ▸ rfl⟩

def empty (key : ρ → κ) : Table key := ⟨[], List.nodup_nil⟩

def update (t : Table key) (p : ρ → Bool) (f : ρ → ρ) (keep : ∀ r, key (f r) = key r) : Table key :=
  ⟨t.rows.map (fun r => if p r then f r else r), by
    have same : (t.rows.map (fun r => if p r then f r else r)).map key = t.rows.map key := by
      rw [List.map_map]
      apply List.map_congr_left
      intro r _
      by_cases h : p r <;> simp [h, keep]
    rw [same]
    exact t.unique⟩

def filter (t : Table key) (p : ρ → Bool) : Table key :=
  ⟨t.rows.filter p, (List.filter_sublist.map key).nodup t.unique⟩

theorem filter_map_of_dropped {rows : List ρ} {f : ρ → ρ} {p hit : ρ → Bool}
    (dropped : ∀ r ∈ rows, hit r = true → p (f r) = false)
    (kept : ∀ r ∈ rows, hit r = false → f r = r) :
    (rows.map f).filter p = (rows.filter p).filter (fun r => !hit r) := by
  induction rows with
  | nil => rfl
  | cons r rows ih =>
    have ih := ih (fun q hq => dropped q (List.mem_cons_of_mem _ hq))
      (fun q hq => kept q (List.mem_cons_of_mem _ hq))
    cases hr : hit r with
    | true =>
      have gone := dropped r List.mem_cons_self hr
      by_cases hp : p r <;> simp [hr, hp, gone, ih]
    | false =>
      have same := kept r List.mem_cons_self hr
      by_cases hp : p r <;> simp [hr, hp, same, ih]

section Lookup
variable [DecidableEq κ]

def get? (t : Table key) (k : κ) : Option ρ := t.rows.find? (fun r => key r = k)

/-- Add a row under a new key; a taken key leaves the table as it is. -/
def insert (t : Table key) (r : ρ) : Table key :=
  if h : key r ∈ t.rows.map key then t
  else ⟨t.rows ++ [r], by
    rw [List.map_append, List.map_singleton, List.nodup_append]
    refine ⟨t.unique, List.nodup_singleton _, ?_⟩
    intro a ha b hb same
    rw [List.mem_singleton] at hb
    exact h (hb ▸ same ▸ ha)⟩

def put (t : Table key) (r : ρ) : Table key :=
  match t.get? (key r) with
  | some _ => t.update (fun q => key q = key r) (fun q => if key q = key r then r else q) (by
      intro q
      by_cases h : key q = key r <;> simp [h])
  | none => t.insert r

theorem get?_eq_some {t : Table key} {k : κ} {r : ρ} :
    t.get? k = some r ↔ r ∈ t.rows ∧ key r = k := by
  unfold get?
  constructor
  · intro h
    exact ⟨List.mem_of_find?_eq_some h, by simpa using List.find?_some h⟩
  · rintro ⟨member, rfl⟩
    cases hf : t.rows.find? (fun q => decide (key q = key r)) with
    | none =>
      have missed := List.find?_eq_none.mp hf r member
      simp at missed
    | some q =>
      have same : key q = key r := by simpa using List.find?_some hf
      exact congrArg some
        (List.inj_on_of_nodup_map t.unique (List.mem_of_find?_eq_some hf) member same)

theorem key_get? {t : Table key} {k : κ} {r : ρ} (h : t.get? k = some r) : key r = k :=
  (get?_eq_some.mp h).2

theorem get?_eq_none {t : Table key} {k : κ} : t.get? k = none ↔ ∀ r ∈ t.rows, key r ≠ k := by
  simp [get?, List.find?_eq_none]

@[simp] theorem get?_update (t : Table key) (p : ρ → Bool) (f : ρ → ρ)
    (keep : ∀ r, key (f r) = key r) (k : κ) :
    (t.update p f keep).get? k = (t.get? k).map (fun r => if p r then f r else r) := by
  have same : ∀ r, key (if p r then f r else r) = key r := by
    intro r
    by_cases h : p r <;> simp [h, keep]
  simp only [get?, update, List.find?_map, Function.comp_def, same]

theorem get?_filter (t : Table key) (p : ρ → Bool) (k : κ) :
    (t.filter p).get? k = (t.get? k).filter p := by
  cases h : t.get? k with
  | none =>
    rw [get?_eq_none] at h
    rw [Option.filter_none, get?_eq_none]
    exact fun r hr => h r (List.mem_of_mem_filter hr)
  | some r =>
    rw [get?_eq_some] at h
    cases hp : p r with
    | true =>
      rw [Option.filter_some, if_pos hp, get?_eq_some]
      exact ⟨List.mem_filter.mpr ⟨h.1, hp⟩, h.2⟩
    | false =>
      rw [Option.filter_some, if_neg (by simp [hp]), get?_eq_none]
      intro q hq same
      have inside := List.mem_filter.mp hq
      have eq := List.inj_on_of_nodup_map t.unique inside.1 h.1 (same.trans h.2.symm)
      rw [eq, hp] at inside
      exact Bool.noConfusion inside.2

theorem get?_eq_none_iff_keys {t : Table key} {k : κ} : t.get? k = none ↔ k ∉ t.rows.map key := by
  rw [get?_eq_none, List.mem_map]
  exact ⟨fun absent => fun ⟨q, member, same⟩ => absent q member same,
    fun absent q member same => absent ⟨q, member, same⟩⟩

theorem rows_insert_new {t : Table key} {r : ρ} (free : t.get? (key r) = none) :
    (t.insert r).rows = t.rows ++ [r] := by
  rw [insert, dif_neg (get?_eq_none_iff_keys.mp free)]

theorem insert_taken {t : Table key} {q r : ρ} (taken : t.get? (key r) = some q) : t.insert r = t := by
  have present : key r ∈ t.rows.map key := by
    by_contra absent
    rw [get?_eq_none_iff_keys.mpr absent] at taken
    cases taken
  rw [insert, dif_pos present]

theorem get?_insert_new {t : Table key} {r : ρ} (free : t.get? (key r) = none) :
    (t.insert r).get? (key r) = some r := by
  rw [get?_eq_some, rows_insert_new free]
  exact ⟨List.mem_append_right _ (List.mem_singleton.mpr rfl), rfl⟩

theorem get?_insert_other {t : Table key} {r : ρ} {k : κ} (other : key r ≠ k) :
    (t.insert r).get? k = t.get? k := by
  unfold insert get?
  split
  · rfl
  · simp [List.find?_append, other]

theorem rows_put_taken {t : Table key} {q r : ρ} (taken : t.get? (key r) = some q) :
    (t.put r).rows = t.rows.map (fun p => if key p = key r then r else p) := by
  unfold put
  rw [taken]
  refine List.map_congr_left (fun p _ => ?_)
  by_cases same : key p = key r <;> simp [same]

theorem map_put_taken {β : Type} {f : ρ → β} {t : Table key} {q r : ρ} (taken : t.get? (key r) = some q)
    (same : f r = f q) : (t.put r).rows.map f = t.rows.map f := by
  rw [rows_put_taken taken, List.map_map]
  refine List.map_congr_left (fun p member => ?_)
  dsimp only [Function.comp]
  split
  · next equal =>
    have held : t.get? (key r) = some p := get?_eq_some.mpr ⟨member, equal⟩
    cases held.symm.trans taken
    exact same
  · rfl

theorem get?_put (t : Table key) (r : ρ) (k : κ) :
    (t.put r).get? k = if key r = k then some r else t.get? k := by
  unfold put
  cases taken : t.get? (key r) with
  | none =>
    by_cases same : key r = k
    · subst same
      rw [if_pos rfl, get?_insert_new taken]
    · rw [if_neg same, get?_insert_other same]
  | some q =>
    rw [get?_update]
    by_cases same : key r = k
    · subst same
      rw [if_pos rfl, taken, Option.map_some]
      simp [key_get? taken]
    · rw [if_neg same]
      cases found : t.get? k with
      | none => rfl
      | some p =>
        have other : key p ≠ key r := fun equal => same (equal.symm.trans (key_get? found))
        simp [other]

end Lookup

theorem map_eq_of_columns {β γ : Type} {columns : ρ → γ} {f g : ρ → β} {rows others : List ρ}
    (same : rows.map columns = others.map columns)
    (determined : ∀ r ∈ rows, ∀ q ∈ others, columns r = columns q → f r = g q) :
    rows.map f = others.map g := by
  induction rows generalizing others with
  | nil =>
    rw [List.map_nil, eq_comm, List.map_eq_nil_iff] at same
    rw [same]
    rfl
  | cons r rows ih =>
    cases others with
    | nil => cases same
    | cons q others =>
      obtain ⟨head, tail⟩ := List.cons.inj same
      rw [List.map_cons, List.map_cons, determined r List.mem_cons_self q List.mem_cons_self head,
        ih tail (fun p inside o member =>
          determined p (List.mem_cons_of_mem _ inside) o (List.mem_cons_of_mem _ member))]

end Table

/-! Tables whose key is handed out by a counter, as an auto-increment column does. -/

structure Serial {ρ : Type} (id : ρ → Nat) extends Table id where
  next : Nat
  below : ∀ r ∈ rows, id r < next

namespace Serial
variable {ρ : Type} {id : ρ → Nat}

theorem ext {s t : Serial id} (same : s.rows = t.rows) (counter : s.next = t.next) : s = t := by
  obtain ⟨⟨_, _⟩, _, _⟩ := s
  obtain ⟨⟨_, _⟩, _, _⟩ := t
  cases same
  cases counter
  rfl

instance [DecidableEq ρ] : DecidableEq (Serial id) := fun s t =>
  decidable_of_iff (s.rows = t.rows ∧ s.next = t.next)
    ⟨fun h => ext h.1 h.2, fun h => h ▸ ⟨rfl, rfl⟩⟩

def empty (id : ρ → Nat) : Serial id := ⟨Table.empty id, 0, by simp [Table.empty]⟩

def append (t : Serial id) (make : Nat → ρ) (numbered : ∀ n, id (make n) = n) : Serial id where
  rows := t.rows ++ [make t.next]
  unique := by
    rw [List.map_append, List.map_singleton, numbered, List.nodup_append]
    refine ⟨t.unique, List.nodup_singleton _, ?_⟩
    intro a ha b hb
    obtain ⟨r, hr, rfl⟩ := List.mem_map.mp ha
    rw [List.mem_singleton] at hb
    exact hb ▸ Nat.ne_of_lt (t.below r hr)
  next := t.next + 1
  below := by
    intro r hr
    rcases List.mem_append.mp hr with hr | hr
    · exact Nat.lt_succ_of_lt (t.below r hr)
    · rw [List.mem_singleton.mp hr, numbered]
      exact Nat.lt_succ_self _

def update (t : Serial id) (p : ρ → Bool) (f : ρ → ρ) (keep : ∀ r, id (f r) = id r) : Serial id where
  toTable := t.toTable.update p f keep
  next := t.next
  below := by
    intro r hr
    obtain ⟨q, hq, rfl⟩ := List.mem_map.mp hr
    by_cases h : p q
    · simpa [h, keep] using t.below q hq
    · simpa [h] using t.below q hq

def filter (t : Serial id) (p : ρ → Bool) : Serial id where
  toTable := t.toTable.filter p
  next := t.next
  below := fun r hr => t.below r (List.mem_of_mem_filter hr)

theorem rows_update (t : Serial id) (p : ρ → Bool) (f : ρ → ρ) (keep : ∀ r, id (f r) = id r) :
    (t.update p f keep).rows = t.rows.map (fun r => if p r then f r else r) := rfl

theorem rows_filter (t : Serial id) (p : ρ → Bool) : (t.filter p).rows = t.rows.filter p := rfl

section Update
variable {p q : ρ → Bool} {f : ρ → ρ} {keep : ∀ r, id (f r) = id r}

theorem update_congr {t : Serial id} (same : ∀ r ∈ t.rows, p r = q r) : t.update p f keep = t.update q f keep := by
  refine Serial.ext ?_ rfl
  exact List.map_congr_left (fun r member => by rw [same r member])

theorem update_none {t : Serial id} (missed : ∀ r ∈ t.rows, p r = false) : t.update p f keep = t := by
  refine Serial.ext ?_ rfl
  rw [rows_update]
  conv_rhs => rw [← List.map_id t.rows]
  exact List.map_congr_left (fun r member => by simp [missed r member])

theorem update_update (t : Serial id) (idempotent : ∀ r, f (f r) = f r) (steady : ∀ r, q (f r) = q r) :
    (t.update p f keep).update q f keep = t.update (fun r => p r || q r) f keep := by
  refine Serial.ext ?_ rfl
  rw [rows_update, rows_update, rows_update, List.map_map]
  refine List.map_congr_left (fun r _ => ?_)
  dsimp only [Function.comp]
  by_cases first : p r = true
  · by_cases second : q r = true
    · simp [first, second, steady, idempotent]
    · simp [first, second, steady]
  · simp [first]

end Update

theorem next_fresh (t : Serial id) {r : ρ} (member : r ∈ t.rows) : id r ≠ t.next :=
  Nat.ne_of_lt (t.below r member)

theorem eq_of_id (t : Serial id) {q r : ρ} (hq : q ∈ t.rows) (hr : r ∈ t.rows)
    (same : id q = id r) : q = r :=
  List.inj_on_of_nodup_map t.unique hq hr same

end Serial

namespace OrderBy
variable {ρ : Type}

def ascending (column : ρ → Int) (rows : List ρ) : List ρ :=
  rows.insertionSort (fun a b => column a ≤ column b)

def descending (column : ρ → Int) (rows : List ρ) : List ρ :=
  rows.insertionSort (fun a b => column b ≤ column a)

/-- ORDER BY several columns, the first one first. -/
def lexicographic {κ : Type} [LinearOrder κ] (columns : ρ → κ) (rows : List ρ) : List ρ :=
  rows.insertionSort (fun a b => columns a ≤ columns b)

@[simp] theorem mem_ascending {column : ρ → Int} {rows : List ρ} {r : ρ} :
    r ∈ ascending column rows ↔ r ∈ rows :=
  (List.perm_insertionSort _ rows).mem_iff

@[simp] theorem mem_descending {column : ρ → Int} {rows : List ρ} {r : ρ} :
    r ∈ descending column rows ↔ r ∈ rows :=
  (List.perm_insertionSort _ rows).mem_iff

theorem pairwise_ascending (column : ρ → Int) (rows : List ρ) :
    (ascending column rows).Pairwise (fun a b => column a ≤ column b) :=
  have _ : Std.Total (fun a b : ρ => column a ≤ column b) := ⟨fun _ _ => le_total _ _⟩
  have _ : IsTrans ρ (fun a b => column a ≤ column b) := ⟨fun _ _ _ h k => h.trans k⟩
  List.pairwise_insertionSort _ rows

theorem pairwise_descending (column : ρ → Int) (rows : List ρ) :
    (descending column rows).Pairwise (fun a b => column b ≤ column a) :=
  have _ : Std.Total (fun a b : ρ => column b ≤ column a) := ⟨fun _ _ => le_total _ _⟩
  have _ : IsTrans ρ (fun a b => column b ≤ column a) := ⟨fun _ _ _ h k => k.trans h⟩
  List.pairwise_insertionSort _ rows

section Relation
variable {before : ρ → ρ → Prop} [DecidableRel before] [IsTrans ρ before]

theorem filter_orderedInsert (p : ρ → Bool) (a : ρ) {sorted : List ρ} (h : sorted.Pairwise before) :
    (sorted.orderedInsert before a).filter p =
      if p a then (sorted.filter p).orderedInsert before a else sorted.filter p := by
  induction sorted with
  | nil => by_cases hp : p a <;> simp [hp]
  | cons b rest ih =>
    obtain ⟨above, tail⟩ := List.pairwise_cons.mp h
    have ih := ih tail
    by_cases first : before a b
    · -- everything behind the insertion point stays behind it
      have front : (rest.filter p).orderedInsert before a = a :: rest.filter p := by
        cases hf : rest.filter p with
        | nil => rfl
        | cons c cs =>
          have member : c ∈ rest := List.mem_of_mem_filter (hf ▸ List.mem_cons_self)
          simp [List.orderedInsert_cons, IsTrans.trans a b c first (above c member)]
      rw [List.orderedInsert_cons, if_pos first]
      by_cases hp : p a <;> by_cases hq : p b <;> simp [hp, hq, first, front]
    · rw [List.orderedInsert_cons, if_neg first]
      by_cases hp : p a <;> by_cases hq : p b <;> simp_all [List.orderedInsert_cons]

theorem filter_insertionSort [Std.Total before] (p : ρ → Bool) (rows : List ρ) :
    (rows.filter p).insertionSort before = (rows.insertionSort before).filter p := by
  induction rows with
  | nil => rfl
  | cons a rows ih =>
    rw [List.insertionSort_cons, filter_orderedInsert p a (List.pairwise_insertionSort before rows), ← ih,
      List.filter_cons]
    split <;> rfl

end Relation

theorem descending_filter (column : ρ → Int) (p : ρ → Bool) (rows : List ρ) :
    descending column (rows.filter p) = (descending column rows).filter p :=
  have _ : Std.Total (fun a b : ρ => column b ≤ column a) := ⟨fun _ _ => le_total _ _⟩
  have _ : IsTrans ρ (fun a b => column b ≤ column a) := ⟨fun _ _ _ h k => k.trans h⟩
  filter_insertionSort p rows

theorem map_ascending {column : ρ → Int} {f : ρ → ρ} (same : ∀ r, column (f r) = column r) (rows : List ρ) :
    (ascending column rows).map f = ascending column (rows.map f) :=
  List.map_insertionSort _ (fun a b => column a ≤ column b) f rows (fun a _ b _ => by rw [same, same])

theorem map_descending {column : ρ → Int} {f : ρ → ρ} (same : ∀ r, column (f r) = column r) (rows : List ρ) :
    (descending column rows).map f = descending column (rows.map f) :=
  List.map_insertionSort _ (fun a b => column b ≤ column a) f rows (fun a _ b _ => by rw [same, same])

section Lexicographic
variable {κ : Type} [LinearOrder κ] (columns : ρ → κ)

theorem mem_lexicographic {rows : List ρ} {r : ρ} : r ∈ lexicographic columns rows ↔ r ∈ rows :=
  (List.perm_insertionSort _ rows).mem_iff

theorem pairwise_lexicographic (rows : List ρ) :
    (lexicographic columns rows).Pairwise (fun a b => columns a ≤ columns b) :=
  have _ : Std.Total (fun a b : ρ => columns a ≤ columns b) := ⟨fun _ _ => le_total _ _⟩
  have _ : IsTrans ρ (fun a b => columns a ≤ columns b) := ⟨fun _ _ _ h k => h.trans k⟩
  List.pairwise_insertionSort _ rows

theorem lexicographic_filter (p : ρ → Bool) (rows : List ρ) :
    lexicographic columns (rows.filter p) = (lexicographic columns rows).filter p :=
  have _ : Std.Total (fun a b : ρ => columns a ≤ columns b) := ⟨fun _ _ => le_total _ _⟩
  have _ : IsTrans ρ (fun a b => columns a ≤ columns b) := ⟨fun _ _ _ h k => h.trans k⟩
  filter_insertionSort p rows

theorem lexicographic_of_key {key : ρ → κ} {column : ρ → Int} {k : κ} {rows : List ρ}
    (same : ∀ r ∈ rows, key r = k) :
    lexicographic (fun r => toLex (key r, column r)) rows = ascending column rows := by
  have agree : ∀ a ∈ rows, ∀ b ∈ rows,
      toLex (key a, column a) ≤ toLex (key b, column b) ↔ column a ≤ column b := by
    intro a first b second
    simp [Prod.Lex.toLex_le_toLex, same a first, same b second]
  have sorted := List.map_insertionSort _ (fun a b => column a ≤ column b) id rows agree
  rwa [List.map_id, List.map_id] at sorted

end Lexicographic

/-- SELECT DISTINCT ... ORDER BY: the values in order, each once. -/
def distinct {α : Type} [LinearOrder α] (xs : List α) : List α := xs.dedup.insertionSort (· ≤ ·)

section Distinct
variable {α : Type} [LinearOrder α]

theorem mem_distinct {xs : List α} {x : α} : x ∈ distinct xs ↔ x ∈ xs := by
  rw [distinct, List.mem_insertionSort, List.mem_dedup]

theorem nodup_distinct (xs : List α) : (distinct xs).Nodup :=
  (List.perm_insertionSort _ _).nodup_iff.mpr (List.nodup_dedup xs)

theorem distinct_congr {xs ys : List α} (same : ∀ x, x ∈ xs ↔ x ∈ ys) :
    distinct xs = distinct ys := by
  have perm : (distinct xs).Perm (distinct ys) := by
    rw [List.perm_ext_iff_of_nodup (nodup_distinct _) (nodup_distinct _)]
    simp [mem_distinct, same]
  exact perm.eq_of_sortedLE List.sortedLE_insertionSort List.sortedLE_insertionSort

theorem filter_distinct (p : α → Bool) (xs : List α) :
    (distinct xs).filter p = distinct (xs.filter p) := by
  have perm : ((distinct xs).filter p).Perm (distinct (xs.filter p)) := by
    rw [List.perm_ext_iff_of_nodup ((nodup_distinct _).filter _) (nodup_distinct _)]
    simp [mem_distinct]
  have sorted : (distinct xs).SortedLE := List.sortedLE_insertionSort
  exact perm.eq_of_sortedLE (List.Pairwise.sortedLE (sorted.pairwise.filter p)) List.sortedLE_insertionSort

theorem filterMap_distinct_congr {β : Type} {f g : α → Option β} {xs ys : List α}
    (same : ∀ x, f x = g x) (members : ∀ x, (f x).isSome = true → (x ∈ xs ↔ x ∈ ys)) :
    (distinct xs).filterMap f = (distinct ys).filterMap g := by
  have only : ∀ l : List α, l.filterMap f = (l.filter (fun x => (f x).isSome)).filterMap f := by
    intro l
    rw [List.filterMap_filter]
    refine List.filterMap_congr (fun x _ => ?_)
    cases f x <;> rfl
  rw [← funext same, only, only (distinct ys), filter_distinct, filter_distinct]
  refine congrArg _ (distinct_congr (fun x => ?_))
  rw [List.mem_filter, List.mem_filter]
  exact and_congr_left (members x)
end Distinct

theorem head?_orderedInsert (column : ρ → Int) (a : ρ) (sorted : List ρ) :
    (sorted.orderedInsert (fun a b => column b ≤ column a) a).head? =
      match sorted.head? with
      | none => some a
      | some b => if column b ≤ column a then some a else some b := by
  cases sorted with
  | nil => rfl
  | cons b rest =>
    by_cases h : column b ≤ column a <;> simp [List.orderedInsert_cons, h]

theorem head?_descending_eq_none {column : ρ → Int} {rows : List ρ} :
    (descending column rows).head? = none ↔ rows = [] := by
  rw [List.head?_eq_none_iff]
  constructor
  · intro empty
    refine List.eq_nil_iff_forall_not_mem.mpr (fun r member => ?_)
    have sorted : r ∈ descending column rows := mem_descending.mpr member
    rw [empty] at sorted
    cases sorted
  · rintro rfl
    rfl

theorem head?_descending_spec {column : ρ → Int} {rows : List ρ} {r : ρ}
    (first : (descending column rows).head? = some r) : r ∈ rows ∧ ∀ q ∈ rows, column q ≤ column r := by
  have sorted := pairwise_descending column rows
  have members : ∀ q, q ∈ descending column rows ↔ q ∈ rows := fun _ => mem_descending
  cases found : descending column rows with
  | nil =>
    rw [found] at first
    cases first
  | cons most rest =>
    rw [found] at first sorted members
    cases first
    refine ⟨(members r).mp List.mem_cons_self, fun q member => ?_⟩
    rcases List.mem_cons.mp ((members q).mpr member) with rfl | later
    · exact le_rfl
    · exact (List.pairwise_cons.mp sorted).1 q later

theorem head?_descending_iff {column : ρ → Int} {rows : List ρ}
    (apart : ∀ p ∈ rows, ∀ q ∈ rows, column p = column q → p = q) {r : ρ} :
    (descending column rows).head? = some r ↔ r ∈ rows ∧ ∀ q ∈ rows, column q ≤ column r := by
  refine ⟨head?_descending_spec, ?_⟩
  rintro ⟨member, most⟩
  cases found : (descending column rows).head? with
  | none =>
    rw [head?_descending_eq_none.mp found] at member
    cases member
  | some first =>
    obtain ⟨inside, above⟩ := head?_descending_spec found
    rw [apart first inside r member (le_antisymm (most first inside) (above r member))]

theorem head?_descending_append (column : ρ → Int) {rows : List ρ} {r : ρ} (fresh : r ∉ rows) :
    (descending column (rows ++ [r])).head? = some r ↔ ∀ q ∈ rows, column q < column r := by
  induction rows with
  | nil => simp [descending]
  | cons a rows ih =>
    have other : a ≠ r := fun h => fresh (h ▸ List.mem_cons_self)
    have ih := ih (fun h => fresh (List.mem_cons_of_mem _ h))
    have unfolded : (descending column (a :: rows ++ [r])).head? =
        ((descending column (rows ++ [r])).orderedInsert (fun a b => column b ≤ column a) a).head? := rfl
    rw [unfolded, head?_orderedInsert, List.forall_mem_cons, ← ih]
    cases (descending column (rows ++ [r])).head? with
    | none => simp [other]
    | some b =>
      dsimp only
      split
      · next below =>
        refine iff_of_false (by simpa using other) ?_
        rintro ⟨above, same⟩
        cases same
        exact absurd above (not_lt.mpr below)
      · next below =>
        constructor
        · intro same
          cases same
          exact ⟨not_le.mp below, rfl⟩
        · exact fun h => h.2

/-- ORDER BY ... DESC LIMIT 1: among equal keys the row added last. -/
def latest (column : ρ → Int) : List ρ → Option ρ
  | [] => none
  | r :: rest =>
    match latest column rest with
    | none => some r
    | some q => if column q < column r then some r else some q

section Latest
variable {column : ρ → Int}

theorem latest_eq_none {rows : List ρ} : latest column rows = none ↔ rows = [] := by
  cases rows with
  | nil => simp [latest]
  | cons r rest =>
    refine iff_of_false ?_ (List.cons_ne_nil r rest)
    unfold latest
    split
    · exact Option.some_ne_none r
    · split <;> exact Option.some_ne_none _

theorem latest_cons_cases {r q : ρ} {rest : List ρ} (found : latest column (r :: rest) = some q) :
    (rest = [] ∧ q = r) ∨ ∃ t, latest column rest = some t ∧
      ((column t < column r ∧ q = r) ∨ (¬column t < column r ∧ q = t)) := by
  unfold latest at found
  cases tail : latest column rest with
  | none =>
    rw [tail] at found
    cases found
    exact .inl ⟨latest_eq_none.mp tail, rfl⟩
  | some t =>
    rw [tail] at found
    dsimp only at found
    split at found
    · next newer =>
      cases found
      exact .inr ⟨t, rfl, .inl ⟨newer, rfl⟩⟩
    · next older =>
      cases found
      exact .inr ⟨q, rfl, .inr ⟨older, rfl⟩⟩

theorem latest_spec {rows : List ρ} {q : ρ} (found : latest column rows = some q) :
    q ∈ rows ∧ ∀ r ∈ rows, column r ≤ column q := by
  induction rows generalizing q with
  | nil => cases found
  | cons r rest ih =>
    rcases latest_cons_cases found with ⟨rfl, rfl⟩ | ⟨t, tail, ⟨newer, rfl⟩ | ⟨older, rfl⟩⟩
    · simp
    · refine ⟨List.mem_cons_self, ?_⟩
      simp only [List.forall_mem_cons, le_refl, true_and]
      exact fun u inside => ((ih tail).2 u inside).trans (le_of_lt newer)
    · refine ⟨List.mem_cons_of_mem _ (ih tail).1, ?_⟩
      simp only [List.forall_mem_cons]
      exact ⟨not_lt.mp older, (ih tail).2⟩

theorem latest_filter {rows : List ρ} {q : ρ} {p : ρ → Bool} (found : latest column rows = some q)
    (selected : p q = true) : latest column (rows.filter p) = some q := by
  induction rows generalizing q with
  | nil => cases found
  | cons r rest ih =>
    rcases latest_cons_cases found with ⟨rfl, rfl⟩ | ⟨t, tail, ⟨newer, rfl⟩ | ⟨older, rfl⟩⟩
    · simp [selected, latest]
    · rw [List.filter_cons_of_pos selected]
      unfold latest
      cases rest_ : latest column (rest.filter p) with
      | none => rfl
      | some u =>
        have inside := List.mem_of_mem_filter (latest_spec rest_).1
        exact if_pos (lt_of_le_of_lt ((latest_spec tail).2 u inside) newer)
    · have kept := ih tail selected
      rw [List.filter_cons]
      split
      · unfold latest
        rw [kept]
        exact if_neg older
      · exact kept

theorem latest_map {f : ρ → ρ} (same : ∀ r, column (f r) = column r) (rows : List ρ) :
    latest column (rows.map f) = (latest column rows).map f := by
  induction rows with
  | nil => rfl
  | cons r rest ih =>
    rw [List.map_cons]
    unfold latest
    rw [ih]
    cases latest column rest with
    | none => rfl
    | some q =>
      simp only [Option.map_some, same]
      split <;> rfl

end Latest

end OrderBy

section Owners
variable {ρ κ : Type} [DecidableEq κ]

def ownedBy (owner : ρ → κ) (k : κ) (rows : List ρ) : List ρ := rows.filter (fun r => owner r = k)

def transfer (owner : ρ → κ) (give : ρ → ρ) (source : κ) (rows : List ρ) : List ρ :=
  rows.map (fun r => if owner r = source then give r else r)

variable {owner : ρ → κ} {give : ρ → ρ} {source target : κ} {rows : List ρ}

theorem ownedBy_transfer_source (given : ∀ r, owner (give r) = target) (other : target ≠ source) :
    ownedBy owner source (transfer owner give source rows) = [] := by
  unfold ownedBy transfer
  rw [List.filter_eq_nil_iff]
  intro r member
  obtain ⟨q, -, rfl⟩ := List.mem_map.mp member
  by_cases same : owner q = source
  · simpa [same, given] using other
  · simp [same]

theorem ownedBy_transfer_other (given : ∀ r, owner (give r) = target) {k : κ} (notSource : k ≠ source)
    (notTarget : k ≠ target) : ownedBy owner k (transfer owner give source rows) = ownedBy owner k rows := by
  unfold ownedBy transfer
  induction rows with
  | nil => rfl
  | cons r rows ih =>
    simp only [List.map_cons, List.filter_cons, ih]
    by_cases same : owner r = source
    · simp [same, given, notSource.symm, notTarget.symm]
    · simp [same]

theorem ownedBy_transfer_target (given : ∀ r, owner (give r) = target)
    (free : ownedBy owner target rows = []) :
    ownedBy owner target (transfer owner give source rows) = (ownedBy owner source rows).map give := by
  unfold ownedBy at free ⊢
  unfold transfer
  induction rows with
  | nil => rfl
  | cons r rows ih =>
    rw [List.filter_cons] at free
    split at free
    · cases free
    · next other =>
      have apart : owner r ≠ target := by simpa using other
      by_cases same : owner r = source
      · simp [same, given, ih free]
      · simp [same, apart, ih free]

theorem ownedBy_transfer_joined (given : ∀ r, owner (give r) = target)
    (fixed : ∀ r, owner r = target → give r = r) :
    ownedBy owner target (transfer owner give source rows) =
      (rows.filter (fun r => owner r = source ∨ owner r = target)).map give := by
  unfold ownedBy transfer
  induction rows with
  | nil => rfl
  | cons r rows ih =>
    simp only [List.map_cons, List.filter_cons, ih]
    by_cases fromSource : owner r = source
    · simp [fromSource, given]
    · by_cases ofTarget : owner r = target
      · simp [ofTarget, fixed r ofTarget]
      · simp [fromSource, ofTarget]

theorem ownedBy_eq_joined_iff (fixed : ∀ r, owner r = target → give r = r) (other : target ≠ source) :
    ownedBy owner target rows = (rows.filter (fun r => owner r = source ∨ owner r = target)).map give ↔
      ∀ r ∈ rows, owner r ≠ source := by
  have inner : ownedBy owner target rows =
      (rows.filter (fun r => owner r = source ∨ owner r = target)).filter (fun r => owner r = target) := by
    unfold ownedBy
    rw [List.filter_filter]
    refine List.filter_congr (fun r _ => ?_)
    by_cases ofTarget : owner r = target <;> simp [ofTarget]
  constructor
  · intro same r member fromSource
    have length := congrArg List.length same
    rw [inner, List.length_map, List.length_filter_eq_length_iff] at length
    have joined : r ∈ rows.filter (fun r => owner r = source ∨ owner r = target) :=
      List.mem_filter.mpr ⟨member, by simp [fromSource]⟩
    have owned : owner r = target := by simpa using length r joined
    exact other (owned.symm.trans fromSource)
  · intro none_
    have alone : rows.filter (fun r => owner r = source ∨ owner r = target) = ownedBy owner target rows := by
      refine List.filter_congr (fun r member => ?_)
      simp [none_ r member]
    rw [alone]
    conv_lhs => rw [← List.map_id (ownedBy owner target rows)]
    refine List.map_congr_left (fun r member => ?_)
    exact (fixed r (by simpa using List.of_mem_filter member)).symm

theorem transfer_idle (absent : ownedBy owner source rows = []) : transfer owner give source rows = rows := by
  unfold ownedBy at absent
  unfold transfer
  conv_rhs => rw [← List.map_id rows]
  refine List.map_congr_left (fun r member => ?_)
  have other : owner r ≠ source := by simpa using List.filter_eq_nil_iff.mp absent r member
  exact if_neg other

theorem ownedBy_filter_other {k : κ} (other : k ≠ source) :
    ownedBy owner k (rows.filter (fun r => owner r ≠ source)) = ownedBy owner k rows := by
  unfold ownedBy
  rw [List.filter_filter]
  refine List.filter_congr (fun r _ => ?_)
  by_cases same : owner r = k
  · simp [same, other]
  · simp [same]

theorem ownedBy_filter_self : ownedBy owner source (rows.filter (fun r => owner r ≠ source)) = [] := by
  unfold ownedBy
  rw [List.filter_filter, List.filter_eq_nil_iff]
  intro r _
  by_cases same : owner r = source <;> simp [same]

theorem ownedBy_append {k : κ} (more : List ρ) :
    ownedBy owner k (rows ++ more) = ownedBy owner k rows ++ ownedBy owner k more := List.filter_append ..

theorem ownedBy_map {k : κ} {f : ρ → ρ} (keeps : ∀ r, owner (f r) = owner r) :
    ownedBy owner k (rows.map f) = (ownedBy owner k rows).map f := by
  unfold ownedBy
  rw [List.filter_map]
  simp [Function.comp_def, keeps]

theorem ownedBy_filter {k : κ} (p : ρ → Bool) :
    ownedBy owner k (rows.filter p) = (ownedBy owner k rows).filter p := by
  unfold ownedBy
  rw [List.filter_filter, List.filter_filter]
  exact List.filter_congr (fun r _ => Bool.and_comm ..)

theorem ownedBy_update_kept {k : κ} {hit : ρ → Prop} [DecidablePred hit] {f : ρ → ρ}
    (others : ∀ r ∈ rows, hit r → owner r ≠ k ∧ owner (f r) ≠ k) :
    ownedBy owner k (rows.map (fun r => if hit r then f r else r)) = ownedBy owner k rows := by
  unfold ownedBy
  induction rows with
  | nil => rfl
  | cons r rows ih =>
    rw [List.forall_mem_cons] at others
    have ih := ih others.2
    by_cases changed : hit r
    · obtain ⟨before, after_⟩ := others.1 changed
      simp [changed, before, after_, ih]
    · simp [changed, List.filter_cons, ih]

theorem ownedBy_filter_kept {k : κ} {p : ρ → Bool} (others : ∀ r ∈ rows, p r = false → owner r ≠ k) :
    ownedBy owner k (rows.filter p) = ownedBy owner k rows := by
  unfold ownedBy
  rw [List.filter_filter]
  refine List.filter_congr (fun r member => ?_)
  cases kept : p r with
  | true => simp
  | false => simp [others r member kept]

theorem ownedBy_append_kept {k : κ} {more : List ρ} (others : ∀ r ∈ more, owner r ≠ k) :
    ownedBy owner k (rows ++ more) = ownedBy owner k rows := by
  have none_ : more.filter (fun r => decide (owner r = k)) = [] := by
    rw [List.filter_eq_nil_iff]
    simpa using others
  rw [ownedBy, List.filter_append, none_, List.append_nil]
  rfl

end Owners
