import SensorServer.Lib.Float
import Mathlib.Data.List.Sort

/-! Python values as json.loads builds them, dictionaries in insertion order, and
the equality and storage rules of a jsonb column. -/

namespace Dict
variable {β : Type}

def get? (d : List (String × β)) (key : String) : Option β := d.lookup key

def set (d : List (String × β)) (key : String) (value : β) : List (String × β) :=
  match d with
  | [] => [(key, value)]
  | (k, v) :: rest => if k = key then (k, value) :: rest else (k, v) :: set rest key value

def update (d updates : List (String × β)) : List (String × β) :=
  updates.foldl (fun acc kv => set acc kv.1 kv.2) d

def keys (d : List (String × β)) : List String := d.map Prod.fst

theorem get?_set_self (d : List (String × β)) (key : String) (value : β) :
    get? (set d key value) key = some value := by
  induction d with
  | nil => simp [set, get?]
  | cons kv rest ih =>
    obtain ⟨k, v⟩ := kv
    simp only [get?] at ih
    by_cases h : k = key
    · simp [set, get?, h]
    · have other : (key == k) = false := by simpa using Ne.symm h
      simp only [set, get?, h, if_false, List.lookup_cons, other, ih]

theorem get?_set_other (d : List (String × β)) {key other : String} (value : β) (ne : other ≠ key) :
    get? (set d key value) other = get? d other := by
  have skip : (other == key) = false := by simpa using ne
  induction d with
  | nil => simp only [set, get?, List.lookup_cons, List.lookup_nil, skip]
  | cons kv rest ih =>
    obtain ⟨k, v⟩ := kv
    simp only [get?] at ih
    by_cases h : k = key
    · subst h
      simp only [set, get?, if_true, List.lookup_cons, skip]
    · simp only [set, get?, h, if_false, List.lookup_cons, ih]

end Dict

inductive Json where
  | null
  | bool (b : Bool)
  | int (i : Int)
  | float (f : PyFloat)
  | str (s : String)
  | arr (items : List Json)
  | obj (fields : List (String × Json))

abbrev Fields := List (String × Json)

namespace Json

mutual
def beq : Json → Json → Bool
  | .null, .null => true
  | .bool a, .bool b => a == b
  | .int a, .int b => a == b
  | .float a, .float b => a == b
  | .str a, .str b => a == b
  | .arr a, .arr b => beqItems a b
  | .obj a, .obj b => beqFields a b
  | _, _ => false
def beqItems : List Json → List Json → Bool
  | [], [] => true
  | a :: as, b :: bs => beq a b && beqItems as bs
  | _, _ => false
def beqFields : List (String × Json) → List (String × Json) → Bool
  | [], [] => true
  | (k, a) :: as, (l, b) :: bs => k == l && beq a b && beqFields as bs
  | _, _ => false
end

mutual
theorem eq_of_beq : ∀ a b : Json, beq a b = true → a = b
  | .null, b => by cases b <;> simp [beq]
  | .bool _, b => by cases b <;> simp [beq]
  | .int _, b => by cases b <;> simp [beq]
  | .float _, b => by cases b <;> simp [beq]
  | .str _, b => by cases b <;> simp [beq]
  | .arr as, b => by
    cases b with
    | arr bs => exact fun h => congrArg _ (eq_of_beqItems as bs h)
    | _ => simp [beq]
  | .obj as, b => by
    cases b with
    | obj bs => exact fun h => congrArg _ (eq_of_beqFields as bs h)
    | _ => simp [beq]
theorem eq_of_beqItems : ∀ as bs : List Json, beqItems as bs = true → as = bs
  | [], bs => by cases bs <;> simp [beqItems]
  | a :: as, bs => by
    cases bs with
    | nil => simp [beqItems]
    | cons b bs =>
      intro h
      simp only [beqItems, Bool.and_eq_true] at h
      rw [eq_of_beq a b h.1, eq_of_beqItems as bs h.2]
theorem eq_of_beqFields : ∀ as bs : List (String × Json), beqFields as bs = true → as = bs
  | [], bs => by cases bs <;> simp [beqFields]
  | (k, a) :: as, bs => by
    cases bs with
    | nil => simp [beqFields]
    | cons b bs =>
      obtain ⟨l, b⟩ := b
      intro h
      simp only [beqFields, Bool.and_eq_true, beq_iff_eq] at h
      rw [h.1.1, eq_of_beq a b h.1.2, eq_of_beqFields as bs h.2]
end

mutual
theorem beq_refl : ∀ a : Json, beq a a = true
  | .null | .bool _ | .int _ | .float _ | .str _ => by simp [beq]
  | .arr as => beqItems_refl as
  | .obj as => beqFields_refl as
theorem beqItems_refl : ∀ as : List Json, beqItems as as = true
  | [] => rfl
  | a :: as => by simp [beqItems, beq_refl a, beqItems_refl as]
theorem beqFields_refl : ∀ as : List (String × Json), beqFields as as = true
  | [] => rfl
  | (k, a) :: as => by simp [beqFields, beq_refl a, beqFields_refl as]
end

instance : DecidableEq Json := fun a b =>
  decidable_of_iff (beq a b = true) ⟨eq_of_beq a b, fun h => h ▸ beq_refl a⟩

def truthy : Json → Bool
  | .null => false
  | .bool b => b
  | .int i => i ≠ 0
  | .float f => !PyFloat.eqv f (.finite 0)
  | .str s => s ≠ ""
  | .arr items => !items.isEmpty
  | .obj fields => !fields.isEmpty

def asFloat : Json → Option PyFloat
  | .int i => PyFloat.ofInt i
  | .float f => some f
  | _ => none

def isNumber : Json → Bool
  | .int _ | .float _ => true
  | _ => false

mutual
def norm : Json → Json
  | .int i => .float (.finite i)
  | .arr items => .arr (normItems items)
  | .obj fields => .obj ((normFields fields).insertionSort (fun a b => a.1 ≤ b.1))
  | other => other
def normItems : List Json → List Json
  | [] => []
  | x :: xs => norm x :: normItems xs
def normFields : List (String × Json) → List (String × Json)
  | [] => []
  | (k, x) :: xs => (k, norm x) :: normFields xs
end

def same (a b : Json) : Bool := decide (a.norm = b.norm)

theorem same_str {a : Json} {s : String} : same a (.str s) = true ↔ a = .str s := by
  cases a <;> simp [same, norm]

end Json

def nulFree (s : String) : Bool := s.toList.all (· ≠ '\x00')

def varchar (n : Nat) (s : String) : Bool := nulFree s && decide (s.toList.length ≤ n)

mutual
/-- jsonb refuses NaN and the infinities, and NUL in any string. -/
def Json.storable : Json → Bool
  | .null | .bool _ | .int _ => true
  | .float f => f.isFinite
  | .str s => nulFree s
  | .arr items => storableItems items
  | .obj fields => storableFields fields
def storableItems : List Json → Bool
  | [] => true
  | x :: xs => x.storable && storableItems xs
def storableFields : List (String × Json) → Bool
  | [] => true
  | (k, x) :: xs => nulFree k && x.storable && storableFields xs
end

inductive Decoded where
  | value (json : Json)
  /-- JSONDecodeError or UnicodeDecodeError, which the callers catch -/
  | malformed
  /-- any other exception: nesting beyond the recursion limit, an integer of more digits than int() reads -/
  | uncaught
  deriving DecidableEq
