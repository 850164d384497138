import Mathlib.Algebra.Order.Ring.Unbundled.Rat
import Mathlib.Data.Rat.Floor
import Mathlib.Tactic.Linarith

/-! Binary floating point up to rounding: a finite number is the rational it
denotes, so arithmetic is exact, and the special values follow the IEEE rules. -/

inductive PyFloat where
  | nan
  | inf (negative : Bool)
  | finite (value : Rat)
  deriving DecidableEq, Repr

namespace PyFloat

def nearestMantissa (n : Nat) : Nat :=
  let shift := (n.log2 + 1) - 53
  let unit := 2 ^ shift
  let low := n / unit
  let rest := n % unit
  if 2 * rest < unit then low * unit
  else if unit < 2 * rest then (low + 1) * unit
  else if low % 2 = 0 then low * unit else (low + 1) * unit

/-- Conversion of an unbounded integer; none where it would overflow. -/
def ofInt (i : Int) : Option PyFloat :=
  if i.natAbs < 2 ^ 1024 - 2 ^ 970 then some (.finite (i.sign * nearestMantissa i.natAbs)) else none

def lt : PyFloat → PyFloat → Bool
  | .nan, _ | _, .nan => false
  | .inf a, .inf b => a && !b
  | .inf a, .finite _ => a
  | .finite _, .inf b => !b
  | .finite a, .finite b => a < b

def eqv : PyFloat → PyFloat → Bool
  | .nan, _ | _, .nan => false
  | .inf a, .inf b => a == b
  | .finite a, .finite b => a == b
  | _, _ => false

def le (a b : PyFloat) : Bool := lt a b || eqv a b

def trunc : PyFloat → Option Int
  | .finite q => some (if 0 ≤ q then q.floor else -(-q).floor)
  | _ => none

def roundHalfEven (q : Rat) : Int :=
  let low := q.floor
  if q - low < 1 / 2 then low
  else if 1 / 2 < q - low then low + 1
  else if low % 2 = 0 then low else low + 1

def round (digits : Nat) : PyFloat → PyFloat
  | .finite q => .finite (roundHalfEven (q * 10 ^ digits) / 10 ^ digits)
  | special => special

def add : PyFloat → PyFloat → PyFloat
  | .nan, _ | _, .nan => .nan
  | .inf a, .inf b => if a = b then .inf a else .nan
  | .inf a, .finite _ | .finite _, .inf a => .inf a
  | .finite a, .finite b => .finite (a + b)

def divNat (a : PyFloat) (n : Nat) : PyFloat :=
  match a with
  | .finite q => .finite (q / n)
  | special => special

def sum (xs : List PyFloat) : PyFloat := xs.foldl add (.finite 0)

def isFinite : PyFloat → Bool
  | .finite _ => true
  | _ => false

theorem eq_of_eqv {a b : PyFloat} (h : eqv a b = true) : a = b := by
  cases a <;> cases b <;> simp_all [eqv]

theorem le_finite_iff {a b : Rat} : le (.finite a) (.finite b) = true ↔ a ≤ b := by
  simp only [le, lt, eqv, Bool.or_eq_true, decide_eq_true_eq, beq_iff_eq]
  exact le_iff_lt_or_eq.symm

/-! Rounding to even: an integer is at least the rounded number if the midpoint above it is. -/

/-- On the side of an integer from the midpoint above it, which goes to the even neighbour. -/
def Below (q : Rat) (j : Int) : Prop := q < j + 1 / 2 ∨ (q = j + 1 / 2 ∧ j % 2 = 0)

theorem roundHalfEven_le_iff {q : Rat} {j : Int} : roundHalfEven q ≤ j ↔ Below q j := by
  have low : (q.floor : Rat) ≤ q := Rat.floor_le q
  have high : q < q.floor + 1 := by exact_mod_cast Rat.lt_floor_add_one q
  unfold roundHalfEven Below
  generalize q.floor = n at low high
  dsimp only
  split
  · next near =>
    constructor
    · intro le
      have cast : (n : Rat) ≤ j := by exact_mod_cast le
      exact .inl (by linarith)
    · rintro (less | ⟨equal, -⟩)
      · have cast : (n : Rat) < j + 1 := by linarith
        exact Int.lt_add_one_iff.mp (by exact_mod_cast cast)
      · have cast : (n : Rat) < j + 1 := by linarith
        exact Int.lt_add_one_iff.mp (by exact_mod_cast cast)
  · next far =>
    split
    · next above =>
      constructor
      · intro le
        have cast : (n : Rat) + 1 ≤ j := by exact_mod_cast le
        exact .inl (by linarith)
      · intro below
        have bound : q ≤ j + 1 / 2 := below.elim le_of_lt (fun tie => tie.1.le)
        have cast : (n : Rat) < j := by linarith
        have less : n < j := by exact_mod_cast cast
        omega
    · next notAbove =>
      have tie : q = n + 1 / 2 := by linarith
      subst tie
      have order : (n : Rat) + 1 / 2 < j + 1 / 2 ↔ n < j := by
        rw [add_lt_add_iff_right, Int.cast_lt]
      have same : (n : Rat) + 1 / 2 = j + 1 / 2 ↔ n = j := by
        rw [add_left_inj, Int.cast_inj]
      rw [order, same]
      split <;> omega

theorem roundHalfEven_eq_iff {a b : Rat} :
    roundHalfEven a = roundHalfEven b ↔ ∀ j, Below a j ↔ Below b j := by
  simp only [← roundHalfEven_le_iff]
  constructor
  · intro same j
    rw [same]
  · intro sides
    exact le_antisymm ((sides _).mpr le_rfl) ((sides _).mp le_rfl)

def IsNearest (n : Int) (q : Rat) : Prop := Below q n ∧ ¬ Below q (n - 1)

theorem isNearest_iff {n : Int} {q : Rat} : IsNearest n q ↔ roundHalfEven q = n := by
  unfold IsNearest
  rw [← roundHalfEven_le_iff, ← roundHalfEven_le_iff]
  omega

theorem round_finite_inj {a b : Rat} (digits : Nat) :
    round digits (.finite a) = round digits (.finite b) ↔
      roundHalfEven (a * 10 ^ digits) = roundHalfEven (b * 10 ^ digits) := by
  have scale : (10 : Rat) ^ digits ≠ 0 := pow_ne_zero _ (by decide)
  simp only [round, PyFloat.finite.injEq, div_left_inj' scale, Int.cast_inj]

end PyFloat
