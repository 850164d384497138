import Mathlib.Data.List.Basic
import Mathlib.Logic.Function.Basic

/-! Maps written key by key, each write a replacement or an addition: running a list of
writes a second time changes nothing. -/
namespace Upsert

/-- What a list of writes does to one key: nothing, an addition, or a replacement. -/
inductive Write (V : Type) where
  | keep
  | add (v : V)
  | put (v : V)

namespace Write
variable {V : Type}

def act : Write V → Option V → Option V
  | keep, o => o
  | add v, o => some (o.getD v)
  | put v, _ => some v

def comp : Write V → Write V → Write V
  | w, keep => w
  | _, put v => put v
  | keep, add v => add v
  | add u, add _ => add u
  | put u, add _ => put u

theorem act_comp (first second : Write V) (o : Option V) :
    (first.comp second).act o = second.act (first.act o) := by
  cases first <;> cases second <;> rfl

theorem act_act (w : Write V) (o : Option V) : w.act (w.act o) = w.act o := by cases w <;> rfl

theorem isSome_act {o : Option V} (present : o.isSome = true) (w : Write V) : (w.act o).isSome = true := by
  cases w with
  | keep => exact present
  | _ => rfl

end Write

variable {K V : Type} [DecidableEq K]

def upsert (s : K → Option V) (op : K × Write V) : K → Option V :=
  Function.update s op.1 (op.2.act (s op.1))

theorem upsert_apply (s : K → Option V) (op : K × Write V) (k : K) :
    upsert s op k = if k = op.1 then op.2.act (s op.1) else s k := Function.update_apply ..

def upserts (s : K → Option V) (ops : List (K × Write V)) : K → Option V := ops.foldl upsert s

def writeAt (k : K) : List (K × Write V) → Write V
  | [] => .keep
  | op :: ops => if op.1 = k then op.2.comp (writeAt k ops) else writeAt k ops

theorem upserts_apply (s : K → Option V) (ops : List (K × Write V)) (k : K) :
    upserts s ops k = (writeAt k ops).act (s k) := by
  induction ops generalizing s with
  | nil => rfl
  | cons op ops ih =>
    change upserts (upsert s op) ops k = _
    rw [ih, writeAt, upsert]
    by_cases own : op.1 = k
    · subst own
      rw [if_pos rfl, Write.act_comp, Function.update_self]
    · rw [if_neg own, Function.update_of_ne (Ne.symm own)]

/-- A second run of the list finds what it would write. -/
theorem upserts_upserts (s : K → Option V) (ops : List (K × Write V)) :
    upserts (upserts s ops) ops = upserts s ops := by
  funext k
  rw [upserts_apply, upserts_apply, Write.act_act]

theorem isSome_upsert {s : K → Option V} {k : K} (present : (s k).isSome = true) (op : K × Write V) :
    (upsert s op k).isSome = true := by
  rw [upsert_apply]
  split
  · next own => exact Write.isSome_act (own ▸ present) op.2
  · exact present

theorem isSome_upserts {s : K → Option V} {k : K} (present : (s k).isSome = true) (ops : List (K × Write V)) :
    (upserts s ops k).isSome = true := by
  rw [upserts_apply]
  exact Write.isSome_act present _

end Upsert
