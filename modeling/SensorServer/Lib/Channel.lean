import SensorServer.Lib.Run

/-! Layers that carry messages to the members of a group, each of them at most once and in order.
A layer may drop what it has no room for, and time may take messages and memberships away. -/
namespace Channel

/-- What a program asks of a layer, and the passing of time. -/
structure Layer (κ α : Type) where
  State : Type
  groupAdd : State → κ → State
  groupDiscard : State → κ → State
  groupSend : State → α → State
  receive : State → κ → Option α × State
  elapse : State → State

inductive Op (κ α : Type) where
  | groupAdd (channel : κ)
  | groupDiscard (channel : κ)
  | groupSend (message : α)
  | receive (channel : κ)
  | elapse

variable {κ α : Type}

def Op.message? : Op κ α → Option α
  | .groupSend message => some message
  | _ => none

def Layer.step (layer : Layer κ α) (s : layer.State) : Op κ α → layer.State
  | .groupAdd channel => layer.groupAdd s channel
  | .groupDiscard channel => layer.groupDiscard s channel
  | .groupSend message => layer.groupSend s message
  | .receive channel => (layer.receive s channel).2
  | .elapse => layer.elapse s

/-- What a layer holds of a channel: the messages that wait for it, whether it is in the group, and
whether there is room for one more message. -/
structure View (layer : Layer κ α) where
  waiting : layer.State → κ → List α
  member : layer.State → κ → Prop
  room : layer.State → κ → Prop

variable [DecidableEq κ] {layer : Layer κ α}

/-- The promise of a layer: first in first out, at most once, and nothing is dropped for a member
that has room. Of what time does it promises only that it adds nothing. -/
structure View.AtMostOnce (view : View layer) : Prop where
  add : ∀ s c d, view.waiting (layer.groupAdd s c) d = view.waiting s d
  discard : ∀ s c d, view.waiting (layer.groupDiscard s c) d = view.waiting s d
  send : ∀ s a d, (view.waiting (layer.groupSend s a) d).Sublist (view.waiting s d ++ [a])
  carry : ∀ s a d, view.member s d → view.room s d → view.waiting (layer.groupSend s a) d = view.waiting s d ++ [a]
  first : ∀ s c, (layer.receive s c).1 = (view.waiting s c).head?
  rest : ∀ s c d, view.waiting (layer.receive s c).2 d = if d = c then (view.waiting s d).tail else view.waiting s d
  elapse : ∀ s d, (view.waiting (layer.elapse s) d).Sublist (view.waiting s d)
  joins : ∀ s c, view.member (layer.groupAdd s c) c
  stays : ∀ s op d, op ≠ .groupDiscard d → op ≠ .elapse → view.member s d → view.member (layer.step s op) d

/-- The step loses no message of the channel and does not end its membership by time. -/
def View.Spares (view : View layer) (channel : κ) (s : layer.State) : Op κ α → Prop
  | .groupSend _ => view.room s channel
  | .elapse => view.waiting (layer.elapse s) channel = view.waiting s channel ∧
      (view.member s channel → view.member (layer.elapse s) channel)
  | _ => True

/-- What the reader of the channel gets in a step. -/
def Layer.given (layer : Layer κ α) (channel : κ) (s : layer.State) : Op κ α → List α
  | .receive other => if other = channel then (layer.receive s other).1.toList else []
  | _ => []

def Layer.got (layer : Layer κ α) (channel : κ) : layer.State → List (Op κ α) → List α
  | _, [] => []
  | s, op :: ops => layer.given channel s op ++ layer.got channel (layer.step s op) ops

namespace View.AtMostOnce
variable {view : View layer} (promise : view.AtMostOnce) {channel : κ} {s : layer.State}
include promise

theorem received (s : layer.State) (channel other : κ) : layer.given channel s (.receive other) ++
    view.waiting (layer.receive s other).2 channel = view.waiting s channel := by
  rw [Layer.given, promise.first, promise.rest]
  by_cases own : other = channel
  · subst own
    cases queue : view.waiting s other <;> simp
  · rw [if_neg own, if_neg (Ne.symm own), List.nil_append]

/-- A step brings a channel nothing but what is sent, and that once and behind the rest. -/
theorem step (s : layer.State) (channel : κ) (op : Op κ α) :
    (layer.given channel s op ++ view.waiting (layer.step s op) channel).Sublist
    (view.waiting s channel ++ op.message?.toList) := by
  cases op with
  | groupAdd other =>
    have same := promise.add s other channel
    simp [Layer.given, Layer.step, Op.message?, same]
  | groupDiscard other =>
    have same := promise.discard s other channel
    simp [Layer.given, Layer.step, Op.message?, same]
  | groupSend message => exact promise.send s message channel
  | receive other =>
    have same := promise.received s channel other
    simp [Layer.step, Op.message?, same]
  | elapse => simpa [Layer.given, Layer.step, Op.message?] using promise.elapse s channel

theorem run (s : layer.State) (channel : κ) (ops : List (Op κ α)) :
    (layer.got channel s ops ++ view.waiting (Run.run layer.step s ops) channel).Sublist
      (view.waiting s channel ++ ops.filterMap Op.message?) := by
  induction ops generalizing s with
  | nil => simp [Layer.got]
  | cons op ops ih =>
    have first := promise.step s channel op
    have rest := ih (layer.step s op)
    have joined := (rest.append_left (layer.given channel s op)).trans
      (by simpa using first.append_right (ops.filterMap Op.message?))
    have sent : (op :: ops).filterMap Op.message? = op.message?.toList ++ ops.filterMap Op.message? := by
      cases op <;> rfl
    rw [sent, Run.run_cons, Layer.got]
    simpa using joined

/-- A step that spares a member brings it all that is sent. -/
theorem step_spared {op : Op κ α} (member : view.member s channel) (stays : op ≠ .groupDiscard channel)
    (spared : view.Spares channel s op) : view.member (layer.step s op) channel ∧
      layer.given channel s op ++ view.waiting (layer.step s op) channel =
        view.waiting s channel ++ op.message?.toList := by
  cases op with
  | groupAdd other =>
    have same := promise.add s other channel
    exact ⟨promise.stays s _ channel stays nofun member, by simp [Layer.given, Layer.step, Op.message?, same]⟩
  | groupDiscard other =>
    have same := promise.discard s other channel
    exact ⟨promise.stays s _ channel stays nofun member, by simp [Layer.given, Layer.step, Op.message?, same]⟩
  | groupSend message =>
    exact ⟨promise.stays s _ channel stays nofun member, promise.carry s message channel member spared⟩
  | receive other =>
    have same := promise.received s channel other
    exact ⟨promise.stays s _ channel stays nofun member, by simp [Layer.step, Op.message?, same]⟩
  | elapse =>
    obtain ⟨waiting, kept⟩ := spared
    exact ⟨kept member, by simp [Layer.given, Layer.step, Op.message?, waiting]⟩

theorem run_spared {ops : List (Op κ α)} (member : view.member s channel) (stays : .groupDiscard channel ∉ ops)
    (spared : Run.Along layer.step (view.Spares channel) s ops) : view.member (Run.run layer.step s ops) channel ∧
      layer.got channel s ops ++ view.waiting (Run.run layer.step s ops) channel =
        view.waiting s channel ++ ops.filterMap Op.message? := by
  induction ops generalizing s with
  | nil => exact ⟨member, by simp [Layer.got]⟩
  | cons op ops ih =>
    obtain ⟨still, first⟩ := promise.step_spared member (fun leaves => stays (leaves ▸ List.mem_cons_self)) spared.1
    obtain ⟨last, rest⟩ := ih still (fun leaves => stays (List.mem_cons_of_mem _ leaves)) spared.2
    have sent : (op :: ops).filterMap Op.message? = op.message?.toList ++ ops.filterMap Op.message? := by
      cases op <;> rfl
    refine ⟨last, ?_⟩
    rw [sent, Run.run_cons, Layer.got, List.append_assoc, rest, ← List.append_assoc, first, List.append_assoc]

end View.AtMostOnce

/-- A layer that keeps so many messages of a channel, and forgets everything after a day. -/
def bounded (capacity : Nat) : Layer κ α where
  State := List κ × (κ → List α)
  groupAdd s channel := (channel :: s.1, s.2)
  groupDiscard s channel := (s.1.filter (fun c => decide (c ≠ channel)), s.2)
  groupSend s message := (s.1, fun c =>
    if c ∈ s.1 ∧ (s.2 c).length < capacity then s.2 c ++ [message] else s.2 c)
  receive s channel := ((s.2 channel).head?, (s.1, fun c => if c = channel then (s.2 c).tail else s.2 c))
  elapse _ := ([], fun _ => [])

def boundedView (capacity : Nat) : View (bounded (κ := κ) (α := α) capacity) where
  waiting s := s.2
  member s channel := channel ∈ s.1
  room s channel := (s.2 channel).length < capacity

instance decidableMember (capacity : Nat) (channel : κ) (s : (bounded (κ := κ) (α := α) capacity).State) :
    Decidable ((boundedView capacity).member s channel) :=
  inferInstanceAs (Decidable (channel ∈ (show List κ × (κ → List α) from s).1))

instance decidableSpares [DecidableEq α] (capacity : Nat) (channel : κ)
    (s : (bounded (κ := κ) (α := α) capacity).State) :
    ∀ op, Decidable ((boundedView capacity).Spares channel s op)
  | .groupSend _ => inferInstanceAs (Decidable (((boundedView capacity).waiting s channel).length < capacity))
  | .elapse => inferInstanceAs (Decidable ([] = (boundedView capacity).waiting s channel ∧
      ((boundedView capacity).member s channel → channel ∈ ([] : List κ))))
  | .groupAdd _ => inferInstanceAs (Decidable True)
  | .groupDiscard _ => inferInstanceAs (Decidable True)
  | .receive _ => inferInstanceAs (Decidable True)

theorem boundedView_atMostOnce (capacity : Nat) : (boundedView (κ := κ) (α := α) capacity).AtMostOnce where
  add _ _ _ := rfl
  discard _ _ _ := rfl
  send s a d := by
    simp only [boundedView, bounded]
    split
    · exact List.Sublist.refl _
    · exact List.sublist_append_left _ _
  carry s a d member room := if_pos ⟨member, room⟩
  first _ _ := rfl
  rest _ _ _ := rfl
  elapse s d := List.nil_sublist _
  joins s c := List.mem_cons_self
  stays s op d stays lasts member := by
    cases op with
    | groupAdd other => exact List.mem_cons_of_mem _ member
    | groupDiscard other =>
      refine List.mem_filter.mpr ⟨member, decide_eq_true ?_⟩
      rintro rfl
      exact stays rfl
    | groupSend message => exact member
    | receive other => exact member
    | elapse => exact absurd rfl lasts

end Channel
