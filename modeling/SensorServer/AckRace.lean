import SensorServer.Acks
import SensorServer.DeviceViews

/-! A user command is published before its row exists, so its ack can be handled
in between: the race of one web request with the worker, statement by statement. -/
namespace SensorServer
open Program

inductive Statement where
  | publish | insert | lookup | update
  deriving DecidableEq, Repr

structure Exchange where
  env : Env
  device : Device
  command : Json
  sentBy : Option String
  ack : Delivery

/-- The shared state, and the row the worker holds between its two statements. -/
structure Race where
  world : World
  found : Option AckMark

namespace Exchange

def step (x : Exchange) (r : Race) : Statement → Race
  | .publish =>
    { r with world := after (mqttPublish x.env (commandTopic x.device) x.command false 1) r.world }
  | .insert => { r with world := after (createCommandLog x.env x.device x.command x.sentBy) r.world }
  | .lookup =>
    match outcome (ackLookup x.ack.deviceId x.ack.payload) r.world with
    | (.ok found, w) => ⟨w, found⟩
    | (.error _, w) => ⟨w, none⟩
  | .update => { r with world := after (ackUpdate x.ack.env r.found) r.world }

def final (x : Exchange) (w : World) (schedule : List Statement) : World :=
  (Run.run x.step ⟨w, none⟩ schedule).world

theorem deliver_eq_final (x : Exchange) (w : World) (isAck : x.ack.kind = .ack) :
    deliver w x.ack = x.final w [.lookup, .update] := by
  unfold deliver final handleMessage
  rw [isAck]
  simp only [handleAckMessage, after, outcome_bind, Run.run_cons, Run.run_nil, step]
  rcases outcome (ackLookup x.ack.deviceId x.ack.payload) w with ⟨_ | found, t⟩ <;> rfl

theorem publishAndRecord_eq_final (x : Exchange) (w : World) (user : User)
    (sender : x.sentBy = some user.username) (taken : x.env.broker w.published.length = true)
    (response : Response) :
    after (publishAndRecord x.env x.device x.command user (pure response)) w =
      x.final w [.publish, .insert] := by
  unfold publishAndRecord final after
  simp only [outcome_bind, outcome_attempt, outcome_mqttPublish, taken, Run.run_cons, Run.run_nil,
    step, after, sender]
  simp only [if_true, Bool.not_true, Bool.false_eq_true, if_false, outcome_bind]
  split <;> simp_all

theorem publishCalibrationCommand_eq_final (x : Exchange) (w : World) (user : User)
    (sender : x.sentBy = some user.username) (taken : x.env.broker w.published.length = true) :
    after (publishCalibrationCommand x.env x.device x.command user) w =
      x.final w [.publish, .insert] := by
  unfold publishCalibrationCommand final
  rw [after_attempt]
  simp only [after, outcome_bind, outcome_mqttPublish, taken, if_true, Run.run_cons, Run.run_nil,
    step, sender]

theorem sendOtaUpdate_eq_final (x : Exchange) (w : World) (firmware : Firmware)
    (command : x.command = otaCommand x.env firmware)
    (allowed : otaGuard x.env x.device firmware = none)
    (taken : x.env.broker w.published.length = true) :
    after (sendOtaUpdate x.env x.device firmware x.sentBy) w = x.final w [.publish, .insert] := by
  unfold sendOtaUpdate final
  rw [allowed]
  simp only [after, outcome_bind, outcome_mqttPublish, taken, if_true, Run.run_cons, Run.run_nil,
    step, command]

/-! A row the request creates is the one with the id handed out next. While every row
with that id is pending, the acknowledgement is not recorded. -/

/-- The row is resolved by the ack, and no wake-up sends it again. -/
def Recorded (db : Db) (id : Nat) (status : CommandStatus) : Prop :=
  ∃ row ∈ db.commandLogs.rows, row.id = id ∧ row.status = status ∧ status.terminal = true ∧
    row.acked = true ∧ row ∉ flushRows db row.device

instance (db : Db) (id : Nat) (status : CommandStatus) : Decidable (Recorded db id status) :=
  inferInstanceAs (Decidable (∃ row ∈ db.commandLogs.rows, _))

def Unresolved (w : World) (id : Nat) : Prop :=
  ∀ row ∈ w.db.commandLogs.rows, row.id = id → row.status = .pending

theorem Unresolved.not_recorded {w : World} {id : Nat} {status : CommandStatus}
    (h : Unresolved w id) : ¬ Recorded w.db id status := by
  rintro ⟨row, member, same, is, terminal, -⟩
  rw [← is, h row member same] at terminal
  exact Bool.noConfusion terminal

theorem unresolved_next (w : World) : Unresolved w w.db.commandLogs.next :=
  fun _ member same => absurd same (w.db.commandLogs.next_fresh member)

variable (x : Exchange) {w : World}

theorem publish_step (found : Option AckMark) :
    ∃ v, x.step ⟨w, found⟩ .publish = ⟨v, found⟩ ∧ v.db = w.db :=
  ⟨_, rfl, by rw [after_mqttPublish]; rfl⟩

theorem unresolved_insert {id : Nat} (found : Option AckMark) (h : Unresolved w id) :
    Unresolved (x.step ⟨w, found⟩ .insert).world id := by
  simp only [step, createCommandLog, after_addCommandLog]
  split
  · intro row member same
    rcases List.mem_append.mp member with old | new
    · exact h row old same
    · rw [List.mem_singleton.mp new]
  · exact h

theorem unresolved_update {id : Nat} {found : Option AckMark} (h : Unresolved w id)
    (elsewhere : ∀ m, found = some m → m.row.id ≠ id ∨ nulFree (pyTake 256 m.message) = false) :
    Unresolved (x.step ⟨w, found⟩ .update).world id := by
  simp only [step, ackUpdate]
  cases found with
  | none => exact h
  | some m =>
    simp only [after_markCommand]
    split
    · next storable =>
      have other : m.row.id ≠ id := by
        rcases elsewhere m rfl with other | nul
        · exact other
        · exact absurd storable (by simp [nul])
      intro row member same
      obtain ⟨old, present, rfl⟩ := List.mem_map.mp member
      by_cases hit : old.id = m.row.id
      · rw [if_pos (by simpa using hit)] at same
        exact absurd (hit.symm.trans same) other
      · rw [if_neg (by simpa using hit)] at same ⊢
        exact h old present same
    · exact h

def lookedUp (action : Json) (db : Db) : Option AckMark :=
  if x.ack.payload.size ≤ maxPayloadSize ∧ action.truthy = true then
    (ackTarget db x.device.deviceId action).map (fun row => ⟨row, x.ack.acked, x.ack.text⟩)
  else none

theorem lookup_step {action : Json} (known : (w.device? x.device.deviceId).isSome)
    (ack : IsAck x.device.deviceId action x.ack) (found : Option AckMark) :
    ∃ v, x.step ⟨w, found⟩ .lookup = ⟨v, x.lookedUp action w.db⟩ ∧ v.db.commandLogs = w.db.commandLogs := by
  obtain ⟨device, known⟩ := Option.isSome_iff_exists.mp known
  unfold lookedUp
  split
  · next taken =>
    refine ⟨w, ?_, rfl⟩
    simp only [step, ackLookup_taken known ack taken.1 taken.2]
  · next missed =>
    have dropped : ¬ x.ack.payload.size ≤ maxPayloadSize ∨ action.truthy = false := by
      rw [not_and_or] at missed
      exact missed.imp id (by simp)
    obtain ⟨empty, logs⟩ := @ackLookup_missed w _ _ _ ack dropped
    unfold after at logs
    simp only [step]
    rcases ho : outcome (ackLookup x.ack.deviceId x.ack.payload) w with ⟨_ | target, v⟩
    · exact ⟨v, rfl, by simpa [ho] using logs⟩
    · refine ⟨v, ?_, by simpa [ho] using logs⟩
      rw [empty target (by rw [ho])]

def row (w : World) : CommandLog :=
  { id := w.db.commandLogs.next, device := x.device.deviceId, command := x.command,
    sentAt := x.env.now, sentBy := x.sentBy }

theorem insert_step (found : Option AckMark) (storable : x.command ≠ .null ∧ x.command.storable = true) :
    ∃ v, x.step ⟨w, found⟩ .insert = ⟨v, found⟩ ∧ v.db.devices = w.db.devices ∧
      v.db.commandLogs.rows = w.db.commandLogs.rows ++ [x.row w] := by
  refine ⟨_, rfl, ?_, ?_⟩ <;>
  · rw [createCommandLog, after_addCommandLog, if_pos storable]
    rfl

theorem row_fresh {deviceId : String} {action : Json} :
    x.row w ∉ pendingCommands w.db deviceId action :=
  fun h => w.db.commandLogs.next_fresh (List.mem_of_mem_filter h) rfl

theorem pendingCommands_row {action : Json} (sameAction : hasAction action x.command = true) {v : World}
    (rows : v.db.commandLogs.rows = w.db.commandLogs.rows ++ [x.row w]) :
    pendingCommands v.db x.device.deviceId action =
      pendingCommands w.db x.device.deviceId action ++ [x.row w] := by
  unfold pendingCommands
  rw [rows, List.filter_append]
  simp [row, sameAction]

theorem ackTarget_row {action : Json} (sameAction : hasAction action x.command = true) {v : World}
    (rows : v.db.commandLogs.rows = w.db.commandLogs.rows ++ [x.row w]) :
    ackTarget v.db x.device.deviceId action = some (x.row w) ↔
      ∀ r ∈ pendingCommands w.db x.device.deviceId action, r.sentAt < x.env.now := by
  unfold ackTarget pendingNewestFirst
  rw [x.pendingCommands_row sameAction rows, OrderBy.head?_descending_append _ x.row_fresh]
  rfl

theorem lookedUp_elsewhere {action : Json} {db : Db} (rows : db.commandLogs = w.db.commandLogs)
    (m : AckMark) (found : x.lookedUp action db = some m) : m.row.id ≠ w.db.commandLogs.next := by
  unfold lookedUp at found
  split at found
  · obtain ⟨r, target, rfl⟩ := Option.map_eq_some_iff.mp found
    have member := ackTarget_mem target
    rw [rows] at member
    exact w.db.commandLogs.next_fresh member
  · cases found

theorem unresolved_row {v : World}
    (rows : v.db.commandLogs.rows = w.db.commandLogs.rows ++ [x.row w]) :
    Unresolved v w.db.commandLogs.next := by
  unfold Unresolved
  rw [rows]
  intro r member same
  rcases List.mem_append.mp member with old | new
  · exact absurd same (w.db.commandLogs.next_fresh old)
  · rw [List.mem_singleton.mp new]
    rfl

theorem insert_refused (notStorable : x.command.storable ≠ true) (mark : Option AckMark) :
    x.step ⟨w, mark⟩ .insert = ⟨w, mark⟩ := by
  simp only [step, createCommandLog, after_addCommandLog, notStorable]
  simp

theorem recorded_update {v : World} {found : AckMark} (rows : x.row w ∈ v.db.commandLogs.rows)
    (hit : found.row = x.row w) (status : found.status.terminal = true)
    (storable : nulFree (pyTake 256 found.message) = true) :
    Recorded (x.step ⟨v, some found⟩ .update).world.db w.db.commandLogs.next found.status := by
  refine ⟨(x.row w).mark found.status found.message x.ack.env.now, ?_, rfl, rfl, status, status, ?_⟩
  · simp only [step, ackUpdate, after_markCommand, if_pos storable]
    refine List.mem_map.mpr ⟨x.row w, rows, ?_⟩
    rw [hit, if_pos (by simp)]
  · intro again
    have selected := List.of_mem_filter (OrderBy.mem_ascending.mp again)
    simp [status] at selected

section Orders
variable {action : Json} (known : (w.device? x.device.deviceId).isSome)
  (ack : IsAck x.device.deviceId action x.ack)

theorem readable_iff : x.ack.readable action = true ↔
    (x.ack.payload.size ≤ maxPayloadSize ∧ action.truthy = true) ∧
      nulFree (pyTake 256 x.ack.text) = true := by
  simp [Delivery.readable, and_assoc]

include known ack

/-- An ack looked up before the row of its command exists finds another row, or none. -/
theorem publish_lookup : ∃ w₁ w₂ found,
    x.step ⟨w, none⟩ .publish = ⟨w₁, none⟩ ∧ x.step ⟨w₁, none⟩ .lookup = ⟨w₂, found⟩ ∧
      Unresolved w₂ w.db.commandLogs.next ∧
      ∀ m, found = some m →
        m.row.id ≠ w.db.commandLogs.next ∨ nulFree (pyTake 256 m.message) = false := by
  obtain ⟨w₁, published, db₁⟩ := @Exchange.publish_step x w none
  have known₁ : (w₁.device? x.device.deviceId).isSome := by
    unfold World.device?
    rw [db₁]
    exact known
  obtain ⟨w₂, looked, logs⟩ := x.lookup_step known₁ ack none
  refine ⟨w₁, w₂, _, published, looked, ?_, ?_⟩
  · unfold Unresolved
    rw [logs, ← db₁]
    exact unresolved_next w₁
  · intro m found
    exact .inl (x.lookedUp_elsewhere (by rw [db₁]) m found)

theorem not_recorded_unstored {status : CommandStatus} (notStorable : x.command.storable ≠ true) :
    ¬ Recorded (x.final w [.publish, .insert, .lookup, .update]).db
      w.db.commandLogs.next status := by
  obtain ⟨w₁, w₂, found, published, looked, pending, elsewhere⟩ := x.publish_lookup known ack
  unfold final
  simp only [Run.run_cons, Run.run_nil, published, x.insert_refused notStorable, looked]
  exact Unresolved.not_recorded (x.unresolved_update pending elsewhere)

omit known ack in
theorem lookedUp_refused {db : Db}
    (rows : db.commandLogs.rows = w.db.commandLogs.rows ++ [x.row w])
    (refused : ¬ (x.ack.readable action = true ∧
      ackTarget db x.device.deviceId action = some (x.row w)))
    (m : AckMark) (found : x.lookedUp action db = some m) :
    m.row.id ≠ w.db.commandLogs.next ∨ nulFree (pyTake 256 m.message) = false := by
  unfold lookedUp at found
  split at found
  · next taken =>
    obtain ⟨r, target, rfl⟩ := Option.map_eq_some_iff.mp found
    by_cases hit : r = x.row w
    · subst hit
      right
      by_contra text
      exact refused ⟨x.readable_iff.mpr ⟨taken, by simpa using text⟩, target⟩
    · left
      have member := ackTarget_mem target
      rw [rows] at member
      rcases List.mem_append.mp member with old | new
      · exact w.db.commandLogs.next_fresh old
      · exact absurd (List.mem_singleton.mp new) hit
  · cases found

theorem recorded_insert_first (sameAction : hasAction action x.command = true) :
    Recorded (x.final w [.publish, .insert, .lookup, .update]).db w.db.commandLogs.next x.ack.acked ↔
      x.command.storable = true ∧ x.ack.readable action = true ∧
        ∀ r ∈ pendingCommands w.db x.device.deviceId action, r.sentAt < x.env.now := by
  by_cases storable : x.command.storable = true
  swap
  · exact iff_of_false (x.not_recorded_unstored known ack storable) (fun h => storable h.1)
  obtain ⟨w₁, published, db₁⟩ := @Exchange.publish_step x w none
  have notNull : x.command ≠ .null := by
    intro null
    rw [null] at sameAction
    exact Bool.noConfusion sameAction
  obtain ⟨w₂, inserted, devices, rows⟩ := x.insert_step (w := w₁) none ⟨notNull, storable⟩
  have known₂ : (w₂.device? x.device.deviceId).isSome := by
    unfold World.device?
    rw [devices, db₁]
    exact known
  obtain ⟨w₃, looked, logs⟩ := x.lookup_step known₂ ack none
  have sameRow : x.row w₁ = x.row w := by simp [row, db₁]
  rw [db₁, sameRow] at rows
  unfold final
  simp only [Run.run_cons, Run.run_nil, published, inserted, looked]
  rw [← x.ackTarget_row sameAction rows]
  constructor
  · intro recorded
    by_contra refused
    refine (Unresolved.not_recorded (x.unresolved_update ?_ ?_)) recorded
    · exact x.unresolved_row (by rw [logs, rows])
    · exact x.lookedUp_refused rows (fun h => refused ⟨storable, h⟩)
  · rintro ⟨-, readable, target⟩
    obtain ⟨taken, text⟩ := x.readable_iff.mp readable
    have found : x.lookedUp action w₂.db = some ⟨x.row w, x.ack.acked, x.ack.text⟩ := by
      rw [lookedUp, if_pos taken, target]
      rfl
    have present : x.row w ∈ w₃.db.commandLogs.rows := by
      rw [logs, rows]
      exact List.mem_append_right _ (List.mem_singleton.mpr rfl)
    rw [found]
    exact x.recorded_update present rfl (acked_terminal _) text

theorem not_recorded_lookup_first {status : CommandStatus} :
    ¬ Recorded (x.final w [.publish, .lookup, .insert, .update]).db w.db.commandLogs.next status ∧
    ¬ Recorded (x.final w [.publish, .lookup, .update, .insert]).db w.db.commandLogs.next status := by
  obtain ⟨w₁, w₂, found, published, looked, pending, elsewhere⟩ := x.publish_lookup known ack
  unfold final
  simp only [Run.run_cons, Run.run_nil, published, looked]
  constructor
  · exact Unresolved.not_recorded (x.unresolved_update (x.unresolved_insert _ pending) elsewhere)
  · exact Unresolved.not_recorded (x.unresolved_insert _ (x.unresolved_update pending elsewhere))

end Orders

theorem schedule_cases {schedule : List Statement}
    (merged : Interleaved [.publish, .insert] [.lookup, .update] schedule)
    (causal : schedule.head? = some .publish) :
    schedule = [.publish, .insert, .lookup, .update] ∨ schedule = [.publish, .lookup, .insert, .update] ∨
      schedule = [.publish, .lookup, .update, .insert] := by
  cases merged with
  | left rest => exact rest.one_two.imp (congrArg _) (Or.imp (congrArg _) (congrArg _))
  | right _ => cases causal

/-- An ack handled after the publish is recorded on the row of its command exactly when
the row is inserted before the query, PostgreSQL takes both writes, the handler takes the
ack up, and no pending row of the same action is as new. -/
theorem ack_recorded_iff (w : World) {action : Json} {schedule : List Statement}
    (known : (w.device? x.device.deviceId).isSome) (ack : IsAck x.device.deviceId action x.ack)
    (sameAction : hasAction action x.command = true)
    (merged : Interleaved [.publish, .insert] [.lookup, .update] schedule)
    (causal : schedule.head? = some .publish) :
    Recorded (x.final w schedule).db w.db.commandLogs.next x.ack.acked ↔
      schedule.idxOf .insert < schedule.idxOf .lookup ∧ x.command.storable = true ∧
        x.ack.readable action = true ∧
        ∀ r ∈ pendingCommands w.db x.device.deviceId action, r.sentAt < x.env.now := by
  have late : ¬ Recorded (x.final w [.publish, .lookup, .insert, .update]).db w.db.commandLogs.next x.ack.acked ∧
      ¬ Recorded (x.final w [.publish, .lookup, .update, .insert]).db w.db.commandLogs.next x.ack.acked :=
    x.not_recorded_lookup_first known ack
  rcases schedule_cases merged causal with rfl | rfl | rfl
  · rw [x.recorded_insert_first known ack sameAction]
    have order : [Statement.publish, .insert, .lookup, .update].idxOf .insert <
        [Statement.publish, .insert, .lookup, .update].idxOf .lookup := by decide
    exact ⟨fun h => ⟨order, h⟩, fun h => h.2⟩
  · exact iff_of_false late.1 (fun h => absurd h.1 (by decide))
  · exact iff_of_false late.2 (fun h => absurd h.1 (by decide))

def knownDevice : Device := { deviceId := "living01", deviceType := "thermo", createdAt := 0 }

def oneDevice : World := World.empty.apply (.createDevice knownDevice)

def reboot : Exchange where
  env := { now := seconds 10 }
  device := knownDevice
  command := bareCommand "reboot"
  sentBy := some "resident"
  ack :=
    { env := { now := seconds 11 }, kind := .ack, deviceType := "thermo", deviceId := "living01"
      payload := ⟨33, .value (.obj [("action", .str "reboot"), ("status", .str "ok")])⟩ }

theorem reboot_isAck : IsAck reboot.device.deviceId (.str "reboot") reboot.ack :=
  ⟨rfl, rfl, rfl, rfl, .inl rfl⟩

theorem reboot_recorded :
    Recorded (reboot.final oneDevice [.publish, .insert, .lookup, .update]).db
      oneDevice.db.commandLogs.next .success :=
  (reboot.ack_recorded_iff oneDevice (by decide) reboot_isAck (by decide)
    (.left (.left (.right (.right .nil)))) rfl).mpr
    ⟨by decide, by decide, by decide, by decide⟩

/-- Handled before the insert, the same ack leaves the row pending. -/
theorem reboot_lost :
    Interleaved [.publish, .insert] [.lookup, .update] [Statement.publish, .lookup, .update, .insert] ∧
    IsAck reboot.device.deviceId (.str "reboot") reboot.ack ∧
    ¬ Recorded (reboot.final oneDevice [.publish, .lookup, .update, .insert]).db
      oneDevice.db.commandLogs.next .success :=
  ⟨.left (.right (.right (.left .nil))), reboot_isAck, by decide⟩

end Exchange

end SensorServer
