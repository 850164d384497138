import SensorServer.Serving
import SensorServer.Acks
import SensorServer.Reports

/-! The life of a command: a row is pending until one answer or one timeout ends it,
and its two encodings of that, status and acked, never part (devices/models.py). -/
namespace SensorServer
open Program

namespace CommandLog

structure Lifecycle (row : CommandLog) : Prop where
  acked : row.acked = true ↔ row.status = .success ∨ row.status = .failed ∨ row.status = .timeout
  unanswered : row.status = .pending → row.ackedAt = none ∧ row.responseMessage = ""

/-- A later state of a row: moved at most to another device and, if it was pending, ended
at most once. -/
def Continues (old new : CommandLog) : Prop :=
  ∃ device, new = { old with device := device } ∨
    old.status = .pending ∧ ∃ status message at_, status.terminal = true ∧
      new = ({ old with device := device } : CommandLog).mark status message at_

theorem terminal_iff (s : CommandStatus) : s.terminal = true ↔ s ≠ .pending := by
  cases s <;> decide

theorem Continues.refl (row : CommandLog) : Continues row row := ⟨row.device, .inl rfl⟩

theorem Continues.id {old new : CommandLog} (h : Continues old new) : new.id = old.id := by
  obtain ⟨device, rfl | ⟨-, status, message, at_, -, rfl⟩⟩ := h <;> rfl

theorem Continues.trans {a b c : CommandLog} (first : Continues a b) (second : Continues b c) :
    Continues a c := by
  obtain ⟨device, rfl | ⟨pending, status, message, at_, terminal, rfl⟩⟩ := first
  · obtain ⟨other, rfl | ⟨still, status, message, at_, terminal, rfl⟩⟩ := second
    · exact ⟨other, .inl rfl⟩
    · exact ⟨other, .inr ⟨still, status, message, at_, terminal, rfl⟩⟩
  · obtain ⟨other, rfl | ⟨still, -⟩⟩ := second
    · exact ⟨other, .inr ⟨pending, status, message, at_, terminal, rfl⟩⟩
    · have ended : status = .pending := still
      rw [ended] at terminal
      cases terminal

theorem Continues.lifecycle {old new : CommandLog} (h : Continues old new) (valid : old.Lifecycle) :
    new.Lifecycle := by
  obtain ⟨device, rfl | ⟨-, status, message, at_, terminal, rfl⟩⟩ := h
  · exact ⟨valid.acked, valid.unanswered⟩
  · refine ⟨?_, fun pending => ?_⟩
    · simp only [mark_acked, mark_status]
      cases status <;> decide
    · exact absurd pending ((terminal_iff status).mp terminal)

theorem Continues.settled {old new : CommandLog} (h : Continues old new) (ended : old.status ≠ .pending) :
    new.status = old.status ∧ new.responseMessage = old.responseMessage ∧ new.acked = old.acked ∧
      new.ackedAt = old.ackedAt := by
  obtain ⟨device, rfl | ⟨pending, -⟩⟩ := h
  · exact ⟨rfl, rfl, rfl, rfl⟩
  · exact absurd pending ended

theorem continues_mark {row : CommandLog} (pending : row.status = .pending) {status : CommandStatus}
    (terminal : status.terminal = true) (message : String) (at_ : Time) :
    Continues row (row.mark status message at_) :=
  ⟨row.device, .inr ⟨pending, status, message, at_, terminal, rfl⟩⟩

end CommandLog

open CommandLog (Continues)

/-- Every row goes on from an earlier row, or from one created pending in between. -/
structure Evolves (w v : World) : Prop where
  counter : w.db.commandLogs.next ≤ v.db.commandLogs.next
  rows : ∀ new ∈ v.db.commandLogs.rows, ∃ old, Continues old new ∧
    (old ∈ w.db.commandLogs.rows ∨
      w.db.commandLogs.next ≤ old.id ∧ old.status = .pending ∧ old.Lifecycle)

theorem evolves_closed : Closed Evolves where
  refl w := ⟨le_refl _, fun row member => ⟨row, .refl row, .inl member⟩⟩
  trans := by
    intro u v w first second
    refine ⟨first.counter.trans second.counter, fun new member => ?_⟩
    obtain ⟨mid, continues, from_ | ⟨late, pending, valid⟩⟩ := second.rows new member
    · obtain ⟨old, before, source⟩ := first.rows mid from_
      exact ⟨old, before.trans continues, source⟩
    · exact ⟨mid, continues, .inr ⟨first.counter.trans late, pending, valid⟩⟩

theorem Evolves.of_commandLogs {w v : World} (same : v.db.commandLogs = w.db.commandLogs) : Evolves w v := by
  refine ⟨by rw [same], fun row member => ⟨row, .refl row, .inl ?_⟩⟩
  rwa [same] at member

theorem evolves_addCommandLog (w : World) (device : String) (command : Json) (sentAt : Time)
    (sentBy : Option String) : Evolves w (w.apply (.addCommandLog device command sentAt sentBy)) := by
  refine ⟨Nat.le_succ _, fun new member => ⟨new, .refl new, ?_⟩⟩
  rcases List.mem_append.mp member with inside | added
  · exact .inl inside
  · rw [List.mem_singleton] at added
    subst added
    exact .inr ⟨le_refl _, rfl, by simp, fun _ => ⟨rfl, rfl⟩⟩

theorem evolves_markCommands {w : World} {which : CommandLog → Bool} {status : CommandStatus}
    (pending : ∀ row ∈ w.db.commandLogs.rows, which row = true → row.status = .pending)
    (terminal : status.terminal = true) (message : String) (at_ : Time) :
    Evolves w (w.apply (.markCommands which status message at_)) := by
  refine ⟨le_refl _, fun new member => ?_⟩
  obtain ⟨old, inside, rfl⟩ := List.mem_map.mp member
  refine ⟨old, ?_, .inl inside⟩
  split
  · next hit => exact CommandLog.continues_mark (pending old inside hit) terminal message at_
  · exact .refl old

theorem evolves_deleted {w v : World} {keep : CommandLog → Bool}
    (kept : v.db.commandLogs = w.db.commandLogs.filter keep) : Evolves w v := by
  refine ⟨by rw [kept]; exact le_refl _, fun row member => ⟨row, .refl row, .inl ?_⟩⟩
  rw [kept] at member
  exact List.mem_of_mem_filter member

theorem evolves_moveLogs (w : World) (source target : String) :
    Evolves w (w.apply (.moveLogs source target)) := by
  refine ⟨le_refl _, fun new member => ?_⟩
  obtain ⟨old, inside, rfl⟩ := List.mem_map.mp member
  refine ⟨old, ?_, .inl inside⟩
  split
  · exact ⟨target, .inl rfl⟩
  · exact .refl old

theorem evolves_plain (w : World) (e : Effect) (plain : e.plain = true) : Evolves w (w.apply e) := by
  cases e with
  | publish p => cases plain
  | markCommands which status message at_ => cases plain
  | addCommandLog device command sentAt sentBy => exact evolves_addCommandLog w device command sentAt sentBy
  | deleteCommands which => exact evolves_deleted rfl
  | deleteDevice id => exact evolves_deleted rfl
  | moveLogs source target => exact evolves_moveLogs w source target
  | setRollup view rows => cases view <;> exact .of_commandLogs rfl
  | _ => exact .of_commandLogs rfl

theorem pending_of_named {db : Db} {device : String} {action : Json} {row : CommandLog}
    (member : row ∈ db.commandLogs.rows)
    (named : row.id ∈ (pendingNewestFirst db device action).map CommandLog.id) : row.status = .pending := by
  obtain ⟨found, listed, same⟩ := List.mem_map.mp named
  rw [pendingNewestFirst, OrderBy.mem_descending] at listed
  obtain ⟨inside, selected⟩ := List.mem_filter.mp listed
  have equal : found = row := db.commandLogs.eq_of_id inside member same
  simp only [Bool.and_eq_true, decide_eq_true_eq] at selected
  exact equal ▸ selected.1.2

theorem evolves_markPending {deviceId : String} {action : Json} {due : CommandLog → Bool} {status : CommandStatus}
    (terminal : status.terminal = true) (message : String) (at_ : Time) (w : World) :
    Evolves w (w.apply (.markCommands (fun r => pendingOf deviceId action r && due r) status message at_)) := by
  refine evolves_markCommands (fun row _ hit => ?_) terminal message at_
  simp only [pendingOf, Bool.and_eq_true, decide_eq_true_eq] at hit
  exact hit.1.1.2

theorem evolves_checkOtaTimeouts (env : Env) (device : Device) :
    Upholds Evolves (checkOtaTimeouts env device) := by
  intro w
  rw [after, outcome_checkOtaTimeouts]
  exact evolves_markPending rfl _ _ w

theorem evolves_resolveOtaUpdates (env : Env) (device : Device) :
    Upholds Evolves (resolveOtaUpdates env device) := by
  intro w
  unfold resolveOtaUpdates
  rw [after_markPending]
  split
  · exact evolves_markPending rfl _ _ w
  · exact evolves_closed.refl w

theorem evolves_resolveRequests (env : Env) (device : Device) (status : CommandStatus) (message : String)
    (terminal : status.terminal = true) :
    Upholds Evolves (resolveCapabilityRequests env device status message) := by
  unfold resolveCapabilityRequests
  split
  · refine upholds_emit (fun w => evolves_markCommands ?_ terminal message env.now)
    intro row _ hit
    simp only [Bool.and_eq_true, decide_eq_true_eq] at hit
    exact hit.1.2
  · exact Upholds.fail evolves_closed _

theorem respected_evolves (sends : String → Json → Prop) :
    Respected Evolves (fun _ _ => True) sends (fun _ => True) where
  closed := evolves_closed
  save := fun w _ _ _ => evolves_plain w _ rfl
  publish := fun _ _ _ => .of_commandLogs rfl
  history := fun w e history _ => evolves_plain w e (by cases e <;> first | rfl | cases history)
  checkOtaTimeouts := evolves_checkOtaTimeouts
  resolveOtaUpdates := evolves_resolveOtaUpdates
  resolveRequests := evolves_resolveRequests

theorem outcome_withObject_ok {α : Type} {payload : Payload} {rejected a : α} {body : Fields → Act α}
    {w v : World} (returned : outcome (withObject payload rejected body) w = (.ok a, v)) :
    a = rejected ∨ ∃ data, payload.object? = some data ∧ outcome (body data) w = (.ok a, v) := by
  cases object : payload.object? with
  | none =>
    rcases outcome_withObject_none rejected body object w with run | run
    all_goals
      rw [run] at returned
      cases returned
    exact .inl rfl
  | some data =>
    rw [withObject_object _ _ object] at returned
    exact .inr ⟨data, rfl, returned⟩

theorem outcome_withDevice_ok {α : Type} {deviceId : String} {rejected a : α} {body : Device → Act α}
    {w v : World} (returned : outcome (withDevice deviceId rejected body) w = (.ok a, v)) :
    a = rejected ∨ ∃ device, w.device? deviceId = some device ∧ outcome (body device) w = (.ok a, v) := by
  unfold withDevice at returned
  rw [outcome_bind, outcome_read] at returned
  cases found : w.device? deviceId with
  | none =>
    rw [found] at returned
    cases returned
    exact .inl rfl
  | some device =>
    rw [found] at returned
    exact .inr ⟨device, rfl, returned⟩

structure Answers (w : World) (deviceId : String) (payload : Payload) (m : AckMark) (data : Fields) : Prop where
  object : payload.object? = some data
  target : ackTarget w.db deviceId ((Dict.get? data "action").getD (.str "")) = some m.row
  considered : ackIgnored ((Dict.get? data "action").getD (.str "")) ((Dict.get? data "status").getD (.str "")) = false
  status : m.status = ackStatus ((Dict.get? data "status").getD (.str ""))
  message : m.message = ackText data

theorem Answers.terminal {w : World} {deviceId : String} {payload : Payload} {m : AckMark} {data : Fields}
    (answers : Answers w deviceId payload m data) : m.status.terminal = true := by
  rw [answers.status, ackStatus]
  split <;> rfl

theorem ackLookup_answers {deviceId : String} {payload : Payload} {w v : World} {m : AckMark}
    (found : outcome (ackLookup deviceId payload) w = (.ok (some m), v)) :
    v = w ∧ ∃ data, Answers w deviceId payload m data := by
  unfold ackLookup at found
  rcases outcome_withObject_ok found with none_ | ⟨data, object, found⟩
  · cases none_
  rcases outcome_withDevice_ok found with none_ | ⟨device, known, found⟩
  · cases none_
  have own : device.deviceId = deviceId := Table.key_get? known
  dsimp only at found
  split at found
  · obtain ⟨_, _, -, ended⟩ := outcome_bind_eq_ok.mp found
    cases ended
  · split at found
    · cases found
    · next considered =>
      rw [outcome_bind, outcome_read] at found
      dsimp only at found
      rw [outcome_pure] at found
      obtain ⟨some_, rfl⟩ := Prod.mk.inj found
      obtain ⟨row, target, rfl⟩ := Option.map_eq_some_iff.mp (Except.ok.inj some_)
      exact ⟨rfl, data, object, own ▸ target, by simpa using considered, rfl, rfl⟩

theorem upholds_handleAckMessage {R : World → World → Prop} {env : Env} {deviceId : String}
    {payload : Payload} (looked : Upholds R (ackLookup deviceId payload))
    (mark : ∀ w m data, Answers w deviceId payload m data →
      R w (w.apply (.markCommands (fun r => r.id = m.row.id) m.status m.message env.now))) :
    Upholds R (handleAckMessage env deviceId payload) := by
  intro w
  have first := looked w
  unfold handleAckMessage
  unfold after at first
  rcases run : outcome (ackLookup deviceId payload) w with ⟨e | target, v⟩ <;> rw [run] at first
  · rw [after_bind_error run]
    exact first
  · rw [after_bind_ok run]
    cases target with
    | none => exact first
    | some m =>
      obtain ⟨rfl, data, answers⟩ := ackLookup_answers run
      unfold ackUpdate
      dsimp only
      rw [after_markCommand]
      split
      · exact mark v m data answers
      · exact first

theorem evolves_handleAckMessage (env : Env) (deviceId : String) (payload : Payload) :
    Upholds Evolves (handleAckMessage env deviceId payload) := by
  refine upholds_handleAckMessage
    (upholds_ackLookup (respected_evolves (fun _ _ => True)).toIssued (fun _ _ => trivial))
      (fun w m data answers => ?_)
  have listed := List.mem_map_of_mem (f := CommandLog.id) (List.mem_of_mem_head? answers.target)
  refine evolves_markCommands (fun row member hit => ?_) answers.terminal _ _
  have named : row.id = m.row.id := by simpa using hit
  rw [← named] at listed
  exact pending_of_named member listed

theorem served_evolves : Served Evolves (fun _ _ => True) where
  toRespected := respected_evolves _
  plain := evolves_plain
  undone := fun _ _ _ => .of_commandLogs rfl
  ack := evolves_handleAckMessage
  quiet := fun _ _ _ => trivial

theorem evolves_run (w : World) (es : List Event) : Evolves w (Run.run serve w es) := by
  induction es generalizing w with
  | nil => exact evolves_closed.refl w
  | cons e es ih => exact evolves_closed.trans (served_evolves.serve w e) (ih (serve w e))

theorem Evolves.lifecycle {w v : World} (evolves : Evolves w v)
    (valid : ∀ row ∈ w.db.commandLogs.rows, row.Lifecycle) : ∀ row ∈ v.db.commandLogs.rows, row.Lifecycle := by
  intro new member
  obtain ⟨old, continues, inside | ⟨-, -, fresh⟩⟩ := evolves.rows new member
  · exact continues.lifecycle (valid old inside)
  · exact continues.lifecycle fresh

theorem Evolves.continues {w v : World} (evolves : Evolves w v) {old new : CommandLog}
    (before : old ∈ w.db.commandLogs.rows) (member : new ∈ v.db.commandLogs.rows) (same : new.id = old.id) :
    Continues old new := by
  obtain ⟨first, continues, inside | ⟨late, -, -⟩⟩ := evolves.rows new member
  · have equal : first = old := w.db.commandLogs.eq_of_id inside before (continues.id.symm.trans same)
    exact equal ▸ continues
  · have below := w.db.commandLogs.below old before
    rw [← same, continues.id] at below
    exact absurd below (not_lt.mpr late)

theorem acked_eq_false_iff {row : CommandLog} (valid : row.Lifecycle) :
    (!row.acked) = decide (row.status = .pending) := by
  have acked := valid.acked
  cases status : row.status <;> cases flag : row.acked <;> simp_all

/-- The rows a flush selects, were they selected by their status. -/
def pendingRows (db : Db) (device : String) : List CommandLog :=
  OrderBy.ascending CommandLog.sentAt
    (db.commandLogs.rows.filter
      (fun r => decide (r.device = device) && decide (r.status = .pending) && notOtaUpdate r.command))

theorem flushRows_eq_pendingRows {db : Db} (valid : ∀ row ∈ db.commandLogs.rows, row.Lifecycle)
    (device : String) : flushRows db device = pendingRows db device := by
  unfold flushRows pendingRows
  refine congrArg _ (List.filter_congr (fun row member => ?_))
  rw [acked_eq_false_iff (valid row member)]

/-- Whatever the worker and the views do, in whatever order, every row keeps its two
encodings together, is ended at most once, and a flush re-sends the pending rows. -/
theorem command_lifecycle {w : World} (start : ∀ row ∈ w.db.commandLogs.rows, row.Lifecycle)
    (before after_ : List Event) :
    let u := Run.run serve w before
    let v := Run.run serve u after_
    (∀ row ∈ v.db.commandLogs.rows, row.Lifecycle) ∧
      (∀ device, flushRows v.db device = pendingRows v.db device) ∧
      ∀ old ∈ u.db.commandLogs.rows, ∀ new ∈ v.db.commandLogs.rows, new.id = old.id →
        Continues old new ∧ (old.status ≠ .pending → new.status = old.status ∧
          new.responseMessage = old.responseMessage ∧ new.acked = old.acked ∧ new.ackedAt = old.ackedAt) := by
  intro u v
  have valid : ∀ row ∈ v.db.commandLogs.rows, row.Lifecycle :=
    (evolves_run u after_).lifecycle ((evolves_run w before).lifecycle start)
  refine ⟨valid, flushRows_eq_pendingRows valid, fun old inside new member same => ?_⟩
  have continues := (evolves_run u after_).continues inside member same
  exact ⟨continues, continues.settled⟩

def heard01 (kind : MessageKind) (at_ : Time) (data : Fields) : Event :=
  .message ⟨{ now := at_ }, kind, "thermo", "living01", ⟨60, .value (.obj data)⟩⟩

/-- A resident sends a command to the device that was just discovered. -/
def rebooting : List Event :=
  [heard01 .sensors (seconds 1) [],
   .web { now := seconds 2 } .command
    { user := { username := "bob", role := some .resident }, post := [("command", "reboot")] } "living01"]

def rebootAcks : List Event :=
  [heard01 .ack (seconds 3) [("action", .str "reboot"), ("status", .str "ok")],
   heard01 .ack (seconds 4) [("action", .str "reboot"), ("status", .str "error")]]

theorem rebooted_once :
    (∀ row ∈ (Run.run serve (Run.run serve World.empty rebooting) rebootAcks).db.commandLogs.rows,
      row.Lifecycle) ∧
    (Run.run serve World.empty rebooting).db.commandLogs.rows.map (fun r => (r.status, r.ackedAt)) =
      [(.pending, none)] ∧
    (Run.run serve (Run.run serve World.empty rebooting) rebootAcks).db.commandLogs.rows.map
      (fun r => (r.status, r.ackedAt)) = [(.success, some (seconds 3))] :=
  ⟨(command_lifecycle (fun _ member => absurd member List.not_mem_nil) rebooting rebootAcks).1, by decide,
    by decide⟩

end SensorServer
