import SensorServer.Slices
import SensorServer.Alerts

/-! The messages and the pages of a device and the publication API, run from two states that
agree on the device: none can tell them apart. -/
namespace SensorServer
open Program

/-- The broker and the channel layer answer the messages of one call alike from either state. -/
structure Env.Answers (env : Env) (w v : World) : Prop where
  broker : ∀ n, env.broker (w.published.length + n) = env.broker (v.published.length + n)
  channel : ∀ n, env.channel (w.broadcasts.length + n) = env.channel (v.broadcasts.length + n)

/-- Run from two states that agree on the device, the program cannot tell them apart. -/
abbrev Alone (id : String) (w₀ v₀ : World) {α : Type} (m : Act α) : Prop := Twin (Abreast id w₀ v₀) m

section Services
variable {id : String} {w₀ v₀ : World} {env : Env} (answers : env.Answers w₀ v₀) {device : Device}
  (mine : device.deviceId = id)

theorem alone_emit {e : Effect} (blind : e.IdBlind) : Alone id w₀ v₀ (emit e) :=
  Twin.write (fun _ _ abreast => abreast.apply blind)

theorem alone_saveDevice (device : Device) (fields : List DeviceField) :
    Alone id w₀ v₀ (saveDevice device fields) := by
  unfold saveDevice
  split
  · exact alone_emit trivial
  · exact Twin.fail _

theorem alone_addStatusLog (row : DeviceStatusLog) : Alone id w₀ v₀ (addStatusLog row) := by
  unfold addStatusLog
  split
  · exact alone_emit trivial
  · exact Twin.fail _

theorem alone_addDiagLog (row : DeviceDiagLog) : Alone id w₀ v₀ (addDiagLog row) := by
  unfold addDiagLog
  split
  · exact alone_emit trivial
  · exact Twin.fail _

theorem alone_addCommandLog {deviceId : String} {command : Json} {sentBy : Option String} :
    Alone id w₀ v₀ (addCommandLog env deviceId command sentBy) := by
  unfold addCommandLog
  split
  · exact Twin.fail _
  · split
    · exact alone_emit trivial
    · exact Twin.fail _

theorem alone_resolveCapabilityRequests {status : CommandStatus} {message : String} :
    Alone id w₀ v₀ (resolveCapabilityRequests env device status message) := by
  unfold resolveCapabilityRequests
  split
  · exact alone_emit (fun _ _ => rfl)
  · exact Twin.fail _

include mine in
theorem alone_createDevice : Alone id w₀ v₀ (createDevice device) := by
  refine Twin.bind (Twin.read (fun _ _ abreast => by rw [mine]; exact abreast.row)) (fun existing => ?_)
  cases existing with
  | some _ => exact Twin.fail _
  | none =>
    dsimp only
    split
    · exact alone_emit trivial
    · exact Twin.fail _

include answers

theorem alone_mqttPublish {topic : String} {payload : Json} {retain : Bool} {qos : Nat} :
    Alone id w₀ v₀ (mqttPublish env topic payload retain qos) := by
  refine Twin.bind (Twin.read (fun w v abreast => ?_)) (fun taken => Twin.bind (alone_emit trivial) (fun _ => ?_))
  · obtain ⟨new, first, second⟩ := abreast.sent
    rw [first, second, List.length_append, List.length_append]
    exact answers.broker _
  · split
    · exact Twin.pure _
    · exact Twin.fail _

theorem alone_groupSend (e : ChannelEvent) : Alone id w₀ v₀ (groupSend env e) := by
  refine Twin.bind (Twin.read (fun w v abreast => ?_)) (fun taken => ?_)
  · obtain ⟨new, first, second⟩ := abreast.heard
    rw [first, second, List.length_append, List.length_append]
    exact answers.channel _
  · split
    · exact alone_emit trivial
    · exact Twin.fail _

theorem alone_requestCapabilities {sentBy : Option String} {logCommand : Bool} :
    Alone id w₀ v₀ (requestCapabilities env device sentBy logCommand) := by
  refine Twin.bind (Twin.attempt (alone_mqttPublish answers)) (fun sent => ?_)
  split
  · exact Twin.bind (Twin.attempt (Twin.bind (alone_saveDevice _ _)
      (fun _ => Twin.when (fun _ => alone_addCommandLog)))) (fun _ => Twin.pure _)
  · exact Twin.pure _

theorem alone_requestBare (name : String) : Alone id w₀ v₀ (requestBare env device name) :=
  Twin.bind (Twin.attempt (alone_mqttPublish answers)) (fun _ => Twin.pure _)

theorem alone_maybeRequestDiag : Alone id w₀ v₀ (maybeRequestDiag env device) := by
  unfold maybeRequestDiag
  split
  · exact Twin.bind (alone_requestBare answers _) (fun _ =>
      Twin.bind (alone_saveDevice _ _) (fun _ => Twin.pure _))
  · exact Twin.pure _

theorem alone_announceCleared : Alone id w₀ v₀ (announceCleared env device) :=
  Twin.bind (alone_addStatusLog _) (fun _ => alone_groupSend answers _)

theorem alone_sendEach {α : Type} {topic : String} {message : α → Json} (items : List α) :
    Alone id w₀ v₀ (forEach items (fun item => do
      let _ ← attempt (mqttPublish env topic (message item) false 1)
      pure ())) :=
  Twin.forEach (fun _ _ => Twin.bind (Twin.attempt (alone_mqttPublish answers)) (fun _ => Twin.pure _))

end Services

section Commands
variable {id : String} {ρ : Equiv.Perm ℕ} {w v w₀ v₀ : World} {env : Env} {device : Device}

theorem SameDevice.selected (same : SameDevice id ρ w v) {p : CommandLog → Bool}
    (own : ∀ r, p r = true → r.device = id) (blind : ∀ r, p (r.renumber ρ) = p r) :
    (w.db.commandLogs.rows.filter p).map (CommandLog.renumber ρ) = v.db.commandLogs.rows.filter p := by
  have inside : ∀ rows : List CommandLog, rows.filter p = (ownedBy CommandLog.device id rows).filter p := by
    intro rows
    unfold ownedBy
    rw [List.filter_filter]
    refine List.filter_congr (fun r _ => ?_)
    cases chosen : p r with
    | false => rfl
    | true => simp [own r chosen]
  rw [inside, inside v.db.commandLogs.rows, ← same.commands, List.filter_map]
  simp [Function.comp_def, blind]

theorem SameDevice.pendingNewestFirst (same : SameDevice id ρ w v) (action : Json) :
    (pendingNewestFirst w.db id action).map (CommandLog.renumber ρ) = pendingNewestFirst v.db id action := by
  unfold SensorServer.pendingNewestFirst pendingCommands
  rw [OrderBy.map_descending (f := CommandLog.renumber ρ) (fun _ => rfl),
    same.selected (fun r chosen => ?_) (fun r => rfl)]
  simp only [Bool.and_eq_true, decide_eq_true_eq] at chosen
  exact chosen.1.1

theorem SameDevice.flushRows (same : SameDevice id ρ w v) :
    (flushRows w.db id).map CommandLog.command = (flushRows v.db id).map CommandLog.command := by
  have sorted : (SensorServer.flushRows w.db id).map (CommandLog.renumber ρ) = SensorServer.flushRows v.db id := by
    unfold SensorServer.flushRows
    rw [OrderBy.map_ascending (f := CommandLog.renumber ρ) (fun _ => rfl),
      same.selected (fun r chosen => ?_) (fun r => rfl)]
    simp only [Bool.and_eq_true, decide_eq_true_eq] at chosen
    exact chosen.1.1
  rw [← sorted, List.map_map]
  rfl

theorem outcome_markEach_refused {status : CommandStatus} {message : String} {at_ : Time} {due : CommandLog → Bool}
    {rows : List CommandLog} (text : nulFree (pyTake 256 message) ≠ true) (w : World) :
    outcome (forEach rows (fun cmd => when (due cmd) (markCommand cmd status message at_)) : Act Unit) w =
      (if rows.any due then .error .dataError else .ok (), w) := by
  induction rows with
  | nil => rfl
  | cons cmd rest ih =>
    have first : outcome (when (due cmd) (markCommand cmd status message at_)) w =
        (if due cmd then .error .dataError else .ok (), w) := by
      cases due cmd with
      | false => rfl
      | true => exact (outcome_markCommand cmd status message at_ w).trans (if_neg text)
    rw [List.any_cons]
    unfold forEach
    dsimp only
    cases chosen : due cmd with
    | false =>
      rw [chosen] at first
      rw [outcome_bind_ok first, ih, Bool.false_or]
    | true =>
      rw [chosen] at first
      rw [outcome_bind_error first, Bool.true_or]
      rfl

/-- The loops over the pending rows of an action choose the same rows in either state. -/
theorem alone_markPending {action : Json} {due : CommandLog → Bool} {status : CommandStatus}
    {message : String} {at_ : Time} (blind : ∀ r ρ, due (CommandLog.renumber ρ r) = due r) :
    Alone id w₀ v₀ (do
      let pending ← read (fun w => pendingNewestFirst w.db id action)
      forEach pending (fun cmd => when (due cmd) (markCommand cmd status message at_)) : Act Unit) := by
  intro w v abreast
  by_cases text : nulFree (pyTake 256 message) = true
  · unfold after
    rw [outcome_markPending text, outcome_markPending text]
    have chosen : (Effect.markCommands (fun r => pendingOf id action r && due r) status message at_).IdBlind := by
      intro r ρ
      simp only [blind]
      rfl
    exact ⟨rfl, abreast.apply chosen⟩
  · obtain ⟨ρ, same⟩ := abreast.rows
    unfold after
    rw [outcome_bind_ok (outcome_read _ w), outcome_bind_ok (outcome_read _ v), outcome_markEach_refused text,
      outcome_markEach_refused text, ← same.pendingNewestFirst, List.any_map]
    simp only [Function.comp_def, blind, true_and]
    exact abreast

theorem forEach_map {α β : Type} (f : α → β) (body : β → Act Unit) (items : List α) :
    forEach (items.map f) body = forEach items (fun item => body (f item)) := by
  induction items with
  | nil => rfl
  | cons item items ih =>
    rw [List.map_cons, forEach, forEach, ih]

theorem alone_flushPendingCommands (answers : env.Answers w₀ v₀) (mine : device.deviceId = id) :
    Alone id w₀ v₀ (flushPendingCommands env device) := by
  have sends : Alone id w₀ v₀ (do
      let pending ← read (fun w => (flushRows w.db id).map CommandLog.command)
      forEach pending (fun command => do
        let _ ← attempt (mqttPublish env (commandTopic device) command false 1)
        pure ())) := by
    refine Twin.bind (Twin.read (fun w v abreast => ?_)) (fun pending => ?_)
    · obtain ⟨ρ, same⟩ := abreast.rows
      exact same.flushRows
    · exact alone_sendEach answers pending
  intro w v abreast
  have both := sends w v abreast
  rw [after_read_bind, after_read_bind, outcome_bind_ok (outcome_read _ w), outcome_bind_ok (outcome_read _ v),
    forEach_map, forEach_map] at both
  unfold flushPendingCommands
  rw [after_read_bind, after_read_bind, outcome_bind_ok (outcome_read _ w), outcome_bind_ok (outcome_read _ v), mine]
  exact both

end Commands

section Messages
variable {id : String} {w₀ v₀ : World} {env : Env} (answers : env.Answers w₀ v₀) {device : Device}
  (mine : device.deviceId = id)

theorem alone_withObject {α : Type} {payload : Payload} {rejected : α} {body : Fields → Act α}
    (inside : ∀ data, Alone id w₀ v₀ (body data)) : Alone id w₀ v₀ (withObject payload rejected body) := by
  unfold withObject
  split
  · exact Twin.pure _
  · split
    · exact Twin.pure _
    · exact Twin.fail _
    · exact inside _
    · exact Twin.pure _

theorem alone_withDevice {α : Type} {rejected : α} {body : Device → Act α}
    (inside : ∀ device : Device, device.deviceId = id → Alone id w₀ v₀ (body device)) :
    Alone id w₀ v₀ (withDevice id rejected body) := by
  intro w v abreast
  have row := abreast.row
  unfold withDevice
  rw [after_read_bind, after_read_bind, outcome_bind_ok (outcome_read _ w), outcome_bind_ok (outcome_read _ v), row]
  cases known : v.device? id with
  | none => exact ⟨rfl, abreast⟩
  | some device => exact inside device (Table.key_get? known) w v abreast

include answers

theorem alone_collectReadings {deviceType : String} (data : Fields) :
    Alone id w₀ v₀ (collectReadings env device deviceType data) := by
  induction data with
  | nil => exact Twin.pure _
  | cons entry rest ih =>
    obtain ⟨raw, value⟩ := entry
    unfold collectReadings
    split
    · exact ih
    · split
      · exact ih
      · exact Twin.fail _
      · exact Twin.bind (alone_groupSend answers _) (fun _ => Twin.bind ih (fun _ => Twin.pure _))

theorem alone_storeReadings {deviceType : String} {data : Fields} :
    Alone id w₀ v₀ (storeReadings env device deviceType data) := by
  refine Twin.bind (alone_collectReadings answers data) (fun readings => Twin.when (fun _ =>
    Twin.bind (alone_emit trivial) (fun _ => ?_)))
  cases storedBattery readings with
  | none => exact Twin.pure _
  | some stored =>
    exact Twin.bind (Twin.when (fun _ => alone_saveDevice _ _)) (fun _ => Twin.when (fun _ =>
      Twin.bind (alone_saveDevice _ _) (fun _ => alone_announceCleared answers)))

include mine

theorem alone_wakeUp : Alone id w₀ v₀ (wakeUp env device) :=
  Twin.bind (alone_flushPendingCommands answers mine) (fun _ =>
    Twin.bind (alone_requestCapabilities answers) (fun _ => Twin.bind (alone_requestBare answers _) (fun _ =>
      Twin.bind (Twin.when (fun _ => alone_requestBare answers _)) (fun _ => Twin.pure _))))

omit mine answers in
theorem alone_checkCapabilitiesTimeout : Alone id w₀ v₀ (checkCapabilitiesTimeout env device) := by
  unfold checkCapabilitiesTimeout
  split
  · exact Twin.bind (alone_saveDevice _ _) (fun _ => Twin.bind (alone_addStatusLog _) (fun _ =>
      Twin.bind alone_resolveCapabilityRequests (fun _ => Twin.pure _)))
  · exact Twin.pure _

omit answers in
theorem alone_checkOtaTimeouts : Alone id w₀ v₀ (checkOtaTimeouts env device) := by
  unfold checkOtaTimeouts
  rw [mine]
  exact alone_markPending (fun _ _ => rfl)

theorem alone_sensorBody {deviceType : String} {data : Fields} {created : Bool} :
    Alone id w₀ v₀ (sensorBody env deviceType data device created) := by
  unfold sensorBody
  have same := (reconcileAlert_spec env.now
    (show SameUnit device { device with lastSeen := some env.now } from ⟨rfl, rfl⟩)).1
  dsimp only
  generalize reconcileAlert env.now { device with lastSeen := some env.now } = reconciled at same ⊢
  have named : reconciled.1.deviceId = id := same.1.trans mine
  refine Twin.bind (Twin.when (fun _ => alone_announceCleared answers)) (fun _ => Twin.bind
    (alone_saveDevice _ _) (fun _ => Twin.bind (alone_checkOtaTimeouts named) (fun _ =>
      Twin.bind ?_ (fun _ => Twin.when (fun _ =>
        Twin.bind (alone_maybeRequestDiag answers) (fun _ => alone_storeReadings answers))))))
  split
  · exact alone_wakeUp answers named
  · exact alone_checkCapabilitiesTimeout

omit answers in
theorem alone_resolveOtaUpdates : Alone id w₀ v₀ (resolveOtaUpdates env device) := by
  unfold resolveOtaUpdates
  rw [mine]
  exact alone_markPending (fun _ _ => rfl)

end Messages

section Ack
variable {id : String} {w₀ v₀ : World} {env : Env} {payload : Payload}

theorem alone_markTarget {action : Json} {status : CommandStatus} {message : String} {at_ : Time} :
    Alone id w₀ v₀ (do
      let target ← read (fun w => ackTarget w.db id action)
      match target with
      | none => pure ()
      | some row => markCommand row status message at_) := by
  intro w v abreast
  obtain ⟨⟨ρ, same⟩, sent, heard⟩ := abreast
  have target : ackTarget v.db id action = (ackTarget w.db id action).map (CommandLog.renumber ρ) := by
    unfold ackTarget
    rw [← same.pendingNewestFirst, List.head?_map]
  rw [after_read_bind, after_read_bind, outcome_bind_ok (outcome_read _ w), outcome_bind_ok (outcome_read _ v), target]
  cases ackTarget w.db id action with
  | none => exact ⟨rfl, ⟨ρ, same⟩, sent, heard⟩
  | some row =>
    dsimp only [Option.map_some]
    unfold after
    rw [outcome_markCommand, outcome_markCommand]
    split
    · refine ⟨rfl, ⟨ρ, same.markCommands (fun r => ?_) status message at_⟩, sent, heard⟩
      simp [CommandLog.renumber]
    · exact ⟨rfl, ⟨ρ, same⟩, sent, heard⟩

/-- What the handler does with an object for a known device, its search and its update in one. -/
def settleAck (env : Env) (data : Fields) (device : Device) : Act Unit :=
  let action := (Dict.get? data "action").getD (.str "")
  let status := (Dict.get? data "status").getD (.str "")
  if !action.truthy && (Dict.get? data "temp").isSome then legacyCalibration device data
  else if ackIgnored action status then pure ()
  else do
    let target ← read (fun w => ackTarget w.db device.deviceId action)
    match target with
    | none => pure ()
    | some row => markCommand row (ackStatus status) (ackText data) env.now

theorem outcome_handleAckMessage (deviceId : String) (w : World) :
    outcome (handleAckMessage env deviceId payload) w =
      outcome (withObject payload () (fun data => withDevice deviceId () (settleAck env data))) w := by
  have missed : outcome ((pure none : Act (Option AckMark)) >>= ackUpdate env) w = (.ok (), w) := rfl
  unfold handleAckMessage ackLookup withObject
  split
  · exact missed
  · split
    · exact missed
    · rfl
    · next data _ =>
      unfold withDevice settleAck
      rw [outcome_bind, outcome_bind_ok (outcome_read _ w), outcome_bind_ok (outcome_read _ w)]
      cases w.device? deviceId with
      | none => rfl
      | some device =>
        dsimp only
        generalize (Dict.get? data "action").getD (.str "") = action
        generalize (Dict.get? data "status").getD (.str "") = status
        by_cases legacy : (!action.truthy && (Dict.get? data "temp").isSome) = true
        · rw [if_pos legacy, if_pos legacy, outcome_bind]
          rcases outcome (legacyCalibration device data) w with ⟨e | a, t⟩ <;> rfl
        · rw [if_neg legacy, if_neg legacy]
          by_cases ignored : ackIgnored action status = true
          · rw [if_pos ignored, if_pos ignored]
            rfl
          · rw [if_neg ignored, if_neg ignored, outcome_bind_ok (outcome_read _ w),
              outcome_bind_ok (outcome_read _ w)]
            cases ackTarget w.db device.deviceId action <;> rfl
    · exact missed

theorem alone_legacyCalibration {device : Device} {data : Fields} :
    Alone id w₀ v₀ (legacyCalibration device data) := by
  unfold legacyCalibration
  cases legacyOffsets data ["temp", "humi", "press"] with
  | none => exact Twin.fail _
  | some updates =>
    dsimp only
    split
    · exact Twin.pure _
    · exact alone_saveDevice _ _

theorem alone_handleAckMessage : Alone id w₀ v₀ (handleAckMessage env id payload) := by
  have settled : Alone id w₀ v₀ (withObject payload () (fun data => withDevice id () (settleAck env data))) := by
    refine alone_withObject (fun data => alone_withDevice (fun device named => ?_))
    unfold settleAck
    rw [named]
    dsimp only
    split
    · exact alone_legacyCalibration
    · split
      · exact Twin.pure _
      · exact alone_markTarget
  intro w v abreast
  have both := settled w v abreast
  unfold after at both ⊢
  rw [outcome_handleAckMessage, outcome_handleAckMessage]
  exact both

end Ack

section Handlers
variable {id : String} {w₀ v₀ : World} {env : Env} (answers : env.Answers w₀ v₀) {deviceType : String}
  {payload : Payload}
include answers

omit answers in
theorem alone_getOrCreateDevice : Alone id w₀ v₀ (getOrCreateDevice env deviceType id) := by
  refine Twin.bind (Twin.read (fun _ _ abreast => abreast.row)) (fun found => ?_)
  cases found with
  | some device => exact Twin.pure _
  | none => exact Twin.bind (alone_createDevice rfl) (fun _ => Twin.pure _)

theorem alone_handleSensorMessage : Alone id w₀ v₀ (handleSensorMessage env deviceType id payload) := by
  refine alone_withObject (fun data => Twin.bind_returning alone_getOrCreateDevice returns_getOrCreateDevice ?_)
  rintro ⟨device, created⟩ named
  exact alone_sensorBody answers named

theorem alone_handleStatusMessage : Alone id w₀ v₀ (handleStatusMessage env id payload) := by
  refine alone_withObject (fun data => alone_withDevice (fun device named => ?_))
  split
  · exact Twin.pure _
  · exact Twin.bind (alone_saveDevice _ _) (fun _ => alone_announceCleared answers)

theorem alone_handleCapabilitiesMessage : Alone id w₀ v₀ (handleCapabilitiesMessage env id payload) := by
  refine alone_withObject (fun data => alone_withDevice (fun before named => Twin.bind (Twin.read ?_)
    (fun known => ?_)))
  · intro w v abreast
    obtain ⟨ρ, same⟩ := abreast.rows
    rw [same.hardwareCodes]
  · have named' : (applyCapabilities known data before).deviceId = id := deviceId_applyCapabilities.trans named
    exact Twin.bind (Twin.when (fun _ => alone_addStatusLog _)) (fun _ =>
      Twin.bind (alone_saveDevice _ _) (fun _ => Twin.bind alone_resolveCapabilityRequests (fun _ =>
      Twin.bind (alone_resolveOtaUpdates named') (fun _ => Twin.when (fun _ => alone_sendEach answers _)))))

omit answers in
theorem alone_handleCommandsMessage : Alone id w₀ v₀ (handleCommandsMessage env id payload) :=
  alone_withObject (fun _ => alone_withDevice (fun _ _ => alone_saveDevice _ _))

omit answers in
theorem alone_handleCalibrationMessage : Alone id w₀ v₀ (handleCalibrationMessage env id payload) := by
  refine alone_withObject (fun data => alone_withDevice (fun device named => ?_))
  split
  · exact Twin.fail _
  · exact alone_saveDevice _ _

theorem alone_handleDiagMessage : Alone id w₀ v₀ (handleDiagMessage env id payload) := by
  refine alone_withObject (fun data => alone_withDevice (fun before named => ?_))
  split
  · exact Twin.pure _
  · split
    · exact Twin.fail _
    · exact Twin.bind (alone_addDiagLog _) (fun _ => Twin.bind (alone_saveDevice _ _) (fun _ =>
        Twin.when (fun _ => alone_announceCleared answers)))

theorem alone_handleMessage (kind : MessageKind) :
    Alone id w₀ v₀ (handleMessage env kind deviceType id payload) := by
  cases kind with
  | sensors => exact alone_handleSensorMessage answers
  | status => exact alone_handleStatusMessage answers
  | capabilities => exact alone_handleCapabilitiesMessage answers
  | commands => exact alone_handleCommandsMessage
  | calibration => exact alone_handleCalibrationMessage
  | diag => exact alone_handleDiagMessage answers
  | ack => exact alone_handleAckMessage

end Handlers

section Pages
variable {id : String} {w₀ v₀ : World} {env : Env} (answers : env.Answers w₀ v₀) {request : Request}
  {device : Device}

theorem alone_roleRequired {minimum : Role} {view : Act Response} (inside : Alone id w₀ v₀ view) :
    Alone id w₀ v₀ (roleRequired minimum request view) := by
  rw [roleRequired_eq]
  split
  · exact inside
  · exact Twin.pure _

theorem alone_getDeviceOr404 {view : Device → Act Response}
    (inside : ∀ device : Device, device.deviceId = id → Alone id w₀ v₀ (view device)) :
    Alone id w₀ v₀ (getDeviceOr404 id view) := by
  intro w v abreast
  have row := abreast.row
  unfold getDeviceOr404
  rw [after_read_bind, after_read_bind, outcome_bind_ok (outcome_read _ w), outcome_bind_ok (outcome_read _ v), row]
  cases known : v.device? id with
  | none => exact ⟨rfl, abreast⟩
  | some device => exact inside device (Table.key_get? known) w v abreast

theorem alone_ownPost {minimum : Role} {view : Device → Act Response}
    (inside : ∀ device : Device, device.deviceId = id → Alone id w₀ v₀ (view device)) :
    Alone id w₀ v₀ (roleRequired minimum request (getDeviceOr404 id fun device =>
      postOnly request (view device))) := by
  refine alone_roleRequired (alone_getDeviceOr404 (fun device named => ?_))
  unfold postOnly
  split
  · exact Twin.pure _
  · exact inside device named

theorem alone_atomic {α : Type} {body : Act α} (inside : Alone id w₀ v₀ body) : Alone id w₀ v₀ (atomic body) := by
  intro w v abreast
  have both := inside w v abreast
  unfold after at both ⊢
  rw [outcome_atomic, outcome_atomic]
  rcases left : outcome body w with ⟨e | a, w'⟩ <;> rcases right : outcome body v with ⟨d | b, v'⟩ <;>
    rw [left, right] at both <;> obtain ⟨same, kept⟩ := both <;> cases same
  · exact ⟨rfl, abreast.undone kept⟩
  · exact ⟨rfl, kept⟩

theorem alone_transaction {α : Type} {body : Act α} (inside : Alone id w₀ v₀ body) :
    Alone id w₀ v₀ (transaction env body) := by
  refine alone_atomic (Twin.bind inside (fun a => ?_))
  split
  · exact Twin.pure _
  · exact Twin.fail _

/-- The aggregates are recomputed from all readings: the rows differ, the outcome does not. -/
theorem alone_refreshWindow (view : Rollup) (start stop : Time) :
    Alone id w₀ v₀ (refreshWindow env view start stop) := by
  intro w v abreast
  unfold refreshWindow
  rw [after_read_bind, after_read_bind, outcome_bind_ok (outcome_read _ w), outcome_bind_ok (outcome_read _ v)]
  split
  · exact ⟨rfl, abreast.setRollup view _ _⟩
  · exact ⟨rfl, abreast⟩

theorem alone_deleteDevice : Alone id w₀ v₀ (deleteDevice env device) :=
  alone_transaction (Twin.bind (alone_emit trivial) (fun _ => alone_emit trivial))

theorem alone_deleteSelected {d : Deletion} (named : d.deviceId = id) :
    Alone id w₀ v₀ (deleteSelected env d) := by
  refine Twin.bind (Twin.read (fun w v abreast => ?_)) (fun count => ?_)
  · have own : ∀ rows : List SensorReading, rows.filter (d.selects env) =
        (ownedBy SensorReading.deviceId id rows).filter (d.selects env) := by
      intro rows
      unfold ownedBy
      rw [List.filter_filter]
      refine List.filter_congr (fun r _ => ?_)
      by_cases mine : r.deviceId = id <;> simp [Deletion.selects, mine, named]
    obtain ⟨ρ, same⟩ := abreast.rows
    rw [own, own v.db.readings, same.readings]
  · split
    · exact Twin.pure _
    · exact Twin.bind (alone_emit trivial) (fun _ => Twin.bind (alone_refreshWindow _ _ _) (fun _ =>
        Twin.bind (alone_refreshWindow _ _ _) (fun _ => Twin.pure _)))

theorem alone_deleteReadingsView : Alone id w₀ v₀ (deleteReadingsView env request id) := by
  refine alone_roleRequired (alone_getDeviceOr404 (fun device _ => ?_))
  split
  · exact Twin.pure _
  · dsimp only
    split
    · exact Twin.fail _
    · exact Twin.fail _
    · split
      · exact Twin.fail _
      · split
        · exact Twin.pure _
        · exact alone_deleteSelected rfl
    · exact Twin.pure _

include answers

theorem alone_publishAndRecord {command : Json} {user : User} {respond : Act Response}
    (rest : Alone id w₀ v₀ respond) : Alone id w₀ v₀ (publishAndRecord env device command user respond) := by
  refine Twin.bind (Twin.attempt (alone_mqttPublish answers)) (fun sent => ?_)
  split
  · exact Twin.pure _
  · exact Twin.bind alone_addCommandLog (fun _ => rest)

theorem alone_pushCalibration {command : Json} {key : String} {value : PyFloat} :
    Alone id w₀ v₀ (pushCalibration env request device command key value) := by
  refine Twin.bind (Twin.attempt (Twin.bind (alone_mqttPublish answers) (fun _ => alone_addCommandLog)))
    (fun sent => ?_)
  split
  · exact Twin.pure _
  · exact Twin.bind (alone_saveDevice _ _) (fun _ => Twin.pure _)

omit answers in
theorem alone_bareRequestView {refuse : Device → Bool} {send : Device → Act Unit}
    (inside : ∀ device, Alone id w₀ v₀ (send device)) :
    Alone id w₀ v₀ (bareRequestView request id refuse send) := by
  refine alone_ownPost (fun device _ => ?_)
  split
  · exact Twin.pure _
  · exact Twin.bind (inside device) (fun _ => Twin.pure _)

theorem alone_deviceOtaPushView : Alone id w₀ v₀ (deviceOtaPushView env request id) := by
  refine alone_ownPost (fun device _ => Twin.bind (Twin.read (fun w v abreast => ?_)) (fun chosen => ?_))
  · obtain ⟨ρ, same⟩ := abreast.rows
    simp only [chosenFirmware, compatibleFirmwares, same.firmwares]
  · split
    · exact Twin.fail _
    · exact Twin.pure _
    · refine Twin.rescue (Twin.bind ?_ (fun _ => Twin.pure _)) (fun _ => Twin.pure _)
      unfold sendOtaUpdate
      split
      · exact Twin.fail _
      · exact Twin.bind (alone_mqttPublish answers) (fun _ => alone_addCommandLog)

/-- A page of the device, but for a rename and for the deletion of a command by its number. -/
theorem alone_view {view : DeviceView} (stays : view ≠ .rename) (unnumbered : ∀ n, view ≠ .deleteCommand n) :
    Alone id w₀ v₀ (view.run env request id) := by
  cases view with
  | rename => exact absurd rfl stays
  | deleteCommand n => exact absurd rfl (unnumbered n)
  | edit =>
    refine alone_roleRequired (alone_getDeviceOr404 (fun device _ => ?_))
    split
    · exact Twin.pure _
    · exact Twin.bind (alone_saveDevice _ _) (fun _ => Twin.pure _)
  | approve =>
    exact alone_ownPost (fun _ _ => Twin.bind (Twin.when (fun _ => alone_saveDevice _ _)) (fun _ =>
      Twin.bind (Twin.when (fun _ => alone_saveDevice _ _)) (fun _ => Twin.pure _)))
  | command =>
    refine alone_ownPost (fun device _ => ?_)
    dsimp only
    split
    · exact Twin.pure _
    · split
      · exact Twin.fail _
      · exact alone_publishAndRecord answers (Twin.bind (alone_requestCapabilities answers) (fun _ => Twin.pure _))
  | setConfirmUplink =>
    refine alone_ownPost (fun device _ => ?_)
    split
    · exact Twin.pure _
    · exact alone_publishAndRecord answers (Twin.pure _)
  | calibration =>
    refine alone_ownPost (fun device _ => ?_)
    dsimp only
    split
    · exact Twin.pure _
    · split
      · exact Twin.pure _
      · exact alone_pushCalibration answers
  | setCalibration =>
    refine alone_ownPost (fun device _ => ?_)
    dsimp only
    split
    · exact Twin.pure _
    · split
      · exact Twin.pure _
      · exact alone_pushCalibration answers
  | requestCalibration => exact alone_bareRequestView (fun _ => alone_requestBare answers _)
  | requestStatus => exact alone_bareRequestView (fun _ => alone_requestBare answers _)
  | requestDiag => exact alone_bareRequestView (fun _ => alone_requestBare answers _)
  | requestCapabilities =>
    exact alone_bareRequestView (fun _ => Twin.bind (alone_requestCapabilities answers)
      (fun _ => alone_requestBare answers _))
  | otaPush => exact alone_deviceOtaPushView answers
  | clearCommands =>
    exact alone_ownPost (fun _ _ => Twin.bind (alone_emit (fun _ _ => rfl)) (fun _ => Twin.pure _))
  | delete =>
    refine alone_roleRequired (alone_getDeviceOr404 (fun device _ => ?_))
    split
    · exact Twin.bind alone_deleteDevice (fun _ => Twin.pure _)
    · exact Twin.pure _
  | deleteReadings => exact alone_deleteReadingsView

end Pages

section Api
variable {id : String} {w₀ v₀ : World} {env : Env} {request : ApiRequest}

theorem alone_publishTokenRequired {view : Act Reply} (inside : Alone id w₀ v₀ view) :
    Alone id w₀ v₀ (publishTokenRequired env request view) := by
  unfold publishTokenRequired
  split
  · exact Twin.pure _
  · split
    · exact Twin.pure _
    · exact inside

theorem alone_parseJsonBody {view : Fields → Act Reply} (inside : ∀ data, Alone id w₀ v₀ (view data)) :
    Alone id w₀ v₀ (parseJsonBody request view) := by
  unfold parseJsonBody
  split
  · exact inside _
  · exact Twin.fail _
  · exact Twin.pure _
  · exact Twin.pure _

theorem alone_hardwareCode (code : String) :
    Alone id w₀ v₀ (read (fun w : World => w.db.hardwareCodes.get? code)) := by
  refine Twin.read (fun w v abreast => ?_)
  obtain ⟨ρ, same⟩ := abreast.rows
  rw [same.hardwareCodes]

theorem alone_hwCodeView (code : String) : Alone id w₀ v₀ (hwCodeView env request code) := by
  refine alone_publishTokenRequired ?_
  split
  · exact Twin.pure _
  · split
    · exact Twin.pure _
    · refine alone_parseJsonBody (fun data => ?_)
      split
      · split
        · split
          · refine Twin.bind (alone_hardwareCode code) (fun existing => Twin.bind ?_ (fun _ => Twin.pure _))
            split
            · exact alone_emit trivial
            · exact Twin.fail _
          · exact Twin.pure _
        · exact Twin.pure _
      · exact Twin.pure _

theorem alone_hwRevisionView (code : String) (rev : Nat) :
    Alone id w₀ v₀ (hwRevisionView env request code rev) := by
  refine alone_publishTokenRequired ?_
  split
  · exact Twin.pure _
  · split
    · exact Twin.pure _
    · refine Twin.bind (alone_hardwareCode code) (fun known => ?_)
      cases known with
      | none => exact Twin.pure _
      | some row =>
        refine alone_parseJsonBody (fun data => ?_)
        split
        · split
          · exact Twin.pure _
          · exact Twin.fail _
          · refine Twin.bind (Twin.read (fun w v abreast => ?_)) (fun existing =>
              Twin.bind ?_ (fun _ => Twin.pure _))
            · obtain ⟨ρ, same⟩ := abreast.rows
              rw [same.hardwareRevisions]
            · split
              · exact alone_emit trivial
              · exact Twin.fail _
        · exact Twin.pure _

theorem alone_saveFile (revision : String × Nat) (version : String) (content : List UInt8) :
    Alone id w₀ v₀ (saveFile env revision version content) := by
  refine Twin.bind (Twin.read (fun w v abreast => ?_)) (fun media => ?_)
  · obtain ⟨ρ, same⟩ := abreast.rows
    exact same.media
  · split
    · exact Twin.fail _
    · split
      · exact Twin.bind (alone_emit trivial) (fun _ => Twin.pure _)
      · exact Twin.fail _
      · exact Twin.bind (alone_emit trivial) (fun _ => Twin.fail _)

theorem alone_replaceImage {revision : String × Nat} {version md5 notes : String} {upload : List UInt8}
    {existing : Option Firmware} :
    Alone id w₀ v₀ (replaceImage env revision version md5 notes upload existing) := by
  refine alone_atomic (Twin.bind (Twin.forEach (fun _ _ => Twin.when (fun _ => alone_emit trivial))) (fun _ =>
    Twin.bind (alone_saveFile _ _ _) (fun file => ?_)))
  split
  · exact Twin.fail _
  · refine Twin.bind ?_ (fun _ => ?_)
    · cases existing with
      | none => exact alone_emit trivial
      | some old => exact alone_emit trivial
    · split
      · exact Twin.pure _
      · exact Twin.fail _

theorem alone_publishFirmware : Alone id w₀ v₀ (publishFirmware env request) := by
  unfold publishFirmware
  dsimp only
  split
  · exact Twin.pure _
  split
  · exact Twin.pure _
  split
  · exact Twin.pure _
  split
  · exact Twin.pure _
  split
  · exact Twin.pure _
  split
  · exact Twin.pure _
  refine Twin.bind (Twin.read (fun w v abreast => ?_)) (fun rev => ?_)
  · obtain ⟨ρ, same⟩ := abreast.rows
    rw [same.hardwareRevisions]
  cases rev with
  | none => exact Twin.pure _
  | some rev =>
    dsimp only
    split
    · exact Twin.pure _
    · refine Twin.bind (Twin.read (fun w v abreast => ?_)) (fun existing => ?_)
      · obtain ⟨ρ, same⟩ := abreast.rows
        unfold firmwareOf
        rw [same.firmwares]
      · split
        · exact Twin.pure _
        · exact Twin.bind alone_replaceImage (fun _ => Twin.pure _)

theorem alone_api (view : ApiView) : Alone id w₀ v₀ (view.run env request) := by
  cases view with
  | hwCode code => exact alone_hwCodeView code
  | hwRevision code rev => exact alone_hwRevisionView code rev
  | firmwares =>
    refine alone_publishTokenRequired ?_
    split
    · exact alone_publishFirmware
    · exact Twin.pure _

end Api

end SensorServer
