import SensorServer.Models
import SensorServer.Lib.Program

/-! The state shared by the worker and the web process, the committed effects on
it, and the statements the services execute. Statements run in autocommit mode:
each takes effect at once and survives a later exception. -/
namespace SensorServer
open Program

structure Db where
  devices : Table Device.deviceId
  statusLogs : List DeviceStatusLog
  diagLogs : List DeviceDiagLog
  commandLogs : Serial CommandLog.id
  readings : List SensorReading
  hourly : List RollupRow
  daily : List RollupRow
  hardwareCodes : Table HardwareCode.hwCode
  hardwareRevisions : Table HardwareRevision.key
  firmwares : Serial Firmware.id

structure Publication where
  topic : String
  payload : Json
  retain : Bool
  qos : Nat
  delivered : Bool
  deriving DecidableEq

/-- An event sent to the live_readings group. -/
inductive ChannelEvent where
  | deviceStatus (deviceId : String) (level : AlertLevel) (message : String) (deviceName : String)
  | sensorReading (deviceId deviceType metric : String) (value : PyFloat) (time : Time)
      (deviceName : String)
  deriving DecidableEq, Repr

structure World where
  db : Db
  published : List Publication
  broadcasts : List ChannelEvent
  media : List (String × List UInt8)

def Db.empty : Db :=
  ⟨Table.empty _, [], [], Serial.empty _, [], [], [], Table.empty _, Table.empty _, Serial.empty _⟩

def World.empty : World := ⟨Db.empty, [], [], []⟩

def World.device? (w : World) (id : String) : Option Device := w.db.devices.get? id

inductive Rollup where
  | hourly | daily
  deriving DecidableEq, Repr

/-- A date and time as parse_datetime reads it: the wall clock read as UTC, and the
offset; none is a naive one. -/
structure Stamp where
  clock : Time
  offset : Option Time
  deriving DecidableEq, Repr

inductive Parsed where
  | stamp (s : Stamp)
  /-- not well formatted: None -/
  | unparsed
  /-- well formatted but no date: ValueError -/
  | invalid
  deriving DecidableEq, Repr

/-- What a disk that runs full leaves of a file: nothing, or its first bytes. -/
inductive Leftover where
  | nothing
  | bytes (count : Nat)
  deriving DecidableEq, Repr

/-- What one call meets outside the process. The broker and the channel layer may
refuse any message, told apart by how many were sent before it; a conversion answers
none where Python raises ValueError; commit and refresh say whether the database goes
along; alternatives are the names that get_alternative_name of the file storage makes of a taken
one, in the order they are drawn; diskFull, if any, is how its write fails. -/
structure Env where
  now : Time
  broker : Nat → Bool := fun _ => true
  channel : Nat → Bool := fun _ => true
  floatOfStr : String → Option PyFloat := fun _ => none
  intOfStr : String → Option Int := fun _ => none
  parseDatetime : String → Parsed := fun _ => .unparsed
  inTimeZone : Time → Time := id
  jsonLoads : String → Decoded := fun _ => .malformed
  commit : Bool := true
  refresh : Rollup → Bool := fun _ => true
  otaBaseUrl : String := ""
  otaPublishToken : String := ""
  md5 : List UInt8 → String := fun _ => ""
  alternatives : String → List String := fun _ => []
  diskFull : Option Leftover := none

/-- The exceptions told apart; dataError is a value PostgreSQL refuses, integrity a
duplicate or null key, storage a file storage without a free name or out of space, overflow
a date before the calendar. -/
inductive Raised where
  | decode
  | dataError
  | integrity
  | conversion
  | typeError
  | valueError
  | channel
  | broker
  | database
  | otaError (detail : String)
  | storage
  | overflow
  deriving DecidableEq, Repr

abbrev Act (α : Type) := Prog Raised World α

inductive Effect where
  | createDevice (d : Device)
  | saveDevice (d : Device) (fields : List DeviceField)
  | deleteDevice (id : String)
  | addStatusLog (row : DeviceStatusLog)
  | addDiagLog (row : DeviceDiagLog)
  | addCommandLog (device : String) (command : Json) (sentAt : Time) (sentBy : Option String)
  | markCommands (which : CommandLog → Bool) (status : CommandStatus) (message : String) (at_ : Time)
  | deleteCommands (which : CommandLog → Bool)
  | addReadings (rows : List SensorReading)
  | deleteReadings (which : SensorReading → Bool)
  | moveReadings (which : SensorReading → Bool) (target : String)
  | moveLogs (source target : String)
  | setRollup (view : Rollup) (rows : List RollupRow)
  | putHardwareCode (row : HardwareCode)
  | putRevision (row : HardwareRevision)
  | addFirmware (hardwareRevision : String × Nat) (version file md5 : String) (size : Nat)
      (uploadedAt : Time) (notes : String)
  | saveFirmware (id : Nat) (file md5 : String) (size : Nat) (notes : String)
  | storeFile (name : String) (content : List UInt8)
  | deleteFile (name : String)
  | publish (p : Publication)
  | broadcast (e : ChannelEvent)

namespace World

/-- Deleting a device deletes the rows whose CASCADE key still points to it. -/
def cascade (db : Db) (id : String) : Db :=
  { db with
    devices := db.devices.filter (fun d => d.deviceId ≠ id)
    statusLogs := db.statusLogs.filter (fun l => l.device ≠ id)
    diagLogs := db.diagLogs.filter (fun l => l.device ≠ id)
    commandLogs := db.commandLogs.filter (fun l => l.device ≠ id) }

/-- DeviceStatusLog and CommandLog are re-pointed by hand, DeviceDiagLog is not. -/
def moveLogs (db : Db) (source target : String) : Db :=
  { db with
    statusLogs := db.statusLogs.map
      (fun l => if l.device = source then { l with device := target } else l)
    commandLogs := db.commandLogs.update (fun l => l.device = source)
      (fun l => { l with device := target }) (fun _ => rfl) }

def setRollup (db : Db) (rows : List RollupRow) : Rollup → Db
  | .hourly => { db with hourly := rows }
  | .daily => { db with daily := rows }

def apply (w : World) : Effect → World
  | .createDevice d => { w with db.devices := w.db.devices.insert d }
  | .saveDevice d fields =>
    { w with
      db.devices := w.db.devices.update (fun r => r.deviceId = d.deviceId)
        (d.copyFields fields) (d.deviceId_copyFields fields) }
  | .deleteDevice id => { w with db := cascade w.db id }
  | .addStatusLog row => { w with db.statusLogs := w.db.statusLogs ++ [row] }
  | .addDiagLog row => { w with db.diagLogs := w.db.diagLogs ++ [row] }
  | .addCommandLog device command sentAt sentBy =>
    { w with
      db.commandLogs := w.db.commandLogs.append
        (fun n => { id := n, device := device, command := command, sentAt := sentAt, sentBy := sentBy })
        (fun _ => rfl) }
  | .markCommands which status message at_ =>
    { w with
      db.commandLogs := w.db.commandLogs.update which
        (fun r => r.mark status message at_) (fun _ => rfl) }
  | .deleteCommands which => { w with db.commandLogs := w.db.commandLogs.filter (fun r => !which r) }
  | .addReadings rows => { w with db.readings := w.db.readings ++ rows }
  | .deleteReadings which => { w with db.readings := w.db.readings.filter (fun r => !which r) }
  | .moveReadings which target =>
    { w with
      db.readings := w.db.readings.map
        (fun r => if which r then { r with deviceId := target } else r) }
  | .moveLogs source target => { w with db := moveLogs w.db source target }
  | .setRollup view rows => { w with db := setRollup w.db rows view }
  | .putHardwareCode row => { w with db.hardwareCodes := w.db.hardwareCodes.put row }
  | .putRevision row => { w with db.hardwareRevisions := w.db.hardwareRevisions.put row }
  | .addFirmware hardwareRevision version file md5 size uploadedAt notes =>
    { w with
      db.firmwares := w.db.firmwares.append
        (fun n => ⟨n, hardwareRevision, version, file, md5, size, uploadedAt, notes⟩) (fun _ => rfl) }
  | .saveFirmware id file md5 size notes =>
    { w with
      db.firmwares := w.db.firmwares.update (fun f => f.id = id)
        (fun f => { f with file := file, md5 := md5, size := size, notes := notes }) (fun _ => rfl) }
  | .storeFile name content => { w with media := w.media ++ [(name, content)] }
  | .deleteFile name => { w with media := w.media.filter (fun f => f.1 ≠ name) }
  | .publish p => { w with published := w.published ++ [p] }
  | .broadcast e => { w with broadcasts := w.broadcasts ++ [e] }

end World

def emit (e : Effect) : Act Unit := write (fun w => w.apply e)

/-- device.save(update_fields=...): one UPDATE, refused as a whole. -/
def saveDevice (d : Device) (fields : List DeviceField) : Act Unit :=
  if fields.all d.accepts then emit (.saveDevice d fields) else fail .dataError

def createDevice (d : Device) : Act Unit := do
  let existing ← read (fun w => w.device? d.deviceId)
  match existing with
  | some _ => fail .integrity
  | none => if d.insertable then emit (.createDevice d) else fail .dataError

def addStatusLog (row : DeviceStatusLog) : Act Unit :=
  if varchar 256 row.alertMessage then emit (.addStatusLog row) else fail .dataError

def addDiagLog (row : DeviceDiagLog) : Act Unit :=
  if row.insertable then emit (.addDiagLog row) else fail .dataError

/-- CommandLog.objects.create: a null value is stored as SQL NULL, which the column forbids. -/
def addCommandLog (env : Env) (device : String) (command : Json) (sentBy : Option String) : Act Unit :=
  if command = .null then fail .integrity
  else if command.storable then emit (.addCommandLog device command env.now sentBy)
  else fail .dataError

def markCommand (row : CommandLog) (status : CommandStatus) (message : String) (at_ : Time) : Act Unit :=
  if varchar 256 (pyTake 256 message) then emit (.markCommands (fun r => r.id = row.id) status message at_)
  else fail .dataError

def mqttPublish (env : Env) (topic : String) (payload : Json) (retain : Bool) (qos : Nat) : Act Unit := do
  let taken ← read (fun w => env.broker w.published.length)
  emit (.publish ⟨topic, payload, retain, qos, taken⟩)
  if taken then pure () else fail .broker

/-- group_send to live_readings -/
def groupSend (env : Env) (e : ChannelEvent) : Act Unit := do
  let taken ← read (fun w => env.channel w.broadcasts.length)
  if taken then emit (.broadcast e) else fail .channel

/-- transaction.atomic: a failing block leaves the tables as they were. -/
def atomic {α : Type} (body : Act α) : Act α :=
  ExceptT.mk (fun w => match outcome body w with
    | (.ok a, v) => (.ok a, v)
    | (.error e, v) => (.error e, { v with db := w.db }))

def transaction {α : Type} (env : Env) (body : Act α) : Act α :=
  atomic (do
    let a ← body
    if env.commit then pure a else fail .database)

theorem outcome_atomic {α : Type} (body : Act α) (w : World) :
    outcome (atomic body) w = match outcome body w with
      | (.ok a, v) => (.ok a, v)
      | (.error e, v) => (.error e, { v with db := w.db }) := rfl

theorem outcome_atomic_ok {α : Type} {body : Act α} {w v : World} {a : α} :
    outcome (atomic body) w = (.ok a, v) ↔ outcome body w = (.ok a, v) := by
  rw [outcome_atomic]
  rcases outcome body w with ⟨e | b, t⟩ <;> simp

theorem outcome_transaction_ok {α : Type} {env : Env} {body : Act α} {w v : World} {a : α} :
    outcome (transaction env body) w = (.ok a, v) ↔ outcome body w = (.ok a, v) ∧ env.commit = true := by
  unfold transaction
  rw [outcome_atomic_ok, outcome_bind_eq_ok]
  cases taken : env.commit with
  | false => simp
  | true => simp

theorem upholds_atomic {α : Type} {R : World → World → Prop} {body : Act α}
    (undone : ∀ w v, R w v → R w { v with db := w.db }) (valid : Upholds R body) :
    Upholds R (atomic body) := by
  intro w
  have inside := valid w
  unfold after at *
  rw [outcome_atomic]
  rcases run : outcome body w with ⟨e | a, v⟩
  · rw [run] at inside
    exact undone w v inside
  · rw [run] at inside
    exact inside

theorem upholds_transaction {α : Type} {R : World → World → Prop} {env : Env} {body : Act α}
    (closed : Closed R) (undone : ∀ w v, R w v → R w { v with db := w.db }) (valid : Upholds R body) :
    Upholds R (transaction env body) := by
  refine upholds_atomic undone (Upholds.bind closed valid (fun a => ?_))
  split
  · exact Upholds.pure closed a
  · exact Upholds.fail closed _

theorem db_of_transaction_error {α : Type} {env : Env} {body : Act α} {w v : World} {e : Raised}
    (raised : outcome (transaction env body) w = (.error e, v)) : v.db = w.db := by
  unfold transaction at raised
  rw [outcome_atomic] at raised
  split at raised
  · cases raised
  · cases raised
    rfl

theorem outcome_emit (e : Effect) (w : World) : outcome (emit e) w = (.ok (), w.apply e) := rfl

theorem outcome_emit_eq_ok {e : Effect} {w v : World} :
    outcome (emit e) w = (.ok (), v) ↔ v = w.apply e := by
  unfold emit
  rw [outcome_write, Prod.mk.injEq]
  exact ⟨fun h => h.2.symm, fun h => ⟨rfl, h.symm⟩⟩

theorem outcome_createDevice_error {d : Device} {w v : World} {e : Raised}
    (run : outcome (createDevice d) w = (.error e, v)) : v = w := by
  unfold createDevice at run
  rw [outcome_bind, outcome_read] at run
  dsimp only at run
  split at run
  · cases run
    rfl
  · split at run <;> cases run
    rfl

theorem outcome_createDevice_ok {d : Device} {w v : World} :
    outcome (createDevice d) w = (.ok (), v) ↔
      w.device? d.deviceId = none ∧ d.insertable = true ∧ v = w.apply (.createDevice d) := by
  unfold createDevice
  rw [outcome_bind, outcome_read]
  cases w.device? d.deviceId with
  | some _ => simp
  | none =>
    by_cases insertable : d.insertable = true
    · simp [insertable, outcome_emit_eq_ok]
    · simp [insertable]

theorem after_emit (e : Effect) (w : World) : after (emit e) w = w.apply e := rfl

theorem after_bind_pure {α β : Type} (m : Act α) (f : α → β) (w : World) :
    after (m >>= fun a => pure (f a)) w = after m w := by
  simp only [after, outcome_bind]
  split <;> simp_all

@[simp] theorem varchar_pyTake (n : Nat) (s : String) : varchar n (pyTake n s) = nulFree (pyTake n s) := by
  have short : (pyTake n s).toList.length ≤ n := by simp [pyTake]
  simp [varchar, short]

theorem nulFree_pyTake {n : Nat} {s : String} (h : nulFree s = true) : nulFree (pyTake n s) = true := by
  simp only [nulFree, pyTake, String.toList_ofList, List.all_eq_true] at *
  exact fun c hc => h c (List.mem_of_mem_take hc)

theorem nulFree_append {s t : String} (h : nulFree s = true) (k : nulFree t = true) :
    nulFree (s ++ t) = true := by
  simp_all [nulFree, List.all_append]

theorem nulFree_toString (n : Nat) : nulFree (toString n) = true := by
  simp only [nulFree, List.all_eq_true]
  intro c hc
  have digit : c.isDigit = true :=
    Nat.isDigit_of_mem_toDigits (b := 10) (n := n) (by decide) (by decide) (by simpa using hc)
  have other : c ≠ '\x00' := by
    rintro rfl
    exact absurd digit (by decide)
  simpa using other

theorem outcome_saveDevice (d : Device) (fields : List DeviceField) (w : World) :
    outcome (saveDevice d fields) w =
      if fields.all d.accepts then (.ok (), w.apply (.saveDevice d fields)) else (.error .dataError, w) := by
  unfold saveDevice
  split <;> rfl

theorem device?_saveDevice (w : World) (d : Device) (fields : List DeviceField) (id : String) :
    (w.apply (.saveDevice d fields)).device? id =
      (w.device? id).map (fun r => if r.deviceId = d.deviceId then d.copyFields fields r else r) := by
  simp [World.apply, World.device?]

theorem device?_saved {w : World} {id : String} {row saved : Device} (known : w.device? id = some row)
    (own : saved.deviceId = row.deviceId) (fields : List DeviceField) :
    (w.apply (.saveDevice saved fields)).device? id = some (saved.copyFields fields row) := by
  rw [device?_saveDevice, known, Option.map_some, if_pos own.symm]

theorem outcome_mqttPublish (env : Env) (topic : String) (payload : Json) (retain : Bool) (qos : Nat)
    (w : World) :
    outcome (mqttPublish env topic payload retain qos) w =
      (if env.broker w.published.length then .ok () else .error .broker,
        w.apply (.publish ⟨topic, payload, retain, qos, env.broker w.published.length⟩)) := by
  unfold mqttPublish emit
  simp only [outcome_bind, outcome_read, outcome_write]
  cases env.broker w.published.length <;> rfl

theorem after_mqttPublish (env : Env) (topic : String) (payload : Json) (retain : Bool) (qos : Nat)
    (w : World) :
    after (mqttPublish env topic payload retain qos) w =
      w.apply (.publish ⟨topic, payload, retain, qos, env.broker w.published.length⟩) := by
  rw [after, outcome_mqttPublish]

theorem outcome_attempt_publish (env : Env) (topic : String) (payload : Json) (retain : Bool) (qos : Nat)
    (w : World) :
    outcome (attempt (mqttPublish env topic payload retain qos)) w =
      (.ok (env.broker w.published.length),
        w.apply (.publish ⟨topic, payload, retain, qos, env.broker w.published.length⟩)) := by
  rw [outcome_attempt, outcome_mqttPublish]
  cases env.broker w.published.length <;> rfl

theorem outcome_addStatusLog {row : DeviceStatusLog} (short : varchar 256 row.alertMessage = true) (w : World) :
    outcome (addStatusLog row) w = (.ok (), w.apply (.addStatusLog row)) := by
  rw [addStatusLog, if_pos short]
  rfl

theorem outcome_addDiagLog (row : DeviceDiagLog) (w : World) :
    outcome (addDiagLog row) w =
      if row.insertable then (.ok (), w.apply (.addDiagLog row)) else (.error .dataError, w) := by
  unfold addDiagLog
  split <;> rfl

theorem outcome_groupSend (env : Env) (e : ChannelEvent) (w : World) :
    outcome (groupSend env e) w =
      if env.channel w.broadcasts.length then (.ok (), w.apply (.broadcast e)) else (.error .channel, w) := by
  unfold groupSend
  rw [outcome_bind, outcome_read]
  dsimp only
  split <;> rfl

theorem after_addCommandLog (env : Env) (device : String) (command : Json) (sentBy : Option String)
    (w : World) :
    after (addCommandLog env device command sentBy) w =
      if command ≠ .null ∧ command.storable then w.apply (.addCommandLog device command env.now sentBy)
      else w := by
  unfold addCommandLog
  by_cases null : command = .null
  · simp [null]
  · by_cases storable : command.storable <;> simp [null, storable, after_emit]

theorem outcome_markCommand (row : CommandLog) (status : CommandStatus) (message : String) (at_ : Time)
    (w : World) :
    outcome (markCommand row status message at_) w =
      if nulFree (pyTake 256 message) then
        (.ok (), w.apply (.markCommands (fun r => r.id = row.id) status message at_))
      else (.error .dataError, w) := by
  unfold markCommand
  rw [varchar_pyTake]
  split <;> rfl

theorem after_markCommand (row : CommandLog) (status : CommandStatus) (message : String) (at_ : Time)
    (w : World) :
    after (markCommand row status message at_) w =
      if nulFree (pyTake 256 message) then
        w.apply (.markCommands (fun r => r.id = row.id) status message at_)
      else w := by
  rw [after, outcome_markCommand]
  split <;> rfl

section Upholds
variable {R : World → World → Prop} (closed : Closed R)
include closed

omit closed in
theorem upholds_emit {e : Effect} (ok : ∀ w, R w (w.apply e)) : Upholds R (emit e) := ok

theorem upholds_saveDevice {d : Device} {fields : List DeviceField}
    (ok : ∀ w, R w (w.apply (.saveDevice d fields))) : Upholds R (saveDevice d fields) := by
  unfold saveDevice
  split
  · exact upholds_emit ok
  · exact Upholds.fail closed _

theorem upholds_createDevice {d : Device} (ok : ∀ w, R w (w.apply (.createDevice d))) :
    Upholds R (createDevice d) := by
  refine Upholds.bind closed (Upholds.read closed _) (fun existing => ?_)
  cases existing with
  | some _ => exact Upholds.fail closed _
  | none =>
    dsimp only
    split
    · exact upholds_emit ok
    · exact Upholds.fail closed _

theorem upholds_addStatusLog {row : DeviceStatusLog} (ok : ∀ w, R w (w.apply (.addStatusLog row))) :
    Upholds R (addStatusLog row) := by
  unfold addStatusLog
  split
  · exact upholds_emit ok
  · exact Upholds.fail closed _

theorem upholds_addDiagLog {row : DeviceDiagLog} (ok : ∀ w, R w (w.apply (.addDiagLog row))) :
    Upholds R (addDiagLog row) := by
  unfold addDiagLog
  split
  · exact upholds_emit ok
  · exact Upholds.fail closed _

theorem upholds_addCommandLog {env : Env} {device : String} {command : Json} {sentBy : Option String}
    (ok : ∀ w, R w (w.apply (.addCommandLog device command env.now sentBy))) :
    Upholds R (addCommandLog env device command sentBy) := by
  unfold addCommandLog
  split
  · exact Upholds.fail closed _
  · split
    · exact upholds_emit ok
    · exact Upholds.fail closed _

theorem upholds_markCommand {row : CommandLog} {status : CommandStatus} {message : String} {at_ : Time}
    (ok : ∀ w, R w (w.apply (.markCommands (fun r => r.id = row.id) status message at_))) :
    Upholds R (markCommand row status message at_) := by
  unfold markCommand
  split
  · exact upholds_emit ok
  · exact Upholds.fail closed _

theorem upholds_mqttPublish {env : Env} {topic : String} {payload : Json} {retain : Bool} {qos : Nat}
    (ok : ∀ w taken, R w (w.apply (.publish ⟨topic, payload, retain, qos, taken⟩))) :
    Upholds R (mqttPublish env topic payload retain qos) := by
  refine Upholds.bind closed (Upholds.read closed _) (fun taken =>
    Upholds.bind closed (upholds_emit (ok · taken)) (fun _ => ?_))
  split
  · exact Upholds.pure closed _
  · exact Upholds.fail closed _

theorem upholds_groupSend {env : Env} {e : ChannelEvent} (ok : ∀ w, R w (w.apply (.broadcast e))) :
    Upholds R (groupSend env e) := by
  refine Upholds.bind closed (Upholds.read closed _) (fun taken => ?_)
  split
  · exact upholds_emit ok
  · exact Upholds.fail closed _

end Upholds

/-- Every way the program ends is reached by allowed effects. -/
abbrev Emits {α : Type} (allowed : World → Effect → Prop) (m : Act α) : Prop :=
  Upholds (Journal World.apply allowed) m

section Emits
variable {allowed : World → Effect → Prop} {α β : Type}

theorem Emits.pure (a : α) : Emits allowed (Pure.pure a : Act α) :=
  Upholds.pure (journal_closed _ _) a

theorem Emits.bind {m : Act α} {f : α → Act β} (first : Emits allowed m)
    (rest : ∀ a, Emits allowed (f a)) : Emits allowed (m >>= f) :=
  Upholds.bind (journal_closed _ _) first rest

theorem Emits.bind_returning {m : Act α} {f : α → Act β} {result : α → Prop}
    (first : Emits allowed m) (returns : Returns result m)
    (rest : ∀ a, result a → Emits allowed (f a)) : Emits allowed (m >>= f) :=
  Upholds.bind_returning (journal_closed _ _) first returns rest

theorem Emits.attempt {m : Act α} (valid : Emits allowed m) : Emits allowed (attempt m) :=
  Upholds.attempt valid

theorem Emits.when {c : Bool} {m : Act Unit} (valid : c = true → Emits allowed m) :
    Emits allowed (when c m) :=
  Upholds.when (journal_closed _ _) valid

theorem Emits.upholds {R : World → World → Prop} {m : Act α} (closed : Closed R)
    (each : ∀ w e, allowed w e → R w (w.apply e)) (valid : Emits allowed m) : Upholds R m :=
  Upholds.mono (fun _ _ => journal_induction _ closed each) valid

theorem emits_emit {e : Effect} (ok : ∀ w, allowed w e) : Emits allowed (emit e) :=
  fun w => journal_single _ (ok w)

theorem emits_addCommandLog {env : Env} {device : String} {command : Json} {sentBy : Option String}
    (ok : ∀ w, allowed w (.addCommandLog device command env.now sentBy)) :
    Emits allowed (addCommandLog env device command sentBy) :=
  upholds_addCommandLog (journal_closed _ _) (fun w => journal_single _ (ok w))

theorem emits_markCommand {row : CommandLog} {status : CommandStatus} {message : String} {at_ : Time}
    (ok : ∀ w, allowed w (.markCommands (fun r => r.id = row.id) status message at_)) :
    Emits allowed (markCommand row status message at_) :=
  upholds_markCommand (journal_closed _ _) (fun w => journal_single _ (ok w))

end Emits

end SensorServer
