import SensorServer.Ownership
import SensorServer.Topics
import SensorServer.Lib.Twin
import SensorServer.Lib.Unwinding
import Mathlib.Logic.Equiv.Basic

/-! One device in two states that agree on it, whatever other devices they hold. Command ids come
from one counter for all devices, so they agree up to a renumbering. -/
namespace SensorServer
open Program

def World.registry (w : World) :
    Table HardwareCode.hwCode × Table HardwareRevision.key × Serial Firmware.id × List (String × List UInt8) :=
  (w.db.hardwareCodes, w.db.hardwareRevisions, w.db.firmwares, w.media)

def World.sentTo (w : World) (id : String) : List Publication :=
  w.published.filter (fun p => (parseTopic p.topic).any (fun t => decide (t.2.1 = id)))

def World.heardOf (w : World) (id : String) : List ChannelEvent :=
  w.broadcasts.filter (fun e => decide (e.device = id))

def CommandLog.renumber (ρ : Equiv.Perm ℕ) (r : CommandLog) : CommandLog := { r with id := ρ r.id }

/-- The rows of the device, the ids of its commands renumbered. -/
structure SameDevice (id : String) (ρ : Equiv.Perm ℕ) (w v : World) : Prop where
  row : w.device? id = v.device? id
  statusLogs : ownedBy DeviceStatusLog.device id w.db.statusLogs = ownedBy DeviceStatusLog.device id v.db.statusLogs
  diagLogs : ownedBy DeviceDiagLog.device id w.db.diagLogs = ownedBy DeviceDiagLog.device id v.db.diagLogs
  readings : ownedBy SensorReading.deviceId id w.db.readings = ownedBy SensorReading.deviceId id v.db.readings
  commands : (ownedBy CommandLog.device id w.db.commandLogs.rows).map (CommandLog.renumber ρ) =
    ownedBy CommandLog.device id v.db.commandLogs.rows
  registry : w.registry = v.registry

@[simp] theorem renumber_refl : CommandLog.renumber (Equiv.refl ℕ) = fun r => r := rfl

theorem SameDevice.of_tables {id : String} {w v : World} (db : w.db = v.db) (media : w.media = v.media) :
    SameDevice id (Equiv.refl ℕ) w v := by
  constructor <;> simp [World.device?, World.registry, db, media]

theorem SameDevice.refl (id : String) (w : World) : SameDevice id (Equiv.refl ℕ) w w := .of_tables rfl rfl

theorem SameDevice.symm {id : String} {ρ : Equiv.Perm ℕ} {w v : World} (same : SameDevice id ρ w v) :
    SameDevice id ρ.symm v w := by
  refine ⟨same.row.symm, same.statusLogs.symm, same.diagLogs.symm, same.readings.symm, ?_, same.registry.symm⟩
  rw [← same.commands, List.map_map]
  conv_rhs => rw [← List.map_id (ownedBy _ _ _)]
  exact List.map_congr_left (fun r _ => by simp [CommandLog.renumber])

theorem SameDevice.trans {id : String} {ρ σ : Equiv.Perm ℕ} {w v u : World} (first : SameDevice id ρ w v)
    (rest : SameDevice id σ v u) : SameDevice id (ρ.trans σ) w u := by
  refine ⟨first.row.trans rest.row, first.statusLogs.trans rest.statusLogs, first.diagLogs.trans rest.diagLogs,
    first.readings.trans rest.readings, ?_, first.registry.trans rest.registry⟩
  rw [← rest.commands, ← first.commands, List.map_map]
  rfl

/-- Nothing of the device changes, and no message or event is about it. -/
structure Unseen (id : String) (w v : World) : Prop where
  rows : SameDevice id (Equiv.refl ℕ) w v
  sent : v.sentTo id = w.sentTo id
  heard : v.heardOf id = w.heardOf id

theorem unseen_closed (id : String) : Closed (Unseen id) where
  refl w := ⟨.refl id w, rfl, rfl⟩
  trans h k := ⟨h.rows.trans k.rows, k.sent.trans h.sent, k.heard.trans h.heard⟩

theorem Unseen.undone {id : String} {w v : World} (unseen : Unseen id w v) :
    Unseen id w { v with db := w.db } := by
  have media : w.media = v.media := congrArg (fun r => r.2.2.2) unseen.rows.registry
  refine ⟨⟨rfl, rfl, rfl, rfl, by simp, ?_⟩, unseen.sent, unseen.heard⟩
  unfold World.registry
  rw [media]

/-- A topic is read as the device it is made for. -/
theorem parseTopic_commandTopic {d : Device} {deviceType deviceId msgType : String}
    (parsed : parseTopic (commandTopic d) = some (deviceType, deviceId, msgType)) :
    deviceType = d.deviceType ∧ deviceId = d.deviceId ∧ msgType = "command" := by
  have segments := (parseTopic_eq_some.mp parsed).1
  have made : Segments (commandTopic d) d.deviceType d.deviceId "command" := by
    refine ⟨?_, segments.slashes⟩
    apply String.toList_injective
    simp [commandTopic]
  have same := (segments_iff.mp segments).symm.trans (segments_iff.mp made)
  simpa using same

theorem sentTo_publish_other {id : String} {w : World} {p : Publication} {d : Device}
    (topic : p.topic = commandTopic d) (other : d.deviceId ≠ id) :
    (w.apply (.publish p)).sentTo id = w.sentTo id := by
  have unaddressed : (parseTopic p.topic).any (fun t => decide (t.2.1 = id)) = false := by
    rw [topic]
    cases parsed : parseTopic (commandTopic d) with
    | none => rfl
    | some t =>
      have named := (parseTopic_commandTopic parsed).2.1
      simpa [named] using other
  simp [World.sentTo, World.apply, unaddressed]

theorem Unseen.of_db {id : String} {w : World} {db : Db}
    (row : w.db.devices.get? id = db.devices.get? id)
    (statusLogs : ownedBy DeviceStatusLog.device id w.db.statusLogs = ownedBy DeviceStatusLog.device id db.statusLogs)
    (diagLogs : ownedBy DeviceDiagLog.device id w.db.diagLogs = ownedBy DeviceDiagLog.device id db.diagLogs)
    (readings : ownedBy SensorReading.deviceId id w.db.readings = ownedBy SensorReading.deviceId id db.readings)
    (commands : ownedBy CommandLog.device id w.db.commandLogs.rows = ownedBy CommandLog.device id db.commandLogs.rows)
    (registry : w.registry = ({ w with db := db } : World).registry) : Unseen id w { w with db := db } :=
  ⟨⟨row, statusLogs, diagLogs, readings, by simpa using commands, registry⟩, rfl, rfl⟩

theorem device?_cascade_other {w : World} {id other : String} (apart : other ≠ id) :
    w.device? id = (w.apply (.deleteDevice other)).device? id := by
  have kept : (w.apply (.deleteDevice other)).device? id = (w.device? id).filter (fun d => d.deviceId ≠ other) :=
    Table.get?_filter _ _ _
  rw [kept]
  cases found : w.device? id with
  | none => rfl
  | some d =>
    have named : d.deviceId ≠ other := by
      rw [Table.key_get? found]
      exact Ne.symm apart
    rw [Option.filter_some, if_pos (by simpa using named)]

theorem unseen_apply {id : String} {w : World} {e : Effect} (others : e.Within (.of (· ≠ id)) w) :
    Unseen id w (w.apply e) := by
  cases e with
  | createDevice d => exact .of_db (Table.get?_insert_other others).symm rfl rfl rfl rfl rfl
  | saveDevice d fields =>
    refine .of_db ?_ rfl rfl rfl rfl rfl
    rw [Table.get?_update]
    cases found : w.db.devices.get? id with
    | none => rfl
    | some row =>
      have apart : row.deviceId ≠ d.deviceId := by
        rw [Table.key_get? found]
        exact Ne.symm others.1
      simp [apart]
  | deleteDevice other =>
    refine .of_db (device?_cascade_other others) ?_ ?_ rfl ?_ rfl
    · exact (ownedBy_filter_other (Ne.symm others)).symm
    · exact (ownedBy_filter_other (Ne.symm others)).symm
    · exact (ownedBy_filter_other (Ne.symm others)).symm
  | addStatusLog row =>
    exact .of_db rfl (ownedBy_append_kept (List.forall_mem_singleton.mpr others)).symm rfl rfl rfl rfl
  | addDiagLog row =>
    exact .of_db rfl rfl (ownedBy_append_kept (List.forall_mem_singleton.mpr others)).symm rfl rfl rfl
  | addCommandLog device command sentAt sentBy =>
    have apart : device ≠ id := others
    exact .of_db rfl rfl rfl rfl (ownedBy_append_kept (by simpa using apart)).symm rfl
  | markCommands which status message at_ =>
    refine .of_db rfl rfl rfl rfl (ownedBy_update_kept (fun r member hit => ?_)).symm rfl
    exact ⟨others r member hit, others r member hit⟩
  | deleteCommands which =>
    refine .of_db rfl rfl rfl rfl (ownedBy_filter_kept (fun r member gone => ?_)).symm rfl
    exact others r member (by simpa using gone)
  | addReadings rows => exact .of_db rfl rfl rfl (ownedBy_append_kept others.2).symm rfl rfl
  | deleteReadings which =>
    refine .of_db rfl rfl rfl (ownedBy_filter_kept (fun r member gone => ?_)).symm rfl rfl
    exact others r member (by simpa using gone)
  | moveReadings which target =>
    refine .of_db rfl rfl rfl (ownedBy_update_kept (fun r member hit => ?_)).symm rfl rfl
    exact ⟨others.2 r member hit, others.1⟩
  | moveLogs source target =>
    obtain ⟨from_, to_⟩ := others
    refine .of_db rfl (ownedBy_update_kept (fun l _ hit => ?_)).symm rfl rfl
      (ownedBy_update_kept (fun r _ hit => ?_)).symm rfl
    · exact ⟨hit ▸ from_, to_⟩
    · exact ⟨of_decide_eq_true hit ▸ from_, to_⟩
  | setRollup view rows => cases view <;> exact .of_db rfl rfl rfl rfl rfl rfl
  | publish p =>
    obtain ⟨d, apart, topic⟩ := others
    exact ⟨.of_tables rfl rfl, sentTo_publish_other topic apart, rfl⟩
  | broadcast event =>
    refine ⟨.of_tables rfl rfl, rfl, ?_⟩
    have apart : event.device ≠ id := others.1
    simp [World.heardOf, World.apply, apart]
  | _ => exact others.elim

theorem confined_unseen (id : String) : Confined (.of (· ≠ id)) (Unseen id) where
  closed := unseen_closed id
  plain := fun _ _ => trivial
  told := fun _ _ _ others => unseen_apply others
  mild := fun _ _ _ others => unseen_apply others
  each := fun _ _ others => unseen_apply others
  undone := fun _ _ unseen => unseen.undone

/-- From two states, the device gets the same messages and ends up with the same rows. -/
structure Abreast (id : String) (w₀ v₀ w v : World) : Prop where
  rows : ∃ ρ, SameDevice id ρ w v
  sent : ∃ new, w.published = w₀.published ++ new ∧ v.published = v₀.published ++ new
  heard : ∃ new, w.broadcasts = w₀.broadcasts ++ new ∧ v.broadcasts = v₀.broadcasts ++ new

def Effect.IdBlind : Effect → Prop
  | .markCommands which _ _ _ | .deleteCommands which => ∀ r ρ, which (CommandLog.renumber ρ r) = which r
  | .moveReadings _ _ | .moveLogs _ _ => False
  | _ => True

section Rows
variable {id : String} {ρ : Equiv.Perm ℕ} {w v : World}

theorem SameDevice.hardwareCodes (same : SameDevice id ρ w v) : w.db.hardwareCodes = v.db.hardwareCodes :=
  congrArg (fun r => r.1) same.registry

theorem SameDevice.hardwareRevisions (same : SameDevice id ρ w v) :
    w.db.hardwareRevisions = v.db.hardwareRevisions := congrArg (fun r => r.2.1) same.registry

theorem SameDevice.firmwares (same : SameDevice id ρ w v) : w.db.firmwares = v.db.firmwares :=
  congrArg (fun r => r.2.2.1) same.registry

theorem SameDevice.media (same : SameDevice id ρ w v) : w.media = v.media := congrArg (fun r => r.2.2.2) same.registry

theorem SameDevice.createDevice (same : SameDevice id ρ w v) (d : Device) :
    SameDevice id ρ (w.apply (.createDevice d)) (v.apply (.createDevice d)) := by
  refine { same with row := ?_ }
  have row := same.row
  by_cases mine : d.deviceId = id
  · subst mine
    cases found : w.device? d.deviceId with
    | none =>
      rw [found] at row
      have first : (w.apply (.createDevice d)).device? d.deviceId = some d := Table.get?_insert_new found
      have second : (v.apply (.createDevice d)).device? d.deviceId = some d := Table.get?_insert_new row.symm
      rw [first, second]
    | some taken =>
      rw [found] at row
      have first : w.apply (.createDevice d) = w := by simp [World.apply, Table.insert_taken found]
      have second : v.apply (.createDevice d) = v := by simp [World.apply, Table.insert_taken row.symm]
      rw [first, second, found, row]
  · have first : (w.apply (.createDevice d)).device? id = w.device? id := Table.get?_insert_other mine
    have second : (v.apply (.createDevice d)).device? id = v.device? id := Table.get?_insert_other mine
    rw [first, second, row]

theorem SameDevice.saveDevice (same : SameDevice id ρ w v) (d : Device) (fields : List DeviceField) :
    SameDevice id ρ (w.apply (.saveDevice d fields)) (v.apply (.saveDevice d fields)) := by
  refine { same with row := ?_ }
  rw [device?_saveDevice, device?_saveDevice, same.row]

theorem SameDevice.deleteDevice (same : SameDevice id ρ w v) (gone : String) :
    SameDevice id ρ (w.apply (.deleteDevice gone)) (v.apply (.deleteDevice gone)) := by
  have row : ∀ u : World, (u.apply (.deleteDevice gone)).device? id =
      (u.device? id).filter (fun d => d.deviceId ≠ gone) := fun u => Table.get?_filter _ _ _
  refine ⟨by rw [row w, row v, same.row], ?_, ?_, same.readings, ?_, same.registry⟩
  · exact (ownedBy_filter _).trans ((congrArg _ same.statusLogs).trans (ownedBy_filter _).symm)
  · exact (ownedBy_filter _).trans ((congrArg _ same.diagLogs).trans (ownedBy_filter _).symm)
  · refine (congrArg _ (ownedBy_filter _)).trans (Eq.trans ?_ (ownedBy_filter _).symm)
    rw [← same.commands, List.filter_map]
    rfl

theorem SameDevice.markCommands (same : SameDevice id ρ w v) {which other : CommandLog → Bool}
    (paired : ∀ r, other (r.renumber ρ) = which r) (status : CommandStatus) (message : String) (at_ : Time) :
    SameDevice id ρ (w.apply (.markCommands which status message at_))
      (v.apply (.markCommands other status message at_)) := by
  refine { same with commands := ?_ }
  have kept : ∀ (p : CommandLog → Bool) (r : CommandLog),
      (if p r = true then r.mark status message at_ else r).device = r.device := by
    intro p r
    split <;> rfl
  refine (congrArg _ (ownedBy_map (kept which))).trans (Eq.trans ?_ (ownedBy_map (kept other)).symm)
  rw [← same.commands, List.map_map, List.map_map]
  refine List.map_congr_left (fun r _ => ?_)
  simp only [Function.comp_apply, paired]
  split <;> rfl

theorem SameDevice.deleteCommands (same : SameDevice id ρ w v) {which other : CommandLog → Bool}
    (paired : ∀ r, other (r.renumber ρ) = which r) :
    SameDevice id ρ (w.apply (.deleteCommands which)) (v.apply (.deleteCommands other)) := by
  refine { same with commands := ?_ }
  refine (congrArg _ (ownedBy_filter _)).trans (Eq.trans ?_ (ownedBy_filter _).symm)
  rw [← same.commands, List.filter_map]
  simp [Function.comp_def, paired]

theorem SameDevice.addCommandLog (same : SameDevice id ρ w v) (device : String) (command : Json) (sentAt : Time)
    (sentBy : Option String) :
    ∃ σ, SameDevice id σ (w.apply (.addCommandLog device command sentAt sentBy))
      (v.apply (.addCommandLog device command sentAt sentBy)) := by
  refine ⟨ρ.trans (Equiv.swap (ρ w.db.commandLogs.next) v.db.commandLogs.next), { same with commands := ?_ }⟩
  refine (congrArg _ (ownedBy_append _)).trans (Eq.trans ?_ (ownedBy_append _).symm)
  rw [List.map_append, ← same.commands]
  congr 1
  · refine List.map_congr_left (fun r member => ?_)
    have inside := List.mem_of_mem_filter member
    have image : r.renumber ρ ∈ v.db.commandLogs.rows := by
      have listed : r.renumber ρ ∈ ownedBy CommandLog.device id v.db.commandLogs.rows := by
        rw [← same.commands]
        exact List.mem_map_of_mem member
      exact List.mem_of_mem_filter listed
    have first : ρ r.id ≠ ρ w.db.commandLogs.next := fun h => w.db.commandLogs.next_fresh inside (ρ.injective h)
    have second : ρ r.id ≠ v.db.commandLogs.next := v.db.commandLogs.next_fresh image
    simp [CommandLog.renumber, Equiv.swap_apply_of_ne_of_ne first second]
  · by_cases mine : device = id
    · simp [ownedBy, mine, CommandLog.renumber]
    · simp [ownedBy, mine]

end Rows

section Abreast
variable {id : String} {w₀ v₀ w v : World}

theorem Abreast.start {ρ : Equiv.Perm ℕ} (same : SameDevice id ρ w v) : Abreast id w v w v :=
  ⟨⟨ρ, same⟩, ⟨[], by simp, by simp⟩, ⟨[], by simp, by simp⟩⟩

theorem Abreast.row (abreast : Abreast id w₀ v₀ w v) : w.device? id = v.device? id := by
  obtain ⟨⟨ρ, same⟩, -, -⟩ := abreast
  exact same.row

theorem Abreast.apply {e : Effect} (blind : e.IdBlind) (abreast : Abreast id w₀ v₀ w v) :
    Abreast id w₀ v₀ (w.apply e) (v.apply e) := by
  obtain ⟨⟨ρ, same⟩, ⟨sent, first, second⟩, ⟨heard, third, fourth⟩⟩ := abreast
  cases e with
  | publish p =>
    exact ⟨⟨ρ, { same with }⟩, ⟨sent ++ [p], by simp [World.apply, first], by simp [World.apply, second]⟩,
      ⟨heard, third, fourth⟩⟩
  | broadcast e =>
    exact ⟨⟨ρ, { same with }⟩, ⟨sent, first, second⟩,
      ⟨heard ++ [e], by simp [World.apply, third], by simp [World.apply, fourth]⟩⟩
  | createDevice d => exact ⟨⟨ρ, same.createDevice d⟩, ⟨sent, first, second⟩, ⟨heard, third, fourth⟩⟩
  | saveDevice d fields => exact ⟨⟨ρ, same.saveDevice d fields⟩, ⟨sent, first, second⟩, ⟨heard, third, fourth⟩⟩
  | deleteDevice gone => exact ⟨⟨ρ, same.deleteDevice gone⟩, ⟨sent, first, second⟩, ⟨heard, third, fourth⟩⟩
  | markCommands which status message at_ =>
    exact ⟨⟨ρ, same.markCommands (blind · ρ) status message at_⟩, ⟨sent, first, second⟩, ⟨heard, third, fourth⟩⟩
  | deleteCommands which =>
    exact ⟨⟨ρ, same.deleteCommands (blind · ρ)⟩, ⟨sent, first, second⟩, ⟨heard, third, fourth⟩⟩
  | addCommandLog device command sentAt sentBy =>
    exact ⟨same.addCommandLog device command sentAt sentBy, ⟨sent, first, second⟩, ⟨heard, third, fourth⟩⟩
  | addStatusLog row =>
    refine ⟨⟨ρ, { same with statusLogs := ?_ }⟩, ⟨sent, first, second⟩, ⟨heard, third, fourth⟩⟩
    exact (ownedBy_append _).trans ((congrArg (· ++ _) same.statusLogs).trans (ownedBy_append _).symm)
  | addDiagLog row =>
    refine ⟨⟨ρ, { same with diagLogs := ?_ }⟩, ⟨sent, first, second⟩, ⟨heard, third, fourth⟩⟩
    exact (ownedBy_append _).trans ((congrArg (· ++ _) same.diagLogs).trans (ownedBy_append _).symm)
  | addReadings rows =>
    refine ⟨⟨ρ, { same with readings := ?_ }⟩, ⟨sent, first, second⟩, ⟨heard, third, fourth⟩⟩
    exact (ownedBy_append _).trans ((congrArg (· ++ _) same.readings).trans (ownedBy_append _).symm)
  | deleteReadings which =>
    refine ⟨⟨ρ, { same with readings := ?_ }⟩, ⟨sent, first, second⟩, ⟨heard, third, fourth⟩⟩
    exact (ownedBy_filter _).trans ((congrArg _ same.readings).trans (ownedBy_filter _).symm)
  | setRollup view rows =>
    cases view <;> exact ⟨⟨ρ, { same with }⟩, ⟨sent, first, second⟩, ⟨heard, third, fourth⟩⟩
  | moveReadings | moveLogs => exact blind.elim
  | putHardwareCode | putRevision | addFirmware | saveFirmware | storeFile | deleteFile =>
    refine ⟨⟨ρ, { same with registry := ?_ }⟩, ⟨sent, first, second⟩, ⟨heard, third, fourth⟩⟩
    simp only [World.registry, World.apply, same.hardwareCodes, same.hardwareRevisions, same.firmwares, same.media]

theorem Abreast.setRollup (abreast : Abreast id w₀ v₀ w v) (view : Rollup) (rows others : List RollupRow) :
    Abreast id w₀ v₀ (w.apply (.setRollup view rows)) (v.apply (.setRollup view others)) := by
  obtain ⟨⟨ρ, same⟩, sent, heard⟩ := abreast
  cases view <;> exact ⟨⟨ρ, { same with }⟩, sent, heard⟩

theorem Abreast.undone {w' v' : World} (before : Abreast id w₀ v₀ w v) (abreast : Abreast id w₀ v₀ w' v') :
    Abreast id w₀ v₀ { w' with db := w.db } { v' with db := v.db } := by
  obtain ⟨⟨ρ, same⟩, -, -⟩ := before
  obtain ⟨⟨σ, ends⟩, sent, heard⟩ := abreast
  refine ⟨⟨ρ, { same with registry := ?_ }⟩, sent, heard⟩
  simp only [World.registry, same.hardwareCodes, same.hardwareRevisions, same.firmwares, ends.media]

end Abreast

end SensorServer
