import SensorServer.Reports
import SensorServer.Lib.Run

/-! Which columns of a device row a message can write, kind by kind, and what it leaves
of the others. -/
namespace SensorServer
open Program

variable {β : Type}

def KeepsColumn (column : Device → β) (id : String) (w v : World) : Prop :=
  ∀ row, w.device? id = some row → ∃ new, v.device? id = some new ∧ column new = column row

section Columns
variable {column : Device → β} {id : String}

theorem keepsColumn_closed : Closed (KeepsColumn column id) where
  refl _ := fun row known => ⟨row, known, rfl⟩
  trans := by
    intro a b c first rest row known
    obtain ⟨mid, found, same⟩ := first row known
    obtain ⟨new, last, equal⟩ := rest mid found
    exact ⟨new, last, equal.trans same⟩

theorem KeepsColumn.of_devices {w v : World} (same : v.db.devices = w.db.devices) : KeepsColumn column id w v := by
  intro row known
  exact ⟨row, by rw [World.device?, same]; exact known, rfl⟩

theorem keepsColumn_saveDevice {d : Device} {fields : List DeviceField}
    (spares : d.deviceId = id → ∀ row, column (d.copyFields fields row) = column row) (w : World) :
    KeepsColumn column id w (w.apply (.saveDevice d fields)) := by
  intro row known
  rw [device?_saveDevice, known, Option.map_some]
  refine ⟨_, rfl, ?_⟩
  split
  · next same => exact spares (same.symm.trans (Table.key_get? known)) row
  · rfl

theorem keepsColumn_createDevice (d : Device) (w : World) :
    KeepsColumn column id w (w.apply (.createDevice d)) := by
  intro row known
  refine ⟨row, ?_, rfl⟩
  by_cases same : d.deviceId = id
  · subst same
    have taken : (w.apply (.createDevice d)).device? d.deviceId = w.device? d.deviceId :=
      congrArg (fun t => Table.get? t d.deviceId) (Table.insert_taken known)
    rw [taken, known]
  · exact (Table.get?_insert_other same).trans known

theorem respected_keepsColumn (column : Device → β) (id : String) :
    Respected (KeepsColumn column id)
      (fun d fields => d.deviceId = id → ∀ row, column (d.copyFields fields row) = column row)
      (fun _ _ => True) (fun _ => True) where
  toServiced := Serviced.of_marks keepsColumn_closed (fun w _ _ spares => keepsColumn_saveDevice spares w)
    (fun _ _ _ => .of_devices rfl) (fun _ _ _ _ _ _ => .of_devices rfl)
  history := fun _ e history _ => by cases e <;> first | exact .of_devices rfl | cases history

end Columns

def StemsFrom (column : Device → β) (fresh : β) (w v : World) : Prop :=
  ∀ id row, v.device? id = some row → (∃ old, w.device? id = some old ∧ column row = column old) ∨ column row = fresh

section Stems
variable {column : Device → β} {fresh : β}

theorem stemsFrom_closed : Closed (StemsFrom column fresh) where
  refl _ := fun _ row known => .inl ⟨row, known, rfl⟩
  trans := by
    intro a b c first rest id row known
    rcases rest id row known with ⟨mid, found, same⟩ | new
    · rcases first id mid found with ⟨old, there, equal⟩ | new
      · exact .inl ⟨old, there, same.trans equal⟩
      · exact .inr (same.trans new)
    · exact .inr new

theorem StemsFrom.of_devices {w v : World} (same : v.db.devices = w.db.devices) : StemsFrom column fresh w v := by
  intro id row known
  rw [World.device?, same] at known
  exact .inl ⟨row, known, rfl⟩

theorem stemsFrom_saveDevice {d : Device} {fields : List DeviceField}
    (spares : ∀ row, column (d.copyFields fields row) = column row) (w : World) :
    StemsFrom column fresh w (w.apply (.saveDevice d fields)) := by
  intro id row known
  rw [device?_saveDevice] at known
  obtain ⟨old, found, rfl⟩ := Option.map_eq_some_iff.mp known
  refine .inl ⟨old, found, ?_⟩
  split
  · exact spares old
  · rfl

theorem stemsFrom_createDevice {d : Device} (new : column d = fresh) (w : World) :
    StemsFrom column fresh w (w.apply (.createDevice d)) := by
  intro id row known
  by_cases same : d.deviceId = id
  · subst same
    cases found : w.device? d.deviceId with
    | none =>
      have inserted : (w.apply (.createDevice d)).device? d.deviceId = some d := Table.get?_insert_new found
      rw [inserted] at known
      cases known
      exact .inr new
    | some old =>
      have taken : (w.apply (.createDevice d)).device? d.deviceId = w.device? d.deviceId :=
        congrArg (fun t => Table.get? t d.deviceId) (Table.insert_taken found)
      rw [taken, found] at known
      cases known
      exact .inl ⟨row, rfl, rfl⟩
  · exact .inl ⟨row, (Table.get?_insert_other same).symm.trans known, rfl⟩

theorem respected_stemsFrom (column : Device → β) (fresh : β) :
    Respected (StemsFrom column fresh) (fun d fields => ∀ row, column (d.copyFields fields row) = column row)
      (fun _ _ => True) (fun _ => True) where
  toServiced := Serviced.of_marks stemsFrom_closed (fun w _ _ spares => stemsFrom_saveDevice spares w)
    (fun _ _ _ => .of_devices rfl) (fun _ _ _ _ _ _ => .of_devices rfl)
  history := fun _ e history _ => by cases e <;> first | exact .of_devices rfl | cases history

end Stems

def MessageKind.fields : MessageKind → List DeviceField
  | .sensors => sensorFields
  | .status | .diag => alertFields ++ [.lastSeen]
  | .capabilities => capabilitiesFields
  | .commands => [.capabilities, .lastSeen]
  | .calibration => [.calibration, .lastSeen]
  | .ack => [.calibration]

/-- A relation kept by the creation of a row, by the saves of the kind, by the status rows of the
device and by the updates of the command log is kept by the message. -/
theorem deliver_within {R : World → World → Prop} {saves : Device → List DeviceField → Prop}
    {logs : DeviceStatusLog → Prop} {d : Delivery} (within : Respected R saves (fun _ _ => True) logs)
    (create : ∀ w, R w (w.apply (.createDevice
      { deviceId := d.deviceId, deviceType := d.deviceType, createdAt := d.env.now })))
    (mark : ∀ w which status message at_, R w (w.apply (.markCommands which status message at_)))
    (own : ∀ (saved : Device) fields, saved.deviceId = d.deviceId → (∀ f ∈ fields, f ∈ d.kind.fields) →
      saves saved fields)
    (logged : ∀ row : DeviceStatusLog, row.device = d.deviceId → logs row) (w : World) : R w (deliver w d) := by
  unfold deliver handleMessage
  cases kind : d.kind with
  | sensors =>
    rw [kind] at own
    exact upholds_handleSensorMessage within create own logged
      (fun _ _ => ⟨fun _ _ => trivial, trivial, trivial, trivial⟩) (fun _ _ => trivial) w
  | status =>
    rw [kind] at own
    exact upholds_handleStatusMessage within.toRecounted (fun saved named => own saved _ named (fun _ h => h))
      logged w
  | capabilities =>
    rw [kind] at own
    exact upholds_handleCapabilitiesMessage within (fun saved named => own saved _ named (fun _ h => h))
      logged (fun _ _ _ => trivial) w
  | commands =>
    rw [kind] at own
    exact upholds_handleCommandsMessage within.toIssued (fun saved named => own saved _ named (fun _ h => h)) w
  | calibration =>
    rw [kind] at own
    exact upholds_handleCalibrationMessage within.toIssued (fun saved named => own saved _ named (fun _ h => h)) w
  | diag =>
    rw [kind] at own
    exact upholds_handleDiagMessage within.toRecounted (fun saved named => own saved _ named (fun _ h => h))
      logged w
  | ack =>
    rw [kind] at own
    refine Upholds.bind within.closed
      (upholds_ackLookup within.toIssued (fun saved named => own saved _ named (fun _ h => h)))
        (fun target => ?_) w
    cases target with
    | none => exact Upholds.pure within.closed _
    | some m => exact upholds_markCommand within.closed (fun _ => mark _ _ _ _ _)

section Deliver
variable {column : Device → β} {id : String} {d : Delivery}

theorem keepsColumn_deliver
    (spared : d.deviceId = id → ∀ (saved : Device) fields, (∀ f ∈ fields, f ∈ d.kind.fields) →
      ∀ row, column (saved.copyFields fields row) = column row) (w : World) :
    KeepsColumn column id w (deliver w d) :=
  deliver_within (respected_keepsColumn column id) (fun w => keepsColumn_createDevice _ w)
    (fun _ _ _ _ _ => .of_devices rfl)
    (fun saved fields named among same => spared (named.symm.trans same) saved fields among) (fun _ _ => trivial) w

theorem stemsFrom_deliver {fresh : β}
    (new : ∀ deviceId deviceType createdAt, column { deviceId, deviceType, createdAt } = fresh)
    (spared : ∀ (saved : Device) fields, (∀ f ∈ fields, f ∈ d.kind.fields) →
      ∀ row, column (saved.copyFields fields row) = column row) (w : World) :
    StemsFrom column fresh w (deliver w d) :=
  deliver_within (respected_stemsFrom column fresh) (fun w => stemsFrom_createDevice (new _ _ _) w)
    (fun _ _ _ _ _ => .of_devices rfl) (fun saved fields _ among => spared saved fields among)
    (fun _ _ => trivial) w

theorem keepsColumn_run {w : World} {ds : List Delivery}
    (spared : ∀ d ∈ ds, ∀ (saved : Device) fields, (∀ f ∈ fields, f ∈ d.kind.fields) →
      ∀ row, column (saved.copyFields fields row) = column row) :
    KeepsColumn column id w (Run.run deliver w ds) := by
  induction ds generalizing w with
  | nil => exact keepsColumn_closed.refl w
  | cons d ds ih =>
    exact keepsColumn_closed.trans (keepsColumn_deliver (fun _ => spared d List.mem_cons_self) w)
      (ih (fun e member => spared e (List.mem_cons_of_mem _ member)))

end Deliver

end SensorServer
