import SensorServer.Footprint

/-! The reports that mark a device as heard: status, commands, calibration and diag
read the row, check the message and save columns of the row once. -/
namespace SensorServer
open Program

/-- The object of a payload that passes the checks every handler starts with. -/
def Payload.object? (p : Payload) : Option Fields :=
  if p.size > maxPayloadSize then none
  else match p.body with
    | .value (.obj data) => some data
    | _ => none

theorem withObject_object {α : Type} {p : Payload} {data : Fields} (rejected : α)
    (body : Fields → Act α) (h : p.object? = some data) : withObject p rejected body = body data := by
  obtain ⟨size, decoded⟩ := p
  unfold Payload.object? at h
  unfold withObject
  split at h
  · cases h
  · next small =>
    rw [if_neg small]
    rcases decoded with json | _ | _ <;> try cases h
    cases json <;> cases h
    rfl

theorem outcome_withObject_none {α : Type} {p : Payload} (rejected : α) (body : Fields → Act α)
    (object : p.object? = none) (w : World) :
    outcome (withObject p rejected body) w = (.ok rejected, w) ∨
      outcome (withObject p rejected body) w = (.error .decode, w) := by
  obtain ⟨size, decoded⟩ := p
  unfold Payload.object? at object
  unfold withObject
  split at object
  · next large => exact .inl (by rw [if_pos large]; rfl)
  · next small =>
    rw [if_neg small]
    rcases decoded with json | _ | _
    · cases json <;> first | exact .inl rfl | cases object
    · exact .inl rfl
    · exact .inr rfl

theorem after_withObject_none {α : Type} {p : Payload} (rejected : α) (body : Fields → Act α)
    (h : p.object? = none) (w : World) : after (withObject p rejected body) w = w := by
  unfold after
  rcases outcome_withObject_none rejected body h w with run | run <;> rw [run]

theorem withDevice_known {α : Type} {w : World} {id : String} {device : Device} (rejected : α)
    (body : Device → Act α) (known : w.device? id = some device) :
    outcome (withDevice id rejected body) w = outcome (body device) w := by
  unfold withDevice
  rw [outcome_bind, outcome_read, known]

theorem after_withDevice_unknown {α : Type} {w : World} {id : String} (rejected : α)
    (body : Device → Act α) (unknown : w.device? id = none) :
    after (withDevice id rejected body) w = w := by
  unfold withDevice
  rw [after_read_bind, unknown]
  rfl

theorem deliver_unread {w : World} {d : Delivery} (object : d.payload.object? = none) : deliver w d = w := by
  unfold deliver handleMessage
  cases kind : d.kind <;>
    simp only [handleSensorMessage, handleStatusMessage, handleCapabilitiesMessage, handleCommandsMessage,
      handleCalibrationMessage, handleDiagMessage, handleAckMessage, ackLookup, after_withObject_none _ _ object]
  rcases outcome_withObject_none none _ object w with run | run
  · rw [after_bind_ok run]
    rfl
  · rw [after_bind_error run]

theorem deliver_unknown {w : World} {d : Delivery} (unknown : w.device? d.deviceId = none)
    (kind : d.kind ≠ .sensors) : deliver w d = w := by
  cases object : d.payload.object? with
  | none => exact deliver_unread object
  | some data =>
    have refused : ∀ {α : Type} (rejected : α) (body : Fields → Device → Act α),
        outcome (withObject d.payload rejected fun data => withDevice d.deviceId rejected (body data)) w =
          (.ok rejected, w) := by
      intro α rejected body
      rw [withObject_object _ _ object]
      unfold withDevice
      rw [outcome_bind, outcome_read, unknown]
      rfl
    unfold deliver handleMessage
    cases case : d.kind with
    | sensors => exact absurd case kind
    | ack =>
      dsimp only [handleAckMessage, ackLookup]
      rw [after_bind_ok (refused _ _)]
      rfl
    | _ => exact congrArg Prod.snd (refused () _)

theorem deliver_new {w : World} {d : Delivery} {data : Fields} (unknown : w.device? d.deviceId = none)
    (kind : d.kind = .sensors) (object : d.payload.object? = some data) {fresh : Device}
    (new : fresh = { deviceId := d.deviceId, deviceType := d.deviceType, createdAt := d.env.now }) :
    deliver w d = after (do
      createDevice fresh
      sensorBody d.env d.deviceType data fresh true) w := by
  unfold deliver handleMessage
  rw [kind]
  dsimp only [handleSensorMessage]
  rw [withObject_object _ _ object]
  unfold getOrCreateDevice
  rw [bind_assoc, after_read_bind, unknown, new]
  simp only [bind_assoc, pure_bind]

/-- The instance a report saves and the columns it names; none is a message its
handler drops, or fails on before that save. -/
def heard (d : Delivery) (data : Fields) (device : Device) : Option (Device × List DeviceField) :=
  match d.kind with
  | .status => (statusLevel data).map (fun level =>
    (applyStatus d.env.now level data device, alertFields ++ [.lastSeen]))
  | .commands => some ({ device with
      capabilities := { device.capabilities with
        commands := some (commandNames data), commandParams := some (commandTable data) }
      lastSeen := some d.env.now }, [.capabilities, .lastSeen])
  | .calibration => (calibrationMirror data).map (fun mirror =>
    ({ device with calibration := mirror, lastSeen := some d.env.now }, [.calibration, .lastSeen]))
  | .diag =>
    match diagLevel data with
    | none => none
    | some level =>
      match diagSnapshot d.env.now device.deviceId level data with
      | none => none
      | some row =>
        if row.insertable then
          some (applyDiag d.env.now level (diagText data) device, alertFields ++ [.lastSeen])
        else none
  | .sensors | .capabilities | .ack => none

/-- What a report asks to save. -/
def report (w : World) (d : Delivery) : Option (Device × List DeviceField) :=
  match d.payload.object?, w.device? d.deviceId with
  | some data, some device => heard d data device
  | _, _ => none

def saveReport (w : World) : Option (Device × List DeviceField) → World
  | some (saved, fields) => if fields.all saved.accepts then w.apply (.saveDevice saved fields) else w
  | none => w

theorem saveReport_some (w : World) (d : Device) (fields : List DeviceField) :
    saveReport w (some (d, fields)) =
      if fields.all d.accepts then w.apply (.saveDevice d fields) else w := rfl

def accepted (w : World) (d : Delivery) : Bool :=
  (report w d).any (fun saved => saved.2.all saved.1.accepts)

def MessageKind.isReport : MessageKind → Bool
  | .status | .commands | .calibration | .diag => true
  | .sensors | .capabilities | .ack => false

/-- Whatever follows the save writes history and broadcasts only. -/
structure Aside (w v : World) : Prop where
  devices : v.db.devices = w.db.devices
  commandLogs : v.db.commandLogs = w.db.commandLogs
  published : v.published = w.published

theorem aside_closed : Closed Aside :=
  ⟨fun _ => ⟨rfl, rfl, rfl⟩, fun h k => ⟨k.1.trans h.1, k.2.trans h.2, k.3.trans h.3⟩⟩

theorem aside_addStatusLog (row : DeviceStatusLog) : Upholds Aside (addStatusLog row) := by
  unfold addStatusLog
  split
  · exact fun _ => ⟨rfl, rfl, rfl⟩
  · exact Upholds.fail aside_closed _

theorem aside_groupSend (env : Env) (e : ChannelEvent) : Upholds Aside (groupSend env e) := by
  refine Upholds.bind aside_closed (Upholds.read aside_closed _) (fun taken => ?_)
  split
  · exact fun _ => ⟨rfl, rfl, rfl⟩
  · exact Upholds.fail aside_closed _

theorem after_save_then {rest : Act Unit} (aside : Upholds Aside rest) (d : Device)
    (fields : List DeviceField) (w : World) :
    Aside (saveReport w (some (d, fields))) (after (do saveDevice d fields; rest) w) := by
  have saved := outcome_saveDevice d fields w
  rw [saveReport_some]
  by_cases taken : fields.all d.accepts = true
  · rw [if_pos taken] at saved ⊢
    rw [after_bind_ok saved]
    exact aside _
  · rw [if_neg taken] at saved ⊢
    rw [after_bind_error saved]
    exact aside_closed.refl w

theorem after_save (d : Device) (fields : List DeviceField) (w : World) :
    Aside (saveReport w (some (d, fields))) (after (saveDevice d fields) w) := by
  rw [saveReport_some, after, outcome_saveDevice]
  split <;> exact aside_closed.refl _

section Handlers
variable {w : World} {d : Delivery} {data : Fields} {device : Device}
  (object : d.payload.object? = some data) (known : w.device? d.deviceId = some device)
include object known

theorem outcome_handler (body : Fields → Device → Act Unit) :
    outcome (withObject d.payload () fun data => withDevice d.deviceId () (body data)) w =
      outcome (body data device) w := by
  rw [withObject_object _ _ object]
  exact withDevice_known () (body data) known

theorem after_handler (body : Fields → Device → Act Unit) :
    after (withObject d.payload () fun data => withDevice d.deviceId () (body data)) w =
      after (body data device) w := congrArg Prod.snd (outcome_handler object known body)

theorem status_report (kind : d.kind = .status) :
    Aside (saveReport w (heard d data device)) (after (handleStatusMessage d.env d.deviceId d.payload) w) := by
  unfold handleStatusMessage heard
  rw [after_handler object known, kind]
  cases statusLevel data with
  | none => exact aside_closed.refl w
  | some level =>
    exact after_save_then (Upholds.bind aside_closed (aside_addStatusLog _)
      (fun _ => aside_groupSend _ _)) _ _ w

theorem commands_report (kind : d.kind = .commands) :
    Aside (saveReport w (heard d data device))
      (after (handleCommandsMessage d.env d.deviceId d.payload) w) := by
  unfold handleCommandsMessage heard
  rw [after_handler object known, kind]
  exact after_save _ _ w

theorem calibration_report (kind : d.kind = .calibration) :
    Aside (saveReport w (heard d data device))
      (after (handleCalibrationMessage d.env d.deviceId d.payload) w) := by
  unfold handleCalibrationMessage heard
  rw [after_handler object known, kind]
  cases calibrationMirror data with
  | none => exact aside_closed.refl w
  | some mirror => exact after_save _ _ w

theorem diag_report (kind : d.kind = .diag) :
    Aside (saveReport w (heard d data device)) (after (handleDiagMessage d.env d.deviceId d.payload) w) := by
  unfold handleDiagMessage heard
  rw [after_handler object known, kind]
  dsimp only
  cases diagLevel data with
  | none => exact aside_closed.refl w
  | some level =>
    dsimp only
    cases diagSnapshot d.env.now device.deviceId level data with
    | none => exact aside_closed.refl w
    | some row =>
      dsimp only
      by_cases insertable : row.insertable = true
      swap
      · rw [if_neg insertable, after_bind_error ((outcome_addDiagLog row w).trans (if_neg insertable))]
        exact aside_closed.refl w
      rw [if_pos insertable, after_bind_ok ((outcome_addDiagLog row w).trans (if_pos insertable))]
      refine aside_closed.trans ?_ (after_save_then (Upholds.when aside_closed (fun _ =>
        Upholds.bind aside_closed (aside_addStatusLog _) (fun _ => aside_groupSend _ _))) _ _ _)
      simp only [saveReport_some]
      split <;> exact ⟨rfl, rfl, rfl⟩

end Handlers

theorem deliver_report {w : World} {d : Delivery} (kind : d.kind.isReport = true) :
    Aside (saveReport w (report w d)) (deliver w d) := by
  unfold deliver report handleMessage
  cases object : d.payload.object? with
  | none =>
    cases h : d.kind <;> rw [h] at kind <;> try cases kind
    all_goals
      simp only [handleStatusMessage, handleCommandsMessage, handleCalibrationMessage,
        handleDiagMessage, after_withObject_none _ _ object]
      exact aside_closed.refl w
  | some data =>
    cases known : w.device? d.deviceId with
    | none =>
      cases h : d.kind <;> rw [h] at kind <;> try cases kind
      all_goals
        simp only [handleStatusMessage, handleCommandsMessage, handleCalibrationMessage,
          handleDiagMessage, withObject_object _ _ object, after_withDevice_unknown _ _ known]
        exact aside_closed.refl w
    | some device =>
      cases h : d.kind <;> rw [h] at kind <;> try cases kind
      · exact status_report object known h
      · exact commands_report object known h
      · exact calibration_report object known h
      · exact diag_report object known h

theorem heard_saves {d : Delivery} {data : Fields} {device saved : Device} {fields : List DeviceField}
    (h : heard d data device = some (saved, fields)) :
    saved.deviceId = device.deviceId ∧ saved.lastSeen = some d.env.now ∧
      DeviceField.lastSeen ∈ fields ∧ DeviceField.publishInterval ∉ fields := by
  have status : ∀ now level, (applyStatus now level data device).lastSeen = some now := by
    intro now level
    unfold applyStatus
    split <;> rfl
  unfold heard at h
  cases kind : d.kind <;> rw [kind] at h <;> dsimp only at h
  · cases h
  · obtain ⟨level, -, same⟩ := Option.map_eq_some_iff.mp h
    cases same
    exact ⟨deviceId_applyStatus _ _ _ _, status _ _, by decide, by decide⟩
  · cases h
  · cases h
    exact ⟨rfl, rfl, by decide, by decide⟩
  · obtain ⟨mirror, -, same⟩ := Option.map_eq_some_iff.mp h
    cases same
    exact ⟨rfl, rfl, by decide, by decide⟩
  · split at h
    · cases h
    · split at h
      · cases h
      · split at h
        · cases h
          exact ⟨rfl, rfl, by decide, by decide⟩
        · cases h
  · cases h

theorem report_saves {w : World} {d : Delivery} {saved : Device} {fields : List DeviceField}
    (h : report w d = some (saved, fields)) :
    saved.deviceId = d.deviceId ∧ ∃ data device, d.payload.object? = some data ∧
      w.device? d.deviceId = some device ∧ heard d data device = some (saved, fields) := by
  unfold report at h
  split at h
  · next data device object found =>
    exact ⟨(heard_saves h).1.trans (Table.key_get? found), data, device, object, found, h⟩
  · cases h

theorem deliver_accepted {w : World} {d : Delivery} {device : Device} (kind : d.kind.isReport = true)
    (known : w.device? d.deviceId = some device) (valid : accepted w d = true) :
    ∃ row, (deliver w d).device? d.deviceId = some row ∧ row.lastSeen = some d.env.now ∧
      row.publishInterval = device.publishInterval ∧ row.deviceType = device.deviceType ∧
      (deliver w d).db.commandLogs = w.db.commandLogs := by
  have spec := deliver_report (w := w) kind
  unfold accepted at valid
  cases saves : report w d with
  | none => simp [saves] at valid
  | some pair =>
    obtain ⟨saved, fields⟩ := pair
    rw [saves] at valid spec
    have taken : fields.all saved.accepts = true := by simpa using valid
    rw [saveReport_some, if_pos taken] at spec
    have id : device.deviceId = d.deviceId := Table.key_get? known
    unfold report at saves
    rw [known] at saves
    cases object : d.payload.object? with
    | none => simp [object] at saves
    | some data =>
      rw [object] at saves
      obtain ⟨same, seen, named, unnamed⟩ := heard_saves saves
      refine ⟨saved.copyFields fields device, ?_, by simp [named, seen], by simp [unnamed], by simp,
        spec.commandLogs⟩
      have row := device?_saveDevice w saved fields d.deviceId
      rw [known, Option.map_some, if_pos same.symm] at row
      unfold World.device?
      rw [spec.devices]
      exact row

def KeepsDevices (w v : World) : Prop := v.db.devices = w.db.devices

theorem keepsDevices_closed : Closed KeepsDevices := ⟨fun _ => rfl, fun h k => k.trans h⟩

theorem permits_keepsDevices :
    Permits (fun w e => KeepsDevices w (w.apply e)) (fun _ _ => False) (fun _ _ => True) where
  save := fun _ _ _ refused => refused.elim
  publish := fun _ _ _ => rfl
  mark := fun _ _ _ _ _ => rfl
  history := fun _ e history => by cases e <;> first | rfl | cases history

def reported (w : World) (d : Delivery) : Option (Device × List DeviceField) :=
  match d.payload.object?, w.device? d.deviceId with
  | some data, some device =>
    some (applyCapabilities (fun code => (w.db.hardwareCodes.get? code).isSome) data device,
      capabilitiesFields)
  | _, _ => none

theorem capabilities_rest (env : Env) (device : Device) (repush : Bool) :
    Upholds KeepsDevices (do
      resolveCapabilityRequests env device .success ""
      resolveOtaUpdates env device
      when repush (repushCalibration env device)) := by
  have valid : Emits (fun w e => KeepsDevices w (w.apply e)) (do
      resolveCapabilityRequests env device .success ""
      resolveOtaUpdates env device
      when repush (repushCalibration env device)) :=
    Emits.bind (permits_keepsDevices.respected.resolveRequests _ _ _ _ rfl) (fun _ =>
      Emits.bind (permits_keepsDevices.respected.resolveOtaUpdates _ _) (fun _ =>
      Emits.when (fun _ => upholds_repushCalibration permits_keepsDevices.respected.toIssued
        (fun _ _ => trivial))))
  exact Emits.upholds keepsDevices_closed (fun _ _ ok => ok) valid

theorem applyCapabilities_cleared {known : String → Bool} {data : Fields} {device : Device}
    (timeout : hadTimeoutAlert device = true) :
    (applyCapabilities known data device).alertMessage = "" := by
  unfold applyCapabilities
  simp [timeout, Device.clearAlert]

section Applied
variable {known : String → Bool} {data : Fields} {device : Device}

theorem hardwareCode_applyCapabilities :
    (applyCapabilities known data device).hardwareCode = reportedCode known data := by
  unfold applyCapabilities
  cases hadTimeoutAlert device <;> rfl

theorem hwRev_applyCapabilities :
    (applyCapabilities known data device).hwRev = (reportedRev data).or device.hwRev := by
  unfold applyCapabilities
  cases hadTimeoutAlert device <;> rfl

end Applied

theorem outcome_logCleared {env : Env} {known : String → Bool} {data : Fields} {device : Device}
    (w : World) :
    ∃ v, Aside w v ∧ outcome (when (hadTimeoutAlert device)
      (addStatusLog (statusRow env (applyCapabilities known data device)))) w = (.ok (), v) := by
  cases timeout : hadTimeoutAlert device with
  | false => exact ⟨w, aside_closed.refl w, rfl⟩
  | true =>
    have text : varchar 256 (statusRow env (applyCapabilities known data device)).alertMessage = true := by
      have cleared : (statusRow env (applyCapabilities known data device)).alertMessage = "" :=
        applyCapabilities_cleared timeout
      rw [cleared]
      decide
    refine ⟨w.apply (.addStatusLog (statusRow env (applyCapabilities known data device))), ?_, ?_⟩
    · exact ⟨rfl, rfl, rfl⟩
    simp only [when, if_true, addStatusLog, text]
    rfl

theorem reported_saves {w : World} {d : Delivery} {saved : Device} {fields : List DeviceField}
    (h : reported w d = some (saved, fields)) : saved.deviceId = d.deviceId := by
  unfold reported at h
  split at h
  · next data device object found =>
    cases h
    exact deviceId_applyCapabilities.trans (Table.key_get? found)
  · cases h

theorem deliver_capabilities {w : World} {d : Delivery} (kind : d.kind = .capabilities) :
    KeepsDevices (saveReport w (reported w d)) (deliver w d) := by
  unfold deliver handleMessage reported
  rw [kind]
  dsimp only [handleCapabilitiesMessage]
  cases object : d.payload.object? with
  | none =>
    rw [after_withObject_none _ _ object]
    rfl
  | some data =>
    cases found : w.device? d.deviceId with
    | none =>
      rw [withObject_object _ _ object, after_withDevice_unknown _ _ found]
      rfl
    | some device =>
      rw [after_handler object found, after_read_bind]
      obtain ⟨v, same, logged⟩ := @outcome_logCleared d.env
        (fun code => (w.db.hardwareCodes.get? code).isSome) data device w
      rw [after_bind_ok logged]
      have saved := outcome_saveDevice (applyCapabilities
        (fun code => (w.db.hardwareCodes.get? code).isSome) data device) capabilitiesFields v
      dsimp only
      rw [saveReport_some]
      by_cases taken : capabilitiesFields.all (applyCapabilities
          (fun code => (w.db.hardwareCodes.get? code).isSome) data device).accepts = true
      · rw [if_pos taken] at saved ⊢
        rw [after_bind_ok saved]
        have kept := capabilities_rest d.env (applyCapabilities
          (fun code => (w.db.hardwareCodes.get? code).isSome) data device) (storeEmpty data &&
          !(applyCapabilities (fun code => (w.db.hardwareCodes.get? code).isSome) data
            device).calibration.isEmpty)
          (v.apply (.saveDevice (applyCapabilities
            (fun code => (w.db.hardwareCodes.get? code).isSome) data device) capabilitiesFields))
        refine keepsDevices_closed.trans ?_ kept
        unfold KeepsDevices World.apply
        dsimp only
        rw [same.devices]
      · rw [if_neg taken] at saved ⊢
        rw [after_bind_error saved]
        exact same.devices

/-- Each column of a snapshot is its field of the message, converted. -/
structure Converted (data : Fields) (row : DeviceDiagLog) : Prop where
  rssi : diagRssi data = some row.rssi
  resetCause : diagUint (Dict.get? data "rst") 255 = some row.resetCause
  boot : diagUint (Dict.get? data "boot") diagMax = some row.boot
  miss : diagUint (Dict.get? data "miss") diagMax = some row.miss
  wakeMs : diagUint (Dict.get? data "wake_ms") diagMax = some row.wakeMs
  seq : diagUint (Dict.get? data "seq") diagMax = some row.seq
  pubfail : diagUint (Dict.get? data "pubfail") diagMax = some row.pubfail
  heap : diagUint (Dict.get? data "heap") diagMax = some row.heap
  batteryPercent : diagUint (Dict.get? data "bat") 100 = some row.batteryPercent
  txsent : diagUint (Dict.get? data "txsent") diagMax = some row.txsent
  txok : diagUint (Dict.get? data "txok") diagMax = some row.txok

theorem diagSnapshot_converted {now : Time} {id : String} {level : DiagLevel} {data : Fields} {row : DeviceDiagLog}
    (converts : diagSnapshot now id level data = some row) :
    Converted data row ∧ row.time = now ∧ row.device = id ∧ row.level = level ∧ row.message = diagText data := by
  obtain ⟨rssi, rssiTaken, converts⟩ := Option.bind_eq_some_iff.mp converts
  obtain ⟨rst, rstTaken, converts⟩ := Option.bind_eq_some_iff.mp converts
  obtain ⟨boot, bootTaken, converts⟩ := Option.bind_eq_some_iff.mp converts
  obtain ⟨miss, missTaken, converts⟩ := Option.bind_eq_some_iff.mp converts
  obtain ⟨wakeMs, wakeMsTaken, converts⟩ := Option.bind_eq_some_iff.mp converts
  obtain ⟨seq, seqTaken, converts⟩ := Option.bind_eq_some_iff.mp converts
  obtain ⟨pubfail, pubfailTaken, converts⟩ := Option.bind_eq_some_iff.mp converts
  obtain ⟨heap, heapTaken, converts⟩ := Option.bind_eq_some_iff.mp converts
  obtain ⟨battery, batteryTaken, converts⟩ := Option.bind_eq_some_iff.mp converts
  obtain ⟨txsent, txsentTaken, converts⟩ := Option.bind_eq_some_iff.mp converts
  obtain ⟨txok, txokTaken, converts⟩ := Option.bind_eq_some_iff.mp converts
  cases Option.some.inj converts
  exact ⟨⟨rssiTaken, rstTaken, bootTaken, missTaken, wakeMsTaken, seqTaken, pubfailTaken, heapTaken,
    batteryTaken, txsentTaken, txokTaken⟩, rfl, rfl, rfl, rfl⟩

end SensorServer
