import SensorServer.Timeline

/-! A handler that ends with an exception. The statements before it are committed, so
what a failing message had written stays; most handlers fail before they write. -/
namespace SensorServer
open Program

/-- The reading a broadcast carries. -/
def ChannelEvent.reading? : ChannelEvent → Option SensorReading
  | .sensorReading deviceId _ metric value time _ => some ⟨time, deviceId, metric, value⟩
  | .deviceStatus _ _ _ _ => none

def Backed (w v : World) : Prop :=
  ∃ new, v.broadcasts = w.broadcasts ++ new ∧ ∀ r ∈ new.filterMap ChannelEvent.reading?, r ∈ v.db.readings

/-- The row of the device and the tables its messages write are as before. -/
structure NoTrace (id : String) (w v : World) : Prop where
  row : v.device? id = w.device? id
  commandLogs : v.db.commandLogs = w.db.commandLogs
  statusLogs : v.db.statusLogs = w.db.statusLogs
  diagLogs : v.db.diagLogs = w.db.diagLogs
  readings : v.db.readings = w.db.readings
  broadcasts : Backed w v

/-- Whether the message, if it fails, fails after it has saved the row. -/
def committed (w : World) (d : Delivery) : Bool :=
  match d.kind with
  | .status | .diag => accepted w d
  | .sensors => d.payload.object?.isSome && (w.device? d.deviceId).isSome
  | .capabilities | .commands | .calibration | .ack => false

def Env.announced (env : Env) : Env := { env with channel := fun _ => true }

def Delivery.announced (d : Delivery) : Delivery := { d with env := d.env.announced }

/-- What a message that fails later leaves: the row is heard, a report loses its announcement
and nothing else, and a sensors message has stored all of its readings or none. -/
structure Remains (w : World) (d : Delivery) : Prop where
  heard : ∃ row, (deliver w d).device? d.deviceId = some row ∧ row.lastSeen = some d.env.now
  report : d.kind ≠ .sensors →
    (deliver w d).db = (deliver w d.announced).db ∧ (deliver w d).broadcasts = w.broadcasts
  readings : (deliver w d).db.readings = w.db.readings ∨ Backed w (deliver w d)

section Total
variable {env : Env} {device : Device}

theorem total_requestBare (name : String) : Total (requestBare env device name) :=
  Total.bind (Total.attempt _) (fun _ => Total.pure ())

theorem total_requestCapabilities (sentBy : Option String) (logCommand : Bool) :
    Total (requestCapabilities env device sentBy logCommand) := by
  refine Total.bind (Total.attempt _) (fun sent => ?_)
  split
  · exact Total.bind (Total.attempt _) (fun _ => Total.pure _)
  · exact Total.pure _

theorem total_flushPendingCommands : Total (flushPendingCommands env device) :=
  Total.bind (Total.read _) (fun _ => Total.forEach (fun _ _ =>
    Total.bind (Total.attempt _) (fun _ => Total.pure ())))

theorem total_wakeUp : Total (wakeUp env device) :=
  Total.bind total_flushPendingCommands (fun _ => Total.bind (total_requestCapabilities none false) (fun _ =>
    Total.bind (total_requestBare _) (fun _ => Total.bind (Total.when (total_requestBare _))
      (fun _ => Total.pure _))))

theorem total_saveDevice {fields : List DeviceField} (taken : fields.all device.accepts = true) :
    Total (saveDevice device fields) := by
  intro w
  rw [outcome_saveDevice, if_pos taken]
  exact ⟨(), _, rfl⟩

theorem total_resolveCapabilityRequests {status : CommandStatus} {message : String}
    (text : nulFree message = true) : Total (resolveCapabilityRequests env device status message) := by
  unfold resolveCapabilityRequests
  rw [varchar_pyTake, if_pos (nulFree_pyTake text)]
  exact Total.write _

theorem total_capabilitiesRest {repush : Bool} (text : nulFree device.fwVersion = true) :
    Total (capabilitiesRest env device repush) :=
  Total.bind (total_resolveCapabilityRequests (by decide)) (fun _ =>
    Total.bind (total_resolveOtaUpdates text) (fun _ => Total.when (Total.forEach (fun _ _ =>
      Total.bind (Total.attempt _) (fun _ => Total.pure ())))))

end Total

structure Quiet (w v : World) : Prop where
  readings : v.db.readings = w.db.readings
  broadcasts : ∃ new, v.broadcasts = w.broadcasts ++ new ∧ new.filterMap ChannelEvent.reading? = []

theorem quiet_closed : Closed Quiet where
  refl w := ⟨rfl, [], by simp, rfl⟩
  trans := by
    rintro a b c ⟨same, new, first, none⟩ ⟨same', more, rest, none'⟩
    refine ⟨same'.trans same, new ++ more, ?_, ?_⟩
    · rw [rest, first, List.append_assoc]
    · rw [List.filterMap_append, none, none', List.append_nil]

theorem Quiet.of_same {w v : World} (readings : v.db.readings = w.db.readings)
    (broadcasts : v.broadcasts = w.broadcasts) : Quiet w v :=
  ⟨readings, [], by simp [broadcasts], rfl⟩

theorem serviced_quiet : Serviced Quiet (fun _ _ => True) (fun _ _ => True) :=
  Serviced.of_marks quiet_closed (fun _ _ _ _ => .of_same rfl rfl) (fun _ _ _ => .of_same rfl rfl)
    (fun _ _ _ _ _ _ => .of_same rfl rfl)

theorem Quiet.backed {u v w : World} (still : Quiet w u) (backed : Backed u v) : Backed w v := by
  obtain ⟨-, new, first, none⟩ := still
  obtain ⟨more, rest, stored⟩ := backed
  refine ⟨new ++ more, by rw [rest, first, List.append_assoc], ?_⟩
  rw [List.filterMap_append, none, List.nil_append]
  exact stored

theorem Backed.quiet {u v w : World} (backed : Backed w u) (still : Quiet u v) : Backed w v := by
  obtain ⟨same, more, rest, none⟩ := still
  obtain ⟨new, first, stored⟩ := backed
  refine ⟨new ++ more, by rw [rest, first, List.append_assoc], ?_⟩
  rw [List.filterMap_append, none, List.append_nil, same]
  exact stored

section Readings
variable {env : Env} {device : Device}

theorem quiet_addStatusLog (row : DeviceStatusLog) : Upholds Quiet (addStatusLog row) :=
  upholds_addStatusLog quiet_closed (fun _ => .of_same rfl rfl)

theorem quiet_announceCleared : Upholds Quiet (announceCleared env device) :=
  Upholds.bind quiet_closed (quiet_addStatusLog _) (fun _ =>
    upholds_groupSend quiet_closed (fun _ => ⟨rfl, [statusEvent device], rfl, rfl⟩))

theorem quiet_checkCapabilitiesTimeout : Upholds Quiet (checkCapabilitiesTimeout env device) := by
  unfold checkCapabilitiesTimeout
  split
  · exact Upholds.bind quiet_closed (serviced_quiet.saveDevice trivial) (fun _ =>
      Upholds.bind quiet_closed (quiet_addStatusLog _) (fun _ =>
      Upholds.bind quiet_closed (serviced_quiet.resolveRequests _ _ _ _ rfl) (fun _ =>
      Upholds.pure quiet_closed _)))
  · exact Upholds.pure quiet_closed _

theorem quiet_wakeUp : Upholds Quiet (wakeUp env device) :=
  upholds_wakeUp serviced_quiet.toIssued trivial ⟨fun _ _ => trivial, trivial, trivial, trivial⟩

theorem quiet_trackBattery {stored : PyFloat} : Upholds Quiet (trackBattery env device stored) :=
  Upholds.bind quiet_closed (Upholds.when quiet_closed (fun _ => serviced_quiet.saveDevice trivial))
    (fun _ => Upholds.when quiet_closed (fun _ => Upholds.bind quiet_closed (serviced_quiet.saveDevice trivial)
      (fun _ => quiet_announceCleared)))

/-- The loop announces; what it announced by its end is what it returns. -/
theorem outcome_collectReadings {deviceType : String} (data : Fields) (w : World) :
    (after (collectReadings env device deviceType data) w).db = w.db ∧
      ∃ new, (after (collectReadings env device deviceType data) w).broadcasts = w.broadcasts ++ new ∧
        ∀ readings v, outcome (collectReadings env device deviceType data) w = (.ok readings, v) →
          new.filterMap ChannelEvent.reading? = readings := by
  induction data generalizing w with
  | nil =>
    refine ⟨rfl, [], by simp [collectReadings], ?_⟩
    rintro readings v ⟨⟩
    rfl
  | cons entry rest ih =>
    obtain ⟨raw, value⟩ := entry
    unfold collectReadings
    split
    · exact ih w
    · cases pyFloat env value with
      | skipped => exact ih w
      | overflow => exact ⟨rfl, [], by simp, fun readings v run => by cases run⟩
      | value f =>
        dsimp only
        generalize told : ChannelEvent.sensorReading device.deviceId deviceType (resolveAlias raw) f env.now
          device.effectiveName = e
        have carries : e.reading? = some ⟨env.now, device.deviceId, resolveAlias raw, f⟩ := by rw [← told]; rfl
        by_cases taken : env.channel w.broadcasts.length = true
        swap
        · have refused : outcome (groupSend env e) w = (.error .channel, w) := by
            rw [outcome_groupSend, if_neg taken]
          rw [after_bind_error refused, outcome_bind_error refused]
          exact ⟨rfl, [], by simp, fun readings v run => by cases run⟩
        have sent : outcome (groupSend env e) w = (.ok (), w.apply (.broadcast e)) := by
          rw [outcome_groupSend, if_pos taken]
        rw [after_bind_ok sent, outcome_bind_ok sent, after_bind_pure]
        obtain ⟨db, new, broadcasts, all⟩ := ih (w.apply (.broadcast e))
        refine ⟨db, e :: new, by rw [broadcasts]; simp [World.apply], ?_⟩
        intro readings v run
        obtain ⟨others, u, collected, returned⟩ := outcome_bind_eq_ok.mp run
        cases returned
        rw [List.filterMap_cons, carries, all others v collected]

def AllOrNone (w v : World) : Prop := v.db.readings = w.db.readings ∨ Backed w v

theorem Quiet.allOrNone {u v w : World} (still : Quiet w u) (rest : AllOrNone u v) : AllOrNone w v := by
  rcases rest with same | backed
  · exact .inl (same.trans still.readings)
  · exact .inr (still.backed backed)

theorem AllOrNone.after_quiet {α : Type} {m : Act α} {f : α → Act Unit} (first : Upholds Quiet m)
    (rest : ∀ a, Upholds AllOrNone (f a)) : Upholds AllOrNone (m >>= f) :=
  Upholds.bind_within (fun still => .inl still.readings) (fun still => still.allOrNone) first rest

theorem allOrNone_storeReadings {deviceType : String} {data : Fields} :
    Upholds AllOrNone (storeReadings env device deviceType data) := by
  intro w
  obtain ⟨db, new, broadcasts, all⟩ := @outcome_collectReadings env device deviceType data w
  unfold storeReadings
  unfold after at db broadcasts
  rcases run : outcome (collectReadings env device deviceType data) w with ⟨e | readings, v⟩
  · rw [run] at db
    rw [after_bind_error run]
    exact .inl (congrArg Db.readings db)
  · rw [run] at db broadcasts
    rw [after_bind_ok run]
    unfold Program.when
    split
    swap
    · exact .inl (congrArg Db.readings db)
    right
    have stored : Backed w (v.apply (.addReadings readings)) := by
      refine ⟨new, broadcasts, ?_⟩
      rw [all readings v run]
      intro r member
      exact List.mem_append_right _ member
    rw [after_bind_ok (outcome_emit (.addReadings readings) v)]
    cases storedBattery readings with
    | none => exact stored
    | some battery => exact stored.quiet (quiet_trackBattery _)

theorem allOrNone_savedRest {deviceType : String} {data : Fields} {woken : Bool} :
    Upholds AllOrNone (savedRest env deviceType data woken device) := by
  refine AllOrNone.after_quiet (serviced_quiet.checkOtaTimeouts _ _) (fun _ =>
    AllOrNone.after_quiet ?_ (fun d => ?_))
  · split
    · exact quiet_wakeUp
    · exact quiet_checkCapabilitiesTimeout
  · unfold approvedRest Program.when
    split
    · exact AllOrNone.after_quiet (upholds_maybeRequestDiag serviced_quiet.toIssued trivial trivial)
        (fun _ => allOrNone_storeReadings)
    · exact fun _ => .inl rfl

theorem allOrNone_sensorBody {deviceType : String} {data : Fields} {created : Bool} :
    Upholds AllOrNone (sensorBody env deviceType data device created) := by
  rw [sensorBody_halves]
  exact AllOrNone.after_quiet (Upholds.when quiet_closed (fun _ => quiet_announceCleared)) (fun _ =>
    AllOrNone.after_quiet (serviced_quiet.saveDevice trivial) (fun _ => allOrNone_savedRest))

end Readings

theorem quiet_deliver {w : World} {d : Delivery} (kind : d.kind ≠ .sensors) : Quiet w (deliver w d) := by
  have closed := quiet_closed
  have save : ∀ (device : Device) fields, Upholds Quiet (saveDevice device fields) :=
    fun _ _ => serviced_quiet.saveDevice trivial
  unfold deliver handleMessage
  cases case : d.kind with
  | sensors => exact absurd case kind
  | status =>
    refine upholds_withObject closed (fun data => upholds_withDevice closed (fun device _ => ?_)) w
    split
    · exact Upholds.pure closed _
    · exact Upholds.bind closed (save _ _) (fun _ => quiet_announceCleared)
  | capabilities =>
    exact upholds_withObject closed (fun data => upholds_withDevice closed (fun before _ =>
      Upholds.bind closed (Upholds.read closed _) (fun _ =>
      Upholds.bind closed (Upholds.when closed (fun _ => quiet_addStatusLog _)) (fun _ =>
      Upholds.bind closed (save _ _) (fun _ =>
      Upholds.bind closed (serviced_quiet.resolveRequests _ _ _ _ rfl) (fun _ =>
      Upholds.bind closed (serviced_quiet.resolveOtaUpdates _ _) (fun _ =>
      Upholds.when closed (fun _ => upholds_repushCalibration serviced_quiet.toIssued
        (fun _ _ => trivial))))))))) w
  | commands => exact upholds_handleCommandsMessage serviced_quiet.toIssued (fun _ _ => trivial) w
  | calibration => exact upholds_handleCalibrationMessage serviced_quiet.toIssued (fun _ _ => trivial) w
  | diag =>
    refine upholds_withObject closed (fun data => upholds_withDevice closed (fun before _ => ?_)) w
    split
    · exact Upholds.pure closed _
    · split
      · exact Upholds.fail closed _
      · exact Upholds.bind closed (upholds_addDiagLog closed (fun _ => .of_same rfl rfl)) (fun _ =>
          Upholds.bind closed (save _ _) (fun _ => Upholds.when closed (fun _ => quiet_announceCleared)))
  | ack =>
    refine Upholds.bind closed (upholds_ackLookup serviced_quiet.toIssued (fun _ _ => trivial))
      (fun target => ?_) w
    cases target with
    | none => exact Upholds.pure closed _
    | some m => exact upholds_markCommand closed (fun _ => .of_same rfl rfl)

def KeepsSeen (id : String) (w v : World) : Prop :=
  (v.device? id).map Device.lastSeen = (w.device? id).map Device.lastSeen

theorem keepsSeen_closed (id : String) : Closed (KeepsSeen id) :=
  ⟨fun _ => rfl, fun h k => Eq.trans k h⟩

theorem keepsSeen_saveDevice {id : String} {d : Device} {fields : List DeviceField}
    (other : .lastSeen ∉ fields) (w : World) : KeepsSeen id w (w.apply (.saveDevice d fields)) := by
  unfold KeepsSeen
  rw [device?_saveDevice, Option.map_map]
  congr 1
  funext r
  dsimp only [Function.comp]
  split
  · rw [Device.lastSeen_copyFields, if_neg other]
  · rfl

theorem respected_seen (id : String) :
    Respected (KeepsSeen id) (fun _ fields => .lastSeen ∉ fields) (fun _ _ => True) (fun _ => True) where
  toServiced := Serviced.of_marks (keepsSeen_closed id) (fun w _ _ other => keepsSeen_saveDevice other w)
    (fun _ _ _ => rfl) (fun _ _ _ _ _ _ => rfl)
  history := fun _ e history _ => by cases e <;> first | rfl | cases history

theorem seen_sensorBody {env : Env} {deviceType : String} {data : Fields} {row : Device} {created : Bool}
    {w : World} (known : w.device? row.deviceId = some row)
    (announced : clearsAlert env.now row = true → env.channel w.broadcasts.length = true) :
    ((after (sensorBody env deviceType data row created) w).device? row.deviceId).map Device.lastSeen =
      some (some env.now) := by
  obtain ⟨accepts, empty⟩ := reconcileAlert_accepts env.now { row with lastSeen := some env.now }
  have seen : SameUnit row { row with lastSeen := some env.now } := ⟨rfl, rfl⟩
  obtain ⟨same, -⟩ := reconcileAlert_spec env.now seen
  have marked : (reconcileAlert env.now { row with lastSeen := some env.now }).1.lastSeen = some env.now :=
    lastSeen_reconcileAlert env.now _
  unfold clearsAlert at announced
  rw [sensorBody_halves]
  generalize reconcileAlert env.now { row with lastSeen := some env.now } = reconciled
    at accepts empty same marked announced ⊢
  obtain ⟨d, names, cleared⟩ := reconciled
  dsimp only at accepts empty same marked announced ⊢
  have first : ∃ v, outcome (when cleared (announceCleared env d)) w = (.ok (), v) ∧ Aside w v := by
    cases cleared with
    | false => exact ⟨w, rfl, aside_closed.refl w⟩
    | true =>
      obtain ⟨v, aside, run⟩ := outcome_announceCleared env d (empty rfl) w
      rw [announced rfl] at run
      exact ⟨v, run, aside⟩
  obtain ⟨v, said, aside⟩ := first
  have saved : outcome (saveDevice d (.lastSeen :: names)) v =
      (.ok (), v.apply (.saveDevice d (.lastSeen :: names))) := by rw [outcome_saveDevice, if_pos accepts]
  rw [after_bind_ok said, after_bind_ok saved]
  have within := respected_seen row.deviceId
  have heard : ∀ fields : List DeviceField, (∀ f ∈ fields, f ∈ heardFields) → .lastSeen ∉ fields :=
    fun fields names member => absurd (names _ member) (by decide)
  refine (upholds_savedRest within (fun _ _ => trivial) (fun _ fields _ names => heard fields names) same
    (fun _ => ⟨fun _ _ => trivial, trivial, trivial, trivial⟩) trivial _).trans ?_
  have before : v.device? row.deviceId = some row := by
    unfold World.device?
    rw [aside.devices]
    exact known
  rw [device?_saved before same.1, Option.map_some,
    Device.lastSeen_copyFields, if_pos List.mem_cons_self, marked]

section Clean
variable {env : Env} {deviceId : String} {payload : Payload}

theorem clean_saveDevice {d : Device} {fields : List DeviceField} : Clean (saveDevice d fields) := by
  intro w e v run
  rw [outcome_saveDevice] at run
  split at run
  · cases run
  · cases run
    rfl

theorem clean_ackUpdate (target : Option AckMark) : Clean (ackUpdate env target) := by
  cases target with
  | none => exact Clean.pure ()
  | some m =>
    intro w e v run
    rw [show ackUpdate env (some m) = markCommand m.row m.status m.message env.now from rfl,
      outcome_markCommand] at run
    split at run
    · cases run
    · cases run
      rfl

theorem clean_withDevice {α : Type} {rejected : α} {body : Device → Act α} (inside : ∀ d, Clean (body d)) :
    Clean (withDevice deviceId rejected body) := by
  refine Clean.query (fun found => ?_)
  cases found with
  | none => exact Clean.pure _
  | some device => exact inside device

theorem clean_withObject {α : Type} {rejected : α} {body : Fields → Act α} (inside : ∀ data, Clean (body data)) :
    Clean (withObject payload rejected body) := by
  unfold withObject
  split
  · exact Clean.pure _
  · cases payload.body with
    | malformed => exact Clean.pure _
    | uncaught => exact Clean.fail _
    | value json =>
      cases json with
      | obj data => exact inside data
      | _ => exact Clean.pure _

theorem clean_handleCommandsMessage : Clean (handleCommandsMessage env deviceId payload) :=
  clean_withObject (fun _ => clean_withDevice (fun _ => clean_saveDevice))

theorem clean_handleCalibrationMessage : Clean (handleCalibrationMessage env deviceId payload) := by
  refine clean_withObject (fun data => clean_withDevice (fun device => ?_))
  cases calibrationMirror data with
  | none => exact Clean.fail _
  | some mirror => exact clean_saveDevice

theorem clean_legacyCalibration {device : Device} {data : Fields} : Clean (legacyCalibration device data) := by
  unfold legacyCalibration
  cases legacyOffsets data ["temp", "humi", "press"] with
  | none => exact Clean.fail _
  | some updates =>
    dsimp only
    split
    · exact Clean.pure _
    · exact clean_saveDevice

theorem clean_ackLookup : Clean (ackLookup deviceId payload) := by
  refine clean_withObject (fun data => clean_withDevice (fun device => ?_))
  dsimp only
  split
  · exact Clean.bind clean_legacyCalibration (fun _ => Clean.pure _) (fun _ _ _ _ => .inr (Total.pure _))
  · split
    · exact Clean.pure _
    · exact Clean.query (fun _ => Clean.pure _)

/-- The lookup writes only where it finds nothing to mark. -/
theorem ackLookup_settled {w v : World} {target : Option AckMark}
    (looked : outcome (ackLookup deviceId payload) w = (.ok target, v)) : v = w ∨ target = none := by
  unfold ackLookup at looked
  cases object : payload.object? with
  | none =>
    rcases outcome_withObject_none none _ object w with run | run
    · rw [run] at looked
      cases looked
      exact .inl rfl
    · rw [run] at looked
      cases looked
  | some data =>
    rw [withObject_object _ _ object] at looked
    cases known : w.device? deviceId with
    | none =>
      unfold withDevice at looked
      rw [outcome_bind, outcome_read, known] at looked
      cases looked
      exact .inl rfl
    | some device =>
      rw [withDevice_known _ _ known] at looked
      dsimp only at looked
      split at looked
      · obtain ⟨_, _, -, last⟩ := outcome_bind_eq_ok.mp looked
        cases last
        exact .inr rfl
      · split at looked
        · cases looked
          exact .inl rfl
        · rw [outcome_bind, outcome_read] at looked
          cases looked
          exact .inl rfl

theorem clean_handleAckMessage : Clean (handleAckMessage env deviceId payload) := by
  refine Clean.bind clean_ackLookup clean_ackUpdate (fun w target v looked => ?_)
  rcases ackLookup_settled looked with same | rfl
  · exact .inl same
  · exact .inr (Total.pure ())

end Clean

theorem outcome_unhandled {w : World} {d : Delivery} (body : Fields → Device → Act Unit)
    (unread : d.payload.object? = none ∨ w.device? d.deviceId = none) {e : Raised} {v : World}
    (failed : outcome (withObject d.payload () fun data => withDevice d.deviceId () (body data)) w =
      (.error e, v)) : v = w := by
  cases object : d.payload.object? with
  | none =>
    rcases outcome_withObject_none () _ object w with run | run <;> rw [run] at failed <;> cases failed
    rfl
  | some data =>
    have unknown := unread.resolve_left (by simp [object])
    rw [withObject_object _ _ object] at failed
    unfold withDevice at failed
    rw [outcome_bind, outcome_read, unknown] at failed
    cases failed

section Later
variable {w v : World} {d : Delivery} {e : Raised}

theorem accepted_read (valid : accepted w d = true) :
    ∃ data row, d.payload.object? = some data ∧ w.device? d.deviceId = some row := by
  cases reports : report w d with
  | none => simp [accepted, reports] at valid
  | some pair =>
    obtain ⟨-, data, row, object, known, -⟩ := report_saves reports
    exact ⟨data, row, object, known⟩

theorem read_or_unread (w : World) (d : Delivery) :
    (∃ data row, d.payload.object? = some data ∧ w.device? d.deviceId = some row) ∨
      (d.payload.object? = none ∨ w.device? d.deviceId = none) ∧ accepted w d = false := by
  cases object : d.payload.object? with
  | none => exact .inr ⟨.inl rfl, by simp [accepted, report, object]⟩
  | some data =>
    cases known : w.device? d.deviceId with
    | none => exact .inr ⟨.inr rfl, by simp [accepted, report, known]⟩
    | some row => exact .inl ⟨data, row, rfl, rfl⟩

theorem outcome_capabilities {data : Fields} {row : Device} (object : d.payload.object? = some data)
    (known : w.device? d.deviceId = some row) :
    outcome (handleCapabilitiesMessage d.env d.deviceId d.payload) w = outcome (do
      when (hadTimeoutAlert row) (addStatusLog (statusRow d.env (reportedDevice w data row)))
      saveDevice (reportedDevice w data row) capabilitiesFields
      capabilitiesRest d.env (reportedDevice w data row)
        (storeEmpty data && !(reportedDevice w data row).calibration.isEmpty)) w := by
  rw [handleCapabilitiesMessage, outcome_handler object known]
  exact outcome_bind_ok (outcome_read _ w)

theorem completes_capabilities {data : Fields} {row : Device} (object : d.payload.object? = some data)
    (known : w.device? d.deviceId = some row) :
    (outcome (handleCapabilitiesMessage d.env d.deviceId d.payload) w).1.isOk =
      capabilitiesFields.all (reportedDevice w data row).accepts := by
  rw [outcome_capabilities object known]
  obtain ⟨u, -, logged⟩ := @outcome_logCleared d.env (fun code => (w.db.hardwareCodes.get? code).isSome) data row w
  change outcome (when (hadTimeoutAlert row) (addStatusLog (statusRow d.env (reportedDevice w data row)))) w =
    (.ok (), u) at logged
  generalize reportedDevice w data row = saved at logged
  rw [outcome_bind_ok logged]
  cases taken : capabilitiesFields.all saved.accepts with
  | true =>
    have text : varchar 32 saved.fwVersion = true := List.all_eq_true.mp taken .fwVersion (by decide)
    rw [varchar, Bool.and_eq_true] at text
    have total : Total (do
        saveDevice saved capabilitiesFields
        capabilitiesRest d.env saved (storeEmpty data && !saved.calibration.isEmpty)) :=
      Total.bind (total_saveDevice taken) (fun _ => total_capabilitiesRest text.1)
    obtain ⟨_, _, ended⟩ := total u
    rw [ended]
    rfl
  | false =>
    have unsaved := (outcome_saveDevice saved capabilitiesFields u).trans (if_neg (Bool.eq_false_iff.mp taken))
    rw [outcome_bind_error unsaved]
    rfl

theorem capabilities_failed (unstranded : strands w d = false) (kind : d.kind = .capabilities)
    (failed : outcome (handleCapabilitiesMessage d.env d.deviceId d.payload) w = (.error e, v)) : v = w := by
  cases object : d.payload.object? with
  | none => exact outcome_unhandled _ (.inl object) failed
  | some data =>
    cases known : w.device? d.deviceId with
    | none => exact outcome_unhandled _ (.inr known) failed
    | some row =>
      have refused : capabilitiesFields.all (reportedDevice w data row).accepts = false := by
        rw [← completes_capabilities object known, failed]
        rfl
      have quiet : hadTimeoutAlert row = false := by
        cases timeout : hadTimeoutAlert row with
        | false => rfl
        | true => simp [strands, object, known, kind, timeout, refused] at unstranded
      rw [outcome_capabilities object known, quiet] at failed
      have skipped : outcome (when false (addStatusLog (statusRow d.env (reportedDevice w data row)))) w =
        (.ok (), w) := rfl
      have unsaved := (outcome_saveDevice (reportedDevice w data row) capabilitiesFields w).trans
        (if_neg (Bool.eq_false_iff.mp refused))
      rw [outcome_bind_ok skipped, outcome_bind_error unsaved] at failed
      cases failed
      rfl

theorem outcome_saved {env : Env} {saved : Device} {fields : List DeviceField}
    (all : ∀ f ∈ alertFields, f ∈ fields) (failed : outcome (do
      saveDevice saved fields
      announceCleared env saved) w = (.error e, v)) :
    fields.all saved.accepts = false ∧ v = w ∨ fields.all saved.accepts = true ∧
      v = (w.apply (.saveDevice saved fields)).apply (.addStatusLog (statusRow env saved)) := by
  cases taken : fields.all saved.accepts with
  | false =>
    have refused : outcome (saveDevice saved fields) w = (.error .dataError, w) := by
      rw [outcome_saveDevice, if_neg (by simp [taken])]
    rw [outcome_bind_error refused] at failed
    cases failed
    exact .inl ⟨rfl, rfl⟩
  | true =>
    have kept : outcome (saveDevice saved fields) w = (.ok (), w.apply (.saveDevice saved fields)) := by
      rw [outcome_saveDevice, if_pos taken]
    have logged := @outcome_addStatusLog (statusRow env saved) (accepts_alertMessage all taken)
      (w.apply (.saveDevice saved fields))
    unfold announceCleared at failed
    rw [outcome_bind_ok kept, outcome_bind_ok logged, outcome_groupSend] at failed
    split at failed
    · cases failed
    · cases failed
      exact .inr ⟨rfl, rfl⟩

theorem outcome_savedChange {env : Env} {saved : Device} {fields : List DeviceField} {changed : Bool}
    (all : ∀ f ∈ alertFields, f ∈ fields) (taken : fields.all saved.accepts = true) (failed : outcome (do
      saveDevice saved fields
      when changed (announceCleared env saved)) w = (.error e, v)) :
    changed = true ∧ v = (w.apply (.saveDevice saved fields)).apply (.addStatusLog (statusRow env saved)) := by
  cases changed with
  | true =>
    rcases outcome_saved all failed with ⟨refused, -⟩ | ⟨-, last⟩
    · rw [taken] at refused
      cases refused
    · exact ⟨rfl, last⟩
  | false =>
    have kept := (outcome_saveDevice saved fields w).trans (if_pos taken)
    rw [outcome_bind_ok kept] at failed
    cases failed

theorem db_announced {env : Env} {saved : Device} {fields : List DeviceField}
    (all : ∀ f ∈ alertFields, f ∈ fields) (taken : fields.all saved.accepts = true) :
    (after (do
      saveDevice saved fields
      announceCleared env.announced saved) w).db =
        ((w.apply (.saveDevice saved fields)).apply (.addStatusLog (statusRow env saved))).db := by
  have kept : outcome (saveDevice saved fields) w = (.ok (), w.apply (.saveDevice saved fields)) := by
    rw [outcome_saveDevice, if_pos taken]
  have logged := @outcome_addStatusLog (statusRow env.announced saved)
    (accepts_alertMessage all taken) (w.apply (.saveDevice saved fields))
  unfold announceCleared
  rw [after_bind_ok kept, after_bind_ok logged, after, outcome_groupSend]
  rfl

theorem remains_report (kind : d.kind = .status ∨ d.kind = .diag) (valid : accepted w d = true)
    (left : v = deliver w d) (db : v.db = (deliver w d.announced).db) (broadcasts : v.broadcasts = w.broadcasts)
    (readings : v.db.readings = w.db.readings) : Remains w d := by
  obtain ⟨_, row, -, known⟩ := accepted_read valid
  obtain ⟨saved, found, seen, -⟩ := deliver_accepted (by rcases kind with k | k <;> rw [k] <;> rfl) known valid
  subst left
  exact ⟨⟨saved, found, seen⟩, fun _ => ⟨db, broadcasts⟩, .inl readings⟩

section Read
variable {data : Fields} {row : Device} (object : d.payload.object? = some data)
  (known : w.device? d.deviceId = some row)
include object known

theorem status_failed (kind : d.kind = .status)
    (failed : outcome (handleStatusMessage d.env d.deviceId d.payload) w = (.error e, v)) :
    (accepted w d = false → v = w) ∧ (accepted w d = true → Remains w d) := by
  have left : v = deliver w d := by
    unfold deliver handleMessage
    rw [kind]
    exact (congrArg Prod.snd failed).symm
  rw [handleStatusMessage, outcome_handler object known] at failed
  cases told : statusLevel data with
  | none =>
    rw [told] at failed
    cases failed
  | some level =>
    rw [told] at failed
    dsimp only at failed
    have all : ∀ f ∈ alertFields, f ∈ alertFields ++ [DeviceField.lastSeen] :=
      fun f member => List.mem_append_left _ member
    have reports : accepted w d =
        (alertFields ++ [DeviceField.lastSeen]).all (applyStatus d.env.now level data row).accepts := by
      simp [accepted, report, object, known, heard, kind, told]
    have announced : deliver w d.announced = after (do
        saveDevice (applyStatus d.env.now level data row) (alertFields ++ [.lastSeen])
        announceCleared d.env.announced (applyStatus d.env.now level data row)) w := by
      unfold deliver handleMessage
      rw [show d.announced.kind = .status from kind]
      dsimp only [handleStatusMessage]
      rw [@after_handler w d.announced _ _ object known, told]
      rfl
    generalize applyStatus d.env.now level data row = saved at failed reports announced
    rw [reports]
    rcases outcome_saved all failed with ⟨refused, same⟩ | ⟨taken, last⟩
    · rw [refused]
      exact ⟨fun _ => same, fun valid => by cases valid⟩
    · rw [taken]
      refine ⟨fun dropped => (by cases dropped), fun valid => ?_⟩
      refine remains_report (.inl kind) (reports.trans taken) left ?_ ?_ ?_
      · rw [announced, db_announced all taken, last]
      · rw [last]
        rfl
      · rw [last]
        rfl

omit object known in
theorem accepts_applyDiag {now : Time} {level : DiagLevel} {text : String} (short : varchar 256 text = true) :
    (alertFields ++ [DeviceField.lastSeen]).all (applyDiag now level text row).accepts = true := by
  have empty : varchar 256 "" = true := by decide
  cases level <;> simp [alertFields, Device.accepts, applyDiag, DiagLevel.alert, AlertLevel.raised, short, empty]

theorem diag_failed (kind : d.kind = .diag)
    (failed : outcome (handleDiagMessage d.env d.deviceId d.payload) w = (.error e, v)) :
    (accepted w d = false → v = w) ∧ (accepted w d = true → Remains w d) := by
  have left : v = deliver w d := by
    unfold deliver handleMessage
    rw [kind]
    exact (congrArg Prod.snd failed).symm
  rw [handleDiagMessage, outcome_handler object known] at failed
  dsimp only at failed
  have reports : accepted w d = (heard d data row).any (fun saved => saved.2.all saved.1.accepts) := by
    simp only [accepted, report, object, known]
  have announced : deliver w d.announced =
      after (handleDiagMessage d.announced.env d.announced.deviceId d.announced.payload) w := by
    unfold deliver handleMessage
    rw [show d.announced.kind = .diag from kind]
  rw [handleDiagMessage, @after_handler w d.announced _ _ object known,
    show d.announced.env.now = d.env.now from rfl] at announced
  dsimp only at announced
  unfold heard at reports
  rw [kind] at reports
  cases told : diagLevel data with
  | none =>
    rw [told] at failed
    cases failed
  | some level =>
    simp only [told] at failed reports announced
    cases converted : diagSnapshot d.env.now row.deviceId level data with
    | none =>
      simp only [converted] at failed reports
      cases failed
      rw [reports]
      exact ⟨fun _ => rfl, fun valid => by cases valid⟩
    | some snapshot =>
      simp only [converted] at failed reports announced
      by_cases insertable : snapshot.insertable = true
      swap
      · have refused := (outcome_addDiagLog snapshot w).trans (if_neg insertable)
        rw [outcome_bind_error refused] at failed
        cases failed
        rw [reports, if_neg insertable]
        exact ⟨fun _ => rfl, fun valid => by cases valid⟩
      have short : varchar 256 (diagText data) = true := by
        rw [← (diagSnapshot_converted converted).2.2.2.2]
        simp only [DeviceDiagLog.insertable, Bool.and_eq_true] at insertable
        exact insertable.1.1.1
      have inserted := (outcome_addDiagLog snapshot w).trans (if_pos insertable)
      have taken := @accepts_applyDiag row d.env.now level (diagText data) short
      rw [if_pos insertable, Option.any_some, taken] at reports
      rw [outcome_bind_ok inserted] at failed
      rw [after_bind_ok inserted] at announced
      rw [reports]
      refine ⟨fun dropped => (by cases dropped), fun valid => ?_⟩
      have all : ∀ f ∈ alertFields, f ∈ alertFields ++ [DeviceField.lastSeen] :=
        fun f member => List.mem_append_left _ member
      generalize applyDiag d.env.now level (diagText data) row = saved at failed taken announced
      generalize before : w.apply (.addDiagLog snapshot) = u at failed announced
      have readings : u.db.readings = w.db.readings := by rw [← before]; rfl
      have broadcasts : u.broadcasts = w.broadcasts := by rw [← before]; rfl
      obtain ⟨changed, last⟩ := outcome_savedChange all taken failed
      rw [changed] at announced
      refine remains_report (.inr kind) reports left ?_ ?_ ?_
      · rw [announced, last]
        exact (db_announced all taken).symm
      · rw [last]
        exact broadcasts
      · rw [last]
        exact readings

end Read

theorem total_fresh {env : Env} {deviceType deviceId : String} {data : Fields} :
    Total (sensorBody env deviceType data
      { deviceId := deviceId, deviceType := deviceType, createdAt := env.now } true) := by
  generalize new : ({ deviceId := deviceId, deviceType := deviceType, createdAt := env.now } : Device) = fresh
  have calm : reconcileAlert env.now { fresh with lastSeen := some env.now } =
      ({ fresh with lastSeen := some env.now }, [], false) := by
    rw [← new]
    rfl
  have unapproved : fresh.isApproved = false := by rw [← new]
  rw [sensorBody_halves, calm]
  dsimp only
  refine Total.bind (Total.pure ()) (fun _ => Total.bind (total_saveDevice rfl) (fun _ =>
    Total.bind (total_checkOtaTimeouts _ _) (fun _ w => ?_)))
  rw [Bool.true_or, if_pos rfl]
  obtain ⟨d, u, woke⟩ := @total_wakeUp env { fresh with lastSeen := some env.now } w
  obtain ⟨at_, same⟩ := returns_wakeUp w d u woke
  have closed : d.isApproved = false := by
    rw [same]
    exact unapproved
  rw [outcome_bind_ok woke, approvedRest, closed]
  exact ⟨(), u, rfl⟩

theorem clean_createDevice {device : Device} : Clean (createDevice device) := by
  refine Clean.query (fun found => ?_)
  cases found with
  | some _ => exact Clean.fail _
  | none =>
    dsimp only
    split
    · exact fun _ _ _ run => by cases run
    · exact Clean.fail _

theorem sensors_failed (kind : d.kind = .sensors) (unstranded : strands w d = false)
    (failed : outcome (handleSensorMessage d.env d.deviceType d.deviceId d.payload) w = (.error e, v)) :
    (committed w d = false → v = w) ∧ (committed w d = true → Remains w d) := by
  cases object : d.payload.object? with
  | none =>
    have silent : committed w d = false := by simp [committed, kind, object]
    rw [silent]
    refine ⟨fun _ => ?_, fun marked => by cases marked⟩
    rcases outcome_withObject_none () _ object w with run | run <;>
      rw [handleSensorMessage, run] at failed <;> cases failed
    rfl
  | some data =>
    rw [handleSensorMessage, withObject_object _ _ object] at failed
    cases known : w.device? d.deviceId with
    | none =>
      have silent : committed w d = false := by simp [committed, kind, known]
      rw [silent]
      refine ⟨fun _ => ?_, fun marked => by cases marked⟩
      unfold getOrCreateDevice at failed
      rw [outcome_bind, outcome_bind, outcome_read, known] at failed
      dsimp only at failed
      have created := @clean_createDevice
        { deviceId := d.deviceId, deviceType := d.deviceType, createdAt := d.env.now } w
      generalize new : ({ deviceId := d.deviceId, deviceType := d.deviceType, createdAt := d.env.now } : Device) =
        fresh at failed created
      rcases ran : outcome (createDevice fresh) w with ⟨refusal | ⟨⟩, u⟩
      · rw [outcome_bind_error ran] at failed
        cases failed
        exact created _ _ ran
      · rw [outcome_bind_ok ran] at failed
        obtain ⟨_, t, ended⟩ := @total_fresh d.env d.deviceType d.deviceId data u
        rw [new] at ended
        rw [show outcome (sensorBody d.env d.deviceType data fresh true) u = (.error e, v) from failed] at ended
        cases ended
    | some row =>
      have marked : committed w d = true := by simp [committed, kind, object, known]
      have own : row.deviceId = d.deviceId := Table.key_get? known
      have handled := deliver_sensors kind object known
      have announced : clearsAlert d.env.now row = true → d.env.channel w.broadcasts.length = true := by
        intro clears
        simpa [strands, object, known, kind, clears] using unstranded
      have seen := @seen_sensorBody d.env d.deviceType data row false w (own ▸ known) announced
      rw [marked]
      refine ⟨fun silent => (by cases silent), fun _ => ⟨?_, fun other => absurd kind other, ?_⟩⟩
      · rw [handled, ← own]
        exact Option.map_eq_some_iff.mp seen
      · rw [handled]
        exact allOrNone_sensorBody w

/-- A failing message that strands no row has changed nothing, unless it had marked the row
as heard; what it had committed by then stays. -/
theorem failure_commits
    (failed : outcome (handleMessage d.env d.kind d.deviceType d.deviceId d.payload) w = (.error e, v))
    (unstranded : strands w d = false) :
    (committed w d = false → v = w) ∧ (committed w d = true → Remains w d) := by
  have clean : committed w d = false → v = w →
      (committed w d = false → v = w) ∧ (committed w d = true → Remains w d) := by
    intro silent same
    rw [silent]
    exact ⟨fun _ => same, fun marked => by cases marked⟩
  unfold handleMessage at failed
  cases kind : d.kind with
  | sensors =>
    rw [kind] at failed
    exact sensors_failed kind unstranded failed
  | capabilities =>
    rw [kind] at failed
    exact clean (by simp [committed, kind]) (capabilities_failed unstranded kind failed)
  | commands =>
    rw [kind] at failed
    exact clean (by simp [committed, kind]) (clean_handleCommandsMessage w e v failed)
  | calibration =>
    rw [kind] at failed
    exact clean (by simp [committed, kind]) (clean_handleCalibrationMessage w e v failed)
  | ack =>
    rw [kind] at failed
    exact clean (by simp [committed, kind]) (clean_handleAckMessage w e v failed)
  | status =>
    rw [kind] at failed
    rcases read_or_unread w d with ⟨data, row, object, known⟩ | ⟨unread, silent⟩
    · simpa only [committed, kind] using status_failed object known kind failed
    · exact clean (by simpa only [committed, kind] using silent) (outcome_unhandled _ unread failed)
  | diag =>
    rw [kind] at failed
    rcases read_or_unread w d with ⟨data, row, object, known⟩ | ⟨unread, silent⟩
    · simpa only [committed, kind] using diag_failed object known kind failed
    · exact clean (by simpa only [committed, kind] using silent) (outcome_unhandled _ unread failed)

end Later

/-- An approved device whose second reading the channel layer does not take. -/
def gardenShed : World :=
  World.empty.apply (.createDevice
    { deviceId := "shed01", createdAt := 0, lastSeen := some 0, isApproved := true, publishInterval := 60 })

def halfHeard : Delivery where
  env := { now := seconds 30, channel := fun sent => sent = 0 }
  kind := .sensors
  deviceType := "thermo"
  deviceId := "shed01"
  payload := ⟨30, .value (.obj [("temp", .float (.finite 21)), ("humi", .float (.finite 55))])⟩

/-- The first reading is announced and not stored, and the row is marked as heard. -/
theorem halfHeard_leaves_trace :
    (outcome (handleMessage halfHeard.env halfHeard.kind halfHeard.deviceType halfHeard.deviceId
      halfHeard.payload) gardenShed).1.isOk = false ∧
    ((deliver gardenShed halfHeard).device? "shed01").map Device.lastSeen ≠
      (gardenShed.device? "shed01").map Device.lastSeen ∧
    (deliver gardenShed halfHeard).broadcasts.filterMap ChannelEvent.reading? ≠ [] ∧
    (deliver gardenShed halfHeard).db.readings = [] ∧
    ¬ NoTrace "shed01" gardenShed (deliver gardenShed halfHeard) := by
  have seen : ((deliver gardenShed halfHeard).device? "shed01").map Device.lastSeen ≠
      (gardenShed.device? "shed01").map Device.lastSeen := by decide
  refine ⟨by decide, seen, by decide, by decide, fun trace => ?_⟩
  exact seen (congrArg (Option.map Device.lastSeen) trace.row)

theorem halfHeard_commits : Remains gardenShed halfHeard := by
  have failed : outcome (handleMessage halfHeard.env halfHeard.kind halfHeard.deviceType halfHeard.deviceId
      halfHeard.payload) gardenShed = (.error .channel, deliver gardenShed halfHeard) := by
    rfl
  exact (failure_commits failed (by decide)).2 (by decide)

end SensorServer
