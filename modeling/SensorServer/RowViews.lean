import SensorServer.RowRace
import SensorServer.Reports
import SensorServer.Serving

/-! What the handlers and the views of a device do to its row, against the operations of
the race: the read at the start, and saves of the instance read. -/
namespace SensorServer
open Program Overlap

theorem row_saveDevice (w : World) (d : Device) (fields : List DeviceField) (id : String) :
    (w.apply (.saveDevice d fields)).device? id =
      if d.deviceId = id then saved d fields (w.device? id) else w.device? id := by
  rw [device?_saveDevice]
  cases found : w.device? id with
  | none => simp [saved]
  | some r =>
    have own : r.deviceId = id := Table.key_get? found
    rw [Option.map_some, own]
    by_cases same : d.deviceId = id
    · rw [if_pos same.symm, if_pos same]
      rfl
    · rw [if_neg (Ne.symm same), if_neg same]

def Effect.sparesDevices : Effect → Bool
  | .createDevice _ | .saveDevice _ _ | .deleteDevice _ => false
  | _ => true

theorem devices_spared {e : Effect} (spares : e.sparesDevices = true) (w : World) :
    (w.apply e).db.devices = w.db.devices := by
  cases e with
  | createDevice _ | saveDevice _ _ | deleteDevice _ => cases spares
  | setRollup view rows => cases view <;> rfl
  | _ => rfl

theorem device?_deleteDevice (w : World) (source id : String) :
    (w.apply (.deleteDevice source)).device? id = if id = source then none else w.device? id := by
  have kept : (w.apply (.deleteDevice source)).device? id =
      (w.device? id).filter (fun d => decide (d.deviceId ≠ source)) := Table.get?_filter w.db.devices _ id
  rw [kept]
  cases found : w.device? id with
  | none => simp
  | some r =>
    have own : r.deviceId = id := Table.key_get? found
    by_cases same : id = source
    · simp [Option.filter, own, same]
    · simp [Option.filter, own, same]

def RowStep (id : String) (allowed : Row → Row → Prop) (w v : World) : Prop := allowed (w.device? id) (v.device? id)

structure RowLaw (allowed : Row → Row → Prop) (saves : Device → List DeviceField → Prop) : Prop where
  refl : ∀ row, allowed row row
  trans : ∀ {a b c}, allowed a b → allowed b c → allowed a c
  save : ∀ d fields, saves d fields → ∀ row, allowed row (saved d fields row)

section Law
variable {id : String} {allowed : Row → Row → Prop} {saves : Device → List DeviceField → Prop}
  (law : RowLaw allowed saves)
include law

theorem RowLaw.closed : Closed (RowStep id allowed) := ⟨fun _ => law.refl _, law.trans⟩

theorem RowLaw.same {w v : World} (same : v.device? id = w.device? id) : RowStep id allowed w v := by
  unfold RowStep
  rw [same]
  exact law.refl _

theorem RowLaw.spared {e : Effect} (spares : e.sparesDevices = true) (w : World) :
    RowStep id allowed w (w.apply e) := by
  refine law.same ?_
  unfold World.device?
  rw [devices_spared spares]

theorem RowLaw.emit {e : Effect} (spares : e.sparesDevices = true) :
    Upholds (RowStep id allowed) (emit e) := upholds_emit (law.spared spares)

theorem RowLaw.undone (w v : World) : RowStep id allowed w { v with db := w.db } := law.same rfl

theorem RowLaw.respected : Respected (RowStep id allowed) (fun d fields => d.deviceId = id → saves d fields)
    (fun _ _ => True) (fun _ => True) where
  toServiced := Serviced.of_marks law.closed
    (by
      intro w d fields saves
      unfold RowStep
      rw [row_saveDevice]
      by_cases own : d.deviceId = id
      · rw [if_pos own]
        exact law.save d fields (saves own) _
      · rw [if_neg own]
        exact law.refl _)
    (fun w _ _ => law.spared rfl w) (fun w _ _ _ _ _ => law.spared rfl w)
  history := fun w e history _ => law.spared (by cases e <;> first | rfl | cases history) w

theorem RowLaw.saveDevice {d : Device} {fields : List DeviceField} (ok : d.deviceId = id → saves d fields) :
    Upholds (RowStep id allowed) (saveDevice d fields) := law.respected.saveDevice ok

theorem RowLaw.mqttPublish {env : Env} {topic : String} {payload : Json} {retain : Bool} {qos : Nat} :
    Upholds (RowStep id allowed) (mqttPublish env topic payload retain qos) := law.respected.mqttPublish trivial

theorem RowLaw.addCommandLog {env : Env} {device : String} {command : Json} {sentBy : Option String} :
    Upholds (RowStep id allowed) (addCommandLog env device command sentBy) :=
  upholds_addCommandLog law.closed (law.spared rfl)

theorem RowLaw.refreshContinuousAggregates {env : Env} :
    Upholds (RowStep id allowed) (refreshContinuousAggregates env) :=
  upholds_refreshContinuousAggregates law.closed (fun w _ _ => law.spared rfl w)

theorem RowLaw.publishAndRecord {env : Env} {device : Device} {command : Json} {user : User}
    {respond : Act Response} (rest : Upholds (RowStep id allowed) respond) :
    Upholds (RowStep id allowed) (publishAndRecord env device command user respond) := by
  refine Upholds.bind law.closed (Upholds.attempt law.mqttPublish) (fun sent => ?_)
  split
  · exact Upholds.pure law.closed _
  · exact Upholds.bind law.closed law.addCommandLog (fun _ => rest)

theorem RowLaw.mergeDevices {env : Env} {source target : Device}
    (seen : ∀ at_, target.deviceId = id → saves { target with lastSeen := some at_ } [.lastSeen])
    (delete : ∀ w, RowStep id allowed w (w.apply (.deleteDevice source.deviceId))) :
    Upholds (RowStep id allowed) (mergeDevices env source target) := by
  have closed : Closed (RowStep id _) := law.closed
  have metric : ∀ name, Upholds (RowStep id allowed) (mergeMetric source.deviceId target.deviceId name) := by
    intro name
    refine Upholds.bind closed (Upholds.read closed _) (fun wins => ?_)
    split
    · exact Upholds.bind closed (law.emit rfl) (fun _ => law.emit rfl)
    · exact law.emit rfl
  refine Upholds.bind closed (upholds_transaction closed (fun w v _ => law.undone w v) ?_)
    (fun _ => law.refreshContinuousAggregates)
  exact Upholds.bind closed (Upholds.read closed _) (fun _ =>
    Upholds.bind closed (Upholds.forEach closed (fun name _ => metric name)) (fun _ =>
    Upholds.bind closed (law.emit rfl) (fun _ =>
    Upholds.bind closed (law.emit rfl) (fun _ =>
    Upholds.bind closed (Upholds.forEach closed (fun at_ _ => law.saveDevice (seen at_))) (fun _ =>
    upholds_emit delete)))))

end Law

def Once (update : Row → Row) (a b : Row) : Prop := b = a ∨ b = update a

theorem once_law {update : Row → Row} (idempotent : ∀ row, update (update row) = update row) :
    RowLaw (Once update) (fun d fields => saved d fields = update) where
  refl := fun _ => .inl rfl
  trans := by
    rintro a b c (rfl | rfl) (rfl | rfl)
    · exact .inl rfl
    · exact .inr rfl
    · exact .inr rfl
    · exact .inr (idempotent a)
  save := by
    rintro d fields rfl row
    exact .inr rfl

abbrev Uncontended (fields : List DeviceField) : Prop := ∀ f ∈ fields, f ∉ contendedFields

def writesOf (saves : List (Device × List DeviceField)) : List (Row → Row) :=
  saves.map (fun s => saved s.1 s.2)

def Quietly (a b : Row) : Prop :=
  ∀ r, a = some r → ∃ saves : List (Device × List DeviceField), (∀ s ∈ saves, Uncontended s.2) ∧
    b = applied (writesOf saves) (some r)

theorem applied_writesOf (saves : List (Device × List DeviceField)) (r : Device) :
    ∃ t, applied (writesOf saves) (some r) = some t := by
  induction saves generalizing r with
  | nil => exact ⟨r, rfl⟩
  | cons s rest ih => exact ih (s.1.copyFields s.2 r)

theorem quietly_law : RowLaw Quietly (fun _ fields => Uncontended fields) where
  refl := fun _ _ row => ⟨[], (fun _ member => by cases member), row⟩
  trans := by
    intro a b c first second r row
    obtain ⟨early, bounded, wrote⟩ := first r row
    obtain ⟨t, present⟩ := applied_writesOf early r
    obtain ⟨late, others, rest⟩ := second t (wrote.trans present)
    refine ⟨early ++ late, ?_, ?_⟩
    · intro s member
      exact (List.mem_append.mp member).elim (bounded s) (others s)
    · unfold writesOf at present ⊢
      rw [List.map_append, applied_append, present]
      exact rest
  save := by
    rintro d fields ok _ r rfl
    exact ⟨[(d, fields)], fun s only => List.mem_singleton.mp only ▸ ok, rfl⟩

theorem Quietly.created {w : World} {d : Device} {id : String} :
    RowStep id Quietly w (w.apply (.createDevice d)) := by
  intro r known
  have same : (w.apply (.createDevice d)).device? id = some r := by
    by_cases own : d.deviceId = id
    · have taken : w.db.devices.get? d.deviceId = some r := own ▸ known
      have kept : w.db.devices.insert d = w.db.devices := Table.insert_taken taken
      change (w.db.devices.insert d).get? id = some r
      rw [kept]
      exact known
    · exact (Table.get?_insert_other own).trans known
  exact ⟨[], (fun _ member => by cases member), same⟩

def RowOp.idle : RowOp := .quiet (fun _ => []) (fun _ _ member => by cases member)

theorem Quietly.rowOp {row : Device} {b : Row} (quietly : Quietly (some row) b) :
    ∃ saves bounded, b = exec (RowOp.quiet saves bounded).writes (some row) := by
  obtain ⟨saves, bounded, rfl⟩ := quietly row rfl
  exact ⟨fun _ => saves, fun _ s member f touched => bounded s member f touched, rfl⟩

theorem Once.rowOp {x : RowOp} {row : Device} {update : Row → Row} {b : Row} (once : Once update (some row) b)
    (writes : x.writes (some row) = [update]) :
    b = exec RowOp.idle.writes (some row) ∨ b = exec x.writes (some row) := by
  refine once.imp id (fun written => ?_)
  rw [written, exec, writes]
  rfl

section Page
variable {R : World → World → Prop} (closed : Closed R) {w : World} {id : String} {minimum : Role}
  {request : Request} {view : Device → Act Response}

theorem page_at (same : R w w) (inside : ∀ row, w.device? id = some row → R w (after (view row) w)) :
    R w (after (roleRequired minimum request (getDeviceOr404 id view)) w) := by
  rw [roleRequired_eq]
  split
  · unfold getDeviceOr404
    rw [after_read_bind]
    cases found : w.device? id with
    | none => exact same
    | some row => exact inside row found
  · exact same

include closed

theorem page_step (inside : ∀ row, w.device? id = some row → Upholds R (view row)) :
    R w (after (roleRequired minimum request (getDeviceOr404 id view)) w) :=
  page_at (closed.refl w) (fun row known => inside row known w)

variable {row : Device} (known : w.device? id = some row)
include known

theorem known_page_step (inside : Upholds R (view row)) :
    R w (after (roleRequired minimum request (getDeviceOr404 id view)) w) := by
  refine page_step closed (fun found same => ?_)
  cases Option.some.inj (known.symm.trans same)
  exact inside

theorem known_post_step (inside : Upholds R (view row)) :
    R w (after (roleRequired minimum request
      (getDeviceOr404 id fun device => postOnly request (view device))) w) :=
  known_page_step closed known (upholds_postOnly closed inside)

end Page

/-- A renaming or a merge of the device `source`, seen from the row `id`. -/
theorem RowLaw.renameView {id source : String} {allowed : Row → Row → Prop}
    {saves : Device → List DeviceField → Prop} (law : RowLaw allowed saves)
    (create : ∀ (u : World) (d : Device), d.deviceId ≠ source → RowStep id allowed u (u.apply (.createDevice d)))
    (seen : ∀ (target : Device) at_, target.deviceId ≠ source → target.deviceId = id →
      saves { target with lastSeen := some at_ } [.lastSeen])
    (delete : ∀ u : World, RowStep id allowed u (u.apply (.deleteDevice source)))
    {w : World} {env : Env} {request : Request} :
    RowStep id allowed w (after (deviceRenameView env request source) w) := by
  have closed : Closed (RowStep id _) := law.closed
  refine page_step closed (fun row found => ?_)
  have own : row.deviceId = source := Table.key_get? found
  subst own
  split
  · exact Upholds.pure closed _
  · dsimp only
    generalize pyStrip (QueryDict.get request.post "new_device_id" "") = newId
    split
    · exact Upholds.pure closed _
    · split
      · exact Upholds.pure closed _
      · split
        · exact Upholds.pure closed _
        · next other =>
          refine @Upholds.query _ _ _ _ _ _ (fun target : Option Device => ∀ t ∈ target, t.deviceId = newId) _
            (fun u t found => Table.key_get? found) (fun target named => ?_)
          cases target with
          | none =>
            refine Upholds.bind closed (Upholds.bind closed (upholds_transaction closed
              (fun w v _ => law.undone w v) ?_) (fun _ => law.refreshContinuousAggregates))
              (fun _ => Upholds.pure closed _)
            exact Upholds.bind closed (law.emit rfl) (fun _ => Upholds.bind closed
              (upholds_createDevice closed (fun u => create u _ other)) (fun _ =>
              Upholds.bind closed (law.emit rfl) (fun _ => upholds_emit delete)))
          | some target =>
            have apart : target.deviceId ≠ row.deviceId := fun same => other ((named target rfl).symm.trans same)
            dsimp only
            split
            · exact Upholds.bind closed (law.mergeDevices (fun at_ same => seen target at_ apart same) delete)
                (fun _ => Upholds.pure closed _)
            · exact Upholds.pure closed _

section Views
variable {w : World} {id : String} {row : Device} (known : w.device? id = some row) {env : Env}
  {request : Request}
include known

theorem edit_step : RowStep id (Once (saved ((EditForm.ofPost env request.post).edited row) editFields)) w
    (after (deviceEditView env request id) w) := by
  have law := @once_law (saved ((EditForm.ofPost env request.post).edited row) editFields)
    (fun r => by cases r <;> rfl)
  refine known_page_step law.closed known ?_
  split
  · exact Upholds.pure law.closed _
  · exact Upholds.bind law.closed (law.saveDevice (fun _ => rfl)) (fun _ => Upholds.pure law.closed _)

theorem approve_step : RowStep id (Once (saved { row with
      isApproved := decide (QueryDict.get request.post "action" "" = "approve") } [.isApproved])) w
    (after (deviceApproveView request id) w) := by
  have law := @once_law (saved { row with
    isApproved := decide (QueryDict.get request.post "action" "" = "approve") } [.isApproved])
    (fun r => by cases r <;> rfl)
  refine known_post_step law.closed known (Upholds.bind law.closed (Upholds.when law.closed (fun named => ?_))
    (fun _ => Upholds.bind law.closed (Upholds.when law.closed (fun named => ?_))
    (fun _ => Upholds.pure law.closed _)))
  · exact law.saveDevice (fun _ => by rw [named])
  · have other : decide (QueryDict.get request.post "action" "" = "approve") = false := by
      rw [of_decide_eq_true named]
      decide
    exact law.saveDevice (fun _ => by rw [other])

omit known in
theorem pushCalibration_step {command : Json} {key : String} {value : PyFloat} :
    Upholds (RowStep id (Once (saved { row with
      calibration := Dict.set row.calibration key (.float value) } [.calibration])))
      (pushCalibration env request row command key value) := by
  have law := @once_law (saved { row with
    calibration := Dict.set row.calibration key (.float value) } [.calibration]) (fun r => by cases r <;> rfl)
  have closed : Closed (RowStep id _) := law.closed
  refine Upholds.bind closed (Upholds.attempt (Upholds.bind closed law.mqttPublish
    (fun _ => law.addCommandLog))) (fun sent => ?_)
  split
  · exact Upholds.pure closed _
  · exact Upholds.bind closed (law.saveDevice (fun _ => rfl)) (fun _ => Upholds.pure closed _)

def calibrationSetting (env : Env) (post : QueryDict) : Option (String × PyFloat) :=
  let metric := pyStrip (QueryDict.get post "metric" "")
  if metric ∉ calibrationMetrics then none
  else (env.floatOfStr (QueryDict.get post "value" "0")).map (fun f => ("cal_" ++ metric, f.round 2))

def setCalibrationSetting (env : Env) (post : QueryDict) : Option (String × PyFloat) :=
  let key := pyStrip (QueryDict.get post "key" "")
  if !safeIdentifierRe key || decide (pyLen key > 64) then none
  else (env.floatOfStr (QueryDict.get post "value" "0")).map (fun f => (key, f.round 4))

def settingOp : Option (String × PyFloat) → RowOp
  | some (key, value) => .calibrate key (.float value)
  | none => .idle

def settingUpdate (read : Device) : Option (String × PyFloat) → Row → Row
  | some (key, value) => saved { read with
      calibration := Dict.set read.calibration key (.float value) } [.calibration]
  | none => fun r => r

omit known in
theorem setting_law (setting : Option (String × PyFloat)) :
    RowLaw (Once (settingUpdate row setting)) (fun d fields => saved d fields = settingUpdate row setting) := by
  refine once_law (fun r => ?_)
  cases setting with
  | none => rfl
  | some _ => cases r <;> rfl

theorem calibration_step : RowStep id (Once (settingUpdate row (calibrationSetting env request.post))) w
    (after (deviceCalibrationView env request id) w) := by
  have closed : Closed (RowStep id (Once (settingUpdate row (calibrationSetting env request.post)))) :=
    (setting_law _).closed
  refine known_post_step closed known ?_
  dsimp only
  split
  · exact Upholds.pure closed _
  · next metric =>
    split
    · exact Upholds.pure closed _
    · next f value =>
      have set : calibrationSetting env request.post =
          some ("cal_" ++ pyStrip (QueryDict.get request.post "metric" ""), f.round 2) := by
        unfold calibrationSetting
        rw [value]
        exact if_neg metric
      rw [set]
      exact pushCalibration_step

theorem setCalibration_step : RowStep id (Once (settingUpdate row (setCalibrationSetting env request.post))) w
    (after (deviceSetCalibrationView env request id) w) := by
  have closed : Closed (RowStep id (Once (settingUpdate row (setCalibrationSetting env request.post)))) :=
    (setting_law _).closed
  refine known_post_step closed known ?_
  dsimp only
  split
  · exact Upholds.pure closed _
  · next key =>
    split
    · exact Upholds.pure closed _
    · next f value =>
      have set : setCalibrationSetting env request.post =
          some (pyStrip (QueryDict.get request.post "key" ""), f.round 4) := by
        unfold setCalibrationSetting
        rw [value]
        exact if_neg key
      rw [set]
      exact pushCalibration_step

theorem delete_step : RowStep id (Once (fun _ => none)) w (after (deviceDeleteView env request id) w) := by
  have law := @once_law (fun _ => none) (fun _ => rfl)
  have closed : Closed (RowStep id _) := law.closed
  refine known_page_step closed known ?_
  split
  · refine Upholds.bind closed (upholds_transaction closed (fun w v _ => law.undone w v)
      (Upholds.bind closed (law.emit rfl) (fun _ => upholds_emit (fun w => ?_)))) (fun _ => Upholds.pure closed _)
    unfold RowStep
    rw [device?_deleteDevice, if_pos (Table.key_get? known).symm]
    exact .inr rfl
  · exact Upholds.pure closed _

end Views

theorem rename_step {w : World} {id : String} {env : Env} {request : Request} :
    RowStep id (Once (fun _ => none)) w (after (deviceRenameView env request id) w) := by
  refine (@once_law (fun _ => none) (fun _ => rfl)).renameView (fun u d other => ?_)
    (fun _ _ apart own => absurd own apart)
    (fun u => ?_)
  · exact .inl (Table.get?_insert_other other)
  · unfold RowStep
    rw [device?_deleteDevice, if_pos rfl]
    exact .inr rfl

def DeviceView.isQuiet : DeviceView → Bool
  | .edit | .approve | .calibration | .setCalibration | .delete | .rename => false
  | _ => true

theorem requestCapabilities_quiet {id : String} {env : Env} {device : Device} {sentBy : Option String}
    {logCommand : Bool} :
    Upholds (RowStep id Quietly) (requestCapabilities env device sentBy logCommand) :=
  upholds_requestCapabilities quietly_law.respected.toIssued trivial (fun _ => by decide)
    (fun _ => quietly_law.addCommandLog)

theorem requestBare_quiet {id : String} {env : Env} {device : Device} {name : String} :
    Upholds (RowStep id Quietly) (requestBare env device name) :=
  upholds_requestBare quietly_law.respected.toIssued trivial

theorem bareRequestView_quiet {id deviceId : String} {request : Request} {refuse : Device → Bool}
    {send : Device → Act Unit} (inside : ∀ device, Upholds (RowStep id Quietly) (send device)) :
    Upholds (RowStep id Quietly) (bareRequestView request deviceId refuse send) := by
  have closed : Closed (RowStep id _) := quietly_law.closed
  refine upholds_devicePost closed (fun device => ?_)
  split
  · exact Upholds.pure closed _
  · exact Upholds.bind closed (inside device) (fun _ => Upholds.pure closed _)

theorem deviceOtaPushView_quiet {id deviceId : String} {env : Env} {request : Request} :
    Upholds (RowStep id Quietly) (deviceOtaPushView env request deviceId) :=
  upholds_deviceOtaPushView quietly_law.closed (fun _ _ => quietly_law.mqttPublish)
    (fun _ _ => quietly_law.addCommandLog)

theorem deleteReadingsView_quiet {id deviceId : String} {env : Env} {request : Request} :
    Upholds (RowStep id Quietly) (deleteReadingsView env request deviceId) :=
  upholds_deleteReadingsView quietly_law.closed (fun w _ _ => quietly_law.spared rfl w)
    (fun w _ => quietly_law.spared rfl w)

theorem view_quiet {view : DeviceView} (quiet : view.isQuiet = true) {id deviceId : String} {env : Env}
    {request : Request} : Upholds (RowStep id Quietly) (view.run env request deviceId) := by
  have law := quietly_law
  have closed : Closed (RowStep id _) := law.closed
  cases view with
  | edit | approve | calibration | setCalibration | delete | rename => cases quiet
  | command =>
    refine upholds_devicePost closed (fun device => ?_)
    dsimp only
    split
    · exact Upholds.pure closed _
    · split
      · exact Upholds.fail closed _
      · exact law.publishAndRecord (Upholds.bind closed requestCapabilities_quiet (fun _ => Upholds.pure closed _))
  | setConfirmUplink =>
    refine upholds_devicePost closed (fun device => ?_)
    split
    · exact Upholds.pure closed _
    · exact law.publishAndRecord (Upholds.pure closed _)
  | requestCalibration => exact bareRequestView_quiet (fun _ => requestBare_quiet)
  | requestStatus => exact bareRequestView_quiet (fun _ => requestBare_quiet)
  | requestDiag => exact bareRequestView_quiet (fun _ => requestBare_quiet)
  | requestCapabilities =>
    exact bareRequestView_quiet (fun _ => Upholds.bind closed requestCapabilities_quiet
      (fun _ => requestBare_quiet))
  | otaPush => exact deviceOtaPushView_quiet
  | clearCommands =>
    exact upholds_devicePost closed (fun _ => Upholds.bind closed (law.emit rfl) (fun _ => Upholds.pure closed _))
  | deleteCommand number =>
    exact upholds_devicePost closed (fun _ => Upholds.bind closed (law.emit rfl) (fun _ => Upholds.pure closed _))
  | deleteReadings => exact deleteReadingsView_quiet

/-- The operations a request can be on the row of its page: idle where it is refused. -/
inductive ViewOp (env : Env) (request : Request) : DeviceView → RowOp → Prop where
  | idle (view : DeviceView) : ViewOp env request view .idle
  | edit : ViewOp env request .edit (.edit (EditForm.ofPost env request.post))
  | approve : ViewOp env request .approve
      (.approve (decide (QueryDict.get request.post "action" "" = "approve")))
  | calibration : ViewOp env request .calibration (settingOp (calibrationSetting env request.post))
  | setCalibration : ViewOp env request .setCalibration (settingOp (setCalibrationSetting env request.post))
  | delete : ViewOp env request .delete .remove
  | rename : ViewOp env request .rename .remove
  | quiet {view : DeviceView} (quiet : view.isQuiet = true) (saves bounded) :
      ViewOp env request view (.quiet saves bounded)

theorem exists_once {ops : RowOp → Prop} {op : RowOp} {update : Row → Row} {id : String} {row : Device}
    {w v : World} (known : w.device? id = some row) (writes : op.writes (some row) = [update])
    (step : RowStep id (Once update) w v) (idle : ops .idle) (own : ops op) :
    ∃ x, ops x ∧ v.device? id = exec x.writes (some row) := by
  unfold RowStep at step
  rw [known] at step
  rcases step.rowOp writes with refused | wrote
  · exact ⟨.idle, idle, refused⟩
  · exact ⟨op, own, wrote⟩

theorem exists_idle {ops : RowOp → Prop} {id : String} {row : Device} {w v : World}
    (known : w.device? id = some row) (step : RowStep id (Once (fun r => r)) w v) (idle : ops .idle) :
    ∃ x, ops x ∧ v.device? id = exec x.writes (some row) := by
  unfold RowStep at step
  rw [known] at step
  exact ⟨.idle, idle, step.elim (fun same => same) (fun same => same)⟩

theorem exists_setting {ops : RowOp → Prop} {setting : Option (String × PyFloat)} {id : String} {row : Device}
    {w v : World} (known : w.device? id = some row) (step : RowStep id (Once (settingUpdate row setting)) w v)
    (idle : ops .idle) (own : ops (settingOp setting)) :
    ∃ x, ops x ∧ v.device? id = exec x.writes (some row) := by
  cases setting with
  | none => exact exists_idle known step idle
  | some set => exact exists_once known rfl step idle own

/-- Every view of the device page is an operation of the race. -/
theorem view_rowOp {w : World} {id : String} {row : Device} (known : w.device? id = some row) (env : Env)
    (request : Request) (view : DeviceView) :
    ∃ x, ViewOp env request view x ∧
      (after (view.run env request id) w).device? id = exec x.writes (some row) := by
  by_cases quiet : view.isQuiet = true
  · have step := @view_quiet _ quiet id id env request w
    unfold RowStep at step
    rw [known] at step
    obtain ⟨saves, bounded, wrote⟩ := step.rowOp
    exact ⟨_, .quiet quiet saves bounded, wrote⟩
  · cases view with
    | edit => exact exists_once known rfl (edit_step known) (.idle _) .edit
    | approve => exact exists_once known rfl (approve_step known) (.idle _) .approve
    | calibration => exact exists_setting known (calibration_step known) (.idle _) .calibration
    | setCalibration => exact exists_setting known (setCalibration_step known) (.idle _) .setCalibration
    | delete =>
      exact exists_once known (rfl : RowOp.remove.writes (some row) = _) (delete_step known) (.idle _) .delete
    | rename => exact exists_once known (rfl : RowOp.remove.writes (some row) = _) rename_step (.idle _) .rename
    | _ => exact absurd rfl quiet

/-- Seen from the device it keeps, a merge saves quietly. -/
theorem merge_rowOp {w : World} {id source : String} {row : Device} (known : w.device? id = some row)
    (apart : source ≠ id) (env : Env) (request : Request) :
    ∃ saves bounded, (after (deviceRenameView env request source) w).device? id =
      exec (RowOp.quiet saves bounded).writes (some row) := by
  have step : RowStep id Quietly w (after (deviceRenameView env request source) w) := by
    refine quietly_law.renameView (fun _ _ _ => Quietly.created) (fun _ _ _ _ => by decide) (fun u => ?_)
    refine quietly_law.same ?_
    rw [device?_deleteDevice, if_neg (Ne.symm apart)]
  unfold RowStep at step
  rw [known] at step
  exact step.rowOp

inductive MessageOp (d : Delivery) : RowOp → Prop where
  | idle : MessageOp d .idle
  | capabilities {data : Fields} (kind : d.kind = .capabilities) (object : d.payload.object? = some data)
      (known : String → Bool) : MessageOp d (.capabilities known data)
  | report {data mirror : Fields} (kind : d.kind = .calibration) (object : d.payload.object? = some data)
      (read : calibrationMirror data = some mirror) : MessageOp d (.report mirror d.env.now)
  | legacyAck {data updates : Fields} (kind : d.kind = .ack) (object : d.payload.object? = some data)
      (read : legacyOffsets data ["temp", "humi", "press"] = some updates) : MessageOp d (.legacyAck updates)
  | quiet (kind : d.kind ∈ [.sensors, .status, .commands, .diag]) (saves bounded) :
      MessageOp d (.quiet saves bounded)

theorem heard_quiet {d : Delivery} {data : Fields} {device save : Device} {fields : List DeviceField}
    (h : heard d data device = some (save, fields)) (kind : d.kind ≠ .calibration) : Uncontended fields := by
  unfold heard at h
  cases sort : d.kind <;> rw [sort] at h kind <;> dsimp only at h
  · cases h
  · obtain ⟨level, -, same⟩ := Option.map_eq_some_iff.mp h
    cases same
    decide
  · cases h
  · cases h
    decide
  · exact absurd rfl kind
  · split at h
    · cases h
    · split at h
      · cases h
      · split at h
        · cases h
          decide
        · cases h
  · cases h

def legacyUpdate (read : Device) (data : Fields) : Row → Row :=
  match legacyOffsets data ["temp", "humi", "press"] with
  | some updates => saved { read with calibration := Dict.update read.calibration updates } [.calibration]
  | none => fun r => r

theorem legacy_law (row : Device) (data : Fields) :
    RowLaw (Once (legacyUpdate row data)) (fun d fields => saved d fields = legacyUpdate row data) := by
  refine once_law (fun r => ?_)
  unfold legacyUpdate
  cases legacyOffsets data ["temp", "humi", "press"] with
  | none => rfl
  | some updates => cases r <;> rfl

section Messages
variable {w : World} {d : Delivery} {row : Device} (known : w.device? d.deviceId = some row)
include known

theorem saveReport_row {save : Device} {fields : List DeviceField} (own : save.deviceId = d.deviceId) :
    (saveReport w (some (save, fields))).device? d.deviceId = some row ∨
      (saveReport w (some (save, fields))).device? d.deviceId = saved save fields (some row) := by
  rw [saveReport_some]
  split
  · rw [row_saveDevice, if_pos own, known]
    exact .inr rfl
  · exact .inl known

theorem sensors_rowOp (kind : d.kind = .sensors) :
    ∃ x, MessageOp d x ∧ (deliver w d).device? d.deviceId = exec x.writes (some row) := by
  have step : RowStep d.deviceId Quietly w (deliver w d) := by
    unfold deliver handleMessage
    rw [kind]
    refine upholds_handleSensorMessage quietly_law.respected (fun _ => Quietly.created) ?_ (fun _ _ => trivial)
      (fun _ _ => ⟨fun _ _ => trivial, trivial, trivial, trivial⟩) (fun _ _ => trivial) w
    intro save fields _ names _ f member
    have quiet : Uncontended sensorFields := by decide
    exact quiet f (names f member)
  unfold RowStep at step
  rw [known] at step
  obtain ⟨saves, bounded, wrote⟩ := step.rowOp
  exact ⟨_, .quiet (by simp [kind]) saves bounded, wrote⟩

theorem report_rowOp (kind : d.kind.isReport = true) :
    ∃ x, MessageOp d x ∧ (deliver w d).device? d.deviceId = exec x.writes (some row) := by
  have spec : (deliver w d).device? d.deviceId = (saveReport w (report w d)).device? d.deviceId := by
    unfold World.device?
    rw [(deliver_report kind).devices]
  rw [spec]
  cases saves : report w d with
  | none => exact ⟨.idle, .idle, known⟩
  | some pair =>
    obtain ⟨save, fields⟩ := pair
    obtain ⟨own, data, device, object, found, heard⟩ := report_saves saves
    cases Option.some.inj (known.symm.trans found)
    rcases @saveReport_row _ _ _ known _ fields own with refused | wrote
    · exact ⟨.idle, .idle, refused⟩
    · rw [wrote]
      by_cases calibration : d.kind = .calibration
      · unfold SensorServer.heard at heard
        rw [calibration] at heard
        obtain ⟨mirror, read, same⟩ := Option.map_eq_some_iff.mp heard
        cases same
        exact ⟨_, .report calibration object read, rfl⟩
      · have bounded := heard_quiet heard calibration
        have quiet : d.kind ∈ [.sensors, .status, .commands, .diag] := by
          cases sort : d.kind <;> rw [sort] at kind calibration <;> simp_all [MessageKind.isReport]
        exact ⟨_, .quiet quiet (fun _ => [(save, fields)])
          (fun _ s only f member => bounded f (by rwa [List.mem_singleton.mp only] at member)), rfl⟩

theorem capabilities_rowOp (kind : d.kind = .capabilities) :
    ∃ x, MessageOp d x ∧ (deliver w d).device? d.deviceId = exec x.writes (some row) := by
  have spec : (deliver w d).device? d.deviceId = (saveReport w (reported w d)).device? d.deviceId := by
    unfold World.device?
    rw [deliver_capabilities kind]
  rw [spec]
  unfold reported
  rw [known]
  cases object : d.payload.object? with
  | none => exact ⟨.idle, .idle, known⟩
  | some data =>
    have own : (applyCapabilities (fun code => (w.db.hardwareCodes.get? code).isSome) data row).deviceId =
        d.deviceId := deviceId_applyCapabilities.trans (Table.key_get? known)
    rcases @saveReport_row _ _ _ known _ capabilitiesFields own with refused | wrote
    · exact ⟨.idle, .idle, refused⟩
    · exact ⟨_, .capabilities kind object _, wrote⟩

theorem ack_step {data : Fields} (object : d.payload.object? = some data) :
    RowStep d.deviceId (Once (legacyUpdate row data)) w (after (ackLookup d.deviceId d.payload) w) := by
  have law := legacy_law row data
  have closed : Closed (RowStep d.deviceId _) := law.closed
  unfold ackLookup
  rw [after, withObject_object _ _ object, withDevice_known _ _ known]
  refine (?_ : Upholds _ _) w
  dsimp only
  split
  · refine Upholds.bind closed ?_ (fun _ => Upholds.pure closed _)
    unfold legacyCalibration
    split
    · exact Upholds.fail closed _
    · next updates read =>
      split
      · exact Upholds.pure closed _
      · exact law.saveDevice (fun _ => by rw [legacyUpdate, read])
  · split
    · exact Upholds.pure closed _
    · exact Upholds.bind closed (Upholds.read closed _) (fun _ => Upholds.pure closed _)

theorem ack_rowOp (kind : d.kind = .ack) :
    ∃ x, MessageOp d x ∧ (deliver w d).device? d.deviceId = exec x.writes (some row) := by
  unfold deliver handleMessage
  rw [kind]
  dsimp only [handleAckMessage]
  have marked : ∀ {allowed saves}, (law : RowLaw allowed saves) → ∀ target,
      Upholds (RowStep d.deviceId allowed) (ackUpdate d.env target) := by
    intro allowed saves law target
    cases target with
    | none => exact Upholds.pure law.closed _
    | some m => exact upholds_markCommand law.closed (law.spared rfl)
  cases object : d.payload.object? with
  | none =>
    have law := @once_law (fun r => r) (fun _ => rfl)
    have looked : after (ackLookup d.deviceId d.payload) w = w := after_withObject_none _ _ object w
    have step := @Upholds.rest _ _ _ _ _ law.closed (ackLookup d.deviceId d.payload) _ (marked law) w
    rw [looked] at step
    exact exists_idle known step .idle
  | some data =>
    have law := legacy_law row data
    have step := law.closed.trans (ack_step known object) (Upholds.rest law.closed (marked law) w)
    unfold legacyUpdate at step
    cases read : legacyOffsets data ["temp", "humi", "press"] with
    | none =>
      rw [read] at step
      exact exists_idle known step .idle
    | some updates =>
      rw [read] at step
      exact exists_once known rfl step .idle (.legacyAck kind object read)

/-- Every handler is an operation of the race. -/
theorem deliver_rowOp : ∃ x, MessageOp d x ∧ (deliver w d).device? d.deviceId = exec x.writes (some row) := by
  cases kind : d.kind with
  | sensors => exact sensors_rowOp known kind
  | capabilities => exact capabilities_rowOp known kind
  | ack => exact ack_rowOp known kind
  | status | commands | calibration | diag => exact report_rowOp known (by rw [kind]; rfl)

end Messages

end SensorServer
