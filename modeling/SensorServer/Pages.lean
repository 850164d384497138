import SensorServer.Lib.JsonText
import SensorServer.DeviceViews
import SensorServer.ReadingViews

/-! The history and admin pages of a device beside the overview, and the state of the
database in which what their inline scripts embed stays inside the script. -/
namespace SensorServer
open Program JsonText

/-- `_prev_next_device` -/
def prevNextDevice (db : Db) (deviceId : String) : Option (String × String) :=
  let ids := (approvedDevices db).map Device.deviceId
  if ids.contains deviceId then
    let idx := ids.idxOf deviceId
    let previous := if idx = 0 then ids.getLastD deviceId else ids.getD (idx - 1) deviceId
    some (previous, ids.getD ((idx + 1) % ids.length) deviceId)
  else none

/-- `_get_device_metrics` -/
def getDeviceMetrics (db : Db) (device : Device) : List String :=
  let metrics := OrderBy.distinct
    ((db.readings.filter (fun r => r.deviceId = device.deviceId)).map SensorReading.metric)
  if metrics.isEmpty then (device.capabilities.metrics.getD []).insertionSort (· ≤ ·) else metrics

def diagLogLimit : Nat := 30

def latestDiagLogs (db : Db) (deviceId : String) : List DeviceDiagLog :=
  (OrderBy.descending DeviceDiagLog.time (db.diagLogs.filter (fun l => l.device = deviceId))).take diagLogLimit

def mergeUnits (units : List (String × String)) (display : List (String × String × String)) :
    List (String × String × String) :=
  display.map fun entry => match Dict.get? units entry.1 with
    | some unit => if unit = "" then entry else (entry.1, entry.2.1, unit)
    | none => entry

structure HistoryPage where
  device : Device
  metrics : List String
  units : List (String × String)
  metricsDisplay : List (String × String × String)
  isAdmin : Bool
  diagLogs : List DeviceDiagLog
  neighbours : Option (String × String)

structure CalibrationMetric where
  key : String
  label : String
  unit : String
  offset : Json

structure BatDivider where
  value : Option Json
  nominal : Option PyFloat

structure AdminPage where
  device : Device
  commands : List CommandLog
  commandParams : List (String × List Param)
  neighbours : Option (String × String)
  hasOffsetCalibration : Bool
  hasSetCalibration : Bool
  calibrationMetrics : List CalibrationMetric
  batDivider : Option BatDivider
  calibrationMirror : Fields
  otaFirmwares : List Firmware
  diagLogs : List DeviceDiagLog
  confirmUplinkOn : Bool

inductive SitePage where
  | answer (r : Response)
  | history (p : HistoryPage)
  | admin (p : AdminPage)

/-- `role_required` before a page. -/
def pageRequired (minimum : Role) (request : Request) (view : Act SitePage) : Act SitePage :=
  if !request.user.isAuthenticated then pure (.answer .login)
  else if request.user.isSuperuser then view
  else if !request.user.hasRole minimum then pure (.answer .forbidden)
  else view

def deviceHistoryView (request : Request) (deviceId : String) : Act SitePage :=
  pageRequired .guest request do
    let w ← read id
    match w.device? deviceId with
    | none => pure (.answer .notFound)
    | some device =>
      if !device.isApproved then pure (.answer .notFound)
      else
        let residentPlus := request.user.isSuperuser || request.user.hasRole .resident
        let isAdmin := request.user.isSuperuser || request.user.hasRole .admin
        let reported := getDeviceMetrics w.db device
        let metrics := if residentPlus then reported else reported.filter device.guestVisibleMetrics.contains
        let units := device.capabilities.units.getD []
        pure (.history {
          device := device, metrics := metrics, units := units
          metricsDisplay := mergeUnits units (metricsDisplayMap metrics)
          isAdmin := isAdmin
          diagLogs := if isAdmin then latestDiagLogs w.db deviceId else []
          neighbours := prevNextDevice w.db deviceId })

/-- CALIBRATION_METRICS -/
def calibrationTable : List (String × String × String) :=
  [("temp", "Temperature", "°C"), ("humi", "Humidity", "%"), ("press", "Pressure", "hPa")]

def nominalDivider (db : Db) (device : Device) : Option PyFloat :=
  match device.hardwareCode, device.hwRev with
  | some code, some rev => (db.hardwareRevisions.get? (code, rev)).bind HardwareRevision.batDividerNominal
  | _, _ => none

def deviceAdminView (request : Request) (deviceId : String) : Act SitePage :=
  pageRequired .admin request do
    let w ← read id
    match w.device? deviceId with
    | none => pure (.answer .notFound)
    | some device =>
      let commands := device.capabilities.commands.getD []
      let hasOffset := commands.contains "set_offset"
      let hasSet := commands.contains "set_calibration"
      let mirror := device.calibration
      let diagLogs := latestDiagLogs w.db deviceId
      pure (.admin {
        device := device
        commands := (OrderBy.descending CommandLog.sentAt
          (w.db.commandLogs.rows.filter (fun c => c.device = deviceId))).take 20
        commandParams := device.capabilities.commandParams.getD []
        neighbours := prevNextDevice w.db deviceId
        hasOffsetCalibration := hasOffset
        hasSetCalibration := hasSet
        calibrationMetrics := if hasOffset then calibrationTable.map (fun m =>
          { key := m.1, label := m.2.1, unit := m.2.2,
            offset := (Dict.get? mirror ("cal_" ++ m.1)).getD (.float (.finite 0)) }) else []
        batDivider := if hasSet then
          some ⟨Dict.get? mirror "bat_divider", nominalDivider w.db device⟩ else none
        calibrationMirror := mirror
        otaFirmwares := if device.otaCapable then compatibleFirmwares w.db device else []
        diagLogs := diagLogs
        confirmUplinkOn := match diagLogs with
          | [] => false
          | newest :: _ => newest.txsent.isSome })

inductive PageView where
  | history (deviceId : String)
  | admin (deviceId : String)
  | overview

def PageView.run (request : Request) : PageView → Act SitePage
  | .history deviceId => deviceHistoryView request deviceId
  | .admin deviceId => deviceAdminView request deviceId
  | .overview => do
    let response ← overviewView request
    pure (.answer response)

def textDict (fields : List (String × String)) : Doc := .obj (fields.map (fun kv => (kv.1, .str kv.2)))

def metricsDisplayDoc (display : List (String × String × String)) : Doc :=
  .obj (display.map (fun e => (e.1, textDict [("label", e.2.1), ("unit", e.2.2)])))

def commandParamsDoc (table : List (String × List Param)) : Doc :=
  .obj (table.map (fun kv => (kv.1, .arr (kv.2.map (fun p => textDict [("name", p.name), ("type", p.type)])))))

/-- units_json, metrics_display_json and command_params_json, which the templates mark safe. -/
def SitePage.scripts : SitePage → List String
  | .history p => [(textDict p.units).dumps, (metricsDisplayDoc p.metricsDisplay).dumps]
  | .admin p => [(commandParamsDoc p.commandParams).dumps]
  | .answer (.overview _ _ units display) => [(textDict units).dumps, (metricsDisplayDoc display).dumps]
  | .answer _ => []

def embedded (w : World) (view : PageView) (request : Request) : List String :=
  match (outcome (view.run request) w).1 with
  | .ok page => page.scripts
  | .error _ => []

/-- No page that anybody opens ends its script early or hides its end. -/
def Contained (w : World) : Prop :=
  ∀ view request, ∀ text ∈ embedded w view request, closesScript text = false

theorem closesScript_name {s : String} (named : safeIdentifierRe s = true) : closesScript s = false := by
  apply not_closesScript
  exact not_mem_of_matchesClass named (by decide) (by decide)

structure Device.Named (d : Device) : Prop where
  metrics : ∀ m ∈ d.capabilities.metrics.getD [], safeIdentifierRe m = true
  units : ∀ kv ∈ d.capabilities.units.getD [], safeIdentifierRe kv.1 = true
  params : ∀ kv ∈ d.capabilities.commandParams.getD [], safeIdentifierRe kv.1 = true ∧
    ∀ p ∈ kv.2, p.type ∈ ["number", "string", "boolean"]

/-- The names in the capabilities and the readings are such as the handlers let in. -/
structure Named (w : World) : Prop where
  devices : ∀ id row, w.device? id = some row → row.Named
  readings : ∀ r ∈ w.db.readings, safeIdentifierRe r.metric = true

/-- No parameter name closes a script, and no unit does once the device is approved. -/
def Device.harmless (d : Device) : Bool :=
  (d.capabilities.commandParams.getD []).all (fun kv => kv.2.all (fun p => !closesScript p.name)) &&
    (!d.isApproved || (d.capabilities.units.getD []).all (fun kv => !closesScript kv.2))

theorem closesScript_textDict {fields : List (String × String)} :
    closesScript (textDict fields).dumps = true ↔
      ∃ kv ∈ fields, closesScript kv.1 = true ∨ closesScript kv.2 = true := by
  simp only [textDict, closesScript_obj, List.mem_map, exists_exists_and_eq_and, closesScript_str]

theorem closesScript_metricsDisplay {display : List (String × String × String)} :
    closesScript (metricsDisplayDoc display).dumps = true ↔ ∃ e ∈ display,
      closesScript e.1 = true ∨ closesScript e.2.1 = true ∨ closesScript e.2.2 = true := by
  have labels : closesScript "label" = false ∧ closesScript "unit" = false := by decide
  simp only [metricsDisplayDoc, closesScript_obj, List.mem_map, exists_exists_and_eq_and, closesScript_textDict,
    List.exists_mem_cons_iff, List.not_mem_nil, false_and, exists_false, or_false, labels, Bool.false_eq_true,
    false_or]

theorem closesScript_commandParams {table : List (String × List Param)} :
    closesScript (commandParamsDoc table).dumps = true ↔ ∃ kv ∈ table,
      closesScript kv.1 = true ∨ ∃ p ∈ kv.2, closesScript p.name = true ∨ closesScript p.type = true := by
  have keys : closesScript "name" = false ∧ closesScript "type" = false := by decide
  simp only [commandParamsDoc, closesScript_obj, List.mem_map, exists_exists_and_eq_and, closesScript_arr,
    closesScript_textDict, List.exists_mem_cons_iff, List.not_mem_nil, false_and, exists_false, or_false, keys,
    Bool.false_eq_true, false_or]

theorem metricsDisplayMap_harmless {metrics : List String} (named : ∀ m ∈ metrics, safeIdentifierRe m = true) :
    ∀ e ∈ metricsDisplayMap metrics,
      closesScript e.1 = false ∧ closesScript e.2.1 = false ∧ closesScript e.2.2 = false := by
  intro e listed
  obtain ⟨m, member, rfl⟩ := List.mem_map.mp listed
  have name := closesScript_name (named m member)
  refine ⟨name, ?_⟩
  cases found : metricDisplay.lookup m with
  | none => exact ⟨name, rfl⟩
  | some entry =>
    have registry : ∀ e ∈ metricDisplay, closesScript e.2.1 = false ∧ closesScript e.2.2 = false := by decide
    exact registry (m, entry) (mem_of_lookup found)

theorem mergeUnits_harmless {units : List (String × String)} {display : List (String × String × String)}
    (harmless : ∀ kv ∈ units, closesScript kv.2 = false)
    (own : ∀ e ∈ display, closesScript e.1 = false ∧ closesScript e.2.1 = false ∧ closesScript e.2.2 = false) :
    closesScript (metricsDisplayDoc (mergeUnits units display)).dumps = false := by
  rw [Bool.eq_false_iff, Ne, closesScript_metricsDisplay]
  rintro ⟨e, listed, closes⟩
  obtain ⟨entry, member, rfl⟩ := List.mem_map.mp listed
  obtain ⟨name, label, unit⟩ := own entry member
  revert closes
  split
  · next unit' found =>
    have merged := harmless (entry.1, unit') (mem_of_lookup found)
    split <;> simp_all
  · simp [name, label, unit]

theorem textDict_harmless {units : List (String × String)}
    (named : ∀ kv ∈ units, safeIdentifierRe kv.1 = true) (harmless : ∀ kv ∈ units, closesScript kv.2 = false) :
    closesScript (textDict units).dumps = false := by
  rw [Bool.eq_false_iff, Ne, closesScript_textDict]
  rintro ⟨kv, listed, closes | closes⟩
  · rw [closesScript_name (named kv listed)] at closes
    cases closes
  · rw [harmless kv listed] at closes
    cases closes

theorem unitTexts_harmless {units : List (String × String)} {metrics : List String}
    (named : ∀ kv ∈ units, safeIdentifierRe kv.1 = true) (harmless : ∀ kv ∈ units, closesScript kv.2 = false)
    (names : ∀ m ∈ metrics, safeIdentifierRe m = true) :
    ∀ text ∈ [(textDict units).dumps, (metricsDisplayDoc (mergeUnits units (metricsDisplayMap metrics))).dumps],
      closesScript text = false := by
  intro text member
  rcases List.mem_cons.mp member with rfl | second
  · exact textDict_harmless named harmless
  · rw [List.mem_singleton.mp second]
    exact mergeUnits_harmless harmless (metricsDisplayMap_harmless names)

theorem pageRequired_eq (minimum : Role) (request : Request) (view : Act SitePage) :
    pageRequired minimum request view = if request.user.may minimum then view
      else pure (.answer (if request.user.isAuthenticated then .forbidden else .login)) := by
  unfold pageRequired User.may
  cases request.user.isAuthenticated <;> cases request.user.isSuperuser <;>
    cases request.user.hasRole minimum <;> rfl

theorem embedded_refused {w : World} {view : PageView} {request : Request} {minimum : Role} {page : Act SitePage}
    (run : view.run request = pageRequired minimum request page) (may : request.user.may minimum = false) :
    embedded w view request = [] := by
  unfold embedded
  rw [run, pageRequired_eq, may]
  cases request.user.isAuthenticated <;> rfl

section Embedded
variable {w : World} {id : String} {row : Device} (known : w.device? id = some row)
include known

theorem embedded_admin (request : Request) (admin : request.user.may .admin = true) :
    embedded w (.admin id) request = [(commandParamsDoc (row.capabilities.commandParams.getD [])).dumps] := by
  unfold embedded PageView.run deviceAdminView
  dsimp only
  rw [pageRequired_eq, if_pos admin, outcome_bind, outcome_read]
  dsimp only [id_eq]
  rw [known]
  rfl

theorem embedded_history (request : Request) (guest : request.user.may .guest = true)
    (approved : row.isApproved = true) : ∃ metrics, (∀ m ∈ metrics, m ∈ getDeviceMetrics w.db row) ∧
      embedded w (.history id) request = [(textDict (row.capabilities.units.getD [])).dumps,
        (metricsDisplayDoc (mergeUnits (row.capabilities.units.getD []) (metricsDisplayMap metrics))).dumps] := by
  unfold embedded PageView.run deviceHistoryView
  dsimp only
  rw [pageRequired_eq, if_pos guest, outcome_bind, outcome_read]
  dsimp only [id_eq]
  rw [known]
  dsimp only
  rw [approved]
  refine ⟨_, ?_, rfl⟩
  intro m member
  split at member
  · exact member
  · exact List.mem_of_mem_filter member

end Embedded

theorem embedded_admin_unknown {w : World} {id : String} (unknown : w.device? id = none) (request : Request) :
    embedded w (.admin id) request = [] := by
  cases may : request.user.may .admin with
  | false => exact embedded_refused rfl may
  | true =>
    unfold embedded PageView.run deviceAdminView
    dsimp only
    rw [pageRequired_eq, if_pos may, outcome_bind, outcome_read]
    dsimp only [id_eq]
    rw [unknown]
    rfl

theorem embedded_history_hidden {w : World} {id : String}
    (hidden : ∀ row, w.device? id = some row → row.isApproved = false) (request : Request) :
    embedded w (.history id) request = [] := by
  cases may : request.user.may .guest with
  | false => exact embedded_refused rfl may
  | true =>
    unfold embedded PageView.run deviceHistoryView
    dsimp only
    rw [pageRequired_eq, if_pos may, outcome_bind, outcome_read]
    dsimp only [id_eq]
    cases known : w.device? id with
    | none => rfl
    | some row =>
      dsimp only
      rw [hidden row known]
      rfl

theorem embedded_overview {w : World} (request : Request) (guest : request.user.may .guest = true) :
    embedded w .overview request = [(textDict (mergedUnits (approvedDevices w.db))).dumps,
      (metricsDisplayDoc (mergeUnits (mergedUnits (approvedDevices w.db))
        (metricsDisplayMap ((metricsDevices w.db request.user.guestOnly).map Prod.fst)))).dumps] := by
  unfold embedded PageView.run overviewView
  dsimp only
  rw [roleRequired_eq, if_pos guest]
  rfl

theorem embedded_overview_refused {w : World} {request : Request} (may : request.user.may .guest = false) :
    embedded w .overview request = [] := by
  unfold embedded PageView.run overviewView
  dsimp only
  rw [roleRequired_eq, may]
  cases request.user.isAuthenticated <;> rfl

theorem mem_mergedUnits {devices : List Device} {kv : String × String} (merged : kv ∈ mergedUnits devices) :
    ∃ d ∈ devices, kv ∈ d.capabilities.units.getD [] := by
  unfold mergedUnits at merged
  rw [← List.mem_flatMap]
  generalize devices.flatMap (fun d => d.capabilities.units.getD []) = all at merged ⊢
  have known : ∀ (seen : List (String × String)), kv ∈ all.foldl
      (fun units kv => if (Dict.get? units kv.1).isSome then units else units ++ [kv]) seen →
      kv ∈ seen ∨ kv ∈ all := by
    clear merged
    induction all with
    | nil => exact fun seen member => .inl member
    | cons first rest ih =>
      intro seen member
      rw [List.foldl_cons] at member
      rcases ih _ member with earlier | later
      · split at earlier
        · exact .inl earlier
        · rcases List.mem_append.mp earlier with old | new
          · exact .inl old
          · exact .inr (List.mem_singleton.mp new ▸ List.mem_cons_self)
      · exact .inr (List.mem_cons_of_mem _ later)
  exact (known [] merged).resolve_left List.not_mem_nil

theorem mem_getDeviceMetrics {db : Db} {device : Device} {m : String} (member : m ∈ getDeviceMetrics db device) :
    (∃ r ∈ db.readings, r.metric = m) ∨ m ∈ device.capabilities.metrics.getD [] := by
  unfold getDeviceMetrics at member
  dsimp only at member
  split at member
  · exact .inr ((List.mem_insertionSort _).mp member)
  · obtain ⟨r, stored, same⟩ := List.mem_map.mp (OrderBy.mem_distinct.mp member)
    exact .inl ⟨r, List.mem_of_mem_filter stored, same⟩

theorem mem_metricsDevices {db : Db} {guestOnly : Bool} {m : String}
    (member : m ∈ (metricsDevices db guestOnly).map Prod.fst) : ∃ r ∈ db.readings, r.metric = m := by
  obtain ⟨entry, listed, rfl⟩ := List.mem_map.mp member
  unfold metricsDevices at listed
  obtain ⟨metric, reported, same⟩ := List.mem_filterMap.mp listed
  dsimp only at same
  split at same
  · cases same
  · cases same
    obtain ⟨r, stored, same⟩ := List.mem_map.mp (OrderBy.mem_distinct.mp reported)
    exact ⟨r, List.mem_of_mem_filter stored, same⟩

theorem mem_approvedDevices {w : World} {row : Device} (listed : row ∈ approvedDevices w.db) :
    w.device? row.deviceId = some row ∧ row.isApproved = true := by
  unfold approvedDevices at listed
  rw [List.mem_insertionSort, List.mem_filter] at listed
  exact ⟨Table.get?_eq_some.mpr ⟨listed.1, rfl⟩, listed.2⟩

theorem harmless_iff {row : Device} : row.harmless = true ↔
    (∀ kv ∈ row.capabilities.commandParams.getD [], ∀ p ∈ kv.2, closesScript p.name = false) ∧
      (row.isApproved = true → ∀ kv ∈ row.capabilities.units.getD [], closesScript kv.2 = false) := by
  unfold Device.harmless
  cases row.isApproved <;> simp

theorem harmless_of_contained {w : World} (contained : Contained w) {id : String} {row : Device}
    (known : w.device? id = some row) : row.harmless = true := by
  let root : Request := { user := { username := "", isSuperuser := true } }
  rw [harmless_iff]
  constructor
  · intro kv listed p given
    have text := contained (.admin id) root
    rw [embedded_admin known root rfl] at text
    have safe := text _ List.mem_cons_self
    by_contra closes
    rw [Bool.not_eq_false] at closes
    rw [closesScript_commandParams.mpr ⟨kv, listed, .inr ⟨p, given, .inl closes⟩⟩] at safe
    cases safe
  · intro approved kv listed
    obtain ⟨metrics, -, embeds⟩ := embedded_history known root rfl approved
    have text := contained (.history id) root
    rw [embeds] at text
    have safe := text _ List.mem_cons_self
    by_contra closes
    rw [Bool.not_eq_false] at closes
    rw [closesScript_textDict.mpr ⟨kv, listed, .inr closes⟩] at safe
    cases safe

section Harmless
variable {w : World} (named : Named w) (harmless : ∀ id row, w.device? id = some row → row.harmless = true)
include named harmless

theorem admin_contained (id : String) (request : Request) :
    ∀ text ∈ embedded w (.admin id) request, closesScript text = false := by
  intro text member
  cases known : w.device? id with
  | none =>
    rw [embedded_admin_unknown known] at member
    cases member
  | some row =>
    cases may : request.user.may .admin with
    | false =>
      rw [embedded_refused rfl may] at member
      cases member
    | true =>
      rw [embedded_admin known request may, List.mem_singleton] at member
      rw [member, Bool.eq_false_iff, Ne, closesScript_commandParams]
      have params := (named.devices id row known).params
      rintro ⟨kv, listed, closes | ⟨p, given, closes | closes⟩⟩
      · rw [closesScript_name (params kv listed).1] at closes
        cases closes
      · rw [(harmless_iff.mp (harmless id row known)).1 kv listed p given] at closes
        cases closes
      · have types : ∀ t ∈ ["number", "string", "boolean"], closesScript t = false := by decide
        rw [types p.type ((params kv listed).2 p given)] at closes
        cases closes

theorem history_contained (id : String) (request : Request) :
    ∀ text ∈ embedded w (.history id) request, closesScript text = false := by
  intro text member
  by_cases shown : request.user.may .guest = true ∧ ∃ row, w.device? id = some row ∧ row.isApproved = true
  · obtain ⟨guest, row, known, approved⟩ := shown
    have units := (harmless_iff.mp (harmless id row known)).2 approved
    obtain ⟨metrics, reported, embeds⟩ := embedded_history known request guest approved
    rw [embeds] at member
    have names : ∀ m ∈ metrics, safeIdentifierRe m = true := by
      intro m listed
      rcases mem_getDeviceMetrics (reported m listed) with ⟨r, stored, rfl⟩ | sent
      · exact named.readings r stored
      · exact (named.devices id row known).metrics m sent
    exact unitTexts_harmless (named.devices id row known).units units names text member
  · rw [not_and] at shown
    cases may : request.user.may .guest with
    | false =>
      rw [embedded_refused rfl may] at member
      cases member
    | true =>
      rw [embedded_history_hidden (fun row known => by
        simpa using fun approved => shown may ⟨row, known, approved⟩)] at member
      cases member

theorem overview_contained (request : Request) :
    ∀ text ∈ embedded w .overview request, closesScript text = false := by
  intro text member
  cases may : request.user.may .guest with
  | false =>
    rw [embedded_overview_refused may] at member
    cases member
  | true =>
    rw [embedded_overview request may] at member
    refine unitTexts_harmless (fun kv merged => ?_) (fun kv merged => ?_) (fun m listed => ?_) text member
    · obtain ⟨row, listed, own⟩ := mem_mergedUnits merged
      exact (named.devices _ row (mem_approvedDevices listed).1).units kv own
    · obtain ⟨row, listed, own⟩ := mem_mergedUnits merged
      obtain ⟨known, approved⟩ := mem_approvedDevices listed
      exact (harmless_iff.mp (harmless _ row known)).2 approved kv own
    · obtain ⟨r, stored, rfl⟩ := mem_metricsDevices listed
      exact named.readings r stored

end Harmless

theorem contained_iff {w : World} (named : Named w) :
    Contained w ↔ ∀ id row, w.device? id = some row → row.harmless = true := by
  constructor
  · intro contained id row known
    exact harmless_of_contained contained known
  · intro harmless view request
    cases view with
    | admin id => exact admin_contained named harmless id request
    | history id => exact history_contained named harmless id request
    | overview => exact overview_contained named harmless request

end SensorServer
