import SensorServer.Batches
import SensorServer.Pages

/-! The names of metrics on both sides: capabilities keeps the name a device declares,
the readings go under the name the alias table gives it. -/
namespace SensorServer
open Program

def keptUnit (entry : String × Json) : Option (String × String) :=
  match entry.2 with
  | .str unit =>
    if safeIdentifierRe entry.1 && decide (pyLen unit ≤ 16) && decide (unit ≠ "") then some (entry.1, unit) else none
  | _ => none

theorem metricUnits_eq (metrics : Fields) : metricUnits metrics = metrics.filterMap keptUnit := rfl

theorem keptUnit_eq_some {name unit : String} {kept : String × String}
    (keeps : keptUnit (name, .str unit) = some kept) : safeIdentifierRe name = true ∧ kept = (name, unit) := by
  unfold keptUnit at keeps
  dsimp only at keeps
  split at keeps
  · next valid =>
    simp only [Bool.and_eq_true] at valid
    exact ⟨valid.1.1, (Option.some.inj keeps).symm⟩
  · cases keeps

theorem mem_keptUnit {entry : String × Json} {kept : String × String} (keeps : keptUnit entry = some kept) :
    kept.1 = entry.1 := by
  unfold keptUnit at keeps
  split at keeps
  · split at keeps
    · rw [← Option.some.inj keeps]
    · cases keeps
  · cases keeps

theorem get?_metricUnits {metrics : Fields} {entry : String × Json} {kept : String × String}
    (dict : (Dict.keys metrics).Nodup) (member : entry ∈ metrics) (keeps : keptUnit entry = some kept) :
    Dict.get? (metricUnits metrics) kept.1 = some kept.2 := by
  rw [metricUnits_eq]
  unfold Dict.get? Dict.keys at *
  induction metrics with
  | nil => cases member
  | cons first rest ih =>
    obtain ⟨fresh, dict⟩ := List.nodup_cons.mp dict
    rcases List.mem_cons.mp member with rfl | later
    · rw [List.filterMap_cons_some keeps, List.lookup_cons_self]
    · have distinct : kept.1 ≠ first.1 := by
        rw [mem_keptUnit keeps]
        exact fun same => fresh (same ▸ List.mem_map_of_mem later)
      cases other : keptUnit first with
      | none =>
        rw [List.filterMap_cons_none other]
        exact ih dict later
      | some pair =>
        have skip : (kept.1 == pair.1) = false := by
          rw [mem_keptUnit other]
          simpa using distinct
        rw [List.filterMap_cons_some other, List.lookup_cons, skip]
        exact ih dict later

/-- The capabilities message is stored with its table of metrics. -/
structure Declared (w : World) (c : Delivery) (metrics : Fields) (device : Device) : Prop where
  kind : c.kind = .capabilities
  stored : ∃ data row, c.payload.object? = some data ∧ w.device? c.deviceId = some row ∧
    Dict.get? data "metrics" = some (.obj metrics) ∧
    capabilitiesFields.all (reportedDevice w data row).accepts = true
  dict : (Dict.keys metrics).Nodup
  known : (deliver w c).device? c.deviceId = some device

structure Heard (w : World) (s : Delivery) (device : Device) (data : Fields) : Prop where
  kind : s.kind = .sensors
  object : s.payload.object? = some data
  known : w.device? s.deviceId = some device
  stores : storesReadings w s.env device data = true

/-- A metric declared under the name is the metric a reading sent under it becomes, with its
unit, and it is the one offered to guests before any reading. -/
def SameName (name : String) : Prop :=
  ∀ (w : World) (c s : Delivery) (metrics data : Fields) (device : Device) (unit : String) (value : Json)
    (kept : String × String) (reading : SensorReading),
    Declared w c metrics device → Heard (deliver w c) s device data → s.deviceId = c.deviceId →
    (name, .str unit) ∈ metrics → keptUnit (name, .str unit) = some kept →
    (name, value) ∈ data → takenReading s.env s.deviceId (name, value) = some reading →
    reading ∈ (deliver (deliver w c) s).db.readings ∧ reading.metric = kept.1 ∧
      device.unitOf reading.metric = unit ∧
      ((∀ r ∈ (deliver w c).db.readings, r.deviceId ≠ device.deviceId) →
        reading.metric ∈ getDeviceMetrics (deliver w c).db device)

theorem Declared.capabilities {w : World} {c : Delivery} {metrics : Fields} {device : Device}
    (declared : Declared w c metrics device) :
    device.capabilities.metrics = some (metricNames metrics) ∧
      device.capabilities.units = some (metricUnits metrics) := by
  obtain ⟨data, row, object, known, table, accepts⟩ := declared.stored
  have devices := deliver_capabilities (w := w) declared.kind
  have named : (reportedDevice w data row).deviceId = c.deviceId :=
    deviceId_applyCapabilities.trans (Table.key_get? known)
  have report_ : reported w c = some (reportedDevice w data row, capabilitiesFields) := by
    unfold reported
    rw [object, known]
    rfl
  rw [report_, saveReport_some, if_pos accepts] at devices
  have found := declared.known
  unfold KeepsDevices at devices
  unfold World.device? at found
  rw [devices] at found
  change (w.apply (.saveDevice (reportedDevice w data row) capabilitiesFields)).device? c.deviceId =
    some device at found
  rw [device?_saved known (named.trans (Table.key_get? known).symm)] at found
  have column : device.capabilities = (reportedDevice w data row).capabilities := by
    rw [← Option.some.inj found, Device.capabilities_copyFields, if_pos (by decide)]
  have applied : (reportedDevice w data row).capabilities =
      applyCmds data (applyMetrics data row.capabilities) := by
    unfold reportedDevice applyCapabilities
    dsimp only
    split <;> rfl
  rw [column, applied]
  unfold applyCmds applyMetrics
  rw [table]
  split <;> exact ⟨rfl, rfl⟩

theorem mem_getDeviceMetrics_declared {db : Db} {device : Device} {names : List String} {name : String}
    (fresh : ∀ r ∈ db.readings, r.deviceId ≠ device.deviceId)
    (declared : device.capabilities.metrics = some names) (member : name ∈ names) :
    name ∈ getDeviceMetrics db device := by
  have none_ : db.readings.filter (fun r => decide (r.deviceId = device.deviceId)) = [] := by
    rw [List.filter_eq_nil_iff]
    exact fun r stored => by simpa using fresh r stored
  unfold getDeviceMetrics
  rw [none_, declared]
  exact (List.mem_insertionSort _).mpr member

theorem sameName_of_canonical {name : String} (canonical : metricAliases.lookup name = none) : SameName name := by
  intro w c s metrics data device unit value kept reading declared heard own entry keeps sent taken
  obtain ⟨safe, rfl⟩ := keptUnit_eq_some keeps
  have metric : reading.metric = name := by
    unfold takenReading at taken
    split at taken
    · split at taken
      · rw [← Option.some.inj taken]
        simp [resolveAlias, canonical]
      · cases taken
      · cases taken
    · cases taken
  obtain ⟨names, units⟩ := declared.capabilities
  refine ⟨?_, metric, ?_, fun fresh => ?_⟩
  · rw [readings_sensors heard.kind heard.object heard.known, if_pos heard.stores, acceptedReadings_eq]
    exact List.mem_append_right _ (List.mem_filterMap.mpr ⟨_, sent, taken⟩)
  · unfold Device.unitOf
    rw [metric, units]
    exact congrArg (Option.getD · "") (get?_metricUnits declared.dict entry keeps)
  · rw [metric]
    refine mem_getDeviceMetrics_declared fresh names (List.mem_filter.mpr ⟨?_, safe⟩)
    exact List.mem_map_of_mem entry

def declaredUnit (name : String) : Fields := [(name, .str "u")]

def sentOne (name : String) : Fields := [(name, .float (.finite 1))]

def declaration (name : String) : Delivery :=
  terraceMessage .capabilities [("metrics", .obj (declaredUnit name))]

def declaredTerrace (name : String) : Device :=
  { terraceDevice with capabilities := { metrics := some [name], units := some [(name, "u")] } }

theorem declared_terrace : ∀ entry ∈ metricAliases,
    (deliver terrace (declaration entry.1)).device? "terrace01" = some (declaredTerrace entry.1) ∧
    capabilitiesFields.all
        (reportedDevice terrace [("metrics", .obj (declaredUnit entry.1))] terraceDevice).accepts =
      true ∧
    storesReadings (deliver terrace (declaration entry.1)) { now := seconds 30 } (declaredTerrace entry.1)
      (sentOne entry.1) = true ∧
    keptUnit (entry.1, .str "u") = some (entry.1, "u") ∧
    takenReading { now := seconds 30 } "terrace01" (entry.1, .float (.finite 1)) =
      some ⟨seconds 30, "terrace01", entry.2, .finite 1⟩ ∧
    entry.2 ≠ entry.1 := by decide

theorem alias_renamed : ∀ entry ∈ metricAliases, ¬ SameName entry.1 := by
  intro entry member same
  obtain ⟨known, accepts, stores, keeps, takes_, renamed⟩ := declared_terrace entry member
  have found : terrace.device? "terrace01" = some terraceDevice := by decide
  have declared : Declared terrace (declaration entry.1) (declaredUnit entry.1) (declaredTerrace entry.1) :=
    ⟨rfl, ⟨_, terraceDevice, rfl, found, rfl, accepts⟩, List.nodup_singleton _, known⟩
  have heard : Heard (deliver terrace (declaration entry.1)) (terraceMessage .sensors (sentOne entry.1))
      (declaredTerrace entry.1) (sentOne entry.1) := ⟨rfl, rfl, known, stores⟩
  obtain ⟨-, metric, -⟩ := same terrace (declaration entry.1) (terraceMessage .sensors (sentOne entry.1))
    (declaredUnit entry.1) (sentOne entry.1) (declaredTerrace entry.1) "u"
      (.float (.finite 1)) _ _ declared heard rfl
    (List.mem_singleton.mpr rfl) keeps (List.mem_singleton.mpr rfl) takes_
  exact renamed metric

/-- What the alias table names, it does not rename. -/
theorem sameName_of_target {entry : String × String} (listed : entry ∈ metricAliases) : SameName entry.2 := by
  have final : ∀ e ∈ metricAliases, metricAliases.lookup e.2 = none := by decide
  exact sameName_of_canonical (final entry listed)

example : (deliver (deliver terrace (declaration "temperature"))
      (terraceMessage .sensors (sentOne "temperature"))).db.readings.map SensorReading.metric = ["temperature"] ∧
    (declaredTerrace "temperature").unitOf "temperature" = "u" := by decide

/-- Both sides name a metric alike exactly if the alias table does not rename it. -/
theorem same_name_iff {name : String} : SameName name ↔ metricAliases.lookup name = none := by
  refine ⟨fun same => ?_, sameName_of_canonical⟩
  cases found : metricAliases.lookup name with
  | none => rfl
  | some canonical =>
    exact absurd same (alias_renamed (name, canonical) (mem_of_lookup found))

/-- The unit declared for the short name is not found under the canonical one. -/
theorem temp_renamed :
    ((deliver (deliver terrace (declaration "temp")) (terraceMessage .sensors (sentOne "temp"))).db.readings.map
      SensorReading.metric = ["temperature"] ∧ (declaredTerrace "temp").unitOf "temperature" = "") ∧
    ¬ SameName "temp" := by
  refine ⟨by decide, ?_⟩
  exact alias_renamed ("temp", "temperature") (by decide)

end SensorServer
