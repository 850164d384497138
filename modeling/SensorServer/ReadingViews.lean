import SensorServer.Web
import SensorServer.Rollups
import Mathlib.Data.String.Basic

/-! The views of readings/views.py. -/
namespace SensorServer
open Program

/-- The instant the ORM compares with: a naive time is local time. -/
def Stamp.ormInstant (env : Env) (s : Stamp) : Time :=
  match s.offset with
  | some offset => s.clock - offset
  | none => env.inTimeZone s.clock

/-- The instant raw SQL compares with: a naive time is read in the session's UTC. -/
def Stamp.sqlInstant (s : Stamp) : Time := s.clock - s.offset.getD 0

/-- `stop - start`; none is the TypeError of a naive and an aware time. -/
def Stamp.span (start stop : Stamp) : Option Time :=
  match start.offset, stop.offset with
  | none, none => some (stop.clock - start.clock)
  | some a, some b => some ((stop.clock - b) - (start.clock - a))
  | _, _ => none

theorem Stamp.span_eq {start stop : Stamp} {span : Time} (length : start.span stop = some span) :
    span = stop.sqlInstant - start.sqlInstant := by
  obtain ⟨a, first⟩ := start
  obtain ⟨b, second⟩ := stop
  unfold Stamp.span at length
  cases first <;> cases second <;> cases length <;> simp [Stamp.sqlInstant]

/-- PRESETS -/
def presets : List (String × Time) :=
  [("1h", seconds 3600), ("6h", seconds 21600), ("1d", seconds 86400), ("7d", seconds 604800),
   ("1m", seconds 2592000), ("2m", seconds 5184000), ("3m", seconds 7776000), ("1y", seconds 31536000)]

/-- _parse_time_range; none is the ValueError of an impossible date. -/
def parseTimeRange (env : Env) (query : QueryDict) : Option (Stamp × Stamp) :=
  match presets.lookup (QueryDict.get query "preset" "") with
  | some length => some (⟨env.now - length, some 0⟩, ⟨env.now, some 0⟩)
  | none =>
    match env.parseDatetime (QueryDict.get query "start" ""),
        env.parseDatetime (QueryDict.get query "end" "") with
    | .invalid, _ | _, .invalid => none
    | .stamp start, .stamp stop => some (start, stop)
    | _, _ => some (⟨env.now - seconds 86400, some 0⟩, ⟨env.now, some 0⟩)

def withTimeRange (env : Env) (query : QueryDict) (view : Stamp → Stamp → Act Response) : Act Response :=
  match parseTimeRange env query with
  | none => fail .valueError
  | some (start, stop) => view start stop

def metricDisplay : List (String × String × String) :=
  [("temperature", "Temperature", "°C"), ("humidity", "Humidity", "%"), ("pressure", "Pressure", "hPa"),
   ("uv_index", "UV index", ""), ("lux", "Luminosity", "lx"), ("rssi", "RSSI", "dBm"),
   ("bat_percent", "Battery", "%"), ("bat_voltage", "Cell voltage", "V")]

def metricsDisplayMap (metrics : List String) : List (String × String × String) :=
  metrics.map (fun metric => (metric, (metricDisplay.lookup metric).getD (metric, "")))

/-- `(device.capabilities or {}).get("units", {}).get(metric, "")` -/
def Device.unitOf (d : Device) (metric : String) : String :=
  (Dict.get? (d.capabilities.units.getD []) metric).getD ""

/-- `device.battery_cell_count or 1` -/
def Device.cells (d : Device) : Nat := if d.batteryCellCount = 0 then 1 else d.batteryCellCount

def perCell (cells : Nat) (voltage : PyFloat) : PyFloat := (voltage.divNat cells).round 2

def Series.perCell (cells : Nat) (s : Series) : Series :=
  if cells > 1 then { s with values := s.values.map (SensorServer.perCell cells) } else s

def sourceFor (span : Time) : Rollup := if span ≤ seconds 7776000 then .hourly else .daily

/-- _fetch_readings; none is the TypeError of a naive and an aware time. -/
def fetchReadings (env : Env) (db : Db) (deviceId metric : String) (start stop : Stamp) : Option Series :=
  (start.span stop).map fun span =>
    if span ≤ seconds 172800 then
      let rows := OrderBy.ascending SensorReading.time (db.readings.filter (fun r =>
        decide (r.deviceId = deviceId) && decide (r.metric = metric) &&
        (decide (start.ormInstant env ≤ r.time) && decide (r.time ≤ stop.ormInstant env))))
      ⟨rows.map SensorReading.time, rows.map SensorReading.value⟩
    else
      let rows := OrderBy.ascending RollupRow.bucket ((rollupRows db (sourceFor span)).filter (fun r =>
        decide (r.deviceId = deviceId) && decide (r.metric = metric) &&
        (decide (start.sqlInstant ≤ r.bucket) && decide (r.bucket ≤ stop.sqlInstant))))
      ⟨rows.map RollupRow.bucket, rows.map (fun r => r.avgValue.round 2)⟩

def getApprovedOr404 (deviceId : String) (view : Device → Act Response) : Act Response :=
  getDeviceOr404 deviceId fun device => if device.isApproved then view device else pure .notFound

def chartDataView (env : Env) (request : Request) (deviceId : String) : Act Response :=
  roleRequired .guest request <|
  getApprovedOr404 deviceId fun device =>
    let metric := QueryDict.get request.query "metric" "temperature"
    if request.user.guestOnly && !device.guestVisibleMetrics.contains metric then
      pure (.jsonError 403 "forbidden")
    else withTimeRange env request.query fun start stop => do
      let points ← read (fun w => fetchReadings env w.db deviceId metric start stop)
      match points with
      | none => fail .typeError
      | some points =>
        let points := if metric = "bat_voltage" then points.perCell device.cells else points
        pure (.chart points metric deviceId (device.unitOf metric))

/-- The rows of the overview chart by device, each in order of time. -/
def overviewSeries (env : Env) (db : Db) (deviceIds : List String) (metric : String)
    (start stop : Stamp) : Option (List (String × Series)) :=
  (start.span stop).map fun span =>
    if span ≤ seconds 172800 then
      let rows := db.readings.filter (fun r =>
        deviceIds.contains r.deviceId && decide (r.metric = metric) &&
        (decide (start.ormInstant env ≤ r.time) && decide (r.time ≤ stop.ormInstant env)))
      (OrderBy.distinct (rows.map SensorReading.deviceId)).map fun deviceId =>
        let own := OrderBy.ascending SensorReading.time (rows.filter (fun r => r.deviceId = deviceId))
        (deviceId, ⟨own.map SensorReading.time, own.map SensorReading.value⟩)
    else
      let rows := (rollupRows db (sourceFor span)).filter (fun r =>
        deviceIds.contains r.deviceId && decide (r.metric = metric) &&
        (decide (start.sqlInstant ≤ r.bucket) && decide (r.bucket ≤ stop.sqlInstant)))
      (OrderBy.distinct (rows.map RollupRow.deviceId)).map fun deviceId =>
        let own := OrderBy.ascending RollupRow.bucket (rows.filter (fun r => r.deviceId = deviceId))
        (deviceId, ⟨own.map RollupRow.bucket, own.map (fun r => r.avgValue.round 2)⟩)

def wantedDevices (query : QueryDict) : List String :=
  (pySplit ',' (QueryDict.get query "devices" "")).filter (· ≠ "")

def firstUnit (w : World) (deviceIds : List String) (metric : String) : String :=
  ((deviceIds.filterMap w.device?).map (fun d => d.unitOf metric)).find? (· ≠ "") |>.getD ""

/-- `cell_counts.get(did, 1) or 1` -/
def cellsOf (w : World) (deviceId : String) : Nat := ((w.device? deviceId).map Device.cells).getD 1

def overviewChartDataView (env : Env) (request : Request) : Act Response :=
  roleRequired .guest request <|
  let metric := QueryDict.get request.query "metric" ""
  let deviceIds := wantedDevices request.query
  if metric = "" ∨ deviceIds = [] then pure (.charts metric "" [])
  else withTimeRange env request.query fun start stop => do
    let series ← read (fun w => overviewSeries env w.db deviceIds metric start stop)
    match series with
    | none => fail .typeError
    | some series => do
      let cells ← read cellsOf
      let series := if metric = "bat_voltage" then
        series.map (fun s => (s.1, s.2.perCell (cells s.1))) else series
      let unit ← read (fun w => firstUnit w deviceIds metric)
      pure (.charts metric unit series)

theorem outcome_chartDataView {env : Env} {request : Request} {w : World} {device : Device} {deviceId : String}
    {start stop : Stamp} {points : Series} (admitted : request.user.may .guest = true)
    (known : w.device? deviceId = some device) (approved : device.isApproved = true)
    (shown : (request.user.guestOnly &&
      !device.guestVisibleMetrics.contains (QueryDict.get request.query "metric" "temperature")) = false)
    (range : parseTimeRange env request.query = some (start, stop))
    (found : fetchReadings env w.db deviceId (QueryDict.get request.query "metric" "temperature") start stop =
      some points) :
    outcome (chartDataView env request deviceId) w =
      (.ok (.chart (if QueryDict.get request.query "metric" "temperature" = "bat_voltage" then
          points.perCell device.cells else points)
        (QueryDict.get request.query "metric" "temperature") deviceId
        (device.unitOf (QueryDict.get request.query "metric" "temperature"))), w) := by
  unfold chartDataView getApprovedOr404 getDeviceOr404 withTimeRange
  rw [roleRequired_eq, if_pos admitted, outcome_bind_ok (outcome_read _ w), known]
  dsimp only
  rw [if_pos approved, shown, if_neg Bool.false_ne_true, range]
  dsimp only
  rw [outcome_bind_ok (outcome_read _ w), found]
  rfl

def perCellSeries (w : World) (metric : String) (series : List (String × Series)) : List (String × Series) :=
  if metric = "bat_voltage" then series.map (fun s => (s.1, s.2.perCell (cellsOf w s.1))) else series

theorem outcome_overviewChartDataView {env : Env} {request : Request} {w : World} {start stop : Stamp}
    {series : List (String × Series)} (admitted : request.user.may .guest = true)
    (named : QueryDict.get request.query "metric" "" ≠ "") (asked : wantedDevices request.query ≠ [])
    (range : parseTimeRange env request.query = some (start, stop))
    (found : overviewSeries env w.db (wantedDevices request.query) (QueryDict.get request.query "metric" "")
      start stop = some series) :
    outcome (overviewChartDataView env request) w =
      (.ok (.charts (QueryDict.get request.query "metric" "")
        (firstUnit w (wantedDevices request.query) (QueryDict.get request.query "metric" ""))
        (perCellSeries w (QueryDict.get request.query "metric" "") series)), w) := by
  have both : ¬ (QueryDict.get request.query "metric" "" = "" ∨ wantedDevices request.query = []) :=
    not_or.mpr ⟨named, asked⟩
  unfold overviewChartDataView
  rw [roleRequired_eq, if_pos admitted]
  dsimp only
  rw [if_neg both]
  unfold withTimeRange
  rw [range]
  dsimp only
  rw [outcome_bind_ok (outcome_read _ w), found]
  rfl

def approvedDevices (db : Db) : List Device :=
  (db.devices.rows.filter Device.isApproved).insertionSort (fun a b => a.deviceId ≤ b.deviceId)

def latestValue (readings : List SensorReading) (deviceId metric : String) : Option PyFloat :=
  ((OrderBy.descending SensorReading.time (readings.filter (fun r =>
    decide (r.deviceId = deviceId) && decide (r.metric = metric)))).head?).map SensorReading.value

/-- SELECT DISTINCT ON (device_id, metric) ... ORDER BY device_id, metric, time DESC, of one device. -/
def latestReadings (readings : List SensorReading) (deviceId : String) : List (String × PyFloat) :=
  (OrderBy.distinct ((readings.filter (fun r => r.deviceId = deviceId)).map SensorReading.metric)).filterMap
    fun metric => (latestValue readings deviceId metric).map (fun v => (metric, v.round 1))

/-- The body of the loop of _annotate_devices_with_metrics. -/
def annotate (db : Db) (guestOnly : Bool) (device : Device) : Card :=
  let allMetrics := latestReadings db.readings device.deviceId
  let allMetrics := if guestOnly then
    allMetrics.filter (fun kv => device.guestVisibleMetrics.contains kv.1) else allMetrics
  ⟨device, if device.cells > 1 then
    allMetrics.map (fun kv => if kv.1 = "bat_voltage" then (kv.1, perCell device.cells kv.2) else kv)
    else allMetrics⟩

def computeAverages (cards : List Card) : List (String × List (String × PyFloat)) :=
  ["indoor", "outdoor"].filterMap fun group =>
    let values := (cards.filter (fun c => c.device.locationType = group)).flatMap Card.latestMetrics
    let averages := (values.map Prod.fst).eraseDups.map fun metric =>
      let column := (values.filter (fun kv => kv.1 = metric)).map Prod.snd
      (metric, ((PyFloat.sum column).divNat column.length).round 1)
    if averages.isEmpty then none else some (group, averages)

def annotateDevices (db : Db) (guestOnly : Bool) : List Card :=
  (approvedDevices db).map (annotate db guestOnly)

def dashboardView (request : Request) : Act Response :=
  roleRequired .guest request do
    let cards ← read (fun w => annotateDevices w.db request.user.guestOnly)
    let allMetrics := (cards.flatMap (fun c => c.latestMetrics.map Prod.fst)).eraseDups
    let cellCounts := (cards.filter (fun c => decide (c.device.cells > 1))).map
      (fun c => (c.device.deviceId, c.device.cells))
    pure (.cards "readings/dashboard.html" cards (computeAverages cards)
      (metricsDisplayMap allMetrics) cellCounts)

def dashboardCardsView (request : Request) : Act Response :=
  roleRequired .guest request do
    let cards ← read (fun w => annotateDevices w.db request.user.guestOnly)
    pure (.cards "readings/_dashboard_cards.html" cards (computeAverages cards) [] [])

def metricsDevices (db : Db) (guestOnly : Bool) : List (String × List String) :=
  let devices := approvedDevices db
  let reported := db.readings.filter (fun r => (devices.map Device.deviceId).contains r.deviceId)
  (OrderBy.distinct (reported.map SensorReading.metric)).filterMap fun metric =>
    let listed := devices.filter (fun d =>
      db.readings.any (fun r => decide (r.deviceId = d.deviceId) && decide (r.metric = metric)) &&
      (!guestOnly || d.guestVisibleMetrics.contains metric))
    if listed.isEmpty then none else some (metric, listed.map Device.deviceId)

def mergedUnits (devices : List Device) : List (String × String) :=
  (devices.flatMap (fun d => d.capabilities.units.getD [])).foldl
    (fun units kv => if (Dict.get? units kv.1).isSome then units else units ++ [kv]) []

def overviewView (request : Request) : Act Response :=
  roleRequired .guest request do
    let devices ← read (fun w => approvedDevices w.db)
    let listed ← read (fun w => metricsDevices w.db request.user.guestOnly)
    let units := mergedUnits devices
    let display := (metricsDisplayMap (listed.map Prod.fst)).map fun entry =>
      match Dict.get? units entry.1 with
      | some unit => if unit = "" then entry else (entry.1, entry.2.1, unit)
      | none => entry
    pure (.overview listed (devices.map (fun d => (d.deviceId, d.effectiveName))) units display)

def LiveReadingsConsumer.connects (user : User) : Bool :=
  user.isAuthenticated && (user.isSuperuser || user.role.isSome)

/-- The consumer's handlers send every event of the group on to its client. -/
def LiveReadingsConsumer.sent (user : User) (events : List ChannelEvent) : List ChannelEvent :=
  if LiveReadingsConsumer.connects user then events else []

structure Deletion where
  deviceId : String
  metric : String
  start : Stamp
  stop : Stamp
  deriving DecidableEq

def Deletion.selects (env : Env) (d : Deletion) (r : SensorReading) : Bool :=
  decide (r.deviceId = d.deviceId) && decide (d.start.ormInstant env ≤ r.time) &&
  decide (r.time ≤ d.stop.ormInstant env) && (decide (d.metric = "") || decide (r.metric = d.metric))

def deleteSelected (env : Env) (d : Deletion) : Act Response := do
  let count ← read (fun w => (w.db.readings.filter (d.selects env)).length)
  if count = 0 then pure (.deleted 0)
  else do
    emit (.deleteReadings (d.selects env))
    refreshWindow env .hourly d.start.sqlInstant d.stop.sqlInstant
    refreshWindow env .daily d.start.sqlInstant d.stop.sqlInstant
    pure (.deleted count)

def deleteReadingsView (env : Env) (request : Request) (deviceId : String) : Act Response :=
  roleRequired .admin request <|
  getDeviceOr404 deviceId fun _ =>
    if !request.isPost then pure (.jsonError 405 "POST required")
    else
      let metric := pyStrip (QueryDict.get request.post "metric" "")
      match env.parseDatetime (QueryDict.get request.post "start" ""),
          env.parseDatetime (QueryDict.get request.post "end" "") with
      | .invalid, _ | _, .invalid => fail .valueError
      | .stamp start, .stamp stop =>
        match start.span stop with
        | none => fail .typeError
        | some span =>
          if span ≤ 0 then pure (.jsonError 400 "Invalid time range.")
          else deleteSelected env ⟨deviceId, metric, start, stop⟩
      | _, _ => pure (.jsonError 400 "Invalid time range.")

theorem upholds_deleteReadingsView {R : World → World → Prop} (closed : Closed R)
    (set : ∀ w view rows, R w (w.apply (.setRollup view rows)))
    (delete : ∀ w which, R w (w.apply (.deleteReadings which))) {env : Env} {request : Request}
    {deviceId : String} :
    Upholds R (deleteReadingsView env request deviceId) := by
  refine upholds_roleRequired closed (fun _ => upholds_getDeviceOr404 closed (fun device => ?_))
  split
  · exact Upholds.pure closed _
  · dsimp only
    split
    · exact Upholds.fail closed _
    · exact Upholds.fail closed _
    · split
      · exact Upholds.fail closed _
      · split
        · exact Upholds.pure closed _
        · refine Upholds.bind closed (Upholds.read closed _) (fun count => ?_)
          split
          · exact Upholds.pure closed _
          · exact Upholds.bind closed (upholds_emit (fun w => delete w _)) (fun _ =>
              Upholds.bind closed (upholds_refreshWindow closed set _ _ _) (fun _ =>
              Upholds.bind closed (upholds_refreshWindow closed set _ _ _) (fun _ => Upholds.pure closed _)))
    · exact Upholds.pure closed _

end SensorServer
