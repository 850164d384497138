import SensorServer.Batches
import SensorServer.ReadingViews
import SensorServer.Lib.Grouping

/-! One reading in several views: the chart of one device, the chart of several and the
card of the dashboard (readings/views.py). -/
namespace SensorServer
open Program

def Series.append (s : Series) (point : Time × PyFloat) : Series :=
  ⟨s.times ++ [point.1], s.values ++ [point.2]⟩

/-- The rows of the query, ORDER BY device_id and time. -/
def overviewRows (env : Env) (db : Db) (deviceIds : List String) (metric : String)
    (start stop : Stamp) : Option (List (String × Time × PyFloat)) :=
  (start.span stop).map fun span =>
    if span ≤ seconds 172800 then
      (OrderBy.lexicographic (fun r => toLex (r.deviceId, r.time)) (db.readings.filter (fun r =>
        deviceIds.contains r.deviceId && decide (r.metric = metric) &&
        (decide (start.ormInstant env ≤ r.time) && decide (r.time ≤ stop.ormInstant env))))).map
          fun r => (r.deviceId, r.time, r.value)
    else
      (OrderBy.lexicographic (fun r => toLex (r.deviceId, r.bucket)) ((rollupRows db (sourceFor span)).filter
        (fun r => deviceIds.contains r.deviceId && decide (r.metric = metric) &&
        (decide (start.sqlInstant ≤ r.bucket) && decide (r.bucket ≤ stop.sqlInstant))))).map
          fun r => (r.deviceId, r.bucket, r.avgValue.round 2)

/-- `series[did]["times"].append(t)` and `series[did]["values"].append(v)` -/
def groupedSeries (rows : List (String × Time × PyFloat)) : List (String × Series) :=
  Grouping.collect ⟨[], []⟩ Series.append rows

theorem foldl_append (points : List (Time × PyFloat)) (s : Series) :
    points.foldl Series.append s = ⟨s.times ++ points.map Prod.fst, s.values ++ points.map Prod.snd⟩ := by
  induction points generalizing s with
  | nil => simp
  | cons point points ih => simp [ih, Series.append]

section Grouped
variable {env : Env} {db : Db} {deviceIds : List String} {metric : String} {start stop : Stamp}

/-- The series by device are what the loop leaves of the ordered rows. -/
theorem overviewSeries_eq_grouped :
    overviewSeries env db deviceIds metric start stop =
      (overviewRows env db deviceIds metric start stop).map groupedSeries := by
  unfold overviewSeries overviewRows
  rw [Option.map_map]
  refine congrArg (Option.map · _) (funext fun span => ?_)
  simp only [Function.comp_apply, groupedSeries]
  split
  · rw [Grouping.collect_lexicographic]
    simp [foldl_append, Function.comp_def]
  · rw [Grouping.collect_lexicographic]
    simp [foldl_append, Function.comp_def]

theorem getD_lookup_distinct {ρ : Type} {key : ρ → String} {time : ρ → Int} {value : ρ → PyFloat}
    (rows : List ρ) (k : String) :
    (((OrderBy.distinct (rows.map key)).map (fun k =>
        (k, Series.mk ((OrderBy.ascending time (rows.filter (fun r => key r = k))).map time)
          ((OrderBy.ascending time (rows.filter (fun r => key r = k))).map value)))).lookup k).getD ⟨[], []⟩ =
      ⟨(OrderBy.ascending time (rows.filter (fun r => key r = k))).map time,
        (OrderBy.ascending time (rows.filter (fun r => key r = k))).map value⟩ := by
  rw [lookup_tabulate]
  split
  · rfl
  · next absent =>
    have none_ : rows.filter (fun r => key r = k) = [] := by
      rw [List.filter_eq_nil_iff]
      intro r member same
      exact absent (OrderBy.mem_distinct.mpr (List.mem_map.mpr ⟨r, member, by simpa using same⟩))
    rw [none_]
    rfl

theorem filter_own {ρ : Type} {key : ρ → String} {p q : ρ → Bool} {rows : List ρ} {deviceId : String}
    (listed : deviceId ∈ deviceIds) :
    (rows.filter (fun r => deviceIds.contains (key r) && p r && q r)).filter (fun r => key r = deviceId) =
      rows.filter (fun r => decide (key r = deviceId) && p r && q r) := by
  rw [List.filter_filter]
  refine List.filter_congr (fun r _ => ?_)
  by_cases same : key r = deviceId <;> simp [same, listed]

theorem listed_of_distinct {ρ : Type} {key : ρ → String} {p q : ρ → Bool} {rows : List ρ} {deviceId : String}
    (present : deviceId ∈ OrderBy.distinct
      ((rows.filter (fun r => deviceIds.contains (key r) && p r && q r)).map key)) : deviceId ∈ deviceIds := by
  obtain ⟨r, member, rfl⟩ := List.mem_map.mp (OrderBy.mem_distinct.mp present)
  have chosen := (List.mem_filter.mp member).2
  simp only [Bool.and_eq_true] at chosen
  exact List.contains_iff_mem.mp chosen.1.1

theorem series_eq_points {deviceId : String} (listed : deviceId ∈ deviceIds) :
    (overviewSeries env db deviceIds metric start stop).map
        (fun series => (series.lookup deviceId).getD ⟨[], []⟩) =
      fetchReadings env db deviceId metric start stop := by
  unfold overviewSeries fetchReadings
  rw [Option.map_map]
  refine congrArg (Option.map · _) (funext fun span => ?_)
  simp only [Function.comp_apply]
  split
  · rw [getD_lookup_distinct, filter_own listed]
  · rw [getD_lookup_distinct, filter_own listed]

end Grouped

/-- No stored row has an empty metric. -/
def NamedMetrics (db : Db) : Prop :=
  (∀ r ∈ db.readings, r.metric ≠ "") ∧ ∀ view, ∀ row ∈ rollupRows db view, row.metric ≠ ""

theorem named_of_taken {env : Env} {deviceId : String} {entry : String × Json} {r : SensorReading}
    (taken : takenReading env deviceId entry = some r) : r.metric ≠ "" := by
  unfold takenReading at taken
  split at taken
  · next valid =>
    split at taken
    · next value read =>
      rw [← Option.some.inj taken]
      intro empty
      dsimp only at empty
      have alias_ : ∀ pair ∈ metricAliases, pair.2 ≠ "" := by decide
      cases found : metricAliases.lookup entry.1 with
      | none =>
        rw [resolveAlias, found, Option.getD_none] at empty
        rw [empty] at valid
        exact absurd valid (by decide)
      | some canonical =>
        rw [resolveAlias, found, Option.getD_some] at empty
        exact alias_ _ (mem_of_lookup found) empty
    · cases taken
    · cases taken
  · cases taken

theorem User.resident_views {u : User} (resident : u.may .resident = true) :
    u.may .guest = true ∧ u.guestOnly = false := by
  unfold User.may User.hasRole at *
  unfold User.guestOnly User.hasRole
  cases role : u.role with
  | none => simp_all
  | some r => cases r <;> simp_all [Role.rank]

theorem filter_unnamed {ρ : Type} {rows : List ρ} {metric : ρ → String} (named : ∀ r ∈ rows, metric r ≠ "")
    (own inside : ρ → Bool) : rows.filter (fun r => own r && decide (metric r = "") && inside r) = [] := by
  rw [List.filter_eq_nil_iff]
  intro r member
  simp [named r member]

theorem fetchReadings_unnamed {env : Env} {db : Db} {deviceId : String} {start stop : Stamp} {points : Series}
    (named : NamedMetrics db) (found : fetchReadings env db deviceId "" start stop = some points) :
    points = ⟨[], []⟩ := by
  unfold fetchReadings at found
  obtain ⟨span, -, rfl⟩ := Option.map_eq_some_iff.mp found
  split
  · rw [filter_unnamed named.1]
    rfl
  · rw [filter_unnamed (named.2 _)]
    rfl

theorem lookup_perCellSeries {w : World} {device : Device} {deviceId metric : String}
    (known : w.device? deviceId = some device) (series : List (String × Series)) :
    ((perCellSeries w metric series).lookup deviceId).getD ⟨[], []⟩ =
      if metric = "bat_voltage" then ((series.lookup deviceId).getD ⟨[], []⟩).perCell device.cells
      else (series.lookup deviceId).getD ⟨[], []⟩ := by
  have cells : cellsOf w deviceId = device.cells := by rw [cellsOf, known]; rfl
  unfold perCellSeries
  split
  · rw [lookup_map_snd (fun id (s : Series) => s.perCell (cellsOf w id)), cells]
    cases series.lookup deviceId with
    | none =>
      unfold Series.perCell
      split <;> rfl
    | some s => rfl
  · rfl

/-- For a resident the chart of several devices shows of each what the chart of that device shows. -/
theorem charts_agree {env : Env} {single several : Request} {w : World} {device : Device}
    {deviceId metric : String} {start stop : Stamp} (resident : single.user.may .resident = true)
    (user : several.user = single.user) (known : w.device? deviceId = some device)
    (approved : device.isApproved = true) (listed : deviceId ∈ wantedDevices several.query)
    (one : QueryDict.get single.query "metric" "temperature" = metric)
    (same : QueryDict.get several.query "metric" "" = metric)
    (window : parseTimeRange env single.query = some (start, stop))
    (sameWindow : parseTimeRange env several.query = some (start, stop))
    (aware : start.offset.isSome = true ∧ stop.offset.isSome = true)
    (named : metric = "" → NamedMetrics w.db) :
    ∃ points unit series units,
      outcome (chartDataView env single deviceId) w = (.ok (.chart points metric deviceId unit), w) ∧
      outcome (overviewChartDataView env several) w = (.ok (.charts metric units series), w) ∧
      (series.lookup deviceId).getD ⟨[], []⟩ = points := by
  subst one
  obtain ⟨admitted, all⟩ := User.resident_views resident
  obtain ⟨points, found⟩ : ∃ points, fetchReadings env w.db deviceId
      (QueryDict.get single.query "metric" "temperature") start stop = some points := by
    obtain ⟨a, first⟩ := Option.isSome_iff_exists.mp aware.1
    obtain ⟨b, second⟩ := Option.isSome_iff_exists.mp aware.2
    unfold fetchReadings Stamp.span
    rw [first, second]
    exact ⟨_, rfl⟩
  have chart := outcome_chartDataView admitted known approved (by rw [all]; rfl) window found
  generalize metric : QueryDict.get single.query "metric" "temperature" = m at *
  by_cases empty : m = ""
  · have none_ : outcome (overviewChartDataView env several) w = (.ok (.charts m "" []), w) := by
      unfold overviewChartDataView
      rw [roleRequired_eq, user, if_pos admitted]
      dsimp only
      rw [same, if_pos (.inl empty)]
      rfl
    refine ⟨_, _, _, _, chart, none_, ?_⟩
    subst empty
    rw [fetchReadings_unnamed (named rfl) found]
    rfl
  · have agree := @series_eq_points env w.db _ m start stop _ listed
    rw [found] at agree
    obtain ⟨series, grouped, lookup⟩ := Option.map_eq_some_iff.mp agree
    subst same
    have charts := outcome_overviewChartDataView (user ▸ admitted) empty (List.ne_nil_of_mem listed) sameWindow
      grouped
    refine ⟨_, _, _, _, chart, charts, ?_⟩
    rw [lookup_perCellSeries known, lookup]

def caravan : Device :=
  { deviceId := "caravan01", createdAt := 0, isApproved := true, batteryCellCount := 2 }

/-- Two cells at 7.44 V. -/
def caravanWorld : World :=
  { World.empty with
    db.devices := Table.insert (Table.empty _) caravan
    db.readings := [⟨seconds 3000, "caravan01", "bat_voltage", .finite (744 / 100)⟩] }

def caravanChart : Request where
  user := { username := "rita", role := some .resident }
  query := [("metric", "bat_voltage"), ("preset", "1h")]

theorem caravan_charts_agree :
    ∃ points unit series units,
      outcome (chartDataView { now := seconds 4000 } caravanChart "caravan01") caravanWorld =
        (.ok (.chart points "bat_voltage" "caravan01" unit), caravanWorld) ∧
      outcome (overviewChartDataView { now := seconds 4000 }
          { caravanChart with query := ("devices",
            "caravan01,attic01,caravan01") :: caravanChart.query }) caravanWorld =
        (.ok (.charts "bat_voltage" units series), caravanWorld) ∧
      (series.lookup "caravan01").getD ⟨[], []⟩ = points :=
  @charts_agree { now := seconds 4000 } caravanChart
    { caravanChart with query := ("devices",
      "caravan01,attic01,caravan01") :: caravanChart.query } caravanWorld caravan
    "caravan01" "bat_voltage" ⟨seconds 400, some 0⟩ ⟨seconds 4000, some 0⟩ (by decide) rfl (by decide) rfl
    (by decide) (by decide) (by decide) (by decide) (by decide) (by decide) (fun empty => absurd empty (by decide))

/-- The latest reading of the metric, DISTINCT ON ... ORDER BY time DESC. -/
def latestReading (readings : List SensorReading) (deviceId metric : String) : Option SensorReading :=
  (OrderBy.descending SensorReading.time (readings.filter (fun r =>
    decide (r.deviceId = deviceId) && decide (r.metric = metric)))).head?

/-- No midpoint between two hundredths of a volt per cell separates the voltage from the tenth nearest to it. -/
def SameSide (cells : Nat) : PyFloat → Prop
  | .finite v => ∀ tenth : Int, PyFloat.IsNearest tenth (v * 10) → ∀ hundredth : Int,
      PyFloat.Below (tenth / 10 / cells * 100) hundredth ↔ PyFloat.Below (v / cells * 100) hundredth
  | .nan | .inf _ => True

theorem perCell_round_iff {cells : Nat} {v : PyFloat} :
    perCell cells (v.round 1) = perCell cells v ↔ SameSide cells v := by
  cases v with
  | nan => exact iff_of_true rfl trivial
  | inf negative => exact iff_of_true rfl trivial
  | finite v =>
    have scaled : perCell cells ((PyFloat.finite v).round 1) = perCell cells (.finite v) ↔
        PyFloat.roundHalfEven (PyFloat.roundHalfEven (v * 10) / 10 / cells * 100) =
          PyFloat.roundHalfEven (v / cells * 100) := by
      have shown := @PyFloat.round_finite_inj (PyFloat.roundHalfEven (v * 10) / 10 / cells) (v / cells) 2
      norm_num at shown
      simpa [perCell, PyFloat.divNat, PyFloat.round] using shown
    rw [scaled, PyFloat.roundHalfEven_eq_iff]
    constructor
    · intro sides tenth nearest
      rw [← PyFloat.isNearest_iff.mp nearest]
      exact sides
    · exact fun same => same _ (PyFloat.isNearest_iff.mpr rfl)

theorem lookup_latestReadings {readings : List SensorReading} {deviceId metric : String} {r : SensorReading}
    (newest : latestReading readings deviceId metric = some r) :
    (latestReadings readings deviceId).lookup metric = some (r.value.round 1) := by
  have present : metric ∈ OrderBy.distinct
      ((readings.filter (fun r => r.deviceId = deviceId)).map SensorReading.metric) := by
    have member := OrderBy.mem_descending.mp (List.mem_of_mem_head? (Option.mem_def.mpr newest))
    rw [List.mem_filter, Bool.and_eq_true, decide_eq_true_eq, decide_eq_true_eq] at member
    refine OrderBy.mem_distinct.mpr (List.mem_map.mpr ⟨r, ?_, member.2.2⟩)
    exact List.mem_filter.mpr ⟨member.1, by simpa using member.2.1⟩
  have value : latestValue readings deviceId metric = some r.value := congrArg (Option.map _) newest
  have keyed := lookup_filterMap_key (fun metric => (latestValue readings deviceId metric).map (PyFloat.round 1))
    (OrderBy.distinct ((readings.filter (fun r => r.deviceId = deviceId)).map SensorReading.metric)) metric
  simp only [Option.map_map, if_pos present, value, Option.map_some] at keyed
  exact keyed

theorem lookup_annotate {db : Db} {guestOnly : Bool} {device : Device} {r : SensorReading}
    (several : 1 < device.cells) (newest : latestReading db.readings device.deviceId "bat_voltage" = some r)
    (visible : guestOnly = true → "bat_voltage" ∈ device.guestVisibleMetrics) :
    (annotate db guestOnly device).latestMetrics.lookup "bat_voltage" =
      some (perCell device.cells (r.value.round 1)) := by
  unfold annotate
  dsimp only
  rw [if_pos several]
  generalize shown : (if guestOnly = true then (latestReadings db.readings device.deviceId).filter
    (fun kv => device.guestVisibleMetrics.contains kv.1) else latestReadings db.readings device.deviceId) = metrics
  have found : metrics.lookup "bat_voltage" = some (r.value.round 1) := by
    rw [← shown]
    split
    · next only =>
      rw [lookup_filter_key (fun key => device.guestVisibleMetrics.contains key),
        if_pos (List.contains_iff_mem.mpr (visible only))]
      exact lookup_latestReadings newest
    · exact lookup_latestReadings newest
  have divided := lookup_map_snd (fun key value => if key =
    "bat_voltage" then perCell device.cells value else value)
    metrics "bat_voltage"
  rw [found, Option.map_some, if_pos rfl] at divided
  rw [← divided]
  refine congrArg (List.lookup "bat_voltage") (List.map_congr_left (fun kv _ => ?_))
  split
  · rfl
  · rfl

theorem mem_annotateDevices {w : World} {device : Device} (guestOnly : Bool)
    (known : w.device? device.deviceId = some device) (approved : device.isApproved = true) :
    annotate w.db guestOnly device ∈ annotateDevices w.db guestOnly := by
  refine List.mem_map_of_mem ?_
  rw [approvedDevices, List.mem_insertionSort, List.mem_filter]
  exact ⟨(Table.get?_eq_some.mp known).1, approved⟩

theorem mem_fetchReadings {env : Env} {db : Db} {r : SensorReading} {start stop : Stamp} {span : Time}
    (stored : r ∈ db.readings) (length : start.span stop = some span) (raw : span ≤ seconds 172800)
    (inside : start.ormInstant env ≤ r.time ∧ r.time ≤ stop.ormInstant env) :
    ∃ points, fetchReadings env db r.deviceId r.metric start stop = some points ∧
      (r.time, r.value) ∈ points.times.zip points.values := by
  unfold fetchReadings
  rw [length, Option.map_some, if_pos raw]
  refine ⟨_, rfl, ?_⟩
  dsimp only
  rw [List.zip_map', List.mem_map]
  refine ⟨r, OrderBy.mem_ascending.mpr (List.mem_filter.mpr ⟨stored, ?_⟩), rfl⟩
  simp [inside]

theorem zip_perCell {points : Series} {t : Time} {v : PyFloat} {cells : Nat} (several : 1 < cells)
    (member : (t, v) ∈ points.times.zip points.values) :
    (t, perCell cells v) ∈ (points.perCell cells).times.zip (points.perCell cells).values := by
  unfold Series.perCell
  rw [if_pos several]
  dsimp only
  rw [List.zip_map_right]
  exact List.mem_map.mpr ⟨(t, v), member, rfl⟩

theorem outcome_dashboardView {request : Request} (admitted : request.user.may .guest = true) (w : World) :
    ∃ averages display counts, outcome (dashboardView request) w =
      (.ok (.cards "readings/dashboard.html"
        (annotateDevices w.db request.user.guestOnly) averages display counts),
        w) := by
  unfold dashboardView
  rw [roleRequired_eq, if_pos admitted, outcome_bind_ok (outcome_read _ w)]
  exact ⟨_, _, _, rfl⟩

/-- The chart divides the reading itself, the card the reading rounded to a tenth. -/
theorem card_shows_cell_iff {env : Env} {request : Request} {w : World} {device : Device} {r : SensorReading}
    {start stop : Stamp} {span : Time} (admitted : request.user.may .guest = true)
    (known : w.device? device.deviceId = some device) (approved : device.isApproved = true)
    (several : 1 < device.batteryCellCount)
    (newest : latestReading w.db.readings device.deviceId "bat_voltage" = some r)
    (visible : request.user.guestOnly = true → "bat_voltage" ∈ device.guestVisibleMetrics)
    (metric : QueryDict.get request.query "metric" "temperature" = "bat_voltage")
    (range : parseTimeRange env request.query = some (start, stop))
    (length : start.span stop = some span) (raw : span ≤ seconds 172800)
    (inside : start.ormInstant env ≤ r.time ∧ r.time ≤ stop.ormInstant env) :
    ∃ points unit cards averages display counts,
      outcome (chartDataView env request device.deviceId) w =
        (.ok (.chart points "bat_voltage" device.deviceId unit), w) ∧
      (r.time, perCell device.batteryCellCount r.value) ∈ points.times.zip points.values ∧
      outcome (dashboardView request) w =
        (.ok (.cards "readings/dashboard.html" cards averages display counts), w) ∧
      ∃ card ∈ cards, card.device = device ∧
        (card.latestMetrics.lookup "bat_voltage" = some (perCell device.batteryCellCount r.value) ↔
          SameSide device.batteryCellCount r.value) := by
  have cells : device.cells = device.batteryCellCount := if_neg (by omega)
  have several' : 1 < device.cells := by omega
  have chosen := OrderBy.mem_descending.mp (List.mem_of_mem_head? (Option.mem_def.mpr newest))
  rw [List.mem_filter, Bool.and_eq_true, decide_eq_true_eq, decide_eq_true_eq] at chosen
  obtain ⟨stored, own, voltage⟩ := chosen
  obtain ⟨points, found, point⟩ := mem_fetchReadings stored length raw inside
  rw [own, voltage] at found
  have permitted : (request.user.guestOnly && !device.guestVisibleMetrics.contains
      (QueryDict.get request.query "metric" "temperature")) = false := by
    rw [metric]
    cases guest : request.user.guestOnly with
    | false => rfl
    | true => simp [visible guest]
  have chart := outcome_chartDataView admitted known approved permitted range (by rw [metric]; exact found)
  rw [metric, if_pos rfl] at chart
  obtain ⟨averages, display, counts, dashboard⟩ := outcome_dashboardView admitted w
  refine ⟨_, _, _, averages, display, counts, chart, cells ▸ zip_perCell several' point, dashboard,
    annotate w.db request.user.guestOnly device, mem_annotateDevices _ known approved, rfl, ?_⟩
  rw [lookup_annotate several' newest visible, Option.some.injEq, cells]
  exact perCell_round_iff

/-- At 7.44 V on two cells the card shows 3.70 V and the chart 3.72 V. -/
theorem caravan_card_differs :
    (annotate caravanWorld.db false caravan).latestMetrics.lookup "bat_voltage" = some (.finite (370 / 100)) ∧
    latestReading caravanWorld.db.readings "caravan01" "bat_voltage" =
      some ⟨seconds 3000, "caravan01", "bat_voltage", .finite (744 / 100)⟩ ∧
    perCell 2 (.finite (744 / 100)) = .finite (372 / 100) ∧
    outcome (chartDataView { now := seconds 4000 } caravanChart "caravan01") caravanWorld =
      (.ok (.chart ⟨[seconds 3000], [.finite (372 / 100)]⟩ "bat_voltage" "caravan01" ""), caravanWorld) := by
  have cell : perCell 2 (.finite (744 / 100)) = .finite (372 / 100) := by decide +kernel
  have newest : fetchReadings { now := seconds 4000 } caravanWorld.db "caravan01" "bat_voltage"
      ⟨seconds 400, some 0⟩ ⟨seconds 4000, some 0⟩ = some ⟨[seconds 3000], [.finite (744 / 100)]⟩ := by
    decide +kernel
  refine ⟨by decide +kernel, by decide +kernel, cell, ?_⟩
  rw [@outcome_chartDataView { now := seconds 4000 } caravanChart caravanWorld caravan "caravan01"
    ⟨seconds 400, some 0⟩ ⟨seconds 4000, some 0⟩ _ (by decide) rfl rfl (by decide) (by decide) newest, ← cell]
  rfl

/-- The same caravan at 7.40 V. -/
def chargedWorld : World :=
  { caravanWorld with db.readings := [⟨seconds 3000, "caravan01", "bat_voltage", .finite (740 / 100)⟩] }

theorem chargedCaravan_shows_cell :
    ∃ points unit cards averages display counts,
      outcome (chartDataView { now := seconds 4000 } caravanChart "caravan01") chargedWorld =
        (.ok (.chart points "bat_voltage" "caravan01" unit), chargedWorld) ∧
      (seconds 3000, .finite (370 / 100)) ∈ points.times.zip points.values ∧
      outcome (dashboardView caravanChart) chargedWorld =
        (.ok (.cards "readings/dashboard.html" cards averages display counts), chargedWorld) ∧
      ∃ card ∈ cards, card.device = caravan ∧
        card.latestMetrics.lookup "bat_voltage" = some (.finite (370 / 100)) := by
  have cell : perCell 2 (.finite (740 / 100)) = .finite (370 / 100) := by decide +kernel
  have side : SameSide 2 (.finite (740 / 100)) := perCell_round_iff.mp (by decide +kernel)
  obtain ⟨points, unit, cards, averages, display, counts, chart, point, dashboard, card, listed, device, shows⟩ :=
    @card_shows_cell_iff { now := seconds 4000 } caravanChart chargedWorld caravan
      ⟨seconds 3000, "caravan01", "bat_voltage", .finite (740 / 100)⟩ ⟨seconds 400, some 0⟩ ⟨seconds 4000, some 0⟩
      (seconds 3600) (by decide) (by decide) rfl (by decide) (by decide +kernel) (by decide) (by decide) (by decide)
      (by decide) (by decide) (by decide)
  exact ⟨points, unit, cards, averages, display, counts, chart, cell ▸ point, dashboard, card, listed, device,
    (shows.mpr side).trans (congrArg some cell)⟩

end SensorServer
