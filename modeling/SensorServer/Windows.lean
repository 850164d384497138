import SensorServer.Charts
import SensorServer.StatusTimeline

/-! The window of a request as two instants: when the views that parse it answer, and
select by the same instants from every table (readings/views.py _parse_time_range). -/
namespace SensorServer
open Program

def seriesBetween (db : Db) (span : Time) (deviceId metric : String) (first last : Time) : Series :=
  if span ≤ seconds 172800 then
    let rows := OrderBy.ascending SensorReading.time (db.readings.filter (fun r =>
      decide (r.deviceId = deviceId) && decide (r.metric = metric) &&
      (decide (first ≤ r.time) && decide (r.time ≤ last))))
    ⟨rows.map SensorReading.time, rows.map SensorReading.value⟩
  else
    let rows := OrderBy.ascending RollupRow.bucket ((rollupRows db (sourceFor span)).filter (fun r =>
      decide (r.deviceId = deviceId) && decide (r.metric = metric) &&
      (decide (first ≤ r.bucket) && decide (r.bucket ≤ last))))
    ⟨rows.map RollupRow.bucket, rows.map (fun r => r.avgValue.round 2)⟩

def groupedBetween (db : Db) (span : Time) (deviceIds : List String) (metric : String) (first last : Time) :
    List (String × Series) :=
  (OrderBy.distinct (if span ≤ seconds 172800 then
      (db.readings.filter (fun r => deviceIds.contains r.deviceId && decide (r.metric = metric) &&
        (decide (first ≤ r.time) && decide (r.time ≤ last)))).map SensorReading.deviceId
    else ((rollupRows db (sourceFor span)).filter (fun r => deviceIds.contains r.deviceId &&
      decide (r.metric = metric) && (decide (first ≤ r.bucket) && decide (r.bucket ≤ last)))).map
        RollupRow.deviceId)).map
    fun deviceId => (deviceId, seriesBetween db span deviceId metric first last)

def Responds (view : Act Response) (w : World) : Prop := ∃ response, outcome view w = (.ok response, w)

/-- Two instants in order, by which every view answers and selects, whatever is stored. -/
structure OneWindow (env : Env) (query : QueryDict) (start stop : Stamp) (span : Time) : Prop where
  parsed : parseTimeRange env query = some (start, stop)
  comparable : start.span stop = some span
  ordered : 0 ≤ span ∧ start.ormInstant env ≤ stop.ormInstant env
  answers : ∀ request : Request, request.query = query → ∀ w deviceId,
    Responds (chartDataView env request deviceId) w ∧ Responds (overviewChartDataView env request) w ∧
      Responds (statusTimelineView env request deviceId) w
  chart : ∀ db deviceId metric, fetchReadings env db deviceId metric start stop =
    some (seriesBetween db span deviceId metric (start.ormInstant env) (stop.ormInstant env))
  overview : ∀ db deviceIds metric, overviewSeries env db deviceIds metric start stop =
    some (groupedBetween db span deviceIds metric (start.ormInstant env) (stop.ormInstant env))
  timeline : ∀ db deviceId, ShowsLog env (ownedBy DeviceStatusLog.device deviceId db.statusLogs) start stop
    (statusSegments env db deviceId start stop)

/-- A naive time that is the same instant as local time and in UTC. -/
def Stamp.Plain (env : Env) (s : Stamp) : Prop := s.offset = none → env.inTimeZone s.clock = s.clock

/-- A known preset, the default, or two ordered times of one kind; naive ones of a longer
window are plain. -/
def PlainWindow (env : Env) (query : QueryDict) : Prop :=
  (presets.lookup (QueryDict.get query "preset" "")).isSome = true ∨
  match env.parseDatetime (QueryDict.get query "start" ""), env.parseDatetime (QueryDict.get query "end" "") with
  | .invalid, _ | _, .invalid => False
  | .stamp start, .stamp stop =>
    ∃ span, start.span stop = some span ∧ 0 ≤ span ∧ start.ormInstant env ≤ stop.ormInstant env ∧
      (span ≤ seconds 172800 ∨ (start.Plain env ∧ stop.Plain env))
  | _, _ => True

section Window
variable {env : Env} {start stop : Stamp} {span : Time}

theorem Stamp.plain_iff {s : Stamp} : s.Plain env ↔ s.ormInstant env = s.sqlInstant := by
  unfold Stamp.Plain Stamp.ormInstant Stamp.sqlInstant
  cases s.offset <;> simp

theorem fetchReadings_eq (length : start.span stop = some span) (db : Db) (deviceId metric : String) :
    fetchReadings env db deviceId metric start stop =
      some (if span ≤ seconds 172800 then
          seriesBetween db span deviceId metric (start.ormInstant env) (stop.ormInstant env)
        else seriesBetween db span deviceId metric start.sqlInstant stop.sqlInstant) := by
  unfold fetchReadings seriesBetween
  rw [length, Option.map_some]
  split <;> rfl

theorem overviewSeries_eq (length : start.span stop = some span) (db : Db) (deviceIds : List String)
    (metric : String) :
    overviewSeries env db deviceIds metric start stop =
      some (if span ≤ seconds 172800 then
          groupedBetween db span deviceIds metric (start.ormInstant env) (stop.ormInstant env)
        else groupedBetween db span deviceIds metric start.sqlInstant stop.sqlInstant) := by
  unfold overviewSeries groupedBetween seriesBetween
  rw [length, Option.map_some]
  split
  · refine congrArg some (List.map_congr_left (fun id present => ?_))
    dsimp only
    rw [filter_own (listed_of_distinct present)]
  · refine congrArg some (List.map_congr_left (fun id present => ?_))
    dsimp only
    rw [filter_own (listed_of_distinct present)]

end Window

theorem responds_pure {response : Response} {w : World} : Responds (pure response) w := ⟨response, rfl⟩

theorem responds_roleRequired {minimum : Role} {request : Request} {view : Act Response} {w : World}
    (inside : Responds view w) : Responds (roleRequired minimum request view) w := by
  rw [roleRequired_eq]
  split
  · exact inside
  · exact responds_pure

theorem responds_getApprovedOr404 {deviceId : String} {view : Device → Act Response} {w : World}
    (inside : ∀ device, Responds (view device) w) : Responds (getApprovedOr404 deviceId view) w := by
  unfold getApprovedOr404 getDeviceOr404 Responds
  rw [outcome_bind_ok (outcome_read _ w)]
  cases w.device? deviceId with
  | none => exact responds_pure
  | some device =>
    dsimp only
    split
    · exact inside device
    · exact responds_pure

section Answer
variable {env : Env} {request : Request} {start stop : Stamp} {span : Time}

theorem responds_withTimeRange {view : Stamp → Stamp → Act Response} {w : World}
    (range : parseTimeRange env request.query = some (start, stop)) (inside : Responds (view start stop) w) :
    Responds (withTimeRange env request.query view) w := by
  unfold withTimeRange
  rw [range]
  exact inside

theorem responds_chartDataView (range : parseTimeRange env request.query = some (start, stop))
    (length : start.span stop = some span) (w : World) (deviceId : String) :
    Responds (chartDataView env request deviceId) w := by
  refine responds_roleRequired (responds_getApprovedOr404 (fun device => ?_))
  dsimp only
  split
  · exact responds_pure
  · refine responds_withTimeRange range ?_
    unfold Responds
    rw [outcome_bind_ok (outcome_read _ w), fetchReadings_eq length]
    exact responds_pure

theorem responds_overviewChartDataView (range : parseTimeRange env request.query = some (start, stop))
    (length : start.span stop = some span) (w : World) : Responds (overviewChartDataView env request) w := by
  refine responds_roleRequired ?_
  dsimp only
  split
  · exact responds_pure
  · refine responds_withTimeRange range ?_
    unfold Responds
    rw [outcome_bind_ok (outcome_read _ w), overviewSeries_eq length]
    exact ⟨_, rfl⟩

theorem responds_statusTimelineView (range : parseTimeRange env request.query = some (start, stop))
    (w : World) (deviceId : String) : Responds (statusTimelineView env request deviceId) w := by
  refine responds_roleRequired (responds_getApprovedOr404 (fun device => responds_withTimeRange range ?_))
  exact ⟨_, rfl⟩

end Answer

section Exact
variable {env : Env} {query : QueryDict} {start stop : Stamp} {span : Time}

theorem oneWindow_of (parsed : parseTimeRange env query = some (start, stop))
    (comparable : start.span stop = some span) (nonneg : 0 ≤ span)
    (ordered : start.ormInstant env ≤ stop.ormInstant env)
    (plain : span ≤ seconds 172800 ∨ (start.Plain env ∧ stop.Plain env)) :
    OneWindow env query start stop span := by
  have instants : ¬ span ≤ seconds 172800 →
      start.sqlInstant = start.ormInstant env ∧ stop.sqlInstant = stop.ormInstant env := by
    intro long
    obtain ⟨first, last⟩ := plain.resolve_left long
    exact ⟨(Stamp.plain_iff.mp first).symm, (Stamp.plain_iff.mp last).symm⟩
  refine ⟨parsed, comparable, ⟨nonneg, ordered⟩, ?_, ?_, ?_,
    fun db deviceId => showsLog_statusSegments db deviceId ordered⟩
  · rintro request rfl w deviceId
    exact ⟨responds_chartDataView parsed comparable w deviceId, responds_overviewChartDataView parsed comparable w,
      responds_statusTimelineView parsed w deviceId⟩
  · intro db deviceId metric
    rw [fetchReadings_eq comparable]
    split
    · rfl
    · next long => rw [(instants long).1, (instants long).2]
  · intro db deviceIds metric
    rw [overviewSeries_eq comparable]
    split
    · rfl
    · next long => rw [(instants long).1, (instants long).2]

def oneBucket (bucket : Time) : Db :=
  { Db.empty with
    hourly := [⟨bucket, "d", "m", .finite 0, .finite 0, .finite 0, 1⟩]
    daily := [⟨bucket, "d", "m", .finite 0, .finite 0, .finite 0, 1⟩] }

theorem seriesBetween_oneBucket (long : ¬ span ≤ seconds 172800) (bucket first last : Time) :
    (seriesBetween (oneBucket bucket) span "d" "m" first last).times =
      if first ≤ bucket ∧ bucket ≤ last then [bucket] else [] := by
  have rows : rollupRows (oneBucket bucket) (sourceFor span) =
      [⟨bucket, "d", "m", .finite 0, .finite 0, .finite 0, 1⟩] := by
    cases sourceFor span <;> rfl
  unfold seriesBetween
  rw [if_neg long, rows]
  by_cases inside : first ≤ bucket ∧ bucket ≤ last
  · simp [inside, OrderBy.ascending]
  · simp [inside, OrderBy.ascending]

theorem plain_of_chart (long : ¬ span ≤ seconds 172800) (comparable : start.span stop = some span)
    (ordered : start.ormInstant env ≤ stop.ormInstant env)
    (chart : ∀ db deviceId metric, fetchReadings env db deviceId metric start stop =
      some (seriesBetween db span deviceId metric (start.ormInstant env) (stop.ormInstant env))) :
    start.Plain env ∧ stop.Plain env := by
  have same : ∀ bucket, start.sqlInstant ≤ bucket ∧ bucket ≤ stop.sqlInstant ↔
      start.ormInstant env ≤ bucket ∧ bucket ≤ stop.ormInstant env := by
    intro bucket
    have shown := chart (oneBucket bucket) "d" "m"
    rw [fetchReadings_eq comparable, if_neg long] at shown
    have times := congrArg Series.times (Option.some.inj shown)
    rw [seriesBetween_oneBucket long, seriesBetween_oneBucket long] at times
    constructor
    · intro sql
      by_contra orm
      rw [if_pos sql, if_neg orm] at times
      cases times
    · intro orm
      by_contra sql
      rw [if_neg sql, if_pos orm] at times
      cases times
  have reading : start.sqlInstant ≤ stop.sqlInstant := by
    have longer : seconds 172800 < stop.sqlInstant - start.sqlInstant := Stamp.span_eq comparable ▸ not_le.mp long
    have positive : (0 : Time) < seconds 172800 := by decide
    exact sub_nonneg.mp (positive.trans longer).le
  obtain ⟨a, b⟩ := (same start.sqlInstant).mp ⟨le_rfl, reading⟩
  obtain ⟨c, d⟩ := (same stop.sqlInstant).mp ⟨reading, le_rfl⟩
  obtain ⟨e, f⟩ := (same (start.ormInstant env)).mpr ⟨le_rfl, ordered⟩
  obtain ⟨g, h⟩ := (same (stop.ormInstant env)).mpr ⟨ordered, le_rfl⟩
  exact ⟨Stamp.plain_iff.mpr (le_antisymm a e), Stamp.plain_iff.mpr (le_antisymm h d)⟩

theorem plain_of_oneWindow (window : OneWindow env query start stop span) : PlainWindow env query := by
  unfold PlainWindow
  cases preset : presets.lookup (QueryDict.get query "preset" "") with
  | some length => exact .inl rfl
  | none =>
    right
    have parsed := window.parsed
    unfold parseTimeRange at parsed
    rw [preset] at parsed
    dsimp only at parsed
    cases first : env.parseDatetime (QueryDict.get query "start" "") with
    | invalid => simp [first] at parsed
    | unparsed =>
      cases last : env.parseDatetime (QueryDict.get query "end" "") with
      | invalid => simp [first, last] at parsed
      | unparsed => trivial
      | stamp b => trivial
    | stamp a =>
      cases last : env.parseDatetime (QueryDict.get query "end" "") with
      | invalid => simp [first, last] at parsed
      | unparsed => trivial
      | stamp b =>
        rw [first, last] at parsed
        cases parsed
        refine ⟨span, window.comparable, window.ordered.1, window.ordered.2, ?_⟩
        by_cases short : span ≤ seconds 172800
        · exact .inl short
        · exact .inr (plain_of_chart short window.comparable window.ordered.2 window.chart)

theorem oneWindow_recent {length : Time} (nonneg : 0 ≤ length)
    (parsed : parseTimeRange env query = some (⟨env.now - length, some 0⟩, ⟨env.now, some 0⟩)) :
    OneWindow env query ⟨env.now - length, some 0⟩ ⟨env.now, some 0⟩ length := by
  refine oneWindow_of parsed ?_ nonneg ?_ (.inr ⟨?_, ?_⟩)
  · simp [Stamp.span]
  · simpa [Stamp.ormInstant] using nonneg
  · rintro ⟨⟩
  · rintro ⟨⟩

theorem oneWindow_of_plain (plain : PlainWindow env query) :
    ∃ start stop span, OneWindow env query start stop span := by
  cases preset : presets.lookup (QueryDict.get query "preset" "") with
  | some length =>
    have lengths : ∀ entry ∈ presets, 0 ≤ entry.2 := by decide
    have parsed : parseTimeRange env query = some (⟨env.now - length, some 0⟩, ⟨env.now, some 0⟩) := by
      unfold parseTimeRange
      rw [preset]
    exact ⟨_, _, _, oneWindow_recent (lengths _ (mem_of_lookup preset)) parsed⟩
  | none =>
    unfold PlainWindow at plain
    rw [preset] at plain
    have chosen := plain.resolve_left (by simp)
    have recent : parseTimeRange env query = some (⟨env.now - seconds 86400, some 0⟩, ⟨env.now, some 0⟩) →
        ∃ start stop span, OneWindow env query start stop span :=
      fun parsed => ⟨_, _, _, oneWindow_recent (by decide) parsed⟩
    cases first : env.parseDatetime (QueryDict.get query "start" "") with
    | invalid => simp [first] at chosen
    | unparsed =>
      cases last : env.parseDatetime (QueryDict.get query "end" "") with
      | invalid => simp [first, last] at chosen
      | unparsed | stamp b =>
        refine recent ?_
        unfold parseTimeRange
        rw [preset, first, last]
    | stamp a =>
      cases last : env.parseDatetime (QueryDict.get query "end" "") with
      | invalid => simp [first, last] at chosen
      | unparsed =>
        refine recent ?_
        unfold parseTimeRange
        rw [preset, first, last]
      | stamp b =>
        rw [first, last] at chosen
        obtain ⟨span, comparable, nonneg, ordered, plain⟩ := chosen
        have parsed : parseTimeRange env query = some (a, b) := by
          unfold parseTimeRange
          rw [preset, first, last]
        exact ⟨a, b, span, oneWindow_of parsed comparable nonneg ordered plain⟩

/-- A window means the same instants in every view exactly if it is plain. -/
theorem one_window_iff : (∃ start stop span, OneWindow env query start stop span) ↔ PlainWindow env query :=
  ⟨fun ⟨_, _, _, window⟩ => plain_of_oneWindow window, oneWindow_of_plain⟩

end Exact

/-- Paris in July, two hours ahead of UTC. -/
def julyEnv : Env where
  now := seconds 1783728000
  inTimeZone clock := clock - seconds 7200
  parseDatetime s :=
    if s = "2026-07-01T00:00" then .stamp ⟨seconds 1782864000, none⟩
    else if s = "2026-07-04T00:00" then .stamp ⟨seconds 1783123200, none⟩
    else if s = "2026-07-04T00:00Z" then .stamp ⟨seconds 1783123200, some 0⟩
    else if s = "2026-02-30T00:00" then .invalid
    else .unparsed

theorem july_windows_differ :
    ¬ (∃ start stop span, OneWindow julyEnv [("start", "2026-07-01T00:00"), ("end", "2026-07-04T00:00")]
        start stop span) ∧
    ¬ (∃ start stop span, OneWindow julyEnv [("start", "2026-07-01T00:00"), ("end", "2026-07-04T00:00Z")]
        start stop span) ∧
    ¬ (∃ start stop span, OneWindow julyEnv [("start", "2026-07-04T00:00"), ("end", "2026-07-01T00:00")]
        start stop span) ∧
    ¬ ∃ start stop span, OneWindow julyEnv [("start", "2026-02-30T00:00"), ("end", "2026-07-04T00:00")]
        start stop span := by
  refine ⟨?_, ?_, ?_, ?_⟩
  · rintro ⟨start, stop, span, window⟩
    obtain preset | ⟨span, comparable, -, -, short | ⟨first, -⟩⟩ := plain_of_oneWindow window
    · exact absurd preset (by decide)
    · cases comparable
      exact absurd short (by decide)
    · exact absurd (first rfl) (by decide)
  · rintro ⟨start, stop, span, window⟩
    obtain preset | ⟨span, comparable, -⟩ := plain_of_oneWindow window
    · exact absurd preset (by decide)
    · cases comparable
  · rintro ⟨start, stop, span, window⟩
    obtain preset | ⟨span, comparable, nonneg, -⟩ := plain_of_oneWindow window
    · exact absurd preset (by decide)
    · cases comparable
      exact absurd nonneg (by decide)
  · rintro ⟨start, stop, span, window⟩
    obtain preset | impossible := plain_of_oneWindow window
    · exact absurd preset (by decide)
    · exact impossible

end SensorServer
