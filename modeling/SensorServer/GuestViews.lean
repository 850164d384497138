import SensorServer.Visibility
import SensorServer.ReadingViews

/-! The reading pages a guest may open, run on two states that differ only in
readings that were not made visible. -/
namespace SensorServer
open Program

theorem filter_filter_of_imp {α : Type} {p q : α → Bool} (imp : ∀ a, p a = true → q a = true)
    (rows : List α) : (rows.filter q).filter p = rows.filter p := by
  rw [List.filter_filter]
  refine List.filter_congr (fun a _ => ?_)
  cases chosen : p a with
  | false => rfl
  | true => rw [imp a chosen]; rfl

theorem any_congr_of_filter {α : Type} {p : α → Bool} {xs ys : List α} (same : xs.filter p = ys.filter p) :
    xs.any p = ys.any p := by
  have chosen : ∀ l : List α, l.any p = (l.filter p).any p := by simp [List.any_filter]
  rw [chosen xs, same, ← chosen]

theorem mem_reported {readings : List SensorReading} {devices : List Device} {device : Device}
    {metric : String} (member : device ∈ devices)
    (reports : readings.any
      (fun r => decide (r.deviceId = device.deviceId) && decide (r.metric = metric)) = true) :
    metric ∈ (readings.filter (fun r => (devices.map Device.deviceId).contains r.deviceId)).map
      SensorReading.metric := by
  obtain ⟨r, present, chosen⟩ := List.any_eq_true.mp reports
  simp only [Bool.and_eq_true, decide_eq_true_eq] at chosen
  refine List.mem_map.mpr ⟨r, List.mem_filter.mpr ⟨present, ?_⟩, chosen.2⟩
  rw [List.contains_iff_mem, chosen.1]
  exact List.mem_map.mpr ⟨device, member, rfl⟩

namespace SameToGuest
variable {w v : World} (alike : SameToGuest w v)
include alike

theorem filter_readings {p : SensorReading → Bool}
    (shown : ∀ r, p r = true → w.shows r.deviceId r.metric = true) :
    w.db.readings.filter p = v.db.readings.filter p := by
  have shown' : ∀ r, p r = true → v.shows r.deviceId r.metric = true :=
    fun r chosen => alike.shows r.deviceId r.metric ▸ shown r chosen
  calc w.db.readings.filter p = w.shownReadings.filter p := (filter_filter_of_imp shown _).symm
    _ = v.shownReadings.filter p := by rw [alike.readings]
    _ = v.db.readings.filter p := filter_filter_of_imp shown' _

theorem filter_rows {p : RollupRow → Bool} (view : Rollup)
    (shown : ∀ r, p r = true → w.shows r.deviceId r.metric = true) :
    (rollupRows w.db view).filter p = (rollupRows v.db view).filter p := by
  have shown' : ∀ r, p r = true → v.shows r.deviceId r.metric = true :=
    fun r chosen => alike.shows r.deviceId r.metric ▸ shown r chosen
  calc (rollupRows w.db view).filter p = (w.shownRows view).filter p := (filter_filter_of_imp shown _).symm
    _ = (v.shownRows view).filter p := by rw [alike.rollups]
    _ = (rollupRows v.db view).filter p := filter_filter_of_imp shown' _

theorem fetchReadings {env : Env} {deviceId metric : String} {start stop : Stamp}
    (shown : w.shows deviceId metric = true) :
    fetchReadings env w.db deviceId metric start stop = fetchReadings env v.db deviceId metric start stop := by
  unfold SensorServer.fetchReadings
  refine congrArg (Option.map · _) (funext fun span => ?_)
  rw [alike.filter_readings ?_, alike.filter_rows _ ?_]
  · intro r chosen
    simp only [Bool.and_eq_true, decide_eq_true_eq] at chosen
    rw [chosen.1.1, chosen.1.2]
    exact shown
  · intro r chosen
    simp only [Bool.and_eq_true, decide_eq_true_eq] at chosen
    rw [chosen.1.1, chosen.1.2]
    exact shown

theorem overviewSeries {env : Env} {deviceIds : List String} {metric : String} {start stop : Stamp}
    (shown : ∀ span, start.span stop = some span →
      (span ≤ seconds 172800 → start.ormInstant env ≤ stop.ormInstant env) →
        ∀ id ∈ deviceIds, w.shows id metric = true) :
    overviewSeries env w.db deviceIds metric start stop =
      overviewSeries env v.db deviceIds metric start stop := by
  unfold SensorServer.overviewSeries
  cases length : start.span stop with
  | none => rfl
  | some span =>
    have shown := shown span length
    simp only [Option.map_some]
    refine congrArg some ?_
    split
    · rw [alike.filter_readings]
      intro r chosen
      simp only [Bool.and_eq_true, decide_eq_true_eq, List.contains_iff_mem] at chosen
      rw [chosen.1.2]
      exact shown (fun _ => le_trans chosen.2.1 chosen.2.2) _ chosen.1.1
    · next long =>
      rw [alike.filter_rows]
      intro r chosen
      simp only [Bool.and_eq_true, decide_eq_true_eq, List.contains_iff_mem] at chosen
      rw [chosen.1.2]
      exact shown (fun short => absurd short long) _ chosen.1.1

theorem approvedDevices : approvedDevices w.db = approvedDevices v.db := by
  unfold SensorServer.approvedDevices
  rw [alike.devices]

theorem latestValue {deviceId metric : String} (shown : w.shows deviceId metric = true) :
    latestValue w.db.readings deviceId metric = latestValue v.db.readings deviceId metric := by
  unfold SensorServer.latestValue
  rw [alike.filter_readings]
  intro r chosen
  simp only [Bool.and_eq_true, decide_eq_true_eq] at chosen
  rw [chosen.1, chosen.2]
  exact shown

theorem reports {deviceId metric : String} (shown : w.shows deviceId metric = true) :
    w.db.readings.any (fun r => decide (r.deviceId = deviceId) && decide (r.metric = metric)) =
      v.db.readings.any (fun r => decide (r.deviceId = deviceId) && decide (r.metric = metric)) := by
  apply any_congr_of_filter
  apply alike.filter_readings
  intro r chosen
  simp only [Bool.and_eq_true, decide_eq_true_eq] at chosen
  rw [chosen.1, chosen.2]
  exact shown

omit alike in
theorem shows_of_listed {device : Device} (listed : device ∈ SensorServer.approvedDevices w.db)
    {metric : String} (named : device.guestVisibleMetrics.contains metric = true) :
    w.shows device.deviceId metric = true := by
  rw [SensorServer.approvedDevices, List.mem_insertionSort, List.mem_filter] at listed
  have known : w.device? device.deviceId = some device := Table.get?_eq_some.mpr ⟨listed.1, rfl⟩
  rw [World.shows, known]
  simp only [Option.any_some, listed.2, named, Bool.and_self]

theorem latestReadings {device : Device} (listed : device ∈ SensorServer.approvedDevices w.db) :
    (latestReadings w.db.readings device.deviceId).filter
        (fun kv => device.guestVisibleMetrics.contains kv.1) =
      (latestReadings v.db.readings device.deviceId).filter
        (fun kv => device.guestVisibleMetrics.contains kv.1) := by
  unfold SensorServer.latestReadings
  rw [List.filter_filterMap, List.filter_filterMap]
  apply OrderBy.filterMap_distinct_congr
  · intro metric
    cases named : device.guestVisibleMetrics.contains metric with
    | true => rw [alike.latestValue (shows_of_listed listed named)]
    | false =>
      have gone : ∀ x : Option PyFloat, (x.map (fun f => (metric, f.round 1))).filter
          (fun kv => device.guestVisibleMetrics.contains kv.1) = none := by
        intro x
        cases x with
        | none => rfl
        | some f =>
          rw [Option.map_some, Option.filter_some, named]
          rfl
      rw [gone, gone]
  · intro metric found
    have named : device.guestVisibleMetrics.contains metric = true := by
      by_contra unlisted
      cases value : SensorServer.latestValue w.db.readings device.deviceId metric with
      | none => simp [value] at found
      | some f =>
        rw [value, Option.map_some, Option.filter_some, if_neg unlisted] at found
        cases found
    have both := alike.reports (shows_of_listed listed named)
    rw [Bool.eq_iff_iff] at both
    simpa [List.any_eq_true, and_assoc] using both

theorem annotateDevices :
    annotateDevices w.db true = annotateDevices v.db true := by
  unfold SensorServer.annotateDevices
  rw [← alike.approvedDevices]
  refine List.map_congr_left (fun device listed => ?_)
  unfold annotate
  simp only [if_true]
  rw [alike.latestReadings listed]

theorem metricsDevices : metricsDevices w.db true = metricsDevices v.db true := by
  unfold SensorServer.metricsDevices
  rw [← alike.approvedDevices]
  dsimp only
  have listing : ∀ metric, (SensorServer.approvedDevices w.db).filter (fun d =>
      w.db.readings.any (fun r => decide (r.deviceId = d.deviceId) && decide (r.metric = metric)) &&
        (!true || d.guestVisibleMetrics.contains metric)) =
      (SensorServer.approvedDevices w.db).filter (fun d =>
      v.db.readings.any (fun r => decide (r.deviceId = d.deviceId) && decide (r.metric = metric)) &&
        (!true || d.guestVisibleMetrics.contains metric)) := by
    intro metric
    refine List.filter_congr (fun d listed => ?_)
    cases named : d.guestVisibleMetrics.contains metric with
    | true => rw [alike.reports (shows_of_listed listed named)]
    | false => simp
  apply OrderBy.filterMap_distinct_congr
  · intro metric
    rw [listing metric]
  · intro metric found
    obtain ⟨d, member⟩ : ∃ d, d ∈ (SensorServer.approvedDevices w.db).filter (fun d =>
        w.db.readings.any (fun r => decide (r.deviceId = d.deviceId) && decide (r.metric = metric)) &&
          (!true || d.guestVisibleMetrics.contains metric)) := by
      split at found
      · cases found
      · next some =>
        exact List.exists_mem_of_ne_nil _ (by simpa using some)
    have member' := listing metric ▸ member
    rw [List.mem_filter, Bool.and_eq_true] at member member'
    exact iff_of_true (mem_reported member.1 member.2.1) (mem_reported member'.1 member'.2.1)

end SameToGuest

inductive GuestView where
  | chart (env : Env) (query : QueryDict) (deviceId : String)
  | overviewChart (env : Env) (query : QueryDict)
  | dashboard
  | dashboardCards
  | overview

def GuestView.run (viewer : User) : GuestView → Act Response
  | .chart env query deviceId => chartDataView env { user := viewer, isPost := false, query := query } deviceId
  | .overviewChart env query => overviewChartDataView env { user := viewer, isPost := false, query := query }
  | .dashboard => dashboardView { user := viewer, isPost := false }
  | .dashboardCards => dashboardCardsView { user := viewer, isPost := false }
  | .overview => overviewView { user := viewer, isPost := false }

/-- The devices whose readings an overview chart can return: none when it names no
metric, or its window is refused or empty. -/
def reachedDevices (env : Env) (query : QueryDict) : List String :=
  if QueryDict.get query "metric" "" = "" then []
  else match parseTimeRange env query with
    | none => []
    | some (start, stop) => match start.span stop with
      | none => []
      | some span =>
        if span ≤ seconds 172800 ∧ stop.ormInstant env < start.ormInstant env then []
        else wantedDevices query

def GuestView.Guarded (w : World) : GuestView → Prop
  | .overviewChart env query =>
    ∀ id ∈ reachedDevices env query, w.shows id (QueryDict.get query "metric" "") = true
  | _ => True

theorem twin_roleRequired {R : World → World → Prop} {minimum : Role} {request : Request}
    {view : Act Response} (inside : Twin R view) : Twin R (roleRequired minimum request view) := by
  rw [roleRequired_eq]
  split
  · exact inside
  · exact Twin.pure _

theorem blind_chartDataView {env : Env} {request : Request} {deviceId : String}
    (guest : request.user.guestOnly = true) : Blind (chartDataView env request deviceId) := by
  refine twin_roleRequired (Twin.read_bind (fun _ _ alike => alike.device? _) (fun found => ?_))
  cases found with
  | none => exact Twin.pure _
  | some device =>
    dsimp only
    split
    · next approved =>
      split
      · exact Twin.pure _
      · next allowed =>
        have named : device.guestVisibleMetrics.contains (QueryDict.get request.query "metric" "temperature") =
            true := by simpa [guest] using allowed
        unfold withTimeRange
        split
        · exact Twin.fail _
        · refine Twin.bind (Twin.read (fun w v both => both.1.fetchReadings ?_)) (fun points => ?_)
          · rw [World.shows, both.2, Option.any_some, approved, named]
            rfl
          · cases points with
            | none => exact Twin.fail _
            | some points => exact Twin.pure _
    · exact Twin.pure _

theorem twin_overviewChart {env : Env} {query : QueryDict} {viewer : User} :
    Twin (fun w v => SameToGuest w v ∧ (GuestView.overviewChart env query).Guarded w)
      ((GuestView.overviewChart env query).run viewer) := by
  refine twin_roleRequired ?_
  dsimp only
  split
  · exact Twin.pure _
  · next named =>
    unfold withTimeRange
    split
    · exact Twin.fail _
    · next start stop range =>
      refine Twin.bind (Twin.read (fun w v both => both.1.overviewSeries (fun span length filled id member => ?_)))
        (fun series => ?_)
      · refine both.2 id ?_
        unfold reachedDevices
        rw [if_neg (fun empty => named (Or.inl empty)), range]
        dsimp only
        rw [length]
        dsimp only
        rw [if_neg (fun narrow => absurd (filled narrow.1) (not_le.mpr narrow.2))]
        exact member
      · cases series with
        | none => exact Twin.fail _
        | some series =>
          refine Twin.bind (Twin.read (fun w v both => funext fun id => ?_)) (fun cells =>
            Twin.bind (Twin.read (fun w v both => ?_)) (fun unit => Twin.pure _))
          · rw [cellsOf, cellsOf, both.1.device?]
          · rw [firstUnit, firstUnit, funext both.1.device?]

theorem blind_dashboardView {request : Request} (guest : request.user.guestOnly = true) :
    Blind (dashboardView request) :=
  twin_roleRequired (Twin.bind (Twin.read (fun _ _ alike => by rw [guest, alike.annotateDevices]))
    (fun _ => Twin.pure _))

theorem blind_dashboardCardsView {request : Request} (guest : request.user.guestOnly = true) :
    Blind (dashboardCardsView request) :=
  twin_roleRequired (Twin.bind (Twin.read (fun _ _ alike => by rw [guest, alike.annotateDevices]))
    (fun _ => Twin.pure _))

theorem blind_overviewView {request : Request} (guest : request.user.guestOnly = true) :
    Blind (overviewView request) :=
  twin_roleRequired (Twin.bind (Twin.read (fun _ _ alike => alike.approvedDevices)) (fun _ =>
    Twin.bind (Twin.read (fun _ _ alike => by rw [guest, alike.metricsDevices])) (fun _ => Twin.pure _)))

theorem guestView_congr {viewer : User} (guest : viewer.guestOnly = true) {view : GuestView} {w v : World}
    (alike : SameToGuest w v) (guarded : view.Guarded w) :
    (outcome (view.run viewer) w).1 = (outcome (view.run viewer) v).1 ∧
      SameToGuest (after (view.run viewer) w) (after (view.run viewer) v) := by
  cases view with
  | chart => exact blind_chartDataView guest w v alike
  | overviewChart =>
    obtain ⟨same, kept⟩ := twin_overviewChart w v ⟨alike, guarded⟩
    exact ⟨same, kept.1⟩
  | dashboard => exact blind_dashboardView guest w v alike
  | dashboardCards => exact blind_dashboardCardsView guest w v alike
  | overview => exact blind_overviewView guest w v alike

def World.withReading (w : World) (deviceId metric : String) (time bucket : Time) : World :=
  let row : RollupRow := ⟨bucket, deviceId, metric, .finite 0, .finite 0, .finite 0, 1⟩
  { w with
    db.readings := w.db.readings ++ [⟨time, deviceId, metric, .finite 0⟩]
    db.hourly := w.db.hourly ++ [row]
    db.daily := w.db.daily ++ [row] }

theorem readings_withReading (w : World) (deviceId metric : String) (time bucket : Time) :
    (w.withReading deviceId metric time bucket).db.readings =
      w.db.readings ++ [⟨time, deviceId, metric, .finite 0⟩] := rfl

theorem rollupRows_withReading (w : World) (deviceId metric : String) (time bucket : Time) (view : Rollup) :
    rollupRows (w.withReading deviceId metric time bucket).db view =
      rollupRows w.db view ++ [⟨bucket, deviceId, metric, .finite 0, .finite 0, .finite 0, 1⟩] := by
  cases view <;> rfl

theorem alike_withReading {w : World} {deviceId metric : String} (hidden : w.shows deviceId metric = false)
    (time bucket : Time) : SameToGuest w (w.withReading deviceId metric time bucket) := by
  have same : ∀ id m, (w.withReading deviceId metric time bucket).shows id m = w.shows id m := fun _ _ => rfl
  refine ⟨rfl, ?_, fun view => ?_⟩
  · unfold World.shownReadings
    simp only [same]
    rw [readings_withReading, List.filter_append]
    simp [hidden]
  · unfold World.shownRows
    simp [same, rollupRows_withReading, hidden]

theorem times_perCell (cells : Nat) (s : Series) : (s.perCell cells).times = s.times := by
  unfold Series.perCell
  split <;> rfl

def pointsIn (id : String) (series : List (String × Series)) : Nat :=
  ((series.lookup id).map (fun s => s.times.length)).getD 0

theorem outcome_overviewChart {env : Env} {query : QueryDict} {viewer : User} {start stop : Stamp}
    {series : List (String × Series)} {w : World} {id : String} (admitted : viewer.may .guest = true)
    (named : QueryDict.get query "metric" "" ≠ "") (range : parseTimeRange env query = some (start, stop))
    (wanted : id ∈ wantedDevices query)
    (found : overviewSeries env w.db (wantedDevices query) (QueryDict.get query "metric" "") start stop =
      some series) :
    ∃ metric unit scaled, (outcome ((GuestView.overviewChart env query).run viewer) w).1 =
      .ok (.charts metric unit scaled) ∧ pointsIn id scaled = pointsIn id series := by
  have answer := @outcome_overviewChartDataView env { user := viewer, isPost := false, query := query } w _ _
    _ admitted named (List.ne_nil_of_mem wanted) range found
  refine ⟨_, _, _, congrArg Prod.fst answer, ?_⟩
  unfold perCellSeries
  split
  · have scaled := lookup_map_snd (fun d s => s.perCell (cellsOf w d)) series id
    unfold pointsIn
    rw [scaled]
    cases series.lookup id with
    | none => rfl
    | some s => simp [times_perCell]
  · rfl

theorem pointsIn_grouped {ρ : Type} (owner : ρ → String) (line : String → Series) (rows : List ρ) (id : String)
    (lengths : (line id).times.length = (rows.filter (fun r => owner r = id)).length) :
    pointsIn id ((OrderBy.distinct (rows.map owner)).map (fun d => (d, line d))) =
      (rows.filter (fun r => owner r = id)).length := by
  rw [pointsIn, lookup_tabulate]
  by_cases present : id ∈ rows.map owner
  · rw [if_pos (OrderBy.mem_distinct.mpr present)]
    exact lengths
  · rw [if_neg (fun h => present (OrderBy.mem_distinct.mp h))]
    have none : rows.filter (fun r => owner r = id) = [] := by
      rw [List.filter_eq_nil_iff]
      intro r member same
      exact present (List.mem_map.mpr ⟨r, member, by simpa using same⟩)
    rw [none]
    rfl

theorem overviewSeries_withReading {env : Env} {w : World} {deviceIds : List String} {metric id : String}
    {start stop : Stamp} {span : Time} (length : start.span stop = some span) (wanted : id ∈ deviceIds)
    (filled : span ≤ seconds 172800 → start.ormInstant env ≤ stop.ormInstant env) :
    ∃ before later, overviewSeries env w.db deviceIds metric start stop = some before ∧
      overviewSeries env (w.withReading id metric (start.ormInstant env) start.sqlInstant).db deviceIds metric
        start stop = some later ∧ pointsIn id later = pointsIn id before + 1 := by
  unfold overviewSeries
  rw [length]
  by_cases short : span ≤ seconds 172800
  · simp only [Option.map_some, if_pos short]
    refine ⟨_, _, rfl, rfl, ?_⟩
    rw [pointsIn_grouped SensorReading.deviceId _ _ _ (by simp [OrderBy.ascending]),
      pointsIn_grouped SensorReading.deviceId _ _ _ (by simp [OrderBy.ascending])]
    simp [readings_withReading, wanted, filled short]
  · simp only [Option.map_some, if_neg short]
    refine ⟨_, _, rfl, rfl, ?_⟩
    rw [pointsIn_grouped RollupRow.deviceId _ _ _ (by simp [OrderBy.ascending]),
      pointsIn_grouped RollupRow.deviceId _ _ _ (by simp [OrderBy.ascending])]
    have ordered : start.sqlInstant ≤ stop.sqlInstant := by
      have long : seconds 172800 < stop.sqlInstant - start.sqlInstant := Stamp.span_eq length ▸ not_le.mp short
      have positive : (0 : Time) < seconds 172800 := by decide
      exact sub_nonneg.mp (positive.trans long).le
    simp [rollupRows_withReading, wanted, ordered]

/-- The condition on overview charts is exact: the answer of an admitted one depends
on what a guest may see alone exactly when it reaches no device that hides the metric. -/
theorem overviewChart_guarded_iff {env : Env} {query : QueryDict} {viewer : User}
    (admitted : viewer.may .guest = true) (w : World) :
    (∀ v, SameToGuest w v → (outcome ((GuestView.overviewChart env query).run viewer) w).1 =
        (outcome ((GuestView.overviewChart env query).run viewer) v).1) ↔
      (GuestView.overviewChart env query).Guarded w := by
  constructor
  · intro same id reached
    by_contra hidden
    unfold reachedDevices at reached
    split at reached
    · cases reached
    · next named =>
      split at reached
      · cases reached
      · next start stop range =>
        split at reached
        · cases reached
        · next span length =>
          split at reached
          · cases reached
          · next filled =>
            have unseen : w.shows id (QueryDict.get query "metric" "") = false := by simpa using hidden
            have filled : span ≤ seconds 172800 → start.ormInstant env ≤ stop.ormInstant env :=
              fun short => not_lt.mp (fun empty => filled ⟨short, empty⟩)
            obtain ⟨before, later, found, found', more⟩ :=
              @overviewSeries_withReading env w _ (QueryDict.get query "metric" "") id _ _ _ length reached filled
            obtain ⟨_, _, scaled, answer, points⟩ := outcome_overviewChart admitted named range reached found
            obtain ⟨_, _, scaled', answer', points'⟩ := outcome_overviewChart admitted named range reached found'
            have equal := same _ (alike_withReading unseen (start.ormInstant env) start.sqlInstant)
            rw [answer, answer'] at equal
            cases equal
            omega
  · exact fun guarded v alike => (twin_overviewChart w v ⟨alike, guarded⟩).1

end SensorServer
