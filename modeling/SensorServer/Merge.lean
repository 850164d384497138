import SensorServer.Exactness

/-! Merging a device into another one: which of two series of a metric survives, and
what is left of the histories of both. -/
namespace SensorServer
open Program

def ofMetric (metric : String) (readings : List SensorReading) : List SensorReading :=
  readings.filter (fun r => r.metric = metric)

def World.series (w : World) (deviceId metric : String) : List SensorReading :=
  ownedBy SensorReading.deviceId deviceId (ofMetric metric w.db.readings)

def World.SourceNewer (w : World) (source target metric : String) : Prop :=
  ∃ r ∈ w.series source metric, ∀ q ∈ w.series target metric, q.time < r.time

instance (w : World) (source target metric : String) : Decidable (w.SourceNewer source target metric) :=
  inferInstanceAs (Decidable (∃ r ∈ w.series source metric, ∀ q ∈ w.series target metric, q.time < r.time))

/-- What the loop of _merge_devices makes of the rows of a shared metric. -/
def resolved (source target : String) (wins : Bool) (rows : List SensorReading) : List SensorReading :=
  if wins then
    transfer SensorReading.deviceId (SensorReading.renamed target) source
      (rows.filter (fun r => r.deviceId ≠ target))
  else rows.filter (fun r => r.deviceId ≠ source)

theorem filter_inSeries (readings : List SensorReading) (deviceId metric : String) :
    readings.filter (inSeries deviceId metric) =
      ownedBy SensorReading.deviceId deviceId (ofMetric metric readings) := by
  unfold ownedBy ofMetric inSeries
  rw [List.filter_filter]

theorem ofMetric_moveReadings (metric : String) (which : SensorReading → Bool) (target : String)
    (w : World) :
    ofMetric metric (w.apply (.moveReadings which target)).db.readings =
      (ofMetric metric w.db.readings).map (fun r => if which r then { r with deviceId := target } else r) := by
  unfold ofMetric World.apply
  dsimp only
  rw [List.filter_map]
  refine congrArg _ (List.filter_congr (fun r _ => ?_))
  dsimp only [Function.comp]
  split <;> rfl

theorem ofMetric_deleteReadings (metric : String) (which : SensorReading → Bool) (w : World) :
    ofMetric metric (w.apply (.deleteReadings which)).db.readings =
      (ofMetric metric w.db.readings).filter (fun r => !which r) := by
  unfold ofMetric World.apply
  dsimp only
  rw [List.filter_filter, List.filter_filter]
  exact List.filter_congr (fun r _ => Bool.and_comm _ _)

theorem metric_of_mem {metric : String} {readings : List SensorReading} {r : SensorReading}
    (member : r ∈ ofMetric metric readings) : r.metric = metric := by
  simpa using List.of_mem_filter member

section Metric
variable {source target metric : String} {w : World}

theorem ofMetric_moveSeries (m : String) :
    ofMetric m (w.apply (.moveReadings (inSeries source metric) target)).db.readings =
      if m = metric then
        transfer SensorReading.deviceId (SensorReading.renamed target) source (ofMetric m w.db.readings)
      else ofMetric m w.db.readings := by
  rw [ofMetric_moveReadings]
  split
  · next same =>
    refine List.map_congr_left (fun r member => ?_)
    simp [inSeries, metric_of_mem member, same, SensorReading.renamed]
  · next other =>
    conv_rhs => rw [← List.map_id (ofMetric m w.db.readings)]
    refine List.map_congr_left (fun r member => ?_)
    simp [inSeries, metric_of_mem member, other]

theorem ofMetric_deleteSeries (m : String) :
    ofMetric m (w.apply (.deleteReadings (inSeries source metric))).db.readings =
      if m = metric then (ofMetric m w.db.readings).filter (fun r => r.deviceId ≠ source)
      else ofMetric m w.db.readings := by
  rw [ofMetric_deleteReadings]
  split
  · next same =>
    refine List.filter_congr (fun r member => ?_)
    simp [inSeries, metric_of_mem member, same]
  · next other =>
    rw [List.filter_eq_self]
    intro r member
    simp [inSeries, metric_of_mem member, other]

theorem sourceWins_congr {readings readings' : List SensorReading}
    (same : ofMetric metric readings' = ofMetric metric readings) :
    sourceWins readings' source target metric = sourceWins readings source target metric := by
  unfold sourceWins latestTime
  rw [filter_inSeries, filter_inSeries, filter_inSeries, filter_inSeries, same]

theorem readings_mergeMetric (m : String) :
    ofMetric m (after (mergeMetric source target metric) w).db.readings =
      if m = metric then
        resolved source target (sourceWins w.db.readings source target metric) (ofMetric m w.db.readings)
      else ofMetric m w.db.readings := by
  unfold mergeMetric resolved
  rw [after_read_bind]
  cases sourceWins w.db.readings source target metric with
  | false =>
    simp only [Bool.false_eq_true, if_false]
    exact ofMetric_deleteSeries m
  | true =>
    simp only [if_true]
    rw [after_bind_ok (outcome_emit _ w), after_emit, ofMetric_moveSeries, ofMetric_deleteSeries]
    split <;> rfl

end Metric

/-- The loop resolves each shared metric once, by the rows it had at the start. -/
theorem readings_mergeMetrics {source target : String} {metrics : List String} (once : metrics.Nodup)
    {w v : World} (ran : outcome (forEach metrics (mergeMetric source target)) w = (.ok (), v))
    (m : String) :
    ofMetric m v.db.readings =
      if m ∈ metrics then
        resolved source target (sourceWins w.db.readings source target m) (ofMetric m w.db.readings)
      else ofMetric m w.db.readings := by
  induction metrics generalizing w with
  | nil =>
    cases ran
    simp
  | cons metric metrics ih =>
    obtain ⟨new, rest⟩ := List.nodup_cons.mp once
    obtain ⟨⟨⟩, u, first, ran'⟩ := outcome_bind_eq_ok.mp ran
    have step : ∀ m, ofMetric m u.db.readings = _ := fun m =>
      (congrArg (fun w : World => ofMetric m w.db.readings) (congrArg Prod.snd first)).symm.trans
        (@readings_mergeMetric source target metric w m)
    have ih := ih rest ran'
    by_cases head : m = metric
    · subst head
      rw [ih, if_neg new, step, if_pos rfl, if_pos List.mem_cons_self]
    · have untouched : ofMetric m u.db.readings = ofMetric m w.db.readings := by
        rw [step, if_neg head]
      rw [ih, untouched, sourceWins_congr untouched]
      simp [head]

theorem latestTime_eq_some {readings : List SensorReading} {deviceId metric : String} {t : Time} :
    latestTime readings deviceId metric = some t ↔
      (∃ r ∈ ownedBy SensorReading.deviceId deviceId (ofMetric metric readings), r.time = t) ∧
      ∀ r ∈ ownedBy SensorReading.deviceId deviceId (ofMetric metric readings), r.time ≤ t := by
  unfold latestTime
  rw [filter_inSeries, List.max?_eq_some_iff]
  simp only [List.mem_map, forall_exists_index, and_imp, forall_apply_eq_imp_iff₂]

theorem latestTime_eq_none {readings : List SensorReading} {deviceId metric : String} :
    latestTime readings deviceId metric = none ↔
      ownedBy SensorReading.deviceId deviceId (ofMetric metric readings) = [] := by
  unfold latestTime
  rw [filter_inSeries, List.max?_eq_none_iff, List.map_eq_nil_iff]

theorem sourceWins_iff {w : World} {source target metric : String}
    (shared : w.series target metric ≠ []) :
    sourceWins w.db.readings source target metric = true ↔ w.SourceNewer source target metric := by
  unfold sourceWins World.SourceNewer
  cases ht : latestTime w.db.readings target metric with
  | none => exact absurd (latestTime_eq_none.mp ht) shared
  | some t =>
    obtain ⟨⟨q, inTarget, rfl⟩, newest⟩ := latestTime_eq_some.mp ht
    cases hs : latestTime w.db.readings source metric with
    | none =>
      refine iff_of_false Bool.false_ne_true ?_
      rintro ⟨r, member, -⟩
      rw [World.series, latestTime_eq_none.mp hs] at member
      cases member
    | some s =>
      obtain ⟨⟨r, inSource, rfl⟩, latest⟩ := latestTime_eq_some.mp hs
      simp only [decide_eq_true_eq]
      constructor
      · exact fun newer => ⟨r, inSource, fun p member => lt_of_le_of_lt (newest p member) newer⟩
      · rintro ⟨p, member, above⟩
        exact lt_of_lt_of_le (above q inTarget) (latest p member)

theorem mem_metricsOf {w : World} {deviceId metric : String} :
    metric ∈ metricsOf w.db.readings deviceId ↔ w.series deviceId metric ≠ [] := by
  unfold metricsOf World.series
  rw [List.mem_dedup, ← filter_inSeries, List.ne_nil_iff_exists_cons]
  constructor
  · intro member
    obtain ⟨r, own, named⟩ := List.mem_map.mp member
    have inside : r ∈ w.db.readings.filter (inSeries deviceId metric) := by
      obtain ⟨present, same⟩ := List.mem_filter.mp own
      exact List.mem_filter.mpr ⟨present, by simpa [inSeries, named] using same⟩
    obtain ⟨q, rest, same⟩ := List.exists_cons_of_ne_nil (List.ne_nil_of_mem inside)
    exact ⟨q, rest, same⟩
  · rintro ⟨q, rest, same⟩
    have inside : q ∈ w.db.readings.filter (inSeries deviceId metric) := same ▸ List.mem_cons_self
    obtain ⟨present, own⟩ := List.mem_filter.mp inside
    simp only [inSeries, Bool.and_eq_true, decide_eq_true_eq] at own
    exact List.mem_map.mpr ⟨q, List.mem_filter.mpr ⟨present, by simpa using own.1⟩, own.2⟩

theorem mergeRows_ran (source target : Device) (w : World) :
    ∃ v u, outcome (forEach ((metricsOf w.db.readings source.deviceId).filter
        (fun m => m ∈ metricsOf w.db.readings target.deviceId))
        (mergeMetric source.deviceId target.deviceId)) w = (.ok (), v) ∧
      outcome (forEach (newerSeen source target).toList
        (fun seen => saveDevice { target with lastSeen := some seen } [.lastSeen]))
        ((v.apply (.moveReadings (fun r => decide (r.deviceId = source.deviceId)) target.deviceId)).apply
          (.moveLogs source.deviceId target.deviceId)) = (.ok (), u) ∧
      u.db.readings =
        (v.apply (.moveReadings (fun r => decide (r.deviceId = source.deviceId)) target.deviceId)).db.readings ∧
      outcome (mergeRows source target) w = (.ok (), u.apply (.deleteDevice source.deviceId)) := by
  obtain ⟨v, merged, -, -⟩ := mergeMetrics_ran source.deviceId target.deviceId
    ((metricsOf w.db.readings source.deviceId).filter
      (fun m => m ∈ metricsOf w.db.readings target.deviceId)) w
  obtain ⟨u, seen, -, readings⟩ := saveSeen_ran source target
    ((v.apply (.moveReadings (fun r => decide (r.deviceId = source.deviceId)) target.deviceId)).apply
      (.moveLogs source.deviceId target.deviceId))
  refine ⟨v, u, merged, seen, readings, ?_⟩
  unfold mergeRows
  rw [outcome_bind_ok (outcome_read _ w), outcome_bind_ok merged, outcome_bind_ok (outcome_emit _ v),
    outcome_bind_ok (outcome_emit _ _), outcome_bind_ok seen]
  rfl

theorem readings_mergeRows {source target : Device} {w u : World}
    (ran : outcome (mergeRows source target) w = (.ok (), u)) (m : String) :
    ofMetric m u.db.readings =
      transfer SensorReading.deviceId (SensorReading.renamed target.deviceId) source.deviceId
        (if w.series source.deviceId m ≠ [] ∧ w.series target.deviceId m ≠ [] then
          resolved source.deviceId target.deviceId
            (sourceWins w.db.readings source.deviceId target.deviceId m) (ofMetric m w.db.readings)
        else ofMetric m w.db.readings) := by
  obtain ⟨v, t, merged, -, readings, last⟩ := mergeRows_ran source target w
  rw [ran] at last
  cases last
  have final : (t.apply (.deleteDevice source.deviceId)).db.readings = t.db.readings := rfl
  have once : ((metricsOf w.db.readings source.deviceId).filter
      (fun m => m ∈ metricsOf w.db.readings target.deviceId)).Nodup := (List.nodup_dedup _).filter _
  rw [final, readings, ofMetric_moveReadings, readings_mergeMetrics once merged m]
  have shared : m ∈ (metricsOf w.db.readings source.deviceId).filter
      (fun m => m ∈ metricsOf w.db.readings target.deviceId) ↔
      w.series source.deviceId m ≠ [] ∧ w.series target.deviceId m ≠ [] := by
    rw [List.mem_filter, mem_metricsOf, decide_eq_true_eq, mem_metricsOf]
  simp only [shared, transfer, SensorReading.renamed, decide_eq_true_eq]

section Series
variable {source target : String} {rows : List SensorReading}

theorem ownedBy_resolved_target (other : target ≠ source) (wins : Bool) :
    ownedBy SensorReading.deviceId target
        (transfer SensorReading.deviceId (SensorReading.renamed target) source
          (resolved source target wins rows)) =
      if wins then (ownedBy SensorReading.deviceId source rows).map (SensorReading.renamed target)
      else ownedBy SensorReading.deviceId target rows := by
  have given := SensorReading.deviceId_renamed target
  cases wins with
  | true =>
    have emptied : ownedBy SensorReading.deviceId target (rows.filter (fun r => r.deviceId ≠ target)) = [] :=
      ownedBy_filter_self
    have settled : ownedBy SensorReading.deviceId source (transfer SensorReading.deviceId
        (SensorReading.renamed target) source (rows.filter (fun r => r.deviceId ≠ target))) = [] :=
      ownedBy_transfer_source given other
    unfold resolved
    rw [if_pos rfl, if_pos rfl, transfer_idle settled, ownedBy_transfer_target given emptied,
      ownedBy_filter_other (Ne.symm other)]
  | false =>
    unfold resolved
    rw [if_neg Bool.false_ne_true, if_neg Bool.false_ne_true, transfer_idle ownedBy_filter_self,
      ownedBy_filter_other other]

theorem ownedBy_resolved_other {id : String} (notSource : id ≠ source) (notTarget : id ≠ target)
    (wins : Bool) :
    ownedBy SensorReading.deviceId id (resolved source target wins rows) =
      ownedBy SensorReading.deviceId id rows := by
  unfold resolved
  cases wins with
  | true =>
    rw [if_pos rfl, ownedBy_transfer_other (SensorReading.deviceId_renamed target) notSource notTarget,
      ownedBy_filter_other notTarget]
  | false => rw [if_neg Bool.false_ne_true, ownedBy_filter_other notSource]

end Series

theorem mergeDevices_committed {env : Env} (committed : env.commit = true) (source target : Device)
    (w : World) :
    ∃ u, outcome (mergeRows source target) w = (.ok (), u) ∧
      (after (mergeDevices env source target) w).db.readings = u.db.readings := by
  obtain ⟨v, t, -, -, -, ran⟩ := mergeRows_ran source target w
  refine ⟨_, ran, ?_⟩
  have block := outcome_transaction_ok.mpr ⟨ran, committed⟩
  unfold mergeDevices
  rw [after_bind_ok block]
  exact (after_refreshContinuousAggregates env _).1

/-- Each series of the target afterwards is, whole and in order, the one of the source
or the one of the target. -/
structure SeriesMerged (w v : World) (source target : String) : Prop where
  chosen : ∀ m, v.series target m =
    if w.SourceNewer source target m then (w.series source m).map (SensorReading.renamed target)
    else w.series target m
  emptied : ∀ m, v.series source m = []
  others : ∀ id m, id ≠ source → id ≠ target → v.series id m = w.series id m

theorem series_mergeRows {source target : Device} (other : target.deviceId ≠ source.deviceId) {w u : World}
    (ran : outcome (mergeRows source target) w = (.ok (), u)) :
    SeriesMerged w u source.deviceId target.deviceId := by
  have given := SensorReading.deviceId_renamed target.deviceId
  constructor
  · intro m
    unfold World.series
    rw [readings_mergeRows ran m]
    by_cases shared : w.series source.deviceId m ≠ [] ∧ w.series target.deviceId m ≠ []
    · rw [if_pos shared, ownedBy_resolved_target other]
      exact if_congr (sourceWins_iff shared.2) rfl rfl
    · rw [if_neg shared]
      by_cases absent : w.series source.deviceId m = []
      · have older : ¬ w.SourceNewer source.deviceId target.deviceId m := by
          rintro ⟨r, member, -⟩
          rw [absent] at member
          cases member
        rw [if_neg older]
        exact congrArg _ (transfer_idle absent)
      · have alone : w.series target.deviceId m = [] := by
          by_contra present
          exact shared ⟨absent, present⟩
        have newer : w.SourceNewer source.deviceId target.deviceId m := by
          obtain ⟨r, member⟩ := List.exists_mem_of_ne_nil _ absent
          refine ⟨r, member, fun q inside => ?_⟩
          rw [alone] at inside
          cases inside
        rw [if_pos newer]
        exact ownedBy_transfer_target given alone
  · intro m
    unfold World.series
    rw [readings_mergeRows ran m]
    exact ownedBy_transfer_source given other
  · intro id m notSource notTarget
    unfold World.series
    rw [readings_mergeRows ran m, ownedBy_transfer_other given notSource notTarget]
    split
    · exact ownedBy_resolved_other notSource notTarget _
    · rfl

/-- Once a merge commits, every series is resolved by the latest reading of each device. -/
theorem merge_resolves_series {env : Env} (committed : env.commit = true) {source target : Device}
    (other : target.deviceId ≠ source.deviceId) (w : World) :
    SeriesMerged w (after (mergeDevices env source target) w) source.deviceId target.deviceId := by
  obtain ⟨u, ran, readings⟩ := mergeDevices_committed committed source target w
  have merged := series_mergeRows other ran
  have same : ∀ id m, (after (mergeDevices env source target) w).series id m = u.series id m := by
    intro id m
    unfold World.series
    rw [readings]
  constructor
  · exact fun m => (same _ m).trans (merged.chosen m)
  · exact fun m => (same _ m).trans (merged.emptied m)
  · exact fun id m notSource notTarget => (same id m).trans (merged.others id m notSource notTarget)

def replacedProbe : Device := { deviceId := "probe01", createdAt := 0 }
def spareProbe : Device := { deviceId := "probe02", createdAt := 0 }

/-- The replaced probe has the newer temperature and the only humidity. -/
def twoProbes : World :=
  World.empty.apply (.addReadings
    [⟨seconds 1, "probe02", "temperature", .finite 18⟩, ⟨seconds 2, "probe01", "temperature", .finite 19⟩,
     ⟨seconds 2, "probe01", "humidity", .finite 50⟩])

theorem twoProbes_merged :
    SeriesMerged twoProbes (after (mergeDevices { now := seconds 9 } replacedProbe spareProbe) twoProbes)
      "probe01" "probe02" :=
  @merge_resolves_series { now := seconds 9 } rfl replacedProbe spareProbe (by decide) twoProbes

def newestStatus (logs : List DeviceStatusLog) : Option DeviceStatusLog :=
  OrderBy.latest DeviceStatusLog.time logs

def Db.AlertAgrees (db : Db) (id : String) : Prop :=
  ∀ d, db.devices.get? id = some d →
    statusPair (newestStatus (ownedBy DeviceStatusLog.device id db.statusLogs)) = d.alert

def bothLogs (source target : String) (logs : List DeviceStatusLog) : List DeviceStatusLog :=
  logs.filter (fun l => l.device = source ∨ l.device = target)

/-- Every row of the three logs of either device is now a row of the target, and the
target's badge shows the newest of them. -/
structure HistoryKept (w v : World) (source target : String) : Prop where
  statusLogs : ownedBy DeviceStatusLog.device target v.db.statusLogs =
    (bothLogs source target w.db.statusLogs).map (DeviceStatusLog.renamed target)
  diagLogs : ownedBy DeviceDiagLog.device target v.db.diagLogs =
    (w.db.diagLogs.filter (fun l => l.device = source ∨ l.device = target)).map (DeviceDiagLog.renamed target)
  commandLogs : ownedBy CommandLog.device target v.db.commandLogs.rows =
    (w.db.commandLogs.rows.filter (fun l => l.device = source ∨ l.device = target)).map
      (CommandLog.renamed target)
  alert : v.db.AlertAgrees target

def OnlyReadings (w v : World) : Prop := v = { w with db := { w.db with readings := v.db.readings } }

theorem onlyReadings_closed : Closed OnlyReadings where
  refl _ := rfl
  trans := by
    intro a b c first rest
    unfold OnlyReadings at *
    rw [rest, first]

theorem onlyReadings_mergeMetric (source target metric : String) :
    Upholds OnlyReadings (mergeMetric source target metric) := by
  refine Upholds.bind onlyReadings_closed (Upholds.read onlyReadings_closed _) (fun wins => ?_)
  split
  · exact Upholds.bind onlyReadings_closed (fun _ => rfl) (fun _ _ => rfl)
  · exact fun _ => rfl

/-- The logs after a merge, and the row of the target up to its last_seen. -/
structure LogsMoved (w v : World) (source : String) (target : Device) : Prop where
  statusLogs : v.db.statusLogs = (transfer DeviceStatusLog.device
    (DeviceStatusLog.renamed target.deviceId) source w.db.statusLogs).filter (fun l => l.device ≠ source)
  diagLogs : v.db.diagLogs = w.db.diagLogs.filter (fun l => l.device ≠ source)
  commandLogs : v.db.commandLogs.rows = (transfer CommandLog.device
    (CommandLog.renamed target.deviceId) source w.db.commandLogs.rows).filter (fun l => l.device ≠ source)
  row : (v.db.devices.get? target.deviceId).map Device.alert = some target.alert

theorem logs_mergeRows {source target : Device} (other : target.deviceId ≠ source.deviceId) {w u : World}
    (known : w.device? target.deviceId = some target)
    (ran : outcome (mergeRows source target) w = (.ok (), u)) :
    LogsMoved w u source.deviceId target := by
  obtain ⟨v, t, merged, seen, -, last⟩ := mergeRows_ran source target w
  rw [ran] at last
  cases last
  have only : OnlyReadings w v := by
    have valid : Upholds OnlyReadings (forEach ((metricsOf w.db.readings source.deviceId).filter
        (fun m => m ∈ metricsOf w.db.readings target.deviceId)) (mergeMetric source.deviceId target.deviceId)) :=
      Upholds.forEach onlyReadings_closed (fun m _ =>
        onlyReadings_mergeMetric source.deviceId target.deviceId m)
    replace valid := valid w
    rw [after, merged] at valid
    exact valid
  have moved : LogsMoved w ((((v.apply (.moveReadings (fun r => decide (r.deviceId = source.deviceId))
      target.deviceId)).apply (.moveLogs source.deviceId target.deviceId))).apply
      (.deleteDevice source.deviceId)) source.deviceId target := by
    rw [only]
    refine ⟨rfl, rfl, ?_, ?_⟩
    · simp [World.apply, World.moveLogs, World.cascade, transfer, Serial.rows_filter, Serial.rows_update,
        CommandLog.renamed]
    · have row : w.db.devices.get? target.deviceId = some target := known
      simp [World.apply, World.moveLogs, World.cascade, Table.get?_filter, row, other]
  cases newer : newerSeen source target with
  | none =>
    rw [newer] at seen
    cases seen
    exact moved
  | some time =>
    rw [newer] at seen
    simp only [Option.toList_some, forEach] at seen
    rw [outcome_bind, outcome_saveDevice, if_pos (by simp [Device.accepts])] at seen
    cases seen
    refine ⟨moved.statusLogs, moved.diagLogs, moved.commandLogs, ?_⟩
    rw [only]
    have row : w.db.devices.get? target.deviceId = some target := known
    simp [World.apply, World.moveLogs, World.cascade, Table.get?_filter, row, other, Device.alert]

theorem DeviceStatusLog.renamed_own {id : String} (l : DeviceStatusLog) (own : l.device = id) :
    l.renamed id = l := by
  subst own
  rfl

theorem DeviceDiagLog.renamed_own {id : String} (l : DeviceDiagLog) (own : l.device = id) :
    l.renamed id = l := by
  subst own
  rfl

theorem CommandLog.renamed_own {id : String} (l : CommandLog) (own : l.device = id) :
    l.renamed id = l := by
  subst own
  rfl

section History
variable {w v : World} {source target : Device}

theorem statusPair_renamed (id : String) (logs : List DeviceStatusLog) :
    statusPair (newestStatus (logs.map (DeviceStatusLog.renamed id))) = statusPair (newestStatus logs) := by
  have times : ∀ l : DeviceStatusLog, (l.renamed id).time = l.time := fun _ => rfl
  unfold newestStatus
  rw [OrderBy.latest_map times]
  cases OrderBy.latest DeviceStatusLog.time logs <;> rfl

theorem newestStatus_bothLogs {l : DeviceStatusLog} {id : String}
    (newest : newestStatus (bothLogs source.deviceId target.deviceId w.db.statusLogs) = some l)
    (own : l.device = id) (either : id = source.deviceId ∨ id = target.deviceId) :
    newestStatus (ownedBy DeviceStatusLog.device id w.db.statusLogs) = some l := by
  have inside := OrderBy.latest_filter (p := fun l => decide (l.device = id)) newest (by simpa using own)
  unfold newestStatus ownedBy
  unfold bothLogs at inside
  rw [List.filter_filter] at inside
  rw [← inside]
  refine congrArg _ (List.filter_congr (fun q _ => ?_))
  by_cases same : q.device = id
  · simp [same, either]
  · simp [same]

theorem statusPair_bothLogs_iff (known : w.device? target.deviceId = some target)
    (stored : w.device? source.deviceId = some source)
    (agree : w.db.AlertAgrees target.deviceId) (agree' : w.db.AlertAgrees source.deviceId) :
    statusPair (newestStatus (bothLogs source.deviceId target.deviceId w.db.statusLogs)) = target.alert ↔
      ∀ l, newestStatus (bothLogs source.deviceId target.deviceId w.db.statusLogs) = some l →
        l.device = target.deviceId ∨ source.alert = target.alert := by
  cases newest : newestStatus (bothLogs source.deviceId target.deviceId w.db.statusLogs) with
  | none =>
    refine iff_of_true ?_ (fun l found => by cases found)
    have nothing : ownedBy DeviceStatusLog.device target.deviceId w.db.statusLogs = [] := by
      have empty := OrderBy.latest_eq_none.mp newest
      unfold bothLogs at empty
      rw [List.filter_eq_nil_iff] at empty
      exact List.filter_eq_nil_iff.mpr (fun l member own => empty l member (by simp_all))
    have badge := agree target known
    rw [nothing] at badge
    exact badge
  | some l =>
    have member := (OrderBy.latest_spec newest).1
    have owner : l.device = source.deviceId ∨ l.device = target.deviceId := by
      simpa using List.of_mem_filter member
    simp only [Option.some.injEq, forall_eq']
    by_cases own : l.device = target.deviceId
    · have badge := agree target known
      rw [newestStatus_bothLogs newest own (.inr rfl)] at badge
      exact iff_of_true badge (.inl own)
    · have fromSource := owner.resolve_right own
      have badge := agree' source stored
      rw [newestStatus_bothLogs newest fromSource (.inl rfl)] at badge
      rw [badge]
      exact ⟨.inr, fun h => h.resolve_left own⟩

theorem historyKept_iff (other : target.deviceId ≠ source.deviceId)
    (moved : LogsMoved w v source.deviceId target) :
    HistoryKept w v source.deviceId target.deviceId ↔
      (∀ l ∈ w.db.diagLogs, l.device ≠ source.deviceId) ∧
      statusPair (newestStatus (bothLogs source.deviceId target.deviceId w.db.statusLogs)) = target.alert := by
  have logs : ownedBy DeviceStatusLog.device target.deviceId v.db.statusLogs =
      (bothLogs source.deviceId target.deviceId w.db.statusLogs).map
        (DeviceStatusLog.renamed target.deviceId) := by
    rw [moved.statusLogs, ownedBy_filter_other other, ownedBy_transfer_joined
      (DeviceStatusLog.device_renamed _) DeviceStatusLog.renamed_own]
    rfl
  have commands : ownedBy CommandLog.device target.deviceId v.db.commandLogs.rows =
      (w.db.commandLogs.rows.filter (fun l => l.device = source.deviceId ∨ l.device = target.deviceId)).map
        (CommandLog.renamed target.deviceId) := by
    rw [moved.commandLogs, ownedBy_filter_other other, ownedBy_transfer_joined
      (CommandLog.device_renamed _) CommandLog.renamed_own]
  have snapshots : ownedBy DeviceDiagLog.device target.deviceId v.db.diagLogs =
      ownedBy DeviceDiagLog.device target.deviceId w.db.diagLogs := by
    rw [moved.diagLogs, ownedBy_filter_other other]
  have badge : v.db.AlertAgrees target.deviceId ↔
      statusPair (newestStatus (bothLogs source.deviceId target.deviceId w.db.statusLogs)) = target.alert := by
    obtain ⟨d, row, same⟩ := Option.map_eq_some_iff.mp moved.row
    unfold Db.AlertAgrees
    rw [logs, statusPair_renamed]
    constructor
    · exact fun agree => (agree d row).trans same
    · intro fits e found
      cases row.symm.trans found
      exact fits.trans same.symm
  constructor
  · intro kept
    have same := kept.diagLogs
    rw [snapshots, ownedBy_eq_joined_iff DeviceDiagLog.renamed_own other] at same
    exact ⟨same, badge.mp kept.alert⟩
  · rintro ⟨none_, fits⟩
    refine ⟨logs, ?_, commands, badge.mpr fits⟩
    rw [snapshots]
    exact (ownedBy_eq_joined_iff DeviceDiagLog.renamed_own other).mpr none_

/-- A successful merge keeps the history of both devices exactly when the source has no
diagnostics snapshots and the newest status row does not contradict the target's badge. -/
theorem merge_keeps_history_iff {env : Env} (other : target.deviceId ≠ source.deviceId)
    (stored : w.device? source.deviceId = some source) (known : w.device? target.deviceId = some target)
    (agree : w.db.AlertAgrees target.deviceId) (agree' : w.db.AlertAgrees source.deviceId)
    (succeeds : outcome (mergeDevices env source target) w = (.ok (), v)) :
    HistoryKept w v source.deviceId target.deviceId ↔
      (∀ l ∈ w.db.diagLogs, l.device ≠ source.deviceId) ∧
      ∀ l, newestStatus (bothLogs source.deviceId target.deviceId w.db.statusLogs) = some l →
        l.device = target.deviceId ∨ source.alert = target.alert := by
  unfold mergeDevices at succeeds
  obtain ⟨⟨⟩, t, block, refresh⟩ := outcome_bind_eq_ok.mp succeeds
  obtain ⟨-, -, rfl⟩ := outcome_refreshContinuousAggregates_ok.mp refresh
  have moved := logs_mergeRows other known (outcome_transaction_ok.mp block).1
  have refreshed : LogsMoved w t.refreshed source.deviceId target :=
    ⟨moved.statusLogs, moved.diagLogs, moved.commandLogs, moved.row⟩
  rw [historyKept_iff other refreshed, statusPair_bothLogs_iff known stored agree agree']

end History

/-- The probe before its replacement and after: neither has a history yet. -/
def knownProbes : World :=
  (World.empty.apply (.createDevice replacedProbe)).apply (.createDevice spareProbe)

instance (db : Db) (id : String) : Decidable (db.AlertAgrees id) :=
  match found : db.devices.get? id with
  | none => .isTrue (fun d known => by rw [found] at known; cases known)
  | some row =>
    decidable_of_iff (statusPair (newestStatus (ownedBy DeviceStatusLog.device id db.statusLogs)) = row.alert)
      ⟨fun fits d known => by rw [found] at known; cases known; exact fits, fun agree => agree row found⟩

theorem knownProbes_keep_history :
    HistoryKept knownProbes (after (mergeDevices { now := seconds 9 } replacedProbe spareProbe) knownProbes)
      "probe01" "probe02" :=
  (@merge_keeps_history_iff knownProbes _ replacedProbe spareProbe { now := seconds 9 } (by decide)
    (by decide) (by decide) (by decide) (by decide) (outcome_of_isOk (by decide))).mpr
    ⟨by decide, fun _ found => by cases found⟩

/-- A snapshot of the replaced probe. -/
def probeSnapshot : World :=
  knownProbes.apply (.addDiagLog
    ⟨seconds 5, "probe01", .ok, "", none, some 3, none, none, none, none, none, none, none, none, none⟩)

theorem probeSnapshot_lost :
    (outcome (mergeDevices { now := seconds 9 } replacedProbe spareProbe) probeSnapshot).1.isOk = true ∧
    ¬ HistoryKept probeSnapshot
      (after (mergeDevices { now := seconds 9 } replacedProbe spareProbe) probeSnapshot)
      "probe01" "probe02" := by
  refine ⟨by decide, fun kept => ?_⟩
  have differs : ownedBy DeviceDiagLog.device "probe02"
      (after (mergeDevices { now := seconds 9 } replacedProbe spareProbe) probeSnapshot).db.diagLogs ≠
      (probeSnapshot.db.diagLogs.filter (fun l => l.device = "probe01" ∨ l.device = "probe02")).map
        (DeviceDiagLog.renamed "probe02") := by
    decide
  exact differs kept.diagLogs

end SensorServer
