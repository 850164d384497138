import SensorServer.World
import SensorServer.Lib.Aggregate

/-! The continuous aggregates readings_hourly and readings_daily: statistics over
UTC-aligned buckets, materialised by refreshes (readings/migrations/0002). -/
namespace SensorServer
open Program

def Rollup.width : Rollup → Time
  | .hourly => seconds 3600
  | .daily => seconds 86400

/-- time_bucket(width, time) -/
def timeBucket (width time : Time) : Time := time / width * width

abbrev GroupKey := Time × String × String

def SensorReading.group (width : Time) (r : SensorReading) : GroupKey :=
  (timeBucket width r.time, r.deviceId, r.metric)

def RollupRow.group (row : RollupRow) : GroupKey := (row.bucket, row.deviceId, row.metric)

/-- min and max of PostgreSQL, where NaN is greater than every number. -/
def pgLe (a b : PyFloat) : Bool := b = .nan || a.le b

def pgMin (a b : PyFloat) : PyFloat := if pgLe a b then a else b
def pgMax (a b : PyFloat) : PyFloat := if pgLe a b then b else a

def statistics (key : GroupKey) (rows : List SensorReading) : RollupRow :=
  let values := rows.map SensorReading.value
  { bucket := key.1, deviceId := key.2.1, metric := key.2.2
    avgValue := (PyFloat.sum values).divNat values.length
    minValue := values.tail.foldl pgMin (values.headD .nan)
    maxValue := values.tail.foldl pgMax (values.headD .nan)
    sampleCount := values.length }

def aggregate (width : Time) : Aggregate SensorReading GroupKey RollupRow where
  group := SensorReading.group width
  row := statistics
  key := RollupRow.group
  count := RollupRow.sampleCount
  keyed _ _ := rfl
  counted _ rs := by simp [statistics]

def materialize (width : Time) (raw : List SensorReading) : List RollupRow := (aggregate width).view raw

def rollupRows (db : Db) : Rollup → List RollupRow
  | .hourly => db.hourly
  | .daily => db.daily

def insideWindow (width start stop bucket : Time) : Bool :=
  decide (start ≤ bucket) && decide (bucket + width ≤ stop)

def firstBucket (width start : Time) : Time := timeBucket width (start + width - 1)

def windowHasBucket (width start stop : Time) : Bool :=
  insideWindow width start stop (firstBucket width start)

/-- The rows after CALL refresh_continuous_aggregate(view, start, stop). -/
def refreshedRows (width start stop : Time) (raw : List SensorReading) (rows : List RollupRow) :
    List RollupRow :=
  (aggregate width).recompute (fun key => insideWindow width start stop key.1) raw rows

def refreshAll (env : Env) (view : Rollup) : Act Unit := do
  let raw ← read (fun w => w.db.readings)
  if env.refresh view then emit (.setRollup view (materialize view.width raw)) else fail .database

/-- CALL refresh_continuous_aggregate(view, start, stop): no bucket in the window is an error. -/
def refreshWindow (env : Env) (view : Rollup) (start stop : Time) : Act Unit := do
  let db ← read World.db
  if env.refresh view && windowHasBucket view.width start stop then
    emit (.setRollup view
      (refreshedRows view.width start stop db.readings (rollupRows db view)))
  else fail .database

def refreshContinuousAggregates (env : Env) : Act Unit := do
  refreshAll env .hourly
  refreshAll env .daily

section Refresh
variable {R : World → World → Prop} (closed : Closed R) {env : Env}
  (set : ∀ w view rows, R w (w.apply (.setRollup view rows)))
include closed set

theorem upholds_refreshAll (view : Rollup) : Upholds R (refreshAll env view) := by
  refine Upholds.bind closed (Upholds.read closed _) (fun raw => ?_)
  split
  · exact upholds_emit (fun w => set w _ _)
  · exact Upholds.fail closed _

theorem upholds_refreshWindow (view : Rollup) (start stop : Time) :
    Upholds R (refreshWindow env view start stop) := by
  refine Upholds.bind closed (Upholds.read closed _) (fun db => ?_)
  split
  · exact upholds_emit (fun w => set w _ _)
  · exact Upholds.fail closed _

theorem upholds_refreshContinuousAggregates : Upholds R (refreshContinuousAggregates env) :=
  Upholds.bind closed (upholds_refreshAll closed set .hourly) (fun _ => upholds_refreshAll closed set .daily)

end Refresh

theorem outcome_refreshAll_ok {env : Env} {view : Rollup} {w v : World} :
    outcome (refreshAll env view) w = (.ok (), v) ↔
      env.refresh view = true ∧ v = w.apply (.setRollup view (materialize view.width w.db.readings)) := by
  unfold refreshAll
  rw [outcome_bind, outcome_read]
  by_cases up : env.refresh view = true
  · simp [up, outcome_emit_eq_ok]
  · simp [up]

def World.refreshed (w : World) : World :=
  (w.apply (.setRollup .hourly (materialize Rollup.hourly.width w.db.readings))).apply
    (.setRollup .daily (materialize Rollup.daily.width w.db.readings))

theorem outcome_refreshContinuousAggregates_ok {env : Env} {w v : World} :
    outcome (refreshContinuousAggregates env) w = (.ok (), v) ↔
      env.refresh .hourly = true ∧ env.refresh .daily = true ∧ v = w.refreshed := by
  unfold refreshContinuousAggregates
  rw [outcome_bind_eq_ok]
  constructor
  · rintro ⟨⟨⟩, t, first, second⟩
    obtain ⟨hourly, rfl⟩ := outcome_refreshAll_ok.mp first
    obtain ⟨daily, rfl⟩ := outcome_refreshAll_ok.mp second
    exact ⟨hourly, daily, rfl⟩
  · rintro ⟨hourly, daily, rfl⟩
    exact ⟨(), _, outcome_refreshAll_ok.mpr ⟨hourly, rfl⟩, outcome_refreshAll_ok.mpr ⟨daily, rfl⟩⟩

example : timeBucket (seconds 3600) (seconds 7201) = seconds 7200 := by decide
example : windowHasBucket (seconds 3600) (seconds 1) (seconds 7199) = false := by decide

end SensorServer
