import SensorServer.Rename
import SensorServer.ReadingViews

/-! The continuous aggregates under the four operations that take readings away: each
restores them in its own way, and not always. -/
namespace SensorServer
open Program

/-- Every materialised row is the one the raw table gives. -/
def Db.Exact (db : Db) : Prop :=
  ∀ view : Rollup, (aggregate view.width).Exact db.readings (rollupRows db view)

theorem exact_refreshed (w : World) : w.refreshed.db.Exact := by
  intro view
  rw [rollupRows_refreshed]
  exact Aggregate.exact_view

theorem timeBucket_le_firstBucket {width start t : Time} (positive : 0 < width)
    (inside : start ≤ timeBucket width t) : firstBucket width start ≤ timeBucket width t := by
  unfold firstBucket timeBucket at *
  have next : (start + width - 1) / width ≤ t / width := by
    have bound : start + width - 1 < (t / width + 1) * width := by
      have expand : (t / width + 1) * width = t / width * width + width := by ring
      rw [expand]
      linarith
    have less := (Int.ediv_lt_iff_lt_mul positive).mpr bound
    exact Int.lt_add_one_iff.mp less
  exact mul_le_mul_of_nonneg_right next (le_of_lt positive)

theorem le_firstBucket {width start : Time} (positive : 0 < width) : start ≤ firstBucket width start := by
  unfold firstBucket timeBucket
  have split := Int.emod_add_mul_ediv (start + width - 1) width
  have small := Int.emod_lt_of_pos (start + width - 1) positive
  rw [mul_comm] at split
  linarith

theorem windowHasBucket_of_inside {width start stop t : Time} (positive : 0 < width)
    (inside : insideWindow width start stop (timeBucket width t) = true) :
    windowHasBucket width start stop = true := by
  unfold windowHasBucket insideWindow at *
  simp only [Bool.and_eq_true, decide_eq_true_eq] at inside ⊢
  have first := timeBucket_le_firstBucket positive inside.1
  exact ⟨le_firstBucket positive, by linarith [inside.2]⟩

theorem width_pos (view : Rollup) : 0 < view.width := by cases view <;> decide

def refreshes (env : Env) (d : Deletion) (view : Rollup) : Bool :=
  env.refresh view && windowHasBucket view.width d.start.sqlInstant d.stop.sqlInstant

def rowsAfter (env : Env) (d : Deletion) (db : Db) (tried : Bool) (view : Rollup) : List RollupRow :=
  if tried then
    refreshedRows view.width d.start.sqlInstant d.stop.sqlInstant
      (db.readings.filter (fun r => !d.selects env r)) (rollupRows db view)
  else rollupRows db view

theorem outcome_refreshWindow (env : Env) (view : Rollup) (start stop : Time) (w : World) :
    outcome (refreshWindow env view start stop) w =
      if env.refresh view && windowHasBucket view.width start stop then
        (.ok (), w.apply (.setRollup view
          (refreshedRows view.width start stop w.db.readings (rollupRows w.db view))))
      else (.error .database, w) := by
  unfold refreshWindow
  rw [outcome_bind, outcome_read]
  dsimp only
  split <;> rfl

section Delete
variable {env : Env} {d : Deletion} {w : World}

theorem deleteSelected_none (none_ : ∀ r ∈ w.db.readings, d.selects env r = false) :
    after (deleteSelected env d) w = w := by
  have empty : w.db.readings.filter (d.selects env) = [] := by
    simpa [List.filter_eq_nil_iff] using none_
  unfold deleteSelected
  rw [after_read_bind, empty]
  rfl

theorem deleteSelected_some {r : SensorReading} (present : r ∈ w.db.readings)
    (selected : d.selects env r = true) :
    (after (deleteSelected env d) w).db.readings = w.db.readings.filter (fun r => !d.selects env r) ∧
    rollupRows (after (deleteSelected env d) w).db .hourly =
      rowsAfter env d w.db (refreshes env d .hourly) .hourly ∧
    rollupRows (after (deleteSelected env d) w).db .daily =
      rowsAfter env d w.db (refreshes env d .hourly && refreshes env d .daily) .daily := by
  have some_ : (w.db.readings.filter (d.selects env)).length ≠ 0 := by
    have member : r ∈ w.db.readings.filter (d.selects env) := List.mem_filter.mpr ⟨present, selected⟩
    exact Nat.ne_of_gt (List.length_pos_of_mem member)
  unfold deleteSelected
  rw [after_read_bind, if_neg some_]
  have deleted : outcome (emit (.deleteReadings (d.selects env))) w =
      (.ok (), w.apply (.deleteReadings (d.selects env))) := rfl
  rw [after_bind_ok deleted]
  have first := outcome_refreshWindow env .hourly d.start.sqlInstant d.stop.sqlInstant
    (w.apply (.deleteReadings (d.selects env)))
  cases hourly : refreshes env d .hourly with
  | false =>
    unfold refreshes at hourly
    rw [if_neg (by simp [hourly])] at first
    rw [after_bind_error first]
    exact ⟨rfl, rfl, rfl⟩
  | true =>
    unfold refreshes at hourly
    rw [if_pos hourly] at first
    rw [after_bind_ok first]
    have second := outcome_refreshWindow env .daily d.start.sqlInstant d.stop.sqlInstant
      ((w.apply (.deleteReadings (d.selects env))).apply (.setRollup .hourly
        (refreshedRows Rollup.hourly.width d.start.sqlInstant d.stop.sqlInstant
          (w.apply (.deleteReadings (d.selects env))).db.readings
          (rollupRows (w.apply (.deleteReadings (d.selects env))).db .hourly))))
    cases daily : refreshes env d .daily with
    | false =>
      unfold refreshes at daily
      rw [if_neg (by simp [daily])] at second
      rw [after_bind_error second]
      exact ⟨rfl, rfl, rfl⟩
    | true =>
      unfold refreshes at daily
      rw [if_pos daily] at second
      rw [after_bind_ok second]
      exact ⟨rfl, rfl, rfl⟩

theorem exact_rowsAfter_iff {view : Rollup} {tried : Bool} (exact : w.db.Exact) :
    (aggregate view.width).Exact (w.db.readings.filter (fun r => !d.selects env r))
        (rowsAfter env d w.db tried view) ↔
      ∀ r ∈ w.db.readings, d.selects env r = true → tried = true ∧
        insideWindow view.width d.start.sqlInstant d.stop.sqlInstant (timeBucket view.width r.time) =
          true := by
  unfold rowsAfter
  cases tried with
  | true =>
    rw [if_pos rfl]
    have restored := Aggregate.exact_recompute_iff (exact view)
      (fun key => insideWindow view.width d.start.sqlInstant d.stop.sqlInstant key.1)
      (fun r => !d.selects env r)
    refine restored.trans ?_
    simp [aggregate, SensorReading.group]
  | false =>
    rw [if_neg (by simp)]
    refine (Aggregate.exact_filter_iff (exact view) (fun r => !d.selects env r)).trans ?_
    simp

def Deletion.Covered (env : Env) (d : Deletion) (w : World) : Prop :=
  ∀ view : Rollup, ∀ r ∈ w.db.readings, d.selects env r = true → env.refresh view = true ∧
    insideWindow view.width d.start.sqlInstant d.stop.sqlInstant (timeBucket view.width r.time) = true

theorem exact_deleteSelected_iff (exact : w.db.Exact) :
    (after (deleteSelected env d) w).db.Exact ↔ d.Covered env w := by
  by_cases none_ : ∀ r ∈ w.db.readings, d.selects env r = false
  · rw [deleteSelected_none none_]
    refine iff_of_true exact (fun view r present selected => ?_)
    rw [none_ r present] at selected
    cases selected
  · have some_ : ∃ q ∈ w.db.readings, d.selects env q = true := by simpa using none_
    obtain ⟨q, there, chosen⟩ := some_
    obtain ⟨readings, hourly, daily⟩ := deleteSelected_some there chosen
    have views : (after (deleteSelected env d) w).db.Exact ↔
        (∀ r ∈ w.db.readings, d.selects env r = true → refreshes env d .hourly = true ∧
          insideWindow Rollup.hourly.width d.start.sqlInstant d.stop.sqlInstant
            (timeBucket Rollup.hourly.width r.time) = true) ∧
        (∀ r ∈ w.db.readings, d.selects env r = true →
          (refreshes env d .hourly && refreshes env d .daily) = true ∧
          insideWindow Rollup.daily.width d.start.sqlInstant d.stop.sqlInstant
            (timeBucket Rollup.daily.width r.time) = true) := by
      rw [← exact_rowsAfter_iff exact, ← exact_rowsAfter_iff exact, ← hourly, ← daily, ← readings]
      constructor
      · exact fun all => ⟨all .hourly, all .daily⟩
      · rintro ⟨first, second⟩ (_ | _)
        · exact first
        · exact second
    rw [views]
    constructor
    · rintro ⟨first, second⟩ view r present selected
      cases view with
      | hourly =>
        obtain ⟨went, inside⟩ := first r present selected
        exact ⟨(Bool.and_eq_true_iff.mp went).1, inside⟩
      | daily =>
        obtain ⟨went, inside⟩ := second r present selected
        exact ⟨(Bool.and_eq_true_iff.mp (Bool.and_eq_true_iff.mp went).2).1, inside⟩
    · intro covered
      have goes : ∀ view, ∀ r ∈ w.db.readings, d.selects env r = true → refreshes env d view = true := by
        intro view r present selected
        obtain ⟨up, inside⟩ := covered view r present selected
        exact Bool.and_eq_true_iff.mpr ⟨up, windowHasBucket_of_inside (width_pos view) inside⟩
      constructor
      · intro r present selected
        exact ⟨goes .hourly r present selected, (covered .hourly r present selected).2⟩
      · intro r present selected
        exact ⟨Bool.and_eq_true_iff.mpr ⟨goes .hourly r present selected, goes .daily r present selected⟩,
          (covered .daily r present selected).2⟩

end Delete

def plannedDeletion (env : Env) (request : Request) (deviceId : String) (w : World) : Option Deletion :=
  if request.user.may .admin && (w.device? deviceId).isSome && request.isPost then
    match env.parseDatetime (QueryDict.get request.post "start" ""),
        env.parseDatetime (QueryDict.get request.post "end" "") with
    | .stamp start, .stamp stop =>
      (start.span stop).bind (fun span => if span ≤ 0 then none
        else some ⟨deviceId, pyStrip (QueryDict.get request.post "metric" ""), start, stop⟩)
    | _, _ => none
  else none

theorem after_deleteReadingsView {env : Env} {request : Request} {deviceId : String} {w : World} :
    after (deleteReadingsView env request deviceId) w =
      match plannedDeletion env request deviceId w with
      | some d => after (deleteSelected env d) w
      | none => w := by
  unfold deleteReadingsView plannedDeletion getDeviceOr404
  rw [roleRequired_eq]
  cases request.user.may .admin with
  | false => rfl
  | true =>
    rw [if_pos rfl, after_read_bind]
    cases w.device? deviceId with
    | none => rfl
    | some device =>
      cases request.isPost with
      | false => rfl
      | true =>
        cases env.parseDatetime (QueryDict.get request.post "start" "") <;>
          cases env.parseDatetime (QueryDict.get request.post "end" "") <;> try rfl
        next start stop =>
          dsimp only
          cases start.span stop with
          | none => rfl
          | some span =>
            by_cases empty : span ≤ 0
            · simp [empty]
            · simp [empty]

theorem exact_deleteReadingsView_iff {env : Env} {request : Request} {deviceId : String} {w : World}
    (exact : w.db.Exact) :
    (after (deleteReadingsView env request deviceId) w).db.Exact ↔
      ∀ d, plannedDeletion env request deviceId w = some d → d.Covered env w := by
  rw [after_deleteReadingsView]
  cases plannedDeletion env request deviceId w with
  | none => simpa using exact
  | some d => simpa using exact_deleteSelected_iff exact

def Unread (w : World) (deviceId : String) : Prop := ∀ r ∈ w.db.readings, r.deviceId ≠ deviceId

def deletesDevice (request : Request) (deviceId : String) (w : World) : Bool :=
  request.user.may .admin && (w.device? deviceId).isSome && request.isPost

theorem exact_deleteDevice_iff {env : Env} {device : Device} {w : World} (exact : w.db.Exact) :
    (after (deleteDevice env device) w).db.Exact ↔ env.commit = false ∨ Unread w device.deviceId := by
  unfold deleteDevice
  cases taken : env.commit with
  | false =>
    have same : (after (transaction env (do
        emit (.deleteReadings (fun r => decide (r.deviceId = device.deviceId)))
        emit (.deleteDevice device.deviceId))) w).db = w.db := by
      rcases run : outcome (transaction env (do
        emit (.deleteReadings (fun r => decide (r.deviceId = device.deviceId)))
        emit (.deleteDevice device.deviceId))) w with ⟨e | ⟨⟩, v⟩
      · rw [after, run]
        exact db_of_transaction_error run
      · have committed := (outcome_transaction_ok.mp run).2
        rw [taken] at committed
        cases committed
    rw [same]
    exact iff_of_true exact (.inl rfl)
  | true =>
    have run : outcome (transaction env (do
        emit (.deleteReadings (fun r => decide (r.deviceId = device.deviceId)))
        emit (.deleteDevice device.deviceId))) w =
        (.ok (), (w.apply (.deleteReadings (fun r => decide (r.deviceId = device.deviceId)))).apply
          (.deleteDevice device.deviceId)) := outcome_transaction_ok.mpr ⟨rfl, taken⟩
    rw [after, run]
    have views : ((w.apply (.deleteReadings (fun r => decide (r.deviceId = device.deviceId)))).apply
        (.deleteDevice device.deviceId)).db.Exact ↔ ∀ view : Rollup, (aggregate view.width).Exact
          (w.db.readings.filter (fun r => !decide (r.deviceId = device.deviceId))) (rollupRows w.db view) := by
      refine forall_congr' (fun view => ?_)
      cases view <;> rfl
    rw [views]
    simp only [Aggregate.exact_filter_iff (exact _)]
    constructor
    · intro kept
      refine .inr (fun r present => ?_)
      simpa using kept .hourly r present
    · rintro (aborted | unread) view r present
      · cases aborted
      · simpa using unread r present

theorem outcome_refreshAll (env : Env) (view : Rollup) (w : World) :
    outcome (refreshAll env view) w =
      if env.refresh view then (.ok (), w.apply (.setRollup view (materialize view.width w.db.readings)))
      else (.error .database, w) := by
  unfold refreshAll
  rw [outcome_bind, outcome_read]
  dsimp only
  split <;> rfl

theorem after_refreshContinuousAggregates (env : Env) (u : World) :
    (after (refreshContinuousAggregates env) u).db.readings = u.db.readings ∧
    (∀ view, rollupRows (after (refreshContinuousAggregates env) u).db view = rollupRows u.db view ∨
      rollupRows (after (refreshContinuousAggregates env) u).db view =
        materialize view.width u.db.readings) ∧
    (¬ (env.refresh .hourly = true ∧ env.refresh .daily = true) →
      ∃ view, rollupRows (after (refreshContinuousAggregates env) u).db view = rollupRows u.db view) := by
  unfold refreshContinuousAggregates
  have first := outcome_refreshAll env .hourly u
  cases hourly : env.refresh .hourly with
  | false =>
    rw [if_neg (by simp [hourly])] at first
    rw [after_bind_error first]
    exact ⟨rfl, fun _ => .inl rfl, fun _ => ⟨.hourly, rfl⟩⟩
  | true =>
    rw [if_pos hourly] at first
    rw [after_bind_ok first]
    have second := outcome_refreshAll env .daily
      (u.apply (.setRollup .hourly (materialize Rollup.hourly.width u.db.readings)))
    unfold after
    cases daily : env.refresh .daily with
    | false =>
      rw [if_neg (by simp [daily])] at second
      rw [second]
      refine ⟨rfl, ?_, fun _ => ⟨.daily, rfl⟩⟩
      rintro (_ | _)
      · exact .inr rfl
      · exact .inl rfl
    | true =>
      rw [if_pos daily] at second
      rw [second]
      refine ⟨rfl, ?_, fun missing => absurd ⟨rfl, rfl⟩ missing⟩
      rintro (_ | _)
      · exact .inr rfl
      · exact .inr rfl

/-- The readings of a source have all gone, and nothing has changed when there were none. -/
structure MovedAway (source : String) (w u : World) : Prop where
  views : ∀ view, rollupRows u.db view = rollupRows w.db view
  gone : Unread u source
  idle : Unread w source → u.db.readings = w.db.readings

theorem exact_refreshed_iff {env : Env} {source : String} {w u : World} (exact : w.db.Exact)
    (moved : MovedAway source w u) :
    (after (refreshContinuousAggregates env) u).db.Exact ↔
      Unread w source ∨ (env.refresh .hourly = true ∧ env.refresh .daily = true) := by
  obtain ⟨readings, either, missed⟩ := after_refreshContinuousAggregates env u
  constructor
  · intro restored
    by_contra neither
    obtain ⟨some_, failed⟩ := not_or.mp neither
    obtain ⟨r, present, own⟩ : ∃ r ∈ w.db.readings, r.deviceId = source := by
      simpa [Unread] using some_
    obtain ⟨view, stale⟩ := missed failed
    have still := restored view
    rw [readings, stale, moved.views] at still
    refine Aggregate.not_exact_of_gone (exact view) present (fun q there same => ?_) still
    have owner : q.deviceId = r.deviceId := congrArg (fun key : GroupKey => key.2.1) same
    exact moved.gone q there (owner.trans own)
  · rintro (unread | ⟨hourly, daily⟩) view
    · rw [readings]
      rcases either view with same | same
      · rw [same, moved.views, moved.idle unread]
        exact exact view
      · rw [same]
        exact Aggregate.exact_view
    · have both : outcome (refreshContinuousAggregates env) u = (.ok (), u.refreshed) :=
        outcome_refreshContinuousAggregates_ok.mpr ⟨hourly, daily, rfl⟩
      rw [after, both]
      exact exact_refreshed u view

theorem exact_transaction_iff {env : Env} {rows : Act Unit} {source : String} {w : World}
    (exact : w.db.Exact) (moved : ∀ u, outcome rows w = (.ok (), u) → MovedAway source w u) :
    (after (do transaction env rows; refreshContinuousAggregates env) w).db.Exact ↔
      ¬ ((outcome rows w).1.isOk = true ∧ env.commit = true) ∨ Unread w source ∨
        (env.refresh .hourly = true ∧ env.refresh .daily = true) := by
  rcases run : outcome (transaction env rows) w with ⟨e | ⟨⟩, u⟩
  · rw [after_bind_error run]
    have kept := db_of_transaction_error run
    have aborted : ¬ ((outcome rows w).1.isOk = true ∧ env.commit = true) := by
      rintro ⟨returns, committed⟩
      have done := outcome_transaction_ok.mpr ⟨outcome_of_isOk returns, committed⟩
      rw [run] at done
      cases done
    rw [kept]
    exact iff_of_true exact (.inl aborted)
  · rw [after_bind_ok run]
    obtain ⟨block, committed⟩ := outcome_transaction_ok.mp run
    rw [exact_refreshed_iff exact (moved u block)]
    simp [block, committed, Except.isOk, Except.toBool]

theorem unread_moved {source target : String} (other : target ≠ source) (v : World) :
    Unread (v.apply (.moveReadings (fun r => decide (r.deviceId = source)) target)) source := by
  intro r present
  obtain ⟨q, -, rfl⟩ := List.mem_map.mp present
  by_cases own : q.deviceId = source
  · simp [own, other]
  · simp [own]

theorem moved_idle {source target : String} {v : World} (unread : Unread v source) :
    (v.apply (.moveReadings (fun r => decide (r.deviceId = source)) target)).db.readings =
      v.db.readings := by
  have each : ∀ r ∈ v.db.readings, (fun r : SensorReading =>
      if decide (r.deviceId = source) then { r with deviceId := target } else r) r = id r := by
    intro r present
    simp [unread r present]
  exact (List.map_congr_left each).trans (List.map_id _)

theorem renameRows_moves {env : Env} {device : Device} {newId : String} {w u : World}
    (other : newId ≠ device.deviceId) (block : outcome (renameRows env device newId) w = (.ok (), u)) :
    MovedAway device.deviceId w u := by
  obtain ⟨-, -, rfl⟩ := outcome_renameRows_ok.mp block
  have readings : (w.renamed env device newId).db.readings =
      (w.apply (.moveReadings (fun r => decide (r.deviceId = device.deviceId)) newId)).db.readings := rfl
  constructor
  · intro view
    cases view <;> rfl
  · intro r present
    rw [readings] at present
    exact unread_moved other w r present
  · intro unread
    exact readings.trans (moved_idle unread)

theorem renameRows_isOk {env : Env} {device : Device} {newId : String} {w : World} :
    (outcome (renameRows env device newId) w).1.isOk = true ↔
      w.device? newId = none ∧ (renamedDevice env device newId).insertable = true := by
  constructor
  · intro returns
    obtain ⟨free, insertable, -⟩ := outcome_renameRows_ok.mp (outcome_of_isOk returns)
    exact ⟨free, insertable⟩
  · rintro ⟨free, insertable⟩
    rw [outcome_renameRows_ok.mpr ⟨free, insertable, rfl⟩]
    rfl

def KeepsRollups (w v : World) : Prop := ∀ view, rollupRows v.db view = rollupRows w.db view

theorem mergeMetric_ran (source target metric : String) (w : World) :
    ∃ v, outcome (mergeMetric source target metric) w = (.ok (), v) ∧ KeepsRollups w v := by
  unfold mergeMetric
  rw [outcome_bind_ok (outcome_read _ w)]
  split
  · exact ⟨_, rfl, fun view => by cases view <;> rfl⟩
  · exact ⟨_, rfl, fun view => by cases view <;> rfl⟩

theorem mergeMetrics_ran (source target : String) (metrics : List String) (w : World) :
    ∃ v, outcome (forEach metrics (mergeMetric source target)) w = (.ok (), v) ∧ KeepsRollups w v ∧
      (metrics = [] → v.db.readings = w.db.readings) := by
  induction metrics generalizing w with
  | nil => exact ⟨w, rfl, fun _ => rfl, fun _ => rfl⟩
  | cons metric metrics ih =>
    obtain ⟨u, first, same⟩ := mergeMetric_ran source target metric w
    obtain ⟨v, rest, kept, -⟩ := ih u
    refine ⟨v, ?_, fun view => (kept view).trans (same view), fun none => nomatch none⟩
    rw [forEach, outcome_bind_ok first, rest]

theorem saveSeen_ran (source target : Device) (w : World) :
    ∃ v, outcome (forEach (newerSeen source target).toList
        (fun seen => saveDevice { target with lastSeen := some seen } [.lastSeen])) w = (.ok (), v) ∧
      KeepsRollups w v ∧ v.db.readings = w.db.readings := by
  cases newerSeen source target with
  | none => exact ⟨w, rfl, fun _ => rfl, rfl⟩
  | some seen =>
    refine ⟨w.apply (.saveDevice { target with lastSeen := some seen } [.lastSeen]), ?_, ?_, rfl⟩
    · simp only [Option.toList_some, forEach]
      rw [outcome_bind, outcome_saveDevice, if_pos (by simp [Device.accepts])]
      rfl
    · intro view
      cases view <;> rfl

theorem metricsOf_unread {w : World} {deviceId : String} (unread : Unread w deviceId) :
    metricsOf w.db.readings deviceId = [] := by
  have nothing : w.db.readings.filter (fun r => r.deviceId = deviceId) = [] := by
    rw [List.filter_eq_nil_iff]
    exact fun r present own => unread r present (by simpa using own)
  simp [metricsOf, nothing]

theorem mergeRows_moves {source target : Device} (other : target.deviceId ≠ source.deviceId) (w : World) :
    ∃ u, outcome (mergeRows source target) w = (.ok (), u) ∧ MovedAway source.deviceId w u := by
  unfold mergeRows
  rw [outcome_bind_ok (outcome_read _ w)]
  generalize shared_ : (metricsOf w.db.readings source.deviceId).filter
    (fun m => m ∈ metricsOf w.db.readings target.deviceId) = shared
  obtain ⟨v, merged, kept, idle⟩ := mergeMetrics_ran source.deviceId target.deviceId shared w
  rw [outcome_bind_ok merged, outcome_bind_ok (outcome_emit _ v), outcome_bind_ok (outcome_emit _ _)]
  obtain ⟨u, seen, same, readings⟩ := saveSeen_ran source target
    ((v.apply (.moveReadings (fun r => decide (r.deviceId = source.deviceId)) target.deviceId)).apply
      (.moveLogs source.deviceId target.deviceId))
  rw [outcome_bind_ok seen]
  have moved : (u.apply (.deleteDevice source.deviceId)).db.readings =
      (v.apply (.moveReadings (fun r => decide (r.deviceId = source.deviceId)) target.deviceId)).db.readings :=
    readings
  refine ⟨_, outcome_emit _ u, fun view => ?_, fun r present => ?_, fun unread => ?_⟩
  · have last : rollupRows (u.apply (.deleteDevice source.deviceId)).db view = rollupRows u.db view := by
      cases view <;> rfl
    rw [last, same, ← kept]
    cases view <;> rfl
  · rw [moved] at present
    exact unread_moved other v r present
  · have before := idle (by rw [← shared_, metricsOf_unread unread]; rfl)
    have still : Unread v source.deviceId := by
      intro r present
      rw [before] at present
      exact unread r present
    rw [moved, moved_idle still, before]

inductive Operation where
  | rename (device : Device) (newId : String)
  | merge (source target : Device)
  | deleteDevice (request : Request) (deviceId : String)
  | deleteReadings (request : Request) (deviceId : String)

def Operation.result (env : Env) (w : World) : Operation → World
  | .rename device newId => after (renameDevice env device newId) w
  | .merge source target => after (mergeDevices env source target) w
  | .deleteDevice request deviceId => after (deviceDeleteView env request deviceId) w
  | .deleteReadings request deviceId => after (deleteReadingsView env request deviceId) w

/-- device_rename_view never renames or merges a device onto itself. -/
def Operation.Proper : Operation → Prop
  | .rename device newId => newId ≠ device.deviceId
  | .merge source target => target.deviceId ≠ source.deviceId
  | .deleteDevice _ _ | .deleteReadings _ _ => True

def Refreshes (env : Env) : Prop := env.refresh .hourly = true ∧ env.refresh .daily = true

/-- The operation changes no reading, or restores every bucket it changes. -/
def Operation.Restores (env : Env) (w : World) : Operation → Prop
  | .rename device newId =>
    ¬ (w.device? newId = none ∧ (renamedDevice env device newId).insertable = true ∧ env.commit = true) ∨
      Unread w device.deviceId ∨ Refreshes env
  | .merge source _ => env.commit = false ∨ Unread w source.deviceId ∨ Refreshes env
  | .deleteDevice request deviceId =>
    deletesDevice request deviceId w = false ∨ env.commit = false ∨ Unread w deviceId
  | .deleteReadings request deviceId =>
    ∀ d, plannedDeletion env request deviceId w = some d → d.Covered env w

theorem exact_deviceDeleteView_iff {env : Env} {request : Request} {deviceId : String} {w : World}
    (exact : w.db.Exact) :
    (after (deviceDeleteView env request deviceId) w).db.Exact ↔
      deletesDevice request deviceId w = false ∨ env.commit = false ∨ Unread w deviceId := by
  unfold deviceDeleteView deletesDevice getDeviceOr404
  rw [roleRequired_eq]
  cases request.user.may .admin with
  | false => exact iff_of_true exact (.inl rfl)
  | true =>
    rw [if_pos rfl, after_read_bind]
    cases found : w.device? deviceId with
    | none => exact iff_of_true exact (.inl rfl)
    | some device =>
      cases request.isPost with
      | false => exact iff_of_true exact (.inl rfl)
      | true =>
        have own : device.deviceId = deviceId := Table.key_get? found
        have body := @exact_deleteDevice_iff env device w exact
        dsimp only
        rw [if_pos rfl, after_bind_pure (deleteDevice env device) (fun _ => Response.redirect "devices:list" none),
          body, own]
        simp

/-- From exact buckets an operation leaves exact buckets exactly when it restores what it
changes: no reading is taken away without a refresh that goes through and covers its buckets. -/
theorem exact_iff {env : Env} {w : World} (op : Operation) (proper : op.Proper) (exact : w.db.Exact) :
    (op.result env w).db.Exact ↔ op.Restores env w := by
  cases op with
  | rename device newId =>
    have block := @exact_transaction_iff env (renameRows env device newId) device.deviceId w exact
      (fun u done => renameRows_moves proper done)
    rw [renameRows_isOk, and_assoc] at block
    exact block
  | merge source target =>
    obtain ⟨u, ran, moved⟩ := mergeRows_moves proper w
    have block := @exact_transaction_iff env (mergeRows source target) source.deviceId w exact
      (fun v done => by
        rw [ran] at done
        cases done
        exact moved)
    rw [ran] at block
    refine block.trans ?_
    simp [Operation.Restores, Refreshes, Except.isOk, Except.toBool]
  | deleteDevice request deviceId => exact exact_deviceDeleteView_iff exact
  | deleteReadings request deviceId => exact exact_deleteReadingsView_iff exact

def freshDevice : Device := { deviceId := "living01", createdAt := seconds 9 }

def freshWorld : World :=
  (World.empty.apply (.createDevice freshDevice)).apply
    (.addReadings [⟨seconds 9, "living01", "temp", .finite 20⟩])

theorem freshDevice_exact :
    ((Operation.rename freshDevice "attic01").result { now := seconds 9 } freshWorld.refreshed).db.Exact :=
  (@exact_iff { now := seconds 9 } freshWorld.refreshed (.rename freshDevice "attic01")
    (show "attic01" ≠ freshDevice.deviceId by decide)
    (exact_refreshed freshWorld)).mpr (.inr (.inr ⟨rfl, rfl⟩))

/-- Deleting the device leaves its hourly and daily rows behind. -/
theorem deletedDevice_stale :
    freshWorld.refreshed.db.Exact ∧
    ¬ ((Operation.deleteDevice { user := { username := "root", isSuperuser := true } } "living01").result
      { now := seconds 9 } freshWorld.refreshed).db.Exact := by
  refine ⟨exact_refreshed freshWorld, fun exact => ?_⟩
  have raw : ((Operation.deleteDevice { user := { username := "root", isSuperuser := true } } "living01").result
      { now := seconds 9 } freshWorld.refreshed).db.readings = [] := by decide
  have rows : ((Operation.deleteDevice { user := { username := "root", isSuperuser := true } } "living01").result
      { now := seconds 9 } freshWorld.refreshed).db.hourly ≠ [] := by decide
  have hourly := exact .hourly
  rw [raw] at hourly
  exact rows (List.eq_nil_iff_forall_not_mem.mpr (fun row member => nomatch (hourly row).mp member))

end SensorServer
