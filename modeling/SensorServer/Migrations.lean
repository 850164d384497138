import SensorServer.Lib.Aliases
import SensorServer.Exactness
import SensorServer.Provenance

/-! The migrations that rename the metrics of the stored rows, and the alias table of the handlers
that they must match (readings/migrations/0004 and 0005). -/
namespace SensorServer
open Program Aliases

/-- TABLES -/
inductive MetricTable where
  | sensorreading | hourly | daily
  deriving DecidableEq

def metricTables : List MetricTable := [.sensorreading, .hourly, .daily]

/-- ALIASES of 0004. -/
def aliases0004 : List (String × String) :=
  [("temp", "temperature"), ("press", "pressure"), ("uv", "uv_index"), ("batv", "bat_voltage"),
   ("bat", "bat_percent"), ("wifi_rssi", "rssi")]

/-- ALIASES of 0005, missed in 0004. -/
def aliases0005 : List (String × String) :=
  [("humi", "humidity"), ("battery_v", "bat_voltage"), ("battery_pct", "bat_percent"), ("light_lux", "lux")]

/-- UPDATE table SET metric = new WHERE metric = old -/
structure MetricUpdate where
  table : MetricTable
  old : String
  new : String

def SensorReading.under (name : String → String) (r : SensorReading) : SensorReading :=
  { r with metric := name r.metric }

def RollupRow.under (name : String → String) (r : RollupRow) : RollupRow := { r with metric := name r.metric }

/-- Every row of the table under another name. -/
def Db.setMetrics (db : Db) (name : String → String) : MetricTable → Db
  | .sensorreading => { db with readings := db.readings.map (.under name) }
  | .hourly => { db with hourly := db.hourly.map (.under name) }
  | .daily => { db with daily := db.daily.map (.under name) }

def MetricUpdate.execute (db : Db) (u : MetricUpdate) : Db :=
  db.setMetrics (fun metric => if metric = u.old then u.new else metric) u.table

def buildRenameSql (aliases : List (String × String)) (tables : List MetricTable) : List MetricUpdate :=
  tables.flatMap (fun table => aliases.map (fun (old, new) => ⟨table, old, new⟩))

def buildReverseSql (aliases : List (String × String)) (tables : List MetricTable) : List MetricUpdate :=
  tables.flatMap (fun table => aliases.map (fun (old, new) => ⟨table, new, old⟩))

def executeAll (statements : List MetricUpdate) (db : Db) : Db := statements.foldl MetricUpdate.execute db

def migrate0004 : Db → Db := executeAll (buildRenameSql aliases0004 metricTables)
def migrate0005 : Db → Db := executeAll (buildRenameSql aliases0005 metricTables)
def revert0004 : Db → Db := executeAll (buildReverseSql aliases0004 metricTables)
def revert0005 : Db → Db := executeAll (buildReverseSql aliases0005 metricTables)

/-- Every row of the three tables under another name. -/
def Db.under (name : String → String) (db : Db) : Db :=
  { db with
    readings := db.readings.map (.under name)
    hourly := db.hourly.map (.under name)
    daily := db.daily.map (.under name) }

section Statements
variable (f g : String → String) (db : Db)

theorem SensorReading.under_comp : SensorReading.under g ∘ SensorReading.under f = SensorReading.under (g ∘ f) := rfl

theorem RollupRow.under_comp : RollupRow.under g ∘ RollupRow.under f = RollupRow.under (g ∘ f) := rfl

theorem Db.under_under : (db.under f).under g = db.under (g ∘ f) := by
  simp [Db.under, List.map_map, SensorReading.under_comp, RollupRow.under_comp]

theorem Db.setMetrics_id (table : MetricTable) : db.setMetrics id table = db := by
  have readings : SensorReading.under id = id := rfl
  have rows : RollupRow.under id = id := rfl
  cases table <;> simp [Db.setMetrics, readings, rows]

theorem Db.setMetrics_setMetrics (table : MetricTable) :
    (db.setMetrics f table).setMetrics g table = db.setMetrics (g ∘ f) table := by
  cases table <;> simp [Db.setMetrics, List.map_map, SensorReading.under_comp, RollupRow.under_comp]

theorem Db.setMetrics_all :
    ((db.setMetrics f .sensorreading).setMetrics f .hourly).setMetrics f .daily = db.under f := rfl

theorem executeAll_append (first second : List MetricUpdate) :
    executeAll (first ++ second) db = executeAll second (executeAll first db) := by
  simp [executeAll, List.foldl_append]

theorem execute_table (table : MetricTable) (pairs : List (String × String)) :
    executeAll (pairs.map (fun pair => ⟨table, pair.1, pair.2⟩)) db = db.setMetrics (replaceAll pairs) table := by
  induction pairs generalizing db with
  | nil => exact (Db.setMetrics_id db table).symm
  | cons pair pairs ih =>
    change executeAll (pairs.map (fun pair => ⟨table, pair.1, pair.2⟩)) (db.setMetrics (replace pair) table) = _
    rw [ih, Db.setMetrics_setMetrics]
    rfl

theorem execute_tables (pairs : List (String × String)) :
    executeAll (metricTables.flatMap (fun table => pairs.map (fun pair => ⟨table, pair.1, pair.2⟩))) db =
      db.under (replaceAll pairs) := by
  simp only [metricTables, List.flatMap_cons, List.flatMap_nil, List.append_nil]
  rw [executeAll_append, executeAll_append, execute_table, execute_table, execute_table, Db.setMetrics_all]

theorem execute_rename (pairs : List (String × String)) :
    executeAll (buildRenameSql pairs metricTables) db = db.under (replaceAll pairs) := execute_tables db pairs

theorem execute_reverse (pairs : List (String × String)) :
    executeAll (buildReverseSql pairs metricTables) db = db.under (replaceAll (pairs.map Prod.swap)) := by
  rw [← execute_tables, buildReverseSql]
  simp only [List.map_map]
  rfl

end Statements

theorem resolveAlias_eq (name : String) :
    resolveAlias name = replaceAll aliases0005 (replaceAll aliases0004 name) := by
  have apart : Apart (aliases0004 ++ aliases0005) := by decide
  have same : ∀ p, p ∈ metricAliases ↔ p ∈ aliases0004 ++ aliases0005 := by
    intro p
    simp only [metricAliases, aliases0004, aliases0005, List.cons_append, List.nil_append, List.mem_cons]
    tauto
  rw [← replaceAll_append, replaceAll_eq_lookup apart, ← lookup_congr (by decide) same]
  rfl

theorem resolveAlias_twice (name : String) : resolveAlias (resolveAlias name) = resolveAlias name := by
  have twice := @replaceAll_twice _ _ (aliases0004 ++ aliases0005) name (by decide)
  simpa only [resolveAlias_eq, replaceAll_append] using twice

theorem migrated_eq (db : Db) : migrate0005 (migrate0004 db) = db.under resolveAlias := by
  have names : replaceAll aliases0005 ∘ replaceAll aliases0004 = resolveAlias := by
    funext name
    rw [Function.comp_apply, resolveAlias_eq]
  rw [migrate0005, migrate0004, execute_rename, execute_rename, Db.under_under, names]

theorem reverted_eq (db : Db) : revert0004 (revert0005 db) =
    db.under (replaceAll (aliases0004.map Prod.swap) ∘ replaceAll (aliases0005.map Prod.swap)) := by
  rw [revert0004, revert0005, execute_reverse, execute_reverse, Db.under_under]

theorem resolveAlias_reverted :
    resolveAlias ∘ replaceAll (aliases0004.map Prod.swap) ∘ replaceAll (aliases0005.map Prod.swap) = resolveAlias := by
  funext name
  have earlier : ∀ p ∈ aliases0004.map Prod.swap, resolveAlias p.2 = resolveAlias p.1 := by decide
  have later : ∀ p ∈ aliases0005.map Prod.swap, resolveAlias p.2 = resolveAlias p.1 := by decide
  rw [Function.comp_apply, Function.comp_apply, replaceAll_reads resolveAlias earlier,
    replaceAll_reads resolveAlias later]

/-- The names under which the rows of the three tables are stored. -/
def Db.metrics (db : Db) : List String :=
  db.readings.map SensorReading.metric ++ (db.hourly.map RollupRow.metric ++ db.daily.map RollupRow.metric)

theorem map_eq_self_iff {α : Type} {f : α → α} {l : List α} : l.map f = l ↔ ∀ x ∈ l, f x = x := by
  simpa using @List.map_inj_left _ _ l f id

theorem Db.under_eq_self_iff (db : Db) (f : String → String) : db.under f = db ↔ ∀ m ∈ db.metrics, f m = m := by
  have readings : db.readings.map (.under f) = db.readings ↔ ∀ r ∈ db.readings, f r.metric = r.metric := by
    rw [map_eq_self_iff]
    exact forall₂_congr (fun r _ => by cases r; simp [SensorReading.under])
  have rows : ∀ table : List RollupRow, table.map (.under f) = table ↔ ∀ r ∈ table, f r.metric = r.metric := by
    intro table
    rw [map_eq_self_iff]
    exact forall₂_congr (fun r _ => by cases r; simp [RollupRow.under])
  have parts : db.under f = db ↔ db.readings.map (.under f) = db.readings ∧
      db.hourly.map (.under f) = db.hourly ∧ db.daily.map (.under f) = db.daily := by
    cases db
    simp [Db.under]
  rw [parts, readings, rows, rows]
  simp only [Db.metrics, List.mem_append, List.mem_map, or_imp, forall_and, forall_exists_index, and_imp,
    forall_apply_eq_imp_iff₂]

/-- The names that are stored now, and the aliases that share theirs with a later one. -/
def unrestored : List String := (aliases0004 ++ aliases0005).map Prod.snd ++ ["batv", "bat"]

def spellings : List String := (aliases0004 ++ aliases0005).map Prod.fst ++ (aliases0004 ++ aliases0005).map Prod.snd

theorem replaceAll_unspelled {name : String} (unspelled : name ∉ spellings) {pairs : List (String × String)}
    (among : ∀ p ∈ pairs, p.1 ∈ spellings) : replaceAll pairs name = name :=
  replaceAll_of_fresh (fun p listed same => unspelled (same ▸ among p listed))

theorem restored_iff (name : String) : replaceAll (aliases0004.map Prod.swap)
    (replaceAll (aliases0005.map Prod.swap) (resolveAlias name)) = name ↔ name ∉ unrestored := by
  by_cases spelled : name ∈ spellings
  · have each : ∀ m ∈ spellings, replaceAll (aliases0004.map Prod.swap)
        (replaceAll (aliases0005.map Prod.swap) (replaceAll aliases0005 (replaceAll aliases0004 m))) = m ↔
          m ∉ unrestored := by decide +kernel
    rw [resolveAlias_eq]
    exact each name spelled
  · have kept : resolveAlias name = name :=
      (resolveAlias_eq name).trans ((congrArg (replaceAll aliases0005)
        (replaceAll_unspelled spelled (by decide))).trans (replaceAll_unspelled spelled (by decide)))
    have back : replaceAll (aliases0004.map Prod.swap) (replaceAll (aliases0005.map Prod.swap) name) = name :=
      (congrArg (replaceAll (aliases0004.map Prod.swap))
        (replaceAll_unspelled spelled (by decide))).trans (replaceAll_unspelled spelled (by decide))
    have others : ∀ m ∈ unrestored, m ∈ spellings := by decide
    rw [kept]
    exact iff_of_true back (fun lost => spelled (others name lost))

/-- The migrations give every stored row the name under which the handlers would store it now. To
revert them restores the database only where no row has such a name already, nor batv or bat, which
come back as battery_v and battery_pct; but migrated again it is the same. -/
theorem migrations_match (db : Db) : migrate0005 (migrate0004 db) = db.under resolveAlias ∧
    (revert0004 (revert0005 (migrate0005 (migrate0004 db))) = db ↔ ∀ m ∈ db.metrics, m ∉ unrestored) ∧
    migrate0005 (migrate0004 (revert0004 (revert0005 db))) = migrate0005 (migrate0004 db) := by
  refine ⟨migrated_eq db, ?_, ?_⟩
  · have round : revert0004 (revert0005 (migrate0005 (migrate0004 db))) =
        db.under ((replaceAll (aliases0004.map Prod.swap) ∘ replaceAll (aliases0005.map Prod.swap)) ∘
          resolveAlias) := by
      rw [migrated_eq, reverted_eq]
      exact Db.under_under _ _ db
    rw [round, Db.under_eq_self_iff]
    refine forall₂_congr (fun m _ => ?_)
    rw [Function.comp_apply, Function.comp_apply]
    exact restored_iff m
  · rw [migrated_eq, migrated_eq, reverted_eq, Db.under_under, resolveAlias_reverted]

theorem statistics_under (f : String → String) (key : GroupKey) (rows : List SensorReading) :
    (statistics key rows).under f = statistics (key.1, key.2.1, f key.2.2) (rows.map (.under f)) := by
  simp [statistics, RollupRow.under, List.map_map, Function.comp_def, SensorReading.under]

/-- Aggregates that followed the raw table follow it after the migrations if and only if no device
has, in one bucket, readings under two spellings of a metric. -/
theorem migrations_exact_iff {db : Db} (exact : db.Exact) : (migrate0005 (migrate0004 db)).Exact ↔
    ∀ view : Rollup, ∀ r ∈ db.readings, ∀ q ∈ db.readings,
      timeBucket view.width r.time = timeBucket view.width q.time → r.deviceId = q.deviceId →
      resolveAlias r.metric = resolveAlias q.metric → r.metric = q.metric := by
  rw [migrated_eq]
  refine forall_congr' (fun view => ?_)
  have rows : rollupRows (db.under resolveAlias) view = (rollupRows db view).map (.under resolveAlias) := by
    cases view <;> rfl
  have merged := @Aggregate.exact_map_iff _ _ _ _ (aggregate view.width) db.readings (rollupRows db view)
    (.under resolveAlias) (fun key => (key.1, key.2.1, resolveAlias key.2.2)) (.under resolveAlias) (exact view)
    (fun _ => rfl) (statistics_under resolveAlias)
  rw [rows]
  refine merged.trans (forall₄_congr (fun r _ q _ => ?_))
  simp only [aggregate, SensorReading.group, Prod.mk.injEq]
  tauto

/-- A battery whose voltage was sent as batv, and as battery_v by a later firmware, a minute apart. -/
def spelledTwice : World :=
  { World.empty with db := { World.empty.db with readings :=
    [⟨0, "cave01", "batv", .finite 4⟩, ⟨seconds 60, "cave01", "battery_v", .finite 4⟩] } }

theorem spelledTwice_inexact : ¬ (migrate0005 (migrate0004 spelledTwice.refreshed.db)).Exact := by
  intro still
  have apart := (migrations_exact_iff (exact_refreshed spelledTwice)).mp still .hourly
    ⟨0, "cave01", "batv", .finite 4⟩ (by decide) ⟨seconds 60, "cave01", "battery_v", .finite 4⟩ (by decide)
    (by decide) rfl (by decide)
  exact absurd apart (by decide)

theorem takenReading_metric {env : Env} {deviceId : String} {entry : String × Json} {r : SensorReading}
    (taken : takenReading env deviceId entry = some r) : r.metric = resolveAlias entry.1 := by
  unfold takenReading at taken
  split at taken
  · split at taken
    · rw [← Option.some.inj taken]
    · cases taken
    · cases taken
  · cases taken

/-- No run of the site brings back a name that the migrations have replaced, neither in a reading nor
in an aggregate computed from the readings. -/
theorem names_settled (w : World) (es : List Event) :
    let v := Run.run serve { w with db := migrate0005 (migrate0004 w.db) } es
    (∀ r ∈ v.db.readings, resolveAlias r.metric = r.metric) ∧
    ∀ view, ∀ row ∈ rollupRows v.refreshed.db view, resolveAlias row.metric = row.metric := by
  intro v
  have readings : ∀ r ∈ v.db.readings, resolveAlias r.metric = r.metric := by
    intro r stored
    rcases run_readings stored with ⟨q, listed, same, -⟩ | ⟨_, d, _, q, _, ⟨-, data, -, entry, -, taken⟩, same, -, -⟩
    · change q ∈ (migrate0005 (migrate0004 w.db)).readings at listed
      rw [migrated_eq] at listed
      obtain ⟨p, -, rfl⟩ := List.mem_map.mp listed
      rw [same]
      exact resolveAlias_twice p.metric
    · rw [same]
      change resolveAlias q.metric = q.metric
      rw [takenReading_metric taken]
      exact resolveAlias_twice entry.1
  refine ⟨readings, fun view row listed => ?_⟩
  rw [rollupRows_refreshed] at listed
  obtain ⟨r, stored, rfl⟩ := Aggregate.mem_view_iff.mp listed
  exact readings r stored

end SensorServer
