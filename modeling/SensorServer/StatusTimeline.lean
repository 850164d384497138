import SensorServer.ReadingViews
import SensorServer.Lib.StepFunction

/-! The status timeline of a device (readings/views.py status_timeline_view): the alert
log of a window, cut into segments. -/
namespace SensorServer
open Program StepFunction

/-- The value of the column. -/
def AlertLevel.stored : AlertLevel → String
  | .ok => ""
  | .warning => "warning"
  | .error => "error"

/-- `level or "ok"` -/
def AlertLevel.shown (level : AlertLevel) : String := if level.stored = "" then "ok" else level.stored

def Stamp.utc (t : Time) : Stamp := ⟨t, some 0⟩

/-- The loop over the logs of the window, and the segment after it. -/
def segmentsFrom (currentStart stop : Stamp) (currentLevel : AlertLevel) (currentMessage : String) :
    List DeviceStatusLog → List Segment
  | [] => [⟨currentStart, stop, currentLevel.shown, currentMessage⟩]
  | log :: logs =>
    ⟨currentStart, .utc log.time, currentLevel.shown, currentMessage⟩ ::
      segmentsFrom (.utc log.time) stop log.alertLevel log.alertMessage logs

/-- The last log entry before the window. -/
def initialStatus (logs : List DeviceStatusLog) (start : Time) : Option DeviceStatusLog :=
  (OrderBy.descending DeviceStatusLog.time (logs.filter (fun l => decide (l.time < start)))).head?

def windowLogs (logs : List DeviceStatusLog) (start stop : Time) : List DeviceStatusLog :=
  OrderBy.ascending DeviceStatusLog.time
    (logs.filter (fun l => decide (start ≤ l.time) && decide (l.time ≤ stop)))

def statusSegments (env : Env) (db : Db) (deviceId : String) (start stop : Stamp) : List Segment :=
  let logs := ownedBy DeviceStatusLog.device deviceId db.statusLogs
  let initial := initialStatus logs (start.ormInstant env)
  segmentsFrom start stop ((initial.map DeviceStatusLog.alertLevel).getD .ok)
    ((initial.map DeviceStatusLog.alertMessage).getD "")
    (windowLogs logs (start.ormInstant env) (stop.ormInstant env))

def statusTimelineView (env : Env) (request : Request) (deviceId : String) : Act Response :=
  roleRequired .guest request <|
  getApprovedOr404 deviceId fun _ =>
    withTimeRange env request.query fun start stop => do
      let segments ← read (fun w => statusSegments env w.db deviceId start stop)
      pure (.timeline segments)

namespace Segment

/-- The half-open interval of the segment. -/
def Holds (env : Env) (s : Segment) (x : Time) : Prop := s.start.ormInstant env ≤ x ∧ x < s.stop.ormInstant env

def piece (p : Piece Stamp (AlertLevel × String)) : Segment := ⟨p.start, p.stop, p.value.1.shown, p.value.2⟩

end Segment

def DeviceStatusLog.change (l : DeviceStatusLog) : Stamp × AlertLevel × String :=
  (.utc l.time, l.alertLevel, l.alertMessage)

/-- The segments cover the window, and each shows the newest row up to its instants. -/
structure ShowsLog (env : Env) (logs : List DeviceStatusLog) (start stop : Stamp) (segments : List Segment) :
    Prop where
  first : segments.head?.map Segment.start = some start
  last : segments.getLast?.map Segment.stop = some stop
  joined : segments.IsChain (fun s next => s.stop = next.start)
  ordered : ∀ s ∈ segments, s.start.ormInstant env ≤ s.stop.ormInstant env
  held : ∀ x, start.ormInstant env ≤ x → x < stop.ormInstant env → ∃ s ∈ segments, s.Holds env x
  shown : ∀ s ∈ segments, ∀ x, s.Holds env x → ∃ newest, IsLatest DeviceStatusLog.time logs x newest ∧
    s.level = (statusPair newest).1.shown ∧ s.message = (statusPair newest).2

section Segments
variable {env : Env} {start stop : Stamp}

@[simp] theorem ormInstant_utc (t : Time) : (Stamp.utc t).ormInstant env = t := by
  simp [Stamp.utc, Stamp.ormInstant]

theorem segmentsFrom_eq (current : AlertLevel × String) (logs : List DeviceStatusLog) :
    segmentsFrom start stop current.1 current.2 logs =
      (pieces start stop current (logs.map DeviceStatusLog.change)).map Segment.piece := by
  induction logs generalizing start current with
  | nil => rfl
  | cons log logs ih =>
    rw [segmentsFrom, List.map_cons, DeviceStatusLog.change, pieces, List.map_cons]
    exact congrArg _ (ih (log.alertLevel, log.alertMessage))

theorem initialStatus_spec (logs : List DeviceStatusLog) (before : Time) :
    (∀ r, initialStatus logs before = some r → r ∈ logs ∧ r.time < before ∧
        ∀ q ∈ logs, q.time < before → q.time ≤ r.time) ∧
      (initialStatus logs before = none → ∀ r ∈ logs, ¬ r.time < before) := by
  have members : ∀ q, q ∈ logs.filter (fun l => decide (l.time < before)) ↔ q ∈ logs ∧ q.time < before := by
    intro q
    rw [List.mem_filter, decide_eq_true_eq]
  constructor
  · intro r first
    obtain ⟨member, most⟩ := OrderBy.head?_descending_spec first
    obtain ⟨present, early⟩ := (members r).mp member
    exact ⟨present, early, fun q other past => most q ((members q).mpr ⟨other, past⟩)⟩
  · intro none_ r member early
    have empty := OrderBy.head?_descending_eq_none.mp none_
    have present := (members r).mpr ⟨member, early⟩
    rw [empty] at present
    cases present

theorem sorted_windowLogs (logs : List DeviceStatusLog) :
    Sorted (Stamp.ormInstant env) start stop
      ((windowLogs logs (start.ormInstant env) (stop.ormInstant env)).map DeviceStatusLog.change) := by
  have bounds : ∀ c ∈ (windowLogs logs (start.ormInstant env) (stop.ormInstant env)).map DeviceStatusLog.change,
      start.ormInstant env ≤ c.1.ormInstant env ∧ c.1.ormInstant env ≤ stop.ormInstant env := by
    intro c member
    obtain ⟨log, among, rfl⟩ := List.mem_map.mp member
    have inside := (List.mem_filter.mp (OrderBy.mem_ascending.mp among)).2
    simpa [DeviceStatusLog.change] using inside
  refine ⟨?_, fun c member => (bounds c member).1, fun c member => (bounds c member).2⟩
  rw [List.pairwise_map]
  simpa [DeviceStatusLog.change, windowLogs] using OrderBy.pairwise_ascending DeviceStatusLog.time _

theorem newest_piece {logs : List DeviceStatusLog} (ordered : start.ormInstant env ≤ stop.ormInstant env)
    {p : Piece Stamp (AlertLevel × String)}
    (member : p ∈ pieces start stop (statusPair (initialStatus logs (start.ormInstant env)))
      ((windowLogs logs (start.ormInstant env) (stop.ormInstant env)).map DeviceStatusLog.change))
    {x : Time} (holds : p.Holds (Stamp.ormInstant env) x) :
    ∃ newest, IsLatest DeviceStatusLog.time logs x newest ∧ p.value = statusPair newest := by
  have sorted : Sorted (Stamp.ormInstant env) start stop _ := sorted_windowLogs logs
  obtain ⟨found, latest, value⟩ := value_pieces sorted ordered member holds
  obtain ⟨after_, -, before⟩ := ordered_pieces sorted ordered p member
  obtain ⟨recent, window, rfl⟩ := isLatest_map latest
  have instants : (fun r : DeviceStatusLog => (r.change.1).ormInstant env) = DeviceStatusLog.time :=
    funext fun r => ormInstant_utc r.time
  rw [instants] at window
  have filtered : IsLatest DeviceStatusLog.time (logs.filter (fun l =>
      decide (start.ormInstant env ≤ l.time) && decide (l.time ≤ stop.ormInstant env))) x recent := by
    cases recent with
    | none => exact fun r among => window r (OrderBy.mem_ascending.mpr among)
    | some newest =>
      obtain ⟨among, early, newer⟩ := window
      exact ⟨OrderBy.mem_ascending.mp among, early, fun q other => newer q (OrderBy.mem_ascending.mpr other)⟩
  refine ⟨recent.or (initialStatus logs (start.ormInstant env)),
    isLatest_window (after_.trans holds.1) (holds.2.le.trans before) filtered (initialStatus_spec logs _), ?_⟩
  rw [value]
  cases recent <;> rfl

theorem showsLog_statusSegments (db : Db) (deviceId : String)
    (ordered : start.ormInstant env ≤ stop.ormInstant env) :
    ShowsLog env (ownedBy DeviceStatusLog.device deviceId db.statusLogs) start stop
      (statusSegments env db deviceId start stop) := by
  generalize owned : ownedBy DeviceStatusLog.device deviceId db.statusLogs = logs
  have initial : ∀ first : Option DeviceStatusLog,
      (first.map DeviceStatusLog.alertLevel).getD .ok = (statusPair first).1 ∧
        (first.map DeviceStatusLog.alertMessage).getD "" = (statusPair first).2 := by
    intro first
    cases first <;> exact ⟨rfl, rfl⟩
  have segments : statusSegments env db deviceId start stop =
      (pieces start stop (statusPair (initialStatus logs (start.ormInstant env)))
        ((windowLogs logs (start.ormInstant env) (stop.ormInstant env)).map DeviceStatusLog.change)).map
          Segment.piece := by
    rw [← segmentsFrom_eq, ← (initial _).1, ← (initial _).2, ← owned]
    rfl
  rw [segments]
  have covers : Covers (Stamp.ormInstant env) start stop
      (pieces start stop (statusPair (initialStatus logs (start.ormInstant env)))
        ((windowLogs logs (start.ormInstant env) (stop.ormInstant env)).map DeviceStatusLog.change)) :=
    covers_pieces (sorted_windowLogs logs) ordered
  have newest := @newest_piece env start stop logs ordered
  generalize pieces start stop (statusPair (initialStatus logs (start.ormInstant env)))
    ((windowLogs logs (start.ormInstant env) (stop.ormInstant env)).map DeviceStatusLog.change) =
      ps at covers newest
  constructor
  · rw [List.head?_map, Option.map_map]
    exact covers.first
  · rw [List.getLast?_map, Option.map_map]
    exact covers.last
  · rw [List.isChain_map]
    exact covers.joined
  · intro s member
    obtain ⟨p, among, rfl⟩ := List.mem_map.mp member
    exact covers.ordered p among
  · intro x after_ before
    obtain ⟨p, among, holds⟩ := covers.holds after_ before
    exact ⟨Segment.piece p, List.mem_map_of_mem among, holds⟩
  · intro s member x holds
    obtain ⟨p, among, rfl⟩ := List.mem_map.mp member
    obtain ⟨row, latest, value⟩ := newest among holds
    exact ⟨row, latest, by rw [Segment.piece, value], by rw [Segment.piece, value]⟩

end Segments

theorem outcome_statusTimelineView {env : Env} {request : Request} {deviceId : String} {w : World}
    {device : Device} {start stop : Stamp} (admitted : request.user.may .guest = true)
    (known : w.device? deviceId = some device) (approved : device.isApproved = true)
    (range : parseTimeRange env request.query = some (start, stop)) :
    outcome (statusTimelineView env request deviceId) w =
      (.ok (.timeline (statusSegments env w.db deviceId start stop)), w) := by
  unfold statusTimelineView getApprovedOr404 getDeviceOr404 withTimeRange
  rw [roleRequired_eq, if_pos admitted, outcome_bind_ok (outcome_read _ w), known]
  dsimp only
  rw [if_pos approved, range]
  rfl

/-- The timeline of an approved device is the step function of its status log. -/
theorem timeline_shows_log {env : Env} {request : Request} {deviceId : String} {w : World} {device : Device}
    {start stop : Stamp} (admitted : request.user.may .guest = true)
    (known : w.device? deviceId = some device) (approved : device.isApproved = true)
    (range : parseTimeRange env request.query = some (start, stop))
    (ordered : start.ormInstant env ≤ stop.ormInstant env) :
    ∃ segments, outcome (statusTimelineView env request deviceId) w = (.ok (.timeline segments), w) ∧
      ShowsLog env (ownedBy DeviceStatusLog.device deviceId w.db.statusLogs) start stop segments :=
  ⟨_, outcome_statusTimelineView admitted known approved range, showsLog_statusSegments w.db deviceId ordered⟩

def barn : Device := { deviceId := "barn01", createdAt := 0, isApproved := true }

/-- A warning before the window of the last hour, and its end inside it. -/
def barnWorld : World :=
  { World.empty with
    db.devices := Table.insert (Table.empty _) barn
    db.statusLogs := [⟨seconds 1000, "barn01", .ok, ""⟩, ⟨seconds 300, "barn01", .warning, "low_battery"⟩] }

def lastHour : Request := { user := { username := "carol", role := some .guest }, query := [("preset", "1h")] }

example : statusSegments { now := seconds 4000 } barnWorld.db "barn01" (.utc (seconds 400)) (.utc (seconds 4000)) =
    [⟨.utc (seconds 400), .utc (seconds 1000), "warning", "low_battery"⟩,
      ⟨.utc (seconds 1000), .utc (seconds 4000), "ok", ""⟩] := by decide +kernel

theorem barn_shows_log :
    ∃ segments, outcome (statusTimelineView { now := seconds 4000 } lastHour "barn01") barnWorld =
        (.ok (.timeline segments), barnWorld) ∧
      ShowsLog { now := seconds 4000 } (ownedBy DeviceStatusLog.device "barn01" barnWorld.db.statusLogs)
        (.utc (seconds 400)) (.utc (seconds 4000)) segments :=
  @timeline_shows_log { now := seconds 4000 } lastHour "barn01" barnWorld barn (.utc (seconds 400))
    (.utc (seconds 4000)) (by decide) (by decide) (by decide) (by decide) (by decide)

end SensorServer
