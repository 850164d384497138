import SensorServer.Dashboard
import SensorServer.Story

/-! The automatic get_diag polls and the battery: which level decides on a poll and on the end
of a low-battery alert, and how far apart the polls of a device are. -/
namespace SensorServer
open Program

/-- The last message sent is a get_diag. A poll is the last thing the handler sends, and a
command that is flushed is followed by the requests of the wake-up. -/
def autoDiag (w v : World) : Bool :=
  decide ((v.published.drop w.published.length).getLast?.map Publication.payload = some (bareCommand "get_diag"))

section Message
variable {w : World} {d : Delivery} {data : Fields} {row : Device} (sensors : d.kind = .sensors)
  (object : d.payload.object? = some data)

theorem Ended.autoDiag {env : Env} {deviceType : String} {woken stored : Bool} {u v : World}
    (start : u.published = w.published) (ends : Ended env deviceType data row woken stored u v) :
    autoDiag w v = polls env.now woken row := by
  obtain ⟨sent, grown, last⟩ := ends.published
  rw [SensorServer.autoDiag, grown, start, List.drop_left, Bool.eq_iff_iff, decide_eq_true_eq]
  exact last

include sensors object

theorem autoDiag_known (known : w.device? d.deviceId = some row) :
    autoDiag w (deliver w d) = (proceeds w d.env row && polls d.env.now (!row.isOnline d.env.now) row) := by
  cases goes : proceeds w d.env row with
  | true => exact (sensors_ends sensors object known goes).autoDiag rfl
  | false =>
    rw [sensors_stopped sensors object known goes]
    simp [autoDiag, World.apply]

theorem autoDiag_unknown (unknown : w.device? d.deviceId = none) : autoDiag w (deliver w d) = false := by
  rcases sensors_created sensors object unknown with same | ⟨fresh, drafted, -, -, -, ends⟩
  · rw [same]
    simp [autoDiag]
  · rw [ends.autoDiag (w := w) (u := w.apply (.createDevice fresh)) rfl]
    simp [polls, drafted]

end Message

/-- A low-battery alert that is latched when the batch is stored ends only with a finite level
above 20, and a device that reports 20 or less is not polled. -/
structure BatteryDecides (w : World) (d : Delivery) (row : Device) (battery : PyFloat) : Prop where
  cleared : (alerted d.env.now (!row.isOnline d.env.now) row).alert = (.warning, lowBatteryAlert) →
    (deliver w d).alertOf d.deviceId = (.ok, "") →
    ∃ new level, (deliver w d).device? d.deviceId = some new ∧
      new.batteryPercent = some (.finite level) ∧ 20 < level
  spared : battery.le lowBatteryThreshold = true → autoDiag w (deliver w d) = false

/-- No NaN and no Infinity, which no threshold holds back, is stored while the low-battery alert is
latched, and no poll is due when 20 or less is reported. -/
def batteryFits (w : World) (d : Delivery) (data : Fields) (row : Device) (battery : PyFloat) : Bool :=
  let seen := alerted d.env.now (!row.isOnline d.env.now) row
  !(storesReadings w d.env row data && decide (seen.alert = (.warning, lowBatteryAlert)) &&
      decide (battery = .nan ∨ battery = .inf false)) &&
    !(proceeds w d.env row && row.isApproved && wantsDiag seen d.env.now && battery.le lowBatteryThreshold)

theorem le_low_iff (battery : PyFloat) :
    battery.le lowBatteryThreshold = false ↔
      (∃ level, battery = .finite level ∧ 20 < level) ∨ battery = .nan ∨ battery = .inf false := by
  cases battery with
  | nan => simp [PyFloat.le, PyFloat.lt, PyFloat.eqv]
  | inf negative => cases negative <;> simp [lowBatteryThreshold, PyFloat.le, PyFloat.lt, PyFloat.eqv]
  | finite level =>
    rw [← Bool.not_eq_true, lowBatteryThreshold, PyFloat.le_finite_iff, not_le]
    simp

theorem le_low_of_critical {battery : PyFloat} (critical : battery.le criticalBatteryThreshold = true) :
    battery.le lowBatteryThreshold = true := by
  cases battery with
  | nan => cases critical
  | inf negative => exact critical
  | finite level => exact PyFloat.le_finite_iff.mpr ((PyFloat.le_finite_iff.mp critical).trans (by norm_num))

theorem endsLowBattery_iff {device : Device} {battery : PyFloat} :
    endsLowBattery device battery = true ↔
      device.alert = (.warning, lowBatteryAlert) ∧ battery.le lowBatteryThreshold = false := by
  have status : ({ device with batteryPercent := some battery } : Device).batteryStatus = some .ok ↔
      battery.le lowBatteryThreshold = false := by
    unfold Device.batteryStatus
    dsimp only
    cases critical : battery.le criticalBatteryThreshold with
    | true => simp [le_low_of_critical critical]
    | false => cases battery.le lowBatteryThreshold <;> simp
  unfold endsLowBattery lowBatteryResolved
  rw [Bool.and_eq_true, Bool.and_eq_true, decide_eq_true_eq, decide_eq_true_eq, decide_eq_true_eq, status]
  simp [Device.alert]

theorem batteryPercent_ended {env : Env} {woken : Bool} {data : Fields} {row : Device} {battery : PyFloat}
    (sent : sentBattery env row.deviceId data = some battery) :
    (ended env woken true data row).batteryPercent = some battery := by
  unfold ended
  rw [sent]
  generalize (if row.isApproved then nudged env.now (alerted env.now woken row)
    else alerted env.now woken row) = asked
  dsimp only
  rw [if_pos rfl]
  unfold tracked
  dsimp only
  cases endsLowBattery asked battery <;> rfl

theorem clearsAlert_of_latched {now : Time} {woken : Bool} {row : Device}
    (latched : (alerted now woken row).alert = (.warning, lowBatteryAlert)) : clearsAlert now row = false := by
  by_contra cleared
  rw [Bool.not_eq_false] at cleared
  rw [alert_alerted, clearings, if_pos cleared] at latched
  split at latched
  · cases latched
  · simp [showing, statusOf] at latched

section Message
variable {w : World} {d : Delivery} {data : Fields} {row : Device} {battery : PyFloat}
  (sensors : d.kind = .sensors) (object : d.payload.object? = some data) (known : w.device? d.deviceId = some row)
  (carried : sentBattery d.env d.deviceId data = some battery)
include sensors object known

theorem device?_latched
    (latched : (alerted d.env.now (!row.isOnline d.env.now) row).alert = (.warning, lowBatteryAlert)) :
    ∃ at_, (deliver w d).device? d.deviceId = some
      ((ended d.env (!row.isOnline d.env.now) (storesReadings w d.env row data) data row).withRequest at_) := by
  have own : row.deviceId = d.deviceId := Table.key_get? known
  have goes : proceeds w d.env row = true := by simp [proceeds, clearsAlert_of_latched latched]
  rw [← own]
  exact (sensors_ends sensors object known goes).device

include carried

theorem alertOf_latched
    (latched : (alerted d.env.now (!row.isOnline d.env.now) row).alert = (.warning, lowBatteryAlert)) :
    (deliver w d).alertOf d.deviceId = (.ok, "") ↔
      storesReadings w d.env row data = true ∧ battery.le lowBatteryThreshold = false := by
  have own : row.deviceId = d.deviceId := Table.key_get? known
  obtain ⟨at_, found⟩ := device?_latched sensors object known latched
  have shown : (deliver w d).alertOf d.deviceId =
      (ended d.env (!row.isOnline d.env.now) (storesReadings w d.env row data) data row).alert :=
    (alertOf_known found).trans rfl
  rw [shown, alert_ended, own, carried, Option.any_some, latched,
    ← endsLowBattery_iff.trans (and_iff_right latched), ← Bool.and_eq_true]
  cases storesReadings w d.env row data && endsLowBattery _ battery <;> simp

theorem batteryPercent_latched
    (latched : (alerted d.env.now (!row.isOnline d.env.now) row).alert = (.warning, lowBatteryAlert))
    (stored : storesReadings w d.env row data = true) :
    ∃ new, (deliver w d).device? d.deviceId = some new ∧ new.batteryPercent = some battery := by
  have own : row.deviceId = d.deviceId := Table.key_get? known
  obtain ⟨at_, found⟩ := device?_latched sensors object known latched
  rw [stored] at found
  exact ⟨_, found, batteryPercent_ended (own ▸ carried)⟩

theorem battery_decides_iff : BatteryDecides w d row battery ↔ batteryFits w d data row battery = true := by
  have asks := autoDiag_known sensors object known
  unfold batteryFits
  rw [Bool.and_eq_true, Bool.not_eq_true', Bool.not_eq_true']
  refine Iff.trans ⟨fun h => ⟨h.cleared, h.spared⟩, fun h => ⟨h.1, h.2⟩⟩ (and_congr ?_ ?_)
  · constructor
    · intro cleared
      by_contra ends
      rw [Bool.not_eq_false, Bool.and_eq_true, Bool.and_eq_true, decide_eq_true_eq, decide_eq_true_eq] at ends
      obtain ⟨⟨stored, latched⟩, special⟩ := ends
      have resolved := (alertOf_latched sensors object known carried latched).mpr
        ⟨stored, (le_low_iff battery).mpr (.inr special)⟩
      obtain ⟨new, level, found, percent, -⟩ := cleared latched resolved
      obtain ⟨new', found', kept⟩ := batteryPercent_latched sensors object known carried latched stored
      rw [found, Option.some.injEq] at found'
      rw [← found', percent, Option.some.injEq] at kept
      rcases special with rfl | rfl <;> cases kept
    · intro regular latched resolved
      obtain ⟨stored, high⟩ := (alertOf_latched sensors object known carried latched).mp resolved
      rw [stored, decide_eq_true latched, Bool.true_and, Bool.true_and, decide_eq_false_iff_not] at regular
      obtain ⟨level, rfl, above⟩ := ((le_low_iff battery).mp high).resolve_right regular
      obtain ⟨new, found, percent⟩ := batteryPercent_latched sensors object known carried latched stored
      exact ⟨new, level, found, percent, above⟩
  · rw [asks, polls, Bool.and_assoc]
    cases battery.le lowBatteryThreshold <;> simp

end Message

/-- A device that last reported a percentage and whose low-battery warning is latched. -/
def fading (percent : Rat) : Device :=
  { deviceId := "garden01", deviceType := "thermo", createdAt := seconds 1, isApproved := true,
    diagCapable := true, publishInterval := 60, lastSeen := some (seconds 600), batteryPercent := some (.finite percent),
    alertLevel := .warning, alertMessage := lowBatteryAlert, alertUpdatedAt := some (seconds 600) }

def fadingWorld (percent : Rat) : World := World.empty.apply (.createDevice (fading percent))

def batteryReport (level : PyFloat) : Delivery :=
  ⟨{ now := seconds 660 }, .sensors, "thermo", "garden01", ⟨30, .value (.obj [("bat", .float level)])⟩⟩

theorem swapped_decides : BatteryDecides (fadingWorld 15) (batteryReport (.finite 55)) (fading 15) (.finite 55) :=
  (@battery_decides_iff (fadingWorld 15) (batteryReport (.finite 55)) [("bat", .float (.finite 55))] (fading 15)
    (.finite 55) rfl rfl rfl (by decide)).mpr (by decide)

/-- A device that falls from 80 to 3 percent is polled, and a NaN ends the warning of one at 15 percent. -/
theorem fading_undecided :
    let falls := deliver (fadingWorld 80) (batteryReport (.finite 3))
    let blanks := deliver (fadingWorld 15) (batteryReport .nan)
    autoDiag (fadingWorld 80) falls = true ∧
    blanks.alertOf "garden01" = (.ok, "") ∧
    (blanks.device? "garden01").map Device.batteryPercent = some (some .nan) ∧
    ¬ BatteryDecides (fadingWorld 80) (batteryReport (.finite 3)) (fading 80) (.finite 3) ∧
    ¬ BatteryDecides (fadingWorld 15) (batteryReport .nan) (fading 15) .nan := by
  intro falls blanks
  have polled : autoDiag (fadingWorld 80) falls = true := by decide
  have blankEnds : blanks.alertOf "garden01" = (.ok, "") := by decide
  have blank : (blanks.device? "garden01").map Device.batteryPercent = some (some .nan) := by decide
  refine ⟨polled, blankEnds, blank, ?_, ?_⟩
  · intro decides
    exact absurd (polled.symm.trans (decides.spared (by decide))) (by decide)
  · intro decides
    obtain ⟨new, level, found, percent, -⟩ := decides.cleared (by decide) blankEnds
    have kept : (blanks.device? "garden01").map Device.batteryPercent = some (some (.finite level)) := by
      rw [← percent]
      exact congrArg (Option.map Device.batteryPercent) found
    rw [blank] at kept
    cases kept

/-- One device, followed through its renames, with the times at which it was polled. -/
structure Rounds where
  world : World
  id : String
  polled : List Time

namespace Rounds

def pollsDiag (s : Rounds) (d : Delivery) : Bool :=
  decide (d.deviceId = s.id) && decide (d.kind = .sensors) && autoDiag s.world (deliver s.world d)

def step (s : Rounds) : Happening → Rounds
  | .message d =>
    { s with
      world := deliver s.world d
      polled := if s.pollsDiag d then s.polled ++ [d.env.now] else s.polled }
  | .rename env deviceId newId =>
    let v := SensorServer.rename s.world env deviceId newId
    { s with
      world := v
      id := if deviceId = s.id ∧ (s.world.device? deviceId).isSome = true ∧ v.device? deviceId = none then newId
        else s.id }

def watching (w : World) (id : String) : Rounds := ⟨w, id, []⟩

/-- What a poll requires, with the row as it is when the poll is sent and the polls before. -/
structure Due (s : Rounds) (d : Delivery) (row : Device) : Prop where
  known : s.world.device? s.id = some row
  approved : row.isApproved = true
  capable : row.diagCapable = true
  latched : (alerted d.env.now (!row.isOnline d.env.now) row).alertLevel.raised = true
  charged : row.isBatteryLow = false
  spaced : ∀ t ∈ s.polled, diagPollCooldownTenths row ≤ (d.env.now - t) * 10

def Limited (s : Rounds) : Happening → Prop
  | .message d => s.pollsDiag d = true → ∃ row, s.Due d row
  | .rename _ _ _ => True

def Timed (s : Rounds) : Prop :=
  ∀ t ∈ s.polled, ∃ row last, s.world.device? s.id = some row ∧ row.diagRequestedAt = some last ∧ t ≤ last

end Rounds

theorem diagPollCooldownTenths_nonneg (row : Device) : 0 ≤ diagPollCooldownTenths row := by
  unfold diagPollCooldownTenths seconds defaultOfflineTimeout
  split <;> omega

theorem of_wantsDiag {device : Device} {now : Time} (asks : wantsDiag device now = true) :
    device.alertLevel.raised = true ∧ device.diagCapable = true ∧ device.isBatteryLow = false ∧
      ∀ last, device.diagRequestedAt = some last → diagPollCooldownTenths device ≤ (now - last) * 10 := by
  simp only [wantsDiag, Bool.and_eq_true, Bool.not_eq_true'] at asks
  obtain ⟨⟨⟨⟨raised, capable⟩, -⟩, charged⟩, cooled⟩ := asks
  refine ⟨raised, capable, charged, fun last stored => ?_⟩
  simpa [stored] using cooled

theorem of_polls {now : Time} {woken : Bool} {row : Device} (asks : polls now woken row = true) :
    row.isApproved = true ∧ row.diagCapable = true ∧ (alerted now woken row).alertLevel.raised = true ∧
      row.isBatteryLow = false ∧
      ∀ last, row.diagRequestedAt = some last → diagPollCooldownTenths row ≤ (now - last) * 10 := by
  rw [polls, Bool.and_eq_true] at asks
  obtain ⟨raised, capable, charged, cooled⟩ := of_wantsDiag asks.2
  refine ⟨asks.1, ?_, raised, ?_⟩
  all_goals
    obtain ⟨level, text, since, asked, framed⟩ := alerted_frame now woken row
    rw [framed] at capable charged cooled
  · exact capable
  · exact ⟨charged, cooled⟩

theorem diagRequestedAt_ended (env : Env) (woken stored : Bool) (data : Fields) (row : Device) :
    (ended env woken stored data row).diagRequestedAt =
      if polls env.now woken row then some env.now else row.diagRequestedAt := by
  have followed : ∀ (device : Device) battery,
      (tracked device battery).diagRequestedAt = device.diagRequestedAt := by
    intro device battery
    unfold tracked
    cases battery with
    | none => rfl
    | some level =>
      dsimp only
      cases endsLowBattery device level <;> rfl
  have kept : (alerted env.now woken row).diagRequestedAt = row.diagRequestedAt := by
    obtain ⟨level, text, since, asked, framed⟩ := alerted_frame env.now woken row
    rw [framed]
  have asked : (if row.isApproved then nudged env.now (alerted env.now woken row)
      else alerted env.now woken row).diagRequestedAt =
      if polls env.now woken row then some env.now else row.diagRequestedAt := by
    unfold polls nudged
    rw [← kept]
    cases row.isApproved <;> cases wantsDiag (alerted env.now woken row) env.now <;> rfl
  rw [← asked]
  unfold ended
  cases stored with
  | true => exact followed _ _
  | false => rfl

namespace Rounds
variable {s : Rounds}

theorem pollsDiag_iff {d : Delivery} :
    s.pollsDiag d = true ↔
      d.deviceId = s.id ∧ d.kind = .sensors ∧ autoDiag s.world (deliver s.world d) = true := by
  simp [pollsDiag, and_assoc]

theorem pollsDiag_unread {d : Delivery} (unread : d.payload.object? = none) : s.pollsDiag d = false := by
  rw [pollsDiag, deliver_unread unread]
  simp [autoDiag]

theorem spared_diagRequestedAt {d : Delivery} (kind : d.kind ≠ .sensors) (saved : Device)
    (fields : List DeviceField) (among : ∀ f ∈ fields, f ∈ d.kind.fields) (row : Device) :
    (saved.copyFields fields row).diagRequestedAt = row.diagRequestedAt := by
  have absent : DeviceField.diagRequestedAt ∉ fields := by
    intro named
    have listed := among _ named
    cases other : d.kind with
    | sensors => exact kind other
    | status | capabilities | commands | calibration | diag | ack =>
      rw [other] at listed
      revert listed
      decide
  rw [Device.diagRequestedAt_copyFields, if_neg absent]

theorem diagRequestedAt_deliver {row : Device} (known : s.world.device? s.id = some row) (d : Delivery) :
    ∃ new, (deliver s.world d).device? s.id = some new ∧
      new.diagRequestedAt = if s.pollsDiag d then some d.env.now else row.diagRequestedAt := by
  have aside : ¬ (d.deviceId = s.id ∧ d.kind = .sensors) → s.pollsDiag d = false := by
    intro apart
    rw [← Bool.not_eq_true, pollsDiag_iff]
    exact fun polls => apart ⟨polls.1, polls.2.1⟩
  by_cases own : d.deviceId = s.id
  swap
  · rw [aside (fun both => own both.1)]
    exact @keepsColumn_deliver _ Device.diagRequestedAt _ _ (fun same => absurd same own) _ row known
  by_cases sensors : d.kind = .sensors
  swap
  · rw [aside (fun both => sensors both.2)]
    exact @keepsColumn_deliver _ Device.diagRequestedAt _ _ (fun _ => spared_diagRequestedAt sensors) _ row known
  cases object : d.payload.object? with
  | none =>
    rw [pollsDiag_unread object, deliver_unread object]
    exact ⟨row, known, rfl⟩
  | some data =>
    have polled : s.pollsDiag d = autoDiag s.world (deliver s.world d) := by simp [pollsDiag, own, sensors]
    rw [← own] at known ⊢
    rw [polled, autoDiag_known sensors object known]
    cases goes : proceeds s.world d.env row with
    | true =>
      obtain ⟨at_, found⟩ := (sensors_ends sensors object known goes).device
      rw [Table.key_get? known] at found
      exact ⟨_, found, diagRequestedAt_ended d.env _ _ data row⟩
    | false =>
      rw [sensors_stopped sensors object known goes]
      exact ⟨row, known, rfl⟩

theorem limited_step (timed : s.Timed) (h : Happening) : s.Limited h := by
  cases h with
  | rename _ _ _ => trivial
  | message d =>
    intro polled
    obtain ⟨own, sensors, sent⟩ := pollsDiag_iff.mp polled
    cases object : d.payload.object? with
    | none =>
      rw [pollsDiag_unread object] at polled
      cases polled
    | some data =>
      cases known : s.world.device? d.deviceId with
      | none =>
        rw [autoDiag_unknown sensors object known] at sent
        cases sent
      | some row =>
        rw [autoDiag_known sensors object known, Bool.and_eq_true] at sent
        obtain ⟨approved, capable, latched, charged, cooled⟩ := of_polls sent.2
        rw [own] at known
        refine ⟨row, known, approved, capable, latched, charged, fun t member => ?_⟩
        obtain ⟨row', last, known', stored, before⟩ := timed t member
        rw [known, Option.some.injEq] at known'
        calc diagPollCooldownTenths row
            ≤ (d.env.now - last) * 10 := cooled last (known' ▸ stored)
          _ ≤ (d.env.now - t) * 10 := Int.mul_le_mul_of_nonneg_right (Int.sub_le_sub_left before _) (by decide)

theorem timed_message (timed : s.Timed) (d : Delivery) : (s.step (.message d)).Timed := by
  have limited := limited_step timed (.message d)
  intro t member
  dsimp only [step] at member ⊢
  cases polled : s.pollsDiag d with
  | true =>
    obtain ⟨row, due⟩ := limited polled
    obtain ⟨new, found, stored⟩ := diagRequestedAt_deliver due.known d
    rw [polled, if_pos rfl] at member stored
    refine ⟨new, d.env.now, found, stored, ?_⟩
    rcases List.mem_append.mp member with earlier | latest
    · have spaced : (0 : Int) ≤ (d.env.now - t) * 10 :=
        (diagPollCooldownTenths_nonneg row).trans (due.spaced t earlier)
      exact Int.le_of_sub_nonneg (by omega)
    · exact (List.mem_singleton.mp latest).le
  | false =>
    rw [polled, if_neg Bool.false_ne_true] at member
    obtain ⟨row, last, known, stored, before⟩ := timed t member
    obtain ⟨new, found, kept⟩ := diagRequestedAt_deliver known d
    rw [polled, if_neg Bool.false_ne_true] at kept
    exact ⟨new, last, found, kept.trans stored, before⟩

theorem diagRequestedAt_rename {row : Device} (known : s.world.device? s.id = some row) (env : Env)
    (deviceId newId : String) :
    let u := s.step (.rename env deviceId newId)
    ∃ new, u.world.device? u.id = some new ∧ new.diagRequestedAt = row.diagRequestedAt := by
  obtain ⟨new, found, rfl | rfl⟩ := device?_followed known env deviceId newId
  · exact ⟨new, found, rfl⟩
  · exact ⟨_, found, rfl⟩

theorem timed_step (timed : s.Timed) (h : Happening) : (s.step h).Timed := by
  cases h with
  | message d => exact timed_message timed d
  | rename env deviceId newId =>
    intro t member
    obtain ⟨row, last, known, stored, before⟩ := timed t member
    obtain ⟨new, found, kept⟩ := diagRequestedAt_rename known env deviceId newId
    exact ⟨new, last, found, kept.trans stored, before⟩

/-- The polls of a device, under all its names, keep the cooldown of the later one. -/
theorem polls_limited (w : World) (id : String) (hs : List Happening) :
    Run.Along step (fun s h => s.Limited h) (watching w id) hs := by
  have start : (watching w id).Timed := fun _ member => absurd member List.not_mem_nil
  exact @Run.along_of_invariant _ _ step (fun _ _ => True) _ Timed (fun _ h timed _ => timed_step timed h)
    (fun _ h timed _ => limited_step timed h) _ hs start (Run.along_of_all _ _ (fun _ _ _ => trivial))

end Rounds

end SensorServer
