import SensorServer.Batches
import SensorServer.Privileges

/-! Where the stored readings come from: each was reported by an approved device, and has come to
its present owner by renames and merges alone. -/
namespace SensorServer
open Program

/-- The row is the reading of an entry of the message. -/
def Delivery.reports (d : Delivery) (r : SensorReading) : Prop :=
  d.kind = .sensors ∧ ∃ data, d.payload.object? = some data ∧ ∃ entry ∈ data, takenReading d.env d.deviceId entry = some r

def SameReading (q r : SensorReading) : Prop := r = { q with deviceId := r.deviceId }

/-- The renames of a run from a state, one after the other, lead from one identifier to another. -/
inductive Leads : World → List Event → String → String → Prop where
  | ends (w : World) (id : String) : Leads w [] id id
  | stays {w : World} {e : Event} {es : List Event} {source target : String} :
      (∀ middle, ¬ e.hands w source middle) → Leads (serve w e) es source target → Leads w (e :: es) source target
  | hands {w : World} {e : Event} {es : List Event} {source middle target : String} : e.hands w source middle →
      Leads (serve w e) es middle target → Leads w (e :: es) source target

/-- The readings are those of before, but that some may have gone or changed hands in the scope. -/
def Traces (own : String → Prop) (w v : World) : Prop :=
  ∀ r ∈ v.db.readings, ∃ q ∈ w.db.readings, SameReading q r ∧
    (q.deviceId = r.deviceId ∨ own q.deviceId ∧ own r.deviceId)

section Traces
variable {own : String → Prop} {w v : World}

theorem traces_closed (own : String → Prop) : Closed (Traces own) := by
  refine ⟨fun w r listed => ⟨r, listed, rfl, .inl rfl⟩, fun {w v u} first rest r listed => ?_⟩
  obtain ⟨q, middle, same, hands⟩ := rest r listed
  obtain ⟨p, before, same', hands'⟩ := first q middle
  refine ⟨p, before, ?_, ?_⟩
  · rw [SameReading] at same same' ⊢
    rw [same, same']
  · rcases hands with kept | ⟨left, right⟩
    · rw [← kept]
      exact hands'
    · rcases hands' with kept | ⟨left', -⟩
      · exact .inr ⟨kept ▸ left, right⟩
      · exact .inr ⟨left', right⟩

theorem traces_of_same (same : v.db.readings = w.db.readings) : Traces own w v :=
  fun r listed => ⟨r, same ▸ listed, rfl, .inl rfl⟩

theorem traces_apply {e : Effect} (within : e.Within ⟨own, fun _ => True, False⟩ w) : Traces own w (w.apply e) := by
  cases e with
  | addReadings rows => exact within.1.elim
  | deleteReadings which => exact fun r listed => ⟨r, List.mem_of_mem_filter listed, rfl, .inl rfl⟩
  | moveReadings which target =>
    intro r listed
    obtain ⟨q, before, rfl⟩ := List.mem_map.mp listed
    refine ⟨q, before, ?_⟩
    split
    · next hit => exact ⟨rfl, .inr ⟨within.2 q before hit, within.1⟩⟩
    · exact ⟨rfl, .inl rfl⟩
  | setRollup view rows => cases view <;> exact traces_of_same rfl
  | _ => exact traces_of_same rfl

theorem confined_traces (own : String → Prop) : Confined ⟨own, fun _ => True, False⟩ (Traces own) :=
  ⟨⟨⟨traces_closed own, fun _ _ => trivial, fun _ _ _ within => traces_apply within⟩,
    fun _ _ _ within => traces_apply within⟩, fun _ _ within => traces_apply within,
    fun _ _ _ r listed => ⟨r, listed, rfl, .inl rfl⟩⟩

end Traces

section Step
variable {w : World} {r : SensorReading}

theorem traces_message {d : Delivery} (kind : d.kind ≠ .sensors) : Traces (· = d.deviceId) w (deliver w d) :=
  (confined_traces (· = d.deviceId)).handleMessage rfl (fun _ => traces_of_same rfl) (fun _ => trivial)
    (fun sensors => absurd sensors kind) w

/-- A new reading is an entry of the message, and the device is approved. -/
theorem message_readings {d : Delivery} (listed : r ∈ (deliver w d).db.readings) : r ∈ w.db.readings ∨
    d.reports r ∧ ∃ row, w.device? d.deviceId = some row ∧ row.isApproved = true := by
  by_cases kind : d.kind = .sensors
  swap
  · obtain ⟨q, before, same, kept | ⟨own, own'⟩⟩ := traces_message kind r listed
    · exact .inl (by rw [same, ← kept]; exact before)
    · exact .inl (by rw [same, own'.trans own.symm]; exact before)
  cases object : d.payload.object? with
  | none =>
    rw [deliver_unread object] at listed
    exact .inl listed
  | some data =>
    by_cases approved : ∃ row, w.device? d.deviceId = some row ∧ row.isApproved = true
    · obtain ⟨row, known, approved⟩ := approved
      rw [readings_sensors kind object known, List.mem_append] at listed
      refine listed.imp_right (fun new => ⟨⟨kind, data, object, ?_⟩, row, known, approved⟩)
      split at new
      · rw [acceptedReadings_eq, List.mem_filterMap] at new
        exact new
      · exact absurd new List.not_mem_nil
    · have quiet := @quiet_unapproved w d data kind object (fun row known =>
        Bool.eq_false_iff.mpr (fun yes => approved ⟨row, known, yes⟩))
      rw [quiet.readings] at listed
      exact .inl listed

theorem page_readings {env : Env} {view : DeviceView} {request : Request} {deviceId : String}
    (listed : r ∈ (serve w (.web env view request deviceId)).db.readings) : ∃ q ∈ w.db.readings, SameReading q r ∧
      (q.deviceId = r.deviceId ∧ (∀ target, ¬ (Event.web env view request deviceId).hands w q.deviceId target) ∨
        (Event.web env view request deviceId).hands w q.deviceId r.deviceId) := by
  change r ∈ (after (view.run env request deviceId) w).db.readings at listed
  cases may : request.user.may view.minimum with
  | false =>
    rw [page_refused may] at listed
    refine ⟨r, listed, rfl, .inl ⟨rfl, fun target hands => ?_⟩⟩
    cases view with
    | rename => exact hands.2.2.2 (congrArg World.db (after_refused may))
    | _ => exact hands
  | true =>
  by_cases renames : view = .rename
  swap
  · obtain ⟨q, before, same, hands⟩ := (confined_traces (· = deviceId)).view rfl view (fun _ => trivial)
      (fun rename => absurd rename renames) w r listed
    refine ⟨q, before, same, .inl ⟨hands.elim id (fun own => own.1.trans own.2.symm), fun target hands => ?_⟩⟩
    cases view with
    | rename => exact renames rfl
    | _ => exact hands
  subst renames
  generalize entered : pyStrip (QueryDict.get request.post "new_device_id" "") = newId
  by_cases idle : (after (deviceRenameView env request deviceId) w).db = w.db
  · change r ∈ (after (deviceRenameView env request deviceId) w).db.readings at listed
    rw [idle] at listed
    exact ⟨r, listed, rfl, .inl ⟨rfl, fun target hands => hands.2.2.2 idle⟩⟩
  obtain ⟨q, before, same, hands⟩ := (confined_traces (fun id => id = deviceId ∨ id = newId)).view (.inl rfl) .rename
    (fun _ => trivial) (fun _ => .inr entered) w r listed
  obtain ⟨gone, -⟩ := (@renamed_page w env request deviceId).resolve_left idle
  have left : r.deviceId ≠ deviceId := by
    rintro own
    have owned : r ∈ ownedBy SensorReading.deviceId deviceId
        (after (DeviceView.run env request deviceId .rename) w).db.readings :=
      List.mem_filter.mpr ⟨listed, decide_eq_true own⟩
    have none_ : ownedBy SensorReading.deviceId deviceId
      (after (DeviceView.run env request deviceId .rename) w).db.readings = [] := gone.readings
    rw [none_] at owned
    cases owned
  have other : q.deviceId = r.deviceId →
      ∀ target, ¬ (Event.web env .rename request deviceId).hands w q.deviceId target :=
    fun kept target hands => left (kept.symm.trans hands.2.1.symm)
  refine ⟨q, before, same, ?_⟩
  rcases hands with kept | ⟨source, target⟩
  · exact .inl ⟨kept, other kept⟩
  · have there := target.resolve_left left
    rcases source with own | same
    · exact .inr ⟨may, own.symm, entered.trans there.symm, idle⟩
    · have kept := same.trans there.symm
      exact .inl ⟨kept, other kept⟩

/-- A reading after the step was there before, perhaps with another owner, or is of the message. -/
theorem serve_readings {e : Event} (listed : r ∈ (serve w e).db.readings) :
    (∃ q ∈ w.db.readings, SameReading q r ∧ (q.deviceId = r.deviceId ∧ (∀ target, ¬ e.hands w q.deviceId target) ∨
      e.hands w q.deviceId r.deviceId)) ∨
    ∃ d, e = .message d ∧ d.reports r ∧ ∃ row, w.device? d.deviceId = some row ∧ row.isApproved = true := by
  cases e with
  | message d =>
    rcases message_readings listed with before | new
    · exact .inl ⟨r, before, rfl, .inl ⟨rfl, fun _ hands => hands⟩⟩
    · exact .inr ⟨d, rfl, new⟩
  | web env view request deviceId => exact .inl (page_readings listed)
  | api env view request =>
    have step := @registers_api w env request view
    have readings := congrArg (fun u : World => u.db.readings) step.aside
    exact .inl ⟨r, readings ▸ listed, rfl, .inl ⟨rfl, fun _ hands => hands⟩⟩

end Step

/-- The reading was stored at one of the messages of the run, and came to its owner after it. -/
def Reported (start : World) (es : List Event) (r : SensorReading) : Prop :=
  ∃ before d rest q, es = before ++ .message d :: rest ∧ d.reports q ∧ SameReading q r ∧
    (∃ row, (Run.run serve start before).device? d.deviceId = some row ∧ row.isApproved = true) ∧
    Leads (Run.run serve start (before ++ [.message d])) rest q.deviceId r.deviceId

theorem run_readings {start : World} {es : List Event} {r : SensorReading}
    (listed : r ∈ (Run.run serve start es).db.readings) :
    (∃ q ∈ start.db.readings, SameReading q r ∧ Leads start es q.deviceId r.deviceId) ∨ Reported start es r := by
  induction es generalizing start with
  | nil => exact .inl ⟨r, listed, rfl, .ends start _⟩
  | cons e es ih =>
    rcases ih listed with ⟨q, middle, same, leads⟩ | ⟨before, d, rest, q, rfl, reports, same, approved, leads⟩
    · rcases serve_readings middle with ⟨p, first, same', ⟨kept, stays⟩ | hands⟩ | ⟨d, rfl, reports, approved⟩
      · refine .inl ⟨p, first, ?_, .stays stays (kept ▸ leads)⟩
        rw [SameReading] at same same' ⊢
        rw [same, same']
      · refine .inl ⟨p, first, ?_, .hands hands leads⟩
        rw [SameReading] at same same' ⊢
        rw [same, same']
      · exact .inr ⟨[], d, es, q, rfl, reports, same, approved, leads⟩
    · exact .inr ⟨e :: before, d, rest, q, rfl, reports, same, approved, leads⟩

/-- Every stored reading is an entry of a message of a device that was approved when it came, and
belongs to that device or to one that renames lead to. -/
theorem readings_reported {es : List Event} {r : SensorReading}
    (stored : r ∈ (Run.run serve World.empty es).db.readings) : Reported World.empty es r := by
  rcases run_readings stored with ⟨q, listed, -⟩ | reported
  · cases listed
  · exact reported

/-- A sensor is heard, approved, heard again and renamed. -/
def firstReading : List Event :=
  [.message ⟨{ now := 0 }, .sensors, "thermo", "living01", ⟨9, .value (.obj [("temp", .int 21)])⟩⟩,
   .web { now := 1 } .approve { user := administrator, post := [("action", "approve")] } "living01",
   .message ⟨{ now := 2 }, .sensors, "thermo", "living01", ⟨9, .value (.obj [("temp", .int 21)])⟩⟩,
   .web { now := 3 } .rename { user := administrator, post := [("new_device_id", "cellar02")] } "living01"]

theorem firstReading_reported :
    Reported World.empty firstReading ⟨2, "cellar02", "temperature", .finite 21⟩ :=
  readings_reported (by decide +kernel)

end SensorServer
