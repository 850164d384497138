import SensorServer.Provenance
import SensorServer.Sockets

/-! The live feed against the stored history: what a watching client is sent of a device, appended to
the readings it had when it came, are the readings that are stored. -/
namespace SensorServer
open Program

/-- The readings of the device among the events. -/
def liveReadings (id : String) (events : List ChannelEvent) : List SensorReading :=
  ownedBy SensorReading.deviceId id (events.filterMap ChannelEvent.reading?)

def World.history (w : World) (id : String) : List SensorReading := ownedBy SensorReading.deviceId id w.db.readings

def InStep (id : String) (w v : World) : Prop :=
  ∃ news, v.broadcasts = w.broadcasts ++ news ∧ v.history id = w.history id ++ liveReadings id news

/-- The channel layer takes what a message of the device announces, and no accepted value is beyond
the doubles. -/
def Event.announced (id : String) : Event → Prop
  | .message d => d.deviceId = id → (∀ n, d.env.channel n = true) ∧
      ∀ data, d.payload.object? = some data → overflows d.env data = false
  | _ => True

/-- The page deletes readings of the device, renames it, or renames another one to it, if it is let do. -/
def Event.unsettles (id : String) : Event → Prop
  | .web _ .delete _ deviceId | .web _ .deleteReadings _ deviceId => deviceId = id
  | .web _ .rename request deviceId => deviceId = id ∨ pyStrip (QueryDict.get request.post "new_device_id" "") = id
  | _ => False

section Step
variable {id : String} {w v : World}

theorem liveReadings_append (id : String) (first rest : List ChannelEvent) :
    liveReadings id (first ++ rest) = liveReadings id first ++ liveReadings id rest := by
  unfold liveReadings
  rw [List.filterMap_append, ownedBy_append]

theorem inStep_closed (id : String) : Closed (InStep id) := by
  refine ⟨fun w => ⟨[], by simp, by simp [liveReadings, ownedBy]⟩, ?_⟩
  rintro w v u ⟨first, broadcasts, history⟩ ⟨rest, broadcasts', history'⟩
  refine ⟨first ++ rest, ?_, ?_⟩
  · rw [broadcasts', broadcasts, List.append_assoc]
  · rw [history', history, liveReadings_append, List.append_assoc]

theorem Quiet.inStep (quiet : Quiet w v) : InStep id w v := by
  obtain ⟨readings, news, broadcasts, silent⟩ := quiet
  refine ⟨news, broadcasts, ?_⟩
  simp [World.history, liveReadings, readings, silent, ownedBy]

theorem reading_device {e : ChannelEvent} {r : SensorReading} (carries : e.reading? = some r) :
    r.deviceId = e.device := by
  cases e with
  | sensorReading => cases carries; rfl
  | deviceStatus => cases carries

theorem liveReadings_other {events : List ChannelEvent} (others : ∀ e ∈ events, e.device ≠ id) :
    liveReadings id events = [] := by
  refine List.filter_eq_nil_iff.mpr (fun r member own => ?_)
  obtain ⟨e, listed, carries⟩ := List.mem_filterMap.mp member
  exact others e listed ((reading_device carries).symm.trans (of_decide_eq_true own))

theorem Unseen.inStep (unseen : Unseen id w v) (louder : Louder w v) : InStep id w v := by
  obtain ⟨news, more⟩ := louder
  refine ⟨news, more.symm, ?_⟩
  have others : ∀ e ∈ news, e.device ≠ id := by
    have heard := unseen.heard
    unfold World.heardOf at heard
    rw [← more, List.filter_append, List.append_right_eq_self, List.filter_eq_nil_iff] at heard
    exact fun e listed own => heard e listed (decide_eq_true own)
  rw [liveReadings_other others, List.append_nil]
  exact unseen.rows.readings.symm

theorem clearing_inStep (id : String) : Clearing ⟨(· = id), fun _ => True, False⟩ (InStep id) where
  closed := inStep_closed id
  plain _ _ := trivial
  told w e told within := by
    cases e with
    | addReadings rows => exact within.1.elim
    | broadcast event =>
      have silent : event.reading? = none := by
        cases event with
        | deviceStatus => rfl
        | sensorReading => exact (within.2 rfl).elim
      have quiet : Quiet w (w.apply (.broadcast event)) := ⟨rfl, [event], rfl, by simp [silent]⟩
      exact quiet.inStep
    | _ => first | exact (Quiet.of_same rfl rfl).inStep | cases told
  clears w which _ := (Quiet.of_same rfl rfl).inStep

theorem deviceId_accepted {env : Env} {deviceId : String} {data : Fields} {r : SensorReading}
    (listed : r ∈ acceptedReadings env deviceId data) : r.deviceId = deviceId := by
  rw [acceptedReadings_eq, List.mem_filterMap] at listed
  obtain ⟨entry, -, taken⟩ := listed
  unfold takenReading at taken
  split at taken
  · split at taken <;> cases taken
    rfl
  · cases taken

theorem filterMap_readingEvent {row : Device} {deviceType : String} {readings : List SensorReading}
    (own : ∀ r ∈ readings, r.deviceId = row.deviceId) :
    readings.filterMap (ChannelEvent.reading? ∘ readingEvent row deviceType) = readings := by
  induction readings with
  | nil => rfl
  | cons r rest ih =>
    have carries : (ChannelEvent.reading? ∘ readingEvent row deviceType) r = some r := by
      simp [readingEvent, ChannelEvent.reading?, ← own r List.mem_cons_self]
    rw [List.filterMap_cons_some carries, ih (fun q listed => own q (List.mem_cons_of_mem r listed))]

theorem inStep_message {d : Delivery} (own : d.deviceId = id) (announced : (Event.message d).announced id) :
    InStep id w (deliver w d) := by
  by_cases kind : d.kind = .sensors
  swap
  · exact (clearing_inStep id).handleMessage own (fun _ => (Quiet.of_same rfl rfl).inStep) (fun _ => trivial)
      (fun sensors => absurd sensors kind) w
  cases object : d.payload.object? with
  | none =>
    rw [deliver_unread object]
    exact (inStep_closed id).refl w
  | some data =>
  by_cases approved : ∃ row, w.device? d.deviceId = some row ∧ row.isApproved = true
  swap
  · exact (quiet_unapproved kind object (fun row known =>
      Bool.eq_false_iff.mpr (fun yes => approved ⟨row, known, yes⟩))).inStep
  obtain ⟨row, known, approved⟩ := approved
  obtain ⟨taken, fits⟩ := announced own
  have goes : proceeds w d.env row = true := by simp [proceeds, taken]
  have stored : storesReadings w d.env row data = true := by
    simp [storesReadings, goes, approved, collects, fits data object, taken]
  have ended_ := sensors_ends kind object known goes
  rw [stored] at ended_
  obtain ⟨told, -, -, whole, broadcasts⟩ := ended_.broadcasts
  refine ⟨clearings d.env.now row ++ told ++ _, by rw [broadcasts]; simp only [List.append_assoc]; rfl, ?_⟩
  have announced_ : told.filterMap ChannelEvent.reading? = acceptedReadings d.env row.deviceId data := by
    rw [whole rfl, List.filterMap_map]
    exact filterMap_readingEvent (fun r listed => deviceId_accepted listed)
  have silent : ∀ sent, (resolutions d.env (alerted d.env.now (!row.isOnline d.env.now) row)
      (sentBattery d.env row.deviceId data) sent).filterMap ChannelEvent.reading? = [] := by
    intro sent
    unfold resolutions
    split <;> rfl
  have cleared : (clearings d.env.now row).filterMap ChannelEvent.reading? = [] := by
    unfold clearings
    split <;> rfl
  unfold World.history liveReadings
  rw [ended_.readings, ownedBy_append, List.filterMap_append, List.filterMap_append, cleared, announced_]
  simp [silent]

theorem inStep_page {env : Env} {view : DeviceView} {request : Request}
    (settled : ¬ (Event.web env view request id).unsettles id) : InStep id w (after (view.run env request id) w) := by
  have stays : view ≠ .delete := by
    rintro rfl
    exact settled rfl
  have keeps : view ≠ .rename := by
    rintro rfl
    exact settled (.inl rfl)
  have spares : view ≠ .deleteReadings := by
    rintro rfl
    exact settled rfl
  exact (clearing_inStep id).view rfl stays keeps spares (fun _ => trivial) w

/-- A page that leaves the database as it is. -/
theorem inStep_idle {env : Env} {view : DeviceView} {request : Request} {deviceId : String}
    (idle : (after (view.run env request deviceId) w).db = w.db) :
    InStep id w (after (view.run env request deviceId) w) := by
  have silent : NoNewReading w (after (view.run env request deviceId) w) :=
    confined_noNewReading.view trivial view (fun _ => trivial) (fun _ => trivial) w
  have quiet : Quiet w (after (view.run env request deviceId) w) := ⟨congrArg Db.readings idle, silent⟩
  exact quiet.inStep

theorem inStep_serve {e : Event} (announced : e.announced id) (settled : e.unsettles id → (serve w e).db = w.db) :
    InStep id w (serve w e) := by
  have louder : Louder w (serve w e) := served_louder.serve w e
  cases e with
  | api env view request =>
    have step := @registers_api w env request view
    exact (Quiet.of_same (congrArg (fun u : World => u.db.readings) step.aside)
      (congrArg World.broadcasts step.aside)).inStep
  | message d =>
    by_cases own : d.deviceId = id
    · exact inStep_message own announced
    · have other : (Event.message d).concerns id = false := decide_eq_false own
      exact (unseen_serve other (fun renames => renames) w).inStep louder
  | web env view request deviceId =>
    by_cases unsettled : (Event.web env view request deviceId).unsettles id
    · exact inStep_idle (settled unsettled)
    by_cases own : deviceId = id
    · subst own
      exact inStep_page unsettled
    · have other : (Event.web env view request deviceId).concerns id = false := decide_eq_false own
      refine (unseen_serve other (fun renames => ?_) w).inStep louder
      cases view with
      | rename => exact unsettled renames
      | _ => exact renames

end Step

def SiteEvent.event? : SiteEvent → Option Event
  | .page _ env view request deviceId => some (.web env view request deviceId)
  | .message d => some (.message d)
  | .api env view request => some (.api env view request)
  | .login _ | .pending _ | .setRole .. | .setSuperadmin .. => none

/-- The event is announced, and takes nothing from the device and gives it nothing of another: what
asks for that is refused. -/
def SiteEvent.calm (env : AuthEnv) (id : String) (s : Site) (e : SiteEvent) : Prop :=
  ∀ event, e.event? = some event → event.announced id ∧ (event.unsettles id → (s.step env e).world.db = s.world.db)

theorem inStep_site {id : String} {env : AuthEnv} {s : Site} {e : SiteEvent} (calm : e.calm env id s) :
    InStep id s.world (s.step env e).world := by
  have closed := inStep_closed id
  have aside : ∀ {session path} {view : Site → Site}, (∀ t, (view t).world = t.world) →
      InStep id s.world (s.behind session path view).world := by
    intro session path view idle
    rw [world_behind (fun t _ same => (idle t).trans same)]
    exact closed.refl _
  cases e with
  | setRole => exact aside (fun _ => rfl)
  | setSuperadmin => exact aside (fun _ => rfl)
  | page session pageEnv view request deviceId =>
    obtain ⟨-, settled⟩ := calm _ rfl
    rw [Site.step] at settled ⊢
    obtain ⟨accounts, -, ran | ran⟩ := @behind_cases s session (view.path deviceId) fun s =>
      { s with world := serve s.world (.web pageEnv view
        { request with user := visitor s.accounts session } deviceId) }
    · rw [ran]
      exact closed.refl _
    · rw [ran] at settled ⊢
      refine inStep_serve (e := .web pageEnv view _ deviceId) trivial (fun unsettled => settled ?_)
      cases view <;> exact unsettled
  | message d =>
    obtain ⟨announced, settled⟩ := calm _ rfl
    exact inStep_serve announced settled
  | api pageEnv view request =>
    exact inStep_serve (e := .api pageEnv view request) trivial (fun unsettled => unsettled.elim)
  | login | pending => exact closed.refl _

theorem inStep_run {id : String} {env : AuthEnv} {layer : Channel.Layer Nat ChannelEvent} {s : LiveSite layer}
    {es : List LiveEvent}
    (calm : Run.Along (LiveSite.step env) (fun t e => ∀ event, e = .site event → event.calm env id t.site) s es) :
    InStep id s.site.world (Run.run (LiveSite.step env) s es).site.world := by
  refine @Run.invariant _ _ (LiveSite.step env) _ (fun t => InStep id s.site.world t.site.world) ?_ s es
    ((inStep_closed id).refl _) calm
  intro t e before calm
  refine (inStep_closed id).trans before ?_
  cases e with
  | site event => exact inStep_site (calm event rfl)
  | connect | disconnect | receive | elapse => exact (inStep_closed id).refl _

/-- What a watching client that the layer spares has been sent of a device since it looked at its
readings, with what still waits for it, are the readings that were stored since, one for one and in
order. -/
theorem watcher_has_history {layer : Channel.Layer Nat ChannelEvent} {view : Channel.View layer}
    (promise : view.AtMostOnce) {id : String} {env : AuthEnv} {s : LiveSite layer} {channel : Nat}
    {es : List LiveEvent} (joined : channel ∈ s.accepted) (member : view.member s.channels channel)
    (stays : .disconnect channel ∉ es)
    (spared : Run.Along (LiveSite.step env) (LiveSite.Spares env view channel) s es)
    (calm : Run.Along (LiveSite.step env) (fun t e => ∀ event, e = .site event → event.calm env id t.site) s es) :
    let later := Run.run (LiveSite.step env) s es
    ∃ news, later.received channel ++ view.waiting later.channels channel =
        s.received channel ++ view.waiting s.channels channel ++ news ∧
      later.site.world.history id = s.site.world.history id ++ liveReadings id news := by
  obtain ⟨news, got, more, sent, -, whole⟩ := LiveSite.channel_run env promise s channel es
  obtain ⟨added, broadcasts, history⟩ := inStep_run calm
  have same : added = news := List.append_cancel_left (broadcasts.symm.trans more)
  refine ⟨news, ?_, same ▸ history⟩
  rw [sent, List.append_assoc, whole joined member stays spared, List.append_assoc]

/-- A guest watches while a sensor that was approved before is heard. -/
def watchedSensor : LiveSite (Channel.bounded 100) :=
  ⟨⟨guestAccounts, Run.run serve World.empty (firstReading.take 2)⟩, ([7], fun _ => []), [7], fun _ => []⟩

def heardAgain : List LiveEvent :=
  [.site (.message ⟨{ now := 2 }, .sensors, "thermo", "living01", ⟨9, .value (.obj [("temp", .int 21)])⟩⟩),
   .receive 7]

theorem guest_has_history :
    let later := Run.run (LiveSite.step (siteEnv "admin")) watchedSensor heardAgain
    ∃ news, later.received 7 ++ (Channel.boundedView 100).waiting later.channels 7 =
        watchedSensor.received 7 ++ (Channel.boundedView 100).waiting watchedSensor.channels 7 ++ news ∧
      later.site.world.history "living01" = watchedSensor.site.world.history "living01" ++
        liveReadings "living01" news := by
  refine watcher_has_history (Channel.boundedView_atMostOnce 100) (by decide) (by decide) (by simp [heardAgain])
    (by decide +kernel) ⟨?_, ⟨?_, trivial⟩⟩
  · rintro event ⟨⟩ _ ⟨⟩
    refine ⟨fun _ => ⟨fun _ => rfl, ?_⟩, fun unsettled => unsettled.elim⟩
    rintro data ⟨⟩
    decide +kernel
  · rintro event ⟨⟩

def Announced (w : World) : Prop :=
  ∀ r ∈ w.db.readings, ∃ e ∈ w.broadcasts, ∃ q, e.reading? = some q ∧ SameReading q r

theorem announced_message {w : World} {d : Delivery} {r : SensorReading} (listed : r ∈ (deliver w d).db.readings)
    (new : r ∉ w.db.readings) : ∃ e ∈ (deliver w d).broadcasts, e.reading? = some r := by
  obtain ⟨⟨kind, data, object, -⟩, row, known, -⟩ := (message_readings listed).resolve_left new
  have readings := readings_sensors kind object known
  cases stored : storesReadings w d.env row data with
  | false =>
    rw [stored] at readings
    simp only [Bool.false_eq_true, if_false, List.append_nil] at readings
    exact absurd (readings ▸ listed) new
  | true =>
    have goes : proceeds w d.env row = true := by
      simp only [storesReadings, Bool.and_eq_true] at stored
      exact stored.1.1
    have ended_ := sensors_ends kind object known goes
    rw [stored] at ended_
    have accepted : r ∈ acceptedReadings d.env row.deviceId data := by
      rw [ended_.readings] at listed
      exact (List.mem_append.mp listed).resolve_left new
    obtain ⟨told, -, -, whole, broadcasts⟩ := ended_.broadcasts
    refine ⟨readingEvent row d.deviceType r, ?_, ?_⟩
    · have said : readingEvent row d.deviceType r ∈ told := by
        rw [whole rfl]
        exact List.mem_map_of_mem accepted
      rw [broadcasts]
      exact List.mem_append_left _ (List.mem_append_right _ said)
    · simp [readingEvent, ChannelEvent.reading?, ← deviceId_accepted accepted]

theorem announced_serve {w : World} (before : Announced w) (e : Event) : Announced (serve w e) := by
  have louder : Louder w (serve w e) := served_louder.serve w e
  intro r listed
  have kept : ∀ q ∈ w.db.readings, SameReading q r →
      ∃ e' ∈ (serve w e).broadcasts, ∃ p, e'.reading? = some p ∧ SameReading p r := by
    intro q old same
    obtain ⟨event, said, p, carries, first⟩ := before q old
    refine ⟨event, louder.subset said, p, carries, ?_⟩
    rw [SameReading] at first same ⊢
    rw [same, first]
  by_cases old : r ∈ w.db.readings
  · exact kept r old rfl
  · rcases serve_readings listed with ⟨q, was, same, -⟩ | ⟨d, rfl, -, -⟩
    · exact kept q was same
    · obtain ⟨event, said, carries⟩ := announced_message listed old
      exact ⟨event, said, r, carries, rfl⟩

/-- Every stored reading has been broadcast, with its metric, value and time; a rename may have given
it another device since. -/
theorem stored_was_live (es : List Event) : Announced (Run.run serve World.empty es) :=
  @Run.invariant _ _ serve (fun _ _ => True) Announced (fun _ e before _ => announced_serve before e)
    World.empty es (fun _ listed => absurd listed List.not_mem_nil) (Run.along_of_all _ _ (fun _ _ _ => trivial))

end SensorServer
