import SensorServer.GuestViews

/-! What a guest learns of the readings over a run of requests and sensors messages. -/
namespace SensorServer
open Program

inductive GuestEvent where
  | request (view : GuestView)
  | sensors (env : Env) (deviceType deviceId : String) (payload : Payload)

/-- The same event of two runs; a message may carry different readings in each. -/
inductive PairedEvent where
  | request (view : GuestView)
  | sensors (env : Env) (deviceType deviceId : String) (payload twin : Payload)

def PairedEvent.left : PairedEvent → GuestEvent
  | .request view => .request view
  | .sensors env deviceType deviceId payload _ => .sensors env deviceType deviceId payload

def PairedEvent.right : PairedEvent → GuestEvent
  | .request view => .request view
  | .sensors env deviceType deviceId _ twin => .sensors env deviceType deviceId twin

/-- What reaches the guest: the answer to a request, or what the live connection
sends while a message is handled. -/
inductive Seen where
  | response (answer : Except Raised Response)
  | live (events : List ChannelEvent)
  deriving DecidableEq

def GuestEvent.step (viewer : User) (w : World) : GuestEvent → World
  | .request view => after (view.run viewer) w
  | .sensors env deviceType deviceId payload => after (handleSensorMessage env deviceType deviceId payload) w

def GuestEvent.seen (viewer : User) (w : World) : GuestEvent → Seen
  | .request view => .response (outcome (view.run viewer) w).1
  | .sensors env deviceType deviceId payload =>
    .live (LiveReadingsConsumer.sent viewer
      ((after (handleSensorMessage env deviceType deviceId payload) w).broadcasts.drop w.broadcasts.length))

/-- The two messages differ at most in readings no guest may see. -/
def PairedEvent.SameToGuest (w : World) : PairedEvent → Prop
  | .request _ => True
  | .sensors _ _ deviceId payload twin =>
    payload = twin ∨ ∃ data other, payload.object? = some data ∧ twin.object? = some other ∧
      AgreeOnShown w deviceId data other

/-- The requests of a guest who is let in are guarded, and messages that differ carry
no reading no guest may see. -/
def PairedEvent.Guarded (viewer : User) (w : World) : PairedEvent → Prop
  | .request view => viewer.may .guest = true → view.Guarded w
  | .sensors env _ deviceId payload twin =>
    viewer.may .guest = true → payload ≠ twin →
      (∀ data, payload.object? = some data → NothingHidden env w deviceId data) ∧
      (∀ data, twin.object? = some data → NothingHidden env w deviceId data)

theorem connects_eq_may (viewer : User) : LiveReadingsConsumer.connects viewer = viewer.may .guest := by
  unfold LiveReadingsConsumer.connects User.may User.hasRole
  cases viewer.role <;> rfl

theorem seen_refused {viewer : User} (refused : viewer.may .guest = false) (w v : World) (p : PairedEvent) :
    p.left.seen viewer w = p.right.seen viewer v := by
  cases p with
  | request view =>
    have answer : ∀ u, (outcome (view.run viewer) u).1 =
        .ok (if viewer.isAuthenticated then .forbidden else .login) := by
      intro u
      cases view <;>
        simp [GuestView.run, chartDataView, overviewChartDataView, dashboardView, dashboardCardsView,
          overviewView, roleRequired_eq, refused]
    simp only [PairedEvent.left, PairedEvent.right, GuestEvent.seen, answer]
  | sensors =>
    simp only [PairedEvent.left, PairedEvent.right, GuestEvent.seen, LiveReadingsConsumer.sent,
      connects_eq_may, refused]
    rfl

theorem pairedEvent_sync {viewer : User} (guest : viewer.guestOnly = true) (admitted : viewer.may .guest = true)
    {w v : World} {p : PairedEvent} (alike : SameToGuest w v) (premise : p.SameToGuest w)
    (guarded : p.Guarded viewer w) :
    p.left.seen viewer w = p.right.seen viewer v ∧ SameToGuest (p.left.step viewer w) (p.right.step viewer v) := by
  cases p with
  | request view =>
    obtain ⟨same, kept⟩ := guestView_congr guest alike (guarded admitted)
    exact ⟨congrArg Seen.response same, kept⟩
  | sensors env deviceType deviceId payload twin =>
    have same : outcome (handleSensorMessage env deviceType deviceId payload) w =
        outcome (handleSensorMessage env deviceType deviceId twin) w := by
      by_cases equal : payload = twin
      · rw [equal]
      · obtain ⟨data, other, left, right, agree⟩ := premise.resolve_left equal
        obtain ⟨clean, clean'⟩ := guarded admitted equal
        exact handleSensorMessage_congr left right agree (clean data left) (clean' other right)
    obtain ⟨-, kept⟩ := (blind_handleSensorMessage :
      Blind (handleSensorMessage env deviceType deviceId twin)) w v alike
    have last : after (handleSensorMessage env deviceType deviceId payload) w =
        after (handleSensorMessage env deviceType deviceId twin) w := congrArg Prod.snd same
    refine ⟨?_, ?_⟩
    · simp only [PairedEvent.left, PairedEvent.right, GuestEvent.seen, last, kept.broadcasts, alike.broadcasts]
    · simp only [PairedEvent.left, PairedEvent.right, GuestEvent.step, last]
      exact kept

/-- A guest of guarded requests and messages learns nothing that was not made visible. -/
theorem guest_learns_shown {viewer : User} (guest : viewer.guestOnly = true) {w v : World} (alike : SameToGuest w v)
    {events : List PairedEvent}
    (premise : Run.Along (fun w p => p.left.step viewer w) (fun w p => p.SameToGuest w) w events)
    (guarded : Run.Along (fun w p => p.left.step viewer w) (fun w p => p.Guarded viewer w) w events) :
    Run.trace (GuestEvent.step viewer) (GuestEvent.seen viewer) w (events.map PairedEvent.left) =
      Run.trace (GuestEvent.step viewer) (GuestEvent.seen viewer) v (events.map PairedEvent.right) := by
  cases admitted : viewer.may .guest with
  | true =>
    exact Run.trace_congr (fun w v p alike ok => pairedEvent_sync guest admitted alike ok.1 ok.2) alike
      (Run.along_and premise guarded)
  | false =>
    exact @Run.trace_congr _ _ _ _ _ _ _ _ (fun _ _ => True) (fun _ _ => True)
      (fun w v p _ _ => ⟨seen_refused admitted w v p, trivial⟩) w v events trivial
      (Run.along_of_all w events (fun _ _ _ => trivial))

def hall : Device :=
  { deviceId := "hall01", deviceType := "thermo", createdAt := 0, isApproved := true,
    guestVisibleMetrics := ["temperature"] }

def homeWorld (humidity : PyFloat) : World :=
  { World.empty with
    db.devices := Table.insert (Table.empty _) hall
    db.readings := [⟨seconds 50, "hall01", "temperature", .finite 21⟩,
      ⟨seconds 50, "hall01", "humidity", humidity⟩] }

theorem homeWorld_alike (humidity other : PyFloat) : SameToGuest (homeWorld humidity) (homeWorld other) :=
  ⟨rfl, rfl, fun view => by cases view <;> rfl⟩

def alice : User := { username := "alice", role := some .guest }

def dayChart (metric : String) : PairedEvent :=
  .request (.overviewChart { now := seconds 100 }
    [("metric", metric), ("devices", "hall01"), ("preset", "1d")])

def humidityReport : PairedEvent :=
  .sensors { now := seconds 100 } "thermo" "hall01" ⟨20, .value (.obj [("humi", .int 41)])⟩
    ⟨20, .value (.obj [("humi", .int 55)])⟩

theorem temperatureChart_unaffected :
    Run.trace (GuestEvent.step alice) (GuestEvent.seen alice) (homeWorld (.finite 41))
        ([dayChart "temperature"].map PairedEvent.left) =
      Run.trace (GuestEvent.step alice) (GuestEvent.seen alice) (homeWorld (.finite 55))
        ([dayChart "temperature"].map PairedEvent.right) :=
  guest_learns_shown (by decide) (homeWorld_alike _ _) ⟨trivial, trivial⟩
    ⟨fun _ => by unfold GuestView.Guarded; decide +kernel, trivial⟩

/-- The overview chart answers with the hidden humidity, and the live connection
sends it. -/
theorem hiddenHumidity_delivered :
    alice.guestOnly = true ∧ SameToGuest (homeWorld (.finite 41)) (homeWorld (.finite 55)) ∧
      ((dayChart "humidity").SameToGuest (homeWorld (.finite 41)) ∧
        (dayChart "humidity").left.seen alice (homeWorld (.finite 41)) ≠
          (dayChart "humidity").right.seen alice (homeWorld (.finite 55))) ∧
      humidityReport.SameToGuest (homeWorld (.finite 41)) ∧
        humidityReport.left.seen alice (homeWorld (.finite 41)) ≠
          humidityReport.right.seen alice (homeWorld (.finite 55)) := by
  have agree : AgreeOnShown (homeWorld (.finite 41)) "hall01" [("humi", .int 41)] [("humi", .int 55)] := by
    unfold AgreeOnShown
    decide +kernel
  exact ⟨by decide, homeWorld_alike _ _, ⟨trivial, by decide +kernel⟩,
    Or.inr ⟨_, _, rfl, rfl, agree⟩, by decide +kernel⟩

end SensorServer
