import SensorServer.References
import SensorServer.Replies

/-! The topics the worker subscribes to (mqtt_bridge/topics.py), against the table of handlers
and against what the server publishes itself on the same broker. -/
namespace SensorServer
open Program

/-- A `+` stands for any one level. -/
def levelsMatch : List String → List String → Bool
  | [], [] => true
  | pattern :: patterns, level :: levels =>
    (decide (pattern = "+") || decide (pattern = level)) && levelsMatch patterns levels
  | _, _ => false

/-- What MQTT says of a filter without `#`: it matches level by level, but if it begins with a
wildcard none of the topics of the broker itself. -/
structure Broker (filterMatches : String → String → Bool) : Prop where
  levels : ∀ filter topic, '#' ∉ filter.toList → (filter.toList.head? = some '+' → topic.toList.head? ≠ some '$') →
    filterMatches filter topic = levelsMatch (pySplit '/' filter) (pySplit '/' topic)
  own : ∀ filter topic, filter.toList.head? = some '+' → topic.toList.head? = some '$' →
    filterMatches filter topic = false

/-- What _on_connect subscribes to. -/
def subscriptions : List String :=
  ["+/+/sensors", "+/+/status", "+/+/capabilities", "+/+/commands", "+/+/calibration", "+/+/diag", "+/+/ack"]

section Forwarding
variable (filterMatches : String → String → Bool)

def subscribed (topic : String) : Bool := subscriptions.any (fun filter => filterMatches filter topic)

def forward (w : World) (m : Mail) : World := if subscribed filterMatches m.topic then receive w m else w

end Forwarding

theorem length_of_levelsMatch {patterns levels : List String} (same : levelsMatch patterns levels = true) :
    patterns.length = levels.length := by
  induction patterns generalizing levels with
  | nil => cases levels with
    | nil => rfl
    | cons level levels => cases same
  | cons pattern patterns ih => cases levels with
    | nil => cases same
    | cons level levels =>
      rw [levelsMatch, Bool.and_eq_true] at same
      simp [ih same.2]

theorem wildcards_match {msgType : String} (plain : msgType ≠ "+") (levels : List String) :
    levelsMatch ["+", "+", msgType] levels = true ↔
      ∃ deviceType deviceId, levels = [deviceType, deviceId, msgType] := by
  constructor
  · intro same
    have three := length_of_levelsMatch same
    match levels, three with
    | [deviceType, deviceId, last], _ =>
      simp [levelsMatch, plain] at same
      exact ⟨deviceType, deviceId, by rw [same]⟩
  · rintro ⟨deviceType, deviceId, rfl⟩
    simp [levelsMatch]

theorem ofTopic_isSome {msgType : String} : (MessageKind.ofTopic msgType).isSome = true ↔
    msgType ∈ ["sensors", "status", "capabilities", "commands", "calibration", "diag", "ack"] := by
  unfold MessageKind.ofTopic
  rw [List.lookup_isSome_iff]
  simp

section Matching
variable {filterMatches : String → String → Bool} (broker : Broker filterMatches)
include broker

/-- The filters and the table of handlers agree, up to the topics of the broker. -/
theorem subscribed_iff (topic : String) :
    subscribed filterMatches topic = true ↔ topic.toList.head? ≠ some '$' ∧
      ∃ deviceType deviceId msgType, pySplit '/' topic = [deviceType, deviceId, msgType] ∧
        (MessageKind.ofTopic msgType).isSome = true := by
  have single : ∀ filter ∈ subscriptions, '#' ∉ filter.toList ∧ filter.toList.head? = some '+' := by decide
  by_cases own : topic.toList.head? = some '$'
  · refine iff_of_false (fun matched => ?_) (fun other => other.1 own)
    obtain ⟨filter, listed, matched⟩ := List.any_eq_true.mp matched
    rw [broker.own filter topic (single filter listed).2 own] at matched
    cases matched
  have filters : subscriptions.map (pySplit '/') =
      ["sensors", "status", "capabilities", "commands", "calibration", "diag", "ack"].map
        (fun msgType => ["+", "+", msgType]) := by decide
  have any : subscribed filterMatches topic =
      (subscriptions.map (pySplit '/')).any (fun patterns => levelsMatch patterns (pySplit '/' topic)) := by
    unfold subscribed
    rw [List.any_map, Bool.eq_iff_iff, List.any_eq_true, List.any_eq_true]
    refine exists_congr (fun filter => and_congr_right (fun listed => ?_))
    rw [broker.levels filter topic (single filter listed).1 (fun _ => own), Function.comp_apply]
  rw [any, filters, List.any_map, List.any_eq_true, and_iff_right own]
  constructor
  · rintro ⟨msgType, listed, same⟩
    have plain : msgType ≠ "+" := by
      rintro rfl
      exact absurd listed (by decide)
    obtain ⟨deviceType, deviceId, parts⟩ := (wildcards_match plain _).mp same
    exact ⟨deviceType, deviceId, msgType, parts, ofTopic_isSome.mpr listed⟩
  · rintro ⟨deviceType, deviceId, msgType, parts, known⟩
    refine ⟨msgType, ofTopic_isSome.mp known, ?_⟩
    rw [Function.comp_apply, parts]
    simp [levelsMatch]

omit broker in
theorem head_parsed {topic deviceType deviceId msgType : String}
    (segments : Segments topic deviceType deviceId msgType)
    (safe : Identifier deviceType ∨ Newlined deviceType) : topic.toList.head? ≠ some '$' := by
  have clean : ∀ c, deviceType.toList.head? = some c → c ≠ '$' := by
    rintro c first rfl
    rcases safe with plain | ⟨name, rfl, plain, -⟩
    · exact absurd (plain.clean _ (List.mem_of_mem_head? first)) (by decide)
    · rcases List.mem_append.mp (String.toList_append ▸ List.mem_of_mem_head? first) with inside | last
      · exact absurd (plain.clean _ inside) (by decide)
      · exact absurd last (by decide)
  have filled : deviceType.toList ≠ [] := by
    intro empty
    rcases safe with plain | ⟨name, rfl, plain, -⟩
    · have long := plain.nonempty
      simp [pyLen, empty] at long
    · simp at empty
  intro dollar
  rw [← segments.joined] at dollar
  simp only [String.toList_intercalate, List.map_cons, List.map_nil, List.intercalate_cons_cons] at dollar
  cases chars : deviceType.toList with
  | nil => exact filled chars
  | cons c cs =>
    rw [chars] at dollar clean
    exact clean c rfl (by simpa using dollar)

theorem forward_eq_receive (w : World) (m : Mail) : forward filterMatches w m = receive w m := by
  unfold forward
  split
  · rfl
  next silent =>
  cases parsed : parseTopic m.topic with
  | none =>
    unfold receive onMessage
    rw [parsed]
    rfl
  | some parts =>
    obtain ⟨deviceType, deviceId, msgType⟩ := parts
    have grammar := parseTopic_eq_some.mp parsed
    refine (receive_unknown parsed ?_).symm
    by_contra known
    exact silent ((subscribed_iff broker m.topic).mpr
      ⟨head_parsed grammar.1 grammar.2.1, deviceType, deviceId, msgType,
      segments_iff.mp grammar.1, Option.isSome_iff_ne_none.mpr known⟩)

omit broker in
theorem splitChars_append (separator : Char) (before rest : List Char) :
    splitChars separator (before ++ separator :: rest) =
      splitChars separator before ++ splitChars separator rest := by
  induction before with
  | nil => simp [splitChars]
  | cons c before ih =>
    rw [List.cons_append, splitChars, splitChars, ih]
    split
    · rfl
    · cases split : splitChars separator before with
      | nil => exact absurd (splitChars_eq_splitOn _ _ ▸ split) (List.splitOn_ne_nil separator before)
      | cons part parts => rfl

theorem command_unsubscribed (d : Device) : subscribed filterMatches (commandTopic d) = false := by
  by_contra matched
  obtain ⟨-, deviceType, deviceId, msgType, parts, known⟩ := (subscribed_iff broker _).mp (by simpa using matched)
  have chars : (commandTopic d).toList = (d.deviceType ++ "/" ++ d.deviceId).toList ++ '/' :: "command".toList := by
    simp [commandTopic]
  have word : splitChars '/' "command".toList = ["command".toList] := by decide
  unfold pySplit at parts
  rw [chars, splitChars_append, word, List.map_append] at parts
  have last := congrArg List.getLast? parts
  simp at last
  rw [← last] at known
  exact absurd known (by decide)

end Matching

abbrev Addressed : World → World → Prop := Sends (fun topic _ => ∃ d : Device, topic = commandTopic d)

theorem confined_addressed : Confined (.of fun _ => True) Addressed := by
  have each : ∀ (w : World) (e : Effect), e.Within (.of fun _ => True) w → Addressed w (w.apply e) := by
    intro w e within
    cases e with
    | publish p =>
      obtain ⟨d, -, topic⟩ := within
      exact ⟨[p], rfl, by simpa using ⟨d, topic⟩⟩
    | setRollup view rows => cases view <;> exact sends_unchanged rfl
    | _ => exact sends_unchanged rfl
  exact ⟨⟨⟨sends_closed _, fun _ _ => trivial, fun w e _ => each w e⟩, fun w e _ => each w e⟩, each,
    fun _ _ sent => sent⟩

theorem addressed_serve (w : World) (e : Event) : Addressed w (serve w e) := by
  cases e with
  | api env view request =>
    have same := congrArg World.published (@registers_api w env request view).aside
    exact sends_unchanged same
  | message d =>
    exact confined_addressed.handleMessage trivial (fun w => confined_addressed.each w
      (.createDevice _) trivial) (fun _ => trivial) (fun _ => trivial) w
  | web env view request deviceId => exact confined_addressed.view trivial view (fun _ => trivial) (fun _ => trivial) w

/-- A client publishes a message, the broker offers the worker a message that the server has
published, or the web process serves a request. -/
inductive Traffic where
  | client (m : Mail)
  | echo (n : Nat) (env : Env) (payload : Payload)
  | web (env : Env) (view : DeviceView) (request : Request) (deviceId : String)
  | api (env : Env) (view : ApiView) (request : ApiRequest)

def carry (filterMatches : String → String → Bool) (w : World) : Traffic → World
  | .client m => forward filterMatches w m
  | .echo n env payload => (w.published[n]?).elim w (fun p => forward filterMatches w ⟨env, p.topic, payload⟩)
  | .web env view request deviceId => serve w (.web env view request deviceId)
  | .api env view request => serve w (.api env view request)

def Mail.event (m : Mail) : Option Event :=
  match parseTopic m.topic with
  | none => none
  | some (deviceType, deviceId, msgType) =>
    (MessageKind.ofTopic msgType).map (fun kind => .message ⟨m.env, kind, deviceType, deviceId, m.payload⟩)

def Traffic.event : Traffic → Option Event
  | .client m => m.event
  | .echo _ _ _ => none
  | .web env view request deviceId => some (.web env view request deviceId)
  | .api env view request => some (.api env view request)

theorem receive_event (w : World) (m : Mail) : receive w m = m.event.elim w (serve w) := by
  unfold Mail.event
  cases parsed : parseTopic m.topic with
  | none =>
    unfold receive onMessage
    rw [parsed]
    rfl
  | some parts =>
    obtain ⟨deviceType, deviceId, msgType⟩ := parts
    cases known : MessageKind.ofTopic msgType with
    | none => simp [receive_unknown parsed known, known]
    | some kind => simp [receive_of_topic parsed known, known, serve]

/-- Everything the server has published is a command to a device. -/
def Outgoing (w : World) : Prop :=
  ∀ p ∈ w.published, ∃ d : Device, p.topic = commandTopic d

section Traffic
variable {filterMatches : String → String → Bool} (broker : Broker filterMatches)
include broker

/-- The broker brings nothing back that the server has published. -/
theorem echo_idle {w : World} (addressed : Outgoing w) (n : Nat) (env : Env) (payload : Payload) :
    carry filterMatches w (.echo n env payload) = w := by
  change (w.published[n]?).elim w (fun p => forward filterMatches w ⟨env, p.topic, payload⟩) = w
  cases sent : w.published[n]? with
  | none => rfl
  | some p =>
    obtain ⟨d, topic⟩ := addressed p (List.mem_of_getElem? sent)
    rw [Option.elim_some, forward, topic, command_unsubscribed broker d]
    rfl

theorem carry_event {w : World} (t : Traffic) (addressed : Outgoing w) :
    carry filterMatches w t = t.event.elim w (serve w) := by
  cases t with
  | client m => exact (forward_eq_receive broker w m).trans (receive_event w m)
  | echo n env payload => exact echo_idle broker addressed n env payload
  | web | api => rfl

theorem addressed_carry {w : World} (addressed : Outgoing w) (t : Traffic) :
    Outgoing (carry filterMatches w t) := by
  rw [carry_event broker t addressed]
  cases t.event with
  | none => exact addressed
  | some e =>
    obtain ⟨new, published, each⟩ := addressed_serve w e
    intro p member
    rw [Option.elim_some, published] at member
    exact (List.mem_append.mp member).elim (addressed p) (each p)

end Traffic

/-- What comes over the broker, with the server's own messages among it, is a run of the handlers
on the messages that have one. -/
theorem traffic_is_events {filterMatches : String → String → Bool} (broker : Broker filterMatches)
    (ts : List Traffic) :
    Run.run (carry filterMatches) World.empty ts = Run.run serve World.empty (ts.filterMap Traffic.event) :=
  @Run.run_filterMap _ _ _ _ (carry filterMatches) serve id Traffic.event Outgoing (fun _ _ => True)
    (fun _ t addressed _ => carry_event broker t addressed) (fun _ t addressed _ => addressed_carry broker addressed t)
    _ ts (fun _ member => nomatch member) (Run.along_of_all _ _ (fun _ _ _ => trivial))

/-- A broker for the filters without `#`. -/
def mosquitto (filter topic : String) : Bool :=
  !(decide (filter.toList.head? = some '+') && decide (topic.toList.head? = some '$')) &&
    levelsMatch (pySplit '/' filter) (pySplit '/' topic)

/-- A message of a device, the server's question of it, and a topic that no one handles. -/
def livelyTraffic : List Traffic :=
  [.client ⟨{ now := 0 }, "thermo/living01/sensors", ⟨9, .value (.obj [("temp", .int 21)])⟩⟩,
   .echo 0 { now := 1 } ⟨9, .value (.obj [])⟩,
   .client ⟨{ now := 2 }, "thermo/living01/weather", ⟨9, .value (.obj [])⟩⟩]

theorem livelyTraffic_heard :
    livelyTraffic.map (fun t => t.event.isSome) = [true, false, false] ∧
      Run.run (carry mosquitto) World.empty livelyTraffic =
        Run.run serve World.empty (livelyTraffic.filterMap Traffic.event) := by
  refine ⟨by decide +kernel, traffic_is_events ⟨?_, ?_⟩ _⟩
  · intro filter topic _ other
    by_cases wild : filter.toList.head? = some '+'
    · simp [mosquitto, other wild]
    · simp [mosquitto, wild]
  · intro filter topic wild own
    simp [mosquitto, wild, own]

end SensorServer
