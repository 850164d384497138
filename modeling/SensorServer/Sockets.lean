import SensorServer.Lib.Channel
import SensorServer.Guests
import SensorServer.Privileges

/-! The WebSockets of the live page (readings/consumers.py) on the running site: who joins the
group, and what each of its members is sent. -/
namespace SensorServer
open Program

/-- The site with the state of the channel layer, the channels whose connection is accepted, and what
each client was sent. -/
structure LiveSite (layer : Channel.Layer Nat ChannelEvent) where
  site : Site
  channels : layer.State
  accepted : List Nat
  received : Nat → List ChannelEvent

inductive LiveEvent where
  | connect (channel : Nat) (session : Option Nat)
  | disconnect (channel : Nat)
  /-- the consumer of the channel takes the next message -/
  | receive (channel : Nat)
  | elapse
  | site (e : SiteEvent)

namespace LiveSite
variable {layer : Channel.Layer Nat ChannelEvent}

/-- connect lets the session in; any other connection is closed at once. -/
def admits (s : LiveSite layer) (channel : Nat) (session : Option Nat) : Bool :=
  LiveReadingsConsumer.connects (visitor s.site.accounts session) && !decide (channel ∈ s.accepted)

/-- What a step of the site has handed to the layer. -/
def news (env : AuthEnv) (s : LiveSite layer) (e : SiteEvent) : List ChannelEvent :=
  (s.site.step env e).world.broadcasts.drop s.site.world.broadcasts.length

/-- What an event asks of the layer. Only a connection that was accepted has joined the group, leaves
it again, and is sent what arrives. -/
def ops (env : AuthEnv) (s : LiveSite layer) : LiveEvent → List (Channel.Op Nat ChannelEvent)
  | .connect channel session => if s.admits channel session then [.groupAdd channel] else []
  | .disconnect channel => if channel ∈ s.accepted then [.groupDiscard channel] else []
  | .receive channel => if channel ∈ s.accepted then [.receive channel] else []
  | .elapse => [.elapse]
  | .site e => (s.news env e).map .groupSend

def step (env : AuthEnv) (s : LiveSite layer) (e : LiveEvent) : LiveSite layer where
  site := match e with
    | .site e => s.site.step env e
    | _ => s.site
  channels := Run.run layer.step s.channels (s.ops env e)
  accepted := match e with
    | .connect channel session => if s.admits channel session then s.accepted ++ [channel] else s.accepted
    | .disconnect channel => s.accepted.filter (fun c => decide (c ≠ channel))
    | _ => s.accepted
  received channel := s.received channel ++ layer.got channel s.channels (s.ops env e)

@[simp] theorem channels_step (env : AuthEnv) (s : LiveSite layer) (e : LiveEvent) :
    (s.step env e).channels = Run.run layer.step s.channels (s.ops env e) := rfl

@[simp] theorem received_step (env : AuthEnv) (s : LiveSite layer) (e : LiveEvent) (channel : Nat) :
    (s.step env e).received channel = s.received channel ++ layer.got channel s.channels (s.ops env e) := rfl

/-- The layer has room for what the event sends to the channel, and time takes nothing from it. -/
def Spares (env : AuthEnv) (view : Channel.View layer) (channel : Nat) (s : LiveSite layer) (e : LiveEvent) : Prop :=
  Run.Along layer.step (view.Spares channel) s.channels (s.ops env e)

instance (env : AuthEnv) (view : Channel.View layer) (channel : Nat) [∀ s op, Decidable (view.Spares channel s op)]
    (s : LiveSite layer) (e : LiveEvent) : Decidable (s.Spares env view channel e) :=
  inferInstanceAs (Decidable (Run.Along layer.step (view.Spares channel) s.channels (s.ops env e)))

end LiveSite

def Louder (w v : World) : Prop := w.broadcasts <+: v.broadcasts

theorem louder_apply (w : World) (e : Effect) : Louder w (w.apply e) := by
  cases e with
  | broadcast event => exact List.prefix_append _ _
  | setRollup view rows => cases view <;> exact List.prefix_refl _
  | _ => exact List.prefix_refl _

theorem served_louder : Served Louder (fun _ _ => True) := by
  have closed : Closed Louder := ⟨fun _ => List.prefix_refl _, fun first rest => first.trans rest⟩
  have serviced : Serviced Louder (fun _ _ => True) (fun _ _ => True) :=
    Serviced.of_marks closed (fun w _ _ _ => louder_apply w _) (fun w _ _ => louder_apply w _)
      (fun w _ _ _ _ _ => louder_apply w _)
  exact {
    toServiced := serviced
    history := fun w e _ _ => louder_apply w e
    plain := fun w e _ => louder_apply w e
    undone := fun _ _ louder => louder
    ack := fun _ _ _ => upholds_handleAckMessage (upholds_ackLookup serviced.toIssued (fun _ _ => trivial))
      (fun w _ _ _ => louder_apply w _)
    quiet := fun _ _ _ => trivial }

section Steps
variable (env : AuthEnv)

theorem louder_step (s : Site) (e : SiteEvent) : Louder s.world (s.step env e).world := by
  have page : ∀ {session path} {view : Site → Site}, (∀ t, Louder t.world (view t).world) →
      Louder s.world (s.behind session path view).world := by
    intro session path view louder
    obtain ⟨accounts, -, ran | ran⟩ := @behind_cases s session path view
    · rw [ran]
      exact List.prefix_refl _
    · rw [ran]
      exact louder { s with accounts := accounts }
  cases e with
  | setRole session isPost userId post => exact page (fun _ => List.prefix_refl _)
  | setSuperadmin session isPost userId post => exact page (fun _ => List.prefix_refl _)
  | page session pageEnv view request deviceId => exact page (fun t => served_louder.serve t.world _)
  | message d => exact served_louder.serve s.world _
  | api pageEnv view request => exact served_louder.serve s.world _
  | login | pending => exact List.prefix_refl _

variable {layer : Channel.Layer Nat ChannelEvent} {s : LiveSite layer} {channel : Nat} {e : LiveEvent}

theorem LiveSite.broadcasts_step : (s.step env e).site.world.broadcasts =
    s.site.world.broadcasts ++ (s.ops env e).filterMap Channel.Op.message? := by
  cases e with
  | site e =>
    obtain ⟨news, more⟩ := louder_step env s.site e
    have same : s.news env e = news := by
      unfold LiveSite.news
      rw [← more, List.drop_left]
    have sent : (s.ops env (.site e)).filterMap Channel.Op.message? = s.news env e := by
      simp [LiveSite.ops, List.filterMap_map, Function.comp_def, Channel.Op.message?]
    rw [sent, same]
    exact more.symm
  | connect other session =>
    have sent : (s.ops env (.connect other session)).filterMap Channel.Op.message? = [] := by
      simp only [LiveSite.ops]
      split <;> rfl
    rw [sent, List.append_nil]
    rfl
  | disconnect other | receive other =>
    have sent : ∀ op : Channel.Op Nat ChannelEvent, op.message? = none →
        (if other ∈ s.accepted then [op] else []).filterMap Channel.Op.message? = [] := by
      intro op silent
      split <;> simp [silent]
    rw [LiveSite.ops, sent _ rfl, List.append_nil]
    rfl
  | elapse => exact (List.append_nil _).symm

theorem LiveSite.accepted_step (joined : channel ∈ s.accepted) (stays : e ≠ .disconnect channel) :
    channel ∈ (s.step env e).accepted ∧ .groupDiscard channel ∉ s.ops env e := by
  cases e with
  | connect other session =>
    constructor
    · simp only [LiveSite.step]
      split
      · exact List.mem_append_left _ joined
      · exact joined
    · simp only [LiveSite.ops]
      split <;> simp
  | disconnect other =>
    have apart : channel ≠ other := by
      rintro rfl
      exact stays rfl
    refine ⟨List.mem_filter.mpr ⟨joined, decide_eq_true apart⟩, ?_⟩
    simp only [LiveSite.ops]
    split <;> simp [apart]
  | receive other =>
    refine ⟨joined, ?_⟩
    simp only [LiveSite.ops]
    split <;> simp
  | elapse => exact ⟨joined, by simp [LiveSite.ops]⟩
  | site e => exact ⟨joined, by simp [LiveSite.ops]⟩

variable {view : Channel.View layer} (promise : view.AtMostOnce)
include promise

/-- What the client of a channel is sent and what waits for it are some of the news, each once and in
order; a member that stays and that the layer spares misses none. -/
theorem LiveSite.channel_run (s : LiveSite layer) (channel : Nat) (es : List LiveEvent) : ∃ news got,
    (Run.run (LiveSite.step env) s es).site.world.broadcasts = s.site.world.broadcasts ++ news ∧
    (Run.run (LiveSite.step env) s es).received channel = s.received channel ++ got ∧
    (got ++ view.waiting (Run.run (LiveSite.step env) s es).channels channel).Sublist
      (view.waiting s.channels channel ++ news) ∧
    (channel ∈ s.accepted → view.member s.channels channel → .disconnect channel ∉ es →
      Run.Along (LiveSite.step env) (LiveSite.Spares env view channel) s es →
      got ++ view.waiting (Run.run (LiveSite.step env) s es).channels channel =
        view.waiting s.channels channel ++ news) := by
  induction es generalizing s with
  | nil => exact ⟨[], [], by simp⟩
  | cons e es ih =>
    obtain ⟨news, got, more, sent, once, whole⟩ := ih (s.step env e)
    have first := promise.run s.channels channel (s.ops env e)
    refine ⟨(s.ops env e).filterMap Channel.Op.message? ++ news, layer.got channel s.channels (s.ops env e) ++ got,
      ?_, ?_, ?_, ?_⟩
    · rw [Run.run_cons, more, LiveSite.broadcasts_step, List.append_assoc]
    · rw [Run.run_cons, sent, LiveSite.received_step, List.append_assoc]
    · have joined := (once.append_left (layer.got channel s.channels (s.ops env e))).trans
        (by simpa using first.append_right news)
      simpa using joined
    · intro joined member stays spared
      have remains : e ≠ .disconnect channel := fun leaves => stays (leaves ▸ List.mem_cons_self)
      obtain ⟨still, holds⟩ := LiveSite.accepted_step env joined remains
      obtain ⟨kept, all⟩ := promise.run_spared member holds spared.1
      have later := whole still kept (fun leaves => stays (List.mem_cons_of_mem _ leaves)) spared.2
      rw [Run.run_cons, List.append_assoc, later, LiveSite.channels_step, ← List.append_assoc, all, List.append_assoc]

omit promise in
theorem LiveSite.outsider_step (outside : channel ∉ s.accepted)
    (refused : ∀ session, e = .connect channel session →
      LiveReadingsConsumer.connects (visitor s.site.accounts session) = false) :
    channel ∉ (s.step env e).accepted ∧ (s.step env e).received channel = s.received channel := by
  cases e with
  | connect other session =>
    simp only [LiveSite.step, LiveSite.ops]
    split
    · next admitted =>
      refine ⟨fun joined => ?_, by simp [Channel.Layer.got, Channel.Layer.given]⟩
      rcases List.mem_append.mp joined with old | new
      · exact outside old
      · rw [LiveSite.admits, refused session (by rw [List.mem_singleton.mp new])] at admitted
        cases admitted
    · exact ⟨outside, List.append_nil _⟩
  | disconnect other =>
    refine ⟨fun joined => outside (List.mem_filter.mp joined).1, ?_⟩
    simp only [LiveSite.step, LiveSite.ops]
    split <;> simp [Channel.Layer.got, Channel.Layer.given]
  | receive other =>
    refine ⟨outside, ?_⟩
    simp only [LiveSite.step, LiveSite.ops]
    split
    · next joined =>
      have apart : other ≠ channel := by
        rintro rfl
        exact outside joined
      simp [Channel.Layer.got, Channel.Layer.given, apart]
    · exact List.append_nil _
  | elapse => exact ⟨outside, by simp [LiveSite.step, LiveSite.ops, Channel.Layer.got, Channel.Layer.given]⟩
  | site e =>
    refine ⟨outside, ?_⟩
    have silent : ∀ (messages : List ChannelEvent) (channels : layer.State),
        layer.got channel channels (messages.map .groupSend) = [] := by
      intro messages
      induction messages with
      | nil => exact fun _ => rfl
      | cons message messages ih => exact fun channels => ih _
    simp [LiveSite.step, LiveSite.ops, silent]

omit promise in
theorem LiveSite.outsider_run {es : List LiveEvent} (outside : channel ∉ s.accepted)
    (gone : ∀ session, .connect channel session ∉ es) :
    (Run.run (LiveSite.step env) s es).received channel = s.received channel := by
  induction es generalizing s with
  | nil => rfl
  | cons e es ih =>
    have first := LiveSite.outsider_step env (e := e) outside
      (fun session joins => absurd (joins ▸ List.mem_cons_self) (gone session))
    exact (ih first.1 (fun session listed => gone session (List.mem_cons_of_mem _ listed))).trans first.2

end Steps

/-- A client that is let in on a channel of its own is sent, until it leaves, what is broadcast in
between: each event at most once and in order, nothing from before or after. If the layer spares it,
only what still waits when it leaves is missing. -/
theorem socket_hears_interval {layer : Channel.Layer Nat ChannelEvent} {view : Channel.View layer}
    (promise : view.AtMostOnce) {env : AuthEnv} {s : LiveSite layer} {channel : Nat} {session : Option Nat}
    {es rest : List LiveEvent} (admitted : s.admits channel session = true)
    (unused : view.waiting s.channels channel = [])
    (stays : .disconnect channel ∉ es) (gone : ∀ session, .connect channel session ∉ rest) :
    let joined := s.step env (.connect channel session)
    let left := Run.run (LiveSite.step env) joined es
    ∃ news got, left.site.world.broadcasts = s.site.world.broadcasts ++ news ∧ got.Sublist news ∧
      (Run.run (LiveSite.step env) left (.disconnect channel :: rest)).received channel = s.received channel ++ got ∧
      (Run.Along (LiveSite.step env) (LiveSite.Spares env view channel) joined es →
        got ++ view.waiting left.channels channel = news) := by
  intro joined left
  have asks : s.ops env (.connect channel session) = [.groupAdd channel] := if_pos admitted
  have accepted : channel ∈ joined.accepted := by
    have grown : joined.accepted = s.accepted ++ [channel] := if_pos admitted
    rw [grown]
    exact List.mem_append_right _ (List.mem_singleton.mpr rfl)
  have channels : joined.channels = layer.groupAdd s.channels channel := by
    change Run.run layer.step s.channels (s.ops env (.connect channel session)) = _
    rw [asks]
    rfl
  have before : joined.received channel = s.received channel := by
    change s.received channel ++ layer.got channel s.channels (s.ops env (.connect channel session)) = _
    rw [asks]
    exact List.append_nil _
  obtain ⟨news, got, more, sent, once, whole⟩ := LiveSite.channel_run env promise joined channel es
  have member : view.member joined.channels channel := channels ▸ promise.joins s.channels channel
  rw [channels, promise.add, unused, List.nil_append] at once whole
  refine ⟨news, got, more, (List.sublist_append_left _ _).trans once, ?_, fun spared =>
    whole accepted (channels ▸ member) stays spared⟩
  have outside : channel ∉ (left.step env (.disconnect channel)).accepted := by
    intro still
    exact of_decide_eq_true (List.mem_filter.mp still).2 rfl
  have last : (left.step env (.disconnect channel)).received channel = left.received channel := by
    change left.received channel ++ layer.got channel left.channels (left.ops env (.disconnect channel)) = _
    simp only [LiveSite.ops]
    split <;> simp [Channel.Layer.got, Channel.Layer.given]
  rw [Run.run_cons, LiveSite.outsider_run env outside gone, last, sent, before]

/-- As long as no administrator acts, a client whose accounts had no role at first receives
nothing at all. -/
theorem unapproved_hears_nothing {layer : Channel.Layer Nat ChannelEvent} {env : AuthEnv} {s : LiveSite layer}
    {channel : Nat} {es : List LiveEvent} (linked : s.site.accounts.Linked) (outside : channel ∉ s.accepted)
    (below : ∀ e, .site e ∈ es → e.Below .admin s.site.accounts)
    (pending : ∀ session, .connect channel session ∈ es → (visitor s.site.accounts session).may .guest = false) :
    (Run.run (LiveSite.step env) s es).received channel = s.received channel := by
  have kept : ∀ (t : LiveSite layer) (e : LiveEvent), NoGain s.site.accounts t.site.accounts ∧ channel ∉ t.accepted ∧
      t.received channel = s.received channel → e ∈ es →
      NoGain s.site.accounts (t.step env e).site.accounts ∧ channel ∉ (t.step env e).accepted ∧
        (t.step env e).received channel = s.received channel := by
    rintro t e ⟨less, other, same⟩ listed
    have first := LiveSite.outsider_step env (e := e) other (by
      rintro session rfl
      rw [connects_eq_may]
      exact less.refused linked (pending session listed))
    refine ⟨?_, first.1, first.2.trans same⟩
    cases e with
    | connect | disconnect | receive | elapse => exact less
    | site e =>
      have now := below_later linked less (below e listed)
      exact noGain_closed.trans less (noGain_step (less.linked linked) now)
  exact (@Run.invariant _ _ (LiveSite.step env) (fun _ e => e ∈ es)
    (fun t => NoGain s.site.accounts t.site.accounts ∧ channel ∉ t.accepted ∧ t.received channel = s.received channel)
    kept s es ⟨noGain_closed.refl _, outside, rfl⟩ (Run.along_of_all s es (fun _ listed _ => listed))).2.2

def watched : LiveSite (Channel.bounded 100) := ⟨⟨guestAccounts, World.empty⟩, ([], fun _ => []), [], fun _ => []⟩

def unwatched : LiveSite (Channel.bounded 100) := ⟨openSite, ([], fun _ => []), [], fun _ => []⟩

def warned : List LiveEvent :=
  [.site (.message ⟨{ now := 0 }, .sensors, "thermo", "living01", ⟨9, .value (.obj [("temp", .int 21)])⟩⟩),
   .site (.message ⟨{ now := 1 }, .status, "thermo", "living01", ⟨9, .value (.obj [("level", .str "warning")])⟩⟩),
   .receive 7]

theorem guest_watches :
    let left := Run.run (LiveSite.step (siteEnv "admin")) watched (.connect 7 (some 0) :: warned)
    ∃ news got, left.site.world.broadcasts = watched.site.world.broadcasts ++ news ∧ got.Sublist news ∧
      (Run.run (LiveSite.step (siteEnv "admin")) left (.disconnect 7 :: warned)).received 7 =
        watched.received 7 ++ got ∧
      got ++ (Channel.boundedView 100).waiting left.channels 7 = news := by
  obtain ⟨news, got, more, once, sent, whole⟩ := @socket_hears_interval _ _ (Channel.boundedView_atMostOnce 100)
    (siteEnv "admin") watched 7 (some 0) warned warned (by decide) rfl (by simp [warned]) (by simp [warned])
  exact ⟨news, got, more, once, sent, whole (by decide +kernel)⟩

theorem stranger_unheard :
    (Run.run (LiveSite.step (siteEnv "admin")) unwatched (.connect 7 (some 0) :: warned)).received 7 =
      unwatched.received 7 := by
  refine unapproved_hears_nothing openSite_linked (by simp [unwatched]) ?_ ?_
  · intro e listed session asks
    simp only [warned, List.mem_cons, List.not_mem_nil, or_false, reduceCtorEq, LiveEvent.site.injEq,
      false_or] at listed
    rcases listed with rfl | rfl <;> cases asks
  · intro session _
    cases session <;> rfl

end SensorServer
