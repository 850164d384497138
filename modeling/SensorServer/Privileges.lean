import SensorServer.Quarantine
import SensorServer.Superuser

/-! The whole site: the accounts, the pages behind the middleware (accounts/middleware.py) with the
rights of the account that is logged in, the worker and the publication requests. -/
namespace SensorServer
open Program

/-- EXEMPT_PATHS -/
def exemptPaths : List String :=
  ["/healthz/", "/api/", "/oidc/", "/admin/", "/i18n/", "/accounts/login/", "/accounts/pending/",
    "/accounts/logout/", "/static/"]

def exempt (path : String) : Bool := exemptPaths.any (fun p => pyStartsWith path p)

/-- Whether the request goes on to its view; a profile is made for an account that has none. -/
def roleMiddleware (session : Option Nat) (path : String) : Auth Bool := do
  let user ← read (visitor · session)
  if !user.isAuthenticated then pure true
  else if user.isSuperuser then pure true
  else if exempt path then pure true
  else match session with
    | none => pure true
    | some id => do
      ensureProfile id
      let profile ← read (fun s => s.profiles.get? id)
      pure (profile.bind UserProfile.role).isSome

def pendingView (session : Option Nat) : Auth Response := do
  let user ← read (visitor · session)
  match session with
  | some id =>
    if !user.isAuthenticated then pure .login
    else do
      ensureProfile id
      let profile ← read (fun s => s.profiles.get? id)
      if (profile.bind UserProfile.role).isSome then pure (.redirect "/" none) else pure (.page "accounts/pending.html")
  | none => pure .login

def DeviceView.suffix : DeviceView → String
  | .edit => "edit/"
  | .approve => "approve/"
  | .command => "command/"
  | .setConfirmUplink => "set-confirm-uplink/"
  | .calibration => "calibration/"
  | .setCalibration => "set-calibration/"
  | .requestCalibration => "request-calibration/"
  | .requestStatus => "request-status/"
  | .requestDiag => "request-diag/"
  | .requestCapabilities => "request-capabilities/"
  | .otaPush => "ota-push/"
  | .clearCommands => "clear-commands/"
  | .delete => "delete/"
  | .rename => "rename/"
  | .deleteReadings => ""
  | .deleteCommand id => "delete-command/" ++ toString id ++ "/"

def DeviceView.path (deviceId : String) : DeviceView → String
  | .deleteReadings => "/api/delete-readings/" ++ deviceId ++ "/"
  | view => "/devices/" ++ deviceId ++ "/" ++ view.suffix

def accountPath (userId : Nat) (page : String) : String := "/accounts/users/" ++ toString userId ++ page

structure Site where
  accounts : Accounts
  world : World

/-- What happens on the site; a page is asked for in the session of an account, or in none. -/
inductive SiteEvent where
  | login (claims : Fields)
  | pending (session : Option Nat)
  | setRole (session : Option Nat) (isPost : Bool) (userId : Nat) (post : QueryDict)
  | setSuperadmin (session : Option Nat) (isPost : Bool) (userId : Nat) (post : QueryDict)
  | page (session : Option Nat) (env : Env) (view : DeviceView) (request : Request) (deviceId : String)
  | message (d : Delivery)
  | api (env : Env) (view : ApiView) (request : ApiRequest)

def SiteEvent.session? : SiteEvent → Option (Option Nat)
  | .pending session => some session
  | .setRole session _ _ _ => some session
  | .setSuperadmin session _ _ _ => some session
  | .page session _ _ _ _ => some session
  | .login _ | .message _ | .api _ _ _ => none

/-- What comes from outside the pages. -/
def SiteEvent.outside : SiteEvent → Option Event
  | .message d => some (.message d)
  | .api env view request => some (.api env view request)
  | _ => none

/-- The rest of the request, if the middleware lets it through. -/
def Site.behind (s : Site) (session : Option Nat) (path : String) (view : Site → Site) : Site :=
  match outcome (roleMiddleware session path) s.accounts with
  | (.ok true, accounts) => view { s with accounts := accounts }
  | (_, accounts) => { s with accounts := accounts }

def Site.step (env : AuthEnv) (s : Site) : SiteEvent → Site
  | .login claims => { s with accounts := after (oidcLogin env claims) s.accounts }
  | .pending session => { s with accounts := after (pendingView session) s.accounts }
  | .setRole session isPost userId post => s.behind session (accountPath userId "/set-role/") fun s =>
    { s with accounts := after (userSetRoleView env session isPost userId post) s.accounts }
  | .setSuperadmin session isPost userId post => s.behind session (accountPath userId "/set-superadmin/") fun s =>
    { s with accounts := after (userSetSuperadminView env session isPost userId post) s.accounts }
  | .page session env view request deviceId => s.behind session (view.path deviceId) fun s =>
    { s with world := serve s.world (.web env view { request with user := visitor s.accounts session } deviceId) }
  | .message d => { s with world := serve s.world (.message d) }
  | .api env view request => { s with world := serve s.world (.api env view request) }

/-- Every profile belongs to an account. -/
def Accounts.Linked (s : Accounts) : Prop :=
  ∀ id, (s.profiles.get? id).isSome = true → (s.users.get? id).isSome = true

/-- Later on there may be more accounts, and profiles without a role, but no more rights. -/
structure NoGain (s t : Accounts) : Prop where
  known : ∀ id, (s.users.get? id).isSome = true → (t.users.get? id).isSome = true
  superuser : ∀ id v, t.users.get? id = some v → v.isSuperuser = true →
    ∃ u, s.users.get? id = some u ∧ u.isSuperuser = true
  profile : ∀ id p, t.profiles.get? id = some p →
    s.profiles.get? id = some p ∨ p.role = none ∧ (t.users.get? id).isSome = true

theorem noGain_closed : Closed NoGain := by
  refine ⟨fun s => ⟨fun _ known => known, fun _ v found super => ⟨v, found, super⟩, fun _ _ found => .inl found⟩,
    fun {s t u} first rest => ⟨fun id known => rest.known id (first.known id known), ?_, ?_⟩⟩
  · intro id v found super
    obtain ⟨v, found, super⟩ := rest.superuser id v found super
    exact first.superuser id v found super
  · intro id p found
    rcases rest.profile id p found with before | pending
    · exact (first.profile id p before).imp_right (fun new => ⟨new.1, rest.known id new.2⟩)
    · exact .inr pending

theorem may_visitor {s : Accounts} {session : Option Nat} {minimum : Role} :
    (visitor s session).may minimum = true ↔ ∃ id u, session = some id ∧ s.users.get? id = some u ∧
      (u.isSuperuser = true ∨ ∃ p role, s.profiles.get? id = some p ∧ p.role = some role ∧
        minimum.rank ≤ role.rank) := by
  unfold visitor
  cases session with
  | none => simp [User.may]
  | some id =>
    cases found : s.users.get? id with
    | none => simp [User.may, found]
    | some u =>
      have own : u.id = id := Table.key_get? found
      cases profile : s.profiles.get? id with
      | none => simp [User.may, User.hasRole, found, own, profile]
      | some p =>
        cases role : p.role <;> simp [User.may, User.hasRole, found, own, profile, role]

section Gains
variable {s t : Accounts}

theorem NoGain.linked (less : NoGain s t) (linked : s.Linked) : t.Linked := by
  intro id profiled
  obtain ⟨p, found⟩ := Option.isSome_iff_exists.mp profiled
  rcases less.profile id p found with before | pending
  · exact less.known id (linked id (Option.isSome_iff_exists.mpr ⟨p, before⟩))
  · exact pending.2

theorem NoGain.rights (less : NoGain s t) (linked : s.Linked) {session : Option Nat} {minimum : Role}
    (may : (visitor t session).may minimum = true) : (visitor s session).may minimum = true := by
  rw [may_visitor] at may ⊢
  obtain ⟨id, v, rfl, found, super | ⟨p, role, profile, held, enough⟩⟩ := may
  · obtain ⟨u, before, super⟩ := less.superuser id v found super
    exact ⟨id, u, rfl, before, .inl super⟩
  · rcases less.profile id p profile with before | ⟨none_, -⟩
    · obtain ⟨u, account⟩ := Option.isSome_iff_exists.mp (linked id (Option.isSome_iff_exists.mpr ⟨p, before⟩))
      exact ⟨id, u, rfl, account, .inr ⟨p, role, before, held, enough⟩⟩
    · rw [none_] at held
      cases held

theorem NoGain.refused (less : NoGain s t) (linked : s.Linked) {session : Option Nat} {minimum : Role}
    (refused : (visitor s session).may minimum = false) : (visitor t session).may minimum = false := by
  rw [Bool.eq_false_iff] at refused ⊢
  exact fun may => refused (less.rights linked may)

theorem noGain_insert {username email : String} : NoGain s (s.insert username email false) := by
  refine ⟨fun id known => ?_, fun id v found super => ?_, fun id p found => .inl ?_⟩
  · obtain ⟨u, found⟩ := Option.isSome_iff_exists.mp known
    exact Option.isSome_iff_exists.mpr ⟨u, get?_insert found⟩
  · unfold Accounts.insert at found
    split at found
    · obtain ⟨member, same⟩ := Table.get?_eq_some.mp found
      rcases List.mem_append.mp member with old | new
      · exact ⟨v, Table.get?_eq_some.mpr ⟨old, same⟩, super⟩
      · rw [List.mem_singleton.mp new] at super
        cases super
    · exact ⟨v, found, super⟩
  · unfold Accounts.insert at found
    split at found <;> exact found

theorem noGain_updateUser {id : Nat} {f : Account → Account} {keep : ∀ u, (f u).id = u.id}
    (same : ∀ u, (f u).isSuperuser = u.isSuperuser) : NoGain s (s.updateUser id f keep) := by
  refine ⟨fun other known => ?_, fun other v found super => ?_, fun _ _ found => .inl found⟩
  · rw [get?_updateUser, Option.isSome_map]
    exact known
  · rw [get?_updateUser] at found
    obtain ⟨u, before, rfl⟩ := Option.map_eq_some_iff.mp found
    refine ⟨u, before, ?_⟩
    split at super
    · rwa [same] at super
    · exact super

theorem noGain_ensureProfile {id : Nat} (known : (s.users.get? id).isSome = true) :
    NoGain s (after (ensureProfile id) s) := by
  refine ⟨fun _ known => known, fun _ v found super => ⟨v, found, super⟩, fun other p found => ?_⟩
  change (s.profiles.insert { user := id }).get? other = some p at found
  by_cases own : id = other
  · subst own
    cases free : s.profiles.get? id with
    | some q =>
      have same : s.profiles.insert { user := id } = s.profiles := Table.insert_taken free
      rw [same, free] at found
      exact .inl found
    | none =>
      have new : (s.profiles.insert { user := id }).get? id = some { user := id } := Table.get?_insert_new free
      rw [new] at found
      cases found
      exact .inr ⟨rfl, known⟩
  · rw [Table.get?_insert_other own] at found
    exact .inl found

variable {env : AuthEnv} {claims : Fields}

theorem noGain_updateUserFromClaims {user : UserInstance} :
    Upholds NoGain (updateUserFromClaims env user claims) := by
  intro s
  rcases @updateUserFromClaims_cases env claims user s with ⟨e, run⟩ | ⟨_, _, _, _, _, -, -, -, run⟩
  · rw [after, run]
    exact noGain_closed.refl s
  · rw [after, run]
    exact noGain_updateUser (fun _ => rfl)

theorem noGain_claimed {user : UserInstance} (known : (s.users.get? user.id).isSome = true) :
    NoGain s (after (do updateUserFromClaims env user claims; ensureProfile user.id) s) := by
  have first := @noGain_updateUserFromClaims env claims user s
  cases run : outcome (updateUserFromClaims env user claims) s with
  | mk result t =>
    rw [after, run] at first
    cases result with
    | error e =>
      rw [after_bind_error run]
      exact first
    | ok _ =>
      rw [after_bind_ok run]
      exact noGain_closed.trans first (noGain_ensureProfile (first.known _ known))

theorem noGain_createUser : NoGain s (after (createUser env claims) s) := by
  unfold createUser
  dsimp only
  split
  swap
  · exact noGain_closed.refl s
  next username mail _ _ =>
  rcases @createAccount_cases env s username mail false with ⟨e, run⟩ | ⟨text, user, run, new, room, -⟩
  · rw [after_bind_error run]
    exact noGain_closed.refl s
  · rw [after_bind_ok run]
    refine noGain_closed.trans noGain_insert (noGain_claimed ?_)
    have added : (s.insert text mail false).users.get? s.users.next = some
        { id := s.users.next, username := text, email := mail } := by
      unfold Accounts.insert
      rw [dif_pos room]
      exact Table.get?_eq_some.mpr ⟨List.mem_append_right _ (List.mem_singleton.mpr rfl), rfl⟩
    rw [new, added]
    rfl

theorem noGain_login : NoGain s (after (oidcLogin env claims) s) := by
  unfold oidcLogin
  split
  · exact noGain_closed.refl s
  rcases @filterUsersByClaims_cases env claims s with ⟨e, run⟩ | run | ⟨value, text, -, -, -, run⟩
  · rw [after_bind_error run]
    exact noGain_closed.refl s
  · rw [after_bind_ok run]
    exact noGain_createUser
  · rw [after_bind_ok run]
    split
    · next user matched =>
      have member : user ∈ s.users.rows := (mem_mailed.mp (matched ▸ List.mem_singleton.mpr rfl)).1
      have found : s.users.get? user.id = some user := Table.get?_eq_some.mpr ⟨member, rfl⟩
      refine @noGain_claimed s env claims user.instance ?_
      change (s.users.get? user.id).isSome = true
      rw [found]
      rfl
    · exact noGain_createUser
    · exact noGain_closed.refl s

variable {session : Option Nat}

theorem known_of_visitor {id : Nat} (member : (visitor s (some id)).isAuthenticated = true) :
    (s.users.get? id).isSome = true := by
  unfold visitor at member
  cases found : s.users.get? id with
  | none =>
    rw [Option.bind_some, found] at member
    cases member
  | some u => rfl

theorem superuser_may {minimum : Role} (super : (visitor s session).isSuperuser = true) :
    (visitor s session).may minimum = true := by
  unfold visitor at super ⊢
  cases found : session.bind s.users.get? with
  | none =>
    rw [found] at super
    cases super
  | some u =>
    rw [found] at super
    dsimp only at super ⊢
    simp [User.may, super]

theorem noGain_roleMiddleware {path : String} : NoGain s (after (roleMiddleware session path) s) := by
  unfold roleMiddleware
  rw [after_read_bind]
  split
  · exact noGain_closed.refl s
  next member =>
  split
  · exact noGain_closed.refl s
  split
  · exact noGain_closed.refl s
  cases session with
  | none => exact noGain_closed.refl s
  | some id =>
    rw [Bool.not_eq_true, Bool.not_eq_false'] at member
    exact noGain_ensureProfile (known_of_visitor member)

theorem noGain_pendingView : NoGain s (after (pendingView session) s) := by
  unfold pendingView
  rw [after_read_bind]
  cases session with
  | none => exact noGain_closed.refl s
  | some id =>
    dsimp only
    split
    · exact noGain_closed.refl s
    next member =>
    rw [Bool.not_eq_true, Bool.not_eq_false'] at member
    refine noGain_closed.trans (noGain_ensureProfile (known_of_visitor member)) ?_
    change NoGain _ (after (ite _ _ _) _)
    split <;> exact noGain_closed.refl _

theorem setRole_refused {isPost : Bool} {userId : Nat} {post : QueryDict}
    (refused : (visitor s session).may .admin = false) :
    after (userSetRoleView env session isPost userId post) s = s := by
  unfold userSetRoleView
  rw [after_read_bind, refused]
  split <;> rfl

theorem setSuperadmin_refused {isPost : Bool} {userId : Nat} {post : QueryDict}
    (refused : (visitor s session).may .admin = false) :
    after (userSetSuperadminView env session isPost userId post) s = s := by
  unfold userSetSuperadminView
  split
  · rfl
  rw [after_read_bind]
  split
  · rfl
  next super =>
  rw [Bool.not_eq_true, Bool.not_eq_false'] at super
  rw [superuser_may super] at refused
  cases refused

end Gains

/-- The role that the page asks for. -/
def DeviceView.minimum : DeviceView → Role
  | .command => .resident
  | _ => .admin

theorem page_refused {w : World} {env : Env} {view : DeviceView} {request : Request} {deviceId : String}
    (refused : request.user.may view.minimum = false) : after (view.run env request deviceId) w = w := by
  cases view <;> exact after_refused refused

theorem may_of_higher {user : User} {low high : Role} (order : low.rank ≤ high.rank) (may : user.may high = true) :
    user.may low = true := by
  unfold User.may User.hasRole at *
  cases role : user.role with
  | none => simpa [role] using may
  | some held =>
    simp only [role, Bool.and_eq_true, Bool.or_eq_true, decide_eq_true_eq] at may ⊢
    exact ⟨may.1, may.2.imp_right order.trans⟩

section Steps
variable {env : AuthEnv} {s : Site}

theorem behind_cases {session : Option Nat} {path : String} {view : Site → Site} :
    ∃ accounts, NoGain s.accounts accounts ∧ (s.behind session path view = { s with accounts := accounts } ∨
      s.behind session path view = view { s with accounts := accounts }) := by
  refine ⟨after (roleMiddleware session path) s.accounts, noGain_roleMiddleware, ?_⟩
  unfold Site.behind after
  split
  · next ran =>
    rw [ran]
    exact .inr rfl
  · next ran =>
    rw [ran]
    exact .inl rfl

/-- The event is no page of a session that has the role. -/
def SiteEvent.Below (minimum : Role) (s : Accounts) (e : SiteEvent) : Prop :=
  ∀ session, e.session? = some session → (visitor s session).may minimum = false

theorem noGain_step (linked : s.accounts.Linked) {e : SiteEvent} (below : e.Below .admin s.accounts) :
    NoGain s.accounts (s.step env e).accounts := by
  have page : ∀ {session path} {view : Site → Site}, (visitor s.accounts session).may .admin = false →
      (∀ t : Site, (visitor t.accounts session).may .admin = false → (view t).accounts = t.accounts) →
      NoGain s.accounts (s.behind session path view).accounts := by
    intro session path view refused idle
    obtain ⟨accounts, less, ran | ran⟩ := @behind_cases s session path view
    · rw [ran]
      exact less
    · rw [ran, idle _ (less.refused linked refused)]
      exact less
  cases e with
  | login claims => exact noGain_login
  | pending session => exact noGain_pendingView
  | setRole session isPost userId post => exact page (below session rfl) (fun _ refused => setRole_refused refused)
  | setSuperadmin session isPost userId post =>
    exact page (below session rfl) (fun _ refused => setSuperadmin_refused refused)
  | page session env view request deviceId => exact page (below session rfl) (fun _ _ => rfl)
  | message d => exact noGain_closed.refl _
  | api env view request => exact noGain_closed.refl _

theorem world_behind {session : Option Nat} {path : String} {view : Site → Site}
    (idle : ∀ t, NoGain s.accounts t.accounts → t.world = s.world → (view t).world = s.world) :
    (s.behind session path view).world = s.world := by
  obtain ⟨accounts, less, ran | ran⟩ := @behind_cases s session path view
  · rw [ran]
  · rw [ran]
    exact idle _ less rfl

/-- What a session without the role asks for does nothing to the devices. -/
theorem world_step (linked : s.accounts.Linked) {e : SiteEvent} (below : e.Below .resident s.accounts) :
    (s.step env e).world = e.outside.elim s.world (serve s.world) := by
  cases e with
  | setRole session isPost userId post => exact world_behind (fun _ _ same => same)
  | setSuperadmin session isPost userId post => exact world_behind (fun _ _ same => same)
  | page session pageEnv view request deviceId =>
    refine world_behind (fun t less same => ?_)
    have refused := less.refused linked (below session rfl)
    have order : Role.resident.rank ≤ view.minimum.rank := by cases view <;> simp [DeviceView.minimum, Role.rank]
    refine Eq.trans (page_refused (Bool.eq_false_iff.mpr fun may => ?_)) same
    rw [may_of_higher order may] at refused
    cases refused
  | login | pending | message | api => rfl

/-- No one but an administrator brings a device out of quarantine. -/
theorem quarantine_step (linked : s.accounts.Linked) {e : SiteEvent} (below : e.Below .admin s.accounts) {id : String}
    (q : Quarantined id s.world) : Quarantined id (s.step env e).world := by
  have quiet : ∀ {session path} {view : Site → Site}, (∀ t, (view t).world = t.world) →
      Quarantined id (s.behind session path view).world := by
    intro session path view idle
    rw [world_behind (fun t _ same => (idle t).trans same)]
    exact q
  cases e with
  | setRole session isPost userId post => exact quiet (fun _ => rfl)
  | setSuperadmin session isPost userId post => exact quiet (fun _ => rfl)
  | page session pageEnv view request deviceId =>
    obtain ⟨accounts, less, ran | ran⟩ := @behind_cases s session (view.path deviceId) fun s =>
      { s with world := serve s.world (.web pageEnv view
        { request with user := visitor s.accounts session } deviceId) }
    · rw [Site.step, ran]
      exact q
    rw [Site.step, ran]
    have refused := less.refused linked (below session rfl)
    by_cases command : view = .command
    · subst command
      exact quarantine_serve (e := .web pageEnv .command _ deviceId) (fun approves => approves)
        (fun _ hands => hands) q
    · have minimum : view.minimum = .admin := by
        cases view with
        | command => exact absurd rfl command
        | _ => rfl
      rw [← minimum] at refused
      change Quarantined id (after (view.run _ _ deviceId) s.world)
      rw [page_refused refused]
      exact q
  | message d => exact quarantine_serve (e := .message d) (fun approves => approves) (fun _ hands => hands) q
  | api env view request =>
    exact quarantine_serve (e := .api env view request) (fun approves => approves) (fun _ hands => hands) q
  | login | pending => exact q

end Steps

section Runs
variable {env : AuthEnv} {s : Site} {es : List SiteEvent} {minimum : Role}

theorem below_later {start t : Accounts} (linked : start.Linked) (less : NoGain start t) {e : SiteEvent}
    (below : e.Below minimum start) : e.Below minimum t :=
  fun session asks => less.refused linked (below session asks)

theorem below_admin {t : Accounts} {e : SiteEvent} (below : e.Below .resident t) : e.Below .admin t := by
  intro session asks
  have refused := below session asks
  rw [Bool.eq_false_iff] at refused ⊢
  exact fun may => refused (may_of_higher (by decide) may)

theorem noGain_run (linked : s.accounts.Linked) (below : ∀ e ∈ es, e.Below .admin s.accounts) :
    NoGain s.accounts (Run.run (Site.step env) s es).accounts := by
  have kept : ∀ (t : Site) (e : SiteEvent), NoGain s.accounts t.accounts → e.Below .admin s.accounts →
      NoGain s.accounts (t.step env e).accounts := fun t e less below =>
    noGain_closed.trans less (noGain_step (less.linked linked) (below_later linked less below))
  exact @Run.invariant _ _ (Site.step env) (fun _ e => e.Below .admin s.accounts)
    (fun t => NoGain s.accounts t.accounts) kept s es (noGain_closed.refl _)
    (Run.along_of_all s es (fun e member _ => below e member))

end Runs

/-- Without a page asked for by an administrator, no account gains a right. -/
theorem rights_not_gained {env : AuthEnv} {s : Site} {es : List SiteEvent} (linked : s.accounts.Linked)
    (below : ∀ e ∈ es, e.Below .admin s.accounts) (session : Option Nat) (minimum : Role) :
    (visitor (Run.run (Site.step env) s es).accounts session).may minimum = true →
      (visitor s.accounts session).may minimum = true :=
  (noGain_run linked below).rights linked

/-- What guests and strangers ask for leaves no trace in the devices. -/
theorem guests_leave_no_trace {env : AuthEnv} {s : Site} {es : List SiteEvent} (linked : s.accounts.Linked)
    (below : ∀ e ∈ es, e.Below .resident s.accounts) :
    (Run.run (Site.step env) s es).world = Run.run serve s.world (es.filterMap SiteEvent.outside) := by
  refine @Run.run_filterMap Site Event World SiteEvent (Site.step env) serve Site.world SiteEvent.outside
    (fun t => NoGain s.accounts t.accounts) (fun _ e => e.Below .resident s.accounts) ?_ ?_ s es
    (noGain_closed.refl _) (Run.along_of_all s es (fun e member _ => below e member))
  · exact fun t e less below => world_step (less.linked linked) (below_later linked less below)
  · exact fun t e less below => noGain_closed.trans less
      (noGain_step (less.linked linked) (below_later linked less (below_admin below)))

/-- Whatever residents, guests and strangers do, an unapproved device stays in quarantine. -/
theorem only_administrators_release {env : AuthEnv} {s : Site} {es : List SiteEvent} {id : String}
    (linked : s.accounts.Linked) (below : ∀ e ∈ es, e.Below .admin s.accounts) (start : Quarantined id s.world) :
    Quarantined id (Run.run (Site.step env) s es).world := by
  have kept : ∀ (t : Site) (e : SiteEvent), NoGain s.accounts t.accounts ∧ Quarantined id t.world →
      e.Below .admin s.accounts → NoGain s.accounts (t.step env e).accounts ∧ Quarantined id (t.step env e).world :=
    fun t e held below =>
      have now := below_later linked held.1 below
      have own := held.1.linked linked
      ⟨noGain_closed.trans held.1 (noGain_step own now), quarantine_step own now held.2⟩
  exact (@Run.invariant _ _ (Site.step env) (fun _ e => e.Below .admin s.accounts)
    (fun t => NoGain s.accounts t.accounts ∧ Quarantined id t.world) kept s es ⟨noGain_closed.refl _, start⟩
    (Run.along_of_all s es (fun e member _ => below e member))).2

def openSite : Site := ⟨noAccounts, World.empty⟩

def stranger : List SiteEvent :=
  [.login [("email", .str "eve@example.com")],
   .setRole (some 0) true 0 [("role", "admin")],
   .message ⟨{ now := 0 }, .sensors, "thermo", "living01", ⟨9, .value (.obj [("temp", .int 21)])⟩⟩,
   .page (some 0) { now := 1 } .approve { user := administrator, post := [("action", "approve")] } "living01"]

theorem openSite_linked : openSite.accounts.Linked := by
  intro id profiled
  cases profiled

theorem stranger_below (minimum : Role) : ∀ e ∈ stranger, e.Below minimum openSite.accounts := by
  intro e _ session _
  cases session <;> rfl

def guestAccounts : Accounts where
  users := (Serial.empty Account.id).append (fun id => { id := id, username := "eve", email := "eve@example.com" })
    (fun _ => rfl)
  profiles := (Table.empty UserProfile.user).insert { user := 0, role := some .guest }
  numbered := by decide

theorem guestAccounts_linked : guestAccounts.Linked := by
  intro id profiled
  cases id with
  | zero => rfl
  | succ id => cases profiled

/-- A guest who asks for the role as well. -/
theorem stranger_gains_nothing : (visitor guestAccounts (some 0)).may .guest = true := by
  refine @rights_not_gained (siteEnv "admin") ⟨guestAccounts, World.empty⟩ stranger guestAccounts_linked ?_
    (some 0) .guest (by decide +kernel)
  intro e _ session _
  rcases session with _ | _ | _ <;> rfl

theorem stranger_untraced : (Run.run (Site.step (siteEnv "admin")) openSite stranger).world =
    Run.run serve World.empty (stranger.filterMap SiteEvent.outside) :=
  guests_leave_no_trace openSite_linked (stranger_below .resident)

theorem stranger_quarantined :
    Quarantined "living01" (Run.run (Site.step (siteEnv "admin")) openSite stranger).world :=
  only_administrators_release openSite_linked (stranger_below .admin) (empty_quarantined "living01")

end SensorServer
