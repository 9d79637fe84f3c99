import SyncMaster.Auth.Identities
import SyncMaster.Server.Continuity

/-!
# Requests with Tokens

The other modules let a request come from a user: `Event.request` holds the identifier
of the user. The application is not told that. It is told a token, and what the
provider makes of it depends on the certificates it has kept, on the session and on the
answers of a server. This module connects the two: every history of requests with
tokens leads to the database that some history of requests of users leads to, so that
what is proved of `Reachable` states is proved of the application.

A user is only ever acted for where the provider vouches for the token, and then the
request is the request of that user, after the login that puts the user into the
database.

## Main definitions

* `VouchedFor`: The provider vouches for the token of the request.
* `Identity.events`, `Identity.requests`: What a request of that user comes to.
* `Lowers`: What happens to the application, as events of the service.
* `Service.initial`, `serviceAfter`: The application after a history.

## Theorems

* `read_identity`: The user that the token is about is read.
* `getUser_cases`: All that the dependency may find.
* `after_api_http`, `returns_api_http`: A request with a token is the request of its user.
* `step_lowers`: One event.
* `http_refines`: Whole histories, and the response that follows one.
-/

namespace SyncMaster

open Program

variable {Key : Type}

/-! ## What a request comes to -/

/-- The provider vouches for the token of the request. -/
def VouchedFor (provider : Provider Key) (s : Service Key) (environment : Environment Key)
    (session : Option Session) (credentials : Credentials) (identity : Identity) : Prop :=
  ∃ token, (Http.accessToken credentials session = some token ∧ token ≠ "") ∧
    Vouches s environment session provider token identity

/-- A user who is only named logs in. -/
def Identity.events : Identity → List Event
  | .id _ => []
  | .name username => [.login username]

/-- The identifier of the user in the database. -/
def Identity.userIn (db : Database) : Identity → Option Id
  | .id userId => some userId
  | .name username => (db.users.find? (fun u => u.username == username)).map (fun u => u.id)

/-- The database once the user has logged in. -/
def Identity.loggedIn (db : Database) (identity : Identity) : Database :=
  identity.events.foldl Database.step db

/-- The request of this user. Of a request whose body the schema refuses, the login is left. -/
def Identity.requests (db : Database) (now : Time) (sent : SendTask) (request : Option Request)
    (identity : Identity) : List Event :=
  identity.events ++ match request, identity.userIn (identity.loggedIn db) with
    | some request, some userId => [.request now sent userId request]
    | _, _ => []

/-- The login that a request for a token comes to. -/
def passwordLogin (provider : Provider Key) (username password : Option String) : List Event :=
  match provider, username.filter (fun s => s != ""), password.filter (fun s => s != "") with
  | .dummy _, some username, some _ => [.login username]
  | _, _, _ => []

/-- What happens to the application, as events of the service. -/
inductive Lowers (provider : Provider Key) (s : Service Key) :
    HttpEvent Key → List Event → Prop
  | token (environment : Environment Key) (username password : Option String) :
      Lowers provider s (.token environment username password)
        (passwordLogin provider username password)
  | callback (environment : Environment Key) (session : Option Session) (code : String) :
      Lowers provider s (.callback environment session code) []
  | logout {environment : Environment Key} {session : Option Session} {credentials : Credentials}
      {identity : Identity} :
      VouchedFor provider s environment session credentials identity →
      Lowers provider s (.logout environment session credentials) identity.events
  | refusedLogout {environment : Environment Key} {session : Option Session}
      {credentials : Credentials} :
      (∀ identity, ¬ VouchedFor provider s environment session credentials identity) →
      Lowers provider s (.logout environment session credentials) []
  | api {environment : Environment Key} {session : Option Session} {credentials : Credentials}
      {now : Time} {sent : SendTask} {request : Option Request} {identity : Identity} :
      VouchedFor provider s environment session credentials identity →
      Lowers provider s (.api environment session credentials now sent request)
        (identity.requests s.db now sent request)
  | refusedApi {environment : Environment Key} {session : Option Session}
      {credentials : Credentials} {now : Time} {sent : SendTask} {request : Option Request} :
      (∀ identity, ¬ VouchedFor provider s environment session credentials identity) →
      Lowers provider s (.api environment session credentials now sent request) []
  | outside (e : { e : Event // e.Outside }) : Lowers provider s (.outside e) [e.val]

/-- The database stays as it is. -/
abbrev KeepsDatabase (w w' : World Key) : Prop :=
  w'.db = w.db

theorem keepsDatabase_refl (w : World Key) : KeepsDatabase w w :=
  rfl

theorem keepsDatabase_trans (a b c : World Key) (hab : KeepsDatabase a b)
    (hbc : KeepsDatabase b c) : KeepsDatabase a c :=
  hbc.trans hab

theorem allows_keepsDatabase (provider : Provider Key) (environment : Environment Key) :
    Allows provider environment KeepsDatabase where
  refl := keepsDatabase_refl
  trans := keepsDatabase_trans
  session := fun _ _ => rfl
  fetched := fun _ _ _ => fetched_db

section Users

variable {db db' : Database} {user : User} {username : String}

theorem step_login : db.step (.login username) = after (login username) db := by
  rw [Database.step, perform, after_map]

/-- A login finds its user or creates it. -/
theorem returns_login (h : Returns (login username) db user db') :
    db'.users.find? (fun u => u.username == username) = some user := by
  rcases returns_bind.mp (returns_atomically.mp h) with ⟨found, _, hquery, h⟩
  rcases returns_query.mp hquery with ⟨hfound, rfl⟩
  split at h
  · rcases returns_pure.mp h with ⟨rfl, rfl⟩
    exact Except.ok.inj hfound
  · rcases UserRepository.returns_create.mp h with ⟨huser, hinsert⟩
    rw [hinsert.2]
    change (db.users ++ [user]).find? _ = _
    rw [List.find?_append, Except.ok.inj hfound, Option.none_or, List.find?_singleton]
    rw [if_pos (by rw [huser]; exact beq_self_eq_true username)]

/-- A login that fails has not found its user, and leaves the tables. -/
theorem raises_login {e : Error} (h : Raises (login username) db e db') :
    db'.users.find? (fun u => u.username == username) = none := by
  rcases raises_atomically.mp h with ⟨_, hbody, hrollback⟩
  rw [← hrollback]
  rcases raises_bind.mp hbody with hquery | ⟨found, _, hquery, hrest⟩
  · cases (raises_query.mp hquery).1
  · have hfound := Except.ok.inj (returns_query.mp hquery).1
    split at hrest
    · exact absurd hrest raises_pure
    · exact hfound

theorem find_user (hdb : Consistent db) {p : User → Bool} (h : db.users.find? p = some user) :
    db.users.find? (fun u => u.id == user.id) = some user :=
  (Table.find_eq_some_iff (fun u : User => u.id) hdb.keys.users).mpr
    ⟨List.mem_of_find?_eq_some h, rfl⟩

/-- The user that the token is about is read, once it has logged in. -/
theorem read_identity (hdb : Consistent db) (identity : Identity) :
    (∃ user, Returns identity.read db user (identity.loggedIn db) ∧
      identity.userIn (identity.loggedIn db) = some user.id ∧
      (identity.loggedIn db).users.find? (fun u => u.id == user.id) = some user) ∨
    ∃ e, Raises identity.read db e (identity.loggedIn db) ∧
      ∀ userId, identity.userIn (identity.loggedIn db) = some userId →
        (identity.loggedIn db).users.find? (fun u => u.id == userId) = none := by
  cases identity with
  | id userId =>
      change (∃ user, Returns (UserRepository.readById userId) db user db ∧
        some userId = some user.id ∧ db.users.find? _ = some user) ∨
        ∃ e, Raises (UserRepository.readById userId) db e db ∧ _
      cases hfind : db.users.find? (fun u => u.id == userId) with
      | none =>
          refine Or.inr ⟨.userNotFoundError, raises_query.mpr ⟨by rw [hfind], rfl⟩, ?_⟩
          intro userId' heq
          cases heq
          exact hfind
      | some user =>
          have hid : user.id = userId :=
            beq_iff_eq.mp (List.find?_some (p := fun u : User => u.id == userId) hfind)
          refine Or.inl ⟨user, UserRepository.returns_readById.mpr ⟨hfind, rfl⟩, ?_, ?_⟩
          · rw [hid]
          · rw [hid]
            exact hfind
  -- A name is read by the login, so what is read is what the login has left.
  | name username =>
      have hlogged : Consistent ((Identity.name username).loggedIn db) :=
        step_consistent hdb (.login username)
      have hafter : (Identity.name username).loggedIn db = after (login username) db := step_login
      rcases returns_or_raises (login username) db with ⟨user, db', h⟩ | ⟨e, db', h⟩
      · rw [after_of_returns h] at hafter
        have hfind := returns_login h
        rw [← hafter] at h hfind
        refine Or.inl ⟨user, h, ?_, find_user hlogged hfind⟩
        rw [Identity.userIn, hfind]
        rfl
      · rw [after_of_raises h] at hafter
        have hnone := raises_login h
        rw [← hafter] at h hnone
        refine Or.inr ⟨e, h, fun userId huser => ?_⟩
        rw [Identity.userIn, hnone] at huser
        cases huser

end Users

/-! ## Requests -/

section Requests

variable {provider : Provider Key} {environment : Environment Key} {credentials : Credentials}
  {w w' : World Key}

theorem returns_onDatabase {α : Type} {x : Db α} {a : α} :
    Returns (onDatabase x) w a w' ↔ ∃ db', Returns x w.db a db' ∧ w' = { w with db := db' } := by
  rw [onDatabase, returns_mapError, returns_focus]

theorem raises_onDatabase {α : Type} {x : Db α} {e : AuthFailure} :
    Raises (onDatabase x) w e w' ↔
      ∃ e' db', Raises x w.db e' db' ∧ .error e' = e ∧ w' = { w with db := db' } := by
  rw [onDatabase, raises_mapError]
  constructor
  · rintro ⟨e', h, he⟩
    rcases raises_focus.mp h with ⟨db', hraise, hw⟩
    exact ⟨e', db', hraise, he, hw⟩
  · rintro ⟨e', db', hraise, he, hw⟩
    exact ⟨e', raises_focus.mpr ⟨db', hraise, hw⟩, he⟩

theorem after_onDatabase {α : Type} (x : Db α) :
    (after (onDatabase x) w).db = after x w.db := by
  rcases returns_or_raises x w.db with ⟨a, db', h⟩ | ⟨e, db', h⟩
  · rw [after_of_returns (returns_onDatabase.mpr ⟨db', h, rfl⟩), after_of_returns h]
  · rw [after_of_raises (raises_onDatabase.mpr ⟨e, db', h, rfl, rfl⟩), after_of_raises h]

theorem vouchedFor_iff {identity : Identity} :
    VouchedFor provider w.toService environment w.session credentials identity ↔
      ∃ w', Returns (provider.authProvider.identify environment
        (Http.accessToken credentials w.session)) w identity w' :=
  (identify_iff provider).symm

/-- Nobody is vouched for twice. -/
theorem vouchedFor_unique {identity identity' : Identity}
    (h : VouchedFor provider w.toService environment w.session credentials identity)
    (h' : VouchedFor provider w.toService environment w.session credentials identity') :
    identity = identity' := by
  rcases vouchedFor_iff.mp h with ⟨_, h⟩
  rcases vouchedFor_iff.mp h' with ⟨_, h'⟩
  exact (returns_unique h h').1

/-- A user who is active is returned. -/
theorem getUser_of_active {user : User}
    (h : Returns (provider.authProvider.getCurrentUser environment
      (Http.accessToken credentials w.session)) w user w') (hactive : user.isActive = true) :
    Returns (Http.getUser provider.authProvider environment credentials) w user w' := by
  refine returns_bind.mpr ⟨w.session, w, returns_query.mpr ⟨rfl, rfl⟩, ?_⟩
  refine returns_bind.mpr ⟨user, w', h, returns_bind.mpr ⟨(), w', ?_, returns_pure.mpr ⟨rfl, rfl⟩⟩⟩
  exact returns_raiseIf.mpr ⟨by rw [hactive]; exact Bool.true_eq_false_eq_False, rfl⟩

/-- One who is not is refused. -/
theorem getUser_of_inactive {user : User}
    (h : Returns (provider.authProvider.getCurrentUser environment
      (Http.accessToken credentials w.session)) w user w') (hactive : ¬ user.isActive = true) :
    Raises (Http.getUser provider.authProvider environment credentials) w
      (.error .actionNotAllowedError) w' := by
  refine raises_bind.mpr (Or.inr ⟨w.session, w, returns_query.mpr ⟨rfl, rfl⟩, ?_⟩)
  refine raises_bind.mpr (Or.inr ⟨user, w', h, raises_bind.mpr (Or.inl ?_)⟩)
  exact raises_query.mpr ⟨if_pos (Bool.eq_false_of_not_eq_true hactive), rfl⟩

theorem getUser_of_raises {e : AuthFailure}
    (h : Raises (provider.authProvider.getCurrentUser environment
      (Http.accessToken credentials w.session)) w e w') :
    Raises (Http.getUser provider.authProvider environment credentials) w e w' :=
  raises_bind.mpr (Or.inr ⟨w.session, w, returns_query.mpr ⟨rfl, rfl⟩,
    raises_bind.mpr (Or.inl h)⟩)

/-- The dependency finds nobody; or it finds the user that the provider vouches for, as the
    requests of the service do; or that user is not there, or not active. -/
theorem getUser_cases (provider : Provider Key) (environment : Environment Key)
    (credentials : Credentials) (w : World Key) (hdb : Consistent w.db) :
    ((∀ identity, ¬ VouchedFor provider w.toService environment w.session credentials identity) ∧
      ∃ e w', Raises (Http.getUser provider.authProvider environment credentials) w e w' ∧
        w'.db = w.db) ∨
    ∃ identity w', VouchedFor provider w.toService environment w.session credentials identity ∧
      w'.db = identity.loggedIn w.db ∧
      ((∃ user, Returns (Http.getUser provider.authProvider environment credentials) w user w' ∧
          identity.userIn w'.db = some user.id ∧
          Returns (getUser user.id) w'.db user w'.db) ∨
        ∃ e, Raises (Http.getUser provider.authProvider environment credentials) w e w' ∧
          ∀ userId, identity.userIn w'.db = some userId →
            ∀ user, ¬ Returns (getUser userId) w'.db user w'.db) := by
  have hkeeps := identify_keeps (allows_keepsDatabase provider environment)
    (Http.accessToken credentials w.session) w
  rcases returns_or_raises (provider.authProvider.identify environment
      (Http.accessToken credentials w.session)) w with ⟨identity, w₁, h⟩ | ⟨e, w₁, h⟩
  · refine Or.inr ?_
    rw [after_of_returns h] at hkeeps
    have hvouched : VouchedFor provider w.toService environment w.session credentials identity :=
      vouchedFor_iff.mpr ⟨w₁, h⟩
    -- The provider has not touched the database, so the user is read from the same tables.
    rw [← (show w₁.db = w.db from hkeeps)] at hdb ⊢
    refine ⟨identity, { w₁ with db := identity.loggedIn w₁.db }, hvouched, rfl, ?_⟩
    rcases read_identity hdb identity with ⟨user, hread, huser, hfind⟩ | ⟨e, hread, hnone⟩
    · have hcurrent : Returns (provider.authProvider.getCurrentUser environment
          (Http.accessToken credentials w.session)) w user
          { w₁ with db := identity.loggedIn w₁.db } :=
        returns_bind.mpr ⟨identity, w₁, h, returns_onDatabase.mpr ⟨_, hread, rfl⟩⟩
      by_cases hactive : user.isActive = true
      · exact Or.inl ⟨user, getUser_of_active hcurrent hactive, huser,
          returns_getUser.mpr ⟨hfind, hactive, rfl⟩⟩
      · refine Or.inr ⟨_, getUser_of_inactive hcurrent hactive, fun userId hid user' hreturns => ?_⟩
        rw [huser, Option.some.injEq] at hid
        rcases returns_getUser.mp hreturns with ⟨hfind', hactive', _⟩
        rw [← hid, hfind, Option.some.injEq] at hfind'
        rw [hfind'] at hactive
        exact hactive hactive'
    · have hcurrent : Raises (provider.authProvider.getCurrentUser environment
          (Http.accessToken credentials w.session)) w (.error e)
          { w₁ with db := identity.loggedIn w₁.db } :=
        raises_bind.mpr (Or.inr ⟨identity, w₁, h, raises_onDatabase.mpr ⟨e, _, hread, rfl, rfl⟩⟩)
      refine Or.inr ⟨_, getUser_of_raises hcurrent, fun userId hid user hreturns => ?_⟩
      cases (hnone userId hid).symm.trans (returns_getUser.mp hreturns).1
  · refine Or.inl ⟨fun identity hvouched => ?_, e, w₁, ?_, ?_⟩
    · rcases vouchedFor_iff.mp hvouched with ⟨_, hreturns⟩
      exact not_raises_of_returns hreturns h
    · exact getUser_of_raises (raises_bind.mpr (Or.inl h))
    · rw [after_of_raises h] at hkeeps
      exact hkeeps

/-- What the dependency is followed by: a user that may make requests, or nothing. -/
theorem api_at {db : Database} {userId : Id} {now : Time} {sent : SendTask} {request : Request}
    (h : ∀ user, ¬ Returns (getUser userId) db user db) :
    db.step (.request now sent userId request) = db := by
  rw [step_request]
  refine after_api_of_no_user (fun user hfind => Bool.eq_false_iff.mpr (fun hactive => ?_))
  exact h user (returns_getUser.mpr ⟨hfind, hactive, rfl⟩)

/-- What follows leaves the database alone. -/
theorem after_bind_keeps {α β : Type} {x : Program (World Key) AuthFailure β}
    {f : β → Program (World Key) AuthFailure α} (hf : ∀ b, Always KeepsDatabase (f b)) :
    (after (x >>= f) w).db = (after x w).db := by
  rcases returns_or_raises x w with ⟨b, w₁, h⟩ | ⟨e, w₁, h⟩
  · rw [after_bind_of_returns h, after_of_returns h]
    exact hf b w₁
  · rw [after_bind_of_raises h, after_of_raises h]

theorem after_token (provider : Provider Key) (username password : Option String) :
    (after (Http.token provider.authProvider environment username password) w).db =
      (passwordLogin provider username password).foldl Database.step w.db := by
  cases provider with
  | oauth2Gateway => rfl
  | keycloak certCacheTtl => rfl
  | dummy settings =>
      change (after (DummyAuthProvider.getTokenPasswordGrant settings environment username
        password) w).db = _
      unfold DummyAuthProvider.getTokenPasswordGrant passwordLogin
      generalize username.filter (fun s => s != "") = name
      generalize password.filter (fun s => s != "") = pass
      cases name with
      | none => rfl
      | some name =>
          cases pass with
          | none => rfl
          | some pass =>
              change _ = w.db.step (.login name)
              rw [step_login, ← after_onDatabase]
              exact after_bind_keeps (fun user => always_bind keepsDatabase_trans
                (always_query keepsDatabase_refl _) (fun _ => always_pure keepsDatabase_refl _))

/-- The database that the dependency leaves. -/
theorem after_getUser {identity : Identity}
    (hvouched : VouchedFor provider w.toService environment w.session credentials identity)
    (hdb : Consistent w.db) :
    (after (Http.getUser provider.authProvider environment credentials) w).db =
      identity.loggedIn w.db := by
  rcases getUser_cases provider environment credentials w hdb with
    ⟨hnobody, _⟩ | ⟨identity', w', hvouched', hlogged, huser⟩
  · exact absurd hvouched (hnobody identity)
  · rw [vouchedFor_unique hvouched hvouched', ← hlogged]
    rcases huser with ⟨user, hreturns, _⟩ | ⟨e, hraise, _⟩
    · rw [after_of_returns hreturns]
    · rw [after_of_raises hraise]

theorem after_getUser_nobody
    (hnobody : ∀ identity,
      ¬ VouchedFor provider w.toService environment w.session credentials identity)
    (hdb : Consistent w.db) :
    ∃ e w', Raises (Http.getUser provider.authProvider environment credentials) w e w' ∧
      w'.db = w.db := by
  rcases getUser_cases provider environment credentials w hdb with
    ⟨_, hraise⟩ | ⟨identity, _, hvouched, _⟩
  · exact hraise
  · exact absurd hvouched (hnobody identity)

/-- A request with a token leaves the database as the request of its user does. -/
theorem after_api_http {identity : Identity} {now : Time} {sent : SendTask}
    {request : Option Request}
    (hvouched : VouchedFor provider w.toService environment w.session credentials identity)
    (hdb : Consistent w.db) :
    (after (Http.api provider.authProvider environment credentials now sent request) w).db =
      (identity.requests w.db now sent request).foldl Database.step w.db := by
  unfold Identity.requests
  rw [List.foldl_append]
  change _ = List.foldl Database.step (identity.loggedIn w.db) _
  cases request with
  | none =>
      rw [Http.api, after_bind_keeps (fun _ => always_throw keepsDatabase_refl _),
        after_getUser hvouched hdb]
      rfl
  | some request =>
      rcases getUser_cases provider environment credentials w hdb with
        ⟨hnobody, _⟩ | ⟨identity', w', hvouched', hlogged, huser⟩
      · exact absurd hvouched (hnobody identity)
      · rw [vouchedFor_unique hvouched hvouched', ← hlogged]
        rcases huser with ⟨user, hreturns, hid, hget⟩ | ⟨e, hraise, hnone⟩
        · rw [Http.api, after_bind_of_returns hreturns, after_onDatabase, hid]
          change _ = w'.db.step (.request now sent user.id request)
          rw [step_request, api, after_bind_of_returns hget]
        -- The login stays although the request is refused.
        · rw [Http.api, after_bind_of_raises hraise]
          cases hid : identity'.userIn w'.db with
          | none => rfl
          | some userId => exact (api_at (hnone userId hid)).symm

/-- What happens to the application does to its database what the events of the service do
    that it comes to. -/
theorem step_lowers (provider : Provider Key) (s : Service Key) (event : HttpEvent Key)
    (hdb : Consistent s.db) :
    ∃ events, Lowers provider s event events ∧
      (s.step provider.authProvider event).db = events.foldl Database.step s.db := by
  cases event with
  | token environment username password => exact ⟨_, .token _ _ _, after_token provider _ _⟩
  | callback environment session code =>
      exact ⟨[], .callback _ _ _, authCallback_keeps (allows_keepsDatabase provider environment)
        code { s with session := session }⟩
  | outside e => exact ⟨[e.val], .outside e, rfl⟩
  | logout environment session credentials =>
      have hafter : ∀ w : World Key,
          (after (Http.logout provider.authProvider environment credentials) w).db =
            (after (Http.getUser provider.authProvider environment credentials) w).db :=
        fun w => after_bind_keeps (logoutOf_keeps (allows_keepsDatabase provider environment))
      -- Without a user it is refused, and nothing is left of it.
      by_cases hsomebody :
          ∃ identity, VouchedFor provider s environment session credentials identity
      · rcases hsomebody with ⟨identity, hvouched⟩
        refine ⟨_, .logout hvouched, (hafter _).trans ?_⟩
        exact after_getUser (w := { s with session := session }) hvouched hdb
      · have hnobody := not_exists.mp hsomebody
        rcases after_getUser_nobody (w := { s with session := session }) hnobody hdb with
          ⟨e, w', hraise, hsame⟩
        refine ⟨[], .refusedLogout hnobody, (hafter _).trans ?_⟩
        rw [after_of_raises hraise]
        exact hsame
  | api environment session credentials now sent request =>
      by_cases hsomebody :
          ∃ identity, VouchedFor provider s environment session credentials identity
      · rcases hsomebody with ⟨identity, hvouched⟩
        exact ⟨_, .api hvouched,
          after_api_http (w := { s with session := session }) hvouched hdb⟩
      · have hnobody := not_exists.mp hsomebody
        rcases after_getUser_nobody (w := { s with session := session }) hnobody hdb with
          ⟨e, w', hraise, hsame⟩
        refine ⟨[], .refusedApi hnobody, ?_⟩
        change (after (Http.api _ environment credentials now sent request) _).db = _
        rw [Http.api, after_bind_of_raises hraise]
        exact hsame

/-- A request with a token is answered as its user is. -/
theorem returns_api_http (provider : Provider Key) {now : Time} {sent : SendTask} {request : Request}
    {response : Response} {db' : Database} (hdb : Consistent w.db) :
    (∃ w', Returns (Http.api provider.authProvider environment credentials now sent
      (some request)) w response w' ∧ w'.db = db') ↔
      ∃ identity userId,
        VouchedFor provider w.toService environment w.session credentials identity ∧
        identity.userIn (identity.loggedIn w.db) = some userId ∧
        Returns (api now sent userId request) (identity.loggedIn w.db) response db' := by
  rcases getUser_cases provider environment credentials w hdb with
    ⟨hnobody, e, w₁, hraise, _⟩ | ⟨identity, w₁, hvouched, hlogged, huser⟩
  · refine iff_of_false ?_ ?_
    · rintro ⟨w', hreturns, _⟩
      exact not_raises_of_returns hreturns (raises_bind.mpr (Or.inl hraise))
    · rintro ⟨identity, _, hvouched, _⟩
      exact hnobody identity hvouched
  · constructor
    · rintro ⟨w', hreturns, rfl⟩
      rcases returns_bind.mp hreturns with ⟨user', u, huser', hhandle⟩
      rcases huser with ⟨user, hget, hid, hactive⟩ | ⟨e, hraise, _⟩
      · rcases returns_unique hget huser' with ⟨rfl, rfl⟩
        rcases returns_onDatabase.mp hhandle with ⟨db', hdone, rfl⟩
        rw [hlogged] at hid hactive hdone
        exact ⟨identity, user.id, hvouched, hid, returns_bind.mpr ⟨user, _, hactive, hdone⟩⟩
      · exact absurd hraise (not_raises_of_returns huser')
    · rintro ⟨identity', userId, hvouched', hid', hreturns⟩
      rw [vouchedFor_unique hvouched' hvouched, ← hlogged] at hid' hreturns
      rcases returns_bind.mp hreturns with ⟨user', db₁, hactive', hhandle⟩
      -- Reading the user leaves the database, so the request is handled on the same tables.
      have hsame : db₁ = w₁.db := eq_of_returns (readOnly_getUser userId) hactive'
      rw [hsame] at hactive' hhandle
      rcases huser with ⟨user, hget, hid, hactive⟩ | ⟨e, _, hnone⟩
      · rw [hid, Option.some.injEq] at hid'
        rw [hid'] at hactive
        rw [← (returns_unique hactive hactive').1] at hhandle
        exact ⟨_, returns_bind.mpr ⟨user, w₁, hget,
          returns_onDatabase.mpr ⟨db', hhandle, rfl⟩⟩, rfl⟩
      · exact absurd hactive' (hnone userId hid' user')

end Requests

/-! ## Histories -/

/-- The application when it starts. -/
def Service.initial (keyExpiration : Time) : Service Key where
  db := Database.empty
  key := none
  keyExpiration := keyExpiration

/-- The application after a history. -/
def serviceAfter (provider : Provider Key) (keyExpiration : Time)
    (history : List (HttpEvent Key)) : Service Key :=
  history.foldl (Service.step provider.authProvider) (Service.initial keyExpiration)

/-- The events of the service that a history comes to. -/
theorem exists_lowered (provider : Provider Key) {s : Service Key} (hdb : Consistent s.db)
    (history : List (HttpEvent Key)) :
    ∃ lowered,
      Machine.Translated (Service.step provider.authProvider) (Lowers provider) s history lowered ∧
      (history.foldl (Service.step provider.authProvider) s).db =
        lowered.flatten.foldl Database.step s.db := by
  refine Machine.exists_translated (g := Database.step) (I := Consistent)
    (fun s : Service Key => s.db) (fun _ e hdb => step_consistent hdb e) ?_ s hdb history
  exact step_lowers provider

/-- The application is only ever in states of the service. -/
theorem reachable_serviceAfter (provider : Provider Key) (keyExpiration : Time)
    (history : List (HttpEvent Key)) :
    Reachable (serviceAfter provider keyExpiration history).db := by
  rcases exists_lowered provider (s := Service.initial keyExpiration) consistent_empty history with
    ⟨lowered, _, hdb⟩
  rw [serviceAfter, hdb]
  exact reachable_stateAfter lowered.flatten

/-- Every history of requests with tokens leads to the database of a history of requests of
    users, and a request after it is answered just when the provider vouches for a user who
    is answered that. -/
theorem http_refines (provider : Provider Key) (keyExpiration : Time)
    (history : List (HttpEvent Key)) :
    let s := serviceAfter provider keyExpiration history
    (∃ lowered, Machine.Translated (Service.step provider.authProvider) (Lowers provider)
        (Service.initial keyExpiration) history lowered ∧
      s.db = stateAfter lowered.flatten) ∧
    ∀ environment session credentials now sent request response db',
      (∃ w', Returns (Http.api provider.authProvider environment credentials now sent
        (some request)) { s with session := session } response w' ∧ w'.db = db') ↔
      ∃ identity userId, VouchedFor provider s environment session credentials identity ∧
        identity.userIn (identity.loggedIn s.db) = some userId ∧
        Returns (api now sent userId request) (identity.loggedIn s.db) response db' := by
  intro s
  refine ⟨exists_lowered provider (s := Service.initial keyExpiration) consistent_empty history, ?_⟩
  intro environment session credentials now sent request response db'
  exact returns_api_http provider (w := { s with session := session })
    (reachable_consistent (reachable_serviceAfter provider keyExpiration history))

end SyncMaster
