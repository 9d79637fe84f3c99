import SyncMaster.Auth.Refinement

/-!
# Tokens of the Application

`DummyAuthProvider` answers a login with a token that it has signed. The token holds the
identifier of the user and the time at which it expires, and the application keeps
nothing of it: whoever brings it later is taken for that user by what the token says.

So all that a token is worth rests on two things. One is the library, which decodes what
it has signed and does not decode what has expired; `Signs` says what is used of it. The
other is the database, where the identifier must go on standing for the user that had
logged in. No request deletes a user, renames one or hands out an identifier twice, and
neither does any other event, so a token is good for its user until the second in which
it expires, and no longer, whatever happens in between.

## Main definitions

* `expiry`: When a token is no longer decoded.
* `JWTSettings.Signs`: What is used of the library.
* `HasUser`: The identifier stands for the user.
* `countedJwt`: A library that writes its numbers as runs of letters.

## Theorems

* `checkedStep_hasUser`, `foldl_hasUser`: Users stay.
* `returns_grant`: What a login is answered with.
* `vouchedFor_granted`: Whom such a token is taken for.
* `token_lifetime`: What it is worth after any history.
-/

namespace SyncMaster

open Program

variable {Key : Type}

/-! ## The library -/

/-- The library counts in seconds, and leaves out their fractions. -/
def expiry (expiresAt : Time) : Time :=
  1000000 * Int.tdiv expiresAt 1000000

/-- The token of a user. -/
def JWTSettings.sign (settings : JWTSettings) (userId : Id) (expiresAt : Time) : String :=
  settings.jwt.encode (DummyAuthProvider.payload userId expiresAt) settings.secretKey
    settings.securityAlgorithm

/-- What `jwt.decode` does with the tokens that `jwt.encode` has made, and `int` with the
    integers in them. -/
structure JWTSettings.Signs (settings : JWTSettings) : Prop where
  nonempty : ∀ userId expiresAt, settings.sign userId expiresAt ≠ ""
  decode : ∀ now userId expiresAt, now < expiry expiresAt →
    settings.jwt.decode now (settings.sign userId expiresAt) settings.secretKey
      [settings.securityAlgorithm] = .ok (DummyAuthProvider.payload userId expiresAt)
  expired : ∀ now userId expiresAt, expiry expiresAt ≤ now →
    settings.jwt.decode now (settings.sign userId expiresAt) settings.secretKey
      [settings.securityAlgorithm] = .error .pyJWTError
  int : ∀ n, settings.int (.num n) = some n

/-! ## Users -/

/-- The identifier stands for the user of this name, who may make requests. -/
def HasUser (userId : Id) (username : String) (db : Database) : Prop :=
  ∃ u ∈ db.users, u.id = userId ∧ u.username = username ∧ u.isActive = true

section Users

variable {db db' : Database} {userId : Id} {username : String}

theorem hasUser_of_eq (hsame : db'.users = db.users) (h : HasUser userId username db) :
    HasUser userId username db' := by
  unfold HasUser
  rw [hsame]
  exact h

/-- No write takes a user away. -/
theorem checkedStep_hasUser {w : Write} (hstep : checkedStep db w db')
    (h : HasUser userId username db) : HasUser userId username db' := by
  rcases hstep with ⟨_, rfl⟩
  cases w with
  | insertUser u =>
      rcases h with ⟨old, hold, hrest⟩
      exact ⟨old, List.mem_append_left _ hold, hrest⟩
  | setSuperuser usernames b =>
      rcases h with ⟨old, hold, hid, hname, hactive⟩
      refine ⟨if usernames.contains old.username then { old with isSuperuser := b } else old,
        Table.mem_update.mpr ⟨old, hold, rfl⟩, ?_⟩
      split
      · exact ⟨hid, hname, hactive⟩
      · exact ⟨hid, hname, hactive⟩
  | deleteGroup => exact hasUser_of_eq (shrinks_deleteGroups _).users h
  | deleteConnection => exact hasUser_of_eq (shrinks_deleteConnections _).users h
  | deleteQueue => exact hasUser_of_eq (shrinks_deleteQueues _).users h
  | deleteTransfer => exact hasUser_of_eq (shrinks_deleteTransfers _).users h
  | _ => exact h

theorem foldl_hasUser (h : HasUser userId username db) (events : List Event) :
    HasUser userId username (events.foldl Database.step db) := by
  refine Machine.run_invariant (I := HasUser userId username) (fun a e b ha hstep => ?_)
    (Machine.run_graph.mpr rfl) h
  rcases step_checked a e with ⟨ws, hrun⟩
  rw [hstep] at hrun
  exact Machine.run_invariant (I := HasUser userId username)
    (fun _ _ _ ha hstep => checkedStep_hasUser hstep ha) hrun ha

/-- The user that a token of this identifier is read as. -/
theorem find_of_hasUser (hdb : Consistent db) (h : HasUser userId username db) :
    ∃ user ∈ db.users, user.username = username ∧ user.isActive = true ∧
      db.users.find? (fun u => u.id == userId) = some user := by
  rcases h with ⟨user, huser, hid, hname, hactive⟩
  exact ⟨user, huser, hname, hactive,
    (Table.find_eq_some_iff (fun u : User => u.id) hdb.keys.users).mpr ⟨huser, hid⟩⟩

end Users

/-! ## Logins -/

section Grants

variable {settings : JWTSettings} {environment : Environment Key} {w w' : World Key}

/-- A login is answered with a token of its user. -/
theorem returns_grant {username password : Option String} {token : AuthTokenSchema}
    (h : Returns (Http.token (dummyAuthProvider settings) environment username password)
      w token w') :
    ∃ name userId, username = some name ∧ HasUser userId name w'.db ∧
      token.accessToken = settings.sign userId token.expiresAt := by
  change Returns (DummyAuthProvider.getTokenPasswordGrant settings environment username
    password) w token w' at h
  unfold DummyAuthProvider.getTokenPasswordGrant at h
  split at h
  · rename_i name pass hname hpass
    rcases returns_bind.mp h with ⟨user, w₁, hlogin, h⟩
    rcases returns_bind.mp h with ⟨_, w₂, hactive, h⟩
    rcases returns_raiseIf.mp hactive with ⟨hnot, rfl⟩
    rcases returns_pure.mp h with ⟨rfl, rfl⟩
    rcases returns_onDatabase.mp hlogin with ⟨db', hfound, rfl⟩
    have hfind := returns_login hfound
    refine ⟨name, user.id, (filter_nonempty.mp hname).1, ⟨user, ?_, rfl, ?_, ?_⟩, rfl⟩
    · exact List.mem_of_find?_eq_some hfind
    · exact beq_iff_eq.mp (List.find?_some (p := fun u : User => u.username == name) hfind)
    · exact Bool.eq_true_of_not_eq_false hnot
  · exact absurd h returns_throw

/-- The library takes such a token for its user, until it expires. -/
theorem vouchedFor_granted (hsigns : settings.Signs) {userId : Id} {expiresAt : Time}
    {oauthToken : Option String} {identity : Identity} :
    VouchedFor (.dummy settings) w.toService environment w.session
      ⟨some (settings.sign userId expiresAt), oauthToken⟩ identity ↔
      environment.now < expiry expiresAt ∧ identity = .id userId := by
  constructor
  · rintro ⟨token, ⟨htoken, _⟩, hvouches⟩
    rw [← Option.some.inj htoken] at hvouches
    cases hvouches with
    | @signed _ _ payload userId' hdecode _ huser =>
        by_cases hlive : environment.now < expiry expiresAt
        · have hpayload := hdecode.symm.trans (hsigns.decode _ userId expiresAt hlive)
          rw [Except.ok.inj hpayload] at huser
          have hint := (hsigns.int userId).symm.trans huser
          rw [Option.some.inj hint]
          exact ⟨hlive, rfl⟩
        · cases hdecode.symm.trans (hsigns.expired _ userId expiresAt (not_lt.mp hlive))
  · rintro ⟨hlive, rfl⟩
    exact ⟨_, ⟨rfl, hsigns.nonempty userId expiresAt⟩,
      .signed (hsigns.decode _ userId expiresAt hlive) rfl (hsigns.int userId)⟩

/-- A request with such a token, while its user is there. -/
theorem returns_api_granted (hsigns : settings.Signs) (hdb : Consistent w.db) {userId : Id}
    {user : User} (hfind : w.db.users.find? (fun u => u.id == userId) = some user)
    (hactive : user.isActive = true) {expiresAt now : Time} {oauthToken : Option String}
    {sent : SendTask} {request : Request} {response : Response} {db' : Database} :
    (∃ w', Returns (Http.api (dummyAuthProvider settings) environment
      ⟨some (settings.sign userId expiresAt), oauthToken⟩ now sent (some request)) w response w' ∧
      w'.db = db') ↔
      environment.now < expiry expiresAt ∧
        Returns (handle now sent user request) w.db response db' := by
  refine (returns_api_http (.dummy settings) hdb).trans ?_
  constructor
  · rintro ⟨identity, userId', hvouched, hid, hreturns⟩
    rcases (vouchedFor_granted hsigns).mp hvouched with ⟨hlive, rfl⟩
    cases hid
    rcases returns_bind.mp hreturns with ⟨user', _, hget, hhandle⟩
    rcases returns_getUser.mp hget with ⟨hfind', _, rfl⟩
    rw [Option.some.inj (hfind'.symm.trans hfind)] at hhandle
    exact ⟨hlive, hhandle⟩
  · rintro ⟨hlive, hhandle⟩
    refine ⟨.id userId, userId, (vouchedFor_granted hsigns).mpr ⟨hlive, rfl⟩, rfl, ?_⟩
    exact returns_bind.mpr ⟨user, w.db, returns_getUser.mpr ⟨hfind, hactive, rfl⟩, hhandle⟩

end Grants

/-! ## Histories -/

section Histories

variable (provider : Provider Key) (keyExpiration : Time) (before rest : List (HttpEvent Key))

theorem serviceAfter_append :
    serviceAfter provider keyExpiration (before ++ rest) =
      rest.foldl (Service.step provider.authProvider)
        (serviceAfter provider keyExpiration before) :=
  List.foldl_append

/-- No history takes a user away. -/
theorem serviceAfter_hasUser {userId : Id} {username : String}
    (h : HasUser userId username (serviceAfter provider keyExpiration before).db) :
    HasUser userId username (serviceAfter provider keyExpiration (before ++ rest)).db := by
  have hdb : Consistent (serviceAfter provider keyExpiration before).db :=
    reachable_consistent (reachable_serviceAfter provider keyExpiration before)
  rcases exists_lowered provider hdb rest with ⟨lowered, _, hlowered⟩
  rw [serviceAfter_append, hlowered]
  exact foldl_hasUser h lowered.flatten

end Histories

/-- A login leaves what its program returns with. -/
theorem db_serviceAfter_token {settings : JWTSettings} {keyExpiration : Time}
    {before : List (HttpEvent Key)} {grant : Environment Key} {username password : Option String}
    {token : AuthTokenSchema} {w' : World Key}
    (h : Returns (Http.token (dummyAuthProvider settings) grant username password)
      { serviceAfter (.dummy settings) keyExpiration before with session := none } token w') :
    (serviceAfter (.dummy settings) keyExpiration
      (before ++ [.token grant username password])).db = w'.db := by
  rw [serviceAfter_append]
  change (after (Http.token (dummyAuthProvider settings) grant username password)
    { serviceAfter (.dummy settings) keyExpiration before with session := none }).db = _
  rw [after_of_returns h]

/-- Whatever happens after a login, a request with its token is answered just until the token
    expires, and as a request of the user that had logged in. -/
theorem token_lifetime {settings : JWTSettings} (hsigns : settings.Signs) (keyExpiration : Time)
    (before rest : List (HttpEvent Key)) (grant : Environment Key)
    (username password : Option String) {token : AuthTokenSchema}
    (hgranted : ∃ w', Returns (Http.token (dummyAuthProvider settings) grant username password)
      { serviceAfter (.dummy settings) keyExpiration before with session := none } token w') :
    let s := serviceAfter (.dummy settings) keyExpiration
      (before ++ .token grant username password :: rest)
    ∃ user ∈ s.db.users, username = some user.username ∧ user.isActive = true ∧
      ∀ environment session oauthToken now sent request response db',
        (∃ w', Returns (Http.api (dummyAuthProvider settings) environment
          ⟨some token.accessToken, oauthToken⟩ now sent (some request))
          { s with session := session } response w' ∧ w'.db = db') ↔
        environment.now < expiry token.expiresAt ∧
          Returns (handle now sent user request) s.db response db' := by
  intro s
  rcases hgranted with ⟨w', hgranted⟩
  rcases returns_grant hgranted with ⟨name, userId, rfl, huser, htoken⟩
  -- The user of the login is there, whatever the rest of the history has been.
  have hlater : HasUser userId name s.db := by
    rw [← db_serviceAfter_token hgranted] at huser
    have hrest := serviceAfter_hasUser _ _ _ rest huser
    rwa [← List.append_cons] at hrest
  have hs : Consistent s.db := reachable_consistent (reachable_serviceAfter _ _ _)
  rcases find_of_hasUser hs hlater with ⟨user, hmem, hname, hactive, hfind⟩
  refine ⟨user, hmem, by rw [hname], hactive, ?_⟩
  intro environment session oauthToken now sent request response db'
  rw [htoken]
  exact returns_api_granted (w := { s with session := session }) hsigns hs hfind hactive

/-! ## A login, as an example -/

/-- Writes the two numbers of a token as runs of letters, and counts them. -/
def countedJwt : Jwt where
  encode := fun payload _ _ => match payload with
    | [(_, .num userId), (_, .decimal expiresAt _)] => String.ofList ('.' ::
        (List.replicate userId.toNat 'u' ++ List.replicate (-userId).toNat 'v' ++
          (List.replicate expiresAt.toNat 'e' ++ List.replicate (-expiresAt).toNat 'f')))
    | _ => "."
  decode := fun now token _ _ =>
    let count := fun c => (token.toList.count c : Int)
    let expiresAt := count 'e' - count 'f'
    if now < expiry expiresAt then
      .ok (DummyAuthProvider.payload (count 'u' - count 'v') expiresAt)
    else .error .pyJWTError

/-- Tokens that are good for a second. -/
def countedSettings : JWTSettings where
  jwt := countedJwt
  int := fun value => match value with
    | .num n => some n
    | _ => none
  repr := fun name => "'" ++ name ++ "'"
  secretKey := "secret"
  securityAlgorithm := "HS256"
  expireSeconds := 1

theorem countedSettings_signs : countedSettings.Signs := by
  have hdecode : ∀ now userId expiresAt,
      countedSettings.jwt.decode now (countedSettings.sign userId expiresAt)
        countedSettings.secretKey [countedSettings.securityAlgorithm] =
      if now < expiry expiresAt then .ok (DummyAuthProvider.payload userId expiresAt)
      else .error .pyJWTError := by
    intro now userId expiresAt
    have hcount : ∀ n : Int, max n 0 - max (-n) 0 = n := by omega
    simp [countedSettings, countedJwt, JWTSettings.sign, DummyAuthProvider.payload,
      List.count_replicate, hcount]
  refine ⟨fun userId expiresAt h => ?_, fun now userId expiresAt h => ?_,
    fun now userId expiresAt h => ?_, fun _ => rfl⟩
  · have hlist := congrArg String.toList h
    simp [countedSettings, countedJwt, JWTSettings.sign, DummyAuthProvider.payload] at hlist
  · rw [hdecode, if_pos h]
  · rw [hdecode, if_neg (not_lt.mpr h)]

/-- A server that answers nothing. -/
def silentKeycloak : Keycloak Unit where
  certs := .error .other
  decodeToken := fun _ _ => .error .other
  refreshToken := fun _ => .error .other
  introspect := fun _ => .error .other
  token := fun _ => .error .other
  authUrl := .error .other
  logout := fun _ => .error .other

/-- The token of a login is good for a second, another login notwithstanding. -/
theorem token_lifetime_second :
    let token := DummyAuthProvider.generateAccessToken countedSettings 0 1
    let history : List (HttpEvent Unit) := [
      .token ⟨0, 0, 0, silentKeycloak⟩ (some "owner") (some "-"),
      .token ⟨1, 1, 1, silentKeycloak⟩ (some "maintainer") (some "-")]
    let answered := fun now => ∃ response w', Returns
      (Http.api (dummyAuthProvider countedSettings) ⟨now, now, now, silentKeycloak⟩
        ⟨some token.accessToken, none⟩ now .returned (some (.read (fun user _ => .ok (.str user.username)))))
      { serviceAfter (.dummy countedSettings) 0 history with session := none } response w'
    answered 999999 ∧ ¬ answered 1000000 := by
  intro token history answered
  have hgranted : ∃ w', Returns (Http.token (dummyAuthProvider countedSettings)
      ⟨0, 0, 0, silentKeycloak⟩ (some "owner") (some "-"))
      { serviceAfter (.dummy countedSettings) 0 [] with session := none } token w' := ⟨_, rfl⟩
  rcases token_lifetime countedSettings_signs 0 []
    [.token ⟨1, 1, 1, silentKeycloak⟩ (some "maintainer") (some "-")] ⟨0, 0, 0, silentKeycloak⟩
    (some "owner") (some "-") hgranted with ⟨user, _, _, _, hanswered⟩
  refine ⟨⟨.json (.str user.username), ?_⟩, ?_⟩
  · rcases (hanswered ⟨999999, 999999, 999999, silentKeycloak⟩ none none 999999 .returned
      (.read (fun user _ => .ok (.str user.username))) _ _).mpr ⟨by decide, rfl⟩ with ⟨w', h, _⟩
    exact ⟨w', h⟩
  · rintro ⟨response, w', h⟩
    exact absurd ((hanswered ⟨1000000, 1000000, 1000000, silentKeycloak⟩ none none 1000000 .returned
      (.read (fun user _ => .ok (.str user.username))) _ _).mp ⟨w', h, rfl⟩).1 (by decide)

end SyncMaster
