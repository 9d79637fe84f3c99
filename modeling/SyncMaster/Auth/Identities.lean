import SyncMaster.Auth.Providers

/-!
# Whom a Token is for

`Vouches` says whom a provider takes a token for, in rules that do not mention how the
provider goes about it: a token of its own is decoded with the key of the settings; a
token behind the gateway is active, and the server says whose it is; and a token of
Keycloak is decoded with the certificates at hand, or else the refresh token of the
session gives another one that is.

`identify_iff` says that the providers go by these rules. On the way they may keep
certificates, and put new tokens into the session, which is all that they write:
`Allows` collects what a relation between the states before and after has to put up
with, and `identify_keeps` says that it is nothing else.

## Main definitions

* `Provider`: The providers, with their settings.
* `Service.certificates`, `Service.decoded`: What a token says, by the certificates.
* `Vouches`: Whose token it is.
* `World.fetched`: The application once it has looked for certificates.
* `Allows`: What a provider may do to the application.

## Theorems

* `fetched_certificates`: Certificates that are kept are the same.
* `run_decodeToken`: What a token says, and what is kept.
* `vouches_of_dummy`, `vouches_of_oauth2Gateway`, `vouches_of_keycloak`: The providers.
* `identify_iff`: A provider finds whom it vouches for.
* `identify_keeps`, `logout_keeps`, `authCallback_keeps`: What a provider writes.
-/

namespace SyncMaster

open Program

variable {Key : Type}

/-- The providers that the settings choose from. -/
inductive Provider (Key : Type) where
  | dummy (settings : JWTSettings)
  | oauth2Gateway
  | keycloak (certCacheTtl : Time)

def Provider.authProvider : Provider Key → AuthProvider Key
  | .dummy settings => dummyAuthProvider settings
  | .oauth2Gateway => oauth2GatewayProvider
  | .keycloak certCacheTtl => keycloakAuthProvider certCacheTtl

/-! ## Whom a token is for -/

/-- The certificates at hand: those that have not expired, or those of the server. -/
def Service.certificates (s : Service Key) (environment : Environment Key) :
    Except LibraryError Key :=
  match if environment.monotonic < s.keyExpiration then s.key else none with
  | some key => .ok key
  | none => environment.keycloak.certs

/-- What the token says, by these certificates. -/
def Service.decoded (s : Service Key) (environment : Environment Key) (token : String) :
    Except LibraryError Dict :=
  match s.certificates environment with
  | .ok key => environment.keycloak.decodeToken token key
  | .error e => .error e

/-- The token names the user. -/
structure NamesUser (tokenInfo : Dict) (username : String) : Prop where
  lookup : tokenInfo.lookup "preferred_username" = some (.str username)
  nonempty : username ≠ ""

/-- The token is worth an attempt to refresh it. -/
inductive Stale : Except LibraryError Dict → Prop
  | empty : Stale (.ok [])
  | keycloakOperationError : Stale (.error .keycloakOperationError)
  | jwException : Stale (.error .jwException)

/-- The provider takes the token for this identity. -/
inductive Vouches (s : Service Key) (environment : Environment Key) (session : Option Session) :
    Provider Key → String → Identity → Prop
  | signed {settings : JWTSettings} {token : String} {payload : Dict} {userId : Id} :
      settings.jwt.decode environment.now token settings.secretKey
        [settings.securityAlgorithm] = .ok payload →
      (payload.lookup "exp").isSome = true →
      (payload.lookup "user_id").bind settings.int = some userId →
      Vouches s environment session (.dummy settings) token (.id userId)
  | introspected {token : String} {tokenInfo : Dict} {active : Json} {username : String} :
      environment.keycloak.introspect token = .ok tokenInfo →
      tokenInfo.lookup "active" = some active → active ≠ .bool false →
      NamesUser tokenInfo username →
      Vouches s environment session .oauth2Gateway token (.name username)
  | decoded {certCacheTtl : Time} {token : String} {tokenInfo : Dict} {username : String} :
      session.isSome = true → s.decoded environment token = .ok tokenInfo →
      NamesUser tokenInfo username →
      Vouches s environment session (.keycloak certCacheTtl) token (.name username)
  | refreshed {certCacheTtl : Time} {token refreshToken newToken newRefreshToken : String}
      {current : Session} {tokenInfo : Dict} {username : String} :
      session = some current → current.refreshToken = some refreshToken → refreshToken ≠ "" →
      Stale (s.decoded environment token) →
      environment.keycloak.refreshToken refreshToken =
        .ok { accessToken := some newToken, refreshToken := some newRefreshToken } →
      s.decoded environment newToken = .ok tokenInfo → NamesUser tokenInfo username →
      Vouches s environment session (.keycloak certCacheTtl) token (.name username)

section Tokens

variable {w w' : World Key} {environment : Environment Key} {certCacheTtl : Time}

theorem returns_calling {α : Type} {answer : Except LibraryError α} {a : α} :
    Returns (calling answer) w a w' ↔ answer = .ok a ∧ w = w' := by
  cases answer with
  | ok b => rw [calling, returns_pure, Except.ok.injEq]
  | error e =>
      refine iff_of_false returns_throw (fun h => ?_)
      cases h.1

theorem raises_calling {α : Type} {answer : Except LibraryError α} {e : AuthFailure} :
    Raises (calling answer) w e w' ↔ ∃ e', answer = .error e' ∧ .library e' = e ∧ w = w' := by
  cases answer with
  | ok a =>
      refine iff_of_false raises_pure (fun h => ?_)
      rcases h with ⟨_, heq, _⟩
      cases heq
  | error e₀ =>
      rw [calling, raises_throw]
      constructor
      · intro h
        exact ⟨e₀, rfl, h⟩
      · rintro ⟨e', heq, h⟩
        cases heq
        exact h

theorem returns_requiredToken {key token : String} {value : Option String} :
    Returns (requiredToken key value) w token w' ↔ value = some token ∧ w = w' := by
  cases value with
  | none =>
      refine iff_of_false returns_throw (fun h => ?_)
      cases h.1
  | some t => rw [requiredToken, returns_pure, Option.some.injEq]

theorem returns_requestSession {session : Session} :
    Returns KeycloakAuthProvider.requestSession w session w' ↔
      w.session = some session ∧ w = w' := by
  rw [KeycloakAuthProvider.requestSession, returns_query]
  cases w.session with
  | none => simp only [reduceCtorEq, false_and]
  | some current => simp only [Except.ok.injEq, Option.some.injEq]

theorem returns_loginOf {tokenInfo : Dict} {identity : Identity} :
    Returns (loginOf tokenInfo) w identity w' ↔
      ∃ username, NamesUser tokenInfo username ∧ identity = .name username ∧ w = w' := by
  unfold loginOf
  split
  · rename_i username hlookup
    rw [returns_ite]
    split
    · rename_i hempty
      refine iff_of_false returns_throw ?_
      rintro ⟨name, hnames, _⟩
      rw [hnames.lookup, Option.some.injEq, Json.str.injEq] at hlookup
      exact hnames.nonempty (hlookup.trans hempty)
    · rename_i hnonempty
      rw [returns_pure]
      constructor
      · rintro ⟨rfl, rfl⟩
        exact ⟨username, ⟨hlookup, hnonempty⟩, rfl, rfl⟩
      · rintro ⟨name, hnames, rfl, rfl⟩
        rw [hnames.lookup, Option.some.injEq, Json.str.injEq] at hlookup
        rw [hlookup]
        exact ⟨rfl, rfl⟩
  -- A value that is no string is refused, be it falsy or not.
  · rename_i value hother hlookup
    rw [returns_ite]
    refine iff_of_false ?_ ?_
    · split
      · exact returns_throw
      · exact returns_throw
    · rintro ⟨name, hnames, _⟩
      exact hother name (Option.some.inj (hlookup.symm.trans hnames.lookup))
  · rename_i hlookup
    refine iff_of_false returns_throw ?_
    rintro ⟨name, hnames, _⟩
    rw [hnames.lookup] at hlookup
    cases hlookup

/-- The application once it has looked for certificates. -/
def World.fetched (certCacheTtl : Time) (environment : Environment Key) (w : World Key) :
    World Key :=
  match if environment.monotonic < w.keyExpiration then w.key else none with
  | some _ => w
  | none =>
      match environment.keycloak.certs with
      | .ok key =>
          { w with key := some key, keyExpiration := environment.fetchedAt + certCacheTtl }
      | .error _ => w

theorem fetched_db : (w.fetched certCacheTtl environment).db = w.db := by
  unfold World.fetched
  split
  · rfl
  · split <;> rfl

/-- Certificates that have been looked for are at hand, however long they are kept. -/
theorem fetched_certificates :
    (w.fetched certCacheTtl environment).certificates environment =
      w.certificates environment := by
  unfold World.fetched
  split
  · rfl
  · rename_i hcached
    split
    · rename_i key hcerts
      rw [Service.certificates, Service.certificates, hcached, hcerts]
      split
      · rename_i key' hkey
        split at hkey
        · rw [Option.some.inj hkey]
        · cases hkey
      · rfl
    · rfl

theorem fetched_decoded (certCacheTtl : Time) (token : String) :
    (w.fetched certCacheTtl environment).decoded environment token =
      w.decoded environment token := by
  rw [Service.decoded, Service.decoded, fetched_certificates]

theorem run_getKey :
    (KeycloakAuthProvider.getKey certCacheTtl environment).run.run w =
      (calling (w.certificates environment)).run.run (w.fetched certCacheTtl environment) := by
  unfold KeycloakAuthProvider.getKey KeycloakAuthProvider.fetchKey Service.certificates
    World.fetched
  have hcached : Returns (query (fun w : World Key => Except.ok (ε := AuthFailure)
      (if environment.monotonic < w.keyExpiration then w.key else none))) w
      (if environment.monotonic < w.keyExpiration then w.key else none) w :=
    returns_query.mpr ⟨rfl, rfl⟩
  generalize (if environment.monotonic < w.keyExpiration then w.key else none) = cached at *
  rw [run_bind, hcached]
  cases cached with
  | some key => rfl
  | none =>
      cases environment.keycloak.certs with
      | ok key => rfl
      | error e => rfl

/-- Decoding a token finds what it says, and keeps the certificates. -/
theorem run_decodeToken (token : String) :
    (KeycloakAuthProvider.decodeToken certCacheTtl environment token).run.run w =
      (calling (w.decoded environment token)).run.run (w.fetched certCacheTtl environment) := by
  unfold KeycloakAuthProvider.decodeToken Service.decoded
  rw [run_bind, run_getKey]
  cases w.certificates environment with
  | ok key => rfl
  | error e => rfl

theorem returns_decodeToken {token : String} {tokenInfo : Dict} :
    Returns (KeycloakAuthProvider.decodeToken certCacheTtl environment token) w tokenInfo w' ↔
      w.decoded environment token = .ok tokenInfo ∧ w.fetched certCacheTtl environment = w' := by
  rw [Returns, run_decodeToken]
  exact returns_calling

theorem raises_decodeToken {token : String} {e : AuthFailure} :
    Raises (KeycloakAuthProvider.decodeToken certCacheTtl environment token) w e w' ↔
      ∃ e', w.decoded environment token = .error e' ∧ .library e' = e ∧
        w.fetched certCacheTtl environment = w' := by
  rw [Raises, run_decodeToken]
  exact raises_calling

/-- The first attempt: what the token says, or nothing if it is worth another one. -/
theorem returns_firstAttempt {token : String} {tokenInfo : Dict} :
    Returns (KeycloakAuthProvider.firstAttempt certCacheTtl environment token)
      w tokenInfo w' ↔
      (w.decoded environment token = .ok tokenInfo ∨
        tokenInfo = [] ∧ Stale (w.decoded environment token)) ∧
      w.fetched certCacheTtl environment = w' := by
  rw [KeycloakAuthProvider.firstAttempt, returns_recovering, returns_decodeToken]
  constructor
  · rintro (⟨hdecoded, hw⟩ | ⟨e, hraise, hrecover⟩)
    · exact ⟨Or.inl hdecoded, hw⟩
    · rcases raises_decodeToken.mp hraise with ⟨e', hdecoded, rfl, hw⟩
      refine ⟨Or.inr ?_, hw⟩
      rw [hdecoded]
      -- Two errors of the libraries count as a stale token, the others go through.
      cases e' with
      | keycloakOperationError => exact ⟨(Option.some.inj hrecover).symm, .keycloakOperationError⟩
      | jwException => exact ⟨(Option.some.inj hrecover).symm, .jwException⟩
      | pyJWTError => cases hrecover
      | other => cases hrecover
  · rintro ⟨hdecoded | ⟨rfl, hstale⟩, hw⟩
    · exact Or.inl ⟨hdecoded, hw⟩
    · cases hdecoded : w.decoded environment token with
      | ok tokenInfo =>
          rw [hdecoded] at hstale
          cases hstale
          exact Or.inl ⟨rfl, hw⟩
      | error e =>
          refine Or.inr ⟨.library e, raises_decodeToken.mpr ⟨e, hdecoded, rfl, hw⟩, ?_⟩
          rw [hdecoded] at hstale
          cases hstale with
          | keycloakOperationError => rfl
          | jwException => rfl

theorem returns_refresh {refreshToken : String} {tokenInfo : Dict} :
    Returns (KeycloakAuthProvider.refresh certCacheTtl environment refreshToken) w tokenInfo w' ↔
      ∃ newToken newRefreshToken, environment.keycloak.refreshToken refreshToken =
          .ok { accessToken := some newToken, refreshToken := some newRefreshToken } ∧
        w.decoded environment newToken = .ok tokenInfo ∧
        World.fetched certCacheTtl environment { w with
          session := some { accessToken := some newToken, refreshToken := some newRefreshToken } }
          = w' := by
  simp only [KeycloakAuthProvider.refresh, returns_bind, returns_calling, returns_requiredToken,
    returns_execute, returns_decodeToken]
  constructor
  · rintro ⟨⟨access, refresh⟩, _, ⟨htokens, rfl⟩, newToken, _, ⟨haccess, rfl⟩,
      newRefreshToken, _, ⟨hrefresh, rfl⟩, _, _, rfl, hdecoded, hw⟩
    exact ⟨newToken, newRefreshToken, by rw [htokens, ← haccess, ← hrefresh], hdecoded, hw⟩
  · rintro ⟨newToken, newRefreshToken, htokens, hdecoded, hw⟩
    exact ⟨_, _, ⟨htokens, rfl⟩, newToken, _, ⟨rfl, rfl⟩, newRefreshToken, _, ⟨rfl, rfl⟩,
      (), _, rfl, hdecoded, hw⟩

theorem filter_nonempty {o : Option String} {token : String} :
    o.filter (fun token => token != "") = some token ↔ o = some token ∧ token ≠ "" := by
  rw [Option.filter_eq_some_iff, bne_iff_ne]

theorem NamesUser.isEmpty_eq_false {tokenInfo : Dict} {username : String}
    (h : NamesUser tokenInfo username) : tokenInfo.isEmpty = false := by
  cases tokenInfo with
  | nil => cases h.lookup
  | cons claim rest => rfl

end Tokens

/-! ## What the providers find -/

section Identities

variable {w w' : World Key} {environment : Environment Key} {token : String} {identity : Identity}

/-- The token is what the request brings, and there is one. -/
theorem returns_onToken {α : Type} {accessToken : Option String} {e : AuthFailure}
    {f : String → Program (World Key) AuthFailure α} {a : α} :
    Returns (match accessToken.filter (fun token => token != "") with
      | none => throw e
      | some token => f token) w a w' ↔
      ∃ token, (accessToken = some token ∧ token ≠ "") ∧ Returns (f token) w a w' := by
  cases hfilter : accessToken.filter (fun token => token != "") with
  | none =>
      refine iff_of_false returns_throw ?_
      rintro ⟨token, htoken, _⟩
      rw [filter_nonempty.mpr htoken] at hfilter
      cases hfilter
  | some token =>
      constructor
      · intro h
        exact ⟨token, filter_nonempty.mp hfilter, h⟩
      · rintro ⟨token', htoken, h⟩
        rw [filter_nonempty.mpr htoken, Option.some.injEq] at hfilter
        rw [← hfilter]
        exact h

theorem returns_decodeJwt {settings : JWTSettings} {now : Time} {payload : Dict} :
    Returns (DummyAuthProvider.decodeJwt settings now token) w payload w' ↔
      settings.jwt.decode now token settings.secretKey [settings.securityAlgorithm] =
        .ok payload ∧ (payload.lookup "exp").isSome = true ∧ w = w' := by
  unfold DummyAuthProvider.decodeJwt
  cases settings.jwt.decode now token settings.secretKey [settings.securityAlgorithm] with
  | error e =>
      refine iff_of_false (fun h => ?_) (fun h => by cases h.1)
      cases e <;> exact returns_throw h
  | ok result =>
      simp only [returns_ite, returns_throw, returns_pure, Except.ok.injEq]
      cases hexp : result.lookup "exp" with
      | none =>
          refine iff_of_false (fun h => h) ?_
          rintro ⟨rfl, hsome, _⟩
          rw [hexp] at hsome
          cases hsome
      | some value =>
          constructor
          · rintro ⟨rfl, rfl⟩
            exact ⟨rfl, by rw [hexp]; rfl, rfl⟩
          · rintro ⟨rfl, _, rfl⟩
            exact ⟨rfl, rfl⟩

theorem returns_getUserIdFromToken {settings : JWTSettings} {now : Time} {userId : Id} :
    Returns (DummyAuthProvider.getUserIdFromToken settings now token) w userId w' ↔
      ∃ payload, settings.jwt.decode now token settings.secretKey
          [settings.securityAlgorithm] = .ok payload ∧ (payload.lookup "exp").isSome = true ∧
        (payload.lookup "user_id").bind settings.int = some userId ∧ w = w' := by
  simp only [DummyAuthProvider.getUserIdFromToken, returns_bind, returns_decodeJwt]
  constructor
  · rintro ⟨payload, _, ⟨hdecode, hexp, rfl⟩, h⟩
    split at h
    · rename_i id hid
      rcases returns_pure.mp h with ⟨rfl, rfl⟩
      exact ⟨payload, hdecode, hexp, hid, rfl⟩
    · exact absurd h returns_throw
  · rintro ⟨payload, hdecode, hexp, hid, rfl⟩
    refine ⟨payload, w, ⟨hdecode, hexp, rfl⟩, ?_⟩
    rw [hid]
    exact returns_pure.mpr ⟨rfl, rfl⟩

theorem vouches_of_dummy {settings : JWTSettings} {accessToken : Option String} :
    (∃ w', Returns (DummyAuthProvider.identify settings environment accessToken)
      w identity w') ↔
      ∃ token, (accessToken = some token ∧ token ≠ "") ∧
        Vouches w.toService environment w.session (.dummy settings) token identity := by
  refine (exists_congr (fun _ => returns_onToken)).trans ?_
  simp only [returns_bind, returns_getUserIdFromToken, returns_pure]
  constructor
  · rintro ⟨_, token, htoken, userId, _, ⟨payload, hdecode, hexp, hid, rfl⟩, rfl, rfl⟩
    exact ⟨token, htoken, .signed hdecode hexp hid⟩
  · rintro ⟨token, htoken, hvouches⟩
    cases hvouches with
    | signed hdecode hexp hid =>
        exact ⟨w, token, htoken, _, w, ⟨_, hdecode, hexp, hid, rfl⟩, rfl, rfl⟩

theorem vouches_of_oauth2Gateway {accessToken : Option String} :
    (∃ w', Returns (OAuth2GatewayProvider.identify environment accessToken) w identity w') ↔
      ∃ token, (accessToken = some token ∧ token ≠ "") ∧
        Vouches w.toService environment w.session .oauth2Gateway token identity := by
  refine (exists_congr (fun _ => returns_onToken)).trans ?_
  constructor
  · rintro ⟨w', token, htoken, h⟩
    refine ⟨token, htoken, ?_⟩
    split at h
    · exact absurd h returns_throw
    · exact absurd h returns_throw
    · rename_i tokenInfo hintrospect
      split at h
      · exact absurd h returns_throw
      · exact absurd h returns_throw
      · rename_i active hfalse hactive
        rcases returns_loginOf.mp h with ⟨username, hnames, rfl, _⟩
        exact .introspected hintrospect hactive hfalse hnames
  · rintro ⟨token, htoken, hvouches⟩
    cases hvouches with
    | @introspected _ tokenInfo active username hintrospect hactive hfalse hnames =>
        refine ⟨w, token, htoken, ?_⟩
        rw [hintrospect]
        simp only [hactive]
        exact returns_loginOf.mpr ⟨username, hnames, rfl, rfl⟩

theorem returns_secondAttempt {certCacheTtl : Time} {session : Session} {decoded tokenInfo : Dict}
    (h : Returns (KeycloakAuthProvider.secondAttempt certCacheTtl environment session decoded)
      w tokenInfo w') :
    tokenInfo = decoded ∨ decoded = [] ∧ ∃ refreshToken, session.refreshToken = some refreshToken ∧
      refreshToken ≠ "" ∧
      Returns (KeycloakAuthProvider.refresh certCacheTtl environment refreshToken)
        w tokenInfo w' := by
  unfold KeycloakAuthProvider.secondAttempt at h
  split at h
  · rename_i refreshToken hrefresh
    rcases filter_nonempty.mp hrefresh with ⟨hrefresh, hne⟩
    rw [returns_ite] at h
    split at h
    · rename_i hempty
      exact Or.inr ⟨List.isEmpty_iff.mp hempty, refreshToken, hrefresh, hne,
        returns_catching.mp h⟩
    · exact Or.inl (returns_pure.mp h).1.symm
  · exact Or.inl (returns_pure.mp h).1.symm

/-- A token that says something needs no second attempt. -/
theorem secondAttempt_of_names {certCacheTtl : Time} {session : Session} {tokenInfo : Dict}
    {username : String} (h : NamesUser tokenInfo username) :
    Returns (KeycloakAuthProvider.secondAttempt certCacheTtl environment session tokenInfo)
      w tokenInfo w := by
  unfold KeycloakAuthProvider.secondAttempt
  split
  · rw [returns_ite, if_neg (by rw [h.isEmpty_eq_false]; exact Bool.false_ne_true)]
    exact returns_pure.mpr ⟨rfl, rfl⟩
  · exact returns_pure.mpr ⟨rfl, rfl⟩

/-- A token that says nothing is refreshed. -/
theorem secondAttempt_of_refreshed (certCacheTtl : Time) {session : Session} {tokenInfo : Dict}
    {refreshToken newToken newRefreshToken : String}
    (hrefresh : session.refreshToken = some refreshToken) (hne : refreshToken ≠ "")
    (htokens : environment.keycloak.refreshToken refreshToken =
      .ok { accessToken := some newToken, refreshToken := some newRefreshToken })
    (hdecoded : w.decoded environment newToken = .ok tokenInfo) :
    ∃ w', Returns (KeycloakAuthProvider.secondAttempt certCacheTtl environment session [])
      w tokenInfo w' := by
  rw [KeycloakAuthProvider.secondAttempt, filter_nonempty.mpr ⟨hrefresh, hne⟩]
  exact ⟨_, returns_catching.mpr (returns_refresh.mpr ⟨_, _, htokens, hdecoded, rfl⟩)⟩

theorem vouches_of_keycloak {certCacheTtl : Time} {accessToken : Option String} :
    (∃ w', Returns (KeycloakAuthProvider.identify certCacheTtl environment accessToken)
      w identity w') ↔
      ∃ token, (accessToken = some token ∧ token ≠ "") ∧
        Vouches w.toService environment w.session (.keycloak certCacheTtl) token identity := by
  refine (exists_congr (fun _ => returns_onToken)).trans ?_
  simp only [returns_bind, returns_requestSession, returns_firstAttempt, returns_raiseIf,
    returns_loginOf]
  constructor
  · rintro ⟨_, token, htoken, session, _, ⟨hsession, rfl⟩, decoded, _, ⟨hfirst, rfl⟩, tokenInfo, _,
      hsecond, _, _, ⟨hnonempty, rfl⟩, username, hnames, rfl, rfl⟩
    refine ⟨token, htoken, ?_⟩
    -- The claims are those of the token itself, or those of the token it was refreshed to.
    rcases returns_secondAttempt hsecond with rfl | ⟨rfl, refreshToken, hrefresh, hne, hrefreshed⟩
    · rcases hfirst with hdecoded | ⟨hempty, _⟩
      · exact .decoded (by rw [hsession]; rfl) hdecoded hnames
      · exact absurd (List.isEmpty_iff.mpr hempty) hnonempty
    · rcases returns_refresh.mp hrefreshed with ⟨newToken, newRefreshToken, htokens, hdecoded, _⟩
      rw [fetched_decoded] at hdecoded
      refine .refreshed hsession hrefresh hne ?_ htokens hdecoded hnames
      rcases hfirst with hempty | ⟨_, hstale⟩
      · rw [hempty]
        exact .empty
      · exact hstale
  · rintro ⟨token, htoken, hvouches⟩
    cases hvouches with
    | decoded hsome hdecoded hnames =>
        rcases Option.isSome_iff_exists.mp hsome with ⟨session, hsession⟩
        exact ⟨_, token, htoken, session, w, ⟨hsession, rfl⟩, _, _, ⟨Or.inl hdecoded, rfl⟩,
          _, _, secondAttempt_of_names hnames, (), _,
          ⟨by rw [hnames.isEmpty_eq_false]; exact Bool.false_ne_true, rfl⟩, _, hnames, rfl, rfl⟩
    | refreshed hsession hrefresh hne hstale htokens hdecoded hnames =>
        -- The first attempt has looked for the certificates already.
        rw [← fetched_decoded certCacheTtl] at hdecoded
        rcases secondAttempt_of_refreshed certCacheTtl hrefresh hne htokens hdecoded with
          ⟨_, hsecond⟩
        exact ⟨_, token, htoken, _, w, ⟨hsession, rfl⟩, [], _, ⟨Or.inr ⟨rfl, hstale⟩, rfl⟩,
          _, _, hsecond, (), _,
          ⟨by rw [hnames.isEmpty_eq_false]; exact Bool.false_ne_true, rfl⟩, _, hnames, rfl, rfl⟩

/-- A provider finds whom it vouches for, and no one else. -/
theorem identify_iff (provider : Provider Key) {accessToken : Option String} :
    (∃ w', Returns (provider.authProvider.identify environment accessToken) w identity w') ↔
      ∃ token, (accessToken = some token ∧ token ≠ "") ∧
        Vouches w.toService environment w.session provider token identity := by
  cases provider with
  | dummy settings => exact vouches_of_dummy
  | oauth2Gateway => exact vouches_of_oauth2Gateway
  | keycloak certCacheTtl => exact vouches_of_keycloak

end Identities

/-! ## What the providers write -/

/-- A relation that allows what a provider does: a new session, and certificates that are
    kept. -/
structure Allows (provider : Provider Key) (environment : Environment Key)
    (R : World Key → World Key → Prop) : Prop where
  refl : ∀ w, R w w
  trans : ∀ a b c, R a b → R b c → R a c
  session : ∀ (w : World Key) session, R w { w with session := session }
  fetched : ∀ (w : World Key) certCacheTtl, provider = .keycloak certCacheTtl →
    R w (w.fetched certCacheTtl environment)

section Allows

variable {provider : Provider Key} {environment : Environment Key}
  {R : World Key → World Key → Prop}

theorem Allows.calling (h : Allows provider environment R) {α : Type}
    (answer : Except LibraryError α) :
    Always R (calling answer : Program (World Key) AuthFailure α) := by
  cases answer with
  | ok a => exact always_pure h.refl a
  | error e => exact always_throw h.refl _

theorem Allows.requiredToken (h : Allows provider environment R) (key : String)
    (value : Option String) :
    Always R (requiredToken key value : Program (World Key) AuthFailure String) := by
  cases value with
  | none => exact always_throw h.refl _
  | some token => exact always_pure h.refl token

theorem Allows.loginOf (h : Allows provider environment R) (tokenInfo : Dict) :
    Always R (loginOf tokenInfo : Program (World Key) AuthFailure Identity) := by
  unfold SyncMaster.loginOf
  split
  · split
    · exact always_throw h.refl _
    · exact always_pure h.refl _
  · split
    · exact always_throw h.refl _
    · exact always_throw h.refl _
  · exact always_throw h.refl _

theorem Allows.decodeToken {certCacheTtl : Time}
    (h : Allows (.keycloak certCacheTtl) environment R) (token : String) :
    Always R (KeycloakAuthProvider.decodeToken certCacheTtl environment token) := by
  intro w
  have hafter : after (KeycloakAuthProvider.decodeToken certCacheTtl environment token) w =
      after (SyncMaster.calling (w.decoded environment token))
        (w.fetched certCacheTtl environment) := by
    rw [after, run_decodeToken]
    rfl
  rw [hafter]
  exact h.trans _ _ _ (h.fetched w certCacheTtl rfl) (h.calling _ _)

theorem Allows.secondAttempt {certCacheTtl : Time}
    (h : Allows (.keycloak certCacheTtl) environment R) (session : Session) (tokenInfo : Dict) :
    Always R
      (KeycloakAuthProvider.secondAttempt certCacheTtl environment session tokenInfo) := by
  unfold KeycloakAuthProvider.secondAttempt
  split
  · split
    · refine always_catching (always_bind h.trans (h.calling _) (fun newTokens => ?_))
      refine always_bind h.trans (h.requiredToken _ _) (fun newToken => ?_)
      refine always_bind h.trans (h.requiredToken _ _) (fun newRefreshToken => ?_)
      refine always_bind h.trans (always_execute (fun w => h.session w _)) (fun _ => ?_)
      exact h.decodeToken newToken
    · exact always_pure h.refl _
  · exact always_pure h.refl _

/-- Finding out whose token it is. -/
theorem identify_keeps (h : Allows provider environment R) (accessToken : Option String) :
    Always R (provider.authProvider.identify environment accessToken) := by
  cases provider with
  | dummy settings =>
      change Always R (DummyAuthProvider.identify settings environment accessToken)
      unfold DummyAuthProvider.identify
      split
      · exact always_throw h.refl _
      · refine always_bind h.trans (always_bind h.trans ?_ (fun payload => ?_))
          (fun _ => always_pure h.refl _)
        · unfold DummyAuthProvider.decodeJwt
          split
          · split
            · exact always_throw h.refl _
            · exact always_pure h.refl _
          · exact always_throw h.refl _
          · exact always_throw h.refl _
        · split
          · exact always_pure h.refl _
          · exact always_throw h.refl _
  | oauth2Gateway =>
      change Always R (OAuth2GatewayProvider.identify environment accessToken)
      unfold OAuth2GatewayProvider.identify
      split
      · exact always_throw h.refl _
      · split
        · exact always_throw h.refl _
        · exact always_throw h.refl _
        · split
          · exact always_throw h.refl _
          · exact always_throw h.refl _
          · exact h.loginOf _
  -- The only provider that changes anything: its certificates and the session.
  | keycloak certCacheTtl =>
      change Always R (KeycloakAuthProvider.identify certCacheTtl environment accessToken)
      unfold KeycloakAuthProvider.identify
      split
      · exact always_throw h.refl _
      · refine always_bind h.trans (always_query h.refl _) (fun session => ?_)
        refine always_bind h.trans (always_recovering (h.decodeToken _)) (fun decoded => ?_)
        refine always_bind h.trans (h.secondAttempt _ _) (fun tokenInfo => ?_)
        exact always_bind h.trans (always_query h.refl _) (fun _ => h.loginOf _)

/-- Logging out. -/
theorem logout_keeps (h : Allows provider environment R) (user : User)
    (refreshToken : Option String) :
    Always R (provider.authProvider.logout environment user refreshToken) := by
  cases provider with
  | dummy settings => exact always_throw h.refl _
  | oauth2Gateway => exact always_throw h.refl _
  | keycloak certCacheTtl =>
      change Always R (KeycloakAuthProvider.logout environment user refreshToken)
      unfold KeycloakAuthProvider.logout
      split
      · exact always_pure h.refl _
      · exact always_catching (h.calling _)

/-- `GET /auth/callback`, which puts its tokens into the session. -/
theorem authCallback_keeps (h : Allows provider environment R) (code : String) :
    Always R (Http.authCallback provider.authProvider environment code) := by
  refine always_bind h.trans ?_ (fun token => ?_)
  · cases provider with
    | dummy settings => exact always_throw h.refl _
    | oauth2Gateway => exact always_throw h.refl _
    | keycloak certCacheTtl => exact always_catching (h.calling _)
  · refine always_bind h.trans (always_query h.refl _) (fun session => ?_)
    refine always_bind h.trans (h.requiredToken _ _) (fun accessToken => ?_)
    refine always_bind h.trans (always_execute (fun w => h.session w _)) (fun _ => ?_)
    refine always_bind h.trans (h.requiredToken _ _) (fun refreshToken => ?_)
    exact always_execute (fun w => h.session w _)

/-- What `GET /auth/logout` does once it has its user. -/
theorem logoutOf_keeps (h : Allows provider environment R) (user : User) :
    Always R (do
      let session ← KeycloakAuthProvider.requestSession
      execute (fun w : World Key =>
        { w with session := some { accessToken := none, refreshToken := none } })
      provider.authProvider.logout environment user session.refreshToken) := by
  refine always_bind h.trans (always_query h.refl _) (fun session => ?_)
  exact always_bind h.trans (always_execute (fun w => h.session w _))
    (fun _ => logout_keeps h user _)

end Allows

end SyncMaster
