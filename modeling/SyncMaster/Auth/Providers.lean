import SyncMaster.Server.Api

/-!
# Authentication

Who is calling. Between an HTTP request and the handlers stands `get_user`: it finds an
access token, in a header or in the session that comes with a cookie, and asks the
provider whose token it is. There are three providers. `DummyAuthProvider` signs its
own tokens, which hold the identifier of a user. `OAuth2GatewayProvider` has the server
of the organisation look at the token. `KeycloakAuthProvider` decodes it with the
certificates of that server, which it keeps for a while, and when that fails it asks
for new tokens and puts them in the session. The last two create the user they find
named in the token.

What the libraries for these tokens do is a parameter, in each request anew, because
the servers behind them may answer differently each time.

## Main definitions

* `Service`, `World`: What the application keeps, and the session of a request.
* `AuthFailure`: What ends a request before its handler, or in it.
* `Jwt`, `Keycloak`, `Environment`: The answers of the libraries, and the clocks.
* `AuthProvider`: The interface of the providers.
* `dummyAuthProvider`, `oauth2GatewayProvider`, `keycloakAuthProvider`: The providers.
* `Http.getUser`: The dependency `get_user`.
* `HttpEvent`, `Service.step`: The routes, as steps of the application.
-/

namespace SyncMaster

open Program

/-! ## The application -/

/-- The keys of `request.session` that the application uses. -/
structure Session where
  accessToken : Option String
  refreshToken : Option String
  deriving DecidableEq, Repr

/-- What the application keeps between requests: its database, and the certificates
    of `KeycloakAuthProvider` with the time at which they expire. -/
structure Service (Key : Type) where
  db : Database
  key : Option Key
  keyExpiration : Time

/-- The application in a request. Without a middleware there is no session. -/
structure World (Key : Type) extends Service Key where
  session : Option Session

/-- What the libraries raise. -/
inductive LibraryError where
  | pyJWTError
  | keycloakOperationError
  | jwException
  | other
  deriving DecidableEq, Repr

/-- What is raised instead of a response. -/
inductive AuthFailure where
  | error (e : Error)
  | authorizationError (message : String)
  | redirectError (redirectUrl : String)
  | logoutError (details : String)
  | notImplementedError (message : String)
  | requestValidationError
  | assertionError
  | keyError (key : String)
  | library (e : LibraryError)
  deriving DecidableEq, Repr

/-- The tokens of an answer, each with `none` for a key that is missing. -/
structure Tokens where
  accessToken : Option String
  refreshToken : Option String

/-- `AuthTokenSchema`. -/
structure AuthTokenSchema where
  accessToken : String
  tokenType : String
  expiresAt : Time

/-- `jwt.encode` and `jwt.decode`, the latter with the reading of its clock. -/
structure Jwt where
  encode : Dict → String → String → String
  decode : Time → String → String → List String → Except LibraryError Dict

/-- The answers of `KeycloakOpenID`, with the certificates made into a key set. -/
structure Keycloak (Key : Type) where
  certs : Except LibraryError Key
  decodeToken : String → Key → Except LibraryError Dict
  refreshToken : String → Except LibraryError Tokens
  introspect : String → Except LibraryError Dict
  token : String → Except LibraryError Tokens
  authUrl : Except LibraryError String
  logout : String → Except LibraryError Unit

/-- What a request finds outside: two clocks and the server of the organisation. The
    monotonic clock is read again when the certificates are there. -/
structure Environment (Key : Type) where
  now : Time
  monotonic : Time
  fetchedAt : Time
  keycloak : Keycloak Key

variable {Key : Type}

/-- Run a program on the database. -/
def onDatabase {α : Type} (x : Db α) : Program (World Key) AuthFailure α :=
  mapError .error (focus (fun w : World Key => w.db) (fun w db => { w with db := db }) x)

/-- The answer of a library. -/
def calling {α : Type} (answer : Except LibraryError α) : Program (World Key) AuthFailure α :=
  match answer with
  | .ok a => return a
  | .error e => throw (.library e)

/-- `tokens[key]`. -/
def requiredToken (key : String) (value : Option String) :
    Program (World Key) AuthFailure String :=
  match value with
  | some token => return token
  | none => throw (.keyError key)

/-- The truth value of what a JSON document holds. -/
def Json.truthy : Json → Bool
  | .null => false
  | .bool b => b
  | .num n => n != 0
  | .decimal mantissa _ => mantissa != 0
  | .str s => s != ""
  | .arr items => !items.isEmpty
  | .obj fields => !fields.isEmpty

/-- Whose token it is, as the token says. -/
inductive Identity where
  | id (userId : Id)
  | name (username : String)
  deriving DecidableEq, Repr

/-- The user that the token is about. A name that is not in the database is put there. -/
def Identity.read : Identity → Db User
  | .id userId => UserRepository.readById userId
  | .name username => login username

/-- `preferred_username`. A value that is no string cannot be looked for in the column. -/
def loginOf (tokenInfo : Dict) : Program (World Key) AuthFailure Identity :=
  match tokenInfo.lookup "preferred_username" with
  | some (.str username) =>
      if username = "" then throw (.authorizationError "Invalid token")
      else return .name username
  | some value =>
      if value.truthy then throw (.library .other)
      else throw (.authorizationError "Invalid token")
  | none => throw (.authorizationError "Invalid token")

/-- The providers. What stands before the lookup of the user in `get_current_user` is
    `identify`. -/
structure AuthProvider (Key : Type) where
  identify : Environment Key → Option String → Program (World Key) AuthFailure Identity
  getTokenPasswordGrant : Environment Key → Option String → Option String →
    Program (World Key) AuthFailure AuthTokenSchema
  getTokenAuthorizationCodeGrant : Environment Key → String → Program (World Key) AuthFailure Tokens
  logout : Environment Key → User → Option String → Program (World Key) AuthFailure Unit

/-- `get_current_user`. -/
def AuthProvider.getCurrentUser (provider : AuthProvider Key) (environment : Environment Key)
    (accessToken : Option String) : Program (World Key) AuthFailure User := do
  let identity ← provider.identify environment accessToken
  onDatabase identity.read

/-! ## The provider of tokens of its own -/

/-- `JWTSettings`, with the library that they are for, and `int` and `repr`. -/
structure JWTSettings where
  jwt : Jwt
  int : Json → Option Int
  repr : String → String
  secretKey : String
  securityAlgorithm : String
  expireSeconds : Int

namespace DummyAuthProvider

variable (settings : JWTSettings)

/-- `decode_jwt`, the exceptions of the library translated. -/
def decodeJwt (now : Time) (token : String) : Program (World Key) AuthFailure Dict :=
  match settings.jwt.decode now token settings.secretKey [settings.securityAlgorithm] with
  | .ok result =>
      if (result.lookup "exp").isNone then throw (.authorizationError "Invalid token")
      else return result
  | .error .pyJWTError => throw (.authorizationError "Invalid token")
  | .error e => throw (.library e)

/-- `_get_user_id_from_token`. -/
def getUserIdFromToken (now : Time) (token : String) : Program (World Key) AuthFailure Id := do
  let payload ← decodeJwt settings now token
  match (payload.lookup "user_id").bind settings.int with
  | some userId => return userId
  | none => throw (.authorizationError "Invalid token")

/-- The payload of a token. A time in seconds has six decimals. -/
def payload (userId : Id) (expiresAt : Time) : Dict :=
  [("user_id", .num userId), ("exp", .decimal expiresAt (-6))]

/-- `_generate_access_token`, as it answers the request. -/
def generateAccessToken (now : Time) (userId : Id) : AuthTokenSchema :=
  let expiresAt := now + 1000000 * settings.expireSeconds
  { accessToken := settings.jwt.encode (payload userId expiresAt) settings.secretKey
      settings.securityAlgorithm
    tokenType := "bearer"
    expiresAt := expiresAt }

def identify (environment : Environment Key) (accessToken : Option String) :
    Program (World Key) AuthFailure Identity := do
  match accessToken.filter (fun token => token != "") with
  | none => throw (.authorizationError "Missing auth credentials")
  | some token => do
      let userId ← getUserIdFromToken settings environment.now token
      return .id userId

/-- Any password does. -/
def getTokenPasswordGrant (environment : Environment Key) (username password : Option String) :
    Program (World Key) AuthFailure AuthTokenSchema := do
  match username.filter (fun s => s != ""), password.filter (fun s => s != "") with
  | some username, some _ => do
      let user ← onDatabase (login username)
      raiseIf (user.isActive = false)
        (.authorizationError ("User " ++ settings.repr user.username ++ " is disabled"))
      return generateAccessToken settings environment.now user.id
  | _, _ => throw (.authorizationError "Missing auth credentials")

end DummyAuthProvider

def dummyAuthProvider (settings : JWTSettings) : AuthProvider Key where
  identify := DummyAuthProvider.identify settings
  getTokenPasswordGrant := DummyAuthProvider.getTokenPasswordGrant settings
  getTokenAuthorizationCodeGrant := fun _ _ => throw (.notImplementedError
    "Authorization code grant is not supported by DummyAuthProvider.")
  logout := fun _ _ _ => throw (.notImplementedError
    "Logout is not supported by DummyAuthProvider.")

/-! ## The provider behind a gateway -/

def OAuth2GatewayProvider.identify (environment : Environment Key) (accessToken : Option String) :
    Program (World Key) AuthFailure Identity := do
  match accessToken.filter (fun token => token != "") with
  | none => throw (.authorizationError "Missing auth credentials")
  | some token =>
      match environment.keycloak.introspect token with
      | .error .keycloakOperationError => throw (.authorizationError "Invalid token payload")
      | .error e => throw (.library e)
      | .ok tokenInfo =>
          match tokenInfo.lookup "active" with
          | none => throw (.keyError "active")
          | some (.bool false) => throw (.authorizationError "Token is not active")
          | some _ => loginOf tokenInfo

def oauth2GatewayProvider : AuthProvider Key where
  identify := OAuth2GatewayProvider.identify
  getTokenPasswordGrant := fun _ _ _ => throw (.notImplementedError
    "Password grant is not supported by OAuth2GatewayProvider.")
  getTokenAuthorizationCodeGrant := fun _ _ => throw (.notImplementedError
    "Authorization code grant is not supported by OAuth2GatewayProvider.")
  logout := fun _ _ _ => throw (.notImplementedError
    "Logout is not supported by OAuth2GatewayProvider.")

/-! ## The provider with sessions -/

namespace KeycloakAuthProvider

/-- `except (KeycloakOperationError, JWException)`. -/
def caught : AuthFailure → Bool
  | .library .keycloakOperationError | .library .jwException => true
  | _ => false

/-- What `redirect_to_auth` raises. -/
def redirectToAuth (environment : Environment Key) : AuthFailure :=
  match environment.keycloak.authUrl with
  | .ok url => .redirectError url
  | .error e => .library e

/-- The certificates of the server, which are kept as long as `certCacheTtl` from then on. -/
def fetchKey (certCacheTtl : Time) (environment : Environment Key) :
    Program (World Key) AuthFailure Key := do
  let key ← calling environment.keycloak.certs
  execute (fun w : World Key =>
    { w with key := some key, keyExpiration := environment.fetchedAt + certCacheTtl })
  return key

/-- `_get_key`. -/
def getKey (certCacheTtl : Time) (environment : Environment Key) :
    Program (World Key) AuthFailure Key := do
  let cached ← query (fun w : World Key => .ok
    (if environment.monotonic < w.keyExpiration then w.key else none))
  match cached with
  | some key => return key
  | none => fetchKey certCacheTtl environment

/-- The token is decoded with the certificates. -/
def decodeToken (certCacheTtl : Time) (environment : Environment Key) (token : String) :
    Program (World Key) AuthFailure Dict := do
  let key ← getKey certCacheTtl environment
  calling (environment.keycloak.decodeToken token key)

/-- `request.session`. -/
def requestSession : Program (World Key) AuthFailure Session :=
  query (fun w => match w.session with
    | some session => .ok session
    | none => .error .assertionError)

/-- New tokens for the session, and what they say. -/
def refresh (certCacheTtl : Time) (environment : Environment Key) (refreshToken : String) :
    Program (World Key) AuthFailure Dict := do
  let newTokens ← calling (environment.keycloak.refreshToken refreshToken)
  let newAccessToken ← requiredToken "access_token" newTokens.accessToken
  let newRefreshToken ← requiredToken "refresh_token" newTokens.refreshToken
  execute (fun w : World Key => { w with
    session := some { accessToken := some newAccessToken, refreshToken := some newRefreshToken } })
  decodeToken certCacheTtl environment newAccessToken

/-- What the token says, or nothing. -/
def firstAttempt (certCacheTtl : Time) (environment : Environment Key) (token : String) :
    Program (World Key) AuthFailure Dict :=
  recovering (fun e => if caught e then some [] else none)
    (decodeToken certCacheTtl environment token)

/-- If the token says nothing, another one is asked for, or the user is sent to log in. -/
def secondAttempt (certCacheTtl : Time) (environment : Environment Key) (session : Session)
    (tokenInfo : Dict) : Program (World Key) AuthFailure Dict :=
  match session.refreshToken.filter (fun token => token != "") with
  | some refreshToken =>
      if tokenInfo.isEmpty then
        catching (fun e => if caught e then redirectToAuth environment else e)
          (refresh certCacheTtl environment refreshToken)
      else return tokenInfo
  | none => return tokenInfo

def identify (certCacheTtl : Time) (environment : Environment Key) (accessToken : Option String) :
    Program (World Key) AuthFailure Identity := do
  match accessToken.filter (fun token => token != "") with
  | none => throw (redirectToAuth environment)
  | some token => do
      let session ← requestSession
      let decoded ← firstAttempt certCacheTtl environment token
      let tokenInfo ← secondAttempt certCacheTtl environment session decoded
      raiseIf (tokenInfo.isEmpty = true) (.authorizationError "Invalid token payload")
      loginOf tokenInfo

def logout (environment : Environment Key) (user : User) (refreshToken : Option String) :
    Program (World Key) AuthFailure Unit :=
  match refreshToken.filter (fun token => token != "") with
  | none => return ()
  | some token =>
      catching (fun e => if e = .library .keycloakOperationError
        then .logoutError ("Can't logout user: " ++ user.username) else e)
        (calling (environment.keycloak.logout token))

end KeycloakAuthProvider

def keycloakAuthProvider (certCacheTtl : Time) : AuthProvider Key where
  identify := KeycloakAuthProvider.identify certCacheTtl
  getTokenPasswordGrant := fun _ _ _ => throw (.notImplementedError
    "Password grant is not supported by KeycloakAuthProvider.")
  getTokenAuthorizationCodeGrant := fun environment code =>
    catching (fun e => if e = .library .keycloakOperationError
      then .authorizationError "Failed to get token" else e)
      (calling (environment.keycloak.token code))
  logout := KeycloakAuthProvider.logout

/-! ## Requests -/

/-- The tokens in the headers of a request. -/
structure Credentials where
  bearerToken : Option String
  oauthToken : Option String

namespace Http

variable (provider : AuthProvider Key)

/-- The access token: that of the header, or that of the session. -/
def accessToken (credentials : Credentials) (session : Option Session) : Option String :=
  match credentials.bearerToken with
  | some token => some token
  | none =>
      match credentials.oauthToken.filter (fun token => token != "") with
      | some token => some token
      | none => session.bind (fun session => session.accessToken)

/-- The dependency `get_user`. -/
def getUser (environment : Environment Key) (credentials : Credentials) :
    Program (World Key) AuthFailure User := do
  let session ← query (fun w : World Key => .ok w.session)
  let user ← provider.getCurrentUser environment (accessToken credentials session)
  raiseIf (user.isActive = false) (.error .actionNotAllowedError)
  return user

/-- `POST /auth/token`. -/
def token (environment : Environment Key) (username password : Option String) :
    Program (World Key) AuthFailure AuthTokenSchema :=
  provider.getTokenPasswordGrant environment username password

/-- `GET /auth/callback`. -/
def authCallback (environment : Environment Key) (code : String) :
    Program (World Key) AuthFailure Unit := do
  let token ← provider.getTokenAuthorizationCodeGrant environment code
  let session ← KeycloakAuthProvider.requestSession
  let accessToken ← requiredToken "access_token" token.accessToken
  execute (fun w : World Key =>
    { w with session := some { session with accessToken := some accessToken } })
  let refreshToken ← requiredToken "refresh_token" token.refreshToken
  execute (fun w : World Key => { w with
    session := some { accessToken := some accessToken, refreshToken := some refreshToken } })

/-- `GET /auth/logout`. -/
def logout (environment : Environment Key) (credentials : Credentials) :
    Program (World Key) AuthFailure Unit := do
  let currentUser ← getUser provider environment credentials
  let session ← KeycloakAuthProvider.requestSession
  execute (fun w : World Key =>
    { w with session := some { accessToken := none, refreshToken := none } })
  provider.logout environment currentUser session.refreshToken

/-- Any other route, with a body that its schema refuses or a request that is handled. A body
    that is no JSON is refused before the user is looked for. -/
def api (environment : Environment Key) (credentials : Credentials) (now : Time) (sent : SendTask)
    (request : Option Request) : Program (World Key) AuthFailure Response := do
  let currentUser ← getUser provider environment credentials
  match request with
  | none => throw .requestValidationError
  | some request => onDatabase (handle now sent currentUser request)

end Http

/-! ## The application as a transition system -/

/-- The processes beside the server. -/
def Event.Outside : Event → Prop
  | .request _ _ _ _ | .login _ => False
  | _ => True

/-- What happens to the application. A request comes with a session, or none. -/
inductive HttpEvent (Key : Type) where
  | token (environment : Environment Key) (username password : Option String)
  | callback (environment : Environment Key) (session : Option Session) (code : String)
  | logout (environment : Environment Key) (session : Option Session) (credentials : Credentials)
  | api (environment : Environment Key) (session : Option Session) (credentials : Credentials)
      (now : Time) (sent : SendTask) (request : Option Request)
  | outside (e : { e : Event // e.Outside })

/-- What an event does, and to which world. -/
def Service.step (provider : AuthProvider Key) (s : Service Key) : HttpEvent Key → Service Key
  | .token environment username password =>
      (after (Http.token provider environment username password)
        { s with session := none }).toService
  | .callback environment session code =>
      (after (Http.authCallback provider environment code) { s with session := session }).toService
  | .logout environment session credentials =>
      (after (Http.logout provider environment credentials)
        { s with session := session }).toService
  | .api environment session credentials now sent request =>
      (after (Http.api provider environment credentials now sent request)
        { s with session := session }).toService
  | .outside e => { s with db := s.db.step e.val }

end SyncMaster
