import SyncMaster.Auth.Refinement

/-!
# Certificates that are Kept

`KeycloakAuthProvider` does not ask for the certificates of the server at every request:
`_get_key` keeps what it was given for the time to live of the settings. So when the
server withdraws a certificate, tokens signed with it go on being accepted for a while.
How long is bounded, whatever requests come in between: what is kept was given by the
server to one request, and is not looked at once the time to live has passed since that
request had it.

A request waits for the certificates, and others may be done before it goes on. They may
have fetched newer ones, and it writes over them what it was given. Then the time to live
begins when it writes, so the time that a request waits is part of the bound.

The clock of the requests is not assumed to go forward. A bound on each reading is all
that is needed.

## Main definitions

* `Occurrence`, `Service.occur`: Events, and requests that others have overtaken.
* `Occurrence.environment?`: What an event finds outside.
* `Caches`: The certificates that a request may leave.
* `Dated`: What is kept was given at one time.

## Theorems

* `allows_caches`: Finding a user keeps certificates, and does no more to them.
* `step_caches`, `occur_caches`: One event.
* `dated_after`: Whole histories.
* `withdrawn_certificates`: What the server has withdrawn, after the time to live.
-/

namespace SyncMaster

open Program

variable {Key : Type}

/-- The environment of a request. -/
def HttpEvent.environment? : HttpEvent Key → Option (Environment Key)
  | .token environment _ _ | .callback environment _ _ | .logout environment _ _
  | .api environment _ _ _ _ _ => some environment
  | .outside _ => none

/-- The certificates are the old ones, or those that the server gives. -/
def Caches (certCacheTtl : Time) (environment : Environment Key) (w w' : Service Key) : Prop :=
  (w'.key = w.key ∧ w'.keyExpiration = w.keyExpiration) ∨
    ∃ key, environment.keycloak.certs = .ok key ∧ w'.key = some key ∧
      w'.keyExpiration = environment.fetchedAt + certCacheTtl

/-- The same, in a request. -/
abbrev CachesIn (certCacheTtl : Time) (environment : Environment Key) (w w' : World Key) : Prop :=
  Caches certCacheTtl environment w.toService w'.toService

section Steps

variable {certCacheTtl : Time} {environment : Environment Key}

theorem caches_refl (w : Service Key) : Caches certCacheTtl environment w w :=
  Or.inl ⟨rfl, rfl⟩

theorem caches_trans (a b c : Service Key) (hab : Caches certCacheTtl environment a b)
    (hbc : Caches certCacheTtl environment b c) : Caches certCacheTtl environment a c := by
  rcases hbc with ⟨hkey, hexpiration⟩ | hgiven
  · unfold Caches
    rw [hkey, hexpiration]
    exact hab
  · exact Or.inr hgiven

theorem caches_fetched (w : World Key) : Caches certCacheTtl environment w.toService
    (w.fetched certCacheTtl environment).toService := by
  unfold World.fetched
  split
  · exact caches_refl _
  · split
    · rename_i key hcerts
      exact Or.inr ⟨key, hcerts, rfl, rfl⟩
    · exact caches_refl _

theorem allows_caches (certCacheTtl : Time) (environment : Environment Key) :
    Allows (.keycloak certCacheTtl) environment (CachesIn certCacheTtl environment) where
  refl := fun w => caches_refl w.toService
  trans := fun a b c => caches_trans a.toService b.toService c.toService
  session := fun _ _ => caches_refl _
  fetched := by
    intro w ttl hprovider
    cases hprovider
    exact caches_fetched w

/-- A program on the database leaves the certificates. -/
theorem caches_onDatabase {α : Type} (x : Db α) :
    Always (CachesIn certCacheTtl environment) (onDatabase x) := by
  intro w
  rcases returns_or_raises x w.db with ⟨a, db', h⟩ | ⟨e, db', h⟩
  · rw [after_of_returns (returns_onDatabase.mpr ⟨db', h, rfl⟩)]
    exact Or.inl ⟨rfl, rfl⟩
  · rw [after_of_raises (raises_onDatabase.mpr ⟨e, db', h, rfl, rfl⟩)]
    exact Or.inl ⟨rfl, rfl⟩

theorem caches_getUser (credentials : Credentials) :
    Always (CachesIn certCacheTtl environment)
      (Http.getUser (keycloakAuthProvider certCacheTtl) environment credentials) := by
  have hallows := allows_caches certCacheTtl environment
  refine always_bind hallows.trans (always_query hallows.refl _) (fun session => ?_)
  refine always_bind hallows.trans ?_ (fun user => ?_)
  · exact always_bind hallows.trans (identify_keeps hallows _) (fun _ => caches_onDatabase _)
  · exact always_bind hallows.trans (always_query hallows.refl _)
      (fun _ => always_pure hallows.refl _)

/-- A request leaves the certificates, or those that the server gives it. -/
theorem step_caches {e : HttpEvent Key} (he : e.environment? = some environment)
    (s : Service Key) :
    Caches certCacheTtl environment s (s.step (keycloakAuthProvider certCacheTtl) e) := by
  have hallows := allows_caches certCacheTtl environment
  cases e with
  | token _ username password => exact caches_refl s
  | callback _ session code =>
      cases he
      exact authCallback_keeps hallows code { s with session := session }
  | logout _ session credentials =>
      cases he
      exact always_bind hallows.trans (caches_getUser credentials) (logoutOf_keeps hallows)
        { s with session := session }
  | api _ session credentials now sent request =>
      cases he
      refine always_bind hallows.trans (caches_getUser credentials) (fun user => ?_)
        { s with session := session }
      cases request with
      | none => exact always_throw hallows.refl _
      | some request => exact caches_onDatabase _
  | outside e => cases he

/-- The other events leave them alone. -/
theorem step_key_of_outside {e : HttpEvent Key} (he : e.environment? = none)
    (provider : AuthProvider Key) (s : Service Key) :
    (s.step provider e).key = s.key ∧ (s.step provider e).keyExpiration = s.keyExpiration := by
  cases e with
  | outside e => exact ⟨rfl, rfl⟩
  | token | callback | logout | api => cases he

end Steps

/-! ## Requests that overlap -/

/-- An event as a whole, or what `_get_key` writes in a request that others have overtaken
    while it waited. The rest of this request is an event of its own. -/
inductive Occurrence (Key : Type) where
  | whole (e : HttpEvent Key)
  | overtaken (environment : Environment Key)

def Occurrence.environment? : Occurrence Key → Option (Environment Key)
  | .whole e => e.environment?
  | .overtaken environment => some environment

def Service.occur (certCacheTtl : Time) (s : Service Key) : Occurrence Key → Service Key
  | .whole e => s.step (keycloakAuthProvider certCacheTtl) e
  | .overtaken environment =>
      (after (KeycloakAuthProvider.fetchKey certCacheTtl environment)
        { s with session := none }).toService

/-- What happens leaves the certificates, or those that the server gives. -/
theorem occur_caches {certCacheTtl : Time} {environment : Environment Key} {o : Occurrence Key}
    (ho : o.environment? = some environment) (s : Service Key) :
    Caches certCacheTtl environment s (s.occur certCacheTtl o) := by
  cases o with
  | whole e => exact step_caches ho s
  | overtaken _ =>
      cases ho
      change Caches _ _ s (after (KeycloakAuthProvider.fetchKey _ _) _).toService
      unfold KeycloakAuthProvider.fetchKey
      cases hcerts : environment.keycloak.certs with
      | ok key => exact Or.inr ⟨key, hcerts, rfl, rfl⟩
      | error e => exact caches_refl s

/-! ## Histories -/

/-- The application after a history. -/
def afterOccurrences (certCacheTtl keyExpiration : Time) (history : List (Occurrence Key)) :
    Service Key :=
  history.foldl (Service.occur certCacheTtl) (Service.initial keyExpiration)

/-- What is kept was given by the server in some request of the history, and expires when the
    time to live has passed since the request had it. -/
def Dated (certCacheTtl : Time) (history : List (Occurrence Key)) (s : Service Key) : Prop :=
  ∀ key, s.key = some key → ∃ o ∈ history, ∃ environment, o.environment? = some environment ∧
    environment.keycloak.certs = .ok key ∧ s.keyExpiration = environment.fetchedAt + certCacheTtl

theorem dated_after (certCacheTtl keyExpiration : Time) (history : List (Occurrence Key)) :
    Dated certCacheTtl history (afterOccurrences certCacheTtl keyExpiration history) := by
  induction history using List.reverseRecOn with
  | nil =>
      intro key hkey
      cases hkey
  | append_singleton history last ih =>
      have hsnoc : afterOccurrences certCacheTtl keyExpiration (history ++ [last]) =
          (afterOccurrences certCacheTtl keyExpiration history).occur certCacheTtl last :=
        List.foldl_append
      intro key hkey
      rw [hsnoc] at hkey ⊢
      have hold : ∀ o ∈ history, o ∈ history ++ [last] := fun o ho => List.mem_append_left _ ho
      cases hlast : last.environment? with
      | none =>
          cases last with
          | overtaken _ => cases hlast
          | whole e =>
              have hsame := step_key_of_outside hlast (keycloakAuthProvider certCacheTtl)
                (afterOccurrences certCacheTtl keyExpiration history)
              rw [Service.occur, hsame.1] at hkey
              rw [Service.occur, hsame.2]
              rcases ih key hkey with ⟨o, ho, hgiven⟩
              exact ⟨o, hold o ho, hgiven⟩
      | some environment =>
          rcases occur_caches hlast (afterOccurrences certCacheTtl keyExpiration history) with
            ⟨hsame, hexpiration⟩ | ⟨key', hcerts, hkey', hexpiration⟩
          · rw [hsame] at hkey
            rw [hexpiration]
            rcases ih key hkey with ⟨o, ho, hgiven⟩
            exact ⟨o, hold o ho, hgiven⟩
          · rw [hkey', Option.some.injEq] at hkey
            refine ⟨last, List.mem_append_right _ (List.mem_singleton_self _), environment, hlast,
              ?_, hexpiration⟩
            rw [hcerts, hkey]

/-- The certificates at hand are given in this request, or were not long ago. -/
theorem certificates_dated {certCacheTtl : Time} {history : List (Occurrence Key)}
    {s : Service Key} (hs : Dated certCacheTtl history s) {environment : Environment Key}
    {key : Key} (h : s.certificates environment = .ok key) :
    environment.keycloak.certs = .ok key ∨
      ∃ o ∈ history, ∃ earlier, o.environment? = some earlier ∧
        earlier.keycloak.certs = .ok key ∧
        environment.monotonic < earlier.fetchedAt + certCacheTtl := by
  unfold Service.certificates at h
  split at h
  · rename_i cached hcached
    rw [Except.ok.inj h] at hcached
    split at hcached
    · rename_i hfresh
      rcases hs key hcached with ⟨o, ho, earlier, henvironment, hcerts, hexpiration⟩
      rw [hexpiration] at hfresh
      exact Or.inr ⟨o, ho, earlier, henvironment, hcerts, hfresh⟩
    · cases hcached
  · exact Or.inl h

/-- Whoever is found was found by certificates at hand. -/
theorem decoded_of_vouches {certCacheTtl : Time} {s : Service Key} {environment : Environment Key}
    {session : Option Session} {token : String} {identity : Identity}
    (h : Vouches s environment session (.keycloak certCacheTtl) token identity) :
    ∃ token' tokenInfo username, identity = .name username ∧ NamesUser tokenInfo username ∧
      s.decoded environment token' = .ok tokenInfo := by
  cases h with
  | decoded _ hdecoded hnames => exact ⟨_, _, _, rfl, hnames, hdecoded⟩
  | refreshed _ _ _ _ _ hdecoded hnames => exact ⟨_, _, _, rfl, hnames, hdecoded⟩

theorem returns_getUserHttp (provider : Provider Key) {environment : Environment Key}
    {credentials : Credentials} {user : User} {w w' : World Key}
    (h : Returns (Http.getUser provider.authProvider environment credentials) w user w') :
    ∃ identity db db', VouchedFor provider w.toService environment w.session credentials identity ∧
      Returns identity.read db user db' := by
  rcases returns_bind.mp h with ⟨session, _, hsession, h⟩
  rcases returns_query.mp hsession with ⟨hsession, rfl⟩
  cases hsession
  rcases returns_bind.mp h with ⟨found, w₁, hcurrent, h⟩
  rcases returns_bind.mp h with ⟨_, _, _, h⟩
  rw [(returns_pure.mp h).1] at hcurrent
  rcases returns_bind.mp hcurrent with ⟨identity, w₂, hidentity, hread⟩
  rcases returns_onDatabase.mp hread with ⟨db', hread, _⟩
  exact ⟨identity, w₂.db, db', vouchedFor_iff.mpr ⟨w₂, hidentity⟩, hread⟩

/-- Say that from some time on the server gives certificates of some kind only, none that it
    has withdrawn, and that no request waits for them longer than the duration. Then once the
    duration and the time to live have passed since, a token is read with certificates of this
    kind, whatever the requests before have left. -/
theorem withdrawn_certificates {P : Key → Prop} {certCacheTtl keyExpiration : Time}
    {withdrawn duration : Time} {history : List (Occurrence Key)} {environment : Environment Key}
    {session : Option Session} {credentials : Credentials} {user : User} {w' : World Key}
    (hhistory : ∀ o ∈ history, ∀ earlier, o.environment? = some earlier →
      withdrawn ≤ earlier.monotonic → ∀ key, earlier.keycloak.certs = .ok key → P key)
    (hduration : ∀ o ∈ history, ∀ earlier, o.environment? = some earlier →
      earlier.fetchedAt ≤ earlier.monotonic + duration)
    (hnow : ∀ key, environment.keycloak.certs = .ok key → P key)
    (hlate : withdrawn + duration + certCacheTtl ≤ environment.monotonic)
    (huser : Returns (Http.getUser (keycloakAuthProvider certCacheTtl) environment credentials)
      { afterOccurrences certCacheTtl keyExpiration history with session := session } user w') :
    ∃ key token tokenInfo, P key ∧ environment.keycloak.decodeToken token key = .ok tokenInfo ∧
      NamesUser tokenInfo user.username := by
  rcases returns_getUserHttp (.keycloak certCacheTtl) huser with
    ⟨identity, db, db', ⟨_, _, hvouches⟩, hread⟩
  rcases decoded_of_vouches hvouches with ⟨token, tokenInfo, username, rfl, hnames, hdecoded⟩
  have hfind := List.find?_some (returns_login hread)
  rw [beq_iff_eq.mp hfind]
  unfold Service.decoded at hdecoded
  split at hdecoded
  · rename_i key hkey
    refine ⟨key, token, tokenInfo, ?_, hdecoded, hnames⟩
    rcases certificates_dated (dated_after certCacheTtl keyExpiration history) hkey with
      hcerts | ⟨o, ho, earlier, henvironment, hcerts, hfresh⟩
    · exact hnow key hcerts
    -- They were not kept for too long, so their request began after the withdrawal.
    · have hwaited := hduration o ho earlier henvironment
      have hfetched : withdrawn + duration < earlier.fetchedAt :=
        lt_of_add_lt_add_right (lt_of_le_of_lt hlate hfresh)
      have hlater : withdrawn ≤ earlier.monotonic :=
        le_of_lt (lt_of_add_lt_add_right (lt_of_lt_of_le hfetched hwaited))
      exact hhistory o ho earlier henvironment hlater key hcerts
  · cases hdecoded

/-- A server with the given certificates. The last part of a token is the certificate that it
    is signed with. -/
def signingKeycloak (keys : List String) : Keycloak (List String) where
  certs := .ok keys
  decodeToken := fun token keys =>
    match keys.find? (fun key => token == "owner." ++ key) with
    | some _ => .ok [("preferred_username", .str "owner")]
    | none => .error .jwException
  refreshToken := fun _ => .error .keycloakOperationError
  introspect := fun _ => .error .other
  token := fun _ => .error .keycloakOperationError
  authUrl := .ok "/login"
  logout := fun _ => .ok ()

/-- A request when both certificates are given. It waits for them, and others overtake it. -/
def beforeRotation : List (Occurrence (List String)) :=
  [.whole (.api ⟨4, 4, 4, signingKeycloak ["second"]⟩ (some ⟨some "owner.second", none⟩)
      ⟨none, none⟩ 4 .returned none),
    .overtaken ⟨0, 0, 5, signingKeycloak ["first", "second"]⟩]

/-- Another one, when the first of them has been withdrawn for longer than they are kept and
    waited for. -/
theorem withdrawn_certificates_rotated :
    ∃ key token tokenInfo, "first" ∉ key ∧
      (signingKeycloak ["second"]).decodeToken token key = .ok tokenInfo ∧
        NamesUser tokenInfo "owner" := by
  have hhistory : ∀ o ∈ beforeRotation, ∀ earlier, o.environment? = some earlier →
      3 ≤ earlier.monotonic → ∀ key, earlier.keycloak.certs = .ok key → "first" ∉ key := by
    refine List.forall_mem_cons.mpr ⟨?_, List.forall_mem_singleton.mpr ?_⟩
    · intro earlier hearlier _ key hkey
      cases hearlier
      cases hkey
      decide
    · intro earlier hearlier hlate
      cases hearlier
      exact absurd hlate (by decide)
  have hduration : ∀ o ∈ beforeRotation, ∀ earlier, o.environment? = some earlier →
      earlier.fetchedAt ≤ earlier.monotonic + 5 := by
    refine List.forall_mem_cons.mpr ⟨?_, List.forall_mem_singleton.mpr ?_⟩
    · intro earlier hearlier
      cases hearlier
      decide
    · intro earlier hearlier
      cases hearlier
      decide
  have hnow : ∀ key, (signingKeycloak ["second"]).certs = .ok key → "first" ∉ key := by
    intro key hkey
    cases hkey
    decide
  exact withdrawn_certificates (P := fun key => "first" ∉ key) hhistory hduration hnow
    (show (3 : Time) + 5 + 5 ≤ 13 by decide)
    (show Returns (Http.getUser (keycloakAuthProvider 5) ⟨13, 13, 13, signingKeycloak ["second"]⟩
        ⟨none, none⟩)
      { afterOccurrences 5 0 beforeRotation with
        session := some ⟨some "owner.second", none⟩ } ⟨1, "owner", false, true⟩ _ from rfl)

end SyncMaster
