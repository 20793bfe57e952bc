import ConferenceContact.Auth.SessionOwners
import ConferenceContact.Foundation.Histories
import ConferenceContact.Model.Browsers

/-!
# Browsers and the accounts they are signed in to

Requests of any browsers, their calls interleaved with those of anybody else and any of
them rejected.  The refresh token in the cookies of a browser, and every access token
that a page in it is handed, is of an account that was signed in to from this browser.
-/

namespace ConferenceContact

open Process WebService

/-! ## Requests -/

/-- The requests of browsers to the controller, and whatever else happens. -/
inductive WebRequest
  | register (browser : BrowserId) (ipAddress : Option String) (dto : RegisterDto)
  | login (browser : BrowserId) (ipAddress : Option String) (dto : LoginDto)
  | verifyLogin (browser : BrowserId) (ipAddress : Option String) (dto : VerifyLoginDto)
  | refresh (browser : BrowserId) (ipAddress : Option String)
  | logout (browser : BrowserId)
  | logoutAll (browser : BrowserId) (userId : UserId)
  | deleteAccount (browser : BrowserId) (userId : UserId) (password : String)
  /-- A request with tokens from anywhere, of a client that keeps no cookies here. -/
  | account (request : AccountRequest)
  /-- Any other request. -/
  | elsewhere (service : Service Unit) (apart : service.Respects SameRegistry)

/-- The code behind a request. -/
def WebRequest.handle (app : Deployment) : WebRequest → WebService Unit
  | register browser ipAddress dto => exchange browser (AuthController.register app ipAddress dto)
  | login browser ipAddress dto => exchange browser (AuthController.login app ipAddress dto)
  | verifyLogin browser ipAddress dto =>
      exchange browser (AuthController.verifyLogin app ipAddress dto)
  | refresh browser ipAddress => exchange browser (AuthController.refresh app ipAddress)
  | logout browser => exchange browser AuthController.logout
  | logoutAll browser userId => exchange browser fun _ => AuthController.logoutAll app userId
  | deleteAccount browser userId password =>
      exchange browser fun _ => AuthController.deleteAccount app userId password
  | account request => onWorld (request.handle app)
  | elsewhere service _ => onWorld service

/-! ## Signing in -/

/-- A request of the browser has signed in to the account, in calls of its own: a login has
read the account, and then the clock, with its right password; or the answer to a challenge
of the account has found it valid, and its code right. -/
inductive SignsInto
    (app : Deployment)
    (requests : List WebRequest)
    (browser : BrowserId)
    (userId : UserId)
    (made : PastCall Input Web → Prop) : Prop
  | login
      {member : Nat}
      {ipAddress : Option String}
      {dto : LoginDto}
      (requested : requests[member]? = some (.login browser ipAddress dto))
      {input clock : Input}
      {web later : Web}
      (read : made ⟨member, input, web⟩)
      (timed : made ⟨member, clock, later⟩)
      {user : User}
      (passes : PassesPassword app dto clock.now web.world user)
      (named : user.id = userId)
  | verifyLogin
      {member : Nat}
      {ipAddress : Option String}
      {dto : VerifyLoginDto}
      (requested : requests[member]? = some (.verifyLogin browser ipAddress dto))
      {input : Input}
      {web : Web}
      (verified : made ⟨member, input, web⟩)
      {payload : LoginChallengePayload}
      (challenge : dto.challengeToken.payload = .loginChallenge payload)
      (signed : dto.challengeToken ∈ web.world.signed)
      (unexpired : input.now / 1000 < dto.challengeToken.exp)
      {next : Input}
      {found : Web}
      (read : made ⟨member, next, found⟩)
      {user : User}
      (stored : user ∈ found.world.users)
      (challenged : user.id = payload.sub)
      {clock : Input}
      {later : Web}
      (checked : made ⟨member, clock, later⟩)
      (code : ((AuthService.codeValid app user payload dto.code).run clock later.world).1 =
        .ok true)
      (named : user.id = userId)

theorem SignsInto.imp
    {app : Deployment}
    {requests : List WebRequest}
    {browser : BrowserId}
    {userId : UserId}
    {made also : PastCall Input Web → Prop}
    (signsInto : SignsInto app requests browser userId made)
    (kept : ∀ call, made call → also call) : SignsInto app requests browser userId also := by
  cases signsInto with
  | login requested read timed passes named =>
      exact .login requested (kept _ read) (kept _ timed) passes named
  | verifyLogin requested verified challenge signed unexpired read stored challenged checked
      code named =>
      exact .verifyLogin requested (kept _ verified) challenge signed unexpired (kept _ read)
        stored challenged (kept _ checked) code named

/-- A request of the browser has signed in to the account, in calls of the past. -/
abbrev SignedInto
    (app : Deployment)
    (requests : List WebRequest)
    (browser : BrowserId)
    (userId : UserId)
    (past : List (PastCall Input Web)) : Prop :=
  SignsInto app requests browser userId (· ∈ past)

/-- The refresh token stands for an account that the browser was signed in to. -/
def HoldsToken
    (app : Deployment)
    (requests : List WebRequest)
    (browser : BrowserId)
    (token : RawToken)
    (history : History Input Web) : Prop :=
  ∃ userId, history.current.world.sessionRegistry.Owns ⟨token⟩ userId ∧
    SignedInto app requests browser userId history.past

/-- The access token is of an account that the browser was signed in to. -/
def HandedToken
    (app : Deployment)
    (requests : List WebRequest)
    (browser : BrowserId)
    (token : Jwt)
    (past : List (PastCall Input Web)) : Prop :=
  ∃ userId role, token.payload = .access { sub := userId, role } ∧
    SignedInto app requests browser userId past

/-- The tokens of every browser are of accounts that it was signed in to. -/
structure OwnTokens
    (app : Deployment)
    (requests : List WebRequest)
    (history : History Input Web) : Prop where
  registered : history.current.world.Registered
  cookies : ∀ browser, ∀ cookie ∈ (history.current.jars browser).refreshToken,
    HoldsToken app requests browser cookie.token history
  accessTokens : ∀ entry ∈ history.current.accessTokens,
    HandedToken app requests entry.1 entry.2 history.past

/-- Sessions stay with their owners, and the past is kept. -/
structure WebOnwards (before after : History Input Web) : Prop where
  world : before.current.world.Onwards after.current.world
  past : before.Extends after

instance : IsPreorder (History Input Web) WebOnwards where
  refl history := ⟨Std.Refl.refl history.current.world, Std.Refl.refl history⟩
  trans _ _ _ first second :=
    ⟨IsTrans.trans _ _ _ first.world second.world, IsTrans.trans _ _ _ first.past second.past⟩

section

variable {app : Deployment} {requests : List WebRequest} {browser : BrowserId}
  {member : Nat} {history : History Input Web}

theorem SignedInto.onwards
    {userId : UserId}
    {after : History Input Web}
    (signedIn : SignedInto app requests browser userId history.past)
    (onwards : WebOnwards history after) :
    SignedInto app requests browser userId after.past :=
  signedIn.imp fun _ was => onwards.past.past was

theorem HoldsToken.onwards
    {token : RawToken}
    {after : History Input Web}
    (holds : HoldsToken app requests browser token history)
    (onwards : WebOnwards history after) :
    HoldsToken app requests browser token after :=
  holds.imp fun userId held =>
    ⟨onwards.world.registry.owns _ userId held.1, held.2.onwards onwards⟩

theorem HandedToken.onwards
    {token : Jwt}
    {after : History Input Web}
    (handed : HandedToken app requests browser token history.past)
    (onwards : WebOnwards history after) :
    HandedToken app requests browser token after.past := by
  obtain ⟨userId, role, access, signedIn⟩ := handed
  exact ⟨userId, role, access, signedIn.onwards onwards⟩

/-- The next state, in which no browser has a token but those it had and some others that
are of accounts it was signed in to. -/
theorem ownTokens_advance
    (member : Nat)
    (input : Input)
    {next : Web}
    (registered : next.world.Registered)
    (onwards : history.current.world.Onwards next.world)
    (cookies : ∀ browser, ∀ cookie ∈ (next.jars browser).refreshToken,
      HoldsToken app requests browser cookie.token history)
    (accessTokens : ∀ entry ∈ next.accessTokens,
      HandedToken app requests entry.1 entry.2 history.past) :
    OwnTokens app requests (history.advance member input next) ∧
      WebOnwards history (history.advance member input next) := by
  have moved : WebOnwards history (history.advance member input next) :=
    ⟨onwards, history.extends_advance member input next⟩
  exact ⟨⟨registered, fun browser cookie kept => (cookies browser cookie kept).onwards moved,
    fun entry present => (accessTokens entry present).onwards moved⟩, moved⟩

/-- The tokens are kept by a call of any browser's request or of anybody else's. -/
abbrev KeepsTokens
    (app : Deployment)
    (requests : List WebRequest)
    (member : Nat)
    (service : WebService α)
    (history : History Input Web)
    (post : α → History Input Web → Prop) : Prop :=
  Sustains (OwnTokens app requests) WebOnwards (service.recorded member) history post

/-! ## Calls of the services -/

theorem keepsTokens_onWorld
    {service : Service α}
    {post : α → World → Prop}
    (keeps : KeepsRegistry service history.current.world post) :
    KeepsTokens app requests member (onWorld service) history
      fun value after => post value after.current.world := by
  refine Sustains.recorded_within ?_ ?_ ?_ keeps
  · exact fun _ own => own.registered
  · exact fun _ _ onwards => onwards.world
  · exact fun input _ _ own registered onwards =>
      ownTokens_advance member input registered onwards own.cookies own.accessTokens

theorem keepsTokens_of_same
    {service : Service α}
    (same : service.Respects SameRegistry) :
    KeepsTokens app requests member (onWorld service) history fun _ _ => True :=
  keepsTokens_onWorld (keepsRegistry_of_same same)

theorem keepsTokens_bind
    {service : Service α}
    {next : α → Service β}
    {middle : α → History Input Web → Prop}
    {post : β → History Input Web → Prop}
    (first : KeepsTokens app requests member (onWorld service) history middle)
    (second : ∀ value after, WebOnwards history after → middle value after →
      KeepsTokens app requests member (onWorld (next value)) after post) :
    KeepsTokens app requests member (onWorld (service >>= next)) history post := by
  unfold KeepsTokens onWorld
  rw [within_bind, recorded_bind]
  exact Sustains.bind first second

/-- What is read is so in a state of the past. -/
theorem keepsTokens_query
    {read : Input → World → α}
    (post : α → History Input Web → Prop)
    (holds : ∀ input later, WebOnwards history later → OwnTokens app requests later →
      post (read input later.current.world) (later.advance member input later.current)) :
    KeepsTokens app requests member (onWorld (query read)) history post := by
  unfold KeepsTokens onWorld
  rw [within_query]
  refine Sustains.recorded_query post fun input later moved own => ?_
  obtain ⟨kept, onwards⟩ := ownTokens_advance member input own.registered
    (Std.Refl.refl later.current.world) own.cookies own.accessTokens
  exact ⟨kept, onwards, holds input later moved own⟩

/-- The clock is read in a call of the member. -/
theorem keepsTokens_dateNow :
    KeepsTokens app requests member (onWorld Service.dateNow) history fun now after =>
      ∃ input web, ⟨member, input, web⟩ ∈ after.past ∧ input.now = now := by
  unfold Service.dateNow
  refine keepsTokens_query (fun now after => ∃ input web, ⟨member, input, web⟩ ∈ after.past ∧
    input.now = now) fun input later _ _ => ?_
  exact ⟨input, later.current, List.mem_cons_self, rfl⟩

/-- A service that throws leaves its error to the controller. -/
theorem keepsTokens_outcome
    {service : Service α}
    {post : α → History Input Web → Prop}
    (keeps : KeepsTokens app requests member (onWorld service) history post) :
    KeepsTokens app requests member (outcome service) history
      fun result after => ∀ value, result = .ok value → post value after := by
  unfold KeepsTokens outcome
  rw [recorded_tryCatch, recorded_bind]
  refine Sustains.tryCatch (Sustains.bind keeps fun value after _ holds => ?_) ?_
  · refine Sustains.pure fun other returned => ?_
    cases returned
    exact holds
  · exact fun error after _ => Sustains.pure fun _ returned => by cases returned

/-! ## Passwords and codes -/

/-- The account whose password is accepted from a browser. -/
theorem keepsTokens_checkPassword
    {ipAddress : Option String}
    {dto : LoginDto}
    (requested : requests[member]? = some (.login browser ipAddress dto)) :
    KeepsTokens app requests member (onWorld (AuthService.checkPassword app dto)) history
      fun user after => SignedInto app requests browser user.id after.past := by
  unfold AuthService.checkPassword UsersService.findByEmail
  refine keepsTokens_bind (keepsTokens_query (fun found after => ∃ input web,
    ⟨member, input, web⟩ ∈ after.past ∧ (web.world.users.find? fun other =>
      other.email = UsersService.normalizeEmail app dto.email) = found) ?_) ?_
  · exact fun input later _ _ => ⟨input, later.current, List.mem_cons_self, rfl⟩
  rintro found first - ⟨input, web, read, isFound⟩
  cases found with
  | none => trivial
  | some user =>
      refine keepsTokens_bind keepsTokens_dateNow fun now second onwards clocked => ?_
      obtain ⟨clock, later, timed, rfl⟩ := clocked
      dsimp only
      split
      · trivial
      rename_i unlocked
      split
      · trivial
      rename_i active
      split
      · rename_i accepted
        refine keepsTokens_bind (keepsTokens_of_same (sameRegistry_resetFailedLogins _))
          fun _ after further _ => ?_
        have passes : PassesPassword app dto clock.now web.world user :=
          ⟨isFound, Bool.eq_false_iff.mpr unlocked, not_not.mp active, accepted⟩
        exact Sustains.pure (.login requested (further.past.past (onwards.past.past read))
          (further.past.past timed) passes rfl)
      · refine keepsTokens_bind (keepsTokens_of_same (sameRegistry_registerFailedLogin _))
          fun locked _ _ _ => ?_
        refine keepsTokens_bind (keepsTokens_of_same (sameRegistry_record _ _)) fun _ _ _ _ => ?_
        split <;> trivial

/-- What the check of a code returns it returns by itself, with the input and in the state
of a call of the member. -/
theorem keepsTokens_codeValid
    {input : Input}
    {web : Web}
    (made : ⟨member, input, web⟩ ∈ history.past)
    (user : User)
    (payload : LoginChallengePayload)
    (code : String) :
    KeepsTokens app requests member (onWorld (AuthService.codeValid app user payload code))
      history fun valid after => ∃ clock later, ⟨member, clock, later⟩ ∈ after.past ∧
        ((AuthService.codeValid app user payload code).run clock later.world).1 = .ok valid := by
  unfold AuthService.codeValid
  cases payload.method with
  | totp =>
      cases user.twoFactorSecret.filter (· ≠ "") with
      | none => trivial
      | some encrypted =>
          cases decrypted : EncryptionService.decrypt app encrypted with
          | error error =>
              simp only [decrypted]
              trivial
          | ok secret =>
              simp only [decrypted]
              refine keepsTokens_bind keepsTokens_dateNow ?_
              rintro now after - ⟨clock, later, timed, rfl⟩
              exact Sustains.pure ⟨clock, later, timed, rfl⟩
  | emailCode =>
      cases payload.codeHash with
      | none => trivial
      | some codeHash => exact Sustains.pure ⟨input, web, made, rfl⟩

/-- The account of a challenge whose code is accepted from a browser. -/
theorem keepsTokens_checkChallenge
    {ipAddress : Option String}
    {dto : VerifyLoginDto}
    (requested : requests[member]? = some (.verifyLogin browser ipAddress dto)) :
    KeepsTokens app requests member (onWorld (AuthService.checkChallenge app dto)) history
      fun accepted after => SignedInto app requests browser accepted.1.id after.past := by
  unfold AuthService.checkChallenge JwtService.verifyAsync UsersService.findById
  refine keepsTokens_bind (keepsTokens_query (fun found after => ∀ payload ∈ found,
    dto.challengeToken.payload = payload ∧ ∃ input web, ⟨member, input, web⟩ ∈ after.past ∧
      dto.challengeToken ∈ web.world.signed ∧ input.now / 1000 < dto.challengeToken.exp) ?_) ?_
  · intro input later _ _ payload verified
    split at verified
    · rename_i valid
      cases verified
      exact ⟨rfl, input, later.current, List.mem_cons_self, valid⟩
    · cases verified
  rintro found first - verified
  cases found with
  | none => trivial
  | some payload =>
  cases payload with
  | access payload => trivial
  | loginChallenge payload =>
      obtain ⟨challenge, input, web, checked, signed, unexpired⟩ := verified _ rfl
      refine keepsTokens_bind (keepsTokens_query (fun found after => ∀ user ∈ found,
        ∃ next web, ⟨member, next, web⟩ ∈ after.past ∧ user ∈ web.world.users ∧
          user.id = payload.sub) ?_) ?_
      · intro next later _ _ user found
        have isUser := List.find?_some found
        exact ⟨next, later.current, List.mem_cons_self, List.mem_of_find?_eq_some found,
          of_decide_eq_true isUser⟩
      rintro found second onwards known
      cases found with
      | none => trivial
      | some user =>
          obtain ⟨next, registered, read, stored, challenged⟩ := known user rfl
          refine keepsTokens_bind
            (keepsTokens_of_same (sameRegistry_registerChallengeAttempt _ _))
            fun within third counted _ => ?_
          dsimp only
          split
          · trivial
          refine keepsTokens_bind (keepsTokens_codeValid (counted.past.past read) user payload _)
            fun valid fourth timed accepts => ?_
          split
          · refine keepsTokens_bind (keepsTokens_of_same (sameRegistry_record _ _))
              fun _ _ _ _ => ?_
            trivial
          · rename_i accepted
            have right : valid = true := by simpa using accepted
            subst right
            obtain ⟨clock, later, compared, code⟩ := accepts
            have kept := timed.past.past
            exact Sustains.pure (.verifyLogin requested
              (kept (counted.past.past (onwards.past.past checked))) challenge signed unexpired
              (kept (counted.past.past read)) stored challenged compared code rfl)

/-! ## Responses -/

/-- The tokens of a response are of accounts that the browser was signed in to. -/
structure OwnResponse
    (app : Deployment)
    (requests : List WebRequest)
    (browser : BrowserId)
    (response : HttpResponse)
    (history : History Input Web) : Prop where
  cookies : ∀ token expiresAt, .refreshToken token expiresAt ∈ response.cookies →
    HoldsToken app requests browser token history
  body : ∀ token, response.body = .ok (some token) →
    HandedToken app requests browser token history.past

/-- What a browser keeps of a response it had before or gets with the response. -/
theorem mem_store
    {now : Time}
    {cookies : List SetCookie}
    {jar : CookieJar}
    {cookie : RefreshCookie}
    (kept : cookie ∈ (cookies.foldl (CookieJar.store now) jar).refreshToken) :
    cookie ∈ jar.refreshToken ∨ .refreshToken cookie.token cookie.expires ∈ cookies := by
  induction cookies generalizing jar with
  | nil => exact .inl kept
  | cons first rest inductionHypothesis =>
      rcases inductionHypothesis kept with stored | set
      · cases first with
        | refreshToken token expiresAt =>
            cases stored
            exact .inr List.mem_cons_self
        | clearRefreshToken => cases stored
        | deviceId rawDeviceId => exact .inl stored
      · exact .inr (List.mem_cons_of_mem first set)

theorem keepsTokens_deliver
    {response : HttpResponse}
    (own : OwnResponse app requests browser response history) :
    KeepsTokens app requests member (deliver browser response) history fun _ _ => True := by
  refine Sustains.recorded_command fun input later onwards kept => ?_
  refine ownTokens_advance member input kept.registered (Std.Refl.refl later.current.world) ?_ ?_
  · intro other cookie stored
    by_cases same : other = browser
    · subst same
      dsimp only at stored
      rw [Function.update_self] at stored
      rcases mem_store stored with before | set
      · exact kept.cookies other cookie before
      · exact (own.cookies _ _ set).onwards onwards
    · dsimp only at stored
      rw [Function.update_of_ne same] at stored
      exact kept.cookies other cookie stored
  · intro entry present
    dsimp only at present
    split at present
    · rename_i token answered
      rcases List.mem_cons.mp present with rfl | before
      · exact (own.body token answered).onwards onwards
      · exact kept.accessTokens entry before
    · exact kept.accessTokens entry present

/-- A request that a browser sends with its cookies. -/
theorem keepsTokens_exchange
    {method : CookieJar → WebService HttpResponse}
    (answers : ∀ jar later, WebOnwards history later →
      (∀ cookie ∈ jar.refreshToken, HoldsToken app requests browser cookie.token later) →
      KeepsTokens app requests member (method jar) later fun response after =>
        OwnResponse app requests browser response after) :
    KeepsTokens app requests member (exchange browser method) history fun _ _ => True := by
  unfold KeepsTokens exchange sendCookies
  rw [recorded_bind]
  refine Sustains.bind (Sustains.recorded_query (fun jar after =>
    ∀ cookie ∈ jar.refreshToken, HoldsToken app requests browser cookie.token after) ?_) ?_
  · intro input later _ own
    obtain ⟨kept, moved⟩ := ownTokens_advance member input own.registered
      (Std.Refl.refl later.current.world) own.cookies own.accessTokens
    refine ⟨kept, moved, fun cookie sent => ?_⟩
    have inJar := (Option.filter_eq_some_iff.mp sent).1
    exact (own.cookies browser cookie inJar).onwards moved
  · intro jar sent onwards held
    rw [recorded_bind]
    exact Sustains.bind (answers jar sent onwards held)
      fun response _ _ own => keepsTokens_deliver own

/-! ## The controller -/

/-- No refresh token is among the cookies. -/
def NoRefreshToken (cookies : List SetCookie) : Prop :=
  ∀ token expiresAt, .refreshToken token expiresAt ∉ cookies

theorem keepsTokens_buildMeta (ipAddress : Option String) (jar : CookieJar) :
    KeepsTokens app requests member (AuthController.buildMeta ipAddress jar) history
      fun built _ => NoRefreshToken built.2 := by
  have device : KeepsTokens app requests member (AuthController.getOrCreateDeviceId jar) history
      fun created _ => NoRefreshToken created.2 := by
    unfold AuthController.getOrCreateDeviceId
    split
    · exact Sustains.pure fun _ _ present => by cases present
    · unfold KeepsTokens
      rw [recorded_bind]
      refine Sustains.bind (keepsTokens_of_same ?_) fun fresh _ _ _ => Sustains.pure ?_
      · refine Respects.attempt ?_
        rintro input world value after ⟨⟩
        exact sameRegistry_of_sessions rfl (Nat.le_succ _) rfl
      · intro _ _ present
        cases List.mem_singleton.mp present
  unfold KeepsTokens AuthController.buildMeta
  rw [recorded_bind]
  exact Sustains.bind device fun created _ _ none => Sustains.pure none

/-- A response without a token. -/
theorem ownResponse_of_none
    {response : HttpResponse}
    (cookies : NoRefreshToken response.cookies)
    (body : ∀ token, response.body ≠ .ok (some token)) :
    OwnResponse app requests browser response history where
  cookies token expiresAt present := absurd present (cookies token expiresAt)
  body token answered := absurd answered (body token)

/-- A response with the tokens of an account that the browser was signed in to. -/
theorem ownResponse_of_isFor
    {cookies : List SetCookie}
    {tokens : TokenPair}
    {userId : UserId}
    (others : NoRefreshToken cookies)
    (isFor : tokens.IsFor userId history.current.world)
    (signedIn : SignedInto app requests browser userId history.past) :
    OwnResponse app requests browser
      { cookies := cookies ++ [AuthController.setRefreshCookie tokens]
        body := .ok (some tokens.accessToken) } history where
  cookies token expiresAt present := by
    rcases List.mem_append.mp present with other | set
    · exact absurd other (others token expiresAt)
    · cases List.mem_singleton.mp set
      exact ⟨userId, isFor.2, signedIn⟩
  body token answered := by
    cases answered
    obtain ⟨role, access⟩ := isFor.1
    exact ⟨userId, role, access, signedIn⟩

theorem ownResponse_signedOut (result : Except ApiError Unit) :
    OwnResponse app requests browser (AuthController.signedOut result) history := by
  cases result with
  | error error =>
      refine ownResponse_of_none (fun _ _ present => ?_) fun _ answered => ?_
      · cases present
      · cases answered
  | ok value =>
      refine ownResponse_of_none (fun _ _ present => ?_) fun _ answered => ?_
      · cases List.mem_singleton.mp present
      · cases answered

/-- A method that leaves the browser signed out. -/
theorem keepsTokens_signedOut
    {service : Service Unit}
    (same : service.Respects SameRegistry) :
    KeepsTokens app requests member (do
        let result ← outcome service
        return AuthController.signedOut result) history
      fun response after => OwnResponse app requests browser response after := by
  unfold KeepsTokens
  rw [recorded_bind]
  exact Sustains.bind (keepsTokens_outcome (keepsTokens_of_same same))
    fun result _ _ _ => Sustains.pure (ownResponse_signedOut result)

/-- Both tokens are of an account that the browser was signed in to. -/
def OwnPair
    (app : Deployment)
    (requests : List WebRequest)
    (browser : BrowserId)
    (tokens : TokenPair)
    (history : History Input Web) : Prop :=
  ∃ userId, tokens.IsFor userId history.current.world ∧
    SignedInto app requests browser userId history.past

theorem keepsTokens_login
    {ipAddress : Option String}
    {dto : LoginDto}
    (requested : requests[member]? = some (.login browser ipAddress dto))
    (jar : CookieJar) :
    KeepsTokens app requests member (AuthController.login app ipAddress dto jar) history
      fun response after => OwnResponse app requests browser response after := by
  have served : ∀ {requestMeta later}, KeepsTokens app requests member
      (onWorld (AuthService.login app dto requestMeta)) later fun result after =>
        ∀ tokens, result = .signedIn tokens → OwnPair app requests browser tokens after := by
    intro requestMeta later
    rw [login_eq]
    refine keepsTokens_bind (keepsTokens_checkPassword requested)
      fun user accepted _ signedIn => ?_
    refine (keepsTokens_onWorld (keepsRegistry_signIn requestMeta user)).weaken ?_
    exact fun result after onwards isFor tokens isResult =>
      ⟨user.id, isFor tokens isResult, signedIn.onwards onwards⟩
  unfold KeepsTokens AuthController.login
  rw [recorded_bind]
  refine Sustains.bind (keepsTokens_buildMeta ipAddress jar) fun built _ _ others => ?_
  rw [recorded_bind]
  refine Sustains.bind (keepsTokens_outcome served) fun result after _ answered => ?_
  cases result with
  | error error => exact Sustains.pure (ownResponse_of_none others fun _ isBody => by cases isBody)
  | ok result =>
      cases result with
      | requiresVerification method challengeToken =>
          exact Sustains.pure (ownResponse_of_none others fun _ isBody => by cases isBody)
      | signedIn tokens =>
          obtain ⟨userId, isFor, signedIn⟩ := answered _ rfl tokens rfl
          exact Sustains.pure (ownResponse_of_isFor others isFor signedIn)

theorem keepsTokens_verifyLogin
    {ipAddress : Option String}
    {dto : VerifyLoginDto}
    (requested : requests[member]? = some (.verifyLogin browser ipAddress dto))
    (jar : CookieJar) :
    KeepsTokens app requests member (AuthController.verifyLogin app ipAddress dto jar) history
      fun response after => OwnResponse app requests browser response after := by
  have served : ∀ {requestMeta later}, KeepsTokens app requests member
      (onWorld (AuthService.verifyLogin app dto requestMeta)) later
      fun tokens after => OwnPair app requests browser tokens after := by
    intro requestMeta later
    rw [verifyLogin_eq]
    refine keepsTokens_bind (keepsTokens_checkChallenge requested)
      fun accepted checked _ signedIn => ?_
    refine (keepsTokens_onWorld
      (keepsRegistry_afterChallenge requestMeta accepted.1 accepted.2)).weaken ?_
    exact fun tokens after onwards isFor => ⟨accepted.1.id, isFor, signedIn.onwards onwards⟩
  unfold KeepsTokens AuthController.verifyLogin
  rw [recorded_bind]
  refine Sustains.bind (keepsTokens_buildMeta ipAddress jar) fun built _ _ others => ?_
  rw [recorded_bind]
  refine Sustains.bind (keepsTokens_outcome served) fun result after _ answered => ?_
  cases result with
  | error error => exact Sustains.pure (ownResponse_of_none others fun _ isBody => by cases isBody)
  | ok tokens =>
      obtain ⟨userId, isFor, signedIn⟩ := answered tokens rfl
      exact Sustains.pure (ownResponse_of_isFor others isFor signedIn)

/-- The account that a refresh is for is the one that the token in the cookie stands for. -/
theorem keepsTokens_refresh
    {ipAddress : Option String}
    {jar : CookieJar}
    (held : ∀ cookie ∈ jar.refreshToken, HoldsToken app requests browser cookie.token history) :
    KeepsTokens app requests member (AuthController.refresh app ipAddress jar) history
      fun response after => OwnResponse app requests browser response after := by
  have cleared : NoRefreshToken [.clearRefreshToken] := by
    intro _ _ present
    cases List.mem_singleton.mp present
  unfold AuthController.refresh
  cases inJar : jar.refreshToken with
  | none => exact Sustains.pure (ownResponse_of_none cleared fun _ isBody => by cases isBody)
  | some cookie =>
      obtain ⟨userId, owns, signedIn⟩ := held cookie inJar
      dsimp only
      unfold KeepsTokens
      rw [recorded_bind]
      refine Sustains.bind (keepsTokens_buildMeta ipAddress jar) fun built sent first others => ?_
      rw [recorded_bind]
      refine Sustains.bind (keepsTokens_outcome (keepsTokens_onWorld
        (keepsRegistry_refresh cookie.token))) fun result after second answered => ?_
      cases result with
      | error error =>
          refine Sustains.pure (ownResponse_of_none (fun token expiresAt present => ?_) ?_)
          · rcases List.mem_append.mp present with other | clear
            · exact others token expiresAt other
            · exact cleared token expiresAt clear
          · exact fun _ isBody => by cases isBody
      | ok tokens =>
          have isFor := answered tokens rfl userId (first.world.registry.owns _ _ owns)
          exact Sustains.pure (ownResponse_of_isFor others isFor
            ((signedIn.onwards first).onwards second))

/-! ## Runs -/

theorem keepsTokens_handle
    {request : WebRequest}
    (requested : requests[member]? = some request)
    (history : History Input Web) :
    KeepsTokens app requests member (request.handle app) history fun _ _ => True := by
  cases request with
  | register browser ipAddress dto =>
      refine keepsTokens_exchange fun jar later _ _ => ?_
      unfold KeepsTokens AuthController.register
      rw [recorded_bind]
      refine Sustains.bind (keepsTokens_buildMeta ipAddress jar) fun built _ _ others => ?_
      rw [recorded_bind]
      refine Sustains.bind (keepsTokens_outcome (keepsTokens_of_same (sameRegistry_register dto)))
        fun result _ _ _ => Sustains.pure (ownResponse_of_none others fun _ isBody => ?_)
      cases result with
      | error error => cases isBody
      | ok value => cases isBody
  | login browser ipAddress dto =>
      exact keepsTokens_exchange fun jar _ _ _ => keepsTokens_login requested jar
  | verifyLogin browser ipAddress dto =>
      exact keepsTokens_exchange fun jar _ _ _ => keepsTokens_verifyLogin requested jar
  | refresh browser ipAddress =>
      exact keepsTokens_exchange fun jar _ _ held => keepsTokens_refresh held
  | logout browser =>
      refine keepsTokens_exchange fun jar _ _ _ => ?_
      unfold AuthController.logout
      cases jar.refreshToken with
      | none => exact Sustains.pure (ownResponse_signedOut _)
      | some cookie => exact keepsTokens_signedOut (sameRegistry_logout cookie.token)
  | logoutAll browser userId =>
      exact keepsTokens_exchange fun _ _ _ _ =>
        keepsTokens_signedOut (sameRegistry_revokeEverything _ _ _)
  | deleteAccount browser userId password =>
      exact keepsTokens_exchange fun _ _ _ _ =>
        keepsTokens_signedOut (sameRegistry_deleteAccount userId password)
  | account request => exact keepsTokens_onWorld (keepsRegistry_handle request)
  | elsewhere service apart => exact keepsTokens_of_same apart

end

/-- The requests, at the same time. -/
def WebRequest.crew
    (app : Deployment)
    (requests : List WebRequest)
    (web : Web) : Crew (WebService Unit) Web where
  state := web
  members := requests.map (·.handle app)

/-- Before anybody is signed in. -/
theorem ownTokens_opening
    {web : Web}
    (consistent : web.world.store.Consistent)
    (signedOut : ∀ browser, (web.jars browser).refreshToken = none)
    (unread : web.accessTokens = []) :
    OwnTokens app requests { current := web } where
  registered := consistent.registered
  cookies browser cookie kept := by
    dsimp only at kept
    rw [signedOut browser] at kept
    cases kept
  accessTokens entry present := by
    dsimp only at present
    rw [unread] at present
    cases present

/-- Whatever happens at the same time, every access token that a page is handed is of an
account that a request of its browser has signed in to, in calls that were made by then, and
so is the session that the cookie of the browser stands for. -/
theorem browsers_keep_accounts
    (app : Deployment)
    (requests : List WebRequest)
    {web : Web}
    (consistent : web.world.store.Consistent)
    (signedOut : ∀ browser, (web.jars browser).refreshToken = none)
    (unread : web.accessTokens = [])
    (schedule : List (CrewTurn Input ApiError)) :
    let crew := WebRequest.crew app requests web
    let reached := (Process.machine.run crew schedule).state
    (∀ browser token, (browser, token) ∈ reached.accessTokens →
      ∃ userId role, token.payload = .access { sub := userId, role } ∧
        SignsInto app requests browser userId (Made crew schedule)) ∧
    ∀ browser, ∀ cookie ∈ (reached.jars browser).refreshToken,
      ∃ session ∈ reached.world.sessions, session.tokenHash = ⟨cookie.token⟩ ∧
        SignsInto app requests browser session.userId (Made crew schedule) := by
  intro crew reached
  have opened : OwnTokens app requests
      { current := (WebRequest.crew app requests web).state } :=
    ownTokens_opening consistent signedOut unread
  obtain ⟨history, own, current, -, made⟩ := Sustains.crew_recorded opened
    (by
      intro member process present
      obtain ⟨request, requested, rfl⟩ :=
        Option.map_eq_some_iff.mp (List.getElem?_map.symm.trans present)
      exact keepsTokens_handle requested _) schedule
  rw [show reached = history.current from current.symm]
  refine ⟨fun browser token present => ?_, fun browser cookie kept => ?_⟩
  · obtain ⟨userId, role, access, into⟩ := own.accessTokens _ present
    exact ⟨userId, role, access, into.imp made⟩
  · obtain ⟨userId, ⟨credential, present, isToken, isOwner⟩, into⟩ :=
      own.cookies browser cookie kept
    obtain ⟨session, stored, rfl⟩ := List.mem_map.mp present
    cases isOwner
    exact ⟨session, stored, isToken, into.imp made⟩

/-- A browser whose device the sample account has used before. -/
def sampleWeb : Web where
  world :=
    { sampleWorld with
      devices :=
        [{ id := 5, userId := sampleUser.id, fingerprint := ⟨"laptop"⟩, lastSeenAt := 0 }]
      nextId := 10 }
  jars browser :=
    if browser = 1 then { deviceId := some { rawDeviceId := "laptop", expires := 1000000 } }
    else {}

theorem sampleWeb_consistent : sampleWeb.world.store.Consistent where
  idsDistinct := List.nodup_nil
  tokensDistinct := List.nodup_nil
  idsFresh := List.forall_mem_nil _
  tokensFresh := List.forall_mem_nil _
  devicesFresh := by decide
  deviceExists := List.forall_mem_nil _
  successorExists := List.forall_mem_nil _

/-- A login and a refresh from one browser, and a refresh from another. -/
def sampleWebRequests : List WebRequest :=
  [.login 1 none { email := "ann@example.com", password := "correct horse" }, .refresh 1 none,
    .refresh 2 none]

/-- The refreshes come after the login. -/
def sampleBrowsing : List (CrewTurn Input ApiError) :=
  List.replicate 16 { member := 0, input := { now := 7 } } ++
    List.replicate 8 { member := 1, input := { now := 8 } } ++
    List.replicate 2 { member := 2, input := { now := 9 } }

/-- The first browser is handed two access tokens, and the other none. -/
theorem browsers_keep_accounts_sample :
    let crew := WebRequest.crew sampleApp sampleWebRequests sampleWeb
    let after := (Process.machine.run crew sampleBrowsing).state
    (after.accessTokens.map fun entry => (entry.1, entry.2.iat)) = [(1, 0), (1, 0)] ∧
      ∀ browser token, (browser, token) ∈ after.accessTokens →
        ∃ userId role, token.payload = .access { sub := userId, role } ∧
          SignsInto sampleApp sampleWebRequests browser userId (Made crew sampleBrowsing) := by
  refine ⟨by decide +kernel, ?_⟩
  have signedOut : ∀ browser, (sampleWeb.jars browser).refreshToken = none := by
    intro browser
    unfold sampleWeb
    dsimp only
    split <;> rfl
  exact (browsers_keep_accounts sampleApp sampleWebRequests sampleWeb_consistent signedOut rfl
    sampleBrowsing).1

end ConferenceContact
