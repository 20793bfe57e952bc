import ConferenceContact.Foundation.Parts
import ConferenceContact.Model.Billing
import Mathlib.Logic.Function.Basic

/-!
# Browsers

`AuthController`, and the cookies with which it keeps browsers signed in.
-/

namespace ConferenceContact

open Process

/-! ## Cookies -/

/-- A browser, which has cookies of its own. -/
abbrev BrowserId := Nat

/-- The cookie `cc_rt`. -/
structure RefreshCookie where
  token : RawToken
  expires : Time
  deriving DecidableEq

/-- The cookie `ccdid`. -/
structure DeviceCookie where
  rawDeviceId : String
  expires : Time
  deriving DecidableEq

/-- The cookies of a browser. -/
structure CookieJar where
  refreshToken : Option RefreshCookie := none
  deviceId : Option DeviceCookie := none
  deriving DecidableEq

/-- A header `Set-Cookie`. -/
inductive SetCookie
  | refreshToken (token : RawToken) (expiresAt : Time)
  | clearRefreshToken
  | deviceId (rawDeviceId : String)
  deriving DecidableEq

/-- `DEVICE_ID_MAX_AGE_MS`. -/
def deviceIdMaxAgeMs : Nat := 365 * 24 * 60 * 60 * 1000

namespace CookieJar

/-- The cookies that a browser sends: it drops those that have expired. -/
def sent (now : Time) (jar : CookieJar) : CookieJar where
  refreshToken := jar.refreshToken.filter fun cookie => now < cookie.expires
  deviceId := jar.deviceId.filter fun cookie => now < cookie.expires

/-- What a browser makes of a cookie in a response. -/
def store (now : Time) (jar : CookieJar) : SetCookie → CookieJar
  | .refreshToken token expiresAt => { jar with refreshToken := some ⟨token, expiresAt⟩ }
  | .clearRefreshToken => { jar with refreshToken := none }
  | .deviceId rawDeviceId =>
      { jar with deviceId := some ⟨rawDeviceId, now + deviceIdMaxAgeMs⟩ }

end CookieJar

/-- What a request is answered with: cookies, and an error or the access token in the body,
if there is one. -/
structure HttpResponse where
  cookies : List SetCookie := []
  body : Except ApiError (Option Jwt)

/-- The backend, the cookies of the browsers, and the access tokens that the pages in them
have been handed, newest first. -/
structure Web where
  world : World
  jars : BrowserId → CookieJar := fun _ => {}
  accessTokens : List (BrowserId × Jwt) := []

/-- What the services see of the whole. -/
def Web.worldPart : Part Web World where
  get := world
  set world web := { web with world }
  set_get _ := rfl
  get_set _ _ := rfl

@[simp] theorem Web.worldPart_get (web : Web) : worldPart.get web = web.world := rfl

@[simp] theorem Web.worldPart_set (world : World) (web : Web) :
    worldPart.set world web = { web with world } := rfl

/-- A method that is called from browsers. -/
abbrev WebService := Process Input ApiError Web

namespace WebService

/-- A call of one of the services. -/
abbrev onWorld (service : Service α) : WebService α := service.within Web.worldPart

/-- What a service returns or throws. -/
def outcome (service : Service α) : WebService (Except ApiError α) :=
  tryCatch (onWorld service >>= fun value => pure (.ok value)) fun error => pure (.error error)

/-- The cookies with which a browser sends a request. -/
def sendCookies (browser : BrowserId) : WebService CookieJar :=
  query fun input web => (web.jars browser).sent input.now

/-- The response arrives at the browser. -/
def deliver (browser : BrowserId) (response : HttpResponse) : WebService Unit :=
  command fun input web =>
    { web with
      jars := Function.update web.jars browser
        (response.cookies.foldl (CookieJar.store input.now) (web.jars browser))
      accessTokens :=
        match response.body with
        | .ok (some accessToken) => (browser, accessToken) :: web.accessTokens
        | _ => web.accessTokens }

/-- A request of a browser and its response. -/
def exchange
    (browser : BrowserId)
    (method : CookieJar → WebService HttpResponse) : WebService Unit := do
  let jar ← sendCookies browser
  let response ← method jar
  deliver browser response

end WebService

/-! ## The controller -/

namespace AuthController

open WebService

variable (app : Deployment)

/-- The id of the device, with the cookie of a new one. -/
def getOrCreateDeviceId (jar : CookieJar) : WebService (String × List SetCookie) :=
  match jar.deviceId.filter (·.rawDeviceId ≠ "") with
  | some existing => return (existing.rawDeviceId, [])
  | none => do
      let fresh ← onWorld Service.generateOpaqueToken
      return (toString fresh, [.deviceId (toString fresh)])

/-- The address and the device of a request, with the cookie of a new device. -/
def buildMeta
    (ipAddress : Option String)
    (jar : CookieJar) : WebService (RequestMeta × List SetCookie) := do
  let (rawDeviceId, cookies) ← getOrCreateDeviceId jar
  return ({ ipAddress, rawDeviceId }, cookies)

/-- The cookie that hands a refresh token to the browser. -/
def setRefreshCookie (tokens : TokenPair) : SetCookie :=
  .refreshToken tokens.refreshToken tokens.refreshTokenExpiresAt

/-- `POST /auth/register`. -/
def register
    (ipAddress : Option String)
    (dto : RegisterDto)
    (jar : CookieJar) : WebService HttpResponse := do
  let (_, cookies) ← buildMeta ipAddress jar
  let result ← outcome (AuthService.register app dto)
  return { cookies, body := result.map fun _ => none }

/-- `POST /auth/login`; a challenge sets no refresh token. -/
def login
    (ipAddress : Option String)
    (dto : LoginDto)
    (jar : CookieJar) : WebService HttpResponse := do
  let (requestMeta, cookies) ← buildMeta ipAddress jar
  let result ← outcome (AuthService.login app dto requestMeta)
  match result with
  | .ok (.signedIn tokens) =>
      return {
        cookies := cookies ++ [setRefreshCookie tokens]
        body := .ok (some tokens.accessToken) }
  | .ok (.requiresVerification _ _) => return { cookies, body := .ok none }
  | .error error => return { cookies, body := .error error }

/-- `POST /auth/login/verify`. -/
def verifyLogin
    (ipAddress : Option String)
    (dto : VerifyLoginDto)
    (jar : CookieJar) : WebService HttpResponse := do
  let (requestMeta, cookies) ← buildMeta ipAddress jar
  let result ← outcome (AuthService.verifyLogin app dto requestMeta)
  match result with
  | .ok tokens =>
      return {
        cookies := cookies ++ [setRefreshCookie tokens]
        body := .ok (some tokens.accessToken) }
  | .error error => return { cookies, body := .error error }

/-- `POST /auth/refresh`; the refresh token comes from the cookie alone. -/
def refresh (ipAddress : Option String) (jar : CookieJar) : WebService HttpResponse :=
  match jar.refreshToken with
  | none => return { cookies := [.clearRefreshToken], body := .ok none }
  | some cookie => do
      let (_, cookies) ← buildMeta ipAddress jar
      let result ← outcome (AuthService.refresh app cookie.token)
      match result with
      | .ok tokens =>
          return {
            cookies := cookies ++ [setRefreshCookie tokens]
            body := .ok (some tokens.accessToken) }
      | .error error =>
          return { cookies := cookies ++ [.clearRefreshToken], body := .error error }

/-- The response to a method that leaves the browser signed out unless it throws. -/
def signedOut (result : Except ApiError Unit) : HttpResponse :=
  match result with
  | .ok () => { cookies := [.clearRefreshToken], body := .ok none }
  | .error error => { body := .error error }

/-- `POST /auth/logout`. -/
def logout (jar : CookieJar) : WebService HttpResponse :=
  match jar.refreshToken with
  | none => return signedOut (.ok ())
  | some cookie => do
      let result ← outcome (AuthService.logout cookie.token)
      return signedOut result

/-- `POST /auth/logout-all`. -/
def logoutAll (userId : UserId) : WebService HttpResponse := do
  let result ← outcome (AuthService.logoutAll app userId)
  return signedOut result

/-- `DELETE /auth/account`. -/
def deleteAccount (userId : UserId) (password : String) : WebService HttpResponse := do
  let result ← outcome (AuthService.deleteAccount app userId password)
  return signedOut result

end AuthController

end ConferenceContact
