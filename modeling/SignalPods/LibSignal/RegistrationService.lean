import SignalPods.LibSignal.Completer
import SignalPods.LibSignal.FfiStrings

namespace SignalPods.LibSignal

/-- A request of the registration client, under the name of the native function
that takes it. `Text` and `Texts` are what a string and a list of strings are
handed over as. -/
inductive RegistrationRequest (Text Texts : Type)
  | createSession (connectChat : Nat) (number : Text) (pushToken mcc mnc : Option Text)
  | resumeSession (connectChat : Nat) (sessionId number : Text)
  | requestPushChallenge (service : Nat) (pushToken : Text)
  | submitPushChallenge (service : Nat) (pushChallenge : Text)
  | requestVerificationCode (service : Nat) (transport client : Text) (languages : Texts)
  | submitVerificationCode (service : Nat) (code : Text)
  | submitCaptcha (service : Nat) (captchaValue : Text)
  | checkSvr2Credentials (service : Nat) (svrTokens : Texts)
  deriving DecidableEq, Repr

namespace RegistrationRequest

variable {Text Texts Text' Texts' : Type}

def map (text : Text → Text') (texts : Texts → Texts') :
    RegistrationRequest Text Texts → RegistrationRequest Text' Texts'
  | createSession connectChat number pushToken mcc mnc =>
    createSession connectChat (text number) (pushToken.map text) (mcc.map text) (mnc.map text)
  | resumeSession connectChat sessionId number => resumeSession connectChat (text sessionId) (text number)
  | requestPushChallenge service pushToken => requestPushChallenge service (text pushToken)
  | submitPushChallenge service pushChallenge => submitPushChallenge service (text pushChallenge)
  | requestVerificationCode service transport client languages =>
    requestVerificationCode service (text transport) (text client) (texts languages)
  | submitVerificationCode service code => submitVerificationCode service (text code)
  | submitCaptcha service captchaValue => submitCaptcha service (text captchaValue)
  | checkSvr2Credentials service svrTokens => checkSvr2Credentials service (texts svrTokens)

/-- What native code makes of the arguments. -/
def received (request : RegistrationRequest (List UInt8) SignalBorrowedBytestringArray) :
    RegistrationRequest (List UInt8) (List (List UInt8)) :=
  request.map id SignalBorrowedBytestringArray.strings

/-- The same request with the caller's own strings. -/
def encoded (request : RegistrationRequest String (List String)) :
    RegistrationRequest (List UInt8) (List (List UInt8)) :=
  request.map utf8 (List.map utf8)

end RegistrationRequest

/-- A native function called with a context and a request. -/
structure NativeCall where
  asyncContext : Nat
  request : RegistrationRequest (List UInt8) SignalBorrowedBytestringArray
  deriving DecidableEq, Repr

inductive Outcome (Error Value : Type)
  | returned (value : Value)
  | threw (error : SignalError Error)
  | fatalError (message : String)
  deriving DecidableEq, Repr

/-- What a call of the wrapper does: the native calls it makes and its end. -/
structure Performed (Error Value : Type) where
  issued : List NativeCall
  outcome : Outcome Error Value
  deriving DecidableEq, Repr

variable {Error Value Value' : Type}

def Outcome.bind (outcome : Outcome Error Value) (next : Value → Outcome Error Value') : Outcome Error Value' :=
  match outcome with
  | .returned value => next value
  | .threw error => .threw error
  | .fatalError message => .fatalError message

def Performed.bind (performed : Performed Error Value) (next : Value → Outcome Error Value') : Performed Error Value' :=
  { issued := performed.issued, outcome := performed.outcome.bind next }

/-- One native function is called, and the promise is resumed with its reply. -/
def invokeAsyncFunction (asyncContext : Nat) (request : RegistrationRequest (List UInt8) SignalBorrowedBytestringArray)
    (reply : Except (SignalError Error) Value) : Performed Error Value :=
  { issued := [{ asyncContext, request }]
    outcome := match reply with
      | .ok value => .returned value
      | .error error => .threw error }

inductive VerificationTransport
  | voice | sms
  deriving DecidableEq, Repr

def VerificationTransport.description : VerificationTransport → String
  | .voice => "voice"
  | .sms => "sms"

inductive Svr2CredentialsResult
  | «match» | noMatch | invalid
  deriving DecidableEq, Repr

/-- `SignalSvr2CredentialsResult` of the header. -/
def Svr2CredentialsResult.rawValue : Svr2CredentialsResult → UInt8
  | .match => 0
  | .noMatch => 1
  | .invalid => 2

/-- Native code's answer about the credentials, one result for each. -/
structure CheckSvr2CredentialsResponse where
  results : List (String × Svr2CredentialsResult)
  deriving DecidableEq, Repr

/-- "The format for entries is a UTF-8 key with the value as a single byte at
the end." -/
def CheckSvr2CredentialsResponse.entries (response : CheckSvr2CredentialsResponse) : SignalBytestringArray :=
  let views := response.results.map fun result => utf8 result.1 ++ [result.2.rawValue]
  { bytes := views.flatten, lengths := views.map List.length }

/-- One entry of the response; the error is what the process dies of. -/
def transformSvr2Entry (repair : List UInt8 → String) (view : List UInt8) :
    Except String (String × Svr2CredentialsResult) :=
  let key := stringDecoding repair view.dropLast
  match view.getLast? with
  | none => .error "Unexpectedly found nil while unwrapping an Optional value"
  | some valueByte =>
    if valueByte = Svr2CredentialsResult.invalid.rawValue then .ok (key, .invalid)
    else if valueByte = Svr2CredentialsResult.match.rawValue then .ok (key, .match)
    else if valueByte = Svr2CredentialsResult.noMatch.rawValue then .ok (key, .noMatch)
    else .error ("unknown SVR2 credentials result value " ++ toString valueByte)

def invokeFnReturningCheckSvr2CredentialsResponse (strings : SwiftStrings) (entries : SignalBytestringArray) :
    Outcome Error (List (String × Svr2CredentialsResult)) :=
  match (entries.views id).mapM (transformSvr2Entry strings.repair) with
  | .error message => .fatalError message
  | .ok results =>
    -- Dictionary(uniqueKeysWithValues:) compares the keys as Swift compares strings
    if (results.map fun result => strings.canonical result.1).Nodup then .returned results
    else .fatalError "Duplicate values for key"

structure Net where
  asyncContext : Nat
  connectionManager : Nat
  deriving DecidableEq, Repr

structure RegistrationService where
  nativeHandle : Nat
  asyncContext : Nat
  deriving DecidableEq, Repr

namespace RegistrationService

/-- `init(owned:asyncContext:)`. -/
def initOwnedAsyncContext (owned asyncContext : Nat) : Outcome Error RegistrationService :=
  .returned { nativeHandle := owned, asyncContext }

/-- `required init(owned:)`. -/
def initOwned (_owned : Nat) : Outcome Error RegistrationService := .fatalError "must not be invoked directly"

/-- `NonNull(service)!` -/
def nonNull (service : Option Nat) : Outcome Error Nat :=
  match service with
  | some pointer => .returned pointer
  | none => .fatalError "Unexpectedly found nil while unwrapping an Optional value"

def createSession (net : Net) (e164 : String) (pushToken mcc mnc : Option String)
    (service : Except (SignalError Error) (Option Nat)) : Performed Error RegistrationService :=
  (invokeAsyncFunction net.asyncContext
    (.createSession net.connectionManager (withCString e164) (pushToken.map withCString) (mcc.map withCString)
      (mnc.map withCString)) service).bind
    fun service => (nonNull service).bind fun owned => initOwnedAsyncContext owned net.asyncContext

def resumeSession (net : Net) (sessionId number : String) (service : Except (SignalError Error) (Option Nat)) :
    Performed Error RegistrationService :=
  (invokeAsyncFunction net.asyncContext
    (.resumeSession net.connectionManager (withCString sessionId) (withCString number)) service).bind
    fun service => (nonNull service).bind initOwned

variable (self : RegistrationService)

def requestPushChallenge (apnPushToken : String) (reply : Except (SignalError Error) Bool) : Performed Error Unit :=
  (invokeAsyncFunction self.asyncContext (.requestPushChallenge self.nativeHandle (withCString apnPushToken))
    reply).bind fun _ => .returned ()

def submitPushChallenge (pushChallenge : String) (reply : Except (SignalError Error) Bool) : Performed Error Unit :=
  (invokeAsyncFunction self.asyncContext (.submitPushChallenge self.nativeHandle (withCString pushChallenge))
    reply).bind fun _ => .returned ()

def requestVerificationCode (transport : VerificationTransport) (client : String) (languages : List String)
    (reply : Except (SignalError Error) Bool) : Performed Error Unit :=
  (invokeAsyncFunction self.asyncContext
    (.requestVerificationCode self.nativeHandle (withCString transport.description) (withCString client)
      (withUnsafeBorrowedBytestringArray languages)) reply).bind fun _ => .returned ()

def submitVerificationCode (code : String) (reply : Except (SignalError Error) Bool) : Performed Error Unit :=
  (invokeAsyncFunction self.asyncContext (.submitVerificationCode self.nativeHandle (withCString code))
    reply).bind fun _ => .returned ()

def submitCaptcha (captchaValue : String) (reply : Except (SignalError Error) Bool) : Performed Error Unit :=
  -- signal_registration_service_submit_verification_code
  (invokeAsyncFunction self.asyncContext (.submitVerificationCode self.nativeHandle (withCString captchaValue))
    reply).bind fun _ => .returned ()

def checkSvr2Credentials (strings : SwiftStrings) (svrTokens : List String)
    (reply : Except (SignalError Error) CheckSvr2CredentialsResponse) :
    Performed Error (List (String × Svr2CredentialsResult)) :=
  (invokeAsyncFunction self.asyncContext
    (.checkSvr2Credentials self.nativeHandle (withUnsafeBorrowedBytestringArray svrTokens)) reply).bind
    fun result => invokeFnReturningCheckSvr2CredentialsResponse strings result.entries

end RegistrationService

/-- How an application obtains a session. -/
inductive RegistrationStart
  | createSession (e164 : String) (pushToken mcc mnc : Option String)
  | resumeSession (sessionId number : String)
  deriving DecidableEq, Repr

/-- A call the application makes on its session, with native code's reply. -/
inductive RegistrationCall (Error : Type)
  | requestPushChallenge (apnPushToken : String) (reply : Except (SignalError Error) Bool)
  | submitPushChallenge (pushChallenge : String) (reply : Except (SignalError Error) Bool)
  | requestVerificationCode (transport : VerificationTransport) (client : String) (languages : List String)
      (reply : Except (SignalError Error) Bool)
  | submitVerificationCode (code : String) (reply : Except (SignalError Error) Bool)
  | submitCaptcha (captchaValue : String) (reply : Except (SignalError Error) Bool)
  | checkSvr2Credentials (svrTokens : List String) (reply : Except (SignalError Error) CheckSvr2CredentialsResponse)

def RegistrationStart.perform (net : Net) (service : Except (SignalError Error) (Option Nat)) :
    RegistrationStart → Performed Error RegistrationService
  | .createSession e164 pushToken mcc mnc => RegistrationService.createSession net e164 pushToken mcc mnc service
  | .resumeSession sessionId number => RegistrationService.resumeSession net sessionId number service

def RegistrationCall.perform (strings : SwiftStrings) (self : RegistrationService) :
    RegistrationCall Error → Performed Error Unit
  | .requestPushChallenge apnPushToken reply => self.requestPushChallenge apnPushToken reply
  | .submitPushChallenge pushChallenge reply => self.submitPushChallenge pushChallenge reply
  | .requestVerificationCode transport client languages reply =>
    self.requestVerificationCode transport client languages reply
  | .submitVerificationCode code reply => self.submitVerificationCode code reply
  | .submitCaptcha captchaValue reply => self.submitCaptcha captchaValue reply
  | .checkSvr2Credentials svrTokens reply =>
    (self.checkSvr2Credentials strings svrTokens reply).bind fun _ => .returned ()

/-- The calls one after the other. The application survives a thrown error, the
process does not survive a fatal one. -/
def RegistrationService.run (strings : SwiftStrings) (self : RegistrationService) :
    List (RegistrationCall Error) → Performed Error Unit
  | [] => { issued := [], outcome := .returned () }
  | call :: calls =>
    let performed := call.perform strings self
    match performed.outcome with
    | .fatalError message => { issued := performed.issued, outcome := .fatalError message }
    | _ =>
      let rest := self.run strings calls
      { issued := performed.issued ++ rest.issued, outcome := rest.outcome }

/-- A session that native code starts under `handle`, and all calls on it. -/
def RegistrationStart.session (strings : SwiftStrings) (net : Net) (handle : Nat) (start : RegistrationStart)
    (calls : List (RegistrationCall Error)) : Performed Error Unit :=
  let performed := start.perform net (.ok (some handle))
  match performed.outcome with
  | .returned service =>
    let rest := service.run strings calls
    { issued := performed.issued ++ rest.issued, outcome := rest.outcome }
  | .threw error => { issued := performed.issued, outcome := .threw error }
  | .fatalError message => { issued := performed.issued, outcome := .fatalError message }

end SignalPods.LibSignal
