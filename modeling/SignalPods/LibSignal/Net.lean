import SignalPods.LibSignal.FfiStrings
import SignalPods.Machine.Ledger
import SignalPods.Machine.Calls

namespace SignalPods.LibSignal

open Machine

/-- What `signal_connection_proxy_config_new` reads of its arguments. -/
structure ProxyArguments where
  scheme : List UInt8
  host : List UInt8
  port : Int
  username : Option (List UInt8)
  password : Option (List UInt8)
  deriving DecidableEq, Repr

/-- `SignalMutPointerConnectionProxyConfig`, with what was done with the handle
and the references to the `ProxyConfig` that owns it. -/
structure ProxyConfig where
  arguments : ProxyArguments
  account : Account
  deriving DecidableEq, Repr

/-- How the native connection manager makes new connections. -/
inductive Connecting
  | directly
  | through (proxy : ProxyArguments)
  | refused
  deriving DecidableEq, Repr

structure ConnectionManager where
  connecting : Connecting := .directly
  /-- The proxy configs made so far, by handle. -/
  configs : List ProxyConfig := []
  deriving DecidableEq, Repr

/-- What each native function answers in one call. -/
structure ProxyAnswers (SignalError : Type) where
  signal_connection_proxy_config_new : Option SignalError := none
  signal_connection_manager_set_proxy : Option SignalError := none
  signal_connection_manager_set_invalid_proxy : Option SignalError := none
  signal_connection_manager_clear_proxy : Option SignalError := none
  deriving DecidableEq, Repr

def Net.signalTlsProxyScheme : String := "org.signal.tls"

/-- `Int32.min`, for a port that is not given. -/
def noPort : Int := -2147483648

namespace ConnectionManager

variable {SignalError : Type}

def useConfig (manager : ConnectionManager) (handle : Nat) (act : Account → Account) : ConnectionManager :=
  { manager with
    configs := manager.configs.modify handle fun config => { config with account := act config.account } }

/-- `failOnError` stops the process. -/
def setInvalidProxy (manager : ConnectionManager) (answers : ProxyAnswers SignalError) : Option ConnectionManager :=
  match answers.signal_connection_manager_set_invalid_proxy with
  | none => some { manager with connecting := .refused }
  | some _ => none

def clearProxy (manager : ConnectionManager) (answers : ProxyAnswers SignalError) : Option ConnectionManager :=
  match answers.signal_connection_manager_clear_proxy with
  | none => some { manager with connecting := .directly }
  | some _ => none

/-- `invokeFnReturningNativeHandle`: the new handle has an owner at once. -/
def newProxyConfig (manager : ConnectionManager) (arguments : ProxyArguments) (answers : ProxyAnswers SignalError) :
    Except SignalError Nat × ConnectionManager :=
  match answers.signal_connection_proxy_config_new with
  | none =>
    (.ok manager.configs.length,
      { manager with
        configs := manager.configs ++ [{ arguments, account := Account.retain (Account.give {}) }] })
  | some error => (.error error, manager)

/-- `signal_connection_manager_set_proxy` inside both `withNativeHandle`. -/
def installProxyConfig (manager : ConnectionManager) (handle : Nat) (answers : ProxyAnswers SignalError) :
    Except SignalError Unit × ConnectionManager :=
  let used := manager.useConfig handle Account.use
  match answers.signal_connection_manager_set_proxy, manager.configs[handle]? with
  | some error, _ => (.error error, used)
  | none, some config => (.ok (), { used with connecting := .through config.arguments })
  | none, none => (.ok (), used)

/-- The block that `setProxy` tries; `proxyConfig` goes at its end. -/
def tryProxy (manager : ConnectionManager) (arguments : ProxyArguments) (answers : ProxyAnswers SignalError) :
    Except SignalError Unit × ConnectionManager :=
  match manager.newProxyConfig arguments answers with
  | (.error error, after) => (.error error, after)
  | (.ok handle, made) =>
    let (result, installed) := made.installProxyConfig handle answers
    (result, installed.useConfig handle Account.drop)

def proxyArguments (scheme host : String) (port : Option UInt16) (username password : Option String) : ProxyArguments :=
  { scheme := withCString scheme
    host := withCString host
    port := (port.map fun port => (port.toNat : Int)).getD noPort
    username := username.map withCString
    password := password.map withCString }

def setProxy (manager : ConnectionManager) (scheme host : String) (port : Option UInt16)
    (username password : Option String) (answers : ProxyAnswers SignalError) :
    Option (Except SignalError Unit × ConnectionManager) :=
  match manager.tryProxy (proxyArguments scheme host port username password) answers with
  | (.ok (), after) => some (.ok (), after)
  | (.error error, after) => (after.setInvalidProxy answers).map fun refusing => (.error error, refusing)

end ConnectionManager

/-- The public methods of `Net` that set the proxy. -/
inductive ProxyCall
  | setProxy (scheme host : String) (port : Option UInt16) (username password : Option String)
  | setProxyHost (host : String) (port : Option UInt16)
  | setInvalidProxy
  | clearProxy
  deriving DecidableEq, Repr

namespace Net

variable {SignalError : Type}

/-- Swift looks for the character `@`, and which scalars are one character is
for Unicode to say: `characters` lists them. -/
def splitAtSign (characters : String → List String) (host : String) : Option String × String :=
  match (characters host).findIdx? (· = "@") with
  | some atSign =>
    (some (String.join ((characters host).take atSign)), String.join (((characters host).drop atSign).drop 1))
  | none => (none, host)

def setProxyHost (characters : String → List String) (manager : ConnectionManager) (host : String)
    (port : Option UInt16) (answers : ProxyAnswers SignalError) : Option (Except SignalError Unit × ConnectionManager) :=
  let (username, host) := splitAtSign characters host
  manager.setProxy signalTlsProxyScheme host port username none answers

def perform (characters : String → List String) (manager : ConnectionManager) :
    ProxyCall × ProxyAnswers SignalError → Option (Except SignalError Unit × ConnectionManager)
  | (.setProxy scheme host port username password, answers) =>
    manager.setProxy scheme host port username password answers
  | (.setProxyHost host port, answers) => setProxyHost characters manager host port answers
  | (.setInvalidProxy, answers) => (manager.setInvalidProxy answers).map fun after => (.ok (), after)
  | (.clearProxy, answers) => (manager.clearProxy answers).map fun after => (.ok (), after)

end Net

end SignalPods.LibSignal
