import SignalPods.LibSignal.Net

namespace SignalPods.LibSignal

open Machine

variable {SignalError : Type}

/-- A config that was made, read while it was installed, and destroyed. -/
def ProxyConfig.spent (arguments : ProxyArguments) : ProxyConfig :=
  { arguments, account := (Account.retain (Account.give {})).use.drop }

theorem ProxyConfig.spent_closed (arguments : ProxyArguments) : (ProxyConfig.spent arguments).account.Closed := by
  have made : (Account.retain (Account.give {})).Counted 1 := Account.counted_create rfl
  exact made.use.drop.gone rfl

namespace ConnectionManager

theorem useConfig_last (connecting : Connecting) (configs : List ProxyConfig) (config : ProxyConfig)
    (act : Account → Account) :
    useConfig { connecting, configs := configs ++ [config] } configs.length act =
      { connecting, configs := configs ++ [{ config with account := act config.account }] } := by
  have last : configs.length < (configs ++ [config]).length := by
    rw [List.length_append, List.length_singleton]
    omega
  unfold useConfig
  dsimp only
  rw [List.modify_eq_take_cons_drop last]
  simp

/-- What the tried block does: nothing when the config is not made; else the
config is spent, and the manager changed only when native code installs it. -/
theorem tryProxy_made (manager : ConnectionManager) (arguments : ProxyArguments) {answers : ProxyAnswers SignalError}
    (made : answers.signal_connection_proxy_config_new = none) :
    manager.tryProxy arguments answers =
      match answers.signal_connection_manager_set_proxy with
      | none => (.ok (), ⟨.through arguments, manager.configs ++ [.spent arguments]⟩)
      | some error => (.error error, ⟨manager.connecting, manager.configs ++ [.spent arguments]⟩) := by
  have found : (manager.configs ++ [{ arguments, account := Account.retain (Account.give {}) : ProxyConfig }])[
      manager.configs.length]? = some { arguments, account := Account.retain (Account.give {}) } := by simp
  unfold tryProxy newProxyConfig
  rw [made]
  dsimp only
  unfold installProxyConfig
  rw [found]
  dsimp only
  rw [useConfig_last]
  cases answers.signal_connection_manager_set_proxy with
  | none =>
    dsimp only
    rw [useConfig_last]
    rfl
  | some error =>
    dsimp only
    rw [useConfig_last]
    rfl

theorem tryProxy_unmade (manager : ConnectionManager) (arguments : ProxyArguments) {answers : ProxyAnswers SignalError}
    {error : SignalError} (unmade : answers.signal_connection_proxy_config_new = some error) :
    manager.tryProxy arguments answers = (.error error, manager) := by
  unfold tryProxy newProxyConfig
  rw [unmade]

end ConnectionManager

namespace Net

variable {characters : String → List String} {manager after : ConnectionManager}

/-- The proxy that a call asks for. -/
def proxy (characters : String → List String) : ProxyCall → Option ProxyArguments
  | .setProxy scheme host port username password =>
    some (ConnectionManager.proxyArguments scheme host port username password)
  | .setProxyHost host port =>
    some (ConnectionManager.proxyArguments signalTlsProxyScheme (splitAtSign characters host).2 port
      (splitAtSign characters host).1 none)
  | .setInvalidProxy => none
  | .clearProxy => none

/-- A call that ends the process: native code reports an error where
`failOnError` expects none. -/
def Stops (call : ProxyCall × ProxyAnswers SignalError) : Prop :=
  match call.1 with
  | .setProxy .. | .setProxyHost .. =>
    (call.2.signal_connection_proxy_config_new.isSome ∨ call.2.signal_connection_manager_set_proxy.isSome) ∧
      call.2.signal_connection_manager_set_invalid_proxy.isSome
  | .setInvalidProxy => call.2.signal_connection_manager_set_invalid_proxy.isSome
  | .clearProxy => call.2.signal_connection_manager_clear_proxy.isSome

/-- How new connections are to be made after a call that ended this way. -/
def connectingAfter (characters : String → List String) : ProxyCall × Except SignalError Unit → Connecting
  | (.clearProxy, _) => .directly
  | (call, outcome) =>
    match proxy characters call, outcome with
    | some arguments, .ok () => .through arguments
    | _, _ => .refused

end Net

namespace ConnectionManager

variable {manager after : ConnectionManager} {scheme host : String} {port : Option UInt16}
  {username password : Option String} {answers : ProxyAnswers SignalError} {outcome : Except SignalError Unit}

theorem setInvalidProxy_eq_some_iff : manager.setInvalidProxy answers = some after ↔
    answers.signal_connection_manager_set_invalid_proxy = none ∧ { manager with connecting := .refused } = after := by
  unfold setInvalidProxy
  cases answers.signal_connection_manager_set_invalid_proxy <;> simp

theorem clearProxy_eq_some_iff : manager.clearProxy answers = some after ↔
    answers.signal_connection_manager_clear_proxy = none ∧ { manager with connecting := .directly } = after := by
  unfold clearProxy
  cases answers.signal_connection_manager_clear_proxy <;> simp

theorem setProxy_eq_none_iff :
    manager.setProxy scheme host port username password answers = none ↔
      (answers.signal_connection_proxy_config_new.isSome ∨ answers.signal_connection_manager_set_proxy.isSome) ∧
        answers.signal_connection_manager_set_invalid_proxy.isSome := by
  unfold setProxy
  cases made : answers.signal_connection_proxy_config_new with
  | some error =>
    rw [tryProxy_unmade _ _ made]
    cases refused : answers.signal_connection_manager_set_invalid_proxy <;> simp [setInvalidProxy, refused]
  | none =>
    rw [tryProxy_made _ _ made]
    cases installed : answers.signal_connection_manager_set_proxy with
    | none => simp
    | some error =>
      cases refused : answers.signal_connection_manager_set_invalid_proxy <;> simp [setInvalidProxy, refused]

/-- `setProxy` returns with the proxy in force or throws with connections
refused; a config it made is spent. -/
theorem setProxy_cases
    (performed : manager.setProxy scheme host port username password answers = some (outcome, after)) :
    (outcome = .ok () ∧ after.connecting = .through (proxyArguments scheme host port username password) ∨
      (∃ error, outcome = .error error) ∧ after.connecting = .refused) ∧
      (after.configs = manager.configs ∨
        after.configs = manager.configs ++ [.spent (proxyArguments scheme host port username password)]) := by
  have refusing : ∀ {error : SignalError} {before : ConnectionManager},
      (before.setInvalidProxy answers).map (fun refusing => (Except.error error, refusing)) = some (outcome, after) →
        outcome = .error error ∧ after.connecting = .refused ∧ after.configs = before.configs := by
    intro error before refused
    obtain ⟨manager', done, same⟩ := Option.map_eq_some_iff.mp refused
    obtain ⟨rfl, rfl⟩ := Prod.mk.inj same
    obtain ⟨_, rfl⟩ := setInvalidProxy_eq_some_iff.mp done
    exact ⟨rfl, rfl, rfl⟩
  unfold setProxy at performed
  cases made : answers.signal_connection_proxy_config_new with
  | some error =>
    rw [tryProxy_unmade _ _ made] at performed
    obtain ⟨failed, refused, configs⟩ := refusing performed
    exact ⟨Or.inr ⟨⟨error, failed⟩, refused⟩, Or.inl configs⟩
  | none =>
    rw [tryProxy_made _ _ made] at performed
    cases installed : answers.signal_connection_manager_set_proxy with
    | none =>
      rw [installed] at performed
      obtain ⟨rfl, rfl⟩ := Prod.mk.inj (Option.some.inj performed)
      exact ⟨Or.inl ⟨rfl, rfl⟩, Or.inr rfl⟩
    | some error =>
      rw [installed] at performed
      obtain ⟨failed, refused, configs⟩ := refusing performed
      exact ⟨Or.inr ⟨⟨error, failed⟩, refused⟩, Or.inr configs⟩

end ConnectionManager

namespace Net

variable {characters : String → List String} {manager after : ConnectionManager}
  {call : ProxyCall × ProxyAnswers SignalError} {outcome : Except SignalError Unit}

theorem perform_eq_none_iff (manager : ConnectionManager) (call : ProxyCall × ProxyAnswers SignalError) :
    perform characters manager call = none ↔ Stops call := by
  obtain ⟨call, answers⟩ := call
  cases call with
  | setProxy scheme host port username password => exact ConnectionManager.setProxy_eq_none_iff
  | setProxyHost host port => exact ConnectionManager.setProxy_eq_none_iff
  | setInvalidProxy =>
    cases refused : answers.signal_connection_manager_set_invalid_proxy <;>
      simp [perform, ConnectionManager.setInvalidProxy, Stops, refused]
  | clearProxy =>
    cases cleared : answers.signal_connection_manager_clear_proxy <;>
      simp [perform, ConnectionManager.clearProxy, Stops, cleared]

/-- Each call decides alone how connections are made after it. -/
theorem perform_connecting (performed : perform characters manager call = some (outcome, after)) :
    after.connecting = connectingAfter characters (call.1, outcome) := by
  obtain ⟨call, answers⟩ := call
  cases call with
  | setProxy scheme host port username password =>
    rcases (ConnectionManager.setProxy_cases performed).1 with ⟨rfl, through⟩ | ⟨⟨error, rfl⟩, refused⟩
    · exact through
    · exact refused
  | setProxyHost host port =>
    rcases (ConnectionManager.setProxy_cases performed).1 with ⟨rfl, through⟩ | ⟨⟨error, rfl⟩, refused⟩
    · exact through
    · exact refused
  | setInvalidProxy =>
    obtain ⟨manager', done, same⟩ := Option.map_eq_some_iff.mp performed
    obtain ⟨rfl, rfl⟩ := Prod.mk.inj same
    obtain ⟨_, rfl⟩ := ConnectionManager.setInvalidProxy_eq_some_iff.mp done
    rfl
  | clearProxy =>
    obtain ⟨manager', done, same⟩ := Option.map_eq_some_iff.mp performed
    obtain ⟨rfl, rfl⟩ := Prod.mk.inj same
    obtain ⟨_, rfl⟩ := ConnectionManager.clearProxy_eq_some_iff.mp done
    rfl

theorem perform_configs (performed : perform characters manager call = some (outcome, after)) :
    after.configs = manager.configs ∨ ∃ arguments, after.configs = manager.configs ++ [.spent arguments] := by
  obtain ⟨call, answers⟩ := call
  cases call with
  | setProxy scheme host port username password =>
    exact (ConnectionManager.setProxy_cases performed).2.imp_right fun more => ⟨_, more⟩
  | setProxyHost host port =>
    exact (ConnectionManager.setProxy_cases performed).2.imp_right fun more => ⟨_, more⟩
  | setInvalidProxy =>
    obtain ⟨manager', done, same⟩ := Option.map_eq_some_iff.mp performed
    obtain ⟨rfl, rfl⟩ := Prod.mk.inj same
    obtain ⟨_, rfl⟩ := ConnectionManager.setInvalidProxy_eq_some_iff.mp done
    exact Or.inl rfl
  | clearProxy =>
    obtain ⟨manager', done, same⟩ := Option.map_eq_some_iff.mp performed
    obtain ⟨rfl, rfl⟩ := Prod.mk.inj same
    obtain ⟨_, rfl⟩ := ConnectionManager.clearProxy_eq_some_iff.mp done
    exact Or.inl rfl

section Run

variable {history : List ((ProxyCall × ProxyAnswers SignalError) × Except SignalError Unit)}

/-- How connections are to be made after the calls of a history. -/
def intended (characters : String → List String)
    (history : List ((ProxyCall × ProxyAnswers SignalError) × Except SignalError Unit)) : Connecting :=
  (history.getLast?.map fun last => connectingAfter characters (last.1.1, last.2)).getD .directly

structure FailsClosed (characters : String → List String)
    (history : List ((ProxyCall × ProxyAnswers SignalError) × Except SignalError Unit)) (manager : ConnectionManager) :
    Prop where
  connecting : manager.connecting = intended characters history
  spent : ∀ config ∈ manager.configs, config.account.Closed

theorem FailsClosed.perform (failsClosed : FailsClosed characters history manager)
    (performed : perform characters manager call = some (outcome, after)) :
    FailsClosed characters (history ++ [(call, outcome)]) after := by
  refine ⟨?_, ?_⟩
  · rw [perform_connecting performed, intended, List.getLast?_concat]
    rfl
  · intro config member
    rcases perform_configs performed with same | ⟨arguments, more⟩
    · rw [same] at member
      exact failsClosed.spent config member
    · rw [more] at member
      rcases List.mem_append.mp member with old | new
      · exact failsClosed.spent config old
      · rw [List.mem_singleton.mp new]
        exact ProxyConfig.spent_closed arguments

theorem run_failsClosed {calls : List (ProxyCall × ProxyAnswers SignalError)}
    (run : runCalls (Net.perform characters) {} calls = some (history, manager)) :
    FailsClosed characters history manager := by
  have start : FailsClosed characters ([] : List ((ProxyCall × ProxyAnswers SignalError) × Except SignalError Unit)) {} :=
    ⟨rfl, fun config none => by cases none⟩
  exact runCalls_invariant start (fun _ _ _ _ _ failsClosed performed => failsClosed.perform performed) run

theorem connectingAfter_eq_directly_iff {call : ProxyCall} :
    connectingAfter characters (call, outcome) = .directly ↔ call = .clearProxy := by
  cases call <;> cases outcome <;> simp [connectingAfter, proxy]

theorem connectingAfter_eq_through_iff {call : ProxyCall} {arguments : ProxyArguments} :
    connectingAfter characters (call, outcome) = .through arguments ↔
      outcome = .ok () ∧ proxy characters call = some arguments := by
  cases call <;> cases outcome <;> simp [connectingAfter, proxy]

theorem connectingAfter_eq_refused_iff {call : ProxyCall} :
    connectingAfter characters (call, outcome) = .refused ↔
      call = .setInvalidProxy ∨ (∃ error, outcome = .error error) ∧ (proxy characters call).isSome := by
  cases call <;> cases outcome <;> simp [connectingAfter, proxy]

/-- New connections are made directly only after `clearProxy` or before any
call, through a proxy only after the call that set it returned, and are refused
in all other cases; every config is destroyed once. -/
theorem proxy_fails_closed (characters : String → List String) (calls : List (ProxyCall × ProxyAnswers SignalError)) :
    (runCalls (Net.perform characters) {} calls = none ↔ ∃ call ∈ calls, Stops call) ∧
      ∀ history manager, runCalls (Net.perform characters) {} calls = some (history, manager) →
        history.map Prod.fst = calls ∧
        (manager.connecting = .directly ↔
          history = [] ∨ ∃ answers outcome, history.getLast? = some ((.clearProxy, answers), outcome)) ∧
        (∀ arguments, manager.connecting = .through arguments ↔
          ∃ call answers, history.getLast? = some ((call, answers), .ok ()) ∧ proxy characters call = some arguments) ∧
        (manager.connecting = .refused ↔
          (∃ answers outcome, history.getLast? = some ((.setInvalidProxy, answers), outcome)) ∨
            ∃ call answers error, history.getLast? = some ((call, answers), .error error) ∧
              (proxy characters call).isSome) ∧
        ∀ config ∈ manager.configs, config.account.Closed := by
  refine ⟨runCalls_eq_none_iff perform_eq_none_iff calls, ?_⟩
  intro history manager run
  have failsClosed := run_failsClosed run
  have known := failsClosed.connecting
  refine ⟨runCalls_calls run, ?_, ?_, ?_, failsClosed.spent⟩
  · rw [known, intended]
    cases last : history.getLast? with
    | none => exact iff_of_true rfl (Or.inl (List.getLast?_eq_none_iff.mp last))
    | some entry =>
      obtain ⟨⟨call, answers⟩, outcome⟩ := entry
      have some : history ≠ [] := by
        intro empty
        rw [empty] at last
        cases last
      simp [connectingAfter_eq_directly_iff, some]
  · intro arguments
    rw [known, intended]
    cases history.getLast? with
    | none => simp
    | some entry =>
      obtain ⟨⟨call, answers⟩, outcome⟩ := entry
      simp [connectingAfter_eq_through_iff]
  · rw [known, intended]
    cases history.getLast? with
    | none => simp
    | some entry =>
      obtain ⟨⟨call, answers⟩, outcome⟩ := entry
      simp [connectingAfter_eq_refused_iff]

end Run

end Net

end SignalPods.LibSignal
