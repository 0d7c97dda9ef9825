import SignalPods.LibSignal.RegistrationService

namespace SignalPods.LibSignal

variable {Error : Type} (strings : SwiftStrings)

/-- The request documented for a way to obtain a session. -/
def RegistrationStart.documented (net : Net) : RegistrationStart → RegistrationRequest String (List String)
  | .createSession e164 pushToken mcc mnc => .createSession net.connectionManager e164 pushToken mcc mnc
  | .resumeSession sessionId number => .resumeSession net.connectionManager sessionId number

/-- The request documented for a call on the session `handle`. -/
def RegistrationCall.documented (handle : Nat) : RegistrationCall Error → RegistrationRequest String (List String)
  | .requestPushChallenge apnPushToken _ => .requestPushChallenge handle apnPushToken
  | .submitPushChallenge pushChallenge _ => .submitPushChallenge handle pushChallenge
  | .requestVerificationCode transport client languages _ =>
    .requestVerificationCode handle transport.description client languages
  | .submitVerificationCode code _ => .submitVerificationCode handle code
  | .submitCaptcha captchaValue _ => .submitCaptcha handle captchaValue
  | .checkSvr2Credentials svrTokens _ => .checkSvr2Credentials handle svrTokens

/-- The strings that go out as `const char *`. -/
def RegistrationStart.cStrings : RegistrationStart → List String
  | .createSession e164 pushToken mcc mnc => e164 :: (pushToken.toList ++ mcc.toList ++ mnc.toList)
  | .resumeSession sessionId number => [sessionId, number]

def RegistrationCall.cStrings : RegistrationCall Error → List String
  | .requestPushChallenge apnPushToken _ => [apnPushToken]
  | .submitPushChallenge pushChallenge _ => [pushChallenge]
  | .requestVerificationCode _ client _ _ => [client]
  | .submitVerificationCode code _ => [code]
  | .submitCaptcha captchaValue _ => [captchaValue]
  | .checkSvr2Credentials _ _ => []

def RegistrationStart.creates : RegistrationStart → Bool
  | .createSession .. => true
  | .resumeSession .. => false

def RegistrationCall.submitsCaptcha : RegistrationCall Error → Bool
  | .submitCaptcha .. => true
  | _ => false

/-- No two credentials of the response are one string to Swift. -/
def CheckSvr2CredentialsResponse.Distinct (response : CheckSvr2CredentialsResponse) : Prop :=
  (response.results.map fun result => strings.canonical result.1).Nodup

/-- What native code answers can be made a dictionary. -/
def RegistrationCall.Answered : RegistrationCall Error → Prop
  | .checkSvr2Credentials _ (.ok response) => response.Distinct strings
  | _ => True

/-- Native code sees the documented request for the start and for each call, in
order and with the caller's arguments, and the process survives. -/
def RegistrationStart.Refines (strings : SwiftStrings) (net : Net) (handle : Nat) (start : RegistrationStart)
    (calls : List (RegistrationCall Error)) : Prop :=
  (∀ message, (start.session strings net handle calls).outcome ≠ .fatalError message) ∧
    (start.session strings net handle calls).issued.map (fun call => call.request.received) =
      (start.documented net).encoded :: calls.map fun call => (call.documented handle).encoded

/-- The condition under which a call issues what is documented. -/
def RegistrationCall.Faithful (call : RegistrationCall Error) : Prop :=
  call.submitsCaptcha = false ∧ ∀ s ∈ call.cStrings, 0 ∉ utf8 s

theorem VerificationTransport.withCString_description (transport : VerificationTransport) :
    withCString transport.description = utf8 transport.description := by
  cases transport <;> decide

theorem map_withCString_eq_iff {s : Option String} :
    s.map withCString = s.map utf8 ↔ ∀ t ∈ s.toList, 0 ∉ utf8 t := by
  cases s with
  | none => simp
  | some t => simp [withCString_eq_iff]

/-- Every call issues one native call on the session's handle, and it is the
documented one exactly for a faithful call. -/
theorem RegistrationCall.issues_one (self : RegistrationService) (call : RegistrationCall Error) :
    ∃ request, (call.perform strings self).issued = [{ asyncContext := self.asyncContext, request }] ∧
      (request.received = (call.documented self.nativeHandle).encoded ↔ call.Faithful) := by
  -- only a captcha is issued under another name
  cases call
  all_goals
    refine ⟨_, rfl, ?_⟩
    simp [RegistrationRequest.received, RegistrationRequest.encoded, RegistrationRequest.map, documented, Faithful,
      submitsCaptcha, cStrings, withCString_eq_iff, VerificationTransport.withCString_description,
      withUnsafeBorrowedBytestringArray_strings]

/-- An entry of native code's response is read back. -/
theorem transformSvr2Entry_entry (key : String) (result : Svr2CredentialsResult) :
    transformSvr2Entry strings.repair (utf8 key ++ [result.rawValue]) = .ok (key, result) := by
  unfold transformSvr2Entry
  simp only [List.dropLast_concat, List.getLast?_concat, stringDecoding_utf8]
  cases result <;> rfl

theorem mapM_transformSvr2Entry (results : List (String × Svr2CredentialsResult)) :
    (results.map fun result => utf8 result.1 ++ [result.2.rawValue]).mapM (transformSvr2Entry strings.repair) =
      .ok results := by
  induction results with
  | nil => rfl
  | cons result results ih =>
    rw [List.map_cons, List.mapM_cons, transformSvr2Entry_entry, ih]
    rfl

/-- What native code answers about the credentials arrives as a dictionary,
unless Swift takes two of them for one. -/
theorem invokeFnReturningCheckSvr2CredentialsResponse_entries (response : CheckSvr2CredentialsResponse)
    [Decidable (response.Distinct strings)] :
    (invokeFnReturningCheckSvr2CredentialsResponse strings response.entries :
      Outcome Error (List (String × Svr2CredentialsResult))) =
      if response.Distinct strings then .returned response.results
      else .fatalError "Duplicate values for key" := by
  unfold invokeFnReturningCheckSvr2CredentialsResponse CheckSvr2CredentialsResponse.entries
  rw [views_eq, List.map_id, splitByLengths_flatten, mapM_transformSvr2Entry]
  exact if_congr Iff.rfl rfl rfl

theorem invokeAsyncFunction_not_fatal {Value : Type} {asyncContext : Nat}
    {request : RegistrationRequest (List UInt8) SignalBorrowedBytestringArray}
    {reply : Except (SignalError Error) Value} {next : Value → Outcome Error Unit} {message : String}
    (fine : ∀ value, next value ≠ .fatalError message) :
    ((invokeAsyncFunction asyncContext request reply).bind next).outcome ≠ .fatalError message := by
  cases reply with
  | error error =>
    intro fatal
    cases fatal
  | ok value => exact fine value

@[simp] theorem Outcome.returned_ne_fatalError {Value : Type} (value : Value) (message : String) :
    (returned value : Outcome Error Value) ≠ fatalError message := by
  intro same
  cases same

/-- A call is fatal exactly when its answer makes no dictionary. -/
theorem RegistrationCall.perform_fatal_iff (self : RegistrationService) (call : RegistrationCall Error) :
    (∃ message, (call.perform strings self).outcome = .fatalError message) ↔ ¬ call.Answered strings := by
  classical
  cases call with
  | checkSvr2Credentials svrTokens reply =>
    cases reply with
    | error error =>
      constructor
      · rintro ⟨message, fatal⟩
        cases fatal
      · exact fun unanswered => absurd trivial unanswered
    | ok response =>
      have read : (invokeFnReturningCheckSvr2CredentialsResponse strings response.entries :
          Outcome Error (List (String × Svr2CredentialsResult))) = _ :=
        invokeFnReturningCheckSvr2CredentialsResponse_entries strings response
      simp only [RegistrationCall.perform, RegistrationService.checkSvr2Credentials, invokeAsyncFunction,
        Performed.bind, Outcome.bind, read, Answered]
      by_cases distinct : response.Distinct strings
      · simp [distinct]
      · simp [distinct]
  | _ =>
    constructor
    · rintro ⟨message, fatal⟩
      exact absurd fatal (invokeAsyncFunction_not_fatal fun _ => Outcome.returned_ne_fatalError _ _)
    · exact fun unanswered => absurd trivial unanswered

theorem RegistrationService.run_cons_of_answered (self : RegistrationService) {call : RegistrationCall Error}
    (answered : call.Answered strings) (calls : List (RegistrationCall Error)) :
    self.run strings (call :: calls) =
      { issued := (call.perform strings self).issued ++ (self.run strings calls).issued
        outcome := (self.run strings calls).outcome } := by
  rw [RegistrationService.run]
  cases ended : (call.perform strings self).outcome with
  | returned value => rfl
  | threw error => rfl
  | fatalError message => exact absurd answered ((call.perform_fatal_iff strings self).mp ⟨message, ended⟩)

theorem RegistrationService.run_cons_of_not_answered (self : RegistrationService) {call : RegistrationCall Error}
    (unanswered : ¬ call.Answered strings) (calls : List (RegistrationCall Error)) :
    ∃ message, (self.run strings (call :: calls)).outcome = .fatalError message := by
  obtain ⟨message, fatal⟩ := (call.perform_fatal_iff strings self).mpr unanswered
  refine ⟨message, ?_⟩
  rw [RegistrationService.run]
  simp only [fatal]

/-- Along a whole run the process survives and the requests are the documented
ones exactly when every call is faithful and its answer makes a dictionary. -/
theorem RegistrationService.run_documented_iff (self : RegistrationService) (calls : List (RegistrationCall Error)) :
    (∀ message, (self.run strings calls).outcome ≠ .fatalError message) ∧
        (self.run strings calls).issued.map (fun call => call.request.received) =
          calls.map (fun call => (call.documented self.nativeHandle).encoded) ↔
      ∀ call ∈ calls, call.Faithful ∧ call.Answered strings := by
  induction calls with
  | nil => simp [run]
  | cons call calls ih =>
    by_cases answered : call.Answered strings
    · obtain ⟨request, issued, same⟩ := call.issues_one strings self
      rw [self.run_cons_of_answered strings answered, issued, List.forall_mem_cons, ← ih, ← same]
      simp only [List.singleton_append, List.map_cons, List.cons.injEq, answered, and_true]
      exact and_left_comm
    · obtain ⟨message, fatal⟩ := self.run_cons_of_not_answered strings answered calls
      constructor
      · rintro ⟨survives, _⟩
        exact absurd fatal (survives message)
      · intro fine
        exact absurd (fine call List.mem_cons_self).2 answered

variable (Error) in
theorem RegistrationStart.received_iff (net : Net) (start : RegistrationStart) (handle : Nat) :
    ∃ request, (start.perform net (.ok (some handle)) : Performed Error RegistrationService).issued =
        [{ asyncContext := net.asyncContext, request }] ∧
      (request.received = (start.documented net).encoded ↔ ∀ s ∈ start.cStrings, 0 ∉ utf8 s) := by
  cases start with
  | createSession e164 pushToken mcc mnc =>
    refine ⟨_, rfl, ?_⟩
    simp [RegistrationRequest.received, RegistrationRequest.encoded, RegistrationRequest.map, documented, cStrings,
      withCString_eq_iff, map_withCString_eq_iff, or_imp, forall_and]
  | resumeSession sessionId number =>
    refine ⟨_, rfl, ?_⟩
    simp [RegistrationRequest.received, RegistrationRequest.encoded, RegistrationRequest.map, documented, cStrings,
      withCString_eq_iff]

/-- A session refines the documented protocol exactly when it was created, no
captcha is submitted, no C string is cut short by a NUL, and no answer about
credentials names one of them twice. -/
theorem RegistrationStart.refines_iff (net : Net) (handle : Nat)
    (start : RegistrationStart) (calls : List (RegistrationCall Error)) :
    start.Refines strings net handle calls ↔
      start.creates = true ∧ (∀ s ∈ start.cStrings, 0 ∉ utf8 s) ∧
        ∀ call ∈ calls, (call.submitsCaptcha = false ∧ ∀ s ∈ call.cStrings, 0 ∉ utf8 s) ∧ call.Answered strings := by
  obtain ⟨request, issued, same⟩ := start.received_iff Error net handle
  cases start with
  | resumeSession sessionId number =>
    constructor
    · rintro ⟨survives, _⟩
      exact absurd rfl (survives "must not be invoked directly")
    · rintro ⟨created, _⟩
      exact absurd created Bool.noConfusion
  | createSession e164 pushToken mcc mnc =>
    let service : RegistrationService := { nativeHandle := handle, asyncContext := net.asyncContext }
    have performed : (createSession e164 pushToken mcc mnc).session strings net handle calls =
        { issued := { asyncContext := net.asyncContext, request } :: (service.run strings calls).issued
          outcome := (service.run strings calls).outcome } := by
      have first := List.cons.inj issued
      cases first.1
      rfl
    have rest := service.run_documented_iff strings calls
    unfold Refines
    rw [performed]
    simp only [List.map_cons, List.cons.injEq, same]
    constructor
    · rintro ⟨survives, whole, agree⟩
      exact ⟨rfl, whole, rest.mp ⟨survives, agree⟩⟩
    · rintro ⟨_, whole, faithful⟩
      obtain ⟨survives, agree⟩ := rest.mpr faithful
      exact ⟨survives, whole, agree⟩

/-- A captcha goes out as a verification code, and a resumed session does not
outlive its start. -/
theorem RegistrationStart.not_refines :
    ¬ (createSession "+18005550123" none none none).Refines ⟨fun _ => "", id⟩ ⟨1, 2⟩ 3
        [(.submitCaptcha "captcha" (.ok true) : RegistrationCall Unit)] ∧
      ¬ (resumeSession "session" "+18005550123").Refines ⟨fun _ => "", id⟩ ⟨1, 2⟩ 3
        ([] : List (RegistrationCall Unit)) := by
  constructor
  · rintro ⟨_, same⟩
    exact absurd same (by decide)
  · rintro ⟨survives, _⟩
    exact survives "must not be invoked directly" rfl

end SignalPods.LibSignal
