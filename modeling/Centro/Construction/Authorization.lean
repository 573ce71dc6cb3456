import Centro.Construction.ServerConfig
import Centro.Construction.Token
import Centro.Library.OrderedMap
import Centro.Library.TransitionSystem

namespace Centro

open Library

/-- An error is an object with a message, or another value that is only converted to a string. -/
inductive ErrorValue where
  | error (message : JsString)
  | value (string : JsString)

/-- This is `err.message || String(err)`. -/
def ErrorValue.text : ErrorValue → JsString
  | .error message => if message = [] then Centro.text "Error" else message
  | .value string => string

/-- The method `_authz_error` makes this error. -/
structure AuthzError where
  message : JsString
  statusCode : Nat := 401
  authenticate : JsString

def authzError (config : Config) (err : ErrorValue) : AuthzError where
  message := err.text
  authenticate := config.authMethod ++ text " realm=\"" ++ config.realm ++ text "\""

/-- The authorizer calls back with a verified payload, the URI of its issuer and a revision. -/
structure TokenInfo where
  payload : Json CodeUnit
  uri : Uri
  rev : Rev

/-- A transport finds no tokens, one string with all tokens, or a list of tokens. -/
inductive Presented where
  | missing
  | joined (string : JsString)
  | listed (tokens : List JsString)

/-- The commas separate the tokens in a string, and empty pieces are no tokens. -/
def Presented.tokens : Presented → Option (List JsString)
  | .missing => none
  | .joined string => some ((split (text ",") string).filter (· ≠ []))
  | .listed tokens => some tokens

/-- `mapSeries` has not begun, waits for the authorizer, has the callback of a token, or is done. -/
inductive Verification where
  | idle
  | authorizing
  | calledBack (result : Except ErrorValue TokenInfo)
  | finished

/-- The closures of one attempt receive and make these calls. -/
inductive AuthzCall where
  | authzStart
  | cancel (err : Option ErrorValue)
  | gotTokens (err : Option ErrorValue) (presented : Presented)
  | authorize (index : Nat) (token : JsString) (algs : List JsString)
  | authorized (index : Nat) (result : Except ErrorValue TokenInfo)
  | warning (message : JsString)
  | write (header : List UInt8) (hsdata : Json CodeUnit)
  | authzEnd (err : Option AuthzError) (handshakes : List TokenInfo) (tokens : List JsString)
  | cb2 (err : Option AuthzError) (handshakes : List TokenInfo) (tokens : List JsString)
  | destroy (now : Bool)

/-- These are the variables of one call of `transport_authorize`. The object has the member `url`
when it is an HTTP request, and `destroy` may throw. -/
structure Attempt where
  number : Nat
  config : Config
  url : Bool
  throws : Option JsString := none
  authzEnded : Bool := false
  tokens : List JsString := []
  handshakes : List TokenInfo := []
  verification : Verification := .idle
  calls : List AuthzCall := []

/-- The closures of an attempt see their own variables and the set of pending attempts. -/
structure AuthzClosure where
  pendingAuthzDestroys : OrderedSet Nat
  attempt : Attempt

/-- `bpmux` starts a handshake with these bytes. -/
def handshakeHeader : List UInt8 := [1, 0, 0, 0, 0, 0, 0, 0, 0]

/-- The first token that the schema rejects or whose URI came before is an error. -/
def checkHandshakes (runtime : Runtime) (uris : List Uri) : List TokenInfo → Option ErrorValue
  | [] => none
  | hs :: rest =>
      if !authzTokenSchema runtime.config ["iss", "access_control"] hs.payload then
        some (.value (runtime.errorsText hs.payload))
      else if hs.uri ∈ uris then some (.value (text "duplicate URI: " ++ hs.uri))
      else checkHandshakes runtime (hs.uri :: uris) rest

namespace AuthzClosure

def call (closure : AuthzClosure) (made : AuthzCall) : AuthzClosure :=
  { closure with attempt.calls := closure.attempt.calls ++ [made] }

/-- The function `cb` of `transport_authorize`. -/
def cb (closure : AuthzClosure) (err : Option AuthzError) (handshakes : List TokenInfo)
    (tokens : List JsString) : AuthzClosure :=
  let closure := match err with
    | some err =>
        if closure.attempt.url then closure
        else closure.call (.write handshakeHeader (.object
          [(text "error", .string err.message), (text "version", .number version)]))
    | none => closure
  let closure := closure.call (.authzEnd err handshakes tokens)
  if closure.attempt.number ∈ closure.pendingAuthzDestroys then
    ({ closure with
        pendingAuthzDestroys := closure.pendingAuthzDestroys.delete closure.attempt.number }).call
      (.cb2 err handshakes tokens)
  else closure

/-- The attempt ends with the error that `_authz_error` makes. -/
def fail (runtime : Runtime) (closure : AuthzClosure) (err : ErrorValue) : AuthzClosure :=
  let err := authzError runtime.config err
  let closure := { closure with attempt.verification := .finished }
  (closure.call (.warning err.message)).cb (some err) [] []

/-- The last callback of `mapSeries` checks all tokens together. -/
def finish (runtime : Runtime) (closure : AuthzClosure) : AuthzClosure :=
  let handshakes := closure.attempt.handshakes
  if closure.attempt.config.privileged && decide (handshakes.length > 1) then
    closure.fail runtime (.value (text "too many privileged tokens"))
  else match checkHandshakes runtime [] handshakes with
    | some err => closure.fail runtime err
    | none =>
        ({ closure with attempt.verification := .finished }).cb none handshakes
          closure.attempt.tokens

/-- `mapSeries` takes the next token or ends. -/
def nextToken (runtime : Runtime) (closure : AuthzClosure) : AuthzClosure :=
  let config := closure.attempt.config
  match closure.attempt.tokens[closure.attempt.handshakes.length]? with
  | none => closure.finish runtime
  | some token =>
      if config.maxTokenLength ≠ 0 ∧ token.length > config.maxTokenLength then
        { closure with attempt.verification := .calledBack (.error (.error (text "token too long"))) }
      else
        ({ closure with attempt.verification := .authorizing }).call
          (.authorize closure.attempt.handshakes.length token config.allowedAlgs)

/-- The function `got_tokens`. -/
def gotTokens (runtime : Runtime) (closure : AuthzClosure) (err : Option ErrorValue)
    (presented : Presented) : AuthzClosure :=
  let closure := closure.call (.gotTokens err presented)
  let config := closure.attempt.config
  if closure.attempt.authzEnded then closure
  else
    let closure := { closure with attempt.authzEnded := true }
    match err with
    | some err => closure.fail runtime err
    | none => match presented.tokens with
      | none => closure.fail runtime (.value (text "tokens missing"))
      | some tokens =>
          if tokens.length = 0 then closure.fail runtime (.value (text "no tokens"))
          else if config.maxTokens ≠ 0 ∧ tokens.length > config.maxTokens then
            closure.fail runtime (.value (text "too many tokens"))
          else nextToken runtime { closure with attempt.tokens := tokens }

/-- The listeners for `authz_start` get this function. -/
def cancel (runtime : Runtime) (closure : AuthzClosure) (err : Option ErrorValue) : AuthzClosure :=
  (closure.call (.cancel err)).gotTokens runtime
    (some (err.getD (.error (text "cancelled")))) .missing

end AuthzClosure

/-- Extensions, the transport, the authorizer and the event loop cause these events of one attempt. -/
inductive AttemptEvent where
  | cancel (err : Option ErrorValue)
  | gotTokens (err : Option ErrorValue) (presented : Presented)
  | authorized (result : Except ErrorValue TokenInfo)
  | resume

/-- The authorizer calls back once for each token. -/
def AuthzClosure.step (runtime : Runtime) (closure : AuthzClosure) : AttemptEvent → Option AuthzClosure
  | .cancel err => some (closure.cancel runtime err)
  | .gotTokens err presented => some (closure.gotTokens runtime err presented)
  | .authorized result => match closure.attempt.verification with
      | .authorizing => some
          (({ closure with attempt.verification := .calledBack result }).call
            (.authorized closure.attempt.handshakes.length result))
      | _ => none
  | .resume => match closure.attempt.verification with
      | .calledBack (.error err) => some (closure.fail runtime err)
      | .calledBack (.ok info) => some (nextToken runtime { closure with
          attempt.handshakes := closure.attempt.handshakes ++ [info] })
      | _ => none

/-- This part of the server authorizes streams and requests. The list has one entry for each call
of `transport_authorize`. -/
structure Authorization where
  pendingAuthzDestroys : OrderedSet Nat := .empty
  attempts : List Attempt := []

namespace Authorization

/-- The function `transport_authorize`. -/
def transportAuthorize (authorization : Authorization) (config : Config) (url : Bool)
    (throws : Option JsString) : Authorization :=
  let number := authorization.attempts.length
  { pendingAuthzDestroys := authorization.pendingAuthzDestroys.add number
    attempts := authorization.attempts ++
      [{ number, config, url, throws, calls := [.authzStart] }] }

/-- The loop of `close_transports` catches an exception of a destroy function. -/
def destroyed (attempt : Attempt) : Attempt :=
  { attempt with calls := attempt.calls ++
      [.destroy true] ++ (attempt.throws.map AuthzCall.warning).toList }

/-- The function `close_transports` destroys all pending attempts and forgets them. -/
def shutdown (authorization : Authorization) : Authorization where
  pendingAuthzDestroys := .empty
  attempts := authorization.attempts.map fun attempt =>
    if attempt.number ∈ authorization.pendingAuthzDestroys then destroyed attempt else attempt

inductive Event where
  | transportAuthorize (config : Config) (url : Bool) (throws : Option JsString)
  | attempt (number : Nat) (event : AttemptEvent)
  | shutdown

def step (runtime : Runtime) (authorization : Authorization) : Event → Option Authorization
  | .transportAuthorize config url throws =>
      some (authorization.transportAuthorize config url throws)
  | .attempt number event => do
      let attempt ← authorization.attempts[number]?
      let closure ← AuthzClosure.step runtime ⟨authorization.pendingAuthzDestroys, attempt⟩ event
      some { pendingAuthzDestroys := closure.pendingAuthzDestroys
             attempts := authorization.attempts.set number closure.attempt }
  | .shutdown => some authorization.shutdown

/-- No attempt was made before the server runs. -/
def system (runtime : Runtime) : TransitionSystem Authorization Event where
  initial := {}
  step := step runtime

end Authorization
end Centro
