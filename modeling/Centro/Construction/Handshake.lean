import Centro.Construction.Claims
import Centro.Construction.Frame

namespace Centro

open Library

/-- An object has the topics of one token as the names of its members. -/
def subscriptionData (subscription : List (JsString × Bool)) : Json CodeUnit :=
  .object (subscription.map fun (topic, toExisting) => (topic, .bool toExisting))

/-- The server answers the handshake with these members and leaves out the subscriptions when there
are none. -/
def Greeting.hsdata (greeting : Greeting) (version : Nat) : Json CodeUnit :=
  .object ([(text "self", .string greeting.connid),
      (text "prefixes", .array (greeting.prefixes.map .string))] ++
    (greeting.subscriptions.map fun subscriptions =>
      (text "subscriptions", .array (subscriptions.map subscriptionData))).toList ++
    [(text "version", .number version)])

/-- This is `num_prefixes`. -/
def numPrefixes : Option TokenOption → Nat
  | none | some (.string _) => 1
  | some (.array tokens) => tokens.length

/-- This is `pattern_config`. The matcher of a client has a default in the place of a zero. -/
def patternConfig (config : Config) : Config :=
  { config with
    maxWords := if config.maxWords = 0 then 100 else config.maxWords
    maxWildcardSomes := if config.maxWildcardSomes = 0 then 3 else config.maxWildcardSomes }

/-- The HTTP transport starts its client with the tokens that the server accepted. -/
def Http.token (tokens : List JsString) : Option TokenOption := some (.array tokens)

namespace HandshakeSchema

def string : Schema CodeUnit := .string codePoints none none

def version : Schema CodeUnit := .both (.integer none) (.numbers [Centro.version])

def scope : Schema CodeUnit :=
  .both string (.oneOf [.lengths codePoints 65 65, .lengths codePoints 0 0])

def scopes (count : Nat) : Schema CodeUnit := .both (.minItems count) (.array (some count) scope)

def subscription (config : Config) : Schema CodeUnit :=
  .object [] [] false [((getTopicPattern (patternConfig config)).test, .boolean)]
    (some config.maxSubscriptions)

/-- The members of a reply have these schemas. -/
def properties (config : Config) (count : Nat) : List (String × Schema CodeUnit) :=
  [("self", string),
   ("prefixes", scopes count),
   ("subscriptions", .array (some count) (subscription config)),
   ("version", version)]

end HandshakeSchema

/-- The listener for `handshake` checks the reply with the first of two schemas. -/
def handshakeSchema (config : Config) (token : Option TokenOption) : Schema CodeUnit :=
  TokenSchema.closed ["self", "prefixes", "version"]
    (HandshakeSchema.properties config (numPrefixes token))

/-- The server may have answered with an error. -/
def errorSchema : Schema CodeUnit :=
  TokenSchema.closed ["error", "version"]
    [("error", HandshakeSchema.string), ("version", HandshakeSchema.version)]

/-- This is the message of the error that the listener emits, if any. Data that are no JSON have the
message of `JSON.parse`. -/
def handshakeError (errorsText : Json CodeUnit → JsString) (config : Config)
    (token : Option TokenOption) : Except JsString (Json CodeUnit) → Option JsString
  | .error message => some message
  | .ok hsdata =>
      if handshakeSchema config token hsdata then none
      else if errorSchema hsdata then some (readString "error" hsdata)
      else some (errorsText hsdata)

end Centro
