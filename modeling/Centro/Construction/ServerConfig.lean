import Centro.Construction.Pattern
import Centro.Library.JsonSchema

namespace Centro

open Library

/-- The schema validator counts the code points of a string, so a surrogate pair counts once. -/
def codePoints : JsString → Nat
  | [] => 0
  | high :: low :: rest =>
      if 0xd800 ≤ high ∧ high ≤ 0xdbff ∧ 0xdc00 ≤ low ∧ low ≤ 0xdfff then 1 + codePoints rest
      else 1 + codePoints (low :: rest)
  | _ :: [] => 1

namespace TokenSchema

/-- A topic matches the pattern. -/
def topic (config : Config) : Schema CodeUnit :=
  .string codePoints none (some (getTopicPattern config).test)

def text (maxLength : Nat) : Schema CodeUnit := .string codePoints (some maxLength) none

/-- All objects in the schema but the token itself have no additional members. -/
def closed (required : List String) (properties : List (String × Schema CodeUnit)) :
    Schema CodeUnit :=
  .object (required.map Centro.text) (properties.map fun member => (Centro.text member.1, member.2))
    false [] none

def topics (config : Config) (maxItems : Nat) : Schema CodeUnit :=
  .array (some maxItems) (topic config)

def publish (config : Config) : Schema CodeUnit :=
  closed ["allow", "disallow"]
    [("allow", topics config config.maxAllowPublishTopics),
     ("disallow", topics config config.maxDisallowPublishTopics),
     ("disallow_single", .boolean),
     ("disallow_multi", .boolean)]

def subscribe (config : Config) : Schema CodeUnit :=
  closed ["allow", "disallow"]
    [("allow", topics config config.maxAllowSubscribeTopics),
     ("disallow", topics config config.maxDisallowSubscribeTopics)]

def accessControl (config : Config) : Schema CodeUnit :=
  closed ["publish", "subscribe"]
    [("publish", publish config),
     ("subscribe", subscribe config),
     ("block", topics config config.maxBlockTopics)]

/-- The names of the members are the topics to subscribe to. -/
def preSubscribe (config : Config) : Schema CodeUnit :=
  .object [] [] false [((getTopicPattern config).test, .boolean)] (some config.maxSubscribeTopics)

def ack (config : Config) : Schema CodeUnit := closed ["prefix"] [("prefix", topic config)]

/-- The occasions `connect` and `disconnect` have the same schema. -/
def presenceMessage (config : Config) : Schema CodeUnit :=
  closed ["topic"]
    [("topic", topic config),
     ("single", .boolean),
     ("ttl", .integer (some 0)),
     ("data", text config.maxPresenceDataLength)]

def presence (config : Config) : Schema CodeUnit :=
  closed ["connect", "disconnect"]
    [("connect", presenceMessage config),
     ("disconnect", presenceMessage config)]

end TokenSchema

/-- The function `authz_token_schema`. -/
def authzTokenSchema (config : Config) (required : List String) : Schema CodeUnit :=
  .object (required.map text)
    [(text "exp", .integer none),
     (text "iss", TokenSchema.text config.maxIssuerLength),
     (text "access_control", TokenSchema.accessControl config),
     (text "subscribe", TokenSchema.preSubscribe config),
     (text "ack", TokenSchema.ack config),
     (text "presence", TokenSchema.presence config)]
    true [] none

end Centro
