import Centro.Construction.Authorization

namespace Centro

open Library

/-- A member that is missing reads as a value of no type. -/
def readMember (name : String) (json : Json CodeUnit) : Json CodeUnit :=
  (json.member (text name)).getD .null

def readString (name : String) (json : Json CodeUnit) : JsString :=
  (readMember name json).string?.getD []

/-- An array of topics has only strings. -/
def readTopics (name : String) (json : Json CodeUnit) : List JsString :=
  (readMember name json).items.filterMap Json.string?

def readBool (name : String) (json : Json CodeUnit) : Option Bool :=
  (json.member (text name)).bind Json.bool?

namespace Claims

def publish (json : Json CodeUnit) : PublishClaim where
  allow := readTopics "allow" json
  disallow := readTopics "disallow" json
  disallowSingle := readBool "disallow_single" json
  disallowMulti := readBool "disallow_multi" json

def subscribe (json : Json CodeUnit) : SubscribeClaim where
  allow := readTopics "allow" json
  disallow := readTopics "disallow" json

def accessControl (json : Json CodeUnit) : AccessControlClaim where
  publish := Claims.publish (readMember "publish" json)
  subscribe := Claims.subscribe (readMember "subscribe" json)
  block := (json.member (text "block")).map fun _ => readTopics "block" json

/-- The names of the members are topics, and each value tells whether existing messages count. -/
def preSubscribe (json : Json CodeUnit) : List (JsString × Bool) :=
  json.members.filterMap fun (topic, value) => value.bool?.map fun toExisting => (topic, toExisting)

def presenceMessage (json : Json CodeUnit) : PresenceMessage where
  topic := readString "topic" json
  single := readBool "single" json
  ttl := ((json.member (text "ttl")).bind Json.number?).map fun ttl => ttl.num.toNat
  data := (json.member (text "data")).bind Json.string?

def presence (json : Json CodeUnit) : Presence where
  connect := presenceMessage (readMember "connect" json)
  disconnect := presenceMessage (readMember "disconnect" json)

end Claims

/-- The server reads these claims of a payload that the schema accepted. -/
def Payload.ofJson (json : Json CodeUnit) : Payload where
  iss := readString "iss" json
  accessControl := Claims.accessControl (readMember "access_control" json)
  exp := ((json.member (text "exp")).bind Json.number?).map Rat.num
  subscribe := (json.member (text "subscribe")).map Claims.preSubscribe
  ack := (json.member (text "ack")).map (readString "prefix")
  presence := (json.member (text "presence")).map Claims.presence

/-- A transport passes the verified tokens on to `transport_connected`. -/
def Handshake.ofInfo (info : TokenInfo) : Handshake where
  payload := .ofJson info.payload
  uri := info.uri
  rev := info.rev

end Centro
