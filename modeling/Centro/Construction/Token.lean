import Centro.Construction.Config

namespace Centro

/-- A presence claim describes one message for each of the two occasions. -/
structure PresenceMessage where
  topic : JsString
  single : Option Bool := none
  ttl : Option Nat := none
  data : Option JsString := none
  deriving DecidableEq

structure Presence where
  connect : PresenceMessage
  disconnect : PresenceMessage
  deriving DecidableEq

structure PublishClaim where
  allow : List JsString
  disallow : List JsString
  disallowSingle : Option Bool := none
  disallowMulti : Option Bool := none
  deriving DecidableEq

structure SubscribeClaim where
  allow : List JsString
  disallow : List JsString
  deriving DecidableEq

structure AccessControlClaim where
  publish : PublishClaim
  subscribe : SubscribeClaim
  block : Option (List JsString) := none
  deriving DecidableEq

/-- The server reads these claims of a token that passed its schema. -/
structure Payload where
  iss : JsString
  accessControl : AccessControlClaim
  exp : Option Int := none
  subscribe : Option (List (JsString × Bool)) := none
  ack : Option JsString := none
  presence : Option Presence := none
  deriving DecidableEq

/-- A keystore names each issuer by a URI. -/
abbrev Uri := JsString

/-- A URI without a key has no revision. -/
abbrev Rev := Option JsString

/-- Authorization leaves one such object for each token. -/
structure Handshake where
  payload : Payload
  uri : Uri
  rev : Rev
  deriving DecidableEq

/-- This token of the issuer `foo` uses every claim. -/
def sampleHandshake : Handshake where
  payload :=
    { iss := text "foo"
      accessControl :=
        { publish := { allow := [text "a.#"], disallow := [text "a.b"] }
          subscribe := { allow := [text "a.*"], disallow := [] }
          block := some [text "a.c"] }
      subscribe := some [(text "a.$\x7bself\x7d", true)]
      ack := some (text "ack")
      presence := some
        { connect := { topic := text "join", data := some (text "$\x7bself\x7d") }
          disconnect := { topic := text "leave", single := some true, ttl := some 60 } } }
  uri := text "mailto:foo@example.com"
  rev := some (text "1")

def sampleConnid : JsString := List.replicate 64 (codeUnit '0')

end Centro
