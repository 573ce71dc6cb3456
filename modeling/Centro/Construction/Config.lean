import Centro.Construction.Text
import Centro.Library.Words
import Centro.Library.JsonSchema

namespace Centro

open Library

/-- These options and defaults come from `config_with_defaults`. A transport has a copy of them in
which its own `config` replaces some values. A limit of zero tokens is no limit. -/
structure Config where
  privileged : Bool := false
  allowedAlgs : List JsString := []
  realm : JsString := text "centro"
  authMethod : JsString := text "Bearer"
  maxIssuerLength : Nat := 128
  maxAllowPublishTopics : Nat := 1000
  maxDisallowPublishTopics : Nat := 1000
  maxAllowSubscribeTopics : Nat := 1000
  maxDisallowSubscribeTopics : Nat := 1000
  maxBlockTopics : Nat := 1000
  maxSubscribeTopics : Nat := 1000
  maxPresenceDataLength : Nat := 1 * 1024 * 1024
  maxTokens : Nat := 10
  maxTokenLength : Nat := 1 * 1024 * 1024
  maxTopicLength : Option Nat := some (4 * 1024)
  maxPublishDataLength : Nat := 16 * 1024 * 1024
  maxSubscriptions : Nat := 1000
  maxPublications : Nat := 10
  separator : CodeUnit := codeUnit '.'
  wildcardOne : CodeUnit := codeUnit '*'
  wildcardSome : CodeUnit := codeUnit '#'
  maxWords : Nat := 100
  maxWildcardSomes : Nat := 3

/-- The server reads these fields of its event store. -/
structure Fsq where
  separator : CodeUnit := codeUnit '.'
  wildcards : Wildcards CodeUnit := ⟨[codeUnit '*'], [codeUnit '#']⟩
  singleTtl : Nat := 5 * 60 * 1000
  multiTtl : Nat := 5 * 60 * 1000

/-- A running server has its configuration and calls these modules: the event store, the hash
function and the texts of the schema validator. -/
structure Runtime where
  config : Config := {}
  fsq : Fsq := {}
  sha256hex : JsString → Digest
  errorsText : Json CodeUnit → JsString

/-- This runtime knows the digests of the issuers `foo` and `bar`. -/
def sampleRuntime : Runtime where
  sha256hex := fun issuer =>
    if issuer = text "foo" then
      ⟨text "2c26b46b68ffc68ff99b453c1d30413413422d706483bfa0f98a5e886266e7ae", by decide,
        hex_of_all (by decide)⟩
    else
      ⟨text "fcde2b2edba56bf408601fb721fe9b5c338d10ee429ea04fae5511b68fbf8fb9", by decide,
        hex_of_all (by decide)⟩
  errorsText := fun _ => text "data should be object"

/-- The module `version` exports this number. -/
def version : Nat := 2

/-- A transport has its configuration and the authorizer whose keystore it asks. -/
structure Transport where
  config : Config
  authz : Nat := 0

end Centro
