import Centro.Construction.Application
import Centro.Construction.Pattern

namespace Centro

open Library

/-- A name that a query string repeats has an array of values. -/
inductive QueryValue where
  | string (value : JsString)
  | array (values : List JsString)
  deriving DecidableEq

namespace QueryValue

/-- An array reads as its values with commas in between. -/
def toString : QueryValue → JsString
  | .string value => value
  | .array values => join (text ",") values

def parseInt (value : QueryValue) : JsNumber := JsNumber.parseInt value.toString

/-- A string becomes an array with one value. -/
def toArray : QueryValue → List JsString
  | .string value => [value]
  | .array values => values

end QueryValue

/-- The HTTP transport reads these values from the query string of a request. -/
structure Query where
  topic : Option QueryValue := none
  n : Option QueryValue := none
  single : Option QueryValue := none
  ttl : Option QueryValue := none

/-- The operator `||` replaces what is missing, zero or no number by zero. -/
def JsNumber.orZero : Option JsNumber → JsNumber
  | none | some .nan => .zero
  | some n => n

namespace Http

/-- The options of a request to publish. -/
structure PubOptions where
  topic : Option QueryValue
  n : JsNumber := .zero
  single : Bool
  ttl : Option JsNumber

/-- The options of a request to subscribe. -/
structure SubOptions where
  topics : Option (List JsString)
  ns : List JsNumber

def pubOptions (query : Query) : PubOptions where
  topic := query.topic
  n := (query.n.map QueryValue.parseInt).getD .zero
  single := query.single = some (.string (text "true"))
  ttl := query.ttl.map QueryValue.parseInt

def subOptions (query : Query) : SubOptions where
  topics := query.topic.map QueryValue.toArray
  ns := ((query.n.map QueryValue.toArray).getD []).map JsNumber.parseInt

/-- The schema `validate_pub`, which only a string satisfies as a topic. -/
def validatePub (config : Config) (options : PubOptions) : Option JsString :=
  match options.topic with
  | some (.string topic) =>
      if (getTopicPattern config).test topic && options.n.integer &&
          options.ttl.all JsNumber.integer then some topic
      else none
  | _ => none

/-- The schema `validate_sub`. -/
def validateSub (config : Config) (options : SubOptions) : Option (List JsString) :=
  match options.topics with
  | some topics =>
      if 1 ≤ topics.length && topics.length ≤ config.maxSubscribeTopics &&
          topics.all (getTopicPattern config).test &&
          options.ns.length ≤ config.maxSubscribeTopics && options.ns.all JsNumber.integer then
        some topics
      else none
  | none => none

/-- A request that the schema accepts calls `publish` with these arguments. -/
def publish (config : Config) (query : Query) (callback : Nat) : Option Arguments :=
  let options := pubOptions query
  (validatePub config options).map fun topic =>
    { first := .number options.n, second := .string topic
      third := .object { single := options.single, ttl := options.ttl }
      fourth := .function callback }

/-- A request that the schema accepts calls `subscribe` with each of these arguments until a call
fails. -/
def subscribe (config : Config) (query : Query) (handler next : Nat) : Option (List Arguments) :=
  let options := subOptions query
  (validateSub config options).map fun topics => topics.zipIdx.map fun (topic, i) =>
    { first := .number (.orZero options.ns[i]?), second := .string topic
      third := .function handler, fourth := .function next }

/-- The transport makes this call for a request. -/
inductive Makes (config : Config) (query : Query) : Application.Operation → Arguments → Prop
  | publish {arguments : Arguments} (callback : Nat)
      (made : publish config query callback = some arguments) : Makes config query .publish arguments
  | subscribe {all : List Arguments} {arguments : Arguments} (handler next : Nat)
      (made : subscribe config query handler next = some all) (member : arguments ∈ all) :
      Makes config query .subscribe arguments

end Http
end Centro
