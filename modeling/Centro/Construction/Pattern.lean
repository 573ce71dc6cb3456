import Centro.Construction.Config
import Centro.Library.Regex

namespace Centro

open Library

/-- The dot of an expression without flags is no line terminator. -/
def lineTerminators : List CodeUnit := [0x000a, 0x000d, 0x2028, 0x2029]

/-- A repetition whose upper bound is negative is no repetition but stands for its own characters. -/
def repeated (bound : Int) (body : Regex CodeUnit) : Regex CodeUnit :=
  match bound with
  | .ofNat count => .upTo count body
  | .negSucc _ =>
      .seq body (.seqs ((text "\x7b0," ++ text (toString bound) ++ text "\x7d").map fun unit =>
        .item (· = unit)))

/-- The function `get_topic_pattern`. -/
def getTopicPattern (config : Config) : Regex CodeUnit :=
  let sep : Regex CodeUnit := .item (· = config.separator)
  let ws : Regex CodeUnit := .item (· = config.wildcardSome)
  let nonSeps : Regex CodeUnit := .star (.item (· ≠ config.separator))
  let reMaxWords := .seq nonSeps (repeated (config.maxWords - 1) (.seq sep nonSeps))
  let opens : Regex CodeUnit := .alt .start sep
  let ends : Regex CodeUnit := .alt .finish sep
  let wsw := .seqs [.behind true opens, ws, .ahead true ends]
  let nonWsw := .star (.alt (.item (· ≠ config.wildcardSome))
    (.alt (.seq (.behind false opens) ws) (.seq ws (.ahead false ends))))
  let reMaxWildcardSomes := .seq nonWsw (repeated config.maxWildcardSomes (.seq wsw nonWsw))
  let reTopic := [.start, .ahead true (.seq reMaxWords .finish),
    .ahead true (.seq reMaxWildcardSomes .finish)]
  match config.maxTopicLength with
  | none => .seqs reTopic
  | some length => .seqs (reTopic ++
      [.ahead true (.seq (.upTo length (.item fun unit => unit ∉ lineTerminators)) .finish)])

example : (getTopicPattern { maxWords := 2, maxTopicLength := none }).test (text "a.#") = true := by
  decide

end Centro
