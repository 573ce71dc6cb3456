import Centro.Proof.Connection.Isolation
import Centro.Proof.Pattern
import Centro.Proof.Replace

namespace Centro

open Library

namespace Connection

variable {runtime : Runtime} {connection : Connection} {hs : Handshake} {topic : JsString}

/-- The topic keeps the limits for words and wildcards and the one that `AccessControl` gets. -/
structure WithinLimits (runtime : Runtime) (connection : Connection) (topic : JsString) : Prop where
  words : (words connection.transport.config.separator topic).length ≤
    connection.transport.config.maxWords
  wildcards : (Library.words connection.transport.config.separator topic).count
    [connection.transport.config.wildcardSome] ≤ connection.transport.config.maxWildcardSomes
  length : ∀ limit, (connection.accessControlOptions runtime).maxTopicLength = some limit →
    topic.length ≤ limit

/-- A prefix without privileges is a digest and the separator. -/
theorem hsPrefix_eq (unprivileged : connection.transport.config.privileged = false) :
    connection.hsPrefix runtime hs =
      (runtime.sha256hex hs.payload.iss).digits ++ [runtime.fsq.separator] := by
  simp [hsPrefix, withSeparator, keyPrefix, unprivileged]

/-- The replacement takes no word that is a wildcard from anywhere else. -/
theorem isolated_replaceSelf_le {separator mark : CodeUnit} {connid : JsString} (full : connid ≠ [])
    (plain : ∀ digit ∈ connid, digit ≠ separator ∧ digit ≠ mark) (topic : JsString) :
    isolated separator mark true (replaceSelf connid topic) ≤ isolated separator mark true topic := by
  have fewer := isolated_intercalate_le true placeholder (split placeholder topic) full plain
  rwa [show placeholder.intercalate (split placeholder topic) = topic from
    join_split (by decide) topic] at fewer

/-- Scoping adds no word that is a wildcard. -/
theorem wildcards_scoped_le {separator mark : CodeUnit} {connid : JsString} (digest : Digest)
    (separates : separator ∉ hexDigits) (marks : mark ∉ hexDigits) (drawn : connid.length = 64)
    (hex : ∀ digit ∈ connid, digit ∈ hexDigits) (topic : JsString) :
    (words separator (digest.digits ++ [separator] ++ replaceSelf connid topic)).count [mark] ≤
      isolated separator mark true topic := by
  by_cases same : mark = separator
  · rw [same, count_words_separator]
    exact Nat.zero_le _
  · have plain : ∀ {digits : JsString}, (∀ digit ∈ digits, digit ∈ hexDigits) →
        ∀ digit ∈ digits, digit ≠ separator ∧ digit ≠ mark := by
      intro digits known digit member
      exact ⟨fun equal => separates (equal ▸ known digit member),
        fun equal => marks (equal ▸ known digit member)⟩
    have begun : digest.digits ≠ [] := List.ne_nil_of_length_eq_add_one digest.length
    have full : connid ≠ [] := List.ne_nil_of_length_eq_add_one drawn
    rw [(count_words same _).1, List.append_assoc, isolated_append true begun (plain digest.hex),
      List.singleton_append, isolated, if_neg fun all => Bool.false_ne_true all.1, Nat.zero_add,
      decide_eq_true rfl]
    exact isolated_replaceSelf_le full (plain hex) topic

/-- The scoped form of an accepted topic keeps the limits exactly when its words leave room for the
prefix and its length leaves room for the connection ids. -/
theorem limits_survive_iff (unprivileged : connection.transport.config.privileged = false)
    (shared : runtime.fsq.separator = connection.transport.config.separator)
    (separates : connection.transport.config.separator ∉ hexDigits)
    (marks : connection.transport.config.wildcardSome ∉ hexDigits)
    (drawn : connection.connid.length = 64) (hex : ∀ digit ∈ connection.connid, digit ∈ hexDigits)
    (accepted : (getTopicPattern connection.transport.config).test topic = true) :
    connection.WithinLimits runtime
        (connection.hsPrefix runtime hs ++ replaceSelf connection.connid topic) ↔
      topic.count connection.transport.config.separator + 2 ≤ connection.transport.config.maxWords +
          occurrences topic * placeholder.count connection.transport.config.separator ∧
        ∀ length, connection.transport.config.maxTopicLength = some length →
          topic.length + 57 * occurrences topic ≤ length := by
  have wildcards := wildcards_scoped_le (runtime.sha256hex hs.payload.iss) separates marks drawn hex
    topic
  have bounded := Nat.le_trans wildcards ((test_getTopicPattern _ topic).mp accepted).2.1
  have separators := measure_replaceSelf (List.count connection.transport.config.separator)
    (fun _ _ => List.count_append) connection.connid topic
  have units := measure_replaceSelf List.length (fun _ _ => List.length_append) connection.connid topic
  have none : connection.connid.count connection.transport.config.separator = 0 :=
    List.count_eq_zero.mpr fun member => separates (hex _ member)
  have apart : (runtime.sha256hex hs.payload.iss).digits.count
      connection.transport.config.separator = 0 :=
    List.count_eq_zero.mpr fun member => separates (Digest.hex _ _ member)
  rw [none] at separators
  rw [drawn, show placeholder.length = 7 from rfl] at units
  rw [hsPrefix_eq unprivileged, shared]
  have count : (words connection.transport.config.separator
      ((runtime.sha256hex hs.payload.iss).digits ++ [connection.transport.config.separator] ++
        replaceSelf connection.connid topic)).length =
      (replaceSelf connection.connid topic).count connection.transport.config.separator + 2 := by
    rw [length_words, List.count_append, List.count_append, apart, List.count_singleton_self]
    omega
  have size : ((runtime.sha256hex hs.payload.iss).digits ++
      [connection.transport.config.separator] ++ replaceSelf connection.connid topic).length =
      65 + (replaceSelf connection.connid topic).length := by
    rw [List.length_append, List.length_append, Digest.length, List.length_singleton]
  have limit : (connection.accessControlOptions runtime).maxTopicLength =
      connection.transport.config.maxTopicLength.map (65 + ·) := by
    simp [accessControlOptions, unprivileged]
  constructor
  · rintro ⟨fewWords, _, short⟩
    rw [count] at fewWords
    refine ⟨by omega, fun length known => ?_⟩
    have within := short (65 + length) (by rw [limit, known]; rfl)
    rw [size] at within
    omega
  · rintro ⟨fewWords, short⟩
    refine ⟨by rw [count]; omega, bounded, fun bound known => ?_⟩
    rw [limit] at known
    obtain ⟨length, found, rfl⟩ := Option.map_eq_some_iff.mp known
    have within := short length found
    rw [size]
    omega

/-- This connection of the issuer `foo` has its own limits. -/
def sampleLimited (maxWords : Nat) (maxTopicLength : Option Nat) : Connection where
  number := 0
  transport := { config := { maxWords, maxTopicLength } }
  handshakes := [sampleHandshake]
  channel := {}
  connid := sampleConnid

theorem limits_survive_iff_sample :
    (sampleLimited 2 (some 7)).WithinLimits sampleRuntime
        ((sampleLimited 2 (some 7)).hsPrefix sampleRuntime sampleHandshake ++
          replaceSelf sampleConnid (text "a#")) ↔
      (text "a#").count (codeUnit '.') + 2 ≤
          2 + occurrences (text "a#") * placeholder.count (codeUnit '.') ∧
        ∀ length, some 7 = some length → (text "a#").length + 57 * occurrences (text "a#") ≤ length :=
  @limits_survive_iff sampleRuntime (sampleLimited 2 (some 7)) sampleHandshake (text "a#") rfl rfl
    (by decide) (by decide) rfl (fun digit member => by
      rw [List.eq_of_mem_replicate member]
      decide) (by decide)

set_option maxRecDepth 2000 in
/-- The pattern accepts as many words as are allowed without the prefix, and it counts a placeholder
as seven code units. -/
theorem limits_exceeded :
    ((getTopicPattern (sampleLimited 2 none).transport.config).test (text "a.b") = true ∧
      ¬(sampleLimited 2 none).WithinLimits sampleRuntime
        ((sampleLimited 2 none).hsPrefix sampleRuntime sampleHandshake ++
          replaceSelf sampleConnid (text "a.b"))) ∧
    (getTopicPattern (sampleLimited 2 (some 7)).transport.config).test placeholder = true ∧
      ¬(sampleLimited 2 (some 7)).WithinLimits sampleRuntime
        ((sampleLimited 2 (some 7)).hsPrefix sampleRuntime sampleHandshake ++
          replaceSelf sampleConnid placeholder) :=
  ⟨⟨by decide, fun limits => absurd limits.words (by decide)⟩, by decide,
    fun limits => absurd (limits.length 72 (by decide)) (by decide)⟩

end Connection
end Centro
