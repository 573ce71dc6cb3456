import Centro.Proof.Connection.Destroyed
import Centro.Proof.Connection.Loops

namespace Centro

open Library

/-- The connection has registered a token for the URI whose revision is another one. -/
def Connection.Holds (connection : Connection) (uri : Uri) (rev : Rev) : Prop :=
  ∃ record ∈ connection.hsConns, record.uri = uri ∧ record.rev ≠ rev

instance (connection : Connection) (uri : Uri) (rev : Rev) : Decidable (connection.Holds uri rev) :=
  inferInstanceAs (Decidable (∃ record ∈ connection.hsConns.items, _))

namespace Closure

variable {runtime : Runtime} {closure : Closure}

/-- A call of `dstroy` is counted. -/
theorem dstroy_countP (now : Bool) : closure.connection.calls.countP Call.isDstroy <
    (closure.dstroy runtime now).connection.calls.countP Call.isDstroy := by
  rw [dstroy_connection]
  split
  · simp [Call.isDstroy]
  · split
    · rw [List.append_assoc, List.countP_append, List.countP_append]
      simp only [List.countP_singleton, Call.isDstroy, if_true]
      omega
    · rw [List.append_assoc, List.countP_append, List.countP_append]
      simp only [List.countP_singleton, Call.isDstroy, if_true]
      omega

end Closure

/-- Calls of `dstroy` are never taken back. -/
theorem Dstroyed.countP_le {runtime : Runtime} {first last : Connection}
    (trail : Dstroyed runtime first last) :
    first.calls.countP Call.isDstroy ≤ last.calls.countP Call.isDstroy := by
  induction trail with
  | refl => exact Nat.le_refl _
  | @step last shared now _ ih =>
      have more := @Closure.dstroy_countP runtime ⟨shared, last⟩ now
      exact Nat.le_trans ih (Nat.le_of_lt more)

/-- A connection that was destroyed has at least one more call of `dstroy`. -/
theorem Destroyed.countP_lt {runtime : Runtime} {first last : Connection}
    (destroyed : Destroyed runtime first last) :
    first.calls.countP Call.isDstroy < last.calls.countP Call.isDstroy := by
  obtain ⟨middle, shared, now, trail, rfl⟩ := destroyed
  exact Nat.lt_of_le_of_lt trail.countP_le (@Closure.dstroy_countP runtime ⟨shared, middle⟩ now)

namespace Service

variable {runtime : Runtime} {service : Service} {uri : Uri} {rev : Rev}

/-- The loop of `change` is meant for the open connections that hold such a token. -/
theorem Sound.dstroys_change (sound : service.Sound) (authz : Nat) {number : Nat}
    {connection : Connection} (here : service.connections[number]? = some connection) :
    service.Dstroys (.change authz uri rev) number ↔
      connection.Open ∧ connection.Holds uri rev := by
  constructor
  · rintro ⟨record, member, owner, differs⟩
    obtain ⟨same, entry, known, isOpen, held⟩ := (sound.registry.records uri record).mp member
    rw [owner, List.getElem?_map, here, Option.map_some, Option.some.injEq] at known
    subst known
    exact ⟨isOpen, record, held, same, differs⟩
  · rintro ⟨isOpen, record, held, same, differs⟩
    have entry : (service.connections.map Connection.entry)[number]? = some connection.entry := by
      rw [List.getElem?_map, here, Option.map_some]
    refine ⟨record, ?_, sound.registry.owned number _ entry record held, differs⟩
    exact sound.mem_registered.mpr ⟨same, connection, List.mem_of_getElem? here, isOpen, held⟩

/-- The loop of `change` destroys every connection that it is meant for. -/
theorem Sound.change_destroys (sound : service.Sound) {number : Nat} {first : Connection}
    (here : service.connections[number]? = some first) (isOpen : first.Open)
    (holds : first.Holds uri rev) :
    Reached runtime number first (service.change runtime uri rev) := by
  obtain ⟨record, held, same, differs⟩ := holds
  have owner : record.connection = number := by
    apply sound.registry.owned number first.entry
    · rw [List.getElem?_map, here, Option.map_some]
    · exact held
  have present : ∀ {after : Service}, after.Sound → after.connections[number]? = some first →
      record ∈ after.shared.registered uri := fun sound there =>
    sound.mem_registered.mpr ⟨same, first, List.mem_of_getElem? there, isOpen, held⟩
  have found := present sound here
  have start : Sound (service.notice (.uriRevisionChange uri)) := sound.notice (by simp)
  unfold change
  dsimp only
  rw [show (service.notice (.uriRevisionChange uri)).shared.connections.get uri =
    service.shared.connections.get uri from rfl]
  cases conns : service.shared.connections.get uri with
  | none =>
      rw [Shared.registered, conns] at found
      exact absurd found (OrderedSet.not_mem_empty record)
  | some conns' =>
      rw [Shared.registered, conns] at found
      apply start.loop_destroys here found
      · intro after item
        split
        · exact Or.inr ⟨_, _, rfl⟩
        · exact Or.inl rfl
      · intro after
        rw [if_pos differs, owner]
        exact ⟨false, rfl⟩
      · exact fun after sound there => decide_eq_true (present sound there)

/-- A change destroys the open connections of its own keystore that hold another revision, and it
leaves all other connections alone. -/
def Precise (service after : Service) (authz : Nat) (uri : Uri) (rev : Rev) : Prop :=
  ∀ (number : Nat) (connection : Connection), service.connections[number]? = some connection →
    (connection.Open ∧ connection.transport.authz = authz ∧ connection.Holds uri rev →
      ∃ last, after.connections[number]? = some last ∧
        connection.calls.countP Call.isDstroy < last.calls.countP Call.isDstroy) ∧
    (¬(connection.Open ∧ connection.transport.authz = authz ∧ connection.Holds uri rev) →
      after.connections[number]? = some connection)

/-- The loop does not ask whose keystore has changed. -/
theorem Sound.authz_of_precise (sound : service.Sound) {authz : Nat}
    (precise : service.Precise (service.change runtime uri rev) authz uri rev) {number : Nat}
    {connection : Connection} (here : service.connections[number]? = some connection)
    (isOpen : connection.Open) (holds : connection.Holds uri rev) :
    connection.transport.authz = authz := by
  by_contra differs
  have untouched := (precise number connection here).2 fun own => differs own.2.1
  have destroys : Reached runtime number connection (service.change runtime uri rev) :=
    sound.change_destroys here isOpen holds
  obtain ⟨last, there, destroyed⟩ := destroys
  rw [untouched] at there
  obtain rfl := Option.some.inj there
  exact absurd destroyed.countP_lt (Nat.lt_irrefl _)

/-- A change is precise exactly when no open connection of another keystore holds another revision
of that URI. -/
theorem change_precise_iff {after : Service} {authz : Nat}
    (reached : (system runtime).Reachable service)
    (stepped : service.step runtime (.change authz uri rev) = some after) :
    service.Precise after authz uri rev ↔
      ∀ (number : Nat) (connection : Connection), service.connections[number]? = some connection →
        connection.Open → connection.Holds uri rev → connection.transport.authz = authz := by
  have sound := sound_of_reachable reached
  have changed : after = service.change runtime uri rev := (Option.some.inj stepped).symm
  constructor
  · intro precise number connection here isOpen holds
    rw [changed] at precise
    exact sound.authz_of_precise precise here isOpen holds
  · intro single number connection here
    constructor
    · rintro ⟨isOpen, _, holds⟩
      have destroys : Reached runtime number connection (service.change runtime uri rev) :=
        sound.change_destroys here isOpen holds
      obtain ⟨last, there, destroyed⟩ := destroys
      exact ⟨last, changed ▸ there, destroyed.countP_lt⟩
    · intro foreign
      rcases step_connection stepped here with ⟨move, _, other, _⟩ | ⟨meant, _⟩ | there
      · cases other
      · obtain ⟨isOpen, holds⟩ := (sound.dstroys_change authz here).mp meant
        exact absurd ⟨isOpen, single number connection here isOpen holds, holds⟩ foreign
      · exact there

/-- One connection holds a token whose key changes. -/
theorem change_precise_iff_sample : ∃ service after,
    (system sampleRuntime).run {}
      [.transportConnected { config := {} } [sampleHandshake] {} false [sampleConnid] 0] =
        some service ∧
    service.step sampleRuntime (.change 0 (text "mailto:foo@example.com") (some (text "2"))) =
      some after ∧
    (service.Precise after 0 (text "mailto:foo@example.com") (some (text "2")) ↔
      ∀ (number : Nat) (connection : Connection), service.connections[number]? = some connection →
        connection.Open → connection.Holds (text "mailto:foo@example.com") (some (text "2")) →
        connection.transport.authz = 0) := by
  have connected : ((system sampleRuntime).run {} [.transportConnected { config := {} }
      [sampleHandshake] {} false [sampleConnid] 0]).isSome = true := by decide
  obtain ⟨service, ran⟩ := Option.isSome_iff_exists.mp connected
  exact ⟨service, _, ran, rfl, change_precise_iff (TransitionSystem.reachable_of_run ran) rfl⟩

/-- The default keystore changes a key, and the connection of another keystore is destroyed. -/
theorem change_imprecise : ∃ service after,
    (system sampleRuntime).run {}
      [.transportConnected { config := {}, authz := 1 } [sampleHandshake] {} false [sampleConnid] 0] =
        some service ∧
    service.step sampleRuntime (.change 0 (text "mailto:foo@example.com") (some (text "2"))) =
      some after ∧
    ¬service.Precise after 0 (text "mailto:foo@example.com") (some (text "2")) := by
  have connected : (((system sampleRuntime).run {} [.transportConnected { config := {}, authz := 1 }
      [sampleHandshake] {} false [sampleConnid] 0]).bind fun service => service.connections[0]?).map
        (fun connection => decide (connection.accepted = true ∧ connection.closed = false ∧
          connection.Holds (text "mailto:foo@example.com") (some (text "2")) ∧
          connection.transport.authz = 1)) = some true := by decide
  obtain ⟨connection, found, foreign⟩ := Option.map_eq_some_iff.mp connected
  obtain ⟨service, ran, here⟩ := Option.bind_eq_some_iff.mp found
  obtain ⟨accepted, unclosed, holds, other⟩ := of_decide_eq_true foreign
  refine ⟨service, _, ran, rfl, ?_⟩
  intro precise
  have sound := sound_of_reachable (TransitionSystem.reachable_of_run ran)
  have same := sound.authz_of_precise precise here ⟨accepted, unclosed⟩ holds
  rw [other] at same
  cases same

end Service
end Centro
