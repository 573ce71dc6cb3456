import Centro.Construction.Application

namespace Centro

open Library

namespace CentroSubs

variable {subs : CentroSubs} {client handler : Nat} {topic : JsString} {n : JsNumber}

/-- Each map belongs to one property and holds closures that were made with it, and no map that is
left in a property is empty. -/
structure Sound (subs : CentroSubs) : Prop where
  bound : ∀ {client handler map}, subs.find client handler = some map → map < subs.maps.length
  separate : ∀ {client handler other second map}, subs.find client handler = some map →
    subs.find other second = some map → other = client ∧ second = handler
  stored : ∀ {map topic handler2}, (subs.handlers map).get topic = some handler2 →
    handler2.topic = topic ∧ handler2.handlers = map ∧
      subs.find handler2.client handler2.handler = some map ∧
      subs.created[handler2.number]? = some handler2
  numbered : ∀ {number} {handler2 : Handler2}, subs.created[number]? = some handler2 → handler2.number = number
  clientsInhabited : ∀ {handler centroSubs}, subs.clients.get handler = some centroSubs →
    centroSubs.size ≠ 0
  mapsInhabited : ∀ {client handler map}, subs.find client handler = some map →
    (subs.handlers map).size ≠ 0

/-- A client without handlers is sound. -/
theorem sound_empty : ({} : CentroSubs).Sound where
  bound found := nomatch found
  separate found := nomatch found
  stored found := nomatch found
  numbered found := nomatch found
  clientsInhabited found := nomatch found
  mapsInhabited found := nomatch found

/-- What a property holds for a client and a topic was made for them. -/
theorem Sound.mapped (sound : subs.Sound) {handler2 : Handler2}
    (found : subs.mapped client handler topic = some handler2) :
    handler2.client = client ∧ handler2.handler = handler ∧ handler2.topic = topic ∧
      subs.created[handler2.number]? = some handler2 := by
  obtain ⟨map, owner, inside⟩ := Option.bind_eq_some_iff.mp found
  obtain ⟨same, _, owned, made⟩ := sound.stored inside
  obtain ⟨rfl, rfl⟩ := sound.separate owner owned
  exact ⟨rfl, rfl, same, made⟩

/-- A closure is in its map exactly when the property of its handler holds it. -/
theorem Sound.get_iff (sound : subs.Sound) {handler2 : Handler2} :
    (subs.handlers handler2.handlers).get handler2.topic = some handler2 ↔
      subs.mapped handler2.client handler2.handler handler2.topic = some handler2 := by
  constructor
  · intro inside
    exact Option.bind_eq_some_iff.mpr ⟨_, (sound.stored inside).2.2.1, inside⟩
  · intro found
    obtain ⟨map, owner, inside⟩ := Option.bind_eq_some_iff.mp found
    obtain ⟨_, rfl, _⟩ := sound.stored inside
    exact inside

/-- A call of `subscribe` without a closure for the topic makes one and stores it. -/
structure Wrapped (subs after : CentroSubs) (handler2 : Handler2) : Prop where
  number : handler2.number = subs.created.length
  created : after.created = subs.created ++ [handler2]
  found : ∀ client handler, after.find client handler =
    if client = handler2.client ∧ handler = handler2.handler then some handler2.handlers
    else subs.find client handler
  owner : ∀ map, subs.find handler2.client handler2.handler = some map → map = handler2.handlers
  fresh : subs.find handler2.client handler2.handler = none → handler2.handlers = subs.maps.length
  stored : ∀ map, after.handlers map =
    if map = handler2.handlers then (subs.handlers map).set handler2.topic handler2
    else subs.handlers map
  bound : handler2.handlers < after.maps.length
  grown : subs.maps.length ≤ after.maps.length
  inhabited : ∀ handler centroSubs, after.clients.get handler = some centroSubs →
    centroSubs.size ≠ 0 ∨ subs.clients.get handler = some centroSubs

/-- A map that is found is used again. -/
theorem obtain_of_found {map : Nat} (found : subs.find client handler = some map) :
    subs.obtain client handler = (map, subs) := by
  obtain ⟨centroSubs, own, inside⟩ := Option.bind_eq_some_iff.mp found
  simp [obtain, own, inside]

/-- A new map is empty, and no other map changes. -/
theorem obtain_of_absent (absent : subs.find client handler = none) :
    ∃ after, subs.obtain client handler = (subs.maps.length, after) ∧
      after.created = subs.created ∧ after.maps.length = subs.maps.length + 1 ∧
      (∀ map, after.handlers map = subs.handlers map) ∧
      (∀ other second, after.find other second =
        if other = client ∧ second = handler then some subs.maps.length
        else subs.find other second) ∧
      ∀ second centroSubs, after.clients.get second = some centroSubs →
        centroSubs.size ≠ 0 ∨ subs.clients.get second = some centroSubs := by
  have missing : ((subs.clients.get handler).getD .empty).get client = none := by
    cases own : subs.clients.get handler with
    | none => rfl
    | some centroSubs => simpa [find, own] using absent
  refine ⟨{ subs with
    clients := subs.clients.set handler
      (((subs.clients.get handler).getD .empty).set client subs.maps.length)
    maps := subs.maps ++ [.empty] }, by simp only [obtain, missing], rfl, by simp, ?_, ?_, ?_⟩
  · intro map
    by_cases fresh : map = subs.maps.length
    · simp [handlers, fresh]
    · by_cases inside : map < subs.maps.length
      · simp [handlers, List.getElem?_append_left inside]
      · have outside : (subs.maps ++ [OrderedMap.empty]).length ≤ map := by
          simp only [List.length_append, List.length_singleton]
          omega
        simp [handlers, List.getElem?_eq_none outside, List.getElem?_eq_none (Nat.le_of_not_lt inside)]
  · intro other second
    by_cases same : second = handler
    · subst same
      by_cases own : other = client
      · simp [find, own]
      · cases before : subs.clients.get second <;> simp [find, own, before]
    · simp [find, same]
  · intro second centroSubs got
    by_cases same : second = handler
    · left
      simp only [OrderedMap.get_set, if_pos same] at got
      obtain rfl := Option.some.inj got
      intro zero
      simpa using OrderedMap.size_eq_zero.mp zero client
    · right
      simpa only [OrderedMap.get_set, if_neg same] using got

/-- A closure is reused as long as it is mapped. -/
theorem wrap_of_mapped {handler2 : Handler2}
    (found : subs.mapped client handler topic = some handler2) :
    subs.wrap client handler n topic = (handler2, subs) := by
  obtain ⟨map, own, inside⟩ := Option.bind_eq_some_iff.mp found
  simp [wrap, obtain_of_found own, inside]

/-- A topic without a wrapper gets a new one in the map of its handler. -/
theorem wrap_of_obtained {map : Nat} {after : CentroSubs}
    (obtained : subs.obtain client handler = (map, after))
    (missing : (after.handlers map).get topic = none) :
    subs.wrap client handler n topic =
      (⟨after.created.length, client, handler, n, topic, map⟩,
        { after with
          maps := after.maps.set map ((after.handlers map).set topic
            ⟨after.created.length, client, handler, n, topic, map⟩)
          created := after.created ++ [⟨after.created.length, client, handler, n, topic, map⟩] }) := by
  simp only [wrap, obtained, missing]

/-- One map is replaced. -/
theorem handlers_set {after : CentroSubs} {map : Nat} {replaced : OrderedMap JsString Handler2}
    (bound : map < subs.maps.length) (maps : after.maps = subs.maps.set map replaced) (other : Nat) :
    after.handlers other = if other = map then replaced else subs.handlers other := by
  by_cases same : other = map
  · simp [handlers, maps, same, bound]
  · simp [handlers, maps, same, Ne.symm same]

/-- A handler that is not mapped yet is wrapped. -/
theorem wrapped (sound : subs.Sound) (absent : subs.mapped client handler topic = none) :
    ∃ handler2 after, subs.wrap client handler n topic = (handler2, after) ∧
      handler2.client = client ∧ handler2.handler = handler ∧ handler2.n = n ∧
      handler2.topic = topic ∧ Wrapped subs after handler2 := by
  cases found : subs.find client handler with
  | some map =>
      have missing : (subs.handlers map).get topic = none := by simpa [mapped, found] using absent
      have bound := sound.bound found
      refine ⟨_, _, wrap_of_obtained (obtain_of_found found) missing, rfl, rfl, rfl, rfl, rfl, rfl,
        ?_, ?_, ?_, ?_, by simpa using bound, by simp, fun _ _ => .inr⟩
      · intro other second
        split
        · next same => simpa [find, same.1, same.2] using found
        · rfl
      · intro other same
        exact Option.some.inj (same.symm.trans found)
      · intro none
        cases found.symm.trans none
      · intro other
        rw [handlers_set bound rfl]
        split
        · next same => rw [same]
        · rfl
  | none =>
      obtain ⟨after, obtained, created, length, maps, finds, inhabited⟩ := obtain_of_absent found
      have missing : (after.handlers subs.maps.length).get topic = none := by
        rw [maps]
        simp [handlers]
      refine ⟨_, _, wrap_of_obtained obtained missing, rfl, rfl, rfl, rfl, by rw [created],
        by rw [created], finds, ?_, fun _ => rfl, ?_, by simp [length], by simp [length], inhabited⟩
      · intro other same
        cases found.symm.trans same
      · intro other
        rw [handlers_set (show subs.maps.length < after.maps.length by omega) rfl, maps]
        split
        · next same => rw [same]
        · exact maps other

/-- No other property had the map of the new closure before. -/
theorem Wrapped.owned {after : CentroSubs} {handler2 : Handler2} {client handler : Nat}
    (wrapped : Wrapped subs after handler2) (sound : subs.Sound)
    (found : subs.find client handler = some handler2.handlers) :
    client = handler2.client ∧ handler = handler2.handler := by
  cases mine : subs.find handler2.client handler2.handler with
  | some map =>
      obtain rfl := wrapped.owner map mine
      exact sound.separate mine found
  | none =>
      have bound := sound.bound found
      rw [wrapped.fresh mine] at bound
      exact absurd bound (Nat.lt_irrefl _)

/-- A property that had a map keeps it. -/
theorem Wrapped.kept {after : CentroSubs} {handler2 : Handler2} {client handler map : Nat}
    (wrapped : Wrapped subs after handler2) (found : subs.find client handler = some map) :
    after.find client handler = some map := by
  rw [wrapped.found]
  split
  · next same =>
      obtain ⟨rfl, rfl⟩ := same
      rw [wrapped.owner map found]
  · exact found

/-- Afterwards the property holds the new closure for its topic and what it held before for others. -/
theorem Wrapped.mapped {after : CentroSubs} {handler2 : Handler2} (sound : subs.Sound)
    (wrapped : Wrapped subs after handler2) (client handler : Nat) (topic : JsString) :
    after.mapped client handler topic =
      if client = handler2.client ∧ handler = handler2.handler ∧ topic = handler2.topic then
        some handler2
      else subs.mapped client handler topic := by
  by_cases own : client = handler2.client ∧ handler = handler2.handler
  · obtain ⟨rfl, rfl⟩ := own
    have before : subs.mapped handler2.client handler2.handler topic =
        (subs.handlers handler2.handlers).get topic := by
      cases found : subs.find handler2.client handler2.handler with
      | some map => simp [CentroSubs.mapped, found, wrapped.owner map found]
      | none => simp [CentroSubs.mapped, found, wrapped.fresh found, handlers]
    rw [before]
    simp [CentroSubs.mapped, wrapped.found, wrapped.stored]
  · have other : ¬(client = handler2.client ∧ handler = handler2.handler ∧
        topic = handler2.topic) := fun same => own ⟨same.1, same.2.1⟩
    rw [if_neg other, CentroSubs.mapped, wrapped.found, if_neg own, CentroSubs.mapped]
    cases found : subs.find client handler with
    | none => rfl
    | some map =>
        have apart : map ≠ handler2.handlers := by
          rintro rfl
          exact own (wrapped.owned sound found)
        simp [wrapped.stored, apart]

/-- A new wrapper keeps the maps sound. -/
theorem Wrapped.sound {after : CentroSubs} {handler2 : Handler2} (sound : subs.Sound)
    (wrapped : Wrapped subs after handler2) : after.Sound := by
  have apart : ∀ {client handler}, subs.find client handler = some handler2.handlers →
      client = handler2.client ∧ handler = handler2.handler := wrapped.owned sound
  constructor
  · intro client handler map found
    rw [wrapped.found] at found
    split at found
    · obtain rfl := Option.some.inj found
      exact wrapped.bound
    · exact lt_of_lt_of_le (sound.bound found) wrapped.grown
  · intro client handler other second map first last
    rw [wrapped.found] at first last
    split at first <;> split at last
    · next left right => exact ⟨right.1.trans left.1.symm, right.2.trans left.2.symm⟩
    · next left _ =>
        obtain rfl := Option.some.inj first
        exact ⟨(apart last).1.trans left.1.symm, (apart last).2.trans left.2.symm⟩
    · next _ right =>
        obtain rfl := Option.some.inj last
        exact ⟨right.1.trans (apart first).1.symm, right.2.trans (apart first).2.symm⟩
    · exact sound.separate first last
  · intro map topic stored inside
    have before : (subs.handlers map).get topic = some stored → stored.topic = topic ∧
        stored.handlers = map ∧ after.find stored.client stored.handler = some map ∧
        after.created[stored.number]? = some stored := by
      intro inside
      obtain ⟨same, owned, found, made⟩ := sound.stored inside
      refine ⟨same, owned, wrapped.kept found, ?_⟩
      rw [wrapped.created, List.getElem?_append_left (List.getElem?_eq_some_iff.mp made).1]
      exact made
    rw [wrapped.stored] at inside
    split at inside
    · next here =>
        rw [OrderedMap.get_set] at inside
        split at inside
        · next same =>
            obtain rfl := Option.some.inj inside
            refine ⟨same.symm, here.symm, ?_, ?_⟩
            · rw [wrapped.found, if_pos ⟨rfl, rfl⟩, here]
            · rw [wrapped.created, wrapped.number]
              simp
        · exact before inside
    · exact before inside
  · intro number made listed
    rw [wrapped.created, List.getElem?_append] at listed
    split at listed
    · exact sound.numbered listed
    · next outside =>
        rw [List.getElem?_singleton] at listed
        split at listed
        · next last =>
            obtain rfl := Option.some.inj listed
            rw [wrapped.number]
            omega
        · cases listed
  · intro handler centroSubs got
    rcases wrapped.inhabited handler centroSubs got with full | before
    · exact full
    · exact sound.clientsInhabited before
  · intro client handler map found
    rw [wrapped.stored]
    split
    · intro zero
      simpa using OrderedMap.size_eq_zero.mp zero handler2.topic
    · next other =>
        rw [wrapped.found] at found
        split at found
        · exact absurd (Option.some.inj found).symm other
        · exact sound.mapsInhabited found

/-- A call of `unsub` takes a closure out of its map, and an empty map out of the property. -/
structure Removed (subs after : CentroSubs) (handler2 : Handler2) : Prop where
  created : after.created = subs.created
  length : after.maps.length = subs.maps.length
  stored : ∀ map, after.handlers map =
    if map = handler2.handlers then (subs.handlers map).delete handler2.topic
    else subs.handlers map
  found : ∀ client handler, after.find client handler =
    if client = handler2.client ∧ handler = handler2.handler ∧
      ((subs.handlers handler2.handlers).delete handler2.topic).size = 0 then none
    else subs.find client handler
  inhabited : ∀ handler centroSubs, after.clients.get handler = some centroSubs →
    centroSubs.size ≠ 0 ∨ subs.clients.get handler = some centroSubs

/-- A handler that is not mapped is passed on as it is. -/
theorem unsub_of_absent (absent : subs.mapped client handler topic = none) :
    subs.unsub client handler topic = (.handler handler, subs) := by
  cases own : subs.clients.get handler with
  | none => simp only [unsub, own]
  | some centroSubs => cases inside : centroSubs.get client with
      | none => simp only [unsub, own, inside]
      | some map =>
          have missing : (subs.handlers map).get topic = none := by
            simpa [mapped, find, own, inside] using absent
          simp only [unsub, own, inside, missing]

/-- The client is deleted from the property, and the property itself when it was the last one. -/
theorem find_drop {centroSubs : OrderedMap Nat Nat} (own : subs.clients.get handler = some centroSubs)
    (other second : Nat) :
    (subs.drop client handler centroSubs).find other second =
      if other = client ∧ second = handler then none else subs.find other second := by
  by_cases same : second = handler
  · subst same
    by_cases last : (centroSubs.delete client).size = 0
    · have gone := OrderedMap.size_eq_zero.mp last other
      rw [OrderedMap.get_delete] at gone
      simp only [find, drop, last, own]
      split at gone <;> simp_all
    · by_cases mine : other = client <;> simp [find, drop, last, own, mine]
  · by_cases last : (centroSubs.delete client).size = 0 <;> simp [find, drop, last, same]

/-- A mapped handler is passed on as its wrapper and leaves its map. -/
theorem unsub_removed (sound : subs.Sound) {handler2 : Handler2}
    (found : subs.mapped client handler topic = some handler2) :
    ∃ after, subs.unsub client handler topic = (.handler2 handler2, after) ∧
      Removed subs after handler2 := by
  obtain ⟨rfl, rfl, rfl, _⟩ := sound.mapped found
  obtain ⟨map, owner, inside⟩ := Option.bind_eq_some_iff.mp found
  obtain ⟨_, rfl, _⟩ := sound.stored inside
  obtain ⟨centroSubs, own, listed⟩ := Option.bind_eq_some_iff.mp owner
  have bound := sound.bound owner
  obtain ⟨left, rest⟩ : ∃ left, (subs.handlers handler2.handlers).delete handler2.topic = left :=
    ⟨_, rfl⟩
  have unsubbed : subs.unsub handler2.client handler2.handler handler2.topic = (.handler2 handler2,
      if left.size = 0 then
        ({ subs with maps := subs.maps.set handler2.handlers left } : CentroSubs).drop
          handler2.client handler2.handler centroSubs
      else { subs with maps := subs.maps.set handler2.handlers left }) := by
    simp only [unsub, own, listed, inside, rest]
  refine ⟨_, unsubbed, ?_⟩
  have stored : ∀ {after : CentroSubs}, after.maps = subs.maps.set handler2.handlers left →
      ∀ map, after.handlers map =
        if map = handler2.handlers then (subs.handlers map).delete handler2.topic
        else subs.handlers map := by
    intro after maps map
    rw [handlers_set bound maps]
    split
    · next same => rw [same, rest]
    · rfl
  by_cases last : left.size = 0
  · rw [if_pos last]
    refine ⟨rfl, List.length_set, stored rfl, ?_, ?_⟩
    · intro client handler
      refine (find_drop (by exact own) client handler).trans ?_
      simp only [rest, last, and_true]
      rfl
    · intro handler kept got
      by_cases remains : (centroSubs.delete handler2.client).size = 0
      · simp only [drop, remains, if_true, OrderedMap.get_delete] at got
        split at got
        · cases got
        · exact .inr got
      · simp only [drop, remains, if_false, OrderedMap.get_set] at got
        split at got
        · obtain rfl := Option.some.inj got
          exact .inl remains
        · exact .inr got
  · rw [if_neg last]
    refine ⟨rfl, List.length_set, stored rfl, ?_, fun _ _ => .inr⟩
    intro client handler
    simp only [rest, last, and_false, if_false]
    rfl

/-- Afterwards the property holds nothing for the topic and what it held before for others. -/
theorem Removed.mapped {after : CentroSubs} {handler2 : Handler2} (sound : subs.Sound)
    (held : subs.mapped handler2.client handler2.handler handler2.topic = some handler2)
    (removed : Removed subs after handler2) (client handler : Nat) (topic : JsString) :
    after.mapped client handler topic =
      if client = handler2.client ∧ handler = handler2.handler ∧ topic = handler2.topic then none
      else subs.mapped client handler topic := by
  obtain ⟨map, owner, inside⟩ := Option.bind_eq_some_iff.mp held
  obtain ⟨_, rfl, _⟩ := sound.stored inside
  by_cases own : client = handler2.client ∧ handler = handler2.handler
  · obtain ⟨rfl, rfl⟩ := own
    by_cases last : ((subs.handlers handler2.handlers).delete handler2.topic).size = 0
    · have gone := OrderedMap.size_eq_zero.mp last topic
      rw [OrderedMap.get_delete] at gone
      simp only [CentroSubs.mapped, removed.found, last, owner]
      split at gone <;> simp_all
    · simp [CentroSubs.mapped, removed.found, last, removed.stored, owner]
  · have other : ¬(client = handler2.client ∧ handler = handler2.handler ∧
        topic = handler2.topic) := fun same => own ⟨same.1, same.2.1⟩
    have found : after.find client handler = subs.find client handler := by
      rw [removed.found, if_neg fun same => own ⟨same.1, same.2.1⟩]
    rw [if_neg other, CentroSubs.mapped, found, CentroSubs.mapped]
    cases mine : subs.find client handler with
    | none => rfl
    | some map =>
        have apart : map ≠ handler2.handlers := by
          rintro rfl
          exact own (sound.separate owner mine)
        simp [removed.stored, apart]

/-- The removal of a wrapper keeps the maps sound. -/
theorem Removed.sound {after : CentroSubs} {handler2 : Handler2} (sound : subs.Sound)
    (held : subs.mapped handler2.client handler2.handler handler2.topic = some handler2)
    (removed : Removed subs after handler2) : after.Sound := by
  have shrunk : ∀ {client handler map}, after.find client handler = some map →
      subs.find client handler = some map := by
    intro client handler map found
    rw [removed.found] at found
    split at found
    · cases found
    · exact found
  constructor
  · intro client handler map found
    rw [removed.length]
    exact sound.bound (shrunk found)
  · intro client handler other second map first last
    exact sound.separate (shrunk first) (shrunk last)
  · intro map topic stored inside
    have before : (subs.handlers map).get topic = some stored := by
      rw [removed.stored] at inside
      split at inside
      · rw [OrderedMap.get_delete] at inside
        split at inside
        · cases inside
        · exact inside
      · exact inside
    obtain ⟨same, owned, found, made⟩ := sound.stored before
    refine ⟨same, owned, ?_, by rw [removed.created]; exact made⟩
    rw [removed.found, if_neg, found]
    rintro ⟨rightClient, rightHandler, last⟩
    have here : map = handler2.handlers := by
      obtain ⟨other, owner, within⟩ := Option.bind_eq_some_iff.mp held
      obtain ⟨_, rfl, _⟩ := sound.stored within
      rw [rightClient, rightHandler] at found
      exact Option.some.inj (found.symm.trans owner)
    rw [removed.stored, if_pos here, here] at inside
    rw [OrderedMap.size_eq_zero.mp last topic] at inside
    cases inside
  · intro number made listed
    rw [removed.created] at listed
    exact sound.numbered listed
  · intro handler centroSubs got
    rcases removed.inhabited handler centroSubs got with full | before
    · exact full
    · exact sound.clientsInhabited before
  · intro client handler map found
    have before := shrunk found
    rw [removed.stored]
    split
    · next here =>
        intro zero
        subst here
        obtain ⟨other, owner, within⟩ := Option.bind_eq_some_iff.mp held
        obtain ⟨_, rfl, _⟩ := sound.stored within
        obtain ⟨rfl, rfl⟩ := sound.separate owner before
        rw [removed.found, if_pos ⟨rfl, rfl, zero⟩] at found
        cases found
    · exact sound.mapsInhabited before

/-- What a call of `subscribe` does to the properties. -/
theorem Sound.wrap (sound : subs.Sound) {handler2 : Handler2} {after : CentroSubs}
    (ran : subs.wrap client handler n topic = (handler2, after)) :
    after.Sound ∧ handler2.client = client ∧ handler2.handler = handler ∧ handler2.topic = topic ∧
      (∀ other second elsewhere, after.mapped other second elsewhere =
        if other = client ∧ second = handler ∧ elsewhere = topic then some handler2
        else subs.mapped other second elsewhere) ∧
      (subs.mapped client handler topic = some handler2 ∧ after = subs ∨
        subs.mapped client handler topic = none ∧ handler2.number = subs.created.length ∧
          after.created = subs.created ++ [handler2]) := by
  cases held : subs.mapped client handler topic with
  | some stored =>
      obtain ⟨rfl, rfl⟩ := Prod.mk.inj (ran.symm.trans (wrap_of_mapped held))
      obtain ⟨rfl, rfl, rfl, _⟩ := sound.mapped held
      refine ⟨sound, rfl, rfl, rfl, ?_, .inl ⟨rfl, rfl⟩⟩
      intro other second elsewhere
      split
      · next same => rw [same.1, same.2.1, same.2.2, held]
      · rfl
  | none =>
      obtain ⟨made, left, result, rfl, rfl, rfl, rfl, fresh⟩ := wrapped (n := n) sound held
      obtain ⟨rfl, rfl⟩ := Prod.mk.inj (ran.symm.trans result)
      exact ⟨fresh.sound sound, rfl, rfl, rfl, fresh.mapped sound,
        .inr ⟨rfl, fresh.number, fresh.created⟩⟩

/-- What a call of `unsub` does to the properties. -/
theorem Sound.unsub (sound : subs.Sound) {target : Target} {after : CentroSubs}
    (ran : subs.unsub client handler topic = (target, after)) :
    after.Sound ∧ after.created = subs.created ∧
      target = ((subs.mapped client handler topic).map Target.handler2).getD (.handler handler) ∧
      ∀ other second elsewhere, after.mapped other second elsewhere =
        if other = client ∧ second = handler ∧ elsewhere = topic then none
        else subs.mapped other second elsewhere := by
  cases held : subs.mapped client handler topic with
  | none =>
      obtain ⟨rfl, rfl⟩ := Prod.mk.inj (ran.symm.trans (unsub_of_absent held))
      refine ⟨sound, rfl, rfl, ?_⟩
      intro other second elsewhere
      split
      · next same => rw [same.1, same.2.1, same.2.2, held]
      · rfl
  | some stored =>
      obtain ⟨left, unsubbed, removed⟩ := unsub_removed sound held
      obtain ⟨rfl, rfl⟩ := Prod.mk.inj (ran.symm.trans unsubbed)
      obtain ⟨rfl, rfl, rfl, _⟩ := sound.mapped held
      exact ⟨removed.sound sound held, removed.created, rfl, removed.mapped sound held⟩

end CentroSubs
end Centro
