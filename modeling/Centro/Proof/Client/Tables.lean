import Centro.Proof.Client.Subscribers

namespace Centro

open Library

/-- The property of the handler of a closure holds that closure. -/
def CentroSubs.Maps (subs : CentroSubs) (handler2 : Handler2) : Prop :=
  subs.mapped handler2.client handler2.handler handler2.topic = some handler2

namespace Client

/-- The server has not answered a subscription of this closure yet. -/
def Adding (client : Client) (handler2 : Handler2) : Prop :=
  ∃ request ∈ client.requests, request.kind = .subscribe handler2

/-- The server has not answered an unsubscription yet that takes this closure out. -/
def Removing (client : Client) (handler2 : Handler2) : Prop :=
  ∃ request ∈ client.requests, request.topic = handler2.topic ∧
    (request.kind = .unsubscribe .all ∨ request.kind = .unsubscribe (.handler2 handler2))

/-- The client with this number made a closure for a topic. -/
structure Owns (number : Nat) (subs : CentroSubs) (topic : JsString) (handler2 : Handler2) :
    Prop where
  client : handler2.client = number
  topic : handler2.topic = topic
  made : subs.created[handler2.number]? = some handler2

/-- The closures in a request are those of the client, and a closure whose removal was requested is
no longer held. -/
def Asked (number : Nat) (subs : CentroSubs) (request : Request) : Prop :=
  match request.kind with
  | .subscribe handler2 => Owns number subs request.topic handler2
  | .unsubscribe (.handler2 handler2) =>
      Owns number subs request.topic handler2 ∧ ¬subs.Maps handler2
  | .unsubscribe _ => True

/-- The two tables of a client differ only in what outstanding requests will change, and in the
closures that are exempt. -/
structure Consistent (exempt : Handler2 → Prop) (number : Nat) (client : Client)
    (subs : CentroSubs) : Prop where
  owned : ∀ {topic handler2}, handler2 ∈ client.handlersOf topic → Owns number subs topic handler2
  asked : ∀ request ∈ client.requests, Asked number subs request
  listed : ∀ {topic handler2}, handler2 ∈ client.handlersOf topic → ¬exempt handler2 →
    subs.Maps handler2 ∨ client.Removing handler2
  backed : ∀ {handler2 : Handler2}, handler2.client = number → subs.Maps handler2 →
    handler2 ∈ client.handlersOf handler2.topic ∨ client.Adding handler2

/-- Nothing is exempt. -/
abbrev Agrees := Consistent fun _ => False

variable {client : Client} {subs after : CentroSubs} {number : Nat} {exempt : Handler2 → Prop}
  {topic : JsString} {handler : Nat} {target : Target}

/-- A wrapper stays owned while others are created. -/
theorem Owns.mono {handler2 : Handler2} (owns : Owns number subs topic handler2)
    (grown : subs.created <+: after.created) : Owns number after topic handler2 := by
  refine ⟨owns.client, owns.topic, ?_⟩
  obtain ⟨more, same⟩ := grown
  rw [← same, List.getElem?_append_left (List.getElem?_eq_some_iff.mp owns.made).1]
  exact owns.made

/-- Calls of other clients do not matter. -/
theorem Agrees.frame (agrees : client.Agrees number subs)
    (grown : subs.created <+: after.created)
    (same : ∀ handler topic, after.mapped number handler topic = subs.mapped number handler topic) :
    client.Agrees number after := by
  have maps : ∀ {handler2 : Handler2}, handler2.client = number →
      (after.Maps handler2 ↔ subs.Maps handler2) := by
    rintro handler2 rfl
    rw [CentroSubs.Maps, same, CentroSubs.Maps]
  constructor
  · intro topic handler2 member
    exact (agrees.owned member).mono grown
  · intro request member
    have asked := agrees.asked request member
    unfold Asked at asked ⊢
    split at asked
    · exact asked.mono grown
    · exact ⟨asked.1.mono grown, fun held => asked.2 ((maps asked.1.client).mp held)⟩
    · trivial
  · intro topic handler2 member plain
    exact (agrees.listed member plain).imp (maps (agrees.owned member).client).mpr id
  · intro handler2 mine held
    exact agrees.backed mine ((maps mine).mp held)

/-- After a call of `unsub` the closure that was held is exempt. -/
theorem Consistent.unsub (consistent : client.Consistent exempt number subs) (sound : subs.Sound)
    (ran : subs.unsub number handler topic = (target, after)) :
    client.Consistent
      (fun handler2 => exempt handler2 ∨ subs.mapped number handler topic = some handler2)
      number after := by
  obtain ⟨_, created, _, mapped⟩ := sound.unsub ran
  have fewer : ∀ {handler2}, after.Maps handler2 → subs.Maps handler2 := by
    intro handler2 held
    rw [CentroSubs.Maps, mapped] at held
    split at held
    · cases held
    · exact held
  have grown : subs.created <+: after.created :=
    created ▸ List.prefix_refl _
  constructor
  · intro topic handler2 member
    exact (consistent.owned member).mono grown
  · intro request member
    have asked := consistent.asked request member
    unfold Asked at asked ⊢
    split at asked
    · exact asked.mono grown
    · exact ⟨asked.1.mono grown, fun held => asked.2 (fewer held)⟩
    · trivial
  · intro topic handler2 member plain
    obtain ⟨spared, apart⟩ := not_or.mp plain
    refine (consistent.listed member spared).imp (fun held => ?_) id
    rw [CentroSubs.Maps, mapped, if_neg]
    · exact held
    · rintro ⟨rfl, rfl, rfl⟩
      exact apart held
  · intro handler2 mine held
    exact consistent.backed mine (fewer held)

/-- The closures that are exempt are removed now or when the server answers. -/
theorem Consistent.origUnsubscribe (consistent : client.Consistent exempt number subs)
    (released : ∀ handler2, target = .handler2 handler2 → ¬subs.Maps handler2)
    (covers : ∀ handler2, exempt handler2 → handler2.topic = topic ∧
      (target = .all ∨ target = .handler2 handler2)) (sweep : Option Sweep) :
    (client.origUnsubscribe topic target sweep).Agrees number subs := by
  unfold Client.origUnsubscribe
  split
  · next asks =>
      have later : ∀ {handler2}, client.Removing handler2 → (client.ask
          { topic, kind := .unsubscribe target, sweep }).Removing handler2 := by
        rintro handler2 ⟨request, member, same⟩
        exact ⟨request, List.mem_append_left _ member, same⟩
      constructor
      · exact consistent.owned
      · intro request member
        rcases List.mem_append.mp member with old | new
        · exact consistent.asked request old
        · obtain rfl := List.mem_singleton.mp new
          cases target with
          | handler2 closure =>
              exact ⟨consistent.owned (asks_handler2 asks), released closure rfl⟩
          | _ => trivial
      · intro other handler2 member _
        by_cases spared : exempt handler2
        · right
          obtain ⟨same, whole⟩ := covers handler2 spared
          refine ⟨_, List.mem_append_right _ (List.mem_singleton_self _), same.symm, ?_⟩
          exact whole.imp (congrArg RequestKind.unsubscribe) (congrArg RequestKind.unsubscribe)
        · exact (consistent.listed member spared).imp id later
      · intro handler2 mine held
        refine (consistent.backed mine held).imp id ?_
        rintro ⟨request, member, same⟩
        exact ⟨request, List.mem_append_left _ member, same⟩
  · next silent =>
      have quiet : client.asks topic target = false := by simpa using silent
      constructor
      · intro other handler2 member
        exact consistent.owned (mem_unsubscribed.mp member).1
      · intro request member
        rw [unsubscribed_requests] at member
        exact consistent.asked request member
      · intro other handler2 member _
        obtain ⟨before, remains⟩ := mem_unsubscribed.mp member
        have spared : ¬exempt handler2 := by
          intro is
          obtain ⟨rfl, rfl | rfl⟩ := covers handler2 is
          · obtain rfl := (consistent.owned before).topic
            exact not_asks_all quiet handler2 before
          · obtain rfl := (consistent.owned before).topic
            exact (OrderedSet.mem_delete.mp (remains rfl)).2 rfl
        refine (consistent.listed before spared).imp id ?_
        rintro ⟨request, member, same⟩
        exact ⟨request, by rwa [unsubscribed_requests], same⟩
      · intro handler2 mine held
        refine (consistent.backed mine held).imp (fun member => mem_unsubscribed.mpr ⟨member, ?_⟩) ?_
        · intro same
          cases target with
          | all => exact absurd (same ▸ member) (not_asks_all quiet handler2)
          | handler2 closure =>
              refine OrderedSet.mem_delete.mpr ⟨same ▸ member, ?_⟩
              rintro rfl
              exact released _ rfl held
          | handler other => exact same ▸ member
        · rintro ⟨request, member, same⟩
          exact ⟨request, by rwa [unsubscribed_requests], same⟩

/-- A call of `subscribe` holds the closure that it subscribes. -/
theorem Agrees.wrap {n : JsNumber} {handler2 : Handler2} (agrees : client.Agrees number subs)
    (sound : subs.Sound) (ran : subs.wrap number handler n topic = (handler2, after)) :
    (client.origSubscribe topic handler2).Agrees number after := by
  obtain ⟨later, rfl, rfl, rfl, mapped, reused⟩ := sound.wrap ran
  have holds : after.Maps handler2 := by rw [CentroSubs.Maps, mapped, if_pos ⟨rfl, rfl, rfl⟩]
  have grown : subs.created <+: after.created := by
    rcases reused with ⟨_, rfl⟩ | ⟨_, _, created⟩
    · exact List.prefix_refl _
    · exact ⟨_, created.symm⟩
  have owns : Owns handler2.client after handler2.topic handler2 :=
    ⟨rfl, rfl, (later.mapped holds).2.2.2⟩
  have keeps : ∀ {stored : Handler2}, stored ≠ handler2 →
      (after.Maps stored ↔ subs.Maps stored) := by
    intro stored apart
    rw [CentroSubs.Maps, mapped, CentroSubs.Maps]
    split
    · next same =>
        rw [same.1, same.2.1, same.2.2]
        rcases reused with ⟨held, _⟩ | ⟨absent, _, _⟩
        · rw [held]
        · simp [absent, Ne.symm apart]
    · rfl
  have known : subs.created[handler2.number]? = some handler2 → subs.Maps handler2 := by
    intro made
    rcases reused with ⟨held, _⟩ | ⟨_, last, _⟩
    · exact held
    · rw [last, List.getElem?_eq_none le_rfl] at made
      cases made
  have asked : ∀ request ∈ client.requests, Asked handler2.client after request := by
    intro request member
    have before := agrees.asked request member
    unfold Asked at before ⊢
    split at before
    · exact before.mono grown
    · next stored _ =>
        refine ⟨before.1.mono grown, fun held => before.2 ?_⟩
        by_cases same : stored = handler2
        · exact same ▸ known (same ▸ before.1.made)
        · exact (keeps same).mp held
    · trivial
  have listed : ∀ {topic stored}, stored ∈ client.handlersOf topic →
      after.Maps stored ∨ client.Removing stored := by
    intro topic stored member
    by_cases same : stored = handler2
    · exact .inl (same ▸ holds)
    · exact (agrees.listed member id).imp (keeps same).mpr id
  unfold Client.origSubscribe
  split
  · constructor
    · intro topic stored member
      rcases mem_subscribed.mp member with old | ⟨rfl, rfl⟩
      · exact (agrees.owned old).mono grown
      · exact owns
    · intro request member
      rw [subscribed_requests] at member
      exact asked request member
    · intro topic stored member _
      rcases mem_subscribed.mp member with old | ⟨rfl, rfl⟩
      · refine (listed old).imp id ?_
        rintro ⟨request, member, same⟩
        exact ⟨request, by rwa [subscribed_requests], same⟩
      · exact .inl holds
    · intro stored mine held
      by_cases same : stored = handler2
      · exact .inl (mem_subscribed.mpr (.inr ⟨same ▸ rfl, same⟩))
      · refine (agrees.backed mine ((keeps same).mp held)).imp
          (fun member => mem_subscribed.mpr (.inl member)) ?_
        rintro ⟨request, member, same⟩
        exact ⟨request, by rwa [subscribed_requests], same⟩
  · constructor
    · intro topic stored member
      exact (agrees.owned member).mono grown
    · intro request member
      rcases List.mem_append.mp member with old | new
      · exact asked request old
      · obtain rfl := List.mem_singleton.mp new
        exact owns
    · intro topic stored member _
      refine (listed member).imp id ?_
      rintro ⟨request, member, same⟩
      exact ⟨request, List.mem_append_left _ member, same⟩
    · intro stored mine held
      by_cases same : stored = handler2
      · exact .inr ⟨_, List.mem_append_right _ (List.mem_singleton_self _), same ▸ rfl⟩
      · refine (agrees.backed mine ((keeps same).mp held)).imp id ?_
        rintro ⟨request, member, same⟩
        exact ⟨request, List.mem_append_left _ member, same⟩

/-- The answer to a request keeps the tables in agreement. An acknowledged subscription is still
held or about to be removed, a rejected one is not held or backed otherwise, an acknowledged removal
takes only what is subscribed again, and a rejected one leaves only what is held or about to be
removed. The client no longer has the request. -/
def Settles (client : Client) (subs : CentroSubs) (request : Request) (ok : Bool) : Prop :=
  match request.kind, ok with
  | .subscribe handler2, true => subs.Maps handler2 ∨ client.Removing handler2
  | .subscribe handler2, false => subs.Maps handler2 →
      handler2 ∈ client.handlersOf request.topic ∨ client.Adding handler2
  | .unsubscribe .all, true => ∀ handler2 ∈ client.handlersOf request.topic,
      subs.Maps handler2 → client.Adding handler2
  | .unsubscribe .all, false => ∀ handler2 ∈ client.handlersOf request.topic,
      subs.Maps handler2 ∨ client.Removing handler2
  | .unsubscribe (.handler2 handler2), false =>
      handler2 ∈ client.handlersOf request.topic → client.Removing handler2
  | _, _ => True

/-- The client has taken the answered request out of its list. -/
structure Answering (before client : Client) (request : Request) : Prop where
  handlersOf : ∀ topic, client.handlersOf topic = before.handlersOf topic
  fewer : ∀ other ∈ client.requests, other ∈ before.requests
  taken : request ∈ before.requests
  others : ∀ other ∈ before.requests, other ∈ client.requests ∨ other = request

/-- An answer takes its request out. -/
theorem answering {index : Nat} {request : Request} (found : client.requests[index]? = some request) :
    Answering client { client with requests := client.requests.eraseIdx index } request where
  handlersOf _ := rfl
  fewer _ := List.mem_of_mem_eraseIdx
  taken := List.mem_of_getElem? found
  others other member := by
    obtain ⟨place, here⟩ := List.mem_iff_getElem?.mp member
    by_cases same : place = index
    · right
      rw [same, found] at here
      exact (Option.some.inj here).symm
    · exact .inl (List.mem_eraseIdx_iff_getElem?.mpr ⟨place, same, here⟩)

/-- A request that removes a handler is the one answered or still outstanding. -/
theorem Answering.removing {before : Client} {request : Request} {handler2 : Handler2}
    (answering : Answering before client request) (removing : before.Removing handler2) :
    client.Removing handler2 ∨ request.topic = handler2.topic ∧
      (request.kind = .unsubscribe .all ∨ request.kind = .unsubscribe (.handler2 handler2)) := by
  obtain ⟨other, member, same⟩ := removing
  rcases answering.others other member with left | rfl
  · exact .inl ⟨other, left, same⟩
  · exact .inr same

/-- A request that adds a handler is the one answered or still outstanding. -/
theorem Answering.adding {before : Client} {request : Request} {handler2 : Handler2}
    (answering : Answering before client request) (adding : before.Adding handler2) :
    client.Adding handler2 ∨ request.kind = .subscribe handler2 := by
  obtain ⟨other, member, same⟩ := adding
  rcases answering.others other member with left | rfl
  · exact .inl ⟨other, left, same⟩
  · exact .inr same

/-- A rejected request changes nothing but the list of requests. -/
theorem Agrees.rejected {before : Client} {request : Request} (agrees : before.Agrees number subs)
    (answering : Answering before client request) (settles : client.Settles subs request false) :
    client.Agrees number subs where
  owned member := agrees.owned (answering.handlersOf _ ▸ member)
  asked other member := agrees.asked other (answering.fewer other member)
  listed {topic handler2} member _ := by
    rcases agrees.listed (answering.handlersOf _ ▸ member) id with held | removing
    · exact .inl held
    · rcases answering.removing removing with left | ⟨same, kind | kind⟩
      · exact .inr left
      · obtain rfl := (agrees.owned (answering.handlersOf _ ▸ member)).topic
        simp only [Settles, kind] at settles
        exact settles handler2 (same ▸ member)
      · obtain rfl := (agrees.owned (answering.handlersOf _ ▸ member)).topic
        simp only [Settles, kind] at settles
        exact .inr (settles (same ▸ member))
  backed {handler2} mine held := by
    rcases agrees.backed mine held with member | adding
    · exact .inl (answering.handlersOf _ ▸ member)
    · rcases answering.adding adding with left | kind
      · exact .inr left
      · have asked := agrees.asked request answering.taken
        simp only [Settles, kind] at settles
        simp only [Asked, kind] at asked
        exact asked.topic ▸ settles held

/-- An acknowledged subscription stays held, or it is removed soon. -/
theorem Agrees.subscribed {before : Client} {request : Request} {handler2 : Handler2}
    (agrees : before.Agrees number subs) (answering : Answering before client request)
    (kind : request.kind = .subscribe handler2) (settles : client.Settles subs request true) :
    (client.subscribed request.topic handler2).Agrees number subs where
  owned {topic stored} member := by
    rcases mem_subscribed.mp member with old | ⟨rfl, rfl⟩
    · exact agrees.owned (answering.handlersOf _ ▸ old)
    · have asked := agrees.asked request answering.taken
      simpa only [Asked, kind] using asked
  asked other member := by
    rw [subscribed_requests] at member
    exact agrees.asked other (answering.fewer other member)
  listed {topic stored} member _ := by
    have removing : client.Removing stored →
        (client.subscribed request.topic handler2).Removing stored := by
      rintro ⟨other, inside, same⟩
      exact ⟨other, by rwa [subscribed_requests], same⟩
    rcases mem_subscribed.mp member with old | ⟨rfl, rfl⟩
    · rcases agrees.listed (answering.handlersOf _ ▸ old) id with held | before
      · exact .inl held
      · rcases answering.removing before with left | ⟨_, all | one⟩
        · exact .inr (removing left)
        · rw [kind] at all
          cases all
        · rw [kind] at one
          cases one
    · simp only [Settles, kind] at settles
      exact settles.imp id removing
  backed {stored} mine held := by
    rcases agrees.backed mine held with member | adding
    · exact .inl (mem_subscribed.mpr (.inl (answering.handlersOf _ ▸ member)))
    · rcases answering.adding adding with ⟨other, inside, same⟩ | same
      · exact .inr ⟨other, by rwa [subscribed_requests], same⟩
      · rw [kind] at same
        obtain rfl := RequestKind.subscribe.inj same
        have asked := agrees.asked request answering.taken
        simp only [Asked, kind] at asked
        exact .inl (mem_subscribed.mpr (.inr ⟨asked.topic, rfl⟩))

/-- An acknowledged removal takes no closure that is held without being subscribed again. -/
theorem Agrees.unsubscribed {before : Client} {request : Request} {target : Target}
    (agrees : before.Agrees number subs) (answering : Answering before client request)
    (kind : request.kind = .unsubscribe target) (settles : client.Settles subs request true) :
    (client.unsubscribed request.topic target).Agrees number subs where
  owned member := agrees.owned (answering.handlersOf _ ▸ (mem_unsubscribed.mp member).1)
  asked other member := by
    rw [unsubscribed_requests] at member
    exact agrees.asked other (answering.fewer other member)
  listed {topic stored} member _ := by
    obtain ⟨old, remains⟩ := mem_unsubscribed.mp member
    have owned := agrees.owned (answering.handlersOf _ ▸ old)
    rcases agrees.listed (answering.handlersOf _ ▸ old) id with held | removing
    · exact .inl held
    · rcases answering.removing removing with ⟨other, inside, same⟩ | ⟨same, all | one⟩
      · exact .inr ⟨other, by rwa [unsubscribed_requests], same⟩
      · rw [kind] at all
        obtain rfl := RequestKind.unsubscribe.inj all
        exact absurd (remains (owned.topic.symm.trans same.symm)) (OrderedSet.not_mem_empty _)
      · rw [kind] at one
        obtain rfl := RequestKind.unsubscribe.inj one
        exact absurd rfl (OrderedSet.mem_delete.mp
          (remains (owned.topic.symm.trans same.symm))).2
  backed {stored} mine held := by
    have asked := agrees.asked request answering.taken
    have adding : client.Adding stored →
        (client.unsubscribed request.topic target).Adding stored := by
      rintro ⟨other, inside, same⟩
      exact ⟨other, by rwa [unsubscribed_requests], same⟩
    rcases agrees.backed mine held with member | before
    · have here : stored ∈ client.handlersOf stored.topic := answering.handlersOf _ ▸ member
      by_cases same : stored.topic = request.topic
      · cases target with
        | all =>
            simp only [Settles, kind] at settles
            exact .inr (adding (settles stored (same ▸ here) held))
        | handler2 closure =>
            refine .inl (mem_unsubscribed.mpr ⟨here, fun _ => OrderedSet.mem_delete.mpr
              ⟨same ▸ here, ?_⟩⟩)
            rintro rfl
            simp only [Asked, kind] at asked
            exact asked.2 held
        | handler other => exact .inl (mem_unsubscribed.mpr ⟨here, fun _ => same ▸ here⟩)
      · exact .inl (mem_unsubscribed.mpr ⟨here, fun other => absurd other same⟩)
    · rcases answering.adding before with left | same
      · exact .inr (adding left)
      · rw [kind] at same
        cases same

end Client
end Centro
