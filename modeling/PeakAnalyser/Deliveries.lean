import PeakAnalyser.Library.InTransit
import PeakAnalyser.PeakAPI
import Mathlib.Data.List.Nodup

/-!
# Every notification to its own callback

At most one subscription can use a topic at a time, as long as no topic is taken again while
it is in use: `holder` names it. Along a run the callbacks, the subscriptions of the server
and the notifications on their way all belong to the holders of their topics, and a call has
one request or one response on its way. Where no notification is dispatched before its
callback is registered or after it has been removed, each is therefore handed over exactly
once. On the WebSocket connection the response to `Unsubscribe` comes after all
notifications of the subscription, so that only the first of these needs care there.
-/

namespace PeakAnalyser

set_option autoImplicit false

open Runs InTransit

namespace PeakAPIPlace

variable {C : Type}

/-- The calling thread waits for a response. -/
def waits : PeakAPIPlace C → Bool
  | .subscribing _ _ | .unsubscribing _ _ => true
  | _ => false

end PeakAPIPlace

namespace PeakAPI

variable {C : Type} {s t : PeakAPI C}

/-- What a step can do. -/
inductive Moves (s : PeakAPI C) : Label C → PeakAPI C → Prop where
  | subscribed {l : Label C} (call : SubscribeCall) (callback : C) (observableId stateId : UInt64)
      (hplace : s.place = .idle) (hunshared : s.unshared l = s.unused call.method) :
      Moves s l ({ s with observableId, stateId }.startSubscribing call callback)
  | passed {l : Label C} (observableId stateId : UInt64) :
      Moves s l { s with observableId, stateId }
  | unsubscribed {l : Label C} (guid : Nat) (topic : String) (hplace : s.place = .idle)
      (hmem : (guid, topic) ∈ s.subscribers) :
      Moves s l { s with
        place := .unsubscribing guid topic
        request := some (.unsubscribe guid) }
  | granted {l : Label C} (topic : String) (callback : C) (guid : Nat)
      (hplace : s.place = .subscribing topic callback) (hanswer : s.answer = some (.guid guid)) :
      Moves s l { s with place := .registering topic callback guid, answer := none }
  | refused {l : Label C} (r : CallReply) (hwaits : s.place.waits = true)
      (hanswer : s.answer = some r)
      (hr : ∀ topic callback guid, s.place = .subscribing topic callback → r ≠ .guid guid) :
      Moves s l s.thrown
  | registered {l : Label C} (topic : String) (callback : C) (guid : Nat)
      (hplace : s.place = .registering topic callback guid) :
      Moves s l { s with
        place := .recording topic guid
        callbacks := Function.update s.callbacks topic (some callback) }
  | recorded {l : Label C} (topic : String) (guid : Nat) (hplace : s.place = .recording topic guid)
      (subscribers : List (Nat × String))
      (hsub : ∀ a ∈ subscribers, a ∈ s.subscribers ∨ a = (guid, topic)) :
      Moves s l { s with place := .idle, subscribers }
  | released {l : Label C} (guid : Nat) (topic : String) (r : CallReply)
      (hplace : s.place = .unsubscribing guid topic) (hanswer : s.answer = some r)
      (hr : r ≠ .error) :
      Moves s l { s with place := .removing guid topic, answer := none }
  | removed {l : Label C} (guid : Nat) (topic : String) (hplace : s.place = .removing guid topic)
      (hprompt : s.prompt l = true → s.transport = .webSocket ∨
        ∀ n ∈ s.notifications, n.guid ≠ guid) :
      Moves s l { s with
        place := .erasing guid topic
        callbacks := Function.update s.callbacks topic none }
  | erased {l : Label C} (guid : Nat) (topic : String) (hplace : s.place = .erasing guid topic) :
      Moves s l { s with
        place := .idle
        subscribers := s.subscribers.filter fun it => it.1 != guid
        returned := guid :: s.returned }
  | raised {l : Label C} (hwaits : s.place.waits = true)
      (hprompt : s.prompt l = true → ∀ a ∈ s.active, s.place.subscribes a.2 = false) :
      Moves s l s.thrown
  | accepted {l : Label C} (call : SubscribeCall) (topic : String) (callback : C)
      (hrequest : s.request = some (.subscribe call))
      (hplace : s.place = .subscribing topic callback) :
      Moves s l (s.acceptSubscription call.method callback)
  | ended {l : Label C} (guid : Nat) (hrequest : s.request = some (.unsubscribe guid)) :
      Moves s l (s.endSubscription guid)
  | declined {l : Label C} (q : PeakRequest) (hrequest : s.request = some q) : Moves s l s.decline
  | notified {l : Label C} (guid : Nat) (topic : String) (hmem : (guid, topic) ∈ s.active) :
      Moves s l { s with
        sent := s.sent ++ [guid]
        wire := s.wire ++ [.notification ⟨s.sent.length, guid, topic⟩] }
  | dispatched {l : Label C} (index : Nat) (n : SentNotification)
      (hwire : s.wire[index]? = some (.notification n))
      (hfifo : s.transport = .webSocket → index = 0)
      (hprompt : s.prompt l = true → s.place.subscribes n.topic = false) :
      Moves s l { s with wire := s.wire.eraseIdx index, delivered := s.dispatch n }
  | replied {l : Label C} (index : Nat) (r : CallReply)
      (hwire : s.wire[index]? = some (.reply r)) (hfifo : s.transport = .webSocket → index = 0) :
      Moves s l { s with wire := s.wire.eraseIdx index, answer := some r }

theorem moves_unsubscribe {guid : Nat} (h : s.unsubscribe guid = some t) :
    Moves s (.unsubscribe guid) t := by
  unfold unsubscribe at h
  split at h
  · rename_i hplace
    split at h
    · obtain rfl := Option.some.inj h
      exact .passed _ _
    · rename_i it hfind
      obtain rfl := Option.some.inj h
      have hguid : it.1 = guid := by simpa using List.find?_some hfind
      have hmem := List.mem_of_find?_eq_some hfind
      exact .unsubscribed guid it.2 hplace (hguid ▸ hmem)
  · cases h

theorem moves_proceed (h : s.proceed = some t) : Moves s .proceed t := by
  unfold proceed at h
  split at h
  · cases h
  · rename_i topic callback hplace
    split at h
    · cases h
    · rename_i guid hanswer
      obtain rfl := Option.some.inj h
      exact .granted topic callback guid hplace hanswer
    · rename_i r hr hanswer
      obtain rfl := Option.some.inj h
      refine .refused r (by rw [hplace]; rfl) hanswer ?_
      intro _ _ guid _ heq
      exact hr guid heq
  · rename_i topic callback guid hplace
    obtain rfl := Option.some.inj h
    exact .registered topic callback guid hplace
  · rename_i topic guid hplace
    obtain rfl := Option.some.inj h
    refine .recorded topic guid hplace _ ?_
    intro a ha
    split at ha
    · exact .inl ha
    · simpa using ha
  · rename_i guid topic hplace
    split at h
    · cases h
    · rename_i hanswer
      obtain rfl := Option.some.inj h
      refine .refused .error (by rw [hplace]; rfl) hanswer ?_
      intro _ _ _ _
      simp
    · rename_i r hr hanswer
      obtain rfl := Option.some.inj h
      exact .released guid topic r hplace hanswer hr
  · rename_i guid topic hplace
    obtain rfl := Option.some.inj h
    refine .removed guid topic hplace ?_
    intro hprompt
    simpa [prompt, hplace] using hprompt
  · rename_i guid topic hplace
    obtain rfl := Option.some.inj h
    exact .erased guid topic hplace

theorem moves_raise (h : s.raise = some t) : Moves s .raise t := by
  have hwaits : s.place.waits = true ∧ t = s.thrown := by
    unfold raise at h
    split at h
    · rename_i hplace
      exact ⟨by rw [hplace]; rfl, (Option.some.inj h).symm⟩
    · rename_i hplace
      exact ⟨by rw [hplace]; rfl, (Option.some.inj h).symm⟩
    · cases h
  obtain ⟨hwaits, rfl⟩ := hwaits
  refine .raised hwaits ?_
  intro hprompt
  simpa [prompt] using hprompt

theorem moves_serve {accepts : Bool} (h : s.serve accepts = some t) :
    Moves s (.serve accepts) t := by
  unfold serve at h
  split at h
  · rename_i call topic callback hrequest hplace
    obtain rfl := Option.some.inj h
    cases accepts with
    | true => exact .accepted call topic callback hrequest hplace
    | false => exact .declined _ hrequest
  · rename_i guid hrequest
    obtain rfl := Option.some.inj h
    cases accepts with
    | true => exact .ended guid hrequest
    | false => exact .declined _ hrequest
  · cases h

theorem moves_notify {guid : Nat} (h : s.notify guid = some t) : Moves s (.notify guid) t := by
  obtain ⟨a, hfind, rfl⟩ := Option.map_eq_some_iff.mp h
  have hguid : a.1 = guid := by simpa using List.find?_some hfind
  have hmem := List.mem_of_find?_eq_some hfind
  exact .notified guid a.2 (hguid ▸ hmem)

theorem moves_handle {index : Nat} (h : s.handle index = some t) : Moves s (.handle index) t := by
  unfold handle at h
  split at h
  · cases h
  · rename_i hfifo
    have hfirst : s.transport = .webSocket → index = 0 := by
      intro hsocket
      by_contra hindex
      exact hfifo ⟨hsocket, hindex⟩
    split at h
    · cases h
    · rename_i r hwire
      obtain rfl := Option.some.inj h
      exact .replied index r hwire hfirst
    · rename_i n hwire
      obtain rfl := Option.some.inj h
      refine .dispatched index n hwire hfirst ?_
      intro hprompt
      simpa [prompt, hwire] using hprompt

theorem moves_of_step {l : Label C} (h : s.step l = some t) : Moves s l t := by
  cases l with
  | subscribeToObservable observable callback attachmentMode =>
    simp only [step, subscribeToObservable] at h
    split at h
    · rename_i hplace
      obtain rfl := Option.some.inj h
      exact .subscribed _ callback _ s.stateId hplace rfl
    · cases h
  | subscribeToState callback =>
    simp only [step, subscribeToState] at h
    split at h
    · rename_i hplace
      obtain rfl := Option.some.inj h
      exact .subscribed _ callback s.observableId _ hplace rfl
    · cases h
  | unsubscribe guid => exact moves_unsubscribe h
  | proceed => exact moves_proceed h
  | raise => exact moves_raise h
  | otherInstance observables states =>
    obtain rfl := Option.some.inj h
    exact .passed _ _
  | serve accepts => exact moves_serve h
  | notify guid => exact moves_notify h
  | handle index => exact moves_handle h

/-! ## Messages on their way -/

theorem mem_notifications {n : SentNotification} :
    n ∈ s.notifications ↔ .notification n ∈ s.wire := by
  unfold notifications
  rw [List.mem_filterMap]
  constructor
  · intro h
    obtain ⟨m, hm, hn⟩ := h
    cases m with
    | notification _ =>
      obtain rfl := Option.some.inj hn
      exact hm
    | reply _ => cases hn
  · intro h
    exact ⟨_, h, rfl⟩

theorem mem_replies {r : CallReply} : r ∈ s.replies ↔ s.answer = some r ∨ .reply r ∈ s.wire := by
  unfold replies
  rw [List.mem_append, List.mem_filterMap, Option.mem_toList]
  constructor
  · intro h
    rcases h with h | ⟨m, hm, hr⟩
    · exact .inl h
    · cases m with
      | notification _ => cases hr
      | reply _ =>
        obtain rfl := Option.some.inj hr
        exact .inr hm
  · intro h
    rcases h with h | h
    · exact .inl h
    · exact .inr ⟨_, h, rfl⟩

/-- The notifications that come after the response to the call. -/
def behind (s : PeakAPI C) : List SentNotification :=
  match s.answer with
  | some _ => s.notifications
  | none => (s.wire.dropWhile fun m => m.reply?.isNone).filterMap WireMessage.notification?

theorem behind_subset {n : SentNotification} (h : n ∈ s.behind) : n ∈ s.notifications := by
  unfold behind at h
  split at h
  · exact h
  · exact ((List.dropWhile_suffix _).sublist.filterMap _).subset h

theorem notifications_reply {r : CallReply} (hwire : t.wire = s.wire ++ [.reply r]) :
    t.notifications = s.notifications := by
  rw [notifications, hwire, List.filterMap_append]
  exact List.append_nil _

theorem thrown_notifications : s.thrown.notifications = s.notifications := by
  unfold notifications thrown
  simp only [List.filterMap_filter]
  apply List.filterMap_congr
  intro m _
  cases m with
  | notification _ => rfl
  | reply _ => rfl

theorem thrown_replies : s.thrown.replies = [] := by
  rw [List.eq_nil_iff_forall_not_mem]
  intro r hr
  rcases mem_replies.mp hr with h | h
  · cases h
  · obtain ⟨-, hnone⟩ := List.mem_filter.mp h
    cases hnone

/-! ## The holder of a topic -/

/-- The subscription is one of the server, or a notification of it is on its way. -/
def Live (s : PeakAPI C) (guid : Nat) (topic : String) : Prop :=
  (guid, topic) ∈ s.active ∨ ∃ n ∈ s.notifications, n.guid = guid ∧ n.topic = topic

/-- What the server is asked for next is what it has next to what it had. -/
theorem live_accepted {topic : String} {callback : C} {guid : Nat} {u : String}
    (h : (s.acceptSubscription topic callback).Live guid u) :
    s.Live guid u ∨ (guid, u) = (s.accepted.length, topic) := by
  have hnotifications : (s.acceptSubscription topic callback).notifications = s.notifications :=
    notifications_reply rfl
  rw [Live, hnotifications] at h
  rcases h with h | h
  · rcases List.mem_append.mp h with h | h
    · exact .inl (.inl h)
    · exact .inr (List.mem_singleton.mp h)
  · exact .inl (.inr h)

theorem live_ended {ended guid : Nat} {topic : String}
    (h : (s.endSubscription ended).Live guid topic) : s.Live guid topic := by
  have hnotifications : (s.endSubscription ended).notifications = s.notifications :=
    notifications_reply rfl
  rw [Live, hnotifications] at h
  rcases h with h | h
  · exact .inl (List.mem_filter.mp h).1
  · exact .inr h

theorem live_declined {guid : Nat} {topic : String} (h : s.decline.Live guid topic) :
    s.Live guid topic := by
  have hnotifications : s.decline.notifications = s.notifications := notifications_reply rfl
  rw [Live, hnotifications] at h
  exact h

theorem live_thrown {guid : Nat} {topic : String} (h : s.thrown.Live guid topic) :
    s.Live guid topic := by
  rw [Live, thrown_notifications] at h
  exact h

/-- A notification that is sent belongs to a subscription of the server. -/
theorem mem_notified {guid : Nat} {topic : String}
    (hwire : t.wire = s.wire ++ [.notification ⟨s.sent.length, guid, topic⟩])
    {n : SentNotification} (hn : n ∈ t.notifications) :
    n ∈ s.notifications ∨ n = ⟨s.sent.length, guid, topic⟩ := by
  rw [mem_notifications, hwire] at hn
  rcases List.mem_append.mp hn with h | h
  · exact .inl (mem_notifications.mpr h)
  · exact .inr (WireMessage.notification.inj (List.mem_singleton.mp h))

theorem live_notified {guid : Nat} {topic : String} {g : Nat} {u : String} (h : t.Live g u)
    (hmem : (guid, topic) ∈ s.active) (hactive : t.active = s.active)
    (hwire : t.wire = s.wire ++ [.notification ⟨s.sent.length, guid, topic⟩]) : s.Live g u := by
  rcases h with h | ⟨n, hn, rfl, rfl⟩
  · rw [hactive] at h
    exact .inl h
  · rcases mem_notified hwire hn with hn | rfl
    · exact .inr ⟨n, hn, rfl, rfl⟩
    · exact .inl hmem

theorem mem_taken {index : Nat} {n : SentNotification} (hn : n ∈ t.notifications)
    (hwire : t.wire = s.wire.eraseIdx index) : n ∈ s.notifications := by
  rw [mem_notifications, hwire] at hn
  exact mem_notifications.mpr (List.mem_of_mem_eraseIdx hn)

theorem live_taken {index : Nat} {guid : Nat} {topic : String} (h : t.Live guid topic)
    (hwire : t.wire = s.wire.eraseIdx index) (hactive : t.active = s.active) :
    s.Live guid topic := by
  rcases h with h | ⟨n, hn, hguid, htopic⟩
  · rw [hactive] at h
    exact .inl h
  · exact .inr ⟨n, mem_taken hn hwire, hguid, htopic⟩

/-- What the request on its way is, by the place of the calling thread. -/
def Asks (s : PeakAPI C) (q : PeakRequest) : Prop :=
  match s.place, q with
  | .subscribing topic _, .subscribe call => call.method = topic ∧ ∀ guid, ¬ s.Live guid topic
  | .unsubscribing guid _, .unsubscribe g => g = guid
  | _, _ => False

/-- What the response on its way is. -/
def Answers (s : PeakAPI C) (r : CallReply) : Prop :=
  match s.place, r with
  | .subscribing topic callback, .guid guid =>
    (guid, topic) ∈ s.active ∧ s.accepted[guid]? = some (topic, callback) ∧ guid ∉ s.returned
  | .subscribing topic _, .error => ∀ guid, ¬ s.Live guid topic
  | .unsubscribing guid _, .done =>
    guid ∉ s.active.map Prod.fst ∧
      (s.transport = .webSocket → ∀ n ∈ s.behind, n.guid ≠ guid)
  | .unsubscribing _ _, .error => True
  | _, _ => False

/-- What the calling thread relies on at its place. -/
def AtPlace (holder : String → Option Nat) (s : PeakAPI C) : Prop :=
  match s.place with
  | .idle => True
  | .subscribing topic _ => s.callbacks topic = none
  | .registering topic callback guid =>
    holder topic = some guid ∧ s.accepted[guid]? = some (topic, callback) ∧ guid ∉ s.returned
  | .recording topic guid => holder topic = some guid ∧ s.callbacks topic ≠ none
  | .unsubscribing guid topic => (guid, topic) ∈ s.subscribers
  | .removing guid topic =>
    (guid, topic) ∈ s.subscribers ∧ guid ∉ s.active.map Prod.fst ∧
      (s.transport = .webSocket → ∀ n ∈ s.notifications, n.guid ≠ guid)
  | .erasing guid topic => (guid, topic) ∈ s.subscribers ∧ s.callbacks topic = none

/-- Whatever uses a topic belongs to the subscription that holds it. -/
structure Sound (holder : String → Option Nat) (s : PeakAPI C) : Prop where
  live : ∀ guid topic, s.Live guid topic → holder topic = some guid
  held : ∀ topic guid, holder topic = some guid →
    ∃ callback, s.accepted[guid]? = some (topic, callback)
  callbacks : ∀ topic callback, s.callbacks topic = some callback →
    ∃ guid, holder topic = some guid ∧ s.accepted[guid]? = some (topic, callback)
  subscribers : ∀ guid topic, (guid, topic) ∈ s.subscribers →
    holder topic = some guid ∧
      (s.callbacks topic ≠ none ∨ s.place = .erasing guid topic)
  returned : ∀ guid topic, guid ∈ s.returned → holder topic = some guid →
    s.callbacks topic = none
  known : ∀ guid ∈ s.returned, guid < s.accepted.length
  single : s.request.toList.length + s.replies.length = if s.place.waits then 1 else 0
  asks : ∀ q, s.request = some q → s.Asks q
  answers : ∀ r ∈ s.replies, s.Answers r
  place : AtPlace holder s

variable {holder : String → Option Nat}

theorem sound_start (transport : Transport) :
    Sound (C := C) (fun _ => none) (start transport) where
  live := by
    intro guid topic h
    rcases h with h | ⟨n, hn, -⟩
    · cases h
    · cases hn
  held := by
    intro topic guid h
    cases h
  callbacks := by
    intro topic callback h
    cases h
  subscribers := by
    intro guid topic h
    cases h
  returned := by
    intro guid topic h
    cases h
  known := by
    intro guid h
    cases h
  single := rfl
  asks := by
    intro q h
    cases h
  answers := by
    intro r h
    cases h
  place := trivial

theorem not_erasing (hwaits : s.place.waits = true) (guid : Nat) (topic : String) :
    s.place ≠ .erasing guid topic := by
  intro herasing
  rw [herasing] at hwaits
  cases hwaits

namespace Sound

variable (hs : Sound holder s)

include hs

theorem idle_quiet (hwaits : s.place.waits = false) : s.request = none ∧ s.replies = [] := by
  have hsingle := hs.single
  rw [hwaits, if_neg Bool.false_ne_true] at hsingle
  constructor
  · cases hrequest : s.request with
    | none => rfl
    | some q =>
      rw [hrequest] at hsingle
      simp at hsingle
  · apply List.eq_nil_of_length_eq_zero
    omega

/-- Beside a response there is nothing else. -/
theorem of_reply {r : CallReply} (hr : r ∈ s.replies) :
    s.place.waits = true ∧ s.request = none ∧ s.replies = [r] := by
  have hsingle := hs.single
  have hpos := List.length_pos_of_mem hr
  have hwaits : s.place.waits = true := by
    by_contra hwaits
    rw [if_neg hwaits] at hsingle
    omega
  rw [if_pos hwaits] at hsingle
  have hone : s.replies.length = 1 := by omega
  obtain ⟨a, ha⟩ := List.length_eq_one_iff.mp hone
  rw [ha, List.mem_singleton] at hr
  refine ⟨hwaits, ?_, by rw [ha, hr]⟩
  cases hrequest : s.request with
  | none => rfl
  | some q =>
    rw [hrequest, hone] at hsingle
    simp at hsingle

theorem of_answer {r : CallReply} (hanswer : s.answer = some r) :
    s.request = none ∧ s.Answers r ∧ ∀ q, .reply q ∉ s.wire := by
  have hmem := mem_replies.mpr (.inl hanswer)
  obtain ⟨-, hrequest, hone⟩ := hs.of_reply hmem
  refine ⟨hrequest, hs.answers r hmem, ?_⟩
  intro q hq
  have hwire : q ∈ s.wire.filterMap WireMessage.reply? :=
    List.mem_filterMap.mpr ⟨_, hq, rfl⟩
  rw [replies, hanswer] at hone
  have hnil : s.wire.filterMap WireMessage.reply? = [] := by simpa using hone
  rw [hnil] at hwire
  cases hwire

/-- Beside a request there is nothing else. -/
theorem of_request {q : PeakRequest} (hrequest : s.request = some q) :
    s.place.waits = true ∧ s.replies = [] := by
  have hsingle := hs.single
  rw [hrequest] at hsingle
  have hwaits : s.place.waits = true := by
    by_contra hwaits
    rw [if_neg hwaits] at hsingle
    simp at hsingle
  rw [if_pos hwaits] at hsingle
  refine ⟨hwaits, List.eq_nil_of_length_eq_zero ?_⟩
  simpa using hsingle

/-- The entry of a subscriber is only left without a callback while it is being erased. -/
theorem kept_callback {guid : Nat} {topic : String} (h : (guid, topic) ∈ s.subscribers)
    (hplace : s.place ≠ .erasing guid topic) : s.callbacks topic ≠ none := by
  rcases (hs.subscribers guid topic h).2 with hcallback | herasing
  · exact hcallback
  · exact absurd herasing hplace

/-- A thread that is erasing nothing leaves every subscriber with its callback. -/
theorem kept_subscribers (hplace : ∀ guid topic, s.place ≠ .erasing guid topic)
    {place : PeakAPIPlace C} (guid : Nat) (topic : String) (h : (guid, topic) ∈ s.subscribers) :
    holder topic = some guid ∧
      (s.callbacks topic ≠ none ∨ place = .erasing guid topic) :=
  ⟨(hs.subscribers guid topic h).1, .inl (hs.kept_callback h (hplace guid topic))⟩

theorem subscribed {call : SubscribeCall} {callback : C} {observableId stateId : UInt64}
    (hplace : s.place = .idle) (hunused : s.unused call.method = true) :
    Sound holder ({ s with observableId, stateId }.startSubscribing call callback) := by
  obtain ⟨hrequest, hreplies⟩ := hs.idle_quiet (by rw [hplace]; rfl)
  have hfree : s.callbacks call.method = none ∧ ∀ guid, ¬ s.Live guid call.method := by
    simp only [unused, Bool.and_eq_true, Option.isNone_iff_eq_none, Bool.not_eq_true',
      List.any_eq_false, beq_iff_eq] at hunused
    refine ⟨hunused.1.1, ?_⟩
    intro guid hlive
    rcases hlive with hactive | ⟨n, hn, -, htopic⟩
    · exact hunused.1.2 _ hactive rfl
    · exact hunused.2 n hn htopic
  exact { hs with
    subscribers := hs.kept_subscribers (by simp [hplace])
    single := by
      have hnil : ({ s with observableId, stateId }.startSubscribing call callback).replies = [] :=
        hreplies
      rw [hnil]
      rfl
    asks := by
      intro q hq
      obtain rfl := Option.some.inj hq
      exact ⟨rfl, hfree.2⟩
    answers := by
      intro r hr
      have hnone : r ∈ s.replies := hr
      rw [hreplies] at hnone
      cases hnone
    place := hfree.1 }

theorem passed {observableId stateId : UInt64} : Sound holder { s with observableId, stateId } :=
  { hs with }

theorem unsubscribed {guid : Nat} {topic : String} (hplace : s.place = .idle)
    (hmem : (guid, topic) ∈ s.subscribers) :
    Sound holder { s with
      place := .unsubscribing guid topic
      request := some (.unsubscribe guid) } := by
  obtain ⟨hrequest, hreplies⟩ := hs.idle_quiet (by rw [hplace]; rfl)
  exact { hs with
    subscribers := hs.kept_subscribers (by simp [hplace])
    single := by
      have hnil : PeakAPI.replies { s with
          place := .unsubscribing guid topic
          request := some (.unsubscribe guid) } = [] := hreplies
      rw [hnil]
      rfl
    asks := by
      intro q hq
      obtain rfl := Option.some.inj hq
      rfl
    answers := by
      intro r hr
      have hnone : r ∈ s.replies := hr
      rw [hreplies] at hnone
      cases hnone
    place := hmem }

/-- The thread takes the response and goes on at a place where it does not wait. -/
theorem answered {r : CallReply} {place : PeakAPIPlace C} (hanswer : s.answer = some r)
    (hwaits : place.waits = false)
    (hplace : AtPlace holder { s with place, answer := none }) :
    Sound holder { s with place, answer := none } := by
  obtain ⟨hrequest, -, hwire⟩ := hs.of_answer hanswer
  have hwaiting := (hs.of_reply (mem_replies.mpr (.inl hanswer))).1
  have hnone : ∀ q, q ∉ PeakAPI.replies { s with place, answer := none } := by
    intro q hq
    rcases mem_replies.mp hq with h | h
    · cases h
    · exact hwire q h
  exact { hs with
    subscribers := hs.kept_subscribers (not_erasing hwaiting)
    single := by
      rw [List.eq_nil_iff_forall_not_mem.mpr hnone]
      simp only [hwaits, hrequest]
      rfl
    asks := by
      intro q hq
      have hsome : s.request = some q := hq
      rw [hrequest] at hsome
      cases hsome
    answers := by
      intro q hq
      exact absurd hq (hnone q)
    place := hplace }

theorem granted {topic : String} {callback : C} {guid : Nat}
    (hplace : s.place = .subscribing topic callback) (hanswer : s.answer = some (.guid guid)) :
    Sound holder { s with place := .registering topic callback guid, answer := none } := by
  obtain ⟨-, hfits, -⟩ := hs.of_answer hanswer
  simp only [Answers, hplace] at hfits
  obtain ⟨hactive, haccepted, hreturned⟩ := hfits
  exact hs.answered hanswer rfl ⟨hs.live guid topic (.inl hactive), haccepted, hreturned⟩

/-- Every response to `Unsubscribe` but an error comes from the server that has ended the
subscription. -/
theorem of_released {guid : Nat} {topic : String} {r : CallReply}
    (hplace : s.place = .unsubscribing guid topic) (hanswer : s.answer = some r)
    (hr : r ≠ .error) :
    guid ∉ s.active.map Prod.fst ∧
      (s.transport = .webSocket → ∀ n ∈ s.notifications, n.guid ≠ guid) := by
  obtain ⟨-, hfits, -⟩ := hs.of_answer hanswer
  simp only [Answers, hplace] at hfits
  cases r with
  | guid g => cases hfits
  | error => exact absurd rfl hr
  | done =>
    refine ⟨hfits.1, ?_⟩
    intro hsocket n hn
    apply hfits.2 hsocket n
    unfold behind
    rw [hanswer]
    exact hn

theorem released {guid : Nat} {topic : String} {r : CallReply}
    (hplace : s.place = .unsubscribing guid topic) (hanswer : s.answer = some r)
    (hr : r ≠ .error) :
    Sound holder { s with place := .removing guid topic, answer := none } := by
  have hmem := hs.place
  rw [AtPlace, hplace] at hmem
  exact hs.answered hanswer rfl ⟨hmem, hs.of_released hplace hanswer hr⟩

theorem thrown (hwaits : s.place.waits = true) : Sound holder s.thrown := by
  exact { hs with
    live := by
      intro guid topic h
      exact hs.live guid topic (live_thrown h)
    subscribers := hs.kept_subscribers (not_erasing hwaits)
    single := by
      rw [thrown_replies]
      rfl
    asks := by
      intro q hq
      cases hq
    answers := by
      intro r hr
      rw [thrown_replies] at hr
      cases hr
    place := trivial }

/-- The thread goes on without a response, at a place where it does not wait either. -/
theorem quiet {u : PeakAPI C} (hold : s.place.waits = false) (hnew : u.place.waits = false)
    (hrequest : u.request = s.request) (hreplies : u.replies = s.replies) :
    u.request.toList.length + u.replies.length = (if u.place.waits then 1 else 0) ∧
      (∀ q, u.request = some q → u.Asks q) ∧ ∀ r ∈ u.replies, u.Answers r := by
  obtain ⟨hnone, hnil⟩ := hs.idle_quiet hold
  rw [hrequest, hreplies, hnone, hnil, hnew]
  refine ⟨rfl, ?_, ?_⟩
  · intro q hq
    cases hq
  · intro r hr
    cases hr

theorem registered {topic : String} {callback : C} {guid : Nat}
    (hplace : s.place = .registering topic callback guid) :
    Sound holder { s with
      place := .recording topic guid
      callbacks := Function.update s.callbacks topic (some callback) } := by
  obtain ⟨hsingle, hasks, hanswers⟩ := hs.quiet
    (u := { s with
      place := .recording topic guid
      callbacks := Function.update s.callbacks topic (some callback) })
    (by rw [hplace]; rfl) rfl rfl rfl
  have hat := hs.place
  rw [AtPlace, hplace] at hat
  obtain ⟨hholder, haccepted, hreturned⟩ := hat
  have hown : Function.update s.callbacks topic (some callback) topic = some callback :=
    Function.update_self ..
  have hother : ∀ u, u ≠ topic →
      Function.update s.callbacks topic (some callback) u = s.callbacks u := by
    intro u htopic
    exact Function.update_of_ne htopic ..
  exact { hs with
    callbacks := by
      intro u c h
      by_cases htopic : u = topic
      · subst htopic
        obtain rfl := Option.some.inj (hown.symm.trans h)
        exact ⟨guid, hholder, haccepted⟩
      · exact hs.callbacks u c ((hother u htopic).symm.trans h)
    subscribers := by
      intro g u h
      refine ⟨(hs.subscribers g u h).1, .inl ?_⟩
      intro hnone
      by_cases htopic : u = topic
      · subst htopic
        cases hown.symm.trans hnone
      · refine hs.kept_callback h ?_ ((hother u htopic).symm.trans hnone)
        rw [hplace]
        simp
    returned := by
      intro g u hg hu
      by_cases htopic : u = topic
      · subst htopic
        rw [hholder] at hu
        obtain rfl := Option.some.inj hu
        exact absurd hg hreturned
      · exact (hother u htopic).trans (hs.returned g u hg hu)
    single := hsingle
    asks := hasks
    answers := hanswers
    place := by
      refine ⟨hholder, ?_⟩
      intro hnone
      cases hown.symm.trans hnone }

theorem recorded {topic : String} {guid : Nat} (hplace : s.place = .recording topic guid)
    {subscribers : List (Nat × String)}
    (hsub : ∀ a ∈ subscribers, a ∈ s.subscribers ∨ a = (guid, topic)) :
    Sound holder { s with place := .idle, subscribers } := by
  obtain ⟨hsingle, hasks, hanswers⟩ := hs.quiet
    (u := { s with place := .idle, subscribers }) (by rw [hplace]; rfl) rfl rfl rfl
  have hat := hs.place
  rw [AtPlace, hplace] at hat
  exact { hs with
    subscribers := by
      intro g u h
      rcases hsub _ h with hold | hnew
      · refine ⟨(hs.subscribers g u hold).1, .inl (hs.kept_callback hold ?_)⟩
        rw [hplace]
        simp
      · obtain ⟨rfl, rfl⟩ := Prod.mk.inj hnew
        exact ⟨hat.1, .inl hat.2⟩
    single := hsingle
    asks := hasks
    answers := hanswers
    place := trivial }

theorem removed {guid : Nat} {topic : String} (hplace : s.place = .removing guid topic) :
    Sound holder { s with
      place := .erasing guid topic
      callbacks := Function.update s.callbacks topic none } := by
  obtain ⟨hsingle, hasks, hanswers⟩ := hs.quiet
    (u := { s with
      place := .erasing guid topic
      callbacks := Function.update s.callbacks topic none })
    (by rw [hplace]; rfl) rfl rfl rfl
  have hat := hs.place
  rw [AtPlace, hplace] at hat
  have hholder := (hs.subscribers guid topic hat.1).1
  have hown : Function.update s.callbacks topic none topic = none := Function.update_self ..
  have hother : ∀ u, u ≠ topic → Function.update s.callbacks topic none u = s.callbacks u := by
    intro u htopic
    exact Function.update_of_ne htopic ..
  exact { hs with
    callbacks := by
      intro u c h
      by_cases htopic : u = topic
      · subst htopic
        cases hown.symm.trans h
      · exact hs.callbacks u c ((hother u htopic).symm.trans h)
    subscribers := by
      intro g u h
      have hu := (hs.subscribers g u h).1
      refine ⟨hu, ?_⟩
      by_cases htopic : u = topic
      · subst htopic
        rw [hholder] at hu
        obtain rfl := Option.some.inj hu
        exact .inr rfl
      · left
        intro hnone
        refine hs.kept_callback h ?_ ((hother u htopic).symm.trans hnone)
        rw [hplace]
        simp
    returned := by
      intro g u hg hu
      by_cases htopic : u = topic
      · subst htopic
        exact hown
      · exact (hother u htopic).trans (hs.returned g u hg hu)
    single := hsingle
    asks := hasks
    answers := hanswers
    place := ⟨hat.1, hown⟩ }

theorem erased {guid : Nat} {topic : String} (hplace : s.place = .erasing guid topic) :
    Sound holder { s with
      place := .idle
      subscribers := s.subscribers.filter fun it => it.1 != guid
      returned := guid :: s.returned } := by
  obtain ⟨hsingle, hasks, hanswers⟩ := hs.quiet
    (u := { s with
      place := .idle
      subscribers := s.subscribers.filter fun it => it.1 != guid
      returned := guid :: s.returned })
    (by rw [hplace]; rfl) rfl rfl rfl
  have hat := hs.place
  rw [AtPlace, hplace] at hat
  obtain ⟨callback, haccepted⟩ := hs.held topic guid (hs.subscribers guid topic hat.1).1
  exact { hs with
    subscribers := by
      intro g u h
      obtain ⟨hmem, hne⟩ := List.mem_filter.mp h
      refine ⟨(hs.subscribers g u hmem).1, .inl (hs.kept_callback hmem ?_)⟩
      rw [hplace]
      intro herasing
      cases herasing
      simp at hne
    returned := by
      intro g u hg hu
      rcases List.mem_cons.mp hg with rfl | hg
      · obtain ⟨c, hc⟩ := hs.held u g hu
        rw [haccepted] at hc
        cases hc
        exact hat.2
      · exact hs.returned g u hg hu
    known := by
      intro g hg
      rcases List.mem_cons.mp hg with rfl | hg
      · exact (List.getElem?_eq_some_iff.mp haccepted).1
      · exact hs.known g hg
    single := hsingle
    asks := hasks
    answers := hanswers
    place := trivial }

/-- A response joins what is on its way, and the request has been taken. -/
theorem reply_sent {q : PeakRequest} (hrequest : s.request = some q) {r : CallReply}
    {u : PeakAPI C} (hplace : u.place = s.place) (hnone : u.request = none)
    (hanswer : u.answer = s.answer) (hwire : u.wire = s.wire ++ [.reply r]) :
    u.request.toList.length + u.replies.length = (if u.place.waits then 1 else 0) ∧
      (∀ a, u.request = some a → u.Asks a) ∧ (u.Answers r → ∀ a ∈ u.replies, u.Answers a) := by
  obtain ⟨hwaits, hnil⟩ := hs.of_request hrequest
  have hone : u.replies = [r] := by
    obtain ⟨hleft, hright⟩ := List.append_eq_nil_iff.mp hnil
    rw [replies, hanswer, hwire, hleft, List.filterMap_append, hright]
    rfl
  rw [hone, hplace, hwaits, hnone]
  refine ⟨rfl, ?_, ?_⟩
  · intro a ha
    cases ha
  · intro h a ha
    rw [List.mem_singleton] at ha
    rw [ha]
    exact h

/-- A request to end a subscription is that of the calling thread. -/
theorem of_unsubscribe {guid : Nat} (hrequest : s.request = some (.unsubscribe guid)) :
    ∃ topic, s.place = .unsubscribing guid topic := by
  have hfits := hs.asks _ hrequest
  unfold Asks at hfits
  split at hfits
  · rename_i hother
    cases hother
  · rename_i hplace hguid
    obtain rfl := PeakRequest.unsubscribe.inj hguid
    obtain rfl := hfits
    exact ⟨_, hplace⟩
  · cases hfits

theorem accepted {call : SubscribeCall} {topic : String} {callback : C}
    (hrequest : s.request = some (.subscribe call))
    (hplace : s.place = .subscribing topic callback) :
    Sound (Function.update holder topic (some s.accepted.length))
      (s.acceptSubscription call.method callback) := by
  obtain ⟨hsingle, hasks, hanswers⟩ := hs.reply_sent hrequest (r := .guid s.accepted.length)
    (u := s.acceptSubscription call.method callback) rfl rfl rfl rfl
  have hfits := hs.asks _ hrequest
  simp only [Asks, hplace] at hfits
  obtain ⟨rfl, hunused⟩ := hfits
  have hcallback := hs.place
  rw [AtPlace, hplace] at hcallback
  have hnew : (s.accepted ++ [(call.method, callback)])[s.accepted.length]? =
      some (call.method, callback) := List.getElem?_concat_length
  have hold : ∀ {guid : Nat} {a : String × C}, s.accepted[guid]? = some a →
      (s.accepted ++ [(call.method, callback)])[guid]? = some a := by
    intro guid a h
    rw [List.getElem?_append_left (List.getElem?_eq_some_iff.mp h).1]
    exact h
  have hheld : ∀ {u : String} {guid : Nat}, u ≠ call.method → holder u = some guid →
      Function.update holder call.method (some s.accepted.length) u = some guid := by
    intro u guid htopic h
    rw [Function.update_of_ne htopic]
    exact h
  refine { hs with
    live := ?_, held := ?_, callbacks := ?_, subscribers := ?_, returned := ?_, known := ?_
    single := hsingle, asks := hasks, answers := hanswers ?_, place := ?_ }
  · intro guid u h
    rcases live_accepted h with hlive | heq
    · apply hheld ?_ (hs.live guid u hlive)
      intro htopic
      subst htopic
      exact hunused guid hlive
    · obtain ⟨rfl, rfl⟩ := Prod.mk.inj heq
      exact Function.update_self ..
  · intro u guid h
    by_cases htopic : u = call.method
    · subst htopic
      rw [Function.update_self] at h
      obtain rfl := Option.some.inj h
      exact ⟨callback, hnew⟩
    · rw [Function.update_of_ne htopic] at h
      obtain ⟨c, hc⟩ := hs.held u guid h
      exact ⟨c, hold hc⟩
  · intro u c h
    have hc : s.callbacks u = some c := h
    obtain ⟨guid, hholder, haccepted⟩ := hs.callbacks u c hc
    refine ⟨guid, hheld ?_ hholder, hold haccepted⟩
    intro htopic
    subst htopic
    rw [hcallback] at hc
    cases hc
  · intro guid u h
    have hkept : s.callbacks u ≠ none := hs.kept_callback h (by rw [hplace]; simp)
    refine ⟨hheld ?_ (hs.subscribers guid u h).1, .inl hkept⟩
    intro htopic
    subst htopic
    exact hkept hcallback
  · intro guid u hguid h
    by_cases htopic : u = call.method
    · subst htopic
      exact hcallback
    · rw [Function.update_of_ne htopic] at h
      exact hs.returned guid u hguid h
  · intro guid hguid
    have hlt := hs.known guid hguid
    simp only [acceptSubscription, List.length_append, List.length_singleton]
    omega
  · simp only [Answers, acceptSubscription, hplace]
    refine ⟨List.mem_append_right _ List.mem_cons_self, hnew, ?_⟩
    intro hreturned
    have hlt := hs.known _ hreturned
    omega
  · rw [AtPlace]
    simp only [acceptSubscription, hplace]
    exact hcallback

theorem ended {guid : Nat} (hrequest : s.request = some (.unsubscribe guid)) :
    Sound holder (s.endSubscription guid) := by
  obtain ⟨hsingle, hasks, hanswers⟩ := hs.reply_sent hrequest (r := .done)
    (u := s.endSubscription guid) rfl rfl rfl rfl
  obtain ⟨topic, hplace⟩ := hs.of_unsubscribe hrequest
  have hat := hs.place
  rw [AtPlace, hplace] at hat
  have hreplies := (hs.of_request hrequest).2
  have hbehind : (s.endSubscription guid).behind = [] := by
    obtain ⟨hleft, hright⟩ := List.append_eq_nil_iff.mp hreplies
    have hall : s.wire.dropWhile (fun m => m.reply?.isNone) = [] := by
      rw [List.dropWhile_eq_nil_iff]
      intro m hm
      have hnone := List.filterMap_eq_nil_iff.mp hright m hm
      rw [hnone]
      rfl
    rw [behind]
    simp only [endSubscription, Option.toList_eq_nil_iff.mp hleft, List.dropWhile_append, hall]
    rfl
  refine { hs with
    live := ?_
    single := hsingle
    asks := hasks
    answers := hanswers ?_
    place := ?_ }
  · intro g u h
    exact hs.live g u (live_ended h)
  · simp only [Answers, endSubscription, hplace]
    constructor
    · intro hmem
      obtain ⟨a, ha, heq⟩ := List.mem_map.mp hmem
      obtain ⟨-, hne⟩ := List.mem_filter.mp ha
      simp [heq] at hne
    · intro _ n hn
      have hnil : n ∈ (s.endSubscription guid).behind := hn
      rw [hbehind] at hnil
      cases hnil
  · rw [AtPlace]
    simp only [endSubscription, hplace]
    exact hat

/-- The server has refused. -/
theorem declined {q : PeakRequest} (hrequest : s.request = some q) : Sound holder s.decline := by
  obtain ⟨hsingle, hasks, hanswers⟩ := hs.reply_sent hrequest (r := .error) (u := s.decline)
    rfl rfl rfl rfl
  have hnotifications : s.decline.notifications = s.notifications := notifications_reply rfl
  have hfits := hs.asks _ hrequest
  have hat := hs.place
  refine { hs with
    live := ?_
    single := hsingle
    asks := hasks
    answers := hanswers ?_
    place := ?_ }
  · intro guid topic h
    exact hs.live guid topic (live_declined h)
  · unfold Asks at hfits
    split at hfits
    · rename_i hplace
      simp only [Answers, decline, hplace]
      intro guid h
      exact hfits.2 guid (live_declined h)
    · rename_i hplace
      simp only [Answers, decline, hplace]
    · cases hfits
  · unfold AtPlace at hat ⊢
    rw [hnotifications]
    exact hat

/-- Only messages have moved. -/
theorem moved {sent : List Nat} {wire : List WireMessage} {delivered : List (Nat × C)}
    {answer : Option CallReply} {u : PeakAPI C} (hu : u = { s with sent, wire, delivered, answer })
    (hlive : ∀ guid topic, u.Live guid topic → s.Live guid topic)
    (hreplies : u.replies.Perm s.replies)
    (hnotifications : ∀ n ∈ u.notifications,
      n ∈ s.notifications ∨ n.guid ∈ s.active.map Prod.fst)
    (hbehind : s.transport = .webSocket → ∀ n ∈ u.behind,
      n ∈ s.behind ∨ n.guid ∈ s.active.map Prod.fst) :
    Sound holder u := by
  subst hu
  refine { hs with
    live := ?_
    single := ?_
    asks := ?_
    answers := ?_
    place := ?_ }
  · intro guid topic h
    exact hs.live guid topic (hlive guid topic h)
  · rw [hreplies.length_eq]
    exact hs.single
  · intro q hq
    have hfits := hs.asks q hq
    unfold Asks at hfits ⊢
    split at hfits
    · rename_i hplace
      simp only [hplace]
      exact ⟨hfits.1, fun guid h => hfits.2 guid (hlive guid _ h)⟩
    · rename_i hplace
      simp only [hplace]
      exact hfits
    · cases hfits
  · intro r hr
    have hfits := hs.answers r (hreplies.mem_iff.mp hr)
    unfold Answers at hfits ⊢
    split at hfits
    · rename_i hplace
      simp only [hplace]
      exact hfits
    · rename_i hplace
      simp only [hplace]
      intro guid h
      exact hfits guid (hlive guid _ h)
    · rename_i guid topic hplace
      simp only [hplace]
      refine ⟨hfits.1, ?_⟩
      intro hsocket n hn hguid
      rcases hbehind hsocket n hn with h | h
      · exact hfits.2 hsocket n h hguid
      · rw [hguid] at h
        exact hfits.1 h
    · rename_i hplace
      simp only [hplace]
    · cases hfits
  · have hat := hs.place
    unfold AtPlace at hat ⊢
    cases hplace : s.place with
    | removing guid topic =>
      simp only [hplace] at hat ⊢
      refine ⟨hat.1, hat.2.1, ?_⟩
      intro hsocket n hn hguid
      rcases hnotifications n hn with h | h
      · exact hat.2.2 hsocket n h hguid
      · rw [hguid] at h
        exact hat.2.1 h
    | idle => trivial
    | _ =>
      simp only [hplace] at hat ⊢
      exact hat

theorem notified {guid : Nat} {topic : String} (hmem : (guid, topic) ∈ s.active) :
    Sound holder { s with
      sent := s.sent ++ [guid]
      wire := s.wire ++ [.notification ⟨s.sent.length, guid, topic⟩] } := by
  have hguid : guid ∈ s.active.map Prod.fst := List.mem_map.mpr ⟨_, hmem, rfl⟩
  obtain ⟨u, hu⟩ : ∃ u : PeakAPI C, u = { s with
      sent := s.sent ++ [guid]
      wire := s.wire ++ [.notification ⟨s.sent.length, guid, topic⟩] } := ⟨_, rfl⟩
  have hwire : u.wire = s.wire ++ [.notification ⟨s.sent.length, guid, topic⟩] := by rw [hu]
  rw [← hu]
  apply hs.moved hu
  · intro g v h
    exact live_notified h hmem (by rw [hu]) hwire
  · rw [replies, hwire, List.filterMap_append, hu]
    exact .of_eq (congrArg _ (List.append_nil _))
  · intro n hn
    rcases mem_notified hwire hn with hn | rfl
    · exact .inl hn
    · exact .inr hguid
  · intro _ n hn
    cases hanswer : s.answer with
    | some r =>
      rcases mem_notified hwire (behind_subset hn) with h | rfl
      · rw [behind, hanswer]
        exact .inl h
      · exact .inr hguid
    | none =>
      have hnone : u.answer = none := by rw [hu]; exact hanswer
      rw [behind, hnone, hwire] at hn
      obtain ⟨m, hm, hsome⟩ := List.mem_filterMap.mp hn
      rcases mem_dropWhile_append hm with hm | rfl
      · left
        rw [behind, hanswer]
        exact List.mem_filterMap.mpr ⟨m, hm, hsome⟩
      · obtain rfl := Option.some.inj hsome
        exact .inr hguid

theorem dispatched {index : Nat} {n : SentNotification}
    (hwire : s.wire[index]? = some (.notification n))
    (hfifo : s.transport = .webSocket → index = 0) {delivered : List (Nat × C)} :
    Sound holder { s with wire := s.wire.eraseIdx index, delivered } := by
  apply hs.moved rfl
  · intro guid topic h
    exact live_taken h rfl rfl
  · exact (((perm_eraseIdx hwire).filterMap WireMessage.reply?).append_left _).symm
  · intro m hm
    exact .inl (mem_taken hm rfl)
  · intro hsocket m hm
    left
    obtain rfl := hfifo hsocket
    obtain ⟨rest, hrest⟩ := eq_cons_of_getElem?_zero hwire
    unfold behind at hm ⊢
    cases hanswer : s.answer with
    | some r =>
      simp only [hanswer] at hm
      exact mem_taken hm rfl
    | none =>
      simp only [hanswer, hrest] at hm ⊢
      exact hm

theorem replied {index : Nat} {r : CallReply} (hwire : s.wire[index]? = some (.reply r))
    (hfifo : s.transport = .webSocket → index = 0) :
    Sound holder { s with wire := s.wire.eraseIdx index, answer := some r } := by
  have hperm := perm_eraseIdx hwire
  have hmem : r ∈ s.replies := mem_replies.mpr (.inr (List.mem_of_getElem? hwire))
  have hone := (hs.of_reply hmem).2.2
  have hnone : s.answer = none := by
    have hpos : 0 < (s.wire.filterMap WireMessage.reply?).length :=
      List.length_pos_of_mem (List.mem_filterMap.mpr ⟨_, List.mem_of_getElem? hwire, rfl⟩)
    have hlength := congrArg List.length hone
    rw [replies, List.length_append, List.length_singleton] at hlength
    rw [← Option.toList_eq_nil_iff]
    apply List.eq_nil_of_length_eq_zero
    omega
  apply hs.moved rfl
  · intro guid topic h
    exact live_taken h rfl rfl
  · unfold replies
    rw [hnone]
    exact (hperm.filterMap WireMessage.reply?).symm
  · intro m hm
    exact .inl (mem_taken hm rfl)
  · intro hsocket m hm
    left
    obtain rfl := hfifo hsocket
    obtain ⟨rest, hrest⟩ := eq_cons_of_getElem?_zero hwire
    have hafter : m ∈ PeakAPI.notifications
        { s with wire := s.wire.eraseIdx 0, answer := some r } := hm
    unfold notifications at hafter
    unfold behind
    simp only [hrest, hnone] at hafter ⊢
    exact hafter

end Sound

/-- Each step keeps the uses of every topic in one hand, though a subscription that is accepted
becomes the new holder of its topic. -/
theorem sound_moves {l : Label C} (hs : Sound holder s) (hunshared : s.unshared l = true)
    (h : Moves s l t) : ∃ holder, Sound holder t := by
  cases h with
  | subscribed call callback observableId stateId hplace hunused =>
    exact ⟨holder, hs.subscribed hplace (hunused ▸ hunshared)⟩
  | passed observableId stateId => exact ⟨holder, hs.passed⟩
  | unsubscribed guid topic hplace hmem => exact ⟨holder, hs.unsubscribed hplace hmem⟩
  | granted topic callback guid hplace hanswer => exact ⟨holder, hs.granted hplace hanswer⟩
  | refused r hwaits hanswer hr => exact ⟨holder, hs.thrown hwaits⟩
  | registered topic callback guid hplace => exact ⟨holder, hs.registered hplace⟩
  | recorded topic guid hplace subscribers hsub => exact ⟨holder, hs.recorded hplace hsub⟩
  | released guid topic r hplace hanswer hr => exact ⟨holder, hs.released hplace hanswer hr⟩
  | removed guid topic hplace _ => exact ⟨holder, hs.removed hplace⟩
  | erased guid topic hplace => exact ⟨holder, hs.erased hplace⟩
  | raised hwaits _ => exact ⟨holder, hs.thrown hwaits⟩
  | accepted call topic callback hrequest hplace => exact ⟨_, hs.accepted hrequest hplace⟩
  | ended guid hrequest => exact ⟨holder, hs.ended hrequest⟩
  | declined q hrequest => exact ⟨holder, hs.declined hrequest⟩
  | notified guid topic hmem => exact ⟨holder, hs.notified hmem⟩
  | dispatched index n hwire hfifo _ => exact ⟨holder, hs.dispatched hwire hfifo⟩
  | replied index r hwire hfifo => exact ⟨holder, hs.replied hwire hfifo⟩

theorem sound_run {transport : Transport}
    (h : Run (step (C := C)) (fun s l => s.unshared l = true) (start transport) s) :
    ∃ holder, Sound holder s := by
  refine Run.invariant (P := fun s => ∃ holder, Sound holder s) ?_ h ⟨_, sound_start transport⟩
  intro a l b ha hok hstep
  obtain ⟨holder, hs⟩ := ha
  exact sound_moves hs hok (moves_of_step hstep)

/-- What has been unsubscribed holds a topic without a callback, if any. -/
theorem silentAfterUnsubscribe (hs : Sound holder s) : s.SilentAfterUnsubscribe := by
  intro index n t hwire hreturned h
  have hholder := hs.live n.guid n.topic
    (.inr ⟨n, mem_notifications.mpr (List.mem_of_getElem? hwire), rfl, rfl⟩)
  have hnone := hs.returned n.guid n.topic hreturned hholder
  have hdispatch : s.dispatch n = s.delivered := by
    rw [dispatch, hnone]
    exact List.append_nil _
  simp only [step, handle, hwire] at h
  split at h
  · cases h
  · obtain rfl := Option.some.inj h
    exact hdispatch

/-! ## Exactly once -/

/-- A topic in use has its callback, or is about to have it. -/
def Covered (s : PeakAPI C) : Prop :=
  ∀ guid topic, s.Live guid topic → s.place.subscribes topic = true ∨ s.callbacks topic ≠ none

namespace Covered

variable (hc : s.Covered)

include hc

/-- Nothing is used that was not, and no callback is taken away. -/
theorem mono (hlive : ∀ guid topic, t.Live guid topic → s.Live guid topic)
    (hplace : ∀ topic, s.place.subscribes topic = true → t.place.subscribes topic = true)
    (hcallbacks : t.callbacks = s.callbacks) : t.Covered := by
  intro guid topic h
  rcases hc guid topic (hlive guid topic h) with hsubscribes | hcallback
  · exact .inl (hplace topic hsubscribes)
  · rw [← hcallbacks] at hcallback
    exact .inr hcallback

/-- The thread is not at a call for a subscription. -/
theorem elsewhere (hlive : ∀ guid topic, t.Live guid topic → s.Live guid topic)
    (hplace : ∀ topic, s.place.subscribes topic = false)
    (hcallbacks : t.callbacks = s.callbacks) : t.Covered := by
  apply hc.mono hlive ?_ hcallbacks
  intro topic hsubscribes
  rw [hplace] at hsubscribes
  cases hsubscribes

/-- A call may end with an exception where nothing uses its topic. -/
theorem thrown (hfree : ∀ guid topic, s.Live guid topic → s.place.subscribes topic = false) :
    s.thrown.Covered := by
  intro guid topic h
  have hlive := live_thrown h
  rcases hc guid topic hlive with hsubscribes | hcallback
  · rw [hfree guid topic hlive] at hsubscribes
    cases hsubscribes
  · exact .inr hcallback

theorem registered {topic : String} {callback : C} {guid : Nat}
    (hplace : s.place = .registering topic callback guid) :
    Covered { s with
      place := .recording topic guid
      callbacks := Function.update s.callbacks topic (some callback) } := by
  intro g u h
  right
  intro hnone
  have hlive : s.Live g u := h
  by_cases htopic : u = topic
  · subst htopic
    cases (Function.update_self u (some callback) s.callbacks).symm.trans hnone
  · rcases hc g u hlive with hsubscribes | hcallback
    · rw [hplace] at hsubscribes
      exact htopic (beq_iff_eq.mp hsubscribes).symm
    · exact hcallback ((Function.update_of_ne htopic (some callback) s.callbacks).symm.trans hnone)

/-- The callback may be taken away once nothing of its subscription is left. -/
theorem removed (hs : Sound holder s) {guid : Nat} {topic : String}
    (hplace : s.place = .removing guid topic)
    (hgone : s.transport = .webSocket ∨ ∀ n ∈ s.notifications, n.guid ≠ guid) :
    Covered { s with
      place := .erasing guid topic
      callbacks := Function.update s.callbacks topic none } := by
  have hat := hs.place
  rw [AtPlace, hplace] at hat
  obtain ⟨hmem, hactive, hsocket⟩ := hat
  have hnotifications : ∀ n ∈ s.notifications, n.guid ≠ guid := by
    rcases hgone with htransport | hgone
    · exact hsocket htransport
    · exact hgone
  have hholder := (hs.subscribers guid topic hmem).1
  intro g u h
  right
  intro hnone
  have hlive : s.Live g u := h
  by_cases htopic : u = topic
  · subst htopic
    have hu := hs.live g u hlive
    rw [hholder] at hu
    obtain rfl := Option.some.inj hu
    rcases hlive with h | ⟨n, hn, hguid, -⟩
    · exact hactive (List.mem_map.mpr ⟨_, h, rfl⟩)
    · exact hnotifications n hn hguid
  · rcases hc g u hlive with hsubscribes | hcallback
    · rw [hplace] at hsubscribes
      cases hsubscribes
    · exact hcallback ((Function.update_of_ne htopic none s.callbacks).symm.trans hnone)

theorem accepted {call : SubscribeCall} {topic : String} {callback : C}
    (hs : Sound holder s) (hrequest : s.request = some (.subscribe call))
    (hplace : s.place = .subscribing topic callback) :
    Covered (s.acceptSubscription call.method callback) := by
  have hfits := hs.asks _ hrequest
  simp only [Asks, hplace] at hfits
  obtain ⟨rfl, -⟩ := hfits
  intro g u h
  rcases live_accepted h with hlive | heq
  · exact hc g u hlive
  · obtain ⟨rfl, rfl⟩ := Prod.mk.inj heq
    left
    simp only [acceptSubscription, hplace, PeakAPIPlace.subscribes, beq_self_eq_true]

end Covered

/-- Where the server has no subscription yet under the topic that the thread asks for, nothing
uses the topic. -/
theorem free_of_waits (hs : Sound holder s) (hwaits : s.place.waits = true)
    (hactive : ∀ a ∈ s.active, s.place.subscribes a.2 = false) {guid : Nat} {topic : String}
    (h : s.Live guid topic) : s.place.subscribes topic = false := by
  cases hplace : s.place with
  | subscribing u callback =>
    rw [hplace] at hactive
    rw [PeakAPIPlace.subscribes, beq_eq_false_iff_ne]
    intro htopic
    subst htopic
    cases hrequest : s.request with
    | some q =>
      have hfits := hs.asks q hrequest
      cases q with
      | subscribe call =>
        simp only [Asks, hplace] at hfits
        exact hfits.2 guid h
      | unsubscribe g =>
        simp only [Asks, hplace] at hfits
    | none =>
      have hsingle := hs.single
      rw [hwaits, hrequest, if_pos rfl] at hsingle
      obtain ⟨r, hr⟩ : ∃ r, r ∈ s.replies := by
        apply List.exists_mem_of_length_pos
        simp only [Option.toList_none, List.length_nil] at hsingle
        omega
      have hfits := hs.answers r hr
      cases r with
      | guid g =>
        simp only [Answers, hplace] at hfits
        have hnone := hactive _ hfits.1
        simp [PeakAPIPlace.subscribes] at hnone
      | done => simp only [Answers, hplace] at hfits
      | error =>
        simp only [Answers, hplace] at hfits
        exact hfits guid h
  | registering u callback g =>
    rw [hplace] at hwaits
    cases hwaits
  | _ => rfl

/-- A call for a subscription that ends with an error was refused by the server. -/
theorem free_of_refused (hs : Sound holder s) {r : CallReply} (hanswer : s.answer = some r)
    (hr : ∀ topic callback guid, s.place = .subscribing topic callback → r ≠ .guid guid)
    {guid : Nat} {topic : String} (h : s.Live guid topic) :
    s.place.subscribes topic = false := by
  obtain ⟨-, hfits, -⟩ := hs.of_answer hanswer
  cases hplace : s.place with
  | subscribing u callback =>
    rw [PeakAPIPlace.subscribes, beq_eq_false_iff_ne]
    intro htopic
    subst htopic
    cases r with
    | guid g => exact hr u callback g hplace rfl
    | done => simp only [Answers, hplace] at hfits
    | error =>
      simp only [Answers, hplace] at hfits
      exact hfits guid h
  | registering u callback g => simp only [Answers, hplace] at hfits
  | _ => rfl

theorem covered_moves {l : Label C} (hs : Sound holder s) (hc : s.Covered)
    (hprompt : s.prompt l = true) (h : Moves s l t) : t.Covered := by
  cases h with
  | subscribed call callback observableId stateId hplace hunused =>
    exact hc.elsewhere (fun _ _ h => h) (fun _ => by rw [hplace]; rfl) rfl
  | passed observableId stateId => exact hc.mono (fun _ _ h => h) (fun _ h => h) rfl
  | unsubscribed guid topic hplace hmem =>
    exact hc.elsewhere (fun _ _ h => h) (fun _ => by rw [hplace]; rfl) rfl
  | granted topic callback guid hplace hanswer =>
    refine hc.mono (fun _ _ h => h) ?_ rfl
    intro u hsubscribes
    rw [hplace] at hsubscribes
    exact hsubscribes
  | refused r hwaits hanswer hr => exact hc.thrown fun _ _ => free_of_refused hs hanswer hr
  | registered topic callback guid hplace => exact hc.registered hplace
  | recorded topic guid hplace subscribers hsub =>
    exact hc.elsewhere (fun _ _ h => h) (fun _ => by rw [hplace]; rfl) rfl
  | released guid topic r hplace hanswer hr =>
    exact hc.elsewhere (fun _ _ h => h) (fun _ => by rw [hplace]; rfl) rfl
  | removed guid topic hplace hgone => exact hc.removed hs hplace (hgone hprompt)
  | erased guid topic hplace =>
    exact hc.elsewhere (fun _ _ h => h) (fun _ => by rw [hplace]; rfl) rfl
  | raised hwaits hactive =>
    exact hc.thrown fun _ _ => free_of_waits hs hwaits (hactive hprompt)
  | accepted call topic callback hrequest hplace => exact hc.accepted hs hrequest hplace
  | ended guid hrequest => exact hc.mono (fun _ _ => live_ended) (fun _ h => h) rfl
  | declined q hrequest => exact hc.mono (fun _ _ => live_declined) (fun _ h => h) rfl
  | notified guid topic hmem =>
    exact hc.mono (fun _ _ h => live_notified h hmem rfl rfl) (fun _ h => h) rfl
  | dispatched index n hwire hfifo _ =>
    exact hc.mono (fun _ _ h => live_taken h rfl rfl) (fun _ h => h) rfl
  | replied index r hwire hfifo =>
    exact hc.mono (fun _ _ h => live_taken h rfl rfl) (fun _ h => h) rfl

/-- Once the thread has registered it, the callback of a topic in use is that of the
subscription. -/
theorem callback_of_live (hs : Sound holder s) (hc : s.Covered) {guid : Nat} {topic : String}
    (h : s.Live guid topic) (hplace : s.place.subscribes topic = false) :
    ∃ callback, s.callbacks topic = some callback ∧
      s.accepted[guid]? = some (topic, callback) := by
  rcases hc guid topic h with hsubscribes | hcallback
  · rw [hplace] at hsubscribes
    cases hsubscribes
  · obtain ⟨callback, hsome⟩ := Option.ne_none_iff_exists'.mp hcallback
    obtain ⟨g, hholder, haccepted⟩ := hs.callbacks topic callback hsome
    rw [hs.live guid topic h] at hholder
    obtain rfl := Option.some.inj hholder
    exact ⟨callback, hsome, haccepted⟩

/-- The notifications on their way are told apart by their numbers, and those that are not on
their way have been handed over. -/
structure Counted (s : PeakAPI C) : Prop where
  numbers : (s.notifications.map SentNotification.number).Nodup
  origin : ∀ n ∈ s.notifications, s.sent[n.number]? = some n.guid
  bound : ∀ d ∈ s.delivered, d.1 < s.sent.length
  each : s.EachDelivered

theorem counted_start (transport : Transport) : Counted (C := C) (start transport) where
  numbers := List.nodup_nil
  origin := by
    intro n hn
    cases hn
  bound := by
    intro d hd
    cases hd
  each := by
    intro number guid h
    cases h

namespace Counted

variable (hn : s.Counted)

include hn

theorem frame (hnotifications : t.notifications = s.notifications) (hsent : t.sent = s.sent)
    (hdelivered : t.delivered = s.delivered)
    (haccepted : ∀ (guid : Nat) (a : String × C), s.accepted[guid]? = some a →
      t.accepted[guid]? = some a) : t.Counted where
  numbers := by
    rw [hnotifications]
    exact hn.numbers
  origin := by
    rw [hnotifications, hsent]
    exact hn.origin
  bound := by
    rw [hdelivered, hsent]
    exact hn.bound
  each := by
    intro number guid h
    rw [hsent] at h
    obtain ⟨topic, callback, ha, hfilter⟩ := hn.each number guid h
    refine ⟨topic, callback, haccepted guid _ ha, ?_⟩
    rw [hdelivered, hnotifications]
    exact hfilter

theorem number_lt {n : SentNotification} (h : n ∈ s.notifications) :
    n.number < s.sent.length :=
  (List.getElem?_eq_some_iff.mp (hn.origin n h)).1

theorem notified (hs : Sound holder s) {guid : Nat} {topic : String}
    (hmem : (guid, topic) ∈ s.active) :
    Counted { s with
      sent := s.sent ++ [guid]
      wire := s.wire ++ [.notification ⟨s.sent.length, guid, topic⟩] } := by
  have hnotifications : PeakAPI.notifications { s with
      sent := s.sent ++ [guid]
      wire := s.wire ++ [.notification ⟨s.sent.length, guid, topic⟩] } =
      s.notifications ++ [⟨s.sent.length, guid, topic⟩] := by
    unfold notifications
    rw [List.filterMap_append]
    rfl
  have hfresh : s.sent.length ∉ s.notifications.map SentNotification.number := by
    intro h
    obtain ⟨n, hmemn, heq⟩ := List.mem_map.mp h
    have hlt := hn.number_lt hmemn
    omega
  have hsent : ∀ {number g : Nat}, s.sent[number]? = some g →
      (s.sent ++ [guid])[number]? = some g := by
    intro number g h
    rw [List.getElem?_append_left (List.getElem?_eq_some_iff.mp h).1]
    exact h
  refine ⟨?_, ?_, ?_, ?_⟩
  · rw [hnotifications, List.map_append, List.map_singleton]
    exact List.nodup_append'.mpr ⟨hn.numbers, List.nodup_singleton _,
      List.disjoint_singleton.mpr hfresh⟩
  · rw [hnotifications]
    intro n h
    rcases List.mem_append.mp h with h | h
    · exact hsent (hn.origin n h)
    · obtain rfl := List.mem_singleton.mp h
      exact List.getElem?_concat_length
  · intro d hd
    have hlt := hn.bound d hd
    simp only [List.length_append, List.length_singleton]
    omega
  · intro number g h
    rw [hnotifications, List.map_append, List.map_singleton]
    have hlt := (List.getElem?_eq_some_iff.mp h).1
    simp only [List.length_append, List.length_singleton] at hlt
    by_cases hnumber : number = s.sent.length
    · subst hnumber
      have hg : (s.sent ++ [guid])[s.sent.length]? = some g := h
      rw [List.getElem?_concat_length] at hg
      obtain rfl := Option.some.inj hg
      obtain ⟨callback, hcallback⟩ := hs.held topic guid (hs.live guid topic (.inl hmem))
      refine ⟨topic, callback, hcallback, ?_⟩
      rw [if_pos (List.mem_append_right _ List.mem_cons_self), List.filter_eq_nil_iff]
      intro d hd hd'
      have hlt := hn.bound d hd
      have heq := beq_iff_eq.mp hd'
      omega
    · have hold : s.sent[number]? = some g := by
        rw [← h]
        exact (List.getElem?_append_left (by omega)).symm
      obtain ⟨u, callback, ha, hfilter⟩ := hn.each number g hold
      refine ⟨u, callback, ha, hfilter.trans ?_⟩
      simp [hnumber]

theorem dispatched (hs : Sound holder s) (hc : s.Covered) {index : Nat} {n : SentNotification}
    (hwire : s.wire[index]? = some (.notification n))
    (hplace : s.place.subscribes n.topic = false) :
    Counted { s with wire := s.wire.eraseIdx index, delivered := s.dispatch n } := by
  have hmem : n ∈ s.notifications := mem_notifications.mpr (List.mem_of_getElem? hwire)
  have hperm := (perm_eraseIdx hwire).filterMap WireMessage.notification?
  obtain ⟨rest, hrest⟩ : ∃ rest : List SentNotification, rest = PeakAPI.notifications
      { s with wire := s.wire.eraseIdx index, delivered := s.dispatch n } := ⟨_, rfl⟩
  have hnumbers : (s.notifications.map SentNotification.number).Perm
      (n.number :: rest.map SentNotification.number) := by
    rw [hrest]
    exact hperm.map SentNotification.number
  obtain ⟨hfresh, hnodup⟩ := List.nodup_cons.mp (hnumbers.nodup_iff.mp hn.numbers)
  obtain ⟨callback, hcallback, haccepted⟩ :=
    callback_of_live hs hc (.inr ⟨n, hmem, rfl, rfl⟩) hplace
  have hdelivered : s.dispatch n = s.delivered ++ [(n.number, callback)] := by
    rw [dispatch, hcallback]
    rfl
  refine ⟨?_, ?_, ?_, ?_⟩
  · rw [← hrest]
    exact hnodup
  · intro m hm
    exact hn.origin m (mem_taken hm rfl)
  · intro d hd
    have hcases : d ∈ s.delivered ++ [(n.number, callback)] := hdelivered ▸ hd
    rcases List.mem_append.mp hcases with h | h
    · exact hn.bound d h
    · obtain rfl := List.mem_singleton.mp h
      exact hn.number_lt hmem
  · intro number guid h
    rw [← hrest]
    simp only [hdelivered, List.filter_append]
    by_cases hnumber : number = n.number
    · subst hnumber
      have hguid : s.sent[n.number]? = some guid := h
      rw [hn.origin n hmem] at hguid
      obtain rfl := Option.some.inj hguid
      obtain ⟨u, c, ha, hfilter⟩ := hn.each n.number n.guid h
      rw [haccepted] at ha
      cases ha
      refine ⟨n.topic, callback, haccepted, ?_⟩
      rw [hfilter, if_pos (List.mem_map.mpr ⟨n, hmem, rfl⟩), if_neg hfresh]
      simp
    · obtain ⟨u, c, ha, hfilter⟩ := hn.each number guid h
      refine ⟨u, c, ha, ?_⟩
      have hmembers : number ∈ s.notifications.map SentNotification.number ↔
          number ∈ rest.map SentNotification.number := by
        rw [hnumbers.mem_iff, List.mem_cons]
        simp [hnumber]
      have hother : ((n.number, callback).1 == number) = false := by
        rw [beq_eq_false_iff_ne]
        exact fun heq => hnumber heq.symm
      rw [hfilter, List.filter_singleton, hother]
      simp only [hmembers, cond_false, List.append_nil]

end Counted

theorem counted_moves {l : Label C} (hs : Sound holder s) (hc : s.Covered) (hn : s.Counted)
    (hprompt : s.prompt l = true) (h : Moves s l t) : t.Counted := by
  cases h with
  | accepted call topic callback hrequest hplace =>
    refine hn.frame (notifications_reply rfl) rfl rfl ?_
    intro guid a h
    exact (List.getElem?_append_left (List.getElem?_eq_some_iff.mp h).1).trans h
  | ended guid hrequest => exact hn.frame (notifications_reply rfl) rfl rfl fun _ _ h => h
  | declined q hrequest => exact hn.frame (notifications_reply rfl) rfl rfl fun _ _ h => h
  | refused r hwaits hanswer hr => exact hn.frame thrown_notifications rfl rfl fun _ _ h => h
  | raised hwaits hactive => exact hn.frame thrown_notifications rfl rfl fun _ _ h => h
  | notified guid topic hmem => exact hn.notified hs hmem
  | dispatched index n hwire hfifo hplace => exact hn.dispatched hs hc hwire (hplace hprompt)
  | replied index r hwire hfifo =>
    exact hn.frame (filterMap_eraseIdx hwire rfl) rfl rfl fun _ _ h => h
  | _ => exact hn.frame rfl rfl rfl fun _ _ h => h

/-- Along a run in which no topic is shared and nothing is dispatched too early or too late,
the invariants hold together. -/
theorem counted_run {transport : Transport}
    (h : Run (step (C := C)) (fun s l => (s.unshared l && s.prompt l) = true)
      (start transport) s) :
    (∃ holder, Sound holder s) ∧ s.Covered ∧ s.Counted := by
  refine Run.invariant (P := fun s => (∃ holder, Sound holder s) ∧ s.Covered ∧ s.Counted) ?_ h ?_
  · intro a l b ha hok hstep
    obtain ⟨⟨holder, hs⟩, hc, hn⟩ := ha
    obtain ⟨hunshared, hprompt⟩ := (Bool.and_eq_true _ _).mp hok
    have hmoves := moves_of_step hstep
    exact ⟨sound_moves hs hunshared hmoves, covered_moves hs hc hprompt hmoves,
      counted_moves hs hc hn hprompt hmoves⟩
  · refine ⟨⟨_, sound_start transport⟩, ?_, counted_start transport⟩
    intro guid topic hlive
    rcases hlive with hlive | ⟨n, hn, -⟩
    · cases hlive
    · cases hn

/-- Where no topic is taken while it is in use, nothing is handed over after `unsubscribe` has
returned; and where moreover every callback is registered before the first notification of its
subscription is dispatched, and over HTTP removed after the last, each notification goes to the
callback of its subscription, once. -/
theorem notifications_delivered (transport : Transport) :
    (∀ s : PeakAPI C,
      Run step (fun s l => (s.unshared l && s.prompt l) = true) (start transport) s →
        s.EachDelivered) ∧
    ∀ s : PeakAPI C,
      Run step (fun s l => s.unshared l = true) (start transport) s →
        s.SilentAfterUnsubscribe := by
  constructor
  · intro s h
    exact (counted_run h).2.2.each
  · intro s h
    obtain ⟨holder, hs⟩ := sound_run h
    exact silentAfterUnsubscribe hs

/-- A subscription to the state, as far as the response of the server. -/
def subscription : List (Label Nat) := [.subscribeToState 7, .serve true, .handle 0]

/-- Two notifications of the subscription are handed over, and it is ended. -/
def wholeSubscription : List (Label Nat) :=
  subscription ++ [.proceed, .proceed, .proceed, .notify 0, .unsubscribe 0, .notify 0, .handle 0,
    .handle 0, .serve true, .handle 0, .proceed, .proceed, .proceed]

/-- Over HTTP a notification is still on its way when `unsubscribe` returns. -/
def overtakenSubscription : List (Label Nat) :=
  subscription ++ [.proceed, .proceed, .proceed, .notify 0, .unsubscribe 0, .serve true, .handle 1,
    .proceed, .proceed, .proceed]

theorem notifications_delivered_whole :
    (∃ s : PeakAPI Nat,
      Run step (fun s l => (s.unshared l && s.prompt l) = true) (start .webSocket) s ∧
        (s.sent = [0, 0] ∧ s.delivered = [(0, 7), (1, 7)] ∧ s.returned = [0]) ∧
          s.EachDelivered) ∧
    ∃ s : PeakAPI Nat,
      Run step (fun s l => s.unshared l = true) (start .http) s ∧
        (s.wire = [.notification ⟨0, 0, "State0"⟩] ∧ s.returned = [0]) ∧
          s.SilentAfterUnsubscribe := by
  constructor
  · have hreaches : reaches step (fun s l => (s.unshared l && s.prompt l) = true)
        (start .webSocket) wholeSubscription
        (fun s => s.sent = [0, 0] ∧ s.delivered = [(0, 7), (1, 7)] ∧ s.returned = [0]) = true := by
      decide +kernel
    obtain ⟨s, hrun, htest⟩ := run_of_reaches hreaches
    exact ⟨s, hrun, of_decide_eq_true htest, (notifications_delivered .webSocket).1 s hrun⟩
  · have hreaches : reaches step (fun s l => s.unshared l = true) (start .http)
        overtakenSubscription
        (fun s => s.wire = [.notification ⟨0, 0, "State0"⟩] ∧ s.returned = [0]) = true := by
      decide +kernel
    obtain ⟨s, hrun, htest⟩ := run_of_reaches hreaches
    exact ⟨s, hrun, of_decide_eq_true htest, (notifications_delivered .http).2 s hrun⟩

/-- A notification that is no longer on its way and went to nobody. -/
theorem not_eachDelivered_of_lost (hsent : s.sent = [0]) (hdelivered : s.delivered = [])
    (hwire : s.wire = []) : ¬ s.EachDelivered := by
  intro hclaim
  obtain ⟨topic, callback, -, hfilter⟩ := hclaim 0 0 (by rw [hsent]; rfl)
  rw [hdelivered, notifications, hwire] at hfilter
  cases hfilter

/-- The first notification comes after the response and before the thread has gone on. -/
theorem early_notification_lost :
    (¬ ∀ s : PeakAPI Nat, Run step always (start .webSocket) s →
      s.EachDelivered ∧ s.SilentAfterUnsubscribe) ∧
    ¬ ∀ s : PeakAPI Nat, Run step always (start .http) s →
      s.EachDelivered ∧ s.SilentAfterUnsubscribe := by
  have hlost : ∀ transport : Transport,
      reaches step always (start transport) (subscription ++ [.notify 0, .handle 0])
        (fun s => s.sent = [0] ∧ s.delivered = [] ∧ s.wire = []) = true →
      ¬ ∀ s : PeakAPI Nat, Run step always (start transport) s →
        s.EachDelivered ∧ s.SilentAfterUnsubscribe := by
    intro transport hreaches hclaim
    obtain ⟨s, hrun, htest⟩ := run_of_reaches hreaches
    obtain ⟨hsent, hdelivered, hwire⟩ := of_decide_eq_true htest
    exact not_eachDelivered_of_lost hsent hdelivered hwire (hclaim s hrun).1
  constructor
  · apply hlost
    decide +kernel
  · apply hlost
    decide +kernel

end PeakAPI

end PeakAnalyser
