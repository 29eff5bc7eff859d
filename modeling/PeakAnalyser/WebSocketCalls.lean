import Mathlib.Data.Fintype.Basic
import PeakAnalyser.JsonRPCClientWS

/-!
# Whose result a WebSocket call returns

`call` never compares the id of the reply in `m_response` with its own. While no
call passes line 70 during another one, at most one request is on its way and the
reply in the slot is its reply. Two calls at a time can exchange their results.
-/

namespace PeakAnalyser

set_option autoImplicit false

open Runs Threads

variable {Json Tid : Type}

/-- From line 72 to the return the call counts on the slot and on the event. -/
def CallPlace.exchanging : CallPlace Json → Bool
  | .outside | .clear _ => false
  | _ => true

@[simp]
def Frame.reply? : Frame Json → Option (Nat × JsonRPCReply Json)
  | .reply call message => some (call, message)
  | _ => none

namespace JsonRPCClientWS

variable {json : JsonLibrary Json} {c c' : JsonRPCClientWS Json Tid}
  {request : JsonRPCRequest Json} {message : JsonRPCReply Json} {p : CallPlace Json} {t : Tid}

/-- The replies that the io thread has not taken yet. -/
def replying (c : JsonRPCClientWS Json Tid) : List (Nat × JsonRPCReply Json) :=
  c.incoming.filterMap Frame.reply?

/-- The server sent this reply to the request, with the id of the request. -/
def Answered (c : JsonRPCClientWS Json Tid) (request : JsonRPCRequest Json)
    (message : JsonRPCReply Json) : Prop :=
  (request.call, message) ∈ c.replies ∧ message.id = some request.id

/-- No request, reply or signal is on its way. -/
structure Settled (c : JsonRPCClientWS Json Tid) : Prop where
  requests : c.requests = []
  replying : c.replying = []
  io : c.io ≠ .signal
  event : c.m_callbackEventId = false

/-- The one thing on its way that will end the wait for a request. -/
inductive Pending (c : JsonRPCClientWS Json Tid) (request : JsonRPCRequest Json) : Prop where
  | requested (requests : c.requests = [request]) (replying : c.replying = [])
      (io : c.io ≠ .signal) (event : c.m_callbackEventId = false)
  | replied (message : JsonRPCReply Json) (requests : c.requests = [])
      (replying : c.replying = [(request.call, message)]) (io : c.io ≠ .signal)
      (event : c.m_callbackEventId = false) (answered : Answered c request message)
  | received (requests : c.requests = []) (replying : c.replying = []) (io : c.io = .signal)
      (event : c.m_callbackEventId = false) (answered : Answered c request c.m_response)
  | signalled (requests : c.requests = []) (replying : c.replying = []) (io : c.io ≠ .signal)
      (event : c.m_callbackEventId = true) (answered : Answered c request c.m_response)

/-- What a thread can count on at a place of `call`. -/
def Stage (c : JsonRPCClientWS Json Tid) : CallPlace Json → Prop
  | .outside | .clear _ => True
  | .send _ => Settled c
  | .wait request => Pending c request
  | .checkError request | .raiseError request | .checkResult request | .raiseInvalid request =>
    Settled c ∧ Answered c request c.m_response
  | .takeResult request =>
    Settled c ∧ Answered c request c.m_response ∧ c.m_response.result.isSome

/-- Every value that a call returned is the result of the reply to that call. -/
def Delivered (c : JsonRPCClientWS Json Tid) : Prop :=
  ∀ request value, (request, .ok value) ∈ c.finished →
    ∃ message, Answered c request message ∧ message.result = some value

instance [DecidableEq Json] (c : JsonRPCClientWS Json Tid) : Decidable (Delivered c) :=
  decidable_of_iff (∀ e ∈ c.finished, ∀ value ∈ e.2.toOption, ∃ r ∈ c.replies,
      r.1 = e.1.call ∧ r.2.id = some e.1.id ∧ r.2.result = some value) <| by
    constructor
    · intro h request value hmem
      obtain ⟨⟨_, message⟩, hsent, rfl, hid, hresult⟩ := h _ hmem value rfl
      exact ⟨message, ⟨hsent, hid⟩, hresult⟩
    · rintro h ⟨request, outcome⟩ hmem value hvalue
      cases outcome with
      | error e => cases hvalue
      | ok taken =>
        obtain rfl := Option.some.inj hvalue
        obtain ⟨message, ⟨hsent, hid⟩, hresult⟩ := h request taken hmem
        exact ⟨_, hsent, rfl, hid, hresult⟩

/-- What is known while the calls take turns: only the call that exchanges, if any, has
something on its way. -/
structure Serial (c : JsonRPCClientWS Json Tid) : Prop where
  sole : Sole (fun place => place.exchanging = true) c.thread
  stage : ∀ t, Stage c (c.thread t)
  settled : (∀ t, (c.thread t).exchanging = false) → Settled c
  delivered : Delivered c

/-- Nothing that the calls exchange has moved. -/
structure Unmoved (c c' : JsonRPCClientWS Json Tid) : Prop where
  requests : c'.requests = c.requests
  replying : c'.replying = c.replying
  io : c'.io = .signal ↔ c.io = .signal
  event : c'.m_callbackEventId = c.m_callbackEventId
  response : c'.m_response = c.m_response
  replies : c'.replies = c.replies
  finished : c'.finished = c.finished

theorem stage_of_outside (h : p.exchanging = false) : Stage c p := by
  cases p with
  | outside | clear request => trivial
  | send request | wait request | checkError request | raiseError request
  | checkResult request | raiseInvalid request | takeResult request => simp [CallPlace.exchanging] at h

section Unmoved

variable (h : Unmoved c c')
include h

theorem Unmoved.answered (ha : Answered c request message) : Answered c' request message := by
  unfold Answered
  rw [h.replies]
  exact ha

theorem Unmoved.settled (hc : Settled c) : Settled c' where
  requests := h.requests.trans hc.requests
  replying := h.replying.trans hc.replying
  io hio := hc.io (h.io.mp hio)
  event := h.event.trans hc.event

theorem Unmoved.pending (hc : Pending c request) : Pending c' request := by
  cases hc with
  | requested requests replying io event =>
    exact .requested (h.requests.trans requests) (h.replying.trans replying)
      (fun hio => io (h.io.mp hio)) (h.event.trans event)
  | replied message requests replying io event answered =>
    exact .replied message (h.requests.trans requests) (h.replying.trans replying)
      (fun hio => io (h.io.mp hio)) (h.event.trans event) (h.answered answered)
  | received requests replying io event answered =>
    refine .received (h.requests.trans requests) (h.replying.trans replying) (h.io.mpr io)
      (h.event.trans event) ?_
    rw [h.response]
    exact h.answered answered
  | signalled requests replying io event answered =>
    refine .signalled (h.requests.trans requests) (h.replying.trans replying)
      (fun hio => io (h.io.mp hio)) (h.event.trans event) ?_
    rw [h.response]
    exact h.answered answered

theorem Unmoved.stage (hc : Stage c p) : Stage c' p := by
  cases p with
  | outside | clear request => trivial
  | send request => exact h.settled hc
  | wait request => exact h.pending hc
  | checkError request | raiseError request | checkResult request | raiseInvalid request =>
    refine ⟨h.settled hc.1, ?_⟩
    rw [h.response]
    exact h.answered hc.2
  | takeResult request =>
    refine ⟨h.settled hc.1, ?_⟩
    rw [h.response]
    exact ⟨h.answered hc.2.1, hc.2.2⟩

theorem Unmoved.delivered (hc : Delivered c) : Delivered c' := by
  intro request value hmem
  rw [h.finished] at hmem
  obtain ⟨message, hanswered, hresult⟩ := hc request value hmem
  exact ⟨message, h.answered hanswered, hresult⟩

theorem Unmoved.serial (hthread : c'.thread = c.thread) (hc : Serial c) : Serial c' where
  sole := by
    rw [hthread]
    exact hc.sole
  stage t := by
    rw [hthread]
    exact h.stage (hc.stage t)
  settled hnone := by
    rw [hthread] at hnone
    exact h.settled (hc.settled hnone)
  delivered := h.delivered hc.delivered

end Unmoved

/-! ### The steps of a call -/

theorem delivered_append {outcome : Except JsonRPCException Json} (hc : Delivered c)
    (hreplies : c'.replies = c.replies)
    (hfinished : c'.finished = c.finished ++ [(request, outcome)])
    (hok : ∀ value, outcome = .ok value →
      ∃ message, Answered c request message ∧ message.result = some value) : Delivered c' := by
  have hanswered : ∀ r m, Answered c r m → Answered c' r m := by
    intro r m hr
    unfold Answered
    rw [hreplies]
    exact hr
  intro r value hmem
  rw [hfinished] at hmem
  rcases List.mem_append.mp hmem with hold | hnew
  · obtain ⟨m, hm, hresult⟩ := hc r value hold
    exact ⟨m, hanswered r m hm, hresult⟩
  · obtain ⟨rfl, hvalue⟩ := Prod.mk.inj (List.mem_singleton.mp hnew)
    obtain ⟨m, hm, hresult⟩ := hok value hvalue.symm
    exact ⟨m, hanswered _ m hm, hresult⟩

section Calls

variable [DecidableEq Tid]

/-- A thread that has the exchange to itself steps to `p`. -/
theorem serial_goto (hc : Serial c)
    (halone : (c.thread t).exchanging = true ∨ ∀ u, (c.thread u).exchanging = false)
    (hthread : c'.thread = Function.update c.thread t p) (hstage : Stage c' p)
    (hsettled : p.exchanging = false → Settled c') (hdelivered : Delivered c') :
    Serial c' := by
  have hothers : ∀ u, u ≠ t → (c.thread u).exchanging = false := by
    intro u hut
    rcases halone with ht | hnone
    · exact Bool.not_eq_true _ ▸ hc.sole.not_of_ne ht hut
    · exact hnone u
  constructor
  · rw [hthread]
    apply hc.sole.update
    intro _
    exact halone.imp_right fun hnone u => by simp [hnone u]
  · rw [hthread]
    exact forall_update hstage fun u hut => stage_of_outside (hothers u hut)
  · intro hnone
    apply hsettled
    have ht := hnone t
    rwa [hthread, Function.update_self] at ht
  · exact hdelivered

theorem serial_beginCall {method : String} {params : Json} (hc : Serial c)
    (h : c.beginCall t method params = some c') : Serial c' := by
  unfold beginCall at h
  split at h
  case h_2 => cases h
  rename_i hplace
  obtain rfl := Option.some.inj h
  have hunmoved : Unmoved c { c.goto t (.clear { call := c.calls, msgId := c.m_msgId, method, params })
      with m_msgId := c.m_msgId + 1, calls := c.calls + 1 } :=
    ⟨rfl, rfl, Iff.rfl, rfl, rfl, rfl, rfl⟩
  constructor
  · apply hc.sole.update
    intro h
    cases h
  · exact forall_update trivial fun u _ => hunmoved.stage (hc.stage u)
  · intro hnone
    apply hunmoved.settled
    apply hc.settled
    intro u
    by_cases hut : u = t
    · rw [hut, hplace]
      rfl
    · have hu := hnone u
      simp only [goto, Function.update_of_ne hut] at hu
      exact hu
  · exact hunmoved.delivered hc.delivered

/-- A thread that has the exchange to itself goes on within the call. -/
theorem serial_next (hc : Serial c)
    (halone : (c.thread t).exchanging = true ∨ ∀ u, (c.thread u).exchanging = false)
    (place : CallPlace Json) (hplace : place.exchanging = true)
    (hthread : c'.thread = Function.update c.thread t place) (hreplies : c'.replies = c.replies)
    (hfinished : c'.finished = c.finished) (hstage : Stage c' place) : Serial c' := by
  apply serial_goto hc halone hthread hstage
  · intro hout
    rw [hplace] at hout
    cases hout
  · intro request value hmem
    rw [hfinished] at hmem
    obtain ⟨message, ⟨hsent, hid⟩, hresult⟩ := hc.delivered request value hmem
    exact ⟨message, ⟨hreplies ▸ hsent, hid⟩, hresult⟩

/-- A thread that has the exchange to itself leaves the call. -/
theorem serial_finish {outcome : Except JsonRPCException Json} (hc : Serial c)
    (halone : (c.thread t).exchanging = true) (hsettled : Settled c)
    (hok : ∀ value, outcome = .ok value →
      ∃ message, Answered c request message ∧ message.result = some value)
    (response : JsonRPCReply Json) :
    Serial { c.finish t request outcome with m_response := response } :=
  serial_goto (p := .outside) hc (.inl halone) rfl trivial
    (fun _ => ⟨hsettled.requests, hsettled.replying, hsettled.io, hsettled.event⟩)
    (delivered_append hc.delivered rfl rfl hok)

/-- Line 70 is passed while no other call is between it and its return. -/
def takesTurns (c : JsonRPCClientWS Json Tid) : CallLabel Json Tid → Prop
  | .thread t _ =>
    match c.thread t with
    | .clear _ => ∀ u, (c.thread u).exchanging = false
    | _ => True
  | _ => True

instance [Fintype Tid] (c : JsonRPCClientWS Json Tid) (l : CallLabel Json Tid) :
    Decidable (takesTurns c l) := by
  cases l with
  | thread t fault =>
    dsimp only [takesTurns]
    generalize c.thread t = place
    cases place <;> infer_instance
  | _ => exact .isTrue trivial

theorem serial_callStep {fault : Option String} (hc : Serial c)
    (hok : takesTurns c (.thread t fault)) (h : c.callStep json t fault = some c') :
    Serial c' := by
  have hstage := hc.stage t
  have halone : ∀ place, c.thread t = place → place.exchanging = true →
      (c.thread t).exchanging = true := by
    rintro place rfl hplace
    exact hplace
  unfold callStep at h
  unfold takesTurns at hok
  cases hplace : c.thread t with
  | outside =>
    rw [hplace] at h
    cases h
  | clear request =>
    simp only [hplace] at h hok
    obtain rfl := Option.some.inj h
    obtain ⟨hrequests, hreplying, hio, hevent⟩ := hc.settled hok
    exact serial_next hc (.inr hok) (.send request) rfl rfl rfl rfl
      ⟨hrequests, hreplying, hio, hevent⟩
  | send request =>
    rw [hplace] at hstage
    cases fault with
    | some text =>
      simp only [hplace] at h
      obtain rfl := Option.some.inj h
      exact serial_finish hc (halone _ hplace rfl) hstage (fun _ hvalue => by cases hvalue)
        c.m_response
    | none =>
      simp only [hplace] at h
      obtain rfl := Option.some.inj h
      exact serial_next hc (.inl (halone _ hplace rfl)) (.wait request) rfl rfl rfl rfl
        (.requested (by simp [hstage.requests]) hstage.replying hstage.io hstage.event)
  | wait request =>
    rw [hplace] at hstage
    simp only [hplace] at h
    split at h
    case isFalse => cases h
    rename_i hsignalled
    obtain rfl := Option.some.inj h
    refine serial_next hc (.inl (halone _ hplace rfl)) (.checkError request) rfl rfl rfl rfl ?_
    -- the event is set only when the reply has reached the slot
    cases hstage with
    | requested _ _ _ hevent => simp [hevent] at hsignalled
    | replied _ _ _ _ hevent _ => simp [hevent] at hsignalled
    | received _ _ _ hevent _ => simp [hevent] at hsignalled
    | signalled hrequests hreplying hio _ hanswered =>
      exact ⟨⟨hrequests, hreplying, hio, rfl⟩, hanswered⟩
  | checkError request =>
    rw [hplace] at hstage
    obtain ⟨⟨hrequests, hreplying, hio, hevent⟩, hanswered⟩ := hstage
    simp only [hplace] at h
    split at h
    · obtain rfl := Option.some.inj h
      exact serial_next hc (.inl (halone _ hplace rfl)) (.raiseError request) rfl rfl rfl rfl
        ⟨⟨hrequests, hreplying, hio, hevent⟩, hanswered⟩
    · obtain rfl := Option.some.inj h
      exact serial_next hc (.inl (halone _ hplace rfl)) (.checkResult request) rfl rfl rfl rfl
        ⟨⟨hrequests, hreplying, hio, hevent⟩, hanswered⟩
  | checkResult request =>
    rw [hplace] at hstage
    obtain ⟨⟨hrequests, hreplying, hio, hevent⟩, hanswered⟩ := hstage
    simp only [hplace] at h
    split at h
    · rename_i hresult
      obtain rfl := Option.some.inj h
      exact serial_next hc (.inl (halone _ hplace rfl)) (.takeResult request) rfl rfl rfl rfl
        ⟨⟨hrequests, hreplying, hio, hevent⟩, hanswered, hresult⟩
    · obtain rfl := Option.some.inj h
      exact serial_next hc (.inl (halone _ hplace rfl)) (.raiseInvalid request) rfl rfl rfl rfl
        ⟨⟨hrequests, hreplying, hio, hevent⟩, hanswered⟩
  | raiseError request =>
    rw [hplace] at hstage
    simp only [hplace] at h
    obtain rfl := Option.some.inj h
    exact serial_finish hc (halone _ hplace rfl) hstage.1 (fun _ hvalue => by cases hvalue) _
  | raiseInvalid request =>
    rw [hplace] at hstage
    simp only [hplace] at h
    obtain rfl := Option.some.inj h
    exact serial_finish hc (halone _ hplace rfl) hstage.1 (fun _ hvalue => by cases hvalue)
      c.m_response
  | takeResult request =>
    rw [hplace] at hstage
    obtain ⟨hsettled, hanswered, hresult⟩ := hstage
    obtain ⟨value, hvalue⟩ := Option.isSome_iff_exists.mp hresult
    simp only [hplace] at h
    obtain rfl := Option.some.inj h
    refine serial_finish hc (halone _ hplace rfl) hsettled ?_ _
    intro taken htaken
    rw [hvalue] at htaken
    exact ⟨c.m_response, hanswered, hvalue.trans (congrArg some (Except.ok.inj htaken))⟩

end Calls

/-! ### The steps of the server and of the io thread -/

/-- A step of the others than the callers; `P` is what it keeps for the one that waits. -/
theorem serial_of_answered (hc : Serial c) (hthread : c'.thread = c.thread)
    (hfinished : c'.finished = c.finished) (hreplies : c.replies ⊆ c'.replies)
    (hsettled : ¬ Settled c) (hpending : ∀ request, Pending c request → Pending c' request) :
    Serial c' where
  sole := by
    rw [hthread]
    exact hc.sole
  stage t := by
    rw [hthread]
    have hstage := hc.stage t
    cases hplace : c.thread t with
    | outside | clear request => trivial
    | wait request =>
      rw [hplace] at hstage
      exact hpending request hstage
    | send request =>
      rw [hplace] at hstage
      exact absurd hstage hsettled
    | checkError request | raiseError request | checkResult request | raiseInvalid request
    | takeResult request =>
      rw [hplace] at hstage
      exact absurd hstage.1 hsettled
  settled hnone := by
    rw [hthread] at hnone
    exact absurd (hc.settled hnone) hsettled
  delivered := by
    intro request value hmem
    rw [hfinished] at hmem
    obtain ⟨message, ⟨hsent, hid⟩, hresult⟩ := hc.delivered request value hmem
    exact ⟨message, ⟨hreplies hsent, hid⟩, hresult⟩

theorem serial_answer {position : Nat} {error result : Option Json} (hc : Serial c)
    (h : c.answer position error result = some c') : Serial c' := by
  obtain ⟨request, hrequest, rfl⟩ := Option.map_eq_some_iff.mp h
  have hmem : request ∈ c.requests := List.mem_of_getElem? hrequest
  refine serial_of_answered (c := c) hc rfl rfl (List.subset_append_left _ _) ?_ ?_
  · intro hsettled
    rw [hsettled.requests] at hmem
    cases hmem
  · intro waiting hpending
    cases hpending with
    | requested hrequests hreplying hio hevent =>
      rw [hrequests] at hmem hrequest
      obtain rfl := List.mem_singleton.mp hmem
      obtain rfl : position = 0 := by
        have := (List.getElem?_eq_some_iff.mp hrequest).1
        simpa using this
      refine .replied _ (by simp [hrequests]) ?_ hio hevent
        ⟨List.mem_append_right _ (List.mem_singleton_self _), rfl⟩
      simp only [replying] at hreplying ⊢
      simp [hreplying]
    | replied _ hrequests _ _ _ _ | received hrequests _ _ _ _ | signalled hrequests _ _ _ _ =>
      rw [hrequests] at hmem
      cases hmem

theorem serial_on_message (hc : Serial c) (h : c.on_message = some c') : Serial c' := by
  unfold on_message at h
  split at h
  · rename_i hio
    split at h
    · cases h
    · rename_i rest hincoming
      obtain rfl := Option.some.inj h
      refine Unmoved.serial (c := c) ⟨rfl, ?_, Iff.rfl, rfl, rfl, rfl, rfl⟩ rfl hc
      simp [replying, hincoming, List.filterMap_cons]
    · rename_i call message rest hincoming
      obtain rfl := Option.some.inj h
      have hreplying : c.replying = (call, message) :: rest.filterMap Frame.reply? := by
        simp [replying, hincoming]
      refine serial_of_answered (c := c) hc rfl rfl (fun _ hr => hr) ?_ ?_
      · intro hsettled
        rw [hsettled.replying] at hreplying
        cases hreplying
      · intro waiting hpending
        cases hpending with
        | replied _ hrequests hone _ hevent hanswered =>
          rw [hone] at hreplying
          obtain ⟨hhead, hrest⟩ := List.cons.inj hreplying
          obtain ⟨_, rfl⟩ := Prod.mk.inj hhead
          exact .received hrequests hrest.symm rfl hevent hanswered
        | requested _ hnone _ _ | received _ hnone _ _ _ | signalled _ hnone _ _ _ =>
          rw [hnone] at hreplying
          cases hreplying
    · rename_i method params rest hincoming
      obtain rfl := Option.some.inj h
      refine Unmoved.serial (c := c) ⟨rfl, ?_, ?_, rfl, rfl, rfl, rfl⟩ rfl hc
      · simp [replying, hincoming, List.filterMap_cons]
      · simp [hio]
  · rename_i hio
    obtain rfl := Option.some.inj h
    refine serial_of_answered (c := c) hc rfl rfl (fun _ hr => hr) ?_ ?_
    · intro hsettled
      exact hsettled.io hio
    · intro waiting hpending
      cases hpending with
      | received hrequests hreplying _ _ hanswered =>
        exact .signalled hrequests hreplying (by simp) rfl hanswered
      | requested _ _ hne _ | replied _ _ _ hne _ _ | signalled _ _ hne _ _ =>
        exact absurd hio hne
  · rename_i hio
    obtain rfl := Option.some.inj h
    exact Unmoved.serial (c := c) ⟨rfl, rfl, by simp [hio], rfl, rfl, rfl, rfl⟩ rfl hc

theorem serial_initial : Serial ({} : JsonRPCClientWS Json Tid) where
  sole := sole_of_forall_not fun _ => by simp [CallPlace.exchanging]
  stage _ := trivial
  settled _ := ⟨rfl, rfl, by simp, rfl⟩
  delivered := by simp [Delivered]

section Runs

variable [DecidableEq Tid]

theorem serial_step {l : CallLabel Json Tid} (hc : Serial c) (hok : takesTurns c l)
    (h : c.step json l = some c') : Serial c' := by
  cases l with
  | call t method params => exact serial_beginCall hc h
  | thread t fault => exact serial_callStep hc hok h
  | answer position error result => exact serial_answer hc h
  | notify method params | garble =>
    obtain rfl := Option.some.inj h
    refine Unmoved.serial (c := c) ⟨rfl, ?_, Iff.rfl, rfl, rfl, rfl, rfl⟩ rfl hc
    simp [replying]
  | io => exact serial_on_message hc h

/-- While line 70 is passed only when no other call is between it and its return, every value
that a call returns is the result of the reply with the id of that call. -/
theorem call_returns_own_result (hrun : Run (step json) takesTurns {} c) : Delivered c :=
  (hrun.invariant (fun _ _ _ ha hok hs => serial_step ha hok hs) serial_initial).delivered

end Runs

/-- A call from line 70 to its return, for a request that is answered at once. -/
def wholeCall (t : Bool) (result : Nat) : List (CallLabel (Option Nat) Bool) :=
  [.call t "GetState" none, .thread t none, .thread t none, .answer 0 none (some (some result)), .io,
    .io] ++ .replicate 4 (.thread t none)

theorem two_calls_in_turn :
    ∃ c : JsonRPCClientWS (Option Nat) Bool, Run (step .numbers) takesTurns {} c ∧
      c.finished.map (fun e => e.2.toOption) = [some (some 7), some (some 8)] ∧ Delivered c := by
  have hreach : reaches (step .numbers) takesTurns ({} : JsonRPCClientWS (Option Nat) Bool)
      (wholeCall true 7 ++ wholeCall false 8)
      (fun c => c.finished.map (fun e => e.2.toOption) = [some (some 7), some (some 8)]) = true := by
    decide +kernel
  obtain ⟨c, hrun, hfinished⟩ := run_of_reaches hreach
  exact ⟨c, hrun, of_decide_eq_true hfinished, call_returns_own_result hrun⟩

/-- Two threads have sent their requests and wait. The server answers the second request
first, and the first thread takes that reply for its own. -/
theorem first_call_takes_second_result :
    ¬ ∀ c : JsonRPCClientWS (Option Nat) Bool, Run (step .numbers) always {} c → Delivered c := by
  intro hclaim
  have hreach : reaches (step .numbers) always ({} : JsonRPCClientWS (Option Nat) Bool)
      ([.call true "GetState" none, .thread true none, .thread true none,
        .call false "ZeroAllSupplies" none, .thread false none, .thread false none,
        .answer 1 none (some (some 8)), .answer 0 none (some (some 7)), .io, .io] ++
        .replicate 4 (.thread true none))
      (fun c => ¬ Delivered c) = true := by
    decide +kernel
  obtain ⟨c, hrun, hc⟩ := run_of_reaches hreach
  exact of_decide_eq_true hc (hclaim c hrun)

end JsonRPCClientWS

end PeakAnalyser
