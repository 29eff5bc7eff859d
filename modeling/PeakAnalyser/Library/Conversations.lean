import Mathlib.Data.List.Infix

/-!
# Programs that ask a server and may fail

A conversation computes with a state, asks a server, and comes to a normal end or to a failure. A
failure keeps the state that has been reached and the transcript of what has been asked and
answered. A server is any function from the transcript and the next question to an answer, so an
answer may depend on everything that went before.
-/

namespace Conversations

set_option autoImplicit false

structure Dialogue (Question Answer State : Type) where
  state : State
  transcript : List (Question × Answer) := []

abbrev Counterpart (Question Answer : Type) : Type := List (Question × Answer) → Question → Answer

abbrev Conversation (Question Answer State Failure : Type) : Type → Type :=
  ReaderT (Counterpart Question Answer) (ExceptT Failure (StateM (Dialogue Question Answer State)))

variable {Question Answer State Failure α β : Type}

/-- Puts a question to the server. -/
def ask (question : Question) : Conversation Question Answer State Failure Answer := fun server =>
  modifyGet fun s =>
    let answer := server s.transcript question
    (answer, { s with transcript := s.transcript ++ [(question, answer)] })

def current : Conversation Question Answer State Failure State := do
  return (← get).state

def update (f : State → State) : Conversation Question Answer State Failure Unit :=
  modify fun s => { s with state := f s.state }

/-- A result that is already there. -/
def take (result : Except Failure α) : Conversation Question Answer State Failure α :=
  fun _ => ExceptT.mk fun s => (result, s)

/-- How a conversation ends, and the dialogue then. -/
def Conversation.on (m : Conversation Question Answer State Failure α)
    (server : Counterpart Question Answer) (s : Dialogue Question Answer State) :
    Except Failure α × Dialogue Question Answer State :=
  (m.run server).run.run s

/-- A conversation that works on a part of the state. -/
def within {Part Failure' : Type} (part : State → Part) (restore : State → Part → State)
    (failure : Failure' → Failure) (m : Conversation Question Answer Part Failure' α) :
    Conversation Question Answer State Failure α := fun server => ExceptT.mk fun s =>
  let (result, t) := m.on server { s with state := part s.state }
  (result.mapError failure, { t with state := restore s.state t.state })

/-- What is left of a dialogue that has ended: `Q` after a normal end, `R` after a failure. -/
def Ends (Q : α → Dialogue Question Answer State → Prop)
    (R : Failure → Dialogue Question Answer State → Prop) :
    Except Failure α × Dialogue Question Answer State → Prop
  | (.ok a, s) => Q a s
  | (.error e, s) => R e s

/-- With this server, `P` before leads to `Q` after a normal end and to `R` after a failure. -/
def Triple (server : Counterpart Question Answer) (P : Dialogue Question Answer State → Prop)
    (m : Conversation Question Answer State Failure α)
    (Q : α → Dialogue Question Answer State → Prop)
    (R : Failure → Dialogue Question Answer State → Prop) : Prop :=
  ∀ s, P s → Ends Q R (m.on server s)

/-- What holds before holds after, however the conversation ends. -/
def Keeps (server : Counterpart Question Answer) (P : Dialogue Question Answer State → Prop)
    (m : Conversation Question Answer State Failure α) : Prop :=
  Triple server P m (fun _ => P) fun _ => P

section Runs

variable (m : Conversation Question Answer State Failure α)
  (f : α → Conversation Question Answer State Failure β)
  (server : Counterpart Question Answer) (s : Dialogue Question Answer State)

theorem on_bind : (m >>= f).on server s =
    match m.on server s with
    | (.ok a, t) => (f a).on server t
    | (.error e, t) => (.error e, t) := by
  unfold Conversation.on
  rw [ReaderT.run_bind, ExceptT.run_bind, StateT.run_bind]
  cases (m.run server).run.run s with
  | mk result t =>
    cases result with
    | ok a => rfl
    | error e => rfl

theorem on_ask (question : Question) :
    (ask question : Conversation Question Answer State Failure Answer).on server s =
      (.ok (server s.transcript question),
        { s with transcript := s.transcript ++ [(question, server s.transcript question)] }) := rfl

theorem on_current :
    (current : Conversation Question Answer State Failure State).on server s = (.ok s.state, s) := rfl

theorem on_update (f : State → State) :
    (update f : Conversation Question Answer State Failure Unit).on server s =
      (.ok (), { s with state := f s.state }) := rfl

theorem on_tryCatch (handler : Failure → Conversation Question Answer State Failure α) :
    (tryCatch m handler).on server s =
      match m.on server s with
      | (.ok a, t) => (.ok a, t)
      | (.error e, t) => (handler e).on server t := by
  have hmeaning : (tryCatch m handler).on server s =
      ((ExceptT.tryCatch (m.run server) fun e => (handler e).run server).run.run s) := rfl
  rw [hmeaning, ExceptT.tryCatch, ExceptT.run_mk, StateT.run_bind]
  unfold Conversation.on
  cases hm : (m.run server).run.run s with
  | mk result t =>
    rw [show StateT.run (m.run server) s = (result, t) from hm]
    cases result with
    | ok a => rfl
    | error e => rfl

theorem on_take (result : Except Failure α) :
    (take result : Conversation Question Answer State Failure α).on server s = (result, s) := rfl

theorem on_within {Part Failure' : Type} (part : State → Part) (restore : State → Part → State)
    (failure : Failure' → Failure) (m : Conversation Question Answer Part Failure' α) :
    (within part restore failure m).on server s =
      ((m.on server { s with state := part s.state }).1.mapError failure,
        { (m.on server { s with state := part s.state }).2 with
          state := restore s.state (m.on server { s with state := part s.state }).2.state }) := rfl

end Runs

section Rules

variable {server : Counterpart Question Answer}
  {P P' : Dialogue Question Answer State → Prop}
  {Q Q' : α → Dialogue Question Answer State → Prop}
  {R R' : Failure → Dialogue Question Answer State → Prop}
  {T : β → Dialogue Question Answer State → Prop}
  {m : Conversation Question Answer State Failure α}
  {f : α → Conversation Question Answer State Failure β}

theorem Triple.ends (h : Triple server P m Q R) {s t : Dialogue Question Answer State} {a : α}
    (hs : P s) (hend : m.on server s = (.ok a, t)) : Q a t := by
  have hall := h s hs
  rwa [hend] at hall

theorem Triple.fails (h : Triple server P m Q R) {s t : Dialogue Question Answer State} {e : Failure}
    (hs : P s) (hend : m.on server s = (.error e, t)) : R e t := by
  have hall := h s hs
  rwa [hend] at hall

theorem Triple.weaken (h : Triple server P m Q R) (hP : ∀ s, P' s → P s)
    (hQ : ∀ a s, Q a s → Q' a s) (hR : ∀ e s, R e s → R' e s) : Triple server P' m Q' R' := by
  intro s hs
  have hall := h s (hP s hs)
  cases hend : m.on server s with
  | mk result t =>
    rw [hend] at hall
    cases result with
    | ok a => exact hQ a t hall
    | error e => exact hR e t hall

/-- What is known and does not depend on the dialogue may be assumed. -/
theorem triple_fact {fact : Prop} (h : fact → Triple server P m Q R) :
    Triple server (fun s => fact ∧ P s) m Q R :=
  fun s hs => h hs.1 s hs.2

theorem triple_pure {a : α} (h : ∀ s, P s → Q a s) :
    Triple server P (pure a : Conversation Question Answer State Failure α) Q R :=
  fun s hs => h s hs

theorem triple_throw {e : Failure} (h : ∀ s, P s → R e s) :
    Triple server P (throw e : Conversation Question Answer State Failure α) Q R :=
  fun s hs => h s hs

theorem triple_current {T' : State → Dialogue Question Answer State → Prop}
    (h : ∀ s, P s → T' s.state s) :
    Triple server P (current : Conversation Question Answer State Failure State) T' R :=
  fun s hs => h s hs

theorem triple_update {g : State → State} {T' : Unit → Dialogue Question Answer State → Prop}
    (h : ∀ s, P s → T' () { s with state := g s.state }) :
    Triple server P (update g : Conversation Question Answer State Failure Unit) T' R :=
  fun s hs => h s hs

theorem triple_ask {question : Question} {T' : Answer → Dialogue Question Answer State → Prop}
    (h : ∀ s, P s → T' (server s.transcript question)
      { s with transcript := s.transcript ++ [(question, server s.transcript question)] }) :
    Triple server P (ask question : Conversation Question Answer State Failure Answer) T' R :=
  fun s hs => h s hs

theorem Triple.bind (h : Triple server P m Q R) (hf : ∀ a, Triple server (Q a) (f a) T R) :
    Triple server P (m >>= f) T R := by
  intro s hs
  have hall := h s hs
  rw [on_bind]
  cases hend : m.on server s with
  | mk result t =>
    rw [hend] at hall
    cases result with
    | ok a => exact hf a t hall
    | error e => exact hall

theorem Triple.tryCatch {handler : Failure → Conversation Question Answer State Failure α}
    (h : Triple server P m Q R') (hhandler : ∀ e, Triple server (R' e) (handler e) Q R) :
    Triple server P (tryCatch m handler) Q R := by
  intro s hs
  have hall := h s hs
  rw [on_tryCatch]
  cases hend : m.on server s with
  | mk result t =>
    rw [hend] at hall
    cases result with
    | ok a => exact hall
    | error e => exact hhandler e t hall

theorem triple_take {result : Except Failure α} (hok : ∀ s a, P s → result = .ok a → Q a s)
    (herror : ∀ s e, P s → result = .error e → R e s) :
    Triple server P (take result : Conversation Question Answer State Failure α) Q R := by
  intro s hs
  rw [on_take]
  cases hresult : result with
  | ok a => exact hok s a hs hresult
  | error e => exact herror s e hs hresult

/-- A loop over a list: the invariant speaks of the elements that are done. -/
theorem triple_forM {body : β → Conversation Question Answer State Failure PUnit}
    {I : List β → Dialogue Question Answer State → Prop} {xs : List β}
    (hbody : ∀ done x rest, xs = done ++ x :: rest →
      Triple server (I done) (body x) (fun _ => I (done ++ [x])) R) :
    Triple server (I []) (xs.forM body) (fun _ => I xs) R := by
  have hgo : ∀ rest done, xs = done ++ rest →
      Triple server (I done) (rest.forM body) (fun _ => I xs) R := by
    intro rest
    induction rest with
    | nil =>
      intro done hxs
      rw [List.append_nil] at hxs
      rw [← hxs]
      exact triple_pure fun _ hs => hs
    | cons x rest ih =>
      intro done hxs
      exact (hbody done x rest hxs).bind fun _ => ih (done ++ [x]) (by simp [hxs])
  exact hgo xs [] rfl

/-! Invariants. -/

theorem Keeps.on (h : Keeps server P m) {s : Dialogue Question Answer State} (hs : P s) :
    P (m.on server s).2 := by
  have hall := h s hs
  cases hend : m.on server s with
  | mk result t =>
    rw [hend] at hall
    cases result with
    | ok a => exact hall
    | error e => exact hall

theorem keeps_pure {a : α} :
    Keeps server P (pure a : Conversation Question Answer State Failure α) :=
  triple_pure fun _ hs => hs

theorem keeps_throw {e : Failure} :
    Keeps server P (throw e : Conversation Question Answer State Failure α) :=
  triple_throw fun _ hs => hs

theorem keeps_current :
    Keeps server P (current : Conversation Question Answer State Failure State) :=
  triple_current fun _ hs => hs

theorem keeps_take {result : Except Failure α} :
    Keeps server P (take result : Conversation Question Answer State Failure α) :=
  triple_take (fun _ _ hs _ => hs) fun _ _ hs _ => hs

theorem keeps_update {g : State → State} (h : ∀ s, P s → P { s with state := g s.state }) :
    Keeps server P (update g : Conversation Question Answer State Failure Unit) :=
  triple_update h

theorem Keeps.bind (h : Keeps server P m) (hf : ∀ a, Keeps server P (f a)) :
    Keeps server P (m >>= f) :=
  Triple.bind h hf

theorem Keeps.tryCatch {handler : Failure → Conversation Question Answer State Failure α}
    (h : Keeps server P m) (hhandler : ∀ e, Keeps server P (handler e)) :
    Keeps server P (tryCatch m handler) :=
  Triple.tryCatch h hhandler

theorem keeps_forM {body : β → Conversation Question Answer State Failure PUnit} {xs : List β}
    (hbody : ∀ x ∈ xs, Keeps server P (body x)) : Keeps server P (xs.forM body) :=
  triple_forM (I := fun _ => P) fun _ x _ hxs =>
    hbody x (by rw [hxs]; exact List.mem_append_right _ List.mem_cons_self)

end Rules

end Conversations
