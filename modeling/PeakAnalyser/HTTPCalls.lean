import Mathlib.Data.Fintype.Basic
import PeakAnalyser.SocketPool

/-!
# Whose socket and whose response an HTTP call has

The mutex of a socket is locked only from `try_lock` to the end of the next
statement, so it does not keep the socket for the request. As long as no request
locks a socket that another one still works on, each socket serves one request at
a time, its connection is clean when the request ends, and every response is the
response to the request of the caller.
-/

namespace PeakAnalyser

set_option autoImplicit false

open Runs Threads

variable {Json Tid : Type}

namespace HTTPClient

variable {json : JsonLibrary Json} {config : HTTPConfig} {c c' : HTTPClient Json Tid}
  {request : JsonRPCRequest Json} {k : Connection Json} {progress : Progress}
  {s : Fin maxSockets} {t : Tid} {p : RequestPlace Json}

/-! ### The steps of `doRequest` -/

theorem Orderly.sameAt_other (hc : c.Orderly json config)
    (hsockets : ∀ s', s' ≠ s → c'.mSockets s' = c.mSockets s')
    (hconnection : ∀ fd, c.connection fd ≠ none → ¬ c.Owns s fd →
      c'.connection fd = c.connection fd)
    (hresponses : c'.responses = c.responses) : ∀ s', s' ≠ s → SameAt c c' s' := by
  intro s' hne
  refine ⟨hsockets s' hne, ?_, by rw [hresponses]; exact List.Subset.refl _⟩
  intro fd howns
  apply hconnection
  · exact Option.isSome_iff_ne_none.mp (hc.open_of_owns howns)
  · intro hs
    exact hne (hc.distinct s' s fd howns hs)

theorem Delivered.append (h : c.Delivered json config) (request : JsonRPCRequest Json)
    (outcome : Except (JsonRPCException ⊕ StdException) Json) (hresponses : c'.responses = c.responses)
    (hfinished : c'.finished = c.finished ++ [(request, outcome)])
    (hok : ∀ value, outcome = .ok value →
      ∃ response, c.Received config request response ∧ request.outcome json response = .ok value) :
    c'.Delivered json config := by
  have hmono : ∀ request response, c.Received config request response →
      c'.Received config request response := by
    intro request response hreceived
    apply hreceived.mono
    rw [hresponses]
    exact List.Subset.refl _
  intro r value hmem
  rw [hfinished] at hmem
  rcases List.mem_append.mp hmem with hold | hnew
  · obtain ⟨response, hreceived, houtcome⟩ := h r value hold
    exact ⟨response, hmono r response hreceived, houtcome⟩
  · obtain ⟨rfl, hvalue⟩ := Prod.mk.inj (List.mem_singleton.mp hnew)
    obtain ⟨response, hreceived, houtcome⟩ := hok value hvalue.symm
    exact ⟨response, hmono _ response hreceived, houtcome⟩

theorem Rest.of_eq (h : c.Rest s) (hfd : (c'.mSockets s).fd = (c.mSockets s).fd)
    (hclosed : (c'.mSockets s).closed = (c.mSockets s).closed)
    (hconnection : c'.connection = c.connection) : c'.Rest s := by
  intro hopen
  rw [hclosed] at hopen
  obtain ⟨k, ⟨fd, hat, hk⟩, hclean⟩ := h hopen
  exact ⟨k, ⟨fd, hfd.trans hat, by rw [hconnection]; exact hk⟩, hclean⟩

/-- A mutex is locked only when no other request works on the socket any more. -/
def locksFree (c : HTTPClient Json Tid) : HTTPLabel Json Tid → Prop
  | .thread t .ok =>
    match c.thread t with
    | .select _ i => ∀ s : Fin maxSockets, s.val = i → (c.mSockets s).mutex = false →
        ∀ u, (c.thread u).unguarded? ≠ some s
    | _ => True
  | _ => True

/-- At line 177 the mutex is still locked, so an unlocked mutex says that nobody is there. -/
theorem Orderly.free_of_unlocked (hc : c.Orderly json config)
    (hmutex : (c.mSockets s).mutex = false) (hfree : ∀ u, (c.thread u).unguarded? ≠ some s) :
    ∀ u, (c.thread u).socket? ≠ some s := by
  intro u hu
  have hstage := hc.stage u
  have hfreeu := hfree u
  cases hplace : c.thread u with
  | guard w =>
    rw [hplace] at hu hstage
    obtain rfl := Option.some.inj hu
    rw [hstage.1] at hmutex
    cases hmutex
  | _ =>
    rw [hplace] at hu hfreeu
    exact hfreeu hu

theorem destroy_frame (c : HTTPClient Json Tid) (s : Fin maxSockets) :
    (c.destroy s).thread = c.thread ∧ (c.destroy s).mSockets = c.mSockets ∧
      (c.destroy s).responses = c.responses ∧ (c.destroy s).finished = c.finished := by
  unfold destroy
  split <;> exact ⟨rfl, rfl, rfl, rfl⟩

theorem destroy_connection {fd : Nat} (hopen : ∀ f, (c.mSockets s).fd = some f → c.Owns s f)
    (h : ¬ c.Owns s fd) : (c.destroy s).connection fd = c.connection fd := by
  unfold destroy
  split
  · rfl
  · rename_i f hf
    apply Function.update_of_ne
    rintro rfl
    exact h (hopen fd hf)

theorem setConnection_other {f : Nat} {k' : Option (Connection Json)}
    (hfd : (c.mSockets s).fd = some f) (hopen : (c.mSockets s).closed = false) {fd : Nat}
    (h : ¬ c.Owns s fd) : (c.setConnection f k').connection fd = c.connection fd := by
  apply Function.update_of_ne
  rintro rfl
  exact h ⟨hfd, .inl hopen⟩

section Steps

variable [DecidableEq Tid]

theorem orderly_beginCall {method : String} {params : Json} (hc : c.Orderly json config)
    (h : c.beginCall t method params = some c') : c'.Orderly json config := by
  unfold beginCall at h
  split at h
  case h_2 => cases h
  rename_i hplace
  obtain rfl := Option.some.inj h
  refine orderly_outside hc (by rw [hplace]; rfl) rfl rfl trivial ?_ ?_
  · exact fun s => ⟨rfl, fun _ _ => rfl, List.Subset.refl _⟩
  · exact Delivered.mono (List.Subset.refl _) rfl hc.delivered

theorem orderly_select {result : SysResult} {i : Nat} (hc : c.Orderly json config)
    (hplace : c.thread t = .select request i) (hok : locksFree c (.thread t result))
    (h : c.select json t request i result = some c') : c'.Orderly json config := by
  have hnone : (c.thread t).socket? = none := by
    rw [hplace]
    rfl
  have hnext : (c.goto t (.select request (i + 1))).Orderly json config := by
    refine orderly_outside hc hnone rfl rfl trivial ?_ ?_
    · exact fun s => ⟨rfl, fun _ _ => rfl, List.Subset.refl _⟩
    · exact Delivered.mono (List.Subset.refl _) rfl hc.delivered
  cases result with
  | amount n | descriptor fd => cases h
  | fault =>
    simp only [select] at h
    split at h
    · obtain rfl := Option.some.inj h
      exact hnext
    · cases h
  | ok =>
    simp only [select] at h
    split at h
    · rename_i hi
      split at h
      · obtain rfl := Option.some.inj h
        exact hnext
      · rename_i hmutex
        obtain rfl := Option.some.inj h
        simp only [locksFree, hplace] at hok
        have hunlocked : (c.mSockets ⟨i, hi⟩).mutex = false := by simpa using hmutex
        have hfree := hc.free_of_unlocked hunlocked (hok ⟨i, hi⟩ rfl hunlocked)
        refine orderly_goto (s := ⟨i, hi⟩) hc (.inr ⟨hnone, hfree⟩) rfl (.inl rfl) ?_ ?_ ?_ ?_ ?_
        · refine hc.sameAt_other ?_ (fun _ _ _ => rfl) rfl
          intro s' hne
          exact Function.update_of_ne hne _ _
        · refine ⟨by simp [goto, setSocket], (hc.rest _ hfree).of_eq ?_ ?_ rfl⟩ <;>
            simp [goto, setSocket]
        · intro hp
          cases hp
        · intro fd hfd hopen
          left
          simp only [goto, setSocket, Function.update_self] at hfd hopen
          exact ⟨hfd, .inl (hopen.resolve_right (by simp [RequestPlace.isConnecting]))⟩
        · exact Delivered.mono (List.Subset.refl _) rfl hc.delivered
    · obtain rfl := Option.some.inj h
      refine orderly_outside hc hnone rfl rfl trivial ?_ ?_
      · exact fun s => ⟨rfl, fun _ _ => rfl, List.Subset.refl _⟩
      · exact hc.delivered.append request _ rfl rfl fun value hvalue => by cases hvalue

theorem orderly_guard {w : Errand Json} (hc : c.Orderly json config)
    (hplace : c.thread t = .guard w) : (c.guard t w).Orderly json config := by
  have hstage := hc.stage t
  have hholds : c.Holds t w.socket := .inl (by rw [hplace]; rfl)
  rw [hplace] at hstage
  refine orderly_goto hc hholds rfl (.inl rfl) ?_ ?_ ?_ ?_ ?_
  · refine hc.sameAt_other ?_ (fun _ _ _ => rfl) rfl
    intro s' hne
    exact Function.update_of_ne hne _ _
  · exact Rest.of_eq hstage.2 (by simp [guard, goto, setSocket]) (by simp [guard, goto, setSocket])
      rfl
  · intro hp
    cases hp
  · intro fd hfd hopen
    simp only [guard, goto, setSocket, Function.update_self] at hfd hopen
    exact .inl ⟨hfd, .inl (hopen.resolve_right (by simp [RequestPlace.isConnecting]))⟩
  · exact Delivered.mono (List.Subset.refl _) rfl hc.delivered

/-- A step that leaves sockets, connections and history alone. -/
theorem orderly_move (hc : c.Orderly json config) (hsocket : (c.thread t).socket? = some s)
    (hopen : (c.mSockets s).closed = false) (hplace : p.socket? = some s)
    (hstage : (c.goto t p).Stage json config p) : (c.goto t p).Orderly json config := by
  refine orderly_goto hc (.inl hsocket) rfl (.inl hplace) ?_ hstage ?_ ?_ ?_
  · exact fun s' _ => ⟨rfl, fun _ _ => rfl, List.Subset.refl _⟩
  · intro hnone
    rw [hplace] at hnone
    cases hnone
  · exact fun fd hfd _ => .inl ⟨hfd, .inl hopen⟩
  · exact Delivered.mono (List.Subset.refl _) rfl hc.delivered

theorem orderly_connect {w : Errand Json} {result : SysResult} (hc : c.Orderly json config)
    (hplace : c.thread t = .connect w) (h : c.connect json t w result = some c') :
    c'.Orderly json config := by
  have hstage := hc.stage t
  have hsocket : (c.thread t).socket? = some w.socket := by
    rw [hplace]
    rfl
  rw [hplace] at hstage
  unfold connect at h
  split at h
  · rename_i hopen
    obtain rfl := Option.some.inj h
    have hopen : (c.mSockets w.socket).closed = false := by simpa using hopen
    exact orderly_move hc hsocket hopen rfl ⟨hopen, hstage hopen⟩
  · rename_i hclosed
    have hclosed : (c.mSockets w.socket).closed = true := by simpa using hclosed
    split at h
    · rename_i fd
      split at h
      · rename_i hfresh
        have hfresh : c.connection fd = none := Option.isNone_iff_eq_none.mp hfresh
        obtain rfl := Option.some.inj h
        refine orderly_goto hc (.inl hsocket) rfl (.inl rfl) ?_ ?_ ?_ ?_ ?_
        · refine hc.sameAt_other ?_ ?_ rfl
          · intro s' hne
            exact Function.update_of_ne hne _ _
          · intro f hf _
            apply Function.update_of_ne
            rintro rfl
            exact hf hfresh
        · refine ⟨by simpa [goto, setSocket, setConnection] using hclosed, {}, ⟨fd, ?_, ?_⟩, rfl, rfl⟩ <;>
            simp [goto, setSocket, setConnection]
        · intro hp
          cases hp
        · intro f hf _
          simp only [goto, setSocket, setConnection, Function.update_self] at hf
          obtain rfl := Option.some.inj hf
          exact .inr hfresh
        · exact Delivered.mono (List.Subset.refl _) rfl hc.delivered
      · cases h
    · obtain rfl := Option.some.inj h
      refine orderly_goto hc (.inl hsocket) rfl (.inr rfl) ?_ trivial ?_ ?_ ?_
      · refine hc.sameAt_other ?_ (fun _ _ _ => rfl) rfl
        intro s' hne
        exact Function.update_of_ne hne _ _
      · intro _ hopen
        simp [finish, goto, setSocket, hclosed] at hopen
      · intro f hf _
        simp [finish, goto, setSocket] at hf
      · exact hc.delivered.append w.request _ rfl rfl fun value hvalue => by cases hvalue
    · cases h

theorem orderly_connecting {w : Errand Json} {result : SysResult} (hc : c.Orderly json config)
    (hplace : c.thread t = .connecting w) (h : c.connecting json t w result = some c') :
    c'.Orderly json config := by
  have hstage := hc.stage t
  have hsocket : (c.thread t).socket? = some w.socket := by
    rw [hplace]
    rfl
  have howns : ∀ f, (c.mSockets w.socket).fd = some f → c.Owns w.socket f := by
    intro f hf
    exact ⟨hf, .inr ⟨t, hsocket, by rw [hplace]; rfl⟩⟩
  rw [hplace] at hstage
  obtain ⟨hclosed, k, ⟨fd, hfd, hk⟩, hclean⟩ := hstage
  cases result with
  | amount n | descriptor fd => cases h
  | ok =>
    obtain rfl := Option.some.inj h
    refine orderly_goto hc (.inl hsocket) rfl (.inl rfl) ?_ ?_ ?_ ?_ ?_
    · refine hc.sameAt_other ?_ (fun _ _ _ => rfl) rfl
      intro s' hne
      exact Function.update_of_ne hne _ _
    · refine ⟨by simp [goto, setSocket], k, ⟨fd, ?_, hk⟩, hclean⟩
      simpa [goto, setSocket] using hfd
    · intro hp
      cases hp
    · intro f hf _
      simp only [goto, setSocket, Function.update_self] at hf
      exact .inl (howns f hf)
    · exact Delivered.mono (List.Subset.refl _) rfl hc.delivered
  | fault =>
    obtain rfl := Option.some.inj h
    obtain ⟨hthread, hsockets, hresponses, hfinished⟩ := destroy_frame c w.socket
    refine orderly_goto (p := .outside) hc (.inl hsocket) ?_ (.inr rfl) ?_ trivial ?_ ?_ ?_
    · simp [finish, goto, setSocket, hthread]
    · refine hc.sameAt_other ?_ (fun f _ hf => destroy_connection howns hf) hresponses
      intro s' hne
      simp [finish, goto, setSocket, hsockets, hne]
    · intro _ hopen
      simp [finish, goto, setSocket, hclosed] at hopen
    · intro f hf _
      simp [finish, goto, setSocket] at hf
    · refine hc.delivered.append w.request (w.request.networkException json) hresponses ?_
        fun value hvalue => by cases hvalue
      simp [finish, goto, setSocket, hfinished]

/-- A step that changes the connection of the socket, or nothing but the place. -/
theorem orderly_work {w : Errand Json} (hc : c.Orderly json config)
    (hsocket : (c.thread t).socket? = some w.socket) (hopen : (c.mSockets w.socket).closed = false)
    (hthread : c'.thread = Function.update c.thread t p) (hsockets : c'.mSockets = c.mSockets)
    (hconnection : ∀ fd, ¬ c.Owns w.socket fd → c'.connection fd = c.connection fd)
    (hresponses : c'.responses = c.responses) (hplace : p.socket? = some w.socket ∨ p.socket? = none)
    (hstage : c'.Stage json config p) (hrest : p.socket? = none → c'.Rest w.socket)
    (hdelivered : c'.Delivered json config) : c'.Orderly json config := by
  refine orderly_goto hc (.inl hsocket) hthread hplace ?_ hstage hrest ?_ hdelivered
  · refine hc.sameAt_other ?_ (fun fd _ hfd => hconnection fd hfd) hresponses
    intro s' _
    rw [hsockets]
  · intro fd hfd _
    rw [hsockets] at hfd
    exact .inl ⟨hfd, .inl hopen⟩

theorem orderly_write {w : Errand Json} (hc : c.Orderly json config)
    (hplace : c.thread t = .write w) :
    (c.goto t (sending w (c.mSockets w.socket).fd (w.request.data json config))).Orderly
      json config := by
  have hstage := hc.stage t
  have hsocket : (c.thread t).socket? = some w.socket := by
    rw [hplace]
    rfl
  rw [hplace] at hstage
  obtain ⟨hopen, k, hat, hclean⟩ := hstage
  have hdata : w.request.data json config ≠ [] := Request.data_ne_nil _ _
  rw [sending, if_neg hdata]
  refine orderly_move hc hsocket hopen rfl ⟨hopen, rfl, hdata, k, hat, hclean.incoming, [], rfl, ?_⟩
  simp [hclean.outgoing]

theorem orderly_send {w : Errand Json} {fd : Option Nat} {remaining : Bytes} {result : SysResult}
    (hc : c.Orderly json config) (hplace : c.thread t = .send w fd remaining)
    (h : c.send t w fd remaining result = some c') : c'.Orderly json config := by
  have hstage := hc.stage t
  have hsocket : (c.thread t).socket? = some w.socket := by
    rw [hplace]
    rfl
  rw [hplace] at hstage
  obtain ⟨hopen, hfd, _, k, ⟨f, hf, hk⟩, hincoming, sent, hdata, houtgoing⟩ := hstage
  cases result with
  | ok | descriptor _ => cases h
  | fault =>
    obtain rfl := Option.some.inj h
    exact orderly_move hc hsocket hopen rfl ⟨hopen, ⟨k, f, hf, hk⟩, fun response hexit => by cases hexit⟩
  | amount n =>
    rw [hf] at hfd
    subst hfd
    simp only [send, hk] at h
    split at h
    case isFalse => cases h
    obtain rfl := Option.some.inj h
    -- what is sent now is still on its way
    have hsent : Sent json config w.request { k with
        outgoing := k.outgoing ++ (remaining.take n).map fun b => (w.request, b) }
        (remaining.drop n) := by
      refine ⟨hincoming, sent ++ remaining.take n, ?_, ?_⟩
      · rw [List.append_assoc, List.take_append_drop, hdata]
      · simp [houtgoing]
    have hat : ((c.setConnection f (some { k with
        outgoing := k.outgoing ++ (remaining.take n).map fun b => (w.request, b) })).goto t
          (sending w (some f) (remaining.drop n))).At w.socket { k with
            outgoing := k.outgoing ++ (remaining.take n).map fun b => (w.request, b) } :=
      ⟨f, hf, Function.update_self _ _ _⟩
    unfold sending at hat ⊢
    split
    · rename_i hlast
      rw [hlast] at hsent hat
      refine orderly_work hc hsocket hopen rfl rfl
        (fun _ hother => setConnection_other hf hopen hother) rfl (.inl rfl) ?_ (fun hp => by cases hp) ?_
      · exact ⟨hopen, _, hat, .inl ⟨hsent, rfl⟩⟩
      · exact Delivered.mono (List.Subset.refl _) rfl hc.delivered
    · rename_i hlast
      rw [if_neg hlast] at hat
      refine orderly_work hc hsocket hopen rfl rfl
        (fun _ hother => setConnection_other hf hopen hother) rfl (.inl rfl) ?_ (fun hp => by cases hp) ?_
      · exact ⟨hopen, hf.symm, hlast, _, hat, hsent⟩
      · exact Delivered.mono (List.Subset.refl _) rfl hc.delivered

theorem orderly_poll {w : Errand Json} {result : SysResult} (hc : c.Orderly json config)
    (hplace : c.thread t = .poll w) (h : c.poll t w result = some c') : c'.Orderly json config := by
  have hstage := hc.stage t
  have hsocket : (c.thread t).socket? = some w.socket := by
    rw [hplace]
    rfl
  rw [hplace] at hstage
  obtain ⟨hopen, k, ⟨f, hf, hk⟩, hexchange⟩ := hstage
  cases result with
  | amount n | descriptor fd => cases h
  | fault =>
    obtain rfl := Option.some.inj h
    exact orderly_move hc hsocket hopen rfl ⟨hopen, ⟨k, f, hf, hk⟩, fun response hexit => by cases hexit⟩
  | ok =>
    simp only [poll, hf, hk] at h
    split at h
    · obtain rfl := Option.some.inj h
      exact orderly_move hc hsocket hopen rfl
        ⟨hopen, k, responseStart, ⟨f, hf, hk⟩, rfl, hexchange⟩
    · cases h

theorem orderly_read {w : Errand Json} {reading : Reading} (hc : c.Orderly json config)
    (hplace : c.thread t = .read w reading) :
    (c.goto t (.recv w (c.mSockets w.socket).fd reading)).Orderly json config := by
  have hstage := hc.stage t
  have hsocket : (c.thread t).socket? = some w.socket := by
    rw [hplace]
    rfl
  rw [hplace] at hstage
  obtain ⟨hopen, k, progress, hat, hreading, hexchange⟩ := hstage
  exact orderly_move hc hsocket hopen rfl ⟨hopen, rfl, k, progress, hat, hreading, hexchange⟩

/-- After a call of `recv`, which leaves the connection as `k`. -/
theorem orderly_proceed {c₁ : HTTPClient Json Tid} {w : Errand Json} (hc : c.Orderly json config)
    (hsocket : (c.thread t).socket? = some w.socket) (hopen : (c.mSockets w.socket).closed = false)
    (hthread : c₁.thread = c.thread) (hsockets : c₁.mSockets = c.mSockets)
    (hconnection : ∀ fd, ¬ c.Owns w.socket fd → c₁.connection fd = c.connection fd)
    (hresponses : c₁.responses = c.responses) (hfinished : c₁.finished = c.finished)
    (hat : c₁.At w.socket k)
    (hnext : ∀ reading, progress.reading? = some reading →
      c₁.Exchange json config w.request k progress)
    (hdone : ∀ response, progress = .done response →
      k.Clean ∧ c₁.Received config w.request response)
    (hthrown : ∀ exception, progress = .thrown exception → k.Clean) :
    (c₁.proceed json t w (c.mSockets w.socket).fd progress).Orderly json config := by
  have hopen₁ : (c₁.mSockets w.socket).closed = false := by
    rw [hsockets]
    exact hopen
  have hsubset : c.responses ⊆ c₁.responses := by
    rw [hresponses]
    exact List.Subset.refl _
  have hgo : ∀ p, p.socket? = some w.socket → (c₁.goto t p).Stage json config p →
      (c₁.goto t p).Orderly json config := by
    intro p hp hstage
    refine orderly_work hc hsocket hopen ?_ hsockets hconnection hresponses (.inl hp) hstage ?_ ?_
    · simp [goto, hthread]
    · intro hnone
      rw [hp] at hnone
      cases hnone
    · exact Delivered.mono hsubset hfinished hc.delivered
  have hend : ∀ outcome, k.Clean → (∀ value, outcome = .ok value → ∃ response,
      c.Received config w.request response ∧ w.request.outcome json response = .ok value) →
      (c₁.finish t w.request outcome).Orderly json config := by
    intro outcome hclean hok
    refine orderly_work (p := .outside) hc hsocket hopen ?_ hsockets hconnection hresponses (.inr rfl)
      trivial ?_ ?_
    · simp [finish, goto, hthread]
    · exact fun _ _ => ⟨k, hat, hclean⟩
    · exact hc.delivered.append w.request outcome hresponses (by simp [finish, goto, hfinished]) hok
  cases progress with
  | more reading =>
    exact hgo (.recv w _ reading) rfl
      ⟨hopen₁, by rw [← hsockets]; rfl, k, .more reading, hat, rfl, hnext reading rfl⟩
  | next reading =>
    exact hgo (.read w reading) rfl ⟨hopen₁, k, .next reading, hat, rfl, hnext reading rfl⟩
  | done response =>
    obtain ⟨hclean, hreceived⟩ := hdone response rfl
    simp only [proceed]
    split
    · refine hgo (.close w (.success response)) rfl ⟨hopen₁, ⟨k, hat⟩, ?_⟩
      intro response' hexit
      obtain rfl := Exit.success.inj hexit
      exact hreceived
    · refine hend _ hclean fun value hvalue => ⟨response, ?_, hvalue⟩
      obtain ⟨text, hmem, hdecodes⟩ := hreceived
      exact ⟨text, hresponses ▸ hmem, hdecodes⟩
  | retry | failed =>
    exact hgo (.close w _) rfl ⟨hopen₁, ⟨k, hat⟩, fun response hexit => by cases hexit⟩
  | thrown exception =>
    exact hend _ (hthrown exception rfl) fun value hvalue => by cases hvalue
  | overrun => exact hgo (.overrun w) rfl ⟨hopen₁, k, hat⟩

/-- A call of `recv` has returned `n` bytes: the connection has ended, or it has taken them. -/
theorem recv_amount_cases {w : Errand Json} {f n : Nat} {reading : Reading}
    (hk : c.connection f = some k)
    (h : c.recv json config t w (some f) reading (.amount n) = some c') :
    (n = 0 ∧ k.incoming = [] ∧ k.hungUp = true ∧
        c' = c.proceed json t w (some f) (reading.atEnd config.memory)) ∨
      (n ≠ 0 ∧ n ≤ reading.wanted ∧ n ≤ k.incoming.length ∧
        c' = (c.setConnection f (some { k with incoming := k.incoming.drop n })).proceed json t w
          (some f) (reading.receive config.memory (k.incoming.take n))) := by
  simp only [recv, hk] at h
  split at h
  · rename_i hzero
    split at h
    · rename_i hended
      exact .inl ⟨hzero, hended.1, hended.2, (Option.some.inj h).symm⟩
    · cases h
  · rename_i hn
    split at h
    · rename_i hlength
      exact .inr ⟨hn, hlength.1, hlength.2, (Option.some.inj h).symm⟩
    · cases h

theorem orderly_recv {w : Errand Json} {fd : Option Nat} {reading : Reading} {result : SysResult}
    (hc : c.Orderly json config) (hplace : c.thread t = .recv w fd reading)
    (h : c.recv json config t w fd reading result = some c') : c'.Orderly json config := by
  have hstage := hc.stage t
  have hsocket : (c.thread t).socket? = some w.socket := by
    rw [hplace]
    rfl
  rw [hplace] at hstage
  obtain ⟨hopen, rfl, k, progress, ⟨f, hf, hk⟩, hreading, hexchange⟩ := hstage
  cases result with
  | ok | descriptor _ => cases h
  | fault =>
    obtain rfl := Option.some.inj h
    refine orderly_proceed hc hsocket hopen rfl rfl (fun _ _ => rfl) rfl rfl ⟨f, hf, hk⟩ ?_ ?_ ?_ <;>
      cases reading with
      | line kind start => cases kind <;> simp [Reading.fault, LineKind.fault, Progress.reading?]
      | fixed kind bufSize buf | indefinite response => simp [Reading.fault, Progress.reading?]
  | amount n =>
    rw [hf] at h
    rcases recv_amount_cases hk h with
      ⟨-, hincoming, hhungUp, rfl⟩ | ⟨hn, hwanted, hlength, rfl⟩
    · rw [← hf]
      rcases hexchange with ⟨_, rfl⟩ | ⟨houtgoing, text, hmem, hframed, hfollows⟩
      · -- no byte of the response has come: the attempt may be repeated
        obtain rfl := Option.some.inj hreading
        refine orderly_proceed hc hsocket hopen rfl rfl (fun _ _ => rfl) rfl rfl ⟨f, hf, hk⟩ ?_ ?_ ?_ <;>
          simp [Reading.atEnd, LineKind.fault, Progress.reading?]
      · have hends := hfollows.atEnd hreading hincoming hhungUp
        refine orderly_proceed hc hsocket hopen rfl rfl (fun _ _ => rfl) rfl rfl ⟨f, hf, hk⟩ ?_ ?_ ?_
        · exact fun _ _ => .inr ⟨houtgoing, text, hmem, hframed, hends⟩
        · intro response hdone
          rw [hdone] at hends
          exact ⟨⟨houtgoing, hincoming⟩, text, hmem, (hends.done hframed).2⟩
        · exact fun _ _ => ⟨houtgoing, hincoming⟩
    · rw [← hf]
      rcases hexchange with ⟨⟨hincoming, _⟩, _⟩ | ⟨houtgoing, text, hmem, hframed, hfollows⟩
      · rw [hincoming] at hlength
        exact absurd (Nat.le_zero.mp hlength) hn
      · have hreceived := hfollows.receive hreading hn hwanted hlength
        refine orderly_proceed (k := { k with incoming := k.incoming.drop n }) hc hsocket hopen rfl rfl
          (fun _ hother => setConnection_other hf hopen hother) rfl rfl
          ⟨f, hf, Function.update_self _ _ _⟩ ?_ ?_ ?_
        · exact fun _ _ => .inr ⟨houtgoing, text, hmem, hframed, hreceived⟩
        · intro response hdone
          rw [hdone] at hreceived
          obtain ⟨hrest, hdecodes⟩ := hreceived.done hframed
          exact ⟨⟨houtgoing, hrest⟩, text, hmem, hdecodes⟩
        · intro exception hthrown
          rw [hthrown] at hreceived
          exact ⟨houtgoing, hreceived.thrown hframed⟩

/-- The socket has been closed: nothing is required of a closed socket. -/
theorem orderly_closed {w : Errand Json} (hc : c.Orderly json config)
    (hsocket : (c.thread t).socket? = some w.socket) (hopen : (c.mSockets w.socket).closed = false)
    (hthread : c'.thread = Function.update c.thread t p)
    (hplace : p = .outside ∨ p = .connect { w with retries := w.retries + 1 })
    (hsockets : c'.mSockets =
      Function.update c.mSockets w.socket { c.mSockets w.socket with closed := true })
    (hconnection : c'.connection = (c.destroy w.socket).connection)
    (hresponses : c'.responses = c.responses) (hdelivered : c'.Delivered json config) :
    c'.Orderly json config := by
  have hclosed : (c'.mSockets w.socket).closed = true := by
    rw [hsockets, Function.update_self]
  have hrest : c'.Rest w.socket := by
    intro hopen'
    rw [hclosed] at hopen'
    cases hopen'
  refine orderly_goto hc (.inl hsocket) hthread ?_ ?_ ?_ (fun _ => hrest) ?_ hdelivered
  · rcases hplace with rfl | rfl
    · exact .inr rfl
    · exact .inl rfl
  · refine hc.sameAt_other ?_ ?_ hresponses
    · intro s' hne
      rw [hsockets, Function.update_of_ne hne]
    · intro fd _ hfd
      rw [hconnection]
      exact destroy_connection (fun f hf => ⟨hf, .inl hopen⟩) hfd
  · rcases hplace with rfl | rfl
    · trivial
    · exact hrest
  · intro fd _ hlive
    rw [hclosed] at hlive
    rcases hplace with rfl | rfl <;> simp [RequestPlace.isConnecting] at hlive

theorem orderly_close {w : Errand Json} {exit : Exit} (hc : c.Orderly json config)
    (hplace : c.thread t = .close w exit) : (c.close json t w exit).Orderly json config := by
  have hstage := hc.stage t
  have hsocket : (c.thread t).socket? = some w.socket := by
    rw [hplace]
    rfl
  rw [hplace] at hstage
  obtain ⟨hopen, _, hreceived⟩ := hstage
  obtain ⟨hthread, hsockets, hresponses, hfinished⟩ := destroy_frame c w.socket
  have hend : ∀ outcome, (∀ value, outcome = .ok value → ∃ response,
      c.Received config w.request response ∧ w.request.outcome json response = .ok value) →
      (((c.destroy w.socket).setSocket w.socket { c.mSockets w.socket with closed := true }).finish t
        w.request outcome).Orderly json config := by
    intro outcome hok
    refine orderly_closed hc hsocket hopen ?_ (.inl rfl) ?_ rfl hresponses ?_
    · simp [finish, goto, setSocket, hthread]
    · simp [finish, goto, setSocket, hsockets]
    · exact hc.delivered.append w.request outcome hresponses
        (by simp [finish, goto, setSocket, hfinished]) hok
  cases exit with
  | reconnect =>
    simp only [close]
    split
    · refine orderly_closed hc hsocket hopen ?_ (.inr rfl) ?_ rfl hresponses ?_
      · simp [goto, setSocket, hthread]
      · simp [goto, setSocket, hsockets]
      · refine Delivered.mono ?_ hfinished hc.delivered
        exact fun e he => hresponses.symm ▸ he
    · exact hend _ fun value hvalue => by cases hvalue
  | fail => exact hend _ fun value hvalue => by cases hvalue
  | success response =>
    exact hend _ fun value hvalue => ⟨response, hreceived response rfl, hvalue⟩

theorem orderly_doRequest {result : SysResult} (hc : c.Orderly json config)
    (hok : locksFree c (.thread t result)) (h : c.doRequest json config t result = some c') :
    c'.Orderly json config := by
  unfold doRequest at h
  cases hplace : c.thread t with
  | outside =>
    simp only [hplace] at h
    cases h
  | select request i =>
    simp only [hplace] at h
    exact orderly_select hc hplace hok h
  | guard w =>
    simp only [hplace] at h
    obtain rfl := Option.some.inj h
    exact orderly_guard hc hplace
  | connect w =>
    simp only [hplace] at h
    exact orderly_connect hc hplace h
  | connecting w =>
    simp only [hplace] at h
    exact orderly_connecting hc hplace h
  | write w =>
    simp only [hplace] at h
    obtain rfl := Option.some.inj h
    exact orderly_write hc hplace
  | send w fd remaining =>
    simp only [hplace] at h
    exact orderly_send hc hplace h
  | poll w =>
    simp only [hplace] at h
    exact orderly_poll hc hplace h
  | read w reading =>
    simp only [hplace] at h
    obtain rfl := Option.some.inj h
    exact orderly_read hc hplace
  | recv w fd reading =>
    simp only [hplace] at h
    exact orderly_recv hc hplace h
  | overrun w =>
    simp only [hplace] at h
    cases h
  | close w exit =>
    simp only [hplace] at h
    obtain rfl := Option.some.inj h
    exact orderly_close hc hplace

end Steps

/-! ### The steps of the server -/

/-- The server changes the connection at `f`, and keeps what the request on it counts on. -/
theorem orderly_server {f : Nat} (hc : c.Orderly json config) (k' : Connection Json)
    (hthread : c'.thread = c.thread) (hsockets : c'.mSockets = c.mSockets)
    (hk : c.connection f = some k)
    (hconnection : c'.connection = Function.update c.connection f (some k'))
    (hresponses : c.responses ⊆ c'.responses) (hfinished : c'.finished = c.finished)
    (hclean : k.Clean → k'.Clean)
    (hsent : ∀ request remaining, remaining ≠ [] → Sent json config request k remaining →
      Sent json config request k' remaining)
    (hexchange : ∀ request progress, c.Exchange json config request k progress →
      c'.Exchange json config request k' progress) : c'.Orderly json config := by
  have hat : ∀ s k₀, c.At s k₀ → (k₀ = k ∧ c'.At s k') ∨ c'.At s k₀ := by
    rintro s k₀ ⟨fd, hfd, hk₀⟩
    by_cases hf : fd = f
    · subst hf
      refine .inl ⟨Option.some.inj (hk₀.symm.trans hk), fd, by rw [hsockets]; exact hfd, ?_⟩
      rw [hconnection, Function.update_self]
    · refine .inr ⟨fd, by rw [hsockets]; exact hfd, ?_⟩
      rw [hconnection, Function.update_of_ne hf]
      exact hk₀
  -- whatever the server keeps of `k` is kept of the connection of every socket
  have hkeep : ∀ s (P P' : Connection Json → Prop), (P k → P' k') → (∀ k₀, P k₀ → P' k₀) →
      (∃ k₀, c.At s k₀ ∧ P k₀) → ∃ k₀, c'.At s k₀ ∧ P' k₀ := by
    rintro s P P' hP hother ⟨k₀, hat₀, hP₀⟩
    rcases hat s k₀ hat₀ with ⟨rfl, hat'⟩ | hat'
    · exact ⟨k', hat', hP hP₀⟩
    · exact ⟨k₀, hat', hother k₀ hP₀⟩
  have hunder : ∀ s request progress,
      (∃ k₀, c.At s k₀ ∧ c.Exchange json config request k₀ progress) →
      ∃ k₀, c'.At s k₀ ∧ c'.Exchange json config request k₀ progress :=
    fun s request progress => hkeep s _ _ (hexchange request progress)
      fun _ h => Exchange.mono hresponses h
  have hrest : ∀ s, c.Rest s → c'.Rest s := by
    intro s hrest hopen
    rw [hsockets] at hopen
    exact hkeep s _ _ hclean (fun _ h => h) (hrest hopen)
  have hstage : ∀ place, c.Stage json config place → c'.Stage json config place := by
    intro place hplace
    cases place with
    | outside | select request i => trivial
    | guard w => exact ⟨by rw [hsockets]; exact hplace.1, hrest _ hplace.2⟩
    | connect w => exact hrest _ hplace
    | connecting w | write w =>
      exact ⟨by rw [hsockets]; exact hplace.1, hkeep _ _ _ hclean (fun _ h => h) hplace.2⟩
    | send w fd remaining =>
      obtain ⟨hopen, hfd, hremaining, hat₀⟩ := hplace
      refine ⟨by rw [hsockets]; exact hopen, by rw [hsockets]; exact hfd, hremaining, ?_⟩
      exact hkeep _ _ _ (hsent _ _ hremaining) (fun _ h => h) hat₀
    | poll w =>
      exact ⟨by rw [hsockets]; exact hplace.1, hunder _ _ _ hplace.2⟩
    | read w reading =>
      obtain ⟨hopen, k₀, progress, hat₀, hreading, hexchange₀⟩ := hplace
      obtain ⟨k₁, hat₁, hexchange₁⟩ := hunder w.socket w.request progress ⟨k₀, hat₀, hexchange₀⟩
      exact ⟨by rw [hsockets]; exact hopen, k₁, progress, hat₁, hreading, hexchange₁⟩
    | recv w fd reading =>
      obtain ⟨hopen, hfd, k₀, progress, hat₀, hreading, hexchange₀⟩ := hplace
      obtain ⟨k₁, hat₁, hexchange₁⟩ := hunder w.socket w.request progress ⟨k₀, hat₀, hexchange₀⟩
      exact ⟨by rw [hsockets]; exact hopen, by rw [hsockets]; exact hfd, k₁, progress, hat₁,
        hreading, hexchange₁⟩
    | close w exit =>
      obtain ⟨hopen, ⟨k₀, hat₀⟩, hreceived⟩ := hplace
      obtain ⟨k₁, hat₁, _⟩ := hkeep w.socket (fun _ => True) (fun _ => True) id (fun _ => id)
        ⟨k₀, hat₀, trivial⟩
      exact ⟨by rw [hsockets]; exact hopen, ⟨k₁, hat₁⟩,
        fun response hexit => (hreceived response hexit).mono hresponses⟩
    | overrun w =>
      obtain ⟨hopen, k₀, hat₀⟩ := hplace
      obtain ⟨k₁, hat₁, _⟩ := hkeep w.socket (fun _ => True) (fun _ => True) id (fun _ => id)
        ⟨k₀, hat₀, trivial⟩
      exact ⟨by rw [hsockets]; exact hopen, k₁, hat₁⟩
  constructor
  · intro s
    rw [hthread]
    exact hc.exclusive s
  · intro t
    rw [hthread]
    exact hstage _ (hc.stage t)
  · intro s hnone
    rw [hthread] at hnone
    exact hrest s (hc.rest s hnone)
  · intro s s' fd h h'
    unfold Owns at h h'
    rw [hthread, hsockets] at h h'
    exact hc.distinct s s' fd h h'
  · exact hc.delivered.mono hresponses hfinished

theorem orderly_initial : ({} : HTTPClient Json Tid).Orderly json config := by
  constructor
  · exact fun s => sole_of_forall_not fun _ => by simp [RequestPlace.socket?]
  · exact fun _ => trivial
  · intro s _ hopen
    cases hopen
  · rintro s s' fd ⟨hfd, _⟩ _
    cases hfd
  · intro request value hmem
    cases hmem

section Runs

variable [DecidableEq Json]

theorem orderly_respond {fd : Nat} {text : Bytes} (hc : c.Orderly json config)
    (h : c.respond json config fd text = some c') : c'.Orderly json config := by
  unfold respond at h
  split at h
  · cases h
  rename_i k hk
  split at h
  · cases h
  rename_i request b hhead
  dsimp only at h
  split at h
  case isFalse => cases h
  rename_i hserves
  obtain rfl := Option.some.inj h
  obtain ⟨⟨rest, hwhole⟩, hhungUp, hframed⟩ := hserves
  have hne : k.outgoing ≠ [] := by
    rintro hnil
    rw [hnil] at hhead
    cases hhead
  -- what has been sent of a request is all of it, and of this request
  have hall : ∀ r remaining, Sent json config r k remaining → r = request ∧ remaining = [] := by
    rintro r remaining ⟨_, sent, hdata, houtgoing⟩
    obtain rfl : r = request := by
      cases sent with
      | nil => exact absurd houtgoing hne
      | cons b' sent =>
        rw [houtgoing] at hhead
        exact congrArg Prod.fst (Option.some.inj hhead)
    have hlength := congrArg List.length hwhole
    rw [hdata, houtgoing] at hlength
    simp only [List.length_append, List.length_map] at hlength
    exact ⟨rfl, List.length_eq_zero_iff.mp (by omega)⟩
  refine orderly_server hc _ rfl rfl hk rfl (List.subset_append_left _ _) rfl ?_ ?_ ?_
  · intro hclean
    exact absurd hclean.outgoing hne
  · intro r remaining hremaining hsent
    exact absurd (hall r remaining hsent).2 hremaining
  · rintro r progress (⟨hsent, rfl⟩ | ⟨houtgoing, _⟩)
    · obtain ⟨rfl, _⟩ := hall r [] hsent
      obtain ⟨hincoming, sent, hdata, houtgoing⟩ := hsent
      rw [List.append_nil] at hdata
      refine .inr ⟨?_, text, List.mem_append_right _ (List.mem_singleton_self _), hframed, .inl ?_⟩
      · simp [houtgoing, hdata]
      · simp [hincoming]
    · exact absurd houtgoing hne

variable [DecidableEq Tid]

theorem orderly_step {l : HTTPLabel Json Tid} (hc : c.Orderly json config) (hok : locksFree c l)
    (h : c.step json config l = some c') : c'.Orderly json config := by
  cases l with
  | call t method params => exact orderly_beginCall hc h
  | thread t result => exact orderly_doRequest hc hok h
  | respond fd text => exact orderly_respond hc h
  | hangUp fd =>
    obtain ⟨k, hk, rfl⟩ := Option.map_eq_some_iff.mp h
    refine orderly_server hc { k with hungUp := true } rfl rfl hk rfl (List.Subset.refl _) rfl
      ?_ ?_ ?_
    · exact fun hclean => ⟨hclean.outgoing, hclean.incoming⟩
    · exact fun _ _ _ hsent => hsent
    · rintro r progress (⟨hsent, rfl⟩ | ⟨houtgoing, text, hmem, hframed, hfollows⟩)
      · exact .inl ⟨hsent, rfl⟩
      · refine .inr ⟨houtgoing, text, hmem, hframed, hfollows.imp_right ?_⟩
        rintro ⟨_, hrest⟩
        exact ⟨rfl, hrest⟩

/-- While a mutex is locked only when no other request works on the socket any more, a socket
has one request at a time, and every value that a call returns is what it makes of the
response of the server to its own request. -/
theorem socket_exclusive (hrun : Run (step json config) locksFree {} c) :
    c.Exclusive ∧ c.Delivered json config := by
  have hc : c.Orderly json config :=
    hrun.invariant (fun _ _ _ ha hok hs => orderly_step ha hok hs) orderly_initial
  exact ⟨hc.exclusive, hc.delivered⟩

end Runs

instance [Fintype Tid] (c : HTTPClient Json Tid) (l : HTTPLabel Json Tid) :
    Decidable (locksFree c l) := by
  cases l with
  | thread t result =>
    cases result with
    | ok =>
      dsimp only [locksFree]
      generalize c.thread t = place
      cases place <;> infer_instance
    | _ => exact .isTrue trivial
  | _ => exact .isTrue trivial

/-! ### Two threads on one client -/

def localConfig : HTTPConfig where
  mHostname := bytes "127.0.0.1"
  mPath := bytes "/api"
  memory := 4096

/-- A response with the result `result` to the call `id`. -/
def okResponse (id result : Nat) : Bytes :=
  bytes "HTTP/1.1 200 OK\r\nContent-Length: 21\r\n\r\n" ++
    bytes (JsonLibrary.numbers.dumpReply { id := some (toString id), result := some (some result) })

/-- A call up to the end of `write`, with the system calls that `connect` makes. -/
def beginRequest (t : Bool) (connect : List SysResult) : List (HTTPLabel (Option Nat) Bool) :=
  [.call t "GetState" none, .thread t .ok, .thread t .ok] ++ connect.map (.thread t) ++
    [.thread t .ok, .thread t (.amount 174)]

/-- The call from `select` on, if it receives one of the responses above byte by byte. -/
def endRequest (t : Bool) : List (HTTPLabel (Option Nat) Bool) :=
  .thread t .ok :: .replicate 64 (.thread t (.amount 1))

theorem socket_used_twice_in_turn :
    ∃ c : HTTPClient (Option Nat) Bool, Run (step .numbers localConfig) locksFree {} c ∧
      c.finished.map (fun e => e.2.toOption) = [some (some 7), some (some 8)] ∧
      c.Exclusive ∧ c.Delivered .numbers localConfig := by
  have hreach : reaches (step .numbers localConfig) locksFree ({} : HTTPClient (Option Nat) Bool)
      (beginRequest true [.descriptor 3, .ok] ++ [.respond 3 (okResponse 0 7)] ++ endRequest true ++
        beginRequest false [.ok] ++ [.respond 3 (okResponse 1 8)] ++ endRequest false)
      (fun c => c.finished.map (fun e => e.2.toOption) = [some (some 7), some (some 8)]) = true := by
    decide +kernel
  obtain ⟨c, hrun, hfinished⟩ := run_of_reaches hreach
  exact ⟨c, hrun, of_decide_eq_true hfinished, socket_exclusive hrun⟩

def secondParsed : Response where
  headers := [(bytes "Content-Length", bytes "21")]
  content := bytes (JsonLibrary.numbers.dumpReply { id := some "1", result := some (some 8) })
  contentLength := 21
  code := 200
  version := bytes "HTTP/1.1"

theorem second_parsed :
    (responseStart.run localConfig.memory (okResponse 1 8)).1 = .done secondParsed ∧
      secondParsed.code = 200 ∧ JsonLibrary.numbers.parse secondParsed.content =
        some { id := some "1", result := some (some 8) } := by
  decide +kernel

/-- The second thread locks the mutex of the socket that the first one is about to use. Both
send their requests on one connection, and the second thread reads first. -/
theorem second_request_takes_first_response :
    ¬ (∀ c : HTTPClient (Option Nat) Bool, Run (step .numbers localConfig) always {} c →
        c.Exclusive) ∧
      ¬ ∀ c : HTTPClient (Option Nat) Bool, Run (step .numbers localConfig) always {} c →
        c.Delivered .numbers localConfig := by
  constructor
  · intro hclaim
    have hreach : reaches (step .numbers localConfig) always ({} : HTTPClient (Option Nat) Bool)
        (beginRequest true [.descriptor 3, .ok] ++ beginRequest false [.ok])
        (fun c => (c.thread true).socket? = some 0 ∧ (c.thread false).socket? = some 0) = true := by
      decide +kernel
    obtain ⟨c, hrun, hsockets⟩ := run_of_reaches hreach
    obtain ⟨htrue, hfalse⟩ := of_decide_eq_true hsockets
    cases hclaim c hrun 0 htrue hfalse
  · intro hclaim
    have hreach : reaches (step .numbers localConfig) always ({} : HTTPClient (Option Nat) Bool)
        (beginRequest true [.descriptor 3, .ok] ++ beginRequest false [.ok] ++
          [.respond 3 (okResponse 0 7), .respond 3 (okResponse 1 8)] ++ endRequest false)
        (fun c => c.finished.map (fun e => (e.1.call, e.2.toOption)) = [(1, some (some 7))] ∧
          c.responses.map (fun e => (e.1.call, e.2)) =
            [(0, okResponse 0 7), (1, okResponse 1 8)]) = true := by
      decide +kernel
    obtain ⟨c, hrun, hc⟩ := run_of_reaches hreach
    obtain ⟨hfinished, hresponses⟩ := of_decide_eq_true hc
    obtain ⟨⟨request, outcome⟩, hone, hvalue⟩ := List.map_eq_singleton_iff.mp hfinished
    obtain ⟨hcall, hvalue⟩ := Prod.mk.inj hvalue
    obtain rfl : outcome = .ok (some 7) := by
      cases outcome with
      | error e => cases hvalue
      | ok value => rw [Option.some.inj hvalue]
    have hmem : (request, .ok (some 7)) ∈ c.finished := by simp [hone]
    obtain ⟨response, ⟨text, htext, hdecodes⟩, houtcome⟩ := hclaim c hrun request (some 7) hmem
    -- the only response to the second call has the result 8
    obtain rfl : text = okResponse 1 8 := by
      have hsent := List.mem_map_of_mem (f := fun e => (e.1.call, e.2)) htext
      rw [hresponses] at hsent
      have hcall : request.call = 1 := hcall
      simpa [hcall] using hsent
    obtain rfl := hdecodes.eq_of_done second_parsed.1
    simp [JsonRPCRequest.outcome, second_parsed.2.1, second_parsed.2.2] at houtcome

end HTTPClient

end PeakAnalyser
