import PeakAnalyser.Acquisition
import PeakAnalyser.Library.Runs
import PeakAnalyser.WriteFrames

/-!
# What the steps of the system can do

Inversion of the steps that are not the task's own, and the parts of the state
that the composite steps of the task leave alone.
-/

namespace PeakAnalyser

set_option autoImplicit false

namespace World

attribute [simp] int setIntegerParam setStringParam record forget locked

variable {w w' : World} {base : ADDriver}

/-! ### Steps of the task -/

/-- Where each step of the task leads. -/
theorem taskStep_cases {reply : Reply} (h : w.taskStep reply = some w') :
    match w.pc with
    | .entry => w.port = .idle ∧ w' = w.loopHead
    | .waitStart => w.startEvent = true ∧ w' = { w with startEvent := false, pc := .woken }
    | .woken => w.port = .idle ∧ w' = w.weAreAcquiring.startImage
    | .call site =>
      (∃ call, w.callAt site = some call ∧
        w' = { w with log := .issued call :: w.log, pc := .inCall site call }) ∨
      (w.callAt site = none ∧ w' = w.returnedAt site w.server)
    | .inCall site call => w' = w.answered site call reply
    | .exposureLoop => w' = w.exposureTest
    | .clearSteps =>
      w' = { w with task := { w.task with numStepsCounter := 0 }, pc := .tryWait }
    | .tryWait => w' = { w with stopEvent := false, pc := .call .start }
    | .waitStop => w.stopEvent = true ∧ w' = { w with stopEvent := false, pc := .exposureDone }
    | .exposureDone => w.port = .idle ∧ w' = w.exposureFinished
    | .leaveTry => w.port = .idle ∧ w' = w.afterTry
    | .callbacks => w.port = .idle ∧ w' = w.completed.loopHead := by
  unfold taskStep at h
  cases hpc : w.pc with
  | call site =>
    simp only [hpc] at h ⊢
    cases hcall : w.callAt site with
    | some call =>
      simp only [hcall, Option.some.injEq] at h
      exact Or.inl ⟨call, rfl, h.symm⟩
    | none =>
      simp only [hcall, Option.some.injEq] at h
      exact Or.inr ⟨rfl, h.symm⟩
  | entry | woken | exposureDone | leaveTry | callbacks =>
    simp only [hpc, locked, Option.ite_none_right_eq_some, Option.some.injEq] at h ⊢
    exact ⟨h.1, h.2.symm⟩
  | waitStart | waitStop =>
    simp only [hpc, Option.ite_none_right_eq_some, Option.some.injEq] at h ⊢
    exact ⟨h.1, h.2.symm⟩
  | inCall site call =>
    simp only [hpc, Option.some.injEq] at h ⊢
    exact h.symm
  | exposureLoop | clearSteps | tryWait =>
    simp only [hpc, Option.some.injEq] at h ⊢
    exact h.symm

theorem unsubscribeCall_eq_some {guid : Option Nat} {call : Call}
    (h : w.unsubscribeCall guid = some call) :
    ∃ g, guid = some g ∧ g ∈ w.subscribers.map Prod.fst ∧ call = .unsubscribe g := by
  unfold unsubscribeCall at h
  cases guid with
  | none => cases h
  | some g =>
    dsimp only at h
    split at h
    · rename_i hmem
      exact ⟨g, rfl, hmem, (Option.some.inj h).symm⟩
    · cases h

theorem unsubscribeCall_of_mem {g : Nat} (h : g ∈ w.subscribers.map Prod.fst) :
    w.unsubscribeCall (some g) = some (.unsubscribe g) := if_pos h

theorem site_of_starts {site : Site} {call : Call} (h : w.callAt site = some call)
    (hstarts : call.starts = true) : site = .startMeasurement ∨ site = .start := by
  cases site
  case startMeasurement => exact Or.inl rfl
  case start => exact Or.inr rfl
  case unsubscribeState | unsubscribeAcquired | cleanupUnsubscribeState |
      cleanupUnsubscribeAcquired =>
    obtain ⟨_, _, _, rfl⟩ := unsubscribeCall_eq_some h
    simp [Call.starts] at hstarts
  all_goals
    obtain rfl := Option.some.inj h
    simp [Call.starts] at hstarts

/-- Between the issue of a call and the next one, the task moves itself and its
subscribers only. -/
structure TaskOnly (w w' : World) : Prop where
  driver : w'.driver = w.driver
  server : w'.server = w.server
  port : w'.port = w.port
  startEvent : w'.startEvent = w.startEvent
  stopEvent : w'.stopEvent = w.stopEvent
  images : w'.images = w.images
  log : w'.log = w.log

theorem cleanupAcquired_taskOnly (w : World) : TaskOnly w w.cleanupAcquired := by
  unfold cleanupAcquired
  split <;> exact ⟨rfl, rfl, rfl, rfl, rfl, rfl, rfl⟩

theorem caught_taskOnly (w : World) (what : String) : TaskOnly w (w.caught what) := by
  unfold caught
  dsimp only
  split
  · exact ⟨rfl, rfl, rfl, rfl, rfl, rfl, rfl⟩
  · obtain ⟨hdriver, hserver, hport, hstart, hstop, himages, hlog⟩ := cleanupAcquired_taskOnly
      { w with task := { w.task with failed := true, statusMessage := what } }
    exact ⟨hdriver, hserver, hport, hstart, hstop, himages, hlog⟩

theorem raisedAt_taskOnly (w : World) (site : Site) (what : String) :
    TaskOnly w (w.raisedAt site what) := by
  unfold raisedAt
  split
  · exact ⟨rfl, rfl, rfl, rfl, rfl, rfl, rfl⟩
  · exact caught_taskOnly w what

theorem returnedAt_taskOnly (w : World) (site : Site) (answer : Server) :
    TaskOnly w (w.returnedAt site answer) := by
  cases site
  case currentState =>
    unfold returnedAt
    dsimp only
    split
    · exact ⟨rfl, rfl, rfl, rfl, rfl, rfl, rfl⟩
    · exact caught_taskOnly w _
  case cleanupUnsubscribeState =>
    obtain ⟨hdriver, hserver, hport, hstart, hstop, himages, hlog⟩ := cleanupAcquired_taskOnly
      { w.forget w.task.guidState with task := { w.task with guidState := none } }
    exact ⟨hdriver, hserver, hport, hstart, hstop, himages, hlog⟩
  case cleanupCurrentState =>
    unfold returnedAt
    dsimp only
    split
    · split <;> exact ⟨rfl, rfl, rfl, rfl, rfl, rfl, rfl⟩
    · exact ⟨rfl, rfl, rfl, rfl, rfl, rfl, rfl⟩
  all_goals exact ⟨rfl, rfl, rfl, rfl, rfl, rfl, rfl⟩

theorem spectrumId_caught (what : String) : (w.caught what).task.spectrumId = w.task.spectrumId := by
  unfold caught cleanupAcquired
  dsimp only
  split
  · rfl
  · split <;> rfl

theorem spectrumId_returnedAt {site : Site} (answer : Server) (hdefine : site ≠ .defineSpectrum)
    (hfinish : site ≠ .finishSpectrum) (hcleanup : site ≠ .cleanupFinishSpectrum) :
    (w.returnedAt site answer).task.spectrumId = w.task.spectrumId := by
  cases site
  case defineSpectrum => exact absurd rfl hdefine
  case finishSpectrum => exact absurd rfl hfinish
  case cleanupFinishSpectrum => exact absurd rfl hcleanup
  case currentState =>
    unfold returnedAt
    dsimp only
    split
    · rfl
    · exact spectrumId_caught _
  case getMeasuredSpectrum =>
    unfold returnedAt measured
    dsimp only
    split <;> rfl
  case cleanupUnsubscribeState =>
    unfold returnedAt cleanupAcquired
    dsimp only
    split <;> rfl
  case cleanupCurrentState =>
    unfold returnedAt
    dsimp only
    split
    · split <;> rfl
    · rfl
  all_goals rfl

theorem acquire_caught (what : String) : (w.caught what).task.acquire = w.task.acquire := by
  unfold caught cleanupAcquired
  dsimp only
  split
  · rfl
  · split <;> rfl

theorem acquire_returnedAt (site : Site) (answer : Server) :
    (w.returnedAt site answer).task.acquire = w.task.acquire := by
  cases site
  case currentState =>
    unfold returnedAt
    dsimp only
    split
    · rfl
    · exact acquire_caught _
  case getMeasuredSpectrum =>
    unfold returnedAt measured
    dsimp only
    split <;> rfl
  case cleanupUnsubscribeState =>
    unfold returnedAt cleanupAcquired
    dsimp only
    split <;> rfl
  case cleanupCurrentState =>
    unfold returnedAt
    dsimp only
    split
    · split <;> rfl
    · rfl
  all_goals rfl

theorem acquire_answered (site : Site) (call : Call) (reply : Reply) :
    (w.answered site call reply).task.acquire = w.task.acquire := by
  cases reply with
  | ok => exact acquire_returnedAt _ _
  | raised what executed =>
    unfold answered raisedAt
    dsimp only
    split
    · rfl
    · exact acquire_caught _

/-- The answer to a call: it enters the trace, and the server has carried it out or not. -/
theorem answered_taskOnly (w : World) (site : Site) (call : Call) (reply : Reply) :
    TaskOnly { w with
      server := if (reply.event call).carriedOut call then w.server.exec call else w.server
      log := reply.event call :: w.log } (w.answered site call reply) := by
  cases reply with
  | ok => exact returnedAt_taskOnly _ site w.server
  | raised what executed => exact raisedAt_taskOnly _ site what

theorem answered_ok (w : World) (site : Site) (call : Call) :
    w.answered site call .ok =
      ({ w with server := w.server.exec call, log := .returned call :: w.log } : World).returnedAt
        site w.server := by
  simp [answered, Reply.event, Event.carriedOut]

theorem answered_raised (w : World) (site : Site) (call : Call) (what : String) :
    w.answered site call (.raised what false) =
      ({ w with log := .raised call false :: w.log } : World).raisedAt site what := by
  simp [answered, Reply.event, Event.carriedOut]

/-! ### Steps of the environment -/

/-- Nothing but the task moves the task; a callback may count a step. -/
structure SamePlace (w w' : World) : Prop where
  pc : w'.pc = w.pc
  subscribers : w'.subscribers = w.subscribers
  images : w'.images = w.images
  task : ∃ n, w'.task = { w.task with numStepsCounter := n }

theorem SamePlace.of_eq (hpc : w'.pc = w.pc) (hs : w'.subscribers = w.subscribers)
    (hi : w'.images = w.images) (ht : w'.task = w.task) : SamePlace w w' :=
  ⟨hpc, hs, hi, w.task.numStepsCounter, ht⟩

theorem samePlace_portAction (action : PortAction) : SamePlace w (w.portAction action) := by
  cases action <;> exact .of_eq rfl rfl rfl rfl

/-- The port thread issues its call, or gets the answer: a text of the driver, the
server, the trace and its own place change. -/
theorem portStep_cases {reply : Reply} (h : w.portStep reply = some w') :
    (∃ c, w.port = .calling c false ∧
      w' = { w.record (.issued c.call) with port := .calling c true }) ∨
    (∃ c text, w.port = .calling c true ∧
      w' = { w.record (reply.event c.call) with
        port := .idle
        driver := { w.driver with string := text }
        server := if (reply.event c.call).carriedOut c.call then w.server.exec c.call
          else w.server }) := by
  unfold portStep at h
  split at h
  · simp at h
  · rename_i c hport
    obtain rfl := Option.some.inj h
    exact Or.inl ⟨c, hport, rfl⟩
  · rename_i c hport
    refine Or.inr ⟨c, ?_⟩
    dsimp only at h
    split at h
    · obtain rfl := Option.some.inj h
      exact ⟨Function.update w.driver.string .adStatusMessage "Power supplies reset", hport, rfl⟩
    · obtain rfl := Option.some.inj h
      exact ⟨w.driver.string, hport, rfl⟩

theorem samePlace_portStep {reply : Reply} (h : w.portStep reply = some w') : SamePlace w w' := by
  obtain ⟨_, _, rfl⟩ | ⟨_, _, _, rfl⟩ := portStep_cases h
  · exact .of_eq rfl rfl rfl rfl
  · exact .of_eq rfl rfl rfl rfl

/-- The state callback signals `stopEventId` or does nothing. -/
theorem stateCallback_cases (w : World) (guid : Nat) (state : AnalyserState) :
    w.stateCallback guid state = w ∨ w.stateCallback guid state = { w with stopEvent := true } := by
  unfold stateCallback
  split
  · exact Or.inr rfl
  · exact Or.inl rfl

/-- A delivered notification changes the pending ones and `stopEvent` only. -/
theorem deliver_cases {index : Nat} {keep : Bool} (h : w.deliver index keep = some w') :
    ∃ pending stop, w' = { w with
      server := { w.server with pending := pending }, stopEvent := stop } := by
  unfold deliver at h
  split at h
  · obtain rfl := Option.some.inj h
    obtain hsame | hstop := stateCallback_cases _ _ _
    · exact ⟨_, _, hsame⟩
    · exact ⟨_, _, hstop⟩
  · simp at h

theorem samePlace_deliver {index : Nat} {keep : Bool} (h : w.deliver index keep = some w') :
    SamePlace w w' := by
  obtain ⟨_, _, rfl⟩ := deliver_cases h
  exact .of_eq rfl rfl rfl rfl

theorem step_of_writeInt32 {f : IntParam} {value : Int} {reply : AdjustReply} {driver : Driver}
    {action : PortAction} (hidle : w.port = .idle)
    (h : w.driver.writeInt32 base f value reply = some (driver, action)) :
    w.step base (.write f value reply) =
      if w.hasClient action then some ({ w with driver := driver }.portAction action) else none := by
  simp only [step, if_pos hidle, h, Option.bind_some]

/-- Only the electronics may be missing. -/
theorem hasClient_acquireAction (d : Driver) (value : Int) :
    w.hasClient (d.acquireAction value) = true := by
  unfold Driver.acquireAction
  dsimp only
  split
  · rfl
  · split <;> rfl

theorem step_write {f : IntParam} {v : Int} {reply : AdjustReply}
    (h : w.step base (.write f v reply) = some w') :
    w.port = .idle ∧ ∃ d action, w.driver.writeInt32 base f v reply = some (d, action) ∧
      w' = { w with driver := d }.portAction action := by
  simp only [step] at h
  split at h
  · rename_i hport
    obtain ⟨⟨d, action⟩, hw, hact⟩ := Option.bind_eq_some_iff.mp h
    dsimp only at hact
    split at hact
    · exact ⟨hport, d, action, hw, (Option.some.inj hact).symm⟩
    · cases hact
  · simp at h

theorem samePlace_of_step {l : Label} (hl : ∀ reply, l ≠ .task reply)
    (h : w.step base l = some w') : SamePlace w w' := by
  cases l with
  | task reply => exact absurd rfl (hl reply)
  | write f v reply =>
    obtain ⟨_, d, action, _, rfl⟩ := step_write h
    obtain ⟨hpc, hs, hi, n, ht⟩ := samePlace_portAction (w := { w with driver := d }) action
    exact ⟨hpc, hs, hi, n, ht⟩
  | writeFloat f v reply =>
    simp only [step] at h
    split at h
    · obtain ⟨d, _, rfl⟩ := Option.map_eq_some_iff.mp h
      exact .of_eq rfl rfl rfl rfl
    · simp at h
  | port reply => exact samePlace_portStep h
  | exposureEnd how =>
    obtain ⟨_, _, rfl⟩ := Option.map_eq_some_iff.mp h
    exact .of_eq rfl rfl rfl rfl
  | notify index keep => exact samePlace_deliver h
  | spectrumUpdate settings =>
    simp only [step] at h
    split at h
    · obtain rfl := Option.some.inj h
      exact ⟨rfl, rfl, rfl, _, rfl⟩
    · simp at h
  | otherClient state keepsOwn =>
    obtain rfl := Option.some.inj h
    exact .of_eq rfl rfl rfl rfl

theorem step_write_adAcquire {v : Int} {reply : AdjustReply}
    (h : w.step base (.write .adAcquire v reply) = some w') :
    w.port = .idle ∧
      w' = (w.setIntegerParam .adAcquire v).portAction
        ((w.driver.setIntegerParam .adAcquire v).acquireAction v) := by
  obtain ⟨hport, d, action, hw, rfl⟩ := step_write h
  rw [Driver.writeInt32_adAcquire] at hw
  obtain ⟨rfl, rfl⟩ := Prod.mk.inj (Option.some.inj hw)
  exact ⟨hport, rfl⟩

theorem portAction_driver (action : PortAction) : (w.portAction action).driver = w.driver := by
  cases action <;> rfl

theorem portAction_server (action : PortAction) : (w.portAction action).server = w.server := by
  cases action <;> rfl

theorem portAction_log (action : PortAction) : (w.portAction action).log = w.log := by
  cases action <;> rfl

theorem portAction_stopEvent (action : PortAction) :
    (w.portAction action).stopEvent = w.stopEvent := by
  cases action <;> rfl

/-- A parameter of the acquisition changes by the task or by a write of that
parameter. -/
theorem control_of_step {l : Label} {q : IntParam} (hq : q.isControl = true)
    (hl : ∀ reply, l ≠ .task reply) (hw : ∀ v reply, l ≠ .write q v reply)
    (h : w.step base l = some w') : w'.driver.int q = w.driver.int q := by
  cases l with
  | task reply => exact absurd rfl (hl reply)
  | write f v reply =>
    obtain ⟨_, d, action, hd, rfl⟩ := step_write h
    have hne : q ≠ f := by
      rintro rfl
      exact hw v reply rfl
    rw [portAction_driver]
    exact Driver.writeInt32_int base hd hq hne
  | writeFloat f v reply =>
    simp only [step] at h
    split at h
    · obtain ⟨d, hd, rfl⟩ := Option.map_eq_some_iff.mp h
      exact Driver.writeFloat64_int base hd hq
    · simp at h
  | port reply => obtain ⟨_, _, rfl⟩ | ⟨_, _, _, rfl⟩ := portStep_cases h <;> rfl
  | exposureEnd how =>
    obtain ⟨_, _, rfl⟩ := Option.map_eq_some_iff.mp h
    rfl
  | notify index keep =>
    obtain ⟨_, _, rfl⟩ := deliver_cases h
    rfl
  | spectrumUpdate settings =>
    simp only [step] at h
    split at h
    · obtain rfl := Option.some.inj h
      have hne := IntParam.ne_of_isControl (p := .acqNumStepsCounter) hq rfl
      simp only [spectrumCallback]
      split <;> simp [hne, Params.int_setRegion settings hq]
    · simp at h
  | otherClient state keepsOwn =>
    obtain rfl := Option.some.inj h
    rfl

/-- What the port thread adds to the trace; nothing else but the task does. -/
theorem log_of_step {l : Label} (hl : ∀ reply, l ≠ .task reply) (h : w.step base l = some w') :
    w'.log = w.log ∨ (∃ c, w.port = .calling c false ∧ w'.log = .issued c.call :: w.log) ∨
      ∃ c reply, w.port = .calling c true ∧ w'.log = Reply.event c.call reply :: w.log := by
  cases l with
  | task reply => exact absurd rfl (hl reply)
  | write f v reply =>
    obtain ⟨_, d, action, _, rfl⟩ := step_write h
    exact Or.inl (portAction_log action)
  | writeFloat f v reply =>
    simp only [step] at h
    split at h
    · obtain ⟨d, _, rfl⟩ := Option.map_eq_some_iff.mp h
      exact Or.inl rfl
    · simp at h
  | port reply =>
    obtain ⟨c, hport, rfl⟩ | ⟨c, _, hport, rfl⟩ := portStep_cases h
    · exact Or.inr (Or.inl ⟨c, hport, rfl⟩)
    · exact Or.inr (Or.inr ⟨c, reply, hport, rfl⟩)
  | exposureEnd how =>
    obtain ⟨_, _, rfl⟩ := Option.map_eq_some_iff.mp h
    exact Or.inl rfl
  | notify index keep =>
    obtain ⟨_, _, rfl⟩ := deliver_cases h
    exact Or.inl rfl
  | spectrumUpdate settings =>
    simp only [step] at h
    split at h
    · obtain rfl := Option.some.inj h
      exact Or.inl rfl
    · simp at h
  | otherClient state keepsOwn =>
    obtain rfl := Option.some.inj h
    exact Or.inl rfl

/-- The start event is signalled by an accepted start request only. -/
theorem startEvent_of_step {l : Label} (hl : ∀ reply, l ≠ .task reply)
    (h : w.step base l = some w') :
    w'.startEvent = w.startEvent ∨ ∃ v reply, l = .write .adAcquire v reply ∧ v ≠ 0 ∧
      w.driver.int .adStatus ≠ adStatusAcquire := by
  cases l with
  | task reply => exact absurd rfl (hl reply)
  | write f v reply =>
    obtain ⟨_, d, action, hd, rfl⟩ := step_write h
    by_cases hf : f = .adAcquire
    · subst hf
      rw [Driver.writeInt32_adAcquire] at hd
      obtain ⟨rfl, rfl⟩ := Prod.mk.inj (Option.some.inj hd)
      unfold Driver.acquireAction
      dsimp only
      split
      · rename_i hstart
        refine Or.inr ⟨v, reply, rfl, hstart.1, ?_⟩
        simpa using hstart.2.1
      · split <;> exact Or.inl rfl
    · by_cases hz : f = .zeroSupplies
      · subst hz
        rw [Driver.writeInt32_zeroSupplies] at hd
        obtain ⟨rfl, rfl⟩ := Prod.mk.inj (Option.some.inj hd)
        unfold Driver.zeroAction
        split <;> exact Or.inl rfl
      · rw [Driver.writeInt32_action base hd hf hz]
        exact Or.inl rfl
  | writeFloat f v reply =>
    simp only [step] at h
    split at h
    · obtain ⟨d, _, rfl⟩ := Option.map_eq_some_iff.mp h
      exact Or.inl rfl
    · simp at h
  | port reply =>
    obtain ⟨_, _, rfl⟩ | ⟨_, _, _, rfl⟩ := portStep_cases h <;> exact Or.inl rfl
  | exposureEnd how =>
    obtain ⟨_, _, rfl⟩ := Option.map_eq_some_iff.mp h
    exact Or.inl rfl
  | notify index keep =>
    obtain ⟨_, _, rfl⟩ := deliver_cases h
    exact Or.inl rfl
  | spectrumUpdate settings =>
    simp only [step] at h
    split at h
    · obtain rfl := Option.some.inj h
      exact Or.inl rfl
    · simp at h
  | otherClient state keepsOwn =>
    obtain rfl := Option.some.inj h
    exact Or.inl rfl

end World

end PeakAnalyser
