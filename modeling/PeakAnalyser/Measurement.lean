import PeakAnalyser.ImageBoundary

/-!
# The measurement that the task has open

Along the trace, between a `StartMeasurement` that was carried out and the
`FinishMeasurement` that was, a measurement is open. The task has at most one, and
none while it waits for a start.
-/

namespace PeakAnalyser

set_option autoImplicit false

open Runs

theorem openMeasurements_issued (call : Call) (log : List Event) :
    openMeasurements (.issued call :: log) = openMeasurements log := by
  simp [openMeasurements, Event.carriedOut]

theorem openMeasurements_firstFrame (log : List Event) :
    openMeasurements (.firstFrame :: log) = openMeasurements log := by
  simp [openMeasurements, Event.carriedOut]

theorem openMeasurements_start (reply : Reply) (log : List Event) :
    openMeasurements (reply.event .startMeasurement :: log) ≤ openMeasurements log + 1 := by
  cases reply with
  | ok => simp [openMeasurements, Event.carriedOut, Reply.event]
  | raised what executed =>
    cases executed <;> simp [openMeasurements, Event.carriedOut, Reply.event]

theorem openMeasurements_neutral {call : Call} (reply : Reply) (log : List Event)
    (hstart : call ≠ .startMeasurement) (hfinish : call ≠ .finishMeasurement) :
    openMeasurements (reply.event call :: log) = openMeasurements log := by
  cases reply <;> simp [openMeasurements, Event.carriedOut, Reply.event, hstart, hfinish]

theorem openMeasurements_other {call : Call} (reply : Reply) (log : List Event)
    (h : call ≠ .startMeasurement) :
    openMeasurements (reply.event call :: log) ≤ openMeasurements log := by
  by_cases hfinish : call = .finishMeasurement
  · subst hfinish
    cases reply with
    | ok => simp [openMeasurements, Event.carriedOut, Reply.event]
    | raised what executed =>
      cases executed <;> simp [openMeasurements, Event.carriedOut, Reply.event]
  · exact le_of_eq (openMeasurements_neutral reply log h hfinish)

theorem openMeasurements_finished (log : List Event) :
    openMeasurements (.returned .finishMeasurement :: log) = openMeasurements log - 1 := by
  simp [openMeasurements, Event.carriedOut]

/-- The calls of an acquisition that come before its measurement. -/
def Site.precedes : Site → Bool
  | .currentState | .defineSpectrum | .startMeasurement => true
  | _ => false

namespace World

variable {w w' : World} {base : ADDriver}

theorem site_of_startMeasurement {site : Site} (hw : Issued w)
    (hpc : w.pc = .inCall site .startMeasurement) : site = .startMeasurement := by
  obtain hcall | ⟨d, _, hcall⟩ := hw site _ hpc
  · obtain h | h := site_of_starts hcall rfl
    · exact h
    · subst h
      cases hcall
  · cases hcall

theorem call_of_finishMeasurement {site : Site} {call : Call} (hw : Issued w)
    (hpc : w.pc = .inCall site call)
    (hsite : site = .finishMeasurement ∨ site = .cleanupFinishMeasurement) :
    call = .finishMeasurement := by
  obtain hcall | ⟨d, hdefine, _⟩ := hw site _ hpc
  · obtain rfl | rfl := hsite <;> exact (Option.some.inj hcall).symm
  · obtain rfl | rfl := hsite <;> cases hdefine

/-- At most one measurement is open, and none outside of an acquisition, before its
`StartMeasurement` and once it is settled. -/
def AtMostOne (w : World) : Prop :=
  openMeasurements w.log ≤ 1 ∧
  match w.pc with
  | .entry | .waitStart | .woken => openMeasurements w.log = 0
  | .call site | .inCall site _ => site.precedes = true → openMeasurements w.log = 0
  | .leaveTry | .callbacks => w.settled = true → openMeasurements w.log = 0
  | _ => True

/-- The clean-up is given up, or finds the server in another state, only when that leaves
no measurement open. -/
def cleansUp (w : World) (reply : Reply) : Prop :=
  match w.pc with
  | .inCall site call =>
    site.inCleanup = true → 0 < openMeasurements (reply.event call :: w.log) →
      reply = .ok ∧ (site = .cleanupCurrentState → w.server.state = .measuring)
  | _ => True

instance (w : World) (reply : Reply) : Decidable (cleansUp w reply) := by
  unfold cleansUp
  generalize w.pc = pc
  cases pc <;> infer_instance

theorem atMostOne_of_onward (hone : openMeasurements w.log ≤ 1)
    (hsettled : w.settled = true → openMeasurements w.log = 0) (h : Onward w w') : AtMostOne w' := by
  unfold AtMostOne
  cases h with
  | parks hpc hlog hs =>
    rw [hpc, hlog]
    exact ⟨hone, hsettled hs⟩
  | first hpc hlog hs =>
    rw [hpc, hlog, openMeasurements_firstFrame]
    exact ⟨hone, fun _ => hsettled hs⟩
  | next hpc hlog _ =>
    rw [hpc, hlog]
    exact ⟨hone, by simp [Site.precedes]⟩
  | callbacks hpc hlog hs =>
    rw [hpc, hlog, hs]
    exact ⟨hone, hsettled⟩

theorem atMostOne_of_begins {log : List Event} (h : Begins log w)
    (hzero : openMeasurements log = 0) : AtMostOne w := by
  unfold AtMostOne
  obtain ⟨_, hpc, hlog⟩ | ⟨_, hpc, hlog⟩ := h.place
  · rw [hpc, hlog, openMeasurements_firstFrame]
    exact ⟨by omega, fun _ => hzero⟩
  · rw [hpc, hlog]
    exact ⟨by omega, fun _ => hzero⟩

theorem atMostOne_caught (what : String) (hone : openMeasurements w.log ≤ 1) :
    AtMostOne (w.caught what) := by
  unfold caught cleanupAcquired
  dsimp only
  split
  · exact ⟨hone, by simp [Site.precedes]⟩
  · split <;> exact ⟨hone, by simp [Site.precedes]⟩

theorem measured_cases (spectrum : List Ending) (hfailed : w.task.failed = false) :
    (w.measured spectrum).pc = .call .unsubscribeState ∨
      ((w.measured spectrum).pc = .leaveTry ∧ (w.measured spectrum).settled = false) := by
  by_cases hfinishes : (w.measured spectrum).task.finishes = true
  · exact Or.inl (if_pos hfinishes)
  · refine Or.inr ⟨if_neg hfinishes, settled_eq_false.mpr ⟨?_, by simpa using hfinishes⟩⟩
    unfold measured
    dsimp only
    split <;> exact hfailed

theorem atMostOne_measured (spectrum : List Ending) (hfailed : w.task.failed = false)
    (hone : openMeasurements w.log ≤ 1) : AtMostOne (w.measured spectrum) := by
  refine ⟨hone, ?_⟩
  obtain hpc | ⟨hpc, hsettled⟩ := measured_cases spectrum hfailed
  · rw [hpc]
    simp [Site.precedes]
  · rw [hpc]
    simp [hsettled]

theorem atMostOne_returnedAt {site : Site} (answer : Server)
    (hfailed : w.task.failed = site.inCleanup) (hone : openMeasurements w.log ≤ 1)
    (hprecedes : site = .currentState ∨ site = .defineSpectrum → openMeasurements w.log = 0)
    (hlast : site = .finishMeasurement ∨ site = .cleanupFinishMeasurement →
      openMeasurements w.log = 0)
    (hstate : site = .cleanupCurrentState → answer.state ≠ .measuring →
      openMeasurements w.log = 0) : AtMostOne (w.returnedAt site answer) := by
  cases site
  case currentState =>
    unfold returnedAt
    dsimp only
    split
    · exact ⟨hone, fun _ => hprecedes (Or.inl rfl)⟩
    · exact atMostOne_caught _ hone
  case defineSpectrum => exact ⟨hone, fun _ => hprecedes (Or.inr rfl)⟩
  case getMeasuredSpectrum => exact atMostOne_measured _ hfailed hone
  case finishMeasurement => exact ⟨hone, fun _ => hlast (Or.inl rfl)⟩
  case cleanupUnsubscribeState =>
    unfold returnedAt cleanupAcquired
    dsimp only
    split <;> exact ⟨hone, by simp [Site.precedes]⟩
  case cleanupCurrentState =>
    unfold returnedAt
    dsimp only
    split
    · split <;> exact ⟨hone, by simp [Site.precedes]⟩
    · rename_i hne
      exact ⟨hone, fun _ => hstate rfl hne⟩
  case cleanupFinishMeasurement => exact ⟨hone, fun _ => hlast (Or.inr rfl)⟩
  case clearSpectrum | start => exact ⟨hone, trivial⟩
  all_goals exact ⟨hone, fun h => absurd h Bool.false_ne_true⟩

theorem atMostOne_answered {site : Site} {call : Call} {reply : Reply} (hpc : w.pc = .inCall site call)
    (hissued : Issued w) (hplaced : Placed w) (hw : AtMostOne w) (hclean : cleansUp w reply) :
    AtMostOne (w.answered site call reply) := by
  simp only [AtMostOne, hpc] at hw
  simp only [Placed, hpc] at hplaced
  simp only [cleansUp, hpc] at hclean
  obtain ⟨hone, hprecedes⟩ := hw
  -- The count after the answer: it grows by a `StartMeasurement` only.
  have hafter : openMeasurements (reply.event call :: w.log) ≤ 1 := by
    by_cases hstart : call = .startMeasurement
    · subst hstart
      have hsite := site_of_startMeasurement hissued hpc
      have hzero := hprecedes (by rw [hsite]; rfl)
      have hle := openMeasurements_start reply w.log
      omega
    · have hle := openMeasurements_other reply w.log hstart
      omega
  have hkept : site ≠ .startMeasurement →
      openMeasurements (reply.event call :: w.log) ≤ openMeasurements w.log := by
    intro hsite
    refine openMeasurements_other reply w.log ?_
    rintro rfl
    exact hsite (site_of_startMeasurement hissued hpc)
  cases reply with
  | ok =>
    refine atMostOne_returnedAt w.server hplaced.1 hafter ?_ ?_ ?_
    · rintro (rfl | rfl)
      · have hle := hkept (by simp)
        have hzero := hprecedes rfl
        change openMeasurements (Reply.ok.event call :: w.log) = 0
        omega
      · have hle := hkept (by simp)
        have hzero := hprecedes rfl
        change openMeasurements (Reply.ok.event call :: w.log) = 0
        omega
    · intro hsite
      obtain rfl := call_of_finishMeasurement hissued hpc hsite
      change openMeasurements (.returned .finishMeasurement :: w.log) = 0
      rw [openMeasurements_finished]
      omega
    · rintro rfl hstate
      change openMeasurements (Reply.ok.event call :: w.log) = 0
      by_contra hne
      exact hstate ((hclean rfl (by omega)).2 rfl)
  | raised what executed =>
    unfold answered raisedAt
    dsimp only
    split
    · rename_i hcleanup
      refine ⟨hafter, fun _ => ?_⟩
      change openMeasurements (Reply.event call (.raised what executed) :: w.log) = 0
      by_contra hne
      exact absurd (hclean hcleanup (by omega)).1 (by simp)
    · exact atMostOne_caught _ hafter

theorem atMostOne_taskStep {reply : Reply} (hissued : Issued w) (hplaced : Placed w)
    (hcounted : Counted w) (hw : AtMostOne w) (hagree : w.readsAgree) (hclean : cleansUp w reply)
    (h : w.taskStep reply = some w') : AtMostOne w' := by
  have hstep := taskStep_cases h
  have hone := hw.1
  have hplace := hw.2
  cases hpc : w.pc <;> simp only [hpc] at hstep hplace
  case entry =>
    obtain ⟨_, rfl⟩ := hstep
    obtain ⟨_, hparks⟩ | ⟨_, hbegins⟩ := loopHead_cases w
    · unfold AtMostOne
      rw [hparks.pc, hparks.log]
      exact ⟨hone, hplace⟩
    · exact atMostOne_of_begins hbegins hplace
  case waitStart =>
    obtain ⟨_, rfl⟩ := hstep
    exact ⟨hone, hplace⟩
  case woken =>
    obtain ⟨_, rfl⟩ := hstep
    exact atMostOne_of_begins (startImage_begins rfl) hplace
  case call site =>
    obtain ⟨call, _, rfl⟩ | ⟨hcall, rfl⟩ := hstep
    · refine ⟨?_, ?_⟩
      · rw [openMeasurements_issued]
        exact hone
      · change site.precedes = true → openMeasurements (.issued call :: w.log) = 0
        rw [openMeasurements_issued]
        exact hplace
    · simp only [Placed, hpc] at hplaced
      refine atMostOne_returnedAt _ hplaced.1 hone ?_ ?_ ?_
      · rintro (rfl | rfl) <;> cases hcall
      · rintro (rfl | rfl) <;> cases hcall
      · rintro rfl
        cases hcall
  case inCall site call =>
    subst hstep
    exact atMostOne_answered hpc hissued hplaced hw hclean
  case exposureLoop =>
    subst hstep
    unfold exposureTest
    split
    · exact ⟨hone, trivial⟩
    · exact ⟨hone, fun h => absurd h Bool.false_ne_true⟩
  case waitStop =>
    obtain ⟨_, rfl⟩ := hstep
    exact ⟨hone, trivial⟩
  case exposureDone =>
    obtain ⟨_, rfl⟩ := hstep
    unfold exposureFinished
    dsimp only
    split
    · exact ⟨hone, fun h => absurd h Bool.false_ne_true⟩
    · exact ⟨hone, trivial⟩
  case leaveTry =>
    obtain ⟨_, rfl⟩ := hstep
    exact atMostOne_of_onward hone hplace (onward_afterTry hcounted hpc hagree)
  case callbacks =>
    obtain ⟨_, rfl⟩ := hstep
    exact atMostOne_of_onward hone hplace (onward_callbacks hplaced hcounted hpc hagree)
  case clearSteps =>
    subst hstep
    exact ⟨hone, trivial⟩
  case tryWait =>
    subst hstep
    exact ⟨hone, fun h => absurd h Bool.false_ne_true⟩

theorem openMeasurements_of_step {l : Label} (hl : ∀ reply, l ≠ .task reply)
    (h : w.step base l = some w') : openMeasurements w'.log = openMeasurements w.log := by
  obtain hsame | ⟨c, _, hlog⟩ | ⟨c, reply, _, hlog⟩ := log_of_step hl h
  · rw [hsame]
  · rw [hlog, openMeasurements_issued]
  · rw [hlog]
    exact openMeasurements_neutral reply _ (by cases c <;> simp [PortCall.call])
      (by cases c <;> simp [PortCall.call])

theorem settled_of_samePlace (h : SamePlace w w') : w'.settled = w.settled := by
  obtain ⟨n, htask⟩ := h.task
  unfold settled
  rw [htask]
  rfl

theorem atMostOne_of_samePlace (hw : AtMostOne w) (h : SamePlace w w')
    (hopen : openMeasurements w'.log = openMeasurements w.log) : AtMostOne w' := by
  unfold AtMostOne
  rw [h.pc, hopen, settled_of_samePlace h]
  exact hw

/-- What is known of the task's place, its image counter and its measurement. -/
structure Measures (w : World) : Prop where
  placed : Placed w
  issued : Issued w
  counted : Counted w
  atMostOne : AtMostOne w

/-- A step of the task under which the measurement is settled whenever the task goes
idle; any other step, but no write of the image counter. -/
def settles (w : World) (l : Label) : Prop :=
  keepsImageCounter l ∧
  match l with
  | .task reply => w.readsAgree ∧ cleansUp w reply
  | _ => True

instance (w : World) (l : Label) : Decidable (settles w l) :=
  @instDecidableAnd _ _ inferInstance <|
    match l with
    | .task reply => inferInstanceAs (Decidable (w.readsAgree ∧ cleansUp w reply))
    | .write _ _ _ | .writeFloat _ _ _ | .port _ | .exposureEnd _ | .notify _ _ | .spectrumUpdate _
    | .otherClient _ _ => .isTrue trivial

theorem measures_step {l : Label} (hw : Measures w) (hok : settles w l)
    (h : w.step base l = some w') : Measures w' := by
  refine ⟨placed_step hw.placed h, issued_step hw.issued h,
    counted_step hw.placed hw.counted hok.1 h, ?_⟩
  by_cases hl : ∃ reply, l = .task reply
  · obtain ⟨reply, rfl⟩ := hl
    obtain ⟨_, hagree, hclean⟩ := hok
    exact atMostOne_taskStep hw.issued hw.placed hw.counted hw.atMostOne hagree hclean h
  · have htask : ∀ reply, l ≠ .task reply := fun reply hr => hl ⟨reply, hr⟩
    exact atMostOne_of_samePlace hw.atMostOne (samePlace_of_step htask h)
      (openMeasurements_of_step htask h)

theorem measures_initial (h : Initial w) : Measures w where
  placed := by
    unfold Placed
    rw [h.pc]
    exact h.failed
  issued := issued_of_not fun site call => by simp [h.pc]
  counted := by
    have hint : w.driver.int .adNumImagesCounter = 0 := h.adNumImagesCounter
    unfold Counted
    rw [h.pc, hint]
    exact ⟨le_refl 0, trivial⟩
  atMostOne := by
    unfold AtMostOne
    rw [h.pc, h.log]
    exact ⟨by simp [openMeasurements], rfl⟩

end World

end PeakAnalyser
