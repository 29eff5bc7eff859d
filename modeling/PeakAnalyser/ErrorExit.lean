import PeakAnalyser.Notifications

/-!
# The error exit

With the analyser to itself, a task that meets an exception cleans up from
wherever it stands: the place of the task tells how far the measurement has got,
and the clean-up takes it from there back to Active.
-/

namespace PeakAnalyser

set_option autoImplicit false

open Runs

/-- The calls by which an acquisition opens and closes its measurement. -/
structure Tally where
  started : Nat
  spectraFinished : Nat
  finished : Nat
  deriving DecidableEq

def Call.finishesSpectrum : Call → Bool
  | .finishSpectrum _ => true
  | _ => false

/-- The calls that have succeeded since the last first frame began. -/
def tally (log : List Event) : Tally where
  started := succeeded (· = .startMeasurement) log
  spectraFinished := succeeded Call.finishesSpectrum log
  finished := succeeded (· = .finishMeasurement) log

/-- The calls that a tally counts. -/
def Call.counts : Call → Bool
  | .startMeasurement | .finishSpectrum _ | .finishMeasurement => true
  | _ => false

section Tally
variable (log : List Event)

@[simp] theorem tally_firstFrame : tally (.firstFrame :: log) = ⟨0, 0, 0⟩ := rfl

@[simp] theorem tally_issued (call : Call) : tally (.issued call :: log) = tally log := rfl

@[simp] theorem tally_raised (call : Call) (executed : Bool) :
    tally (.raised call executed :: log) = tally log := rfl

theorem tally_returned {call : Call} (h : call.counts = false) :
    tally (.returned call :: log) = tally log := by
  cases call
  case startMeasurement | finishSpectrum | finishMeasurement => cases h
  all_goals rfl

theorem tally_startMeasurement : tally (.returned .startMeasurement :: log) =
    { tally log with started := (tally log).started + 1 } := rfl

theorem tally_finishSpectrum (id : Option Nat) : tally (.returned (.finishSpectrum id) :: log) =
    { tally log with spectraFinished := (tally log).spectraFinished + 1 } := rfl

theorem tally_finishMeasurement : tally (.returned .finishMeasurement :: log) =
    { tally log with finished := (tally log).finished + 1 } := rfl

theorem tally_event {call : Call} (reply : Reply) (h : call.counts = false) :
    tally (reply.event call :: log) = tally log := by
  cases reply with
  | ok => exact tally_returned log h
  | raised what executed => rfl

theorem started_event {call : Call} (reply : Reply) (h : call ≠ .startMeasurement) :
    (tally (reply.event call :: log)).started = (tally log).started := by
  cases reply with
  | ok => simp [tally, Reply.event, succeeded, h]
  | raised what executed => rfl

end Tally

/-- The sites whose call opens or closes the measurement, or runs an exposure. -/
def Site.acts : Site → Bool
  | .startMeasurement | .start | .finishSpectrum | .finishMeasurement
  | .cleanupFinishSpectrum | .cleanupFinishMeasurement => true
  | _ => false

/-- The clean-up steps still ahead of a site. -/
@[simp] def Site.cleanupAhead : Site → Nat
  | .cleanupUnsubscribeState => 5
  | .cleanupUnsubscribeAcquired => 4
  | .cleanupCurrentState => 3
  | .cleanupFinishSpectrum => 2
  | .cleanupFinishMeasurement => 1
  | _ => 0

/-- The steps of the task that the clean-up still takes. -/
@[simp] def Pc.cleanupAhead : Pc → Nat
  | .call site => 2 * site.cleanupAhead + 1
  | .inCall site _ => 2 * site.cleanupAhead
  | _ => 0

namespace World

variable {w w' : World} {base : ADDriver}

/-- The acquisition has not opened its measurement yet. -/
structure Before (w : World) : Prop where
  state : w.server.state = .active
  tally : tally w.log = ⟨0, 0, 0⟩

/-- The measurement is open, with its spectrum. -/
structure Opened (w : World) : Prop where
  state : w.server.exposure = none → w.server.state = .measuring
  tally : tally w.log = ⟨1, 0, 0⟩
  spectrumId : w.task.spectrumId ≠ none

/-- The spectrum has been finished, and the measurement has not. -/
structure Emptied (w : World) : Prop where
  state : w.server.state = .measuring
  tally : tally w.log = ⟨1, 1, 0⟩
  spectrumId : w.task.spectrumId = none

/-- Whatever was opened has been finished. -/
structure Closed (w : World) : Prop where
  state : w.server.state = .active
  tally : ∃ n ≤ 1, tally w.log = ⟨n, n, n⟩

theorem Before.closed (h : Before w) : Closed w := ⟨h.state, 0, Nat.zero_le 1, h.tally⟩

/-- What an exception can leave behind. -/
def Unfinished (w : World) : Prop := Before w ∨ Opened w ∨ Emptied w

/-- How far the measurement has got when a server call is made. -/
def StagedAt (site : Site) (w : World) : Prop :=
  match site with
  | .currentState | .defineSpectrum => Before w
  | .startMeasurement => Before w ∧ w.task.spectrumId ≠ none
  | .finishMeasurement | .cleanupFinishMeasurement => Emptied w
  | .cleanupUnsubscribeState | .cleanupUnsubscribeAcquired | .cleanupCurrentState => Unfinished w
  | _ => Opened w

/-- How far the measurement has got, by the place of the task. -/
def Staged (w : World) : Prop :=
  match w.pc with
  | .entry | .waitStart | .woken => Closed w
  | .call site | .inCall site _ => StagedAt site w
  | .leaveTry | .callbacks => if w.settled then Closed w else Opened w
  | _ => Opened w

/-- The measurement has not moved. -/
structure SameStage (w w' : World) : Prop where
  state : w'.server.state = w.server.state
  exposure : w'.server.exposure = none ↔ w.server.exposure = none
  tally : PeakAnalyser.tally w'.log = PeakAnalyser.tally w.log
  spectrumId : w'.task.spectrumId = w.task.spectrumId

theorem Before.of_same (hw : Before w) (h : SameStage w w') : Before w' :=
  ⟨h.state.trans hw.state, h.tally.trans hw.tally⟩

theorem Opened.of_same (hw : Opened w) (h : SameStage w w') : Opened w' :=
  ⟨fun hnone => h.state.trans (hw.state (h.exposure.mp hnone)), h.tally.trans hw.tally,
    by rw [h.spectrumId]; exact hw.spectrumId⟩

theorem Emptied.of_same (hw : Emptied w) (h : SameStage w w') : Emptied w' :=
  ⟨h.state.trans hw.state, h.tally.trans hw.tally, h.spectrumId.trans hw.spectrumId⟩

theorem Closed.of_same (hw : Closed w) (h : SameStage w w') : Closed w' := by
  obtain ⟨n, hn, htally⟩ := hw.tally
  exact ⟨h.state.trans hw.state, n, hn, h.tally.trans htally⟩

theorem Unfinished.of_same (hw : Unfinished w) (h : SameStage w w') : Unfinished w' := by
  obtain hbefore | hopened | hemptied := hw
  · exact Or.inl (hbefore.of_same h)
  · exact Or.inr (Or.inl (hopened.of_same h))
  · exact Or.inr (Or.inr (hemptied.of_same h))

theorem StagedAt.of_same {site : Site} (hw : StagedAt site w) (h : SameStage w w') :
    StagedAt site w' := by
  cases site
  case currentState | defineSpectrum => exact Before.of_same hw h
  case startMeasurement => exact ⟨hw.1.of_same h, by rw [h.spectrumId]; exact hw.2⟩
  case finishMeasurement | cleanupFinishMeasurement => exact Emptied.of_same hw h
  case cleanupUnsubscribeState | cleanupUnsubscribeAcquired | cleanupCurrentState =>
    exact Unfinished.of_same hw h
  all_goals exact Opened.of_same hw h

theorem StagedAt.unfinished {site : Site} (hw : StagedAt site w) : Unfinished w := by
  cases site
  case currentState | defineSpectrum => exact Or.inl hw
  case startMeasurement => exact Or.inl hw.1
  case finishMeasurement | cleanupFinishMeasurement => exact Or.inr (Or.inr hw)
  case cleanupUnsubscribeState | cleanupUnsubscribeAcquired | cleanupCurrentState => exact hw
  all_goals exact Or.inr (Or.inl hw)

theorem Staged.of_same (hw : Staged w) (hpc : w'.pc = w.pc) (hsettled : w'.settled = w.settled)
    (h : SameStage w w') : Staged w' := by
  unfold Staged at hw ⊢
  rw [hpc]
  cases hplace : w.pc <;> simp only [hplace] at hw ⊢
  case entry | waitStart | woken => exact hw.of_same h
  case call site | inCall site call => exact hw.of_same h
  case leaveTry | callbacks =>
    rw [hsettled]
    split
    · rename_i hs
      rw [if_pos hs] at hw
      exact hw.of_same h
    · rename_i hs
      rw [if_neg hs] at hw
      exact hw.of_same h
  all_goals exact hw.of_same h

theorem staged_leaveTry (hpc : w.pc = .leaveTry) (hsettled : w.settled = true) (hw : Closed w) :
    Staged w := by
  unfold Staged
  rw [hpc]
  exact (if_pos hsettled).mpr hw

/-! ### The flags of an acquisition that nobody stops -/

/-- While the task acquires, `ADAcquire` stays set once it was seen set; an image is
counted only then. -/
structure Keeps (w : World) : Prop where
  flag : ¬ Resting w → w.task.acquire ≠ 0 → w.driver.int .adAcquire ≠ 0
  counter : ¬ Resting w → w.driver.int .adNumImagesCounter ≠ 0 → w.task.acquire ≠ 0
  entry : w.pc = .entry → w.driver.int .adNumImagesCounter = 0

theorem Keeps.of_resting (hrest : Resting w) (hentry : w.pc ≠ .entry) : Keeps w :=
  ⟨fun h => absurd hrest h, fun h => absurd hrest h, fun h => absurd h hentry⟩

theorem Keeps.of_running (hrest : ¬ Resting w)
    (hflag : w.task.acquire ≠ 0 → w.driver.int .adAcquire ≠ 0)
    (hcounter : w.driver.int .adNumImagesCounter ≠ 0 → w.task.acquire ≠ 0) : Keeps w :=
  ⟨fun _ => hflag, fun _ => hcounter, fun hpc => absurd (Or.inl hpc) hrest⟩

/-- The task goes on, and neither its copy nor the two parameters change. -/
theorem Keeps.of_eq (hw : Keeps w) (hrest : ¬ Resting w) (hrest' : ¬ Resting w')
    (hacquire : w'.task.acquire = w.task.acquire) (hdriver : w'.driver = w.driver) : Keeps w' := by
  refine .of_running hrest' ?_ ?_
  · rw [hacquire, hdriver]
    exact hw.flag hrest
  · rw [hacquire, hdriver]
    exact hw.counter hrest

theorem keeps_loopHead (w : World) : Keeps w.loopHead := by
  obtain ⟨_, hparks⟩ | ⟨hne, hbegins⟩ := loopHead_cases w
  · exact .of_resting (Or.inr (Or.inl hparks.pc)) (by simp [hparks.pc])
  · have hacquire := hbegins.acquire
    rw [(loopHead_head w).int .adAcquire (by simp)] at hacquire
    refine .of_running hbegins.not_resting ?_ ?_
    · rw [hbegins.acquire]
      exact id
    · rw [hacquire]
      exact fun _ => hne

theorem keeps_weAreAcquiring (w : World) : Keeps w.weAreAcquiring.startImage := by
  have hbegins : Begins w.weAreAcquiring.log w.weAreAcquiring.startImage := startImage_begins rfl
  refine .of_running hbegins.not_resting ?_ ?_
  · rw [hbegins.acquire]
    exact id
  · intro hne
    rw [(startImage_head _).int .adNumImagesCounter (by simp)] at hne
    exact absurd (by simp [weAreAcquiring]) hne

theorem keeps_afterTry (hw : Keeps w) (hrest : ¬ Resting w) : Keeps w.afterTry := by
  unfold afterTry
  split
  · exact keeps_loopHead _
  · split
    · exact keeps_loopHead _
    · rename_i hacquire
      split
      · refine .of_running (by simp [Resting]) ?_ fun _ => hacquire
        intro hne
        simpa [published] using hw.flag hrest hne
      · exact keeps_loopHead _

theorem keeps_taskStep {reply : Reply} (hw : Keeps w) (h : w.taskStep reply = some w') :
    Keeps w' := by
  have hstep := taskStep_cases h
  cases hpc : w.pc <;> simp only [hpc] at hstep
  case entry =>
    obtain ⟨_, rfl⟩ := hstep
    exact keeps_loopHead w
  case waitStart =>
    obtain ⟨_, rfl⟩ := hstep
    exact .of_resting (Or.inr (Or.inr rfl)) (by simp)
  case woken =>
    obtain ⟨_, rfl⟩ := hstep
    exact keeps_weAreAcquiring w
  case callbacks =>
    obtain ⟨_, rfl⟩ := hstep
    exact keeps_loopHead _
  case leaveTry =>
    obtain ⟨_, rfl⟩ := hstep
    exact keeps_afterTry hw (by simp [Resting, hpc])
  case exposureDone =>
    obtain ⟨_, rfl⟩ := hstep
    unfold exposureFinished
    dsimp only
    split
    · rename_i hzero
      refine .of_running (by simp [Resting]) (fun hne => hne) fun hcount => ?_
      exact absurd hzero (hw.flag (by simp [Resting, hpc]) (hw.counter (by simp [Resting, hpc]) hcount))
    · rename_i hne
      refine .of_running (by simp [Resting]) ?_ fun _ => hne
      intro _
      simpa using hne
  case call site =>
    have hrest : ¬ Resting w := by simp [Resting, hpc]
    obtain ⟨call, _, rfl⟩ | ⟨_, rfl⟩ := hstep
    · exact hw.of_eq hrest (by simp [Resting]) rfl rfl
    · exact hw.of_eq hrest (answered_returnedAt _ _ _).not_resting (acquire_returnedAt _ _)
        (returnedAt_taskOnly _ _ _).driver
  case inCall site call =>
    subst hstep
    exact hw.of_eq (by simp [Resting, hpc]) (answered_place _ _ _ _).not_resting
      (acquire_answered _ _ _) (answered_taskOnly _ _ _ _).driver
  case waitStop =>
    obtain ⟨_, rfl⟩ := hstep
    exact hw.of_eq (by simp [Resting, hpc]) (by simp [Resting]) rfl rfl
  case exposureLoop =>
    subst hstep
    unfold exposureTest
    split <;> exact hw.of_eq (by simp [Resting, hpc]) (by simp [Resting]) rfl rfl
  case clearSteps | tryWait =>
    subst hstep
    exact hw.of_eq (by simp [Resting, hpc]) (by simp [Resting]) rfl rfl

/-- The assumptions on a step: the driver has the analyser to itself, no exposure fails, no
client stops the acquisition or writes its image counter, an exception says that the
server did nothing, and the clean-up meets none. -/
def undisturbed (w : World) (l : Label) : Prop :=
  l.alone = true ∧ keepsImageCounter l ∧
  match l with
  | .task reply => answersTruly w reply
  | .write .adAcquire value _ => value ≠ 0 ∨ Resting w
  | .exposureEnd how => how ≠ .failed
  | _ => True

instance (w : World) : Decidable (Resting w) := by
  unfold Resting
  infer_instance

theorem undisturbed_write (w : World) (f : IntParam) (value : Int) (reply : AdjustReply) :
    (keepsImageCounter (.write f value reply) ∧ (f = .adAcquire → value ≠ 0 ∨ Resting w)) ↔
      undisturbed w (.write f value reply) := by
  cases f <;> simp [undisturbed, Label.alone]

instance (w : World) (l : Label) : Decidable (undisturbed w l) :=
  match l with
  | .write f value reply => decidable_of_iff _ (undisturbed_write w f value reply)
  | .task reply => inferInstanceAs (Decidable (_ ∧ keepsImageCounter _ ∧ answersTruly w reply))
  | .exposureEnd how => inferInstanceAs (Decidable (_ ∧ keepsImageCounter _ ∧ how ≠ .failed))
  | .writeFloat _ _ _ | .port _ | .notify _ _ | .spectrumUpdate _
  | .otherClient _ _ => inferInstanceAs (Decidable (_ ∧ keepsImageCounter _ ∧ True))

theorem keeps_step {l : Label} (hw : Keeps w) (hok : undisturbed w l)
    (h : w.step base l = some w') : Keeps w' := by
  by_cases hl : ∃ reply, l = .task reply
  · obtain ⟨reply, rfl⟩ := hl
    exact keeps_taskStep hw h
  have hl : ∀ reply, l ≠ .task reply := fun reply hr => hl ⟨reply, hr⟩
  have hplace := samePlace_of_step hl h
  obtain ⟨n, htask⟩ := hplace.task
  have hcounter : w'.driver.int .adNumImagesCounter = w.driver.int .adNumImagesCounter := by
    refine control_of_step rfl hl ?_ h
    rintro v reply rfl
    exact hok.2.1
  have hrest : Resting w' ↔ Resting w := by
    unfold Resting
    rw [hplace.pc]
  constructor
  · intro hrun hne
    rw [htask] at hne
    have hset := hw.flag (fun hr => hrun (hrest.mpr hr)) hne
    by_cases hwrite : ∃ v reply, l = .write .adAcquire v reply
    · obtain ⟨v, reply, rfl⟩ := hwrite
      obtain ⟨_, rfl⟩ := step_write_adAcquire h
      rw [portAction_driver]
      obtain hv | hr := hok.2.2
      · simpa using hv
      · exact absurd (hrest.mpr hr) hrun
    · rw [control_of_step rfl hl (fun v reply hr => hwrite ⟨v, reply, hr⟩) h]
      exact hset
  · intro hrun hne
    rw [hcounter] at hne
    rw [htask]
    exact hw.counter (fun hr => hrun (hrest.mpr hr)) hne
  · rw [hplace.pc, hcounter]
    exact hw.entry

theorem readsAgree_of_keeps (hw : Keeps w) : w.readsAgree := by
  intro hcompletion hfinishes
  have hacquire : w.task.acquire ≠ 0 := by
    intro hzero
    simp [Task.finishes, hzero] at hfinishes
  refine hw.flag ?_ hacquire
  rintro (hpc | hpc | hpc) <;> simp [atCompletion, hpc] at hcompletion

/-! ### The measurement through a step of the task -/

theorem staged_of_onward (hkeeps : Keeps w) (hw : Staged w) (hpc : w.pc = .leaveTry ∨ w.pc = .callbacks)
    (hlocked : Locked w w') (h : Onward w w') : Staged w' := by
  have hplace : if w.settled then Closed w else Opened w := by
    unfold Staged at hw
    obtain hpc | hpc := hpc <;> rw [hpc] at hw <;> exact hw
  have hstate := congrArg Server.state hlocked.server
  have hexposure := congrArg Server.exposure hlocked.server
  cases h with
  | parks hpc' hlog hs =>
    rw [if_pos hs] at hplace
    unfold Staged
    rw [hpc']
    exact hplace.of_same ⟨hstate, by rw [hexposure], by rw [hlog], hlocked.spectrumId⟩
  | first hpc' hlog hs =>
    rw [if_pos hs] at hplace
    unfold Staged
    rw [hpc']
    exact ⟨hstate.trans hplace.state, by rw [hlog, tally_firstFrame]⟩
  | next hpc' hlog hrestart =>
    cases hs : w.settled with
    | true =>
      -- An abort has counted no image, so the restart begins with a first frame.
      obtain ⟨hacquire, hcounter⟩ := hrestart hs
      refine absurd hacquire (hkeeps.counter ?_ hcounter)
      obtain hpc | hpc := hpc <;> simp [Resting, hpc]
    | false =>
      rw [hs] at hplace
      unfold Staged
      rw [hpc']
      exact Opened.of_same hplace ⟨hstate, by rw [hexposure], by rw [hlog], hlocked.spectrumId⟩
  | callbacks hpc' hlog hs =>
    unfold Staged
    rw [hpc']
    dsimp only
    rw [hs]
    have hsame : SameStage w w' := ⟨hstate, by rw [hexposure], by rw [hlog], hlocked.spectrumId⟩
    split
    · rename_i hsettled
      rw [if_pos hsettled] at hplace
      exact hplace.of_same hsame
    · rename_i hsettled
      rw [if_neg hsettled] at hplace
      exact hplace.of_same hsame

theorem staged_of_begins {log : List Event} (h : Begins log w) (hstate : w.server.state = .active)
    (hcounter : w.driver.int .adNumImagesCounter = 0) : Staged w := by
  obtain ⟨_, hpc, hlog⟩ | ⟨hne, _⟩ := h.place
  · unfold Staged
    rw [hpc]
    exact ⟨hstate, by rw [hlog, tally_firstFrame]⟩
  · rw [h.numImagesCounter] at hne
    exact absurd hcounter hne

theorem staged_cleanupAcquired (hw : Unfinished w) : Staged w.cleanupAcquired := by
  unfold cleanupAcquired
  split <;> exact hw.of_same ⟨rfl, Iff.rfl, rfl, rfl⟩

theorem staged_caught (what : String) (hw : Unfinished w) : Staged (w.caught what) := by
  unfold caught
  dsimp only
  split
  · exact hw.of_same ⟨rfl, Iff.rfl, rfl, rfl⟩
  · exact staged_cleanupAcquired (hw.of_same ⟨rfl, Iff.rfl, rfl, rfl⟩)

theorem staged_measured (spectrum : List Ending) (hfailed : w.task.failed = false)
    (hw : Opened w) : Staged (w.measured spectrum) := by
  have hsame : SameStage w (w.measured spectrum) := by
    refine ⟨rfl, Iff.rfl, rfl, ?_⟩
    unfold measured
    dsimp only
    split <;> rfl
  unfold Staged
  obtain hpc | ⟨hpc, hsettled⟩ := measured_cases spectrum hfailed
  · rw [hpc]
    exact hw.of_same hsame
  · rw [hpc, hsettled]
    exact hw.of_same hsame

/-- `currentState` in the clean-up tells a measurement that is open from one that is not. -/
theorem staged_cleanupCurrentState (hfailed : w.task.failed = true)
    (hexposure : w.server.exposure = none) (hw : Unfinished w) :
    Staged (w.returnedAt .cleanupCurrentState w.server) := by
  unfold returnedAt
  dsimp only
  obtain hbefore | hopened | hemptied := hw
  · rw [if_neg (by simp [hbefore.state])]
    refine staged_leaveTry rfl (by simp [settled, hfailed]) ?_
    exact hbefore.closed.of_same ⟨rfl, Iff.rfl, rfl, rfl⟩
  · rw [if_pos (hopened.state hexposure), if_pos (Option.isSome_iff_ne_none.mpr hopened.spectrumId)]
    exact hopened.of_same ⟨rfl, Iff.rfl, rfl, rfl⟩
  · rw [if_pos hemptied.state, if_neg (by simp [hemptied.spectrumId])]
    exact hemptied.of_same ⟨rfl, Iff.rfl, rfl, rfl⟩

/-- A call that asks, or prepares something, has returned. -/
theorem staged_returnedAt {site : Site} (hsite : site.acts = false)
    (hfailed : w.task.failed = site.inCleanup) (hexposure : w.server.exposure = none)
    {answer : Server} (hanswer : answer.state = w.server.state) (hw : StagedAt site w) :
    Staged (w.returnedAt site answer) := by
  cases site
  case startMeasurement | start | finishSpectrum | finishMeasurement | cleanupFinishSpectrum |
      cleanupFinishMeasurement => cases hsite
  case currentState =>
    unfold returnedAt
    dsimp only
    split
    · exact Before.of_same hw ⟨rfl, Iff.rfl, rfl, rfl⟩
    · exact staged_caught _ (Or.inl hw)
  case defineSpectrum => exact ⟨⟨hw.state, hw.tally⟩, by simp [returnedAt]⟩
  case getMeasuredSpectrum => exact staged_measured _ hfailed hw
  case cleanupUnsubscribeState =>
    exact staged_cleanupAcquired (Unfinished.of_same hw ⟨rfl, Iff.rfl, rfl, rfl⟩)
  case cleanupUnsubscribeAcquired => exact Unfinished.of_same hw ⟨rfl, Iff.rfl, rfl, rfl⟩
  case cleanupCurrentState =>
    have hsame : w.returnedAt .cleanupCurrentState answer =
        w.returnedAt .cleanupCurrentState w.server := by simp only [returnedAt, hanswer]
    rw [hsame]
    exact staged_cleanupCurrentState hfailed hexposure hw
  all_goals exact Opened.of_same hw ⟨rfl, Iff.rfl, rfl, rfl⟩

theorem call_of_quiet {site : Site} {call : Call} (hissued : Issued w)
    (hpc : w.pc = .inCall site call) (hsite : site.acts = false) :
    call.acts = false ∧ call.counts = false := by
  obtain hcall | ⟨d, _, rfl⟩ := hissued site call hpc
  · cases site
    case startMeasurement | start | finishSpectrum | finishMeasurement | cleanupFinishSpectrum |
        cleanupFinishMeasurement => cases hsite
    case unsubscribeState | unsubscribeAcquired | cleanupUnsubscribeState |
        cleanupUnsubscribeAcquired =>
      obtain ⟨_, _, _, rfl⟩ := unsubscribeCall_eq_some hcall
      exact ⟨rfl, rfl⟩
    all_goals
      obtain rfl := Option.some.inj hcall
      exact ⟨rfl, rfl⟩
  · exact ⟨rfl, rfl⟩

/-- `FinishSpectrum` has returned, here or in the clean-up. -/
theorem Opened.finishSpectrum (hw : Opened w) (hnone : w.server.exposure = none) (pc : Pc) :
    Emptied { w with
      server := w.server.exec (.finishSpectrum w.task.spectrumId)
      log := .returned (.finishSpectrum w.task.spectrumId) :: w.log
      task := { w.task with spectrumId := none }
      pc := pc } where
  state := hw.state hnone
  tally := by rw [tally_finishSpectrum, hw.tally]
  spectrumId := rfl

/-- `FinishMeasurement` has returned, here or in the clean-up. -/
theorem Emptied.finishMeasurement (hw : Emptied w) (pc : Pc) :
    Closed { w with
      server := w.server.exec .finishMeasurement
      log := .returned .finishMeasurement :: w.log
      pc := pc } where
  state := by simp [Server.exec, hw.state]
  tally := ⟨1, le_refl 1, by rw [tally_finishMeasurement, hw.tally]⟩

/-- A call that opens or closes the measurement, or runs an exposure, has returned. -/
theorem staged_acted {site : Site} {call : Call} (hcall : w.callAt site = some call)
    (hfailed : w.task.failed = site.inCleanup)
    (hfinish : site.inFinish = true → w.task.finishes = true)
    (hnone : w.server.exposure = none) (hsite : site.acts = true) (hw : StagedAt site w) :
    Staged (w.answered site call .ok) := by
  rw [answered_ok]
  cases site
  case startMeasurement =>
    obtain rfl := Option.some.inj hcall
    obtain ⟨hbefore, hid⟩ := hw
    refine ⟨fun _ => ?_, ?_, hid⟩
    · simp [returnedAt, Server.exec, hbefore.state]
    · simp only [returnedAt]
      rw [tally_startMeasurement, hbefore.tally]
  case start =>
    obtain rfl := Option.some.inj hcall
    have hopened : Opened w := hw
    refine ⟨fun hexposure => ?_, hopened.tally, hopened.spectrumId⟩
    simp [returnedAt, Server.exec, hopened.state hnone] at hexposure
  case finishSpectrum | cleanupFinishSpectrum =>
    obtain rfl := Option.some.inj hcall
    exact Opened.finishSpectrum hw hnone _
  case finishMeasurement =>
    obtain rfl := Option.some.inj hcall
    have hsettled : w.settled = true := by simp [settled, hfinish rfl]
    exact staged_leaveTry rfl hsettled (Emptied.finishMeasurement hw _)
  case cleanupFinishMeasurement =>
    obtain rfl := Option.some.inj hcall
    have hsettled : w.settled = true := by
      have hfailed : w.task.failed = true := hfailed
      simp [settled, hfailed]
    exact staged_leaveTry rfl hsettled (Emptied.finishMeasurement hw _)
  all_goals cases hsite

theorem staged_answered {site : Site} {call : Call} {reply : Reply} (hpc : w.pc = .inCall site call)
    (hissued : Issued w) (hplaced : Placed w) (hnone : w.server.exposure = none)
    (htrue : answersTruly w reply) (hw : Staged w) : Staged (w.answered site call reply) := by
  simp only [Placed, hpc] at hplaced
  simp only [Staged, hpc] at hw
  cases reply with
  | ok =>
    cases hsite : site.acts with
    | true =>
      have hcall := call_of_issued hissued hpc (by rintro rfl; cases hsite)
      exact staged_acted hcall hplaced.1 hplaced.2 hnone hsite hw
    | false =>
      obtain ⟨hquiet, hcounts⟩ := call_of_quiet hissued hpc hsite
      obtain ⟨hstate, hexposure⟩ := w.server.exec_quiet hquiet
      rw [answered_ok]
      refine staged_returnedAt hsite ?_ ?_ hstate.symm ?_
      · exact hplaced.1
      · exact hexposure.mpr hnone
      · exact hw.of_same ⟨hstate, hexposure, tally_returned _ hcounts, rfl⟩
  | raised what executed =>
    simp only [answersTruly, hpc] at htrue
    obtain ⟨rfl, hsite⟩ := htrue
    rw [answered_raised]
    unfold raisedAt
    rw [hsite]
    exact staged_caught what (hw.unfinished.of_same ⟨rfl, Iff.rfl, rfl, rfl⟩)

theorem staged_taskStep {reply : Reply} (hissued : Issued w) (hplaced : Placed w)
    (hcounted : Counted w) (hkeeps : Keeps w) (hnotified : Notified w) (hw : Staged w)
    (htrue : answersTruly w reply) (h : w.taskStep reply = some w') : Staged w' := by
  have hstep := taskStep_cases h
  have hagree := readsAgree_of_keeps hkeeps
  have hstaged := hw
  unfold Staged at hstaged
  cases hpc : w.pc <;> simp only [hpc] at hstep hstaged
  case entry =>
    obtain ⟨_, rfl⟩ := hstep
    have hhead := loopHead_head w
    have hserver := hhead.toLocked.server
    obtain ⟨_, hparks⟩ | ⟨_, hbegins⟩ := loopHead_cases w
    · unfold Staged
      rw [hparks.pc]
      exact hstaged.of_same ⟨by rw [hserver], by rw [hserver], by rw [hparks.log],
        hhead.toLocked.spectrumId⟩
    · refine staged_of_begins hbegins (by rw [hserver]; exact hstaged.state) ?_
      rw [hhead.int .adNumImagesCounter (by simp)]
      exact hkeeps.entry hpc
  case waitStart =>
    obtain ⟨_, rfl⟩ := hstep
    exact hstaged.of_same ⟨rfl, Iff.rfl, rfl, rfl⟩
  case woken =>
    obtain ⟨_, rfl⟩ := hstep
    have hlocked := (weAreAcquiring_locked w).trans (startImage_head _).toLocked
    refine staged_of_begins (startImage_begins rfl) ?_ ?_
    · rw [hlocked.server]
      exact hstaged.state
    · rw [(startImage_head _).int .adNumImagesCounter (by simp)]
      simp [weAreAcquiring]
  case call site =>
    have hnone := (hnotified.silent (by simp [hpc])).exposure
    obtain ⟨call, _, rfl⟩ | ⟨hcall, rfl⟩ := hstep
    · exact hstaged.of_same ⟨rfl, Iff.rfl, rfl, rfl⟩
    · simp only [Placed, hpc] at hplaced
      refine staged_returnedAt ?_ hplaced.1 hnone rfl hstaged
      cases site <;> first | rfl | cases hcall
  case inCall site call =>
    subst hstep
    have hnone := (hnotified.silent (by simp [hpc])).exposure
    exact staged_answered hpc hissued hplaced hnone htrue hw
  case exposureLoop =>
    subst hstep
    unfold exposureTest
    split <;> exact hstaged.of_same ⟨rfl, Iff.rfl, rfl, rfl⟩
  case exposureDone =>
    obtain ⟨_, rfl⟩ := hstep
    unfold exposureFinished
    dsimp only
    split <;> exact hstaged.of_same ⟨rfl, Iff.rfl, rfl, rfl⟩
  case leaveTry =>
    obtain ⟨_, rfl⟩ := hstep
    exact staged_of_onward hkeeps hw (Or.inl hpc) (afterTry_locked w)
      (onward_afterTry hcounted hpc hagree)
  case callbacks =>
    obtain ⟨_, rfl⟩ := hstep
    exact staged_of_onward hkeeps hw (Or.inr hpc) (completed_loopHead_locked w)
      (onward_callbacks hplaced hcounted hpc hagree)
  case waitStop =>
    obtain ⟨_, rfl⟩ := hstep
    exact hstaged.of_same ⟨rfl, Iff.rfl, rfl, rfl⟩
  case clearSteps | tryWait =>
    subst hstep
    exact hstaged.of_same ⟨rfl, Iff.rfl, rfl, rfl⟩

/-! ### The measurement through the other steps -/

theorem tally_of_step {l : Label} (hl : ∀ reply, l ≠ .task reply) (h : w.step base l = some w') :
    tally w'.log = tally w.log := by
  obtain hlog | ⟨c, _, hlog⟩ | ⟨c, reply, _, hlog⟩ := log_of_step hl h
  · rw [hlog]
  · rw [hlog, tally_issued]
  · rw [hlog]
    exact tally_event _ reply (by cases c <;> rfl)

theorem staged_of_step {l : Label} (hl : ∀ reply, l ≠ .task reply) (hok : undisturbed w l)
    (hlinked : Linked w) (hnotified : Notified w) (hw : Staged w) (h : w.step base l = some w') : Staged w' := by
  have hplace := samePlace_of_step hl h
  have htally := tally_of_step hl h
  obtain ⟨n, htask⟩ := hplace.task
  by_cases hend : ∃ how, l = .exposureEnd how
  · obtain ⟨how, rfl⟩ := hend
    obtain ⟨v, hv, rfl⟩ := Option.map_eq_some_iff.mp h
    have hwait := (notified_endExposure hlinked hnotified hv).1
    have hstate : v.state = .measuring := by
      rw [(Server.endExposure_ends _ hv).2.1]
      cases how with
      | failed => exact absurd rfl hok.2.2
      | normal | cancelled => rfl
    unfold Staged at hw ⊢
    simp only [hwait] at hw ⊢
    exact ⟨fun _ => hstate, hw.tally, hw.spectrumId⟩
  · have hquiet := quiet_of_step hl hok.1 (fun how hr => hend ⟨how, hr⟩) hlinked hnotified.fresh h
    exact hw.of_same hplace.pc (settled_of_samePlace hplace)
      ⟨hquiet.state, hquiet.exposure, htally, by rw [htask]⟩

/-- What holds while the driver has the analyser to itself. -/
structure Orderly (w : World) : Prop where
  placed : Placed w
  issued : Issued w
  counted : Counted w
  keeps : Keeps w
  subscribed : Subscribed w
  notified : Notified w
  staged : Staged w

theorem orderly_taskStep {reply : Reply} (hw : Orderly w) (htrue : answersTruly w reply)
    (h : w.taskStep reply = some w') : Orderly w' where
  placed := placed_taskStep hw.placed h
  issued := issued_taskStep h
  counted := counted_taskStep hw.placed hw.counted h
  keeps := keeps_taskStep hw.keeps h
  subscribed :=
    { linked := linked_taskStep hw.issued (afresh_of_held hw.subscribed.held) hw.subscribed.linked
        (truthful_of_answersTruly htrue) h
      held := held_taskStep hw.placed hw.counted hw.subscribed.held
        (readsAgree_of_keeps hw.keeps) htrue h }
  notified := by
    refine notified_taskStep hw.issued hw.subscribed.linked hw.notified ?_
      (truthful_of_answersTruly htrue) h
    intro call hpc
    have hheld := hw.subscribed.held
    simp only [Held, hpc] at hheld
    exact hheld.1 rfl
  staged := staged_taskStep hw.issued hw.placed hw.counted hw.keeps hw.notified hw.staged htrue h

theorem orderly_step {l : Label} (hw : Orderly w) (hok : undisturbed w l)
    (h : w.step base l = some w') : Orderly w' := by
  by_cases hl : ∃ reply, l = .task reply
  · obtain ⟨reply, rfl⟩ := hl
    exact orderly_taskStep hw hok.2.2 h
  have hl : ∀ reply, l ≠ .task reply := fun reply hr => hl ⟨reply, hr⟩
  have hplace := samePlace_of_step hl h
  have hlinked := hw.subscribed.linked
  exact
    { placed := hw.placed.of_samePlace hplace
      issued := hw.issued.of_samePlace hplace
      counted := counted_step hw.placed hw.counted hok.2.1 h
      keeps := keeps_step hw.keeps hok h
      subscribed := ⟨hlinked.of_same (sameLinks_of_step hl h),
        held_of_samePlace hw.subscribed.held hplace⟩
      notified := notified_of_step hl hok.1 hlinked hw.notified h
      staged := staged_of_step hl hok hlinked hw.notified hw.staged h }

theorem orderly_initial (h : Initial w) (hactive : w.server.state = .active) : Orderly w where
  placed := (measures_initial h).placed
  issued := (measures_initial h).issued
  counted := (measures_initial h).counted
  keeps := ⟨fun hr => absurd (Or.inl h.pc) hr, fun hr => absurd (Or.inl h.pc) hr,
    fun _ => h.adNumImagesCounter⟩
  subscribed := subscribed_initial h
  notified := notified_initial h
  staged := by
    unfold Staged
    rw [h.pc]
    exact ⟨hactive, 0, Nat.zero_le 1, by rw [h.log]; rfl⟩

/-! ### From the exception to the next wait -/

/-- The task cleans up, is about to report the error, or has reported it. -/
def Failing (w : World) : Prop :=
  match w.pc with
  | .call site | .inCall site _ => site.inCleanup = true ∧ w.task.failed = true
  | .leaveTry => w.task.failed = true
  | .waitStart => w.driver.int .adAcquire = 0 ∧ w.driver.int .adStatus = adStatusError
  | _ => False

theorem Failing.of_place (hw : Failing w) (hpc : w'.pc = w.pc)
    (hfailed : w'.task.failed = w.task.failed) (hne : w.pc ≠ .waitStart) : Failing w' := by
  unfold Failing at hw ⊢
  rw [hpc, hfailed]
  cases hplace : w.pc <;> simp only [hplace] at hw ⊢
  case waitStart => exact absurd hplace hne
  all_goals exact hw

theorem failing_cleanupAcquired (hfailed : w.task.failed = true) : Failing w.cleanupAcquired := by
  unfold cleanupAcquired
  split <;> exact ⟨rfl, hfailed⟩

theorem failing_caught (w : World) (what : String) : Failing (w.caught what) := by
  unfold caught
  dsimp only
  split
  · exact ⟨rfl, rfl⟩
  · exact failing_cleanupAcquired rfl

theorem cleanupAhead_cleanupAcquired (w : World) : w.cleanupAcquired.pc.cleanupAhead ≤ 9 := by
  unfold cleanupAcquired
  split <;> simp

/-- A call of the clean-up has returned: the clean-up goes on, with less ahead of it. -/
theorem failing_returnedAt {site : Site} (answer : Server) (hsite : site.inCleanup = true)
    (hfailed : w.task.failed = true) :
    Failing (w.returnedAt site answer) ∧
      (w.returnedAt site answer).pc.cleanupAhead < 2 * site.cleanupAhead := by
  cases site
  case cleanupUnsubscribeState =>
    exact ⟨failing_cleanupAcquired hfailed,
      Nat.lt_of_le_of_lt (cleanupAhead_cleanupAcquired _) (by decide)⟩
  case cleanupCurrentState =>
    unfold returnedAt
    dsimp only
    split
    · split <;> exact ⟨⟨rfl, hfailed⟩, by simp⟩
    · exact ⟨hfailed, by simp⟩
  case cleanupUnsubscribeAcquired | cleanupFinishSpectrum =>
    exact ⟨⟨rfl, hfailed⟩, by simp [returnedAt]⟩
  case cleanupFinishMeasurement => exact ⟨hfailed, by simp [returnedAt]⟩
  all_goals cases hsite

theorem failing_answered {site : Site} (call : Call) (hsite : site.inCleanup = true)
    (hfailed : w.task.failed = true) :
    Failing (w.answered site call .ok) ∧
      (w.answered site call .ok).pc.cleanupAhead < 2 * site.cleanupAhead := by
  rw [answered_ok]
  exact failing_returnedAt _ hsite hfailed

/-- The errored branch reports the error and waits. -/
theorem failing_afterTry (hfailed : w.task.failed = true) :
    Failing w.afterTry ∧ w.afterTry.pc = .waitStart ∧ w.afterTry.log = w.log := by
  have hparks : Parks w.errored.log w.errored.loopHead := loopHead_parks (by simp [errored])
  have hstatus := (loopHead_head w.errored).int .adStatus (by simp)
  have herrored : w.afterTry = w.errored.loopHead := by
    unfold afterTry
    rw [if_pos hfailed]
  rw [herrored]
  refine ⟨?_, hparks.pc, hparks.log⟩
  unfold Failing
  rw [hparks.pc]
  refine ⟨hparks.adAcquire, hstatus.trans ?_⟩
  simp [errored]

theorem failing_taskStep {reply : Reply} (hissued : Issued w) (hw : Failing w)
    (htrue : answersTruly w reply) (hpc : w.pc ≠ .waitStart) (h : w.taskStep reply = some w') :
    Failing w' ∧ (tally w'.log).started = (tally w.log).started := by
  have hstep := taskStep_cases h
  unfold Failing at hw
  cases hplace : w.pc <;> simp only [hplace] at hstep hw
  case waitStart => exact absurd hplace hpc
  case call site =>
    obtain ⟨call, _, rfl⟩ | ⟨_, rfl⟩ := hstep
    · exact ⟨hw, rfl⟩
    · refine ⟨(failing_returnedAt _ hw.1 hw.2).1, ?_⟩
      rw [(returnedAt_taskOnly _ _ _).log]
  case inCall site call =>
    subst hstep
    have hstart : call ≠ .startMeasurement := by
      rintro rfl
      obtain rfl := site_of_startMeasurement hissued hplace
      cases hw.1
    constructor
    · cases reply with
      | ok => exact (failing_answered call hw.1 hw.2).1
      | raised what executed =>
        simp only [answersTruly, hplace] at htrue
        rw [hw.1] at htrue
        cases htrue.2
    · rw [(answered_taskOnly _ _ _ _).log]
      exact started_event _ reply hstart
  case leaveTry =>
    obtain ⟨_, rfl⟩ := hstep
    obtain ⟨hfailing, _, hlog⟩ := failing_afterTry hw
    exact ⟨hfailing, by rw [hlog]⟩

theorem failing_step {l : Label} (hissued : Issued w) (hw : Failing w) (hok : undisturbed w l)
    (hpc : w.pc ≠ .waitStart) (h : w.step base l = some w') :
    Failing w' ∧ (tally w'.log).started = (tally w.log).started := by
  by_cases hl : ∃ reply, l = .task reply
  · obtain ⟨reply, rfl⟩ := hl
    exact failing_taskStep hissued hw hok.2.2 hpc h
  have hl : ∀ reply, l ≠ .task reply := fun reply hr => hl ⟨reply, hr⟩
  have hplace := samePlace_of_step hl h
  obtain ⟨n, htask⟩ := hplace.task
  exact ⟨hw.of_place hplace.pc (by rw [htask]) hpc, by rw [tally_of_step hl h]⟩

/-- The task has run on from `w₁` and blocks on `startEventId` for the first time. -/
structure NextWait (base : ADDriver) (w₁ w₂ : World) : Prop where
  run : Run (step base) (fun a l => undisturbed a l ∧ a.pc ≠ .waitStart) w₁ w₂
  waits : w₂.pc = .waitStart

theorem NextWait.head {w₁ w₂ w₃ : World} {l : Label} (hok : undisturbed w₁ l)
    (hpc : w₁.pc ≠ .waitStart) (h : w₁.step base l = some w₂) (hnext : NextWait base w₂ w₃) :
    NextWait base w₁ w₃ :=
  ⟨Run.head ⟨hok, hpc⟩ h hnext.run, hnext.waits⟩

/-- Once the port thread is out of `writeInt32`, the error is reported. -/
theorem nextWait_leaveTry (hport : w.port = .idle) (hpc : w.pc = .leaveTry)
    (hfailed : w.task.failed = true) : ∃ w', NextWait base w w' := by
  have hstep : w.step base (.task .ok) = some w.afterTry := by simp [step, taskStep, hpc, hport]
  have hok : undisturbed w (.task .ok) := ⟨rfl, trivial, trivial⟩
  obtain ⟨_, hwaits, _⟩ := failing_afterTry hfailed
  exact ⟨w.afterTry, Run.single ⟨hok, by simp [hpc]⟩ hstep, hwaits⟩

/-- The clean-up comes to its end. -/
theorem nextWait_failing (hport : w.port = .idle) (hw : Failing w) (hpc : w.pc ≠ .waitStart) :
    ∃ w', NextWait base w w' := by
  induction hahead : w.pc.cleanupAhead using Nat.strong_induction_on generalizing w with
  | _ ahead ih =>
    have hok : undisturbed w (.task .ok) := ⟨rfl, trivial, trivial⟩
    unfold Failing at hw
    cases hplace : w.pc <;> simp only [hplace] at hw
    case waitStart => exact absurd hplace hpc
    case leaveTry => exact nextWait_leaveTry hport hplace hw
    case call site =>
      cases hcall : w.callAt site with
      | some call =>
        have hstep : w.step base (.task .ok) = some { w.record (.issued call) with
            pc := .inCall site call } := by simp [step, taskStep, hplace, hcall]
        obtain ⟨w', hnext⟩ := ih (Pc.inCall site call).cleanupAhead
          (by rw [← hahead, hplace]; simp) (w := { w.record (.issued call) with
            pc := .inCall site call }) hport hw (by simp) rfl
        exact ⟨w', hnext.head hok hpc hstep⟩
      | none =>
        have hstep : w.step base (.task .ok) = some (w.returnedAt site w.server) := by
          simp [step, taskStep, hplace, hcall]
        obtain ⟨hfailing, hless⟩ := failing_returnedAt (w := w) w.server hw.1 hw.2
        obtain ⟨w', hnext⟩ := ih _ (by rw [← hahead, hplace, Pc.cleanupAhead]; omega)
          ((returnedAt_taskOnly w site w.server).port.trans hport) hfailing
          (fun hwait => (answered_returnedAt w site w.server).not_resting (Or.inr (Or.inl hwait))) rfl
        exact ⟨w', hnext.head hok hpc hstep⟩
    case inCall site call =>
      have hstep : w.step base (.task .ok) = some (w.answered site call .ok) := by
        simp [step, taskStep, hplace]
      obtain ⟨hfailing, hless⟩ := failing_answered call hw.1 hw.2
      obtain ⟨w', hnext⟩ := ih _ (by rw [← hahead, hplace, Pc.cleanupAhead]; exact hless)
        ((answered_taskOnly w site call .ok).port.trans hport) hfailing
        (fun hwait => (answered_place w site call .ok).not_resting (Or.inr (Or.inl hwait))) rfl
      exact ⟨w', hnext.head hok hpc hstep⟩

/-- The port thread gets out of `writeInt32`, and the clean-up comes to its end. -/
theorem nextWait_of_failing (hw : Failing w) (hpc : w.pc ≠ .waitStart) :
    ∃ w', NextWait base w w' := by
  have hok : ∀ a : World, undisturbed a (.port .ok) := fun a => ⟨rfl, trivial, trivial⟩
  cases hport : w.port with
  | idle => exact nextWait_failing hport hw hpc
  | calling c sent =>
    have hanswer : ∀ a : World, a.port = .calling c true → Failing a → a.pc ≠ .waitStart →
        ∃ w', NextWait base a w' := by
      intro a hport hw hpc
      obtain ⟨a', hstep⟩ : ∃ a', a.portStep .ok = some a' := by
        unfold portStep
        rw [hport]
        dsimp only
        split <;> exact ⟨_, rfl⟩
      have hplace := samePlace_portStep hstep
      obtain ⟨n, htask⟩ := hplace.task
      have hidle : a'.port = .idle := by
        obtain ⟨_, hnot, _⟩ | ⟨_, _, _, rfl⟩ := portStep_cases hstep
        · rw [hport] at hnot
          cases hnot
        · rfl
      obtain ⟨w', hnext⟩ : ∃ w', NextWait base a' w' := nextWait_failing hidle
        (hw.of_place hplace.pc (by rw [htask]) hpc) (by rwa [hplace.pc])
      exact ⟨w', hnext.head (hok a) hpc hstep⟩
    cases sent with
    | true => exact hanswer w hport hw hpc
    | false =>
      have hstep : w.step base (.port .ok) = some { w.record (.issued c.call) with
          port := .calling c true } := by simp [step, portStep, hport]
      obtain ⟨w', hnext⟩ := hanswer { w.record (.issued c.call) with port := .calling c true } rfl
        (hw.of_place rfl rfl hpc) hpc
      exact ⟨w', hnext.head (hok w) hpc hstep⟩

/-- A call of the `try` block that raises an exception leaves the task failing, before it waits for
a start, and nothing more is logged. -/
theorem failing_of_raised {site : Site} {call : Call} {what : String}
    (hpc : w.pc = .inCall site call) (hsite : site.inCleanup = false)
    (hraise : w.step base (.task (.raised what false)) = some w') :
    Failing w' ∧ w'.pc ≠ .waitStart ∧ tally w'.log = tally w.log := by
  have hraised : w' = w.answered site call (.raised what false) := by
    have hcases := taskStep_cases hraise
    simpa only [hpc] using hcases
  refine ⟨?_, ?_, ?_⟩
  · rw [hraised, answered_raised]
    unfold raisedAt
    rw [hsite]
    exact failing_caught _ what
  · rw [hraised]
    exact fun hwait => (answered_place _ _ _ _).not_resting (Or.inr (Or.inl hwait))
  · rw [hraised, (answered_taskOnly _ _ _ _).log]
    exact tally_raised _ _ _

/-- Whatever call of the `try` block is the first to raise an exception, the task comes to
wait for a start again, and then everything is released and the error is reported. -/
theorem error_exit {w₀ w₁ : World} {site : Site} {call : Call} {what : String}
    (hinit : Initial w₀) (hactive : w₀.server.state = .active)
    (hrun : Run (step base) undisturbed w₀ w) (hpc : w.pc = .inCall site call)
    (hsite : site.inCleanup = false)
    (hraise : w.step base (.task (.raised what false)) = some w₁) :
    (∃ w₂, NextWait base w₁ w₂) ∧ ∀ w₂, NextWait base w₁ w₂ →
      w₂.subscribers = [] ∧ w₂.server.observers = [] ∧ w₂.server.updates = [] ∧
      w₂.server.state = .active ∧ (tally w.log).started ≤ 1 ∧
      (tally w₂.log).spectraFinished = (tally w.log).started ∧
      (tally w₂.log).finished = (tally w.log).started ∧
      w₂.driver.int .adAcquire = 0 ∧ w₂.driver.int .adStatus = adStatusError := by
  have hw : Orderly w := hrun.invariant (fun _ _ _ ha hok hs => orderly_step ha hok hs)
    (orderly_initial hinit hactive)
  have hok : undisturbed w (.task (.raised what false)) := by
    refine ⟨rfl, trivial, rfl, ?_⟩
    rw [hpc]
    exact hsite
  have hw₁ := orderly_step hw hok hraise
  obtain ⟨hfailing, hplace, hlog⟩ := failing_of_raised hpc hsite hraise
  refine ⟨nextWait_of_failing hfailing hplace, fun w₂ hnext => ?_⟩
  have hkeep : ∀ a l b, Orderly a ∧ Failing a → undisturbed a l ∧ a.pc ≠ .waitStart →
      a.step base l = some b →
      (Orderly b ∧ Failing b) ∧ (tally b.log).started = (tally a.log).started := by
    intro a l b ⟨ha, hfa⟩ ⟨hok, hne⟩ hs
    obtain ⟨hfb, hstarted⟩ := failing_step ha.issued hfa hok hne hs
    exact ⟨⟨orderly_step ha hok hs, hfb⟩, hstarted⟩
  obtain ⟨hw₂, hfailing₂⟩ := hnext.run.invariant
    (fun a l b ha hok hs => (hkeep a l b ha hok hs).1) ⟨hw₁, hfailing⟩
  have hstarted := hnext.run.constant (fun a => (tally a.log).started) hkeep ⟨hw₁, hfailing⟩
  have hstaged := hw₂.staged
  have hheld := hw₂.subscribed.held
  have hlinked := hw₂.subscribed.linked
  simp only [Staged, hnext.waits] at hstaged
  simp only [Held, hnext.waits] at hheld
  simp only [Failing, hnext.waits] at hfailing₂
  obtain ⟨n, hn, htally⟩ := hstaged.tally
  simp only [hlog, htally] at hstarted
  refine ⟨?_, ?_, ?_, hstaged.state, hstarted ▸ hn, ?_, ?_, hfailing₂⟩
  · simp [hlinked.subscribers, hheld.1, hheld.2]
  · simp [hlinked.observers, hheld.1]
  · simp [hlinked.updates, hheld.2]
  · rw [htally, ← hstarted]
  · rw [htally, ← hstarted]

theorem error_exit_measured_spectrum :
    ∃ w w₁ w₂ : World, Run (step (.store 8)) undisturbed (.atRest adImageSingle 1 1 0) w ∧
      w.pc = .inCall .getMeasuredSpectrum (.getMeasuredSpectrum (some 0)) ∧
      w.step (.store 8) (.task (.raised "timeout" false)) = some w₁ ∧
      NextWait (.store 8) w₁ w₂ ∧ w₂.subscribers = [] ∧ w₂.server.state = .active ∧
      (tally w₂.log).finished = 1 ∧ w₂.driver.int .adStatus = adStatusError := by
  have hreach : reaches (step (.store 8)) undisturbed (.atRest adImageSingle 1 1 0)
      (firstExposure ++ [.exposureEnd .normal, .notify 1 false] ++ .replicate 4 (.task .ok))
      (fun w => w.pc = .inCall .getMeasuredSpectrum (.getMeasuredSpectrum (some 0)) ∧
        (tally w.log).started = 1) = true := by
    decide +kernel
  obtain ⟨w, hrun, hw⟩ := run_of_reaches hreach
  obtain ⟨hpc, hstarted⟩ : w.pc = .inCall .getMeasuredSpectrum (.getMeasuredSpectrum (some 0)) ∧
      (tally w.log).started = 1 := by simpa using hw
  have hraise : w.step (.store 8) (.task (.raised "timeout" false)) =
      some (w.answered .getMeasuredSpectrum (.getMeasuredSpectrum (some 0))
        (.raised "timeout" false)) := by
    simp [step, taskStep, hpc]
  obtain ⟨⟨w₂, hnext⟩, hexit⟩ := error_exit (atRest_initial ..) rfl hrun hpc rfl hraise
  obtain ⟨hsubscribers, _, _, hactive, _, _, hfinished, _, hstatus⟩ := hexit w₂ hnext
  exact ⟨w, _, w₂, hrun, hpc, hraise, hnext, hsubscribers, hactive, hfinished.trans hstarted, hstatus⟩

end World

end PeakAnalyser
