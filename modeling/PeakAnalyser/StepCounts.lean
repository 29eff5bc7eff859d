import PeakAnalyser.ImageProgress
import PeakAnalyser.LiveImages

/-!
# The estimated and the actual number of steps

`acquisitionTask` copies `AcqNumSteps` at the start of an image, and `setRegion` corrects the
parameter with the first update of an exposure. `IsLast` and `AcqProgress` are computed with the
copy.
-/

namespace PeakAnalyser

set_option autoImplicit false

open Runs

/-! ### The throttle -/

/-- The statements of an update and those of `spectrumTask` up to its choice, less than a second
after the last image. -/
def updateSoon (channel : JsonValue) (isLast : Bool) (env : Environment) : List LiveLabel :=
  [.update channel, .callback isLast, .callback isLast, .callback isLast,
    .spectrumTask false env, .spectrumTask false env]

/-- The throttle lets an update with this `IsLast` through. -/
def NotDropped (isLast : Bool) : Prop :=
  ∀ (memory : Nat) (serverUri : Bytes) (env : Environment) (channel : JsonValue) (w : SpectrumFeed),
    channel.isObject = true → w.callback = .idle → w.task = .wait →
      ∃ w', exec (SpectrumFeed.step memory serverUri) always w (updateSoon channel isLast env) =
        some w' ∧ w'.task = .reading .axes {}

theorem assign_boolean (members : List (String × JsonValue)) (isLast : Bool) :
    (JsonValue.object members).assign "IsLast" (.boolean isLast) =
      .ok (.object (JsonValue.assignMember "IsLast" (.boolean isLast) members)) := rfl

theorem itemOrNull_assigned (members : List (String × JsonValue)) (isLast : Bool) :
    (JsonValue.object (JsonValue.assignMember "IsLast" (.boolean isLast) members)).itemOrNull "IsLast" =
      .ok (.boolean isLast,
        .object (JsonValue.assignMember "IsLast" (.boolean isLast) members)) := by
  simp only [JsonValue.itemOrNull, JsonValue.lookup_assignMember]

/-- What `spectrumTask` does with an update that comes in while it waits. -/
theorem exec_updateSoon (memory : Nat) (serverUri : Bytes) (env : Environment) (isLast : Bool)
    (members : List (String × JsonValue)) (w : SpectrumFeed) (hcallback : w.callback = .idle)
    (htask : w.task = .wait) :
    ∃ w', exec (SpectrumFeed.step memory serverUri) always w
        (updateSoon (.object members) isLast env) = some w' ∧
      w'.task = if isLast then .reading .axes {} else .wait := by
  simp only [updateSoon, exec, always, if_true, SpectrumFeed.step, SpectrumFeed.spectrumUpdate,
    SpectrumFeed.spectrumTask, hcallback, htask, Option.bind_some, assign_boolean,
    SpectrumFeed.checkIsLast, itemOrNull_assigned, JsonValue.getBool]
  exact ⟨_, rfl, rfl⟩

theorem notDropped_iff {isLast : Bool} : NotDropped isLast ↔ isLast = true := by
  constructor
  · intro h
    obtain ⟨w, hw, htask⟩ := h 0 [] (PeakSpectrum.answering 200 []) (.object []) {} rfl rfl rfl
    obtain ⟨w', hw', htask'⟩ := exec_updateSoon 0 [] (PeakSpectrum.answering 200 []) isLast
      [] {} rfl rfl
    obtain rfl := Option.some.inj (hw.symm.trans hw')
    cases isLast with
    | true => rfl
    | false =>
      rw [htask] at htask'
      cases htask'
  · rintro rfl memory serverUri env channel w hchannel hcallback htask
    cases channel with
    | object members => exact exec_updateSoon memory serverUri env true members w hcallback htask
    | _ => cases hchannel

/-! ### The reports of one exposure -/

/-- A report as it should be when `steps` updates come in: the last update and no other is
flagged, so that the throttle lets it through, and the copied step count is the shown one. -/
structure StepReport.Agrees (r : StepReport) (steps : Int) : Prop where
  last : r.isLast = true ↔ r.update = steps
  kept : r.update = steps → NotDropped r.isLast
  shown : r.numSteps = r.acqNumSteps

namespace World

variable {w w' : World} {base : ADDriver}

/-- The server sends as many updates as the first one of the exposure announces, and meanwhile no
write changes `AcqNumSteps`. -/
def sendsAnnounced (base : ADDriver) (s : World × ImageTally) (l : Label) : Bool :=
  withinImage s l &&
    match l with
    | .task _ => true
    | .spectrumUpdate _ => s.2.update = 0 || s.2.update < s.2.announced
    | l => s.1.pc.phase ≠ .exposing ||
        (s.1.step base l).all fun w' => w'.int .acqNumSteps = s.1.int .acqNumSteps

/-- The reports so far, made with the estimate that the image began with. -/
structure Announced (estimate : Int) (s : World × ImageTally) : Prop where
  corrected : s.1.pc.phase = .exposing → 1 ≤ s.2.update → s.1.int .acqNumSteps = s.2.announced
  copied : ∀ r ∈ s.2.reports, r.numSteps = estimate
  acqNumSteps : ∀ r ∈ s.2.reports, r.acqNumSteps = r.announced
  isLast : ∀ r ∈ s.2.reports, r.isLast = true ↔ estimate = r.update
  earlier : ∀ r ∈ s.2.reports, r.exposure ≤ s.2.exposure
  current : ∀ r ∈ s.2.reports, r.exposure = s.2.exposure →
    1 ≤ s.2.update ∧ r.announced = s.2.announced
  same : ∀ r ∈ s.2.reports, ∀ r' ∈ s.2.reports, r.exposure = r'.exposure →
    r.announced = r'.announced

theorem announced_task {estimate : Int} {g : ImageTally} {reply : Reply}
    (hstay : w.pc.leavesImage = false) (hw : Announced estimate (w, g))
    (h : w.taskStep reply = some w') :
    Announced estimate (w', w.takeTally (.task reply) w' g) := by
  by_cases hstart : w.pc = .call .start
  · rw [takeTally_start hstart]
    refine ⟨?_, hw.copied, hw.acqNumSteps, hw.isLast, ?_, ?_, hw.same⟩
    · intro _ hone
      cases hone
    · intro r hr
      exact Nat.le_succ_of_le (hw.earlier r hr)
    · intro r hr hexposure
      have hle : r.exposure ≤ g.exposure := hw.earlier r hr
      change r.exposure = g.exposure + 1 at hexposure
      omega
  · have htally : w.takeTally (.task reply) w' g = g := if_neg hstart
    rw [htally]
    refine ⟨?_, hw.copied, hw.acqNumSteps, hw.isLast, hw.earlier, hw.current, hw.same⟩
    intro hphase hone
    cases phaseStep_taskStep hstay h with
    | start hfrom hto hsame => exact absurd hfrom hstart
    | wait call hfrom hto hsame =>
      have hdriver : w'.driver = w.driver := by
        have hstep := taskStep_cases h
        simp only [hfrom] at hstep
        subst hstep
        exact (answered_taskOnly w .start call reply).driver
      have hexposing : w.pc.phase = .exposing := by rw [hfrom]; rfl
      change w'.driver.int .acqNumSteps = g.announced
      rw [hdriver]
      exact hw.corrected hexposing hone
    | setUp hfrom hto hsame =>
      rcases hto with hto | hto <;> rw [hto] at hphase <;> cases hphase
    | aside hto | enter _ hto _ _ | clear _ hto _ _ | prepare _ hto _ | stop _ hto _
      | again _ hto _ =>
      rw [hto] at hphase
      cases hphase

theorem announced_update {estimate numExposures : Int} {g : ImageTally} {settings : ChannelSettings}
    (hphase : w.pc.phase = .exposing) (htallies : Tallies estimate numExposures (w, g))
    (hw : Announced estimate (w, g)) (h : w.step base (.spectrumUpdate settings) = some w') :
    Announced estimate (w', w.takeTally (.spectrumUpdate settings) w' g) := by
  obtain ⟨_, hpc, hshown, hreports⟩ := tallies_update hphase htallies h
  have hannounced : w'.int .acqNumSteps = w.announcedBy settings g := by
    rw [hshown]
    split
    · rfl
    · rename_i hupdate
      rw [hw.corrected hphase (by change 1 ≤ g.update; omega)]
      exact (if_neg hupdate).symm
  have hcurrent : ∀ r ∈ g.reports, r.exposure = g.exposure →
      r.announced = w.announcedBy settings g := by
    intro r hr hexposure
    obtain ⟨hone, hsame⟩ := hw.current r hr hexposure
    change 1 ≤ g.update at hone
    unfold announcedBy
    rw [if_neg (by omega)]
    exact hsame
  refine ⟨fun _ _ => hannounced, ?_, ?_, ?_, ?_, ?_, ?_⟩
  · rw [hreports, List.forall_mem_cons]
    exact ⟨rfl, hw.copied⟩
  · rw [hreports, List.forall_mem_cons]
    exact ⟨hannounced, hw.acqNumSteps⟩
  · rw [hreports, List.forall_mem_cons]
    exact ⟨decide_eq_true_iff, hw.isLast⟩
  · rw [hreports, List.forall_mem_cons]
    exact ⟨le_rfl, hw.earlier⟩
  · rw [hreports, List.forall_mem_cons]
    have hone : 1 ≤ g.update + 1 := Nat.le_add_left 1 g.update
    exact ⟨fun _ => ⟨hone, rfl⟩, fun r hr hexposure => ⟨hone, hcurrent r hr hexposure⟩⟩
  · rw [hreports]
    intro r hr r' hr' hexposure
    rcases List.mem_cons.mp hr with rfl | hr
    · rcases List.mem_cons.mp hr' with rfl | hr'
      · rfl
      · exact (hcurrent r' hr' hexposure.symm).symm
    · rcases List.mem_cons.mp hr' with rfl | hr'
      · exact hcurrent r hr hexposure
      · exact hw.same r hr r' hr' hexposure

theorem announced_step {estimate numExposures : Int} {s s' : World × ImageTally} {l : Label}
    (htallies : Tallies estimate numExposures s) (hw : Announced estimate s)
    (hok : sendsAnnounced base s l = true) (h : talliedStep base s l = some s') :
    Tallies estimate numExposures s' ∧ Announced estimate s' := by
  obtain ⟨hwithin, hsends⟩ := Bool.and_eq_true_iff.mp hok
  refine ⟨tallies_step htallies hwithin h, ?_⟩
  obtain ⟨w, g⟩ := s
  obtain ⟨w', g'⟩ := s'
  rcases talliedStep_cases h with ⟨reply, rfl, hstep, rfl⟩ | ⟨settings, rfl, hstep, rfl⟩ |
    ⟨htask, hupdate, hstep, hpc, _, rfl⟩
  · exact announced_task (by simpa [withinImage] using hwithin) hw hstep
  · exact announced_update (by simpa [withinImage] using hwithin) htallies hw hstep
  · refine ⟨?_, hw.copied, hw.acqNumSteps, hw.isLast, hw.earlier, hw.current, hw.same⟩
    intro hphase hone
    change w'.pc.phase = .exposing at hphase
    rw [hpc] at hphase
    have hkeeps : w'.int .acqNumSteps = w.int .acqNumSteps := by
      cases l with
      | task reply => exact absurd rfl (htask reply)
      | spectrumUpdate settings => exact absurd rfl (hupdate settings)
      | _ => exact of_decide_eq_true (by simpa [hphase, hstep] using hsends)
    exact hkeeps.trans (hw.corrected hphase hone)

theorem announced_startImage (w : World) : Announced (w.int .acqNumSteps) (w.startImage, {}) := by
  constructor
  case corrected =>
    intro _ hone
    cases hone
  all_goals
    intro r hr
    cases hr

/-- In every exposure of an image the update that the server sends last, and no other, is flagged,
and the copied step count is the shown one, if and only if the image began with the number of steps
that the first update of the exposure announces. -/
theorem agrees_iff {s : World × ImageTally} {first : StepReport}
    (hrun : Run (talliedStep base) (fun s l => sendsAnnounced base s l = true) (w.startImage, {}) s)
    (hfirst : first ∈ s.2.reports) :
    (∀ r ∈ s.2.reports, r.exposure = first.exposure → r.Agrees first.announced) ↔
      w.int .acqNumSteps = first.announced := by
  have hinvariant := hrun.invariant
    (P := fun s => Tallies (w.int .acqNumSteps) (w.int .adNumExposures) s ∧
      Announced (w.int .acqNumSteps) s)
    (fun _ _ _ ha hok hs => announced_step ha.1 ha.2 hok hs)
    ⟨tallies_startImage w, announced_startImage w⟩
  obtain ⟨_, hw⟩ := hinvariant
  constructor
  · intro hagrees
    have hshown := (hagrees first hfirst rfl).shown
    rw [← hw.copied first hfirst, hshown]
    exact hw.acqNumSteps first hfirst
  · intro hsteps r hr hexposure
    have hannounced := hw.same r hr first hfirst hexposure
    have hlast : r.isLast = true ↔ (r.update : Int) = first.announced := by
      rw [hw.isLast r hr, hsteps]
      exact eq_comm
    refine ⟨hlast, ?_, ?_⟩
    · intro hupdate
      exact notDropped_iff.mpr (hlast.mpr hupdate)
    · rw [hw.copied r hr, hw.acqNumSteps r hr, hannounced]
      exact hsteps

theorem agrees_two_steps :
    ∃ s, Run (talliedStep (.store 8)) (fun s l => sendsAnnounced (.store 8) s l = true)
        (((expecting 2 1).setIntegerParam .adAcquire 1).startImage, {}) s ∧
      s.2.reports.length = 2 ∧ ∀ r ∈ s.2.reports, r.exposure = 1 → r.Agrees 2 := by
  have hreach : reaches (talliedStep (.store 8)) (fun s l => sendsAnnounced (.store 8) s l = true)
      (((expecting 2 1).setIntegerParam .adAcquire 1).startImage, {})
      (firstStart ++ exposureOf 2 2 1)
      (fun s => s.2.reports.length = 2 &&
        s.2.reports.any fun r => r.exposure = 1 && r.announced = 2) = true := by
    decide +kernel
  obtain ⟨s, hrun, hs⟩ := run_of_reaches hreach
  obtain ⟨hlength, hany⟩ := Bool.and_eq_true_iff.mp hs
  obtain ⟨first, hfirst, h⟩ := List.any_eq_true.mp hany
  simp only [Bool.and_eq_true, decide_eq_true_eq] at h
  obtain ⟨hexposure, hannounced⟩ := h
  have hagrees := (agrees_iff hrun hfirst).mpr (by rw [hannounced]; rfl)
  rw [hexposure, hannounced] at hagrees
  exact ⟨s, hrun, by simpa using hlength, hagrees⟩

/-- Three steps are expected and two come in: neither is flagged, and the throttle can drop the
last one. -/
theorem last_update_unmarked :
    Initial (expecting 3 1) ∧
    ∃ w, Run (step (.store 8)) always (expecting 3 1) w ∧ w.pc = .woken ∧
      ∃ s, Run (talliedStep (.store 8)) (fun s l => sendsAnnounced (.store 8) s l = true)
          (w.weAreAcquiring.startImage, {}) s ∧
        ∃ r ∈ s.2.reports, r.exposure = 1 ∧ r.announced = 2 ∧ r.update = 2 ∧ r.isLast = false ∧
          ¬ NotDropped r.isLast ∧ r.numSteps ≠ r.acqNumSteps := by
  have hreach : reaches (step (.store 8)) always (expecting 3 1)
      [.task .ok, .write .adAcquire 1 .raised, .task .ok] (fun w => w.pc = .woken &&
        reaches (talliedStep (.store 8)) (fun s l => sendsAnnounced (.store 8) s l = true)
          (w.weAreAcquiring.startImage, {}) (firstStart ++ exposureOf 2 2 1)
          (fun s => s.2.reports.any fun r => r.exposure = 1 && r.announced = 2 && r.update = 2 &&
            !r.isLast && r.numSteps ≠ r.acqNumSteps)) = true := by
    decide +kernel
  obtain ⟨w, hrun, hw⟩ := run_of_reaches hreach
  obtain ⟨hpc, himage⟩ := Bool.and_eq_true_iff.mp hw
  obtain ⟨s, himage, hs⟩ := run_of_reaches himage
  obtain ⟨r, hr, h⟩ := List.any_eq_true.mp hs
  simp only [Bool.and_eq_true, decide_eq_true_eq, Bool.not_eq_true'] at h
  obtain ⟨⟨⟨⟨hexposure, hannounced⟩, hupdate⟩, hlast⟩, hshown⟩ := h
  refine ⟨expecting_initial 3 1, w, hrun, by simpa using hpc, s, himage, r, hr, hexposure,
    hannounced, hupdate, hlast, ?_, hshown⟩
  rw [notDropped_iff, hlast]
  decide

end World

end PeakAnalyser
