import Mathlib.Tactic.FieldSimp
import Mathlib.Tactic.Linarith
import Mathlib.Tactic.Ring
import PeakAnalyser.ExposureUpdates

/-!
# AcqProgress over one image

With `N` updates in each of `E` exposures the progress should be the share of the `N * E` updates
that have come in. The callback multiplies the share of the steps by the share of the exposures,
which is the same only in the first exposure and at the last step of the others.
-/

namespace PeakAnalyser

set_option autoImplicit false

open Runs

/-- `AcqProgress` rises from update to update, stays between 0 and 100, is 100 with the last
update, and is the share of the updates that have come in. -/
structure ProgressLaw (N E : ℕ) (reports : List StepReport) : Prop where
  share : ∀ r ∈ reports,
    r.acqProgress = .finite (100 * ((r.exposure - 1) * N + r.update) / (N * E))
  range : ∀ r ∈ reports, ∃ q, r.acqProgress = .finite q ∧ 0 ≤ q ∧ q ≤ 100
  rising : reports.Pairwise fun later earlier =>
    ∃ p q, earlier.acqProgress = .finite p ∧ later.acqProgress = .finite q ∧ p ≤ q
  full : ∀ r ∈ reports, r.acqProgress = .finite 100 ↔ r.exposure = E ∧ r.update = N

namespace World

variable {w w' : World} {base : ADDriver} {N E : ℕ}

/-- The server sends `N` updates in each exposure. -/
def sendsEach (N : ℕ) (s : World × ImageTally) (l : Label) : Bool :=
  withinImage s l &&
    match l with
    | .task _ => s.1.pc ≠ .waitStop || s.2.update = N
    | .spectrumUpdate _ => s.2.update < N
    | _ => true

/-- Between two exposures all updates of the one before have come in. -/
def Full (N : ℕ) (w : World) (g : ImageTally) : Prop :=
  match w.pc.phase with
  | .loop | .clear | .ready | .ended => g.exposure = 0 ∨ g.update = N
  | _ => True

/-- The reports are those of all updates so far, each once and in their order. -/
structure Reported (N : ℕ) (numSteps numExposures : Int) (g : ImageTally) : Prop where
  exposure : ∀ r ∈ g.reports, 1 ≤ r.exposure ∧ r.exposure ≤ numExposures
  update : ∀ r ∈ g.reports, 1 ≤ r.update ∧ r.update ≤ N
  progress : ∀ r ∈ g.reports,
    r.acqProgress = reportedProgress numSteps numExposures r.exposure r.update
  before : ∀ r ∈ g.reports,
    r.exposure < g.exposure ∨ (r.exposure = g.exposure ∧ r.update ≤ g.update)
  ordered : g.reports.Pairwise fun later earlier => earlier.exposure < later.exposure ∨
    (earlier.exposure = later.exposure ∧ earlier.update < later.update)
  every : ∀ k s, 1 ≤ k → 1 ≤ s → s ≤ N → k < g.exposure ∨ (k = g.exposure ∧ s ≤ g.update) →
    ∃ r ∈ g.reports, r.exposure = k ∧ r.update = s

theorem full_task {reply : Reply} {g : ImageTally} (hstay : w.pc.leavesImage = false)
    (hcount : w.pc = .waitStop → g.update = N) (hin : InStep w g) (hfull : Full N w g)
    (h : w.taskStep reply = some w') : Full N w' (w.takeTally (.task reply) w' g) := by
  unfold Full at hfull ⊢
  cases phaseStep_taskStep hstay h with
  | aside hto =>
    rw [hto]
    trivial
  | setUp hfrom hto hsame =>
    simp only [InStep, hfrom] at hin
    rw [takeTally_task (by rw [hfrom]; decide)]
    rcases hto with hto | hto <;> rw [hto]
    · trivial
    · exact Or.inl hin.2
  | enter hfrom hto _ _ | clear hfrom hto _ _ | again hfrom hto _ =>
    simp only [hfrom] at hfull
    rw [takeTally_task (by rw [hfrom]; decide), hto]
    exact hfull
  | prepare hfrom hto hsame =>
    rw [hfrom] at hfull
    have htally : w.takeTally (.task reply) w' g = g := if_neg (by rw [hfrom]; decide)
    rw [htally, hto]
    exact hfull
  | start hfrom hto hsame =>
    rw [hto]
    trivial
  | wait call hfrom hto hsame =>
    rw [hto]
    trivial
  | stop hfrom hto hsame =>
    rw [takeTally_task (by rw [hfrom]; decide), hto]
    exact Or.inr (hcount hfrom)

theorem reported_start {numSteps numExposures : Int} {g : ImageTally}
    (hfull : g.exposure = 0 ∨ g.update = N) (hw : Reported N numSteps numExposures g) :
    Reported N numSteps numExposures { g with exposure := g.exposure + 1, update := 0 } where
  exposure := hw.exposure
  update := hw.update
  progress := hw.progress
  before := by
    intro r hr
    have hbefore := hw.before r hr
    exact Or.inl (by change r.exposure < g.exposure + 1; omega)
  ordered := hw.ordered
  every := by
    intro k s hk hs hsN hplace
    apply hw.every k s hk hs hsN
    change k < g.exposure + 1 ∨ (k = g.exposure + 1 ∧ s ≤ 0) at hplace
    omega

theorem reported_update {numSteps numExposures announced acqNumSteps : Int} {g g' : ImageTally}
    (hlt : g.update < N) (hone : 1 ≤ g.exposure) (hle : (g.exposure : Int) ≤ numExposures)
    (hexposure : g'.exposure = g.exposure) (hupdate : g'.update = g.update + 1)
    (hreports : g'.reports =
      newReport numSteps numExposures announced acqNumSteps g :: g.reports)
    (hw : Reported N numSteps numExposures g) : Reported N numSteps numExposures g' where
  exposure := by
    rw [hreports, List.forall_mem_cons]
    exact ⟨⟨hone, hle⟩, hw.exposure⟩
  update := by
    rw [hreports, List.forall_mem_cons]
    exact ⟨⟨Nat.le_add_left 1 g.update, hlt⟩, hw.update⟩
  progress := by
    rw [hreports, List.forall_mem_cons]
    exact ⟨rfl, hw.progress⟩
  before := by
    rw [hreports, List.forall_mem_cons, hexposure, hupdate]
    refine ⟨Or.inr ⟨rfl, le_rfl⟩, ?_⟩
    intro r hr
    have hbefore := hw.before r hr
    omega
  ordered := by
    rw [hreports, List.pairwise_cons]
    refine ⟨?_, hw.ordered⟩
    intro r hr
    have hbefore := hw.before r hr
    change r.exposure < g.exposure ∨ (r.exposure = g.exposure ∧ r.update < g.update + 1)
    omega
  every := by
    intro k s hk hs hsN hplace
    rw [hexposure, hupdate] at hplace
    rw [hreports]
    by_cases hnew : k = g.exposure ∧ s = g.update + 1
    · exact ⟨_, List.mem_cons_self, hnew.1.symm, hnew.2.symm⟩
    · obtain ⟨r, hr, hrk, hrs⟩ := hw.every k s hk hs hsN (by omega)
      exact ⟨r, List.mem_cons_of_mem _ hr, hrk, hrs⟩

/-- What every step of an image keeps while the server sends `N` updates an exposure. -/
structure Progresses (N : ℕ) (numSteps numExposures : Int) (s : World × ImageTally) : Prop where
  tallies : Tallies numSteps numExposures s
  full : Full N s.1 s.2
  reported : Reported N numSteps numExposures s.2

theorem progresses_step {numSteps numExposures : Int} {s s' : World × ImageTally} {l : Label}
    (hw : Progresses N numSteps numExposures s) (hok : sendsEach N s l = true)
    (h : talliedStep base s l = some s') : Progresses N numSteps numExposures s' := by
  obtain ⟨hwithin, hcount⟩ := Bool.and_eq_true_iff.mp hok
  have htallies := tallies_step hw.tallies hwithin h
  obtain ⟨w, g⟩ := s
  obtain ⟨w', g'⟩ := s'
  have hin := hw.tallies.inStep
  rcases talliedStep_cases h with ⟨reply, rfl, hstep, rfl⟩ | ⟨settings, rfl, hstep, rfl⟩ |
    ⟨_, _, _, hpc, _, rfl⟩
  · have hstay : w.pc.leavesImage = false := by simpa [withinImage] using hwithin
    have hcount : w.pc = .waitStop → g.update = N := by
      intro hpc
      simpa [hpc] using hcount
    refine ⟨htallies, full_task hstay hcount hin hw.full hstep, ?_⟩
    by_cases hstart : w.pc = .call .start
    · rw [takeTally_start hstart]
      have hfull := hw.full
      simp only [Full, hstart] at hfull
      exact reported_start hfull hw.reported
    · have htally : w.takeTally (.task reply) w' g = g := if_neg hstart
      rw [htally]
      exact hw.reported
  · have hphase : w.pc.phase = .exposing := by simpa [withinImage] using hwithin
    have hlt : g.update < N := by simpa using hcount
    obtain ⟨_, hpc, _, hreports⟩ := tallies_update hphase hw.tallies hstep
    simp only [InStep, hphase] at hin
    obtain ⟨hexposure, hle, _, hone⟩ := hin
    refine ⟨htallies, ?_, ?_⟩
    · unfold Full
      rw [hpc, hphase]
      trivial
    · have hbound : (g.exposure : Int) ≤ numExposures := by
        rw [← hexposure, ← hw.tallies.numExposures]
        exact hle
      exact reported_update hlt hone hbound (Eq.refl g.exposure) (Eq.refl (g.update + 1))
        hreports hw.reported
  · refine ⟨htallies, ?_, hw.reported⟩
    have hfull := hw.full
    unfold Full at hfull ⊢
    rw [hpc]
    exact hfull

theorem progresses_startImage (w : World) :
    Progresses N (w.int .acqNumSteps) (w.int .adNumExposures) (w.startImage, {}) where
  tallies := tallies_startImage w
  full := by
    unfold Full
    rw [phase_startImage]
    trivial
  reported := by
    constructor
    case ordered => exact List.Pairwise.nil
    case every =>
      intro k s hk hs hsN hplace
      change k < 0 ∨ (k = 0 ∧ s ≤ 0) at hplace
      omega
    all_goals
      intro r hr
      cases hr

/-! ### The product of two shares -/

section Shares

variable {k s : ℕ} (hN : 1 ≤ N) (hE : 1 ≤ E)
include hN hE

theorem reportedProgress_eq (k s : ℕ) :
    reportedProgress N E k s = .finite (100 * s / N * k / E) := by
  have hsteps : ((N : Int) : ℚ) ≠ 0 := by exact_mod_cast (by omega : N ≠ 0)
  have hexposures : ((E : Int) : ℚ) ≠ 0 := by exact_mod_cast (by omega : E ≠ 0)
  unfold reportedProgress
  rw [Number.fdiv_of_ne hsteps, Number.bind, Number.fdiv_of_ne hexposures]
  rfl

/-- The product is the share of the updates in the first exposure and at the last step. -/
theorem share_iff : reportedProgress N E k s = .finite (100 * ((k - 1) * N + s) / (N * E)) ↔
    k = 1 ∨ s = N := by
  have hsteps : (N : ℚ) ≠ 0 := by exact_mod_cast (by omega : N ≠ 0)
  have hexposures : (E : ℚ) ≠ 0 := by exact_mod_cast (by omega : E ≠ 0)
  rw [reportedProgress_eq hN hE, Number.finite.injEq]
  have hproduct : (100 * (s : ℚ) / N * k / E = 100 * ((k - 1) * N + s) / (N * E)) ↔
      ((k : ℚ) - 1) * (s - N) = 0 := by
    field_simp
    constructor
    · intro h
      linarith
    · intro h
      linarith
  rw [hproduct, mul_eq_zero, sub_eq_zero, sub_eq_zero, Nat.cast_eq_one, Nat.cast_inj]

/-- The first report of an image tells whether the copied step count is the actual one. -/
theorem first_share_iff (numSteps : Int) :
    reportedProgress numSteps E 1 1 = .finite (100 * (((1 : ℕ) - 1) * N + (1 : ℕ)) / (N * E)) ↔
      numSteps = N := by
  have hsteps : (N : ℚ) ≠ 0 := by exact_mod_cast (by omega : N ≠ 0)
  have hexposures : (E : ℚ) ≠ 0 := by exact_mod_cast (by omega : E ≠ 0)
  by_cases hzero : numSteps = 0
  · subst hzero
    constructor
    · intro h
      cases h
    · intro h
      omega
  · have hcopied : (numSteps : ℚ) ≠ 0 := by exact_mod_cast hzero
    unfold reportedProgress
    rw [Number.fdiv_of_ne hcopied, Number.bind, Number.fdiv_of_ne (by exact_mod_cast hexposures),
      Number.finite.injEq]
    constructor
    · intro h
      push_cast at h
      field_simp at h
      have hcast : (N : ℚ) = numSteps := by linarith
      exact_mod_cast hcast.symm
    · intro h
      subst h
      push_cast
      field_simp
      ring

theorem product_range (hk : k ≤ E) (hs : s ≤ N) :
    0 ≤ 100 * (s : ℚ) / N * k / E ∧ 100 * (s : ℚ) / N * k / E ≤ 100 := by
  have hsteps : (0 : ℚ) < N := by exact_mod_cast hN
  have hexposures : (0 : ℚ) < E := by exact_mod_cast hE
  have hk : (k : ℚ) ≤ E := by exact_mod_cast hk
  have hs : (s : ℚ) ≤ N := by exact_mod_cast hs
  have hproduct : 100 * (s : ℚ) / N * k / E = 100 * (s / N) * (k / E) := by ring
  have hsN : (s : ℚ) / N ≤ 1 := (div_le_one hsteps).mpr hs
  have hkE : (k : ℚ) / E ≤ 1 := (div_le_one hexposures).mpr hk
  rw [hproduct]
  constructor
  · positivity
  · have hk0 : 0 ≤ (k : ℚ) / E := by positivity
    calc 100 * ((s : ℚ) / N) * (k / E) ≤ 100 * 1 * 1 := by gcongr
      _ = 100 := by norm_num

theorem product_full_iff (hk : k ≤ E) (hs : s ≤ N) :
    100 * (s : ℚ) / N * k / E = 100 ↔ k = E ∧ s = N := by
  have hsteps : (N : ℚ) ≠ 0 := by exact_mod_cast (by omega : N ≠ 0)
  have hexposures : (E : ℚ) ≠ 0 := by exact_mod_cast (by omega : E ≠ 0)
  have hproduct : 100 * (s : ℚ) / N * k / E = 100 ↔ s * k = N * E := by
    rw [← Nat.cast_inj (R := ℚ)]
    push_cast
    field_simp
  rw [hproduct]
  constructor
  · intro h
    have hk' : k = E := by
      by_contra hne
      have hlt : k < E := by omega
      have : s * k < N * E := by
        calc s * k ≤ N * k := Nat.mul_le_mul_right k hs
          _ < N * E := (Nat.mul_lt_mul_left (by omega)).mpr hlt
      omega
    subst hk'
    exact ⟨rfl, Nat.eq_of_mul_eq_mul_right hE h⟩
  · rintro ⟨rfl, rfl⟩
    rfl

end Shares

/-! ### One image -/

/-- The number of updates up to update `s` of exposure `k`. -/
theorem share_mono {k s k' s' : ℕ} (hs : s ≤ N) (hs' : 1 ≤ s')
    (hbefore : k < k' ∨ (k = k' ∧ s < s')) :
    ((k : ℚ) - 1) * N + s ≤ (k' - 1) * N + s' := by
  have hs : (s : ℚ) ≤ N := by exact_mod_cast hs
  rcases hbefore with hlt | ⟨rfl, hlt⟩
  · have hk : (k : ℚ) + 1 ≤ k' := by exact_mod_cast hlt
    have hN : (0 : ℚ) ≤ N := Nat.cast_nonneg N
    have hs' : (1 : ℚ) ≤ s' := by exact_mod_cast hs'
    have hproduct : (k : ℚ) * N ≤ (k' - 1) * N := by
      apply mul_le_mul_of_nonneg_right
      · linarith
      · exact hN
    linarith
  · have hlt : (s : ℚ) ≤ s' := by exact_mod_cast hlt.le
    linarith

/-- With a correct estimate and one exposure, or one step in each, the reports keep the law. -/
theorem progressLaw_of_reported {g : ImageTally} (hN : 1 ≤ N) (hE : 1 ≤ E)
    (hw : Reported N N E g) (hone : E = 1 ∨ N = 1) : ProgressLaw N E g.reports := by
  have hvalue : ∀ r ∈ g.reports, r.exposure ≤ E ∧ r.update ≤ N ∧
      r.acqProgress = .finite (100 * r.update / N * r.exposure / E) := by
    intro r hr
    obtain ⟨_, hk⟩ := hw.exposure r hr
    refine ⟨by exact_mod_cast hk, (hw.update r hr).2, ?_⟩
    rw [hw.progress r hr, reportedProgress_eq hN hE]
  have hshare : ∀ r ∈ g.reports,
      r.acqProgress = .finite (100 * ((r.exposure - 1) * N + r.update) / (N * E)) := by
    intro r hr
    obtain ⟨hk, _⟩ := hw.exposure r hr
    obtain ⟨hs, hsN⟩ := hw.update r hr
    have hkE := (hvalue r hr).1
    rw [hw.progress r hr]
    apply (share_iff hN hE).mpr
    omega
  refine ⟨hshare, ?_, ?_, ?_⟩
  · intro r hr
    obtain ⟨hk, hs, hprogress⟩ := hvalue r hr
    exact ⟨_, hprogress, product_range hN hE hk hs⟩
  · apply hw.ordered.imp_of_mem
    intro later earlier hlater hearlier hbefore
    refine ⟨_, _, hshare earlier hearlier, hshare later hlater, ?_⟩
    have hmono := share_mono (hw.update earlier hearlier).2 (hw.update later hlater).1 hbefore
    have hpositive : (0 : ℚ) < N * E := by positivity
    gcongr
  · intro r hr
    obtain ⟨hk, hs, hprogress⟩ := hvalue r hr
    rw [hprogress, Number.finite.injEq]
    exact product_full_iff hN hE hk hs

/-- In a complete image of `N` updates for each of `E` exposures, `AcqProgress` keeps its law if and
only if the image began with the actual step count in `AcqNumSteps`, and there is only one exposure
or only one step in each. -/
theorem progressLaw_iff {s : World × ImageTally} (hN : 1 ≤ N) (hE : 1 ≤ E)
    (hexposures : w.int .adNumExposures = E)
    (hrun : Run (talliedStep base) (fun s l => sendsEach N s l = true) (w.startImage, {}) s)
    (hexposure : s.2.exposure = E) (hupdate : s.2.update = N) :
    ProgressLaw N E s.2.reports ↔ w.int .acqNumSteps = N ∧ (E = 1 ∨ N = 1) := by
  have hw : Progresses N (w.int .acqNumSteps) (w.int .adNumExposures) s :=
    hrun.invariant (fun _ _ _ ha hok hs => progresses_step ha hok hs) (progresses_startImage w)
  have hreported := hw.reported
  rw [hexposures] at hreported
  constructor
  · intro hlaw
    obtain ⟨first, hfirst, hk, hs⟩ := hreported.every 1 1 le_rfl le_rfl hN (by omega)
    have hsteps : w.int .acqNumSteps = N := by
      have hshare := hlaw.share first hfirst
      rw [hreported.progress first hfirst, hk, hs] at hshare
      exact (first_share_iff hN hE _).mp hshare
    refine ⟨hsteps, ?_⟩
    by_cases hone : E = 1
    · exact Or.inl hone
    · obtain ⟨next, hnext, hk, hs⟩ := hreported.every 2 1 (by omega) le_rfl hN (by omega)
      have hshare := hlaw.share next hnext
      rw [hreported.progress next hnext, hk, hs, hsteps] at hshare
      have hcases := (share_iff hN hE).mp hshare
      omega
  · intro h
    obtain ⟨hsteps, hone⟩ := h
    rw [hsteps] at hreported
    exact progressLaw_of_reported hN hE hreported hone

/-- A connected driver at rest that sweeps the energy and expects a number of steps. -/
def expecting (numSteps numExposures : Int) : World :=
  ((atRest adImageSingle 1 numExposures 0).setIntegerParam .analyserAcquisitionMode 1).setIntegerParam
    .acqNumSteps numSteps

theorem expecting_initial (numSteps numExposures : Int) :
    Initial (expecting numSteps numExposures) := by
  constructor <;> rfl

/-- From the begin of a first image to the wait for its first exposure. -/
def firstStart : List Label := .replicate 19 (.task .ok)

/-- An exposure with updates that announce a number of steps, and its end. -/
def exposureOf (updates : Nat) (announced : Int) (index : Nat) : List Label :=
  .replicate updates (.spectrumUpdate
    { requestedX := ⟨0, 0, 0, 0, 0⟩, requestedY := ⟨0, 0, 0, 0, 0⟩, acquiredX := some announced }) ++
    [.exposureEnd .normal, .notify index false]

/-- From the end of an exposure to the wait for the next one. -/
def nextStart : List Label := .replicate 7 (.task .ok)

theorem progressLaw_two_exposures :
    ∃ s, Run (talliedStep (.store 8)) (fun s l => sendsEach 1 s l = true)
        (((expecting 1 2).setIntegerParam .adAcquire 1).startImage, {}) s ∧
      s.2.reports.length = 2 ∧ ProgressLaw 1 2 s.2.reports := by
  have hreach : reaches (talliedStep (.store 8)) (fun s l => sendsEach 1 s l = true)
      (((expecting 1 2).setIntegerParam .adAcquire 1).startImage, {})
      (firstStart ++ exposureOf 1 1 1 ++ nextStart ++ exposureOf 1 1 2)
      (fun s => s.2.exposure = 2 && s.2.update = 1 && s.2.reports.length = 2) = true := by
    decide +kernel
  obtain ⟨s, hrun, hs⟩ := run_of_reaches hreach
  simp only [Bool.and_eq_true, decide_eq_true_eq] at hs
  obtain ⟨⟨hexposure, hupdate⟩, hlength⟩ := hs
  exact ⟨s, hrun, hlength, (progressLaw_iff (by decide) (by decide) rfl hrun hexposure hupdate).mpr
    ⟨rfl, Or.inr rfl⟩⟩

/-- Three steps in each of two exposures: 50 at the end of the first exposure, and a third of 100
after the first update of the second. -/
theorem progress_falls_back :
    Initial (expecting 3 2) ∧
    ∃ w, Run (step (.store 8)) always (expecting 3 2) w ∧ w.pc = .woken ∧
      ∃ s, Run (talliedStep (.store 8)) (fun s l => sendsEach 3 s l = true)
          (w.weAreAcquiring.startImage, {}) s ∧
        s.2.exposure = 2 ∧ s.2.update = 3 ∧ ¬ ProgressLaw 3 2 s.2.reports := by
  have hreach : reaches (step (.store 8)) always (expecting 3 2)
      [.task .ok, .write .adAcquire 1 .raised, .task .ok] (fun w => w.pc = .woken &&
        reaches (talliedStep (.store 8)) (fun s l => sendsEach 3 s l = true)
          (w.weAreAcquiring.startImage, {})
          (firstStart ++ exposureOf 3 3 1 ++ nextStart ++ exposureOf 3 3 2)
          (fun s => s.2.exposure = 2 && s.2.update = 3 && s.2.reports.any fun r =>
            r.acqProgress ≠ .finite (100 * ((r.exposure - 1) * 3 + r.update) / (3 * 2)))) = true := by
    decide +kernel
  obtain ⟨w, hrun, hw⟩ := run_of_reaches hreach
  obtain ⟨hpc, himage⟩ := Bool.and_eq_true_iff.mp hw
  obtain ⟨s, himage, hs⟩ := run_of_reaches himage
  simp only [Bool.and_eq_true, decide_eq_true_eq] at hs
  obtain ⟨⟨hexposure, hupdate⟩, hreports⟩ := hs
  refine ⟨expecting_initial 3 2, w, hrun, by simpa using hpc, s, himage, hexposure, hupdate, ?_⟩
  intro hlaw
  obtain ⟨r, hr, hne⟩ := List.any_eq_true.mp hreports
  have hshare := hlaw.share r hr
  push_cast at hshare
  exact absurd hshare (by simpa using hne)

end World

end PeakAnalyser
