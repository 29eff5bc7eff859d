import Mathlib.Tactic.FieldSimp
import PeakAnalyser.Selections

/-!
# The estimated acquisition time

`setupSpectrumDefinition` computes `AcqETA` from the wall clock time that the server
answers; a write of `ADNumExposures` only rescales it. The last answer is recorded
beside the driver, which itself keeps nothing but the product.
-/

namespace PeakAnalyser

set_option autoImplicit false

open Runs

/-- The base class has no part in the estimated time, which is a parameter of the driver. -/
def ADDriver.KeepsETA (base : ADDriver) : Prop :=
  (∀ p f value, (base.writeInt32 p f value).acqETA = p.acqETA) ∧
    ∀ p f value, (base.writeFloat64 p f value).acqETA = p.acqETA

namespace Driver

variable {d d' : Driver}

def Write.reply : Write → AdjustReply
  | .int _ _ reply => reply
  | .float _ _ reply => reply

/-- A write that calls `AdjustSpectrumDefinition`: it comes to `setupSpectrumDefinition`, and this
does not return early. -/
def asks (d : Driver) (w : Write) : Bool := (d.prepared w).any fun p => !p.returnsEarly

/-- The wall clock time in the reply to a write, if it has asked and the reply has succeeded. -/
def answered (d : Driver) (w : Write) : Option ℚ :=
  if d.asks w then
    match w.reply with
    | .adjusted _ wallClockTime => some wallClockTime
    | .raised => none
  else none

/-! ### What a rebuild does to the estimated time -/

/-- The parts of the driver that the estimated time is made of. -/
structure SameTime (d d' : Driver) : Prop where
  acqETA : d'.acqETA = d.acqETA
  numExposures : d'.int .adNumExposures = d.int .adNumExposures

theorem SameTime.trans {d₁ d₂ d₃ : Driver} (h : SameTime d₁ d₂) (h' : SameTime d₂ d₃) :
    SameTime d₁ d₃ :=
  ⟨h'.acqETA.trans h.acqETA, h'.numExposures.trans h.numExposures⟩

theorem sameTime_setIntegerParam {f : IntParam} (value : Int) (hf : f ≠ .adNumExposures) :
    SameTime d (d.setIntegerParam f value) :=
  ⟨rfl, by simp [hf.symm]⟩

theorem sameTime_setPassEnergy (passEnergy : ℚ) : SameTime d (d.setPassEnergy passEnergy) := by
  refine ⟨?_, int_setPassEnergy passEnergy rfl⟩
  unfold setPassEnergy
  split <;> rfl

theorem sameTime_limitChannels {f : IntParam} (size : IntParam) (value : Int)
    (hf : f ≠ .adNumExposures) : SameTime d (d.limitChannels f size value) := by
  unfold limitChannels
  split
  · exact sameTime_setIntegerParam _ hf
  · split
    · exact sameTime_setIntegerParam _ hf
    · exact ⟨rfl, rfl⟩

theorem sameTime_setROI : SameTime d (d.withParams d.toParams.setROI) := by
  refine ⟨?_, Params.int_setROI rfl⟩
  unfold withParams Params.setROI
  dsimp only
  split <;> split <;> rfl

theorem sameTime_centered (center low high : FloatParam) (value : ℚ) (swept : Bool) :
    SameTime d (d.centered center low high value swept) := by
  unfold centered
  dsimp only
  split <;> exact ⟨rfl, rfl⟩

/-- The estimated time after a rebuild: that of the reply, if the server was asked. -/
theorem setup_time {reply : AdjustReply} (h : d.setupSpectrumDefinition reply = some d') :
    d'.int .adNumExposures = d.int .adNumExposures ∧
      (d.returnsEarly = true ∨ reply = .raised → d'.acqETA = d.acqETA) ∧
      ∀ settings wallClockTime, reply = .adjusted settings wallClockTime →
        d.returnsEarly = false →
        d'.acqETA = .finite (wallClockTime * d.int .adNumExposures) := by
  refine ⟨int_setupSpectrumDefinition rfl h, ?_⟩
  unfold setupSpectrumDefinition at h
  split at h
  · rename_i hrange
    obtain rfl := Option.some.inj h
    refine ⟨fun _ => rfl, fun _ _ _ hnew => ?_⟩
    rw [returnsEarly, hrange, Bool.true_or] at hnew
    cases hnew
  · rename_i hrange
    obtain ⟨requested, _, h⟩ := Option.bind_eq_some_iff.mp h
    obtain ⟨lens, _, h⟩ := Option.bind_eq_some_iff.mp h
    obtain ⟨elementSet, _, h⟩ := Option.bind_eq_some_iff.mp h
    obtain ⟨detectorMode, _, h⟩ := Option.bind_eq_some_iff.mp h
    obtain ⟨passEnergy, _, h⟩ := Option.bind_eq_some_iff.mp h
    obtain ⟨halike, -, -⟩ := setPassEnergy_cases d (clamp requested lens.passEnergyRange)
    obtain ⟨hlabels, -, -⟩ := labelled_cases
      (d.setPassEnergy (clamp requested lens.passEnergyRange)) elementSet lens.name detectorMode
      passEnergy
    have hearly := (halike.trans hlabels).refused
    have htime : SameTime d (d.setPassEnergy (clamp requested lens.passEnergyRange)) :=
      sameTime_setPassEnergy _
    have hreturns : d.returnsEarly = d.energyRefused := by
      rw [returnsEarly, Bool.eq_false_of_not_eq_true hrange, Bool.false_or]
    rw [hreturns, ← hearly]
    dsimp only at h
    split at h
    · rename_i hrefused
      obtain rfl := Option.some.inj h
      refine ⟨fun _ => htime.acqETA, fun _ _ _ hnew => ?_⟩
      rw [hrefused] at hnew
      cases hnew
    · rename_i hrefused
      obtain rfl := Option.some.inj h
      constructor
      · intro hraised
        rcases hraised with hraised | rfl
        · exact absurd hraised hrefused
        · exact htime.acqETA
      · rintro settings wallClockTime rfl -
        have hcount := htime.numExposures
        simp only [adjusted, withParams, Params.setETA]
        rw [← hcount]
        rfl

/-! ### What a write does to it -/

/-- The outcome of a write, apart from the rescaling: it asks nothing, or leaves the time to
`setupSpectrumDefinition`. -/
def Asks (d : Driver) (prepared outcome : Option Driver) (reply : AdjustReply) : Prop :=
  (prepared = none ∧ ∀ d', outcome = some d' → SameTime d d') ∨
    ∃ p, ∃ finish : Driver → Driver, prepared = some p ∧ SameTime d p ∧
      (∀ e, SameTime e (finish e)) ∧ outcome = (p.setupSpectrumDefinition reply).map finish

theorem asks_none {reply : AdjustReply} (h : SameTime d d') : Asks d none (some d') reply := by
  refine Or.inl ⟨rfl, fun e he => ?_⟩
  obtain rfl := Option.some.inj he
  exact h

theorem asks_setup {p : Driver} (h : SameTime d p) (reply : AdjustReply) :
    Asks d (some p) (p.setupSpectrumDefinition reply) reply := by
  refine Or.inr ⟨p, id, rfl, h, fun e => ⟨rfl, rfl⟩, ?_⟩
  rw [Option.map_id]
  rfl

theorem asks_writeInt32 {base : ADDriver} (hbase : base.KeepsETA) {f : IntParam}
    (hf : f ≠ .adNumExposures) (value : Int) (reply : AdjustReply) :
    Asks d (d.prepared (.int f value reply)) (d.write base (.int f value reply)) reply := by
  have hset : SameTime d (d.setIntegerParam f value) := sameTime_setIntegerParam value hf
  have hrefused : ∀ text, SameTime d
      (((d.setIntegerParam f value).report text).setIntegerParam f (d.int f)) := by
    intro text
    have hreport : SameTime d ((d.setIntegerParam f value).report text) := hset.trans ⟨rfl, rfl⟩
    exact hreport.trans (sameTime_setIntegerParam _ hf)
  have hstored : SameTime d ((d.setIntegerParam f value).withParams
      (base.writeInt32 (d.setIntegerParam f value).toParams f value)) := by
    apply hset.trans
    refine ⟨hbase.1 _ _ _, ?_⟩
    exact base.writeInt32_int _ f value _ hf.symm (by simp)
  cases f
  case adNumExposures => exact absurd rfl hf
  case adMinX | adMinY | adSizeX | adSizeY =>
    simp only [write, writeInt32, map_fst_none, prepared]
    exact asks_setup (hset.trans sameTime_setROI) reply
  case energyMode =>
    refine Or.inr ⟨_, fun e => e.setStringParam .energyModeStr
      (if value ≠ 0 then "Binding" else "Kinetic"), rfl, hset, fun e => ⟨rfl, rfl⟩, ?_⟩
    simp only [write, writeInt32, Option.map_map]
    rfl
  case analyserAcquisitionMode =>
    simp only [write, writeInt32, map_fst_none, prepared, writeAcquisitionMode, Option.bind_eq_bind]
    split
    · cases at? (d.setIntegerParam .analyserAcquisitionMode value).lensModes
          ((d.setIntegerParam .analyserAcquisitionMode value).int .lensMode) with
      | none => exact Or.inl ⟨rfl, fun _ h => by cases h⟩
      | some lens =>
        simp only [Option.bind_some]
        split
        · exact asks_setup hset reply
        · exact asks_none (hrefused _)
    · exact asks_setup hset reply
  case detectorChannels =>
    have hlimited := hset.trans (sameTime_limitChannels .adSizeX value hf)
    simp only [write, writeInt32, map_fst_none, prepared, writeDetectorChannels]
    split
    · exact asks_none hlimited
    · exact asks_setup hlimited reply
  case detectorSlices =>
    simp only [write, writeInt32, map_fst_none, prepared, writeDetectorSlices]
    exact asks_setup (hset.trans (sameTime_limitChannels .adSizeY value hf)) reply
  case lensMode =>
    simp only [write, writeInt32, map_fst_none, prepared, writeLensMode, Option.bind_eq_bind]
    split
    · cases at? (d.setIntegerParam .lensMode value).lensModes value with
      | none => exact Or.inl ⟨rfl, fun _ h => by cases h⟩
      | some lens =>
        simp only [Option.bind_some]
        split
        · exact asks_none (hrefused _)
        · apply asks_setup
          have hslice := hset.trans (sameTime_setIntegerParam
            (f := .analyserWithSlice) (if lens.hasXDeflection then 1 else 0) (by simp))
          exact hslice.trans (sameTime_setIntegerParam _ (by simp))
    · exact asks_none (hrefused _)
  case passEnergy =>
    simp only [write, writeInt32, map_fst_none, prepared, writePassEnergy]
    split
    · exact asks_setup hset reply
    · exact asks_none (hrefused _)
  case ndDataType | ndColorMode => exact asks_none (hset.trans (sameTime_setIntegerParam _ hf))
  all_goals
    first
      | exact asks_none hstored
      | exact asks_none hset

theorem asks_writeFloat64 {base : ADDriver} (hbase : base.KeepsETA) (f : FloatParam) (value : ℚ)
    (reply : AdjustReply) :
    Asks d (d.prepared (.float f value reply)) (d.write base (.float f value reply)) reply := by
  have hset : SameTime d (d.setDoubleParam f value) := ⟨rfl, rfl⟩
  have hrequest : SameTime d ((d.setDoubleParam f value).request f value) := ⟨rfl, rfl⟩
  cases f
  case excitationEnergy | workFunction =>
    simp only [write, writeFloat64, prepared]
    split
    · exact asks_setup hset reply
    · exact asks_none hset
  case focalPositionX | focalPositionY | focalPositionZ | adAcquireTime =>
    exact asks_setup hset reply
  case analyserCenterSlice => exact asks_setup hrequest reply
  case analyserHighEnergy | analyserLowEnergy | analyserEnergyStep | analyserHighAngleY |
      analyserLowAngleY | analyserAngleYStep =>
    simp only [write, writeFloat64, writeRange, prepared]
    split
    · exact asks_setup hrequest reply
    · exact asks_none ⟨rfl, rfl⟩
  case analyserCenterEnergy | analyserCenterAngleY =>
    exact asks_setup (hset.trans (sameTime_centered _ _ _ _ _)) reply
  case otherBase i =>
    apply asks_none
    refine ⟨hbase.2 _ _ _, ?_⟩
    exact base.writeFloat64_int _ _ value _ (by simp)
  all_goals exact asks_none hset

/-! ### Runs -/

/-- A driver, and the wall clock time of the last reply that has succeeded. -/
structure Timed where
  driver : Driver
  wallClockTime : Option ℚ := none

def Timed.step (base : ADDriver) (t : Timed) (w : Write) : Option Timed :=
  (t.driver.write base w).map fun d =>
    ⟨d, (t.driver.answered w).or t.wallClockTime⟩

/-- The record of the number of exposures has 1 as its lowest value. -/
def Timed.exposesAtLeastOnce (_ : Timed) : Write → Prop
  | .int function value _ => function = .adNumExposures → 1 ≤ value
  | .float _ _ _ => True

instance (t : Timed) : DecidablePred t.exposesAtLeastOnce
  | .int function value _ => inferInstanceAs (Decidable (function = .adNumExposures → 1 ≤ value))
  | .float _ _ _ => .isTrue trivial

/-- The estimated time is the product, and dividing by the number of exposures is defined. -/
structure Timed.Agrees (t : Timed) : Prop where
  positive : 1 ≤ t.driver.int .adNumExposures
  product : ∀ wallClockTime, t.wallClockTime = some wallClockTime →
    t.driver.acqETA = .finite (wallClockTime * t.driver.int .adNumExposures)

theorem acqETA_rescaleETA {wallClockTime : ℚ} {oldValue value : Int} (hold : 1 ≤ oldValue)
    (h : d.acqETA = .finite (wallClockTime * oldValue)) :
    (d.rescaleETA oldValue value).acqETA = .finite (wallClockTime * value) := by
  have hne : (oldValue : ℚ) ≠ 0 := by
    rw [Ne, Int.cast_eq_zero]
    omega
  unfold rescaleETA
  rw [h]
  simp only [Number.bind, Number.fdiv_of_ne hne, Number.map, withParams, Params.setETA]
  rw [mul_div_assoc, div_self hne, mul_one]

theorem Timed.Agrees.rescaled {t : Timed} (h : t.Agrees) {value : Int} (hvalue : 1 ≤ value) :
    Timed.Agrees ⟨(t.driver.setIntegerParam .adNumExposures value).rescaleETA
      (t.driver.int .adNumExposures) value, t.wallClockTime⟩ := by
  have hcount : ((t.driver.setIntegerParam .adNumExposures value).rescaleETA
      (t.driver.int .adNumExposures) value).int .adNumExposures = value := by
    simp
  refine ⟨by rw [hcount]; exact hvalue, fun wallClockTime hlast => ?_⟩
  rw [hcount]
  exact acqETA_rescaleETA h.positive (h.product wallClockTime hlast)

theorem Timed.Agrees.sameTime {t : Timed} (h : t.Agrees) (hsame : SameTime t.driver d') :
    Timed.Agrees ⟨d', t.wallClockTime⟩ := by
  refine ⟨?_, fun wallClockTime hlast => ?_⟩
  · rw [hsame.numExposures]
    exact h.positive
  · rw [hsame.acqETA, hsame.numExposures]
    exact h.product wallClockTime hlast

/-- A write other than that of the number of exposures. -/
theorem Timed.Agrees.asked {t : Timed} {w : Write} {outcome : Option Driver} (h : t.Agrees)
    (hasks : Asks t.driver (t.driver.prepared w) outcome w.reply) (hd' : outcome = some d') :
    Timed.Agrees ⟨d', (t.driver.answered w).or t.wallClockTime⟩ := by
  rcases hasks with ⟨hnone, hsame⟩ | ⟨p, finish, hp, hsame, hfinish, hsetup⟩
  · have hanswered : t.driver.answered w = none := by
      simp [answered, asks, hnone]
    rw [hanswered, Option.none_or]
    exact h.sameTime (hsame d' hd')
  · rw [hsetup] at hd'
    obtain ⟨e, he, rfl⟩ := Option.map_eq_some_iff.mp hd'
    obtain ⟨hcount, hkept, hset⟩ := setup_time he
    have hasks : t.driver.asks w = !p.returnsEarly := by
      simp [asks, hp]
    have hunasked (hstays : p.returnsEarly = true ∨ w.reply = .raised)
        (hanswered : t.driver.answered w = none) :
        Timed.Agrees ⟨finish e, (t.driver.answered w).or t.wallClockTime⟩ := by
      rw [hanswered, Option.none_or]
      have hetas : SameTime p e := ⟨hkept hstays, hcount⟩
      exact h.sameTime (hsame.trans (hetas.trans (hfinish e)))
    cases hearly : p.returnsEarly with
    | true => exact hunasked (Or.inl hearly) (by simp [answered, hasks, hearly])
    | false =>
      cases hreply : w.reply with
      | raised => exact hunasked (Or.inr hreply) (by simp [answered, hreply])
      | adjusted settings wallClockTime =>
        have hanswered : t.driver.answered w = some wallClockTime := by
          simp [answered, hasks, hearly, hreply]
        have hnumExposures : (finish e).int .adNumExposures = p.int .adNumExposures :=
          ((hfinish e).numExposures).trans hcount
        rw [hanswered, Option.some_or]
        refine ⟨?_, fun last hlast => ?_⟩
        · rw [hnumExposures, hsame.numExposures]
          exact h.positive
        · obtain rfl := Option.some.inj hlast
          rw [(hfinish e).acqETA, hset settings wallClockTime hreply hearly, hnumExposures]

theorem Timed.Agrees.step {base : ADDriver} (hbase : base.KeepsETA) {t t' : Timed} {w : Write}
    (h : t.Agrees) (hw : t.exposesAtLeastOnce w) (hstep : t.step base w = some t') : t'.Agrees := by
  obtain ⟨d', hwrite, rfl⟩ := Option.map_eq_some_iff.mp hstep
  cases w with
  | float f value reply => exact h.asked (asks_writeFloat64 hbase f value reply) hwrite
  | int f value reply =>
    by_cases hf : f = .adNumExposures
    · subst hf
      obtain rfl := Option.some.inj hwrite
      exact h.rescaled (hw rfl)
    · exact h.asked (asks_writeInt32 hbase hf value reply) hwrite

/-- Over every history of writes and replies, the estimated time is the wall clock time of the last
successful reply times the number of exposures, from the first such reply on. -/
theorem eta_eq_wallClockTime_mul {base : ADDriver} (hbase : base.KeepsETA) {d₀ : Driver} {t : Timed}
    (hstart : 1 ≤ d₀.int .adNumExposures)
    (hrun : Run (Timed.step base) Timed.exposesAtLeastOnce ⟨d₀, none⟩ t) :
    ∀ wallClockTime, t.wallClockTime = some wallClockTime →
      t.driver.acqETA = .finite (wallClockTime * t.driver.int .adNumExposures) := by
  have hagrees : t.Agrees := by
    refine hrun.invariant (fun a w b ha hw hstep => ha.step hbase hw hstep) ?_
    exact ⟨hstart, fun _ hnone => by cases hnone⟩
  exact hagrees.product

theorem store_keepsETA (ndFloat32 : Int) : (ADDriver.store ndFloat32).KeepsETA :=
  ⟨fun _ _ _ => rfl, fun _ _ _ => rfl⟩

/-- A driver that is initialised for one exposure. -/
def singleExposure : Driver := unconnected.setIntegerParam .adNumExposures 1

/-- The reply to the second write has a wall clock time of 30 seconds, that to the last fails. -/
def exposureWrites : List Write :=
  let axis : Axis := ⟨1, 1, 10, 5, 10⟩
  [.int .adNumExposures 4 .raised, .float .adAcquireTime 2 (.adjusted ⟨axis, axis, none, none, none⟩ 30),
    .int .adNumExposures 10 .raised, .float .focalPositionX 1 .raised]

theorem eta_eq_wallClockTime_mul_ten :
    ∃ d₀ t, singleExposure.connectAnalyser smallAnalyser .raised = some d₀ ∧
      Run (Timed.step (.store 8)) Timed.exposesAtLeastOnce ⟨d₀, none⟩ t ∧
      t.driver.int .adNumExposures = 10 ∧
      t.driver.acqETA = .finite (30 * t.driver.int .adNumExposures) := by
  have hreach : (singleExposure.connectAnalyser smallAnalyser .raised).any fun d₀ =>
      decide (1 ≤ d₀.int .adNumExposures) &&
      reaches (Timed.step (.store 8)) Timed.exposesAtLeastOnce ⟨d₀, none⟩ exposureWrites fun t =>
        decide (t.driver.int .adNumExposures = 10) && decide (t.wallClockTime = some 30) := by
    decide +kernel
  obtain ⟨d₀, hconnect, hwrites⟩ := (Option.any_eq_true _ _).mp hreach
  obtain ⟨hstart, hrest⟩ := Bool.and_eq_true_iff.mp hwrites
  obtain ⟨t, hrun, hend⟩ := run_of_reaches hrest
  obtain ⟨hcount, hlast⟩ := Bool.and_eq_true_iff.mp hend
  have hproduct := eta_eq_wallClockTime_mul (store_keepsETA 8) (of_decide_eq_true hstart) hrun
  exact ⟨d₀, t, hconnect, hrun, of_decide_eq_true hcount, hproduct 30 (of_decide_eq_true hlast)⟩

end Driver

end PeakAnalyser
