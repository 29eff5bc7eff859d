import PeakAnalyser.Selections

/-!
# Lens modes without ThetaY

A sweep of ThetaY needs a lens mode with a y deflection. `writeInt32` checks this
from both sides: a write of the acquisition mode against the lens mode, and a write
of the lens mode against the acquisition mode.
-/

namespace PeakAnalyser

set_option autoImplicit false

open Runs

/-- The parameters of which the two checks speak. -/
def IntParam.concernsLens : IntParam → Bool
  | .lensMode | .analyserAcquisitionMode | .analyserWithSlice | .analyserWithAngleY => true
  | _ => false

theorem IntParam.isSelection_of_concernsLens {q : IntParam} (hq : q.concernsLens = true) :
    q.isSelection = true := by
  cases q <;> first | rfl | cases hq

theorem IntParam.not_readback_of_concernsLens {q : IntParam} (hq : q.concernsLens = true) :
    q.isReadback = false ∧ q ≠ .passEnergy := by
  constructor
  · cases q <;> first | rfl | cases hq
  · rintro rfl
    cases hq

namespace Driver

variable {d d' : Driver}

def currentLens (d : Driver) : Option LensModeSetting := at? d.lensModes (d.int .lensMode)

/-- A sweep of ThetaY is selected for a lens mode with a y deflection only. -/
def ModeSupported (d : Driver) : Prop :=
  sweepsAngleY (d.int .analyserAcquisitionMode) = true →
    ∃ lens, d.currentLens = some lens ∧ lens.hasYDeflection = true

/-- The two flags are those of the lens mode. -/
def ShowsFlags (d : Driver) (lens : LensModeSetting) : Prop :=
  d.int .analyserWithSlice = (if lens.hasXDeflection then 1 else 0) ∧
    d.int .analyserWithAngleY = (if lens.hasYDeflection then 1 else 0)

/-- The definition asks for a sweep of ThetaY only with the name of a lens mode that has it. -/
def SweepSupported (d : Driver) : Prop :=
  d.spectrumDefinition.sweepZ.isSome = true →
    ∃ lens ∈ d.lensModes, lens.name = d.spectrumDefinition.lensModeName ∧
      lens.hasYDeflection = true

/-- Nothing that the two checks speak of has changed. -/
structure KeepsLens (d d' : Driver) : Prop where
  lensModes : d'.lensModes = d.lensModes
  int : ∀ q, q.concernsLens = true → d'.int q = d.int q

theorem KeepsLens.refl (d : Driver) : KeepsLens d d := ⟨rfl, fun _ _ => rfl⟩

theorem KeepsLens.trans {d₁ d₂ d₃ : Driver} (h : KeepsLens d₁ d₂) (h' : KeepsLens d₂ d₃) :
    KeepsLens d₁ d₃ :=
  ⟨h'.lensModes.trans h.lensModes, fun q hq => (h'.int q hq).trans (h.int q hq)⟩

theorem Spares.keepsLens (h : Spares d d') : KeepsLens d d' :=
  ⟨h.lensModes, fun q hq => h.int q (IntParam.isSelection_of_concernsLens hq)⟩

theorem keepsLens_setIntegerParam {f : IntParam} (value : Int) (hf : f.concernsLens = false) :
    KeepsLens d (d.setIntegerParam f value) := by
  refine ⟨rfl, fun q hq => ?_⟩
  have hne : q ≠ f := by
    rintro rfl
    rw [hf] at hq
    cases hq
  simp [hne]

theorem KeepsLens.currentLens (h : KeepsLens d d') : d'.currentLens = d.currentLens := by
  unfold Driver.currentLens
  rw [h.lensModes, h.int _ rfl]

theorem KeepsLens.modeSupported (h : KeepsLens d d') (hd : ModeSupported d) : ModeSupported d' := by
  intro hswept
  rw [h.int _ rfl] at hswept
  obtain ⟨lens, hlens, hY⟩ := hd hswept
  exact ⟨lens, h.currentLens.trans hlens, hY⟩

theorem KeepsLens.showsFlags {lens : LensModeSetting} (h : KeepsLens d d') (hd : ShowsFlags d lens) :
    ShowsFlags d' lens := by
  obtain ⟨hslice, hangleY⟩ := hd
  exact ⟨(h.int _ rfl).trans hslice, (h.int _ rfl).trans hangleY⟩

theorem sweepSupported_of_eq (hdefinition : d'.spectrumDefinition = d.spectrumDefinition)
    (hlenses : d'.lensModes = d.lensModes) (hd : SweepSupported d) : SweepSupported d' := by
  intro hsome
  rw [hdefinition] at hsome
  obtain ⟨lens, hmem, hname, hY⟩ := hd hsome
  refine ⟨lens, ?_, ?_, hY⟩
  · rw [hlenses]
    exact hmem
  · rw [hdefinition]
    exact hname

/-! ### A rebuild -/

theorem keepsLens_setup {reply : AdjustReply} (h : d.setupSpectrumDefinition reply = some d') :
    KeepsLens d d' := by
  refine ⟨setup_lensModes h, fun q hq => ?_⟩
  obtain ⟨hread, hpass⟩ := IntParam.not_readback_of_concernsLens hq
  exact int_setup hread hpass h

/-- The definition of a rebuild asks for a sweep of ThetaY only if the acquisition mode does. -/
theorem sweepSupported_setup {reply : AdjustReply} (hmode : ModeSupported d)
    (hsweep : SweepSupported d) (h : d.setupSpectrumDefinition reply = some d') :
    SweepSupported d' := by
  have hlenses := setup_lensModes h
  obtain ⟨-, rfl⟩ | ⟨lens, elementSet, detectorMode, requested, passEnergy, hselected, -, -,
    hdefinition⟩ := setup_cases h
  · exact hsweep
  · rw [hselected.rebuilt] at hdefinition
    by_cases hrefused : d.energyRefused = true
    · rw [if_pos hrefused] at hdefinition
      exact sweepSupported_of_eq hdefinition hlenses hsweep
    · rw [if_neg hrefused, Option.getD_some] at hdefinition
      intro hsome
      rw [hdefinition] at hsome ⊢
      have hswept : sweepsAngleY (d.int .analyserAcquisitionMode) = true := by
        by_contra hno
        simp [filledDefinition, hno] at hsome
      obtain ⟨current, hcurrent, hY⟩ := hmode hswept
      have heq : current = lens := Option.some.inj (hcurrent.symm.trans hselected.hlens)
      rw [heq] at hY
      refine ⟨lens, ?_, rfl, hY⟩
      rw [hlenses]
      exact at?_mem hselected.hlens

/-! ### What a write does -/

/-- The definition of `d'` is that of `d`, or a rebuild of it. -/
def Rebuilds (d d' : Driver) : Prop :=
  d' = d ∨ ∃ reply e, d.setupSpectrumDefinition reply = some e ∧ Spares e d'

theorem Rebuilds.keepsLens (h : Rebuilds d d') : KeepsLens d d' := by
  obtain rfl | ⟨reply, e, hsetup, hspares⟩ := h
  · exact .refl d'
  · exact (keepsLens_setup hsetup).trans hspares.keepsLens

theorem Rebuilds.sweepSupported (h : Rebuilds d d') (hmode : ModeSupported d)
    (hsweep : SweepSupported d) : SweepSupported d' := by
  obtain rfl | ⟨reply, e, hsetup, hspares⟩ := h
  · exact hsweep
  · exact sweepSupported_of_eq hspares.definition hspares.lensModes
      (sweepSupported_setup hmode hsweep hsetup)

/-- What a write leaves before it rebuilds the definition, if it does. -/
inductive Prepares (d : Driver) : Write → Driver → Prop where
  | kept {w : Write} {p : Driver} (hkept : KeepsLens d p)
      (hdefinition : p.spectrumDefinition = d.spectrumDefinition) : Prepares d w p
  | flag {f : IntParam} {value : Int} {reply : AdjustReply}
      (hf : f = .analyserWithSlice ∨ f = .analyserWithAngleY) :
      Prepares d (.int f value reply) (d.setIntegerParam f value)
  | mode {value : Int} {reply : AdjustReply} (hsupported : sweepsAngleY value = true →
      ∃ lens, d.currentLens = some lens ∧ lens.hasYDeflection = true) :
      Prepares d (.int .analyserAcquisitionMode value reply)
        (d.setIntegerParam .analyserAcquisitionMode value)
  | lens {value : Int} {reply : AdjustReply} {lens : LensModeSetting}
      (hlens : at? d.lensModes value = some lens) (hsupported : d.supportsMode lens) :
      Prepares d (.int .lensMode value reply) (d.selectLensMode value lens)

theorem prepares_settled {w : Write} {outcome : Option Driver} (h : Settles d outcome)
    (hd' : outcome = some d') : ∃ p, Prepares d w p ∧ Rebuilds p d' := by
  obtain ⟨p, hspares, rfl | ⟨reply, finish, hfinish, rfl⟩⟩ := h
  · obtain rfl := Option.some.inj hd'
    exact ⟨p, .kept hspares.keepsLens hspares.definition, Or.inl rfl⟩
  · obtain ⟨e, hsetup, rfl⟩ := Option.map_eq_some_iff.mp hd'
    exact ⟨p, .kept hspares.keepsLens hspares.definition,
      Or.inr ⟨reply, e, hsetup, hfinish e⟩⟩

theorem prepares_report {w : Write} (text : String) :
    ∃ p, Prepares d w p ∧ Rebuilds p (d.report text) :=
  ⟨_, .kept (spares_setStringParam _ _).keepsLens rfl, Or.inl rfl⟩

theorem write_prepares {base : ADDriver} {w : Write} (h : d.write base w = some d') :
    ∃ p, Prepares d w p ∧ Rebuilds p d' := by
  have hrebuilt : ∀ {p : Driver} {reply : AdjustReply},
      some d' = p.setupSpectrumDefinition reply → Rebuilds p d' :=
    fun hsetup => Or.inr ⟨_, _, hsetup.symm, .refl _⟩
  cases w with
  | float f value reply => exact prepares_settled (settles_writeFloat64 base f value reply) h
  | int f value reply =>
    cases f
    case lensMode =>
      obtain ⟨-, -, text, hwrite⟩ | ⟨-, hwrite⟩ | ⟨lens, hlens, hsupported, hwrite⟩ :=
        lensMode_cases base d value reply
      · obtain rfl := Option.some.inj (h.symm.trans hwrite)
        exact prepares_report text
      · rw [hwrite] at h
        cases h
      · exact ⟨_, .lens hlens hsupported, hrebuilt (h.symm.trans hwrite)⟩
    case analyserAcquisitionMode =>
      obtain ⟨text, hwrite⟩ | ⟨-, hwrite⟩ | ⟨hsupported, hwrite⟩ :=
        acquisitionMode_cases base d value reply
      · obtain rfl := Option.some.inj (h.symm.trans hwrite)
        exact prepares_report text
      · rw [hwrite] at h
        cases h
      · exact ⟨_, .mode hsupported, hrebuilt (h.symm.trans hwrite)⟩
    case passEnergy =>
      obtain ⟨text, hwrite, -⟩ | ⟨-, hwrite⟩ := passEnergy_cases base d value reply
      · obtain rfl := Option.some.inj (h.symm.trans hwrite)
        exact prepares_report text
      · exact ⟨_, .kept (keepsLens_setIntegerParam value rfl) rfl, hrebuilt (h.symm.trans hwrite)⟩
    case elementSet | detectorMode =>
      obtain rfl := Option.some.inj h
      exact ⟨_, .kept (keepsLens_setIntegerParam value rfl) rfl, Or.inl rfl⟩
    case analyserWithSlice | analyserWithAngleY =>
      obtain rfl := Option.some.inj h
      exact ⟨_, .flag (by simp), Or.inl rfl⟩
    all_goals exact prepares_settled (settles_write base rfl) h

theorem ModeSupported.prepared {w : Write} (hmode : ModeSupported d) (h : Prepares d w d') :
    ModeSupported d' := by
  cases h with
  | kept hkept _ => exact hkept.modeSupported hmode
  | flag hf =>
    intro hswept
    obtain rfl | rfl := hf
    · exact hmode (by simpa using hswept)
    · exact hmode (by simpa using hswept)
  | mode hsupported =>
    intro hswept
    rw [int_setIntegerParam, if_pos rfl] at hswept
    exact hsupported hswept
  | @lens value reply lens hlens hsupported =>
    intro hswept
    refine ⟨lens, hlens, hsupported ?_⟩
    simpa [selectLensMode] using hswept

theorem Prepares.lists {w : Write} (h : Prepares d w d') :
    d'.lensModes = d.lensModes ∧ d'.spectrumDefinition = d.spectrumDefinition := by
  cases h with
  | kept hkept hdefinition => exact ⟨hkept.lensModes, hdefinition⟩
  | flag _ => exact ⟨rfl, rfl⟩
  | mode _ => exact ⟨rfl, rfl⟩
  | lens _ _ => exact ⟨rfl, rfl⟩

/-- What every write keeps. -/
structure LensChecked (d : Driver) : Prop where
  mode : ModeSupported d
  sweep : SweepSupported d

theorem LensChecked.write {base : ADDriver} {w : Write} (hd : LensChecked d)
    (h : d.write base w = some d') : LensChecked d' := by
  obtain ⟨p, hprepares, hrebuilds⟩ := write_prepares h
  have hmode : ModeSupported p := hd.mode.prepared hprepares
  have hsweep : SweepSupported p :=
    sweepSupported_of_eq hprepares.lists.2 hprepares.lists.1 hd.sweep
  exact ⟨hrebuilds.keepsLens.modeSupported hmode, hrebuilds.sweepSupported hmode hsweep⟩

/-! ### Runs -/

/-- Every parameter but the two read-only flags; the lens mode by values that are not negative. -/
def writable (_ : Driver) : Write → Prop
  | .int function value _ => function ≠ .analyserWithSlice ∧ function ≠ .analyserWithAngleY ∧
      (function = .lensMode → 0 ≤ value)
  | .float _ _ _ => True

instance (d : Driver) : DecidablePred d.writable
  | .int _ _ _ =>
    @instDecidableAnd _ _ inferInstance <| @instDecidableAnd _ _ inferInstance inferInstance
  | .float _ _ _ => .isTrue trivial

/-- The lens mode is listed; its flags are shown if `shown` says so. -/
def LensListed (shown : Prop) (d : Driver) : Prop :=
  ∃ lens, d.currentLens = some lens ∧ (shown → ShowsFlags d lens)

theorem showsFlags_selected (d : Driver) (value : Int) (lens : LensModeSetting) :
    ShowsFlags (d.selectLensMode value lens) lens := by
  constructor
  · simp [selectLensMode]
  · simp [selectLensMode]

theorem LensListed.prepared {shown : Prop} {w : Write} (hd : LensListed shown d)
    (hw : d.writable w) (h : Prepares d w d') : LensListed shown d' := by
  obtain ⟨lens, hlens, hflags⟩ := hd
  cases h with
  | kept hkept _ =>
    exact ⟨lens, hkept.currentLens.trans hlens, fun hs => hkept.showsFlags (hflags hs)⟩
  | flag hf =>
    obtain rfl | rfl := hf
    · exact absurd rfl hw.1
    · exact absurd rfl hw.2.1
  | mode _ =>
    refine ⟨lens, hlens, fun hs => ?_⟩
    obtain ⟨hslice, hangleY⟩ := hflags hs
    exact ⟨by simpa using hslice, by simpa using hangleY⟩
  | lens hlisted _ => exact ⟨_, hlisted, fun _ => showsFlags_selected d _ _⟩

theorem LensListed.rebuilt {shown : Prop} (hd : LensListed shown d) (h : Rebuilds d d') :
    LensListed shown d' := by
  obtain ⟨lens, hlens, hflags⟩ := hd
  exact ⟨lens, h.keepsLens.currentLens.trans hlens, fun hs => h.keepsLens.showsFlags (hflags hs)⟩

theorem LensListed.run {shown : Prop} {base : ADDriver} (h : Run (write base) writable d d')
    (hd : LensListed shown d) : LensListed shown d' := by
  refine h.invariant (fun a w b ha hw hwrite => ?_) hd
  obtain ⟨p, hprepares, hrebuilds⟩ := write_prepares hwrite
  exact (ha.prepared hw hprepares).rebuilt hrebuilds

/-- A lens mode that `writeInt32` takes. -/
def acceptsLensMode (d : Driver) (value : Int) : Prop :=
  ∃ lens, at? d.lensModes value = some lens ∧ d.supportsMode lens

theorem listed_of_accepted {base : ADDriver} {value : Int} {reply : AdjustReply}
    (haccepts : d.acceptsLensMode value) (h : d.write base (.int .lensMode value reply) = some d') :
    LensListed True d' := by
  obtain ⟨lens, hlens, hsupported⟩ := haccepts
  obtain ⟨-, hrefused, -⟩ | ⟨-, hwrite⟩ | ⟨other, hother, -, hwrite⟩ :=
    lensMode_cases base d value reply
  · exact absurd hsupported (hrefused lens hlens)
  · rw [hwrite] at h
    cases h
  · have hselected : LensListed True (d.selectLensMode value other) :=
      ⟨other, hother, fun _ => showsFlags_selected d value other⟩
    exact hselected.rebuilt (Or.inr ⟨reply, d', hwrite.symm.trans h, .refl d'⟩)

/-- A driver that the constructor has connected, before which nobody can have written the
acquisition mode; after any writes, and any changes of other parameters by the threads of the
driver. -/
inductive Connected (base : ADDriver) : Driver → Prop where
  | connect {fresh d : Driver} {info : ServerInfo} {reply : AdjustReply}
      (hfresh : sweepsAngleY (fresh.int .analyserAcquisitionMode) = false)
      (h : fresh.connectAnalyser info reply = some d) : Connected base d
  | write {d d' : Driver} {w : Write} (hd : Connected base d) (h : d.write base w = some d') :
      Connected base d'
  | update {d : Driver} {p : Params} (hd : Connected base d)
      (hp : ∀ q, q.isSelection = true → p.int q = d.int q) : Connected base (d.withParams p)

theorem Connected.lensChecked {base : ADDriver} (h : Connected base d) : LensChecked d := by
  induction h with
  | @connect fresh d info reply hfresh h =>
    obtain ⟨d₀, hconnect, -, -, -, -, -, -, -, -, hmode, hnone⟩ :=
      connect_selects fresh info reply
    rw [hconnect] at h
    have hsupported : ModeSupported d₀ := by
      intro hswept
      rw [hmode, hfresh] at hswept
      cases hswept
    refine ⟨(keepsLens_setup h).modeSupported hsupported, sweepSupported_setup hsupported ?_ h⟩
    intro hsome
    rw [hnone] at hsome
    cases hsome
  | write _ h ih => exact ih.write h
  | update _ hp ih =>
    have hspares := spares_withParams hp
    exact ⟨hspares.keepsLens.modeSupported ih.mode,
      sweepSupported_of_eq hspares.definition hspares.lensModes ih.sweep⟩

/-- In every run of writes, a sweep of ThetaY goes with a lens mode that has it, in the
parameters and in the definition, and from the first lens mode taken on the flags are those of
the lens mode. -/
theorem thetaY_supported {base : ADDriver} {d₀ d₁ : Driver} (hconnected : Connected base d₀)
    (hlens : ValidIndex d₀.lensModes (d₀.int .lensMode))
    (hmode : sweepsAngleY (d₀.int .analyserAcquisitionMode) = false)
    (hrun : Run (write base) writable d₀ d₁) :
    SweepSupported d₁ ∧ ∃ lens, d₁.currentLens = some lens ∧
      (sweepsAngleY (d₁.int .analyserAcquisitionMode) = true → lens.hasYDeflection = true) ∧
      ∀ a b value reply, Run (write base) writable d₀ a → a.acceptsLensMode value →
        a.write base (.int .lensMode value reply) = some b → Run (write base) writable b d₁ →
        ShowsFlags d₁ lens := by
  have hstart : LensChecked d₀ := by
    refine ⟨fun hswept => ?_, hconnected.lensChecked.sweep⟩
    rw [hmode] at hswept
    cases hswept
  have hchecked : LensChecked d₁ :=
    hrun.invariant (fun _ _ _ hd _ hwrite => LensChecked.write hd hwrite) hstart
  obtain ⟨first, hfirst⟩ := at?_of_valid hlens
  have hlisted : LensListed False d₀ := ⟨first, hfirst, False.elim⟩
  obtain ⟨lens, hcurrent, -⟩ := hlisted.run hrun
  refine ⟨hchecked.sweep, lens, hcurrent, fun hswept => ?_, ?_⟩
  · obtain ⟨other, hother, hY⟩ := hchecked.mode hswept
    obtain rfl := Option.some.inj (hother.symm.trans hcurrent)
    exact hY
  · intro a b value reply _ haccepts hwrite hrest
    obtain ⟨other, hother, hflags⟩ := (listed_of_accepted haccepts hwrite).run hrest
    obtain rfl := Option.some.inj (hother.symm.trans hcurrent)
    exact hflags trivial

/-- The small analyser with a second lens mode, which has ThetaY. -/
def angularAnalyser : ServerInfo :=
  { smallAnalyser with
    opticsLensModes :=
      [{ name := "Angular", enabled := true, passEnergy := (1, 200), yDeflection := some (-15, 15) },
       { name := "Transmission", enabled := true, passEnergy := (1, 200) }] }

theorem thetaY_supported_angular :
    ∃ d₀ d₁, Connected (.store 8) d₀ ∧ Run (write (.store 8)) writable d₀ d₁ ∧
      sweepsAngleY (d₁.int .analyserAcquisitionMode) = true ∧
      d₁.spectrumDefinition.sweepZ.isSome = true ∧ SweepSupported d₁ ∧
      ∃ lens, d₁.currentLens = some lens ∧
        (sweepsAngleY (d₁.int .analyserAcquisitionMode) = true → lens.hasYDeflection = true) ∧
        ∀ a b value reply, Run (write (.store 8)) writable d₀ a → a.acceptsLensMode value →
          a.write (.store 8) (.int .lensMode value reply) = some b →
          Run (write (.store 8)) writable b d₁ → ShowsFlags d₁ lens := by
  have hreach : (unconnected.connectAnalyser angularAnalyser .raised).any fun d₀ =>
      decide (ValidIndex d₀.lensModes (d₀.int .lensMode)) &&
      !sweepsAngleY (d₀.int .analyserAcquisitionMode) &&
      reaches (write (.store 8)) writable d₀
        [.int .lensMode 0 .raised, .int .analyserAcquisitionMode 2 .raised,
          .int .lensMode 1 .raised]
        (fun d₁ => sweepsAngleY (d₁.int .analyserAcquisitionMode) &&
          d₁.spectrumDefinition.sweepZ.isSome) := by
    decide +kernel
  obtain ⟨d₀, hconnect, hall⟩ := (Option.any_eq_true _ _).mp hreach
  obtain ⟨hstart, hwrites⟩ := Bool.and_eq_true_iff.mp hall
  obtain ⟨hlens, hmode⟩ := Bool.and_eq_true_iff.mp hstart
  obtain ⟨d₁, hrun, hend⟩ := run_of_reaches hwrites
  obtain ⟨hswept, hsome⟩ := Bool.and_eq_true_iff.mp hend
  have hconnected : Connected (.store 8) d₀ := .connect (by decide +kernel) hconnect
  exact ⟨d₀, d₁, hconnected, hrun, hswept, hsome, thetaY_supported hconnected
    (of_decide_eq_true hlens) (by simpa using hmode) hrun⟩

end Driver

end PeakAnalyser
