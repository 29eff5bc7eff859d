import Mathlib.Logic.Function.Basic
import Mathlib.Data.Rat.Defs

/-!
# The asyn parameter library of the driver

`Params` is the table behind `getIntegerParam`, `setIntegerParam` and their
siblings, restricted to the parameters that `peakAnalyser.cpp` reads or writes.
A parameter that was never set reads as zero.
-/

namespace PeakAnalyser

set_option autoImplicit false

/-- A C++ `double` after a division: rational arithmetic is exact, and an
infinite or undefined quotient stays recognisable. -/
inductive Number where
  | finite (q : ℚ)
  | notFinite
  deriving DecidableEq

namespace Number

def fdiv (a b : ℚ) : Number := if b = 0 then .notFinite else .finite (a / b)

def map (f : ℚ → ℚ) : Number → Number
  | .finite q => .finite (f q)
  | .notFinite => .notFinite

def bind (f : ℚ → Number) : Number → Number
  | .finite q => f q
  | .notFinite => .notFinite

@[simp] theorem fdiv_of_ne {a b : ℚ} (h : b ≠ 0) : fdiv a b = .finite (a / b) := if_neg h

@[simp] theorem fdiv_zero (a : ℚ) : fdiv a 0 = .notFinite := if_pos rfl

end Number

/-- `asynInt32` parameters. `otherBase` stands for every further parameter of
the areaDetector base classes. -/
inductive IntParam where
  | ndDataType | ndColorMode | ndArrayCounter | ndArrayCallbacks
  | adAcquire | adStatus | adImageMode
  | adNumExposures | adNumExposuresCounter | adNumImages | adNumImagesCounter
  | adMinX | adMinY | adSizeX | adSizeY | adMaxSizeX | adMaxSizeY
  | otherBase (index : Nat)
  | elementSet | lensMode | detectorMode | passEnergy | energyMode | slit
  | analyserAcquisitionMode | analyserEnergyCount
  | analyserWithSlice | analyserSliceCount | analyserWithAngleY | analyserAngleYCount
  | detectorChannels | detectorSlices | acqNumSteps | acqNumStepsCounter | zeroSupplies
  deriving DecidableEq

/-- `asynFloat64` parameters, less the two readbacks that `Params` keeps as a
`Number`. -/
inductive FloatParam where
  | adAcquireTime
  | otherBase (index : Nat)
  | passEnergyValue
  | analyserHighEnergy | analyserLowEnergy | analyserCenterEnergy | analyserEnergyStep
  | analyserHighSlice | analyserLowSlice | analyserCenterSlice | analyserSliceStep
  | analyserHighAngleY | analyserLowAngleY | analyserCenterAngleY | analyserAngleYStep
  | excitationEnergy | workFunction
  | focalPositionX | focalPositionY | focalPositionZ
  deriving DecidableEq

inductive StringParam where
  | adStatusMessage | elementSetStr | lensModeStr | detectorModeStr | energyModeStr | acqETAStr
  deriving DecidableEq

/-- `function < FIRST_PEAKANALYSER_PARAM`: created by a base class. -/
def IntParam.isBase : IntParam → Bool
  | .ndDataType | .ndColorMode | .ndArrayCounter | .ndArrayCallbacks
  | .adAcquire | .adStatus | .adImageMode
  | .adNumExposures | .adNumExposuresCounter | .adNumImages | .adNumImagesCounter
  | .adMinX | .adMinY | .adSizeX | .adSizeY | .adMaxSizeX | .adMaxSizeY
  | .otherBase _ => true
  | _ => false

def FloatParam.isBase : FloatParam → Bool
  | .adAcquireTime | .otherBase _ => true
  | _ => false

structure Params where
  int : IntParam → Int := fun _ => 0
  float : FloatParam → ℚ := fun _ => 0
  string : StringParam → String := fun _ => ""
  acqETA : Number := .finite 0
  acqProgress : Number := .finite 0

namespace Params

def setIntegerParam (p : Params) (function : IntParam) (value : Int) : Params :=
  { p with int := Function.update p.int function value }

def setDoubleParam (p : Params) (function : FloatParam) (value : ℚ) : Params :=
  { p with float := Function.update p.float function value }

def setStringParam (p : Params) (function : StringParam) (value : String) : Params :=
  { p with string := Function.update p.string function value }

section Lookups
variable (p : Params) (f q : IntParam) (g r : FloatParam) (h : StringParam)
variable (v : Int) (x : ℚ) (t : String)

@[simp] theorem int_setIntegerParam :
    (p.setIntegerParam f v).int q = if q = f then v else p.int q := Function.update_apply ..

@[simp] theorem float_setIntegerParam : (p.setIntegerParam f v).float = p.float := rfl

@[simp] theorem int_setDoubleParam : (p.setDoubleParam g x).int = p.int := rfl

@[simp] theorem float_setDoubleParam :
    (p.setDoubleParam g x).float r = if r = g then x else p.float r := Function.update_apply ..

@[simp] theorem int_setStringParam : (p.setStringParam h t).int = p.int := rfl

@[simp] theorem float_setStringParam : (p.setStringParam h t).float = p.float := rfl

end Lookups

end Params

/-! Enumerators of areaDetector that the driver compares or stores. -/

def adStatusIdle : Int := 0
def adStatusAcquire : Int := 1
def adStatusError : Int := 6
def adStatusDisconnected : Int := 9
def adStatusAborted : Int := 10
def adImageSingle : Int := 0
def adImageMultiple : Int := 1
def ndColorModeMono : Int := 0

/-- The areaDetector base class, which is outside the repository: the number of
its `NDFloat32` enumerator and its own `writeInt32` and `writeFloat64`, of
which the driver relies on their leaving alone every parameter but the one
written. -/
structure ADDriver where
  ndFloat32 : Int
  writeInt32 : Params → IntParam → Int → Params
  writeFloat64 : Params → FloatParam → ℚ → Params
  writeInt32_int : ∀ p f v q, q ≠ f → (∀ i, q ≠ .otherBase i) →
    (writeInt32 p f v).int q = p.int q
  writeInt32_float : ∀ p f v r, (∀ i, r ≠ .otherBase i) → (writeInt32 p f v).float r = p.float r
  writeFloat64_int : ∀ p f x q, (∀ i, q ≠ .otherBase i) → (writeFloat64 p f x).int q = p.int q
  writeFloat64_float : ∀ p f x r, r ≠ f → (∀ i, r ≠ .otherBase i) →
    (writeFloat64 p f x).float r = p.float r

/-- The base class that only stores what is written. -/
def ADDriver.store (ndFloat32 : Int) : ADDriver where
  ndFloat32 := ndFloat32
  writeInt32 p f v := p.setIntegerParam f v
  writeFloat64 p f x := p.setDoubleParam f x
  writeInt32_int p f v q hq _ := by simp [hq]
  writeInt32_float _ _ _ _ _ := rfl
  writeFloat64_int _ _ _ _ _ := rfl
  writeFloat64_float p f x r hr _ := by simp [hr]

end PeakAnalyser
