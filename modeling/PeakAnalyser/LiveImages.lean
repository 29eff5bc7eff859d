import PeakAnalyser.LiveSpectrum
import PeakAnalyser.SpectrumData

/-!
# Which notification a live image comes from

As long as no update is assigned while `fromSpectrumChannel` reads and `IsLast` is not looked at
between the two assignments of an update, the member is there and each image is what
`fromSpectrumChannel` makes of one channel.
-/

namespace PeakAnalyser

set_option autoImplicit false

open Runs

namespace JsonValue

variable {key key' : String} {member : JsonValue}

theorem lookup_assignMember (members : List (String × JsonValue)) :
    (assignMember key member members).lookup key = some member := by
  induction members with
  | nil => simp [assignMember]
  | cons entry rest ih =>
    obtain ⟨k, value⟩ := entry
    simp only [assignMember]
    by_cases hkey : k = key
    · simp [hkey]
    · rw [if_neg hkey, List.lookup_cons, beq_false_of_ne (Ne.symm hkey)]
      exact ih

theorem lookup_assignMember_of_ne (hne : key' ≠ key) (members : List (String × JsonValue)) :
    (assignMember key member members).lookup key' = members.lookup key' := by
  induction members with
  | nil => simp [assignMember, List.lookup_cons, beq_false_of_ne hne]
  | cons entry rest ih =>
    obtain ⟨k, value⟩ := entry
    simp only [assignMember]
    by_cases hkey : k = key
    · subst hkey
      rw [if_pos rfl, List.lookup_cons, List.lookup_cons, beq_false_of_ne hne]
    · rw [if_neg hkey, List.lookup_cons, List.lookup_cons, ih]

end JsonValue

/-! ### What is left to read -/

section Rest

variable (env : Environment) (serverUri : Bytes) (live : JsonValue)

namespace PeakSpectrum

variable (s : PeakSpectrum)

/-- The lines of one axis. -/
def readInto (name : AxisName) (axes : JsonValue) : Except ChannelException PeakSpectrum :=
  if axes.contains name.key then do
    let points ← createAxis env.memory (← axes.item name.key)
    return (s.setAxis points name).countAxis name
  else .ok s

/-- What `fromSpectrumChannel` returns after `written` has been stored. -/
def finish (written : Bytes) : Except ChannelException (PeakSpectrum × Bytes) :=
  .ok (s.stored written, written)

/-- The spectrum after the lines of an axis. -/
def withAxis (name : AxisName) : Option (List ℚ) → PeakSpectrum
  | some points => (s.setAxis points name).countAxis name
  | none => s

def restHttp (attachment : JsonValue) : Except ChannelException (PeakSpectrum × Bytes) := do
  let mode ← attachment.item "Mode"
  if mode.isText "Http" then
    let address ← (← attachment.item "Address").getString
    s.finish (← env.download serverUri address)
  else return (s, [])

def restFile (attachment : JsonValue) (byteSize : Nat) :
    Except ChannelException (PeakSpectrum × Bytes) := do
  let mode ← attachment.item "Mode"
  if mode.isText "File" then
    let name ← (← attachment.item "Address").getString
    s.finish (((env.file name).getD []).take byteSize)
  else s.restHttp env serverUri attachment

def restMode (attachment : JsonValue) (byteSize : Nat) :
    Except ChannelException (PeakSpectrum × Bytes) := do
  let mode ← attachment.item "Mode"
  if mode.isText "Inline" then
    let text ← (← attachment.item "InlineValue").getString
    s.finish (base64_decode text)
  else s.restFile env serverUri attachment byteSize

def restSized (attachment : JsonValue) (byteSize : Nat) :
    Except ChannelException (PeakSpectrum × Bytes) :=
  if env.memory < 4 * (byteSize / 4) then .error (.std .allocation)
  else restMode env serverUri { s with data := .replicate (4 * (byteSize / 4)) 0 } attachment byteSize

def restLength (attachment : JsonValue) : Except ChannelException (PeakSpectrum × Bytes) := do
  let byteSize ← (← attachment.item "Length").getSize
  s.restSized env serverUri attachment byteSize

def restAttachment : Except ChannelException (PeakSpectrum × Bytes) := do
  let attachment ← live.item "CountByteData"
  let value ← (← attachment.item "HasValue").getBool
  if value then s.restLength env serverUri attachment else return (s, [])

/-- What follows the lines of an axis. -/
def restAfter (axes : JsonValue) : AxisName → Except ChannelException (PeakSpectrum × Bytes)
  | .x => do
    let s ← s.readInto env .y axes
    let s ← s.readInto env .z axes
    s.restAttachment env serverUri live
  | .y => do
    let s ← s.readInto env .z axes
    s.restAttachment env serverUri live
  | .z => s.restAttachment env serverUri live

end PeakSpectrum

/-- What `fromSpectrumChannel` still does from a place on, if `m_SpectrumLive` stays as it is. -/
def rest (s : PeakSpectrum) : ChannelPlace → Except ChannelException (PeakSpectrum × Bytes)
  | .axes => do
    let axes ← (← live.item "SpectrumChannelSettings").item "RequestedAxes"
    (← s.readInto env .x axes).restAfter env serverUri live axes .x
  | .contains name axes => do
    (← s.readInto env name axes.value).restAfter env serverUri live axes.value name
  | .create name axes => do
    let points ← PeakSpectrum.createAxis env.memory (← axes.value.item name.key)
    ((s.setAxis points name).countAxis name).restAfter env serverUri live axes.value name
  | .dims name axes => (s.countAxis name).restAfter env serverUri live axes.value name
  | .attachment => s.restAttachment env serverUri live
  | .hasValue attachment => do
    let value ← (← attachment.value.item "HasValue").getBool
    if value then s.restLength env serverUri attachment.value else return (s, [])
  | .length attachment => s.restLength env serverUri attachment.value
  | .resize attachment byteSize => s.restSized env serverUri attachment.value byteSize
  | .ifInline attachment byteSize => s.restMode env serverUri attachment.value byteSize
  | .inlineValue attachment => do
    let text ← (← attachment.value.item "InlineValue").getString
    s.finish (base64_decode text)
  | .ifFile attachment byteSize => s.restFile env serverUri attachment.value byteSize
  | .fname attachment byteSize => do
    let name ← (← attachment.value.item "Address").getString
    s.finish (((env.file name).getD []).take byteSize)
  | .file name byteSize => s.finish (((env.file name).getD []).take byteSize)
  | .ifHttp attachment => s.restHttp env serverUri attachment.value
  | .uri attachment => do
    let address ← (← attachment.value.item "Address").getString
    s.finish (← env.download serverUri address)
  | .http address => do s.finish (← env.download serverUri address)
  | .returned written _ => .ok (s, written)

end Rest

section Rest

variable {env : Environment} {serverUri : Bytes} {live : JsonValue} {version : Nat}
  {s s' : PeakSpectrum} {place place' : ChannelPlace}

theorem rest_afterAxis (axes : JsonReference) (name : AxisName) :
    rest env serverUri live s (ChannelPlace.afterAxis axes name) =
      s.restAfter env serverUri live axes.value name := by
  cases name <;> rfl

/-- A statement leaves what it has not done itself. -/
theorem rest_advance
    (h : advance env serverUri version live s place = .ok (place', s')) :
    rest env serverUri live s place = rest env serverUri live s' place' := by
  cases place with
  | axes =>
    obtain ⟨settings, hsettings, h⟩ := ok_bind h
    obtain ⟨axes, haxes, h⟩ := ok_bind h
    obtain ⟨rfl, rfl⟩ := Prod.mk.inj (Except.ok.inj h)
    simp only [rest]
    rw [bind_of_ok hsettings, bind_of_ok haxes]
  | contains name axes =>
    obtain ⟨rfl, rfl⟩ := Prod.mk.inj (Except.ok.inj h)
    split
    · rename_i hcontains
      simp only [rest, PeakSpectrum.readInto]
      rw [if_pos hcontains]
      simp only [bind_assoc, pure_bind]
    · rename_i hcontains
      rw [rest_afterAxis]
      simp only [rest, PeakSpectrum.readInto]
      rw [if_neg hcontains]
      rfl
  | create name axes =>
    obtain ⟨axis, haxis, h⟩ := ok_bind h
    obtain ⟨points, hpoints, h⟩ := ok_bind h
    obtain ⟨rfl, rfl⟩ := Prod.mk.inj (Except.ok.inj h)
    simp only [rest]
    rw [bind_of_ok haxis, bind_of_ok hpoints]
  | dims name axes =>
    obtain ⟨rfl, rfl⟩ := Prod.mk.inj (Except.ok.inj h)
    rw [rest_afterAxis]
    rfl
  | attachment =>
    obtain ⟨attachment, hattachment, h⟩ := ok_bind h
    obtain ⟨rfl, rfl⟩ := Prod.mk.inj (Except.ok.inj h)
    simp only [rest, PeakSpectrum.restAttachment]
    rw [bind_of_ok hattachment]
  | hasValue attachment =>
    obtain ⟨value, hvalue, h⟩ := ok_bind h
    obtain ⟨present, hpresent, h⟩ := ok_bind h
    obtain ⟨rfl, rfl⟩ := Prod.mk.inj (Except.ok.inj h)
    simp only [rest]
    rw [bind_of_ok hvalue, bind_of_ok hpresent]
    cases present <;> rfl
  | length attachment =>
    obtain ⟨value, hvalue, h⟩ := ok_bind h
    obtain ⟨byteSize, hbyteSize, h⟩ := ok_bind h
    obtain ⟨rfl, rfl⟩ := Prod.mk.inj (Except.ok.inj h)
    simp only [rest, PeakSpectrum.restLength]
    rw [bind_of_ok hvalue, bind_of_ok hbyteSize]
  | resize attachment byteSize =>
    simp only [advance] at h
    split at h
    · cases h
    · rename_i hmemory
      obtain ⟨rfl, rfl⟩ := Prod.mk.inj (Except.ok.inj h)
      simp only [rest, PeakSpectrum.restSized]
      rw [if_neg hmemory]
  | ifInline attachment byteSize =>
    obtain ⟨mode, hmode, h⟩ := ok_bind h
    obtain ⟨rfl, rfl⟩ := Prod.mk.inj (Except.ok.inj h)
    simp only [rest, PeakSpectrum.restMode]
    rw [bind_of_ok hmode]
    split <;> rfl
  | inlineValue attachment =>
    obtain ⟨value, hvalue, h⟩ := ok_bind h
    obtain ⟨text, htext, h⟩ := ok_bind h
    obtain ⟨rfl, rfl⟩ := Prod.mk.inj (Except.ok.inj h)
    simp only [rest]
    rw [bind_of_ok hvalue, bind_of_ok htext]
    rfl
  | ifFile attachment byteSize =>
    obtain ⟨mode, hmode, h⟩ := ok_bind h
    obtain ⟨rfl, rfl⟩ := Prod.mk.inj (Except.ok.inj h)
    simp only [rest, PeakSpectrum.restFile]
    rw [bind_of_ok hmode]
    split <;> rfl
  | fname attachment byteSize =>
    obtain ⟨address, haddress, h⟩ := ok_bind h
    obtain ⟨name, hname, h⟩ := ok_bind h
    obtain ⟨rfl, rfl⟩ := Prod.mk.inj (Except.ok.inj h)
    simp only [rest]
    rw [bind_of_ok haddress, bind_of_ok hname]
  | file name byteSize =>
    obtain ⟨rfl, rfl⟩ := Prod.mk.inj (Except.ok.inj h)
    rfl
  | ifHttp attachment =>
    obtain ⟨mode, hmode, h⟩ := ok_bind h
    obtain ⟨rfl, rfl⟩ := Prod.mk.inj (Except.ok.inj h)
    simp only [rest, PeakSpectrum.restHttp]
    rw [bind_of_ok hmode]
    split <;> rfl
  | uri attachment =>
    obtain ⟨address, haddress, h⟩ := ok_bind h
    obtain ⟨uri, huri, h⟩ := ok_bind h
    obtain ⟨rfl, rfl⟩ := Prod.mk.inj (Except.ok.inj h)
    simp only [rest]
    rw [bind_of_ok haddress, bind_of_ok huri]
  | http address =>
    obtain ⟨written, hwritten, h⟩ := ok_bind h
    obtain ⟨rfl, rfl⟩ := Prod.mk.inj (Except.ok.inj h)
    simp only [rest]
    rw [bind_of_ok hwritten]
    rfl
  | returned written surroundings =>
    obtain ⟨rfl, rfl⟩ := Prod.mk.inj (Except.ok.inj h)
    rfl

theorem readInto_eq (name : AxisName) (axes : JsonValue) :
    s.readInto env name axes =
      PeakSpectrum.readAxis env.memory axes name.key >>= fun axis => .ok (s.withAxis name axis) := by
  unfold PeakSpectrum.readInto PeakSpectrum.readAxis
  split
  · simp only [bind_assoc, pure_bind]
    rfl
  · rfl

theorem withAxes_eq (x y z : Option (List ℚ)) :
    (((({} : PeakSpectrum).withAxis .x x).withAxis .y y).withAxis .z z) =
      { dims := [x, y, z].filterMap fun axis => axis.map List.length
        xaxis := x.getD []
        yaxis := y.getD []
        zaxis := z.getD [] } := by
  cases x <;> cases y <;> cases z <;> rfl

theorem stored_nil (s : PeakSpectrum) : s.stored [] = s := by
  simp [PeakSpectrum.stored, store]

theorem restMode_eq (attachment : JsonValue) (byteSize : Nat) :
    s.restMode env serverUri attachment byteSize =
      env.transfer serverUri attachment byteSize >>= s.finish := by
  unfold PeakSpectrum.restMode Environment.transfer
  cases hmode : attachment.item "Mode" with
  | error exception => rfl
  | ok mode =>
    rw [bind_of_ok rfl, bind_of_ok rfl]
    by_cases hinline : mode.isText "Inline" = true
    · rw [if_pos hinline, if_pos hinline]
      simp only [bind_assoc, pure_bind]
    · rw [if_neg hinline, if_neg hinline]
      unfold PeakSpectrum.restFile
      rw [hmode, bind_of_ok rfl]
      by_cases hfile : mode.isText "File" = true
      · rw [if_pos hfile, if_pos hfile]
        simp only [bind_assoc]
        congr 1
        funext value
        congr 1
        funext fname
        cases env.file fname <;> simp
      · rw [if_neg hfile, if_neg hfile]
        unfold PeakSpectrum.restHttp
        rw [hmode, bind_of_ok rfl]
        by_cases hhttp : mode.isText "Http" = true
        · rw [if_pos hhttp, if_pos hhttp]
          simp only [bind_assoc]
          congr 1
        · rw [if_neg hhttp, if_neg hhttp, pure_bind, PeakSpectrum.finish, stored_nil]
          rfl

/-- With its statements one after the other, `fromSpectrumChannel` is what it is as a whole. -/
theorem rest_axes : rest env serverUri live {} .axes =
    PeakSpectrum.fromSpectrumChannel env live serverUri := by
  unfold PeakSpectrum.fromSpectrumChannel
  simp only [rest]
  cases hsettings : live.item "SpectrumChannelSettings" with
  | error exception => rfl
  | ok settings =>
    rw [bind_of_ok rfl, bind_of_ok rfl]
    cases haxes : settings.item "RequestedAxes" with
    | error exception => rfl
    | ok axes =>
      rw [bind_of_ok rfl, bind_of_ok rfl]
      simp only [PeakSpectrum.restAfter, readInto_eq, bind_assoc, AxisName.key]
      congr 1
      funext x
      rw [bind_of_ok rfl]
      congr 1
      funext y
      rw [bind_of_ok rfl]
      congr 1
      funext z
      rw [bind_of_ok rfl, withAxes_eq]
      unfold PeakSpectrum.restAttachment
      congr 1
      funext attachment
      congr 1
      funext value
      congr 1
      funext present
      cases present with
      | false => rfl
      | true =>
        rw [if_pos rfl, if_pos rfl]
        unfold PeakSpectrum.restLength PeakSpectrum.restSized
        congr 1
        funext length
        congr 1
        funext byteSize
        split
        · rfl
        · rw [restMode_eq]
          rfl

/-- The statements after the last that reads `m_SpectrumLive` make the same of any value. -/
theorem rest_of_not_inside {live' : JsonValue} (hinside : place.inside = false)
    (haxes : place ≠ .axes) : rest env serverUri live' s place = rest env serverUri live s place := by
  cases place with
  | axes => exact absurd rfl haxes
  | file name byteSize => rfl
  | http address => rfl
  | returned written surroundings => rfl
  | _ => cases hinside

/-- Two channels that differ in `IsLast` only. -/
structure SameSpectrum (live channel : JsonValue) : Prop where
  settings : live.item "SpectrumChannelSettings" = channel.item "SpectrumChannelSettings"
  data : live.item "CountByteData" = channel.item "CountByteData"

theorem rest_congr {live' : JsonValue} (h : SameSpectrum live' live) :
    rest env serverUri live' s place = rest env serverUri live s place := by
  have hattachment : ∀ s : PeakSpectrum,
      s.restAttachment env serverUri live' = s.restAttachment env serverUri live := by
    intro s
    unfold PeakSpectrum.restAttachment
    rw [h.data]
  have hafter : ∀ (s : PeakSpectrum) (axes : JsonValue) (name : AxisName),
      s.restAfter env serverUri live' axes name = s.restAfter env serverUri live axes name := by
    intro s axes name
    cases name <;> simp only [PeakSpectrum.restAfter, hattachment]
  cases place with
  | axes => simp only [rest, h.settings, hafter]
  | contains name axes => simp only [rest, hafter]
  | create name axes => simp only [rest, hafter]
  | dims name axes => simp only [rest, hafter]
  | attachment => simp only [rest, hattachment]
  | _ => rfl

/-- The last statement keeps the surroundings it is executed in. -/
theorem surroundings_advance {written : Bytes} {surroundings : Environment}
    (hon : ∀ written surroundings, place ≠ .returned written surroundings)
    (h : advance env serverUri version live s place = .ok (.returned written surroundings, s')) :
    surroundings = env := by
  cases place with
  | axes =>
    obtain ⟨settings, _, h⟩ := ok_bind h
    obtain ⟨axes, _, h⟩ := ok_bind h
    cases h
  | contains name axes =>
    simp only [advance] at h
    split at h
    · cases h
    · cases name <;> cases h
  | create name axes =>
    obtain ⟨axis, _, h⟩ := ok_bind h
    obtain ⟨points, _, h⟩ := ok_bind h
    cases h
  | dims name axes => cases name <;> cases h
  | attachment =>
    obtain ⟨attachment, _, h⟩ := ok_bind h
    cases h
  | hasValue attachment =>
    obtain ⟨value, _, h⟩ := ok_bind h
    obtain ⟨present, _, h⟩ := ok_bind h
    cases present with
    | false =>
      cases h
      rfl
    | true => cases h
  | length attachment =>
    obtain ⟨value, _, h⟩ := ok_bind h
    obtain ⟨byteSize, _, h⟩ := ok_bind h
    cases h
  | resize attachment byteSize =>
    simp only [advance] at h
    split at h <;> cases h
  | ifInline attachment byteSize =>
    obtain ⟨mode, _, h⟩ := ok_bind h
    split at h <;> cases h
  | inlineValue attachment =>
    obtain ⟨value, _, h⟩ := ok_bind h
    obtain ⟨text, _, h⟩ := ok_bind h
    cases h
    rfl
  | ifFile attachment byteSize =>
    obtain ⟨mode, _, h⟩ := ok_bind h
    split at h <;> cases h
  | fname attachment byteSize =>
    obtain ⟨address, _, h⟩ := ok_bind h
    obtain ⟨name, _, h⟩ := ok_bind h
    cases h
  | file name byteSize =>
    cases h
    rfl
  | ifHttp attachment =>
    obtain ⟨mode, _, h⟩ := ok_bind h
    split at h
    · cases h
    · cases h
      rfl
  | uri attachment =>
    obtain ⟨address, _, h⟩ := ok_bind h
    obtain ⟨uri, _, h⟩ := ok_bind h
    cases h
  | http address =>
    obtain ⟨written, _, h⟩ := ok_bind h
    cases h
    rfl
  | returned written surroundings => exact absurd rfl (hon _ _)

/-- Only what is stored depends on more of the surroundings than the memory. -/
theorem advance_env {env' : Environment} (hmemory : env'.memory = env.memory)
    (h : advance env serverUri version live s place = .ok (place', s'))
    (hon : ∀ written surroundings, place' ≠ .returned written surroundings) :
    advance env' serverUri version live s place = .ok (place', s') := by
  cases place with
  | create name axes =>
    simp only [advance, hmemory]
    exact h
  | resize attachment byteSize =>
    simp only [advance, hmemory]
    exact h
  | hasValue attachment =>
    obtain ⟨value, hvalue, h⟩ := ok_bind h
    obtain ⟨present, hpresent, h⟩ := ok_bind h
    obtain ⟨rfl, rfl⟩ := Prod.mk.inj (Except.ok.inj h)
    cases present with
    | false => exact absurd rfl (hon _ _)
    | true =>
      simp only [advance]
      rw [bind_of_ok hvalue, bind_of_ok hpresent]
      rfl
  | inlineValue attachment =>
    obtain ⟨value, _, h⟩ := ok_bind h
    obtain ⟨text, _, h⟩ := ok_bind h
    obtain ⟨rfl, _⟩ := Prod.mk.inj (Except.ok.inj h)
    exact absurd rfl (hon _ _)
  | file name byteSize =>
    obtain ⟨rfl, _⟩ := Prod.mk.inj (Except.ok.inj h)
    exact absurd rfl (hon _ _)
  | ifHttp attachment =>
    obtain ⟨mode, hmode, h⟩ := ok_bind h
    obtain ⟨rfl, rfl⟩ := Prod.mk.inj (Except.ok.inj h)
    simp only [advance]
    rw [bind_of_ok hmode]
    by_cases hhttp : mode.isText "Http" = true
    · rw [if_pos hhttp, if_pos hhttp]
      rfl
    · rw [if_neg hhttp] at hon
      exact absurd rfl (hon _ _)
  | http address =>
    obtain ⟨written, _, h⟩ := ok_bind h
    obtain ⟨rfl, _⟩ := Prod.mk.inj (Except.ok.inj h)
    exact absurd rfl (hon _ _)
  | returned written surroundings =>
    obtain ⟨rfl, _⟩ := Prod.mk.inj (Except.ok.inj h)
    exact absurd rfl (hon _ _)
  | _ => exact h

end Rest

/-- The reference that `fromSpectrumChannel` still needs. -/
def ChannelPlace.bound? : ChannelPlace → Option JsonReference
  | .dims _ reference | .resize reference _ => some reference
  | place => place.reference?

section Places

variable {env : Environment} {serverUri : Bytes} {live : JsonValue} {version : Nat}
  {s s' : PeakSpectrum} {place place' : ChannelPlace}

def ChannelPlace.Current (version : Nat) (place : ChannelPlace) : Prop :=
  ∀ reference ∈ place.bound?, reference.version = version

theorem ChannelPlace.Current.reads (h : place.Current version) :
    place.reference?.all (fun reference => reference.version = version) = true := by
  rw [Option.all_eq_true]
  intro reference hreference
  apply decide_eq_true
  apply h
  cases place <;> first | exact hreference | cases hreference

theorem current_afterAxis {axes : JsonReference} (name : AxisName) (h : axes.version = version) :
    (ChannelPlace.afterAxis axes name).Current version ∧
      ChannelPlace.afterAxis axes name ≠ .axes := by
  constructor
  · intro reference hreference
    cases name with
    | x =>
      obtain rfl := Option.some.inj hreference
      exact h
    | y =>
      obtain rfl := Option.some.inj hreference
      exact h
    | z => cases hreference
  · cases name <;> simp [ChannelPlace.afterAxis]

/-- The next statement reads through what has just been bound, and is never the first. -/
theorem current_advance (h : advance env serverUri version live s place = .ok (place', s'))
    (hcurrent : place.Current version) : place'.Current version ∧ place' ≠ .axes := by
  have hnew : ∀ value, ∀ reference ∈ some (JsonReference.mk version value),
      reference.version = version := by
    intro value reference hreference
    obtain rfl := Option.some.inj hreference
    rfl
  have hnone : ∀ reference ∈ (none : Option JsonReference), reference.version = version := by
    intro reference hreference
    cases hreference
  cases place with
  | axes =>
    obtain ⟨settings, _, h⟩ := ok_bind h
    obtain ⟨axes, _, h⟩ := ok_bind h
    obtain ⟨rfl, _⟩ := Prod.mk.inj (Except.ok.inj h)
    exact ⟨hnew axes, by simp⟩
  | contains name axes =>
    obtain ⟨rfl, _⟩ := Prod.mk.inj (Except.ok.inj h)
    split
    · exact ⟨hcurrent, by simp⟩
    · exact current_afterAxis name (hcurrent axes rfl)
  | create name axes =>
    obtain ⟨axis, _, h⟩ := ok_bind h
    obtain ⟨points, _, h⟩ := ok_bind h
    obtain ⟨rfl, _⟩ := Prod.mk.inj (Except.ok.inj h)
    exact ⟨hcurrent, by simp⟩
  | dims name axes =>
    obtain ⟨rfl, _⟩ := Prod.mk.inj (Except.ok.inj h)
    exact current_afterAxis name (hcurrent axes rfl)
  | attachment =>
    obtain ⟨attachment, _, h⟩ := ok_bind h
    obtain ⟨rfl, _⟩ := Prod.mk.inj (Except.ok.inj h)
    exact ⟨hnew attachment, by simp⟩
  | hasValue attachment =>
    obtain ⟨value, _, h⟩ := ok_bind h
    obtain ⟨present, _, h⟩ := ok_bind h
    obtain ⟨rfl, _⟩ := Prod.mk.inj (Except.ok.inj h)
    split
    · exact ⟨hcurrent, by simp⟩
    · exact ⟨hnone, by simp⟩
  | length attachment =>
    obtain ⟨value, _, h⟩ := ok_bind h
    obtain ⟨byteSize, _, h⟩ := ok_bind h
    obtain ⟨rfl, _⟩ := Prod.mk.inj (Except.ok.inj h)
    exact ⟨hcurrent, by simp⟩
  | resize attachment byteSize =>
    simp only [advance] at h
    split at h
    · cases h
    · obtain ⟨rfl, _⟩ := Prod.mk.inj (Except.ok.inj h)
      exact ⟨hcurrent, by simp⟩
  | ifInline attachment byteSize =>
    obtain ⟨mode, _, h⟩ := ok_bind h
    obtain ⟨rfl, _⟩ := Prod.mk.inj (Except.ok.inj h)
    split
    · exact ⟨hcurrent, by simp⟩
    · exact ⟨hcurrent, by simp⟩
  | inlineValue attachment =>
    obtain ⟨value, _, h⟩ := ok_bind h
    obtain ⟨text, _, h⟩ := ok_bind h
    obtain ⟨rfl, _⟩ := Prod.mk.inj (Except.ok.inj h)
    exact ⟨hnone, by simp⟩
  | ifFile attachment byteSize =>
    obtain ⟨mode, _, h⟩ := ok_bind h
    obtain ⟨rfl, _⟩ := Prod.mk.inj (Except.ok.inj h)
    split
    · exact ⟨hcurrent, by simp⟩
    · exact ⟨hcurrent, by simp⟩
  | fname attachment byteSize =>
    obtain ⟨address, _, h⟩ := ok_bind h
    obtain ⟨name, _, h⟩ := ok_bind h
    obtain ⟨rfl, _⟩ := Prod.mk.inj (Except.ok.inj h)
    exact ⟨hnone, by simp⟩
  | file name byteSize =>
    obtain ⟨rfl, _⟩ := Prod.mk.inj (Except.ok.inj h)
    exact ⟨hnone, by simp⟩
  | ifHttp attachment =>
    obtain ⟨mode, _, h⟩ := ok_bind h
    obtain ⟨rfl, _⟩ := Prod.mk.inj (Except.ok.inj h)
    split
    · exact ⟨hcurrent, by simp⟩
    · exact ⟨hnone, by simp⟩
  | uri attachment =>
    obtain ⟨address, _, h⟩ := ok_bind h
    obtain ⟨uri, _, h⟩ := ok_bind h
    obtain ⟨rfl, _⟩ := Prod.mk.inj (Except.ok.inj h)
    exact ⟨hnone, by simp⟩
  | http address =>
    obtain ⟨written, _, h⟩ := ok_bind h
    obtain ⟨rfl, _⟩ := Prod.mk.inj (Except.ok.inj h)
    exact ⟨hnone, by simp⟩
  | returned written surroundings =>
    obtain ⟨rfl, _⟩ := Prod.mk.inj (Except.ok.inj h)
    exact ⟨hnone, by simp⟩

/-- The place belongs to this channel: what has been read is of it, and what is left will be. -/
structure ReadsChannel (memory : Nat) (serverUri : Bytes) (live : JsonValue) (s : PeakSpectrum)
    (place : ChannelPlace) (channel : JsonValue) : Prop where
  returned : ∀ written surroundings, place = .returned written surroundings →
    surroundings.memory = memory ∧
      PeakSpectrum.fromSpectrumChannel surroundings channel serverUri = .ok (s, written)
  going : (∀ written surroundings, place ≠ .returned written surroundings) →
    ∀ env : Environment, env.memory = memory →
      rest env serverUri live s place = PeakSpectrum.fromSpectrumChannel env channel serverUri

variable {memory : Nat} {channel : JsonValue}

theorem ReadsChannel.advance (h : ReadsChannel memory serverUri live s place channel)
    (hon : ∀ written surroundings, place ≠ .returned written surroundings)
    (hstep : PeakAnalyser.advance { env with memory } serverUri version live s place =
      .ok (place', s')) :
    ReadsChannel memory serverUri live s' place' channel := by
  constructor
  · intro written surroundings hwritten
    subst hwritten
    obtain rfl := surroundings_advance hon hstep
    refine ⟨rfl, ?_⟩
    rw [← h.going hon { env with memory } rfl, rest_advance hstep]
    rfl
  · intro hon' env' hmemory
    have hstep' : PeakAnalyser.advance env' serverUri version live s place = .ok (place', s') :=
      advance_env hmemory hstep hon'
    rw [← h.going hon env' hmemory, rest_advance hstep']

theorem ReadsChannel.congr {live' : JsonValue} (hsame : SameSpectrum live' live)
    (h : ReadsChannel memory serverUri live s place channel) :
    ReadsChannel memory serverUri live' s place channel := by
  refine ⟨h.returned, ?_⟩
  intro hon env hmemory
  rw [rest_congr hsame]
  exact h.going hon env hmemory

theorem ReadsChannel.of_not_inside {live' : JsonValue} (hinside : place.inside = false)
    (haxes : place ≠ .axes) (h : ReadsChannel memory serverUri live s place channel) :
    ReadsChannel memory serverUri live' s place channel := by
  refine ⟨h.returned, ?_⟩
  intro hon env hmemory
  rw [rest_of_not_inside hinside haxes]
  exact h.going hon env hmemory

theorem ReadsChannel.start (hsame : SameSpectrum live channel) :
    ReadsChannel memory serverUri live {} .axes channel := by
  constructor
  · intro written surroundings hwritten
    cases hwritten
  · intro _ env _
    rw [rest_congr hsame, rest_axes]

end Places

namespace SpectrumFeed

open PeakSpectrum (lineChannel inlineAttachment answering)

/-! ### The condition on the interleaving -/

/-- `fromSpectrumChannel` has begun to read `m_SpectrumLive` and has not finished. -/
def reads (w : SpectrumFeed) : Bool :=
  match w.task with
  | .reading place _ => place.inside
  | _ => false

/-- An update is an object and is not assigned while `fromSpectrumChannel` reads; `IsLast` is not
looked at between the two assignments of an update. -/
def apart (w : SpectrumFeed) : LiveLabel → Bool
  | .update _ => true
  | .callback _ =>
    match w.callback with
    | .assign channel => channel.isObject && !w.reads
    | _ => true
  | .spectrumTask elapsed _ =>
    match w.task, w.callback with
    | .check, .isLast => elapsed
    | _, _ => true

/-- The member `IsLast` is there and is a boolean. -/
def HasIsLast (value : JsonValue) : Prop :=
  ∃ isLast, value.itemOrNull "IsLast" = .ok (.boolean isLast, value)

/-- An image is what one of the notified channels holds, in the surroundings in which its data was
fetched. -/
def FromOne (memory : Nat) (serverUri : Bytes) (notified : List JsonValue) (image : LiveImage) :
    Prop :=
  image.surroundings.memory = memory ∧ ∃ channel ∈ notified,
    PeakSpectrum.fromSpectrumChannel image.surroundings channel serverUri =
      .ok (image.spectrum, image.written)

def TaskConsistent (memory : Nat) (serverUri : Bytes) (w : SpectrumFeed) : SpectrumTaskPlace → Prop
  | .wait | .aborted => True
  | .check => w.notified ≠ []
  | .reading place s => place.Current w.version ∧ (place = .axes → s = {}) ∧
      ∃ channel ∈ w.notified, ReadsChannel memory serverUri w.m_SpectrumLive s place channel
  | .terminated | .dangling => False

structure Consistent (memory : Nat) (serverUri : Bytes) (w : SpectrumFeed) : Prop where
  object : w.notified ≠ [] → w.m_SpectrumLive.isObject = true
  isLast : w.notified ≠ [] → w.callback ≠ .isLast → HasIsLast w.m_SpectrumLive
  same : ∀ channel, w.notified.getLast? = some channel → SameSpectrum w.m_SpectrumLive channel
  event : w.spectrumEvent = true → w.notified ≠ []
  update : w.callback = .isLast ∨ w.callback = .trigger → w.notified ≠ []
  task : TaskConsistent memory serverUri w w.task
  published : ∀ image ∈ w.published, FromOne memory serverUri w.notified image

variable {memory : Nat} {serverUri : Bytes} {w w' : SpectrumFeed}

theorem assign_isLast {value : JsonValue} (h : value.isObject = true) (isLast : Bool) :
    ∃ value', value.assign "IsLast" (.boolean isLast) = .ok value' ∧ value'.isObject = true ∧
      HasIsLast value' ∧ SameSpectrum value' value := by
  cases value with
  | object members =>
    refine ⟨_, rfl, rfl, ⟨isLast, ?_⟩, ?_, ?_⟩
    · simp only [JsonValue.itemOrNull, JsonValue.lookup_assignMember]
    · have hne : "SpectrumChannelSettings" ≠ "IsLast" := by decide
      simp only [JsonValue.item, JsonValue.lookup_assignMember_of_ne hne]
    · have hne : "CountByteData" ≠ "IsLast" := by decide
      simp only [JsonValue.item, JsonValue.lookup_assignMember_of_ne hne]
  | _ => cases h

theorem sameSpectrum_trans {a b c : JsonValue} (hab : SameSpectrum a b)
    (hbc : SameSpectrum b c) : SameSpectrum a c :=
  ⟨hab.settings.trans hbc.settings, hab.data.trans hbc.data⟩

/-- The task finds its surroundings as before, up to `IsLast`. -/
theorem TaskConsistent.congr {place : SpectrumTaskPlace} (hnotified : w'.notified = w.notified)
    (hsame : SameSpectrum w'.m_SpectrumLive w.m_SpectrumLive)
    (h : TaskConsistent memory serverUri w place) : TaskConsistent memory serverUri w' place := by
  cases place with
  | wait => exact trivial
  | aborted => exact trivial
  | check =>
    simp only [TaskConsistent, hnotified]
    exact h
  | reading place s =>
    obtain ⟨hcurrent, haxes, channel, hchannel, hreads⟩ := h
    have hversion : w'.version = w.version := by rw [version, version, hnotified]
    refine ⟨?_, haxes, channel, ?_, hreads.congr hsame⟩
    · rw [hversion]
      exact hcurrent
    · rw [hnotified]
      exact hchannel
  | terminated => exact h
  | dangling => exact h

theorem FromOne.mono {notified : List JsonValue} {channel : JsonValue} {image : LiveImage}
    (h : FromOne memory serverUri notified image) :
    FromOne memory serverUri (notified ++ [channel]) image := by
  obtain ⟨hmemory, channel', hchannel, himage⟩ := h
  exact ⟨hmemory, channel', List.mem_append_left _ hchannel, himage⟩

/-- Line 474: what `spectrumTask` is doing does not meet the new channel. -/
theorem TaskConsistent.assign {channel : JsonValue} (hreads : w.reads = false)
    (h : TaskConsistent memory serverUri w w.task) :
    TaskConsistent memory serverUri { w with
      m_SpectrumLive := channel
      notified := w.notified ++ [channel]
      callback := .isLast } w.task := by
  cases htask : w.task with
  | wait => exact trivial
  | aborted => exact trivial
  | check => simp [TaskConsistent]
  | reading place s =>
    rw [htask] at h
    obtain ⟨_, haxes, channel', hchannel', hchannelReads⟩ := h
    have hinside : place.inside = false := by simpa [reads, htask] using hreads
    refine ⟨?_, haxes, ?_⟩
    · intro reference hreference
      cases place with
      | axes => cases hreference
      | file name byteSize => cases hreference
      | http address => cases hreference
      | returned written surroundings => cases hreference
      | _ => cases hinside
    · by_cases hplace : place = .axes
      · subst hplace
        obtain rfl := haxes rfl
        exact ⟨channel, List.mem_append_right _ List.mem_cons_self, ReadsChannel.start ⟨rfl, rfl⟩⟩
      · refine ⟨channel', List.mem_append_left _ hchannel', ?_⟩
        exact hchannelReads.of_not_inside hinside hplace
  | terminated =>
    rw [htask] at h
    exact h
  | dangling =>
    rw [htask] at h
    exact h

theorem consistent_callback {isLast : Bool} (h : Consistent memory serverUri w)
    (hok : w.apart (.callback isLast) = true) (hstep : w.spectrumUpdate isLast = some w') :
    Consistent memory serverUri w' := by
  unfold spectrumUpdate at hstep
  cases hcallback : w.callback with
  | idle =>
    simp only [hcallback] at hstep
    cases hstep
  | assign channel =>
    simp only [hcallback] at hstep
    obtain rfl := Option.some.inj hstep
    obtain ⟨hobject, hreads⟩ : channel.isObject = true ∧ w.reads = false := by
      simpa [apart, hcallback] using hok
    constructor
    · intro _
      exact hobject
    · intro _ hne
      exact absurd rfl hne
    · intro channel' hlast
      rw [List.getLast?_append, List.getLast?_singleton, Option.some_or] at hlast
      obtain rfl := Option.some.inj hlast
      exact ⟨rfl, rfl⟩
    · intro _
      simp
    · intro _
      simp
    · exact h.task.assign hreads
    · intro image himage
      exact (h.published image himage).mono
  | isLast =>
    have hnotified : w.notified ≠ [] := h.update (.inl hcallback)
    obtain ⟨value, hassign, hobject, hmember, hsame⟩ := assign_isLast (h.object hnotified) isLast
    simp only [hcallback, hassign] at hstep
    obtain rfl := Option.some.inj hstep
    constructor
    · intro _
      exact hobject
    · intro _ _
      exact hmember
    · intro channel hlast
      exact sameSpectrum_trans hsame (h.same channel hlast)
    · exact h.event
    · intro _
      exact hnotified
    · exact TaskConsistent.congr (w := w) rfl hsame h.task
    · exact h.published
  | trigger =>
    have hnotified : w.notified ≠ [] := h.update (.inr hcallback)
    simp only [hcallback] at hstep
    obtain rfl := Option.some.inj hstep
    constructor
    · exact h.object
    · intro _ _
      exact h.isLast hnotified (by rw [hcallback]; intro hne; cases hne)
    · exact h.same
    · intro _
      exact hnotified
    · intro hidle
      rcases hidle with hidle | hidle <;> cases hidle
    · exact TaskConsistent.congr (w := w) rfl ⟨rfl, rfl⟩ h.task
    · exact h.published

/-- A step of `spectrumTask` that changes nothing else than where it is. -/
theorem Consistent.move {place : SpectrumTaskPlace} (h : Consistent memory serverUri w)
    (hplace : TaskConsistent memory serverUri w place) :
    Consistent memory serverUri { w with task := place } :=
  ⟨h.object, h.isLast, h.same, h.event, h.update, hplace.congr rfl ⟨rfl, rfl⟩, h.published⟩

/-- `fromSpectrumChannel` is called with the channel of the last notification. -/
theorem starts (h : Consistent memory serverUri w) (hnotified : w.notified ≠ []) :
    TaskConsistent memory serverUri w (.reading .axes {}) := by
  refine ⟨?_, fun _ => rfl, ?_⟩
  · intro reference hreference
    cases hreference
  · obtain ⟨channel, hlast⟩ : ∃ channel, w.notified.getLast? = some channel :=
      ⟨_, List.getLast?_eq_some_getLast hnotified⟩
    exact ⟨channel, List.mem_of_getLast? hlast, ReadsChannel.start (h.same channel hlast)⟩

theorem consistent_check (h : Consistent memory serverUri w) (hnotified : w.notified ≠ [])
    (hcallback : w.callback ≠ .isLast) : Consistent memory serverUri w.checkIsLast := by
  obtain ⟨isLast, hmember⟩ := h.isLast hnotified hcallback
  unfold checkIsLast
  simp only [hmember, JsonValue.getBool]
  cases isLast with
  | false => exact h.move trivial
  | true => exact h.move (starts h hnotified)

theorem spectrumTask_reading {env : Environment} {elapsed : Bool} {place : ChannelPlace}
    {s : PeakSpectrum} (htask : w.task = .reading place s)
    (hon : ∀ written surroundings, place ≠ .returned written surroundings)
    (hcurrent : place.Current w.version) :
    w.spectrumTask memory serverUri elapsed env =
      match advance { env with memory } serverUri w.version w.m_SpectrumLive s place with
      | .error exception => some (w.caughtBy exception)
      | .ok (place, s) => some { w with task := .reading place s } := by
  have hreads := hcurrent.reads
  unfold spectrumTask
  rw [htask]
  cases place with
  | returned written surroundings => exact absurd rfl (hon written surroundings)
  | _ => exact if_pos hreads

theorem consistent_reading {env : Environment} {elapsed : Bool} {place : ChannelPlace}
    {s : PeakSpectrum} (h : Consistent memory serverUri w) (htask : w.task = .reading place s)
    (hstep : w.spectrumTask memory serverUri elapsed env = some w') :
    Consistent memory serverUri w' := by
  have hplace := h.task
  rw [htask] at hplace
  obtain ⟨hcurrent, haxes, channel, hchannel, hreads⟩ := hplace
  by_cases hon : ∀ written surroundings, place ≠ .returned written surroundings
  · rw [spectrumTask_reading htask hon hcurrent] at hstep
    split at hstep
    · rename_i exception hexception
      obtain rfl := Option.some.inj hstep
      cases exception <;> exact h.move trivial
    · rename_i place' s' hadvance
      obtain rfl := Option.some.inj hstep
      obtain ⟨hcurrent', hne⟩ := current_advance hadvance hcurrent
      apply h.move
      refine ⟨hcurrent', ?_, channel, hchannel, hreads.advance hon hadvance⟩
      intro haxes'
      exact absurd haxes' hne
  · simp only [not_forall, not_not] at hon
    obtain ⟨written, surroundings, rfl⟩ := hon
    unfold spectrumTask at hstep
    simp only [htask] at hstep
    obtain rfl := Option.some.inj hstep
    obtain ⟨hmemory, himage⟩ := hreads.returned written surroundings rfl
    refine ⟨h.object, h.isLast, h.same, h.event, h.update, trivial, ?_⟩
    intro image hmem
    rcases List.mem_append.mp hmem with hold | hnew
    · exact h.published image hold
    · obtain rfl := List.mem_singleton.mp hnew
      exact ⟨hmemory, channel, hchannel, himage⟩

theorem consistent_task {env : Environment} {elapsed : Bool} (h : Consistent memory serverUri w)
    (hok : w.apart (.spectrumTask elapsed env) = true)
    (hstep : w.spectrumTask memory serverUri elapsed env = some w') :
    Consistent memory serverUri w' := by
  cases htask : w.task with
  | wait =>
    unfold spectrumTask at hstep
    simp only [htask] at hstep
    split at hstep
    · rename_i hevent
      obtain rfl := Option.some.inj hstep
      refine ⟨h.object, h.isLast, h.same, ?_, h.update, h.event hevent, h.published⟩
      intro hfalse
      cases hfalse
    · cases hstep
  | check =>
    have hnotified : w.notified ≠ [] := by
      have hplace := h.task
      rw [htask] at hplace
      exact hplace
    unfold spectrumTask at hstep
    simp only [htask] at hstep
    obtain rfl := Option.some.inj hstep
    cases elapsed with
    | true => exact h.move (starts h hnotified)
    | false =>
      apply consistent_check h hnotified
      intro hcallback
      simp [apart, htask, hcallback] at hok
  | reading place s => exact consistent_reading h htask hstep
  | terminated =>
    unfold spectrumTask at hstep
    simp only [htask] at hstep
    cases hstep
  | aborted =>
    unfold spectrumTask at hstep
    simp only [htask] at hstep
    cases hstep
  | dangling =>
    unfold spectrumTask at hstep
    simp only [htask] at hstep
    cases hstep

theorem consistent_step {l : LiveLabel} (h : Consistent memory serverUri w) (hok : w.apart l = true)
    (hstep : w.step memory serverUri l = some w') : Consistent memory serverUri w' := by
  cases l with
  | update channel =>
    simp only [step] at hstep
    split at hstep
    · obtain rfl := Option.some.inj hstep
      rename_i hidle
      refine ⟨h.object, ?_, h.same, h.event, ?_, ?_, h.published⟩
      · intro hnotified _
        exact h.isLast hnotified (by rw [hidle]; intro hne; cases hne)
      · intro hplace
        rcases hplace with hplace | hplace <;> cases hplace
      · exact TaskConsistent.congr (w := w) rfl ⟨rfl, rfl⟩ h.task
    · cases hstep
  | callback isLast => exact consistent_callback h hok hstep
  | spectrumTask elapsed env => exact consistent_task h hok hstep

theorem consistent_start : Consistent memory serverUri {} := by
  constructor
  · intro hne
    exact absurd rfl hne
  · intro hne
    exact absurd rfl hne
  · intro channel hlast
    cases hlast
  · intro hevent
    cases hevent
  · intro hplace
    rcases hplace with hplace | hplace <;> cases hplace
  · exact trivial
  · intro image himage
    cases himage

/-- In every interleaving that keeps the two loops apart at those two places, `IsLast` is there
when it is looked at, no reference dangles, and each live image comes from one notification. -/
theorem live_images_consistent
    (h : Run (step memory serverUri) (fun w l => w.apart l = true) {} w) :
    (w.task = .check → w.callback ≠ .isLast → HasIsLast w.m_SpectrumLive) ∧
      (∀ l, w.apart l = true → ∀ w', w.step memory serverUri l = some w' →
        w'.task ≠ .terminated ∧ w'.task ≠ .dangling) ∧
      ∀ image ∈ w.published, FromOne memory serverUri w.notified image := by
  have hw : Consistent memory serverUri w :=
    h.invariant (fun _ _ _ ha hok hstep => consistent_step ha hok hstep) consistent_start
  refine ⟨?_, ?_, hw.published⟩
  · intro hcheck hcallback
    have hplace := hw.task
    rw [hcheck] at hplace
    exact hw.isLast hplace hcallback
  · intro l hok w' hstep
    have htask := (consistent_step hw hok hstep).task
    constructor
    · intro hterminated
      rw [hterminated] at htask
      exact htask
    · intro hdangling
      rw [hdangling] at htask
      exact htask

/-! ### Two updates -/

def detachedAttachment : JsonValue := .object [("HasValue", .boolean false)]

/-- An update comes in, is signalled, and wakes the task. -/
def firstUpdate : List LiveLabel :=
  [.update (lineChannel 1 detachedAttachment), .callback false, .callback false, .callback false,
    .spectrumTask false (answering 200 [])]

/-- As many statements of `spectrumTask`. -/
def statements (n : Nat) : List LiveLabel :=
  List.replicate n (.spectrumTask true (answering 200 []))

theorem live_images_consistent_line :
    ∃ w, Run (step 0x100000 []) (fun w l => w.apart l = true) {} w ∧
      w.published.map LiveImage.spectrum = [{ dims := [1], xaxis := [7] }] ∧
      ∀ image ∈ w.published, FromOne 0x100000 [] w.notified image := by
  have hreaches : reaches (step 0x100000 []) (fun w l => w.apart l = true) {}
      (firstUpdate ++ statements 10)
      (fun w => w.published.map LiveImage.spectrum = [{ dims := [1], xaxis := [7] }]) = true := by
    decide +kernel
  obtain ⟨w, hrun, hpublished⟩ := run_of_reaches hreaches
  exact ⟨w, hrun, of_decide_eq_true hpublished, (live_images_consistent hrun).2.2⟩

def hasTerminated (w : SpectrumFeed) : Bool :=
  match w.task with
  | .terminated => true
  | _ => false

/-- With the second update assigned and not yet marked, the member is missing; assigned between
the axes and the attachment, it gives its data to the axes of the first. -/
theorem second_update_interferes :
    (∃ w, Run (step 0x100000 []) always {} w ∧ w.hasTerminated = true) ∧
      ∃ w, Run (step 0x100000 []) always {} w ∧ ∃ image ∈ w.published, ∀ channel ∈ w.notified,
        PeakSpectrum.fromSpectrumChannel image.surroundings channel [] ≠
          .ok (image.spectrum, image.written) := by
  constructor
  · apply run_of_reaches
    have hreaches : reaches (step 0x100000 []) always {}
        (firstUpdate ++ [.update (lineChannel 2 inlineAttachment), .callback false,
          .spectrumTask false (answering 200 [])])
        hasTerminated = true := by
      decide +kernel
    exact hreaches
  · have hreaches : reaches (step 0x100000 []) always {}
        (firstUpdate ++ statements 7 ++
          [.update (lineChannel 2 inlineAttachment), .callback false] ++ statements 7)
        (fun w => w.published.any fun image => w.notified.all fun channel =>
          PeakSpectrum.fromSpectrumChannel image.surroundings channel [] ≠
            .ok (image.spectrum, image.written)) = true := by
      decide +kernel
    obtain ⟨w, hrun, htorn⟩ := run_of_reaches hreaches
    obtain ⟨image, himage, hall⟩ := List.any_eq_true.mp htorn
    refine ⟨w, hrun, image, himage, ?_⟩
    intro channel hchannel
    exact of_decide_eq_true (List.all_eq_true.mp hall channel hchannel)

end SpectrumFeed

end PeakAnalyser
