import PeakAnalyser.SpectrumDefinition

/-!
# The estimated time as a text

`strftime` writes days, hours, minutes and seconds for `AcqETAStr` and leaves out the leading
fields that are 0. It takes the rest of the hours modulo 3500 instead of 3600, so that the text is
right in the first 3500 seconds of a day only.
-/

namespace PeakAnalyser

set_option autoImplicit false

structure Duration where
  days : Nat
  hours : Nat
  minutes : Nat
  seconds : Nat
  deriving DecidableEq

/-! ### Reading the text back -/

/-- A field of two digits, and the text after it. -/
def readField : List Char → Option (Nat × List Char)
  | a :: b :: text =>
    if a.isDigit && b.isDigit then some (Nat.ofDigitChars 10 [a, b] 0, text) else none
  | _ => none

/-- The seconds, and before them the minutes, and before these the hours, if they are there. -/
def readClock (text : List Char) : Option (Nat × Nat × Nat) := do
  let (a, text) ← readField text
  match text with
  | [] => some (0, 0, a)
  | ':' :: text =>
    let (b, text) ← readField text
    match text with
    | [] => some (0, a, b)
    | ':' :: text =>
      let (c, text) ← readField text
      if text = [] then some (a, b, c) else none
    | _ => none
  | _ => none

/-- The number before ` days `, if it is there, and the text after it. -/
def readDays (text : List Char) : Nat × List Char :=
  match (text.dropWhile Char.isDigit).dropPrefix? " days ".toList with
  | some clock => (Nat.ofDigitChars 10 (text.takeWhile Char.isDigit) 0, clock)
  | none => (0, text)

def readDuration (text : String) : Option Duration :=
  let (days, clock) := readDays text.toList
  (readClock clock).map fun (hours, minutes, seconds) => ⟨days, hours, minutes, seconds⟩

/-! ### The fields -/

/-- The text of the four fields, as `strftime` puts it together. -/
def timeText (days hours minutes seconds : Nat) : String :=
  let time := if days ≠ 0 then toString days ++ " days " else ""
  let time := if hours ≠ 0 ∨ time ≠ "" then time ++ digits (twoDigits hours ++ ":") else time
  let time := if minutes ≠ 0 ∨ time ≠ "" then time ++ digits (twoDigits minutes ++ ":") else time
  time ++ digits (twoDigits seconds)

theorem strftime_natCast (n : Nat) : strftime n =
    timeText (n / 86400) (n % 86400 / 3600) (n % 86400 % 3500 / 60) (n % 86400 % 3500 % 60) := by
  have hdays : ((n / 86400 : Nat) : Int) ≠ 0 ↔ n / 86400 ≠ 0 := Int.natCast_ne_zero
  have hhours : ((n % 86400 / 3600 : Nat) : Int) ≠ 0 ↔ n % 86400 / 3600 ≠ 0 := Int.natCast_ne_zero
  have hminutes : ((n % 86400 % 3500 / 60 : Nat) : Int) ≠ 0 ↔ n % 86400 % 3500 / 60 ≠ 0 :=
    Int.natCast_ne_zero
  have hdaysText : toString ((n / 86400 : Nat) : Int) = toString (n / 86400) := rfl
  unfold timeText
  simp only [← hdays, ← hhours, ← hminutes, ← hdaysText]
  rfl

/-- The texts that `strftime` prints into its buffer of four bytes, the last character of which is
the end of the text. -/
def printedFields (seconds : Int) : List String :=
  let seconds := seconds.tmod 86400
  let hours := seconds.tdiv 3600
  let seconds := seconds.tmod 3500
  let minutes := seconds.tdiv 60
  let seconds := seconds.tmod 60
  [twoDigits hours ++ ":", twoDigits minutes ++ ":", twoDigits seconds]

section Fields

variable {n : Nat}

theorem twoDigits_toList (h : n < 100) :
    (twoDigits n).toList = [Nat.digitChar (n / 10), Nat.digitChar (n % 10)] := by
  have hall : ∀ k : Fin 100, (twoDigits (k.val : Int)).toList =
      [Nat.digitChar (k / 10), Nat.digitChar (k % 10)] := by
    decide +kernel
  exact hall ⟨n, h⟩

theorem digits_twoDigits (h : n < 100) : digits (twoDigits n) = twoDigits n := by
  apply String.toList_inj.mp
  rw [digits, String.toList_ofList, twoDigits_toList h]
  rfl

theorem digits_twoDigits_colon (h : n < 100) :
    digits (twoDigits n ++ ":") = twoDigits n ++ ":" := by
  apply String.toList_inj.mp
  rw [digits, String.toList_ofList, String.toList_append, twoDigits_toList h]
  rfl

theorem readField_twoDigits (h : n < 100) (text : List Char) :
    readField ((twoDigits n).toList ++ text) = some (n, text) := by
  have hall : ∀ k : Fin 100, (Nat.digitChar (k / 10)).isDigit = true ∧
      (Nat.digitChar (k % 10)).isDigit = true ∧
      Nat.ofDigitChars 10 [Nat.digitChar (k / 10), Nat.digitChar (k % 10)] 0 = k := by
    decide +kernel
  obtain ⟨htens, hones, hvalue⟩ := hall ⟨n, h⟩
  rw [twoDigits_toList h]
  simp only [List.cons_append, List.nil_append, readField, htens, hones, Bool.and_self, if_true]
  rw [hvalue]

/-- Behind the first field there is no ` days `. -/
theorem readDays_twoDigits (h : n < 100) {text : List Char}
    (htext : text = [] ∨ ∃ rest, text = ':' :: rest) :
    readDays ((twoDigits n).toList ++ text) = (0, (twoDigits n).toList ++ text) := by
  have hall : ∀ k : Fin 100, (Nat.digitChar (k / 10)).isDigit = true ∧
      (Nat.digitChar (k % 10)).isDigit = true := by
    decide +kernel
  obtain ⟨htens, hones⟩ := hall ⟨n, h⟩
  have hrest : ((twoDigits n).toList ++ text).dropWhile Char.isDigit = text := by
    rw [twoDigits_toList h]
    simp only [List.cons_append, List.nil_append]
    rw [List.dropWhile_cons_of_pos htens, List.dropWhile_cons_of_pos hones]
    rcases htext with rfl | ⟨rest, rfl⟩
    · rfl
    · exact List.dropWhile_cons_of_neg (by decide)
  unfold readDays
  rw [hrest]
  rcases htext with rfl | ⟨rest, rfl⟩
  · rfl
  · rfl

end Fields

theorem readDays_toString (n : Nat) (clock : List Char) :
    readDays ((toString n ++ " days ").toList ++ clock) = (n, clock) := by
  have hdigits : ∀ c ∈ Nat.toDigits 10 n, c.isDigit = true := fun _ hc =>
    Nat.isDigit_of_mem_toDigits (by decide) (by decide) hc
  have htext : (toString n ++ " days ").toList ++ clock =
      Nat.toDigits 10 n ++ (" days ".toList ++ clock) := by
    rw [String.toList_append, List.append_assoc, Nat.toString_eq_ofList_toDigits,
      String.toList_ofList]
  have hspace : (" days ".toList ++ clock).dropWhile Char.isDigit = " days ".toList ++ clock :=
    List.dropWhile_cons_of_neg (by decide)
  have hnumber : (" days ".toList ++ clock).takeWhile Char.isDigit = [] :=
    List.takeWhile_cons_of_neg (by decide)
  unfold readDays
  rw [htext, List.dropWhile_append_of_pos hdigits, List.takeWhile_append_of_pos hdigits, hspace,
    hnumber, List.append_nil, Nat.ofDigitChars_ten_toDigits]
  have hclock : (" days ".toList ++ clock).dropPrefix? " days ".toList = some clock :=
    List.dropPrefix?_eq_some_iff.mpr ⟨" days ".toList, rfl, beq_self_eq_true _⟩
  rw [hclock]

/-! ### What the text tells -/

theorem readClock_seconds {s : Nat} (hs : s < 100) :
    readClock (twoDigits s).toList = some (0, 0, s) := by
  have hfield := readField_twoDigits hs []
  rw [List.append_nil] at hfield
  simp [readClock, hfield]

theorem readClock_minutes {m s : Nat} (hm : m < 100) (hs : s < 100) :
    readClock ((twoDigits m).toList ++ ':' :: (twoDigits s).toList) = some (0, m, s) := by
  have hfield := readField_twoDigits hs []
  rw [List.append_nil] at hfield
  simp [readClock, readField_twoDigits hm, hfield]

theorem readClock_hours {h m s : Nat} (hh : h < 100) (hm : m < 100) (hs : s < 100) :
    readClock ((twoDigits h).toList ++ ':' :: ((twoDigits m).toList ++
      ':' :: (twoDigits s).toList)) = some (h, m, s) := by
  have hfield := readField_twoDigits hs []
  rw [List.append_nil] at hfield
  simp [readClock, readField_twoDigits hh, readField_twoDigits hm, hfield]

/-- The fields are read as they were written, left out or not. -/
theorem readDuration_timeText (days : Nat) {h m s : Nat} (hh : h < 100) (hm : m < 100)
    (hs : s < 100) : readDuration (timeText days h m s) = some ⟨days, h, m, s⟩ := by
  have hcolon : (":" : String).toList = [':'] := rfl
  have hclock := readClock_hours hh hm hs
  unfold readDuration
  by_cases hdays : days = 0
  · subst hdays
    by_cases hhours : h = 0
    · subst hhours
      by_cases hminutes : m = 0
      · subst hminutes
        have hread := readDays_twoDigits hs (Or.inl rfl)
        rw [List.append_nil] at hread
        have htext : timeText 0 0 0 s = twoDigits s := by
          simp [timeText, digits_twoDigits hs]
        rw [htext, hread]
        simp [readClock_seconds hs]
      · have htext : (timeText 0 0 m s).toList =
            (twoDigits m).toList ++ ':' :: (twoDigits s).toList := by
          simp [timeText, hminutes, hcolon, digits_twoDigits_colon hm, digits_twoDigits hs]
        rw [htext, readDays_twoDigits hm (Or.inr ⟨_, rfl⟩)]
        simp [readClock_minutes hm hs]
    · have htext : (timeText 0 h m s).toList = (twoDigits h).toList ++
          ':' :: ((twoDigits m).toList ++ ':' :: (twoDigits s).toList) := by
        simp [timeText, hhours, hcolon, digits_twoDigits_colon hh, digits_twoDigits_colon hm,
          digits_twoDigits hs]
      rw [htext, readDays_twoDigits hh (Or.inr ⟨_, rfl⟩)]
      simp [hclock]
  · have htext : (timeText days h m s).toList = (toString days ++ " days ").toList ++
        ((twoDigits h).toList ++ ':' :: ((twoDigits m).toList ++ ':' :: (twoDigits s).toList)) := by
      simp [timeText, hdays, hcolon, digits_twoDigits_colon hh, digits_twoDigits_colon hm,
        digits_twoDigits hs]
    rw [htext, readDays_toString]
    simp [hclock]

/-- The text that `strftime` makes of a number of seconds tells it, in hours of a day and minutes
and seconds below 60, and every field has room in its buffer. -/
structure TellsDuration (seconds : Nat) : Prop where
  reads : ∃ d, readDuration (strftime seconds) = some d ∧
    d.days * 86400 + d.hours * 3600 + d.minutes * 60 + d.seconds = seconds ∧
    d.hours < 24 ∧ d.minutes < 60 ∧ d.seconds < 60
  fits : ∀ field ∈ printedFields seconds, field.length + 1 ≤ 4

theorem length_twoDigits {n : Nat} (h : n < 100) : (twoDigits n).length = 2 := by
  rw [← String.length_toList, twoDigits_toList h]
  rfl

theorem printedFields_fit (seconds : Nat) :
    ∀ field ∈ printedFields seconds, field.length + 1 ≤ 4 := by
  have hfields : printedFields seconds =
      [twoDigits (seconds % 86400 / 3600 : Nat) ++ ":",
        twoDigits (seconds % 86400 % 3500 / 60 : Nat) ++ ":",
        twoDigits (seconds % 86400 % 3500 % 60 : Nat)] := rfl
  have hcolon : (":" : String).length = 1 := rfl
  have hhours := length_twoDigits (n := seconds % 86400 / 3600) (by omega)
  have hminutes := length_twoDigits (n := seconds % 86400 % 3500 / 60) (by omega)
  have hseconds := length_twoDigits (n := seconds % 86400 % 3500 % 60) (by omega)
  rw [hfields]
  intro field hfield
  simp only [List.mem_cons, List.not_mem_nil, or_false] at hfield
  rcases hfield with rfl | rfl | rfl
  · rw [String.length_append, hhours, hcolon]
  · rw [String.length_append, hminutes, hcolon]
  · rw [hseconds]
    omega

/-- The text is right in the first 3500 seconds of each day. -/
theorem tellsDuration_iff (seconds : Nat) : TellsDuration seconds ↔ seconds % 86400 < 3500 := by
  have hread := readDuration_timeText (seconds / 86400) (h := seconds % 86400 / 3600)
    (m := seconds % 86400 % 3500 / 60) (s := seconds % 86400 % 3500 % 60) (by omega) (by omega)
    (by omega)
  rw [← strftime_natCast] at hread
  constructor
  · intro h
    obtain ⟨d, hd, htotal, _⟩ := h.reads
    obtain rfl := Option.some.inj (hread.symm.trans hd)
    dsimp only at htotal
    omega
  · intro h
    refine ⟨⟨_, hread, ?_, ?_, ?_, ?_⟩, printedFields_fit seconds⟩ <;> dsimp only <;> omega

/-- One hour is shown as one hour, one minute and 40 seconds. -/
theorem strftime_hour : strftime 3600 = "01:01:40" ∧ ¬ TellsDuration 3600 := by
  refine ⟨by decide +kernel, ?_⟩
  rw [tellsDuration_iff]
  decide

end PeakAnalyser
