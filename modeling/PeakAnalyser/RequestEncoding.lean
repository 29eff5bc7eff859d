import PeakAnalyser.HTTPCommon

/-!
# The texts of a request

Header maps in the order of their keys, a header line as `doRequest` writes it and
`parseHeaderLine` reads it, and the decimal text of a length.
-/

namespace PeakAnalyser

set_option autoImplicit false

/-! ### Header maps -/

namespace Headers

variable {headers headers' : Headers} {key value : Bytes}

/-- The invariant of `std::map`. -/
def Sorted (headers : Headers) : Prop := headers.Pairwise fun a b => a.1 < b.1

theorem key_trichotomy (k k' : Bytes) : k < k' ∨ k = k' ∨ k' < k := by
  by_cases hlt : k < k'
  · exact .inl hlt
  · by_cases hgt : k' < k
    · exact .inr (.inr hgt)
    · exact .inr (.inl (List.le_antisymm (List.not_lt.mp hgt) (List.not_lt.mp hlt)))

theorem lookup_insert (headers : Headers) (key value k : Bytes) :
    (headers.insert key value).lookup k = if k = key then some value else headers.lookup k := by
  induction headers with
  | nil => by_cases hk : k = key <;> simp [insert, List.lookup_cons, hk, beq_eq_false_iff_ne.mpr]
  | cons entry rest ih =>
    obtain ⟨k', v⟩ := entry
    simp only [insert]
    split
    · by_cases hk : k = key
      · simp [hk]
      · simp [List.lookup_cons, hk, beq_eq_false_iff_ne.mpr hk]
    · split
      · rename_i hkey
        subst hkey
        by_cases hk : k = key
        · simp [hk]
        · simp [List.lookup_cons, hk, beq_eq_false_iff_ne.mpr hk]
      · rename_i hne
        by_cases hk : k = k'
        · have hkey : k ≠ key := fun heq => hne (heq.symm.trans hk)
          simp [hk, hk ▸ hkey]
        · simp only [List.lookup_cons, beq_eq_false_iff_ne.mpr hk]
          exact ih

theorem mem_insert {entry : Bytes × Bytes} (h : entry ∈ headers.insert key value) :
    entry = (key, value) ∨ entry ∈ headers := by
  induction headers with
  | nil => exact .inl (List.mem_singleton.mp h)
  | cons head rest ih =>
    obtain ⟨k, v⟩ := head
    simp only [insert] at h
    split at h
    · exact List.mem_cons.mp h
    · split at h
      · rcases List.mem_cons.mp h with h | h
        · exact .inl h
        · exact .inr (List.mem_cons_of_mem _ h)
      · rcases List.mem_cons.mp h with h | h
        · exact .inr (h ▸ List.mem_cons_self)
        · exact (ih h).imp_right (List.mem_cons_of_mem _)

theorem Sorted.insert (h : headers.Sorted) (key value : Bytes) :
    (headers.insert key value).Sorted := by
  induction headers with
  | nil => exact List.pairwise_singleton ..
  | cons head rest ih =>
    obtain ⟨k, v⟩ := head
    obtain ⟨hhead, hrest⟩ := List.pairwise_cons.mp h
    simp only [Headers.insert]
    split
    · rename_i hlt
      refine List.pairwise_cons.mpr ⟨?_, h⟩
      intro entry hentry
      rcases List.mem_cons.mp hentry with rfl | hentry
      · exact hlt
      · exact List.lt_trans hlt (hhead entry hentry)
    · split
      · rename_i hkey
        subst hkey
        exact List.pairwise_cons.mpr ⟨hhead, hrest⟩
      · rename_i hlt hne
        refine List.pairwise_cons.mpr ⟨?_, ih hrest⟩
        intro entry hentry
        rcases mem_insert hentry with rfl | hentry
        · rcases key_trichotomy key k with h | h | h
          · exact absurd h hlt
          · exact absurd h hne
          · exact h
        · exact hhead entry hentry

theorem lookup_eq_none (h : ∀ entry ∈ headers, entry.1 ≠ key) : headers.lookup key = none := by
  apply List.lookup_eq_none_iff.mpr
  intro entry hentry
  simpa using (h entry hentry).symm

/-- A sorted map is known by its values. -/
theorem Sorted.ext (h : headers.Sorted) (h' : headers'.Sorted)
    (hlookup : ∀ k, headers.lookup k = headers'.lookup k) : headers = headers' := by
  induction headers generalizing headers' with
  | nil =>
    cases headers' with
    | nil => rfl
    | cons head rest =>
      obtain ⟨k, v⟩ := head
      have hk := hlookup k
      simp at hk
  | cons head rest ih =>
    obtain ⟨k, v⟩ := head
    obtain ⟨hhead, hrest⟩ := List.pairwise_cons.mp h
    cases headers' with
    | nil =>
      have hk := hlookup k
      simp at hk
    | cons head' rest' =>
      obtain ⟨k', v'⟩ := head'
      obtain ⟨hhead', hrest'⟩ := List.pairwise_cons.mp h'
      have hsmallest : k = k' := by
        rcases key_trichotomy k k' with hlt | heq | hgt
        · have hnone : List.lookup k ((k', v') :: rest') = none := by
            apply lookup_eq_none
            intro entry hentry heq
            rcases List.mem_cons.mp hentry with rfl | hentry
            · exact List.lt_irrefl _ (heq ▸ hlt)
            · exact List.lt_irrefl _ (List.lt_trans (heq ▸ hlt) (hhead' entry hentry))
          have hk := hlookup k
          rw [hnone] at hk
          simp at hk
        · exact heq
        · have hnone : List.lookup k' ((k, v) :: rest) = none := by
            apply lookup_eq_none
            intro entry hentry heq
            rcases List.mem_cons.mp hentry with rfl | hentry
            · exact List.lt_irrefl _ (heq ▸ hgt)
            · exact List.lt_irrefl _ (List.lt_trans (heq ▸ hgt) (hhead entry hentry))
          have hk := hlookup k'
          rw [hnone] at hk
          simp at hk
      subst hsmallest
      have hv := hlookup k
      simp only [List.lookup_cons, beq_self_eq_true, Option.some.injEq] at hv
      subst hv
      congr 1
      apply ih hrest hrest'
      intro j
      by_cases hj : j = k
      · subst hj
        rw [lookup_eq_none, lookup_eq_none]
        · exact fun entry hentry heq => List.lt_irrefl _ (heq ▸ hhead' entry hentry)
        · exact fun entry hentry heq => List.lt_irrefl _ (heq ▸ hhead entry hentry)
      · have hlook := hlookup j
        simpa only [List.lookup_cons, beq_eq_false_iff_ne.mpr hj] using hlook

/-- The headers entered one after the other. -/
def insertAll (headers : Headers) (entries : List (Bytes × Bytes)) : Headers :=
  entries.foldl (fun headers (key, value) => headers.insert key value) headers

theorem Sorted.insertAll (h : headers.Sorted) (entries : List (Bytes × Bytes)) :
    (headers.insertAll entries).Sorted := by
  induction entries generalizing headers with
  | nil => exact h
  | cons entry rest ih => exact ih (h.insert entry.1 entry.2)

theorem lookup_insertAll {entries : Headers} (h : entries.Sorted) (headers : Headers) (k : Bytes) :
    (headers.insertAll entries).lookup k = (entries.lookup k).or (headers.lookup k) := by
  induction entries generalizing headers with
  | nil => rfl
  | cons entry rest ih =>
    obtain ⟨key, value⟩ := entry
    obtain ⟨hhead, hrest⟩ := List.pairwise_cons.mp h
    have hstep : (headers.insertAll ((key, value) :: rest)).lookup k =
        (rest.lookup k).or ((headers.insert key value).lookup k) := ih hrest _
    rw [hstep, lookup_insert]
    by_cases hk : k = key
    · subst hk
      rw [lookup_eq_none]
      · simp
      · exact fun entry hentry heq => List.lt_irrefl _ (heq ▸ hhead entry hentry)
    · rw [if_neg hk]
      simp only [List.lookup_cons, beq_eq_false_iff_ne.mpr hk]

/-- It makes no difference whether a new header comes first or last. -/
theorem insertAll_singleton {entries : Headers} (h : entries.Sorted)
    (hkey : ∀ entry ∈ entries, entry.1 ≠ key) :
    insertAll [(key, value)] entries = entries.insert key value := by
  apply Sorted.ext
  · exact Sorted.insertAll (List.pairwise_singleton ..) entries
  · exact h.insert key value
  · intro k
    rw [lookup_insertAll h, lookup_insert]
    by_cases hk : k = key
    · subst hk
      rw [lookup_eq_none hkey]
      simp
    · rw [if_neg hk]
      simp [List.lookup_cons, beq_eq_false_iff_ne.mpr hk]

end Headers

/-! ### Header lines -/

def trim (value : Bytes) : Bytes := (value.dropWhile isBlank).rdropWhile isBlank

/-- A line as `doRequest` writes it. -/
def headerLine (key value : Bytes) : Bytes := key ++ bytes ": " ++ value ++ EOL

theorem dropWhile_append_of_not {p : UInt8 → Bool} {s : Bytes} (h : ∃ b ∈ s, p b = false)
    (t : Bytes) : (s ++ t).dropWhile p = s.dropWhile p ++ t := by
  induction s with
  | nil =>
    obtain ⟨b, hb, _⟩ := h
    cases hb
  | cons b s ih =>
    cases hp : p b with
    | false => simp [List.dropWhile, hp]
    | true =>
      obtain ⟨b', hb', hfalse⟩ := h
      rcases List.mem_cons.mp hb' with rfl | hb'
      · rw [hp] at hfalse
        cases hfalse
      · simpa [List.dropWhile, hp] using ih ⟨b', hb', hfalse⟩

theorem rdropWhile_append {p : UInt8 → Bool} {s t : Bytes} (h : ∀ b ∈ t, p b = true) :
    (s ++ t).rdropWhile p = s.rdropWhile p := by
  unfold List.rdropWhile
  rw [List.reverse_append, List.dropWhile_append_of_pos]
  intro b hb
  exact h b (List.mem_reverse.mp hb)

/-- The client's header lines are read as they were meant. -/
theorem parseHeaderLine_headerLine {key value : Bytes} (hkey : 58 ∉ key)
    (hvalue : ∃ b ∈ value, isBlank b = false) (headers : Headers) :
    parseHeaderLine (headerLine key value) headers = .ok (some (headers.insert key (trim value))) := by
  have hcolon : bytes ": " = [58, 32] := by decide +kernel
  have hEOL : EOL = [13, 10] := by decide +kernel
  have htext : headerLine key value = key ++ 58 :: (32 :: (value ++ EOL)) := by
    simp [headerLine, hcolon]
  have hpos : ∀ b ∈ key, decide (b ≠ 58) = true := by
    intro b hb
    have hne : b ≠ 58 := fun heq => hkey (heq ▸ hb)
    simpa using hne
  have hdrop : (headerLine key value).dropWhile (· ≠ 58) = 58 :: (32 :: (value ++ EOL)) := by
    rw [htext, List.dropWhile_append_of_pos hpos]
    simp
  have htake : (headerLine key value).takeWhile (· ≠ 58) = key := by
    rw [htext, List.takeWhile_append_of_pos hpos]
    simp
  have hblank : (32 :: (value ++ EOL)).dropWhile isBlank = value.dropWhile isBlank ++ EOL := by
    rw [List.dropWhile_cons_of_pos (by decide), dropWhile_append_of_not hvalue]
  have hne : value.dropWhile isBlank ++ EOL ≠ [] := by simp [hEOL]
  obtain ⟨b, s, hs⟩ := List.exists_cons_of_ne_nil hne
  have htrim : (b :: s).rdropWhile isBlank = trim value := by
    rw [← hs, rdropWhile_append (by simp [hEOL, isBlank])]
    rfl
  simp only [parseHeaderLine, hdrop, hblank, hs, htake, htrim]

theorem trim_eq {value : Bytes} (hhead : ∀ b ∈ value.head?, isBlank b = false)
    (hlast : ∀ b ∈ value.getLast?, isBlank b = false) : trim value = value := by
  have hdrop : value.dropWhile isBlank = value := by
    cases value with
    | nil => rfl
    | cons b s => exact List.dropWhile_cons_of_neg (by simp [hhead b rfl])
  rw [trim, hdrop]
  apply List.rdropWhile_eq_self_iff.mpr
  intro hne
  have hb := hlast (value.getLast hne) (List.getLast?_eq_getLast_of_ne_nil hne)
  simp [hb]

/-! ### Numbers -/

theorem toList_loop (array : ByteArray) (i : Nat) (acc : Bytes) :
    ByteArray.toList.loop array i acc = acc.reverse ++ array.data.toList.drop i := by
  fun_induction ByteArray.toList.loop array i acc with
  | case1 i acc h ih =>
    have hi : i < array.data.toList.length := by simpa using h
    have hget : array.get! i = array.data.toList[i] := by simp [ByteArray.get!, h, getElem!_pos]
    rw [ih, List.drop_eq_getElem_cons hi, hget]
    simp
  | case2 i acc h =>
    have hi : array.data.toList.length ≤ i := by simpa using h
    simp [List.drop_eq_nil_of_le hi]

theorem bytes_ofList {cs : List Char} (h : ∀ c ∈ cs, c.toNat ≤ 127) :
    bytes (String.ofList cs) = cs.map fun c => UInt8.ofNat c.toNat := by
  have hutf8 : bytes (String.ofList cs) = cs.flatMap String.utf8EncodeChar := by
    simp [bytes, ByteArray.toList, toList_loop, List.utf8Encode]
  rw [hutf8]
  clear hutf8
  induction cs with
  | nil => rfl
  | cons c cs ih =>
    rw [List.flatMap_cons, List.map_cons, ih fun c' hc' => h c' (List.mem_cons_of_mem _ hc')]
    have hc : c.val ≤ 127 := UInt32.le_iff_toNat_le.mpr (h c List.mem_cons_self)
    rw [String.utf8EncodeChar_eq_singleton (Char.utf8Size_eq_one_iff.mpr hc)]
    rfl

theorem toNat_digit {c : Char} (h : c.isDigit = true) :
    (UInt8.ofNat c.toNat).toNat = c.toNat ∧ 48 ≤ c.toNat ∧ c.toNat ≤ 57 := by
  have hrange : 48 ≤ c.toNat ∧ c.toNat ≤ 57 := Char.isDigit_iff_toNat.mp h
  refine ⟨?_, hrange⟩
  rw [UInt8.toNat_ofNat']
  omega

/-- The byte of a decimal digit. -/
theorem digitValue_digit {c : Char} (h : c.isDigit = true) :
    digitValue (UInt8.ofNat c.toNat) = some (c.toNat - 48) ∧ c.toNat - 48 < 10 := by
  obtain ⟨hnat, hlow, hhigh⟩ := toNat_digit h
  have hle : 48 ≤ UInt8.ofNat c.toNat ∧ UInt8.ofNat c.toNat ≤ 57 := by
    simp only [UInt8.le_iff_toNat_le, hnat]
    exact ⟨hlow, hhigh⟩
  refine ⟨?_, by omega⟩
  simp [digitValue, hle.1, hle.2, hnat]

/-- A number begins at its first digit. -/
theorem strtol_digit {c : Char} {s : Bytes} {n : Nat} (h : c.isDigit = true)
    (hn : leadingNumber 10 (UInt8.ofNat c.toNat :: s) = some n) :
    strtol (UInt8.ofNat c.toNat :: s) = some (n : Int) := by
  obtain ⟨hnat, hlow, hhigh⟩ := toNat_digit h
  generalize UInt8.ofNat c.toNat = b at hnat hn
  have hspace : ¬ isSpace b = true := by
    simp only [isSpace, Bool.or_eq_true, Bool.and_eq_true, decide_eq_true_eq,
      UInt8.le_iff_toNat_le, ← UInt8.toNat_inj]
    simp only [hnat]
    rintro (h | h)
    · have h32 : c.toNat = 32 := h
      omega
    · have h13 : c.toNat ≤ 13 := h.2
      omega
  have hsign : takeSign (b :: s) = (false, b :: s) := by
    have hminus : b ≠ 45 := by
      intro hb
      rw [hb] at hnat
      have h45 : 45 = c.toNat := hnat
      omega
    have hplus : b ≠ 43 := by
      intro hb
      rw [hb] at hnat
      have h43 : 43 = c.toNat := hnat
      omega
    simp [takeSign, hminus, hplus]
  simp [strtol, List.dropWhile_cons_of_neg hspace, hsign, hn]

theorem leadingNumber_digits {cs : List Char} (h : ∀ c ∈ cs, c.isDigit = true) (hne : cs ≠ []) :
    leadingNumber 10 (cs.map fun c => UInt8.ofNat c.toNat) = some (Nat.ofDigitChars 10 cs 0) := by
  have hdigits : ∀ b ∈ cs.map fun c => UInt8.ofNat c.toNat, isDigit 10 b = true := by
    intro b hb
    obtain ⟨c, hc, rfl⟩ := List.mem_map.mp hb
    obtain ⟨hvalue, hlt⟩ := digitValue_digit (h c hc)
    simp [isDigit, hvalue, hlt]
  have hfold : ∀ (cs : List Char) (init : Nat), (∀ c ∈ cs, c.isDigit = true) →
      (cs.map fun c => UInt8.ofNat c.toNat).foldl
        (fun n b => n * 10 + (digitValue b).getD 0) init = Nat.ofDigitChars 10 cs init := by
    intro cs
    induction cs with
    | nil => simp
    | cons c cs ih =>
      intro init hcs
      rw [List.map_cons, List.foldl_cons, ih _ fun c' hc' => hcs c' (List.mem_cons_of_mem _ hc'),
        (digitValue_digit (hcs c List.mem_cons_self)).1, Nat.ofDigitChars_cons, Nat.mul_comm]
      rfl
  unfold leadingNumber
  rw [List.takeWhile_eq_self_iff.mpr hdigits]
  cases cs with
  | nil => exact absurd rfl hne
  | cons c cs =>
    simp only [List.map_cons]
    rw [← List.map_cons (f := fun c : Char => UInt8.ofNat c.toNat), hfold _ _ h]

theorem isDigit_toDigits (n : Nat) : ∀ c ∈ Nat.toDigits 10 n, c.isDigit = true := fun _ hc =>
  Nat.isDigit_of_mem_toDigits (by decide) (by decide) hc

theorem bytes_toString (n : Nat) :
    bytes (toString n) = (Nat.toDigits 10 n).map fun c => UInt8.ofNat c.toNat := by
  rw [Nat.toString_eq_ofList_toDigits]
  apply bytes_ofList
  intro c hc
  obtain ⟨_, _, hhigh⟩ := toNat_digit (isDigit_toDigits n c hc)
  omega

/-- `std::stoi` reads what `std::to_string` writes. -/
theorem stoi_toString {n : Nat} (h : n < 0x80000000) : stoi (bytes (toString n)) = .ok (n : Int) := by
  have hdigits := isDigit_toDigits n
  have hnumber := leadingNumber_digits hdigits Nat.toDigits_ne_nil
  rw [Nat.ofDigitChars_ten_toDigits] at hnumber
  rw [bytes_toString]
  have hstrtol : strtol ((Nat.toDigits 10 n).map fun c => UInt8.ofNat c.toNat) = some (n : Int) := by
    obtain ⟨c, cs, hcs⟩ := List.exists_cons_of_ne_nil (Nat.toDigits_ne_nil (n := n) (b := 10))
    have hc : c.isDigit = true := hdigits c (hcs ▸ List.mem_cons_self)
    rw [hcs, List.map_cons] at hnumber ⊢
    exact strtol_digit hc hnumber
  have hrange : ¬ ((n : Int) < -0x80000000 ∨ 0x7fffffff < (n : Int)) := by omega
  simp only [stoi, hstrtol]
  rw [if_neg hrange]
theorem bytes_toString_ne_nil (n : Nat) : bytes (toString n) ≠ [] := by
  rw [bytes_toString]
  simp

theorem mem_bytes_toString {n : Nat} {b : UInt8} (hb : b ∈ bytes (toString n)) :
    48 ≤ b.toNat ∧ b.toNat ≤ 57 := by
  rw [bytes_toString] at hb
  obtain ⟨c, hc, rfl⟩ := List.mem_map.mp hb
  obtain ⟨hnat, hrange⟩ := toNat_digit (isDigit_toDigits n c hc)
  rw [hnat]
  exact hrange

/-! ### Host names -/

abbrev IPAddress := UInt8 × UInt8 × UInt8 × UInt8

/-- What `inet_ntop` makes of an IPv4 address. -/
def dotDecimals : IPAddress → Bytes
  | (a, b, c, d) =>
    bytes (toString a.toNat) ++ bytes "." ++ bytes (toString b.toNat) ++ bytes "." ++
      bytes (toString c.toNat) ++ bytes "." ++ bytes (toString d.toNat)

/-- `mHostname` after the constructor of `HTTPClient` (lines 25 to 38). If EPICS base finds no
address for the host of the URL the name stays, but no connection will ever be made. -/
def mHostname (hostToIPAddr : Bytes → Option IPAddress) (host : Bytes) : Bytes :=
  match hostToIPAddr host with
  | none => host
  | some address => dotDecimals address

theorem mem_dotDecimals {address : IPAddress} {b : UInt8} (hb : b ∈ dotDecimals address) :
    46 ≤ b.toNat := by
  have hdot : bytes "." = [46] := by decide +kernel
  have hnumber : ∀ n : Nat, b ∈ bytes (toString n) → 46 ≤ b.toNat := by
    intro n hn
    have hlow := (mem_bytes_toString hn).1
    omega
  simp only [dotDecimals, hdot, List.mem_append, List.mem_singleton] at hb
  rcases hb with ((((((hb | rfl) | hb) | rfl) | hb) | rfl) | hb)
  · exact hnumber _ hb
  · decide
  · exact hnumber _ hb
  · decide
  · exact hnumber _ hb
  · decide
  · exact hnumber _ hb

theorem dotDecimals_ne_nil (address : IPAddress) : dotDecimals address ≠ [] := by
  intro h
  simp only [dotDecimals, List.append_eq_nil_iff] at h
  exact bytes_toString_ne_nil _ h.2

end PeakAnalyser
