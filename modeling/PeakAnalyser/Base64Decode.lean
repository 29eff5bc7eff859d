import PeakAnalyser.SpectrumData

/-!
# The loop of `base64_decode`

What the loop of `base64.cpp` reads and stores, access by access: `base64_decode` of
`PeakSpectrum.lean` is the list of the stored bytes. The loop takes whole groups and does
not look at `decoded_length`, so a text whose length is no multiple of three, or a line
break within a group, brings it beyond the end of a buffer.
-/

namespace PeakAnalyser

set_option autoImplicit false

open Base64

/-- An access to the text or to the decoded bytes. -/
inductive BufferAccess where
  | read (i : Nat)
  | store (j : Nat) (b : UInt8)
  deriving DecidableEq

namespace BufferAccess

def store? : BufferAccess → Option (Nat × UInt8)
  | .read _ => none
  | .store j b => some (j, b)

end BufferAccess

/-- `p[i]`, with 0 for what lies behind the text. -/
def encodedAt (encoded : Bytes) (i : Nat) : UInt8 := encoded.getD i 0

/-- The loop from `i` and `j` on, in at most `rounds` rounds. -/
def decodeLoop (encoded : Bytes) : Nat → Nat → Nat → List BufferAccess
  | 0, _, _ => []
  | rounds + 1, i, j =>
    if encoded.length ≤ i then []
    else if encodedAt encoded i = 13 ∨ encodedAt encoded i = 10 then
      .read i :: decodeLoop encoded rounds (i + 1) j
    else
      [.read i, .read i, .read (i + 1), .read (i + 2), .read (i + 3)] ++
        (decodeGroup (encodedAt encoded i) (encodedAt encoded (i + 1)) (encodedAt encoded (i + 2))
          (encodedAt encoded (i + 3))).mapIdx (fun k b => .store (j + k) b) ++
        decodeLoop encoded rounds (i + 4) (j + 3)

/-- All accesses: each round goes on in the text, so there are no more rounds than bytes. -/
def decodeAccesses (encoded : Bytes) : List BufferAccess := decodeLoop encoded encoded.length 0 0

/-- `decoded_string` after the call. -/
def decodeInto (encoded decoded : Bytes) : Bytes :=
  ((decodeAccesses encoded).filterMap BufferAccess.store?).foldl (fun buffer w => buffer.set w.1 w.2)
    decoded

/-! ### What the loop stores -/

section Loop

variable {encoded rest : Bytes} {b p q r s : UInt8} {rounds i j : Nat}

theorem encodedAt_of_drop (h : encoded.drop i = rest) (k : Nat) :
    encodedAt encoded (i + k) = rest.getD k 0 := by
  rw [← h]
  simp [encodedAt, List.getD_eq_getElem?_getD, List.getElem?_drop]

theorem lt_of_drop (h : encoded.drop i = b :: rest) : i < encoded.length := by
  have hlength := congrArg List.length h
  rw [List.length_drop, List.length_cons] at hlength
  omega

theorem drop_of_drop (h : encoded.drop i = b :: rest) : encoded.drop (i + 1) = rest := by
  rw [← List.drop_drop, h]
  rfl

theorem decodeLoop_end (h : encoded.drop i = []) : decodeLoop encoded rounds i j = [] := by
  cases rounds with
  | zero => rfl
  | succ rounds => exact if_pos (List.drop_eq_nil_iff.mp h)

theorem decodeLoop_lineBreak (h : encoded.drop i = b :: rest) (hb : LineBreak b) :
    decodeLoop encoded (rounds + 1) i j = .read i :: decodeLoop encoded rounds (i + 1) j := by
  have hat : encodedAt encoded i = b := encodedAt_of_drop h 0
  have hlt := lt_of_drop h
  rw [decodeLoop, if_neg (by omega), if_pos]
  rw [hat]
  exact hb

theorem decodeLoop_group (h : encoded.drop i = p :: rest) (hp : ¬ LineBreak p) :
    decodeLoop encoded (rounds + 1) i j =
      [.read i, .read i, .read (i + 1), .read (i + 2), .read (i + 3)] ++
        (decodeGroup p (rest.getD 0 0) (rest.getD 1 0) (rest.getD 2 0)).mapIdx
          (fun k b => .store (j + k) b) ++
        decodeLoop encoded rounds (i + 4) (j + 3) := by
  have hat : encodedAt encoded i = p := encodedAt_of_drop h 0
  have hlt := lt_of_drop h
  rw [decodeLoop, if_neg (by omega), if_neg]
  · rw [hat, encodedAt_of_drop h 1, encodedAt_of_drop h 2, encodedAt_of_drop h 3]
    rfl
  · rw [hat]
    exact hp

/-- A group that the end of the text cuts is filled with what lies behind. -/
theorem base64_decode_cons (hp : ¬ LineBreak p) (rest : Bytes) : base64_decode (p :: rest) =
    decodeGroup p (rest.getD 0 0) (rest.getD 1 0) (rest.getD 2 0) ++ base64_decode (rest.drop 3) := by
  rcases rest with _ | ⟨q, _ | ⟨r, _ | ⟨s, rest⟩⟩⟩
  · rw [base64_decode, if_neg (show ¬ (p = 13 ∨ p = 10) from hp)]
    rfl
  · rw [base64_decode, if_neg (show ¬ (p = 13 ∨ p = 10) from hp)]
    rfl
  · rw [base64_decode, if_neg (show ¬ (p = 13 ∨ p = 10) from hp)]
    rfl
  · exact base64_decode_group hp

theorem stores_decodeLoop (h : encoded.drop i = rest) (hrounds : rest.length ≤ rounds) :
    (decodeLoop encoded rounds i j).filterMap BufferAccess.store? =
      (base64_decode rest).mapIdx fun k b => (j + k, b) := by
  induction rounds generalizing i j rest with
  | zero =>
    obtain rfl := List.length_eq_zero_iff.mp (Nat.le_zero.mp hrounds)
    rfl
  | succ rounds ih =>
    cases rest with
    | nil =>
      rw [decodeLoop_end h]
      rfl
    | cons b rest =>
      rw [List.length_cons] at hrounds
      have hdrop := drop_of_drop h
      by_cases hb : LineBreak b
      · rw [decodeLoop_lineBreak h hb, base64_decode_lineBreak hb]
        exact ih hdrop (by omega)
      · have hnext : encoded.drop (i + 4) = rest.drop 3 := by
          rw [← hdrop, List.drop_drop]
        have hlength : (rest.drop 3).length ≤ rounds := by
          rw [List.length_drop]
          omega
        rw [decodeLoop_group h hb, base64_decode_cons hb, List.filterMap_append,
          List.filterMap_append, ih hnext hlength, List.mapIdx_append]
        simp [decodeGroup, BufferAccess.store?, Nat.add_assoc, Nat.add_comm 3]

/-- The list of `base64_decode` is what the loop stores, from the beginning of the buffer on. -/
theorem stores_decodeAccesses (encoded : Bytes) :
    (decodeAccesses encoded).filterMap BufferAccess.store? =
      (base64_decode encoded).mapIdx fun k b => (k, b) := by
  have hloop := stores_decodeLoop (j := 0) (show encoded.drop 0 = encoded from rfl) (Nat.le_refl _)
  simpa [decodeAccesses] using hloop

theorem store_mem_decodeAccesses {j : Nat} {b : UInt8} :
    .store j b ∈ decodeAccesses encoded ↔ (base64_decode encoded)[j]? = some b := by
  have hmem : .store j b ∈ decodeAccesses encoded ↔
      (j, b) ∈ (decodeAccesses encoded).filterMap BufferAccess.store? := by
    rw [List.mem_filterMap]
    constructor
    · intro h
      exact ⟨_, h, rfl⟩
    · intro h
      obtain ⟨access, haccess, hstore⟩ := h
      cases access with
      | read i => cases hstore
      | store j' b' =>
        cases hstore
        exact haccess
  rw [hmem, stores_decodeAccesses, List.mem_mapIdx]
  constructor
  · intro h
    obtain ⟨k, hk, heq⟩ := h
    cases heq
    exact List.getElem?_eq_getElem hk
  · intro h
    obtain ⟨hk, hb⟩ := List.getElem?_eq_some_iff.mp h
    exact ⟨j, hk, by rw [hb]⟩

/-- Where no line break stands within a group and the groups are whole, the loop reads within
the text. -/
theorem reads_decodeLoop (h : encoded.drop i = rest) (hbreaks : BreaksBetweenGroups 0 rest)
    (hwhole : 4 ∣ (unwrapped rest).length) {k : Nat} (hk : .read k ∈ decodeLoop encoded rounds i j) :
    k < encoded.length := by
  induction rounds generalizing i j rest with
  | zero => cases hk
  | succ rounds ih =>
    cases rest with
    | nil =>
      rw [decodeLoop_end h] at hk
      cases hk
    | cons p rest =>
      have hi := lt_of_drop h
      have hdrop := drop_of_drop h
      by_cases hp : LineBreak p
      · rw [decodeLoop_lineBreak h hp] at hk
        rw [unwrapped_lineBreak hp] at hwhole
        rcases List.mem_cons.mp hk with hread | hread
        · cases hread
          exact hi
        · exact ih hdrop ((breaksBetweenGroups_lineBreak hp).mp hbreaks).2 hwhole hread
      · have hlength := congrArg List.length hdrop
        rw [List.length_drop] at hlength
        -- the three characters after `p` are there
        rcases rest with _ | ⟨q, _ | ⟨r, _ | ⟨s, rest⟩⟩⟩
        · exact absurd hwhole (not_dvd_of_short hp (by simp))
        · exact absurd hwhole (not_dvd_of_short hp (by simp))
        · exact absurd hwhole (not_dvd_of_short hp (by simp))
        · obtain ⟨hq, hr, hs, hrest⟩ := (breaksBetweenGroups_group hp).mp hbreaks
          have hnext : encoded.drop (i + 4) = rest := by
            rw [show i + 4 = i + 1 + 3 by omega, ← List.drop_drop, hdrop]
            rfl
          have hwhole' : 4 ∣ (unwrapped rest).length := by
            simp only [length_unwrapped_cons, if_neg hp, if_neg hq, if_neg hr, if_neg hs] at hwhole
            omega
          simp only [List.length_cons] at hlength
          rw [decodeLoop_group h hp] at hk
          rcases List.mem_append.mp hk with hk | hread
          · have hcases : k = i ∨ k = i + 1 ∨ k = i + 2 ∨ k = i + 3 := by
              simpa [decodeGroup] using hk
            omega
          · exact ih hnext hrest hwhole' hread

end Loop

/-! ### Texts with line breaks between their groups -/

@[simp] theorem store_nil (buffer : Bytes) : store buffer [] = buffer := by simp [store]

@[simp] theorem nil_store (written : Bytes) : store [] written = [] := by simp [store]

@[simp] theorem cons_store_cons (c b : UInt8) (buffer written : Bytes) :
    store (c :: buffer) (b :: written) = b :: store buffer written := by
  simp [store]

theorem foldl_set_eq_store (written buffer : Bytes) (j : Nat) :
    (written.mapIdx fun k b => (j + k, b)).foldl (fun buffer w => buffer.set w.1 w.2) buffer =
      buffer.take j ++ store (buffer.drop j) written := by
  induction written generalizing buffer j with
  | nil => simp
  | cons b written ih =>
    have hshift : (written.mapIdx fun k b => (j + (k + 1), b)) =
        written.mapIdx fun k b => (j + 1 + k, b) := by
      congr 1
      funext k b
      rw [Nat.add_assoc, Nat.add_comm 1]
    rw [List.mapIdx_cons, List.foldl_cons, hshift, ih]
    by_cases hj : j < buffer.length
    · rw [List.drop_eq_getElem_cons hj, cons_store_cons, List.take_set, List.drop_set_of_lt (by simp),
        List.take_succ_eq_append_getElem hj, List.set_append_right _ _ (by simp)]
      simp [Nat.min_eq_left hj.le]
    · rw [List.set_eq_of_length_le (by simpa using hj), List.drop_eq_nil_of_le (by omega),
        List.drop_eq_nil_of_le (by omega), List.take_of_length_le (by omega),
        List.take_of_length_le (by omega), nil_store, nil_store]

theorem decodeInto_eq (encoded decoded : Bytes) :
    decodeInto encoded decoded = store decoded (base64_decode encoded) := by
  have hstore := foldl_set_eq_store (base64_decode encoded) decoded 0
  unfold decodeInto
  rw [stores_decodeAccesses]
  simpa using hstore

/-- The stored bytes are those of the text, and up to two more that fill the last group. -/
theorem base64_decode_eq_append {text a : Bytes} (h : Encodes text a) :
    ∃ more : Bytes, base64_decode text = a ++ more ∧
      a.length + more.length = 3 * ((a.length + 2) / 3) := by
  obtain ⟨more, hmore⟩ := base64_decode_of_encodes h
  refine ⟨more, hmore, ?_⟩
  have hgroups := h.unwrapped.groups_eq_iff.mpr h.breaksBetweenGroups
  rw [← List.length_append, ← hmore, base64_decode_length, hgroups]

/-- A text with line breaks between its groups is decoded to the first bytes of the buffer, and
nothing behind the last group of three is touched. -/
theorem decodeInto_of_encodes {text a decoded : Bytes} (h : Encodes text a)
    (hroom : 3 * ((a.length + 2) / 3) ≤ decoded.length) :
    (decodeInto text decoded).take a.length = a ∧
      (decodeInto text decoded).drop (3 * ((a.length + 2) / 3)) =
        decoded.drop (3 * ((a.length + 2) / 3)) ∧
      (decodeInto text decoded).length = decoded.length := by
  obtain ⟨more, hmore, hlength⟩ := base64_decode_eq_append h
  have hdecoded : decodeInto text decoded =
      a ++ (more ++ decoded.drop (3 * ((a.length + 2) / 3))) := by
    rw [decodeInto_eq, hmore, store, List.length_append, hlength, List.append_assoc,
      List.take_of_length_le]
    simp only [List.length_append, List.length_drop]
    omega
  refine ⟨?_, ?_, ?_⟩
  · rw [hdecoded, List.take_left]
  · rw [hdecoded, ← List.append_assoc, ← hlength, ← List.length_append, List.drop_left]
  · rw [decodeInto_eq, length_store]

/-- `AQIDBA==` in two lines, and a buffer of seven bytes. -/
theorem decodeInto_two_lines :
    (decodeInto (bytes "AQID\r\nBA==\n") (.replicate 7 9)).take 4 = [1, 2, 3, 4] := by
  have hlines : bytes "AQID\r\nBA==\n" = [65, 81, 73, 68, 13, 10, 66, 65, 61, 61, 10] := by
    decide +kernel
  have hencodes : Encodes (bytes "AQID\r\nBA==\n") [1, 2, 3, 4] := by
    rw [hlines]
    exact .three (x := 1) (y := 2) (z := 3) ⟨by decide, .inl (by decide)⟩ ⟨by decide, .inl (by decide)⟩
      ⟨by decide, .inl (by decide)⟩ ⟨by decide, .inl (by decide)⟩
      (.lineBreak (.inl rfl) (.lineBreak (.inr rfl)
        (.one (x := 4) (y := 0) (z := 0) ⟨by decide, .inl (by decide)⟩ ⟨by decide, .inl (by decide)⟩
          (.lineBreak (.inr rfl) .nil))))
  exact (decodeInto_of_encodes hencodes (by decide)).1

/-! ### Texts with line breaks anywhere -/

theorem breaksBetweenGroups_unwrapped (text : Bytes) (n : Nat) :
    BreaksBetweenGroups n (unwrapped text) := by
  induction text generalizing n with
  | nil => exact trivial
  | cons b text ih =>
    by_cases hb : LineBreak b
    · rw [unwrapped_lineBreak hb]
      exact ih n
    · rw [unwrapped_symbol hb, breaksBetweenGroups_symbol hb]
      exact ih (n + 1)

theorem base64_decode_unwrapped {text : Bytes} (h : BreaksBetweenGroups 0 text)
    (hwhole : 4 ∣ (unwrapped text).length) : base64_decode text = base64_decode (unwrapped text) := by
  fun_induction groups text with
  | case1 p q r s text hp ih =>
    rw [base64_decode_lineBreak hp]
    rw [unwrapped_lineBreak hp] at hwhole ⊢
    exact ih ((breaksBetweenGroups_lineBreak hp).mp h).2 hwhole
  | case2 p q r s text hp ih =>
    obtain ⟨hq, hr, hs, hrest⟩ := (breaksBetweenGroups_group hp).mp h
    rw [unwrapped_symbol hp, unwrapped_symbol hq, unwrapped_symbol hr, unwrapped_symbol hs] at hwhole ⊢
    rw [base64_decode_group hp, base64_decode_group hp, ih hrest]
    simp only [List.length_cons] at hwhole
    omega
  | case3 p q r hp ih =>
    rw [base64_decode_lineBreak hp]
    rw [unwrapped_lineBreak hp] at hwhole ⊢
    exact ih ((breaksBetweenGroups_lineBreak hp).mp h).2 hwhole
  | case4 p q r hp => exact absurd hwhole (not_dvd_of_short hp (by simp))
  | case5 p q hp ih =>
    rw [base64_decode_lineBreak hp]
    rw [unwrapped_lineBreak hp] at hwhole ⊢
    exact ih ((breaksBetweenGroups_lineBreak hp).mp h).2 hwhole
  | case6 p q hp => exact absurd hwhole (not_dvd_of_short hp (by simp))
  | case7 p hp =>
    rw [base64_decode_lineBreak hp, unwrapped_lineBreak hp]
    rfl
  | case8 p hp => exact absurd hwhole (not_dvd_of_short hp (by simp))
  | case9 => rfl

/-- The decoder makes the same of a text with line breaks and of the text without them exactly
when they stand between the groups. -/
theorem base64_decode_unwrapped_iff {text a : Bytes} (h : Encodes (unwrapped text) a) :
    base64_decode text = base64_decode (unwrapped text) ↔ BreaksBetweenGroups 0 text := by
  constructor
  · intro hsame
    have hgroups : groups (unwrapped text) = (a.length + 2) / 3 := by
      apply h.unwrapped.groups_eq_iff.mpr
      exact breaksBetweenGroups_unwrapped text 0
    have hlength := congrArg List.length hsame
    rw [base64_decode_length, base64_decode_length, hgroups] at hlength
    exact h.groups_eq_iff.mp (by omega)
  · intro hbreaks
    have hlength := h.length_unwrapped
    rw [unwrapped_unwrapped] at hlength
    exact base64_decode_unwrapped hbreaks ⟨_, hlength⟩

/-- Three bytes in lines of two characters. -/
theorem encodes_lines_of_two : Encodes (unwrapped (bytes "AQ\nID")) [1, 2, 3] := by
  have hunwrapped : unwrapped (bytes "AQ\nID") = [65, 81, 73, 68] := by decide +kernel
  rw [hunwrapped]
  exact .three ⟨by decide, .inl (by decide)⟩ ⟨by decide, .inl (by decide)⟩
    ⟨by decide, .inl (by decide)⟩ ⟨by decide, .inl (by decide)⟩ .nil

theorem base64_decode_lines_of_two :
    base64_decode (bytes "AQ\nID") = base64_decode (unwrapped (bytes "AQ\nID")) ↔
      BreaksBetweenGroups 0 (bytes "AQ\nID") :=
  base64_decode_unwrapped_iff encodes_lines_of_two

/-- A line of two characters is decoded to other bytes, and to more of them. -/
theorem line_breaks_not_transparent : ¬ ∀ text a : Bytes, Encodes (unwrapped text) a →
    base64_decode text = base64_decode (unwrapped text) := by
  intro h
  have hsame := h (bytes "AQ\nID") [1, 2, 3] encodes_lines_of_two
  exact absurd hsame (by decide +kernel)

/-- Exactly for a multiple of three bytes and line breaks between the groups the loop stores
within the bytes that the text stands for, and reads within the text. -/
theorem decodeAccesses_inside_iff {text a : Bytes} (h : Encodes (unwrapped text) a) :
    ((∀ j b, .store j b ∈ decodeAccesses text → j < a.length) ∧
        ∀ i, .read i ∈ decodeAccesses text → i < text.length) ↔
      3 ∣ a.length ∧ BreaksBetweenGroups 0 text := by
  have hle := h.le_groups
  have hdecoded := base64_decode_length text
  constructor
  · intro hinside
    have hfew : 3 * groups text ≤ a.length := by
      rw [← hdecoded]
      by_contra hmore
      have hlast : a.length < (base64_decode text).length := by omega
      have hstore := hinside.1 a.length _ (store_mem_decodeAccesses.mpr (List.getElem?_eq_getElem hlast))
      omega
    exact ⟨⟨groups text, by omega⟩, h.groups_eq_iff.mp (by omega)⟩
  · intro hcondition
    obtain ⟨hthree, hbreaks⟩ := hcondition
    have hgroups := h.groups_eq_iff.mpr hbreaks
    have hlength := h.length_unwrapped
    rw [unwrapped_unwrapped] at hlength
    constructor
    · intro j b hstore
      have hj := (List.getElem?_eq_some_iff.mp (store_mem_decodeAccesses.mp hstore)).1
      omega
    · intro i hread
      exact reads_decodeLoop (show text.drop 0 = text from rfl) hbreaks ⟨_, hlength⟩ hread

theorem decodeAccesses_lines_of_two :
    ((∀ j b, .store j b ∈ decodeAccesses (bytes "AQ\nID") → j < 3) ∧
        ∀ i, .read i ∈ decodeAccesses (bytes "AQ\nID") → i < (bytes "AQ\nID").length) ↔
      3 ∣ 3 ∧ BreaksBetweenGroups 0 (bytes "AQ\nID") :=
  decodeAccesses_inside_iff encodes_lines_of_two

/-- One number of four bytes, in a text without line breaks: the loop stores six. -/
theorem decodeAccesses_beyond : ¬ ∀ text a : Bytes, Encodes (unwrapped text) a →
    (∀ j b, .store j b ∈ decodeAccesses text → j < a.length) ∧
      ∀ i, .read i ∈ decodeAccesses text → i < text.length := by
  intro h
  have hencodes : Encodes (unwrapped (bytes "AACAPw==")) [0, 0, 128, 63] := by
    have hunwrapped : unwrapped (bytes "AACAPw==") = [65, 65, 67, 65, 80, 119, 61, 61] := by
      decide +kernel
    rw [hunwrapped]
    apply Encodes.three (x := 0) (y := 0) (z := 128) ⟨by decide, .inl (by decide)⟩
      ⟨by decide, .inl (by decide)⟩ ⟨by decide, .inl (by decide)⟩ ⟨by decide, .inl (by decide)⟩
    exact .one (y := 0) (z := 0) ⟨by decide, .inl (by decide)⟩ ⟨by decide, .inl (by decide)⟩ .nil
  have hstore := (h (bytes "AACAPw==") [0, 0, 128, 63] hencodes).1 4 0 (by decide +kernel)
  exact absurd hstore (by decide)

end PeakAnalyser
