import PeakAnalyser.ChunkedContent

/-!
# Which bodies `readChunkedContent` accepts

A chunked body as it is to be written is taken as a whole, and nothing behind it. But
`strtoul` finds a number in any line, so that other texts are accepted as well; and a
number that is too large for a buffer ends in an exception.
-/

namespace PeakAnalyser

set_option autoImplicit false

/-- A chunk: its size line, its data and the end of the line. -/
def chunkText (chunk : Bytes × Bytes) : Bytes := chunk.1 ++ (chunk.2 ++ EOL)

/-- Some chunks, the size line of the last one and the empty line. -/
def bodyText (chunks : List (Bytes × Bytes)) (last : Bytes) : Bytes :=
  chunks.flatMap chunkText ++ (last ++ EOL)

/-- The size lines stand for the lengths of the data; `Size` says what a line stands for. -/
structure Sized (Size : Bytes → Nat → Prop) (chunks : List (Bytes × Bytes)) (last : Bytes) :
    Prop where
  chunk : ∀ chunk ∈ chunks, chunk.2 ≠ [] ∧ Size chunk.1 chunk.2.length
  last : Size last 0

def hexNumber (digits : Bytes) : Nat :=
  digits.foldl (fun n b => n * 16 + (digitValue b).getD 0) 0

/-- A size line as it is to be written: digits, perhaps an extension, and CR LF. -/
def ChunkSize (line : Bytes) (n : Nat) : Prop :=
  ∃ digits extension, digits ≠ [] ∧ (∀ b ∈ digits, isDigit 16 b = true) ∧ hexNumber digits = n ∧
    (extension = [] ∨ ∃ name, extension = 59 :: name) ∧ newline ∉ extension ∧
    line = digits ++ (extension ++ EOL)

/-- A line that `readChunkedContent` reads as the size of a chunk. -/
structure ReadAsSize (memory : Nat) (line : Bytes) (n : Nat) : Prop where
  isLine : Line line
  number : strtoul line = n
  memory : n ≤ memory
  range : n < 0x100000000

theorem Sized.of_cons {Size : Bytes → Nat → Prop} {chunk : Bytes × Bytes}
    {chunks : List (Bytes × Bytes)} {last : Bytes} (h : Sized Size (chunk :: chunks) last) :
    Sized Size chunks last :=
  ⟨fun c hc => h.chunk c (List.mem_cons_of_mem _ hc), h.last⟩

theorem bodyText_cons (chunk : Bytes × Bytes) (chunks : List (Bytes × Bytes)) (last : Bytes) :
    bodyText (chunk :: chunks) last = chunkText chunk ++ bodyText chunks last := by
  rw [bodyText, List.flatMap_cons, List.append_assoc]
  rfl

/-! ### Size lines -/

theorem hexDigit_plain {b : UInt8} (h : isDigit 16 b = true) :
    isSpace b = false ∧ b ≠ newline ∧ b ≠ 45 ∧ b ≠ 43 ∧ b ≠ 120 ∧ b ≠ 88 := by
  have hall : ∀ n < 256, isDigit 16 (.ofNat n) = true →
      isSpace (.ofNat n) = false ∧ UInt8.ofNat n ≠ newline ∧ UInt8.ofNat n ≠ 45 ∧
        UInt8.ofNat n ≠ 43 ∧ UInt8.ofNat n ≠ 120 ∧ UInt8.ofNat n ≠ 88 := by
    decide +kernel
  have hb := hall b.toNat b.toNat_lt
  rw [UInt8.ofNat_toNat] at hb
  exact hb h

/-- What follows the digits of a size line. -/
def SizeTail (tail : Bytes) : Prop := ∃ b rest, tail = b :: rest ∧ (b = 59 ∨ b = 13)

theorem SizeTail.not_digit {tail : Bytes} (h : SizeTail tail) : tail.takeWhile (isDigit 16) = [] := by
  obtain ⟨b, rest, rfl, rfl | rfl⟩ := h
  · rfl
  · rfl

theorem takeHexPrefix_digits {digits tail : Bytes} (hdigits : ∀ b ∈ digits, isDigit 16 b = true)
    (htail : SizeTail tail) : takeHexPrefix (digits ++ tail) = digits ++ tail := by
  obtain ⟨e, rest, rfl, he⟩ := htail
  -- a second character that is a digit or ends the digits is no `x`
  have hsecond : ∀ x s, digits ++ e :: rest = 48 :: x :: s → x ≠ 120 ∧ x ≠ 88 := by
    intro x s hshape
    rcases digits with _ | ⟨a, _ | ⟨b, digits⟩⟩
    · obtain ⟨rfl, _⟩ := List.cons.inj hshape
      rcases he with he | he
      · cases he
      · cases he
    · obtain ⟨_, hrest⟩ := List.cons.inj hshape
      obtain ⟨rfl, _⟩ := List.cons.inj hrest
      rcases he with rfl | rfl
      · decide
      · decide
    · obtain ⟨_, hrest⟩ := List.cons.inj hshape
      obtain ⟨rfl, _⟩ := List.cons.inj hrest
      have hplain := hexDigit_plain (hdigits b (by simp))
      exact ⟨hplain.2.2.2.2.1, hplain.2.2.2.2.2⟩
  unfold takeHexPrefix
  split
  · rename_i x b s hshape
    obtain ⟨hx, hX⟩ := hsecond x (b :: s) hshape
    rw [hshape, if_neg]
    simp [hx, hX]
  · rfl

theorem strtoul_digits {digits tail : Bytes} (hne : digits ≠ [])
    (hdigits : ∀ b ∈ digits, isDigit 16 b = true) (htail : SizeTail tail) :
    strtoul (digits ++ tail) = min (hexNumber digits) 0xffffffffffffffff := by
  have htakeWhile : (digits ++ tail).takeWhile (isDigit 16) = digits := by
    rw [List.takeWhile_append_of_pos hdigits, htail.not_digit, List.append_nil]
  have hnumber : leadingNumber 16 (digits ++ tail) = some (hexNumber digits) := by
    unfold leadingNumber
    rw [htakeWhile]
    cases digits with
    | nil => exact absurd rfl hne
    | cons b digits => rfl
  have hmarker := takeHexPrefix_digits hdigits htail
  obtain ⟨b, rest, rfl⟩ := List.exists_cons_of_ne_nil hne
  obtain ⟨hspace, _, hminus, hplus, _⟩ := hexDigit_plain (hdigits b List.mem_cons_self)
  have hdrop : ((b :: rest) ++ tail).dropWhile isSpace = (b :: rest) ++ tail := by
    simp [hspace]
  have hsign : takeSign ((b :: rest) ++ tail) = (false, (b :: rest) ++ tail) := by
    rw [List.cons_append]
    unfold takeSign
    split
    · rename_i hshape
      exact absurd (List.cons.inj hshape).1 hminus
    · rename_i hshape
      exact absurd (List.cons.inj hshape).1 hplus
    · rfl
  unfold strtoul
  rw [hdrop, hsign]
  simp only [hmarker, hnumber]
  split <;> simp <;> omega

namespace ChunkSize

variable {line : Bytes} {n : Nat}

theorem isLine (h : ChunkSize line n) : Line line := by
  obtain ⟨digits, extension, _, hdigits, _, _, hplain, rfl⟩ := h
  have hEOL : EOL = [13] ++ [newline] := by decide +kernel
  refine ⟨digits ++ (extension ++ [13]), ?_, ?_⟩
  · intro hmem
    rcases List.mem_append.mp hmem with hmem | hmem
    · exact (hexDigit_plain (hdigits _ hmem)).2.1 rfl
    · rcases List.mem_append.mp hmem with hmem | hmem
      · exact hplain hmem
      · exact absurd (List.mem_singleton.mp hmem) (by decide)
  · rw [hEOL, List.append_assoc, List.append_assoc]

theorem strtoul_eq (h : ChunkSize line n) : strtoul line = min n 0xffffffffffffffff := by
  obtain ⟨digits, extension, hne, hdigits, rfl, hextension, _, rfl⟩ := h
  apply strtoul_digits hne hdigits
  rcases hextension with rfl | ⟨name, rfl⟩
  · exact ⟨13, [10], by decide +kernel, .inr rfl⟩
  · exact ⟨59, name ++ EOL, rfl, .inl rfl⟩

/-- A size line as it is to be written is read as what it says. -/
theorem readAsSize {memory : Nat} (h : ChunkSize line n) (hmemory : n ≤ memory)
    (hrange : n < 0x100000000) : ReadAsSize memory line n :=
  ⟨h.isLine, by rw [h.strtoul_eq]; omega, hmemory, hrange⟩

end ChunkSize

/-! ### One round -/

namespace RecvStream

variable {memory : Nat} {s : RecvStream}

theorem endChunk_EOL (length : Nat) (content : Bytes) {rest : Bytes} (h : s.unread = EOL ++ rest) :
    ∃ s', s.endChunk length content = (if length = 0 then .last else .more, content, s') ∧
      Takes s EOL s' := by
  obtain ⟨s', hread, htakes⟩ := readLine_line line_EOL h
  refine ⟨s', ?_, htakes⟩
  rw [endChunk, hread]
  by_cases hlength : length = 0
  · simp [hlength]
  · simp [hlength]

theorem endChunk_cases (s : RecvStream) (length : Nat) (content : Bytes) :
    (∃ s', s.endChunk length content = (.failed, content, s')) ∨
      ∃ s', s.endChunk length content = (if length = 0 then .last else .more, content, s') ∧
        Takes s EOL s' := by
  by_cases hEOL : ∃ rest, s.unread = EOL ++ rest
  · obtain ⟨rest, hrest⟩ := hEOL
    exact .inr (endChunk_EOL length content hrest)
  · left
    rw [endChunk]
    rcases s.readLine_cases with ⟨line, s', hread, htakes, _⟩ | ⟨s', hread, htakes, _⟩ |
      ⟨s', hread, _⟩
    · have hline : line ≠ EOL := by
        intro hline
        exact hEOL ⟨s'.unread, hline ▸ htakes.unread⟩
      exact ⟨s', by simp [hread, hline]⟩
    · have hline : s.unread ≠ EOL := by
        intro hline
        exact hEOL ⟨[], by rw [hline, List.append_nil]⟩
      exact ⟨s', by simp [hread, hline]⟩
    · exact ⟨s', by rw [hread]⟩

theorem readChunk_last (memory : Nat) (content : Bytes) {size rest : Bytes}
    (hsize : Line size) (hzero : strtoul size = 0) (h : s.unread = size ++ (EOL ++ rest)) :
    ∃ s', readChunk memory s content = (.last, content, s') ∧ Takes s (size ++ EOL) s' := by
  obtain ⟨s₁, hread, htakes₁⟩ := readLine_line hsize h
  obtain ⟨s', hend, htakes⟩ := endChunk_EOL 0 content (htakes₁.rest h)
  refine ⟨s', ?_, htakes₁.trans htakes⟩
  rw [readChunk, hread]
  simp [hzero, hend]

theorem readChunk_more (content : Bytes) {chunk : Bytes × Bytes} {rest : Bytes}
    (hsize : ReadAsSize memory chunk.1 chunk.2.length) (hne : chunk.2 ≠ [])
    (h : s.unread = chunkText chunk ++ rest) :
    ∃ s', readChunk memory s content = (.more, content ++ chunk.2, s') ∧
      Takes s (chunkText chunk) s' := by
  have hpos : chunk.2.length ≠ 0 := fun hzero => hne (List.length_eq_zero_iff.mp hzero)
  rw [chunkText, List.append_assoc, List.append_assoc] at h
  obtain ⟨s₁, hread₁, htakes₁⟩ := readLine_line hsize.isLine h
  obtain ⟨s₂, hread₂, htakes₂⟩ := readFixedContent_block memory [] (htakes₁.rest h)
    hsize.memory hsize.range
  obtain ⟨s', hend, htakes⟩ := endChunk_EOL chunk.2.length (content ++ chunk.2)
    (htakes₂.rest (htakes₁.rest h))
  refine ⟨s', ?_, htakes₁.trans (htakes₂.trans htakes)⟩
  rw [readChunk, hread₁]
  simp [hsize.number, hpos, hread₂, hend]

/-- A line is at hand that is read as a size for which there is no memory: a whole line, or what
is left of one when the connection ends. -/
def TooLarge (memory : Nat) (fails : Bool) (unread : Bytes) : Prop :=
  ∃ line rest, unread = line ++ rest ∧ memory < strtoul line ∧
    (Line line ∨ newline ∉ line ∧ rest = [] ∧ fails = false)

theorem readChunk_thrown (content : Bytes) (h : TooLarge memory s.fails s.unread) :
    ∃ s', readChunk memory s content = (.thrown .allocation, content, s') := by
  obtain ⟨line, rest, hunread, hlarge, hline⟩ := h
  have hpos : strtoul line ≠ 0 := by omega
  have hread : ∃ s', s.readLine = (some line, s') := by
    rcases hline with hline | ⟨hplain, rfl, hfails⟩
    · obtain ⟨s', hread, _⟩ := readLine_line hline hunread
      exact ⟨s', hread⟩
    · rw [List.append_nil] at hunread
      obtain ⟨s', hread, _⟩ := readLine_end (hunread ▸ hplain)
      have hne : s.unread ≠ [] := by
        intro hnil
        rw [← hunread, hnil] at hlarge
        exact absurd hlarge (Nat.not_lt_zero memory)
      rw [if_neg (by simp [hfails, hne]), hunread] at hread
      exact ⟨s', hread⟩
  obtain ⟨s', hread⟩ := hread
  refine ⟨s', ?_⟩
  rw [readChunk, hread]
  simp [hpos, readFixedContent, hlarge]

/-- How a round can end, and what it has taken then. -/
theorem readChunk_cases (memory : Nat) (s : RecvStream) (content : Bytes) :
    (∃ content' s', readChunk memory s content = (.failed, content', s')) ∨
      (∃ size s', readChunk memory s content = (.last, content, s') ∧ ReadAsSize memory size 0 ∧
        Takes s (size ++ EOL) s') ∨
      (∃ chunk s', readChunk memory s content = (.more, content ++ chunk.2, s') ∧ chunk.2 ≠ [] ∧
        ReadAsSize memory chunk.1 chunk.2.length ∧ Takes s (chunkText chunk) s') ∨
      (∃ s', readChunk memory s content = (.thrown .allocation, content, s')) ∧
        TooLarge memory s.fails s.unread := by
  by_cases hlarge : TooLarge memory s.fails s.unread
  · exact .inr (.inr (.inr ⟨readChunk_thrown content hlarge, hlarge⟩))
  rcases s.readLine_cases with ⟨line, s₁, hread, htakes₁, hline⟩ |
    ⟨s₁, hread, htakes₁, hplain, _, hfails⟩ | ⟨s₁, hread, _⟩
  · -- a whole line
    have hmemory : strtoul line ≤ memory := by
      by_contra hmemory
      exact hlarge ⟨line, s₁.unread, htakes₁.unread, by omega, .inl hline⟩
    rw [readChunk, hread]
    by_cases hzero : strtoul line = 0
    · simp only [if_pos hzero]
      rcases s₁.endChunk_cases (strtoul line) content with ⟨s', hend⟩ | ⟨s', hend, htakes⟩
      · exact .inl ⟨content, s', hend⟩
      · rw [if_pos hzero] at hend
        exact .inr (.inl ⟨line, s', hend, ⟨hline, hzero, by omega, by omega⟩, htakes₁.trans htakes⟩)
    · simp only [if_neg hzero]
      rcases readFixedContent_cases memory s₁ [] (strtoul line) with ⟨hless, _⟩ | ⟨s₂, hblock⟩ |
        ⟨block, s₂, hblock, htakes₂, hlength, _, hrange⟩
      · omega
      · exact .inl ⟨content, s₂, by rw [hblock]⟩
      · rw [hblock]
        rcases s₂.endChunk_cases (strtoul line) (content ++ block) with
          ⟨s', hend⟩ | ⟨s', hend, htakes⟩
        · exact .inl ⟨content ++ block, s', hend⟩
        · rw [if_neg hzero] at hend
          have hne : block ≠ [] := by
            intro hnil
            rw [hnil] at hlength
            exact hzero hlength.symm
          have hsize : ReadAsSize memory line block.length :=
            ⟨hline, hlength.symm, by omega, by omega⟩
          exact .inr (.inr (.inl ⟨(line, block), s', hend, hne, hsize,
            htakes₁.trans (htakes₂.trans htakes)⟩))
  · -- all that was left: nothing comes after it
    have hnil : s₁.unread = [] := htakes₁.rest (List.append_nil _).symm
    have hmemory : strtoul s.unread ≤ memory := by
      by_contra hmemory
      exact hlarge ⟨s.unread, [], (List.append_nil _).symm, by omega, .inr ⟨hplain, rfl, hfails⟩⟩
    left
    rw [readChunk, hread]
    by_cases hzero : strtoul s.unread = 0
    · simp only [if_pos hzero]
      rcases s₁.endChunk_cases (strtoul s.unread) content with ⟨s', hend⟩ | ⟨s', _, htakes⟩
      · exact ⟨content, s', hend⟩
      · have hEOL := (List.append_eq_nil_iff.mp (htakes.unread.symm.trans hnil)).1
        exact absurd hEOL (by decide +kernel)
    · simp only [if_neg hzero]
      rcases readFixedContent_cases memory s₁ [] (strtoul s.unread) with ⟨hless, _⟩ | ⟨s₂, hblock⟩ |
        ⟨block, s₂, _, htakes₂, hlength, _⟩
      · omega
      · exact ⟨content, s₂, by rw [hblock]⟩
      · have hblock := (List.append_eq_nil_iff.mp (htakes₂.unread.symm.trans hnil)).1
        rw [hblock] at hlength
        exact absurd hlength.symm hzero
  · exact .inl ⟨content, s₁, by rw [readChunk, hread]⟩

/-! ### The whole loop -/

/-- After some chunks a size is at hand for which there is no memory. -/
def Overflows (memory : Nat) (s : RecvStream) : Prop :=
  ∃ (chunks : List (Bytes × Bytes)) (rest : Bytes),
    (∀ chunk ∈ chunks, chunk.2 ≠ [] ∧ ReadAsSize memory chunk.1 chunk.2.length) ∧
    s.unread = chunks.flatMap chunkText ++ rest ∧ TooLarge memory s.fails rest

theorem readChunkedLoop_body {chunks : List (Bytes × Bytes)} {last rest : Bytes} (rounds : Nat)
    (content : Bytes)
    (hchunks : Sized (ReadAsSize memory) chunks last) (h : s.unread = bodyText chunks last ++ rest)
    (hrounds : s.unread.length < rounds) :
    ∃ s', readChunkedLoop memory rounds s content =
        (.ok true, content ++ chunks.flatMap Prod.snd, s') ∧ Takes s (bodyText chunks last) s' := by
  induction chunks generalizing rounds s content with
  | nil =>
    obtain ⟨rounds, rfl⟩ := Nat.exists_eq_succ_of_ne_zero (Nat.ne_of_gt (Nat.zero_lt_of_lt hrounds))
    obtain ⟨s', hround, htakes⟩ := readChunk_last memory content
      hchunks.last.isLine hchunks.last.number (h.trans (List.append_assoc last EOL rest))
    refine ⟨s', ?_, htakes⟩
    rw [readChunkedLoop, hround, List.flatMap_nil, List.append_nil]
  | cons chunk chunks ih =>
    obtain ⟨rounds, rfl⟩ := Nat.exists_eq_succ_of_ne_zero (Nat.ne_of_gt (Nat.zero_lt_of_lt hrounds))
    obtain ⟨hne, hsize⟩ := hchunks.chunk chunk List.mem_cons_self
    rw [bodyText_cons, List.append_assoc] at h
    obtain ⟨s₁, hround, htakes₁⟩ := readChunk_more content hsize hne h
    have hshort : s₁.unread.length < s.unread.length := by
      apply length_lt_of_takes htakes₁
      exact List.append_ne_nil_of_left_ne_nil (List.ne_nil_of_mem hsize.isLine.newline_mem) _
    obtain ⟨s', hloop, htakes⟩ := ih rounds (content ++ chunk.2)
      hchunks.of_cons (htakes₁.rest h) (by omega)
    refine ⟨s', ?_, ?_⟩
    · rw [readChunkedLoop, hround]
      simp only [hloop, List.flatMap_cons, List.append_assoc]
    · rw [bodyText_cons]
      exact htakes₁.trans htakes

theorem readChunkedLoop_thrown (rounds : Nat) (content : Bytes) (h : Overflows memory s)
    (hrounds : s.unread.length < rounds) :
    ∃ content' s', readChunkedLoop memory rounds s content = (.error .allocation, content', s') := by
  obtain ⟨chunks, rest, hchunks, hunread, hlarge⟩ := h
  induction chunks generalizing rounds s content with
  | nil =>
    obtain ⟨rounds, rfl⟩ := Nat.exists_eq_succ_of_ne_zero (Nat.ne_of_gt (Nat.zero_lt_of_lt hrounds))
    have hrest : s.unread = rest := hunread
    obtain ⟨s', hround⟩ := readChunk_thrown content (hrest ▸ hlarge)
    exact ⟨content, s', by rw [readChunkedLoop, hround]⟩
  | cons chunk chunks ih =>
    obtain ⟨rounds, rfl⟩ := Nat.exists_eq_succ_of_ne_zero (Nat.ne_of_gt (Nat.zero_lt_of_lt hrounds))
    obtain ⟨hne, hsize⟩ := hchunks chunk List.mem_cons_self
    rw [List.flatMap_cons, List.append_assoc] at hunread
    obtain ⟨s₁, hround, htakes₁⟩ := readChunk_more content hsize hne hunread
    have hshort : s₁.unread.length < s.unread.length := by
      apply length_lt_of_takes htakes₁
      exact List.append_ne_nil_of_left_ne_nil (List.ne_nil_of_mem hsize.isLine.newline_mem) _
    obtain ⟨content', s', hloop⟩ := ih rounds (content ++ chunk.2) (by omega)
      (fun c hc => hchunks c (List.mem_cons_of_mem _ hc)) (htakes₁.rest hunread)
      (htakes₁.fails ▸ hlarge)
    exact ⟨content', s', by rw [readChunkedLoop, hround]; exact hloop⟩

/-- How the loop can end: with a body, without one, or for lack of memory. -/
theorem readChunkedLoop_cases (memory : Nat) (s : RecvStream) (content : Bytes) (rounds : Nat) :
    (∃ chunks last s', readChunkedLoop memory rounds s content =
        (.ok true, content ++ chunks.flatMap Prod.snd, s') ∧
      Sized (ReadAsSize memory) chunks last ∧ Takes s (bodyText chunks last) s') ∨
    (∃ content' s', readChunkedLoop memory rounds s content = (.ok false, content', s')) ∨
      Overflows memory s := by
  induction rounds generalizing s content with
  | zero => exact .inr (.inl ⟨content, s, rfl⟩)
  | succ rounds ih =>
    rw [readChunkedLoop]
    rcases readChunk_cases memory s content with ⟨content', s', hround⟩ |
      ⟨size, s', hround, hsize, htakes⟩ | ⟨chunk, s₁, hround, hne, hsize, htakes₁⟩ | ⟨_, hlarge⟩
    · exact .inr (.inl ⟨content', s', by rw [hround]⟩)
    · refine .inl ⟨[], size, s', ?_, ⟨?_, hsize⟩, htakes⟩
      · rw [hround, List.flatMap_nil, List.append_nil]
      · intro chunk hchunk
        cases hchunk
    · rw [hround]
      rcases ih s₁ (content ++ chunk.2) with ⟨chunks, last, s', hloop, hchunks, htakes⟩ | hfalse |
        ⟨chunks, rest, hchunks, hunread, hlarge⟩
      · refine .inl ⟨chunk :: chunks, last, s', ?_, ⟨?_, hchunks.last⟩, ?_⟩
        · simp only [hloop, List.flatMap_cons, List.append_assoc]
        · intro c hc
          rcases List.mem_cons.mp hc with rfl | hc
          · exact ⟨hne, hsize⟩
          · exact hchunks.chunk c hc
        · rw [bodyText_cons]
          exact htakes₁.trans htakes
      · exact .inr (.inl hfalse)
      · refine .inr (.inr ⟨chunk :: chunks, rest, ?_, ?_, htakes₁.fails ▸ hlarge⟩)
        · intro c hc
          rcases List.mem_cons.mp hc with rfl | hc
          · exact ⟨hne, hsize⟩
          · exact hchunks c hc
        · rw [htakes₁.unread, hunread, List.flatMap_cons, List.append_assoc]
    · exact .inr (.inr ⟨[], s.unread, fun c hc => absurd hc List.not_mem_nil, rfl, hlarge⟩)

/-- A body that is read so is taken as a whole. -/
theorem readChunkedContent_body (content : Bytes) {chunks : List (Bytes × Bytes)}
    {last rest : Bytes}
    (hchunks : Sized (ReadAsSize memory) chunks last) (h : s.unread = bodyText chunks last ++ rest) :
    ∃ s', readChunkedContent memory s content =
        (.ok true, content ++ chunks.flatMap Prod.snd, s') ∧ s'.unread = rest := by
  obtain ⟨s', hloop, htakes⟩ := readChunkedLoop_body _ content hchunks h
    (Nat.lt_succ_self _)
  exact ⟨s', hloop, htakes.rest h⟩

end RecvStream

/-! ### Bodies as they are to be written -/

section Bodies

open RecvStream

variable {memory : Nat} {s : RecvStream} {content : Bytes}

/-- A body as it is to be written is taken however it arrives, and nothing behind it; `memory` is
enough for a buffer of less than 2 ^ 31 bytes. -/
theorem readChunkedContent_written {chunks : List (Bytes × Bytes)} {last rest : Bytes}
    (hmemory : 0x7fffffff ≤ memory) (hchunks : Sized ChunkSize chunks last)
    (hrange : ∀ chunk ∈ chunks, chunk.2.length < 0x80000000)
    (h : s.unread = bodyText chunks last ++ rest) :
    ∃ s', readChunkedContent memory s content =
        (.ok true, content ++ chunks.flatMap Prod.snd, s') ∧ s'.unread = rest := by
  apply readChunkedContent_body content ?_ h
  constructor
  · intro chunk hchunk
    obtain ⟨hne, hsize⟩ := hchunks.chunk chunk hchunk
    have hlength := hrange chunk hchunk
    exact ⟨hne, hsize.readAsSize (by omega) (by omega)⟩
  · exact hchunks.last.readAsSize (Nat.zero_le _) (by omega)

/-- `3;x` and `abc`, which arrive in five pieces, and the beginning of a response behind them. -/
def arrivedChunk : RecvStream where
  arrivals := [⟨51, [59]⟩, ⟨120, [13]⟩, ⟨10, [97, 98]⟩, ⟨99, [13, 10, 48]⟩,
    ⟨13, [10, 13, 10, 72, 84]⟩]
  fails := false

theorem arrivedChunk_read : ∃ s', readChunkedContent 0x7fffffff arrivedChunk [] =
    (.ok true, [97, 98, 99], s') ∧ s'.unread = [72, 84] := by
  have hEOL : EOL = [13, 10] := by decide +kernel
  have hchunks : Sized ChunkSize [([51, 59, 120, 13, 10], [97, 98, 99])] [48, 13, 10] := by
    constructor
    · intro chunk hchunk
      obtain rfl := List.mem_singleton.mp hchunk
      refine ⟨by decide, [51], [59, 120], by decide, by decide +kernel, by decide, .inr ⟨_, rfl⟩,
        by decide +kernel, ?_⟩
      rw [hEOL]
      rfl
    · refine ⟨[48], [], by decide, by decide +kernel, by decide, .inl rfl, List.not_mem_nil, ?_⟩
      rw [hEOL]
      rfl
  exact readChunkedContent_written (Nat.le_refl _) hchunks (by decide) (by decide +kernel)

/-- What stands on the socket is accepted only if it begins with a body as it is to be written,
and is refused otherwise. -/
structure AcceptsOnlyBodies (memory : Nat) (s : RecvStream) (content : Bytes) : Prop where
  accepted : ∀ content' s', readChunkedContent memory s content = (.ok true, content', s') →
    ∃ chunks last, Sized ChunkSize chunks last ∧ s.unread = bodyText chunks last ++ s'.unread
  refused : (∀ chunks last rest, Sized ChunkSize chunks last →
      s.unread ≠ bodyText chunks last ++ rest) →
    ∃ content' s', readChunkedContent memory s content = (.ok false, content', s')

/-- What stands on the socket can be read as a body only where the size lines are as they are to
be written; and without such a body there is memory for the sizes. -/
structure SizesAsWritten (memory : Nat) (s : RecvStream) : Prop where
  sizes : ∀ chunks last rest, Sized (ReadAsSize memory) chunks last →
    s.unread = bodyText chunks last ++ rest →
    (∀ chunk ∈ chunks, ∃ n, ChunkSize chunk.1 n) ∧ ∃ n, ChunkSize last n
  memory : (∀ chunks last rest, Sized ChunkSize chunks last →
      s.unread ≠ bodyText chunks last ++ rest) → ¬ Overflows memory s

theorem ReadAsSize.chunkSize {line : Bytes} {n n' : Nat} (h : ReadAsSize memory line n)
    (h' : ChunkSize line n') : ChunkSize line n := by
  have hnumber := h.number
  have hrange := h.range
  rw [h'.strtoul_eq] at hnumber
  obtain rfl : n' = n := by omega
  exact h'

/-- A body has one reading. -/
theorem Sized.unique {chunks chunks' : List (Bytes × Bytes)} {last last' : Bytes}
    (h : Sized (ReadAsSize memory) chunks last) (h' : Sized ChunkSize chunks' last')
    (htext : bodyText chunks last = bodyText chunks' last') : chunks = chunks' ∧ last = last' := by
  induction chunks generalizing chunks' with
  | nil =>
    cases chunks' with
    | nil => exact ⟨rfl, List.append_cancel_right htext⟩
    | cons chunk' chunks' =>
      obtain ⟨hne, hsize⟩ := h'.chunk chunk' List.mem_cons_self
      rw [bodyText_cons, chunkText, List.append_assoc] at htext
      obtain ⟨rfl, _⟩ := h.last.isLine.append_inj hsize.isLine htext
      have hzero := h.last.number
      have hpos := List.length_pos_of_ne_nil hne
      rw [hsize.strtoul_eq] at hzero
      omega
  | cons chunk chunks ih =>
    obtain ⟨hne, hsize⟩ := h.chunk chunk List.mem_cons_self
    have hpos := List.length_pos_of_ne_nil hne
    cases chunks' with
    | nil =>
      rw [bodyText_cons, chunkText, List.append_assoc] at htext
      obtain ⟨hline, _⟩ := hsize.isLine.append_inj h'.last.isLine htext
      have hnumber := hsize.number
      rw [hline, h'.last.strtoul_eq] at hnumber
      omega
    | cons chunk' chunks' =>
      obtain ⟨_, hsize'⟩ := h'.chunk chunk' List.mem_cons_self
      simp only [bodyText_cons, chunkText, List.append_assoc] at htext
      obtain ⟨hline, hrest⟩ := hsize.isLine.append_inj hsize'.isLine htext
      have hnumber := hsize.number
      have hrange := hsize.range
      rw [hline, hsize'.strtoul_eq] at hnumber
      obtain ⟨hdata, hrest⟩ := List.append_inj hrest (by omega)
      obtain ⟨hchunks, hlast⟩ := ih h.of_cons h'.of_cons (List.append_cancel_left hrest)
      refine ⟨?_, hlast⟩
      rw [hchunks, Prod.ext hline hdata]

theorem sizesAsWritten_of_accepts (h : AcceptsOnlyBodies memory s content) :
    SizesAsWritten memory s := by
  constructor
  · intro chunks last rest hchunks hunread
    obtain ⟨s', hread, hrest⟩ := readChunkedContent_body content hchunks hunread
    obtain ⟨chunks', last', hchunks', hunread'⟩ := h.accepted _ s' hread
    rw [hunread, hrest] at hunread'
    obtain ⟨rfl, rfl⟩ := hchunks.unique hchunks' (List.append_cancel_right hunread')
    exact ⟨fun chunk hchunk => ⟨_, (hchunks'.chunk chunk hchunk).2⟩, 0, hchunks'.last⟩
  · intro hnone hoverflows
    obtain ⟨content', s', hread⟩ := h.refused hnone
    obtain ⟨content'', s'', hthrown⟩ := readChunkedLoop_thrown _ content hoverflows
      (Nat.lt_succ_self _)
    rw [readChunkedContent, hthrown] at hread
    cases hread

/-- A body as it is read is a body as it is written. -/
theorem SizesAsWritten.sized {chunks : List (Bytes × Bytes)} {last : Bytes} {s' : RecvStream}
    (h : SizesAsWritten memory s) (hchunks : Sized (ReadAsSize memory) chunks last)
    (htakes : Takes s (bodyText chunks last) s') : Sized ChunkSize chunks last := by
  obtain ⟨hsizes, n, hlast⟩ := h.sizes chunks last _ hchunks htakes.unread
  constructor
  · intro chunk hchunk
    obtain ⟨hne, hsize⟩ := hchunks.chunk chunk hchunk
    obtain ⟨n, hsize'⟩ := hsizes chunk hchunk
    exact ⟨hne, hsize.chunkSize hsize'⟩
  · exact hchunks.last.chunkSize hlast

theorem accepts_of_sizesAsWritten (h : SizesAsWritten memory s) :
    AcceptsOnlyBodies memory s content := by
  constructor
  · intro content' s' hread
    rcases readChunkedLoop_cases memory s content (s.unread.length + 1) with
      ⟨chunks, last, s'', hloop, hchunks, htakes⟩ | ⟨content'', s'', hloop⟩ | hoverflows
    · obtain ⟨_, rfl⟩ := Prod.mk.inj (Prod.mk.inj (hread.symm.trans hloop)).2
      exact ⟨chunks, last, h.sized hchunks htakes, htakes.unread⟩
    · cases hread.symm.trans hloop
    · obtain ⟨content'', s'', hloop⟩ := readChunkedLoop_thrown _ content hoverflows
        (Nat.lt_succ_self _)
      cases hread.symm.trans hloop
  · intro hnone
    rcases readChunkedLoop_cases memory s content (s.unread.length + 1) with
      ⟨chunks, last, s', _, hchunks, htakes⟩ | hfalse | hoverflows
    · exact absurd htakes.unread (hnone chunks last _ (h.sized hchunks htakes))
    · exact hfalse
    · exact absurd hoverflows (h.memory hnone)

/-- Exactly then only bodies are accepted. -/
theorem acceptsOnlyBodies_iff :
    AcceptsOnlyBodies memory s content ↔ SizesAsWritten memory s := by
  constructor
  · exact sizesAsWritten_of_accepts
  · exact accepts_of_sizesAsWritten

theorem ChunkSize.begins {line : Bytes} {n : Nat} (h : ChunkSize line n) :
    ∃ b tail, line = b :: tail ∧ isDigit 16 b = true := by
  obtain ⟨digits, extension, hne, hdigits, _, _, _, rfl⟩ := h
  obtain ⟨b, digits, rfl⟩ := List.exists_cons_of_ne_nil hne
  exact ⟨b, _, rfl, hdigits b List.mem_cons_self⟩

/-- A body begins with a digit. -/
theorem Sized.begins {chunks : List (Bytes × Bytes)} {last : Bytes}
    (h : Sized ChunkSize chunks last) :
    ∃ b tail, bodyText chunks last = b :: tail ∧ isDigit 16 b = true := by
  cases chunks with
  | nil =>
    obtain ⟨b, tail, hlast, hdigit⟩ := h.last.begins
    exact ⟨b, tail ++ EOL, by rw [hlast]; rfl, hdigit⟩
  | cons chunk chunks =>
    obtain ⟨b, tail, hline, hdigit⟩ := (h.chunk chunk List.mem_cons_self).2.begins
    exact ⟨b, _, by rw [bodyText_cons, chunkText, hline]; rfl, hdigit⟩

/-- A line without a digit and an empty line. -/
def arrivedLines : RecvStream := { arrivals := [⟨120, [121, 122, 13, 10, 13, 10]⟩], fails := false }

/-- They are accepted as an empty body. -/
theorem lines_accepted : ¬ ∀ (memory : Nat) (s : RecvStream) (content : Bytes),
    AcceptsOnlyBodies memory s content := by
  intro h
  have hread : readChunkedContent 0x7fffffff arrivedLines [] =
      (.ok true, [], { arrivals := [], fails := false }) := by
    decide +kernel
  obtain ⟨chunks, last, hchunks, hunread⟩ := (h 0x7fffffff arrivedLines []).accepted _ _ hread
  obtain ⟨b, tail, htext, hdigit⟩ := hchunks.begins
  rw [htext] at hunread
  obtain ⟨rfl, _⟩ := List.cons.inj hunread
  exact absurd hdigit (by decide)

end Bodies

/-! ### The parser of responses -/

section Parser

variable {memory : Nat} {response : Response}

theorem Progress.run_line {kind : LineKind} {start line : Bytes} (hline : newline ∉ line)
    (s : Bytes) : (Progress.more (.line kind start)).run memory (line ++ newline :: s) =
      (kind.finish memory (start ++ (line ++ [newline]))).run memory s := by
  induction line generalizing start with
  | nil => rfl
  | cons b line ih =>
    have hb : b ≠ newline := fun hb => hline (hb ▸ List.mem_cons_self)
    rw [List.cons_append, Progress.run_cons rfl, Reading.push, if_neg hb,
      ih fun hmem => hline (List.mem_cons_of_mem b hmem)]
    simp

theorem Progress.run_whole_line {progress : Progress} {kind : LineKind} {line : Bytes}
    (hreading : progress.reading? = some (.line kind [])) (hline : Line line) (s : Bytes) :
    progress.run memory (line ++ s) = (kind.finish memory line).run memory s := by
  have hne : line ++ s ≠ [] :=
    List.append_ne_nil_of_left_ne_nil (List.ne_nil_of_mem hline.newline_mem) s
  rw [Progress.run_eq hreading hne]
  obtain ⟨start, hstart, rfl⟩ := hline
  rw [List.append_assoc]
  exact Progress.run_line hstart s

theorem Progress.run_block {kind : BlockKind} {block : Bytes} (buf : Bytes) (hne : block ≠ [])
    (s : Bytes) :
    (Progress.more (.fixed kind block.length buf)).run memory (block ++ s) =
      (kind.finish (buf ++ block)).run memory s := by
  induction block generalizing buf with
  | nil => exact absurd rfl hne
  | cons b block ih =>
    rw [List.cons_append, Progress.run_cons rfl, Reading.push]
    cases block with
    | nil => rfl
    | cons c block =>
      have hrest := ih (buf ++ [b]) (List.cons_ne_nil c block)
      rw [List.append_assoc] at hrest
      rw [if_neg (by simp)]
      exact hrest

theorem run_chunk {chunk : Bytes × Bytes} (hne : chunk.2 ≠ [])
    (hsize : ReadAsSize memory chunk.1 chunk.2.length) (s : Bytes) :
    (Progress.more (.line (.chunkSize response) [])).run memory (chunkText chunk ++ s) =
      (Progress.more (.line (.chunkSize { response with content := response.content ++ chunk.2 })
        [])).run memory s := by
  have hpos : chunk.2.length ≠ 0 := fun hzero => hne (List.length_eq_zero_iff.mp hzero)
  have hmemory := hsize.memory
  rw [chunkText, List.append_assoc, List.append_assoc, Progress.run_whole_line rfl hsize.isLine]
  simp only [LineKind.finish, hsize.number, if_neg hpos, if_neg (Nat.not_lt.mpr hmemory)]
  rw [Progress.run_block [] hne, BlockKind.finish, Progress.run_whole_line rfl line_EOL]
  simp [LineKind.finish]

/-- The parser of responses takes the same bodies as `readChunkedContent`, with the same
content, and leaves the same behind them. -/
theorem run_body {chunks : List (Bytes × Bytes)} {last : Bytes}
    (hchunks : Sized (ReadAsSize memory) chunks last) (s : Bytes) :
    (Progress.more (.line (.chunkSize response) [])).run memory (bodyText chunks last ++ s) =
      (.done { response with content := response.content ++ chunks.flatMap Prod.snd }, s) := by
  induction chunks generalizing response with
  | nil =>
    rw [bodyText, List.flatMap_nil, List.nil_append, List.append_assoc,
      Progress.run_whole_line rfl hchunks.last.isLine]
    simp only [LineKind.finish, hchunks.last.number, if_true]
    rw [Progress.run_whole_line rfl line_EOL]
    simp only [LineKind.finish, ne_eq, not_true, if_false, if_true]
    have hstopped : (Progress.done response).reading? = none := rfl
    rw [Progress.run_of_stopped hstopped, List.flatMap_nil, List.append_nil]
  | cons chunk chunks ih =>
    obtain ⟨hne, hsize⟩ := hchunks.chunk chunk List.mem_cons_self
    rw [bodyText_cons, List.append_assoc, run_chunk hne hsize, ih hchunks.of_cons]
    simp

end Parser

end PeakAnalyser
