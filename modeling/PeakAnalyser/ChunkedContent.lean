import PeakAnalyser.HTTPMessages

/-!
# `readChunkedContent`

The reading functions of `HTTPCommon.cpp`, as they call one another on a socket, from
which `recv` takes what has arrived. They find the end of a chunked body wherever the
arrivals end. The chunk sizes are read by `strtoul`, which takes any line for a number.
-/

namespace PeakAnalyser

set_option autoImplicit false

/-! ### The functions -/

/-- What arrives at one time: a byte at least. -/
structure Arrival where
  first : UInt8
  more : Bytes
  deriving DecidableEq

/-- What `recv` will find on a socket. After the last arrival the connection has ended, or
`recv` fails. -/
structure RecvStream where
  arrivals : List Arrival
  fails : Bool
  deriving DecidableEq

inductive RecvResult where
  | data (bytes : Bytes)
  | closed
  | failed
  deriving DecidableEq

/-- `(int)bufSize`, as the `size_t` that `recv` takes: a negative number becomes a large one. -/
def recvSize (bufSize : Nat) : Nat :=
  if bufSize % 0x100000000 < 0x80000000 then bufSize % 0x100000000
  else bufSize % 0x100000000 + 0xffffffff00000000

namespace RecvStream

def unread (s : RecvStream) : Bytes := s.arrivals.flatMap fun a => a.first :: a.more

/-- `recv(s, buf, size, 0)`. What it returns is an `int`. -/
def recv (s : RecvStream) (size : Nat) : RecvResult × RecvStream :=
  if size = 0 then (.closed, s)
  else
    match s.arrivals with
    | [] => (if s.fails then .failed else .closed, s)
    | a :: rest =>
      (.data ((a.first :: a.more).take (min size 0x7fffffff)),
        { s with
          arrivals :=
            match (a.first :: a.more).drop (min size 0x7fffffff) with
            | [] => rest
            | first :: more => { first, more } :: rest })

/-- The loop of `readLine`, in at most `rounds` rounds. -/
def readLineLoop : Nat → RecvStream → Bytes → Option Bytes × RecvStream
  | 0, s, _ => (none, s)
  | rounds + 1, s, line =>
    match s.recv 1 with
    | (.failed, s) => (none, s)
    | (.closed, s) => (if line = [] then none else some line, s)
    | (.data b, s) =>
      if b = [newline] then (some (line ++ b), s) else readLineLoop rounds s (line ++ b)

/-- `readLine`: `none` is its `false`. -/
def readLine (s : RecvStream) : Option Bytes × RecvStream :=
  readLineLoop (s.unread.length + 1) s []

/-- The loop of `readFixedContent`. -/
def readFixedLoop : Nat → RecvStream → Nat → Bytes → Option Bytes × RecvStream
  | 0, s, _, _ => (none, s)
  | rounds + 1, s, bufSize, buf =>
    if bufSize = 0 then (some buf, s)
    else
      match s.recv (recvSize bufSize) with
      | (.data received, s) =>
        readFixedLoop rounds s (bufSize - received.length) (buf ++ received)
      | (_, s) => (none, s)

/-- `readFixedContent`; `memory` is the size of the largest buffer that can be allocated. -/
def readFixedContent (memory : Nat) (s : RecvStream) (content : Bytes) (length : Nat) :
    Except StdException (Option Bytes) × RecvStream :=
  if memory < length then (.error .allocation, s)
  else
    match readFixedLoop (s.unread.length + 1) s length [] with
    | (some buf, s) => (.ok (some (content ++ buf)), s)
    | (none, s) => (.ok none, s)

end RecvStream

/-- How a round of the loop of `readChunkedContent` ends. -/
inductive ChunkRound where
  | more
  | last
  | failed
  | thrown (exception : StdException)
  deriving DecidableEq

namespace RecvStream

/-- Lines 165 to 172. -/
def endChunk (s : RecvStream) (length : Nat) (content : Bytes) : ChunkRound × Bytes × RecvStream :=
  match s.readLine with
  | (none, s) => (.failed, content, s)
  | (some line, s) =>
    if line ≠ EOL then (.failed, content, s)
    else if length = 0 then (.last, content, s)
    else (.more, content, s)

/-- A round of the loop. -/
def readChunk (memory : Nat) (s : RecvStream) (content : Bytes) :
    ChunkRound × Bytes × RecvStream :=
  match s.readLine with
  | (none, s) => (.failed, content, s)
  | (some lengthLine, s) =>
    let length := strtoul lengthLine
    if length = 0 then s.endChunk length content
    else
      match s.readFixedContent memory [] length with
      | (.error exception, s) => (.thrown exception, content, s)
      | (.ok none, s) => (.failed, content, s)
      | (.ok (some chunk), s) => s.endChunk length (content ++ chunk)

def readChunkedLoop (memory : Nat) : Nat → RecvStream → Bytes →
    Except StdException Bool × Bytes × RecvStream
  | 0, s, content => (.ok false, content, s)
  | rounds + 1, s, content =>
    match readChunk memory s content with
    | (.more, content, s) => readChunkedLoop memory rounds s content
    | (.last, content, s) => (.ok true, content, s)
    | (.failed, content, s) => (.ok false, content, s)
    | (.thrown exception, content, s) => (.error exception, content, s)

/-- `readChunkedContent`: what it returns, `content` then, and what is left on the socket. -/
def readChunkedContent (memory : Nat) (s : RecvStream) (content : Bytes) :
    Except StdException Bool × Bytes × RecvStream :=
  readChunkedLoop memory (s.unread.length + 1) s content

/-! ### What the functions take from the socket -/

/-- From `s` to `s'` just `data` has been taken. -/
structure Takes (s : RecvStream) (data : Bytes) (s' : RecvStream) : Prop where
  unread : s.unread = data ++ s'.unread
  fails : s'.fails = s.fails

variable {s s' s₁ s₂ : RecvStream} {data data' : Bytes}

theorem Takes.refl (s : RecvStream) : Takes s [] s := ⟨rfl, rfl⟩

theorem Takes.trans (h : Takes s data s₁) (h' : Takes s₁ data' s₂) : Takes s (data ++ data') s₂ := by
  constructor
  · rw [h.unread, h'.unread, List.append_assoc]
  · rw [h'.fails, h.fails]

theorem Takes.rest {rest : Bytes} (h : Takes s data s') (hrest : s.unread = data ++ rest) :
    s'.unread = rest := by
  have heq : data ++ s'.unread = data ++ rest := h.unread.symm.trans hrest
  exact List.append_cancel_left heq

/-- `recv` takes some bytes, unless none are left. -/
theorem recv_cases (s : RecvStream) (size : Nat) (hsize : size ≠ 0) :
    (s.unread = [] ∧ s.recv size = (if s.fails then .failed else .closed, s)) ∨
      ∃ data s', s.recv size = (.data data, s') ∧ Takes s data s' ∧ data ≠ [] ∧
        data.length ≤ min size 0x7fffffff := by
  obtain ⟨arrivals, fails⟩ := s
  cases arrivals with
  | nil =>
    left
    refine ⟨rfl, ?_⟩
    rw [recv, if_neg hsize]
  | cons a rest =>
    right
    have hmin : min size 0x7fffffff ≠ 0 := by omega
    refine ⟨_, _, if_neg hsize, ⟨?_, rfl⟩, ?_, List.length_take_le _ _⟩
    · cases hdrop : (a.first :: a.more).drop (min size 0x7fffffff) with
      | nil =>
        have htake := List.take_append_drop (min size 0x7fffffff) (a.first :: a.more)
        rw [hdrop, List.append_nil] at htake
        rw [htake]
        rfl
      | cons first more =>
        have htake := List.take_append_drop (min size 0x7fffffff) (a.first :: a.more)
        rw [hdrop] at htake
        simp only [unread, List.flatMap_cons]
        rw [← List.append_assoc, htake]
    · obtain ⟨n, hn⟩ := Nat.exists_eq_succ_of_ne_zero hmin
      rw [hn, List.take_succ_cons]
      exact List.cons_ne_nil _ _

theorem length_lt_of_takes (h : Takes s data s') (hne : data ≠ []) :
    s'.unread.length < s.unread.length := by
  have hpos := List.length_pos_of_ne_nil hne
  rw [h.unread, List.length_append]
  omega

/-- A line whose end has arrived is taken as a whole, and nothing behind it. -/
theorem readLineLoop_line {rounds : Nat} {start rest : Bytes} (line : Bytes)
    (h : s.unread = start ++ newline :: rest) (hstart : newline ∉ start)
    (hrounds : s.unread.length < rounds) :
    ∃ s', readLineLoop rounds s line = (some (line ++ (start ++ [newline])), s') ∧
      Takes s (start ++ [newline]) s' := by
  induction rounds generalizing s start line with
  | zero => omega
  | succ rounds ih =>
    rcases s.recv_cases 1 (by omega) with ⟨hnil, _⟩ | ⟨data, s', hrecv, htakes, hne, hone⟩
    · rw [hnil] at h
      exact absurd h (by simp)
    · have hshort := length_lt_of_takes htakes hne
      obtain ⟨b, rfl⟩ : ∃ b, data = [b] := by
        apply List.length_eq_one_iff.mp
        have hpos := List.length_pos_of_ne_nil hne
        omega
      have hunread := htakes.unread.symm.trans h
      rw [readLineLoop, hrecv]
      cases start with
      | nil =>
        obtain ⟨rfl, _⟩ := List.cons.inj hunread
        exact ⟨s', rfl, htakes⟩
      | cons c start =>
        obtain ⟨rfl, hrest⟩ := List.cons.inj hunread
        have hb : [b] ≠ [newline] := by
          intro hb
          exact hstart (List.mem_cons.mpr (.inl (List.cons.inj hb).1.symm))
        obtain ⟨s₂, hloop, htakes'⟩ := ih (line ++ [b]) hrest
          (fun hmem => hstart (List.mem_cons_of_mem b hmem)) (by omega)
        refine ⟨s₂, ?_, htakes.trans htakes'⟩
        simp only [if_neg hb, hloop]
        simp

/-- Without an end of a line all is taken. A line that has begun counts as a whole one when the
connection ends. -/
theorem readLineLoop_end {rounds : Nat} (line : Bytes) (h : newline ∉ s.unread)
    (hrounds : s.unread.length < rounds) :
    ∃ s', readLineLoop rounds s line =
        (if s.fails ∨ line ++ s.unread = [] then none else some (line ++ s.unread), s') ∧
      Takes s s.unread s' := by
  induction rounds generalizing s line with
  | zero => omega
  | succ rounds ih =>
    rw [readLineLoop]
    rcases s.recv_cases 1 (by omega) with ⟨hnil, hrecv⟩ | ⟨data, s', hrecv, htakes, hne, hone⟩
    · refine ⟨s, ?_, ?_⟩
      · rw [hrecv, hnil, List.append_nil]
        cases s.fails <;> simp
      · rw [hnil]
        exact Takes.refl s
    · have hshort := length_lt_of_takes htakes hne
      have hunread := htakes.unread
      have hmem : newline ∉ s'.unread := by
        intro hmem
        apply h
        rw [hunread]
        exact List.mem_append_right _ hmem
      have hb : data ≠ [newline] := by
        intro hb
        apply h
        rw [hunread, hb]
        exact List.mem_cons_self
      obtain ⟨s₂, hloop, htakes'⟩ := ih (line ++ data) hmem (by omega)
      refine ⟨s₂, ?_, ?_⟩
      · simp only [hrecv, if_neg hb, hloop, htakes.fails, hunread, List.append_assoc]
      · rw [hunread]
        exact htakes.trans htakes'

theorem readLine_line {line rest : Bytes} (hline : Line line) (h : s.unread = line ++ rest) :
    ∃ s', s.readLine = (some line, s') ∧ Takes s line s' := by
  obtain ⟨start, hstart, rfl⟩ := hline
  rw [List.append_assoc] at h
  obtain ⟨s', hloop, htakes⟩ := readLineLoop_line [] h hstart (Nat.lt_succ_self _)
  exact ⟨s', hloop, htakes⟩

theorem readLine_end (h : newline ∉ s.unread) :
    ∃ s', s.readLine = (if s.fails ∨ s.unread = [] then none else some s.unread, s') ∧
      Takes s s.unread s' :=
  readLineLoop_end [] h (Nat.lt_succ_self _)

/-- Without a failure of `recv` a line is a whole one, or all that was left. -/
theorem readLine_cases (s : RecvStream) :
    (∃ line s', s.readLine = (some line, s') ∧ Takes s line s' ∧ Line line) ∨
      (∃ s', s.readLine = (some s.unread, s') ∧ Takes s s.unread s' ∧ newline ∉ s.unread ∧
        s.unread ≠ [] ∧ s.fails = false) ∨
      ∃ s', s.readLine = (none, s') ∧ newline ∉ s.unread := by
  by_cases hmem : newline ∈ s.unread
  · left
    obtain ⟨start, rest, hunread, hstart⟩ := List.eq_append_cons_of_mem hmem
    obtain ⟨s', hread, htakes⟩ := readLine_line (s := s) ⟨start, hstart, rfl⟩
      (by rw [hunread, List.append_assoc]; rfl)
    exact ⟨_, s', hread, htakes, start, hstart, rfl⟩
  · right
    obtain ⟨s', hread, htakes⟩ := readLine_end hmem
    by_cases hlost : s.fails ∨ s.unread = []
    · right
      rw [if_pos hlost] at hread
      exact ⟨s', hread, hmem⟩
    · left
      rw [if_neg hlost] at hread
      rw [not_or, Bool.not_eq_true] at hlost
      exact ⟨s', hread, htakes, hmem, hlost.2, hlost.1⟩

/-! ### Blocks -/

theorem recvSize_eq_zero_iff (bufSize : Nat) :
    recvSize bufSize = 0 ↔ bufSize % 0x100000000 = 0 := by
  unfold recvSize
  split <;> omega

/-- `recv` is never given more room than there is. -/
theorem recvSize_le (bufSize : Nat) : min (recvSize bufSize) 0x7fffffff ≤ bufSize % 0x100000000 := by
  unfold recvSize
  split <;> omega

/-- A block that has arrived is taken as a whole, and nothing behind it. -/
theorem readFixedLoop_block {rounds : Nat} {block rest : Bytes} (buf : Bytes)
    (h : s.unread = block ++ rest) (hsize : block.length < 0x100000000)
    (hrounds : s.unread.length < rounds) :
    ∃ s', readFixedLoop rounds s block.length buf = (some (buf ++ block), s') ∧
      Takes s block s' := by
  induction rounds generalizing s block buf with
  | zero => omega
  | succ rounds ih =>
    rw [readFixedLoop]
    by_cases hzero : block.length = 0
    · rw [if_pos hzero]
      obtain rfl := List.length_eq_zero_iff.mp hzero
      exact ⟨s, by rw [List.append_nil], Takes.refl s⟩
    · rw [if_neg hzero]
      have hsize' : recvSize block.length ≠ 0 := by
        rw [Ne, recvSize_eq_zero_iff]
        omega
      rcases s.recv_cases _ hsize' with ⟨hnil, _⟩ | ⟨data, s', hrecv, htakes, hne, hdata⟩
      · rw [hnil] at h
        have hblock := (List.append_eq_nil_iff.mp h.symm).1
        exact absurd (congrArg List.length hblock) hzero
      · have hle := recvSize_le block.length
        have hshort := length_lt_of_takes htakes hne
        have hunread := htakes.unread.symm.trans h
        -- what `recv` returns is the beginning of the block
        obtain ⟨tail, htail⟩ : ∃ tail, block = data ++ tail := by
          apply List.prefix_iff_exists_append_eq.mp ?_ |>.imp
          · exact fun _ heq => heq.symm
          · exact List.prefix_of_prefix_length_le ⟨s'.unread, hunread⟩ ⟨rest, rfl⟩ (by omega)
        rw [htail, List.append_assoc] at hunread
        have hrest := List.append_cancel_left hunread
        have htailSize : tail.length < 0x100000000 := by
          rw [htail, List.length_append] at hsize
          omega
        obtain ⟨s₂, hloop, htakes'⟩ := ih (buf ++ data) hrest htailSize (by omega)
        refine ⟨s₂, ?_, ?_⟩
        · have hleft : block.length - data.length = tail.length := by
            rw [htail, List.length_append]
            omega
          simp only [hrecv, hleft, hloop]
          rw [htail, List.append_assoc]
        · rw [htail]
          exact htakes.trans htakes'

/-- A block that is too long for an `int`, or that does not arrive, is not taken. -/
theorem readFixedLoop_none (rounds : Nat) {bufSize : Nat} (buf : Bytes)
    (h : s.unread.length < bufSize ∨ 0x100000000 ≤ bufSize) :
    (readFixedLoop rounds s bufSize buf).1 = none := by
  induction rounds generalizing s bufSize buf with
  | zero => rfl
  | succ rounds ih =>
    have hpos : bufSize ≠ 0 := by omega
    rw [readFixedLoop, if_neg hpos]
    by_cases hsize : recvSize bufSize = 0
    · rw [recv, if_pos hsize]
    · rcases s.recv_cases _ hsize with ⟨_, hrecv⟩ | ⟨data, s', hrecv, htakes, hne, hdata⟩
      · rw [hrecv]
        cases s.fails <;> rfl
      · rw [hrecv]
        apply ih
        have hle := recvSize_le bufSize
        rw [htakes.unread, List.length_append] at h
        omega

theorem readFixedContent_block (memory : Nat) {block rest : Bytes} (content : Bytes)
    (h : s.unread = block ++ rest) (hmemory : block.length ≤ memory)
    (hsize : block.length < 0x100000000) :
    ∃ s', readFixedContent memory s content block.length = (.ok (some (content ++ block)), s') ∧
      Takes s block s' := by
  obtain ⟨s', hloop, htakes⟩ := readFixedLoop_block [] h hsize (Nat.lt_succ_self _)
  refine ⟨s', ?_, htakes⟩
  rw [readFixedContent, if_neg (by omega), hloop]
  rfl

theorem readFixedContent_cases (memory : Nat) (s : RecvStream) (content : Bytes) (length : Nat) :
    (memory < length ∧ readFixedContent memory s content length = (.error .allocation, s)) ∨
      (∃ s', readFixedContent memory s content length = (.ok none, s')) ∨
      ∃ block s', readFixedContent memory s content length = (.ok (some (content ++ block)), s') ∧
        Takes s block s' ∧ block.length = length ∧ length ≤ memory ∧ length < 0x100000000 := by
  by_cases hmemory : memory < length
  · exact .inl ⟨hmemory, if_pos hmemory⟩
  · right
    by_cases hnone : s.unread.length < length ∨ 0x100000000 ≤ length
    · left
      have hloop := readFixedLoop_none (s.unread.length + 1) [] hnone
      refine ⟨(readFixedLoop (s.unread.length + 1) s length []).2, ?_⟩
      rw [readFixedContent, if_neg hmemory, ← Prod.eta (readFixedLoop _ s length []), hloop]
    · right
      have hlength : (s.unread.take length).length = length := by
        rw [List.length_take]
        omega
      obtain ⟨s', hread, htakes⟩ := readFixedContent_block memory content
        (List.take_append_drop length s.unread).symm (by omega) (by omega)
      rw [hlength] at hread
      exact ⟨_, s', hread, htakes, hlength, by omega, by omega⟩

end RecvStream

end PeakAnalyser
