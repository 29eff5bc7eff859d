import PeakAnalyser.MessageHeaders

/-!
# The letter case of header names

`doRequest` and `clientHandler` look headers up in a `std::map`, whose keys are compared
byte by byte. Two messages that differ only in the letter case of their header names can
therefore be cut into head and body in different ways.
-/

namespace PeakAnalyser

set_option autoImplicit false

open Feeding

def lowerCase (b : UInt8) : UInt8 := if 65 ≤ b && b ≤ 90 then b + 32 else b

namespace HeaderField

variable (f : HeaderField)

/-- The name is `key`, in whatever case. -/
def Named (key : String) : Prop := f.name.map lowerCase = (bytes key).map lowerCase

/-- The same but for the letter case of the name. -/
def Recased (g : HeaderField) : Prop := f.name.map lowerCase = g.name.map lowerCase ∧ f.rest = g.rest

end HeaderField

/-- The headers of a well-formed message: no more than one length, and none beside a transfer
coding. -/
structure WellFormed (fields : List HeaderField) : Prop where
  plain : ∀ f ∈ fields, f.Plain
  length : ∀ f ∈ fields, ∀ g ∈ fields, f.Named "Content-Length" → g.Named "Content-Length" →
    f.value = g.value
  framing : ∀ f ∈ fields, ∀ g ∈ fields, f.Named "Transfer-Encoding" → ¬ g.Named "Content-Length"

/-! ### The two receivers -/

/-- Whose reading is looked at: that of a response or that of a request. -/
inductive Receiver where
  | doRequest
  | clientHandler
  deriving DecidableEq

/-- What `doRequest` makes of a response and of `n` calls of `recv` that find the connection
ended: what it has read, how it goes on reading, and how many bytes it leaves. -/
def responseOutcome (memory : Nat) (status : Bytes) (fields : List HeaderField) (s : Bytes)
    (n : Nat) : Progress × Nat :=
  let (progress, rest) := responseStart.run memory (messageText status fields s)
  ((progress.afterEnd memory n).essence, rest.length)

/-- The same of `clientHandler` and a request. -/
def requestOutcome (requestLine : Bytes) (fields : List HeaderField) (s : Bytes) (n : Nat) :
    RequestProgress × Nat :=
  let (progress, rest) :=
    run RequestProgress.take (.reading (.requestLine [])) (messageText requestLine fields s)
  ((progress.afterEnd n).essence, rest.length)

/-- Whatever follows the headers, the receiver reads the same content from as many bytes. -/
def SameReception (memory : Nat) (receiver : Receiver) (startLine : Bytes)
    (fields fields' : List HeaderField) : Prop :=
  match receiver with
  | .doRequest => ∀ s n, responseOutcome memory startLine fields s n =
      responseOutcome memory startLine fields' s n
  | .clientHandler => ∀ s n, requestOutcome startLine fields s n =
      requestOutcome startLine fields' s n

/-- There is a header spelled just so. -/
def Spells (fields : List HeaderField) (key : String) : Prop := ∃ f ∈ fields, f.name = bytes key

/-- The names on which the framing depends are spelled as the receiver looks them up in both
messages or in neither; unless it stops before it looks, or the length does not matter. -/
def SpelledAlike (receiver : Receiver) (startLine : Bytes) (fields fields' : List HeaderField) :
    Prop :=
  match receiver with
  | .doRequest =>
    overrunsVersion startLine = true ∨ fields.any HeaderField.blank = true ∨
      (Spells fields "Content-Length" ↔ Spells fields' "Content-Length") ∧
        (spelledValue fields "Transfer-Encoding" = some (bytes "chunked") ↔
          spelledValue fields' "Transfer-Encoding" = some (bytes "chunked"))
  | .clientHandler =>
    scanWord startLine ≠ bytes "POST" ∨ fields.any HeaderField.blank = true ∨
      (∀ f ∈ fields, f.Named "Content-Length" → stoi f.value = .ok 0) ∨
      (Spells fields "Content-Length" ↔ Spells fields' "Content-Length")

/-! ### Changes of case -/

section Recasing

variable {f g : HeaderField} {fields fields' : List HeaderField}

theorem lowerCase_eq_iff (b : UInt8) :
    (lowerCase b = 58 ↔ b = 58) ∧ (lowerCase b = newline ↔ b = newline) := by
  have hall : ∀ n < 256, (lowerCase (.ofNat n) = 58 ↔ UInt8.ofNat n = 58) ∧
      (lowerCase (.ofNat n) = newline ↔ UInt8.ofNat n = newline) := by
    decide +kernel
  have hb := hall b.toNat b.toNat_lt
  rwa [UInt8.ofNat_toNat] at hb

namespace HeaderField.Recased

theorem symm (h : f.Recased g) : g.Recased f := ⟨h.1.symm, h.2.symm⟩

theorem value (h : f.Recased g) : f.value = g.value := congrArg trim h.2

theorem blank (h : f.Recased g) : f.blank = g.blank := congrArg (fun rest => rest.all isBlank) h.2

theorem named (h : f.Recased g) (key : String) : f.Named key ↔ g.Named key := by
  unfold HeaderField.Named
  rw [h.1]

theorem length_line (h : f.Recased g) : f.line.length = g.line.length := by
  have hlength := congrArg List.length h.1
  rw [List.length_map, List.length_map] at hlength
  rw [f.length_line, g.length_line, h.2, hlength]

theorem not_mem (h : f.Recased g) {c : UInt8} (hc : ∀ b, lowerCase b = c ↔ b = c)
    (hf : c ∉ f.name) : c ∉ g.name := by
  intro hg
  have hmem := List.mem_map_of_mem (f := lowerCase) hg
  rw [← h.1, (hc c).mpr rfl] at hmem
  obtain ⟨b, hb, hlower⟩ := List.mem_map.mp hmem
  exact hf ((hc b).mp hlower ▸ hb)

end HeaderField.Recased

theorem recased_symm (h : List.Forall₂ HeaderField.Recased fields fields') :
    List.Forall₂ HeaderField.Recased fields' fields := by
  induction h with
  | nil => exact .nil
  | cons hfg _ ih => exact .cons hfg.symm ih

theorem recased_of_mem (h : List.Forall₂ HeaderField.Recased fields fields') (hg : g ∈ fields') :
    ∃ f ∈ fields, f.Recased g := by
  induction h with
  | nil => cases hg
  | @cons f g' fields fields' hfg _ ih =>
    rcases List.mem_cons.mp hg with rfl | hg
    · exact ⟨f, List.mem_cons_self, hfg⟩
    · obtain ⟨f', hf', hrecased⟩ := ih hg
      exact ⟨f', List.mem_cons_of_mem f hf', hrecased⟩

theorem any_blank_recased (h : List.Forall₂ HeaderField.Recased fields fields') :
    fields.any HeaderField.blank = fields'.any HeaderField.blank := by
  induction h with
  | nil => rfl
  | cons hfg _ ih => rw [List.any_cons, List.any_cons, hfg.blank, ih]

theorem length_lines_recased (h : List.Forall₂ HeaderField.Recased fields fields') (s : Bytes) :
    (fields.flatMap HeaderField.line ++ s).length =
      (fields'.flatMap HeaderField.line ++ s).length := by
  induction h with
  | nil => rfl
  | cons hfg _ ih =>
    simp only [List.flatMap_cons, List.append_assoc, List.length_append] at ih ⊢
    have hline := hfg.length_line
    omega

theorem afterBlank_recased (h : List.Forall₂ HeaderField.Recased fields fields') :
    List.Forall₂ HeaderField.Recased (afterBlank fields) (afterBlank fields') := by
  induction h with
  | nil => exact .nil
  | @cons f g fields fields' hfg hrest ih =>
    cases hblank : f.blank with
    | true =>
      have hblank' := hfg.blank.symm.trans hblank
      simpa [afterBlank, hblank, hblank'] using hrest
    | false =>
      have hblank' := hfg.blank.symm.trans hblank
      simpa [afterBlank, hblank, hblank'] using ih

theorem WellFormed.recased (hfields : WellFormed fields)
    (h : List.Forall₂ HeaderField.Recased fields fields') : WellFormed fields' := by
  constructor
  · intro g hg
    obtain ⟨f, hf, hfg⟩ := recased_of_mem h hg
    have hplain := hfields.plain f hf
    constructor
    · exact hfg.not_mem (fun b => (lowerCase_eq_iff b).1) hplain.colon
    · exact hfg.not_mem (fun b => (lowerCase_eq_iff b).2) hplain.name
    · exact hfg.2 ▸ hplain.rest
  · intro g hg g' hg' hnamed hnamed'
    obtain ⟨f, hf, hfg⟩ := recased_of_mem h hg
    obtain ⟨f', hf', hfg'⟩ := recased_of_mem h hg'
    rw [← hfg.value, ← hfg'.value]
    exact hfields.length f hf f' hf' ((hfg.named _).mpr hnamed) ((hfg'.named _).mpr hnamed')
  · intro g hg g' hg' hnamed hnamed'
    obtain ⟨f, hf, hfg⟩ := recased_of_mem h hg
    obtain ⟨f', hf', hfg'⟩ := recased_of_mem h hg'
    exact hfields.framing f hf f' hf' ((hfg.named _).mpr hnamed) ((hfg'.named _).mpr hnamed')

/-- A value is found only under a name that is spelled so. -/
theorem spelledValue_cases (fields : List HeaderField) (key : String) :
    (spelledValue fields key = none ∧ ¬ Spells fields key) ∨
      ∃ f ∈ fields, f.name = bytes key ∧ spelledValue fields key = some f.value := by
  have hall : ∀ init : Option Bytes,
      (fields.foldl (fun value f => if f.name = bytes key then some f.value else value) init = init ∧
        ¬ Spells fields key) ∨
      ∃ f ∈ fields, f.name = bytes key ∧ fields.foldl
        (fun value f => if f.name = bytes key then some f.value else value) init = some f.value := by
    induction fields with
    | nil =>
      intro init
      refine .inl ⟨rfl, ?_⟩
      intro h
      obtain ⟨f, hf, _⟩ := h
      cases hf
    | cons f fields ih =>
      intro init
      rw [List.foldl_cons]
      rcases ih (if f.name = bytes key then some f.value else init) with ⟨hinit, hnone⟩ |
        ⟨g, hg, hname, hvalue⟩
      · rw [hinit]
        by_cases hf : f.name = bytes key
        · exact .inr ⟨f, List.mem_cons_self, hf, if_pos hf⟩
        · refine .inl ⟨if_neg hf, ?_⟩
          intro h
          obtain ⟨g, hg, hname⟩ := h
          rcases List.mem_cons.mp hg with rfl | hg
          · exact hf hname
          · exact hnone ⟨g, hg, hname⟩
      · exact .inr ⟨g, List.mem_cons_of_mem f hg, hname, hvalue⟩
  exact hall none

theorem named_of_name {key : String} (h : f.name = bytes key) : f.Named key := by
  rw [HeaderField.Named, h]

theorem spelledValue_eq_none_iff {key : String} :
    spelledValue fields key = none ↔ ¬ Spells fields key := by
  rcases spelledValue_cases fields key with ⟨hnone, hspells⟩ | ⟨f, hf, hname, hvalue⟩
  · exact iff_of_true hnone hspells
  · rw [hvalue]
    exact iff_of_false (Option.some_ne_none _) (not_not_intro ⟨f, hf, hname⟩)

/-- Two messages that both spell the length as it is looked up give the same length. -/
theorem spelledLength_eq (hfields : WellFormed fields)
    (h : List.Forall₂ HeaderField.Recased fields fields')
    (hspells : Spells fields "Content-Length" ↔ Spells fields' "Content-Length") :
    spelledValue fields "Content-Length" = spelledValue fields' "Content-Length" := by
  rcases spelledValue_cases fields "Content-Length" with ⟨hnone, hnot⟩ | ⟨f, hf, hname, hvalue⟩
  · rw [hnone, spelledValue_eq_none_iff.mpr (mt hspells.mpr hnot)]
  · rcases spelledValue_cases fields' "Content-Length" with ⟨_, hnot⟩ | ⟨g, hg, hname', hvalue'⟩
    · exact absurd (hspells.mp ⟨f, hf, hname⟩) hnot
    · obtain ⟨f', hf', hrecased⟩ := recased_of_mem h hg
      rw [hvalue, hvalue', ← hrecased.value]
      exact congrArg some (hfields.length f hf f' hf' (named_of_name hname)
        ((hrecased.named _).mpr (named_of_name hname')))

end Recasing

/-! ### When the case makes no difference -/

section Outcomes

variable {memory : Nat} {startLine : Bytes} {fields fields' : List HeaderField}

/-- The request whose headers have been read. -/
def afterRequestHeaders (requestLine : Bytes) (fields : List HeaderField) : ReceivedRequest :=
  { method := scanWord requestLine, headers := enteredHeaders fields }

theorem responseOutcome_eq (hfields : ∀ f ∈ fields, f.Plain) (hline : Line startLine)
    (hfits : ¬ overrunsVersion startLine = true) (hblank : ¬ fields.any HeaderField.blank = true) (s : Bytes) (n : Nat) :
    responseOutcome memory startLine fields s n =
      ((((endHeaders memory (afterHeaders startLine fields)).essence.run memory s).1.afterEnd memory n),
        ((endHeaders memory (afterHeaders startLine fields)).essence.run memory s).2.length) := by
  obtain ⟨hprogress, hrest, hbody⟩ :=
    run_essence memory (endHeaders_inBody (afterHeaders startLine fields)) s
  rw [responseOutcome, run_message hfields hline hfits, if_neg hblank]
  refine Prod.ext ?_ ?_
  · rw [← hprogress]
    exact (afterEnd_essence hbody n).1
  · exact congrArg List.length hrest

theorem responseOutcome_blank (hfields : ∀ f ∈ fields, f.Plain) (hline : Line startLine)
    (hfits : ¬ overrunsVersion startLine = true) (hblank : fields.any HeaderField.blank = true) (s : Bytes) (n : Nat) :
    responseOutcome memory startLine fields s n = (.thrown .outOfRange,
      ((afterBlank fields).flatMap HeaderField.line ++ (EOL ++ s)).length) := by
  rw [responseOutcome, run_message hfields hline hfits, if_pos hblank]
  refine Prod.ext ?_ rfl
  exact congrArg Progress.essence (Progress.afterEnd_of_stopped rfl n)

/-- The reading ends with the status line. -/
theorem responseOutcome_overrun (hline : Line startLine)
    (hoverrun : overrunsVersion startLine = true) (s : Bytes) (n : Nat) :
    responseOutcome memory startLine fields s n =
      (.overrun, (fields.flatMap HeaderField.line ++ (EOL ++ s)).length) := by
  rw [responseOutcome, run_overrun hline hoverrun]
  refine Prod.ext ?_ rfl
  exact congrArg Progress.essence (Progress.afterEnd_of_stopped rfl n)

/-- Two responses are read alike exactly when the reading goes on alike behind their headers. -/
theorem sameResponse_iff (hfields : ∀ f ∈ fields, f.Plain) (hfields' : ∀ f ∈ fields', f.Plain)
    (hline : Line startLine) (hfits : ¬ overrunsVersion startLine = true)
    (hblank : ¬ fields.any HeaderField.blank = true)
    (hblank' : ¬ fields'.any HeaderField.blank = true) :
    SameReception memory .doRequest startLine fields fields' ↔
      (endHeaders memory (afterHeaders startLine fields)).essence =
        (endHeaders memory (afterHeaders startLine fields')).essence := by
  constructor
  · intro h
    have hstart := h [] 0
    rw [responseOutcome_eq hfields hline hfits hblank,
      responseOutcome_eq hfields' hline hfits hblank'] at hstart
    exact congrArg Prod.fst hstart
  · intro h s n
    rw [responseOutcome_eq hfields hline hfits hblank,
      responseOutcome_eq hfields' hline hfits hblank', h]

theorem requestOutcome_eq (hfields : ∀ f ∈ fields, f.Plain) (hline : Line startLine)
    (hmethod : ¬ scanWord startLine ≠ bytes "POST") (hblank : ¬ fields.any HeaderField.blank = true)
    (s : Bytes) (n : Nat) :
    requestOutcome startLine fields s n =
      ((run RequestProgress.take
          (endRequestHeaders (afterRequestHeaders startLine fields)).essence s).1.afterEnd n,
        (run RequestProgress.take
          (endRequestHeaders (afterRequestHeaders startLine fields)).essence s).2.length) := by
  obtain ⟨hprogress, hrest, hbody⟩ :=
    requestRun_essence (endRequestHeaders_inBody (afterRequestHeaders startLine fields)) s
  rw [requestOutcome, run_requestMessage hfields hline, if_neg hmethod, if_neg hblank]
  refine Prod.ext ?_ ?_
  · rw [← hprogress]
    exact (requestAfterEnd_essence hbody n).1
  · exact congrArg List.length hrest

/-- A request that is not looked through to its end: one with another method, or with a header
without a value. -/
theorem requestOutcome_stopped {progress : RequestProgress} {rest : Bytes} {s : Bytes}
    (hrun : run RequestProgress.take (.reading (.requestLine [])) (messageText startLine fields s) =
      (progress, rest)) (hstopped : ∀ n, progress.afterEnd n = progress) (n : Nat) :
    requestOutcome startLine fields s n = (progress.essence, rest.length) := by
  rw [requestOutcome, hrun]
  exact Prod.ext (congrArg RequestProgress.essence (hstopped n)) rfl

theorem sameRequest_iff (hfields : ∀ f ∈ fields, f.Plain) (hfields' : ∀ f ∈ fields', f.Plain)
    (hline : Line startLine) (hmethod : ¬ scanWord startLine ≠ bytes "POST")
    (hblank : ¬ fields.any HeaderField.blank = true)
    (hblank' : ¬ fields'.any HeaderField.blank = true) :
    SameReception memory .clientHandler startLine fields fields' ↔
      (endRequestHeaders (afterRequestHeaders startLine fields)).essence =
        (endRequestHeaders (afterRequestHeaders startLine fields')).essence := by
  constructor
  · intro h
    have hstart := h [] 0
    rw [requestOutcome_eq hfields hline hmethod hblank,
      requestOutcome_eq hfields' hline hmethod hblank'] at hstart
    exact congrArg Prod.fst hstart
  · intro h s n
    rw [requestOutcome_eq hfields hline hmethod hblank,
      requestOutcome_eq hfields' hline hmethod hblank', h]

theorem destroyed_afterEnd (n : Nat) :
    RequestProgress.destroyed.afterEnd n = .destroyed := by
  induction n with
  | zero => rfl
  | succ n ih => rw [RequestProgress.afterEnd, ih]

theorem thrown_afterEnd (exception : StdException) (n : Nat) :
    (RequestProgress.thrown exception).afterEnd n = .thrown exception := by
  induction n with
  | zero => rfl
  | succ n ih => rw [RequestProgress.afterEnd, ih]

end Outcomes

section Claim

variable {memory : Nat} {startLine : Bytes} {fields fields' : List HeaderField}

theorem sameResponse_of_overrun (h : List.Forall₂ HeaderField.Recased fields fields')
    (hline : Line startLine) (hoverrun : overrunsVersion startLine = true) :
    SameReception memory .doRequest startLine fields fields' := by
  intro s n
  rw [responseOutcome_overrun hline hoverrun, responseOutcome_overrun hline hoverrun,
    length_lines_recased h]

theorem sameResponse_of_blank (hfields : WellFormed fields)
    (h : List.Forall₂ HeaderField.Recased fields fields') (hline : Line startLine)
    (hfits : ¬ overrunsVersion startLine = true) (hblank : fields.any HeaderField.blank = true) :
    SameReception memory .doRequest startLine fields fields' := by
  have hblank' := (any_blank_recased h).symm.trans hblank
  intro s n
  rw [responseOutcome_blank hfields.plain hline hfits hblank,
    responseOutcome_blank (hfields.recased h).plain hline hfits hblank',
    length_lines_recased (afterBlank_recased h)]

theorem sameRequest_of_method (hfields : WellFormed fields)
    (h : List.Forall₂ HeaderField.Recased fields fields') (hline : Line startLine)
    (hmethod : scanWord startLine ≠ bytes "POST") :
    SameReception memory .clientHandler startLine fields fields' := by
  intro s n
  have hrun := run_requestMessage hfields.plain hline s
  have hrun' := run_requestMessage (hfields.recased h).plain hline s
  rw [if_pos hmethod] at hrun hrun'
  rw [requestOutcome_stopped hrun destroyed_afterEnd,
    requestOutcome_stopped hrun' destroyed_afterEnd, length_lines_recased h]

theorem sameRequest_of_blank (hfields : WellFormed fields)
    (h : List.Forall₂ HeaderField.Recased fields fields') (hline : Line startLine)
    (hmethod : ¬ scanWord startLine ≠ bytes "POST") (hblank : fields.any HeaderField.blank = true) :
    SameReception memory .clientHandler startLine fields fields' := by
  have hblank' := (any_blank_recased h).symm.trans hblank
  intro s n
  have hrun := run_requestMessage hfields.plain hline s
  have hrun' := run_requestMessage (hfields.recased h).plain hline s
  rw [if_neg hmethod, if_pos hblank] at hrun
  rw [if_neg hmethod, if_pos hblank'] at hrun'
  rw [requestOutcome_stopped hrun (thrown_afterEnd _),
    requestOutcome_stopped hrun' (thrown_afterEnd _), length_lines_recased (afterBlank_recased h)]

/-- A coding that is found leaves no length to be found. -/
theorem no_length_of_coding (hfields : WellFormed fields) {coding : Bytes}
    (hcoding : spelledValue fields "Transfer-Encoding" = some coding) :
    ¬ Spells fields "Content-Length" := by
  intro h
  obtain ⟨g, hg, hname⟩ := h
  rcases spelledValue_cases fields "Transfer-Encoding" with ⟨hnone, _⟩ | ⟨f, hf, hname', _⟩
  · rw [hnone] at hcoding
    cases hcoding
  · exact hfields.framing f hf g hg (named_of_name hname') (named_of_name hname)

/-- A body in chunks is read as such exactly when the coding is found. -/
theorem chunkSize_iff (memory : Nat) (startLine : Bytes) (hfields : WellFormed fields) :
    (∃ next, (endHeaders memory (afterHeaders startLine fields)).essence =
        .next (.line (.chunkSize next) [])) ↔
      spelledValue fields "Transfer-Encoding" = some (bytes "chunked") := by
  rw [endHeaders_chunkSize_iff, afterHeaders, lookup_entries, and_iff_left_of_imp]
  intro hchunked
  have hnone := spelledValue_eq_none_iff.mpr (no_length_of_coding hfields hchunked)
  rw [getHeaderValue, lookup_entries, hnone]
  exact ⟨0, stoi_zero⟩

theorem indefinite_iff (memory : Nat) (startLine : Bytes) (fields : List HeaderField) :
    (∃ next, (endHeaders memory (afterHeaders startLine fields)).essence =
        .next (.indefinite next)) ↔
      spelledValue fields "Transfer-Encoding" ≠ some (bytes "chunked") ∧
        ¬ Spells fields "Content-Length" := by
  rw [endHeaders_indefinite_iff, afterHeaders, lookup_entries, lookup_entries,
    spelledValue_eq_none_iff]

theorem sameResponse_iff_spelled (hfields : WellFormed fields)
    (h : List.Forall₂ HeaderField.Recased fields fields') :
    (endHeaders memory (afterHeaders startLine fields)).essence =
        (endHeaders memory (afterHeaders startLine fields')).essence ↔
      (Spells fields "Content-Length" ↔ Spells fields' "Content-Length") ∧
        (spelledValue fields "Transfer-Encoding" = some (bytes "chunked") ↔
          spelledValue fields' "Transfer-Encoding" = some (bytes "chunked")) := by
  have hfields' := hfields.recased h
  constructor
  · intro hsame
    have hchunked := chunkSize_iff memory startLine hfields
    rw [hsame, chunkSize_iff memory startLine hfields'] at hchunked
    refine ⟨?_, hchunked.symm⟩
    by_cases hcoding : spelledValue fields "Transfer-Encoding" = some (bytes "chunked")
    · apply iff_of_false
      · exact no_length_of_coding hfields hcoding
      · exact no_length_of_coding hfields' (hchunked.mpr hcoding)
    · have hindefinite := indefinite_iff memory startLine fields
      rw [hsame, indefinite_iff, and_iff_right (mt hchunked.mp hcoding),
        and_iff_right hcoding] at hindefinite
      exact (not_iff_not.mp hindefinite).symm
  · intro hspelled
    obtain ⟨hspells, hcoding⟩ := hspelled
    refine endHeaders_essence rfl rfl rfl ?_ ?_
    · rw [afterHeaders, afterHeaders, lookup_entries, lookup_entries]
      exact spelledLength_eq hfields h hspells
    · rw [afterHeaders, afterHeaders, lookup_entries, lookup_entries]
      exact hcoding

/-- A request is taken for one without content unless its length is found and is not 0. -/
theorem parsed_iff (startLine : Bytes) (hfields : WellFormed fields) :
    (endRequestHeaders (afterRequestHeaders startLine fields)).essence =
        .parsed (afterRequestHeaders startLine fields).essence ↔
      (∀ f ∈ fields, f.Named "Content-Length" → stoi f.value = .ok 0) ∨
        ¬ Spells fields "Content-Length" := by
  rw [endRequestHeaders_parsed_iff, afterRequestHeaders, getHeaderValue, lookup_entries]
  rcases spelledValue_cases fields "Content-Length" with ⟨hnone, hnot⟩ | ⟨f, hf, hname, hvalue⟩
  · rw [hnone]
    exact iff_of_true stoi_zero (.inr hnot)
  · rw [hvalue, Option.getD_some]
    constructor
    · intro hzero
      left
      intro g hg hnamed
      rw [← hfields.length f hf g hg (named_of_name hname) hnamed]
      exact hzero
    · intro hcases
      rcases hcases with hzero | hnot
      · exact hzero f hf (named_of_name hname)
      · exact absurd ⟨f, hf, hname⟩ hnot

theorem sameRequest_iff_spelled (hfields : WellFormed fields)
    (h : List.Forall₂ HeaderField.Recased fields fields') :
    (endRequestHeaders (afterRequestHeaders startLine fields)).essence =
        (endRequestHeaders (afterRequestHeaders startLine fields')).essence ↔
      (∀ f ∈ fields, f.Named "Content-Length" → stoi f.value = .ok 0) ∨
        (Spells fields "Content-Length" ↔ Spells fields' "Content-Length") := by
  have hfields' := hfields.recased h
  have hzeros : (∀ f ∈ fields, f.Named "Content-Length" → stoi f.value = .ok 0) →
      ∀ g ∈ fields', g.Named "Content-Length" → stoi g.value = .ok 0 := by
    intro hzero g hg hnamed
    obtain ⟨f, hf, hrecased⟩ := recased_of_mem h hg
    rw [← hrecased.value]
    exact hzero f hf ((hrecased.named _).mpr hnamed)
  have hzeros' : (∀ g ∈ fields', g.Named "Content-Length" → stoi g.value = .ok 0) →
      ∀ f ∈ fields, f.Named "Content-Length" → stoi f.value = .ok 0 := by
    intro hzero f hf hnamed
    obtain ⟨g, hg, hrecased⟩ := recased_of_mem (recased_symm h) hf
    rw [← hrecased.value]
    exact hzero g hg ((hrecased.named _).mpr hnamed)
  have hparsed := parsed_iff startLine hfields
  have hparsed' := parsed_iff startLine hfields'
  constructor
  · intro hsame
    by_cases hzero : ∀ f ∈ fields, f.Named "Content-Length" → stoi f.value = .ok 0
    · exact .inl hzero
    · right
      rw [or_iff_right hzero, hsame] at hparsed
      rw [or_iff_right (mt hzeros' hzero)] at hparsed'
      exact not_iff_not.mp (hparsed.symm.trans hparsed')
  · intro hcases
    rcases hcases with hzero | hspells
    · rw [hparsed.mpr (.inl hzero), hparsed'.mpr (.inl (hzeros hzero))]
      rfl
    · refine endRequestHeaders_essence rfl rfl ?_
      rw [afterRequestHeaders, afterRequestHeaders, lookup_entries, lookup_entries]
      exact spelledLength_eq hfields h hspells

/-- The letter case of header names makes no difference exactly when the names on which the framing
depends are spelled alike. -/
theorem sameReception_iff {receiver : Receiver} (hline : Line startLine)
    (hfields : WellFormed fields) (h : List.Forall₂ HeaderField.Recased fields fields') :
    SameReception memory receiver startLine fields fields' ↔
      SpelledAlike receiver startLine fields fields' := by
  have hfields' := hfields.recased h
  have hany := any_blank_recased h
  cases receiver with
  | doRequest =>
    by_cases hoverrun : overrunsVersion startLine = true
    · exact iff_of_true (sameResponse_of_overrun h hline hoverrun) (.inl hoverrun)
    · by_cases hblank : fields.any HeaderField.blank = true
      · exact iff_of_true (sameResponse_of_blank hfields h hline hoverrun hblank)
          (.inr (.inl hblank))
      · have hblank' : ¬ fields'.any HeaderField.blank = true := hany ▸ hblank
        rw [sameResponse_iff hfields.plain hfields'.plain hline hoverrun hblank hblank',
          sameResponse_iff_spelled hfields h]
        exact ((or_iff_right hoverrun).trans (or_iff_right hblank)).symm
  | clientHandler =>
    by_cases hmethod : scanWord startLine ≠ bytes "POST"
    · exact iff_of_true (sameRequest_of_method hfields h hline hmethod) (.inl hmethod)
    · by_cases hblank : fields.any HeaderField.blank = true
      · exact iff_of_true (sameRequest_of_blank hfields h hline hmethod hblank)
          (.inr (.inl hblank))
      · have hblank' : ¬ fields'.any HeaderField.blank = true := hany ▸ hblank
        rw [sameRequest_iff hfields.plain hfields'.plain hline hmethod hblank hblank',
          sameRequest_iff_spelled hfields h]
        exact ((or_iff_right hmethod).trans (or_iff_right hblank)).symm

/-- `Content-Length: 5` and `content-length: 5`. -/
def upperLength : HeaderField := { name := bytes "Content-Length", rest := bytes " 5" }

def lowerLength : HeaderField := { name := bytes "content-length", rest := bytes " 5" }

theorem upperLength_wellFormed : WellFormed [upperLength] := by
  constructor
  · intro f hf
    obtain rfl := List.mem_singleton.mp hf
    exact ⟨by decide +kernel, by decide +kernel, by decide +kernel⟩
  · intro f hf g hg _ _
    obtain rfl := List.mem_singleton.mp hf
    obtain rfl := List.mem_singleton.mp hg
    rfl
  · intro f hf g _ hnamed
    obtain rfl := List.mem_singleton.mp hf
    have hne : upperLength.name.map lowerCase ≠ (bytes "Transfer-Encoding").map lowerCase := by
      decide +kernel
    exact absurd hnamed hne

theorem upperLength_recased :
    List.Forall₂ HeaderField.Recased [upperLength] [lowerLength] :=
  .cons ⟨by decide +kernel, rfl⟩ .nil

def okLine : Bytes := bytes "HTTP/1.1 200 OK" ++ EOL

theorem okLine_isLine : Line okLine :=
  ⟨bytes "HTTP/1.1 200 OK" ++ [13], by decide +kernel, by decide +kernel⟩

theorem lengths_reception : SameReception 4096 .doRequest okLine [upperLength] [lowerLength] ↔
    SpelledAlike .doRequest okLine [upperLength] [lowerLength] :=
  sameReception_iff okLine_isLine upperLength_wellFormed upperLength_recased

/-- In lower case the length of a response is not found, and its body is read up to the end of the
connection. -/
theorem case_matters : ¬ ∀ (memory : Nat) (receiver : Receiver) (startLine : Bytes)
    (fields fields' : List HeaderField), Line startLine → WellFormed fields →
    List.Forall₂ HeaderField.Recased fields fields' →
    SameReception memory receiver startLine fields fields' := by
  intro h
  have hsame := h 4096 .doRequest okLine [upperLength] [lowerLength] okLine_isLine
    upperLength_wellFormed upperLength_recased [] 0
  exact absurd hsame (by decide +kernel)

end Claim

end PeakAnalyser
