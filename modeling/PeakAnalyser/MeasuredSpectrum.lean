import PeakAnalyser.Base64Decode
import PeakAnalyser.CallAnswers
import PeakAnalyser.Connecting
import PeakAnalyser.IntegratedSpectrum
import PeakAnalyser.Library.Grids
import PeakAnalyser.Library.Layout

/-!
# `getMeasuredSpectrum`

A measurement is an array of single precision numbers over up to three axes. A server tells it in
a spectrum channel and brings the numbers in a text, in a file or with a response to a GET request.
However it does so, `getMeasuredSpectrum` returns the axes and the numbers of the measurement, and
what `acquisitionTask` and `spectrumTask` publish of them is the image and its sum over the rows.
-/

namespace PeakAnalyser

set_option autoImplicit false

open Base64 Layout

/-! ### The call -/

/-- Lines 390 to 394: a client over WebSocket asks another one, over HTTP. -/
def measuredClient (own : Bytes) : Except ConnectException Bytes :=
  if speaksHTTP own then .ok own else openClient (bytes "http" ++ own.drop 2)

/-- `PeakAnalyserClient::getMeasuredSpectrum` of the client with the address `own`, with what has
been stored from `data.data()` on. -/
def getMeasuredSpectrum (env : Environment) (server : ServerCall → ServerAnswer) (own : Bytes)
    (spectrumId : Bytes) : Except ConnectException (PeakSpectrum × Bytes) := do
  let analyser ← measuredClient own
  let spectrum ← (server ⟨analyser, "GetMeasuredSpectrum", [.string spectrumId]⟩).mapError .call
  let channels ← (spectrum.member "SpectrumChannels").mapError .json
  let channel ← channels.front.mapError .json
  (PeakSpectrum.fromSpectrumChannel env channel []).mapError .json

/-! ### Measurements -/

/-- An axis of a measurement; its number of points is an `int`. -/
structure MeasuredAxis where
  count : Nat
  offset : ℚ
  delta : ℚ
  center : ℚ
  pos : 1 ≤ count
  int : count < 0x80000000

/-- The places of the points. A single point stands in the center. -/
def MeasuredAxis.points (a : MeasuredAxis) : List ℚ :=
  if a.count = 1 then [a.center]
  else (List.range a.count).map fun i : Nat => Grids.point a.offset a.delta i

/-- The four bytes of a `float`. -/
abbrev Single : Type := { word : Bytes // word.length = 4 }

/-- A measurement: its axes, and the number at each point of them. -/
structure Measurement where
  x : Option MeasuredAxis
  y : Option MeasuredAxis
  z : Option MeasuredAxis
  number : List Nat → Single

namespace Measurement

variable (m : Measurement)

def axes : List MeasuredAxis := [m.x, m.y, m.z].filterMap id

/-- The numbers of points. -/
def shape : List Nat := m.axes.map MeasuredAxis.count

/-- All the numbers, the first axis running fastest. -/
def content : Bytes := stored m.shape fun index => (m.number index).val

/-- The spectrum that holds the measurement. -/
def spectrum : PeakSpectrum where
  dims := m.shape
  xaxis := (m.x.map MeasuredAxis.points).getD []
  yaxis := (m.y.map MeasuredAxis.points).getD []
  zaxis := (m.z.map MeasuredAxis.points).getD []
  data := m.content

end Measurement

/-! ### Channels that tell a measurement -/

/-- The members of an axis. -/
structure MeasuredAxis.Told (a : MeasuredAxis) (axis : JsonValue) : Prop where
  count : ∃ value, axis.item "Count" = .ok value ∧ value.getInt = .ok (a.count : Int)
  offset : ∃ value, axis.item "Offset" = .ok value ∧ value.getDouble = .ok a.offset
  delta : ∃ value, axis.item "Delta" = .ok value ∧ value.getDouble = .ok a.delta
  center : ∃ value, axis.item "Center" = .ok value ∧ value.getDouble = .ok a.center

/-- The axis `name` of a channel, or its absence. There must be room for the points. -/
def TellsAxis (memory : Nat) (axes : JsonValue) (name : String) : Option MeasuredAxis → Prop
  | none => axes.contains name = false
  | some a => (∃ axis, axes.item name = .ok axis ∧ a.Told axis) ∧ 8 * a.count ≤ memory

/-- How a server brings the bytes of an attachment. The path of an address begins with its first
`/attachments`; the response to the request for it can be delimited in any way. -/
inductive Environment.Offers (env : Environment) (serverUri : Bytes) (attachment : JsonValue) :
    Bytes → Prop where
  | inText {text a : Bytes} :
      attachment.item "Mode" = .ok (.string (bytes "Inline")) →
      attachment.item "InlineValue" = .ok (.string text) → Encodes text a →
      Offers env serverUri attachment a
  | inFile {fname a : Bytes} :
      attachment.item "Mode" = .ok (.string (bytes "File")) →
      attachment.item "Address" = .ok (.string fname) → env.file fname = some a →
      Offers env serverUri attachment a
  | inResponse {base path text a : Bytes} {response : Response} :
      attachment.item "Mode" = .ok (.string (bytes "Http")) →
      attachment.item "Address" = .ok (.string (base ++ path)) →
      findText (base ++ path) (bytes "/attachments") = some base.length →
      env.doRequest (if serverUri = [] then base else serverUri)
        { method := bytes "GET", path, headers := [], content := [] } = .ok (some response) →
      Decodes env.memory text response → Serves env.memory text a →
      Offers env serverUri attachment a

/-- The channel tells the measurement and announces its attachment. -/
structure Measurement.Told (m : Measurement) (env : Environment) (serverUri : Bytes)
    (channel attachment : JsonValue) : Prop where
  axes : ∃ settings axes, channel.item "SpectrumChannelSettings" = .ok settings ∧
    settings.item "RequestedAxes" = .ok axes ∧ TellsAxis env.memory axes "X" m.x ∧
      TellsAxis env.memory axes "Y" m.y ∧ TellsAxis env.memory axes "Z" m.z
  announced : Announces channel attachment m.content.length
  offered : env.Offers serverUri attachment m.content
  memory : m.content.length ≤ env.memory

/-! ### Reading a channel -/

theorem contains_of_item {value item : JsonValue} {key : String} (h : value.item key = .ok item) :
    value.contains key = true := by
  cases value with
  | object members =>
    simp only [JsonValue.item] at h
    split at h
    · rename_i member hmember
      simp only [JsonValue.contains, hmember, Option.isSome_some]
    · cases h
  | _ => cases h

/-- The bytes of the attachment are stored, and in a text up to two more that fill its last
group. -/
theorem Environment.Offers.transfer {env : Environment} {serverUri a : Bytes}
    {attachment : JsonValue} (h : env.Offers serverUri attachment a) :
    ∃ more, env.transfer serverUri attachment a.length = .ok (a ++ more) ∧ more.length ≤ 2 ∧
      (more = [] ↔ (attachment.item "Mode" = .ok (.string (bytes "Inline")) → 3 ∣ a.length)) := by
  cases h with
  | inText hmode hvalue hencodes =>
    obtain ⟨more, hmore, hlength⟩ := base64_decode_eq_append hencodes
    refine ⟨more, ?_, by omega, ?_⟩
    · rw [transfer_inline hmode hvalue, hmore]
    · rw [← List.length_eq_zero_iff]
      constructor
      · intro hzero _
        omega
      · intro hthree
        have := hthree hmode
        omega
  | inFile hmode haddress hcontent =>
    refine ⟨[], ?_, by decide, ?_⟩
    · rw [transfer_file hmode haddress hcontent, List.take_length, List.append_nil]
    · refine iff_of_true rfl fun hInline => ?_
      have hne : bytes "File" ≠ bytes "Inline" := by decide +kernel
      exact absurd (JsonValue.string.inj (Except.ok.inj (hmode.symm.trans hInline))) hne
  | @inResponse base path _ _ response hmode haddress hpos hresponse hdecodes hserves =>
    obtain ⟨hcode, hcontent⟩ := decodes_serves hserves hdecodes
    refine ⟨[], ?_, by decide, ?_⟩
    · have hfetch : env.doRequest (fetch serverUri (base ++ path) base.length).1
          (fetch serverUri (base ++ path) base.length).2 = .ok (some response) := by
        unfold fetch
        rw [List.take_left, List.drop_left]
        exact hresponse
      rw [transfer_http hmode haddress hpos hfetch hcode, hcontent, List.append_nil]
    · refine iff_of_true rfl fun hInline => ?_
      have hne : bytes "Http" ≠ bytes "Inline" := by decide +kernel
      exact absurd (JsonValue.string.inj (Except.ok.inj (hmode.symm.trans hInline))) hne

theorem createAxis_of_told {memory : Nat} {a : MeasuredAxis} {axis : JsonValue} (h : a.Told axis)
    (hmemory : 8 * a.count ≤ memory) : PeakSpectrum.createAxis memory axis = .ok a.points := by
  obtain ⟨count, hcount, hint⟩ := h.count
  obtain ⟨offset, hoffset, hoffset'⟩ := h.offset
  obtain ⟨delta, hdelta, hdelta'⟩ := h.delta
  obtain ⟨center, hcenter, hcenter'⟩ := h.center
  have hsize : ((a.count : Int) % 0x10000000000000000).toNat = a.count := by
    have := a.int
    omega
  unfold PeakSpectrum.createAxis MeasuredAxis.points
  rw [bind_of_ok hcount, bind_of_ok hint, bind_of_ok hoffset, bind_of_ok hoffset',
    bind_of_ok hdelta, bind_of_ok hdelta', bind_of_ok hcenter, bind_of_ok hcenter']
  dsimp only
  rw [hsize, if_neg (by omega)]
  by_cases hone : a.count = 1
  · rw [if_pos hone, if_pos (by rw [hone]; rfl)]
    rfl
  · rw [if_neg hone, if_neg (by omega)]
    refine congrArg Except.ok (List.map_congr_left fun i _ => ?_)
    rw [Grids.point, Int.cast_natCast, mul_comm]

theorem readAxis_of_tells {memory : Nat} {axes : JsonValue} {name : String}
    {a : Option MeasuredAxis} (h : TellsAxis memory axes name a) :
    PeakSpectrum.readAxis memory axes name = .ok (a.map MeasuredAxis.points) := by
  unfold PeakSpectrum.readAxis
  cases a with
  | none =>
    rw [if_neg (Bool.eq_false_iff.mp h)]
    rfl
  | some a =>
    obtain ⟨⟨axis, haxis, htold⟩, hmemory⟩ := h
    rw [if_pos (contains_of_item haxis), bind_of_ok haxis,
      bind_of_ok (createAxis_of_told htold hmemory)]
    rfl

namespace MeasuredAxis

@[simp] theorem length_points (a : MeasuredAxis) : a.points.length = a.count := by
  unfold points
  split
  · rename_i hone
    rw [hone]
    rfl
  · rw [List.length_map, List.length_range]

end MeasuredAxis

namespace Measurement

variable {m : Measurement}

theorem shape_eq : m.shape =
    [m.x, m.y, m.z].filterMap fun a => (a.map MeasuredAxis.points).map List.length := by
  have hcount : ∀ a : Option MeasuredAxis,
      (a.map MeasuredAxis.points).map List.length = a.map MeasuredAxis.count := by
    intro a
    cases a with
    | none => rfl
    | some a => exact congrArg some a.length_points
  simp only [shape, axes, hcount, List.map_filterMap]
  rfl

theorem length_content : m.content.length = 4 * m.shape.prod :=
  length_stored (fun index => (m.number index).property) m.shape

/-- What is read out of a channel that tells a measurement. -/
theorem Told.read {env : Environment} {serverUri : Bytes} {channel attachment : JsonValue}
    (h : m.Told env serverUri channel attachment) :
    ∃ more, PeakSpectrum.fromSpectrumChannel env channel serverUri =
        .ok (m.spectrum, m.content ++ more) ∧ more.length ≤ 2 ∧
      (more = [] ↔
        (attachment.item "Mode" = .ok (.string (bytes "Inline")) → 3 ∣ m.content.length)) := by
  obtain ⟨settings, axes, hsettings, haxes, hx, hy, hz⟩ := h.axes
  obtain ⟨hattachment, hhas, length, hlength, hbyteSize⟩ := h.announced
  obtain ⟨more, htransfer, hmore, hwhole⟩ := h.offered.transfer
  refine ⟨more, ?_, hmore, hwhole⟩
  have hfour : 4 * (m.content.length / 4) = m.content.length := by
    rw [length_content]
    omega
  have htrue : (JsonValue.boolean true).getBool = .ok true := rfl
  unfold PeakSpectrum.fromSpectrumChannel
  rw [bind_of_ok hsettings, bind_of_ok haxes, bind_of_ok (readAxis_of_tells hx),
    bind_of_ok (readAxis_of_tells hy), bind_of_ok (readAxis_of_tells hz)]
  dsimp only
  rw [bind_of_ok hattachment, bind_of_ok hhas, bind_of_ok htrue, if_pos rfl, bind_of_ok hlength,
    bind_of_ok hbyteSize, hfour, if_neg (Nat.not_lt.mpr h.memory)]
  have hstore : store (.replicate m.content.length 0) (m.content ++ more) = m.content := by
    rw [store_of_le (by simp), List.length_replicate, List.take_left]
  change (env.transfer serverUri attachment m.content.length >>= _) = _
  rw [bind_of_ok htransfer, hstore]
  unfold spectrum
  rw [shape_eq]
  rfl

/-! ### What the spectrum holds -/

/-- Each number of the measurement is where `integrate` looks for it. -/
theorem element_spectrum (value : Bytes → ℚ) {index : List Nat} (h : Within m.shape index) :
    m.spectrum.element value (place m.shape index) = value (m.number index).val := by
  have hword : ∀ index, ((m.number index).val).length = 4 := fun index => (m.number index).property
  exact congrArg value (word_stored hword h)

/-- The index of the last frame. -/
def lastFrame (m : Measurement) : List Nat := (m.z.map fun c => c.count - 1).toList

section Images

variable {a b : MeasuredAxis}

theorem shape_of_image (hx : m.x = some a) (hy : m.y = some b) :
    m.shape = a.count :: b.count :: (m.z.map MeasuredAxis.count).toList := by
  unfold shape axes
  rw [hx, hy]
  cases m.z <;> rfl

theorem spectrum_complete (hx : m.x = some a) (hy : m.y = some b)
    (hsize : m.content.length < 0x10000000000000000) : m.spectrum.Complete := by
  rw [length_content] at hsize
  constructor
  · change m.shape.length = 2 ∨ m.shape.length = 3
    rw [shape_of_image hx hy]
    cases m.z with
    | none => exact .inl rfl
    | some c => exact .inr rfl
  · intro n hn
    obtain ⟨axis, _, rfl⟩ := List.mem_map.mp hn
    exact axis.pos
  · exact length_content
  · change m.shape.prod < _
    omega

theorem within_lastFrame (hx : m.x = some a) (hy : m.y = some b) {i j : Nat} (hi : i < a.count)
    (hj : j < b.count) : Within m.shape (i :: j :: m.lastFrame) := by
  rw [shape_of_image hx hy]
  refine .cons hi (.cons hj ?_)
  unfold lastFrame
  cases m.z with
  | none => exact .nil
  | some c =>
    have hpos := c.pos
    refine .cons ?_ .nil
    change c.count - 1 < c.count
    omega

/-- Where `integrate` looks for a number of the last frame. -/
theorem place_lastFrame (hx : m.x = some a) (hy : m.y = some b) (i j : Nat) :
    place m.shape (i :: j :: m.lastFrame) =
      (m.spectrum.lastFrame * m.spectrum.dims.getD 1 0 + j) * m.spectrum.dims.getD 0 0 + i := by
  have hdims : m.spectrum.dims = m.shape := rfl
  unfold PeakSpectrum.lastFrame PeakSpectrum.rank lastFrame
  rw [hdims, shape_of_image hx hy]
  cases m.z with
  | none => simp [place, Nat.mul_comm]
  | some c => simp [place, Nat.mul_comm]

/-- The integrated spectrum is the sum of the rows of the last frame. -/
theorem integrateLoops_spectrum (hx : m.x = some a) (hy : m.y = some b)
    (hsize : m.content.length < 0x10000000000000000) (value : Bytes → ℚ) :
    m.spectrum.integrateLoops value = some ((List.range a.count).map fun i =>
      ∑ j ∈ Finset.range b.count, value (m.number (i :: j :: m.lastFrame)).val) := by
  obtain ⟨sums, hsums, hlength, hentry, _⟩ :=
    PeakSpectrum.integrateLoops_complete value (spectrum_complete hx hy hsize)
  have hdims : m.spectrum.dims = m.shape := rfl
  have hwidth : m.spectrum.dims.getD 0 0 = a.count := by
    rw [hdims, shape_of_image hx hy]
    rfl
  have hheight : m.spectrum.dims.getD 1 0 = b.count := by
    rw [hdims, shape_of_image hx hy]
    rfl
  rw [hsums]
  refine congrArg some (List.ext_getElem? fun i => ?_)
  by_cases hi : i < a.count
  · rw [hentry i (by omega), List.getElem?_map, List.getElem?_range hi, hheight]
    refine congrArg some (Finset.sum_congr rfl fun j hj => ?_)
    have hindex := within_lastFrame hx hy hi (Finset.mem_range.mp hj)
    rw [← element_spectrum value hindex, place_lastFrame hx hy, hheight]
  · rw [List.getElem?_eq_none (by omega), List.getElem?_eq_none (by simpa using hi)]

end Images

/-- The spectrum has the points and the numbers of the measurement, each in its place; the `NDArray`
into which it is copied holds the same numbers, whatever the buffer has been used for; and an image
is summed up to the rows of its last frame. -/
structure Holds (m : Measurement) (s : PeakSpectrum) : Prop where
  dims : s.dims = m.shape
  xaxis : s.xaxis = (m.x.map MeasuredAxis.points).getD []
  yaxis : s.yaxis = (m.y.map MeasuredAxis.points).getD []
  zaxis : s.zaxis = (m.z.map MeasuredAxis.points).getD []
  number : ∀ index, Within m.shape index →
    (s.data.drop (4 * place m.shape index)).take 4 = (m.number index).val
  image : ∀ pooled : Bytes, pooled.length = s.arraySize → store pooled s.data = m.content
  sum : ∀ a b, m.x = some a → m.y = some b → ∀ value, s.integrateLoops value =
    some ((List.range a.count).map fun i =>
      ∑ j ∈ Finset.range b.count, value (m.number (i :: j :: m.lastFrame)).val)

theorem holds_spectrum (hsize : m.content.length < 0x10000000000000000) : m.Holds m.spectrum where
  dims := rfl
  xaxis := rfl
  yaxis := rfl
  zaxis := rfl
  number _ hindex := word_stored (fun index => (m.number index).property) hindex
  image pooled hpooled := by
    have harray : m.spectrum.arraySize = m.content.length := by
      have hlength := length_content (m := m)
      change 4 * m.shape.prod % 0x10000000000000000 = _
      omega
    have hdata : m.spectrum.data = m.content := rfl
    rw [harray] at hpooled
    rw [hdata, store_of_le (by omega), hpooled, List.take_length]
  sum _ _ hx hy value := integrateLoops_spectrum hx hy hsize value

/-- Whatever the transport of its client and however the attachment is brought, the call returns
the measurement that the server tells. In a text whose bytes are not a multiple of three it
stores one or two bytes beyond the end of the data. -/
theorem getMeasuredSpectrum_holds {env : Environment} {server : ServerCall → ServerAnswer}
    {own analyser spectrumId : Bytes} {spectrum channels channel attachment : JsonValue}
    (hclient : measuredClient own = .ok analyser)
    (hanswer : server ⟨analyser, "GetMeasuredSpectrum", [.string spectrumId]⟩ = .ok spectrum)
    (hchannels : spectrum.member "SpectrumChannels" = .ok channels)
    (hfront : channels.front = .ok channel) (htold : m.Told env [] channel attachment) :
    ∃ s more, getMeasuredSpectrum env server own spectrumId = .ok (s, m.content ++ more) ∧
      m.Holds s ∧ more.length ≤ 2 ∧ (more = [] ↔
        (attachment.item "Mode" = .ok (.string (bytes "Inline")) → 3 ∣ m.content.length)) := by
  obtain ⟨more, hread, hmore, hwhole⟩ := htold.read
  have hsize : m.content.length < 0x10000000000000000 := by
    obtain ⟨_, _, length, _, hbyteSize⟩ := htold.announced
    exact PeakSpectrum.getSize_lt hbyteSize
  refine ⟨m.spectrum, more, ?_, holds_spectrum hsize, hmore, hwhole⟩
  unfold getMeasuredSpectrum
  rw [bind_of_ok hclient, hanswer]
  change ((spectrum.member "SpectrumChannels").mapError ConnectException.json >>= _) = _
  rw [hchannels]
  change (channels.front.mapError ConnectException.json >>= _) = _
  rw [hfront]
  change (PeakSpectrum.fromSpectrumChannel env channel []).mapError ConnectException.json = _
  rw [hread]
  rfl

/-! ### Two frames, fetched over HTTP -/

/-- Two points, one row and two frames. -/
def twoFrames : Measurement where
  x := some { count := 2, offset := 83, delta := 1 / 2, center := 84, pos := by decide, int := by decide }
  y := some { count := 1, offset := 0, delta := 1, center := 7, pos := by decide, int := by decide }
  z := some { count := 2, offset := 0, delta := 1, center := 0, pos := by decide, int := by decide }
  number index := ⟨[.ofNat (place [2, 1, 2] index), 0, 128, 63], rfl⟩

def axisJson (count : Int) (offset delta center : ℚ) : JsonValue := .object [
  ("Count", .integer count), ("Offset", .float offset), ("Delta", .float delta),
  ("Center", .float center)]

def attachmentJson : JsonValue := .object [
  ("HasValue", .boolean true), ("Length", .integer 16), ("Mode", .string (bytes "Http")),
  ("Address", .string (bytes "http://127.0.0.1:59806" ++ bytes "/attachments/1.bin"))]

def channelJson : JsonValue := .object [
  ("SpectrumChannelSettings", .object [("RequestedAxes", .object [
    ("X", axisJson 2 83 (1 / 2) 84), ("Y", axisJson 1 0 1 7), ("Z", axisJson 2 0 1 0)])]),
  ("CountByteData", attachmentJson)]

def attachmentText : Bytes :=
  bytes "HTTP/1.1 200 OK\r\nContent-Length: 16\r\n\r\n" ++ twoFrames.content

def attachmentResponse : Response where
  headers := [(bytes "Content-Length", bytes "16")]
  content := twoFrames.content
  contentLength := 16
  code := 200
  version := bytes "HTTP/1.1"

/-- The server of the attachment. -/
def attachmentServer : Environment where
  memory := 0x10000
  file _ := none
  doRequest _ _ := .ok (some attachmentResponse)

theorem serves_attachmentText :
    Serves attachmentServer.memory attachmentText twoFrames.content := by
  refine ⟨bytes " OK", [{ name := bytes "Content-Length", rest := bytes " 16" }],
    twoFrames.content, by decide +kernel, by decide +kernel, ?_, ?_, by decide +kernel⟩
  · intro f hf
    obtain rfl := List.mem_singleton.mp hf
    exact ⟨⟨by decide +kernel, by decide +kernel, by decide +kernel⟩, by decide +kernel⟩
  · exact .length (by decide +kernel) (by decide +kernel) (by decide +kernel) (by decide +kernel)

theorem decodes_attachmentText :
    Decodes attachmentServer.memory attachmentText attachmentResponse :=
  ⟨by decide +kernel, 0, by decide +kernel⟩

theorem twoFrames_told : twoFrames.Told attachmentServer [] channelJson attachmentJson where
  axes := ⟨_, _, rfl, rfl,
    ⟨⟨_, rfl, ⟨⟨_, rfl, rfl⟩, ⟨_, rfl, rfl⟩, ⟨_, rfl, rfl⟩, ⟨_, rfl, rfl⟩⟩⟩, by decide⟩,
    ⟨⟨_, rfl, ⟨⟨_, rfl, rfl⟩, ⟨_, rfl, rfl⟩, ⟨_, rfl, rfl⟩, ⟨_, rfl, rfl⟩⟩⟩, by decide⟩,
    ⟨⟨_, rfl, ⟨⟨_, rfl, rfl⟩, ⟨_, rfl, rfl⟩, ⟨_, rfl, rfl⟩, ⟨_, rfl, rfl⟩⟩⟩, by decide⟩⟩
  announced := ⟨rfl, rfl, .integer 16, rfl, rfl⟩
  offered := .inResponse rfl rfl (by decide +kernel) rfl decodes_attachmentText
    serves_attachmentText
  memory := by decide +kernel

theorem getMeasuredSpectrum_twoFrames : ∃ s more,
    getMeasuredSpectrum attachmentServer
        (fun _ => .ok (.object [("SpectrumChannels", .array [channelJson])]))
        (bytes "ws://127.0.0.1:8087/api") (bytes "1") = .ok (s, twoFrames.content ++ more) ∧
      twoFrames.Holds s ∧ more.length ≤ 2 ∧ (more = [] ↔
        (attachmentJson.item "Mode" = .ok (.string (bytes "Inline")) →
          3 ∣ twoFrames.content.length)) := by
  have hclient : (measuredClient (bytes "ws://127.0.0.1:8087/api")).toOption =
      some (bytes "http://127.0.0.1:8087/api") := by
    decide +kernel
  cases hmeasured : measuredClient (bytes "ws://127.0.0.1:8087/api") with
  | error e =>
    rw [hmeasured] at hclient
    cases hclient
  | ok analyser => exact getMeasuredSpectrum_holds hmeasured rfl rfl rfl twoFrames_told

end Measurement

end PeakAnalyser
