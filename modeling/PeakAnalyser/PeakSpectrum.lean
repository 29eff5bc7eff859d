import Mathlib.Data.Rat.Floor
import PeakAnalyser.HTTPCommon

/-!
# `PeakSpectrum`

A spectrum read out of a spectrum channel: `fromSpectrumChannel`, `createAxis` and
`integrate` of `peakApi.cpp`, with `base64_decode` and `HTTPClient::get` below them and
the copy into an `NDArray` above them. What is stored into the buffer of `data` is kept
as it comes, so that one sees what goes beyond its end. Doubles are rational numbers,
and their rounding is left out.
-/

namespace PeakAnalyser

set_option autoImplicit false

/-- `nlohmann::json` -/
inductive JsonValue where
  | null
  | boolean (b : Bool)
  | integer (n : Int)
  | float (x : ℚ)
  | string (s : Bytes)
  | array (values : List JsonValue)
  | object (members : List (String × JsonValue))

/-- Why a channel is not read to its end: an exception of the JSON library, its assertion that
a member of a constant object exists, a number whose conversion is not defined, or an exception
of the standard library. -/
inductive ChannelException where
  | typeError
  | assertion
  | conversion
  | std (exception : StdException)
  deriving DecidableEq

namespace JsonValue

/-- `operator[]` of a constant value. -/
def item (value : JsonValue) (key : String) : Except ChannelException JsonValue :=
  match value with
  | .object members =>
    match members.lookup key with
    | some member => .ok member
    | none => .error .assertion
  | _ => .error .typeError

def contains (value : JsonValue) (key : String) : Bool :=
  match value with
  | .object members => (members.lookup key).isSome
  | _ => false

/-- A number without its fraction. -/
def truncate (x : ℚ) : Int := if x < 0 then ⌈x⌉ else ⌊x⌋

/-- `get<bool>()` -/
def getBool : JsonValue → Except ChannelException Bool
  | .boolean b => .ok b
  | _ => .error .typeError

/-- `get<int>()` -/
def getInt : JsonValue → Except ChannelException Int
  | .integer n => .ok (n.bmod 0x100000000)
  | .float x =>
    if -0x80000000 ≤ truncate x ∧ truncate x ≤ 0x7fffffff then .ok (truncate x)
    else .error .conversion
  | .boolean b => .ok (if b then 1 else 0)
  | _ => .error .typeError

/-- `get<size_t>()` -/
def getSize : JsonValue → Except ChannelException Nat
  | .integer n => .ok (n % 0x10000000000000000).toNat
  | .float x =>
    if 0 ≤ truncate x ∧ truncate x < 0x10000000000000000 then .ok (truncate x).toNat
    else .error .conversion
  | _ => .error .typeError

/-- `get<double>()` -/
def getDouble : JsonValue → Except ChannelException ℚ
  | .integer n => .ok n
  | .float x => .ok x
  | _ => .error .typeError

/-- `get<std::string>()` -/
def getString : JsonValue → Except ChannelException Bytes
  | .string s => .ok s
  | _ => .error .typeError

/-- `== text` -/
def isText (value : JsonValue) (text : String) : Bool :=
  match value with
  | .string s => s = bytes text
  | _ => false

end JsonValue

/-! ### Attachments -/

def base64_lut : List Nat := [
  0,  0,  0,  0,  0,  0,  0,  0,  0,  0,  0,  0,  0,  0,  0,  0,
  0,  0,  0,  0,  0,  0,  0,  0,  0,  0,  0,  0,  0,  0,  0,  0,
  0,  0,  0,  0,  0,  0,  0,  0,  0,  0,  0,  62, 63, 62, 62, 63,
  52, 53, 54, 55, 56, 57, 58, 59, 60, 61, 0,  0,  0,  0,  0,  0,
  0,  0,  1,  2,  3,  4,  5,  6,  7,  8,  9,  10, 11, 12, 13, 14,
  15, 16, 17, 18, 19, 20, 21, 22, 23, 24, 25, 0,  0,  0,  0,  63,
  0,  26, 27, 28, 29, 30, 31, 32, 33, 34, 35, 36, 37, 38, 39, 40,
  41, 42, 43, 44, 45, 46, 47, 48, 49, 50, 51, 0,  0,  0,  0,  0]

/-- The entries that the table does not list are 0. -/
def lut (b : UInt8) : Nat := base64_lut.getD b.toNat 0

/-- Lines 34 to 37 of `base64.cpp`. -/
def decodeGroup (p q r s : UInt8) : Bytes :=
  let n := lut p <<< 18 ||| lut q <<< 12 ||| lut r <<< 6 ||| lut s
  [.ofNat (n >>> 16), .ofNat (n >>> 8 &&& 0xff), .ofNat (n &&& 0xff)]

/-- What `base64_decode` stores, from `decoded_string` on; it does not look at
`decoded_length`. Behind a text that is too short it finds the 0 at the end of the string, and
then whatever there is, for which 0 is taken here. -/
def base64_decode : Bytes → Bytes
  | p :: q :: r :: s :: text =>
    if p = 13 ∨ p = 10 then base64_decode (q :: r :: s :: text)
    else decodeGroup p q r s ++ base64_decode text
  | [p, q, r] =>
    if p = 13 ∨ p = 10 then base64_decode [q, r] else decodeGroup p q r 0
  | [p, q] => if p = 13 ∨ p = 10 then base64_decode [q] else decodeGroup p q 0 0
  | [p] => if p = 13 ∨ p = 10 then [] else decodeGroup p 0 0 0
  | [] => []

/-- `std::string::find` -/
def findText (s pattern : Bytes) : Option Nat :=
  (List.range (s.length + 1)).find? fun i => pattern.isPrefixOf (s.drop i)

/-- What surrounds the driver: the largest buffer that can be allocated, the files, of which
`none` cannot be opened, and what a client for a server makes of a request, where `none` is the
`false` of `doRequest`. -/
structure Environment where
  memory : Nat
  file : Bytes → Option Bytes
  doRequest : Bytes → Request → Except StdException (Option Response)

namespace Environment

variable (env : Environment)

/-- `HTTPClient(uri).get(path, …)`: the headers that it is given are not used. -/
def get (uri path : Bytes) : Except StdException (Option Bytes) :=
  match env.doRequest uri { method := bytes "GET", path, headers := [], content := [] } with
  | .error exception => .error exception
  | .ok none => .ok none
  | .ok (some response) => if response.code ≠ 200 then .ok none else .ok (some response.content)

/-- What is stored from `data.data()` on (lines 31 to 61). A file is removed when it has been
read. -/
def transfer (serverUri : Bytes) (attachment : JsonValue) (byteSize : Nat) :
    Except ChannelException Bytes := do
  let mode ← attachment.item "Mode"
  if mode.isText "Inline" then
    return base64_decode (← (← attachment.item "InlineValue").getString)
  else if mode.isText "File" then
    let fname ← (← attachment.item "Address").getString
    match env.file fname with
    | some content => return content.take byteSize
    | none => return []
  else if mode.isText "Http" then
    let uri ← (← attachment.item "Address").getString
    match findText uri (bytes "/attachments") with
    | none => return []
    | some pos =>
      match env.get (if serverUri = [] then uri.take pos else serverUri) (uri.drop pos) with
      | .error exception => throw (.std exception)
      | .ok none => return []
      | .ok (some value) => return value
  else return []

end Environment

/-! ### Spectra -/

/-- `PeakSpectrum`. Only the first `rank` members of `dims` are listed; the others are 0. `data`
is the buffer of the vector, four bytes a number. -/
structure PeakSpectrum where
  dims : List Nat := []
  xaxis : List ℚ := []
  yaxis : List ℚ := []
  zaxis : List ℚ := []
  data : Bytes := []
  deriving DecidableEq

/-- The buffer after `written` has been stored from its beginning on. -/
def store (buffer written : Bytes) : Bytes :=
  (written ++ buffer.drop written.length).take buffer.length

namespace PeakSpectrum

/-- `rank` -/
def rank (s : PeakSpectrum) : Nat := s.dims.length

def createAxis (memory : Nat) (axis : JsonValue) : Except ChannelException (List ℚ) := do
  let count ← (← axis.item "Count").getInt
  let offset ← (← axis.item "Offset").getDouble
  let delta ← (← axis.item "Delta").getDouble
  let center ← (← axis.item "Center").getDouble
  let size := (count % 0x10000000000000000).toNat
  if memory < 8 * size then throw (.std .allocation)
  if count = 1 then return [center]
  else return (List.range size).map fun (i : Nat) => offset + delta * (i : ℚ)

/-- The axis `name`, if there is one. -/
def readAxis (memory : Nat) (axes : JsonValue) (name : String) :
    Except ChannelException (Option (List ℚ)) :=
  if axes.contains name then do
    let axis ← createAxis memory (← axes.item name)
    return some axis
  else return none

/-- `fromSpectrumChannel`, with what has been stored from `data.data()` on. -/
def fromSpectrumChannel (env : Environment) (channel : JsonValue) (serverUri : Bytes) :
    Except ChannelException (PeakSpectrum × Bytes) := do
  let axes ← (← channel.item "SpectrumChannelSettings").item "RequestedAxes"
  let x ← readAxis env.memory axes "X"
  let y ← readAxis env.memory axes "Y"
  let z ← readAxis env.memory axes "Z"
  let spectrum : PeakSpectrum :=
    { dims := [x, y, z].filterMap fun axis => axis.map List.length
      xaxis := x.getD []
      yaxis := y.getD []
      zaxis := z.getD [] }
  let attachment ← channel.item "CountByteData"
  if ← (← attachment.item "HasValue").getBool then
    let byteSize ← (← attachment.item "Length").getSize
    if env.memory < 4 * (byteSize / 4) then throw (.std .allocation)
    let written ← env.transfer serverUri attachment byteSize
    return ({ spectrum with data := store (.replicate (4 * (byteSize / 4)) 0) written }, written)
  else return (spectrum, [])

/-- `data.data()[index]`, if it is there. -/
def number? (s : PeakSpectrum) (index : Nat) : Option Bytes :=
  if 4 * index + 4 ≤ s.data.length then some ((s.data.drop (4 * index)).take 4) else none

/-- Where the image starts that `integrate` sums up. -/
def imageOffset (s : PeakSpectrum) : Nat :=
  let width := s.dims.getD 0 0
  let height := s.dims.getD 1 0
  let frame := if s.rank = 3 then (s.dims.getD 2 0 + 0xffffffffffffffff) % 0x10000000000000000 else 0
  width * height * frame % 0x10000000000000000

/-- `integrate`; `none` if it reads beyond the end of `data`. `value` is the number that four
bytes hold. -/
def integrate (value : Bytes → ℚ) (s : PeakSpectrum) : Option (List ℚ) :=
  let width := s.dims.getD 0 0
  let height := s.dims.getD 1 0
  (List.range width).mapM fun i => do
    let column ← (List.range height).mapM fun j => s.number? (s.imageOffset + (j * width + i))
    return (column.map value).sum

/-- The size of the buffer of an `NDArray` allocated from `dims`. -/
def arraySize (s : PeakSpectrum) : Nat := 4 * s.dims.prod % 0x10000000000000000

end PeakSpectrum

end PeakAnalyser
