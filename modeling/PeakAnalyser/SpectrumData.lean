import PeakAnalyser.Library.Base64
import PeakAnalyser.PeakSpectrum

/-!
# What the data of a spectrum is worth

`fromSpectrumChannel` trusts four numbers of the server to agree: the counts of the axes, the
announced length, and what an attachment really brings. Where they do not, it stores beyond the
buffer, or it leaves the zeros there that the buffer was filled with.
-/

namespace PeakAnalyser

set_option autoImplicit false

open Base64

theorem ok_bind {α β ε : Type} {x : Except ε α} {f : α → Except ε β} {y : β}
    (h : x >>= f = .ok y) : ∃ a, x = .ok a ∧ f a = .ok y := by
  cases x with
  | error e => cases h
  | ok a => exact ⟨a, rfl, h⟩

theorem bind_of_ok {α β ε : Type} {x : Except ε α} {a : α} (h : x = .ok a)
    (f : α → Except ε β) : x >>= f = f a := by
  rw [h]
  rfl

/-! ### The decoder of texts -/

theorem lut_symbol {b : UInt8} {v : Nat} (h : Stands b v) : lut b = v := by
  have hsymbols : ∀ v < 64, lut (symbol v) = v ∧ lut (urlSymbol v) = v := by decide
  obtain ⟨hv, rfl | rfl⟩ := h
  · exact (hsymbols v hv).1
  · exact (hsymbols v hv).2

theorem lut_lt (b : UInt8) : lut b < 64 := by
  have hentries : ∀ n ∈ base64_lut, n < 64 := by simp [base64_lut]
  unfold lut
  rw [List.getD_eq_getElem?_getD]
  cases hentry : base64_lut[b.toNat]? with
  | none => simp
  | some n => exact hentries n (List.mem_of_getElem? hentry)

/-- Four numbers below 64 one behind another. -/
theorem shifts_eq {a b c d : Nat} (hb : b < 64) (hc : c < 64) (hd : d < 64) :
    a <<< 18 ||| b <<< 12 ||| c <<< 6 ||| d = a * 262144 + b * 4096 + c * 64 + d := by
  have h₁ : a <<< 18 ||| b <<< 12 = (a * 64 + b) <<< 12 := by
    rw [show a <<< 18 = (a <<< 6) <<< 12 by rw [← Nat.shiftLeft_add], ← Nat.shiftLeft_or_distrib,
      ← Nat.shiftLeft_add_eq_or_of_lt (show b < 2 ^ 6 by omega), Nat.shiftLeft_eq a 6]
  have h₂ : (a * 64 + b) <<< 12 ||| c <<< 6 = ((a * 64 + b) * 64 + c) <<< 6 := by
    rw [show (a * 64 + b) <<< 12 = ((a * 64 + b) <<< 6) <<< 6 by rw [← Nat.shiftLeft_add],
      ← Nat.shiftLeft_or_distrib, ← Nat.shiftLeft_add_eq_or_of_lt (show c < 2 ^ 6 by omega),
      Nat.shiftLeft_eq (a * 64 + b) 6]
  rw [h₁, h₂, ← Nat.shiftLeft_add_eq_or_of_lt (show d < 2 ^ 6 by omega), Nat.shiftLeft_eq]
  omega

theorem decodeGroup_eq (p q r s : UInt8) : decodeGroup p q r s =
    [.ofNat ((lut p * 262144 + lut q * 4096 + lut r * 64 + lut s) / 65536),
      .ofNat ((lut p * 262144 + lut q * 4096 + lut r * 64 + lut s) / 256 % 256),
      .ofNat ((lut p * 262144 + lut q * 4096 + lut r * 64 + lut s) % 256)] := by
  have hand : ∀ n, n &&& 0xff = n % 256 := fun n => Nat.and_two_pow_sub_one_eq_mod n 8
  simp only [decodeGroup, hand, Nat.shiftRight_eq_div_pow,
    shifts_eq (lut_lt q) (lut_lt r) (lut_lt s)]

/-- The first bytes of a group, whatever the symbols behind them are. -/
theorem decodeGroup_head {p q r s x y z : UInt8} (hp : Stands p (sextets x y z).1)
    (hq : Stands q (sextets x y z).2.1) : ∃ b c, decodeGroup p q r s = [x, b, c] := by
  have hx := x.toNat_lt
  have hy := y.toNat_lt
  have hr := lut_lt r
  have hs := lut_lt s
  have hvalue : (lut p * 262144 + lut q * 4096 + lut r * 64 + lut s) / 65536 = x.toNat := by
    rw [lut_symbol hp, lut_symbol hq]
    simp only [sextets]
    omega
  rw [decodeGroup_eq, hvalue, UInt8.ofNat_toNat]
  exact ⟨_, _, rfl⟩

theorem decodeGroup_pair {p q r s x y z : UInt8} (hp : Stands p (sextets x y z).1)
    (hq : Stands q (sextets x y z).2.1) (hr : Stands r (sextets x y z).2.2.1) :
    ∃ c, decodeGroup p q r s = [x, y, c] := by
  have hx := x.toNat_lt
  have hy := y.toNat_lt
  have hz := z.toNat_lt
  have hs := lut_lt s
  have hfirst : (lut p * 262144 + lut q * 4096 + lut r * 64 + lut s) / 65536 = x.toNat := by
    rw [lut_symbol hp, lut_symbol hq, lut_symbol hr]
    simp only [sextets]
    omega
  have hsecond :
      (lut p * 262144 + lut q * 4096 + lut r * 64 + lut s) / 256 % 256 = y.toNat := by
    rw [lut_symbol hp, lut_symbol hq, lut_symbol hr]
    simp only [sextets]
    omega
  rw [decodeGroup_eq, hfirst, hsecond, UInt8.ofNat_toNat, UInt8.ofNat_toNat]
  exact ⟨_, rfl⟩

theorem decodeGroup_triple {p q r s x y z : UInt8} (hp : Stands p (sextets x y z).1)
    (hq : Stands q (sextets x y z).2.1) (hr : Stands r (sextets x y z).2.2.1)
    (hs : Stands s (sextets x y z).2.2.2) : decodeGroup p q r s = [x, y, z] := by
  obtain ⟨c, hc⟩ := decodeGroup_pair (s := s) hp hq hr
  have hz := z.toNat_lt
  have hthird : (lut p * 262144 + lut q * 4096 + lut r * 64 + lut s) % 256 = z.toNat := by
    rw [lut_symbol hp, lut_symbol hq, lut_symbol hr, lut_symbol hs, sextets_value]
    omega
  rw [decodeGroup_eq, hthird, UInt8.ofNat_toNat] at hc
  rw [decodeGroup_eq, hthird, UInt8.ofNat_toNat]
  injection hc with hfirst hrest
  injection hrest with hsecond _
  rw [hfirst, hsecond]

theorem base64_decode_group {p q r s : UInt8} {text : Bytes} (h : ¬ LineBreak p) :
    base64_decode (p :: q :: r :: s :: text) = decodeGroup p q r s ++ base64_decode text := by
  rw [base64_decode]
  exact if_neg h

theorem base64_decode_lineBreak {b : UInt8} {text : Bytes} (h : LineBreak b) :
    base64_decode (b :: text) = base64_decode text := by
  rcases text with _ | ⟨q, _ | ⟨r, _ | ⟨s, text⟩⟩⟩
  all_goals
    rw [base64_decode]
    exact if_pos h

/-- The decoder stores the bytes of a text, and up to two more behind them. -/
theorem base64_decode_of_encodes {text a : Bytes} (h : Encodes text a) :
    ∃ more : Bytes, base64_decode text = a ++ more := by
  induction h with
  | nil => exact ⟨[], rfl⟩
  | lineBreak hb _ ih =>
    rw [base64_decode_lineBreak hb]
    exact ih
  | three hp hq hr hs _ ih =>
    obtain ⟨more, hmore⟩ := ih
    refine ⟨more, ?_⟩
    rw [base64_decode_group hp.not_lineBreak, decodeGroup_triple hp hq hr hs, hmore]
    rfl
  | @two p q r x y z text hp hq hr _ ih =>
    obtain ⟨c, hgroup⟩ := decodeGroup_pair (s := padding) hp hq hr
    refine ⟨c :: base64_decode text, ?_⟩
    rw [base64_decode_group hp.not_lineBreak, hgroup]
    rfl
  | @one p q x y z text hp hq _ ih =>
    obtain ⟨b, c, hgroup⟩ := decodeGroup_head (r := padding) (s := padding) hp hq
    refine ⟨b :: c :: base64_decode text, ?_⟩
    rw [base64_decode_group hp.not_lineBreak, hgroup]
    rfl

/-- It stores three bytes for each group. -/
theorem base64_decode_length (text : Bytes) : (base64_decode text).length = 3 * groups text := by
  have hlast : ∀ {p q r : UInt8} {more : Bytes}, ¬ LineBreak p →
      (if p = 13 ∨ p = 10 then more else decodeGroup p q r 0).length = 3 := by
    intro p q r more h
    rw [if_neg (show ¬ (p = 13 ∨ p = 10) from h)]
    rfl
  fun_induction groups text with
  | case1 p q r s text h ih => rw [base64_decode_lineBreak h, ih]
  | case2 p q r s text h ih =>
    rw [base64_decode_group h, List.length_append, ih]
    simp only [decodeGroup, List.length_cons, List.length_nil]
    omega
  | case3 p q r h ih => rw [base64_decode_lineBreak h, ih]
  | case4 p q r h => exact hlast h
  | case5 p q h ih => rw [base64_decode_lineBreak h, ih]
  | case6 p q h => exact hlast h
  | case7 p h => rw [base64_decode_lineBreak h, base64_decode, List.length_nil]
  | case8 p h => exact hlast h
  | case9 => rfl

/-! ### What a channel announces and what it brings -/

/-- The channel has an attachment, with this length. -/
def Announces (channel attachment : JsonValue) (byteSize : Nat) : Prop :=
  channel.item "CountByteData" = .ok attachment ∧
    attachment.item "HasValue" = .ok (.boolean true) ∧
    ∃ length, attachment.item "Length" = .ok length ∧ length.getSize = .ok byteSize

/-- The number of points of the axis `name` that the channel announces, if it has that axis. -/
def axisCount (channel : JsonValue) (name : String) : Option Nat := do
  let settings ← (channel.item "SpectrumChannelSettings").toOption
  let axes ← (settings.item "RequestedAxes").toOption
  let axis ← (axes.item name).toOption
  let count ← (axis.item "Count").toOption
  let n ← count.getInt.toOption
  return (n % 0x10000000000000000).toNat

def counts (channel : JsonValue) : List Nat := ["X", "Y", "Z"].filterMap (axisCount channel)

/-- The request by which an attachment is fetched, and its server. -/
def fetch (serverUri uri : Bytes) (pos : Nat) : Bytes × Request :=
  (if serverUri = [] then uri.take pos else serverUri,
    { method := bytes "GET", path := uri.drop pos, headers := [], content := [] })

namespace Environment

/-- The bytes of an attachment, from where its mode says that they are. -/
inductive Delivers (env : Environment) (serverUri : Bytes) (attachment : JsonValue) : Bytes → Prop where
  | hInline {text a : Bytes} :
      attachment.item "Mode" = .ok (.string (bytes "Inline")) →
      attachment.item "InlineValue" = .ok (.string text) → Encodes text a →
      Delivers env serverUri attachment a
  | file {fname a : Bytes} :
      attachment.item "Mode" = .ok (.string (bytes "File")) →
      attachment.item "Address" = .ok (.string fname) → env.file fname = some a →
      Delivers env serverUri attachment a
  | http {uri : Bytes} {pos : Nat} {response : Response} :
      attachment.item "Mode" = .ok (.string (bytes "Http")) →
      attachment.item "Address" = .ok (.string uri) →
      findText uri (bytes "/attachments") = some pos →
      env.doRequest (fetch serverUri uri pos).1 (fetch serverUri uri pos).2 = .ok (some response) →
      response.code = 200 → Delivers env serverUri attachment response.content

/-- How many bytes come from there, well formed or not. -/
inductive Brings (env : Environment) (serverUri : Bytes) (attachment : JsonValue)
    (byteSize : Nat) : Nat → Prop where
  | hInline {text : Bytes} :
      attachment.item "Mode" = .ok (.string (bytes "Inline")) →
      attachment.item "InlineValue" = .ok (.string text) →
      Brings env serverUri attachment byteSize (3 * groups text)
  | file {fname content : Bytes} :
      attachment.item "Mode" = .ok (.string (bytes "File")) →
      attachment.item "Address" = .ok (.string fname) → env.file fname = some content →
      Brings env serverUri attachment byteSize (min byteSize content.length)
  | http {uri : Bytes} {pos : Nat} {response : Response} :
      attachment.item "Mode" = .ok (.string (bytes "Http")) →
      attachment.item "Address" = .ok (.string uri) →
      findText uri (bytes "/attachments") = some pos →
      env.doRequest (fetch serverUri uri pos).1 (fetch serverUri uri pos).2 = .ok (some response) →
      response.code = 200 → Brings env serverUri attachment byteSize response.content.length

end Environment

/-! ### `fromSpectrumChannel` -/

theorem getBool_eq {value : JsonValue} {b : Bool} (h : value.getBool = .ok b) :
    value = .boolean b := by
  cases value with
  | boolean b' => exact congrArg JsonValue.boolean (Except.ok.inj h)
  | _ => cases h

theorem getString_eq {value : JsonValue} {s : Bytes} (h : value.getString = .ok s) :
    value = .string s := by
  cases value with
  | string s' => exact congrArg JsonValue.string (Except.ok.inj h)
  | _ => cases h

theorem isText_eq {value : JsonValue} {text : String} (h : value.isText text = true) :
    value = .string (bytes text) := by
  cases value with
  | string s => exact congrArg JsonValue.string (of_decide_eq_true h)
  | _ => cases h

theorem item_of_not_contains {value : JsonValue} {key : String} (h : value.contains key = false) :
    (value.item key).toOption = none := by
  cases value with
  | object members =>
    have hnone : members.lookup key = none := Option.isSome_eq_false_iff.mp h |> Option.isNone_iff_eq_none.mp
    simp only [JsonValue.item, hnone]
    rfl
  | _ => rfl

namespace PeakSpectrum

theorem createAxis_length {memory : Nat} {axis : JsonValue} {points : List ℚ}
    (h : createAxis memory axis = .ok points) :
    ∃ value count, axis.item "Count" = .ok value ∧ value.getInt = .ok count ∧
      points.length = (count % 0x10000000000000000).toNat := by
  obtain ⟨value, hvalue, h⟩ := ok_bind h
  obtain ⟨count, hcount, h⟩ := ok_bind h
  obtain ⟨_, _, h⟩ := ok_bind h
  obtain ⟨offset, _, h⟩ := ok_bind h
  obtain ⟨_, _, h⟩ := ok_bind h
  obtain ⟨delta, _, h⟩ := ok_bind h
  obtain ⟨_, _, h⟩ := ok_bind h
  obtain ⟨center, _, h⟩ := ok_bind h
  refine ⟨value, count, hvalue, hcount, ?_⟩
  dsimp only at h
  split at h
  · cases h
  · split at h
    · rename_i hone
      obtain rfl := Except.ok.inj h
      subst hone
      rfl
    · obtain rfl := Except.ok.inj h
      rw [List.length_map, List.length_range]

theorem readAxis_length {memory : Nat} {channel settings axes : JsonValue} {name : String}
    {axis : Option (List ℚ)} (hsettings : channel.item "SpectrumChannelSettings" = .ok settings)
    (haxes : settings.item "RequestedAxes" = .ok axes) (h : readAxis memory axes name = .ok axis) :
    axis.map List.length = axisCount channel name := by
  unfold axisCount
  rw [hsettings, Except.toOption, Option.bind_eq_bind, Option.bind_some, haxes, Except.toOption,
    Option.bind_eq_bind, Option.bind_some]
  unfold readAxis at h
  split at h
  · obtain ⟨value, hvalue, h⟩ := ok_bind h
    obtain ⟨points, hpoints, h⟩ := ok_bind h
    obtain ⟨number, count, hnumber, hcount, hlength⟩ := createAxis_length hpoints
    obtain rfl := Except.ok.inj h
    simp only [hvalue, hnumber, hcount, Except.toOption, Option.bind_some, Option.map_some, hlength]
    rfl
  · rename_i hcontains
    rw [item_of_not_contains (Bool.eq_false_iff.mpr hcontains)]
    obtain rfl := Except.ok.inj h
    rfl

/-- What a channel that is read to its end has been. -/
structure Read (env : Environment) (channel : JsonValue) (serverUri : Bytes) (s : PeakSpectrum)
    (written : Bytes) : Prop where
  dims : s.dims = counts channel
  detached : (∀ attachment byteSize, ¬ Announces channel attachment byteSize) →
    s.data = [] ∧ written = []
  attached : ∀ attachment byteSize, Announces channel attachment byteSize →
    env.transfer serverUri attachment byteSize = .ok written ∧
      s.data = store (.replicate (4 * (byteSize / 4)) 0) written

theorem fromSpectrumChannel_read {env : Environment} {channel : JsonValue} {serverUri : Bytes}
    {s : PeakSpectrum} {written : Bytes}
    (h : fromSpectrumChannel env channel serverUri = .ok (s, written)) :
    Read env channel serverUri s written := by
  obtain ⟨settings, hsettings, h⟩ := ok_bind h
  obtain ⟨axes, haxes, h⟩ := ok_bind h
  obtain ⟨x, hx, h⟩ := ok_bind h
  obtain ⟨y, hy, h⟩ := ok_bind h
  obtain ⟨z, hz, h⟩ := ok_bind h
  obtain ⟨attachment, hattachment, h⟩ := ok_bind h
  obtain ⟨value, hvalue, h⟩ := ok_bind h
  obtain ⟨present, hpresent, h⟩ := ok_bind h
  rw [getBool_eq hpresent] at hvalue
  have hdims : [x, y, z].filterMap (fun axis => axis.map List.length) = counts channel := by
    simp only [counts, List.filterMap_cons, readAxis_length hsettings haxes hx,
      readAxis_length hsettings haxes hy, readAxis_length hsettings haxes hz, List.filterMap_nil]
  cases present with
  | false =>
    obtain ⟨rfl, rfl⟩ := Prod.mk.inj (Except.ok.inj h)
    refine ⟨hdims, fun _ => ⟨rfl, rfl⟩, ?_⟩
    intro attachment' byteSize hannounces
    obtain ⟨hat, hhas, _⟩ := hannounces
    obtain rfl := Except.ok.inj (hattachment.symm.trans hat)
    cases hvalue.symm.trans hhas
  | true =>
    rw [if_pos rfl] at h
    obtain ⟨length, hlength, h⟩ := ok_bind h
    obtain ⟨byteSize, hbyteSize, h⟩ := ok_bind h
    dsimp only at h
    split at h
    · cases h
    · obtain ⟨stored, htransfer, h⟩ := ok_bind h
      obtain ⟨rfl, rfl⟩ := Prod.mk.inj (Except.ok.inj h)
      have hannounces : Announces channel attachment byteSize :=
        ⟨hattachment, hvalue, length, hlength, hbyteSize⟩
      refine ⟨hdims, fun hnone => absurd hannounces (hnone attachment byteSize), ?_⟩
      intro attachment' byteSize' hannounces'
      obtain ⟨hat, hhas, length', hlength', hbyteSize'⟩ := hannounces'
      obtain rfl := Except.ok.inj (hattachment.symm.trans hat)
      obtain rfl := Except.ok.inj (hlength.symm.trans hlength')
      obtain rfl := Except.ok.inj (hbyteSize.symm.trans hbyteSize')
      exact ⟨htransfer, rfl⟩

end PeakSpectrum

/-! ### What is stored -/

theorem length_store (buffer written : Bytes) : (store buffer written).length = buffer.length := by
  simp only [store, List.length_take, List.length_append, List.length_drop]
  omega

/-- Bytes that fill the buffer are all that there is in it afterwards. -/
theorem store_of_le {buffer written : Bytes} (h : buffer.length ≤ written.length) :
    store buffer written = written.take buffer.length := by
  unfold store
  exact List.take_append_of_le_length h

namespace Environment

variable {env : Environment} {serverUri : Bytes} {attachment : JsonValue} {byteSize n : Nat}
  {written a : Bytes}

theorem transfer_inline {text : Bytes}
    (hmode : attachment.item "Mode" = .ok (.string (bytes "Inline")))
    (hvalue : attachment.item "InlineValue" = .ok (.string text)) :
    env.transfer serverUri attachment byteSize = .ok (base64_decode text) := by
  have hInline : (JsonValue.string (bytes "Inline")).isText "Inline" = true := by decide +kernel
  have htext : (JsonValue.string text).getString = .ok text := rfl
  unfold transfer
  rw [bind_of_ok hmode, if_pos hInline, bind_of_ok hvalue, bind_of_ok htext]
  rfl

theorem transfer_file {fname content : Bytes}
    (hmode : attachment.item "Mode" = .ok (.string (bytes "File")))
    (haddress : attachment.item "Address" = .ok (.string fname))
    (hcontent : env.file fname = some content) :
    env.transfer serverUri attachment byteSize = .ok (content.take byteSize) := by
  have hInline : (JsonValue.string (bytes "File")).isText "Inline" = false := by decide +kernel
  have hfile : (JsonValue.string (bytes "File")).isText "File" = true := by decide +kernel
  have hfname : (JsonValue.string fname).getString = .ok fname := rfl
  unfold transfer
  rw [bind_of_ok hmode, if_neg (Bool.eq_false_iff.mp hInline), if_pos hfile,
    bind_of_ok haddress, bind_of_ok hfname, hcontent]
  rfl

theorem transfer_http {uri : Bytes} {pos : Nat} {response : Response}
    (hmode : attachment.item "Mode" = .ok (.string (bytes "Http")))
    (haddress : attachment.item "Address" = .ok (.string uri))
    (hpos : findText uri (bytes "/attachments") = some pos)
    (hresponse : env.doRequest (fetch serverUri uri pos).1 (fetch serverUri uri pos).2 =
      .ok (some response))
    (hcode : response.code = 200) :
    env.transfer serverUri attachment byteSize = .ok response.content := by
  have hInline : (JsonValue.string (bytes "Http")).isText "Inline" = false := by decide +kernel
  have hfile : (JsonValue.string (bytes "Http")).isText "File" = false := by decide +kernel
  have hhttp : (JsonValue.string (bytes "Http")).isText "Http" = true := by decide +kernel
  have huri : (JsonValue.string uri).getString = .ok uri := rfl
  have hget : env.get (if serverUri = [] then uri.take pos else serverUri) (uri.drop pos) =
      .ok (some response.content) := by
    unfold get
    unfold fetch at hresponse
    simp only [hresponse, hcode, ne_eq, not_true_eq_false, if_false]
  unfold transfer
  rw [bind_of_ok hmode, if_neg (Bool.eq_false_iff.mp hInline),
    if_neg (Bool.eq_false_iff.mp hfile), if_pos hhttp, bind_of_ok haddress, bind_of_ok huri]
  simp only [hpos, hget]
  rfl

theorem get_eq_some {uri path content : Bytes} (h : env.get uri path = .ok (some content)) :
    ∃ response, env.doRequest uri { method := bytes "GET", path, headers := [], content := [] } =
      .ok (some response) ∧ response.code = 200 ∧ response.content = content := by
  unfold get at h
  split at h
  · cases h
  · cases Except.ok.inj h
  · rename_i response hresponse
    split at h
    · cases Except.ok.inj h
    · rename_i hcode
      refine ⟨response, hresponse, not_not.mp hcode, ?_⟩
      exact Option.some.inj (Except.ok.inj h)

/-- What is stored is what the mode brings, or nothing. -/
theorem transfer_length (h : env.transfer serverUri attachment byteSize = .ok written) :
    env.Brings serverUri attachment byteSize written.length ∨ written = [] := by
  obtain ⟨mode, hmode, h⟩ := ok_bind h
  split at h
  · rename_i hInline
    rw [isText_eq hInline] at hmode
    obtain ⟨value, hvalue, h⟩ := ok_bind h
    obtain ⟨text, htext, h⟩ := ok_bind h
    rw [getString_eq htext] at hvalue
    obtain rfl := Except.ok.inj h
    rw [base64_decode_length]
    exact .inl (.hInline hmode hvalue)
  · split at h
    · rename_i hfile
      rw [isText_eq hfile] at hmode
      obtain ⟨value, hvalue, h⟩ := ok_bind h
      obtain ⟨fname, hfname, h⟩ := ok_bind h
      rw [getString_eq hfname] at hvalue
      split at h
      · rename_i content hcontent
        obtain rfl := Except.ok.inj h
        rw [List.length_take]
        exact .inl (.file hmode hvalue hcontent)
      · exact .inr (Except.ok.inj h).symm
    · split at h
      · rename_i hhttp
        rw [isText_eq hhttp] at hmode
        obtain ⟨value, hvalue, h⟩ := ok_bind h
        obtain ⟨uri, huri, h⟩ := ok_bind h
        rw [getString_eq huri] at hvalue
        split at h
        · exact .inr (Except.ok.inj h).symm
        · rename_i pos hpos
          split at h
          · cases h
          · exact .inr (Except.ok.inj h).symm
          · rename_i content hget
            obtain rfl := Except.ok.inj h
            obtain ⟨response, hresponse, hcode, rfl⟩ := get_eq_some hget
            exact .inl (.http hmode hvalue hpos hresponse hcode)
      · exact .inr (Except.ok.inj h).symm

theorem Brings.length_eq (hbrings : env.Brings serverUri attachment byteSize n)
    (h : env.transfer serverUri attachment byteSize = .ok written) : written.length = n := by
  cases hbrings with
  | hInline hmode hvalue =>
    obtain rfl := Except.ok.inj (h.symm.trans (transfer_inline hmode hvalue))
    exact base64_decode_length _
  | file hmode haddress hcontent =>
    obtain rfl := Except.ok.inj (h.symm.trans (transfer_file hmode haddress hcontent))
    exact List.length_take
  | http hmode haddress hpos hresponse hcode =>
    obtain rfl := Except.ok.inj (h.symm.trans (transfer_http hmode haddress hpos hresponse hcode))
    rfl

/-- The bytes that an attachment delivers are stored, up to its announced length. -/
theorem Delivers.take_eq (hdelivers : env.Delivers serverUri attachment a)
    (hlong : byteSize ≤ a.length) (h : env.transfer serverUri attachment byteSize = .ok written) :
    byteSize ≤ written.length ∧ written.take byteSize = a.take byteSize := by
  cases hdelivers with
  | hInline hmode hvalue hencodes =>
    obtain rfl := Except.ok.inj (h.symm.trans (transfer_inline hmode hvalue))
    obtain ⟨more, hmore⟩ := base64_decode_of_encodes hencodes
    rw [hmore, List.length_append, List.take_append_of_le_length hlong]
    exact ⟨by omega, rfl⟩
  | file hmode haddress hcontent =>
    obtain rfl := Except.ok.inj (h.symm.trans (transfer_file hmode haddress hcontent))
    rw [List.length_take, List.take_take]
    exact ⟨by omega, by rw [Nat.min_self]⟩
  | http hmode haddress hpos hresponse hcode =>
    obtain rfl := Except.ok.inj (h.symm.trans (transfer_http hmode haddress hpos hresponse hcode))
    exact ⟨hlong, rfl⟩

end Environment

/-! ### The sizes -/

theorem mapM_isSome {α β : Type} {f : α → Option β} {l : List α} :
    (l.mapM f).isSome ↔ ∀ x ∈ l, (f x).isSome := by
  induction l with
  | nil => simp
  | cons x l ih =>
    rw [List.mapM_cons, List.forall_mem_cons, ← ih]
    cases hx : f x with
    | none => simp
    | some b => cases l.mapM f <;> simp

namespace PeakSpectrum

variable {s : PeakSpectrum}

theorem number?_isSome {index : Nat} :
    (s.number? index).isSome ↔ 4 * index + 4 ≤ s.data.length := by
  unfold number?
  split <;> simp_all

theorem integrate_isSome {value : Bytes → ℚ} : (s.integrate value).isSome ↔
    ∀ i < s.dims.getD 0 0, ∀ j < s.dims.getD 1 0,
      4 * (s.imageOffset + (j * s.dims.getD 0 0 + i)) + 4 ≤ s.data.length := by
  have hsum : ∀ column : Option (List Bytes),
      (column >>= fun column => pure (column.map value).sum).isSome = column.isSome := by
    intro column
    cases column <;> rfl
  unfold integrate
  simp only [mapM_isSome, hsum, List.mem_range, number?_isSome]

theorem integrate_empty {value : Bytes → ℚ} (hdata : s.data.length = 0)
    (h : (s.integrate value).isSome) : s.dims.getD 0 0 * s.dims.getD 1 0 = 0 := by
  by_contra harea
  have hwidth : 0 < s.dims.getD 0 0 := Nat.pos_of_ne_zero (left_ne_zero_of_mul harea)
  have hheight : 0 < s.dims.getD 1 0 := Nat.pos_of_ne_zero (right_ne_zero_of_mul harea)
  have hfirst := integrate_isSome.mp h 0 hwidth 0 hheight
  omega

theorem integrate_of_area {value : Bytes → ℚ} (harea : s.dims.getD 0 0 * s.dims.getD 1 0 = 0) :
    (s.integrate value).isSome := by
  rw [integrate_isSome]
  intro i hi j hj
  rcases Nat.mul_eq_zero.mp harea with hwidth | hheight
  · omega
  · omega

/-- `integrate` on data of the size that `dims` say. -/
theorem integrate_isSome_of_size {value : Bytes → ℚ} (hrank : s.dims.length ≤ 3)
    (hsize : s.data.length = 4 * s.dims.prod) (hsmall : 4 * s.dims.prod < 0x10000000000000000) :
    (s.integrate value).isSome ↔
      s.dims.getD 0 0 * s.dims.getD 1 0 = 0 ∨ s.dims.prod ≠ 0 := by
  constructor
  · intro h
    by_cases hprod : s.dims.prod = 0
    · exact .inl (integrate_empty (by omega) h)
    · exact .inr hprod
  · intro h
    rcases h with hzero | hprod
    · exact integrate_of_area hzero
    rw [integrate_isSome]
    intro i hi j hj
    have hrow : j * s.dims.getD 0 0 + i < s.dims.getD 0 0 * s.dims.getD 1 0 := by
      have hle : (j + 1) * s.dims.getD 0 0 ≤ s.dims.getD 1 0 * s.dims.getD 0 0 :=
        Nat.mul_le_mul_right _ hj
      rw [Nat.add_mul, Nat.one_mul] at hle
      rw [Nat.mul_comm (s.dims.getD 0 0)]
      omega
    suffices hbound : s.imageOffset + s.dims.getD 0 0 * s.dims.getD 1 0 ≤ s.dims.prod by omega
    have harea : 0 < s.dims.getD 0 0 * s.dims.getD 1 0 := by omega
    unfold imageOffset rank
    rcases hdims : s.dims with _ | ⟨a, _ | ⟨b, _ | ⟨c, _ | ⟨d, rest⟩⟩⟩⟩
    · rw [hdims] at hj
      cases hj
    · rw [hdims] at hj
      cases hj
    · simp
    · have hthree : [a, b, c].prod = a * b * c := by
        simp only [List.prod_cons, List.prod_nil, Nat.mul_one, Nat.mul_assoc]
      rw [hdims, hthree] at hprod hsmall
      rw [hdims] at harea
      simp only [List.getD_cons_zero, List.getD_cons_succ] at harea
      have hc : 0 < c := Nat.pos_of_ne_zero (right_ne_zero_of_mul hprod)
      have hlast : a * b * c = a * b * (c - 1) + a * b := by
        rw [← Nat.mul_succ, Nat.succ_eq_add_one, Nat.sub_add_cancel hc]
      have hcount : c ≤ a * b * c := Nat.le_mul_of_pos_left c harea
      have hframe : (c + 0xffffffffffffffff) % 0x10000000000000000 = c - 1 := by omega
      simp only [List.length_cons, List.length_nil, Nat.zero_add, Nat.reduceAdd, if_true,
        List.getD_cons_zero, List.getD_cons_succ, hthree, hframe]
      rw [Nat.mod_eq_of_lt (by omega), hlast]
    · rw [hdims] at hrank
      simp only [List.length_cons] at hrank
      omega

theorem fromSpectrumChannel_length {env : Environment} {channel : JsonValue} {serverUri : Bytes}
    {written : Bytes} (h : Read env channel serverUri s written) {attachment : JsonValue}
    {byteSize : Nat} (hannounces : Announces channel attachment byteSize) :
    s.data.length = 4 * (byteSize / 4) := by
  rw [(h.attached attachment byteSize hannounces).2, length_store, List.length_replicate]

/-- Exactly a channel whose attachment delivers as many bytes as it announces, and whole numbers
of them, is read to data that hold them. -/
theorem data_holds_attachment {env : Environment} {channel attachment : JsonValue}
    {serverUri written : Bytes} {byteSize : Nat} {s : PeakSpectrum}
    (hannounces : Announces channel attachment byteSize)
    (h : fromSpectrumChannel env channel serverUri = .ok (s, written)) :
    (∃ a, env.Delivers serverUri attachment a ∧ byteSize ≤ a.length ∧ s.data = a.take byteSize) ↔
      (∃ a, env.Delivers serverUri attachment a ∧ byteSize ≤ a.length) ∧ 4 ∣ byteSize := by
  have hread := fromSpectrumChannel_read h
  obtain ⟨htransfer, hdata⟩ := hread.attached attachment byteSize hannounces
  have hlength := fromSpectrumChannel_length hread hannounces
  constructor
  · intro hholds
    obtain ⟨a, hdelivers, hlong, ha⟩ := hholds
    refine ⟨⟨a, hdelivers, hlong⟩, ?_⟩
    rw [ha, List.length_take] at hlength
    omega
  · intro hgood
    obtain ⟨⟨a, hdelivers, hlong⟩, hwhole⟩ := hgood
    obtain ⟨hstored, htake⟩ := hdelivers.take_eq hlong htransfer
    have hsize : 4 * (byteSize / 4) = byteSize := Nat.mul_div_cancel' hwhole
    refine ⟨a, hdelivers, hlong, ?_⟩
    rw [hdata, hsize, store_of_le (by rw [List.length_replicate]; exact hstored),
      List.length_replicate, htake]

/-- A channel of `count` points in one direction. -/
def lineChannel (count : Int) (attachment : JsonValue) : JsonValue := .object [
  ("SpectrumChannelSettings", .object [("RequestedAxes", .object [("X", .object [
    ("Count", .integer count), ("Offset", .integer 0), ("Delta", .integer 1),
    ("Center", .integer 7)])])]),
  ("CountByteData", attachment)]

def fetchedAttachment : JsonValue := .object [
  ("HasValue", .boolean true), ("Length", .integer 4), ("Mode", .string (bytes "Http")),
  ("Address", .string (bytes "http://127.0.0.1:59806/attachments/1.bin"))]

/-- A server that answers every request in the same way. -/
def answering (code : Int) (content : Bytes) : Environment where
  memory := 0x100000
  file _ := none
  doRequest _ _ := .ok (some { code, content })

theorem fetchedAttachment_announces : Announces (lineChannel 1 fetchedAttachment) fetchedAttachment 4 :=
  ⟨rfl, rfl, .integer 4, rfl, rfl⟩

theorem fetchedAttachment_delivers (content : Bytes) :
    (answering 200 content).Delivers [] fetchedAttachment content :=
  have hpos : findText (bytes "http://127.0.0.1:59806/attachments/1.bin")
      (bytes "/attachments") = some 22 := by
    decide +kernel
  have hresponse : (answering 200 content).doRequest
      (fetch [] (bytes "http://127.0.0.1:59806/attachments/1.bin") 22).1
      (fetch [] (bytes "http://127.0.0.1:59806/attachments/1.bin") 22).2 =
      .ok (some { code := 200, content }) := rfl
  .http rfl rfl hpos hresponse rfl

theorem fetched_data_holds : ∃ a, (answering 200 [0, 0, 128, 63]).Delivers [] fetchedAttachment a ∧
    4 ≤ a.length ∧ [0, 0, 128, 63] = a.take 4 :=
  have hread : fromSpectrumChannel (answering 200 [0, 0, 128, 63]) (lineChannel 1 fetchedAttachment)
      [] = .ok ({ dims := [1], xaxis := [7], data := [0, 0, 128, 63] }, [0, 0, 128, 63]) := by
    decide +kernel
  (data_holds_attachment fetchedAttachment_announces hread).mpr
    ⟨⟨_, fetchedAttachment_delivers _, by decide⟩, by decide⟩

/-- A server that has lost the attachment: the zeros of the buffer are taken for what has been
measured. -/
theorem zeros_for_lost_attachment : ¬ ∀ (env : Environment) (channel attachment : JsonValue)
    (serverUri written : Bytes) (byteSize : Nat) (s : PeakSpectrum),
    Announces channel attachment byteSize →
    fromSpectrumChannel env channel serverUri = .ok (s, written) →
    ∃ a, env.Delivers serverUri attachment a ∧ byteSize ≤ a.length ∧
      s.data = a.take byteSize := by
  intro h
  obtain ⟨a, hdelivers, _⟩ := h (answering 404 []) _ _ [] [] 4
    { dims := [1], xaxis := [7], data := [0, 0, 0, 0] } fetchedAttachment_announces
    (by decide +kernel)
  cases hdelivers with
  | hInline hmode _ _ =>
    have hne : bytes "Http" ≠ bytes "Inline" := by decide +kernel
    exact hne (JsonValue.string.inj (Except.ok.inj hmode))
  | file hmode _ _ =>
    have hne : bytes "Http" ≠ bytes "File" := by decide +kernel
    exact hne (JsonValue.string.inj (Except.ok.inj hmode))
  | http _ _ _ hresponse hcode =>
    obtain rfl := Option.some.inj (Except.ok.inj hresponse)
    cases hcode

/-- Nothing is stored beyond the end of the data; the data of an attachment are as many numbers
as `dims` say; and the copies of the data stay within their buffers. -/
structure InBounds (channel : JsonValue) (s : PeakSpectrum) (written : Bytes) : Prop where
  stored : written.length ≤ s.data.length
  size : ∀ attachment byteSize, Announces channel attachment byteSize →
    s.data.length = 4 * s.dims.prod
  image : s.data.length ≤ s.arraySize
  sum : ∀ value, (s.integrate value).isSome

/-- The four sizes of a channel agree. -/
structure SizesAgree (env : Environment) (channel : JsonValue) (serverUri : Bytes) : Prop where
  announced : ∀ attachment byteSize, Announces channel attachment byteSize →
    byteSize / 4 = (counts channel).prod
  brought : ∀ attachment byteSize, Announces channel attachment byteSize →
    ∀ n, env.Brings serverUri attachment byteSize n → n ≤ 4 * (byteSize / 4)
  image : (counts channel).getD 0 0 * (counts channel).getD 1 0 = 0 ∨
    (counts channel).prod ≠ 0 ∧ ∃ attachment byteSize, Announces channel attachment byteSize

theorem counts_length (channel : JsonValue) : (counts channel).length ≤ 3 := by
  unfold counts
  exact (List.length_filterMap_le _ _)

theorem getSize_lt {value : JsonValue} {n : Nat} (h : value.getSize = .ok n) :
    n < 0x10000000000000000 := by
  cases value with
  | integer m =>
    obtain rfl := Except.ok.inj h
    omega
  | float x =>
    simp only [JsonValue.getSize] at h
    split at h
    · obtain rfl := Except.ok.inj h
      omega
    · cases h
  | _ => cases h

section Bounds

variable {env : Environment} {channel : JsonValue} {serverUri written : Bytes} {s : PeakSpectrum}

theorem fromSpectrumChannel_rank (h : fromSpectrumChannel env channel serverUri = .ok (s, written)) :
    s.dims.length ≤ 3 := by
  rw [(fromSpectrumChannel_read h).dims]
  exact counts_length channel

/-- The announced size is a `size_t`, and so is what is allocated for it. -/
theorem fromSpectrumChannel_length_lt {attachment : JsonValue} {byteSize : Nat}
    (h : fromSpectrumChannel env channel serverUri = .ok (s, written))
    (hannounces : Announces channel attachment byteSize) :
    s.data.length < 0x10000000000000000 := by
  obtain ⟨_, _, length, _, hbyteSize⟩ := id hannounces
  have hlt := getSize_lt hbyteSize
  rw [fromSpectrumChannel_length (fromSpectrumChannel_read h) hannounces]
  omega

theorem sizesAgree_of_inBounds
    (h : fromSpectrumChannel env channel serverUri = .ok (s, written))
    (hbounds : InBounds channel s written) : SizesAgree env channel serverUri := by
  have hread := fromSpectrumChannel_read h
  constructor
  · intro attachment byteSize hannounces
    have hsize := hbounds.size attachment byteSize hannounces
    rw [fromSpectrumChannel_length hread hannounces, hread.dims] at hsize
    omega
  · intro attachment byteSize hannounces n hbrings
    have hstored := hbounds.stored
    rw [hbrings.length_eq (hread.attached attachment byteSize hannounces).1,
      fromSpectrumChannel_length hread hannounces] at hstored
    exact hstored
  · by_cases hany : ∃ attachment byteSize, Announces channel attachment byteSize
    · obtain ⟨attachment, byteSize, hannounces⟩ := id hany
      have hsize := hbounds.size attachment byteSize hannounces
      have hlt := fromSpectrumChannel_length_lt h hannounces
      have hsum := (integrate_isSome_of_size (fromSpectrumChannel_rank h) hsize (by omega)).mp
        (hbounds.sum fun _ => 0)
      rw [hread.dims] at hsum
      exact hsum.imp_right fun hprod => ⟨hprod, hany⟩
    · have hnone : s.data = [] := (hread.detached (by push Not at hany; exact hany)).1
      have hzero := integrate_empty (by rw [hnone]; rfl) (hbounds.sum fun _ => 0)
      rw [hread.dims] at hzero
      exact .inl hzero

theorem inBounds_of_announced {attachment : JsonValue} {byteSize : Nat}
    (h : fromSpectrumChannel env channel serverUri = .ok (s, written))
    (hannounces : Announces channel attachment byteSize)
    (hagree : SizesAgree env channel serverUri) : InBounds channel s written := by
  have hread := fromSpectrumChannel_read h
  have hlength := fromSpectrumChannel_length hread hannounces
  have hlt := fromSpectrumChannel_length_lt h hannounces
  have hsize : s.data.length = 4 * s.dims.prod := by
    rw [hlength, hagree.announced attachment byteSize hannounces, hread.dims]
  constructor
  · rcases Environment.transfer_length (hread.attached attachment byteSize hannounces).1 with
      hbrings | hnothing
    · rw [hlength]
      exact hagree.brought attachment byteSize hannounces _ hbrings
    · rw [hnothing]
      exact Nat.zero_le _
  · exact fun _ _ _ => hsize
  · unfold arraySize
    rw [← hsize, Nat.mod_eq_of_lt hlt]
  · intro value
    rw [integrate_isSome_of_size (fromSpectrumChannel_rank h) hsize (by omega), hread.dims]
    exact hagree.image.imp_right And.left

/-- Without an attachment nothing is allocated, so the image must have no pixels. -/
theorem inBounds_of_detached
    (h : fromSpectrumChannel env channel serverUri = .ok (s, written))
    (hnone : ¬ ∃ attachment byteSize, Announces channel attachment byteSize)
    (hagree : SizesAgree env channel serverUri) : InBounds channel s written := by
  have hread := fromSpectrumChannel_read h
  have hdetached := hread.detached (by push Not at hnone; exact hnone)
  have hzero : s.dims.getD 0 0 * s.dims.getD 1 0 = 0 := by
    rw [hread.dims]
    rcases hagree.image with hzero | ⟨_, hattached⟩
    · exact hzero
    · exact absurd hattached hnone
  constructor
  · rw [hdetached.2]
    exact Nat.zero_le _
  · exact fun attachment byteSize hannounces => absurd ⟨attachment, byteSize, hannounces⟩ hnone
  · rw [hdetached.1]
    exact Nat.zero_le _
  · exact fun value => integrate_of_area hzero

end Bounds

/-- Exactly when the sizes agree, reading a channel and using what was read stay in bounds. -/
theorem stays_in_bounds {env : Environment} {channel : JsonValue} {serverUri written : Bytes}
    {s : PeakSpectrum} (h : fromSpectrumChannel env channel serverUri = .ok (s, written)) :
    InBounds channel s written ↔ SizesAgree env channel serverUri := by
  constructor
  · exact sizesAgree_of_inBounds h
  · intro hagree
    by_cases hany : ∃ attachment byteSize, Announces channel attachment byteSize
    · obtain ⟨attachment, byteSize, hannounces⟩ := hany
      exact inBounds_of_announced h hannounces hagree
    · exact inBounds_of_detached h hany hagree

/-- Two by two numbers, which are fetched. -/
def areaAttachment : JsonValue := .object [
  ("HasValue", .boolean true), ("Length", .integer 16), ("Mode", .string (bytes "Http")),
  ("Address", .string (bytes "http://127.0.0.1:59806/attachments/2.bin"))]

def areaChannel : JsonValue := .object [
  ("SpectrumChannelSettings", .object [("RequestedAxes", .object [
    ("X", .object [("Count", .integer 2), ("Offset", .integer 0), ("Delta", .integer 1),
      ("Center", .integer 0)]),
    ("Y", .object [("Count", .integer 2), ("Offset", .integer 5), ("Delta", .integer 1),
      ("Center", .integer 5)])])]),
  ("CountByteData", areaAttachment)]

def areaNumbers : Bytes := [0, 0, 128, 63, 0, 0, 0, 64, 0, 0, 64, 64, 0, 0, 128, 64]

theorem fetched_stays_in_bounds : InBounds areaChannel
    { dims := [2, 2], xaxis := [0, 1], yaxis := [5, 6], data := areaNumbers } areaNumbers := by
  have hread : fromSpectrumChannel (answering 200 areaNumbers) areaChannel [] =
      .ok ({ dims := [2, 2], xaxis := [0, 1], yaxis := [5, 6], data := areaNumbers },
        areaNumbers) := by
    decide +kernel
  refine (stays_in_bounds hread).mpr ?_
  have hunique : ∀ attachment byteSize, Announces areaChannel attachment byteSize →
      attachment = areaAttachment ∧ byteSize = 16 := by
    intro attachment byteSize hannounces
    obtain ⟨hattachment, _, length, hlength, hbyteSize⟩ := hannounces
    obtain rfl := Except.ok.inj hattachment
    obtain rfl := Except.ok.inj hlength
    exact ⟨rfl, (Except.ok.inj hbyteSize).symm⟩
  constructor
  · intro attachment byteSize hannounces
    obtain ⟨rfl, rfl⟩ := hunique attachment byteSize hannounces
    decide +kernel
  · intro attachment byteSize hannounces n hbrings
    obtain ⟨rfl, rfl⟩ := hunique attachment byteSize hannounces
    have htransfer : (answering 200 areaNumbers).transfer [] areaAttachment 16 =
        .ok areaNumbers := by
      decide +kernel
    exact (hbrings.length_eq htransfer).symm.le
  · exact .inr ⟨by decide +kernel, areaAttachment, 16, rfl, rfl, .integer 16, rfl, rfl⟩

def inlineAttachment : JsonValue := .object [
  ("HasValue", .boolean true), ("Length", .integer 4), ("Mode", .string (bytes "Inline")),
  ("InlineValue", .string (bytes "AAAAAA=="))]

/-- Four bytes in a text are decoded to six, two of them beyond the end of the data. -/
theorem inline_text_overflows : ¬ ∀ (env : Environment) (channel : JsonValue)
    (serverUri written : Bytes) (s : PeakSpectrum),
    fromSpectrumChannel env channel serverUri = .ok (s, written) →
    InBounds channel s written := by
  intro h
  have hbounds := h (answering 200 []) (lineChannel 1 inlineAttachment) [] [0, 0, 0, 0, 0, 0]
    { dims := [1], xaxis := [7], data := [0, 0, 0, 0] } (by decide +kernel)
  exact absurd hbounds.stored (by decide)

end PeakSpectrum

end PeakAnalyser
