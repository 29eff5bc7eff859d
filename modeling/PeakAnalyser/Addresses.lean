import Mathlib.Data.List.DropRight
import PeakAnalyser.Library.Searching
import PeakAnalyser.RequestEncoding

/-!
# Addresses

`URL` takes the address of a server apart, and the constructor of `PeakAPI` completes it with
`/api`. The test for `/api` at the end subtracts 4 from the size; with a size of 3 the difference
is `npos`, which is also what `rfind` returns when there is no `/api`.
-/

namespace PeakAnalyser

set_option autoImplicit false

open Searching

/-! ### `URL` -/

structure URL where
  scheme : Bytes
  host : Bytes
  port : Int
  path : Bytes
  deriving DecidableEq

/-- `URL::URL` -/
def URL.ofText (url : Bytes) : Except StdException URL := do
  let (scheme, address_begin) :=
    match find url (bytes "://") with
    | some pos => (url.take (pos + 3), pos + 3)
    | none => (bytes "http://", 0)
  let (address, path) :=
    match find (url.drop address_begin) (bytes "/") with
    | none => (url.drop address_begin, bytes "/")
    | some pos => ((url.drop address_begin).take pos, url.drop (address_begin + pos))
  match find address (bytes ":") with
  | none => return { scheme, host := address, port := 80, path }
  | some pos =>
    let port ← stoi (address.drop (pos + 1))
    return { scheme, host := address.take pos, port, path }

/-- The number that decimal digits denote. -/
def decimalValue (digits : Bytes) : Nat := digits.foldl (fun n b => n * 10 + (b.toNat - 48)) 0

/-- The parts of an address `<scheme>://<host>[:<port>][/path]`. -/
structure AddressParts where
  scheme : Bytes
  host : Bytes
  port : Option Bytes := none
  path : Option Bytes := none
  hscheme : ¬ bytes "://" <:+: scheme
  hhost : ∀ b ∈ host, b ≠ 58 ∧ b ≠ 47
  hport : ∀ digits ∈ port, digits ≠ [] ∧ (∀ b ∈ digits, 48 ≤ b ∧ b ≤ 57) ∧
    decimalValue digits ≤ 0x7fffffff
  hpath : ∀ text ∈ path, ∃ rest, text = 47 :: rest

namespace AddressParts

variable (parts : AddressParts)

/-- `<host>[:<port>]` -/
def address : Bytes := parts.host ++ parts.port.elim [] fun digits => bytes ":" ++ digits

def text : Bytes := parts.scheme ++ (bytes "://" ++ (parts.address ++ parts.path.getD []))

/-- The parts that are left out count as port 80 and path `/`. -/
def url : URL where
  scheme := parts.scheme ++ bytes "://"
  host := parts.host
  port := parts.port.elim 80 fun digits => decimalValue digits
  path := parts.path.getD (bytes "/")

end AddressParts

theorem bytes_colon : bytes ":" = [58] := by decide +kernel

theorem bytes_slash : bytes "/" = [47] := by decide +kernel

theorem bytes_separator : bytes "://" = [58, 47, 47] := by decide +kernel

theorem unbordered_separator : Unbordered (bytes "://") := by
  rw [bytes_separator]
  unfold Unbordered
  decide

theorem find_byte {b : UInt8} {before : Bytes} (h : b ∉ before) (after : Bytes) :
    find (before ++ b :: after) [b] = some before.length :=
  find_append (unbordered_singleton b) (fun hin => h ((List.singleton_infix_iff b before).mp hin))
    after

theorem find_byte_none {b : UInt8} {s : Bytes} (h : b ∉ s) : find s [b] = none :=
  find_eq_none_iff.mpr fun hin => h ((List.singleton_infix_iff b s).mp hin)

theorem digitValue_decimal {b : UInt8} (h : 48 ≤ b ∧ b ≤ 57) :
    digitValue b = some (b.toNat - 48) := by
  unfold digitValue
  rw [if_pos (by simpa using h)]

theorem leadingNumber_decimal {digits : Bytes} (hne : digits ≠ [])
    (hdigits : ∀ b ∈ digits, 48 ≤ b ∧ b ≤ 57) :
    leadingNumber 10 digits = some (decimalValue digits) := by
  have hall : ∀ b ∈ digits, isDigit 10 b = true := by
    intro b hb
    obtain ⟨hlow, hhigh⟩ := hdigits b hb
    have hhigh : b.toNat ≤ 57 := hhigh
    rw [isDigit, digitValue_decimal ⟨hlow, hhigh⟩, Option.any_some, decide_eq_true_eq]
    omega
  have hfold : ∀ (digits : Bytes) (init : Nat), (∀ b ∈ digits, 48 ≤ b ∧ b ≤ 57) →
      digits.foldl (fun n b => n * 10 + (digitValue b).getD 0) init =
        digits.foldl (fun n b => n * 10 + (b.toNat - 48)) init := by
    intro digits
    induction digits with
    | nil =>
      intro init _
      rfl
    | cons b digits ih =>
      intro init hdigits
      rw [List.foldl_cons, List.foldl_cons, digitValue_decimal (hdigits b List.mem_cons_self),
        ih _ fun c hc => hdigits c (List.mem_cons_of_mem b hc)]
      rfl
  unfold leadingNumber
  rw [List.takeWhile_eq_self_iff.mpr hall]
  cases digits with
  | nil => exact absurd rfl hne
  | cons b digits => exact congrArg some (hfold (b :: digits) 0 hdigits)

/-- `std::stoi` reads decimal digits as the number that they denote. -/
theorem stoi_decimal {digits : Bytes} (hne : digits ≠ [])
    (hdigits : ∀ b ∈ digits, 48 ≤ b ∧ b ≤ 57) (hrange : decimalValue digits ≤ 0x7fffffff) :
    stoi digits = .ok (decimalValue digits : Int) := by
  obtain ⟨b, rest, rfl⟩ := List.exists_cons_of_ne_nil hne
  obtain ⟨hlow, hhigh⟩ := hdigits b List.mem_cons_self
  have hlow : 48 ≤ b.toNat := hlow
  have hspace : isSpace b = false := by
    have h32 : b ≠ 32 := by
      rintro rfl
      exact absurd hlow (by decide)
    have h13 : ¬ b ≤ 13 := by
      intro hle
      have hle : b.toNat ≤ 13 := hle
      omega
    simp [isSpace, h32, h13]
  have hsign : takeSign (b :: rest) = (false, b :: rest) := by
    have hminus : b ≠ 45 := by
      rintro rfl
      exact absurd hlow (by decide)
    have hplus : b ≠ 43 := by
      rintro rfl
      exact absurd hlow (by decide)
    simp [takeSign, hminus, hplus]
  have hstrtol : strtol (b :: rest) = some (decimalValue (b :: rest) : Int) := by
    unfold strtol
    rw [List.dropWhile_cons_of_neg (by rw [hspace]; decide), hsign]
    simp [leadingNumber_decimal hne hdigits]
  have hfits : ¬ ((decimalValue (b :: rest) : Int) < -0x80000000 ∨
      0x7fffffff < (decimalValue (b :: rest) : Int)) := by
    omega
  simp only [stoi, hstrtol]
  rw [if_neg hfits]

namespace AddressParts

variable (parts : AddressParts)

theorem slash_notMem_address : (47 : UInt8) ∉ parts.address := by
  intro hmem
  rcases List.mem_append.mp hmem with hhost | hport
  · exact (parts.hhost 47 hhost).2 rfl
  · cases hcase : parts.port with
    | none =>
      rw [hcase] at hport
      cases hport
    | some digits =>
      rw [hcase, Option.elim_some, bytes_colon] at hport
      rcases List.mem_cons.mp hport with hcolon | hdigit
      · exact absurd hcolon (by decide)
      · exact absurd ((parts.hport digits hcase).2.1 47 hdigit).1 (by decide)

/-- Behind the scheme, the first slash begins the path. -/
theorem find_path :
    find (parts.address ++ parts.path.getD []) (bytes "/") =
      parts.path.map fun _ => parts.address.length := by
  rw [bytes_slash]
  cases hcase : parts.path with
  | none =>
    rw [Option.getD_none, List.append_nil]
    exact find_byte_none parts.slash_notMem_address
  | some text =>
    obtain ⟨rest, rfl⟩ := parts.hpath text hcase
    exact find_byte parts.slash_notMem_address rest

/-- In front of the path, the first colon begins the port. -/
theorem find_port : find parts.address (bytes ":") = parts.port.map fun _ => parts.host.length := by
  have hhost : (58 : UInt8) ∉ parts.host := fun hmem => (parts.hhost 58 hmem).1 rfl
  rw [bytes_colon]
  unfold address
  cases parts.port with
  | none =>
    rw [Option.elim_none, List.append_nil]
    exact find_byte_none hhost
  | some digits =>
    rw [Option.elim_some, bytes_colon]
    exact find_byte hhost digits

/-- `URL` takes every address apart into its parts. -/
theorem ofText_text : URL.ofText parts.text = .ok parts.url := by
  have hscheme : find parts.text (bytes "://") = some parts.scheme.length :=
    find_append unbordered_separator parts.hscheme _
  have htext : parts.text = (parts.scheme ++ bytes "://") ++
      (parts.address ++ parts.path.getD []) := by
    rw [text, List.append_assoc]
  have hlength : parts.scheme.length + 3 = (parts.scheme ++ bytes "://").length := by
    rw [List.length_append, bytes_separator]
    rfl
  have htake : parts.text.take (parts.scheme.length + 3) = parts.scheme ++ bytes "://" := by
    rw [htext, hlength, List.take_left]
  have hdrop : parts.text.drop (parts.scheme.length + 3) =
      parts.address ++ parts.path.getD [] := by
    rw [htext, hlength, List.drop_left]
  have hpath : (match parts.path.map fun _ => parts.address.length with
      | none => (parts.address ++ parts.path.getD [], bytes "/")
      | some pos => ((parts.address ++ parts.path.getD []).take pos,
          parts.text.drop (parts.scheme.length + 3 + pos))) =
      (parts.address, parts.path.getD (bytes "/")) := by
    cases hcase : parts.path with
    | none => simp
    | some path =>
      have hrest : parts.text.drop (parts.scheme.length + 3 + parts.address.length) = path := by
        rw [← List.drop_drop, hdrop, hcase, Option.getD_some, List.drop_left]
      simp [hrest]
  unfold URL.ofText
  simp only [hscheme, htake, hdrop, find_path, hpath, find_port]
  cases hcase : parts.port with
  | none =>
    have haddress : parts.address = parts.host := by
      rw [address, hcase, Option.elim_none, List.append_nil]
    simp only [Option.map_none, haddress, url, hcase, Option.elim_none]
    rfl
  | some digits =>
    obtain ⟨hne, hdigits, hrange⟩ := parts.hport digits hcase
    have haddress : parts.address = parts.host ++ 58 :: digits := by
      rw [address, hcase, Option.elim_some, bytes_colon]
      rfl
    have hport : parts.address.drop (parts.host.length + 1) = digits := by
      rw [haddress, ← List.drop_drop, List.drop_left]
      rfl
    have hhost : parts.address.take parts.host.length = parts.host := by
      rw [haddress, List.take_left]
    simp only [Option.map_some, hport, hhost, stoi_decimal hne hdigits hrange, url, hcase,
      Option.elim_some]
    rfl

/-- An address with all its parts, and with `://` and `:` in its path as well. -/
def withQuery : AddressParts where
  scheme := bytes "ws"
  host := bytes "localhost"
  port := some (bytes "8087")
  path := some (bytes "/api?next=http://a:1/b")
  hscheme := by decide +kernel
  hhost := by decide +kernel
  hport digits h := by
    obtain rfl := Option.some.inj h
    decide +kernel
  hpath text h := by
    obtain rfl := Option.some.inj h
    exact ⟨bytes "api?next=http://a:1/b", by decide +kernel⟩

theorem ofText_withQuery : URL.ofText (bytes "ws://localhost:8087/api?next=http://a:1/b") =
    .ok ⟨bytes "ws://", bytes "localhost", 8087, bytes "/api?next=http://a:1/b"⟩ := by
  have htext : withQuery.text = bytes "ws://localhost:8087/api?next=http://a:1/b" := by decide +kernel
  have hurl : withQuery.url =
      ⟨bytes "ws://", bytes "localhost", 8087, bytes "/api?next=http://a:1/b"⟩ := by
    decide +kernel
  rw [← htext, ← hurl]
  exact ofText_text withQuery

end AddressParts

/-- A path may contain what separates the other parts. -/
example : URL.ofText (bytes "ws://localhost:8087/api?next=http://a:1/b") =
    .ok ⟨bytes "ws://", bytes "localhost", 8087, bytes "/api?next=http://a:1/b"⟩ := by
  decide +kernel

/-! ### The address of a `PeakAPI` -/

/-- `find_last_not_of` -/
def findLastNotOf (s : Bytes) (c : UInt8) : Option Nat :=
  match s.rdropWhile (· = c) with
  | [] => none
  | rest => some (rest.length - 1)

/-- The difference of two sizes, a `size_t`; `none` is its largest value, `npos`. -/
def sizeSub (a b : Nat) : Option Nat :=
  if b ≤ a then some (a - b)
  else if b = a + 1 then none
  else some (a + 0x10000000000000000 - b)

/-- `m_uri` (lines 105 to 114). -/
def m_uri (uri : Bytes) : Bytes :=
  let uri :=
    match findLastNotOf uri 47 with
    | some pos => uri.take (pos + 1)
    | none => uri
  if rfind uri (bytes "/api") ≠ sizeSub uri.length 4 then uri ++ bytes "/api" else uri

/-- The address ends in `/api`, is not changed when it is completed once more, and does not
depend on slashes at the end. -/
structure Completes (uri : Bytes) : Prop where
  ends : bytes "/api" <:+ m_uri uri
  idempotent : m_uri (m_uri uri) = m_uri uri
  slashes : (∃ b ∈ uri, b ≠ 47) → ∀ n, m_uri (uri ++ .replicate n 47) = m_uri uri

theorem bytes_api : bytes "/api" = [47, 97, 112, 105] := by decide +kernel

section Trimmed

variable (uri : Bytes)

/-- The address without the slashes at its end, unless there is nothing else in it. -/
def trimmed : Bytes :=
  if uri.rdropWhile (· = 47) = [] then uri else uri.rdropWhile (· = 47)

theorem m_uri_eq : m_uri uri =
    if rfind (trimmed uri) (bytes "/api") ≠ sizeSub (trimmed uri).length 4 then
      trimmed uri ++ bytes "/api"
    else trimmed uri := by
  have htrimmed : (match findLastNotOf uri 47 with
      | some pos => uri.take (pos + 1)
      | none => uri) = trimmed uri := by
    unfold trimmed findLastNotOf
    cases hrest : uri.rdropWhile (· = 47) with
    | nil => rfl
    | cons b rest =>
      have hprefix : b :: rest <+: uri := hrest ▸ List.rdropWhile_prefix _ uri
      rw [if_neg (List.cons_ne_nil b rest)]
      exact (List.prefix_iff_eq_take.mp hprefix).symm
  unfold m_uri
  rw [htrimmed]

variable {uri}

theorem m_uri_of_ends (h : bytes "/api" <:+ trimmed uri) : m_uri uri = trimmed uri := by
  have hle : 4 ≤ (trimmed uri).length := by
    have hlength := h.length_le
    rwa [bytes_api] at hlength
  have hplace : rfind (trimmed uri) (bytes "/api") = some ((trimmed uri).length - 4) := by
    have hpattern : bytes "/api" ≠ [] := by
      rw [bytes_api]
      decide
    have hend := rfind_end_iff hpattern h.length_le
    rw [bytes_api] at hend h ⊢
    exact hend.mpr h
  rw [m_uri_eq, hplace, sizeSub, if_pos hle]
  exact if_neg (not_not.mpr rfl)

/-- The size less 4 is `npos`, and so is what is found. -/
theorem m_uri_of_three (h : (trimmed uri).length = 3) : m_uri uri = trimmed uri := by
  have hplace : rfind (trimmed uri) (bytes "/api") = none := by
    apply rfind_eq_none
    · rw [bytes_api]
      decide
    · rw [h, bytes_api]
      decide
  rw [m_uri_eq, hplace, h]
  rfl

theorem m_uri_of_not_ends (h : ¬ bytes "/api" <:+ trimmed uri)
    (hlength : (trimmed uri).length ≠ 3) : m_uri uri = trimmed uri ++ bytes "/api" := by
  rw [m_uri_eq]
  apply if_pos
  have hapi : (bytes "/api").length = 4 := by
    rw [bytes_api]
    rfl
  rcases Nat.lt_or_ge (trimmed uri).length 4 with hlt | hle
  · have hplace : rfind (trimmed uri) (bytes "/api") = none :=
      rfind_eq_none (by rw [bytes_api]; decide) (by omega)
    rw [hplace, sizeSub, if_neg (by omega), if_neg (by omega)]
    exact Option.some_ne_none _ |>.symm
  · rw [sizeSub, if_pos hle]
    intro hplace
    apply h
    apply (rfind_end_iff (by rw [bytes_api]; decide) (by omega)).mp
    rw [hapi]
    exact hplace

theorem trimmed_of_ends (h : bytes "/api" <:+ uri) : trimmed uri = uri := by
  obtain ⟨before, rfl⟩ := h
  have happ : before ++ bytes "/api" = (before ++ [47, 97, 112]) ++ [105] := by
    rw [bytes_api, List.append_assoc]
    rfl
  have hkept : (before ++ bytes "/api").rdropWhile (· = 47) = before ++ bytes "/api" := by
    rw [happ]
    exact List.rdropWhile_concat_neg _ _ _ (by decide)
  unfold trimmed
  rw [hkept, ite_self]

theorem trimmed_append_slashes (h : ∃ b ∈ uri, b ≠ 47) (n : Nat) :
    trimmed (uri ++ .replicate n 47) = trimmed uri := by
  have hsame : (uri ++ .replicate n 47).rdropWhile (· = 47) = uri.rdropWhile (· = 47) := by
    induction n with
    | zero => rw [List.replicate_zero, List.append_nil]
    | succ n ih =>
      rw [List.replicate_succ', ← List.append_assoc, List.rdropWhile_concat_pos _ _ _ (by decide)]
      exact ih
  have hne : uri.rdropWhile (· = 47) ≠ [] := by
    intro hnil
    obtain ⟨b, hb, hslash⟩ := h
    exact hslash (by simpa using (List.rdropWhile_eq_nil_iff.mp hnil) b hb)
  unfold trimmed
  rw [hsame, if_neg hne, if_neg hne]

theorem trimmed_length_eq_three_iff : (trimmed uri).length = 3 ↔
    (uri.rdropWhile (· = 47)).length = 3 ∨ uri = bytes "///" := by
  have hslashes : bytes "///" = [47, 47, 47] := by decide +kernel
  rw [hslashes]
  unfold trimmed
  split
  · rename_i hnil
    have hall : ∀ b ∈ uri, b = 47 := by simpa using List.rdropWhile_eq_nil_iff.mp hnil
    have hthree : uri.length = 3 ↔ uri = [47, 47, 47] := by
      rw [List.eq_replicate_of_mem hall, List.length_replicate]
      constructor
      · intro h
        rw [h]
        rfl
      · intro h
        simpa using congrArg List.length h
    rw [hnil, hthree]
    simp
  · rename_i hne
    constructor
    · exact Or.inl
    · rintro (h | rfl)
      · exact h
      · exact absurd (by decide) hne

end Trimmed

/-- The address is completed unless there are three characters in front of the slashes at its end,
or it consists of three slashes. -/
theorem completes_iff (uri : Bytes) : Completes uri ↔
    (uri.rdropWhile (· = 47)).length ≠ 3 ∧ uri ≠ bytes "///" := by
  rw [← not_or, ← trimmed_length_eq_three_iff]
  constructor
  · intro h hthree
    have hends := h.ends.length_le
    rw [m_uri_of_three hthree, hthree, bytes_api] at hends
    exact absurd hends (by decide)
  · intro hlength
    have hslashes : (∃ b ∈ uri, b ≠ 47) → ∀ n, m_uri (uri ++ .replicate n 47) = m_uri uri := by
      intro hsome n
      rw [m_uri_eq, m_uri_eq, trimmed_append_slashes hsome]
    by_cases hends : bytes "/api" <:+ trimmed uri
    · have heq : m_uri uri = trimmed uri := m_uri_of_ends hends
      have htrimmed := trimmed_of_ends hends
      refine ⟨heq ▸ hends, ?_, hslashes⟩
      rw [heq, m_uri_of_ends (by rwa [htrimmed]), htrimmed]
    · have heq : m_uri uri = trimmed uri ++ bytes "/api" := m_uri_of_not_ends hends hlength
      have hnew : bytes "/api" <:+ trimmed uri ++ bytes "/api" := List.suffix_append _ _
      have htrimmed := trimmed_of_ends hnew
      refine ⟨heq ▸ hnew, ?_, hslashes⟩
      rw [heq, m_uri_of_ends (by rwa [htrimmed]), htrimmed]

/-- An address of three characters stays as it is. -/
theorem m_uri_three : m_uri (bytes "ioc") = bytes "ioc" ∧ ¬ Completes (bytes "ioc") := by
  refine ⟨by decide +kernel, ?_⟩
  rw [completes_iff]
  decide +kernel

end PeakAnalyser
