import PeakAnalyser.Construction

/-!
# Which servers are called

A client on another computer than the servers reaches them through the Manager, if the release of
the Manager is 1.3 or later. The release is read out of a text. In this mode every call of
`connectAnalyser`, whatever the servers answer and however it ends, goes to an address below that
of the Manager.
-/

namespace PeakAnalyser

set_option autoImplicit false

open Conversations Searching

/-! ### The release -/

/-- A number as it is printed. -/
def Decimal (digits : Bytes) : Prop := digits ≠ [] ∧ ∀ b ∈ digits, 48 ≤ b ∧ b ≤ 57

/-- `PEAK-major.minor` and what follows. -/
def releaseText (major minor rest : Bytes) : Bytes := bytes "PEAK-" ++ (major ++ 46 :: (minor ++ rest))

theorem Decimal.isDigit {digits : Bytes} (h : Decimal digits) : ∀ b ∈ digits, isDigit 10 b = true := by
  intro b hb
  obtain ⟨hlow, hhigh⟩ := h.2 b hb
  have hhigh : b.toNat ≤ 57 := hhigh
  rw [PeakAnalyser.isDigit, digitValue_decimal ⟨hlow, hhigh⟩, Option.any_some, decide_eq_true_eq]
  omega

/-- `%d` reads a number up to the first byte that is not a digit. -/
theorem scanNumber_decimal {digits rest : Bytes} (h : Decimal digits)
    (hrest : ∀ b ∈ rest.head?, isDigit 10 b = false) :
    scanNumber (digits ++ rest) = some ((decimalValue digits : Int), rest) := by
  have hstop : rest.takeWhile (isDigit 10) = [] ∧ rest.dropWhile (isDigit 10) = rest := by
    cases rest with
    | nil => exact ⟨rfl, rfl⟩
    | cons b rest =>
      have hb : isDigit 10 b = false := hrest b rfl
      simp [hb]
  have hleading : leadingNumber 10 (digits ++ rest) = some (decimalValue digits) := by
    rw [← leadingNumber_decimal h.1 h.2]
    unfold leadingNumber
    rw [List.takeWhile_append_of_pos h.isDigit, hstop.1, List.append_nil,
      List.takeWhile_eq_self_iff.mpr h.isDigit]
  have hdrop : (digits ++ rest).dropWhile (isDigit 10) = rest := by
    rw [List.dropWhile_append_of_pos h.isDigit, hstop.2]
  obtain ⟨b, digits, rfl⟩ := List.exists_cons_of_ne_nil h.1
  obtain ⟨hlow, hhigh⟩ := h.2 b List.mem_cons_self
  have hspace : isSpace b = false := by
    have hb : 48 ≤ b.toNat := hlow
    have h32 : b ≠ 32 := by
      rintro rfl
      exact absurd hb (by decide)
    have h13 : ¬ b ≤ 13 := by
      intro hle
      have hle : b.toNat ≤ 13 := hle
      omega
    simp [isSpace, h32, h13]
  have hsign : takeSign (b :: digits ++ rest) = (false, b :: digits ++ rest) := by
    have hminus : b ≠ 45 := by
      rintro rfl
      exact absurd hlow (by decide)
    have hplus : b ≠ 43 := by
      rintro rfl
      exact absurd hlow (by decide)
    simp [takeSign, hminus, hplus]
  unfold scanNumber
  rw [List.cons_append, List.dropWhile_cons_of_neg (by rw [hspace]; decide), ← List.cons_append,
    hsign]
  simp only [hleading, hdrop, Bool.false_eq_true, if_false]
  rfl

/-- The numbers of a release are read out of its text. -/
theorem scanRelease_releaseText {major minor rest : Bytes} (hmajor : Decimal major)
    (hminor : Decimal minor) (hrest : ∀ b ∈ rest.head?, isDigit 10 b = false) :
    scanRelease (releaseText major minor rest) =
      ((decimalValue major : Int), (decimalValue minor : Int)) := by
  have hfive : (bytes "PEAK-").length = 5 := by decide +kernel
  have hdot : ∀ b ∈ (46 :: (minor ++ rest) : Bytes).head?, isDigit 10 b = false := by
    intro b hb
    obtain rfl := Option.some.inj hb
    decide
  have hprefix : (bytes "PEAK-").isPrefixOf (releaseText major minor rest) = true := by
    rw [List.isPrefixOf_iff_prefix]
    exact List.prefix_append _ _
  have hbehind : (releaseText major minor rest).drop 5 = major ++ 46 :: (minor ++ rest) :=
    List.drop_left' hfive
  unfold scanRelease
  rw [if_pos hprefix, hbehind, scanNumber_decimal hmajor hdot]
  simp only [scanNumber_decimal hminor hrest, Option.map_some, Option.getD_some]

/-! ### The part of the driver that knows the servers -/

/-- What `connectAnalyser` knows of the servers. -/
structure Links where
  host : Bytes
  electronics : Option Bytes
  analyser : Option Bytes
  release : Option Int
  useProxy : Option Bool
  version : Bytes

def PeakDriver.links (d : PeakDriver) : Links where
  host := d.m_ManagerHost
  electronics := d.electronics
  analyser := d.analyser
  release := d.m_PeakRelease
  useProxy := d.m_UseProxy
  version := d.adSDKVersion

/-- The servers are known as `Q` says, and only `allowed` addresses have been called. -/
def Stays (Q : Links → Prop) (allowed : Bytes → Prop) (s : ConnectDialogue) : Prop :=
  Q s.state.links ∧ ∀ entry ∈ s.transcript, allowed entry.1.uri

section Stays

variable {server : Counterpart ServerCall ServerAnswer} {Q : Links → Prop} {allowed : Bytes → Prop}

theorem stays_call {uri : Bytes} (h : allowed uri) (method : String) (params : List JsonValue) :
    Keeps server (Stays Q allowed) (call uri method params) := by
  refine Keeps.bind (triple_ask fun s hs => ⟨hs.1, ?_⟩) fun _ => keeps_take
  intro entry hentry
  rcases List.mem_append.mp hentry with hin | hin
  · exact hs.2 entry hin
  · rw [List.mem_singleton.mp hin]
    exact h

theorem stays_query {uri : Bytes} (h : allowed uri) (property : String) (filter : JsonValue) :
    Keeps server (Stays Q allowed) (query uri property filter) :=
  (stays_call h _ _).bind fun _ => keeps_read

theorem stays_onDriver (g : Driver → Driver) : Keeps server (Stays Q allowed) (onDriver g) :=
  keeps_update fun _ hs => hs

theorem stays_update {g : PeakDriver → PeakDriver} (hg : ∀ d, (g d).links = d.links) :
    Keeps server (Stays Q allowed) (update g : Connecting Unit) :=
  keeps_update fun s hs => ⟨by rw [hg]; exact hs.1, hs.2⟩

theorem openClient_eq {address uri : Bytes} (hopen : openClient address = .ok uri) :
    uri = m_uri address := by
  unfold openClient at hopen
  dsimp only at hopen
  split at hopen
  · split at hopen
    · exact (Except.ok.inj hopen).symm
    · cases hopen
  · exact (Except.ok.inj hopen).symm

theorem stays_askGeometry {camera : Bytes} (hcamera : allowed (m_uri camera)) :
    Keeps server (Stays Q allowed) (askGeometry camera) := by
  unfold askGeometry geometry
  refine Triple.bind (Q := fun uri s => uri = m_uri camera ∧ Stays Q allowed s)
    (triple_take (fun s uri hs hopen => ⟨openClient_eq hopen, hs⟩) fun _ _ hs _ => hs) fun uri => ?_
  refine triple_fact fun huri => ?_
  subst huri
  refine Keeps.bind ((stays_query hcamera _ _).bind fun _ => keeps_read.bind fun _ => keeps_read)
    fun calibration => ?_
  refine keeps_read.bind fun _ => keeps_read.bind fun _ => keeps_read.bind fun _ => ?_
  exact keeps_read.bind fun _ => stays_onDriver _

variable {analyser : Bytes} (h : allowed analyser)

include h

theorem stays_cleanUp :
    Keeps server (Stays Q allowed) (tryCatch (unsubscribeAll analyser) fun _ => pure ()) := by
  refine Keeps.tryCatch ?_ fun _ => keeps_pure
  unfold unsubscribeAll
  split
  · exact keeps_current.bind fun _ => (stays_call h _ _).bind fun _ => keeps_pure
  · exact keeps_pure

theorem stays_askConfiguration : Keeps server (Stays Q allowed) (askConfiguration analyser) := by
  unfold askConfiguration configurations
  refine Keeps.bind ((stays_query h _ _).bind fun _ => keeps_read) fun elementsets => ?_
  refine Keeps.bind (stays_onDriver _) fun _ => (stays_query h _ _).bind fun configuration => ?_
  refine keeps_read.bind fun calibration => keeps_read.bind fun energies => ?_
  exact keeps_read.bind fun passEnergies => Keeps.bind (stays_onDriver _) fun _ => keeps_pure

theorem stays_askLensModes (configuration : JsonValue) :
    Keeps server (Stays Q allowed) (askLensModes analyser configuration) := by
  unfold askLensModes
  refine Keeps.bind (stays_onDriver _) fun _ => keeps_read.bind fun lensModes => ?_
  refine (keeps_forM fun lensMode _ => ?_).bind fun _ => stays_onDriver _
  unfold askLensMode
  refine keeps_read.bind fun enabled => ?_
  split
  · unfold askLimits
    refine keeps_read.bind fun name => (stays_call h _ _).bind fun limits => ?_
    exact keeps_read.bind fun info => stays_onDriver _
  · exact keeps_pure

theorem stays_askDetectorModes : Keeps server (Stays Q allowed) (askDetectorModes analyser) := by
  unfold askDetectorModes
  refine (stays_call h _ _).bind fun answer => keeps_read.bind fun types => ?_
  refine Keeps.bind (stays_onDriver _) fun _ => keeps_read.bind fun found => ?_
  cases found with
  | none => exact keeps_pure
  | some type =>
    unfold addDetectorModes
    refine keeps_read.bind fun values => keeps_forM fun mode _ => ?_
    exact keeps_read.bind fun name => stays_onDriver _

theorem stays_askSettings : Keeps server (Stays Q allowed) (askSettings analyser) := by
  unfold askSettings
  refine (stays_query h _ _).bind fun settings => keeps_read.bind fun _ => ?_
  refine Keeps.bind (stays_onDriver _) fun _ => keeps_read.bind fun _ => ?_
  refine Keeps.bind (stays_onDriver _) fun _ => keeps_read.bind fun _ => ?_
  refine Keeps.bind (stays_onDriver _) fun _ => keeps_read.bind fun _ => ?_
  refine Keeps.bind (stays_onDriver _) fun _ => keeps_read.bind fun _ => ?_
  exact Keeps.bind (stays_onDriver _) fun _ => keeps_pure

theorem stays_askSpectrumInfo (configuration settings : JsonValue) :
    Keeps server (Stays Q allowed) (askSpectrumInfo analyser configuration settings) := by
  unfold askSpectrumInfo
  refine keeps_read.bind fun first => Keeps.bind (stays_onDriver _) fun _ => ?_
  refine (stays_call h _ _).bind fun spectrumInfo => keeps_read.bind fun channels => ?_
  refine keeps_forM fun el _ => ?_
  unfold storeChannel
  refine keeps_read.bind fun _ => keeps_read.bind fun _ => keeps_read.bind fun _ => ?_
  refine keeps_read.bind fun _ => keeps_read.bind fun _ => Keeps.bind (stays_onDriver _) fun _ => ?_
  refine keeps_read.bind fun _ => Keeps.bind (stays_onDriver _) fun _ => ?_
  exact keeps_read.bind fun _ => stays_update fun _ => rfl

theorem stays_askSlits : Keeps server (Stays Q allowed) (askSlits analyser) := by
  unfold askSlits
  refine (stays_query h _ _).bind fun _ => Keeps.bind (stays_onDriver _) fun _ => ?_
  refine keeps_read.bind fun presets => (keeps_forM fun slit _ => ?_).bind fun _ => ?_
  · exact keeps_read.bind fun name => stays_onDriver _
  · refine Keeps.bind (stays_onDriver _) fun _ => (stays_query h _ _).bind fun _ => ?_
    exact keeps_read.bind fun name => stays_onDriver _

theorem stays_adjustDefinition : Keeps server (Stays Q allowed) (adjustDefinition analyser) := by
  unfold adjustDefinition
  refine Keeps.tryCatch ?_ fun e => ?_
  · refine keeps_current.bind fun whole => (stays_call h _ _).bind fun reply s hs => ?_
    rw [on_within]
    have hstored := storeAdjusted_on reply server { s with state := s.state.toDriver }
    dsimp only at hstored
    cases hread : AdjustReply.ofJson (s.state.int .analyserAcquisitionMode) reply with
    | ok adjusted =>
      rw [hread] at hstored
      dsimp only at hstored
      rw [hstored]
      exact hs
    | error e =>
      rw [hread] at hstored
      obtain ⟨p, hend, _⟩ := hstored
      rw [hend]
      exact hs
  · split
    · exact keeps_pure
    · exact keeps_throw

theorem stays_setupDefinition : Keeps server (Stays Q allowed) (setupDefinition analyser) := by
  unfold setupDefinition
  refine keeps_current.bind fun whole => ?_
  split
  · exact keeps_throw
  · refine Keeps.bind (stays_onDriver _) fun _ => ?_
    split
    · exact stays_adjustDefinition h
    · exact keeps_pure

end Stays

theorem stays_storeConfiguration {server : Counterpart ServerCall ServerAnswer} {Q : Links → Prop}
    {allowed : Bytes → Prop} (configuration : JsonValue) :
    Keeps server (Stays Q allowed) (storeConfiguration configuration) := by
  unfold storeConfiguration
  refine keeps_read.bind fun model => Keeps.bind (stays_update fun _ => rfl) fun _ => ?_
  refine keeps_read.bind fun serialNumber => Keeps.bind (stays_update fun _ => rfl) fun _ => ?_
  exact keeps_read.bind fun name => stays_onDriver _

/-- What is asked about the analyser goes to its address and to that of the camera. -/
theorem stays_askAnalyser {server : Counterpart ServerCall ServerAnswer} {Q : Links → Prop}
    {allowed : Bytes → Prop} {analyser camera : Bytes} (h : allowed analyser)
    (hcamera : allowed (m_uri camera)) :
    Keeps server (Stays Q allowed) (askAnalyser analyser camera) := by
  unfold askAnalyser
  refine (stays_askConfiguration h).bind fun configuration => ?_
  refine (stays_askLensModes h configuration).bind fun _ => (stays_askDetectorModes h).bind fun _ => ?_
  refine (stays_storeConfiguration configuration).bind fun _ => ?_
  refine (stays_askSettings h).bind fun settings => ?_
  refine (stays_askSpectrumInfo h configuration settings).bind fun _ => ?_
  exact (stays_askSlits h).bind fun _ => (stays_askGeometry hcamera).bind fun _ =>
    stays_setupDefinition h

/-! ### Addresses below that of the Manager -/

/-- Slashes at the end of `host` do not count. -/
def Below (host uri : Bytes) : Prop := trimmed host <+: uri

/-- The address names neither of the two names of this computer. -/
def Remote (host : Bytes) : Prop :=
  ¬ bytes "127.0.0.1" <:+: host ∧ ¬ bytes "localhost" <:+: host

theorem trimmed_begins (uri : Bytes) : trimmed uri <+: uri := by
  unfold trimmed
  split
  · exact List.prefix_refl uri
  · exact List.rdropWhile_prefix _ uri

theorem trimmed_begins_m_uri (uri : Bytes) : trimmed uri <+: m_uri uri := by
  rw [m_uri_eq]
  split
  · exact List.prefix_append _ _
  · exact List.prefix_refl _

theorem trimmed_concat (uri : Bytes) {b : UInt8} (h : b ≠ 47) : trimmed (uri ++ [b]) = uri ++ [b] := by
  unfold trimmed
  rw [List.rdropWhile_concat_neg _ _ _ (by simpa using h), ite_self]

theorem below_manager (host : Bytes) : Below host (m_uri host) := trimmed_begins_m_uri host

theorem below_path {host path : Bytes} {b : UInt8} (hlast : path.getLast? = some b) (hb : b ≠ 47) :
    Below host (m_uri (host ++ path)) := by
  obtain ⟨start, rfl⟩ := List.getLast?_eq_some_iff.mp hlast
  have hwhole : trimmed (host ++ (start ++ [b])) = host ++ (start ++ [b]) := by
    rw [← List.append_assoc]
    exact trimmed_concat _ hb
  have hprefix := trimmed_begins_m_uri (host ++ (start ++ [b]))
  rw [hwhole] at hprefix
  exact (trimmed_begins host).trans ((List.prefix_append host _).trans hprefix)

/-- The release is 1.3 or later, by its text. -/
def knowsProxy (version : Bytes) : Prop := peakRelease (1, 3) ≤ peakRelease (scanRelease version)

theorem knowsProxy_releaseText {major minor rest : Bytes} (hmajor : Decimal major)
    (hminor : Decimal minor) (hrest : ∀ b ∈ rest.head?, isDigit 10 b = false)
    (hsmall : decimalValue minor < 10000) : knowsProxy (releaseText major minor rest) ↔
      1 < decimalValue major ∨ decimalValue major = 1 ∧ 3 ≤ decimalValue minor := by
  unfold knowsProxy peakRelease
  rw [scanRelease_releaseText hmajor hminor hrest]
  dsimp only
  omega

theorem proxied_iff {d : PeakDriver} {version : Bytes}
    (h : d.m_PeakRelease = some (peakRelease (scanRelease version))) :
    d.proxied = true ↔ Remote d.m_ManagerHost ∧ knowsProxy version := by
  simp only [PeakDriver.proxied, Bool.and_eq_true, decide_eq_true_eq, find_eq_none_iff, h,
    Option.getD_some]
  rfl

/-! ### `connectAnalyser` -/

/-- No server but the Manager is known. -/
structure Links.Fresh (host : Bytes) (l : Links) : Prop where
  manager : l.host = host
  electronics : l.electronics = none
  analyser : l.analyser = none
  useProxy : l.useProxy = none

/-- The release of the Manager is known. -/
structure Links.Released (host : Bytes) (l : Links) : Prop extends Links.Fresh host l where
  release : l.release = some (peakRelease (scanRelease l.version))

/-- The servers are reached through the Manager. -/
structure Links.Through (host : Bytes) (l : Links) : Prop where
  manager : l.host = host
  useProxy : l.useProxy = some true
  remote : Remote host
  knows : knowsProxy l.version
  electronics : ∀ uri ∈ l.electronics, Below host uri
  analyser : ∀ uri ∈ l.analyser, Below host uri

/-- The servers are reached at the addresses that the Manager lists. -/
structure Links.Listed (host : Bytes) (l : Links) : Prop where
  useProxy : l.useProxy = none
  direct : ¬ (Remote host ∧ knowsProxy l.version)

section Connecting

variable {server : Counterpart ServerCall ServerAnswer} {host : Bytes}

theorem askRelease_released : Triple server (Stays (Links.Fresh host) (Below host)) askRelease
    (fun manager s => manager = m_uri host ∧ Stays (Links.Released host) (Below host) s)
    (fun _ => Stays (Links.Fresh host) (Below host)) := by
  unfold askRelease
  refine Triple.bind (Q := fun d s => d.m_ManagerHost = host ∧ Stays (Links.Fresh host) (Below host) s)
    (triple_current fun s hs => ⟨hs.1.manager, hs⟩) fun d => triple_fact fun hhost => ?_
  refine Triple.bind (Q := fun manager s => manager = m_uri host ∧
      Stays (Links.Fresh host) (Below host) s)
    (triple_take (fun s manager hs hopen => ⟨hhost ▸ openClient_eq hopen, hs⟩) fun _ _ hs _ => hs)
    fun manager => triple_fact fun hmanager => ?_
  subst hmanager
  refine Triple.bind (stays_query (below_manager host) _ _) fun serverInfo => ?_
  refine Triple.bind keeps_read fun release => Triple.bind keeps_take fun _ => ?_
  refine Triple.bind (Q := fun _ => Stays (Links.Released host) (Below host))
    (triple_update fun s hs => ⟨⟨⟨hs.1.manager, hs.1.electronics, hs.1.analyser, hs.1.useProxy⟩, rfl⟩,
      hs.2⟩) fun _ => ?_
  refine Triple.bind (Q := fun _ => Stays (Links.Released host) (Below host))
    (keeps_read.weaken (fun _ hs => hs) (fun _ _ hs => hs) fun _ _ hs => ⟨hs.1.toFresh, hs.2⟩)
    fun version => ?_
  refine Triple.bind (Q := fun _ => Stays (Links.Released host) (Below host))
    (triple_update fun s hs => ⟨⟨⟨hs.1.manager, hs.1.electronics, hs.1.analyser, hs.1.useProxy⟩,
      hs.1.release⟩, hs.2⟩) fun _ => ?_
  exact triple_pure fun s hs => ⟨rfl, hs⟩

/-- In one mode the addresses are below that of the Manager, in the other they are as listed. -/
theorem findAddresses_modes (manager : Bytes) (hmanager : manager = m_uri host) :
    Triple server (Stays (Links.Released host) (Below host)) (findAddresses manager)
      (fun addresses s =>
        (Stays (Links.Through host) (Below host) s ∧ Below host (m_uri addresses.electronics) ∧
          Below host (m_uri addresses.analyser) ∧ Below host (m_uri addresses.camera)) ∨
        Stays (Links.Listed host) (fun _ => True) s)
      (fun _ s => s.state.links.useProxy = none) := by
  subst hmanager
  unfold findAddresses
  refine Triple.bind (Q := fun d s => d = s.state ∧ Stays (Links.Released host) (Below host) s)
    (triple_current fun s hs => ⟨rfl, hs⟩) fun d => ?_
  by_cases hproxied : d.proxied = true
  · rw [if_pos hproxied]
    unfold proxyAddresses
    refine Triple.bind (Q := fun _ => Stays (Links.Through host) (Below host))
      (triple_update fun s hs => ?_) fun _ => ?_
    · obtain ⟨rfl, hlinks, hcalls⟩ := hs
      obtain ⟨hremote, hknows⟩ := (proxied_iff hlinks.release).mp hproxied
      have hmanager : s.state.m_ManagerHost = host := hlinks.manager
      have helectronics : s.state.electronics = none := hlinks.electronics
      have hanalyser : s.state.analyser = none := hlinks.analyser
      refine ⟨⟨hmanager, rfl, hmanager ▸ hremote, hknows, ?_, ?_⟩, hcalls⟩
      · intro uri huri
        exact absurd (helectronics.symm.trans huri) (by simp)
      · intro uri huri
        exact absurd (hanalyser.symm.trans huri) (by simp)
    · refine Triple.bind (Q := fun d s => d.m_ManagerHost = host ∧
          Stays (Links.Through host) (Below host) s)
        (triple_current fun s hs => ⟨hs.1.manager, hs⟩) fun d => triple_fact fun hhost => ?_
      refine triple_pure fun s hs => .inl ⟨hs, ?_, ?_, ?_⟩
      · rw [hhost]
        exact below_path (b := 115) (by decide +kernel) (by decide)
      · rw [hhost]
        exact below_path (b := 114) (by decide +kernel) (by decide)
      · rw [hhost]
        exact below_path (b := 97) (by decide +kernel) (by decide)
  · rw [if_neg hproxied]
    have hlisted : Triple server (Stays (Links.Listed host) fun _ => True)
        (listedAddresses (m_uri host)) (fun _ => Stays (Links.Listed host) fun _ => True)
        (fun _ => Stays (Links.Listed host) fun _ => True) := by
      unfold listedAddresses runningServers
      exact Keeps.bind ((stays_query trivial _ _).bind fun _ => keeps_read) fun _ => keeps_read
    refine hlisted.weaken ?_ (fun _ _ hs => .inr hs) fun _ _ hs => hs.1.useProxy
    intro s hs
    obtain ⟨rfl, hlinks, _⟩ := hs
    refine ⟨⟨hlinks.useProxy, fun hboth => hproxied ?_⟩, fun _ _ => trivial⟩
    have hmanager : s.state.m_ManagerHost = host := hlinks.manager
    refine (proxied_iff hlinks.release).mpr ⟨hmanager ▸ hboth.1, hboth.2⟩

theorem openServers_through {addresses : ServerAddresses}
    (helectronics : Below host (m_uri addresses.electronics))
    (hanalyser : Below host (m_uri addresses.analyser)) :
    Triple server (Stays (Links.Through host) (Below host)) (openServers addresses)
      (fun analyser s => Below host analyser ∧ Stays (Links.Through host) (Below host) s)
      (fun _ => Stays (Links.Through host) (Below host)) := by
  unfold openServers
  refine Triple.bind (Q := fun uri s => Below host uri ∧ Stays (Links.Through host) (Below host) s)
    (triple_take (fun s uri hs hopen => ⟨openClient_eq hopen ▸ helectronics, hs⟩)
      fun _ _ hs _ => hs) fun electronics => triple_fact fun hbelow => ?_
  refine Triple.bind (Q := fun _ => Stays (Links.Through host) (Below host))
    (triple_update fun s hs => ⟨⟨hs.1.manager, hs.1.useProxy, hs.1.remote, hs.1.knows, ?_,
      hs.1.analyser⟩, hs.2⟩) fun _ => ?_
  · intro uri huri
    obtain rfl := Option.some.inj huri
    exact hbelow
  refine Triple.bind (Q := fun uri s => Below host uri ∧ Stays (Links.Through host) (Below host) s)
    (triple_take (fun s uri hs hopen => ⟨openClient_eq hopen ▸ hanalyser, hs⟩)
      fun _ _ hs _ => hs) fun analyser => triple_fact fun hbelow => ?_
  refine Triple.bind (Q := fun _ => Stays (Links.Through host) (Below host))
    (triple_update fun s hs => ⟨⟨hs.1.manager, hs.1.useProxy, hs.1.remote, hs.1.knows,
      hs.1.electronics, ?_⟩, hs.2⟩) fun _ => ?_
  · intro uri huri
    obtain rfl := Option.some.inj huri
    exact hbelow
  refine Triple.bind (stays_cleanUp hbelow) fun _ => ?_
  exact triple_pure fun s hs => ⟨hbelow, hs⟩

theorem openServers_listed (addresses : ServerAddresses) :
    Keeps server (Stays (Links.Listed host) fun _ => True) (openServers addresses) := by
  have hupdate : ∀ g : PeakDriver → PeakDriver,
      (∀ d, (g d).links.useProxy = d.links.useProxy ∧ (g d).links.version = d.links.version) →
      Keeps server (Stays (Links.Listed host) fun _ => True) (update g : Connecting Unit) := by
    intro g hg
    refine keeps_update fun s hs => ⟨⟨?_, ?_⟩, fun _ _ => trivial⟩
    · rw [(hg s.state).1]
      exact hs.1.useProxy
    · rw [(hg s.state).2]
      exact hs.1.direct
  unfold openServers
  refine keeps_take.bind fun electronics => Keeps.bind (hupdate _ fun _ => ⟨rfl, rfl⟩) fun _ => ?_
  refine keeps_take.bind fun analyser => Keeps.bind (hupdate _ fun _ => ⟨rfl, rfl⟩) fun _ => ?_
  exact Keeps.bind (stays_cleanUp trivial) fun _ => keeps_pure

/-- After the addresses have been found, the mode is settled. -/
theorem askServers_modes {addresses : ServerAddresses} :
    Triple server (fun s =>
        (Stays (Links.Through host) (Below host) s ∧ Below host (m_uri addresses.electronics) ∧
          Below host (m_uri addresses.analyser) ∧ Below host (m_uri addresses.camera)) ∨
        Stays (Links.Listed host) (fun _ => True) s)
      (do
        take addresses.check
        let analyser ← openServers addresses
        askAnalyser analyser addresses.camera)
      (fun _ s => Stays (Links.Through host) (Below host) s ∨
        Stays (Links.Listed host) (fun _ => True) s)
      (fun _ s => Stays (Links.Through host) (Below host) s ∨
        Stays (Links.Listed host) (fun _ => True) s) := by
  intro s hs
  rcases hs with ⟨hs, helectronics, hanalyser, hcamera⟩ | hs
  · have hthrough : Triple server (Stays (Links.Through host) (Below host))
        (do
          take addresses.check
          let analyser ← openServers addresses
          askAnalyser analyser addresses.camera)
        (fun _ => Stays (Links.Through host) (Below host))
        (fun _ => Stays (Links.Through host) (Below host)) := by
      refine Triple.bind keeps_take fun _ => ?_
      refine Triple.bind (openServers_through helectronics hanalyser) fun analyser => ?_
      exact triple_fact fun hbelow => stays_askAnalyser hbelow hcamera
    exact hthrough.weaken (fun _ hs => hs) (fun _ _ hs => .inl hs) (fun _ _ hs => .inl hs) s hs
  · have hlisted : Keeps server (Stays (Links.Listed host) fun _ => True)
        (do
          take addresses.check
          let analyser ← openServers addresses
          askAnalyser analyser addresses.camera) := by
      refine Keeps.bind keeps_take fun _ => Keeps.bind (openServers_listed addresses) fun _ => ?_
      exact stays_askAnalyser trivial trivial
    exact hlisted.weaken (fun _ hs => hs) (fun _ _ hs => .inr hs) (fun _ _ hs => .inr hs) s hs

/-- The mode that `connectAnalyser` has come to, or that it has come to none. -/
theorem connectAnalyser_modes :
    Triple server (Stays (Links.Fresh host) (Below host)) connectAnalyser
      (fun _ s => Stays (Links.Through host) (Below host) s ∨
        Stays (Links.Listed host) (fun _ => True) s)
      (fun _ s => Stays (Links.Through host) (Below host) s ∨ s.state.links.useProxy = none) := by
  unfold connectAnalyser
  refine Triple.bind (askRelease_released.weaken (fun _ hs => hs) (fun _ _ hs => hs)
    fun _ _ hs => .inr hs.1.useProxy) fun manager => triple_fact fun hmanager => ?_
  refine Triple.bind ((findAddresses_modes manager hmanager).weaken (fun _ hs => hs)
    (fun _ _ hs => hs) fun _ _ hs => .inr hs) fun addresses => ?_
  exact askServers_modes.weaken (fun _ hs => hs) (fun _ _ hs => hs)
    fun _ _ hs => hs.imp_right fun hlisted => hlisted.1.useProxy

end Connecting

/-- Line 671: the server from which the attachments of live images are fetched; an empty address
stands for the one in the notification. -/
def PeakDriver.liveServer (d : PeakDriver) : Option Bytes :=
  d.m_UseProxy.map fun useProxy => if useProxy then d.m_ManagerHost else []

/-- A client uses the Manager as a proxy exactly if it runs on another computer and the release is
1.3 or later; a release that an `int` does not hold is not stored. Then nothing that
`connectAnalyser` calls, whatever the servers answer and however it ends, and no client that it
leaves has an address elsewhere, and live images come from the Manager as well. -/
theorem connectAnalyser_routed {server : Counterpart ServerCall ServerAnswer} {base : ADDriver}
    {host own : Bytes} {result : Except ConnectException Unit} {s : ConnectDialogue}
    {major minor rest : Bytes}
    (hend : connectAnalyser.on server { state := .initial base host own } = (result, s))
    (hrelease : s.state.adSDKVersion = releaseText major minor rest) (hmajor : Decimal major)
    (hminor : Decimal minor) (hrest : ∀ b ∈ rest.head?, isDigit 10 b = false)
    (hsmall : decimalValue minor < 10000) :
    (s.state.m_UseProxy = some true →
      (∀ entry ∈ s.transcript, Below host entry.1.uri) ∧
        (∀ uri ∈ s.state.electronics, Below host uri) ∧
        (∀ uri ∈ s.state.analyser, Below host uri) ∧ s.state.liveServer = some host ∧
        Remote host ∧
          (1 < decimalValue major ∨ decimalValue major = 1 ∧ 3 ≤ decimalValue minor)) ∧
      (result.isOk = true → (s.state.m_UseProxy = some true ↔ Remote host ∧
        (1 < decimalValue major ∨ decimalValue major = 1 ∧ 3 ≤ decimalValue minor))) := by
  have hfresh : Stays (Links.Fresh host) (Below host)
      ({ state := .initial base host own } : ConnectDialogue) :=
    ⟨⟨rfl, rfl, rfl, rfl⟩, fun _ hentry => absurd hentry List.not_mem_nil⟩
  have hknows : knowsProxy s.state.links.version ↔
      1 < decimalValue major ∨ decimalValue major = 1 ∧ 3 ≤ decimalValue minor := by
    have hversion : s.state.links.version = releaseText major minor rest := hrelease
    rw [hversion]
    exact knowsProxy_releaseText hmajor hminor hrest hsmall
  have hproxy : s.state.links.useProxy = s.state.m_UseProxy := rfl
  have hthrough : Stays (Links.Through host) (Below host) s →
      (∀ entry ∈ s.transcript, Below host entry.1.uri) ∧
        (∀ uri ∈ s.state.electronics, Below host uri) ∧
        (∀ uri ∈ s.state.analyser, Below host uri) ∧ s.state.liveServer = some host ∧
        Remote host ∧
          (1 < decimalValue major ∨ decimalValue major = 1 ∧ 3 ≤ decimalValue minor) := by
    intro hs
    have huse : s.state.m_UseProxy = some true := hs.1.useProxy
    have hmanager : s.state.m_ManagerHost = host := hs.1.manager
    refine ⟨hs.2, hs.1.electronics, hs.1.analyser, ?_, hs.1.remote, hknows.mp hs.1.knows⟩
    rw [PeakDriver.liveServer, huse, hmanager]
    rfl
  cases result with
  | ok u =>
    rcases connectAnalyser_modes.ends hfresh hend with hs | hs
    · refine ⟨fun _ => hthrough hs, fun _ => ⟨fun _ => (hthrough hs).2.2.2.2, fun _ => ?_⟩⟩
      exact hs.1.useProxy
    · refine ⟨fun huse => ?_, fun _ => ⟨fun huse => ?_, fun hboth => ?_⟩⟩
      · exact absurd (hs.1.useProxy.symm.trans huse) (by simp)
      · exact absurd (hs.1.useProxy.symm.trans huse) (by simp)
      · exact absurd ⟨hboth.1, hknows.mpr hboth.2⟩ hs.1.direct
  | error e =>
    refine ⟨fun huse => ?_, fun hok => Bool.noConfusion hok⟩
    rcases connectAnalyser_modes.fails hfresh hend with hs | hs
    · exact hthrough hs
    · exact absurd (hs.symm.trans huse) (by simp)

/-- The servers of `bench` on another computer and with a later release. -/
def remoteBench : Counterpart ServerCall ServerAnswer := fun transcript c =>
  if c.method = "Query" then
    .ok (.object (("ServerInfo", .object [("ReleaseVersion", .ofText "PEAK-1.3.0"),
      ("Version", .ofText "7")]) :: benchMembers))
  else bench transcript c

theorem connectAnalyser_routed_remote : ∃ s : ConnectDialogue, s.transcript ≠ [] ∧
    (∀ entry ∈ s.transcript, Below (bytes "ws://10.0.0.5:8088") entry.1.uri) ∧
      s.state.liveServer = some (bytes "ws://10.0.0.5:8088") := by
  obtain ⟨outcome, hend⟩ : ∃ outcome, connectAnalyser.on remoteBench
      { state := .initial (.store 8) (bytes "ws://10.0.0.5:8088") [] } = outcome := ⟨_, rfl⟩
  have hends : outcome.2.state.adSDKVersion = releaseText (bytes "1") (bytes "3") (bytes ".0") ∧
      outcome.2.state.m_UseProxy = some true ∧ outcome.2.transcript.length ≠ 0 := by
    rw [← hend]
    decide +kernel
  obtain ⟨result, s⟩ := outcome
  have hdigits : Decimal (bytes "1") ∧ Decimal (bytes "3") := by
    constructor
    · exact ⟨by decide +kernel, by decide +kernel⟩
    · exact ⟨by decide +kernel, by decide +kernel⟩
  obtain ⟨hversion, huse, hcalls⟩ := hends
  obtain ⟨hbelow, _, _, hlive, _⟩ := (connectAnalyser_routed hend hversion hdigits.1 hdigits.2
    (by decide +kernel) (by decide +kernel)).1 huse
  exact ⟨s, fun hnone => hcalls (congrArg List.length hnone), hbelow, hlive⟩

end PeakAnalyser
