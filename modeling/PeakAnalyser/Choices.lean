import PeakAnalyser.Selections

/-!
# The menus of the enumerated parameters

`readEnum` offers a client the texts among which `PassEnergy`, `ElementSet`, `LensMode`,
`DetectorMode` and `Slit` are chosen. They come from the lists that the servers have
answered with, and the client sends back the number of a text.
-/

namespace PeakAnalyser

set_option autoImplicit false

open Runs

/-- `strings[i]`, `values[i]` and `severities[i]`. -/
structure EnumChoice where
  text : String
  value : Int
  severity : Int
  deriving DecidableEq

/-- What `readEnum` returns. -/
inductive EnumReply where
  | asynSuccess (choices : List EnumChoice)
  | asynError
  deriving DecidableEq

/-- The loop of each branch, over a list of texts and the places that the caller has. -/
def offer (texts : List String) (nElements : Nat) : List EnumChoice :=
  (texts.take nElements).mapIdx fun i text => { text, value := i, severity := 0 }

/-- `sprintf(buf, "%d", (int)passEnergy)`. -/
def passEnergyText (passEnergy : ℚ) : String := toString (truncate passEnergy)

/-- The text and its terminator fit in `buf[5]`. -/
def fitsBuf (text : String) : Bool := text.length < 5

namespace Driver

variable {d d' : Driver}

/-- `none` for a text that is printed past the end of `buf`. -/
def readEnum (d : Driver) (function : IntParam) (nElements : Nat) : Option EnumReply :=
  match function with
  | .passEnergy =>
    let texts := d.passEnergies.map passEnergyText
    if (texts.take nElements).all fitsBuf then some (.asynSuccess (offer texts nElements))
    else none
  | .elementSet => some (.asynSuccess (offer d.elementsets nElements))
  | .lensMode => some (.asynSuccess (offer (d.lensModes.map (·.name)) nElements))
  | .detectorMode => some (.asynSuccess (offer d.detectorModes nElements))
  | .slit => some (.asynSuccess (offer d.slits nElements))
  | _ => some .asynError

end Driver

/-! ### The texts -/

theorem getElem?_offer (texts : List String) (nElements i : Nat) :
    (offer texts nElements)[i]? =
      if i < nElements then texts[i]?.map fun text => { text, value := i, severity := 0 }
      else none := by
  unfold offer
  rw [List.getElem?_mapIdx, List.getElem?_take]
  split
  · rfl
  · rfl

theorem length_offer (texts : List String) (nElements : Nat) :
    (offer texts nElements).length = min nElements texts.length := by
  rw [offer, List.length_mapIdx, List.length_take]

/-- A menu that is given has its texts, numbered. -/
theorem offered_of_offer {texts : List String} {nElements : Nat} {choices : List EnumChoice}
    (h : some (EnumReply.asynSuccess (offer texts nElements)) = some (.asynSuccess choices)) :
    choices.length = min nElements texts.length ∧
      ∀ (i : ℕ) (choice : EnumChoice), choices[i]? = some choice →
        texts[i]? = some choice.text ∧ choice.value = i ∧ choice.severity = 0 := by
  obtain rfl := EnumReply.asynSuccess.inj (Option.some.inj h)
  refine ⟨length_offer texts nElements, fun i choice hchoice => ?_⟩
  rw [getElem?_offer] at hchoice
  split at hchoice
  · obtain ⟨text, htext, rfl⟩ := Option.map_eq_some_iff.mp hchoice
    exact ⟨htext, rfl, rfl⟩
  · cases hchoice

theorem length_repr_negSucc (n : Nat) : (Int.negSucc n).repr.length = (n + 1).repr.length + 1 := by
  rw [Int.repr, String.length_append]
  change 1 + _ = _
  rw [Nat.add_comm]

/-- Four characters are left for the digits and the sign. -/
theorem fitsBuf_toString (z : Int) : fitsBuf (toString z) = true ↔ -1000 < z ∧ z < 10000 := by
  rw [fitsBuf, decide_eq_true_eq, Int.toString_eq_repr]
  cases z with
  | ofNat n =>
    have hdigits : n.repr.length ≤ 4 ↔ n < 10 ^ 4 := Nat.length_repr_le_iff (by omega)
    change n.repr.length < 5 ↔ -1000 < (n : Int) ∧ (n : Int) < 10000
    omega
  | negSucc n =>
    have hdigits : (n + 1).repr.length ≤ 3 ↔ n + 1 < 10 ^ 3 := Nat.length_repr_le_iff (by omega)
    rw [length_repr_negSucc]
    omega

/-- Every printed pass energy fits exactly if none is beyond four characters. -/
theorem all_fitsBuf_iff (passEnergies : List ℚ) (nElements : Nat) :
    ((passEnergies.map passEnergyText).take nElements).all fitsBuf = false ↔
      ∃ passEnergy ∈ passEnergies.take nElements,
        truncate passEnergy ≤ -1000 ∨ 10000 ≤ truncate passEnergy := by
  rw [← List.map_take, List.all_eq_false]
  simp only [List.mem_map, exists_exists_and_eq_and, passEnergyText, fitsBuf_toString, not_and_or,
    not_lt]

namespace Driver

variable {d d' d'' : Driver}

/-- The lists are as they were. -/
structure SameLists (d d' : Driver) : Prop where
  elementsets : d'.elementsets = d.elementsets
  lensModes : d'.lensModes = d.lensModes
  passEnergies : d'.passEnergies = d.passEnergies
  detectorModes : d'.detectorModes = d.detectorModes
  slits : d'.slits = d.slits

namespace SameLists

theorem refl (d : Driver) : SameLists d d := ⟨rfl, rfl, rfl, rfl, rfl⟩

theorem trans (h : SameLists d d') (h' : SameLists d' d'') : SameLists d d'' where
  elementsets := h'.elementsets.trans h.elementsets
  lensModes := h'.lensModes.trans h.lensModes
  passEnergies := h'.passEnergies.trans h.passEnergies
  detectorModes := h'.detectorModes.trans h.detectorModes
  slits := h'.slits.trans h.slits

theorem withParams (d : Driver) (p : Params) : SameLists d (d.withParams p) :=
  ⟨rfl, rfl, rfl, rfl, rfl⟩

theorem readEnum (h : SameLists d d') (function : IntParam) (nElements : Nat) :
    d'.readEnum function nElements = d.readEnum function nElements := by
  unfold Driver.readEnum
  rw [h.elementsets, h.lensModes, h.passEnergies, h.detectorModes, h.slits]

end SameLists

theorem sameLists_setPassEnergy (d : Driver) (passEnergy : ℚ) :
    SameLists d (d.setPassEnergy passEnergy) := by
  unfold setPassEnergy
  split
  · exact ⟨rfl, rfl, rfl, rfl, rfl⟩
  · exact .refl d

theorem sameLists_adjusted (d : Driver) (reply : AdjustReply) :
    SameLists d (d.adjusted reply) := by
  cases reply with
  | raised => exact .refl d
  | adjusted settings wallClockTime => exact .withParams d _

theorem sameLists_setup {reply : AdjustReply} (h : d.setupSpectrumDefinition reply = some d') :
    SameLists d d' := by
  unfold setupSpectrumDefinition at h
  split at h
  · obtain rfl := Option.some.inj h
    exact .refl d
  · obtain ⟨requested, _, h⟩ := Option.bind_eq_some_iff.mp h
    obtain ⟨lens, _, h⟩ := Option.bind_eq_some_iff.mp h
    obtain ⟨elementSet, _, h⟩ := Option.bind_eq_some_iff.mp h
    obtain ⟨detectorMode, _, h⟩ := Option.bind_eq_some_iff.mp h
    obtain ⟨passEnergy, _, h⟩ := Option.bind_eq_some_iff.mp h
    have hpass := sameLists_setPassEnergy d (clamp requested lens.passEnergyRange)
    dsimp only at h
    split at h
    · obtain rfl := Option.some.inj h
      exact hpass.trans ⟨rfl, rfl, rfl, rfl, rfl⟩
    · obtain rfl := Option.some.inj h
      refine hpass.trans (.trans ?_ (sameLists_adjusted _ reply))
      exact ⟨rfl, rfl, rfl, rfl, rfl⟩

/-- Whatever comes of it, the lists are as they were. -/
def KeepsLists (d : Driver) (outcome : Option Driver) : Prop :=
  ∀ d', outcome = some d' → SameLists d d'

theorem keepsLists_some (h : SameLists d d') : KeepsLists d (some d') := by
  rintro _ ⟨⟩
  exact h

theorem keepsLists_setup (h : SameLists d d') (reply : AdjustReply) :
    KeepsLists d (d'.setupSpectrumDefinition reply) :=
  fun _ hsetup => h.trans (sameLists_setup hsetup)

theorem sameLists_limitChannels (d : Driver) (f size : IntParam) (value : Int) :
    SameLists d (d.limitChannels f size value) := by
  unfold limitChannels
  split
  · exact .withParams d _
  · split
    · exact .withParams d _
    · exact .refl d

theorem sameLists_request (d : Driver) (f : FloatParam) (value : ℚ) :
    SameLists d (d.request f value) :=
  ⟨rfl, rfl, rfl, rfl, rfl⟩

theorem keepsLists_writeAcquisitionMode (d : Driver) (oldValue value : Int) (reply : AdjustReply) :
    KeepsLists d (d.writeAcquisitionMode oldValue value reply) := by
  unfold writeAcquisitionMode
  split
  · cases at? d.lensModes (d.int .lensMode) with
    | none =>
      rintro _ ⟨⟩
    | some lens =>
      simp only [Option.bind_eq_bind, Option.bind_some]
      split
      · exact keepsLists_setup (.refl d) reply
      · exact keepsLists_some ((SameLists.withParams d _).trans (.withParams _ _))
  · exact keepsLists_setup (.refl d) reply

theorem keepsLists_writeLensMode (d : Driver) (oldValue value : Int) (reply : AdjustReply) :
    KeepsLists d (d.writeLensMode oldValue value reply) := by
  have hrefused : ∀ text, SameLists d ((d.report text).setIntegerParam .lensMode oldValue) :=
    fun text => (SameLists.withParams d _).trans (.withParams _ _)
  unfold writeLensMode
  split
  · cases at? d.lensModes value with
    | none =>
      rintro _ ⟨⟩
    | some lens =>
      simp only [Option.bind_eq_bind, Option.bind_some]
      split
      · exact keepsLists_some (hrefused _)
      · exact keepsLists_setup ((SameLists.withParams d _).trans (.withParams _ _)) reply
  · exact keepsLists_some (hrefused _)

theorem keepsLists_writeInt32 (base : ADDriver) (d : Driver) (f : IntParam) (value : Int)
    (reply : AdjustReply) : KeepsLists d ((d.writeInt32 base f value reply).map Prod.fst) := by
  have hset : SameLists d (d.setIntegerParam f value) := .withParams d _
  have hagain : ∀ p, SameLists d ((d.setIntegerParam f value).withParams p) :=
    fun p => hset.trans (.withParams _ p)
  cases f
  case analyserAcquisitionMode =>
    simp only [writeInt32, map_fst_none]
    exact fun d' h => hset.trans (keepsLists_writeAcquisitionMode _ _ value reply d' h)
  case lensMode =>
    simp only [writeInt32, map_fst_none]
    exact fun d' h => hset.trans (keepsLists_writeLensMode _ _ value reply d' h)
  case passEnergy =>
    simp only [writeInt32, map_fst_none, writePassEnergy]
    split
    · exact keepsLists_setup hset reply
    · exact keepsLists_some (hset.trans ((SameLists.withParams _ _).trans (.withParams _ _)))
  case energyMode =>
    rintro d' h
    simp only [writeInt32, Option.map_map] at h
    obtain ⟨e, hsetup, rfl⟩ := Option.map_eq_some_iff.mp h
    exact (hset.trans (sameLists_setup hsetup)).trans (.withParams e _)
  case detectorChannels =>
    simp only [writeInt32, map_fst_none, writeDetectorChannels]
    have hlimited := hset.trans (sameLists_limitChannels _ .detectorChannels .adSizeX value)
    split
    · exact keepsLists_some hlimited
    · exact keepsLists_setup hlimited reply
  case detectorSlices =>
    simp only [writeInt32, map_fst_none, writeDetectorSlices]
    exact keepsLists_setup
      (hset.trans (sameLists_limitChannels _ .detectorSlices .adSizeY value)) reply
  case adMinX | adMinY | adSizeX | adSizeY =>
    simp only [writeInt32, map_fst_none]
    exact keepsLists_setup (hagain _) reply
  all_goals
    first
      | exact keepsLists_some hset
      | exact keepsLists_some (hagain _)

theorem keepsLists_writeFloat64 (base : ADDriver) (d : Driver) (f : FloatParam) (value : ℚ)
    (reply : AdjustReply) : KeepsLists d (d.writeFloat64 base f value reply) := by
  have hset : SameLists d (d.setDoubleParam f value) := .withParams d _
  cases f
  case excitationEnergy | workFunction =>
    simp only [writeFloat64]
    split
    · exact keepsLists_setup hset reply
    · exact keepsLists_some hset
  case focalPositionX | focalPositionY | focalPositionZ | adAcquireTime =>
    exact keepsLists_setup hset reply
  case analyserCenterSlice => exact keepsLists_setup (hset.trans (sameLists_request _ _ _)) reply
  case analyserHighEnergy | analyserLowEnergy | analyserEnergyStep | analyserHighAngleY |
      analyserLowAngleY | analyserAngleYStep =>
    simp only [writeFloat64, writeRange]
    split
    · exact keepsLists_setup (hset.trans (sameLists_request _ _ _)) reply
    · exact keepsLists_some
        (hset.trans ((sameLists_request _ _ _).trans (.withParams _ _)))
  case analyserCenterEnergy | analyserCenterAngleY =>
    simp only [writeFloat64, writeCenter]
    refine keepsLists_setup ?_ reply
    split
    · exact hset.trans ((sameLists_request _ _ _).trans
        ((sameLists_request _ _ _).trans (sameLists_request _ _ _)))
    · exact hset.trans (sameLists_request _ _ _)
  all_goals
    first
      | exact keepsLists_some hset
      | exact keepsLists_some (hset.trans (.withParams _ _))

theorem keepsLists_write (base : ADDriver) (d : Driver) (w : Write) :
    KeepsLists d (d.write base w) := by
  cases w with
  | int f value reply => exact keepsLists_writeInt32 base d f value reply
  | float f value reply => exact keepsLists_writeFloat64 base d f value reply

/-! ### The text that is named -/

/-- The menu of the parameter has, under the number that the parameter is set to, this text. -/
def Chosen (d : Driver) (f : IntParam) (text : String) : Prop :=
  0 ≤ d.int f ∧ ∀ nElements choices, d.readEnum f nElements = some (.asynSuccess choices) →
    d.int f < nElements → choices[(d.int f).toNat]? = some ⟨text, d.int f, 0⟩

/-- The definition names what the menus show as chosen. -/
structure Shows (d : Driver) : Prop where
  elementSet : d.Chosen .elementSet d.spectrumDefinition.elementSetName
  lensMode : d.Chosen .lensMode d.spectrumDefinition.lensModeName
  passEnergy : d.Chosen .passEnergy (passEnergyText d.spectrumDefinition.passEnergy)
  detectorMode : ∃ mode, d.spectrumDefinition.acquisitionMode = some mode ∧
    d.Chosen .detectorMode mode

theorem chosen_of_offer {f : IntParam} {texts : List String} {text : String}
    (hoffer : ∀ nElements choices, d.readEnum f nElements = some (.asynSuccess choices) →
      choices = offer texts nElements)
    (htext : at? texts (d.int f) = some text) : d.Chosen f text := by
  obtain ⟨hlow, hhigh⟩ := valid_of_at? htext
  rw [at?, if_pos hlow] at htext
  refine ⟨hlow, fun nElements choices hread hlt => ?_⟩
  have hplace : (d.int f).toNat < nElements := by omega
  have hvalue : (((d.int f).toNat : ℕ) : Int) = d.int f := Int.toNat_of_nonneg hlow
  rw [hoffer nElements choices hread, getElem?_offer, if_pos hplace, htext, Option.map_some,
    hvalue]

theorem at?_map {α β : Type} (g : α → β) {list : List α} {index : Int} {a : α}
    (h : at? list index = some a) : at? (list.map g) index = some (g a) := by
  have hvalid := valid_of_at? h
  rw [at?, if_pos hvalid.1] at h
  rw [at?, if_pos hvalid.1, List.getElem?_map, h]
  rfl

theorem offer_of_readEnum_passEnergy (d : Driver) (nElements : Nat) (choices : List EnumChoice)
    (h : d.readEnum .passEnergy nElements = some (.asynSuccess choices)) :
    choices = offer (d.passEnergies.map passEnergyText) nElements := by
  simp only [readEnum] at h
  split at h
  · exact (EnumReply.asynSuccess.inj (Option.some.inj h)).symm
  · cases h

/-- What has been looked up for a definition is what the menus show. -/
theorem shows_of_found {lens : LensModeSetting} {elementSet detectorMode : String} {passEnergy : ℚ}
    (helementSet : at? d.elementsets (d.int .elementSet) = some elementSet)
    (hlens : at? d.lensModes (d.int .lensMode) = some lens)
    (hpassEnergy : at? d.passEnergies (d.int .passEnergy) = some passEnergy)
    (hdetectorMode : at? d.detectorModes (d.int .detectorMode) = some detectorMode)
    (hnames : d.spectrumDefinition.elementSetName = elementSet ∧
      d.spectrumDefinition.lensModeName = lens.name ∧
      d.spectrumDefinition.passEnergy = passEnergy ∧
      d.spectrumDefinition.acquisitionMode = some detectorMode) : d.Shows := by
  obtain ⟨hnamedSet, hnamedLens, hnamedEnergy, hnamedMode⟩ := hnames
  have hread : ∀ {texts : List String} {nElements : Nat} {choices : List EnumChoice},
      some (EnumReply.asynSuccess (offer texts nElements)) = some (.asynSuccess choices) →
      choices = offer texts nElements :=
    fun h => (EnumReply.asynSuccess.inj (Option.some.inj h)).symm
  refine ⟨?_, ?_, ?_, detectorMode, hnamedMode, ?_⟩
  · rw [hnamedSet]
    exact chosen_of_offer (fun _ _ h => hread h) helementSet
  · rw [hnamedLens]
    exact chosen_of_offer (fun _ _ h => hread h) (at?_map (·.name) hlens)
  · rw [hnamedEnergy]
    exact chosen_of_offer (offer_of_readEnum_passEnergy d) (at?_map passEnergyText hpassEnergy)
  · exact chosen_of_offer (fun _ _ h => hread h) hdetectorMode

/-- A rebuild that stores a definition leaves the menus showing what it names. -/
theorem shows_of_setup {reply : AdjustReply} (h : d.setupSpectrumDefinition reply = some d') :
    d'.spectrumDefinition = d.spectrumDefinition ∨ d'.Shows := by
  obtain ⟨-, rfl⟩ | ⟨lens, elementSet, detectorMode, requested, passEnergy, hselected, halike,
    hindex, hdefinition⟩ := setup_cases h
  · exact Or.inl rfl
  · rw [hselected.rebuilt] at hdefinition
    split at hdefinition
    · exact Or.inl hdefinition
    · right
      rw [Option.getD_some] at hdefinition
      have helementSet := hselected.helementSet
      have hlens := hselected.hlens
      have hpassEnergy := hselected.hpassEnergy
      have hdetectorMode := hselected.hdetectorMode
      rw [← halike.elementsets, ← halike.int .elementSet rfl] at helementSet
      rw [← halike.lensModes, ← halike.int .lensMode rfl] at hlens
      rw [← halike.passEnergies, ← hindex] at hpassEnergy
      rw [← halike.detectorModes, ← halike.int .detectorMode rfl] at hdetectorMode
      refine shows_of_found helementSet hlens hpassEnergy hdetectorMode ?_
      rw [hdefinition]
      exact ⟨rfl, rfl, rfl, rfl⟩

theorem Chosen.spared {f : IntParam} {text : String} (hc : d.Chosen f text)
    (hint : d'.int f = d.int f)
    (hread : ∀ nElements, d'.readEnum f nElements = d.readEnum f nElements) :
    d'.Chosen f text := by
  refine ⟨hint.symm ▸ hc.1, fun nElements choices hreply hlt => ?_⟩
  rw [hint] at hlt ⊢
  rw [hread] at hreply
  exact hc.2 nElements choices hreply hlt

theorem Shows.spared (hs : d.Shows) (h : Spares d d') : d'.Shows := by
  obtain ⟨mode, hmode, hchosen⟩ := hs.detectorMode
  refine ⟨?_, ?_, ?_, mode, h.definition ▸ hmode, ?_⟩
  · rw [h.definition]
    exact hs.elementSet.spared (h.int _ rfl) fun n => by simp only [readEnum, h.elementsets]
  · rw [h.definition]
    exact hs.lensMode.spared (h.int _ rfl) fun n => by simp only [readEnum, h.lensModes]
  · rw [h.definition]
    exact hs.passEnergy.spared (h.int _ rfl) fun n => by simp only [readEnum, h.passEnergies]
  · exact hchosen.spared (h.int _ rfl) fun n => by simp only [readEnum, h.detectorModes]

/-- A write that stores a definition stores one that the menus show. -/
theorem shows_of_write (base : ADDriver) {w : Write} (h : d.write base w = some d') :
    d'.spectrumDefinition = d.spectrumDefinition ∨ d'.Shows := by
  -- a value that is written before it is looked up changes no definition
  have hrebuild : ∀ {p : Driver} {reply : AdjustReply},
      d.write base w = p.setupSpectrumDefinition reply →
      p.spectrumDefinition = d.spectrumDefinition →
      d'.spectrumDefinition = d.spectrumDefinition ∨ d'.Shows := by
    rintro p reply hwrite hp
    rw [h] at hwrite
    have hshows := shows_of_setup hwrite.symm
    rwa [hp] at hshows
  have hkept : ∀ {e : Driver}, d.write base w = some e →
      e.spectrumDefinition = d.spectrumDefinition →
      d'.spectrumDefinition = d.spectrumDefinition := by
    rintro e hwrite he
    rw [h] at hwrite
    rw [Option.some.inj hwrite, he]
  by_cases hselection : w.isSelection = false
  · obtain ⟨prepared, hprepared, hstored | ⟨reply, finish, hfinish, hrebuilt⟩⟩ :=
      settles_write (d := d) base hselection
    · exact Or.inl (hkept hstored hprepared.definition)
    · rw [h] at hrebuilt
      obtain ⟨e, hsetup, rfl⟩ := Option.map_eq_some_iff.mp hrebuilt.symm
      rw [(hfinish e).definition, ← hprepared.definition]
      exact (shows_of_setup hsetup).imp_right fun hs => hs.spared (hfinish e)
  · cases w with
    | float f value reply => exact absurd rfl hselection
    | int f value reply =>
      cases f
      case lensMode =>
        obtain ⟨-, -, text, hwrite⟩ | ⟨-, hwrite⟩ | ⟨lens, -, -, hwrite⟩ :=
          lensMode_cases base d value reply
        · exact Or.inl (hkept hwrite rfl)
        · rw [h] at hwrite
          cases hwrite
        · exact hrebuild hwrite rfl
      case passEnergy =>
        obtain ⟨text, hwrite, -⟩ | ⟨-, hwrite⟩ := passEnergy_cases base d value reply
        · exact Or.inl (hkept hwrite rfl)
        · exact hrebuild hwrite rfl
      case analyserAcquisitionMode =>
        obtain ⟨text, hwrite⟩ | ⟨-, hwrite⟩ | ⟨-, hwrite⟩ :=
          acquisitionMode_cases base d value reply
        · exact Or.inl (hkept hwrite rfl)
        · rw [h] at hwrite
          cases hwrite
        · exact hrebuild hwrite rfl
      case elementSet | detectorMode | analyserWithSlice | analyserWithAngleY =>
        obtain rfl := Option.some.inj h
        exact Or.inl rfl
      all_goals exact absurd rfl hselection

/-! ### After a connection -/

theorem slits_selectListed (d : Driver) (names : List String) (name : String) (f : IntParam)
    (text : Option StringParam) : (d.selectListed names name f text).slits = d.slits := by
  unfold selectListed
  split
  · cases text <;> rfl
  · rfl

theorem connect_slits {info : ServerInfo} {reply : AdjustReply}
    (h : d.connectAnalyser info reply = some d') :
    d'.slits = info.slits.insertionSort (· ≤ ·) := by
  rw [(sameLists_setup h).slits]
  simp only [setIntegerParam, withParams, setSlit, slits_selectListed]

end Driver

/-- The texts that a parameter is chosen from, as the servers have answered with them. -/
def ServerInfo.menu (info : ServerInfo) : IntParam → Option (List String)
  | .passEnergy => some (info.calibratedPassEnergies.map passEnergyText)
  | .elementSet => some info.configurations
  | .lensMode => some ((Driver.listedLensModes info).map (·.name))
  | .detectorMode => some info.acquisitionModes
  | .slit => some (info.slits.insertionSort (· ≤ ·))
  | _ => none

namespace Driver

variable {d d' : Driver}

/-- `readEnum` gives the menus of these answers. -/
structure Offers (info : ServerInfo) (d : Driver) : Prop where
  refused : ∀ f nElements, d.readEnum f nElements = some .asynError ↔ info.menu f = none
  /-- A pass energy of five characters is written beyond the buffer. -/
  overrun : ∀ f nElements, d.readEnum f nElements = none ↔
    f = .passEnergy ∧ ∃ passEnergy ∈ info.calibratedPassEnergies.take nElements,
      truncate passEnergy ≤ -1000 ∨ 10000 ≤ truncate passEnergy
  /-- The first texts, as many as there are places, numbered from zero. -/
  offered : ∀ f nElements choices, d.readEnum f nElements = some (.asynSuccess choices) →
    ∃ texts, info.menu f = some texts ∧ choices.length = min nElements texts.length ∧
      ∀ (i : ℕ) (choice : EnumChoice), choices[i]? = some choice →
        texts[i]? = some choice.text ∧ choice.value = i ∧ choice.severity = 0

/-- The lists are those of the answers, so the menus are. -/
theorem offers_of_lists {info : ServerInfo} (helementsets : d.elementsets = info.configurations)
    (hlensModes : d.lensModes = listedLensModes info)
    (hpassEnergies : d.passEnergies = info.calibratedPassEnergies)
    (hdetectorModes : d.detectorModes = info.acquisitionModes)
    (hslits : d.slits = info.slits.insertionSort (· ≤ ·)) : Offers info d := by
  refine ⟨fun f nElements => ?_, fun f nElements => ?_, fun f nElements choices h => ?_⟩
  · cases f
    case passEnergy =>
      simp only [readEnum, ServerInfo.menu]
      split <;> simp
    all_goals simp [readEnum, ServerInfo.menu]
  · cases f
    case passEnergy =>
      rw [← all_fitsBuf_iff, ← hpassEnergies]
      simp only [readEnum]
      split <;> simp_all
    all_goals simp [readEnum]
  · cases f
    case passEnergy =>
      simp only [readEnum] at h
      split at h
      · exact ⟨_, rfl, hpassEnergies ▸ offered_of_offer h⟩
      · cases h
    case elementSet => exact ⟨_, rfl, helementsets ▸ offered_of_offer h⟩
    case lensMode => exact ⟨_, rfl, hlensModes ▸ offered_of_offer h⟩
    case detectorMode => exact ⟨_, rfl, hdetectorModes ▸ offered_of_offer h⟩
    case slit => exact ⟨_, rfl, hslits ▸ offered_of_offer h⟩
    all_goals cases Option.some.inj h

theorem offers_after_connect {info : ServerInfo} {reply : AdjustReply}
    (h : d.connectAnalyser info reply = some d') : Offers info d' := by
  obtain ⟨d₀, hconnect, helementsets, hlensModes, hpassEnergies, hdetectorModes, -⟩ :=
    connect_selects d info reply
  have hlists := sameLists_setup (hconnect.symm.trans h)
  exact offers_of_lists (hlists.elementsets.trans helementsets) (hlists.lensModes.trans hlensModes)
    (hlists.passEnergies.trans hpassEnergies) (hlists.detectorModes.trans hdetectorModes)
    (connect_slits h)

theorem Offers.sameLists {info : ServerInfo} (ho : Offers info d) (h : SameLists d d') :
    Offers info d' := by
  refine ⟨fun f nElements => ?_, fun f nElements => ?_, fun f nElements choices hread => ?_⟩
  · rw [h.readEnum]
    exact ho.refused f nElements
  · rw [h.readEnum]
    exact ho.overrun f nElements
  · rw [h.readEnum] at hread
    exact ho.offered f nElements choices hread

/-- However the driver is written to once it has connected, its menus are those of the answers,
and the definition that a write stores names what they show as chosen. -/
theorem menus_after_connect {base : ADDriver} {d₀ d₁ : Driver} {info : ServerInfo}
    {reply : AdjustReply} (hconnect : d.connectAnalyser info reply = some d₀)
    (hrun : Run (write base) always d₀ d₁) :
    Offers info d₁ ∧ ∀ w d₂, d₁.write base w = some d₂ →
      d₂.spectrumDefinition = d₁.spectrumDefinition ∨ d₂.Shows := by
  have hstep : ∀ a w b, Offers info a → always a w → a.write base w = some b → Offers info b :=
    fun a w b ho _ hwrite => ho.sameLists (keepsLists_write base a w b hwrite)
  have ho : Offers info d₁ := hrun.invariant hstep (offers_after_connect hconnect)
  exact ⟨ho, fun w d₂ hwrite => shows_of_write base hwrite⟩

theorem menus_after_connect_passEnergy :
    ∃ d₀ d₁, unconnected.connectAnalyser smallAnalyser .raised = some d₀ ∧
      Run (write (.store 8)) always d₀ d₁ ∧
      d₁.readEnum .passEnergy 16 = some (.asynSuccess [⟨"10", 0, 0⟩, ⟨"50", 1, 0⟩]) ∧
      (∃ d₂, d₁.write (.store 8) (.int .passEnergy 0 .raised) = some d₂ ∧
        d₂.spectrumDefinition ≠ d₁.spectrumDefinition) ∧
      Offers smallAnalyser d₁ ∧ ∀ w d₂, d₁.write (.store 8) w = some d₂ →
        d₂.spectrumDefinition = d₁.spectrumDefinition ∨ d₂.Shows := by
  have hreach : (unconnected.connectAnalyser smallAnalyser .raised).any fun d₀ =>
      reaches (write (.store 8)) always d₀ [.int .detectorMode 1 .raised]
        (fun d₁ =>
          decide (d₁.readEnum .passEnergy 16 =
            some (.asynSuccess [⟨"10", 0, 0⟩, ⟨"50", 1, 0⟩])) &&
          (d₁.write (.store 8) (.int .passEnergy 0 .raised)).any fun d₂ =>
            decide (d₂.spectrumDefinition ≠ d₁.spectrumDefinition)) := by
    decide +kernel
  obtain ⟨d₀, hconnect, hwrites⟩ := (Option.any_eq_true _ _).mp hreach
  obtain ⟨d₁, hrun, htest⟩ := run_of_reaches hwrites
  obtain ⟨hmenu, hwrite⟩ := Bool.and_eq_true_iff.mp htest
  obtain ⟨d₂, hd₂, hchanged⟩ := (Option.any_eq_true _ _).mp hwrite
  exact ⟨d₀, d₁, hconnect, hrun, of_decide_eq_true hmenu, ⟨d₂, hd₂, of_decide_eq_true hchanged⟩,
    menus_after_connect hconnect hrun⟩

end Driver

end PeakAnalyser
