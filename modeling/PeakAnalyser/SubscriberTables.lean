import Mathlib.Data.List.Pairwise
import PeakAnalyser.MethodNames

/-!
# `m_subscribers` and the tables of the transports

A subscription is in both tables or in neither, but for the moment between the two statements
that change them. The method names and the guids of the server are taken to be distinct. A
call that raises comes before both statements. A message whose method has no entry makes the
table of a WebSocket client grow by an empty callback, and nothing else does.
-/

namespace PeakAnalyser

set_option autoImplicit false

open Runs

/-- Between the statements that change the two tables. -/
def ClientPlace.halfway {C : Type} : ClientPlace C → Bool
  | .recording _ _ | .erasing _ _ => true
  | _ => false

/-- The guids and the methods of two subscriptions are not the same. -/
def Subscription.Differ {Cid C : Type} (r r' : Subscription Cid C) : Prop :=
  r.guid ≠ r'.guid ∧ r.method ≠ r'.method

instance {Cid C : Type} : Std.Symm (@Subscription.Differ Cid C) where
  symm _ _ h := ⟨h.1.symm, h.2.symm⟩

namespace PeakClients

variable {Cid C : Type} [DecidableEq Cid]

section Statement

variable (s : PeakClients Cid C)

def Listed (r : Subscription Cid C) : Prop := (r.guid, r.method) ∈ (s.client r.client).m_subscribers

def Registered (r : Subscription Cid C) : Prop :=
  s.table r.client r.method = some (some r.callback)

/-- One of the tables has been changed, and the other one is next. -/
def Halfway (r : Subscription Cid C) : Prop :=
  (s.client r.client).place = .recording r.method r.guid ∨
    (s.client r.client).place = .erasing r.guid r.method

/-- The method names and the guids of the server are new. -/
def Distinct : ClientsLabel Cid C → Prop
  | .subscribeToObservable _ observable _ =>
    NamingCall.method s.ids (.observable observable) ∉ s.names
  | .subscribeToState _ _ => NamingCall.method s.ids .state ∉ s.names
  | .answer c guid =>
    match (s.client c).place with
    | .subscribing _ _ => ∀ r ∈ s.given, r.guid ≠ guid
    | _ => True
  | _ => True

/-- The two tables agree. -/
structure Agrees : Prop where
  defined : s.undefined = false
  /-- A guid is listed exactly while its method has its callback. -/
  agree : ∀ r ∈ s.given, ¬ s.Halfway r → (s.Listed r ↔ s.Registered r)
  listed : ∀ c, ∀ it ∈ (s.client c).m_subscribers,
    ∃ callback, (⟨c, it.1, it.2, callback⟩ : Subscription Cid C) ∈ s.given
  registered : ∀ c method callback, s.table c method = some (some callback) →
    ∃ r ∈ s.given, s.Shares c r.client ∧ r.method = method ∧ r.callback = callback ∧
      (s.Listed r ∨ s.Halfway r)
  distinct : s.given.Pairwise Subscription.Differ
  /-- Any other entry of a table is empty, and of a method that came without one. -/
  empty : ∀ c method, s.table c method = some none →
    s.scheme c = .webSocket ∧ (c, method) ∈ s.unmatched

/-- No table changes. -/
def Unchanged (s t : PeakClients Cid C) : Prop :=
  ∀ c, (t.client c).m_subscribers = (s.client c).m_subscribers ∧ t.table c = s.table c

end Statement

variable {parse : Bytes → Option JsonValue} {raises : C → JsonValue → Bool}
  {s t : PeakClients Cid C} {c : Cid}

/-! ### The invariant -/

/-- What the place of a client says about its subscriptions. -/
def PlaceSound (s : PeakClients Cid C) (c : Cid) : ClientPlace C → Prop
  | .idle => True
  | .subscribing method _ => ∀ r ∈ s.given, r.method ≠ method
  | .registering method callback guid =>
    (⟨c, guid, method, callback⟩ : Subscription Cid C) ∈ s.given ∧
      (guid, method) ∉ (s.client c).m_subscribers
  | .recording method guid =>
    (∃ callback, (⟨c, guid, method, callback⟩ : Subscription Cid C) ∈ s.given) ∧
      (guid, method) ∉ (s.client c).m_subscribers
  | .unsubscribing guid method | .removing guid method | .erasing guid method =>
    (guid, method) ∈ (s.client c).m_subscribers

structure Sound (s : PeakClients Cid C) : Prop where
  once : s.NamedOnce
  defined : s.undefined = false
  known : ∀ r ∈ s.given, r.method ∈ s.names
  distinct : s.given.Pairwise Subscription.Differ
  place : ∀ c, s.PlaceSound c (s.client c).place
  listed : ∀ c, ∀ it ∈ (s.client c).m_subscribers,
    ∃ callback, (⟨c, it.1, it.2, callback⟩ : Subscription Cid C) ∈ s.given
  phase : ∀ r ∈ s.given, s.Registered r ↔
    (s.Listed r ∧ (s.client r.client).place ≠ .erasing r.guid r.method) ∨
      (s.client r.client).place = .recording r.method r.guid
  registered : ∀ c method callback, s.table c method = some (some callback) →
    ∃ r ∈ s.given, s.Shares c r.client ∧ r.method = method ∧ r.callback = callback
  empty : ∀ c method, s.table c method = some none →
    s.scheme c = .webSocket ∧ (c, method) ∈ s.unmatched

omit [DecidableEq Cid] in
theorem sound_start (scheme : Cid → Transport) : Sound (start (C := C) scheme) where
  once := namedOnce_start scheme
  defined := rfl
  known _ h := absurd h List.not_mem_nil
  distinct := List.Pairwise.nil
  place _ := trivial
  listed _ _ h := absurd h List.not_mem_nil
  phase _ h := absurd h List.not_mem_nil
  registered c method callback h := by
    unfold table start at h
    split at h <;> cases h
  empty c method h := by
    unfold table start at h
    split at h <;> cases h

namespace Sound

omit [DecidableEq Cid] in
theorem agrees (hs : s.Sound) : s.Agrees where
  defined := hs.defined
  agree r hr hhalfway := by
    rw [hs.phase r hr]
    have hrecording : (s.client r.client).place ≠ .recording r.method r.guid :=
      fun h => hhalfway (Or.inl h)
    have herasing : (s.client r.client).place ≠ .erasing r.guid r.method :=
      fun h => hhalfway (Or.inr h)
    constructor
    · intro hlisted
      exact Or.inl ⟨hlisted, herasing⟩
    · rintro (⟨hlisted, _⟩ | h)
      · exact hlisted
      · exact absurd h hrecording
  listed := hs.listed
  registered c method callback h := by
    obtain ⟨r, hr, hshares, rfl, rfl⟩ := hs.registered c method callback h
    refine ⟨r, hr, hshares, rfl, rfl, ?_⟩
    have hregistered : s.Registered r := by
      unfold Registered
      rw [hshares.table_eq]
      exact h
    rcases (hs.phase r hr).mp hregistered with ⟨hlisted, _⟩ | hrecording
    · exact Or.inl hlisted
    · exact Or.inr (Or.inl hrecording)
  distinct := hs.distinct
  empty := hs.empty

omit [DecidableEq Cid] in
/-- A subscription is known by its guid, and by its method. -/
theorem eq_of_same (hs : s.Sound) {r r' : Subscription Cid C} (hr : r ∈ s.given) (hr' : r' ∈ s.given)
    (h : r.guid = r'.guid ∨ r.method = r'.method) : r = r' := by
  by_contra hne
  have hdistinct := hs.distinct.forall hr hr' hne
  rcases h with h | h
  · exact hdistinct.1 h
  · exact hdistinct.2 h

omit [DecidableEq Cid] in
theorem placeSound_congr {place : ClientPlace C} (hgiven : t.given = s.given)
    (hsubscribers : (t.client c).m_subscribers = (s.client c).m_subscribers)
    (h : s.PlaceSound c place) : t.PlaceSound c place := by
  cases place with
  | idle => exact trivial
  | _ => simpa only [PlaceSound, hgiven, hsubscribers] using h

omit [DecidableEq Cid] in
/-- A step that changes neither `m_subscribers` nor, but for empty ones, callbacks. -/
theorem of_same (hs : s.Sound) (honce : t.NamedOnce) (hdefined : t.undefined = false)
    (hscheme : t.scheme = s.scheme) (hgiven : t.given = s.given)
    (hnames : ∀ n ∈ s.names, n ∈ t.names) (hunmatched : ∀ u ∈ s.unmatched, u ∈ t.unmatched)
    (hsubscribers : ∀ d, (t.client d).m_subscribers = (s.client d).m_subscribers)
    (htable : ∀ d m, t.table d m = s.table d m ∨
      s.scheme d = .webSocket ∧ (d, m) ∈ t.unmatched ∧ s.table d m = none ∧ t.table d m = some none)
    (hplace : ∀ d, t.PlaceSound d (t.client d).place)
    (hhalfway : ∀ d, (t.client d).place = (s.client d).place ∨
      (t.client d).place.halfway = false ∧ (s.client d).place.halfway = false) : t.Sound := by
  have hcallback : ∀ d m callback, t.table d m = some (some callback) ↔
      s.table d m = some (some callback) := by
    intro d m callback
    rcases htable d m with hsame | ⟨_, _, hnone, hempty⟩
    · rw [hsame]
    · rw [hnone, hempty]
      simp
  refine ⟨honce, hdefined, ?_, ?_, hplace, ?_, ?_, ?_, ?_⟩
  · intro r hr
    exact hnames _ (hs.known r (hgiven ▸ hr))
  · rw [hgiven]
    exact hs.distinct
  · intro d it hit
    rw [hsubscribers] at hit
    rw [hgiven]
    exact hs.listed d it hit
  · intro r hr
    have hphase := hs.phase r (hgiven ▸ hr)
    unfold Registered Listed at *
    rw [hcallback, hsubscribers, hphase]
    rcases hhalfway r.client with hsame | ⟨hnew, hold⟩
    · rw [hsame]
    · have hnone : ∀ place : ClientPlace C, place.halfway = false →
          (place ≠ .erasing r.guid r.method) ∧ place ≠ .recording r.method r.guid := by
        intro place h
        constructor <;> rintro rfl <;> cases h
      simp only [hnone _ hnew, hnone _ hold, ne_eq, not_false_eq_true]
  · intro d m callback h
    obtain ⟨r, hr, hshares, hsame⟩ := hs.registered d m callback ((hcallback d m callback).mp h)
    refine ⟨r, hgiven ▸ hr, ?_, hsame⟩
    unfold Shares at *
    rwa [hscheme]
  · intro d m h
    rcases htable d m with hsame | ⟨hws, hmem, _⟩
    · obtain ⟨hws, hmem⟩ := hs.empty d m (hsame ▸ h)
      exact ⟨hscheme ▸ hws, hunmatched _ hmem⟩
    · exact ⟨hscheme ▸ hws, hmem⟩

/-- The client goes on between places that are not halfway. -/
theorem goto (hs : s.Sound) {place : ClientPlace C} (honce : (s.goto c place).NamedOnce)
    (hold : (s.client c).place.halfway = false) (hnew : place.halfway = false)
    (hplace : s.PlaceSound c place) : (s.goto c place).Sound := by
  refine hs.of_same honce hs.defined rfl rfl (fun _ h => h) (fun _ h => h)
    (fun d => subscribers_goto place d) (fun d m => Or.inl (by rw [table_goto])) ?_ ?_
  · intro d
    refine placeSound_congr (s := s) (t := s.goto c place) rfl (subscribers_goto place d) ?_
    rw [place_goto]
    split
    · rename_i heq
      rw [heq]
      exact hplace
    · exact hs.place d
  · intro d
    rw [place_goto]
    split
    · rename_i heq
      rw [heq]
      exact Or.inr ⟨hnew, hold⟩
    · exact Or.inl rfl

omit [DecidableEq Cid] in
/-- A new subscription changes nothing for a place that does not wait for its method. -/
theorem placeSound_give {r : Subscription Cid C} {place : ClientPlace C} (h : s.PlaceSound c place)
    (hmethod : ∀ method callback, place = .subscribing method callback → r.method ≠ method) :
    (s.give r).PlaceSound c place := by
  cases place with
  | idle => exact trivial
  | subscribing method callback =>
    intro r' hr'
    rcases List.mem_append.mp hr' with hold | hnew
    · exact h r' hold
    · obtain rfl := List.mem_singleton.mp hnew
      exact hmethod method callback rfl
  | registering => exact ⟨List.mem_append_left _ h.1, h.2⟩
  | recording =>
    obtain ⟨⟨callback, hr⟩, hunlisted⟩ := h
    exact ⟨⟨callback, List.mem_append_left _ hr⟩, hunlisted⟩
  | unsubscribing | removing | erasing => exact h

/-- The server has given a subscription with a new guid. -/
theorem answered (hs : s.Sound) {guid method : Bytes} {callback : C}
    (honce : ((s.give ⟨c, guid, method, callback⟩).goto c
      (.registering method callback guid)).NamedOnce)
    (hplace : (s.client c).place = .subscribing method callback)
    (hfresh : ∀ r ∈ s.given, r.guid ≠ guid) :
    ((s.give ⟨c, guid, method, callback⟩).goto c (.registering method callback guid)).Sound := by
  have hawaits : (s.client c).place.awaits method := by
    rw [hplace]
    exact rfl
  have hmethod : ∀ r ∈ s.given, r.method ≠ method := by
    have hsound := hs.place c
    rw [hplace] at hsound
    exact hsound
  have hunlisted : ∀ d m, (guid, m) ∉ (s.client d).m_subscribers := by
    intro d m h
    obtain ⟨_, hr⟩ := hs.listed d _ h
    exact hfresh _ hr rfl
  have hgiven : ∀ r ∈ (s.give ⟨c, guid, method, callback⟩).given,
      r ∈ s.given ∨ r = ⟨c, guid, method, callback⟩ := by
    intro r hr
    simpa [give] using hr
  have hkept : ∀ r ∈ s.given, r ∈ (s.give ⟨c, guid, method, callback⟩).given :=
    fun r hr => List.mem_append_left _ hr
  refine ⟨honce, hs.defined, ?_, ?_, ?_, ?_, ?_, ?_, ?_⟩
  · intro r hr
    rcases hgiven r hr with hold | rfl
    · exact hs.known r hold
    · exact hs.once.known c method hawaits
  · refine List.pairwise_append.mpr ⟨hs.distinct, List.pairwise_singleton _ _, ?_⟩
    intro r hr r' hr'
    obtain rfl := List.mem_singleton.mp hr'
    exact ⟨hfresh r hr, hmethod r hr⟩
  · intro d
    rw [place_goto]
    split
    · rename_i heq
      rw [heq]
      refine ⟨List.mem_append_right _ List.mem_cons_self, ?_⟩
      rw [subscribers_goto]
      exact hunlisted c method
    · rename_i hne
      refine placeSound_congr (s := s.give _) rfl (subscribers_goto _ d) (placeSound_give (hs.place d) ?_)
      intro name other hd hname
      refine hne (hs.once.sole d c method ?_ hawaits)
      have hsubscribing : (s.client d).place = .subscribing name other := hd
      rw [hsubscribing]
      exact hname.symm
  · intro d it hit
    rw [subscribers_goto] at hit
    obtain ⟨other, hr⟩ := hs.listed d it hit
    exact ⟨other, hkept _ hr⟩
  · intro r hr
    unfold Registered Listed
    rw [table_goto, subscribers_goto, place_goto]
    rcases hgiven r hr with hold | rfl
    · have hphase := hs.phase r hold
      unfold Registered Listed at hphase
      split
      · rename_i heq
        rw [heq, hplace] at hphase
        rw [heq, table_give, client_give]
        simpa using hphase
      · exact hphase
    · dsimp only
      rw [if_pos rfl]
      constructor
      · intro h
        exact absurd h (hs.once.free c c method callback hawaits)
      · rintro (⟨hlisted, _⟩ | h)
        · exact absurd hlisted (hunlisted c method)
        · cases h
  · intro d m other h
    rw [table_goto] at h
    obtain ⟨r, hr, hsame⟩ := hs.registered d m other h
    exact ⟨r, hkept r hr, hsame⟩
  · intro d m h
    rw [table_goto] at h
    exact hs.empty d m h

omit [DecidableEq Cid] in
/-- The subscription that the client is at work on. -/
theorem ready_at (hs : s.Sound) {place : ClientPlace C} (hplace : (s.client c).place = place)
    (hne : place ≠ .idle) : s.scheme c = .http → s.notificationServer.isSome = true :=
  fun hhttp => hs.once.ready c hhttp (Or.inl (hplace ▸ hne))

/-- The places of the other clients say what they said. -/
theorem placeSound_goto (hs : s.Sound) {u : PeakClients Cid C} {place : ClientPlace C}
    (hgiven : u.given = s.given)
    (hsubscribers : ∀ d, d ≠ c → (u.client d).m_subscribers = (s.client d).m_subscribers)
    (hplaces : ∀ d, (u.client d).place = (s.client d).place)
    (hplace : (u.goto c place).PlaceSound c place) (d : Cid) :
    (u.goto c place).PlaceSound d ((u.goto c place).client d).place := by
  rw [place_goto]
  split
  · rename_i heq
    rw [heq]
    exact hplace
  · rename_i hne
    rw [hplaces]
    refine placeSound_congr (s := s) (t := u.goto c place) hgiven ?_ (hs.place d)
    rw [subscribers_goto, hsubscribers d hne]

/-- The entry of one subscription is changed in the tables; `place` is where its client goes. -/
theorem retabled (hs : s.Sound) (r₀ : Subscription Cid C) (entry : Option C)
    {u : PeakClients Cid C} {place : ClientPlace C} (honce : (u.goto r₀.client place).NamedOnce)
    (hsame : SamePlaces s u) (hdefined : u.undefined = false) (hgiven : r₀ ∈ s.given)
    (htable : ∀ d m, u.table d m =
      if s.Shares r₀.client d ∧ m = r₀.method then entry.map some else s.table d m)
    (hentry : entry = none ∨ entry = some r₀.callback)
    (hphase : entry = some r₀.callback ↔
      (s.Listed r₀ ∧ place ≠ .erasing r₀.guid r₀.method) ∨ place = .recording r₀.method r₀.guid)
    (hother : ∀ g m, m ≠ r₀.method → ∀ p ∈ [place, (s.client r₀.client).place],
      p ≠ .erasing g m ∧ p ≠ .recording m g)
    (hplace : s.PlaceSound r₀.client place) : (u.goto r₀.client place).Sound := by
  refine ⟨honce, hdefined, ?_, ?_, ?_, ?_, ?_, ?_, ?_⟩
  · intro r hr
    exact hsame.names ▸ hs.known r (hsame.given ▸ hr)
  · exact hsame.given ▸ hs.distinct
  · apply hs.placeSound_goto hsame.given (fun d _ => hsame.subscribers d) hsame.place
    refine placeSound_congr (s := s) hsame.given ?_ hplace
    rw [subscribers_goto, hsame.subscribers]
  · intro d it hit
    rw [subscribers_goto, hsame.subscribers] at hit
    obtain ⟨other, hr⟩ := hs.listed d it hit
    exact ⟨other, hsame.given ▸ hr⟩
  · intro r hr
    have hr : r ∈ s.given := hsame.given ▸ hr
    have hold := hs.phase r hr
    unfold Registered Listed at *
    rw [table_goto, subscribers_goto, place_goto, htable, hsame.subscribers, hsame.place]
    by_cases hmethod : r.method = r₀.method
    · obtain rfl := hs.eq_of_same hr hgiven (Or.inr hmethod)
      have hself : s.Shares r.client r.client ∧ r.method = r.method := ⟨⟨rfl, fun _ => rfl⟩, rfl⟩
      rw [if_pos hself, if_pos rfl, ← hphase, Option.map_eq_some_iff]
      simp
    · rw [if_neg fun h => hmethod h.2, hold]
      split
      · rename_i heq
        have hnew := hother r.guid r.method hmethod place (by simp)
        have hwas := hother r.guid r.method hmethod (s.client r₀.client).place (by simp)
        rw [heq]
        simp only [ne_eq, hnew.1, hnew.2, hwas.1, hwas.2, not_false_eq_true]
      · exact Iff.rfl
  · intro d m other h
    rw [table_goto, htable] at h
    split at h
    · rename_i hat
      obtain ⟨callback, hcallback, hsome⟩ := Option.map_eq_some_iff.mp h
      obtain rfl := Option.some.inj hsome
      rcases hentry with hnone | hown
      · rw [hnone] at hcallback
        cases hcallback
      · obtain rfl := Option.some.inj (hcallback.symm.trans hown)
        exact ⟨r₀, hsame.given ▸ hgiven, hat.1.symm.congr hsame.scheme, hat.2.symm, rfl⟩
    · obtain ⟨r, hr, hshares, hmatch⟩ := hs.registered d m other h
      exact ⟨r, hsame.given ▸ hr, hshares.congr hsame.scheme, hmatch⟩
  · intro d m h
    rw [table_goto, htable] at h
    split at h
    · obtain ⟨_, _, hnone⟩ := Option.map_eq_some_iff.mp h
      cases hnone
    · obtain ⟨hws, hmem⟩ := hs.empty d m h
      exact ⟨hsame.scheme ▸ hws, hsame.unmatched ▸ hmem⟩

/-- The callback is in the table, and the guid is next. -/
theorem registered_moved (hs : s.Sound) {guid method : Bytes} {callback : C}
    (honce : ((s.register c method callback).goto c (.recording method guid)).NamedOnce)
    (hplace : (s.client c).place = .registering method callback guid) :
    ((s.register c method callback).goto c (.recording method guid)).Sound := by
  have hserver := hs.ready_at hplace (by simp)
  obtain ⟨hgiven, hunlisted⟩ : (⟨c, guid, method, callback⟩ : Subscription Cid C) ∈ s.given ∧
      (guid, method) ∉ (s.client c).m_subscribers := by
    have hsound := hs.place c
    rwa [hplace] at hsound
  refine hs.retabled ⟨c, guid, method, callback⟩ (some callback) honce
    (samePlaces_onTransport c _ _) ((onTransport_undefined hserver _ _).trans hs.defined) hgiven
    (table_register hserver method callback) (Or.inr rfl) ?_ ?_ ⟨⟨callback, hgiven⟩, hunlisted⟩
  · simp
  · intro g m hne p hp
    simp only [hplace, List.mem_cons, List.not_mem_nil, or_false] at hp
    rcases hp with rfl | rfl <;> simp [Ne.symm hne]

/-- The callback is gone, and the guid is next. -/
theorem removed (hs : s.Sound) {guid method : Bytes}
    (honce : ((s.remove c method).goto c (.erasing guid method)).NamedOnce)
    (hplace : (s.client c).place = .removing guid method) :
    ((s.remove c method).goto c (.erasing guid method)).Sound := by
  have hserver := hs.ready_at hplace (by simp)
  have hlisted : (guid, method) ∈ (s.client c).m_subscribers := by
    have hsound := hs.place c
    rwa [hplace] at hsound
  obtain ⟨callback, hgiven⟩ := hs.listed c _ hlisted
  refine hs.retabled ⟨c, guid, method, callback⟩ none honce (samePlaces_onTransport c _ _)
    ((onTransport_undefined hserver _ _).trans hs.defined) hgiven (table_remove hserver method)
    (Or.inl rfl) ?_ ?_ hlisted
  · simp
  · intro g m hne p hp
    simp only [hplace, List.mem_cons, List.not_mem_nil, or_false] at hp
    rcases hp with rfl | rfl <;> simp [Ne.symm hne]

/-- The list of one client is changed at one guid, which ends its work on a subscription. -/
theorem relisted (hs : s.Sound) {guid method : Bytes} {callback : C} {m : SubscriberMap}
    (honce : ((s.setSubscribers c m).goto c .idle).NamedOnce)
    (hgiven : (⟨c, guid, method, callback⟩ : Subscription Cid C) ∈ s.given)
    (hplace : (s.client c).place = .recording method guid ∨
      (s.client c).place = .erasing guid method)
    (hown : (guid, method) ∈ m ↔ (s.client c).place = .recording method guid)
    (hkept : ∀ it, it.1 ≠ guid → (it ∈ m ↔ it ∈ (s.client c).m_subscribers))
    (hlisted : ∀ it ∈ m, it = (guid, method) ∨ it ∈ (s.client c).m_subscribers) :
    ((s.setSubscribers c m).goto c .idle).Sound := by
  refine ⟨honce, hs.defined, hs.known, hs.distinct, ?_, ?_, ?_, ?_, ?_⟩
  · refine hs.placeSound_goto (u := s.setSubscribers c _) rfl ?_ (place_setSubscribers _) trivial
    intro d hne
    rw [subscribers_setSubscribers, if_neg hne]
  · intro d it hit
    rw [subscribers_goto, subscribers_setSubscribers] at hit
    split at hit
    · rename_i heq
      subst heq
      rcases hlisted it hit with rfl | hold
      · exact ⟨callback, hgiven⟩
      · exact hs.listed d it hold
    · exact hs.listed d it hit
  · intro r hr
    have hphase := hs.phase r hr
    unfold Registered Listed at *
    rw [table_goto, table_setSubscribers, subscribers_goto, subscribers_setSubscribers, place_goto,
      place_setSubscribers, hphase]
    split
    · rename_i heq
      by_cases hguid : r.guid = guid
      · obtain rfl := hs.eq_of_same hr hgiven (Or.inl hguid)
        rw [hown]
        rcases hplace with hrecording | herasing
        · simp [hrecording]
        · simp [herasing]
      · rw [hkept _ hguid, heq]
        rcases hplace with hrecording | herasing
        · simp [hrecording, Ne.symm hguid]
        · simp [herasing, Ne.symm hguid]
    · exact Iff.rfl
  · intro d name other h
    rw [table_goto, table_setSubscribers] at h
    exact hs.registered d name other h
  · intro d name h
    rw [table_goto, table_setSubscribers] at h
    exact hs.empty d name h

/-- The guid is listed, too. -/
theorem recorded (hs : s.Sound) {guid method : Bytes}
    (honce : ((s.setSubscribers c ((s.client c).m_subscribers.emplace guid method)).goto c
      .idle).NamedOnce)
    (hplace : (s.client c).place = .recording method guid) :
    ((s.setSubscribers c ((s.client c).m_subscribers.emplace guid method)).goto c .idle).Sound := by
  obtain ⟨⟨callback, hgiven⟩, hunlisted⟩ :
      (∃ callback, (⟨c, guid, method, callback⟩ : Subscription Cid C) ∈ s.given) ∧
        (guid, method) ∉ (s.client c).m_subscribers := by
    have hsound := hs.place c
    rwa [hplace] at hsound
  have hfree : ∀ it ∈ (s.client c).m_subscribers, it.1 ≠ guid := by
    intro it hit hguid
    obtain ⟨other, hr⟩ := hs.listed c it hit
    have hsame := hs.eq_of_same hr hgiven (Or.inl hguid)
    rw [Subscription.mk.injEq] at hsame
    obtain ⟨_, h₁, h₂, _⟩ := hsame
    exact hunlisted (h₁ ▸ h₂ ▸ hit)
  refine hs.relisted honce hgiven (Or.inl hplace) ?_ ?_ ?_
  · simp [SubscriberMap.mem_emplace hfree, hplace]
  · intro it hne
    rw [SubscriberMap.mem_emplace hfree]
    constructor
    · rintro (rfl | hold)
      · exact absurd rfl hne
      · exact hold
    · exact Or.inr
  · intro it hit
    exact (SubscriberMap.mem_emplace hfree).mp hit

/-- The guid is gone, too. -/
theorem erased (hs : s.Sound) {guid method : Bytes}
    (honce : ((s.setSubscribers c ((s.client c).m_subscribers.erase guid)).goto c .idle).NamedOnce)
    (hplace : (s.client c).place = .erasing guid method) :
    ((s.setSubscribers c ((s.client c).m_subscribers.erase guid)).goto c .idle).Sound := by
  have hlisted : (guid, method) ∈ (s.client c).m_subscribers := by
    have hsound := hs.place c
    rwa [hplace] at hsound
  obtain ⟨callback, hgiven⟩ := hs.listed c _ hlisted
  refine hs.relisted honce hgiven (Or.inr hplace) ?_ ?_ ?_
  · simp [SubscriberMap.mem_erase, hplace]
  · intro it hne
    rw [SubscriberMap.mem_erase]
    exact ⟨fun h => h.1, fun h => ⟨h, hne⟩⟩
  · intro it hit
    exact Or.inr (SubscriberMap.mem_erase.mp hit).1

end Sound

/-! ### The steps -/

omit [DecidableEq Cid] in
theorem fresh_of_distinct {l : ClientsLabel Cid C} (h : s.Distinct l) :
    ∀ call, l.naming? = some call → call.method s.ids ∉ s.names := by
  intro call hcall
  cases l <;> cases hcall <;> exact h

theorem sound_moves {l : ClientsLabel Cid C} (hs : s.Sound) (hdistinct : s.Distinct l)
    (hconnected : s.connected l) (h : Moves parse raises s l t) : t.Sound := by
  have honce := namedOnce_moves hs.once (fresh_of_distinct hdistinct) h
  cases h with
  | crashed _ hnot => exact absurd hconnected hnot
  | @named l call c callback hcall hplace hserver =>
    have hnew := fresh_of_distinct hdistinct call hcall
    refine hs.of_same honce hs.defined rfl rfl (fun _ h => List.mem_append_left _ h) (fun _ h => h)
      (fun d => subscribers_goto _ d) (fun d m => Or.inl (by rw [table_goto]; rfl)) ?_ ?_
    · apply hs.placeSound_goto (u := s.naming call) rfl (fun _ _ => rfl) (fun _ => rfl)
      intro r hr hmethod
      exact hnew (hmethod ▸ hs.known r hr)
    · intro d
      rw [place_goto]
      split
      · rename_i heq
        rw [heq, hplace]
        exact Or.inr ⟨rfl, rfl⟩
      · exact Or.inl rfl
  | passed => exact hs
  | asked hplace hlisted => exact hs.goto honce (by rw [hplace]; rfl) rfl hlisted
  | answered hplace =>
    dsimp only [Distinct] at hdistinct
    rw [hplace] at hdistinct
    exact hs.answered honce hplace hdistinct
  | @released c g guid method hplace =>
    have hlisted := hs.place c
    rw [hplace] at hlisted
    exact hs.goto honce (by rw [hplace]; rfl) rfl hlisted
  | @raised c hplace =>
    refine hs.goto honce ?_ rfl trivial
    rcases hplace with ⟨_, _, hplace⟩ | ⟨_, _, hplace⟩ <;>
    · rw [hplace]
      rfl
  | registered hplace => exact hs.registered_moved honce hplace
  | recorded hplace => exact hs.recorded honce hplace
  | removed hplace => exact hs.removed honce hplace
  | erased hplace => exact hs.erased honce hplace
  | connected =>
    refine hs.of_same honce hs.defined rfl rfl (fun _ h => h) (fun _ h => h) (fun _ => rfl)
      (fun d m => Or.inl (by rw [table_connect])) ?_ (fun _ => Or.inl rfl)
    exact fun d => Sound.placeSound_congr (s := s) rfl rfl (hs.place d)
  | @messaged c payload hscheme =>
    have hsame : SamePlaces (s.note parse c payload) _ := samePlaces_setRpc c
      ((s.client c).rpc.handle parse raises (.payload payload)).1
    refine hs.of_same honce hs.defined rfl rfl (fun _ h => h) ?_ hsame.subscribers ?_ ?_
      fun d => Or.inl (hsame.place d)
    · exact fun _ h => List.mem_append_left _ h
    · intro d m
      rcases table_message parse raises hscheme payload d m with
        hkept | ⟨rfl, hunmatched, hnone, hempty⟩
      · exact Or.inl hkept
      · exact Or.inr ⟨hscheme, hunmatched, hnone, hempty⟩
    · intro d
      refine Sound.placeSound_congr (s := s) rfl (hsame.subscribers d) ?_
      exact hsame.place d ▸ hs.place d
  | posted hserver =>
    refine hs.of_same honce hs.defined rfl rfl (fun _ h => h) (fun _ h => h) (fun _ => rfl)
      (fun d m => Or.inl (by rw [table_post parse raises hserver])) ?_ (fun _ => Or.inl rfl)
    exact fun d => Sound.placeSound_congr (s := s) rfl rfl (hs.place d)

theorem sound_run {scheme : Cid → Transport}
    (hrun : Run (step parse raises) (fun s l => s.Distinct l ∧ s.connected l) (start scheme) s) :
    s.Sound := by
  refine hrun.invariant (fun a l b ha hok hstep => ?_) (sound_start scheme)
  exact sound_moves ha hok.1 hok.2 (moves_of_step hstep)

/-- What a step of the process does to the tables: an exception changes none of them, and so does
what comes before the end of a call; a client alone changes its `m_subscribers`, and what it takes
away is one subscription. -/
structure LeavesIntact (parse : Bytes → Option JsonValue) (raises : C → JsonValue → Bool)
    (s : PeakClients Cid C) : Prop where
  raised : ∀ c t, s.step parse raises (.raise c) = some t →
    s.Unchanged t ∧ (t.client c).place = .idle ∧
      ∀ guid method, (s.client c).place = .unsubscribing guid method →
        (guid, method) ∈ (t.client c).m_subscribers
  begun : ∀ l t, (l.naming? ≠ none ∨ ∃ c guid, l = .unsubscribe c guid ∨ l = .answer c guid) →
    s.step parse raises l = some t → s.Unchanged t
  own : ∀ c l t, s.step parse raises l = some t → l ≠ .proceed c →
    (t.client c).m_subscribers = (s.client c).m_subscribers
  intact : ∀ l t r, s.step parse raises l = some t → r ∈ s.given → s.Listed r → s.Registered r →
    t.Listed r ∧ t.Registered r ∨
      l = .proceed r.client ∧ (s.client r.client).place = .removing r.guid r.method

theorem unchanged_goto (place : ClientPlace C) : s.Unchanged (s.goto c place) :=
  fun d => ⟨subscribers_goto place d, table_goto place d⟩

theorem raised_moves (hs : s.Sound) (h : Moves parse raises s (.raise c) t) :
    s.Unchanged t ∧ (t.client c).place = .idle ∧
      ∀ guid method, (s.client c).place = .unsubscribing guid method →
        (guid, method) ∈ (t.client c).m_subscribers := by
  generalize hl : ClientsLabel.raise c = l at h
  cases h with
  | crashed hcall | named hcall =>
    subst hl
    cases hcall
  | raised hplace =>
    obtain rfl := ClientsLabel.raise.inj hl
    refine ⟨unchanged_goto .idle, ?_, ?_⟩
    · rw [place_goto, if_pos rfl]
    · intro guid method hplace
      rw [subscribers_goto]
      have hlisted := hs.place c
      rw [hplace] at hlisted
      exact hlisted
  | _ => cases hl

theorem begun_moves {l : ClientsLabel Cid C}
    (hl : l.naming? ≠ none ∨ ∃ c guid, l = .unsubscribe c guid ∨ l = .answer c guid)
    (h : Moves parse raises s l t) : s.Unchanged t := by
  cases h with
  | crashed => exact fun _ => ⟨rfl, rfl⟩
  | named => exact unchanged_goto (s := s.naming _) _
  | passed => exact fun _ => ⟨rfl, rfl⟩
  | asked | released => exact unchanged_goto _
  | answered => exact unchanged_goto (s := s.give _) _
  | _ =>
    rcases hl with hnone | ⟨_, _, h | h⟩
    · exact absurd rfl hnone
    · cases h
    · cases h

theorem own_moves {l : ClientsLabel Cid C} (hl : l ≠ .proceed c) (h : Moves parse raises s l t) :
    (t.client c).m_subscribers = (s.client c).m_subscribers := by
  cases h with
  | crashed | passed | connected | posted => rfl
  | named | asked | answered | released | raised => exact subscribers_goto _ c
  | registered =>
    exact (subscribers_goto _ c).trans ((samePlaces_onTransport _ _ _).subscribers c)
  | removed => exact (subscribers_goto _ c).trans ((samePlaces_onTransport _ _ _).subscribers c)
  | recorded | erased =>
    have hne : ¬ c = _ := fun h => hl (congrArg ClientsLabel.proceed h.symm)
    rw [subscribers_goto, subscribers_setSubscribers, if_neg hne]
  | @messaged d payload hscheme =>
    exact (samePlaces_setRpc (s := s.note parse d payload) d _).subscribers c

theorem intact_moves (hs : s.Sound) {l : ClientsLabel Cid C} {r : Subscription Cid C}
    (hr : r ∈ s.given) (hlisted : s.Listed r) (hregistered : s.Registered r)
    (h : Moves parse raises s l t) :
    t.Listed r ∧ t.Registered r ∨
      l = .proceed r.client ∧ (s.client r.client).place = .removing r.guid r.method := by
  have hgoto : ∀ (c : Cid) (place : ClientPlace C), (s.goto c place).Listed r ∧
      (s.goto c place).Registered r := by
    intro c place
    unfold Listed Registered
    rw [subscribers_goto, table_goto]
    exact ⟨hlisted, hregistered⟩
  cases h with
  | crashed | passed => exact Or.inl ⟨hlisted, hregistered⟩
  | named | answered | asked | released | raised => exact Or.inl (hgoto _ _)
  | @registered c guid method callback hplace =>
    left
    have hsame : SamePlaces s (s.register c method callback) := samePlaces_onTransport c _ _
    have hmethod : r.method ≠ method := by
      intro hmethod
      have hsound := hs.place c
      rw [hplace] at hsound
      obtain rfl := hs.eq_of_same hr hsound.1 (Or.inr hmethod)
      exact hsound.2 hlisted
    unfold Listed Registered at *
    rw [subscribers_goto, table_goto, hsame.subscribers, table_register (hs.ready_at hplace (by simp)),
      if_neg fun h => hmethod h.2]
    exact ⟨hlisted, hregistered⟩
  | @recorded c guid method hplace =>
    left
    unfold Listed Registered at *
    rw [subscribers_goto, table_goto, subscribers_setSubscribers, table_setSubscribers]
    refine ⟨?_, hregistered⟩
    split
    · rename_i heq
      exact SubscriberMap.mem_emplace_of_mem (heq ▸ hlisted)
    · exact hlisted
  | @removed c guid method hplace =>
    by_cases hmethod : r.method = method
    · right
      have hsound := hs.place c
      rw [hplace] at hsound
      obtain ⟨callback, hgiven⟩ := hs.listed c _ hsound
      obtain rfl := hs.eq_of_same hr hgiven (Or.inr hmethod)
      exact ⟨rfl, hplace⟩
    · left
      have hsame : SamePlaces s (s.remove c method) := samePlaces_onTransport c _ _
      unfold Listed Registered at *
      rw [subscribers_goto, table_goto, hsame.subscribers, table_remove (hs.ready_at hplace (by simp)),
        if_neg fun h => hmethod h.2]
      exact ⟨hlisted, hregistered⟩
  | @erased c guid method hplace =>
    left
    have hguid : r.client = c → r.guid ≠ guid := by
      intro _ hguid
      have hsound := hs.place c
      rw [hplace] at hsound
      obtain ⟨callback, hgiven⟩ := hs.listed c _ hsound
      obtain rfl := hs.eq_of_same hr hgiven (Or.inl hguid)
      rcases (hs.phase _ hr).mp hregistered with ⟨_, hnot⟩ | hrecording
      · exact hnot hplace
      · rw [hplace] at hrecording
        cases hrecording
    unfold Listed Registered at *
    rw [subscribers_goto, table_goto, subscribers_setSubscribers, table_setSubscribers]
    refine ⟨?_, hregistered⟩
    split
    · rename_i heq
      exact SubscriberMap.mem_erase.mpr ⟨heq ▸ hlisted, hguid heq⟩
    · exact hlisted
  | connected =>
    left
    unfold Registered
    rw [table_connect]
    exact ⟨hlisted, hregistered⟩
  | @messaged c payload hscheme =>
    left
    have hsame : SamePlaces (s.note parse c payload) _ := samePlaces_setRpc c
      ((s.client c).rpc.handle parse raises (.payload payload)).1
    unfold Listed Registered at *
    refine ⟨hsame.subscribers r.client ▸ hlisted, ?_⟩
    rcases table_message parse raises hscheme payload r.client r.method with hkept | ⟨_, _, hnone, _⟩
    · exact hkept.trans hregistered
    · rw [hnone] at hregistered
      cases hregistered
  | posted hserver =>
    left
    unfold Registered
    rw [table_post parse raises hserver]
    exact ⟨hlisted, hregistered⟩

/-- The tables agree as long as clients over HTTP subscribe when the notification server is there,
and they have the same entries as long as every message to a client over WebSocket has a method
that is in its table. -/
theorem tables_agree {scheme : Cid → Transport}
    (hrun : Run (step parse raises) (fun s l => s.Distinct l ∧ s.connected l) (start scheme) s) :
    s.Agrees ∧ s.LeavesIntact parse raises ∧
      (s.unmatched = [] → ∀ c method, s.table c method ≠ some none) := by
  have hs := sound_run hrun
  refine ⟨hs.agrees, ⟨?_, ?_, ?_, ?_⟩, ?_⟩
  · exact fun c t hstep => raised_moves hs (moves_of_step hstep)
  · exact fun l t hl hstep => begun_moves hl (moves_of_step hstep)
  · exact fun c l t hstep hl => own_moves hl (moves_of_step hstep)
  · exact fun l t r hstep hr hlisted hregistered =>
      intact_moves hs hr hlisted hregistered (moves_of_step hstep)
  · intro hnone c method hempty
    have hmem := (hs.empty c method hempty).2
    rw [hnone] at hmem
    exact List.not_mem_nil hmem

/-! ### A client over WebSocket and one over HTTP -/

def twoSchemes : Bool → Transport
  | true => .webSocket
  | false => .http

/-- Every text is a notification of `State0`. -/
def stateNotification (_ : Bytes) : Option JsonValue :=
  some (.object [("method", .string (bytes "State0"))])

instance (l : ClientsLabel Cid C) : Decidable (s.Distinct l) := by
  unfold Distinct
  split
  · infer_instance
  · infer_instance
  · split <;> infer_instance
  · infer_instance

instance (l : ClientsLabel Cid C) : Decidable (s.connected l) := by
  unfold connected
  split <;> infer_instance

/-- Both clients have subscribed, and a message has come to the first. -/
theorem tables_agree_twice :
    ∃ s : PeakClients Bool Nat, s.Agrees ∧ s.unmatched = [] ∧
      (s.client true).m_subscribers = [(bytes "a", bytes "State0")] ∧
      (s.client false).m_subscribers = [(bytes "b", bytes "State1")] := by
  have hreached : reaches (step stateNotification fun (_ : Nat) _ => false)
      (fun s l => s.Distinct l ∧ s.connected l) (start twoSchemes)
      [.subscribeToState true 1, .answer true (bytes "a"), .proceed true, .proceed true,
        .connect false, .subscribeToState false 2, .answer false (bytes "b"), .proceed false,
        .message true [], .proceed false]
      (fun s => s.unmatched = [] &&
        (s.client true).m_subscribers = [(bytes "a", bytes "State0")] &&
        (s.client false).m_subscribers = [(bytes "b", bytes "State1")]) = true := by
    decide +kernel
  obtain ⟨s, hrun, htest⟩ := run_of_reaches hreached
  simp only [Bool.and_eq_true, decide_eq_true_eq] at htest
  exact ⟨s, (tables_agree hrun).1, htest.1.1, htest.1.2, htest.2⟩

/-- A message of a method without an entry leaves an entry without a guid; and a client over HTTP
that subscribes before there is a notification server follows a null pointer. -/
theorem tables_disagree :
    (∃ s : PeakClients Bool Nat,
      Run (step stateNotification fun _ _ => false) (fun s l => s.Distinct l) (start twoSchemes) s ∧
        s.table true (bytes "State0") = some none ∧ ∀ c, (s.client c).m_subscribers = []) ∧
    ∃ s : PeakClients Bool Nat,
      Run (step stateNotification fun _ _ => false) (fun s l => s.Distinct l) (start twoSchemes) s ∧
        ¬ s.Agrees := by
  constructor
  · have hreached : reaches (step stateNotification fun (_ : Nat) _ => false)
        (fun s l => s.Distinct l) (start twoSchemes) [.message true []]
        (fun s => s.table true (bytes "State0") = some none &&
          decide (∀ c, (s.client c).m_subscribers = [])) = true := by
      decide +kernel
    obtain ⟨s, hrun, htest⟩ := run_of_reaches hreached
    simp only [Bool.and_eq_true, decide_eq_true_eq] at htest
    exact ⟨s, hrun, htest⟩
  · have hreached : reaches (step stateNotification fun (_ : Nat) _ => false)
        (fun s l => s.Distinct l) (start twoSchemes) [.subscribeToState false 7]
        (fun s => s.undefined) = true := by
      decide +kernel
    obtain ⟨s, hrun, hundefined⟩ := run_of_reaches hreached
    refine ⟨s, hrun, fun h => ?_⟩
    rw [h.defined] at hundefined
    cases hundefined

end PeakClients

end PeakAnalyser
