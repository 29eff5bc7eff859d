import PeakAnalyser.Library.Endings
import PeakAnalyser.PeakClients
import PeakAnalyser.RequestEncoding

/-!
# The method names of the subscriptions

A method name is a base, the observable or `State`, followed by the decimal digits of a
counter. Two names with different bases are the same when the longer base is the shorter one
followed by leading digits of its number. Where no two names of a process are the same, no
callback takes the place of another one in a table.
-/

namespace PeakAnalyser

set_option autoImplicit false

open Runs

/-! ### Bases and numbers -/

/-- How many decimal digits a number has. -/
def digitCount (n : Nat) : Nat := (Nat.toDigits 10 n).length

/-- The digits of a number but for the last `k`, without leading zeros. -/
def leadingDigits (n k : Nat) : Bytes :=
  if n / 10 ^ k = 0 then [] else bytes (toString (n / 10 ^ k))

theorem toDigits_append {q : Nat} (hq : 0 < q) (n : Nat) :
    Nat.toDigits 10 q ++ Nat.toDigits 10 n = Nat.toDigits 10 (10 ^ digitCount n * q + n) := by
  unfold digitCount
  induction n using Nat.base_induction 10 (by decide) with
  | single m hm =>
    rw [Nat.toDigits_append_toDigits (by decide) hq hm, Nat.toDigits_of_lt_base hm]
    rfl
  | digit m k hk hm ih =>
    have hdigits := Nat.toDigits_append_toDigits (b := 10) (by decide) hm hk
    have hlength : (Nat.toDigits 10 (10 * m + k)).length = (Nat.toDigits 10 m).length + 1 := by
      rw [← hdigits, List.length_append, Nat.toDigits_of_lt_base hk]
      rfl
    have hpos : 0 < 10 ^ (Nat.toDigits 10 m).length * q + m := by omega
    calc Nat.toDigits 10 q ++ Nat.toDigits 10 (10 * m + k)
      _ = Nat.toDigits 10 (10 ^ (Nat.toDigits 10 m).length * q + m) ++ Nat.toDigits 10 k := by
        rw [← hdigits, ← List.append_assoc, ih]
      _ = Nat.toDigits 10 (10 * (10 ^ (Nat.toDigits 10 m).length * q + m) + k) :=
        Nat.toDigits_append_toDigits (by decide) hpos hk
      _ = _ := by
        rw [hlength, Nat.pow_succ]
        congr 1
        ring

theorem lt_pow_digitCount (n : Nat) : n < 10 ^ digitCount n :=
  (Nat.length_toDigits_le_iff (by decide) Nat.length_toDigits_pos).mp le_rfl

/-- The digits of a number that has the digits of `n` at its end. -/
theorem decimal_of_mod {m n : Nat} (h : m % 10 ^ digitCount n = n) :
    bytes (toString m) = leadingDigits m (digitCount n) ++ bytes (toString n) := by
  have hm : 10 ^ digitCount n * (m / 10 ^ digitCount n) + n = m := by
    have hsplit := Nat.div_add_mod m (10 ^ digitCount n)
    rwa [h] at hsplit
  unfold leadingDigits
  split
  · rename_i hzero
    rw [hzero, Nat.mul_zero, Nat.zero_add] at hm
    rw [hm, List.nil_append]
  · rename_i hne
    rw [bytes_toString, bytes_toString, bytes_toString, ← List.map_append,
      toDigits_append (Nat.pos_of_ne_zero hne), hm]

/-- The bytes of decimal digits tell them. -/
theorem map_ofNat_digits {cs : List Char} (h : ∀ c ∈ cs, c.isDigit = true) :
    (cs.map fun c => UInt8.ofNat c.toNat).map (fun b => Char.ofNat b.toNat) = cs := by
  rw [List.map_map]
  conv_rhs => rw [← List.map_id cs]
  apply List.map_congr_left
  intro c hc
  dsimp only [Function.comp]
  rw [(toNat_digit (h c hc)).1, Char.ofNat_toNat, id]

theorem decimal_append_iff {leading : Bytes} {m n : Nat} :
    bytes (toString m) = leading ++ bytes (toString n) ↔
      m % 10 ^ digitCount n = n ∧ leading = leadingDigits m (digitCount n) := by
  constructor
  · intro h
    have hmod : m % 10 ^ digitCount n = n := by
      rw [bytes_toString, bytes_toString] at h
      obtain ⟨front, rest, hdigits, _, hrest⟩ := List.map_eq_append_iff.mp h
      have hdigit : ∀ c ∈ rest, c.isDigit = true := by
        intro c hc
        apply isDigit_toDigits m
        rw [hdigits]
        exact List.mem_append_right front hc
      have hsame : rest = Nat.toDigits 10 n := by
        rw [← map_ofNat_digits hdigit, hrest, map_ofNat_digits (isDigit_toDigits n)]
      have hvalue := Nat.ofDigitChars_ten_toDigits (n := m)
      rw [hdigits, hsame, Nat.ofDigitChars_append, Nat.ofDigitChars_eq_ofDigitChars_zero,
        Nat.ofDigitChars_ten_toDigits] at hvalue
      rw [← hvalue, ← digitCount, Nat.mul_add_mod, Nat.mod_eq_of_lt (lt_pow_digitCount n)]
    exact ⟨hmod, List.append_cancel_right (h.symm.trans (decimal_of_mod hmod))⟩
  · rintro ⟨hmod, rfl⟩
    exact decimal_of_mod hmod

/-- The base of the first is that of the second, followed by the leading digits of the number of
the second, and the other digits of this are the number of the first. -/
def Coincide (a b : Bytes × UInt64) : Prop :=
  b.2.toNat % 10 ^ digitCount a.2.toNat = a.2.toNat ∧
    a.1 = b.1 ++ leadingDigits b.2.toNat (digitCount a.2.toNat)

instance (a b : Bytes × UInt64) : Decidable (Coincide a b) := by
  unfold Coincide
  infer_instance

theorem numberedMethod_eq_iff (a b : Bytes × UInt64) :
    numberedMethod a.1 a.2 = numberedMethod b.1 b.2 ↔ Coincide a b ∨ Coincide b a := by
  unfold numberedMethod
  rw [List.append_eq_append_iff]
  constructor
  · rintro (⟨leading, hbase, hdigits⟩ | ⟨leading, hbase, hdigits⟩)
    · obtain ⟨hmod, rfl⟩ := decimal_append_iff.mp hdigits
      exact Or.inr ⟨hmod, hbase⟩
    · obtain ⟨hmod, rfl⟩ := decimal_append_iff.mp hdigits
      exact Or.inl ⟨hmod, hbase⟩
  · rintro (⟨hmod, hbase⟩ | ⟨hmod, hbase⟩)
    · exact Or.inr ⟨_, hbase, decimal_append_iff.mpr ⟨hmod, rfl⟩⟩
    · exact Or.inl ⟨_, hbase, decimal_append_iff.mpr ⟨hmod, rfl⟩⟩

/-! ### The names of a sequence of calls -/

/-- What the names of the calls are made of, from the counters before the first. -/
def numberedCalls (ids : UInt64 × UInt64) : List NamingCall → List (Bytes × UInt64)
  | [] => []
  | call :: calls => call.numbered ids :: numberedCalls (call.next ids) calls

/-- The names, from the start of the process on. -/
def methodNames (calls : List NamingCall) : List Bytes :=
  (numberedCalls (0, 0) calls).map fun a => numberedMethod a.1 a.2

/-- The counters after the calls. -/
def idsAfter (calls : List NamingCall) : UInt64 × UInt64 :=
  calls.foldl (fun ids call => call.next ids) (0, 0)

theorem numberedCalls_concat (ids : UInt64 × UInt64) (calls : List NamingCall) (call : NamingCall) :
    numberedCalls ids (calls ++ [call]) =
      numberedCalls ids calls ++
        [call.numbered (calls.foldl (fun ids call => call.next ids) ids)] := by
  induction calls generalizing ids with
  | nil => rfl
  | cons first calls ih =>
    rw [List.cons_append, numberedCalls, numberedCalls, ih, List.foldl_cons, List.cons_append]

theorem methodNames_concat (calls : List NamingCall) (call : NamingCall) :
    methodNames (calls ++ [call]) = methodNames calls ++ [call.method (idsAfter calls)] := by
  unfold methodNames
  rw [numberedCalls_concat, List.map_append]
  rfl

theorem idsAfter_concat (calls : List NamingCall) (call : NamingCall) :
    idsAfter (calls ++ [call]) = call.next (idsAfter calls) := by
  unfold idsAfter
  rw [List.foldl_append]
  rfl

/-- The calls of a run that make a name. -/
def namingCalls {Cid C : Type} (ls : List (ClientsLabel Cid C)) : List NamingCall :=
  ls.filterMap ClientsLabel.naming?

/-- The thread waits for a subscription under the name, or is about to register its callback. -/
def ClientPlace.awaits {C : Type} (name : Bytes) : ClientPlace C → Prop
  | .subscribing method _ | .registering method _ _ => method = name
  | _ => False

namespace PeakClients

variable {Cid C : Type} [DecidableEq Cid] {parse : Bytes → Option JsonValue}
  {raises : C → JsonValue → Bool} {s t : PeakClients Cid C} {c : Cid}

theorem names_moves {l : ClientsLabel Cid C} (h : Moves parse raises s l t) :
    match l.naming? with
    | none => t.names = s.names ∧ t.ids = s.ids
    | some call => t.names = s.names ++ [call.method s.ids] ∧ t.ids = call.next s.ids := by
  cases h with
  | crashed hcall | named hcall =>
    rw [hcall]
    exact ⟨rfl, rfl⟩
  | @registered c guid method callback hplace =>
    have hsame : SamePlaces s (s.register c method callback) := samePlaces_onTransport c _ _
    exact ⟨hsame.names, hsame.ids⟩
  | @removed c guid method hplace =>
    have hsame : SamePlaces s (s.remove c method) := samePlaces_onTransport c _ _
    exact ⟨hsame.names, hsame.ids⟩
  | _ => exact ⟨rfl, rfl⟩

/-- The names of a run are those of its calls. -/
theorem names_of_path {ok : PeakClients Cid C → ClientsLabel Cid C → Prop} {scheme : Cid → Transport}
    {ls : List (ClientsLabel Cid C)} (h : Path (step parse raises) ok (start scheme) ls s) :
    s.names = methodNames (namingCalls ls) ∧ s.ids = idsAfter (namingCalls ls) := by
  induction h with
  | nil => exact ⟨rfl, rfl⟩
  | @snoc s t ls l _ _ hstep ih =>
    have hnames := names_moves (moves_of_step hstep)
    cases hcall : l.naming? with
    | none =>
      rw [hcall] at hnames
      have hcalls : namingCalls (ls ++ [l]) = namingCalls ls := by
        simp [namingCalls, hcall]
      rw [hcalls, hnames.1, hnames.2]
      exact ih
    | some call =>
      rw [hcall] at hnames
      have hcalls : namingCalls (ls ++ [l]) = namingCalls ls ++ [call] := by
        simp [namingCalls, hcall]
      rw [hcalls, methodNames_concat, idsAfter_concat, hnames.1, hnames.2, ih.1, ih.2]
      exact ⟨rfl, rfl⟩

/-! ### No callback is replaced -/

/-- A name is awaited by one client at most, and no callback is registered under it before. -/
structure NamedOnce (s : PeakClients Cid C) : Prop where
  ready : s.Ready
  known : ∀ c name, (s.client c).place.awaits name → name ∈ s.names
  sole : ∀ c d name, (s.client c).place.awaits name → (s.client d).place.awaits name → c = d
  free : ∀ c d name callback, (s.client c).place.awaits name →
    s.table d name ≠ some (some callback)
  entry : ∀ c name callback, s.table c name = some (some callback) → name ∈ s.names

omit [DecidableEq Cid] in
theorem namedOnce_start (scheme : Cid → Transport) :
    NamedOnce (start (C := C) scheme) where
  ready _ _ h := by simp [start] at h
  known _ _ h := h.elim
  sole _ _ _ h := h.elim
  free _ _ _ _ h := h.elim
  entry c name callback h := by
    unfold table start at h
    split at h
    · cases h
    · cases h

omit [DecidableEq Cid] in
/-- A step that awaits nothing new and registers nothing. -/
theorem NamedOnce.quiet (hs : s.NamedOnce) (hready : t.Ready) (hnames : ∀ n ∈ s.names, n ∈ t.names)
    (hplace : ∀ c name, (t.client c).place.awaits name → (s.client c).place.awaits name)
    (htable : ∀ c name callback, t.table c name = some (some callback) →
      s.table c name = some (some callback)) : t.NamedOnce where
  ready := hready
  known c name h := hnames name (hs.known c name (hplace c name h))
  sole c d name hc hd := hs.sole c d name (hplace c name hc) (hplace d name hd)
  free c d name callback h hentry :=
    hs.free c d name callback (hplace c name h) (htable d name callback hentry)
  entry c name callback h := hnames name (hs.entry c name callback (htable c name callback h))

theorem awaits_goto {place : ClientPlace C}
    (hnew : ∀ name, place.awaits name → (s.client c).place.awaits name) (d : Cid) (name : Bytes)
    (h : ((s.goto c place).client d).place.awaits name) : (s.client d).place.awaits name := by
  rw [place_goto] at h
  split at h
  · rename_i heq
    rw [heq]
    exact hnew name h
  · exact h

theorem awaits_of_name {call : NamingCall} {callback : C} {d : Cid} {name : Bytes}
    (h : (((s.naming call).goto c (.subscribing (call.method s.ids) callback)).client d).place.awaits
      name) : d = c ∧ name = call.method s.ids ∨ (s.client d).place.awaits name := by
  rw [place_goto] at h
  split at h
  · rename_i heq
    exact Or.inl ⟨heq, Eq.symm h⟩
  · exact Or.inr h

theorem NamedOnce.goto (hs : s.NamedOnce) {place : ClientPlace C}
    (hready : (s.goto c place).Ready)
    (hnew : ∀ name, place.awaits name → (s.client c).place.awaits name) :
    (s.goto c place).NamedOnce := by
  refine hs.quiet hready (fun _ hn => hn) (awaits_goto hnew) ?_
  intro d name callback h
  rwa [table_goto] at h

theorem NamedOnce.setSubscribers (hs : s.NamedOnce) {m : SubscriberMap}
    (hready : ((s.setSubscribers c m).goto c .idle).Ready) :
    ((s.setSubscribers c m).goto c .idle).NamedOnce := by
  refine hs.quiet hready (fun _ hn => hn) ?_ ?_
  · intro d name h
    have hnew : ∀ name, (ClientPlace.idle (C := C)).awaits name →
        ((s.setSubscribers c m).client c).place.awaits name := fun _ h => False.elim h
    have hold := awaits_goto hnew d name h
    rwa [place_setSubscribers] at hold
  · intro d name callback h
    rwa [table_goto, table_setSubscribers] at h

/-- The name is new, and so is who awaits it. -/
theorem NamedOnce.named (hs : s.NamedOnce) {call : NamingCall} {callback : C}
    (hready : ((s.naming call).goto c (.subscribing (call.method s.ids) callback)).Ready)
    (hnew : call.method s.ids ∉ s.names) :
    ((s.naming call).goto c (.subscribing (call.method s.ids) callback)).NamedOnce where
  ready := hready
  known d name hd := by
    rcases awaits_of_name hd with ⟨_, rfl⟩ | hold
    · exact List.mem_append_right _ List.mem_cons_self
    · exact List.mem_append_left _ (hs.known d name hold)
  sole d e name hd he := by
    rcases awaits_of_name hd with ⟨hdc, hname⟩ | hd
    · rcases awaits_of_name he with ⟨hec, _⟩ | he
      · rw [hdc, hec]
      · exact absurd (hname ▸ hs.known e name he) hnew
    · rcases awaits_of_name he with ⟨_, hname⟩ | he
      · exact absurd (hname ▸ hs.known d name hd) hnew
      · exact hs.sole d e name hd he
  free d e name other hd hentry := by
    rw [table_goto] at hentry
    rcases awaits_of_name hd with ⟨_, rfl⟩ | hd
    · exact hnew (hs.entry e _ other hentry)
    · exact hs.free d e name other hd hentry
  entry d name other hentry := by
    rw [table_goto] at hentry
    exact List.mem_append_left _ (hs.entry d name other hentry)

/-- The callback is registered where nothing was. -/
theorem NamedOnce.registered (hs : s.NamedOnce) {guid method : Bytes} {callback : C}
    (hready : ((s.register c method callback).goto c (.recording method guid)).Ready)
    (hplace : (s.client c).place = .registering method callback guid) :
    ((s.register c method callback).goto c (.recording method guid)).NamedOnce := by
  have hsame : SamePlaces s (s.register c method callback) := samePlaces_onTransport c _ _
  have hserver : s.scheme c = .http → s.notificationServer.isSome = true := by
    intro hhttp
    exact hs.ready c hhttp (Or.inl (by rw [hplace]; simp))
  have hawaited : (s.client c).place.awaits method := by
    rw [hplace]
    exact rfl
  have hawaits : ∀ d name, (((s.register c method callback).goto c
      (.recording method guid)).client d).place.awaits name →
      d ≠ c ∧ (s.client d).place.awaits name := by
    intro d name h
    rw [place_goto] at h
    split at h
    · exact h.elim
    · rename_i hne
      exact ⟨hne, hsame.place d ▸ h⟩
  have hentries : ∀ d name other, ((s.register c method callback).goto c
      (.recording method guid)).table d name = some (some other) →
      name = method ∨ s.table d name = some (some other) := by
    intro d name other h
    rw [table_goto, table_register hserver] at h
    split at h
    · rename_i hat
      exact Or.inl hat.2
    · exact Or.inr h
  refine ⟨hready, ?_, ?_, ?_, ?_⟩
  · intro d name hd
    exact hsame.names ▸ hs.known d name (hawaits d name hd).2
  · intro d e name hd he
    exact hs.sole d e name (hawaits d name hd).2 (hawaits e name he).2
  · intro d e name other hd hentry
    obtain ⟨hne, hwaits⟩ := hawaits d name hd
    rcases hentries e name other hentry with rfl | hold
    · exact hne (hs.sole d c name hwaits hawaited)
    · exact hs.free d e name other hwaits hold
  · intro d name other hentry
    rcases hentries d name other hentry with rfl | hold
    · exact hsame.names ▸ hs.known c name hawaited
    · exact hsame.names ▸ hs.entry d name other hold

theorem NamedOnce.removed (hs : s.NamedOnce) {guid method : Bytes}
    (hready : ((s.remove c method).goto c (.erasing guid method)).Ready)
    (hplace : (s.client c).place = .removing guid method) :
    ((s.remove c method).goto c (.erasing guid method)).NamedOnce := by
  have hsame : SamePlaces s (s.remove c method) := samePlaces_onTransport c _ _
  have hserver : s.scheme c = .http → s.notificationServer.isSome = true := by
    intro hhttp
    exact hs.ready c hhttp (Or.inl (by rw [hplace]; simp))
  refine hs.quiet hready (fun _ hn => hsame.names ▸ hn) ?_ ?_
  · intro d name h
    have hnew : ∀ name, (ClientPlace.erasing (C := C) guid method).awaits name →
        ((s.remove c method).client c).place.awaits name := fun _ h => False.elim h
    have hold := awaits_goto hnew d name h
    rwa [hsame.place] at hold
  · intro d name callback h
    rw [table_goto, table_remove hserver] at h
    split at h
    · cases h
    · exact h

theorem namedOnce_moves {l : ClientsLabel Cid C} (hs : s.NamedOnce)
    (hfresh : ∀ call, l.naming? = some call → call.method s.ids ∉ s.names)
    (h : Moves parse raises s l t) : t.NamedOnce := by
  have hready := ready_moves hs.ready h
  cases h with
  | crashed hcall =>
    exact hs.quiet hready (fun n hn => List.mem_append_left _ hn) (fun _ _ h => h) fun _ _ _ h => h
  | named hcall hplace hserver => exact hs.named hready (hfresh _ hcall)
  | passed => exact hs
  | asked | released | raised => exact hs.goto hready fun _ h => False.elim h
  | @answered c guid method callback hplace =>
    have hgiven : (s.give ⟨c, guid, method, callback⟩).NamedOnce :=
      ⟨hs.ready, hs.known, hs.sole, hs.free, hs.entry⟩
    refine hgiven.goto hready fun name h => ?_
    have hsame : ((s.give ⟨c, guid, method, callback⟩).client c).place =
        .subscribing method callback := hplace
    rw [hsame]
    exact h
  | registered hplace => exact hs.registered hready hplace
  | recorded | erased => exact hs.setSubscribers hready
  | removed hplace => exact hs.removed hready hplace
  | connected =>
    refine hs.quiet hready (fun _ hn => hn) (fun _ _ h => h) fun d name callback hd => ?_
    rwa [table_connect] at hd
  | @messaged c payload hscheme =>
    have hsame : SamePlaces (s.note parse c payload) _ := samePlaces_setRpc c
      ((s.client c).rpc.handle parse raises (.payload payload)).1
    refine hs.quiet hready (fun _ hn => hn) (fun d name hd => ?_) fun d name callback hd => ?_
    · exact hsame.place d ▸ hd
    · rcases table_message parse raises hscheme payload d name with hkept | ⟨_, _, _, hempty⟩
      · exact hkept.symm.trans hd
      · rw [hempty] at hd
        cases hd
  | posted hserver =>
    refine hs.quiet hready (fun _ hn => hn) (fun _ _ h => h) fun d name callback hd => ?_
    rwa [table_post parse raises hserver] at hd

/-- Names that are distinct at the end have been so all along. -/
theorem namedOnce_of_path {scheme : Cid → Transport} {ls : List (ClientsLabel Cid C)}
    (h : Path (step parse raises) always (start scheme) ls s) (hnodup : s.names.Nodup) :
    s.NamedOnce := by
  induction h with
  | nil => exact namedOnce_start scheme
  | @snoc s t ls l _ _ hstep ih =>
    have hmoves := moves_of_step hstep
    have hnames := names_moves hmoves
    cases hcall : l.naming? with
    | none =>
      rw [hcall] at hnames
      refine namedOnce_moves (ih (hnames.1 ▸ hnodup)) ?_ hmoves
      intro call h
      rw [hcall] at h
      cases h
    | some call =>
      rw [hcall] at hnames
      rw [hnames.1, List.nodup_append] at hnodup
      obtain ⟨hold, _, hdisjoint⟩ := hnodup
      refine namedOnce_moves (ih hold) ?_ hmoves
      intro other h hmem
      obtain rfl := Option.some.inj (hcall.symm.trans h)
      exact hdisjoint _ hmem _ List.mem_cons_self rfl

variable (parse raises) in
/-- The names that the calls make are pairwise distinct, and whatever clients make them, and
whatever happens in between, no registration takes the place of a callback. -/
structure MethodsDistinct (scheme : Cid → Transport) (calls : List NamingCall) : Prop where
  nodup : (methodNames calls).Nodup
  unreplaced : ∀ (ls : List (ClientsLabel Cid C)) (s : PeakClients Cid C),
    Path (step parse raises) always (start scheme) ls s → namingCalls ls <+: calls →
    ∀ c method callback guid other, (s.client c).place = .registering method callback guid →
      s.table c method ≠ some (some other)

theorem methodNames_mono {calls calls' : List NamingCall} (h : calls <+: calls') :
    methodNames calls <+: methodNames calls' := by
  obtain ⟨rest, rfl⟩ := h
  induction rest using List.reverseRecOn with
  | nil => simp
  | append_singleton rest call ih =>
    rw [← List.append_assoc, methodNames_concat]
    exact ih.trans (List.prefix_append _ _)

/-- The names are distinct if and only if no two calls have bases and numbers that coincide. -/
theorem methodsDistinct_iff (parse : Bytes → Option JsonValue) (raises : C → JsonValue → Bool)
    (scheme : Cid → Transport) (calls : List NamingCall) :
    MethodsDistinct parse raises scheme calls ↔
      (numberedCalls (0, 0) calls).Pairwise fun a b => ¬ Coincide a b ∧ ¬ Coincide b a := by
  have hnodup : (methodNames calls).Nodup ↔
      (numberedCalls (0, 0) calls).Pairwise fun a b => ¬ Coincide a b ∧ ¬ Coincide b a := by
    unfold methodNames List.Nodup
    rw [List.pairwise_map]
    simp only [ne_eq, numberedMethod_eq_iff, not_or]
  rw [← hnodup]
  constructor
  · exact MethodsDistinct.nodup
  · intro h
    refine ⟨h, ?_⟩
    intro ls s hpath hprefix c method callback guid other hplace
    have hnames : s.names.Nodup := by
      rw [(names_of_path hpath).1]
      exact h.sublist (methodNames_mono hprefix).sublist
    apply (namedOnce_of_path hpath hnames).free c
    rw [hplace]
    exact rfl

/-- An observable called `State` has the first name of `subscribeToState`. -/
theorem methods_coincide :
    methodNames [.observable (bytes "State"), .state] = [bytes "State0", bytes "State0"] ∧
      ¬ MethodsDistinct (fun _ => none) (fun (_ : Nat) _ => false) (fun (_ : Nat) => .http)
        [.observable (bytes "State"), .state] := by
  refine ⟨by decide +kernel, ?_⟩
  rw [methodsDistinct_iff]
  decide +kernel

end PeakClients

end PeakAnalyser
