import PagedTable.Proofs.RelayPaths

namespace PagedTable

theorem WorkId.same_of_same {a b c : WorkId} (known : a.hashable = true) (one : c.same a = true)
    (two : c.same b = true) : a.same b = true := by
  cases a <;> cases b <;> cases c <;> simp only [same, Bool.false_eq_true] at one two ⊢
  · exact Value.same_of_same _ _ _ known one two
  · rw [beq_iff_eq] at one two ⊢
    exact one.symm.trans two

theorem WorkId.same_trans {a b c : WorkId} (known : a.hashable = true) (one : a.same b = true)
    (two : b.same c = true) : a.same c = true :=
  same_of_same known ((same_comm a b known).trans one) two

theorem WorkId.same_third {a b c : WorkId} (first : a.hashable = true) (second : b.hashable = true)
    (one : a.same c = true) (two : b.same c = true) : a.same b = true :=
  same_of_same first ((same_comm a c first).trans one) ((same_comm b c second).trans two)

namespace Relay

variable {r t : Relay} {ids : List WorkId} {n m k heard : Nat}

def Alike (ids : List WorkId) (n m : Nat) : Prop :=
  ∃ a b, ids[n]? = some a ∧ ids[m]? = some b ∧ a.same b = true

-- The next work that was pushed under the id of another.
structure Succeeds (ids : List WorkId) (m n : Nat) : Prop where
  later : n < m
  alike : Alike ids n m
  next : ∀ k, n < k → k < m → ¬ Alike ids n k

-- The next work under its id was pushed before it was delivered.
def Displaced (r : Relay) (n : Nat) : Prop := ∃ m ∈ r.clashes, Succeeds r.ids m n

-- Some work was pushed under its id while one with that id was not delivered.
def Shared (r : Relay) (n : Nat) : Prop := ∃ m ∈ r.clashes, Alike r.ids n m

-- A work that waits to be delivered, under its id or one that equals it: the latest under this id.
structure Filed (r : Relay) (heard : Nat) (e : WorkId × Nat) : Prop where
  hashable : e.1.hashable = true
  ahead : heard ≤ e.2
  uncalled : e.2 ∉ r.callbacks
  own : ∃ id, r.ids[e.2]? = some id ∧ e.1.same id = true
  latest : ∀ m, e.2 < m → ¬ Alike r.ids e.2 m

-- What became of each work when so many announcements were heard.
structure Ledger (r : Relay) (heard : Nat) : Prop where
  hashable : ∀ id ∈ r.ids, id.hashable = true
  filed : ∀ e ∈ r.pending, r.Filed heard e
  apart : (r.pending.map Prod.fst).Pairwise fun a b => a.same b = false
  once : r.callbacks.Nodup
  called : ∀ n ∈ r.callbacks, n < r.ids.length ∧ ¬ r.Displaced n
  whereabouts : ∀ n < r.ids.length, n ∈ r.callbacks ∨ n ∈ r.pending.map Prod.snd ∨ r.Displaced n
  clashing : ∀ m ∈ r.clashes, ∃ n, Succeeds r.ids m n
  behind : ∀ n ∈ r.callbacks, ¬ r.Shared n → n < heard
  announced : ∀ n name o older, .done (some n) name o :: older <:+ r.journal →
    ∃ m ≤ n, Alike r.ids m n ∧ .performed m ∈ older
  reported : ∀ n name o older, .done (some n) name o :: older <:+ r.journal → ¬ r.Shared n →
    r.Reported n name o older

theorem Alike.bounds (alike : Alike ids n m) : n < ids.length ∧ m < ids.length := by
  obtain ⟨a, b, first, second, -⟩ := alike
  exact ⟨(List.getElem?_eq_some_iff.mp first).1, (List.getElem?_eq_some_iff.mp second).1⟩

theorem Alike.symm (hashable : ∀ id ∈ ids, id.hashable = true) (alike : Alike ids n m) : Alike ids m n := by
  obtain ⟨a, b, first, second, same⟩ := alike
  refine ⟨b, a, second, first, ?_⟩
  rw [WorkId.same_comm a b (hashable a (List.mem_of_getElem? first)), same]

theorem Alike.trans (hashable : ∀ id ∈ ids, id.hashable = true) (one : Alike ids n m)
    (two : Alike ids m k) : Alike ids n k := by
  obtain ⟨a, b, first, second, same⟩ := one
  obtain ⟨c, d, again, third, other⟩ := two
  cases second.symm.trans again
  exact ⟨a, d, first, third, WorkId.same_trans (hashable a (List.mem_of_getElem? first)) same other⟩

theorem alike_append (more : List WorkId) (one : n < ids.length) (two : m < ids.length) :
    Alike (ids ++ more) n m ↔ Alike ids n m := by
  unfold Alike
  rw [List.getElem?_append_left one, List.getElem?_append_left two]

theorem succeeds_append (more : List WorkId) (known : m < ids.length) :
    Succeeds (ids ++ more) m n ↔ Succeeds ids m n := by
  constructor <;> intro succeeds <;> have later := succeeds.later
  · refine ⟨later, (alike_append more (by omega) known).mp succeeds.alike, fun k after before alike => ?_⟩
    exact succeeds.next k after before ((alike_append more (by omega) (by omega)).mpr alike)
  · refine ⟨later, (alike_append more (by omega) known).mpr succeeds.alike, fun k after before alike => ?_⟩
    exact succeeds.next k after before ((alike_append more (by omega) (by omega)).mp alike)

theorem Succeeds.unique (hashable : ∀ id ∈ ids, id.hashable = true) (one : Succeeds ids m n)
    (two : Succeeds ids m k) : n = k := by
  have alike : Alike ids n k := one.alike.trans hashable (two.alike.symm hashable)
  rcases Nat.lt_trichotomy n k with less | same | more
  · exact absurd alike (one.next k less two.later)
  · exact same
  · exact absurd (alike.symm hashable) (two.next n more one.later)

theorem pending_unique {pending : List (WorkId × Nat)} {d e : WorkId × Nat}
    (hashable : ∀ e ∈ pending, e.1.hashable = true)
    (apart : (pending.map Prod.fst).Pairwise fun a b => a.same b = false) (one : d ∈ pending)
    (two : e ∈ pending) (same : d.1.same e.1 = true) : d = e := by
  induction pending with
  | nil => cases one
  | cons first rest ih =>
    obtain ⟨known, others⟩ := List.forall_mem_cons.mp hashable
    obtain ⟨differs, apart⟩ := List.pairwise_cons.mp apart
    rcases List.mem_cons.mp one with rfl | earlier <;> rcases List.mem_cons.mp two with rfl | later
    · rfl
    · rw [differs e.1 (List.mem_map_of_mem later)] at same
      cases same
    · rw [WorkId.same_comm _ _ known, differs d.1 (List.mem_map_of_mem earlier)] at same
      cases same
    · exact ih others apart earlier later

theorem Ledger.waits_once {d e : WorkId × Nat} {id : WorkId} (ledger : r.Ledger heard)
    (one : d ∈ r.pending) (two : e ∈ r.pending) (first : d.1.same id = true)
    (second : e.1.same id = true) : d = e := by
  have hashable := fun e member => (ledger.filed e member).hashable
  exact pending_unique hashable ledger.apart one two
    (WorkId.same_third (hashable d one) (hashable e two) first second)

theorem Filed.same_iff {e : WorkId × Nat} {id : WorkId} (filed : r.Filed heard e)
    (hashable : ∀ id ∈ r.ids, id.hashable = true) (at_ : r.ids[m]? = some id) :
    e.1.same id = true ↔ Alike r.ids e.2 m := by
  obtain ⟨own, known, same⟩ := filed.own
  constructor
  · exact fun other =>
      ⟨own, id, known, at_, WorkId.same_of_same (hashable own (List.mem_of_getElem? known)) same other⟩
  · rintro ⟨a, b, first, second, alike⟩
    cases known.symm.trans first
    cases at_.symm.trans second
    exact WorkId.same_trans filed.hashable same alike

theorem Filed.not_displaced {e : WorkId × Nat} (filed : r.Filed heard e) : ¬ r.Displaced e.2 := by
  rintro ⟨m, -, succeeds⟩
  exact filed.latest m succeeds.later succeeds.alike

-- What changes nothing about the ids, tells of no callback, and forgets no result.
structure Mute (r t : Relay) : Prop where
  ids : t.ids = r.ids
  pending : t.pending = r.pending
  clashes : t.clashes = r.clashes
  results : r.results ⊆ t.results
  journal : ∃ events : List RelayEvent, (∀ e ∈ events, e.told = none) ∧ t.journal = events ++ r.journal

theorem Mute.refl (r : Relay) : Mute r r := ⟨rfl, rfl, rfl, List.Subset.refl _, [], by simp, rfl⟩

theorem Mute.trans {s : Relay} (one : Mute r s) (two : Mute s t) : Mute r t := by
  obtain ⟨later, silent, more⟩ := two.journal
  obtain ⟨events, quiet, journal⟩ := one.journal
  refine ⟨two.ids.trans one.ids, two.pending.trans one.pending, two.clashes.trans one.clashes,
    List.Subset.trans one.results two.results, later ++ events, ?_, ?_⟩
  · intro e member
    exact (List.mem_append.mp member).elim (silent e) (quiet e)
  · rw [more, journal, List.append_assoc]

theorem Quiet.mute (quiet : Quiet r t) : Mute r t := by
  have ids := quiet.ids
  obtain ⟨events, silent, same⟩ := quiet
  refine ⟨ids, ?_, ?_, ?_, events, fun e member => (silent e member).2, ?_⟩ <;> rw [same]
  exact List.Subset.refl _

theorem mute_takeNext (r : Relay) : Mute r r.takeNext := by
  unfold takeNext
  split
  · exact ⟨rfl, rfl, rfl, List.Subset.refl _, [], by simp, rfl⟩
  · exact .refl r

theorem mute_finish (r : Relay) : Mute r r.finish := by
  cases doing : r.doing with
  | none =>
    have same : r.finish = r := by simp only [Relay.finish, doing]
    rw [same]
    exact .refl r
  | some n =>
    cases at_ : r.works[n]? with
    | none =>
      simp only [Relay.finish, doing, at_]
      exact ⟨rfl, rfl, rfl, List.Subset.refl _, [], by simp, rfl⟩
    | some w =>
      obtain ⟨t, result, quiet, -, left⟩ := finish_performed doing at_
      rw [left]
      refine quiet.mute.trans
        ⟨performed_ids .., rfl, rfl, List.subset_cons_self _ _, [.performed n], ?_, rfl⟩
      simp [RelayEvent.told]

theorem mute_shutdown (r : Relay) : Mute r r.shutdown := by
  rcases shutdown_through r with same | ⟨t, told, gone⟩
  · rw [same]
    exact .refl r
  · exact (told.mute.trans (mute_finish t)).trans gone.mute

theorem Mute.callbacks (mute : Mute r t) : t.callbacks = r.callbacks := by
  obtain ⟨events, silent, journal⟩ := mute.journal
  rw [Relay.callbacks, Relay.callbacks, journal, List.filterMap_append, List.filterMap_eq_nil_iff.mpr silent,
    List.nil_append]

theorem Mute.displaced (mute : Mute r t) : t.Displaced n ↔ r.Displaced n := by
  rw [Displaced, Displaced, mute.ids, mute.clashes]

theorem Mute.shared (mute : Mute r t) : t.Shared n ↔ r.Shared n := by
  rw [Shared, Shared, mute.ids, mute.clashes]

theorem Mute.filed {e : WorkId × Nat} (mute : Mute r t) (filed : r.Filed heard e) : t.Filed heard e := by
  refine ⟨filed.hashable, filed.ahead, ?_, ?_, ?_⟩
  · rw [mute.callbacks]
    exact filed.uncalled
  · rw [mute.ids]
    exact filed.own
  · rw [mute.ids]
    exact filed.latest

theorem Mute.suffix {name : String} {o : Outcome} {older : List RelayEvent} (mute : Mute r t)
    (suffix : .done (some n) name o :: older <:+ t.journal) : .done (some n) name o :: older <:+ r.journal := by
  obtain ⟨events, silent, journal⟩ := mute.journal
  rw [journal] at suffix
  exact told_suffix events nofun silent suffix

theorem mem_callbacks {name : String} {o : Outcome} {older : List RelayEvent}
    (suffix : .done (some n) name o :: older <:+ r.journal) : n ∈ r.callbacks :=
  List.mem_filterMap.mpr ⟨_, suffix.subset List.mem_cons_self, rfl⟩

theorem Ledger.mute (ledger : r.Ledger heard) (mute : Mute r t)
    (works : ∀ n < heard, t.works[n]? = r.works[n]?) : t.Ledger heard where
  hashable := by
    rw [mute.ids]
    exact ledger.hashable
  filed e member := by
    rw [mute.pending] at member
    exact mute.filed (ledger.filed e member)
  apart := by
    rw [mute.pending]
    exact ledger.apart
  once := by
    rw [mute.callbacks]
    exact ledger.once
  called n called := by
    rw [mute.callbacks] at called
    rw [mute.ids, mute.displaced]
    exact ledger.called n called
  whereabouts n known := by
    rw [mute.ids] at known
    rw [mute.callbacks, mute.pending, mute.displaced]
    exact ledger.whereabouts n known
  clashing := by
    rw [mute.ids, mute.clashes]
    exact ledger.clashing
  behind n called alone := by
    rw [mute.callbacks] at called
    rw [mute.shared] at alone
    exact ledger.behind n called alone
  announced n name o older suffix := by
    rw [mute.ids]
    exact ledger.announced n name o older (mute.suffix suffix)
  reported n name o older suffix alone := by
    rw [mute.shared] at alone
    have before := mute.suffix suffix
    have first : n < heard := ledger.behind n (mem_callbacks before) alone
    exact (ledger.reported n name o older before alone).later (works n first) mute.results

theorem putPending_shared {id : WorkId} {pending : List (WorkId × Nat)}
    (shared : ∃ e ∈ pending, e.1.same id = true) :
    ∃ before key k after, pending = before ++ (key, k) :: after ∧ key.same id = true ∧
      putPending id n pending = before ++ (key, n) :: after := by
  induction pending with
  | nil =>
    obtain ⟨e, member, -⟩ := shared
    cases member
  | cons first rest ih =>
    by_cases same : first.1.same id = true
    · exact ⟨[], first.1, first.2, rest, rfl, same, by rw [putPending, if_pos same]; rfl⟩
    · obtain ⟨e, member, other⟩ := shared
      rcases List.mem_cons.mp member with rfl | member
      · exact absurd other same
      · obtain ⟨before, key, k, after, parts, found, put⟩ := ih ⟨e, member, other⟩
        refine ⟨first :: before, key, k, after, by rw [parts, List.cons_append], found, ?_⟩
        rw [putPending, if_neg same, put, List.cons_append]

theorem ids_length (r : Relay) : r.ids.length = r.works.length := List.length_map _

variable {w : Work}

theorem id_at (at_ : r.works[n]? = some w) : r.ids[n]? = some w.id := by
  rw [ids, List.getElem?_map, at_]
  rfl

theorem enqueue_bound (within : n < (r.enqueue w).ids.length) : n < r.ids.length ∨ n = r.ids.length := by
  rw [enqueue_ids, List.length_append, List.length_singleton] at within
  omega

theorem filed_new {key : WorkId} (ledger : r.Ledger heard) (hashable : key.hashable = true)
    (same : key.same w.id = true) (ahead : heard ≤ r.ids.length) :
    (r.enqueue w).Filed heard (key, r.ids.length) where
  hashable := hashable
  ahead := ahead
  uncalled called := Nat.lt_irrefl _ (ledger.called _ called).1
  own := ⟨w.id, by rw [enqueue_ids]; exact List.getElem?_concat_length, same⟩
  latest m later alike := by
    have bound := enqueue_bound alike.bounds.2
    dsimp only at later
    omega

theorem Filed.enqueue {e : WorkId × Nat} (filed : r.Filed heard e) (other : e.1.same w.id = false) :
    (r.enqueue w).Filed heard e := by
  obtain ⟨own, at_, same⟩ := filed.own
  have first : e.2 < r.ids.length := (List.getElem?_eq_some_iff.mp at_).1
  have still : (r.enqueue w).ids[e.2]? = some own := by
    rw [enqueue_ids, List.getElem?_append_left first]
    exact at_
  refine ⟨filed.hashable, filed.ahead, filed.uncalled, ⟨own, still, same⟩, fun m later alike => ?_⟩
  rcases enqueue_bound alike.bounds.2 with before | rfl
  · rw [enqueue_ids, alike_append _ first before] at alike
    exact filed.latest m later alike
  · obtain ⟨a, b, one, two, equal⟩ := alike
    cases still.symm.trans one
    rw [enqueue_ids, List.getElem?_concat_length] at two
    cases two
    rw [WorkId.same_trans filed.hashable same equal] at other
    cases other

theorem enqueue_clashes (clash : m ∈ r.clashes) : m ∈ (r.enqueue w).clashes := by
  unfold Relay.enqueue
  dsimp only
  split
  · exact List.mem_cons_of_mem _ clash
  · exact clash

theorem Displaced.enqueue (displaced : r.Displaced n) : (r.enqueue w).Displaced n := by
  obtain ⟨m, clash, succeeds⟩ := displaced
  refine ⟨m, enqueue_clashes clash, ?_⟩
  rw [enqueue_ids]
  exact (succeeds_append _ succeeds.alike.bounds.2).mpr succeeds

theorem Shared.enqueue (shared : r.Shared n) : (r.enqueue w).Shared n := by
  obtain ⟨m, clash, alike⟩ := shared
  refine ⟨m, enqueue_clashes clash, ?_⟩
  rw [enqueue_ids]
  exact (alike_append _ alike.bounds.1 alike.bounds.2).mpr alike

theorem Ledger.pushed (ledger : r.Ledger heard) (known : w.id.hashable = true)
    (filed : ∀ e ∈ (r.enqueue w).pending, (r.enqueue w).Filed heard e)
    (apart : ((r.enqueue w).pending.map Prod.fst).Pairwise fun a b => a.same b = false)
    (new : r.ids.length ∈ (r.enqueue w).pending.map Prod.snd)
    (others : ∀ n ∈ r.pending.map Prod.snd,
      n ∈ (r.enqueue w).pending.map Prod.snd ∨ (r.enqueue w).Displaced n)
    (clashes : ∀ m ∈ (r.enqueue w).clashes,
      m ∈ r.clashes ∨ ∃ k, k ∉ r.callbacks ∧ Succeeds (r.enqueue w).ids m k) :
    (r.enqueue w).Ledger heard := by
  have hashable : ∀ id ∈ (r.enqueue w).ids, id.hashable = true := by
    rw [enqueue_ids]
    intro id member
    rcases List.mem_append.mp member with before | last
    · exact ledger.hashable id before
    · rw [List.mem_singleton.mp last]
      exact known
  have before : ∀ m ∈ r.clashes, m < r.ids.length := by
    intro m clash
    obtain ⟨n, succeeds⟩ := ledger.clashing m clash
    exact succeeds.alike.bounds.2
  have longer : (r.enqueue w).ids.length = r.ids.length + 1 := by
    rw [enqueue_ids, List.length_append, List.length_singleton]
  refine ⟨hashable, filed, apart, ledger.once, fun n called => ⟨?_, ?_⟩, fun n within => ?_,
    fun m clash => ?_, fun n called alone => ?_, fun n name o older suffix => ?_,
    fun n name o older suffix alone => ?_⟩
  · have first := (ledger.called n called).1
    omega
  · rintro ⟨m, clash, succeeds⟩
    -- a clash that is new is with a work whose callback has not been called
    rcases clashes m clash with old | ⟨k, uncalled, other⟩
    · rw [enqueue_ids, succeeds_append _ (before m old)] at succeeds
      exact (ledger.called n called).2 ⟨m, old, succeeds⟩
    · rw [succeeds.unique hashable other] at called
      exact uncalled called
  · rcases enqueue_bound within with old | rfl
    · rcases ledger.whereabouts n old with called | waits | displaced
      · exact .inl called
      · exact .inr (others n waits)
      · exact .inr (.inr displaced.enqueue)
    · exact .inr (.inl new)
  · rcases clashes m clash with old | ⟨k, -, other⟩
    · obtain ⟨n, succeeds⟩ := ledger.clashing m old
      refine ⟨n, ?_⟩
      rw [enqueue_ids, succeeds_append _ (before m old)]
      exact succeeds
    · exact ⟨k, other⟩
  · exact ledger.behind n called fun shared => alone shared.enqueue
  · obtain ⟨m, le, alike, performed⟩ := ledger.announced n name o older suffix
    refine ⟨m, le, ?_, performed⟩
    rw [enqueue_ids, alike_append _ alike.bounds.1 alike.bounds.2]
    exact alike
  · have first : n < r.works.length := by
      rw [← ids_length]
      exact (ledger.called n (mem_callbacks suffix)).1
    exact (ledger.reported n name o older suffix fun shared => alone shared.enqueue).later
      (List.getElem?_append_left first) (List.Subset.refl _)

theorem Ledger.enqueue_new (ledger : r.Ledger heard) (known : w.id.hashable = true)
    (ahead : heard ≤ r.ids.length) (other : ∀ e ∈ r.pending, e.1.same w.id = false) :
    (r.enqueue w).Ledger heard := by
  have pending : (r.enqueue w).pending = r.pending ++ [(w.id, r.ids.length)] := by
    rw [ids_length]
    exact putPending_new other
  have clashes : (r.enqueue w).clashes = r.clashes := if_neg (by simpa using other)
  refine ledger.pushed known ?_ ?_ ?_ ?_ ?_ <;> (try rw [pending]) <;> (try rw [clashes])
  · intro e member
    rcases List.mem_append.mp member with waits | new
    · exact (ledger.filed e waits).enqueue (other e waits)
    · rw [List.mem_singleton.mp new]
      exact filed_new ledger known (w.id.same_refl known) ahead
  · rw [List.map_append, List.pairwise_append]
    refine ⟨ledger.apart, List.pairwise_singleton .., fun a waits b last => ?_⟩
    obtain ⟨e, member, rfl⟩ := List.mem_map.mp waits
    rw [List.mem_singleton.mp last]
    exact other e member
  · simp
  · intro n waits
    rw [List.map_append]
    exact .inl (List.mem_append_left _ waits)
  · exact fun m clash => .inl clash

theorem Ledger.waits_alone {before after : List (WorkId × Nat)} {e : WorkId × Nat} {id : WorkId}
    (ledger : r.Ledger heard) (parts : r.pending = before ++ e :: after) (same : e.1.same id = true) :
    ∀ d ∈ before ++ after, d.1.same id = false := by
  have apart := ledger.apart
  rw [parts, List.map_append, List.map_cons, List.pairwise_append, List.pairwise_cons] at apart
  obtain ⟨-, ⟨first, -⟩, later⟩ := apart
  have known : e.1.hashable = true := (ledger.filed e (by simp [parts])).hashable
  intro d member
  have waits : d ∈ r.pending := by
    rw [parts]
    rcases List.mem_append.mp member with earlier | others
    · exact List.mem_append_left _ earlier
    · exact List.mem_append_right _ (List.mem_cons_of_mem _ others)
  have hashable := (ledger.filed d waits).hashable
  cases equal : d.1.same id with
  | false => rfl
  | true =>
    have alike : d.1.same e.1 = true := WorkId.same_third hashable known equal same
    rcases List.mem_append.mp member with earlier | others
    · rw [later d.1 (List.mem_map_of_mem earlier) e.1 List.mem_cons_self] at alike
      cases alike
    · rw [WorkId.same_comm _ _ known, first d.1 (List.mem_map_of_mem others)] at alike
      cases alike

theorem Ledger.filed_succeeded {e : WorkId × Nat} (ledger : r.Ledger heard) (waits : e ∈ r.pending)
    (same : e.1.same w.id = true) : Succeeds (r.enqueue w).ids r.ids.length e.2 := by
  have filed := ledger.filed e waits
  obtain ⟨own, at_, alike⟩ := filed.own
  have first : e.2 < r.ids.length := (List.getElem?_eq_some_iff.mp at_).1
  have equal : own.same w.id = true :=
    WorkId.same_of_same (ledger.hashable own (List.mem_of_getElem? at_)) alike same
  rw [enqueue_ids]
  refine ⟨first, ⟨own, w.id, ?_, List.getElem?_concat_length, equal⟩, fun m after before between => ?_⟩
  · rw [List.getElem?_append_left first]
    exact at_
  · rw [alike_append _ first before] at between
    exact filed.latest m after between

theorem Ledger.enqueue_shared (ledger : r.Ledger heard) (known : w.id.hashable = true)
    (ahead : heard ≤ r.ids.length) (shared : ∃ e ∈ r.pending, e.1.same w.id = true) :
    (r.enqueue w).Ledger heard := by
  -- the new work takes the key and the place of the one that it displaces
  obtain ⟨before, key, k, after, parts, same, put⟩ := putPending_shared (n := r.works.length) shared
  have pending : (r.enqueue w).pending = before ++ (key, r.ids.length) :: after := by
    rw [ids_length]
    exact put
  have clashes : (r.enqueue w).clashes = r.ids.length :: r.clashes := by
    rw [ids_length]
    exact if_pos (List.any_eq_true.mpr shared)
  have waiting : (key, k) ∈ r.pending := by simp [parts]
  have filed := ledger.filed _ waiting
  have keys : (before ++ (key, r.ids.length) :: after).map Prod.fst = r.pending.map Prod.fst := by
    simp [parts]
  have differ := ledger.waits_alone parts same
  have succeeds : Succeeds (r.enqueue w).ids r.ids.length k := ledger.filed_succeeded waiting same
  have displaced : (r.enqueue w).Displaced k := ⟨_, by rw [clashes]; exact List.mem_cons_self, succeeds⟩
  refine ledger.pushed known ?_ ?_ ?_ ?_ ?_ <;> (try rw [pending]) <;> (try rw [clashes])
  · intro e member
    rcases List.mem_append.mp member with earlier | rest
    · refine (ledger.filed e ?_).enqueue (differ e (List.mem_append_left _ earlier))
      exact parts ▸ List.mem_append_left _ earlier
    · rcases List.mem_cons.mp rest with rfl | others
      · exact filed_new ledger filed.hashable same ahead
      · refine (ledger.filed e ?_).enqueue (differ e (List.mem_append_right _ others))
        exact parts ▸ List.mem_append_right _ (List.mem_cons_of_mem _ others)
  · rw [keys]
    exact ledger.apart
  · simp
  · intro n waits
    rw [parts] at waits
    simp only [List.map_append, List.map_cons, List.mem_append, List.mem_cons] at waits ⊢
    rcases waits with earlier | rfl | others
    · exact .inl (.inl earlier)
    · exact .inr displaced
    · exact .inl (.inr (.inr others))
  · intro m clash
    rcases List.mem_cons.mp clash with rfl | old
    · exact .inr ⟨k, filed.uncalled, succeeds⟩
    · exact .inl old

theorem Ledger.enqueue (ledger : r.Ledger heard) (known : w.id.hashable = true)
    (ahead : heard ≤ r.ids.length) : (r.enqueue w).Ledger heard := by
  by_cases shared : ∃ e ∈ r.pending, e.1.same w.id = true
  · exact ledger.enqueue_shared known ahead shared
  · exact ledger.enqueue_new known ahead (by simpa using shared)

theorem deliverNext_cases {id : WorkId} {rest : List WorkId} (posted : r.posted = id :: rest) :
    ((∀ e ∈ r.pending, e.1.same id = false) ∧ deliverNext (runTo 0) r = { r with posted := rest }) ∨
    ∃ e ∈ r.pending, e.1.same id = true ∧ ∀ w, r.works[e.2]? = some w →
      deliverNext (runTo 0) r = { r with
        posted := rest
        pending := r.pending.filter fun e => !e.1.same id
        journal := .done (some e.2) w.name (w.job.report (w.outcome.getD {})) :: r.journal } := by
  cases found : r.pending.find? fun e => e.1.same id with
  | none =>
    refine .inl ⟨by simpa using found, ?_⟩
    simp only [deliverNext, posted, deliver, pending?, found, Option.map_none]
  | some e =>
    refine .inr ⟨e, List.mem_of_find?_eq_some found, ?_, fun w at_ => ?_⟩
    · simpa using List.find?_some found
    · simp only [deliverNext, posted, deliver, pending?, found, Option.map_some, at_]
      rw [notify_after, follow_idle]
      rfl

theorem Filed.advance {e : WorkId × Nat} {id : WorkId} (filed : r.Filed heard e)
    (at_ : r.ids[heard]? = some id) (other : e.1.same id = false) : r.Filed (heard + 1) e := by
  refine { filed with ahead := ?_ }
  obtain ⟨own, known, same⟩ := filed.own
  rcases Nat.eq_or_lt_of_le filed.ahead with now | later
  · rw [← now] at known
    cases at_.symm.trans known
    rw [same] at other
    cases other
  · exact later

theorem Ledger.missed {id : WorkId} (ledger : r.Ledger heard) (at_ : r.ids[heard]? = some id)
    (none : ∀ e ∈ r.pending, e.1.same id = false) : r.Ledger (heard + 1) :=
  { ledger with
    filed := fun e member => (ledger.filed e member).advance at_ (none e member)
    behind := fun n called alone => Nat.lt_succ_of_lt (ledger.behind n called alone) }

theorem Displaced.shared (displaced : r.Displaced n) : r.Shared n := by
  obtain ⟨m, clash, succeeds⟩ := displaced
  exact ⟨m, clash, succeeds.alike⟩

theorem Ledger.called_itself {e : WorkId × Nat} {id : WorkId} (ledger : r.Ledger heard)
    (at_ : r.ids[heard]? = some id) (waits : e ∈ r.pending) (same : e.1.same id = true)
    (alone : ¬ r.Shared e.2) : e.2 = heard := by
  have filed := ledger.filed e waits
  have alike : Alike r.ids e.2 heard := (filed.same_iff ledger.hashable at_).mp same
  have apart : ¬ r.Shared heard := by
    rintro ⟨m, clash, other⟩
    exact alone ⟨m, clash, alike.trans ledger.hashable other⟩
  rcases ledger.whereabouts heard (List.getElem?_eq_some_iff.mp at_).1 with called | pending | displaced
  · exact absurd (ledger.behind heard called apart) (Nat.lt_irrefl _)
  · obtain ⟨d, member, number⟩ := List.mem_map.mp pending
    have own : d.1.same id = true := by
      obtain ⟨known, first, equal⟩ := (ledger.filed d member).own
      rw [number, at_] at first
      cases first
      exact equal
    rw [← ledger.waits_once member waits own same]
    exact number
  · exact absurd displaced.shared apart

theorem Ledger.works_at {e : WorkId × Nat} (ledger : r.Ledger heard) (waits : e ∈ r.pending) :
    ∃ w, r.works[e.2]? = some w := by
  obtain ⟨id, at_, -⟩ := (ledger.filed e waits).own
  rw [ids, List.getElem?_map] at at_
  obtain ⟨w, found, -⟩ := Option.map_eq_some_iff.mp at_
  exact ⟨w, found⟩

theorem Ledger.calling {e : WorkId × Nat} {v w : Work} {result : Outcome} {rest : List WorkId}
    (ledger : r.Ledger heard) (at_ : r.works[heard]? = some w) (settled : r.Settled heard w result)
    (ended : .performed heard ∈ r.journal) (waits : e ∈ r.pending) (same : e.1.same w.id = true)
    (own : r.works[e.2]? = some v) : Ledger { r with
      posted := rest
      pending := r.pending.filter fun e => !e.1.same w.id
      journal := .done (some e.2) v.name (v.job.report (v.outcome.getD {})) :: r.journal } (heard + 1) := by
  have filed := ledger.filed e waits
  have known := id_at at_
  have alike : Alike r.ids e.2 heard := (filed.same_iff ledger.hashable known).mp same
  refine ⟨ledger.hashable, fun d member => ?_, ?_, ?_, fun n called => ?_, fun n within => ?_,
    ledger.clashing, fun n called alone => ?_, fun n name o older suffix => ?_,
    fun n name o older suffix alone => ?_⟩
  · obtain ⟨pending, differs⟩ := List.mem_filter.mp member
    rw [Bool.not_eq_true'] at differs
    have other := ledger.filed d pending
    have uncalled : d.2 ∉ e.2 :: r.callbacks := by
      intro member
      rw [← (List.mem_cons.mp member).resolve_right other.uncalled,
        ← other.same_iff ledger.hashable known, differs] at alike
      cases alike
    exact { other.advance known differs with uncalled := uncalled }
  · exact ledger.apart.sublist (List.filter_sublist.map _)
  · exact List.nodup_cons.mpr ⟨filed.uncalled, ledger.once⟩
  · rcases List.mem_cons.mp called with rfl | before
    · obtain ⟨own, first, -⟩ := filed.own
      exact ⟨(List.getElem?_eq_some_iff.mp first).1, filed.not_displaced⟩
    · exact ledger.called n before
  · rcases ledger.whereabouts n within with called | pending | displaced
    · exact .inl (List.mem_cons_of_mem _ called)
    · obtain ⟨d, member, rfl⟩ := List.mem_map.mp pending
      cases equal : d.1.same w.id with
      | false => exact .inr (.inl (List.mem_map_of_mem (List.mem_filter.mpr ⟨member, by rw [equal]; rfl⟩)))
      | true =>
        rw [ledger.waits_once member waits equal same]
        exact .inl List.mem_cons_self
    · exact .inr (.inr displaced)
  · rcases List.mem_cons.mp called with rfl | before
    · exact Nat.lt_succ_of_le (Nat.le_of_eq (ledger.called_itself known waits same alone))
    · exact Nat.lt_succ_of_lt (ledger.behind n before alone)
  · rcases List.suffix_cons_iff.mp suffix with now | before
    · cases now
      exact ⟨heard, filed.ahead, alike.symm ledger.hashable, ended⟩
    · exact ledger.announced n name o older before
  · rcases List.suffix_cons_iff.mp suffix with now | before
    · cases now
      have itself := ledger.called_itself known waits same alone
      rw [itself] at own ⊢
      cases at_.symm.trans own
      refine ⟨ended, _, result, at_, settled.later (List.Subset.refl _), rfl, ?_⟩
      rw [settled.kept]
      rfl
    · exact (ledger.reported n name o older before alone).later rfl (List.Subset.refl _)

theorem Ledger.call {heard rest waiting : List Work} {w : Work} (ledger : r.Ledger heard.length)
    (flow : r.Flow heard (w :: rest) waiting) : (deliverNext (runTo 0) r).Ledger (heard.length + 1) := by
  obtain ⟨result, settled⟩ := flow.settled heard.length w (getElem?_middle ..)
  have at_ : r.works[heard.length]? = some w := by
    rw [flow.works, List.append_assoc]
    exact getElem?_middle ..
  have known := id_at at_
  have ended : heard.length ∈ r.endings := by
    rw [flow.endings]
    simp
  rcases deliverNext_cases flow.posted with ⟨none, missed⟩ | ⟨e, waits, same, called⟩
  · rw [missed]
    have mute : Mute r { r with posted := rest.map Work.id } :=
      ⟨rfl, rfl, rfl, List.Subset.refl _, [], by simp, rfl⟩
    exact (ledger.missed known none).mute mute fun _ _ => rfl
  · obtain ⟨v, own⟩ := ledger.works_at waits
    rw [called v own]
    exact ledger.calling at_ settled (performed_of_ended ended) waits same own

def Tracked (r : Relay) : Prop :=
  ∃ heard ended waiting, r.Flow heard ended waiting ∧ r.Ledger heard.length

theorem Move.tracked {forced : Bool} (move : Move forced r t) (tracked : r.Tracked) : t.Tracked := by
  obtain ⟨heard, ended, waiting, flow, ledger⟩ := tracked
  have ahead : heard.length ≤ r.ids.length := by
    rw [ids_length, flow.works, List.append_assoc, List.length_append]
    exact Nat.le_add_right ..
  -- Whatever calls no callback keeps the works that were heard of.
  have keeps : ∀ {t : Relay} {ended waiting : List Work}, t.Flow heard ended waiting → Mute r t →
      t.Tracked := by
    intro t later still after mute
    refine ⟨heard, later, still, after, ledger.mute mute fun n first => ?_⟩
    rw [after.works, flow.works, List.append_assoc, List.append_assoc, List.getElem?_append_left first,
      List.getElem?_append_left first]
  cases move with
  | start => exact keeps (flow.quiet (quiet_start r)) (quiet_start r).mute
  | push w awake hashable numbered allowed =>
    exact ⟨heard, ended, waiting ++ [w], flow.enqueue hashable numbered, ledger.enqueue hashable ahead⟩
  | outcomes table =>
    have quiet : Quiet r { r with outcomes := table } := ⟨[], by simp, rfl⟩
    exact keeps (flow.quiet quiet) quiet.mute
  | answer o =>
    have quiet : Quiet r (r.record (.done none syncName o)) :=
      ⟨[.done none syncName o], by simp [RelayEvent.ended, RelayEvent.told], rfl⟩
    exact keeps (flow.quiet quiet) quiet.mute
  | take free => exact keeps flow.takeNext (mute_takeNext r)
  | leave told =>
    have quiet : Quiet r { r with running := false } := ⟨[], by simp, rfl⟩
    exact keeps (flow.quiet quiet) quiet.mute
  | finish =>
    obtain ⟨ended, waiting, after⟩ := flow.finish
    exact keeps after (mute_finish r)
  | shutdown =>
    obtain ⟨ended, waiting, after⟩ := flow.shutdown
    exact keeps after (mute_shutdown r)
  | call =>
    refine ⟨_, _, _, flow.calling, ?_⟩
    cases ended with
    | nil =>
      have same : deliverNext (runTo 0) r = r := by simp only [deliverNext, flow.posted, List.map_nil]
      rw [same, List.take_nil, List.append_nil]
      exact ledger
    | cons w rest =>
      have count : (heard ++ (w :: rest).take 1).length = heard.length + 1 := List.length_append
      rw [count]
      exact ledger.call flow

theorem Path.tracked {forced : Bool} (path : Path forced {} r) : r.Tracked := by
  induction path with
  | refl =>
    refine ⟨[], [], [], flow_empty, by simp [ids], by simp, .nil, .nil, by simp [callbacks], by simp [ids],
      by simp, by simp [callbacks], ?_, ?_⟩ <;>
    · intro n name o older suffix
      cases List.suffix_nil.mp suffix
  | tail _ move ih => exact move.tracked ih

-- Nothing is under way: each work that was taken is done, and its announcement heard.
def AtRest (r : Relay) : Prop := r.queue = [] ∧ r.doing = none ∧ r.posted = []

-- Each callback came after the function of its work.
def Punctual (r : Relay) : Prop :=
  ∀ n name o older, .done (some n) name o :: older <:+ r.journal → .performed n ∈ older

def Complete (r : Relay) : Prop := ∀ n < r.works.length, n ∈ r.callbacks

structure Delivered (r : Relay) : Prop where
  once : r.callbacks.Nodup ∧ ∀ n ∈ r.callbacks, n < r.works.length
  announced : ∀ n name o older, .done (some n) name o :: older <:+ r.journal →
    ∃ m ≤ n, Alike r.ids m n ∧ .performed m ∈ older
  reported : ∀ n name o older, .done (some n) name o :: older <:+ r.journal → ¬ r.Shared n →
    r.Reported n name o older
  missing : r.AtRest → ∀ n < r.works.length,
    .performed n ∈ r.journal ∧ (n ∉ r.callbacks ↔ r.Displaced n)
  exact : r.AtRest → (r.Punctual ∧ r.Complete ↔ r.clashes = [])

theorem Flow.rest {heard ended waiting : List Work} (flow : r.Flow heard ended waiting) (rest : r.AtRest) :
    r.works = heard ∧ r.endings = (List.range heard.length).reverse := by
  obtain ⟨queue, doing, posted⟩ := rest
  have none : ended = [] := by simpa [posted] using flow.posted
  have idle : waiting = [] := by simpa [queue, doing] using flow.waits
  have works := flow.works
  have endings := flow.endings
  rw [none, List.append_nil] at works endings
  rw [idle, List.append_nil] at works
  exact ⟨works, endings⟩

theorem Ledger.missing (ledger : r.Ledger r.works.length) (known : n < r.works.length) :
    n ∉ r.callbacks ↔ r.Displaced n := by
  rw [← ids_length] at known
  refine ⟨fun missed => ?_, fun displaced called => (ledger.called n called).2 displaced⟩
  rcases ledger.whereabouts n known with called | pending | displaced
  · exact absurd called missed
  · obtain ⟨e, member, rfl⟩ := List.mem_map.mp pending
    have ahead := (ledger.filed e member).ahead
    rw [← ids_length] at ahead
    omega
  · exact displaced

-- Whatever ids works are pushed under, each callback is called once at most, and only when a work under its id
-- was done that was not pushed later. In the end the thread has performed every work; the callbacks that were
-- not called are those of the works that another was pushed after, under the same id, while they waited to be
-- delivered. Where this has happened to no work under an id, each callback under it comes after its function,
-- with what that gave. So all works come to their callbacks, and none too soon, just if it has never happened.
theorem delivered_unless_displaced (reached : Reached r) : r.Delivered := by
  obtain ⟨heard, ended, waiting, flow, ledger⟩ := reached.later.path.2.tracked
  have missing : r.AtRest → ∀ n < r.works.length,
      .performed n ∈ r.journal ∧ (n ∉ r.callbacks ↔ r.Displaced n) := by
    intro rest n known
    obtain ⟨works, endings⟩ := flow.rest rest
    refine ⟨performed_of_ended ?_, ?_⟩
    · rw [endings, List.mem_reverse, List.mem_range, ← works]
      exact known
    · rw [← works] at ledger
      exact ledger.missing known
  refine ⟨⟨ledger.once, fun n called => ?_⟩, ledger.announced, ledger.reported, missing,
    fun rest => ⟨?_, ?_⟩⟩
  · rw [← ids_length]
    exact (ledger.called n called).1
  · rintro ⟨-, complete⟩
    refine List.eq_nil_iff_forall_not_mem.mpr fun m clash => ?_
    obtain ⟨n, succeeds⟩ := ledger.clashing m clash
    have known : n < r.works.length := by
      rw [← ids_length]
      exact succeeds.alike.bounds.1
    exact ((missing rest n known).2.mpr ⟨m, clash, succeeds⟩) (complete n known)
  · intro none
    -- without a clash no id was ever shared
    have apart : ∀ n, ¬ r.Shared n := by simp [Shared, none]
    refine ⟨fun n name o older suffix => (ledger.reported n name o older suffix (apart n)).after, ?_⟩
    intro n known
    exact Decidable.of_not_not fun missed => apart n ((missing rest n known).2.mp missed).shared

def twice : List RelayStep :=
  [.push "first" (some (.text "id")) (.outcome (.value (.text "a"))) none [],
    .push "second" (some (.text "id")) (.outcome (.value (.text "b"))) none [],
    .takeNext, .finish, .deliverNext, .takeNext, .finish, .deliverNext]

theorem twice_reached : Reached (played twice {}) := Reached.start.played twice (by decide)

theorem twice_rests : (played twice {}).AtRest :=
  ⟨by decide +kernel, by decide +kernel, by decide +kernel⟩

theorem twice_delivered : Reached (played twice {}) ∧ (played twice {}).Delivered ∧
    (played twice {}).AtRest ∧ (played twice {}).clashes = [1] ∧ (played twice {}).callbacks = [1] :=
  ⟨twice_reached, delivered_unless_displaced twice_reached, twice_rests, by decide +kernel,
    by decide +kernel⟩

-- Of two works under one id the second is called before its function, and the first never.
theorem twice_misses : Reached (played twice {}) ∧ (played twice {}).AtRest ∧
    ¬ (played twice {}).Punctual ∧ ¬ (played twice {}).Complete := by
  refine ⟨twice_reached, twice_rests, fun punctual => ?_, fun complete => ?_⟩
  · have journal : (played twice {}).journal =
        [.performed 1, .done (some 1) "second" {}, .performed 0, .thread .start] := by with_unfolding_all rfl
    have after := punctual 1 "second" {} [.performed 0, .thread .start] ⟨[.performed 1], journal.symm⟩
    simp at after
  · have called : 0 ∈ (played twice {}).callbacks := complete 0 (by decide +kernel)
    revert called
    decide +kernel

end Relay

end PagedTable
