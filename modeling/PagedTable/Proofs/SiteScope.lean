import PagedTable.Proofs.AssignmentTarget
import PagedTable.Proofs.ClosedTable
import PagedTable.Table.SiteUsers

namespace PagedTable

namespace Query

theorem build_restricted {state : FilterState} {paging : Paging} {sorting : Sorting} {name : String}
    {value : Value} {q : Query} (built : build state paging sorting [(name, value)] = .ok q) :
    if value.unset then build state paging sorting [] = .ok q
    else Entries.get? name q.filters = some value.staticRestriction := by
  unfold build at built ⊢
  obtain ⟨filters, active, made⟩ := Act.bind_ok built
  rw [active]
  cases unset : value.unset with
  | true =>
    simp only [addStatics, unset, if_true] at made
    exact made
  | false =>
    simp only [addStatics, unset, Bool.false_eq_true, if_false] at made ⊢
    cases made
    exact Entries.get?_put_same _ _ _

end Query

namespace TableView

theorem query_restricted {v : TableView} {chooser : Value} {q : Query}
    (sited : v.plan = SiteUsers.plan chooser) (bound : v.parent ≠ .null) (built : v.query = .ok q) :
    ∃ id, SiteUsers.read v.parent "id" = .ok id ∧
      if id.unset then Query.build v.filters v.paging v.sorting [] = .ok q
      else Entries.get? SiteUsers.siteKey q.filters = some id.staticRestriction := by
  obtain ⟨statics, found, made⟩ := Act.bind_ok built
  have own : SiteUsers.statics v.parent = .ok statics := by
    unfold TableView.statics at found
    rw [sited] at found
    exact found
  unfold SiteUsers.statics at own
  split at own
  · exact absurd ‹_› bound
  · cases read : SiteUsers.read v.parent "id" with
    | error e =>
      rw [read] at own
      cases own
    | ok id =>
      rw [read] at own
      cases own
      exact ⟨id, rfl, Query.build_restricted made⟩

end TableView

theorem Flagged.bound {parent later : Value} (flagged : Flagged parent later) (bound : parent ≠ .null) :
    later ≠ .null := by
  cases flagged with
  | refl => exact bound
  | tail _ set =>
    rintro rfl
    obtain ⟨name, value, set⟩ := set
    unfold Application.withFlag at set
    split at set
    · cases set
    · cases set
    · split at set <;> cases set
    · cases set

-- A table at one moment of a run: its view and what had been marked by then.
structure Standing where
  marks : List Mark
  view : TableView

namespace Standing

-- The same table at a later moment. As long as no parent is bound it is bound to the same entity.
structure Leads (m n : Standing) : Prop where
  plan : n.view.plan = m.view.plan
  bound : ∃ since, n.marks = since ++ m.marks ∧ (.parentBound ∉ since → m.view.StillBound n.view)

theorem Leads.refl (m : Standing) : Leads m m := ⟨rfl, [], rfl, fun _ => .refl _⟩

theorem Leads.trans {m n o : Standing} (one : Leads m n) (two : Leads n o) : Leads m o := by
  obtain ⟨first, early, kept⟩ := one.bound
  obtain ⟨second, late, still⟩ := two.bound
  refine ⟨two.plan.trans one.plan, second ++ first, ?_, fun unbound => ?_⟩
  · rw [late, early, List.append_assoc]
  · rw [List.mem_append, not_or] at unbound
    exact (kept unbound.2).trans (still unbound.1)

end Standing

def Sight.standing (g : Sight) : Standing := ⟨g.marks, g.table.view⟩

def Strand.standing (s : Strand) : Standing := ⟨s.marks, s.table.view⟩

-- The errand for a page has begun, at a table that did not lack its parent, and its query was built
-- since then.
def Asks (sights : List Sight) (token : Int) (query : Query) (now : Standing) : Prop :=
  ∃ b ∈ sights, b.occasion = .began (.page token) ∧ Application.needsParent b.table.view = false ∧
    ∃ built : Standing, b.standing.Leads built ∧ built.view.query = .ok query ∧ built.Leads now

def Sight.Justified (s s' : Strand) (g : Sight) : Prop :=
  match g.occasion with
  | .began (.page token) =>
    g.standing = s'.standing ∧ token = s.book.nextToken ∧ s.book.nextToken < s'.book.nextToken
  | .asked errand call => g.standing = s.standing ∧
      ((∃ token query, errand = .page token ∧ call = .list query ∧ .asking token query ∈ s.tasks) ∨
        ∃ m, .starting m call ∈ s.tasks)
  | _ => True

namespace Strand

variable {key : Nat} {s s' : Strand}

theorem Move.seen (move : Move key s s') :
    s'.sights = s.sights ∨ ∃ g, s'.sights = g :: s.sights ∧ g.Justified s s' := by
  cases move with
  | look o quiet =>
    refine .inr ⟨_, rfl, ?_⟩
    cases o <;> trivial
  | supersede top opened => exact .inr ⟨_, rfl, rfl, rfl, Nat.lt_succ_self _⟩
  | refuse top unbuilt => exact .inr ⟨_, rfl, trivial⟩
  | empty top keep => exact .inr ⟨_, rfl, trivial⟩
  | ask top keep =>
    refine .inr ⟨_, rfl, rfl, .inl ⟨_, _, rfl, rfl, ?_⟩⟩
    rw [top]
    exact List.mem_cons_self
  | recount top =>
    refine (sights_recounted key s).imp_right fun seen => ⟨_, seen, ?_⟩
    trivial
  | start opened m call => exact .inr ⟨_, rfl, trivial⟩
  | @request _ _ m _ top =>
    refine .inr ⟨_, rfl, rfl, .inr ⟨m, ?_⟩⟩
    rw [top]
    exact List.mem_cons_self
  | turn next other => exact .inr ⟨_, rfl, trivial⟩
  | receive answered page keep => exact .inr ⟨_, rfl, trivial⟩
  | finish m some => exact .inr ⟨_, rfl, trivial⟩
  | close opened => exact .inr ⟨_, rfl, trivial⟩
  | _ => exact .inl rfl

theorem Move.leads (move : Move key s s') (used : s.table ≠ {}) : s.standing.Leads s'.standing := by
  refine ⟨(move.samePlan used).1, ?_⟩
  rcases move.stillBound with still | ⟨m, more, binds⟩
  · rcases move.marks with same | ⟨m, more⟩
    · exact ⟨[], same, fun _ => still used⟩
    · exact ⟨[m], more, fun _ => still used⟩
  · refine ⟨[m], more, fun unbound => ?_⟩
    cases m <;> first | exact absurd List.mem_cons_self unbound | cases binds

-- Where errands for pages began, and what was asked for since.
structure Prepared (s : Strand) : Prop where
  begun : ∀ b ∈ s.sights, ∀ token, b.occasion = .began (.page token) →
    0 ≤ token ∧ token < s.book.nextToken ∧ b.standing.Leads s.standing
  asking : ∀ token query, .asking token query ∈ s.tasks → Asks s.sights token query s.standing
  starting : ∀ m call, .starting m call ∈ s.tasks → ∃ kind, call.operation = .mutation kind
  asked : ∀ newer g older, s.sights = newer ++ g :: older → ∀ errand query,
    g.occasion = .asked errand (.list query) →
    ∃ token, errand = .page token ∧ Asks older token query g.standing

theorem Prepared.used (prepared : s.Prepared) {b : Sight} (member : b ∈ s.sights) {token : Int}
    (began : b.occasion = .began (.page token)) : s.table ≠ {} := by
  intro unused
  obtain ⟨proper, given, -⟩ := prepared.begun b member token began
  have none : s.book.nextToken = 0 := by
    rw [Strand.book, unused]
    rfl
  omega

theorem Move.sighted (move : Move key s s') {b : Sight} (member : b ∈ s.sights) : b ∈ s'.sights := by
  rcases move.seen with same | ⟨g, more, -⟩
  · rw [same]
    exact member
  · rw [more]
    exact List.mem_cons_of_mem _ member

theorem Move.asks (move : Move key s s') (prepared : s.Prepared) {token : Int} {query : Query}
    (asks : Asks s.sights token query s.standing) : Asks s'.sights token query s'.standing := by
  obtain ⟨b, member, began, bound, built, early, query, late⟩ := asks
  have leads := move.leads (prepared.used member began)
  exact ⟨b, move.sighted member, began, bound, built, early, query, late.trans leads⟩

theorem Move.prepared (move : Move key s s') (tracked : s.Tracked) (prepared : s.Prepared) : s'.Prepared where
  begun b member token began := by
    have next := move.nextToken
    have before (known : b ∈ s.sights) :
        0 ≤ token ∧ token < s'.book.nextToken ∧ b.standing.Leads s'.standing := by
      obtain ⟨proper, given, leads⟩ := prepared.begun b known token began
      exact ⟨proper, by omega, leads.trans (move.leads (prepared.used known began))⟩
    rcases move.seen with same | ⟨g, more, justified⟩
    · rw [same] at member
      exact before member
    · rw [more] at member
      rcases List.mem_cons.mp member with rfl | known
      · unfold Sight.Justified at justified
        rw [began] at justified
        obtain ⟨standing, token, next⟩ := justified
        refine ⟨by omega, by omega, ?_⟩
        rw [standing]
        exact .refl _
      · exact before known
  -- the query is built as the request is put in flight, for which its errand has begun
  asking token query member := by
    rcases move.tasks member with known | begun
    · exact move.asks prepared (prepared.asking token query known)
    · obtain ⟨-, built, issued, r, adding, own, b, seen, began, bound⟩ := begun
      have named : s.book.tokenOf r = issued :=
        tracked.named (issued, r) (List.mem_append_left _ (List.mem_filterMap.mpr ⟨_, adding, rfl⟩))
      rw [own, named]
      exact move.asks prepared
        ⟨b, seen, began, bound, _, (prepared.begun b seen issued began).2.2, built, .refl _⟩
  starting m call member := by
    rcases move.tasks member with known | begun
    · exact prepared.starting m call known
    · exact begun
  -- only the newest sight can be of this move; those before it are as they were
  asked newer g older split errand query asked := by
    rcases move.seen with same | ⟨h, more, justified⟩
    · rw [same] at split
      exact prepared.asked newer g older split errand query asked
    · rw [more] at split
      cases newer with
      | cons x newer => exact prepared.asked newer g older (List.cons.inj split).2 errand query asked
      | nil =>
        obtain ⟨rfl, rfl⟩ := List.cons.inj split
        unfold Sight.Justified at justified
        rw [asked] at justified
        obtain ⟨standing, ⟨token, query, rfl, same, asking⟩ | ⟨m, starting⟩⟩ := justified
        · cases same
          rw [standing]
          exact ⟨token, rfl, prepared.asking token _ asking⟩
        · obtain ⟨kind, own⟩ := prepared.starting m _ starting
          cases own

theorem Path.prepared (path : Path key {} s) : s.Prepared := by
  induction path with
  | refl =>
    refine { begun := ?_, asking := ?_, starting := ?_, asked := ?_ }
    · exact fun _ member => nomatch member
    · exact fun _ _ member => nomatch member
    · exact fun _ _ member => nomatch member
    · exact fun newer _ _ split => by cases newer <;> cases split
  | tail before move ih => exact move.prepared (Path.tracked before) ih

end Strand

namespace Application
open Strand

variable {w : Application} {key : Nat}

-- Each call of the provider is seen. A call for a page of a site's users was begun while a site was
-- bound. If no parent was bound since then, a site is bound when the provider is called, and the query
-- was built while the same site was bound: it has the restriction to the identity of the site, unless
-- this is one of the values that restrict nothing, and then it has none but those of the user.
theorem listed_for_site (reached : Reached w) {key : Nat} {chooser : Value}
    (sited : (w.view key).plan = SiteUsers.plan chooser) :
    w.askedOf key = ((w.sightsOf key).filterMap Sight.call?).reverse ∧
    ∀ newer g older, w.sightsOf key = newer ++ g :: older →
    ∀ errand q, g.occasion = .asked errand (.list q) →
    ∃ token, errand = .page token ∧ ∃ b ∈ older, b.occasion = .began (.page token) ∧
      b.table.view.parent ≠ .null ∧ ∃ since, g.marks = since ++ b.marks ∧
      (.parentBound ∉ since → g.table.view.parent ≠ .null ∧
        ∃ v id, b.table.view.StillBound v ∧ v.StillBound g.table.view ∧ v.query = .ok q ∧
          SiteUsers.read v.parent "id" = .ok id ∧
          if id.unset then Query.build v.filters v.paging v.sorting [] = .ok q
          else Entries.get? SiteUsers.siteKey q.filters = some id.staticRestriction) := by
  have path := reached.path key
  refine ⟨Path.called path, fun newer g older split errand q asked => ?_⟩
  have prepared := Path.prepared path
  obtain ⟨token, rfl, b, member, began, unlacking, built, early, query, late⟩ :=
    prepared.asked newer g older split errand q asked
  have inside : b ∈ w.sightsOf key := by
    rw [split]
    exact List.mem_append_right _ (List.mem_cons_of_mem _ member)
  have planned : b.table.view.plan = SiteUsers.plan chooser :=
    (prepared.begun b inside token began).2.2.plan.symm.trans sited
  have bound : b.table.view.parent ≠ .null := by
    intro none
    rw [needsParent, planned, none] at unlacking
    cases unlacking
  -- from the beginning of the errand to the building of its query, and from there to the call
  obtain ⟨first, early, kept⟩ := early.bound
  obtain ⟨second, late, still⟩ := late.bound
  refine ⟨token, rfl, b, member, began, bound, second ++ first, ?_, fun unbound => ?_⟩
  · have all : g.marks = second ++ (first ++ b.marks) := early ▸ late
    rw [all, List.append_assoc]
  · rw [List.mem_append, not_or] at unbound
    have before : b.table.view.StillBound built.view := kept unbound.2
    have after : built.view.StillBound g.table.view := still unbound.1
    have here := before.parent.bound bound
    obtain ⟨id, read, restricted⟩ :=
      TableView.query_restricted (before.plan.trans planned) here query
    exact ⟨after.parent.bound here, built.view, id, before, after, query, read, restricted⟩

def siteOf (id : String) : Value :=
  .object .site [("id", .text id), ("name", .text ""), ("can_assign_users", .bool true),
    ("can_unassign_users", .bool false)]

def siteOpening (id : String) : Opening := { plan := SiteUsers.plan .null, parent := siteOf id }

def listed (id : String) : Application :=
  (opened (siteOpening id)).played 1
    [.table 0 (.setFilter searchFilterId (.text "a")), .table 0 .refresh]

theorem listed_reached (id : String) : Reached (listed id) := (opened_reached _).played 1 _

theorem listed_sited (id : String) (used : 0 < ((opened (siteOpening id)).view 0).made) :
    ((listed id).view 0).plan = SiteUsers.plan .null := opened_played_plan used 1 _

def listedBy (p : Option Restriction → Bool) : List Sight → Bool
  | ⟨_, .asked _ (.list q), _, _⟩ :: _ => p (Entries.get? SiteUsers.siteKey q.filters)
  | _ => false

theorem listedBy_some {p : Option Restriction → Bool} {sights : List Sight}
    (listed : listedBy p sights = true) :
    ∃ g older errand q, sights = g :: older ∧ g.occasion = .asked errand (.list q) ∧
      p (Entries.get? SiteUsers.siteKey q.filters) = true := by
  unfold listedBy at listed
  split at listed
  · exact ⟨_, _, _, _, rfl, rfl, listed⟩
  · cases listed

-- The users of a site whose identity is that of the unrestricting choice are listed without it.
theorem listed_unrestricted :
    Reached (listed "all") ∧ ((listed "all").view 0).plan = SiteUsers.plan .null ∧
    ∃ g older errand q, (listed "all").sightsOf 0 = g :: older ∧
      g.occasion = .asked errand (.list q) ∧ g.table.view.parent.same (siteOf "all") = true ∧
      Entries.get? SiteUsers.siteKey q.filters = none := by
  have last : listedBy Option.isNone ((listed "all").sightsOf 0) = true := by decide +kernel
  have bound : ((listed "all").sightsOf 0).all fun g => g.table.view.parent.same (siteOf "all") := by
    decide +kernel
  obtain ⟨g, older, errand, q, split, asked, none⟩ := listedBy_some last
  rw [split] at bound
  exact ⟨listed_reached "all", listed_sited "all" (by decide +kernel), g, older, errand, q, split, asked,
    List.all_eq_true.mp bound g List.mem_cons_self, Option.isNone_iff_eq_none.mp none⟩

theorem listed_restricted :
    ((listed "s1").view 0).plan = SiteUsers.plan .null ∧
    ∃ g older errand q, (listed "s1").sightsOf 0 = g :: older ∧
      g.occasion = .asked errand (.list q) ∧ ∃ (v : TableView) (id : Value), v.query = .ok q ∧
      SiteUsers.read v.parent "id" = .ok id ∧ v.StillBound g.table.view ∧
      if id.unset then Query.build v.filters v.paging v.sorting [] = .ok q
      else Entries.get? SiteUsers.siteKey q.filters = some id.staticRestriction := by
  have sited := listed_sited "s1" (by decide +kernel)
  have last : listedBy Option.isSome ((listed "s1").sightsOf 0) = true := by decide +kernel
  have unbound : ((listed "s1").sightsOf 0).all fun g => .parentBound ∉ g.marks := by decide +kernel
  obtain ⟨g, older, errand, q, split, asked, -⟩ := listedBy_some last
  obtain ⟨-, sights⟩ := listed_for_site (listed_reached "s1") sited
  obtain ⟨token, -, b, -, -, -, since, marks, restricted⟩ := sights [] g older split errand q asked
  have none : .parentBound ∉ since := by
    intro rebound
    rw [split] at unbound
    have quiet := List.all_eq_true.mp unbound g List.mem_cons_self
    rw [decide_eq_true_eq, marks] at quiet
    exact quiet (List.mem_append_left _ rebound)
  obtain ⟨-, v, id, -, still, query, read, restricts⟩ := restricted none
  exact ⟨sited, g, older, errand, q, split, asked, v, id, query, read, still, restricts⟩

end Application

end PagedTable
