import PagedTable.Proofs.Requests
import PagedTable.Proofs.Weaving.Running

namespace PagedTable

-- How often a table is being bound to a parent: what was asked for under the one before has not been
-- dropped yet.
def underway : List Mark → Nat
  | [] => 0
  | .parentBound :: rest => underway rest + 1
  | .parentSettled :: rest => underway rest - 1
  | _ :: rest => underway rest

-- The query of a token was built, and no binding that was under way or began since is over.
def BuiltUnder (token : Int) (marks : List Mark) : Prop :=
  ∃ since before, marks = since ++ .queryBuilt token :: before ∧
    .queryBuilt token ∉ since ∧ .parentSettled ∉ since

namespace BuiltUnder

variable {token : Int} {marks : List Mark}

theorem built (token : Int) (marks : List Mark) : BuiltUnder token (.queryBuilt token :: marks) :=
  ⟨[], marks, rfl, by simp, by simp⟩

theorem cons {m : Mark} (under : BuiltUnder token marks) (unsettled : m ≠ .parentSettled) :
    BuiltUnder token (m :: marks) := by
  by_cases again : m = .queryBuilt token
  · rw [again]
    exact built token marks
  · obtain ⟨since, before, split, last, none⟩ := under
    refine ⟨m :: since, before, by rw [split]; rfl, ?_, ?_⟩
    · simpa [Ne.symm again] using last
    · simpa [Ne.symm unsettled] using none

end BuiltUnder

theorem underway_append {since : List Mark} (unsettled : .parentSettled ∉ since) (before : List Mark) :
    underway (since ++ before) = since.count .parentBound + underway before := by
  induction since with
  | nil => simp
  | cons m rest ih =>
    simp only [List.mem_cons, not_or] at unsettled
    have later := ih unsettled.2
    cases m with
    | parentBound => simp only [List.cons_append, underway, List.count_cons_self]; omega
    | parentSettled => exact absurd rfl unsettled.1
    | _ => simpa [underway] using later

def Task.isBinding : Task → Bool
  | .binding => true
  | _ => false

def Mark.Justified (s s' : Strand) : Mark → Prop
  | .queryBuilt token => ∃ r, .adding token r ∈ s.tasks ∧ (token, r) ∈ s'.book.inFlight
  | .rowsReplaced token _ => ∃ r, s.Answered token r
  | .parentSettled => s'.book.inFlight = []
  | _ => True

def Task.Begun (s s' : Strand) : Task → Prop
  | .adding token _ => token = s.book.nextToken
  | .asking token query => .queryBuilt token ∈ s'.marks ∧ s.table.view.query = .ok query ∧
      ∃ issued r, .adding issued r ∈ s.tasks ∧ token = s.book.tokenOf r ∧ s.Issued issued
  | .starting _ call => ∃ kind, call.operation = .mutation kind
  | _ => True

namespace Strand

variable {key : Nat} {s s' : Strand}

theorem Move.justified (move : Move key s s') (tracked : s.Tracked) :
    s'.marks = s.marks ∨ ∃ m, s'.marks = m :: s.marks ∧ m.Justified s s' := by
  cases move with
  | note own quiet => exact .inl (marks_quiet quiet)
  | recount top => exact .inr ⟨.recounted, marks_recounted key s, trivial⟩
  | @join _ _ token r _ top built =>
    have entered : (token, r) ∈ s.entries := by
      rw [Strand.entries, top]
      exact List.mem_cons_self
    have named : s.book.tokenOf r = token := tracked.named _ entered
    refine .inr ⟨_, rfl, r, ?_, ?_⟩
    · rw [named, top]
      exact List.mem_cons_self
    · rw [named]
      exact Entries.mem_put_self
  | refuse top unbuilt => exact .inr ⟨_, rfl, trivial⟩
  | empty top keep => exact .inr ⟨_, rfl, trivial⟩
  | receive answered page keep => exact .inr ⟨_, rfl, _, answered⟩
  | lose top => exact .inr ⟨_, rfl, trivial⟩
  | pass flying old => exact .inr ⟨_, rfl, trivial⟩
  | bind parent => exact .inr ⟨_, rfl, trivial⟩
  | release top => exact .inr ⟨_, rfl, rfl⟩
  | close opened => exact .inr ⟨_, rfl, trivial⟩
  | _ => exact .inl rfl

theorem mem_dropped {rs : List Nat} {below : List Task} {t : Task} (member : t ∈ rs.map Task.holding ++ below) :
    (∃ r, t = .holding r) ∨ t ∈ below := by
  rcases List.mem_append.mp member with dropped | kept
  · obtain ⟨r, -, same⟩ := List.mem_map.mp dropped
    exact .inl ⟨r, same.symm⟩
  · exact .inr kept

theorem begun_cons {t task : Task} {rest : List Task} (member : t ∈ task :: rest)
    (new : task.Begun s s') (kept : t ∈ rest → t ∈ s.tasks ∨ t.Begun s s') :
    t ∈ s.tasks ∨ t.Begun s s' := by
  rcases List.mem_cons.mp member with rfl | later
  · exact .inr new
  · exact kept later

theorem Move.tasks (move : Move key s s') {t : Task} (member : t ∈ s'.tasks) :
    t ∈ s.tasks ∨ t.Begun s s' := by
  have below {task : Task} {rest : List Task} (top : s.tasks = task :: rest) (inside : t ∈ rest) :
      t ∈ s.tasks := by
    rw [top]
    exact List.mem_cons_of_mem _ inside
  cases move with
  | begin _ _ | pass _ _ | bind _ => exact begun_cons member trivial .inl
  | take _ | receive _ _ _ =>
    exact begun_cons member trivial fun later => begun_cons later trivial .inl
  | start _ _ _ own =>
    exact begun_cons member trivial fun later => begun_cons later ⟨_, own⟩ .inl
  | supersede top =>
    rcases mem_dropped member with ⟨r, rfl⟩ | kept
    · exact .inr trivial
    · refine begun_cons kept rfl fun later => begun_cons later trivial fun inside => ?_
      exact .inl (below top inside)
  | @join _ _ token r _ top built issued =>
    have adding : .adding token r ∈ s.tasks := by
      rw [top]
      exact List.mem_cons_self
    refine begun_cons member trivial fun later => begun_cons later ?_ fun inside => ?_
    · exact ⟨List.mem_cons_self, built, _, _, adding, rfl, issued⟩
    · exact .inl (below top (List.mem_cons_of_mem _ inside))
  | empty top keep =>
    refine begun_cons member trivial fun later => begun_cons later trivial fun inside => ?_
    exact .inl (below top (List.mem_cons_of_mem _ inside))
  | refuse top _ | lose top => exact .inl (below top (List.mem_cons_of_mem _ member))
  | settle top _ _ _ | abandon top | ask top _ | request top | stop top _ _ =>
    exact .inl (below top member)
  | recount top =>
    obtain ⟨busy, holds, events, sights, recounted⟩ := recounted_eq key s
    rw [recounted] at member
    exact .inl (below top member)
  | finish m some =>
    dsimp only [doing] at member
    split at member
    · exact .inl member
    · exact begun_cons member trivial .inl
  | release top =>
    rcases mem_dropped member with ⟨r, rfl⟩ | kept
    · exact .inr trivial
    · exact begun_cons kept trivial fun inside => .inl (below top inside)
  | close opened =>
    rcases mem_dropped member with ⟨r, rfl⟩ | kept
    · exact .inr trivial
    · exact begun_cons kept trivial fun later => begun_cons later trivial .inl
  | _ => exact .inl member

theorem Move.calls (move : Move key s s') {c : OpenCall} (member : c ∈ s'.calls) {token : Int} {keep : Bool}
    (purpose : c.purpose = .page token keep) :
    c ∈ s.calls ∨ ∃ query, .asking token query ∈ s.tasks := by
  cases move with
  | ask top keep =>
    rcases List.mem_append.mp member with before | new
    · exact .inl before
    · cases List.mem_singleton.mp new
      cases purpose
      exact .inr ⟨_, by rw [top]; exact List.mem_cons_self⟩
  | request top =>
    rcases List.mem_append.mp member with before | new
    · exact .inl before
    · cases List.mem_singleton.mp new
      cases purpose
  | recount top =>
    obtain ⟨busy, holds, events, sights, recounted⟩ := recounted_eq key s
    rw [recounted] at member
    exact .inl member
  | _ => exact .inl member

theorem Move.flying (move : Move key s s') {e : Int × Nat} (member : e ∈ s'.book.inFlight) :
    e ∈ s.book.inFlight ∨ .adding e.1 e.2 ∈ s.tasks := by
  have tracked {token : Int} {r : Nat} {rest : List Task}
      (top : s.tasks = .adding token r :: .counting :: rest)
      (inside : e ∈ Entries.put token r s.book.inFlight) :
      e ∈ s.book.inFlight ∨ .adding e.1 e.2 ∈ s.tasks := by
    rcases Entries.mem_put inside with rfl | before
    · exact .inr (by rw [top]; exact List.mem_cons_self)
    · exact .inl before
  cases move with
  | opened unused view bare numbered keep =>
    rw [book, unused]
    exact .inl member
  | supersede _ | release _ | close _ => exact absurd member List.not_mem_nil
  | join top built => exact tracked top member
  | refuse top unbuilt => exact tracked top member
  | take _ | receive _ _ _ | pass _ _ => exact .inl (List.mem_filter.mp member).1
  | recount top =>
    obtain ⟨busy, holds, events, sights, recounted⟩ := recounted_eq key s
    rw [recounted] at member
    exact .inl member
  | _ => exact .inl member

theorem bindings_dropped (rs : List Nat) (below : List Task) :
    (rs.map Task.holding ++ below).countP Task.isBinding = below.countP Task.isBinding := by
  induction rs with
  | nil => rfl
  | cons r rest ih => exact ih

theorem Move.binding (move : Move key s s')
    (bindings : underway s.marks = s.tasks.countP Task.isBinding) :
    underway s'.marks = s'.tasks.countP Task.isBinding := by
  cases move with
  | note own quiet =>
    rw [marks_quiet quiet]
    exact bindings
  | supersede top =>
    rw [top] at bindings
    have same := bindings_dropped s.book.flying
    exact bindings.trans (same (.adding _ _ :: .counting :: _)).symm
  | join top _ | refuse top _ | empty top _ | settle top _ _ _ | abandon top | ask top _ | lose top
  | request top | stop top _ _ =>
    rw [top] at bindings
    exact bindings
  | recount top =>
    rw [top] at bindings
    have counted := congrArg underway (marks_recounted key s)
    exact counted.trans bindings
  | finish m some =>
    dsimp only [doing]
    split <;> exact bindings
  | bind parent =>
    have more := congrArg (· + 1) bindings
    exact more.trans (List.countP_cons_of_pos (p := Task.isBinding) (a := .binding) rfl).symm
  | release top =>
    rw [top, List.countP_cons_of_pos (p := Task.isBinding) (a := .binding) rfl] at bindings
    have less : underway s.marks - 1 = _ := congrArg (· - 1) bindings
    exact less.trans (bindings_dropped s.book.flying (.counting :: _)).symm
  | close opened =>
    exact bindings.trans (bindings_dropped s.book.flying (.counting :: .closing :: s.tasks)).symm
  | _ => exact bindings

structure Bound (s : Strand) : Prop where
  asking : ∀ token query, .asking token query ∈ s.tasks → .queryBuilt token ∈ s.marks
  asked : ∀ c ∈ s.calls, ∀ token keep, c.purpose = .page token keep → .queryBuilt token ∈ s.marks
  given : ∀ token : Int, .queryBuilt token ∈ s.marks → token < s.book.nextToken
  unbuilt : ∀ token r, .adding token r ∈ s.tasks → .queryBuilt token ∉ s.marks
  flying : ∀ e ∈ s.book.inFlight, .queryBuilt e.1 ∈ s.marks → BuiltUnder e.1 s.marks
  replaced : ∀ newer token latest older, s.marks = newer ++ .rowsReplaced token latest :: older →
    BuiltUnder token older

theorem Answered.under {token : Int} {r : Nat} (answered : s.Answered token r) (bound : s.Bound) :
    BuiltUnder token s.marks := by
  obtain ⟨c, made, keep, purpose⟩ := answered.asked
  exact bound.flying (token, r) (Entries.mem_of_get? answered.flying) (bound.asked c made token keep purpose)

theorem Move.older (move : Move key s s') {m : Mark} (member : m ∈ s.marks) : m ∈ s'.marks := by
  rcases move.marks with same | ⟨n, more⟩
  · rw [same]
    exact member
  · rw [more]
    exact List.mem_cons_of_mem _ member

theorem Move.building (move : Move key s s') (tracked : s.Tracked) {token : Int}
    (member : .queryBuilt token ∈ s'.marks) :
    .queryBuilt token ∈ s.marks ∨
      ∃ r, .adding token r ∈ s.tasks ∧ (token, r) ∈ s'.book.inFlight := by
  rcases move.justified tracked with same | ⟨n, more, justified⟩
  · rw [same] at member
    exact .inl member
  · rw [more] at member
    rcases List.mem_cons.mp member with rfl | before
    · exact .inr justified
    · exact .inl before

theorem Tracked.waiting (tracked : s.Tracked) {token : Int} {r k : Nat} (adding : .adding token r ∈ s.tasks) :
    (token, k) ∉ s.book.inFlight := by
  intro flying
  have apart := tracked.apart
  rw [Strand.entries, List.map_append] at apart
  have entered : (token, r) ∈ s.tasks.filterMap Task.entry? := List.mem_filterMap.mpr ⟨_, adding, rfl⟩
  have disjoint := (List.nodup_append.mp apart).2.2
  exact disjoint _ (List.mem_map_of_mem entered) _ (List.mem_map_of_mem flying) rfl

theorem Move.unbuilt (move : Move key s s') (tracked : s.Tracked) (bound : s.Bound) {token : Int}
    {r : Nat} (member : .adding token r ∈ s'.tasks) : .queryBuilt token ∉ s'.marks := by
  intro built
  rcases move.building tracked built with known | ⟨k, -, flying⟩
  · rcases move.tasks member with before | begun
    · exact bound.unbuilt token r before known
    · have given := bound.given token known
      have new : token = s.book.nextToken := begun
      omega
  · exact (move.tracked tracked).waiting member flying

-- What is in flight was built under the parent that is bound: a binding that is over has dropped all.
theorem Move.builtUnder (move : Move key s s') (tracked : s.Tracked) (bound : s.Bound) {e : Int × Nat}
    (member : e ∈ s'.book.inFlight) (built : .queryBuilt e.1 ∈ s'.marks) : BuiltUnder e.1 s'.marks := by
  have before (known : .queryBuilt e.1 ∈ s.marks) : BuiltUnder e.1 s.marks := by
    rcases move.flying member with flying | adding
    · exact bound.flying e flying known
    · exact absurd known (bound.unbuilt e.1 e.2 adding)
  rcases move.justified tracked with same | ⟨n, more, justified⟩
  · rw [same] at built ⊢
    exact before built
  · rw [more] at built ⊢
    by_cases own : n = .queryBuilt e.1
    · rw [own]
      exact .built e.1 s.marks
    · have known := (List.mem_cons.mp built).resolve_left (Ne.symm own)
      -- a mark that ends a binding is left when nothing is in flight any more
      refine (before known).cons fun settled => ?_
      rw [settled] at justified
      have none : s'.book.inFlight = [] := justified
      rw [none] at member
      cases member

theorem Move.bound (move : Move key s s') (tracked : s.Tracked) (bound : s.Bound) : s'.Bound := by
  have next := move.nextToken
  refine { asking := ?_, asked := ?_, given := ?_, unbuilt := ?_, flying := ?_, replaced := ?_ }
  · intro token query member
    rcases move.tasks member with known | begun
    · exact move.older (bound.asking token query known)
    · exact begun.1
  · intro c member token keep purpose
    rcases move.calls member purpose with known | ⟨query, asking⟩
    · exact move.older (bound.asked c known token keep purpose)
    · exact move.older (bound.asking token query asking)
  · intro token member
    rcases move.building tracked member with known | ⟨r, adding, flying⟩
    · have before := bound.given token known
      omega
    · exact (move.tracked tracked).fresh (List.mem_append_right _ flying)
  · exact fun token r member => move.unbuilt tracked bound member
  · exact fun e member built => move.builtUnder tracked bound member built
  · intro newer token latest older split
    rcases move.justified tracked with same | ⟨n, more, justified⟩
    · rw [same] at split
      exact bound.replaced newer token latest older split
    · rw [more] at split
      cases newer with
      | nil =>
        obtain ⟨rfl, rfl⟩ := List.cons.inj split
        obtain ⟨r, answered⟩ := justified
        exact answered.under bound
      | cons m newer =>
        exact bound.replaced newer token latest older (List.cons.inj split).2

theorem Path.bound (path : Path key {} s) : s.Bound ∧ underway s.marks = s.tasks.countP Task.isBinding := by
  induction path with
  | refl =>
    refine ⟨{ asking := ?_, asked := ?_, given := ?_, unbuilt := ?_, flying := ?_, replaced := ?_ }, rfl⟩
    · exact fun _ _ member => nomatch member
    · exact fun _ member => nomatch member
    · exact fun _ member => nomatch member
    · exact fun _ _ member => nomatch member
    · exact fun _ member => nomatch member
    · intro newer token latest older split
      cases newer <;> cases split
  | tail before move ih => exact ⟨move.bound (Path.tracked before) ih.1, move.binding ih.2⟩

end Strand

namespace Application
open Strand

variable {w : Application} {key : Nat}

-- Every page that was shown was asked for with a query that was built before. A parent was bound in
-- between just where more bindings were under way when the page was shown than when the query was
-- built: each of those began in between and had not dropped yet what was in flight. At rest no
-- binding is under way.
theorem shown_under_parent (reached : Reached w) (key : Nat) :
    underway (w.marks key) = 0 ∧
    ∀ newer token latest older, w.marks key = newer ++ .rowsReplaced token latest :: older →
      ∃ since before, older = since ++ .queryBuilt token :: before ∧ .queryBuilt token ∉ since ∧
        (.parentBound ∉ since ↔ underway older = underway before) := by
  obtain ⟨bound, bindings⟩ := Path.bound (reached.path key)
  rw [marks_strand] at bindings
  refine ⟨bindings, fun newer token latest older split => ?_⟩
  rw [← marks_strand [] w key] at split
  obtain ⟨since, before, built, last, unsettled⟩ := bound.replaced newer token latest older split
  refine ⟨since, before, built, last, ?_⟩
  have more := underway_append unsettled (.queryBuilt token :: before)
  rw [← built] at more
  change underway older = since.count .parentBound + underway before at more
  rw [← List.count_eq_zero]
  omega

def entity (id : String) : Value := .map [("id", .text id)]

-- Rows are selected and a page is on its way when another parent is bound; the page comes while the
-- cleared selection is announced.
def crossed : Application :=
  let plan := TableSheet.plan
    { parentStatic := some "GroupID",
      table := some (.ok { rowSelection := { enabled := true, multiple := true } }) }
  let answer (call : Int) (id : String) : Step := .complete call (.page [entity id] none)
  (opened { plan, parent := entity "g1" }).played 2
    [.table 0 .refresh, answer 0 "a", .table 0 (.select [.text "a"]), .table 0 .refresh,
      .on 0 .selectionChanged [answer 1 "b"], .table 0 (.setParent (entity "g2"))]

theorem crossed_reached : Reached crossed := (opened_reached _).played 2 _

theorem crossed_marks : crossed.marks 0 = [.recounted, .parentSettled, .recounted] ++
    .rowsReplaced 1 1 :: [.parentBound, .recounted, .queryBuilt 1, .recounted, .rowsReplaced 0 0,
      .recounted, .queryBuilt 0] := by decide +kernel

theorem crossed_shown :
    Reached crossed ∧ (crossed.view 0).parent.same (entity "g2") = true ∧
    Value.sameItems (crossed.view 0).rows [entity "b"] = true ∧
    ∃ newer older, crossed.marks 0 =
      newer ++ .rowsReplaced 1 1 :: .parentBound :: .recounted :: .queryBuilt 1 :: older :=
  ⟨crossed_reached, by decide +kernel, by decide +kernel, _, _, crossed_marks⟩

theorem crossed_underway :
    underway (crossed.marks 0) = 0 ∧
    ∃ since before, [.parentBound, .recounted, .queryBuilt 1, .recounted, .rowsReplaced 0 0, .recounted,
        .queryBuilt 0] = since ++ .queryBuilt 1 :: before ∧ .queryBuilt 1 ∉ since ∧
      (.parentBound ∉ since ↔ 1 = underway before) := by
  obtain ⟨rest, shown⟩ := shown_under_parent crossed_reached 0
  exact ⟨rest, shown _ 1 1 _ crossed_marks⟩

end Application

end PagedTable
