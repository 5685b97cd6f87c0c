import PagedTable.Proofs.ClosedTable
import PagedTable.Proofs.PageSelection

namespace PagedTable

-- A row has an identity, which is the given one or equal to it.
def Value.Carries (row : Value) (field : String) (id : Value) : Prop :=
  ∃ own, row.identity field = .ok own ∧ (own = id ∨ own.same id = true)

-- Among the rows there is one of the identity that may be selected.
def Offered (rows : List Value) (field : String) (id : Value) : Prop :=
  ∃ row ∈ rows, row.selectable = true ∧ row.Carries field id

theorem Offered.real {rows : List Value} {field : String} {id : Value} (offered : Offered rows field id) :
    id.isNull = false := by
  obtain ⟨row, -, -, own, found, rfl | same⟩ := offered
  · exact Value.identity_real found
  · refine Bool.eq_false_iff.mpr fun null => ?_
    rw [Value.isNull_iff.mp null] at same
    have there := Value.identity_real found
    rw [Value.same_null.mp same] at there
    cases there

-- What a description asks of the rows of the page and those that are selected.
def Rule := TableDescriptor → List Value → List Value → Prop

namespace Rule

def eligible : Rule := fun d rows ids => ∀ id ∈ ids, Offered rows d.table.rowIdField id

def single : Rule := fun d _ ids => d.table.rowSelection.multiple = false → ids.length ≤ 1

def Selects (rule : Rule) : Prop := ∀ d rows chosen, d.table.rowSelection.enabled = true →
  (∀ id ∈ chosen, ∃ row ∈ rows, row.selectable = true ∧ row.identity d.table.rowIdField = .ok id) →
  (d.table.rowSelection.multiple = false → chosen.length ≤ 1) → rule d rows chosen

theorem eligible_selects : eligible.Selects := by
  intro d rows chosen _ drawn _ id member
  obtain ⟨row, inside, free, own⟩ := drawn id member
  exact ⟨row, inside, free, id, own, .inl rfl⟩

theorem single_selects : single.Selects := fun _ _ _ _ _ one => one

end Rule

namespace TableView

variable {v v' : TableView} {rule : Rule}

-- The selection keeps to a rule, by the description that is kept for the mode.
def Obeys (v : TableView) (rule : Rule) : Prop :=
  v.selected ≠ [] → ∃ n d, Entries.get? v.mode v.described = some (n, d) ∧ rule d v.rows v.selected

theorem Obeys.none (none : v.selected = []) : v.Obeys rule := fun some => absurd none some

theorem not_eligible_of_barred (some : v.selected ≠ [])
    (barred : ∀ row ∈ v.rows, row.selectable = false) : ¬ v.Obeys .eligible := by
  intro obeys
  obtain ⟨n, d, -, offered⟩ := obeys some
  obtain ⟨id, member⟩ := List.exists_mem_of_ne_nil _ some
  obtain ⟨row, inside, free, -⟩ := offered id member
  rw [barred row inside] at free
  cases free

theorem not_single_of_crowded (several : 1 < v.selected.length)
    (narrow : (Entries.get? v.mode v.described).all
      (fun known => !known.2.table.rowSelection.multiple) = true) : ¬ v.Obeys .single := by
  intro obeys
  obtain ⟨n, d, cached, one⟩ := obeys (List.ne_nil_of_length_pos (Nat.lt_of_succ_lt several))
  rw [cached] at narrow
  exact Nat.not_le_of_lt several (one (by simpa using narrow))

theorem Steady.obeys (steady : Steady v v') (obeys : v.Obeys rule) : v'.Obeys rule := by
  intro some
  rw [steady.selected] at some
  obtain ⟨n, d, cached, holds⟩ := obeys some
  rw [steady.mode, steady.rows.1, steady.selected]
  exact ⟨n, d, steady.cached _ cached, holds⟩

theorem select_obeys (selects : rule.Selects) {ids chosen : List Value}
    (allowed : (v.selection ids).2 = .ok (some chosen)) :
    ({ (v.selection ids).1 with selected := chosen } : TableView).Obeys rule := by
  intro _
  obtain ⟨n, d, cached, enabled, drawn, one⟩ := selection_chosen allowed
  have steady : Steady v (v.selection ids).1 := (selection_described v ids).steady
  refine ⟨n, d, ?_, selects d _ chosen enabled (fun id member => ?_) one⟩
  · change Entries.get? (v.selection ids).1.mode (v.selection ids).1.described = _
    rw [steady.mode]
    exact cached
  · obtain ⟨row, inside, own⟩ := drawn id member
    exact ⟨row, steady.rows.1 ▸ inside, own⟩

theorem Change.obeys (selects : rule.Selects) (change : Change v v') (obeys : v.Obeys rule) :
    v'.Obeys rule := by
  rcases change.steady with steady | ⟨ids, chosen, allowed, rfl⟩ | rfl | ⟨name, value, entity, -, rfl⟩
  · exact steady.obeys obeys
  · exact select_obeys selects allowed
  · exact .none rfl
  · exact obeys

section Pages

theorem Left.fewer {page : Page} {keep : Bool} {xs : List Value} (left : v.Left page keep xs) :
    xs.length ≤ v.selected.length := by
  cases left with
  | untold | same => exact Nat.le_refl _
  | other survives =>
    cases keep with
    | false =>
      cases survives
      exact Nat.zero_le _
    | true =>
      obtain ⟨ids, rfl⟩ := surviving_common survives
      exact common_fewer

theorem Left.none_of_none {page : Page} {keep : Bool} {xs : List Value} (left : v.Left page keep xs)
    (none : v.selected = []) : xs = [] := by
  have fewer := left.fewer
  rw [none] at fewer
  exact List.eq_nil_of_length_eq_zero (Nat.le_zero.mp fewer)

theorem shown_obeys {page : Page} {u : TableView} {xs : List Value}
    (steady : Steady { v with rows := page.rows, total := page.total } u) {n : Nat} {d : TableDescriptor}
    (cached : Entries.get? v.mode v.described = some (n, d)) (holds : rule d page.rows xs) :
    ({ u with selected := xs } : TableView).Obeys rule := by
  intro _
  refine ⟨n, d, ?_, ?_⟩
  · change Entries.get? u.mode u.described = _
    rw [steady.mode]
    exact steady.cached _ cached
  · change rule d u.rows xs
    rw [steady.rows.1]
    exact holds

theorem shown_single (obeys : v.Obeys .single) (page : Page) (keep : Bool) :
    (v.shown page keep).Obeys .single := by
  obtain ⟨u, xs, steady, shown, left⟩ := shown_left v page keep
  rw [shown]
  intro some
  obtain ⟨n, d, cached, one⟩ := obeys fun none => some (left.none_of_none none)
  have holds : Rule.single d page.rows xs := fun narrow => Nat.le_trans left.fewer (one narrow)
  exact shown_obeys steady cached holds some

-- With the page an identity stays selected whose rows are there, none of which may be selected; or a row
-- of the page has an identity that is no text, integer or tuple of such.
def Revokes (v : TableView) (page : Page) : Prop :=
  ∃ n d, Entries.get? v.mode v.described = some (n, d) ∧
    ((∃ row ∈ page.rows, ¬ row.Identified d.table.rowIdField) ∨
      ∃ id ∈ (v.shown page true).selected, (∃ row ∈ page.rows, row.Carries d.table.rowIdField id) ∧
        ∀ row ∈ page.rows, row.Carries d.table.rowIdField id → row.selectable = false)

theorem shown_revokes (obeys : v.Obeys .eligible) {page : Page} {keep : Bool}
    (broken : ¬ (v.shown page keep).Obeys .eligible) : keep = true ∧ v.Revokes page := by
  obtain ⟨u, xs, steady, shown, left⟩ := shown_left v page keep
  rw [shown] at broken
  have some : xs ≠ [] := fun empty => broken (.none empty)
  obtain ⟨n, d, cached, offered⟩ := obeys fun none => some (left.none_of_none none)
  have survive : v.Survivors d.table.rowIdField page keep xs :=
    left.survivors (fun id member => (offered id member).real) fun _ => ⟨n, d, cached, rfl⟩
  obtain ⟨rfl, -⟩ := survive.kept some
  refine ⟨rfl, n, d, cached, ?_⟩
  rw [shown]
  by_cases identified : ∀ row ∈ page.rows, row.Identified d.table.rowIdField
  · right
    by_cases offered : ∀ id ∈ xs, Offered page.rows d.table.rowIdField id
    · exact absurd (shown_obeys steady cached offered) broken
    · simp only [Classical.not_forall] at offered
      obtain ⟨id, member, lost⟩ := offered
      obtain ⟨row, inside, own, found, same⟩ := survive.present identified id member
      refine ⟨id, member, ⟨row, inside, own, found, .inr same⟩, fun other known carries => ?_⟩
      exact Bool.eq_false_iff.mpr fun free => lost ⟨other, known, free, carries⟩
  · left
    simpa only [Classical.not_forall, exists_prop] using identified

theorem shown_empty (v : TableView) (keep : Bool) : (v.shown Page.empty keep).selected = [] := by
  obtain ⟨u, xs, -, shown, left⟩ := shown_left v Page.empty keep
  rw [shown]
  exact left.none (by cases keep <;> rfl)

end Pages

section Modes

variable {next : TableMode}

-- The description of the other mode is the one that asks for more.
theorem inMode_breaks (broken : ¬ (v.inMode next).Obeys rule) {n : Nat} {d : TableDescriptor}
    (turned : Entries.get? (v.inMode next).mode (v.inMode next).described = some (n, d)) :
    ¬ rule d v.rows v.selected := by
  intro holds
  obtain ⟨u, steady, same | none⟩ := inMode_turned v next
  · rw [same] at broken turned
    refine broken fun _ => ⟨n, d, turned, ?_⟩
    rw [steady.rows.1, steady.selected]
    exact holds
  · rw [none] at broken
    exact broken (.none rfl)

-- The rows do not lie by the field of the mode before, where both modes have a description.
def Relocates (v : TableView) (next : TableMode) : Prop :=
  ∀ m c n d, Entries.get? v.mode v.described = some (m, c) →
    Entries.get? (v.inMode next).mode (v.inMode next).described = some (n, d) →
    d.table.rowIdField ≠ c.table.rowIdField

theorem inMode_relocates (obeys : v.Obeys .eligible) (broken : ¬ (v.inMode next).Obeys .eligible) :
    v.Relocates next := by
  intro m c n d cached turned lies
  refine inMode_breaks broken turned fun id member => ?_
  obtain ⟨k, b, kept, offered⟩ := obeys (List.ne_nil_of_mem member)
  obtain ⟨rfl, rfl⟩ := Prod.mk.inj (Option.some.inj (cached.symm.trans kept))
  rw [lies]
  exact offered id member

-- More are selected than may be in the other mode, where that has a description.
def Narrows (v : TableView) (next : TableMode) : Prop :=
  ∀ n d, Entries.get? (v.inMode next).mode (v.inMode next).described = some (n, d) →
    d.table.rowSelection.multiple = false ∧ 1 < v.selected.length

theorem inMode_narrows (broken : ¬ (v.inMode next).Obeys .single) : v.Narrows next := by
  intro n d turned
  obtain ⟨narrow, several⟩ := Classical.not_imp.mp (inMode_breaks broken turned)
  exact ⟨narrow, Nat.lt_of_not_le several⟩

end Modes

end TableView

namespace Sight

-- What is about to happen breaks a rule: a page is shown, or the mode is switched.
inductive Breaks (rule : Rule) (g : Sight) : Prop where
  | page (page : Page) (keep : Bool) (showing : g.occasion = .showing page keep)
      (broken : ¬ (g.table.view.shown page keep).Obeys rule)
  | mode (next : TableMode) (turning : g.occasion = .turning next)
      (broken : ¬ (g.table.view.inMode next).Obeys rule)

inductive Bars (g : Sight) : Prop where
  | page (page : Page) (showing : g.occasion = .showing page true)
      (broken : ¬ (g.table.view.shown page true).Obeys .eligible) (revokes : g.table.view.Revokes page)
  | mode (next : TableMode) (turning : g.occasion = .turning next)
      (broken : ¬ (g.table.view.inMode next).Obeys .eligible) (relocates : g.table.view.Relocates next)

inductive Crowds (g : Sight) : Prop where
  | mode (next : TableMode) (turning : g.occasion = .turning next)
      (broken : ¬ (g.table.view.inMode next).Obeys .single) (narrows : g.table.view.Narrows next)

theorem Breaks.bars {g : Sight} (breaks : g.Breaks .eligible) (obeys : g.table.view.Obeys .eligible) :
    g.Bars := by
  cases breaks with
  | page page keep showing broken =>
    obtain ⟨rfl, revokes⟩ := TableView.shown_revokes obeys broken
    exact .page page showing broken revokes
  | mode next turning broken => exact .mode next turning broken (TableView.inMode_relocates obeys broken)

theorem Breaks.crowds {g : Sight} (breaks : g.Breaks .single) (obeys : g.table.view.Obeys .single) :
    g.Crowds := by
  cases breaks with
  | page page keep showing broken => exact absurd (TableView.shown_single obeys page keep) broken
  | mode next turning broken => exact .mode next turning broken (TableView.inMode_narrows broken)

end Sight

-- A rule holds on an occasion that breaks it, and whenever the table was looked at since it did not.
def BrokenSince (rule : Rule) (breaks : Sight → Prop) (past : List Sight) : Prop :=
  ∃ newer g older, past = newer ++ g :: older ∧ g.table.view.Obeys rule ∧ breaks g ∧
    ∀ h ∈ newer, ¬ h.table.view.Obeys rule

namespace BrokenSince

variable {rule : Rule} {breaks : Sight → Prop} {past : List Sight}

theorem cons {g : Sight} (broken : BrokenSince rule breaks past) (unruly : ¬ g.table.view.Obeys rule) :
    BrokenSince rule breaks (g :: past) := by
  obtain ⟨newer, b, older, rfl, held, broke, since⟩ := broken
  refine ⟨g :: newer, b, older, rfl, held, broke, fun h member => ?_⟩
  rcases List.mem_cons.mp member with rfl | member
  · exact unruly
  · exact since h member

theorem imp {other : Sight → Prop} (broken : BrokenSince rule breaks past)
    (means : ∀ g ∈ past, breaks g → g.table.view.Obeys rule → other g) : BrokenSince rule other past := by
  obtain ⟨newer, g, older, split, held, broke, since⟩ := broken
  have there : g ∈ past := by
    rw [split]
    exact List.mem_append_right _ List.mem_cons_self
  exact ⟨newer, g, older, split, held, means g there broke held, since⟩

end BrokenSince

namespace Strand

variable {key : Nat} {s s' : Strand} {rule : Rule}

theorem Move.breaks (selects : rule.Selects) (move : Move key s s') (obeys : s.table.view.Obeys rule)
    (broken : ¬ s'.table.view.Obeys rule) :
    ∃ g, s'.sights = g :: s.sights ∧ g.table.view = s.table.view ∧ g.Breaks rule := by
  cases move with
  | opened unused view bare numbered keep unselected => exact absurd (.none unselected) broken
  | view change => exact absurd (change.obeys selects obeys) broken
  | turn next other => exact ⟨_, rfl, rfl, .mode next rfl broken⟩
  | receive answered page keep => exact ⟨_, rfl, rfl, .page page keep rfl broken⟩
  | empty top keep => exact absurd (.none (TableView.shown_empty _ keep)) broken
  | bind parent => exact absurd (.none rfl) broken
  | recount top =>
    obtain ⟨busy, holds, events, sights, recounted⟩ := recounted_eq key s
    rw [recounted] at broken
    exact absurd obeys broken
  | _ => exact absurd obeys broken

theorem Move.ruled (selects : rule.Selects) (move : Move key s s')
    (ruled : s.table.view.Obeys rule ∨ BrokenSince rule (Sight.Breaks rule) s.sights) :
    s'.table.view.Obeys rule ∨ BrokenSince rule (Sight.Breaks rule) s'.sights := by
  by_cases after : s'.table.view.Obeys rule
  · exact .inl after
  right
  by_cases before : s.table.view.Obeys rule
  · obtain ⟨g, more, view, breaks⟩ := move.breaks selects before after
    exact ⟨[], g, s.sights, more, view ▸ before, breaks, fun _ member => nomatch member⟩
  · have broken := ruled.resolve_left before
    rcases move.sights with same | ⟨g, more, view, -⟩
    · rw [same]
      exact broken
    · rw [more]
      exact broken.cons (by rw [view]; exact before)

end Strand

namespace Application
open Strand

variable {w : Application} {key : Nat} {v : TableView}

-- What may be looked at of a table, and on which occasions it had been looked at before.
inductive ShowsAfter (w : Application) (key : Nat) : TableView → List Sight → Prop where
  | rest : ShowsAfter w key (w.view key) (w.sightsOf key)
  | sight (seen : g :: past <:+ w.sightsOf key) : ShowsAfter w key g.table.view past

theorem Reached.shown {P : TableView → List Sight → Prop} {past : List Sight} (reached : Reached w)
    (shows : w.ShowsAfter key v past) (start : P ({} : Strand).table.view [])
    (step : ∀ {s s'}, Move key s s' → P s.table.view s.sights → P s'.table.view s'.sights) : P v past := by
  obtain ⟨here, before⟩ := Path.seen start step (reached.path key)
  cases shows with
  | rest => exact here
  | sight seen => exact before _ _ seen

theorem Reached.ruled {rule : Rule} {past : List Sight} (reached : Reached w) (selects : rule.Selects)
    (shows : w.ShowsAfter key v past) :
    v.Obeys rule ∨ BrokenSince rule (Sight.Breaks rule) past :=
  reached.shown (P := fun v past => v.Obeys rule ∨ BrokenSince rule (Sight.Breaks rule) past) shows
    (.inl (.none rfl)) fun move ruled => move.ruled selects ruled

-- Wherever a table may be looked at, what is selected may be selected, unless a page that was shown or
-- a switch of the mode broke the rule and it has not held since; and in single selection one is selected
-- at most, unless a switch of the mode broke the rule.
theorem selection_lawful (reached : Reached w) {past : List Sight} (shows : w.ShowsAfter key v past) :
    (v.Obeys .eligible ∨ BrokenSince .eligible Sight.Bars past) ∧
    (v.Obeys .single ∨ BrokenSince .single Sight.Crowds past) :=
  ⟨(reached.ruled Rule.eligible_selects shows).imp_right fun broken => broken.imp fun _ _ => Sight.Breaks.bars,
    (reached.ruled Rule.single_selects shows).imp_right fun broken => broken.imp fun _ _ => Sight.Breaks.crowds⟩

-- A row is selected, and comes again as one that may not be selected.
def barred : Application :=
  (opened { plan := selectable.plan }).played 1
    [.table 0 .refresh, .complete 0 (.page [entity "a"] none), .table 0 (.select [.text "a"]),
      .table 0 .refresh,
      .complete 1 (.page [.map [("id", .text "a"), ("is_selectable", .bool false)]] none)]

-- Two rows are selected, and the mode is switched to one in which one row may be.
def narrowed : Application :=
  let plan := { selectable with tableReadOnly := some (.ok { rowSelection := { enabled := true } }) }.plan
  (opened { plan }).played 1
    [.table 0 .refresh, .complete 0 (.page [entity "a", entity "b"] none),
      .table 0 (.select [.text "a", .text "b"]), .table 0 (.setMode (.text "RO"))]

theorem barred_rows : (barred.view 0).selected ≠ [] ∧
    ∀ row ∈ (barred.view 0).rows, row.selectable = false := by decide +kernel

theorem barred_lawless : Reached barred ∧ barred.ShowsAfter 0 (barred.view 0) (barred.sightsOf 0) ∧
    BrokenSince .eligible Sight.Bars (barred.sightsOf 0) := by
  have reached : Reached barred := (opened_reached _).played 1 _
  have unlawful := TableView.not_eligible_of_barred barred_rows.1 barred_rows.2
  exact ⟨reached, .rest, (selection_lawful reached .rest).1.resolve_left unlawful⟩

theorem selection_unlawful :
    (Reached barred ∧ Value.sameItems (barred.view 0).selected [.text "a"] = true ∧
      ¬ (barred.view 0).Obeys .eligible) ∧
    Reached narrowed ∧ (narrowed.view 0).selected.length = 2 ∧ ¬ (narrowed.view 0).Obeys .single :=
  ⟨⟨(opened_reached _).played 1 _, by decide +kernel,
      TableView.not_eligible_of_barred barred_rows.1 barred_rows.2⟩,
    (opened_reached _).played 1 _, by decide +kernel,
    TableView.not_single_of_crowded (by decide +kernel) (by decide +kernel)⟩

end Application

end PagedTable
