import PagedTable.Proofs.ChangeReports
import PagedTable.Proofs.SettingPaths

namespace PagedTable

namespace Settings

-- Where the page size of a table lies, by the segments of its id; with none the general size.
def place (owner : List String) : List String := "evdash" :: "tables" :: (owner ++ [pageSizeName])

def sizeAt (content : Fields) (owner : List String) : Value :=
  (below? (place owner) (.map content)).getD .null

-- The preferences of an inner table lie below the page size of its owner.
def Under (owner inner : List String) : Prop := owner ++ [pageSizeName] <+: inner

instance (owner inner : List String) : Decidable (Under owner inner) :=
  inferInstanceAs (Decidable (_ <+: _))

-- The number of rows that a setting asks for; what is no positive integer asks for the default.
def rowsOf (v : Value) : Int := (Workspace.pageSize? v).getD defaultPageSize

def startingRows (content : Fields) (id : String) : Int :=
  rowsOf (orElse (sizeAt content (Path.segments id)) (sizeAt content []))

variable {content next : Fields} {id : String} {owner : List String} {n : Int}

theorem segments_sizeKey (named : id ≠ "") :
    Path.segments (tableKey (some id) pageSizeName) = place (Path.segments id) := by
  have tables : Path.segments tablesKey = ["evdash", "tables"] := by decide +kernel
  have name : Path.segments pageSizeName = [pageSizeName] := by decide +kernel
  rw [tableKey, if_neg named, Path.segments_dot, Path.segments_dot, tables, name]
  rfl

theorem segments_generalKey : Path.segments (tableKey none pageSizeName) = place [] := by decide +kernel

theorem tableSetting_named (named : id ≠ "") (content : Fields) :
    tableSetting content (some id) pageSizeName .null =
      orElse (sizeAt content (Path.segments id)) (sizeAt content []) := by
  have own : get content (tableKey (some id) pageSizeName) .null = sizeAt content (Path.segments id) := by
    rw [get, get?, segments_sizeKey named]
    rfl
  have general : get content (tableKey none pageSizeName) .null = sizeAt content [] := by
    rw [get, get?, segments_generalKey]
    rfl
  have isNamed : isNamed (some id) = true := by simpa [Settings.isNamed] using named
  rw [tableSetting, isNamed, if_pos rfl, own, general]
  generalize orElse (sizeAt content (Path.segments id)) (sizeAt content []) = found
  cases found <;> rfl

theorem place_leads {inner : List String} :
    place owner <+: place inner ↔ owner = inner ∨ Under owner inner := by
  simp only [place, List.cons_prefix_cons, true_and, List.prefix_concat_iff, List.append_cancel_right_eq]
  rfl

theorem Under.longer {inner : List String} (under : Under owner inner) : owner.length < inner.length := by
  have length := under.length_le
  rw [List.length_append] at length
  exact length

section Writing

-- The settings after the size of a table has been written.
variable (stored : .map next = store (.int n) (place owner) (.map content))

include stored

theorem sizeAt_written : sizeAt next owner = .int n := by
  rw [sizeAt, stored, below?_store]
  rfl

theorem sizeAt_above {other : List String} (under : Under other owner) :
    ∃ fields, sizeAt next other = .map fields := by
  obtain ⟨rest, rfl⟩ := under
  have split : place (other ++ [pageSizeName] ++ rest) = place other ++ (rest ++ [pageSizeName]) := by
    simp [place]
  cases last : rest ++ [pageSizeName] with
  | nil => simp at last
  | cons part parts =>
    obtain ⟨fields, found⟩ := below?_store_above (.int n) (place other) part parts (.map content)
    refine ⟨fields, ?_⟩
    rw [sizeAt, stored, split, last, found]
    rfl

theorem sizeAt_below {other : List String} (under : Under owner other) : sizeAt next other = .null := by
  obtain ⟨rest, rfl⟩ := under
  have split : place (owner ++ [pageSizeName] ++ rest) = place owner ++ (rest ++ [pageSizeName]) := by
    simp [place]
  have none : below? (rest ++ [pageSizeName]) (.int n) = none := below?_plain nofun (by simp)
  rw [sizeAt, stored, split, below?_append, below?_store, Option.bind_some, none]
  rfl

theorem sizeAt_apart {other : List String} (distinct : other ≠ owner) (above : ¬Under other owner)
    (below : ¬Under owner other) : sizeAt next other = sizeAt content other := by
  have off : ¬place other <+: place owner := by
    rw [place_leads, not_or]
    exact ⟨distinct, above⟩
  have out : ¬place owner <+: place other := by
    rw [place_leads, not_or]
    exact ⟨Ne.symm distinct, below⟩
  rw [sizeAt, stored, below?_store_apart _ _ off out]
  rfl

end Writing

def generalRows (content : Fields) (id : String) : Int :=
  if Under [] (Path.segments id) then defaultPageSize else rowsOf (sizeAt content [])

-- How writing the size of a table gets in the way of another one.
inductive Disturbed (content : Fields) (id other : String) : Prop where
  -- The other size makes way for a map in which the one written lies.
  | replaced (under : Under (Path.segments other) (Path.segments id))
      (changed : startingRows content other ≠ defaultPageSize)
  -- What the other size lay in makes way for a number.
  | buried (under : Under (Path.segments id) (Path.segments other))
      (own : sizeAt content (Path.segments other) ≠ .null)
      (changed : startingRows content other ≠ generalRows content id)
  -- The general size, which the other table falls back to, makes way for a map.
  | orphaned (under : Under [] (Path.segments id)) (bare : sizeAt content (Path.segments other) = .null)
      (changed : rowsOf (sizeAt content []) ≠ defaultPageSize)

theorem startingRows_bare {other : String} (bare : sizeAt content (Path.segments other) = .null) :
    startingRows content other = rowsOf (sizeAt content []) := by
  rw [startingRows, bare]
  rfl

theorem startingRows_own {other : String} (own : sizeAt content (Path.segments other) ≠ .null) :
    startingRows content other = rowsOf (sizeAt content (Path.segments other)) := by
  have present : (sizeAt content (Path.segments other)).isNull = false := by
    generalize sizeAt content (Path.segments other) = v at own ⊢
    cases v with
    | null => exact absurd rfl own
    | _ => rfl
  rw [startingRows, orElse, present, if_neg Bool.false_ne_true]

-- Where the other table lies decides which of these can be.
theorem disturbed_above {other : String} (above : Under (Path.segments other) (Path.segments id)) :
    Disturbed content id other ↔ startingRows content other ≠ defaultPageSize := by
  refine ⟨?_, .replaced above⟩
  rintro (⟨-, changed⟩ | ⟨below, -, -⟩ | ⟨-, bare, changed⟩)
  · exact changed
  · exact absurd above.longer (Nat.lt_asymm below.longer)
  · rw [startingRows_bare bare]
    exact changed

theorem disturbed_bare {other : String} (above : ¬Under (Path.segments other) (Path.segments id))
    (bare : sizeAt content (Path.segments other) = .null) : Disturbed content id other ↔
      Under [] (Path.segments id) ∧ rowsOf (sizeAt content []) ≠ defaultPageSize := by
  refine ⟨?_, fun ⟨under, changed⟩ => .orphaned under bare changed⟩
  rintro (⟨covered, -⟩ | ⟨-, own, -⟩ | ⟨under, -, changed⟩)
  · exact absurd covered above
  · exact absurd bare own
  · exact ⟨under, changed⟩

theorem disturbed_below {other : String} (below : Under (Path.segments id) (Path.segments other))
    (own : sizeAt content (Path.segments other) ≠ .null) :
    Disturbed content id other ↔ startingRows content other ≠ generalRows content id := by
  refine ⟨?_, .buried below own⟩
  rintro (⟨above, -⟩ | ⟨-, -, changed⟩ | ⟨-, bare, -⟩)
  · exact absurd above.longer (Nat.lt_asymm below.longer)
  · exact changed
  · exact absurd bare own

theorem undisturbed_apart {other : String} (above : ¬Under (Path.segments other) (Path.segments id))
    (below : ¬Under (Path.segments id) (Path.segments other))
    (own : sizeAt content (Path.segments other) ≠ .null) : ¬Disturbed content id other := by
  rintro (⟨covered, -⟩ | ⟨under, -, -⟩ | ⟨-, bare, -⟩)
  · exact above covered
  · exact below under
  · exact own bare

section Tables

variable (stored : .map next = store (.int n) (place (Path.segments id)) (.map content))

include stored

theorem startingRows_written (pos : 0 < n) : startingRows next id = n := by
  have own := sizeAt_written stored
  have used : sizeAt next (Path.segments id) ≠ .null := by
    rw [own]
    exact nofun
  rw [startingRows_own used, own, rowsOf, Workspace.pageSize?, if_pos pos]
  rfl

theorem generalRows_written : rowsOf (sizeAt next []) = generalRows content id := by
  unfold generalRows
  split
  · rename_i under
    obtain ⟨fields, map⟩ := sizeAt_above stored under
    rw [map]
    rfl
  · rename_i apart
    have below : ¬Under (Path.segments id) [] := by
      intro under
      exact absurd under.longer (Nat.not_lt_zero _)
    rw [sizeAt_apart stored (Path.segments_some id).symm apart below]

theorem startingRows_kept {other : String} (distinct : other ≠ id) :
    startingRows next other = startingRows content other ↔ ¬Disturbed content id other := by
  by_cases above : Under (Path.segments other) (Path.segments id)
  · obtain ⟨fields, map⟩ := sizeAt_above stored above
    have after : startingRows next other = defaultPageSize := by
      rw [startingRows, map]
      rfl
    rw [after, disturbed_above above, not_not, eq_comm]
  · have general := generalRows_written stored
    have distinctSegments : Path.segments other ≠ Path.segments id :=
      fun same => distinct (Path.segments_injective same)
    by_cases bare : sizeAt content (Path.segments other) = .null
    · -- The other table has no size of its own, before and after, and has the general one.
      have still : sizeAt next (Path.segments other) = .null := by
        by_cases below : Under (Path.segments id) (Path.segments other)
        · exact sizeAt_below stored below
        · rw [sizeAt_apart stored distinctSegments above below, bare]
      rw [startingRows_bare still, startingRows_bare bare, general, disturbed_bare above bare, generalRows]
      split
      · rename_i under
        rw [and_iff_right under, not_not, eq_comm]
      · rename_i apart
        exact iff_of_true rfl fun disturbed => apart disturbed.1
    · by_cases below : Under (Path.segments id) (Path.segments other)
      · rw [startingRows_bare (sizeAt_below stored below), general, disturbed_below below bare, not_not, eq_comm]
      · have same := sizeAt_apart stored distinctSegments above below
        rw [startingRows_own (same ▸ bare), startingRows_own bare, same]
        exact iff_of_true rfl (undisturbed_apart above below bare)

end Tables

theorem undisturbed_of_bare {other : String} (one : '.' ∉ id.toList) (two : '.' ∉ other.toList)
    (apart : id ≠ pageSizeName) : ¬Disturbed content id other := by
  have first := Path.segments_bare one
  have second := Path.segments_bare two
  rintro (⟨under, -⟩ | ⟨under, -, -⟩ | ⟨under, -, -⟩)
  · rw [first, second] at under
    exact absurd under.longer (Nat.lt_irrefl _)
  · rw [first, second] at under
    exact absurd under.longer (Nat.lt_irrefl _)
  · rw [first, Under, List.nil_append, List.cons_prefix_cons] at under
    exact apart under.1.symm

def sizeKey (id : String) : String := tableKey (some id) pageSizeName

-- A value that equals the size stands in its place already, so that nothing is written.
def AlreadyThere (content : Fields) (id : String) (n : Int) : Prop :=
  ∃ old, get? content (sizeKey id) = some old ∧ old.same (.int n) = true

theorem rowsOf_same {old : Value} (pos : 0 < n) (same : old.same (.int n) = true) :
    rowsOf old = n ↔ n = defaultPageSize ∨ old = .int n := by
  cases old with
  | number x =>
    rw [Value.same] at same
    cases x with
    | int m =>
      have equal : m = n := by simpa [Number.same, Number.value] using same
      rw [equal, rowsOf, Workspace.pageSize?, if_pos pos]
      simp
    | real y => simp [rowsOf, Workspace.pageSize?, eq_comm]
    | truth b => simp [rowsOf, Workspace.pageSize?, eq_comm]
  | _ => simp [Value.same] at same

end Settings

namespace Workspace
open Settings

variable {w : Workspace} {id : String} {n : Int}

theorem pageSizeOf_named (unset : w.variablePageSize? = none) (named : id ≠ "") :
    w.pageSizeOf (some id) = startingRows w.settings id := by
  rw [pageSizeOf, unset, tableSetting_named named]
  rfl

structure Remembered (before after : Workspace) (id : String) (n : Int) : Prop where
  own : after.pageSizeOf (some id) = n ↔
    n = defaultPageSize ∨ ∀ old, get? before.settings (sizeKey id) = some old →
      old.same (.int n) = true → old = .int n
  others : ∀ other, other ≠ "" → other ≠ id →
    (after.pageSizeOf (some other) = before.pageSizeOf (some other) ↔
      AlreadyThere before.settings id n ∨ ¬Disturbed before.settings id other)
  plain : '.' ∉ id.toList → id ≠ pageSizeName → ∀ other, other ≠ "" → '.' ∉ other.toList → other ≠ id →
    after.pageSizeOf (some other) = before.pageSizeOf (some other)

theorem setSetting_remembered (unset : w.variablePageSize? = none) (named : id ≠ "") (pos : 0 < n) :
    w.Remembered (w.setSetting (sizeKey id) (.int n)) id n := by
  have later : (w.setSetting (sizeKey id) (.int n)).variablePageSize? = none := unset
  have others : ∀ other, other ≠ "" → other ≠ id →
      ((w.setSetting (sizeKey id) (.int n)).pageSizeOf (some other) = w.pageSizeOf (some other) ↔
        AlreadyThere w.settings id n ∨ ¬Disturbed w.settings id other) := by
    intro other otherNamed distinct
    rw [pageSizeOf_named unset otherNamed, pageSizeOf_named later otherNamed, setSetting, put]
    rcases put_cases w.settings (sizeKey id) (.int n) with ⟨old, found, same, unchanged⟩ |
      ⟨missing, next, changed, stored⟩
    · rw [unchanged]
      exact iff_of_true rfl (.inl ⟨old, found, same⟩)
    · rw [sizeKey, segments_sizeKey named] at stored
      have unlike : ¬AlreadyThere w.settings id n := by
        rintro ⟨old, found, same⟩
        rw [missing old found] at same
        cases same
      rw [changed, Option.getD_some, or_iff_right unlike]
      exact startingRows_kept stored distinct
  refine ⟨?_, others, ?_⟩
  · rw [pageSizeOf_named later named, setSetting, put]
    rcases put_cases w.settings (sizeKey id) (.int n) with ⟨old, found, same, unchanged⟩ |
      ⟨missing, next, changed, stored⟩
    · -- an equal value was there, so the table goes by what it had
      have place : sizeAt w.settings (Path.segments id) = old := by
        rw [sizeAt, ← segments_sizeKey named]
        exact get_of_found found .null
      have used : sizeAt w.settings (Path.segments id) ≠ .null := by
        rw [place]
        rintro rfl
        simp [Value.same] at same
      rw [unchanged, Option.getD_none, startingRows_own used, place, rowsOf_same pos same, found]
      simp [same]
    · rw [sizeKey, segments_sizeKey named] at stored
      rw [changed, Option.getD_some]
      refine iff_of_true (startingRows_written stored pos) (.inr ?_)
      intro old found same
      rw [missing old found] at same
      cases same
  · intro one apart other otherNamed two distinct
    exact (others other otherNamed distinct).mpr (.inr (undisturbed_of_bare one two apart))

end Workspace

namespace Application
open Settings

variable {w : Application} {key : Nat}

theorem setPageSize_workspace {size : Number} (named : (w.view key).plan.tableId ≠ "")
    (told : ((setPageSize key size true).outcome w).1 = .ok (.truth true)) :
    ((setPageSize key size true).outcome w).2.workspace =
      w.workspace.setSetting (sizeKey (w.view key).plan.tableId) (.number size) := by
  have plan : ((w.view key).setPageSize size).1.plan = (w.view key).plan := by
    unfold TableView.setPageSize
    split
    · rfl
    · split <;> rfl
  have sized : (w.modifyView key fun _ => ((w.view key).setPageSize size).1).view key =
      ((w.view key).setPageSize size).1 := view_modifyView _
  unfold setPageSize at told ⊢
  rw [Act.outcome_bind, outcome_onView] at told ⊢
  cases outcome : ((w.view key).setPageSize size).2 with
  | error e =>
    rw [outcome] at told
    cases told
  | ok changed =>
    rw [outcome] at told
    dsimp only at told ⊢
    rw [Act.outcome_get_bind] at told ⊢
    rw [sized, plan] at told ⊢
    cases changed with
    | false => cases told
    | true =>
      rw [if_pos (by simpa using named)]
      rfl

-- A page size that is set and remembered is the one that its table starts with from then on, unless an
-- equal number of another kind stands in its place; and another table starts with as many rows as before
-- unless its id and that of the table get in the way of each other, which ids without dots do not.
theorem page_size_remembered (run : Run) (unset : w.workspace.variablePageSize? = none)
    (named : (w.view key).plan.tableId ≠ "") {n : Int} (pos : 0 < n)
    (told : ((performTable run key (.setPageSize (.int n) true)).outcome w).1 = .ok (.truth true)) :
    w.workspace.Remembered ((performTable run key (.setPageSize (.int n) true)).outcome w).2.workspace
      (w.view key).plan.tableId n := by
  have written := setPageSize_workspace named told
  rw [show performTable run key (.setPageSize (.int n) true) = setPageSize key (.int n) true from rfl,
    written]
  exact Workspace.setSetting_remembered unset named pos

def preferring (id : String) (tables : Fields) : Application :=
  (openTable 0 { plan := { tableId := id } }).after
    { workspace := { settings := [("evdash", .map [("tables", .map tables)])] } }

def resized (id : String) (tables : Fields) (n : Int) : Except Fault Answer × Application :=
  (performTable (runTo 0) 0 (.setPageSize (.int n) true)).outcome (preferring id tables)

def twenty : Number := .real ((Binary64.ofInt 20).getD .zero)

-- A fraction that equals the size keeps its place, and is no size: the table starts with the default. And
-- the preferences of a table by the name of the size take the place of the general size.
theorem sizes_misplaced :
    ((resized "people" [("people", .map [("page_size", .number twenty)])] 20).1 = .ok (.truth true) ∧
      (resized "people" [("people", .map [("page_size", .number twenty)])] 20).2.workspace.pageSizeOf
        (some "people") = 50) ∧
    (resized "page_size" [("page_size", .int 25)] 20).1 = .ok (.truth true) ∧
      (preferring "page_size" [("page_size", .int 25)]).workspace.pageSizeOf (some "people") = 25 ∧
      (resized "page_size" [("page_size", .int 25)] 20).2.workspace.pageSizeOf (some "people") = 50 := by
  refine ⟨⟨?_, by decide +kernel⟩, ?_, by decide +kernel, by decide +kernel⟩
  · with_unfolding_all rfl
  · with_unfolding_all rfl

-- Text where the size should be is replaced, and a table without a size of its own keeps the general one.
theorem text_replaced :
    let tables : Fields := [("page_size", .int 25), ("people", .map [("page_size", .text "many")])]
    (preferring "people" tables).workspace.variablePageSize? = none ∧
    ((preferring "people" tables).view 0).plan.tableId ≠ "" ∧
    (resized "people" tables 20).1 = .ok (.truth true) ∧
    (resized "people" tables 20).2.workspace.pageSizeOf (some "people") = 20 ∧
    (resized "people" tables 20).2.workspace.pageSizeOf (some "sites") =
      (preferring "people" tables).workspace.pageSizeOf (some "sites") := by
  intro tables
  have unset : (preferring "people" tables).workspace.variablePageSize? = none := by with_unfolding_all rfl
  have named : ((preferring "people" tables).view 0).plan.tableId ≠ "" := by decide +kernel
  have told : (resized "people" tables 20).1 = .ok (.truth true) := by with_unfolding_all rfl
  have id : ((preferring "people" tables).view 0).plan.tableId = "people" := by decide +kernel
  have text : get? (preferring "people" tables).workspace.settings (sizeKey "people") = some (.text "many") := by
    with_unfolding_all rfl
  have remembered := page_size_remembered (runTo 0) unset named (by decide) told
  rw [id] at remembered
  refine ⟨unset, named, told, remembered.own.mpr (.inr ?_), ?_⟩
  · intro old found same
    rw [text] at found
    cases found
    simp [Value.same] at same
  · exact remembered.plain (by decide +kernel) (by decide +kernel) "sites" (by decide +kernel)
      (by decide +kernel) (by decide +kernel)

end Application

end PagedTable
