import PagedTable.Proofs.Lasting.Running

namespace PagedTable.Application

structure AllCoherent (w : Application) : Prop where
  views : ∀ key, (w.view key).Coherent
  seen : ∀ g ∈ w.sights, g.table.view.Coherent

theorem AllCoherent.modifyTable {w : Application} (all : w.AllCoherent) {key : Nat} {f : Table → Table}
    (coherent : (w.view key).Coherent → (f (w.table key)).view.Coherent) :
    (w.modifyTable key f).AllCoherent := by
  refine ⟨fun k => ?_, all.seen⟩
  unfold view
  by_cases own : k = key
  · subst own
    rw [table_modifyTable]
    exact coherent (all.views k)
  · rw [table_modifyTable_other own]
    exact all.views k

-- What happened before stays told, and if no parent was changed in place since, all stays coherent.
def StaysCoherent (w w' : Application) : Prop :=
  ∃ new, w'.journal = new ++ w.journal ∧
    ((∀ e ∈ new, e.alters = false) → w.AllCoherent → w'.AllCoherent)

namespace StaysCoherent

variable {u v w : Application}

theorem quiet (journal : v.journal = w.journal) (coherent : w.AllCoherent → v.AllCoherent) :
    StaysCoherent w v := ⟨[], journal, fun _ => coherent⟩

theorem refl (w : Application) : StaysCoherent w w := quiet rfl id

theorem trans (one : StaysCoherent u v) (two : StaysCoherent v w) : StaysCoherent u w := by
  obtain ⟨new, journal, coherent⟩ := one
  obtain ⟨newer, more, still⟩ := two
  refine ⟨newer ++ new, by rw [more, journal, List.append_assoc], fun silent all => ?_⟩
  exact still (fun e member => silent e (List.mem_append_left _ member))
    (coherent (fun e member => silent e (List.mem_append_right _ member)) all)

theorem sight (key : Nat) (o : Occasion) (w : Application) : StaysCoherent w (w.sight key o) := by
  refine quiet rfl fun all => ⟨all.views, fun g member => ?_⟩
  rcases List.mem_cons.mp member with rfl | before
  · exact all.views key
  · exact all.seen g before

theorem modifyTable (key : Nat) (f : Table → Table) (w : Application)
    (coherent : (w.view key).Coherent → (f (w.table key)).view.Coherent) :
    StaysCoherent w (w.modifyTable key f) := quiet rfl fun all => all.modifyTable coherent

theorem called (c : OpenCall) (w : Application) : StaysCoherent w (w.called c) := by
  refine trans (sight c.key (.asked c.purpose.errand c.call) w) ⟨[.call c.key c.call], rfl, fun _ all => ?_⟩
  exact ⟨all.views, all.seen⟩

theorem enduring : Enduring StaysCoherent where
  refl := refl
  trans := trans
  aside {w w'} beside := by
    obtain ⟨new, journal, -⟩ := beside.journal
    refine ⟨new, journal, fun _ all => ⟨fun key => ?_, ?_⟩⟩
    · unfold view table
      rw [beside.tables]
      exact all.views key
    · rw [beside.sights]
      exact all.seen
  sight := sight
  table key f w same := modifyTable key f w fun coherent => by
    rw [same]
    exact coherent
  view key f w coherent := modifyTable key _ w coherent
  paged key token keep call w := called _ w
  settle m w := quiet rfl fun all => ⟨all.views, all.seen⟩
  altered key {e w w'} alters led := by
    have journal : w'.journal = w.journal := by
      rcases led with rfl | ⟨parent, rfl⟩ <;> rfl
    refine ⟨[e], congrArg (e :: ·) journal, fun silent => ?_⟩
    rw [silent e (List.mem_singleton_self e)] at alters
    cases alters
  asked x c {w u} counted := by
    let seen := w.sight x.key (.began (.mutation w.mutations.length))
    let begun : Application := { seen with mutations := seen.mutations ++ [x] }
    have began : StaysCoherent w begun :=
      trans (sight x.key _ w) (quiet rfl fun all => ⟨all.views, all.seen⟩)
    have starting : StaysCoherent w (w.starting x) := trans began (modifyTable x.key _ begun id)
    exact trans (trans starting counted) (called _ u)

end StaysCoherent

-- What applications can come to while no entity is changed in place, neither by a step nor by a script.
inductive Undisturbed : Application → Prop where
  | start (workspace : Workspace) (modes : ProviderModes) : Undisturbed { workspace, modes }
  | opened (before : Undisturbed w) (fresh : Entries.get? k w.tables = none) (o : Opening) :
      Undisturbed ((openTable k o).after w)
  | stepped (before : Undisturbed w) (depth : Nat) (s : Step) (plain : s.alters = false)
      (silent : ∀ e ∈ ((runTo depth s).after w).journal, e.alters = false) :
      Undisturbed ((runTo depth s).after w)

variable {w : Application}

theorem openTable_coherent (all : w.AllCoherent) (key : Nat) (o : Opening) :
    ((openTable key o).after w).AllCoherent := by
  unfold openTable
  rw [Act.after_get_bind, Act.after_result_bind]
  cases made : startingView w.workspace o with
  | error e => exact all
  | ok v =>
    let opened : Table := { view := v, keepSelection := o.keepSelection }
    have added : (w.modifyTable key fun _ => opened).AllCoherent :=
      all.modifyTable fun _ => startingView_coherent made
    dsimp only
    rw [Act.after_change_bind, Act.after_change]
    unfold notices
    rw [recordAll_eq]
    exact ⟨added.views, added.seen⟩

theorem Undisturbed.coherent (calm : Undisturbed w) : w.AllCoherent := by
  induction calm with
  | start workspace modes =>
    exact ⟨fun key => TableView.coherent_none rfl, fun g member => nomatch member⟩
  | opened before fresh o ih => exact openTable_coherent ih _ o
  | stepped before depth s plain silent ih =>
    obtain ⟨new, journal, coherent⟩ := StaysCoherent.enduring.runs depth plain _
    refine coherent (fun e member => silent e ?_) ih
    rw [journal]
    exact List.mem_append_left _ member

theorem Undisturbed.played (calm : Undisturbed w) (depth : Nat) {steps : List Step}
    (plain : ∀ s ∈ steps, s.alters = false)
    (silent : ∀ e ∈ (w.played depth steps).journal, e.alters = false) :
    Undisturbed (w.played depth steps) := by
  induction steps generalizing w with
  | nil => exact calm
  | cons s rest ih =>
    obtain ⟨first, others⟩ := List.forall_mem_cons.mp plain
    refine ih (calm.stepped depth s first fun e member => ?_) others silent
    obtain ⟨new, journal, -⟩ := StaysCoherent.enduring.played depth
      (fun s member => StaysCoherent.enduring.runs depth (others s member)) ((runTo depth s).after w)
    refine silent e ?_
    change e ∈ (((runTo depth s).after w).played depth rest).journal
    rw [journal]
    exact List.mem_append_right _ member

theorem showDescriptor_outcome (key : Nat) (w : Application) :
    ∃ unchanged, ((showDescriptor key).outcome w).1 =
      (w.view key).describe.2.map fun known => .descriptor unchanged known.2 := by
  unfold showDescriptor
  rw [Act.outcome_bind, outcome_onView]
  cases read : (w.view key).describe.2 with
  | error e => exact ⟨false, rfl⟩
  | ok known =>
    refine ⟨decide (w.shown = some (key, known.1)), ?_⟩
    rfl

-- While no entity is changed in place, the description that a table gives is that of its plan for the
-- current mode, parent and filters: at rest, when a step asks for it, and whenever the table was seen.
theorem description_current (calm : Undisturbed w) (key : Nat) :
    (w.view key).Current ∧
    (∀ depth, ∃ unchanged, ((runTo (depth + 1) (.table key .descriptor)).outcome w).1 =
      ((w.view key).plan.describe (w.view key).mode (w.view key).parent (w.view key).filterDefs).map
        (.descriptor unchanged)) ∧
    ∀ g ∈ w.sights, g.table.view.Current := by
  have current := (calm.coherent.views key).current
  refine ⟨current, fun depth => ?_, fun g seen => (calm.coherent.seen g seen).current⟩
  obtain ⟨unchanged, shown⟩ := showDescriptor_outcome key w
  refine ⟨unchanged, shown.trans ?_⟩
  rw [← show _ = _ from current]
  cases (w.view key).describe.2 <;> rfl

-- A table whose column tells the mode, and whether there is a parent.
def perMode : TablePlan where
  columns mode parent := .ok [{ id := mode.text, className := if parent.isNull then "free" else "bound" }]

-- It is described in both modes, and a subscriber of its first request switches the mode and the parent.
def rebuilt : Application :=
  let describe : Step := .table 0 .descriptor
  let turn : Callback Step :=
    { name := "turn", steps := [.table 0 (.setMode (.text "RO")), describe,
        .table 0 (.setParent (.text "p")), describe, .table 0 (.setMode (.text "RW"))] }
  (opened { plan := perMode }).played 2
    [describe, .table 0 (.reload none), .subscribe 0 (some turn), .complete 0 (.page [] none)]

theorem rebuilt_current :
    Undisturbed rebuilt ∧ (rebuilt.view 0).Current ∧
      ((rebuilt.view 0).describe.2.toOption.map fun known =>
        known.2.columns.map fun c => (c.id, c.className)) = some [("RW", "bound")] := by
  have calm : Undisturbed (opened { plan := perMode }) := .opened (.start {} []) rfl _
  have reached : Undisturbed rebuilt := calm.played 2 (by decide) (by decide +kernel)
  exact ⟨reached, (description_current reached 0).1, by decide +kernel⟩

end PagedTable.Application
