import Mathlib.Data.List.Nodup
import PagedTable.Proofs.Entries
import PagedTable.Proofs.Wordings

namespace PagedTable

def Notice.call? : Notice → Option HookCall
  | .hook call => some call
  | _ => none

def Notice.box? : Notice → Option (String × String)
  | .errorBox title message => some (title, message)
  | _ => none

namespace Registry

variable {plugins : List Plugin} (r : Registry) (hook : Hook)

theorem fold_answers (plugins : List Plugin) (before : HookResults) :
    plugins.foldl (fun results p => p.answer results) before =
      { values := before.values ++ (plugins.filter fun p => !p.fails).map fun p => (p.name, p.returns),
        faults := before.faults ++ (plugins.filter fun p => p.fails).map fun p => (p.name, pluginFault) } := by
  induction plugins generalizing before with
  | nil => simp
  | cons p rest ih =>
    rw [List.foldl_cons, ih]
    cases fails : p.fails <;> simp [Plugin.answer, fails]

theorem results_eq : r.results hook =
    { values := ((r.implementations hook).filter fun p => !p.fails).map fun p => (p.name, p.returns),
      faults := ((r.implementations hook).filter fun p => p.fails).map fun p => (p.name, pluginFault) } :=
  fold_answers (r.implementations hook) {}

theorem results_names : ((r.results hook).values.map Prod.fst ++ (r.results hook).faults.map Prod.fst).Perm
    ((r.implementations hook).map Plugin.name) := by
  have names (answers : Plugin → Bool) {α : Type} (answer : Plugin → α) :
      (((r.implementations hook).filter answers).map fun p => (p.name, answer p)).map Prod.fst =
        ((r.implementations hook).filter answers).map Plugin.name := by
    rw [List.map_map]
    rfl
  rw [results_eq, names, names, ← List.map_append]
  refine List.Perm.map _ (List.perm_append_comm.trans ?_)
  exact List.filter_append_perm _ _

theorem answer_named {α : Type} (distinct : (plugins.map Plugin.name).Nodup) (answers : Plugin → Bool)
    (answer : Plugin → α) {p : Plugin} (member : p ∈ plugins) :
    Entries.get? p.name ((plugins.filter answers).map fun q => (q.name, answer q)) =
      if answers p then some (answer p) else none := by
  split <;> rename_i own
  · refine Entries.get?_of_mem ?_ (List.mem_map.mpr ⟨p, List.mem_filter.mpr ⟨member, own⟩, rfl⟩)
    rw [List.map_map]
    exact distinct.sublist (List.filter_sublist.map _)
  · refine Entries.get?_eq_none.mpr fun named => own ?_
    obtain ⟨e, there, same⟩ := List.mem_map.mp named
    obtain ⟨q, chosen, rfl⟩ := List.mem_map.mp there
    obtain ⟨inside, answered⟩ := List.mem_filter.mp chosen
    rwa [List.inj_on_of_nodup_map distinct inside member same] at answered

end Registry

namespace Workspace

variable (w : Workspace) (f : Failure)

theorem announce_calls : w.announce f = (if f.status = .validation then [] else
    (w.plugins.implementations .transportFailure).map fun p =>
      (⟨p.name, .transportFailure, .failure f⟩ : HookCall)).map .hook := by
  unfold announce
  split <;> rename_i status
  · rw [if_pos status]
    rfl
  · rw [if_neg status]
    rfl

theorem calls_notices (calls : List HookCall) (message title : String) :
    (calls.map Notice.hook ++ w.showError message title).filterMap Notice.call? = calls := by
  unfold showError
  split <;> simp [List.filterMap_map, Function.comp_def, Notice.call?]

theorem boxes_notices (calls : List HookCall) (message title : String) :
    (calls.map Notice.hook ++ w.showError message title).filterMap Notice.box? =
      if w.window.isSome then [(title, message)] else [] := by
  unfold showError
  split <;> simp [List.filterMap_map, Function.comp_def, Notice.box?]

theorem failure_told (fault : Fault) (key text : Option String) :
    ∃ message title, w.wording (given key fault.toFailure.key) (given text fault.toFailure.message) [] =
        .ok message ∧
      w.pairWording defaultTitle [] = .ok title ∧
      w.handleFailure fault key text [] =
        (w.announce fault.toFailure ++ w.showError message title, .ok fault.toFailure) := by
  obtain ⟨message, worded⟩ := w.wording_plain (given key fault.toFailure.key)
    (given text fault.toFailure.message)
  obtain ⟨title, entitled⟩ := w.pairWording_plain defaultTitle
  obtain ⟨box, boxed, handled⟩ := w.handleFailure_plain fault key text
  have shown : box = w.showError message title := by
    unfold failureBox at boxed
    rw [worded, entitled] at boxed
    exact (Except.ok.inj boxed).symm
  exact ⟨message, title, worded, entitled, by rw [handled, shown]⟩

-- Reporting a failure, with plugins of distinct names. Each plugin of the hook is called once with the
-- failure unless it is one of validation; all of them before the user is shown one error; the failure
-- comes back. Every plugin is named in the results of the call, with its own answer or its own fault.
theorem reported_once (fault : Fault) (key text : Option String)
    (once : ((w.plugins.implementations .transportFailure).map Plugin.name).Nodup) :
    let f := fault.toFailure
    let plugins := w.plugins.implementations .transportFailure
    let told := (w.handleFailure fault key text []).1
    let calls := told.filterMap Notice.call?
    let results := w.plugins.results .transportFailure
    (w.handleFailure fault key text []).2 = .ok f ∧
    calls = (if f.status = .validation then [] else
      plugins.map fun p => ⟨p.name, .transportFailure, .failure f⟩) ∧
    (∀ p ∈ plugins, (calls.map HookCall.plugin).count p.name = if f.status = .validation then 0 else 1) ∧
    (∃ message title, w.wording (given key f.key) (given text f.message) [] = .ok message ∧
      w.pairWording defaultTitle [] = .ok title ∧
      told = calls.map .hook ++ w.showError message title ∧
      told.filterMap Notice.box? = if w.window.isSome then [(title, message)] else []) ∧
    (results.values.map Prod.fst ++ results.faults.map Prod.fst).Perm (plugins.map Plugin.name) ∧
    ∀ p ∈ plugins,
      Entries.get? p.name results.values = (if p.fails then none else some p.returns) ∧
      Entries.get? p.name results.faults = (if p.fails then some pluginFault else none) := by
  intro f plugins told calls results
  obtain ⟨message, title, worded, entitled, handled⟩ := w.failure_told fault key text
  have announced := w.announce_calls f
  have called : calls = (if f.status = .validation then [] else
      plugins.map fun p => (⟨p.name, .transportFailure, .failure f⟩ : HookCall)) := by
    change (w.handleFailure fault key text []).1.filterMap Notice.call? = _
    rw [handled, announced, calls_notices]
  have told_eq : told = calls.map .hook ++ w.showError message title := by
    change (w.handleFailure fault key text []).1 = _
    rw [handled, announced, called]
  refine ⟨by rw [handled], called, fun p member => ?_, ⟨message, title, worded, entitled, told_eq, ?_⟩,
    w.plugins.results_names .transportFailure, fun p member => ?_⟩
  · rw [called]
    split
    · rfl
    · rw [List.map_map]
      exact List.count_eq_one_of_mem once (List.mem_map_of_mem member)
  · rw [told_eq, boxes_notices]
  · change Entries.get? p.name (w.plugins.results .transportFailure).values = _ ∧
      Entries.get? p.name (w.plugins.results .transportFailure).faults = _
    rw [Registry.results_eq]
    refine ⟨?_, Registry.answer_named once (fun p => p.fails) (fun _ => pluginFault) member⟩
    rw [Registry.answer_named once (fun p => !p.fails) Plugin.returns member]
    cases p.fails <;> rfl

-- Of three plugins of the hook the second fails, a fourth is of another hook, and the message is not a
-- well-formed template.
theorem expired_reported :
    let plugins : Registry :=
      [{ name := "session", hook := .transportFailure, returns := .text "out" },
        { name := "broken", hook := .transportFailure, fails := true },
        { name := "opener", hook := .contextCreated },
        { name := "log", hook := .transportFailure }]
    let w : Workspace := { plugins, wordings := [("general.error_title", "Fehler")] }
    let f := Failure.make (.transport (some 401)) "no \x7b"
    let told := (w.handleFailure (.failure f) none none []).1
    ((plugins.implementations .transportFailure).map Plugin.name).Nodup ∧
    (w.handleFailure (.failure f) none none []).2 = .ok f ∧
    told.filterMap Notice.call? =
      ["session", "broken", "log"].map (fun name => ⟨name, .transportFailure, .failure f⟩) ∧
    told.filterMap Notice.box? = [("Fehler", "no \x7b")] ∧
    Entries.get? "log" (plugins.results .transportFailure).values = some .null ∧
    Entries.get? "broken" (plugins.results .transportFailure).faults = some pluginFault := by
  intro plugins w f told
  have once : ((plugins.implementations .transportFailure).map Plugin.name).Nodup := by decide +kernel
  obtain ⟨back, called, -, -, -, answers⟩ := w.reported_once (.failure f) none none once
  refine ⟨once, back, called.trans rfl, by decide +kernel, ?_, ?_⟩
  · exact (answers { name := "log", hook := .transportFailure } (.tail _ (.tail _ (.head _)))).1
  · exact (answers { name := "broken", hook := .transportFailure, fails := true } (.tail _ (.head _))).2

end Workspace

end PagedTable
