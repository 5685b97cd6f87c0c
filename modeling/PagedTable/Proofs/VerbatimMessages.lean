import PagedTable.Proofs.FailedReload
import PagedTable.Proofs.ReportedFailures

namespace PagedTable.Template

def isBrace (c : Char) : Bool := c = '{' || c = '}'

-- A text with each of its braces doubled, as braces stand for themselves.
def doubled (cs : List Char) : List Char := cs.flatMap fun c => if isBrace c then [c, c] else [c]

theorem doubled_brace {c : Char} (brace : isBrace c = true) (cs : List Char) :
    doubled (c :: cs) = c :: c :: doubled cs := by simp [doubled, brace]

theorem doubled_other {c : Char} (other : isBrace c = false) (cs : List Char) :
    doubled (c :: cs) = c :: doubled cs := by simp [doubled, other]

theorem length_doubled (cs : List Char) : (doubled cs).length = cs.length + cs.countP isBrace := by
  induction cs with
  | nil => rfl
  | cons c cs ih =>
    cases brace : isBrace c with
    | true =>
      rw [doubled_brace brace, List.countP_cons_of_pos brace]
      simp only [List.length_cons, ih]
      omega
    | false =>
      rw [doubled_other brace, List.countP_cons_of_neg (by simp [brace])]
      simp only [List.length_cons, ih]
      omega

theorem doubled_self {cs : List Char} : doubled cs = cs ↔ ∀ c ∈ cs, isBrace c = false := by
  constructor
  · intro same
    have length := length_doubled cs
    rw [same] at length
    have bare : cs.countP isBrace = 0 := by omega
    simpa using List.countP_eq_zero.mp bare
  · intro bare
    induction cs with
    | nil => rfl
    | cons c cs ih =>
      rw [doubled_other (bare c List.mem_cons_self), ih fun d member => bare d (List.mem_cons_of_mem c member)]

theorem literal_other {c : Char} (other : isBrace c = false) (rest : List Char) :
    literal (c :: rest) = (literal rest).map fun r => (c :: r.1, r.2) := by
  obtain ⟨opens, closes⟩ : c ≠ '{' ∧ c ≠ '}' := by simpa [isBrace] using other
  rw [literal.eq_7]
  all_goals simp_all

theorem literal_doubled (cs : List Char) : literal (doubled cs) = .ok (cs, none) := by
  induction cs with
  | nil => rfl
  | cons c cs ih =>
    cases brace : isBrace c with
    | true =>
      rw [doubled_brace brace]
      obtain rfl | rfl : c = '{' ∨ c = '}' := by simpa [isBrace] using brace
      · rw [literal, ih]
        rfl
      · rw [literal, ih]
        rfl
    | false =>
      rw [doubled_other brace, literal_other brace, ih]
      rfl

theorem cons_literal {r : Except Stop (List Char × Option (List Char))} {c : Char} {ds : List Char}
    (whole : (r.map fun read => (c :: read.1, read.2)) = .ok (ds, none)) :
    ∃ rest, r = .ok (rest, none) ∧ ds = c :: rest := by
  obtain _ | ⟨rest, after⟩ := r
  · cases whole
  · cases whole
    exact ⟨rest, rfl, rfl⟩

theorem doubled_of_literal {cs ds : List Char} (whole : literal cs = .ok (ds, none)) : cs = doubled ds := by
  fun_induction literal cs generalizing ds with
  | case1 =>
    cases whole
    rfl
  | case2 | case4 | case6 => cases whole
  | case3 rest ih | case5 rest ih =>
    obtain ⟨ds, read, rfl⟩ := cons_literal whole
    rw [doubled_brace rfl, ← ih read]
  | case7 c rest _ _ notOpening _ notClosing ih =>
    obtain ⟨ds, read, rfl⟩ := cons_literal whole
    have other : isBrace c = false := by simpa [isBrace] using ⟨notOpening, notClosing⟩
    rw [doubled_other other, ← ih read]

-- A text is not shown as it is if it has braces and all of them are doubled.
def Collapses (text : String) : Prop :=
  ∃ cs, text.toList = doubled cs ∧ ∃ c ∈ cs, isBrace c = true

-- What a text looks like that is formatted without arguments.
structure ShownAs (text shown : String) : Prop where
  halved : ∀ cs, text.toList = doubled cs → shown = String.ofList cs
  other : (∀ cs, text.toList ≠ doubled cs) → shown = text

theorem format_shown (text : String) : ∃ shown, format text [] = .ok shown ∧ ShownAs text shown := by
  have filled : fillNested [] 2 text.toList = _ := fillAll_plain _ _ _
  by_cases whole : ∃ cs, text.toList = doubled cs
  · obtain ⟨cs, same⟩ := whole
    have read : literal text.toList = .ok (cs, none) := by rw [same, literal_doubled]
    rw [read] at filled
    refine ⟨String.ofList cs, by rw [format, filled], fun ds again => ?_, fun other => absurd same (other cs)⟩
    have twice : literal text.toList = .ok (ds, none) := by rw [again, literal_doubled]
    cases read.symm.trans twice
    rfl
  · have unread (ds : List Char) : literal text.toList ≠ .ok (ds, none) :=
      fun read => whole ⟨ds, doubled_of_literal read⟩
    have stopped : fillNested [] 2 text.toList = .error .malformed := by
      rw [filled]
      split
      · rename_i ds read
        exact absurd read (unread ds)
      · rfl
    exact ⟨text, by rw [format, stopped], fun cs same => absurd ⟨cs, same⟩ whole, fun _ => rfl⟩

theorem ShownAs.verbatim_iff {text shown : String} (shows : ShownAs text shown) :
    shown = text ↔ ¬ Collapses text := by
  constructor
  · rintro rfl ⟨cs, same, c, member, brace⟩
    have kept : doubled cs = cs := by rw [← same, shows.halved cs same, String.toList_ofList]
    rw [doubled_self.mp kept c member] at brace
    cases brace
  · intro safe
    by_cases whole : ∃ cs, text.toList = doubled cs
    · obtain ⟨cs, same⟩ := whole
      have bare : ∀ c ∈ cs, isBrace c = false := fun c member =>
        Bool.eq_false_iff.mpr fun brace => safe ⟨cs, same, c, member, brace⟩
      rw [shows.halved cs same, ← doubled_self.mpr bare, ← same, String.ofList_toList]
    · exact shows.other fun cs same => whole ⟨cs, same⟩

end PagedTable.Template

namespace PagedTable

theorem Workspace.unworded_told (w : Workspace) (fault : Fault) (key : Option String)
    (unworded : Entries.get? (given key fault.toFailure.key) w.wordings = none) :
    ∃ shown title, w.pairWording defaultTitle [] = .ok title ∧
      w.handleFailure fault key none [] =
        (w.announce fault.toFailure ++ w.showError shown title, .ok fault.toFailure) ∧
      Template.ShownAs fault.toFailure.message shown := by
  obtain ⟨shown, title, worded, entitled, handled⟩ := w.failure_told fault key none
  obtain ⟨text, formatted, shows⟩ := Template.format_shown fault.toFailure.message
  have read : w.wording (given key fault.toFailure.key) fault.toFailure.message [] = .ok text := by
    rw [wording, unworded]
    exact formatted
  cases read.symm.trans worded
  exact ⟨shown, title, entitled, handled, shows⟩

def Event.box? : Event → Option (String × String)
  | .notice n => n.box?
  | _ => none

def Event.announced? : Event → Option String
  | .signal _ (.requestError _ message) => some message
  | _ => none

namespace Scene

variable (key : Nat)

theorem calls_unboxed (q : Request (Callback Step) Bool) (cs : List (Callback Step)) :
    (calls q cs).filterMap Event.box? = [] := by
  simp [calls, List.filterMap_map, Function.comp_def, Event.box?]

theorem tellBusy_unboxed (t : Table) : (tellBusy key t).filterMap Event.box? = [] := by
  unfold tellBusy
  split <;> rfl

theorem vacating_unboxed (v : TableView) : (vacating key v).filterMap Event.box? = [] := by
  unfold vacating
  cases v.selected.isEmpty <;> rfl

end Scene

namespace Application

def boxes (w : Application) : List (String × String) := w.journal.filterMap Event.box?

-- A failure without a wording, reported without a text of its own: its message is shown as it is if and
-- only if it does not hold braces that are all doubled.
theorem message_shown (w : Application) (fault : Fault) (key : Option String)
    (unworded : Entries.get? (Workspace.given key fault.toFailure.key) w.workspace.wordings = none) :
    let f := fault.toFailure
    ∃ shown title, w.workspace.pairWording Workspace.defaultTitle [] = .ok title ∧
      (report fault key none).outcome w =
        (.ok f, w.notices (w.workspace.announce f ++ w.workspace.showError shown title)) ∧
      Template.ShownAs f.message shown ∧ (shown = f.message ↔ ¬ Template.Collapses f.message) := by
  intro f
  obtain ⟨shown, title, entitled, handled, shows⟩ := w.workspace.unworded_told fault key unworded
  refine ⟨shown, title, entitled, ?_, shows, shows.verbatim_iff⟩
  rw [report, Act.outcome_update, handled]

-- A message with a field is shown as it is; doubled braces are not, though the key has no wording.
theorem placeholders_shown :
    let w : Application := { workspace := { wordings := [("general.error_title", "Fehler")] } }
    let field := Failure.transport "row \x7bid\x7d of \x7b\x7bname\x7d\x7d"
    let pair := Failure.transport "no \x7b\x7bname\x7d\x7d"
    Entries.get? field.key w.workspace.wordings = none ∧
    (∃ title, (report (.failure field) none none).outcome w =
      (.ok field, w.notices (w.workspace.announce field ++ w.workspace.showError field.message title))) ∧
    ∃ title, (report (.failure pair) none none).outcome w =
      (.ok pair, w.notices (w.workspace.announce pair ++ w.workspace.showError "no \x7bname\x7d" title)) := by
  intro w field pair
  have unworded : Entries.get? field.key w.workspace.wordings = none := by decide +kernel
  obtain ⟨shown, title, -, reported, -, verbatim⟩ := message_shown w (.failure field) none unworded
  obtain ⟨halved, named, -, told, shows, -⟩ := message_shown w (.failure pair) none unworded
  refine ⟨unworded, ⟨title, ?_⟩, named, ?_⟩
  · have safe : ¬ Template.Collapses field.message := by
      rintro ⟨cs, same, -⟩
      have held : (Template.literal field.message.toList).toOption.map (fun read => read.2.isSome) =
          some true := by decide +kernel
      rw [same, Template.literal_doubled] at held
      cases held
    rw [reported, verbatim.mpr safe]
    rfl
  · have same : halved = "no \x7bname\x7d" := shows.halved "no \x7bname\x7d".toList (by decide +kernel)
    rw [told, same]
    rfl

section Reloads

variable {run : Run} {w : Application} {key r : Nat} {q : Request (Callback Step) Bool}

theorem boxes_heard (w : Application) : w.boxes = w.heard.filterMap Event.box? := by
  unfold boxes heard
  rw [List.filterMap_filter]
  refine List.filterMap_congr fun e _ => ?_
  cases e <;> rfl

-- A reload that fails without a wording shows its message in the same way, and nothing else.
theorem failed_reload_message (observing : Observing run) (token : Int) (fault : Fault) (keep : Bool)
    (found : (w.table key).book.request? r = some q) (live : q.isDone = false)
    (unworded : Entries.get? fault.toFailure.key w.workspace.wordings = none) :
    let f := fault.toFailure
    ∃ shown title w', (pageFailed run key r token fault keep).outcome w = (.ok (), w') ∧
      w'.boxes = (if w.workspace.window.isSome then [(title, shown)] else []) ++ w.boxes ∧
      Template.ShownAs f.message shown ∧ (shown = f.message ↔ ¬ Template.Collapses f.message) := by
  intro f
  obtain ⟨shown, title, -, handled, shows⟩ := w.workspace.unworded_told (.failure f) none unworded
  obtain ⟨w', failed, scene⟩ := pageFailed_scene observing token fault keep found live
  refine ⟨shown, title, w', failed, ?_, shows, shows.verbatim_iff⟩
  let before := if isNotFound f then w.scene.vacate key else w.scene
  have vacated : before.heard.filterMap Event.box? = w.boxes := by
    rw [boxes_heard]
    unfold before
    split
    · rw [Scene.vacate, Scene.heard_hear, List.filterMap_append, Scene.vacating_unboxed]
      rfl
    · rfl
  have told : (((w.workspace.handleFailure (.failure f) none none []).1.map .notice).reverse).filterMap
      Event.box? = if w.workspace.window.isSome then [(title, shown)] else [] := by
    rw [handled, List.filterMap_reverse, List.filterMap_map, w.workspace.announce_calls]
    change ((_ ++ w.workspace.showError shown title).filterMap Notice.box?).reverse = _
    rw [Workspace.boxes_notices]
    split <;> rfl
  rw [boxes_heard, ← heard_scene, scene, Scene.finish, Scene.heard_hear, List.filterMap_append,
    Scene.calls_unboxed, Scene.heard_modify, Scene.heard_hear, List.filterMap_append, told]
  change [] ++ (_ ++ (Scene.tellBusy key (before.tables key) ++ before.heard).filterMap Event.box?) = _
  rw [List.filterMap_append, Scene.tellBusy_unboxed, vacated]
  rfl

end Reloads

def collapsed : Application :=
  (opened { plan := {} }).played 1
    [.table 0 .refresh, .complete 0 (.fail (.failure (.transport "a \x7b\x7bb\x7d\x7d")))]

-- The message is announced as it is, but the user is shown another one.
theorem message_changed : Reached collapsed ∧
    Entries.get? (Failure.transport "").key collapsed.workspace.wordings = none ∧
    collapsed.journal.filterMap Event.announced? = ["a \x7b\x7bb\x7d\x7d"] ∧
    collapsed.boxes = [("Error", "a \x7bb\x7d")] :=
  ⟨(opened_reached _).played 1 _, by decide +kernel, by decide +kernel, by decide +kernel⟩

end Application

end PagedTable
