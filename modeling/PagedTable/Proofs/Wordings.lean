import PagedTable.Workspace
import PagedTable.Table.Plan

namespace PagedTable.Template

-- Whether a stop leaves the text as it is.
def Mild {α : Type} (r : Except Stop α) : Prop := ∀ fault, r ≠ .error (.fault fault)

variable {α β : Type}

theorem mild_ok (x : α) : Mild (.ok x) := nofun

theorem mild_malformed : Mild (.error .malformed : Except Stop α) := nofun

theorem mild_bind {r : Except Stop α} {f : α → Except Stop β} (first : Mild r) (second : ∀ x, Mild (f x)) :
    Mild (r >>= f) := by
  cases r with
  | ok x => exact second x
  | error e =>
    intro fault same
    exact first fault (congrArg _ (Except.error.inj same))

theorem mild_map {r : Except Stop α} (f : α → β) (mild : Mild r) : Mild (r.map f) := by
  cases r with
  | ok x => exact mild_ok _
  | error e =>
    intro fault same
    exact mild fault (congrArg _ (Except.error.inj same))

theorem literal_mild (cs : List Char) : Mild (literal cs) := by
  fun_induction literal cs with
  | case1 | case4 => exact mild_ok _
  | case2 | case6 => exact mild_malformed
  | case3 rest ih | case5 rest ih => exact mild_map _ ih
  | case7 =>
    rename_i ih
    exact mild_map _ ih

theorem nameOf_mild (inside : Bool) (cs : List Char) : Mild (nameOf inside cs) := by
  fun_induction nameOf inside cs with
  | case1 | case3 => exact mild_malformed
  | case4 => exact mild_ok _
  | case2 _ _ ih | case5 _ _ _ _ ih => exact mild_map _ ih

theorem layoutOf_mild (depth : Nat) (cs : List Char) : Mild (layoutOf depth cs) := by
  fun_induction layoutOf depth cs with
  | case1 => exact mild_malformed
  | case3 => exact mild_ok _
  | case2 | case4 | case5 =>
    rename_i ih
    exact mild_map _ ih

theorem converted_mild (name cs : List Char) : Mild (converted name cs) := by
  unfold converted
  split
  · exact mild_malformed
  · exact mild_ok _
  · exact mild_map _ (layoutOf_mild 0 _)
  · exact mild_malformed

theorem field_mild (cs : List Char) : Mild (field cs) := by
  refine mild_bind (nameOf_mild false cs) fun read => ?_
  dsimp only
  split
  · exact mild_ok _
  · split
    · exact converted_mild _ _
    · exact mild_map _ (layoutOf_mild 0 _)

theorem argument_none (name : List Char) : argument [] name = .error .malformed := by
  unfold argument
  dsimp only
  split <;> rfl

theorem fillField_plain (inner : List Char → Except Stop (List Char)) (f : Field) :
    fillField inner [] f = .error .malformed := by
  unfold fillField
  rw [argument_none]
  rfl

theorem fillAll_plain (inner : List Char → Except Stop (List Char)) (fuel : Nat) (cs : List Char) :
    fillAll inner [] (fuel + 1) cs =
      match literal cs with
      | .ok (ds, none) => .ok ds
      | _ => .error .malformed := by
  rw [fillAll]
  have mild := literal_mild cs
  generalize literal cs = read at mild
  obtain ⟨⟨⟩ | fault⟩ | ⟨before, _ | rest⟩ := read
  · rfl
  · exact absurd rfl (mild fault)
  · rfl
  · change (field rest >>= fun found => _) = Except.error Stop.malformed
    have mild := field_mild rest
    generalize field rest = found at mild
    obtain ⟨⟨⟩ | fault⟩ | found := found
    · rfl
    · exact absurd rfl (mild fault)
    · change (fillField inner [] found.1 >>= fun shown => _) = Except.error Stop.malformed
      rw [fillField_plain]
      rfl

theorem format_plain (text : String) : ∃ shown, format text [] = .ok shown := by
  have filled : fillNested [] 2 text.toList = _ := fillAll_plain _ _ _
  unfold format
  rw [filled]
  split <;> rename_i outcome
  · exact ⟨_, rfl⟩
  · exact ⟨text, rfl⟩
  · split at outcome <;> cases outcome

end PagedTable.Template

namespace PagedTable

namespace Workspace

variable (w : Workspace)

theorem wording_plain (key text : String) : ∃ shown, w.wording key text [] = .ok shown :=
  Template.format_plain _

theorem pairWording_plain (pair : TextPair) : ∃ shown, w.pairWording pair [] = .ok shown :=
  w.wording_plain pair.key pair.text

theorem failureBox_plain (f : Failure) (key text : Option String) :
    ∃ box, w.failureBox f key text [] = .ok box := by
  obtain ⟨message, worded⟩ := w.wording_plain (given key f.key) (given text f.message)
  obtain ⟨title, entitled⟩ := w.pairWording_plain defaultTitle
  refine ⟨w.showError message title, ?_⟩
  unfold failureBox
  rw [worded, entitled]
  rfl

theorem handleFailure_plain (fault : Fault) (key text : Option String) :
    ∃ box, w.failureBox fault.toFailure key text [] = .ok box ∧
      w.handleFailure fault key text [] = (w.announce fault.toFailure ++ box, .ok fault.toFailure) := by
  obtain ⟨box, boxed⟩ := w.failureBox_plain fault.toFailure key text
  refine ⟨box, boxed, ?_⟩
  simp [handleFailure, clashes, Entries.has, Entries.get?, boxed]

end Workspace

theorem TablePlan.message_default {name : String} (known : Entries.has name defaultMessages = true)
    (p : TablePlan) : ∃ pair, p.message name = .ok pair := by
  obtain ⟨pair, found⟩ := Option.isSome_iff_exists.mp known
  exact ⟨_, by rw [message, found]⟩

theorem MutationKind.success_known (kind : MutationKind) :
    Entries.has kind.successName defaultMessages = true := by cases kind <;> decide +kernel

theorem MutationKind.error_known (kind : MutationKind) :
    Entries.has kind.errorName defaultMessages = true := by cases kind <;> decide +kernel

end PagedTable
