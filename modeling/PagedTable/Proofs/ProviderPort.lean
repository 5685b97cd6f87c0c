import Mathlib.Data.List.Nodup
import PagedTable.Proofs.SharedIds

namespace PagedTable

def Value.IsInteger : Value → Prop
  | .number (.int _) | .number (.truth _) => True
  | _ => False

-- What tells that an item is gone: a failure of this kind, or foreign trouble with the HTTP status for it,
-- which is the `statusCode`, or else the `status`, where that is an integer.
def Fault.Vanished : Fault → Prop
  | .failure f => f.kind = .notFound
  | .trouble t =>
    t.statusCode = .number (.int 404) ∨ ¬ t.statusCode.IsInteger ∧ t.status = .number (.int 404)
  | _ => False

namespace Trouble

theorem integer?_isSome (v : Value) : (integer? v).isSome = true ↔ v.IsInteger := by
  unfold integer?
  split <;> simp_all [Value.IsInteger]

theorem integer?_gone {v : Value} :
    (∃ n, integer? v = some n ∧ n.same Failure.httpNotFound = true) ↔ v = .number (.int 404) := by
  unfold integer?
  split
  · simp [Number.same, Number.value, Failure.httpNotFound]
  · rename_i b
    cases b <;> simp [Number.same, Number.value, Failure.httpNotFound]
  · rename_i other _
    simp only [reduceCtorEq, false_and, exists_false, false_iff]
    exact other 404

theorem httpStatus?_gone (t : Trouble) :
    (∃ n, t.httpStatus? = some n ∧ n.same Failure.httpNotFound = true) ↔ (Fault.trouble t).Vanished := by
  have integer := integer?_isSome t.statusCode
  have gone := integer?_gone (v := t.statusCode)
  unfold httpStatus?
  cases code : integer? t.statusCode with
  | none =>
    rw [code] at integer gone
    change (∃ n, integer? t.status = some n ∧ n.same Failure.httpNotFound = true) ↔ _ ∨ _ ∧ _
    rw [integer?_gone, ← gone, ← integer]
    simp
  | some n =>
    rw [code] at integer gone
    change (∃ m, some n = some m ∧ m.same Failure.httpNotFound = true) ↔ _ ∨ _ ∧ _
    rw [gone, ← integer]
    simp

end Trouble

theorem Fault.toFailure_gone (e : Fault) (key : String) :
    (e.toFailure key).kind = .notFound ↔ e.Vanished := by
  cases e with
  | failure f => rfl
  | trouble t =>
    rw [← t.httpStatus?_gone]
    simp only [toFailure]
    cases status : t.httpStatus? with
    | none => simp [Failure.make]
    | some n =>
      dsimp only
      split <;> simp_all [Failure.make]
  | _ => simp [toFailure, Vanished, Failure.make]

namespace ProviderOperation

def Fits : ProviderOperation → Delivered → Prop
  | .list, d => ∃ p, d = .page p
  | .mutation _, d => ∃ m, d = .mutation m

theorem accepts_iff (op : ProviderOperation) (d : Delivered) : op.accepts d = true ↔ op.Fits d := by
  cases op <;> cases d <;> simp [accepts, Fits]

-- What is made of what the client gave: there is no third.
inductive Answered (op : ProviderOperation) (given : Outcome) : Outcome → Prop
  | served (fine : given.error = none) (fits : op.Fits given.result) :
    Answered op given { result := given.result, error := none }
  | failed (f : Failure) (why : given.error ≠ none ∨ ¬ op.Fits given.result)
    (vanished : f.kind = .notFound ↔ ∃ e, given.error = some e ∧ e.Vanished) :
    Answered op given { result := .value .null, error := some (.failure f) }

theorem normalise_answered (op : ProviderOperation) (given : Outcome) :
    op.Answered given (op.normalise given) := by
  obtain ⟨result, error⟩ := given
  cases error with
  | some e =>
    refine .failed _ (.inl nofun) ?_
    rw [Fault.toFailure_gone]
    simp
  | none =>
    unfold normalise
    by_cases fits : op.accepts result = true
    · simp only [fits, if_true]
      exact .served rfl ((accepts_iff op result).mp fits)
    · simp only [fits]
      refine .failed _ (.inr fun other => fits ((accepts_iff op result).mpr other)) ?_
      rw [Fault.toFailure_gone]
      simp [Fault.Vanished]

end ProviderOperation

-- How the port asks the client: with the name of the operation, and no id of its own.
def ProviderCall.asked (c : ProviderCall) (raises : Option Fault := none) (script : List RelayStep := []) :
    RelayStep :=
  .push c.operation.text none (.client c) raises script

namespace Relay

variable {r t : Relay} {heard ended waiting : List Work} {n : Nat}

def Heard (r : Relay) (n : Nat) (id : WorkId) : Prop :=
  .performed n ∈ r.journal ∧ ∀ other ∈ r.posted, other.same id = false

-- What becomes of a call to the client: its callback is called when its announcement is heard, and not again,
-- and is told what is made of that which the client gave for this call.
structure Consulted (r : Relay) (n : Nat) (c : ProviderCall) : Prop where
  once : r.callbacks.count n ≤ 1
  called : r.Heard n (.fresh n) → r.callbacks.count n = 1
  rests : r.AtRest → r.callbacks.count n = 1
  told : ∀ name o older, .done (some n) name o :: older <:+ r.journal → name = c.operation.text ∧
    .performed n ∈ older ∧ ∃ given, (n, given) ∈ r.results ∧
      (∃ s : Relay, (s.perform (.client c)).2 = given) ∧ c.operation.Answered given o

theorem Flow.alone (flow : r.Flow heard ended waiting) (ledger : r.Ledger heard.length)
    (fresh : r.ids[n]? = some (.fresh n)) : ¬ r.Shared n := by
  have own : ∀ m, Alike r.ids n m → m = n := by
    rintro m ⟨a, b, first, second, same⟩
    cases fresh.symm.trans first
    cases b with
    | given v => cases same
    | fresh k =>
      have number : n = k := by simpa [WorkId.same] using same
      rw [← number] at second
      exact (flow.numbered m n second).symm
  rintro ⟨m, clash, alike⟩
  cases own m alike
  obtain ⟨k, succeeds⟩ := ledger.clashing n clash
  have same := own k (succeeds.alike.symm ledger.hashable)
  have later := succeeds.later
  omega

theorem Ledger.heard_called (ledger : r.Ledger heard.length) (known : n < r.ids.length)
    (first : n < heard.length) (alone : ¬ r.Shared n) : r.callbacks.count n = 1 := by
  refine List.count_eq_one_of_mem ledger.once ?_
  rcases ledger.whereabouts n known with called | pending | displaced
  · exact called
  · obtain ⟨e, member, rfl⟩ := List.mem_map.mp pending
    have ahead := (ledger.filed e member).ahead
    omega
  · exact absurd displaced.shared alone

theorem Flow.heard_of (flow : r.Flow heard ended waiting) {id : WorkId} (own : r.ids[n]? = some id)
    (was : r.Heard n id) : n < heard.length := by
  obtain ⟨performed, silent⟩ := was
  have within : n < (heard ++ ended).length := by
    have member : n ∈ r.endings := List.mem_filterMap.mpr ⟨_, performed, rfl⟩
    rw [flow.endings, List.mem_reverse] at member
    exact List.mem_range.mp member
  refine Decidable.of_not_not fun after => ?_
  have announced : ended[n - heard.length]?.map Work.id = some id := by
    rw [ids, flow.works, List.getElem?_map, List.getElem?_append_left within,
      List.getElem?_append_right (Nat.le_of_not_lt after)] at own
    exact own
  obtain ⟨w, found, same⟩ := Option.map_eq_some_iff.mp announced
  have posted : id ∈ r.posted := by
    rw [flow.posted, ← same]
    exact List.mem_map_of_mem (List.mem_of_getElem? found)
  have differs := silent id posted
  rw [id.same_refl (flow.hashable id (List.mem_of_getElem? own))] at differs
  cases differs

theorem Later.consulted (later : Later true {} t) {w : Work} {c : ProviderCall}
    (at_ : t.works[n]? = some w) (fresh : w.id = .fresh n) (name : w.name = c.operation.text)
    (job : w.job = .client c) : t.Consulted n c := by
  obtain ⟨heard, ended, waiting, flow, ledger⟩ := later.path.2.tracked
  have own : t.ids[n]? = some (.fresh n) := by rw [id_at at_, fresh]
  have known : n < t.ids.length := (List.getElem?_eq_some_iff.mp own).1
  have alone := flow.alone ledger own
  refine ⟨List.nodup_iff_count_le_one.mp ledger.once n, fun was => ?_, fun rest => ?_,
    fun called o older suffix => ?_⟩
  · exact ledger.heard_called known (flow.heard_of own was) alone
  · refine ledger.heard_called known ?_ alone
    rw [← (flow.rest rest).1, ← ids_length]
    exact known
  · obtain ⟨after, v, result, found, settled, named, told⟩ := ledger.reported n called o older suffix alone
    cases at_.symm.trans found
    refine ⟨named.trans name, after, result, settled.logged, ?_, ?_⟩
    · rw [← job]
      exact settled.gave
    · rw [told, job]
      exact c.operation.normalise_answered result

-- Whatever happened before and whatever happens afterwards, a call through the port comes to its callback once,
-- when it is delivered, with a result of the kind that the call has or with a failure and no result. The failure
-- is that of a vanished item just where the client failed with one, or with foreign trouble of this HTTP status.
theorem consulted_once (before : Reached r) (depth : Nat) (c : ProviderCall) (raises : Option Fault)
    (script : List RelayStep) (orderly : RelayStep.allOrderly script = true)
    (later : Later true ((runTo (depth + 1) (c.asked raises script)).after r) t) :
    t.Consulted r.works.length c := by
  have allowed : (c.asked raises script).isAllowed true = true := (RelayStep.isAllowed_forced _).trans orderly
  have pushed := before.later.stepped (depth + 1) (c.asked raises script) allowed
  have after := push_after c.operation.text (.client c) raises script
    (rfl : newId none r = .ok (.fresh r.works.length)) (runTo depth)
  have at_ : ((runTo (depth + 1) (c.asked raises script)).after r).works[r.works.length]? =
      some { id := .fresh r.works.length, name := c.operation.text, job := .client c, raises, script } := by
    rw [ProviderCall.asked, runTo, after]
    change (({ r with inUse := true } : Relay).start.works ++ [_])[r.works.length]? = _
    rw [(start_running _).2]
    exact List.getElem?_concat_length
  obtain ⟨outcome, found⟩ := (later.leads pushed.path.1).2.keeps at_
  exact (pushed.trans later).consulted found rfl rfl rfl

def removal : ProviderCall := .remove [.text "id"]

def backend : Relay := played [.outcomes [(removal.operation,
  .fail (.trouble { kind := .http, message := some "gone", statusCode := .number (.int 404) }))]] {}

def answering : Relay :=
  played [.takeNext, .finish, .deliverNext] ((runTo 1 removal.asked).after backend)

theorem removal_consulted : answering.Consulted 0 removal ∧ answering.AtRest ∧ answering.callbacks = [0] ∧
    ∃ older, answering.journal = .done (some 0) "remove"
      { error := some (.failure (.make .notFound "gone")) } :: older := by
  have before : Reached backend := Reached.start.played _ (by decide)
  have later : Later true ((runTo 1 removal.asked).after backend) answering := Later.now.played _ (by decide)
  exact ⟨consulted_once before 0 removal none [] rfl later, ⟨rfl, rfl, rfl⟩, by decide +kernel, _, rfl⟩

end Relay

end PagedTable
