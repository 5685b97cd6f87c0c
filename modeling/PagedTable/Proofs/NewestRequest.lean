import PagedTable.Proofs.Outcomes
import PagedTable.Proofs.Requests
import PagedTable.Request.Session

namespace PagedTable

-- The tokens of requests that were put in flight when a later token had been given, and that were
-- neither dropped nor taken since then.
def overtaken : List BookMark → List Int
  | [] => []
  | .cleared :: _ => []
  | .stored token latest :: rest =>
    if token = latest then overtaken rest else token :: overtaken rest
  | .taken token :: rest => (overtaken rest).filter fun t => t ≠ token
  | .meddled :: rest => overtaken rest

def Unended (status : Option RequestStatus) : Prop := ∃ s, status = some s ∧ s.isTerminal = false

theorem Unended.known : ¬ Unended none := by
  rintro ⟨s, same, -⟩
  cases same

theorem Book.isFresh_iff {χ ι : Type} {b : Book χ ι} {r : Nat} (fresh : b.isFresh r = true) :
    b.tokenOf r = -1 ∧ Unended (b.statusOf r) := by
  unfold Book.isFresh at fresh
  unfold Book.tokenOf Book.statusOf
  split at fresh <;> rename_i found
  · rename_i q
    simp only [Bool.and_eq_true, decide_eq_true_eq, Bool.not_eq_true'] at fresh
    rw [found]
    exact ⟨fresh.1, q.status, rfl, fresh.2⟩
  · cases fresh

-- A book between operations: requests that were dropped and are to be told so, requests that are to be
-- put in flight, and those in flight, each of which is the latest or was overtaken.
structure Kept (held : List Nat) (adding : List (Int × Nat)) (b : RequestBook)
    (marks : List BookMark) : Prop where
  ledger : Ledger Unended held (adding ++ b.inFlight) b
  numbered : ∀ r ∈ held, 0 ≤ b.tokenOf r
  late : ∀ e ∈ b.inFlight, e.1 ∈ overtaken marks ∨ e.1 = b.latest
  there : ∀ t ∈ overtaken marks, t ≠ b.latest ∧ ∃ r, (t, r) ∈ b.inFlight

namespace Kept

variable {held : List Nat} {adding : List (Int × Nat)} {b b' : RequestBook} {marks : List BookMark}
  {r : Nat} {token : Int}

theorem empty : Kept [] [] Book.empty [] where
  ledger := .empty
  numbered _ member := nomatch member
  late _ member := nomatch member
  there _ member := nomatch member

theorem restated (kept : Kept held adding b marks)
    (status : ∀ k ∈ held ++ (adding ++ b.inFlight).map fun e => e.2, Unended (b'.statusOf k))
    (tokens : ∀ k, b'.tokenOf k = b.tokenOf k) (next : b'.nextToken = b.nextToken)
    (flying : b'.inFlight = b.inFlight) : Kept held adding b' marks := by
  have latest : b'.latest = b.latest := by rw [Book.latest, Book.latest, next]
  refine ⟨?_, fun k member => ?_, ?_, ?_⟩
  · rw [flying]
    exact kept.ledger.restated status tokens next
  · rw [tokens]
    exact kept.numbered k member
  · rw [flying, latest]
    exact kept.late
  · rw [flying, latest]
    exact kept.there

theorem created (kept : Kept held adding b marks) (issuer : List RequestStep) :
    Kept held adding (b.create issuer) marks :=
  kept.restated (kept.ledger.created Unended.known issuer).status (b.tokenOf_create issuer) rfl rfl

theorem modified {f : Request (Callback RequestStep) (List RequestStep) →
      Request (Callback RequestStep) (List RequestStep)} (kept : Kept held adding b marks)
    (stays : ∀ q, q.status.isTerminal = false → (f q).status.isTerminal = false)
    (token : ∀ q, (f q).token = q.token) : Kept held adding (b.modify r f) marks := by
  refine kept.restated (fun k member => ?_) (Book.tokenOf_modify f token) rfl rfl
  obtain ⟨s, same, unended⟩ := kept.ledger.status k member
  by_cases own : k = r
  · subst own
    unfold Book.statusOf at same ⊢
    rw [Book.request?_modify]
    cases found : b.request? k with
    | none =>
      rw [found] at same
      cases same
    | some q =>
      rw [found] at same
      cases same
      exact ⟨_, rfl, stays q unended⟩
  · rw [Book.statusOf, Book.request?_modify_other own]
    exact ⟨s, same, unended⟩

theorem fewer (kept : Kept (r :: held) adding b marks) : Kept held adding b marks where
  ledger := kept.ledger.fewer (List.sublist_cons_self _ _) (.refl _)
  numbered k member := kept.numbered k (List.mem_cons_of_mem _ member)
  late := kept.late
  there := kept.there

theorem settled {f : Request (Callback RequestStep) (List RequestStep) →
      Request (Callback RequestStep) (List RequestStep)} (kept : Kept (r :: held) adding b marks)
    (token : ∀ q, (f q).token = q.token) : Kept held adding (b.modify r f) marks :=
  kept.fewer.restated (kept.ledger.settled token).status (Book.tokenOf_modify f token) rfl rfl

theorem cleared (kept : Kept held adding b marks) :
    Kept (b.flying ++ held) adding b.untrackAll (.cleared :: marks) where
  ledger := by
    have claimed := (kept.ledger.perm (.refl _) List.perm_append_comm).claimAll
    rw [← List.append_nil adding] at claimed
    exact claimed.reread (fun _ _ => rfl) (fun _ => rfl) rfl
  numbered k member := by
    rcases List.mem_append.mp member with flying | held
    · obtain ⟨e, inside, rfl⟩ := List.mem_map.mp flying
      have entered := List.mem_append_right adding inside
      have proper := kept.ledger.proper e entered
      rw [← kept.ledger.named e entered] at proper
      exact proper
    · exact kept.numbered k held
  late _ member := nomatch member
  there _ member := nomatch member

theorem allotted (kept : Kept held adding b marks) (fresh : b.isFresh r = true) :
    Kept (b.flying ++ held) ((b.nextToken, r) :: adding) (b.allot r).untrackAll (.cleared :: marks) := by
  obtain ⟨untold, unended⟩ := Book.isFresh_iff fresh
  have dropped := kept.cleared
  -- all the others have tokens
  have new : r ∉ (b.flying ++ held) ++ (adding ++ b.untrackAll.inFlight).map fun e => e.2 := by
    intro member
    rcases List.mem_append.mp member with held | entered
    · have numbered : 0 ≤ b.tokenOf r := dropped.numbered r held
      omega
    · obtain ⟨e, inside, rfl⟩ := List.mem_map.mp entered
      have named : b.tokenOf e.2 = e.1 := dropped.ledger.named e inside
      have proper := dropped.ledger.proper e inside
      omega
  have ledger := (dropped.ledger.entered new unended).allotted Unended.known
  refine ⟨ledger, fun k member => ?_, nofun, nofun⟩
  have other : k ≠ r := fun same => new (same ▸ List.mem_append_left _ member)
  have tokens : (b.allot r).untrackAll.tokenOf k = b.tokenOf k := Book.tokenOf_allot_other other
  rw [tokens]
  exact dropped.numbered k member

theorem stored (kept : Kept held ((token, r) :: adding) b marks) :
    Kept held adding (b.track token r) (.stored token b.latest :: marks) where
  ledger := by
    have entered := kept.ledger.perm (.refl _) (Strand.entries_track kept.ledger.apart)
    exact entered.reread (fun _ _ => rfl) (fun _ => rfl) rfl
  numbered := kept.numbered
  late e member := by
    change e.1 ∈ overtaken (.stored token b.latest :: marks) ∨ e.1 = b.latest
    unfold overtaken
    rcases Entries.mem_put member with rfl | before
    · -- it is late if a later token was given before it could be stored
      by_cases newest : token = b.latest
      · exact .inr newest
      · rw [if_neg newest]
        exact .inl List.mem_cons_self
    · refine (kept.late e before).imp_left fun known => ?_
      split
      · exact known
      · exact List.mem_cons_of_mem _ known
  there t member := by
    have absent : token ∉ b.inFlight.map fun e => e.1 := by
      have apart := kept.ledger.apart
      rw [List.cons_append, List.map_cons, List.map_append, List.nodup_cons] at apart
      exact fun inside => apart.1 (List.mem_append_right _ inside)
    have before (known : t ∈ overtaken marks) :
        t ≠ b.latest ∧ ∃ k, (t, k) ∈ Entries.put token r b.inFlight := by
      obtain ⟨old, k, inside⟩ := kept.there t known
      rw [Entries.put_absent absent]
      exact ⟨old, k, List.mem_append_left _ inside⟩
    change t ≠ b.latest ∧ ∃ k, (t, k) ∈ Entries.put token r b.inFlight
    unfold overtaken at member
    split at member
    · exact before member
    · rename_i old
      rcases List.mem_cons.mp member with rfl | known
      · exact ⟨old, r, Entries.mem_put_self⟩
      · exact before known

theorem taken (kept : Kept held adding b marks) (found : Entries.get? token b.inFlight = some r) :
    Kept (r :: held) adding (b.untrack token) (.taken token :: marks) := by
  have apart : (b.inFlight.map fun e => e.1).Nodup := by
    have all := kept.ledger.apart
    rw [List.map_append] at all
    exact (List.nodup_append.mp all).2.1
  have entered : (token, r) ∈ adding ++ b.inFlight :=
    List.mem_append_right _ (Entries.mem_of_get? found)
  have same : (adding ++ b.inFlight).Perm ((token, r) :: (adding ++ Entries.erase token b.inFlight)) :=
    ((Entries.erase_perm found apart).append_left _).trans List.perm_middle
  refine ⟨?_, fun k member => ?_, fun e member => ?_, fun t member => ?_⟩
  · have claimed := (kept.ledger.perm (.refl _) same).claim
    exact claimed.reread (fun _ _ => rfl) (fun _ => rfl) rfl
  · change 0 ≤ b.tokenOf k
    rcases List.mem_cons.mp member with rfl | member
    · rw [kept.ledger.named _ entered]
      exact kept.ledger.proper _ entered
    · exact kept.numbered k member
  · obtain ⟨before, other⟩ := List.mem_filter.mp member
    exact (kept.late e before).imp_left fun known => List.mem_filter.mpr ⟨known, other⟩
  · obtain ⟨known, other⟩ := List.mem_filter.mp member
    obtain ⟨old, k, inside⟩ := kept.there t known
    exact ⟨old, k, List.mem_filter.mpr ⟨inside, other⟩⟩

theorem missed (kept : Kept held adding b marks) (none : Entries.get? token b.inFlight = none) :
    Kept held adding b (.taken token :: marks) where
  ledger := kept.ledger
  numbered := kept.numbered
  late e member := by
    have other : e.1 ≠ token := by
      rintro rfl
      have has := Entries.has_of_mem member
      rw [Entries.has, none] at has
      cases has
    exact (kept.late e member).imp_left fun known => List.mem_filter.mpr ⟨known, by simpa using other⟩
  there t member := kept.there t (List.mem_filter.mp member).1

end Kept

namespace RequestSession

-- What leads from one session to another, in which requests that were dropped are told so. What is
-- done to a request that was meddled with does not matter.
structure Turns (dropped : List Nat) (s s' : RequestSession) : Prop where
  grows : s.marks <:+ s'.marks
  kept : .meddled ∉ s'.marks → ∀ held adding,
    Kept (dropped ++ held) adding s.book s.marks → Kept held adding s'.book s'.marks

variable {s t u : RequestSession} {xs ys : List Nat}

theorem Turns.unmarked (same : t.marks = s.marks) (kept : ∀ held adding,
    Kept (xs ++ held) adding s.book s.marks → Kept held adding t.book s.marks) : Turns xs s t := by
  obtain ⟨book, journal, marks, lives⟩ := t
  obtain rfl : marks = s.marks := same
  exact ⟨List.suffix_refl _, fun _ => kept⟩

theorem Turns.refl (s : RequestSession) : Turns [] s s := .unmarked rfl fun _ _ kept => kept

theorem Turns.trans (one : Turns xs s t) (two : Turns ys t u) : Turns (xs ++ ys) s u := by
  refine ⟨one.grows.trans two.grows, fun quiet held adding kept => ?_⟩
  have calm : .meddled ∉ t.marks := fun meddled => quiet (two.grows.subset meddled)
  rw [List.append_assoc] at kept
  exact two.kept quiet held adding (one.kept calm (ys ++ held) adding kept)

theorem Turns.meddled (grows : (s.mark .meddled).marks <:+ t.marks) : Turns [] s t :=
  ⟨(List.suffix_cons _ _).trans grows, fun quiet => absurd (grows.subset List.mem_cons_self) quiet⟩

theorem record_turns (e : RequestEvent) (s : RequestSession) : Turns [] s (s.record e) :=
  .unmarked rfl fun _ _ kept => kept

theorem befall_turns (e : LifeEvent) (s : RequestSession) : Turns [] s (s.befall e) :=
  .unmarked rfl fun _ _ kept => kept

theorem enlist_turns (r : Nat) (callback : Option (Callback RequestStep)) (s : RequestSession) :
    Turns [] s (s.enlist r callback) := by
  cases callback with
  | none => exact .refl s
  | some c => exact befall_turns _ s

def Keeps {α : Type} (a : Act RequestSession α) : Prop := ∀ s, Turns [] s (a.after s)

theorem keeps_bind {α β : Type} {a : Act RequestSession α} {f : α → Act RequestSession β}
    (first : Keeps a) (second : ∀ x, Keeps (f x)) : Keeps (a >>= f) :=
  fun s => Act.after_bind_leads (Turns []) Turns.trans (first s) second

theorem locate_keeps (request : Int) : Keeps (locate request) := .refl

section Operations

variable {run : Run} (scripts : ∀ step, Keeps (run step))

include scripts

theorem follow_keeps (steps : List RequestStep) : Keeps (follow run steps) := by
  induction steps with
  | nil => exact .refl
  | cons step rest ih =>
    intro s
    unfold follow
    rw [Act.after_attempt_bind, Act.after_change_bind]
    exact (scripts step s).trans ((record_turns _ _).trans (ih _))

theorem notify_keeps (c : Callback RequestStep) (r : Nat) : Keeps (notify run c r) := by
  intro s
  unfold notify
  rw [Act.after_get_bind]
  have followed : Keeps (do
      follow run c.steps
      if c.fails then throw callbackFault) := by
    refine keeps_bind (follow_keeps scripts c.steps) fun _ => ?_
    split <;> exact .refl
  dsimp only
  cases s.book.request? r with
  | none => exact followed s
  | some q =>
    rw [Act.after_change_bind]
    exact ((record_turns _ s).trans (befall_turns _ _)).trans (followed _)

theorem issueSteps_keeps (steps : List RequestStep) : Keeps (issueSteps run steps) := by
  induction steps with
  | nil => exact .refl
  | cons step rest ih =>
    unfold issueSteps
    split
    · exact .refl
    · exact .refl
    · rename_i same
      cases same
      intro s
      rw [Act.after_attempt_bind, Act.after_change_bind]
      exact (scripts _ s).trans ((record_turns _ _).trans (ih _))

theorem issue_keeps (steps : List RequestStep) (r : Nat) : Keeps (issue run steps r) := by
  intro s
  unfold issue
  rw [Act.after_change_bind]
  exact ((record_turns _ s).trans (befall_turns _ _)).trans (issueSteps_keeps scripts steps _)

theorem callAll_turns (r : Nat) (cs : List (Callback RequestStep)) (s : RequestSession) :
    Turns [] s ((host run).callAll r cs s) := by
  induction cs generalizing s with
  | nil => exact .refl s
  | cons c rest ih => exact (notify_keeps scripts c r s).trans (ih _)

theorem finish_turns (r : Nat) (status : RequestStatus)
    (outcome : Request (Callback RequestStep) (List RequestStep) →
      Request (Callback RequestStep) (List RequestStep))
    (same : ∀ q, (outcome q).token = q.token) (s : RequestSession) :
    Turns [r] s ((host run).finish r status outcome s) := by
  have fewer : Turns [r] s s := .unmarked rfl fun _ _ kept => kept.fewer
  unfold Host.finish
  split
  · exact fewer
  · split
    · exact fewer
    · have ended : Turns [r] s
          ((host run).change (fun b => b.modify r fun q => (outcome q).closed status) s) :=
        .unmarked rfl fun _ _ kept => kept.settled same
      exact ended.trans (callAll_turns scripts r _ _)

theorem discardEach_turns (rs : List Nat) (s : RequestSession) :
    Turns rs s ((host run).discardEach rs s) := by
  induction rs generalizing s with
  | nil => exact .refl s
  | cons r rest ih => exact (finish_turns scripts r .stale id (fun _ => rfl) s).trans (ih _)

theorem discardAll_turns (s : RequestSession) :
    Turns [] s ((host run).discardAll (s.mark .cleared)) := by
  let dropped := (host run).change Book.untrackAll (s.mark .cleared)
  have dropping := discardEach_turns scripts s.book.flying dropped
  exact ⟨(List.suffix_cons _ _).trans dropping.grows, fun quiet held adding kept =>
    dropping.kept quiet held adding kept.cleared⟩

theorem take_turns (token : Int) (s : RequestSession) :
    Turns [] s ((host run).take token (s.mark (.taken token))).2 := by
  have marked : s.marks <:+ (s.mark (.taken token)).marks := List.suffix_cons _ _
  unfold Host.take
  split
  · rename_i none
    exact ⟨marked, fun _ _ _ kept => kept.missed none⟩
  · rename_i r found
    dsimp only
    split
    · exact ⟨marked, fun _ _ _ kept => (kept.taken found).fewer⟩
    · let untracked := (host run).change (fun b => b.untrack token) (s.mark (.taken token))
      have dropping := finish_turns scripts r .stale id (fun _ => rfl) untracked
      exact ⟨marked.trans dropping.grows, fun quiet held adding kept =>
        dropping.kept quiet held adding (kept.taken found)⟩

theorem addRequest_turns (r : Nat) (tracked : Bool) (s : RequestSession) :
    Turns [] s (addRequest run r tracked s) := by
  unfold addRequest
  split
  · rename_i fresh
    obtain ⟨-, fresh⟩ := Bool.and_eq_true_iff.mp fresh
    let dropped := (host run).change Book.untrackAll
      ((host run).change (fun b => b.allot r) (s.mark .cleared))
    have dropping := discardEach_turns scripts s.book.flying dropped
    refine ⟨?_, fun quiet held adding kept => ?_⟩
    · exact ((List.suffix_cons _ _).trans dropping.grows).trans (List.suffix_cons _ _)
    -- while those that were in flight are told, the request is to be added and not yet in flight
    · have calm := fun meddled => quiet (List.mem_cons_of_mem _ meddled)
      exact (dropping.kept calm held (((s.book.nextToken : Int), r) :: adding)
        (kept.allotted fresh)).stored
  · let dropped := (host run).change Book.untrackAll
      ((host run).change (fun b => b.allot r) (s.mark .meddled))
    have dropping := discardEach_turns scripts (s.book.allot r).flying dropped
    refine .meddled ?_
    unfold Host.add
    dsimp only
    split <;> exact dropping.grows

theorem register_turns (r : Nat) (callback : Option (Callback RequestStep)) (s : RequestSession) :
    Turns [] s ((host run).register r callback s) := by
  unfold Host.register
  split
  · exact .refl s
  · split
    · exact notify_keeps scripts _ r s
    · exact .unmarked rfl fun _ _ kept => kept.modified (fun _ unended => unended) fun _ => rfl

theorem subscribe_keeps (r : Nat) (callback : Option (Callback RequestStep)) :
    Keeps ((host run).subscribe (issue run) r callback) := by
  intro s
  unfold Host.subscribe
  rw [Act.after_change_bind, Act.after_get_bind]
  refine (register_turns scripts r callback s).trans ?_
  generalize (host run).register r callback s = x
  split
  · exact .refl x
  · rename_i q found
    split
    · rw [Act.after_change_bind]
      have pending : Turns [] x
          ((host run).change (fun b => b.modify r fun q => { q with status := .pending }) x) :=
        .unmarked rfl fun _ _ kept => kept.modified (fun _ _ => rfl) fun _ => rfl
      exact pending.trans (issue_keeps scripts _ r _)
    · exact .refl x

theorem perform_keeps (step : RequestStep) : Keeps (perform run step) := by
  cases step with
  | new issue =>
    intro s
    exact .unmarked rfl fun _ _ kept => kept.created issue
  | subscribe request callback =>
    refine keeps_bind (locate_keeps request) fun r => ?_
    refine keeps_bind (enlist_turns r callback) fun _ => ?_
    exact keeps_bind (subscribe_keeps scripts r callback) fun _ => .refl
  | add request tracked =>
    exact keeps_bind (locate_keeps request) fun r => addRequest_turns scripts r tracked
  | take token =>
    intro s
    have taken := take_turns scripts token s
    have left : (perform run (.take token)).after s =
        ((host run).take token (s.mark (.taken token))).2 := by
      unfold perform
      rw [Act.after_get_bind]
      rcases (host run).take token (s.mark (.taken token)) with ⟨_ | r, t⟩ <;> rfl
    rw [left]
    exact taken
  | discardAll => exact discardAll_turns scripts
  | resolve request draft =>
    refine keeps_bind (locate_keeps request) fun r => ?_
    refine keeps_bind (fun s => .refl s) fun page s => ?_
    exact .meddled (finish_turns scripts r .done (fun q => { q with page := some page }) (fun _ => rfl) _).grows
  | fail request error =>
    refine keeps_bind (locate_keeps request) fun r s => ?_
    exact .meddled (finish_turns scripts r .failed (fun q => { q with error := some error }) (fun _ => rfl) _).grows
  | discard request =>
    refine keeps_bind (locate_keeps request) fun r s => ?_
    exact .meddled (finish_turns scripts r .stale id (fun _ => rfl) _).grows
  | putBack request =>
    exact keeps_bind (locate_keeps request) fun r s => .meddled (List.suffix_refl _)
  | raise => exact .refl

end Operations

theorem runTo_keeps (depth : Nat) : ∀ step, Keeps (runTo depth step) := by
  induction depth with
  | zero => exact fun _ => .refl
  | succ depth ih => exact perform_keeps ih

inductive Reached : RequestSession → Prop where
  | start : Reached {}
  | stepped (before : Reached x) (depth : Nat) (step : RequestStep) :
      Reached ((runTo depth step).after x)

def played (depth : Nat) (steps : List RequestStep) (s : RequestSession) : RequestSession :=
  steps.foldl (fun s step => (runTo depth step).after s) s

theorem Reached.played (before : Reached s) (depth : Nat) (steps : List RequestStep) :
    Reached (s.played depth steps) := by
  induction steps generalizing s with
  | nil => exact before
  | cons step rest ih => exact ih (before.stepped depth step)

theorem Reached.kept (reached : Reached s) (plain : .meddled ∉ s.marks) :
    Kept [] [] s.book s.marks := by
  induction reached with
  | start => exact .empty
  | @stepped t before depth step ih =>
    have turns := runTo_keeps depth step t
    exact turns.kept plain [] [] (ih fun meddled => plain (turns.grows.subset meddled))

theorem isDone_unended {b : RequestBook} {r : Nat} (unended : Unended (b.statusOf r)) :
    b.isDone r = false := by
  obtain ⟨status, same, opened⟩ := unended
  unfold Book.statusOf at same
  unfold Book.isDone
  cases found : b.request? r with
  | none =>
    rw [found] at same
    cases same
  | some q =>
    rw [found] at same
    cases same
    exact opened

-- Where fresh requests are added, taken and discarded, whatever of this their subscribers do: each
-- request in flight stands under its own token and has not ended; those that are not the latest are
-- just those that were overtaken; and so there is at most one in flight, the newest, if and only if
-- none was overtaken.
theorem newest_in_flight (reached : Reached s) (plain : .meddled ∉ s.marks) :
    (∀ e ∈ s.book.inFlight, s.book.tokenOf e.2 = e.1 ∧ s.book.isDone e.2 = false) ∧
    (∀ t, t ∈ overtaken s.marks ↔ t ≠ s.book.latest ∧ ∃ r, (t, r) ∈ s.book.inFlight) ∧
    ((s.book.inFlight.length ≤ 1 ∧
        ∀ e ∈ s.book.inFlight, e.1 = s.book.latest ∧ s.book.isDone e.2 = false) ↔
      overtaken s.marks = []) := by
  have kept := reached.kept plain
  have entry {e : Int × Nat} (member : e ∈ s.book.inFlight) :
      s.book.tokenOf e.2 = e.1 ∧ s.book.isDone e.2 = false :=
    ⟨kept.ledger.named e member,
      isDone_unended (kept.ledger.status e.2 (List.mem_map_of_mem member))⟩
  refine ⟨fun e => entry, fun t => ⟨kept.there t, ?_⟩, ?_, fun none => ⟨?_, fun e member => ?_⟩⟩
  · rintro ⟨old, r, member⟩
    exact (kept.late (t, r) member).resolve_right old
  · rintro ⟨-, newest⟩
    refine List.eq_nil_iff_forall_not_mem.mpr fun t member => ?_
    obtain ⟨old, r, inside⟩ := kept.there t member
    exact old (newest (t, r) inside).1
  · have newest : s.book.inFlight.map (fun e => e.1) =
        List.replicate s.book.inFlight.length s.book.latest := by
      refine List.eq_replicate_iff.mpr ⟨List.length_map _, fun t member => ?_⟩
      obtain ⟨e, inside, rfl⟩ := List.mem_map.mp member
      exact (kept.late e inside).resolve_left (by simp [none])
    have apart := kept.ledger.apart
    rw [List.nil_append, newest] at apart
    exact List.nodup_replicate.mp apart
  · have newest := (kept.late e member).resolve_left (by simp [none])
    exact ⟨newest, (entry member).2⟩

-- Two requests wait; the first is superseded by the second, and its subscriber adds a third.
def crossing : List RequestStep :=
  let again : Callback RequestStep := { name := "again", steps := [.add 2 true] }
  [.new [], .new [], .new [], .subscribe 0 (some again), .add 0 true, .add 1 true]

def overtaking : RequestSession := played 2 crossing {}

-- The second is put in flight beside the third, which is newer.
theorem overtaking_crowded :
    Reached overtaking ∧ .meddled ∉ overtaking.marks ∧
      overtaking.book.inFlight = [(2, 2), (1, 1)] ∧ overtaking.book.latest = 2 :=
  ⟨Reached.start.played 2 _, by decide +kernel, by decide +kernel, by decide +kernel⟩

def relieved : RequestSession := played 2 (crossing ++ [.take 1]) {}

theorem relieved_newest :
    .meddled ∉ relieved.marks ∧ overtaken relieved.marks = [] ∧ relieved.book.inFlight.length ≤ 1 ∧
      ∀ e ∈ relieved.book.inFlight,
        e.1 = relieved.book.latest ∧ relieved.book.isDone e.2 = false := by
  have plain : .meddled ∉ relieved.marks := by decide +kernel
  have none : overtaken relieved.marks = [] := by decide +kernel
  obtain ⟨-, -, newest⟩ := newest_in_flight (Reached.start.played 2 _) plain
  exact ⟨plain, none, newest.mpr none⟩

end RequestSession

end PagedTable
