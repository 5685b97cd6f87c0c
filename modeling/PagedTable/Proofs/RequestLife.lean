import Mathlib.Data.List.Perm.Subperm
import PagedTable.Proofs.NewestRequest

namespace PagedTable

def Request.verdict {χ ι : Type} (q : Request χ ι) : RequestStatus × Option Page × Option Fault :=
  (q.status, q.page, q.error)

theorem Request.verdict_done {χ ι : Type} {p q : Request χ ι} (same : p.verdict = q.verdict) :
    p.isDone = q.isDone := by
  have status : p.status = q.status := congrArg Prod.fst same
  rw [isDone, isDone, status]

namespace LifeEvent

variable (r : Nat)

def subscriber? : LifeEvent → Option (Callback RequestStep)
  | .subscribed k c => if k = r then some c else none
  | _ => none

def call? : LifeEvent → Option (Callback RequestStep × SessionRequest)
  | .called k c seen => if k = r then some (c, seen) else none
  | _ => none

def issues : LifeEvent → Bool
  | .issued k => k = r
  | _ => false

def revives : LifeEvent → Bool
  | .revived k => k = r
  | _ => false

end LifeEvent

namespace RequestSession

def subscribersOf (r : Nat) (lives : List LifeEvent) : List (Callback RequestStep) :=
  lives.filterMap (LifeEvent.subscriber? r)

def callsOf (r : Nat) (lives : List LifeEvent) : List (Callback RequestStep × SessionRequest) :=
  lives.filterMap (LifeEvent.call? r)

def calleesOf (r : Nat) (lives : List LifeEvent) : List (Callback RequestStep) :=
  (callsOf r lives).map Prod.fst

def issuesOf (r : Nat) (lives : List LifeEvent) : Nat := lives.countP (LifeEvent.issues r)

-- A request; one that is yet to be created is as it will be.
def requestAt (r : Nat) (s : RequestSession) : SessionRequest :=
  (s.book.request? r).getD { issuer := [] }

section Requests

variable (run : Run) {f : SessionRequest → SessionRequest}

theorem requestAt_found {r : Nat} {s : RequestSession} {q : SessionRequest}
    (found : s.book.request? r = some q) : s.requestAt r = q := by
  rw [requestAt, found]
  rfl

theorem requestAt_modify {r : Nat} {s : RequestSession} {q : SessionRequest}
    (found : s.book.request? r = some q) :
    ((host run).change (fun b => b.modify r f) s).requestAt r = f q := by
  apply requestAt_found
  change (s.book.modify r f).request? r = _
  rw [Book.request?_modify, found]
  rfl

theorem requestAt_modify_other {r k : Nat} {s : RequestSession} (other : k ≠ r) :
    ((host run).change (fun b => b.modify k f) s).requestAt r = s.requestAt r := by
  change ((s.book.modify k f).request? r).getD _ = _
  rw [Book.request?_modify_other other.symm]
  rfl

end Requests

-- A request between operations. Those that are owed a call have been taken out of its callbacks and
-- not been called yet.
structure Sound (r : Nat) (owed : List (Callback RequestStep)) (lives : List LifeEvent)
    (q : SessionRequest) : Prop where
  accounted : (calleesOf r lives ++ (owed ++ q.callbacks)).Perm (subscribersOf r lives)
  early : ∀ past, past <:+ lives → (calleesOf r past).Subperm (subscribersOf r past)
  quiet : q.isDone = false → callsOf r lives = [] ∧ owed = []
  told : q.isDone = true → q.callbacks = []
  once : issuesOf r lives ≤ if q.status = .created then 0 else 1
  paged : q.page.isSome = true ↔ q.status = .done
  errored : q.error.isSome = true ↔ q.status = .failed
  settled : ∀ call ∈ callsOf r lives, call.2.isDone = true ∧ call.2.verdict = q.verdict

structure Ends (status : RequestStatus) (outcome : SessionRequest → SessionRequest) : Prop where
  terminal : status.isTerminal = true
  paged : ∀ q, q.page = none → ((outcome q).page.isSome = true ↔ status = .done)
  errored : ∀ q, q.error = none → ((outcome q).error.isSome = true ↔ status = .failed)

theorem resolve_ends (page : Page) : Ends .done fun q => { q with page := some page } where
  terminal := rfl
  paged _ _ := ⟨fun _ => rfl, fun _ => rfl⟩
  errored q none := by rw [none]; constructor <;> nofun

theorem fail_ends (error : Fault) : Ends .failed fun q => { q with error := some error } where
  terminal := rfl
  paged q none := by rw [none]; constructor <;> nofun
  errored _ _ := ⟨fun _ => rfl, fun _ => rfl⟩

theorem discard_ends : Ends .stale id where
  terminal := rfl
  paged q none := by rw [id, none]; constructor <;> nofun
  errored q none := by rw [id, none]; constructor <;> nofun

namespace Sound

variable {r : Nat} {owed : List (Callback RequestStep)} {lives : List LifeEvent} {p q : SessionRequest}
  {e : LifeEvent} {c : Callback RequestStep}

theorem fresh : Sound r [] [] { issuer := [] } where
  accounted := .refl _
  early past short := by
    obtain rfl := List.suffix_nil.mp short
    exact .refl _
  quiet _ := ⟨rfl, rfl⟩
  told _ := rfl
  once := Nat.le_refl 0
  paged := by constructor <;> nofun
  errored := by constructor <;> nofun
  settled _ member := nomatch member

theorem covered (sound : Sound r owed lives q) : (calleesOf r lives).Subperm (subscribersOf r lives) :=
  sound.early _ (List.suffix_refl _)

theorem earlier (sound : Sound r owed lives q)
    (now : (calleesOf r (e :: lives)).Subperm (subscribersOf r (e :: lives))) :
    ∀ past, past <:+ e :: lives → (calleesOf r past).Subperm (subscribersOf r past) := by
  intro past short
  rcases List.suffix_cons_iff.mp short with rfl | short
  · exact now
  · exact sound.early past short

theorem restated (sound : Sound r owed lives q) (verdict : p.verdict = q.verdict)
    (callbacks : p.callbacks = q.callbacks) : Sound r owed lives p := by
  have done := Request.verdict_done verdict
  obtain ⟨status, page, error⟩ : p.status = q.status ∧ p.page = q.page ∧ p.error = q.error := by
    simpa [Request.verdict] using verdict
  constructor
  · rw [callbacks]
    exact sound.accounted
  · exact sound.early
  · rw [done]
    exact sound.quiet
  · rw [done, callbacks]
    exact sound.told
  · rw [status]
    exact sound.once
  · rw [page, status]
    exact sound.paged
  · rw [error, status]
    exact sound.errored
  · rw [verdict]
    exact sound.settled

theorem foreign (sound : Sound r owed lives q) (subscriber : e.subscriber? r = none)
    (call : e.call? r = none) (issue : e.issues r = false) : Sound r owed (e :: lives) q := by
  have calls : callsOf r (e :: lives) = callsOf r lives := List.filterMap_cons_none call
  have callees : calleesOf r (e :: lives) = calleesOf r lives := congrArg (List.map Prod.fst) calls
  have subscribers : subscribersOf r (e :: lives) = subscribersOf r lives :=
    List.filterMap_cons_none subscriber
  have issued : issuesOf r (e :: lives) = issuesOf r lives := by simp [issuesOf, issue]
  refine ⟨?_, sound.earlier ?_, ?_, sound.told, ?_, sound.paged, sound.errored, ?_⟩
  · rw [callees, subscribers]
    exact sound.accounted
  · rw [callees, subscribers]
    exact sound.covered
  · rw [calls]
    exact sound.quiet
  · rw [issued]
    exact sound.once
  · rw [calls]
    exact sound.settled

theorem called (sound : Sound r (c :: owed) lives q) : Sound r owed (.called r c q :: lives) q := by
  have ended : q.isDone = true := by
    by_contra unended
    obtain ⟨-, none⟩ := sound.quiet (Bool.eq_false_iff.mpr unended)
    cases none
  have calls : callsOf r (.called r c q :: lives) = (c, q) :: callsOf r lives := by
    simp [callsOf, LifeEvent.call?]
  have callees : calleesOf r (.called r c q :: lives) = c :: calleesOf r lives :=
    congrArg (List.map Prod.fst) calls
  have accounted : (calleesOf r (.called r c q :: lives) ++ (owed ++ q.callbacks)).Perm
      (subscribersOf r (.called r c q :: lives)) := by
    rw [callees]
    exact List.perm_middle.symm.trans sound.accounted
  refine ⟨accounted, sound.earlier ?_, ?_, sound.told, sound.once, sound.paged, sound.errored, ?_⟩
  · exact (List.sublist_append_left _ _).subperm.trans accounted.subperm
  · intro unended
    exact absurd ended (Bool.eq_false_iff.mp unended)
  · rw [calls]
    intro call member
    rcases List.mem_cons.mp member with rfl | before
    · exact ⟨ended, rfl⟩
    · exact sound.settled call before

theorem subscribersOf_subscribed :
    subscribersOf r (.subscribed r c :: lives) = c :: subscribersOf r lives := by
  simp [subscribersOf, LifeEvent.subscriber?]

theorem covered_subscribed (sound : Sound r owed lives q) :
    (calleesOf r (.subscribed r c :: lives)).Subperm (subscribersOf r (.subscribed r c :: lives)) := by
  rw [subscribersOf_subscribed]
  exact sound.covered.trans (List.sublist_cons_self _ _).subperm

theorem subscribed (sound : Sound r owed lives q) (ended : q.isDone = true)
    (c : Callback RequestStep) : Sound r (c :: owed) (.subscribed r c :: lives) q := by
  refine ⟨?_, sound.earlier sound.covered_subscribed, ?_, sound.told, sound.once, sound.paged,
    sound.errored, sound.settled⟩
  · rw [subscribersOf_subscribed]
    exact List.perm_middle.trans (sound.accounted.cons c)
  · intro unended
    exact absurd ended (Bool.eq_false_iff.mp unended)

theorem waiting (sound : Sound r owed lives q) (unended : q.isDone = false) (c : Callback RequestStep) :
    Sound r owed (.subscribed r c :: lives) { q with callbacks := q.callbacks ++ [c] } := by
  refine ⟨?_, sound.earlier sound.covered_subscribed, sound.quiet, ?_, sound.once, sound.paged,
    sound.errored, sound.settled⟩
  · rw [subscribersOf_subscribed, ← List.append_assoc, ← List.append_assoc]
    have accounted := sound.accounted
    rw [← List.append_assoc] at accounted
    exact (List.perm_append_singleton c _).trans (accounted.cons c)
  · intro ended
    exact absurd ended (Bool.eq_false_iff.mp unended)

theorem issued (sound : Sound r owed lives q) (created : q.status = .created) :
    Sound r owed (.issued r :: lives) { q with status := .pending } := by
  have unended : q.isDone = false := by
    rw [Request.isDone, created]
    rfl
  obtain ⟨silent, -⟩ := sound.quiet unended
  have once := sound.once
  have paged := sound.paged
  have errored := sound.errored
  rw [created] at once paged errored
  refine ⟨sound.accounted, sound.earlier sound.covered, fun _ => sound.quiet unended, nofun, ?_, ?_, ?_, ?_⟩
  · have first : issuesOf r (.issued r :: lives) = issuesOf r lives + 1 :=
      List.countP_cons_of_pos (by simp [LifeEvent.issues])
    change issuesOf r (.issued r :: lives) ≤ 1
    rw [if_pos rfl] at once
    omega
  · simpa using paged
  · simpa using errored
  · change ∀ call ∈ callsOf r lives, _
    rw [silent]
    exact List.forall_mem_nil _

theorem ended {status : RequestStatus} {outcome : SessionRequest → SessionRequest}
    (sound : Sound r owed lives q) (unended : q.isDone = false) (ends : Ends status outcome) :
    Sound r (q.callbacks ++ owed) lives ((outcome q).closed status) := by
  obtain ⟨silent, rfl⟩ := sound.quiet unended
  have pageless : q.page = none := by
    by_contra present
    rw [Request.isDone, sound.paged.mp (Option.isSome_iff_ne_none.mpr present)] at unended
    cases unended
  have errorless : q.error = none := by
    by_contra present
    rw [Request.isDone, sound.errored.mp (Option.isSome_iff_ne_none.mpr present)] at unended
    cases unended
  refine ⟨?_, sound.early, ?_, fun _ => rfl, ?_, ends.paged q pageless, ends.errored q errorless, ?_⟩
  · rw [List.append_nil, Request.closed, List.append_nil]
    exact sound.accounted
  · intro ongoing
    exact absurd ends.terminal (Bool.eq_false_iff.mp ongoing)
  · have other : status ≠ .created := by
      rintro rfl
      cases ends.terminal
    change issuesOf r lives ≤ if status = .created then 0 else 1
    rw [if_neg other]
    refine Nat.le_trans sound.once ?_
    split <;> omega
  · rw [silent]
    exact List.forall_mem_nil _

end Sound

-- What leads from one session to another, in which those that are owed a call change as told. A request
-- that was made pending again does not matter.
structure Lives (r : Nat) (owed owed' : List (Callback RequestStep)) (s t : RequestSession) : Prop where
  grows : s.lives <:+ t.lives
  sound : .revived r ∉ t.lives → ∀ more, Sound r (owed ++ more) s.lives (s.requestAt r) →
    Sound r (owed' ++ more) t.lives (t.requestAt r)
  final : .revived r ∉ t.lives → (s.requestAt r).isDone = true →
    (t.requestAt r).verdict = (s.requestAt r).verdict

variable {r k : Nat} {s t u : RequestSession} {xs ys zs : List (Callback RequestStep)}

namespace Lives

theorem refl (s : RequestSession) : Lives r xs xs s s :=
  ⟨List.suffix_refl _, fun _ _ sound => sound, fun _ _ => rfl⟩

theorem trans (one : Lives r xs ys s t) (two : Lives r ys zs t u) : Lives r xs zs s u := by
  have calm (kept : .revived r ∉ u.lives) : .revived r ∉ t.lives :=
    fun revived => kept (two.grows.subset revived)
  refine ⟨one.grows.trans two.grows, fun kept more sound => ?_, fun kept done => ?_⟩
  · exact two.sound kept more (one.sound (calm kept) more sound)
  · have same := one.final (calm kept) done
    rw [← Request.verdict_done same] at done
    exact (two.final kept done).trans same

theorem framed (lives : Lives r xs ys s t) (zs : List (Callback RequestStep)) :
    Lives r (xs ++ zs) (ys ++ zs) s t := by
  refine ⟨lives.grows, fun kept more sound => ?_, lives.final⟩
  rw [List.append_assoc] at sound ⊢
  exact lives.sound kept (zs ++ more) sound

theorem plain (lives : t.lives = s.lives)
    (verdict : (t.requestAt r).verdict = (s.requestAt r).verdict)
    (callbacks : (t.requestAt r).callbacks = (s.requestAt r).callbacks) : Lives r xs xs s t := by
  refine ⟨lives ▸ List.suffix_refl _, fun _ more sound => ?_, fun _ _ => verdict⟩
  rw [lives]
  exact sound.restated verdict callbacks

theorem befallen {e : LifeEvent} (lives : t.lives = e :: s.lives)
    (verdict : (s.requestAt r).isDone = true → (t.requestAt r).verdict = (s.requestAt r).verdict)
    (sound : ∀ more, Sound r (xs ++ more) s.lives (s.requestAt r) →
      Sound r (ys ++ more) (e :: s.lives) (t.requestAt r)) : Lives r xs ys s t := by
  refine ⟨?_, fun _ more before => ?_, fun _ => verdict⟩
  · rw [lives]
    exact List.suffix_cons _ _
  · rw [lives]
    exact sound more before

-- A request that has not ended changes with the event that befalls it.
theorem advanced (run : Run) {f : SessionRequest → SessionRequest} {e : LifeEvent} {q : SessionRequest}
    (found : s.book.request? r = some q) (unended : q.isDone = false)
    (sound : ∀ more, Sound r (xs ++ more) s.lives q → Sound r (ys ++ more) (e :: s.lives) (f q)) :
    Lives r xs ys s (((host run).change (fun b => b.modify r f) s).befall e) := by
  have before := requestAt_found found
  have now : (((host run).change (fun b => b.modify r f) s).befall e).requestAt r = f q :=
    requestAt_modify run found
  refine .befallen rfl (fun done => ?_) fun more known => ?_
  · rw [before, unended] at done
    cases done
  · rw [before] at known
    rw [now]
    exact sound more known

theorem foreign {e : LifeEvent} (subscriber : e.subscriber? r = none) (call : e.call? r = none)
    (issue : e.issues r = false) : Lives r xs xs s (s.befall e) :=
  .befallen rfl (fun _ => rfl) fun _ sound => sound.foreign subscriber call issue

theorem recorded (e : RequestEvent) (s : RequestSession) : Lives r xs xs s (s.record e) :=
  .plain rfl rfl rfl

theorem marked (m : BookMark) (s : RequestSession) : Lives r xs xs s (s.mark m) :=
  .plain rfl rfl rfl

theorem changed_other {run : Run} {f : SessionRequest → SessionRequest} (other : k ≠ r)
    (s : RequestSession) : Lives r xs xs s ((host run).change (fun b => b.modify k f) s) := by
  have same : ((host run).change (fun b => b.modify k f) s).requestAt r = s.requestAt r :=
    requestAt_modify_other run other
  exact .plain rfl (congrArg Request.verdict same) (congrArg Request.callbacks same)

end Lives

def Lasts {α : Type} (r : Nat) (a : Act RequestSession α) : Prop := ∀ s, Lives r [] [] s (a.after s)

theorem lasts_bind {α β : Type} {a : Act RequestSession α} {f : α → Act RequestSession β}
    (first : Lasts r a) (second : ∀ x, Lasts r (f x)) : Lasts r (a >>= f) :=
  fun s => Act.after_bind_leads (Lives r [] []) Lives.trans (first s) second

section Operations

variable {run : Run} (scripts : ∀ step, Lasts r (run step))

include scripts

theorem follow_lasts (steps : List RequestStep) : Lasts r (follow run steps) := by
  induction steps with
  | nil => exact .refl
  | cons step rest ih =>
    intro s
    unfold follow
    rw [Act.after_attempt_bind, Act.after_change_bind]
    exact ((scripts step s).trans (.recorded _ _)).trans (ih _)

theorem body_lasts (c : Callback RequestStep) : Lasts r (do
    follow run c.steps
    if c.fails then throw callbackFault) := by
  refine lasts_bind (follow_lasts scripts c.steps) fun _ => ?_
  split <;> exact .refl

theorem call_own (c : Callback RequestStep) (s : RequestSession) :
    Lives r [c] [] s ((host run).call r c s) := by
  change Lives r [c] [] s ((notify run c r).after s)
  unfold notify
  rw [Act.after_get_bind]
  dsimp only
  cases found : s.book.request? r with
  | none =>
    have lives := body_lasts scripts c s
    refine ⟨lives.grows, fun _ more sound => ?_, lives.final⟩
    have fresh : s.requestAt r = { issuer := [] } := by rw [requestAt, found]; rfl
    rw [fresh] at sound
    obtain ⟨-, none⟩ := sound.quiet rfl
    cases none
  | some q =>
    rw [Act.after_change_bind]
    have same := requestAt_found found
    have told : Lives r [c] [] (s.record (.called c.name q.summary))
        ((s.record (.called c.name q.summary)).befall (.called r c q)) := by
      refine .befallen rfl (fun _ => rfl) fun more sound => ?_
      subst same
      exact sound.called
    exact ((Lives.recorded _ s).trans told).trans (body_lasts scripts c _)

theorem call_other (other : k ≠ r) (c : Callback RequestStep) (s : RequestSession) :
    Lives r [] [] s ((host run).call k c s) := by
  change Lives r [] [] s ((notify run c k).after s)
  unfold notify
  rw [Act.after_get_bind]
  dsimp only
  cases s.book.request? k with
  | none => exact body_lasts scripts c s
  | some q =>
    rw [Act.after_change_bind]
    have told : Lives r [] [] (s.record (.called c.name q.summary))
        ((s.record (.called c.name q.summary)).befall (.called k c q)) :=
      .foreign rfl (if_neg other) rfl
    exact ((Lives.recorded _ s).trans told).trans (body_lasts scripts c _)

theorem callAll_own (cs : List (Callback RequestStep)) (s : RequestSession) :
    Lives r cs [] s ((host run).callAll r cs s) := by
  induction cs generalizing s with
  | nil => exact .refl s
  | cons c rest ih => exact ((call_own scripts c s).framed rest).trans (ih _)

theorem callAll_other (other : k ≠ r) (cs : List (Callback RequestStep)) (s : RequestSession) :
    Lives r [] [] s ((host run).callAll k cs s) := by
  induction cs generalizing s with
  | nil => exact .refl s
  | cons c rest ih => exact (call_other scripts other c s).trans (ih _)

theorem finish_lives (k : Nat) {status : RequestStatus} {outcome : SessionRequest → SessionRequest}
    (ends : Ends status outcome) (s : RequestSession) :
    Lives r [] [] s ((host run).finish k status outcome s) := by
  unfold Host.finish
  split
  · exact .refl s
  · rename_i q found
    split
    · exact .refl s
    · rename_i ongoing
      have unended : q.isDone = false := Bool.eq_false_iff.mpr ongoing
      by_cases own : k = r
      · subst own
        have before := requestAt_found found
        have now := requestAt_modify run (f := fun q => (outcome q).closed status) found
        have owing : Lives k [] q.callbacks s
            ((host run).change (fun b => b.modify k fun q => (outcome q).closed status) s) := by
          refine ⟨List.suffix_refl _, fun _ more sound => ?_, fun _ done => ?_⟩
          · rw [before] at sound
            rw [now]
            exact sound.ended unended ends
          · rw [before] at done
            exact absurd done ongoing
        exact owing.trans (callAll_own scripts _ _)
      · exact (Lives.changed_other own s).trans (callAll_other scripts own _ _)

theorem discardEach_lives (ks : List Nat) (s : RequestSession) :
    Lives r [] [] s ((host run).discardEach ks s) := by
  induction ks generalizing s with
  | nil => exact .refl s
  | cons k rest ih => exact (finish_lives scripts k discard_ends s).trans (ih _)

theorem discardAll_lives (s : RequestSession) : Lives r [] [] s ((host run).discardAll s) := by
  have untracked : Lives r [] [] s ((host run).change Book.untrackAll s) := .plain rfl rfl rfl
  exact untracked.trans (discardEach_lives scripts _ _)

theorem take_lives (token : Int) (s : RequestSession) :
    Lives r [] [] s ((host run).take token s).2 := by
  unfold Host.take
  split
  · exact .refl s
  · rename_i k _
    have untracked : Lives r [] [] s ((host run).change (fun b => b.untrack token) s) :=
      .plain rfl rfl rfl
    dsimp only
    split
    · exact untracked
    · exact untracked.trans (finish_lives scripts k discard_ends _)

theorem add_lives (k : Nat) (tracked : Bool) (s : RequestSession) :
    Lives r [] [] s ((host run).add k tracked s) := by
  have allotted : Lives r [] [] s ((host run).change (fun b => b.allot k) s) := by
    by_cases own : k = r
    · subst own
      cases found : s.book.request? k with
      | none =>
        have same : ((host run).change (fun b => b.allot k) s).requestAt k = s.requestAt k := by
          change ((s.book.modify k _).request? k).getD _ = (s.book.request? k).getD _
          rw [Book.request?_modify, found]
          rfl
        exact .plain rfl (congrArg Request.verdict same) (congrArg Request.callbacks same)
      | some q =>
        have before := requestAt_found found
        have now : ((host run).change (fun b => b.allot k) s).requestAt k =
            { q with token := s.book.nextToken } := requestAt_modify run found
        exact .plain rfl (by rw [now, before]; rfl) (by rw [now, before])
    · have same : ((host run).change (fun b => b.allot k) s).requestAt r = s.requestAt r :=
        requestAt_modify_other run own
      exact .plain rfl (congrArg Request.verdict same) (congrArg Request.callbacks same)
  have dropped := allotted.trans (discardAll_lives scripts _)
  unfold Host.add
  dsimp only
  split
  · exact dropped.trans (.plain rfl rfl rfl)
  · exact dropped

theorem addRequest_lives (k : Nat) (tracked : Bool) (s : RequestSession) :
    Lives r [] [] s (addRequest run k tracked s) := by
  unfold addRequest
  split
  · exact ((Lives.marked _ s).trans (add_lives scripts k true _)).trans (.marked _ _)
  · exact (Lives.marked _ s).trans (add_lives scripts k tracked _)

theorem register_lives (known : s.book.request? k ≠ none) (callback : Option (Callback RequestStep)) :
    Lives r [] [] s ((host run).register k callback (s.enlist k callback)) := by
  cases callback with
  | none => exact .refl s
  | some c =>
    obtain ⟨q, found⟩ := Option.ne_none_iff_exists'.mp known
    have done : (host run).isDone k (s.befall (.subscribed k c)) = q.isDone := by
      change s.book.isDone k = _
      rw [Book.isDone, found]
    change Lives r [] [] s (if (host run).isDone k (s.befall (.subscribed k c)) = true then _ else _)
    rw [done]
    have before := requestAt_found found
    by_cases own : k = r
    · subst own
      split
      · rename_i ended
        have owing : Lives k [] [c] s (s.befall (.subscribed k c)) := by
          refine .befallen rfl (fun _ => rfl) fun more sound => ?_
          exact sound.subscribed (before ▸ ended) c
        exact owing.trans (call_own scripts c _)
      · rename_i ongoing
        have unended := Bool.eq_false_iff.mpr ongoing
        exact .advanced run found unended fun more sound => sound.waiting unended c
    · have enlisted : Lives r [] [] s (s.befall (.subscribed k c)) := .foreign (if_neg own) rfl rfl
      split
      · exact enlisted.trans (call_other scripts own c _)
      · exact enlisted.trans (Lives.changed_other own _)

theorem issueSteps_lasts (steps : List RequestStep) : Lasts r (issueSteps run steps) := by
  induction steps with
  | nil => exact .refl
  | cons step rest ih =>
    unfold issueSteps
    split
    · exact .refl
    · exact .refl
    · rename_i same
      cases same
      intro s
      rw [Act.after_attempt_bind, Act.after_change_bind]
      exact ((scripts _ s).trans (.recorded _ _)).trans (ih _)

theorem subscribe_lives (known : s.book.request? k ≠ none)
    (callback : Option (Callback RequestStep)) :
    Lives r [] [] s (((host run).subscribe (issue run) k callback).after (s.enlist k callback)) := by
  unfold Host.subscribe
  rw [Act.after_change_bind, Act.after_get_bind]
  refine (register_lives scripts known callback).trans ?_
  generalize (host run).register k callback (s.enlist k callback) = x
  split
  · exact .refl x
  · rename_i q found
    split
    · rename_i created
      rw [Act.after_change_bind]
      unfold issue
      rw [Act.after_change_bind]
      refine Lives.trans ?_ (issueSteps_lasts scripts _ _)
      let pending := (host run).change (fun b => b.modify k fun q => { q with status := .pending }) x
      by_cases own : k = r
      · subst own
        have unended : q.isDone = false := by
          rw [Request.isDone, created]
          rfl
        have recorded : Lives k [] [] x (x.record (.issued k)) := .recorded _ x
        exact recorded.trans (.advanced run found unended fun more sound => sound.issued created)
      · have changed : Lives r [] [] x pending := .changed_other own x
        have recorded : Lives r [] [] pending (pending.record (.issued k)) := .recorded _ pending
        exact (changed.trans recorded).trans (.foreign rfl rfl (decide_eq_false own))
    · exact .refl x

-- A step about a request is about one that has been created.
omit scripts in
theorem locate_lasts {α : Type} {request : Int} {f : Nat → Act RequestSession α}
    (known : ∀ k s, s.book.request? k ≠ none → Lives r [] [] s ((f k).after s)) :
    Lasts r (locate request >>= f) := by
  intro s
  have located : (locate request).outcome s = (position s.book.requests.length request, s) := rfl
  rw [Act.after_bind, located]
  cases found : position s.book.requests.length request with
  | error _ => exact .refl s
  | ok k =>
    have bound : k < s.book.requests.length := by
      unfold position position? at found
      split at found <;> rename_i same
      · cases found
        split at same
        · split at same
          · cases same
            assumption
          · cases same
        · split at same
          · cases same
            omega
          · cases same
      · cases found
    refine known k s ?_
    rw [Book.request?, List.getElem?_eq_getElem bound]
    exact Option.some_ne_none _

theorem perform_lasts (step : RequestStep) : Lasts r (perform run step) := by
  cases step with
  | new issuer =>
    intro s
    change Lives r [] [] s ((host run).change (fun b => b.create issuer) s)
    cases found : s.book.request? r with
    | some q =>
      have same : ((host run).change (fun b => b.create issuer) s).requestAt r = q :=
        requestAt_found (Book.request?_create found issuer)
      rw [← requestAt_found found] at same
      exact .plain rfl (congrArg Request.verdict same) (congrArg Request.callbacks same)
    | none =>
      have before : s.requestAt r = { issuer := [] } := by rw [requestAt, found]; rfl
      -- before it is created a request counts as one that nobody has subscribed to
      have now : ∃ given, ((host run).change (fun b => b.create issuer) s).requestAt r =
          { issuer := given } := by
        change ∃ given, ((s.book.create issuer).request? r).getD { issuer := [] } = { issuer := given }
        have absent := List.getElem?_eq_none_iff.mp found
        by_cases newest : r = s.book.requests.length
        · exact ⟨issuer, by simp [Book.create, Book.request?, newest]⟩
        · refine ⟨[], ?_⟩
          rw [Book.create, Book.request?, List.getElem?_eq_none_iff.mpr (by simp; omega)]
          rfl
      obtain ⟨given, now⟩ := now
      exact .plain rfl (by rw [now, before]; rfl) (by rw [now, before])
  | subscribe request callback =>
    refine locate_lasts fun k s known => ?_
    rw [Act.after_change_bind, Act.after_bind_pure]
    exact subscribe_lives scripts known callback
  | add request tracked => exact locate_lasts fun k s _ => addRequest_lives scripts k tracked s
  | take token =>
    intro s
    have left : (perform run (.take token)).after s =
        ((host run).take token (s.mark (.taken token))).2 := by
      unfold perform
      rw [Act.after_get_bind]
      rcases (host run).take token (s.mark (.taken token)) with ⟨_ | r, t⟩ <;> rfl
    rw [left]
    exact (Lives.marked _ s).trans (take_lives scripts token _)
  | discardAll =>
    intro s
    exact (Lives.marked _ s).trans (discardAll_lives scripts _)
  | resolve request draft =>
    refine locate_lasts fun k s _ => ?_
    rw [Act.after_result_bind]
    split
    · rename_i page _
      exact (Lives.marked _ s).trans (finish_lives scripts k (resolve_ends page) _)
    · exact .refl s
  | fail request error =>
    refine locate_lasts fun k s _ => ?_
    exact (Lives.marked _ s).trans (finish_lives scripts k (fail_ends error) _)
  | discard request =>
    refine locate_lasts fun k s _ => ?_
    exact (Lives.marked _ s).trans (finish_lives scripts k discard_ends _)
  | putBack request =>
    refine locate_lasts fun k s _ => ?_
    let marked := (s.mark .meddled).befall (.revived k)
    change Lives r [] [] s ((host run).change (putBack k) marked)
    -- of a request that is made pending again nothing is promised; the others do not notice
    by_cases own : k = r
    · subst own
      have revived : .revived k ∈ ((host run).change (putBack k) marked).lives := List.mem_cons_self
      exact ⟨List.suffix_cons _ _, fun kept => absurd revived kept, fun kept => absurd revived kept⟩
    · have same : ((host run).change (putBack k) marked).requestAt r = marked.requestAt r := by
        change ((putBack k s.book).request? r).getD _ = (s.book.request? r).getD _
        unfold putBack
        split
        · rename_i q _
          change ((s.book.modify k _).request? r).getD _ = _
          rw [Book.request?_modify_other (Ne.symm own)]
        · rfl
      have back : Lives r [] [] marked ((host run).change (putBack k) marked) :=
        .plain rfl (congrArg Request.verdict same) (congrArg Request.callbacks same)
      exact ((Lives.marked _ s).trans (.foreign rfl rfl rfl)).trans back
  | raise => exact .refl

end Operations

theorem runTo_lasts (depth : Nat) : ∀ step, Lasts r (runTo depth step) := by
  induction depth with
  | zero => exact fun _ => .refl
  | succ depth ih => exact perform_lasts ih

theorem Reached.sound (reached : Reached s) (kept : .revived r ∉ s.lives) :
    Sound r [] s.lives (s.requestAt r) := by
  induction reached with
  | start => exact .fresh
  | @stepped t before depth step ih =>
    have lives := runTo_lasts (r := r) depth step t
    have calm : .revived r ∉ t.lives := fun revived => kept (lives.grows.subset revived)
    exact lives.sound kept [] (ih calm)

inductive Later (s : RequestSession) : RequestSession → Prop where
  | here : Later s s
  | stepped {t : RequestSession} (before : Later s t) (depth : Nat) (step : RequestStep) :
      Later s ((runTo depth step).after t)

theorem Later.lives (later : Later s t) : Lives r [] [] s t := by
  induction later with
  | here => exact .refl s
  | @stepped u before depth step ih => exact ih.trans (runTo_lasts depth step u)

-- However its issuer and its subscribers make use of it, and of the book, a request that no one makes
-- pending again is issued at most once; at no moment has a subscriber been called more often than it
-- subscribed; each call found the request ended, just as it is now; when it has ended each subscriber has
-- been called; it has a page if and only if it is done and an error if and only if it has failed; and
-- once it has ended none of this changes.
theorem request_life {q : SessionRequest} (reached : Reached s) (found : s.book.request? r = some q)
    (kept : .revived r ∉ s.lives) :
    issuesOf r s.lives ≤ 1 ∧
    (∀ past, past <:+ s.lives → (calleesOf r past).Subperm (subscribersOf r past)) ∧
    (∀ call ∈ callsOf r s.lives, call.2.isDone = true ∧ call.2.verdict = q.verdict) ∧
    (q.isDone = true → (calleesOf r s.lives).Perm (subscribersOf r s.lives)) ∧
    (q.page.isSome = true ↔ q.status = .done) ∧ (q.error.isSome = true ↔ q.status = .failed) ∧
    (q.isDone = true → ∀ t, Later s t → .revived r ∉ t.lives →
      ∃ p, t.book.request? r = some p ∧ p.verdict = q.verdict) := by
  have same := requestAt_found found
  have sound := reached.sound kept
  rw [same] at sound
  refine ⟨?_, sound.early, sound.settled, fun ended => ?_, sound.paged, sound.errored, ?_⟩
  · refine Nat.le_trans sound.once ?_
    split <;> omega
  · have accounted := sound.accounted
    rw [sound.told ended, List.append_nil, List.append_nil] at accounted
    exact accounted
  · intro ended t later calm
    have final := later.lives.final calm (same.symm ▸ ended)
    rw [same] at final
    cases present : t.book.request? r with
    | some p => exact ⟨p, rfl, requestAt_found present ▸ final⟩
    | none =>
      have fresh : t.requestAt r = { issuer := [] } := by rw [requestAt, present]; rfl
      have done := Request.verdict_done final
      rw [fresh, ended] at done
      cases done

-- The issuer answers at once and then fails; the subscriber subscribes once more, tries to end the request
-- otherwise and fails too.
def resubscribed : RequestSession :=
  let again : Callback RequestStep := { name := "again", steps := [.discard 0] }
  let first : Callback RequestStep :=
    { name := "first", steps := [.subscribe 0 (some again), .fail 0 issuerFault], fails := true }
  played 3 [.new [.resolve 0 {}, .raise], .subscribe 0 (some first), .subscribe 0 none, .discard 0] {}

theorem not_revived {lives : List LifeEvent} (all : (lives.all fun e => !e.revives r) = true) :
    .revived r ∉ lives := by
  intro member
  have other := List.all_eq_true.mp all _ member
  simp [LifeEvent.revives] at other

theorem resubscribed_life :
    ∃ q, Reached resubscribed ∧ resubscribed.book.request? 0 = some q ∧ q.status = .done ∧
      .revived 0 ∉ resubscribed.lives ∧ issuesOf 0 resubscribed.lives ≤ 1 ∧
      ((subscribersOf 0 resubscribed.lives).map fun c => c.name) = ["again", "first"] ∧
      (calleesOf 0 resubscribed.lives).Perm (subscribersOf 0 resubscribed.lives) ∧
      ∃ p, ((runTo 3 (.fail 0 issuerFault)).after resubscribed).book.request? 0 = some p ∧
        p.verdict = q.verdict := by
  have reached : Reached resubscribed := Reached.start.played 3 _
  have done : (resubscribed.book.request? 0).map (fun q => q.status) = some .done := by decide +kernel
  obtain ⟨q, found, status⟩ := Option.map_eq_some_iff.mp done
  have kept : .revived 0 ∉ resubscribed.lives := not_revived (by decide +kernel)
  have later : .revived 0 ∉ ((runTo 3 (.fail 0 issuerFault)).after resubscribed).lives :=
    not_revived (by decide +kernel)
  obtain ⟨once, -, -, all, -, -, final⟩ := request_life reached found kept
  have ended : q.isDone = true := by
    rw [Request.isDone, status]
    rfl
  exact ⟨q, reached, found, status, kept, once, by decide +kernel, all ended,
    final ended _ (.stepped .here 3 _) later⟩

end RequestSession

end PagedTable
