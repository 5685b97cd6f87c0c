import PagedTable.Filter.State
import PagedTable.Proofs.Entries
import PagedTable.Proofs.Texts

namespace PagedTable

namespace FilterDef

-- The forms in which a filter keeps its values.
inductive Normal (d : FilterDef) : Value → Prop where
  | null : Normal d .null
  | range (kind : d.kind = .dateRange) (first last : Value) : Normal d (.range first last)
  | date {v : Value} (kind : d.kind = .date) (dated : v.isDate = true) : Normal d v
  | texts {texts : List String} (several : d.isMultiple = true)
      (stripped : ∀ s ∈ texts, Text.strip s = s) (sorted : texts.Pairwise Text.Precedes)
      (apart : texts.Nodup) : Normal d (.tuple (texts.map .text))
  | text (undated : d.kind ≠ .date ∧ d.kind ≠ .dateRange) (single : d.isMultiple = false)
      (stripped : Text.strip s = s) : Normal d (.text s)

variable {d : FilterDef} {v w : Value}

theorem undated_of_isMultiple (several : d.isMultiple = true) : d.kind ≠ .date ∧ d.kind ≠ .dateRange := by
  unfold isMultiple at several
  constructor <;> intro kind <;> simp [kind] at several

theorem normalize_undated (undated : d.kind ≠ .date ∧ d.kind ≠ .dateRange) : v ≠ .null →
    d.normalize v =
      if d.isMultiple then
        match v with
        | .text _ => d.collect [v]
        | .list items | .tuple items | .set items => d.collect items
        | _ => d.refuse .collection v
      else
        match v with
        | .text s => .ok (.text (Text.strip s))
        | _ => d.refuse .string v := by
  intro some
  unfold normalize
  split
  · exact absurd rfl some
  · split
    · exact absurd ‹_› undated.2
    · exact absurd ‹_› undated.1
    · rfl

theorem stripAll_stripped {items : List Value} {texts : List String}
    (done : d.stripAll items = .ok texts) : ∀ s ∈ texts, Text.strip s = s := by
  induction items generalizing texts with
  | nil =>
    cases done
    exact fun _ member => nomatch member
  | cons item rest ih =>
    unfold stripAll at done
    split at done
    · rename_i none
      cases none
    · rename_i s others same
      cases same
      cases first : d.stripAll rest with
      | error e =>
        rw [first] at done
        cases done
      | ok others =>
        rw [first] at done
        cases done
        exact List.forall_mem_cons.mpr ⟨Text.strip_strip s, ih first⟩
    · cases done

theorem stripAll_texts {texts : List String} (stripped : ∀ s ∈ texts, Text.strip s = s) :
    d.stripAll (texts.map .text) = .ok texts := by
  induction texts with
  | nil => rfl
  | cons s rest ih =>
    obtain ⟨first, others⟩ := List.forall_mem_cons.mp stripped
    rw [List.map_cons, stripAll, ih others, first]
    rfl

theorem collect_normal {items : List Value} (several : d.isMultiple = true)
    (done : d.collect items = .ok w) : d.Normal w := by
  unfold collect at done
  cases stripped : d.stripAll items with
  | error e =>
    rw [stripped] at done
    cases done
  | ok texts =>
    rw [stripped] at done
    cases done
    refine .texts several (fun s member => ?_) (Text.sort_sorted _) ?_
    · have inside : s ∈ Text.distinct texts := (Text.sort_perm _).mem_iff.mp member
      exact stripAll_stripped stripped s (Text.mem_distinct.mp inside)
    · exact (Text.sort_perm _).nodup_iff.mpr (Text.distinct_nodup texts)

theorem collect_texts {texts : List String} (stripped : ∀ s ∈ texts, Text.strip s = s)
    (sorted : texts.Pairwise Text.Precedes) (apart : texts.Nodup) :
    d.collect (texts.map .text) = .ok (.tuple (texts.map .text)) := by
  rw [collect, stripAll_texts stripped]
  simp only [Except.map, Text.distinct_of_nodup apart, Text.sort_of_sorted sorted]

theorem normalize_normal (done : d.normalize v = .ok w) : d.Normal w := by
  by_cases null : v = .null
  · subst null
    cases done
    exact .null
  by_cases undated : d.kind ≠ .date ∧ d.kind ≠ .dateRange
  · rw [normalize_undated undated null] at done
    split at done
    · rename_i several
      split at done <;> first | exact collect_normal several done | cases done
    · rename_i single
      split at done
      · cases done
        exact .text undated (by simpa using single) (Text.strip_strip _)
      · cases done
  · have dated : d.kind = .date ∨ d.kind = .dateRange := by
      rw [not_and_or, not_not, not_not] at undated
      exact undated
    rcases dated with kind | kind
    · have given : v.isDate = true ∧ v = w := by
        cases v <;> simp_all [normalize, refuse, Value.isDate]
      rw [← given.2]
      exact .date kind given.1
    · cases v <;> simp only [normalize, kind, refuse, reduceCtorEq, Except.ok.injEq] at done
      · exact absurd rfl null
      · rw [← done]
        exact .range kind _ _

theorem Normal.fixed (normal : d.Normal v) : d.normalize v = .ok v := by
  cases normal with
  | null => rfl
  | range kind first last => simp [normalize, kind]
  | date kind dated => cases v <;> simp_all [normalize, Value.isDate]
  | texts several stripped sorted apart =>
    rw [normalize_undated (undated_of_isMultiple several) (by simp), if_pos several]
    exact collect_texts stripped sorted apart
  | text undated single stripped =>
    rw [normalize_undated undated (by simp), if_neg (by simp [single])]
    simp only [stripped]

theorem Normal.range_of_kind (normal : d.Normal v) (kind : d.kind = .dateRange) (some : v ≠ .null) :
    ∃ first last, v = .range first last := by
  cases normal with
  | null => exact absurd rfl some
  | range _ first last => exact ⟨first, last, rfl⟩
  | date named => cases kind.symm.trans named
  | texts several => exact absurd kind (undated_of_isMultiple several).2
  | text undated => exact absurd kind undated.2

theorem Normal.kind_of_range {first last : Value} (normal : d.Normal (.range first last)) :
    d.kind = .dateRange := by
  cases normal with
  | range kind => exact kind
  | date _ dated => cases dated

end FilterDef

def Value.Alike (v w : Value) : Prop := v = w ∨ v.same w = true

namespace FilterState

-- All filters have the values they had, where it makes no difference which value restricts nothing.
def SameEffect (s t : FilterState) : Prop :=
  ∀ id, (s.stored id).effective.Alike (t.stored id).effective

-- Every filter stands under its id, can be restored, and has a value in normal form.
structure Sound (s : FilterState) : Prop where
  keyed : ∀ e ∈ s.defs, e.2.id = e.1
  distinct : (s.defs.map fun e => e.1).Nodup
  restorable : ∀ e ∈ s.defs, ∃ v, e.2.normalize e.2.default = .ok v
  valued : ∀ e ∈ s.defs, ∃ v, Entries.get? e.1 s.values = some v ∧ e.2.Normal v

-- All that setting a filter can come to: no such filter, a value that it does not take, a value that
-- restricts as the one before, another one.
inductive Setting (s : FilterState) (id : String) (value : Value) :
    FilterState × Except Fault Bool → Prop where
  | unknown (missing : Entries.get? id s.defs = none) :
      Setting s id value (s, .error (.unknownFilter id))
  | refused (found : Entries.get? id s.defs = some d) (unfit : d.normalize value = .error e) :
      Setting s id value (s, .error e)
  | same (found : Entries.get? id s.defs = some d) (taken : d.normalize value = .ok new)
      (same : (s.stored id).effective.same new.effective = true) :
      Setting s id value (s.store id new, .ok false)
  | other (found : Entries.get? id s.defs = some d) (taken : d.normalize value = .ok new)
      (other : (s.stored id).effective.same new.effective = false)
      (restored : (s.store id new).restoreAll d.dependents = (t, .ok ())) :
      Setting s id value (t, .ok true)

-- The states that are made by declaring filters, at first and later, and by setting and restoring
-- them, as long as nothing is refused.
inductive Made : FilterState → Prop where
  | declared (made : ofDefs ds = .ok s) : Made s
  | added (before : Made s) (done : s.addDef d = (t, .ok ())) : Made t
  | set (before : Made s) {id : String} (done : s.set id value = (t, .ok changed)) : Made t
  | reset (before : Made s) (done : s.reset = (t, .ok changed)) : Made t

variable {s t : FilterState} {d : FilterDef} {id : String} {v : Value}

theorem stored_store : (s.store id v).stored id = v := by
  simp [stored, store, Entries.get?_put_same]

theorem stored_store_other {other : String} (ne : other ≠ id) :
    (s.store id v).stored other = s.stored other := by
  simp [stored, store, Entries.get?_put_other ne]

theorem Sound.empty : Sound empty where
  keyed := nofun
  distinct := .nil
  restorable := nofun
  valued := nofun

theorem Sound.store (sound : s.Sound) (known : (id, d) ∈ s.defs) (normal : d.Normal v) :
    (s.store id v).Sound where
  keyed := sound.keyed
  distinct := sound.distinct
  restorable := sound.restorable
  valued e member := by
    by_cases same : e.1 = id
    · have own : e.2 = d := by
        have found := Entries.get?_of_mem sound.distinct member
        rw [same, Entries.get?_of_mem sound.distinct known] at found
        exact (Option.some.inj found).symm
      exact ⟨v, by rw [same]; exact Entries.get?_put_same .., own ▸ normal⟩
    · obtain ⟨w, kept, fits⟩ := sound.valued e member
      exact ⟨w, (Entries.get?_put_other same ..).trans kept, fits⟩

theorem Sound.restore (sound : s.Sound) (known : (id, d) ∈ s.defs) :
    ∃ v, d.normalize d.default = .ok v ∧ d.Normal v ∧ s.restore d = (s.store id v, .ok ()) := by
  obtain ⟨v, default⟩ := sound.restorable _ known
  have own : d.id = id := sound.keyed _ known
  refine ⟨v, default, FilterDef.normalize_normal default, ?_⟩
  rw [FilterState.restore, default, own]

theorem Sound.restoreAll (sound : s.Sound) (ids : List String) :
    ∃ t, s.restoreAll ids = (t, .ok ()) ∧ t.Sound ∧ t.defs = s.defs := by
  induction ids generalizing s with
  | nil => exact ⟨s, rfl, sound, rfl⟩
  | cons id rest ih =>
    unfold FilterState.restoreAll
    split
    · exact ih sound
    · rename_i d found
      have known := Entries.mem_of_get? found
      obtain ⟨v, -, normal, restored⟩ := sound.restore known
      rw [restored]
      exact ih (sound.store known normal)

theorem Sound.setting (sound : s.Sound) (id : String) (value : Value) :
    s.Setting id value (s.set id value) := by
  unfold FilterState.set
  cases found : Entries.get? id s.defs with
  | none => exact .unknown found
  | some d =>
    dsimp only
    cases taken : d.normalize value with
    | error e => exact .refused found taken
    | ok new =>
      cases compared : (s.stored id).effective.same new.effective with
      | true => simpa [compared] using Setting.same found taken compared
      | false =>
        have stored := sound.store (Entries.mem_of_get? found) (FilterDef.normalize_normal taken)
        obtain ⟨t, restored, -⟩ := stored.restoreAll d.dependents
        simpa [compared, restored] using Setting.other found taken compared restored

theorem Sound.set (sound : s.Sound) (id : String) (value : Value) : (s.set id value).1.Sound := by
  have setting := sound.setting id value
  generalize s.set id value = left at setting ⊢
  cases setting with
  | unknown missing => exact sound
  | refused found unfit => exact sound
  | same found taken same =>
    exact sound.store (Entries.mem_of_get? found) (FilterDef.normalize_normal taken)
  | @other d new t found taken other restored =>
    have stored := sound.store (Entries.mem_of_get? found) (FilterDef.normalize_normal taken)
    obtain ⟨u, again, sound, -⟩ := stored.restoreAll d.dependents
    rw [restored] at again
    cases again
    exact sound

theorem SameEffect.refl (s : FilterState) : SameEffect s s := fun _ => .inl rfl

theorem SameEffect.store (same : (s.stored id).effective.same v.effective = true) :
    SameEffect s (s.store id v) := by
  intro other
  by_cases own : other = id
  · subst own
    rw [stored_store]
    exact .inr same
  · rw [stored_store_other own]
    exact .inl rfl

-- Filters that were restored are not touched again, since each has an id of its own.
theorem Sound.resetEach (sound : s.Sound) (changed : Bool) {rest : List (String × FilterDef)}
    (within : ∀ e ∈ rest, e ∈ s.defs) (apart : (rest.map fun e => e.1).Nodup) :
    ∃ t now, s.resetEach changed rest = (t, .ok now) ∧ t.Sound ∧
      (∀ id, id ∉ rest.map (fun e => e.1) → t.stored id = s.stored id) ∧
      (now = false → changed = false ∧ SameEffect s t) := by
  induction rest generalizing s changed with
  | nil => exact ⟨s, changed, rfl, sound, fun _ _ => rfl, fun kept => ⟨kept, .refl s⟩⟩
  | cons e rest ih =>
    obtain ⟨id, d⟩ := e
    obtain ⟨known, within⟩ := List.forall_mem_cons.mp within
    obtain ⟨first, apart⟩ := List.nodup_cons.mp apart
    obtain ⟨v, default, normal, -⟩ := sound.restore known
    have own : d.id = id := sound.keyed _ known
    obtain ⟨t, now, done, later, untouched, unchanged⟩ :=
      ih (sound.store known normal) (changed || !(s.stored id).effective.same v.effective) within apart
    refine ⟨t, now, ?_, later, fun other absent => ?_, fun same => ?_⟩
    · rw [FilterState.resetEach, default]
      dsimp only
      rw [own]
      exact done
    · simp only [List.map_cons, List.mem_cons, not_or] at absent
      rw [untouched other absent.2, stored_store_other absent.1]
    · obtain ⟨before, rest⟩ := unchanged same
      rw [Bool.or_eq_false_iff, Bool.not_eq_false'] at before
      refine ⟨before.1, fun other => ?_⟩
      by_cases here : other = id
      · subst here
        rw [untouched other first, stored_store]
        exact .inr before.2
      · have kept := rest other
        rw [stored_store_other here] at kept
        exact kept

theorem Sound.reset (sound : s.Sound) :
    ∃ t changed, s.reset = (t, .ok changed) ∧ t.Sound ∧ (changed = false → SameEffect s t) := by
  obtain ⟨t, changed, done, later, -, unchanged⟩ :=
    sound.resetEach false (fun _ member => member) sound.distinct
  exact ⟨t, changed, done, later, fun same => (unchanged same).2⟩

-- A filter may take the place of another under its id: it has its own default then.
theorem Sound.addDef (sound : s.Sound) (done : s.addDef d = (t, .ok ())) : t.Sound := by
  unfold FilterState.addDef at done
  split at done
  · rename_i v default
    cases done
    have normal := FilterDef.normalize_normal default
    refine { keyed := fun e member => ?_, distinct := Entries.nodup_put sound.distinct,
             restorable := fun e member => ?_, valued := fun e member => ?_ }
    all_goals rcases (Entries.mem_put_iff sound.distinct).mp member with rfl | ⟨known, other⟩
    · rfl
    · exact sound.keyed e known
    · exact ⟨v, default⟩
    · exact sound.restorable e known
    · exact ⟨v, Entries.get?_put_same .., normal⟩
    · obtain ⟨w, kept, fits⟩ := sound.valued e known
      exact ⟨w, (Entries.get?_put_other other ..).trans kept, fits⟩
  · cases done

theorem Sound.addDefs (sound : s.Sound) {ds : List FilterDef} (done : s.addDefs ds = (t, .ok ())) :
    t.Sound := by
  induction ds generalizing s with
  | nil =>
    cases done
    exact sound
  | cons d rest ih =>
    unfold FilterState.addDefs at done
    split at done
    · rename_i u added
      exact ih (sound.addDef added) done
    · cases done

theorem ofDefs_sound {ds : List FilterDef} (made : ofDefs ds = .ok s) : s.Sound := by
  unfold ofDefs at made
  split at made
  · rename_i t declared
    cases made
    exact Sound.empty.addDefs declared
  · cases made

theorem Made.sound (made : Made s) : s.Sound := by
  induction made with
  | declared made => exact ofDefs_sound made
  | added _ done ih => exact ih.addDef done
  | @set s value t changed _ id done ih =>
    have sound := ih.set id value
    rw [done] at sound
    exact sound
  | reset _ done ih =>
    obtain ⟨t, changed, restored, sound, -⟩ := ih.reset
    rw [done] at restored
    cases restored
    exact sound

end FilterState

end PagedTable
