import Mathlib.Data.Nat.Digits.Defs
import PagedTable.Proofs.AskedValues

namespace PagedTable

theorem blank_padded (width n : Nat) : ' ' ∉ padded width n := by
  intro member
  rcases List.mem_append.mp member with zeros | digits
  · exact absurd (List.eq_of_mem_replicate zeros) (by decide)
  · exact absurd (Nat.isDigit_of_mem_toDigits (by decide) (by decide) digits) (by decide)

theorem Date.blank_iso (d : Date) : ' ' ∉ d.iso := by simp [iso, blank_padded]

theorem Clock.blank_hms (c : Clock) : ' ' ∉ c.hms := by simp [hms, blank_padded]

theorem Moment.blank_zone (m : Moment) : ' ' ∉ m.zone := by
  unfold zone
  cases m.offset with
  | none => simp
  | some offset =>
    simp only [Option.map_some, Option.getD_some, offsetText]
    split_ifs <;> simp [blank_padded]

theorem Moment.blank_iso (m : Moment) : ' ' ∉ m.iso := by
  simp only [iso, isoWith, Clock.iso]
  split <;> simp [Date.blank_iso, Clock.blank_hms, blank_padded, blank_zone]

theorem Moment.blank_isoMillis (m : Moment) : ' ' ∉ m.isoMillis := by
  simp [isoMillis, Clock.isoMillis, Date.blank_iso, Clock.blank_hms, blank_padded, blank_zone]

namespace Value

def isScalar : Value → Bool
  | .text _ | .number _ | .date _ | .moment _ => true
  | _ => false

-- The text in which a value is sent alone.
def sent : Value → String
  | .bool b => if b then "true" else "false"
  | .moment m => String.ofList (if m.offset.isSome then m.isoMillis else m.iso)
  | v => v.plain

-- Truth values and date-times: they are sent alone in another way than they are shown.
def isVaried : Value → Bool
  | .bool _ | .moment _ => true
  | _ => false

variable {v w : Value} {items : List Value}

theorem staticRestriction_scalar (scalar : v.isScalar = true) : v.staticRestriction = .one v.sent := by
  cases v with
  | number n => cases n <;> rfl
  | text | date | moment => rfl
  | _ => cases scalar

theorem staticRestriction_items (several : v.items? = some items) :
    v.staticRestriction = .many (Text.sort (items.map plain)) := by
  cases v <;> cases several <;> rfl

theorem sent_steady (steady : v.isVaried = false) : v.sent = v.plain := by
  cases v with
  | number n =>
    cases n with
    | truth => cases steady
    | _ => rfl
  | moment => cases steady
  | _ => rfl

theorem sent_moment (m : Moment) :
    (sent (.moment m)).toList = if m.offset.isSome then m.isoMillis else m.iso := String.toList_ofList

theorem dash_sent (m : Moment) : '-' ∈ (sent (.moment m)).toList := by
  have dash : '-' ∈ m.date.iso := by simp [Date.iso]
  rw [sent_moment]
  split <;> simp [Moment.isoMillis, Moment.iso, Moment.isoWith, dash]

theorem blank_sent (m : Moment) : ' ' ∉ (sent (.moment m)).toList := by
  rw [sent_moment]
  split
  · exact m.blank_isoMillis
  · exact m.blank_iso

theorem plain_ne_sent (varied : v.isVaried = true) (varied' : w.isVaried = true) : v.plain ≠ w.sent := by
  intro same
  have chars : v.plain.toList = w.sent.toList := congrArg String.toList same
  cases v with
  | number n =>
    cases n with
    | truth b =>
      cases w with
      | number n' =>
        cases n' with
        | truth b' => revert same; revert b b'; decide
        | _ => cases varied'
      | moment m =>
        have dash := dash_sent m
        rw [← chars] at dash
        cases b <;> revert dash <;> decide
      | _ => cases varied'
    | _ => cases varied
  | moment m =>
    have blank : ' ' ∈ (plain (.moment m)).toList := by simp [plain, Moment.isoWith]
    rw [chars] at blank
    cases w with
    | number n' =>
      cases n' with
      | truth b' => cases b' <;> revert blank <;> decide
      | _ => cases varied'
    | moment m' => exact blank_sent m' blank
    | _ => cases varied'
  | _ => cases varied

theorem sort_plain_eq_iff (items : List Value) :
    Text.sort (items.map plain) = Text.sort (items.map sent) ↔ ∀ x ∈ items, x.isVaried = false := by
  rw [Text.sort_eq_iff]
  constructor
  · intro perm x member
    have split (f : Value → String) : ((items.filter isVaried).map f ++
        (items.filter fun y => !y.isVaried).map f).Perm (items.map f) := by
      rw [← List.map_append]
      exact (List.filter_append_perm isVaried items).map f
    have steady : (items.filter fun y => !y.isVaried).map sent =
        (items.filter fun y => !y.isVaried).map plain := by
      apply List.map_congr_left
      intro y kept
      exact sent_steady (by simpa using (List.mem_filter.mp kept).2)
    -- the other values cancel on both sides
    have both := (split plain).trans (perm.trans (split sent).symm)
    rw [steady, List.perm_append_right_iff] at both
    rw [← Bool.not_eq_true]
    intro varied
    have shown : x.plain ∈ (items.filter isVaried).map sent :=
      both.mem_iff.mp (List.mem_map_of_mem (List.mem_filter.mpr ⟨member, varied⟩))
    obtain ⟨y, among, same⟩ := List.mem_map.mp shown
    exact plain_ne_sent varied (List.mem_filter.mp among).2 same.symm
  · intro steady
    rw [List.map_congr_left fun x member => sent_steady (steady x member)]

end Value

namespace Query

variable {s : FilterState} {paging : Paging} {sorting : Sorting} {statics : List (String × Value)}
  {key : String} {q : Query} {v : Value} {items : List Value}

-- Given a value under a name beside the other static restrictions, the query restricts this name so.
def Sends (s : FilterState) (paging : Paging) (sorting : Sorting) (statics : List (String × Value))
    (key : String) (v : Value) (r : Option Restriction) : Prop :=
  ∃ q, build s paging sorting (Entries.put key v statics) = .ok q ∧ Entries.get? key q.filters = r

theorem Sends.exact {r r' : Option Restriction} (sends : Sends s paging sorting statics key v r) :
    Sends s paging sorting statics key v r' ↔ r = r' := by
  obtain ⟨q, built, found⟩ := sends
  constructor
  · rintro ⟨q', built', rfl⟩
    rw [built] at built'
    cases built'
    exact found.symm
  · rintro rfl
    exact ⟨q, built, found⟩

theorem build_statics (built : build s paging sorting statics = .ok q) (others : List (String × Value)) :
    ∃ q', build s paging sorting others = .ok q' ∧ q'.filters = Entries.putAll (writes s others) [] := by
  rw [build_eq] at built ⊢
  cases refused : s.refusal? with
  | some e => simp [refused] at built
  | none => exact ⟨_, rfl, rfl⟩

theorem sends_set (apart : (statics.map fun c => c.1).Nodup) (built : build s paging sorting statics = .ok q)
    (set : v.unset = false) : Sends s paging sorting statics key v (some v.staticRestriction) := by
  obtain ⟨q', built', filters⟩ := build_statics built (Entries.put key v statics)
  have given : (key, v) ∈ Entries.put key v statics := (Entries.mem_put_iff apart).mpr (.inl rfl)
  refine ⟨q', built', ?_⟩
  rw [filters]
  exact static_writes s (Entries.nodup_put apart) given set

theorem sends_unset (apart : (statics.map fun c => c.1).Nodup) (built : build s paging sorting statics = .ok q)
    (unset : v.unset = true) : Sends s paging sorting statics key v ((s.asked key).map Value.restriction) := by
  obtain ⟨q', built', filters⟩ := build_statics built (Entries.put key v statics)
  have absent : Entries.get? key (Entries.putAll (staticWrites (Entries.put key v statics)) []) = none := by
    rw [get?_statics]
    rintro ⟨w, given, set⟩
    rcases (Entries.mem_put_iff apart).mp given with same | ⟨-, other⟩
    · cases same
      rw [unset] at set
      cases set
    · exact other rfl
  refine ⟨q', built', ?_⟩
  rw [filters, get?_writes, absent, Option.none_or]

theorem items_set (several : v.items? = some items) (given : items ≠ []) (set : ∀ x ∈ items, x.unset = false) :
    v.unset = false := by
  obtain ⟨x, rest, rfl⟩ := List.exists_cons_of_ne_nil given
  have restricts : x.isAllKey = false := by
    have first := set x List.mem_cons_self
    cases x <;> simp_all [Value.unset, Value.isAllKey]
  cases v <;> cases several <;> simp [Value.unset, restricts]

theorem sends_items (apart : (statics.map fun c => c.1).Nodup) (built : build s paging sorting statics = .ok q)
    (several : v.items? = some items) (given : items ≠ []) (set : ∀ x ∈ items, x.unset = false) :
    Sends s paging sorting statics key v (some (.many (Text.sort (items.map Value.plain)))) := by
  rw [← Value.staticRestriction_items several]
  exact sends_set apart built (items_set several given set)

theorem sends_items_iff (apart : (statics.map fun c => c.1).Nodup) (built : build s paging sorting statics = .ok q)
    (several : v.items? = some items) (given : items ≠ []) (set : ∀ x ∈ items, x.unset = false) :
    Sends s paging sorting statics key v (some (.many (Text.sort (items.map Value.sent)))) ↔
      ∀ x ∈ items, x.isVaried = false := by
  rw [(sends_items apart built several given set).exact, Option.some.injEq, Restriction.many.injEq]
  exact Value.sort_plain_eq_iff items

-- A static restriction by a value is sent as the value is sent alone, by a collection of values as they are
-- shown, in order. This is the collection of what is sent alone, also where there is only one value, if and
-- only if none of them is a truth value or a date-time. The empty collection is left out.
theorem static_collections_iff (apart : (statics.map fun c => c.1).Nodup)
    (built : build s paging sorting statics = .ok q) (key : String) :
    (∀ x : Value, x.isScalar = true → x.unset = false →
      Sends s paging sorting statics key x (some (.one x.sent))) ∧
    (∀ (x v : Value), x.isScalar = true → x.unset = false → v.items? = some [x] →
      (Sends s paging sorting statics key v (some (.many [x.sent])) ↔ x.isVaried = false)) ∧
    (∀ (v : Value) (items : List Value), v.items? = some items → items ≠ [] →
      (∀ x ∈ items, x.isScalar = true ∧ x.unset = false) →
      Sends s paging sorting statics key v (some (.many (Text.sort (items.map Value.plain)))) ∧
      (Sends s paging sorting statics key v (some (.many (Text.sort (items.map Value.sent)))) ↔
        ∀ x ∈ items, x.isVaried = false)) ∧
    (∀ v : Value, v.items? = some [] →
      Sends s paging sorting statics key v ((s.asked key).map Value.restriction)) := by
  refine ⟨?_, ?_, ?_, ?_⟩
  · intro x scalar set
    rw [← Value.staticRestriction_scalar scalar]
    exact sends_set apart built set
  · intro x v scalar set several
    have single : ∀ y ∈ [x], y.unset = false := List.forall_mem_singleton.mpr set
    have sends : Sends s paging sorting statics key v (some (.many [x.sent])) ↔ ∀ y ∈ [x], y.isVaried = false :=
      sends_items_iff apart built several (by simp) single
    rw [sends, List.forall_mem_singleton]
  · intro v items several given fit
    have set : ∀ x ∈ items, x.unset = false := fun x member => (fit x member).2
    exact ⟨sends_items apart built several given set, sends_items_iff apart built several given set⟩
  · intro v several
    apply sends_unset apart built
    cases v <;> cases several <;> rfl

-- Tags of a site: a text, a number and a date.
theorem tags_alike :
    (([("SiteID", .int 7)] : List (String × Value)).map fun c => c.1).Nodup ∧
    (∃ q, build {} {} {} [("SiteID", .int 7)] = .ok q) ∧
    Sends {} {} {} [("SiteID", .int 7)] "Tags" (.int 10) (some (.one "10")) ∧
    Sends {} {} {} [("SiteID", .int 7)] "Tags" (.list [.int 10]) (some (.many ["10"])) ∧
    Sends {} {} {} [("SiteID", .int 7)] "Tags" (.set [.text "y", .int 10, .date ⟨2024, 5, 1⟩])
      (some (.many ["10", "2024-05-01", "y"])) := by
  have apart : (([("SiteID", .int 7)] : List (String × Value)).map fun c => c.1).Nodup := by decide
  obtain ⟨q, built⟩ : ∃ q, build {} {} {} [("SiteID", .int 7)] = .ok q := ⟨_, rfl⟩
  obtain ⟨alone, single, several, -⟩ := static_collections_iff apart built "Tags"
  have fit : ∀ x ∈ [Value.text "y", .int 10, .date ⟨2024, 5, 1⟩], x.isScalar = true ∧ x.unset = false := by
    simp [Value.isScalar, Value.unset, allKey]
  have sends := (several (.set [.text "y", .int 10, .date ⟨2024, 5, 1⟩]) _ rfl (by simp) fit).2.mpr
    (by simp [Value.isVaried])
  exact ⟨apart, ⟨q, built⟩, alone (.int 10) rfl rfl, (single (.int 10) (.list [.int 10]) rfl rfl rfl).mpr rfl, sends⟩

-- A truth value is sent in lower case alone, but not in a list; a date-time has another separator there.
theorem varied_listed :
    Sends {} {} {} [] "Issuer" (.bool true) (some (.one "true")) ∧
    ¬ Sends {} {} {} [] "Issuer" (.list [.bool true]) (some (.many ["true"])) ∧
    Sends {} {} {} [] "Issuer" (.list [.bool true]) (some (.many ["True"])) ∧
    Sends {} {} {} [] "From" (.moment ⟨⟨2024, 5, 1⟩, ⟨10, 0, 0, 0⟩, none⟩) (some (.one "2024-05-01T10:00:00")) ∧
    Sends {} {} {} [] "From" (.tuple [.moment ⟨⟨2024, 5, 1⟩, ⟨10, 0, 0, 0⟩, none⟩])
      (some (.many ["2024-05-01 10:00:00"])) := by
  have listed : Sends {} {} {} [] "Issuer" (.list [.bool true]) (some (.many ["True"])) := ⟨_, rfl, rfl⟩
  have other : ¬ Sends {} {} {} [] "Issuer" (.list [.bool true]) (some (.many ["true"])) := by
    rw [listed.exact]
    simp
  exact ⟨⟨_, rfl, rfl⟩, other, listed, ⟨_, rfl, rfl⟩, ⟨_, rfl, rfl⟩⟩

end Query

end PagedTable
