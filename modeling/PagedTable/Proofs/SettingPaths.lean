import PagedTable.Proofs.EqualMaps
import PagedTable.Settings.Format

namespace PagedTable

namespace Path

theorem splitDots_some (cs : List Char) : splitDots cs ≠ [] := by
  cases cs with
  | nil => exact List.cons_ne_nil _ _
  | cons c rest =>
    unfold splitDots
    split
    · exact List.cons_ne_nil _ _
    · split <;> exact List.cons_ne_nil _ _

theorem segments_some (path : String) : segments path ≠ [] := by
  rw [segments, ne_eq, List.map_eq_nil_iff]
  exact splitDots_some _

theorem splitDots_dot (front back : List Char) :
    splitDots (front ++ '.' :: back) = splitDots front ++ splitDots back := by
  induction front with
  | nil => rfl
  | cons c rest ih =>
    rw [List.cons_append, splitDots, splitDots, ih]
    split
    · rfl
    · cases split : splitDots rest with
      | nil => exact absurd split (splitDots_some rest)
      | cons part parts => rfl

theorem segments_dot (front back : String) :
    segments (front ++ "." ++ back) = segments front ++ segments back := by
  have chars : (front ++ "." ++ back).toList = front.toList ++ '.' :: back.toList := by
    simp [String.toList_append]
  rw [segments, chars, splitDots_dot, List.map_append]
  rfl

theorem segments_bare {path : String} (bare : '.' ∉ path.toList) : segments path = [path] := by
  have split : ∀ cs : List Char, '.' ∉ cs → splitDots cs = [cs] := by
    intro cs
    induction cs with
    | nil => intro; rfl
    | cons c rest ih =>
      intro absent
      rw [List.mem_cons, not_or] at absent
      rw [splitDots, if_neg (Ne.symm absent.1), ih absent.2]
  rw [segments, split _ bare, List.map_singleton, String.ofList_toList]

theorem intercalate_splitDots (cs : List Char) : List.intercalate ['.'] (splitDots cs) = cs := by
  induction cs with
  | nil => rfl
  | cons c rest ih =>
    unfold splitDots
    cases split : splitDots rest with
    | nil => exact absurd split (splitDots_some rest)
    | cons part parts =>
      rw [split] at ih
      split
      · rename_i dot
        rw [dot, ← ih]
        rfl
      · rw [← ih]
        cases parts <;> rfl

theorem segments_injective {path other : String} (same : segments path = segments other) : path = other := by
  have inj : Function.Injective String.ofList := by
    intro cs ds equal
    simpa using congrArg String.toList equal
  have split : splitDots path.toList = splitDots other.toList := List.map_injective_iff.mpr inj same
  have chars := congrArg (List.intercalate ['.']) split
  rw [intercalate_splitDots, intercalate_splitDots] at chars
  exact String.toList_inj.mp chars

end Path

namespace Settings

variable {value container : Value} {path other rest : List String}

theorem below?_append (path rest : List String) (v : Value) :
    below? (path ++ rest) v = (below? path v).bind (below? rest) := by
  induction path generalizing v with
  | nil => rfl
  | cons part parts ih =>
    cases v with
    | map fields =>
      simp only [List.cons_append, below?]
      cases Entries.get? part fields with
      | none => rfl
      | some next => exact ih next
    | _ => rfl

theorem below?_plain (plain : ∀ fields, container ≠ .map fields) (some : path ≠ []) :
    below? path container = none := by
  cases path with
  | nil => exact absurd rfl some
  | cons part parts =>
    cases container with
    | map fields => exact absurd rfl (plain fields)
    | _ => rfl

theorem below?_cons (part : String) (parts : List String) (container : Value) :
    below? (part :: parts) container =
      (Entries.get? part (fieldsOf container)).bind (below? parts) := by
  cases container with
  | map fields =>
    simp only [below?, fieldsOf]
    cases Entries.get? part fields <;> rfl
  | _ => rfl

theorem below?_store (value : Value) (path : List String) (container : Value) :
    below? path (store value path container) = some value := by
  induction path generalizing container with
  | nil => rfl
  | cons part parts ih =>
    rw [store, below?_cons, fieldsOf, Entries.get?_put_same]
    exact ih _

theorem below?_store_above (value : Value) (path : List String) (part : String) (parts : List String)
    (container : Value) :
    ∃ fields, below? path (store value (path ++ part :: parts) container) = some (.map fields) := by
  induction path generalizing container with
  | nil => exact ⟨_, rfl⟩
  | cons first later ih =>
    rw [List.cons_append, store, below?_cons, fieldsOf, Entries.get?_put_same]
    exact ih _

theorem below?_store_apart (value : Value) (container : Value) (above : ¬other <+: path)
    (below : ¬path <+: other) : below? other (store value path container) = below? other container := by
  induction path generalizing other container with
  | nil => exact absurd List.nil_prefix below
  | cons part parts ih =>
    cases other with
    | nil => exact absurd List.nil_prefix above
    | cons first later =>
      rw [store, below?_cons, below?_cons, fieldsOf]
      by_cases same : first = part
      · subst same
        rw [List.cons_prefix_cons, not_and] at above below
        rw [Entries.get?_put_same]
        refine (ih _ (above rfl) (below rfl)).trans ?_
        cases Entries.get? first (fieldsOf container) with
        | some next => rfl
        | none =>
          -- What was missing held nothing, and neither does the nothing that took its place.
          refine below?_plain nofun ?_
          intro none
          exact above rfl (none ▸ List.nil_prefix)
      · rw [Entries.get?_put_other same]

theorem store_keyed (known : value.isKeyed = true) (path : List String) (container : Value)
    (keyed : container.isKeyed = true) : (store value path container).isKeyed = true := by
  induction path generalizing container with
  | nil => exact known
  | cons part parts ih =>
    have fields : (Value.map (fieldsOf container)).isKeyed = true := by
      cases container with
      | map fields => exact keyed
      | _ => rfl
    obtain ⟨distinct, parts⟩ := Value.isKeyed_map.mp fields
    rw [store]
    refine Value.isKeyed_map.mpr ⟨Entries.nodup_put distinct, ?_⟩
    intro f member
    rcases Entries.mem_put member with rfl | kept
    · refine ih _ ?_
      cases found : Entries.get? part (fieldsOf container) with
      | none => rfl
      | some next => exact parts _ (Entries.mem_of_get? found)
    · exact parts f kept

theorem below?_keyed {v w : Value} (keyed : v.isKeyed = true) (path : List String)
    (found : below? path v = some w) : w.isKeyed = true := by
  induction path generalizing v with
  | nil =>
    cases found
    exact keyed
  | cons part parts ih =>
    cases v with
    | map fields =>
      rw [below?_cons, fieldsOf] at found
      obtain ⟨next, here, later⟩ := Option.bind_eq_some_iff.mp found
      exact ih ((Value.isKeyed_map.mp keyed).2 _ (Entries.mem_of_get? here)) later
    | _ => cases found

theorem below?_same {v w : Value} (keyed : v.isKeyed = true) (same : v.same w = true) (path : List String) :
    (below? path w = none → below? path v = none) ∧
      ∀ b, below? path w = some b → ∃ a, below? path v = some a ∧ a.same b = true := by
  induction path generalizing v w with
  | nil =>
    refine ⟨nofun, fun b found => ⟨v, rfl, ?_⟩⟩
    cases found
    exact same
  | cons part parts ih =>
    rw [below?_cons, below?_cons]
    by_cases maps : ∃ xs, v = .map xs
    · obtain ⟨xs, rfl⟩ := maps
      cases w with
      | map ys =>
        obtain ⟨distinct, known⟩ := Value.isKeyed_map.mp keyed
        obtain ⟨missing, values⟩ := Value.same_map distinct same part
        simp only [fieldsOf]
        cases here : Entries.get? part xs with
        | none => simp [missing.mp here]
        | some a =>
          cases there : Entries.get? part ys with
          | none => simp [missing.mpr there] at here
          | some b => exact ih (known _ (Entries.mem_of_get? here)) (values a b here there)
      | _ => simp [Value.same] at same
    -- what is no map holds nothing, and neither does what equals it
    · have plain : fieldsOf w = [] := by
        cases w with
        | map ys => cases v <;> simp_all [Value.same]
        | _ => rfl
      have bare : fieldsOf v = [] := by
        cases v with
        | map xs => exact absurd ⟨xs, rfl⟩ maps
        | _ => rfl
      simp [plain, bare, Entries.get?]

theorem put_cases (content : Fields) (key : String) (value : Value) :
    (∃ old, get? content key = some old ∧ old.same value = true ∧ put? content key value = none) ∨
      ((∀ old, get? content key = some old → old.same value = false) ∧
        ∃ next, put? content key value = some next ∧
          .map next = store value (Path.segments key) (.map content)) := by
  have whole : .map (fieldsOf (store value (Path.segments key) (.map content))) =
      store value (Path.segments key) (.map content) := by
    cases split : Path.segments key with
    | nil => exact absurd split (Path.segments_some key)
    | cons part parts => rfl
  unfold put?
  cases found : get? content key with
  | none => exact .inr ⟨nofun, _, rfl, whole⟩
  | some old =>
    cases same : old.same value with
    | true => exact .inl ⟨old, rfl, same, by simp [same]⟩
    | false =>
      refine .inr ⟨?_, _, by simp [same], whole⟩
      rintro _ ⟨⟩
      exact same

-- What writing a value under a key comes to: it is read back, what lies in it is read below it, and
-- whatever lies apart is as it was.
structure Written (key : String) (value : Value) (before after : Fields) : Prop where
  own : ∀ missing, (get after key missing).same value = true
  within : ∀ other rest part, Path.segments other = Path.segments key ++ rest →
    below? rest value = some part → ∀ missing, (get after other missing).same part = true
  beyond : ∀ other rest, Path.segments other = Path.segments key ++ rest →
    below? rest value = none → ∀ missing, get after other missing = missing
  apart : ∀ other, ¬Path.segments other <+: Path.segments key →
    ¬Path.segments key <+: Path.segments other → ∀ missing, get after other missing = get before other missing
  keyed : (Value.map after).isKeyed = true

theorem get_of_found {content : Fields} {key : String} {v : Value} (found : get? content key = some v)
    (missing : Value) : get content key missing = v := by
  rw [get, found]
  rfl

theorem get_of_none {content : Fields} {key : String} (none : get? content key = none) (missing : Value) :
    get content key missing = missing := by
  rw [get, none]
  rfl

theorem get?_below {content : Fields} {key other : String} {rest : List String}
    (longer : Path.segments other = Path.segments key ++ rest) :
    get? content other = (get? content key).bind (below? rest) := by
  rw [get?, longer, below?_append]
  rfl

theorem put_written {content : Fields} (keyed : (Value.map content).isKeyed = true)
    (known : value.isKeyed = true) (key : String) : Written key value content (put content key value) := by
  rcases put_cases content key value with ⟨old, found, same, unchanged⟩ | ⟨-, next, changed, stored⟩
  · -- an equal value keeps its place, so only equality is left to show
    have kept : put content key value = content := by rw [put, unchanged]; rfl
    have parts : old.isKeyed = true := below?_keyed keyed _ found
    rw [kept]
    constructor
    · intro missing
      rw [get_of_found found]
      exact same
    · intro other rest part longer there missing
      obtain ⟨a, here, equal⟩ := (below?_same parts same rest).2 part there
      rw [get_of_found ((get?_below longer).trans (by rw [found]; exact here))]
      exact equal
    · intro other rest longer absent missing
      refine get_of_none ((get?_below longer).trans ?_) missing
      rw [found]
      exact (below?_same parts same rest).1 absent
    · intros
      rfl
    · exact keyed
  · have kept : put content key value = next := by rw [put, changed]; rfl
    -- what was missing or different has been stored
    have found : get? next key = some value := by
      rw [get?, stored]
      exact below?_store value _ _
    rw [kept]
    constructor
    · intro missing
      rw [get_of_found found]
      exact Value.same_of_keyed value known
    · intro other rest part longer there missing
      rw [get_of_found ((get?_below longer).trans (by rw [found]; exact there))]
      exact Value.same_of_keyed part (below?_keyed known rest there)
    · intro other rest longer absent missing
      refine get_of_none ((get?_below longer).trans ?_) missing
      rw [found]
      exact absent
    · intro other above below missing
      rw [get, get?, stored, below?_store_apart value _ above below]
      rfl
    · rw [stored]
      exact store_keyed known _ _ keyed

end Settings

namespace LocalSettings

theorem content_set (s : LocalSettings) (key : String) (value : Value) :
    (s.set key value).content = Settings.put s.content key value := by
  unfold set Settings.put
  cases Settings.put? s.content key value with
  | none => rfl
  | some next => exact content_schedule _

-- Settings of which every map has each key once stay so, and hold what is written under the path of a key
-- and below it; nothing that lies apart from the path changes.
theorem path_store (s : LocalSettings) (keyed : (Value.map s.content).isKeyed = true) (key : String)
    {value : Value} (known : value.isKeyed = true) :
    Settings.Written key value s.content (s.set key value).content := by
  rw [content_set]
  exact Settings.put_written keyed known key

-- Settings in which a plain value stands where a map will be wanted.
def plainlyNamed : LocalSettings :=
  { format := Settings.format
    content := [("evdash", .map [("name", .text "x"), ("tables", .map [("page_size", .int 50)])])] }

theorem plainlyNamed_store :
    (Value.map plainlyNamed.content).isKeyed = true ∧
    (Value.map [("given", .text "Ada")]).isKeyed = true ∧
    let after := (plainlyNamed.set "evdash.name.first" (.map [("given", .text "Ada")])).content
    (∀ missing, (Settings.get after "evdash.name.first.given" missing).same (.text "Ada") = true) ∧
    (∀ missing, Settings.get after "evdash.name.first.family" missing = missing) ∧
    (∀ missing, Settings.get after "evdash.tables.page_size" missing =
      Settings.get plainlyNamed.content "evdash.tables.page_size" missing) := by
  have keyed : (Value.map plainlyNamed.content).isKeyed = true := by decide +kernel
  have known : (Value.map [("given", .text "Ada")]).isKeyed = true := by decide +kernel
  have written := path_store plainlyNamed keyed "evdash.name.first" known
  refine ⟨keyed, known, ?_, ?_, ?_⟩
  · exact written.within "evdash.name.first.given" ["given"] _ (by decide +kernel) rfl
  · exact written.beyond "evdash.name.first.family" ["family"] (by decide +kernel) rfl
  · exact written.apart "evdash.tables.page_size" (by decide +kernel) (by decide +kernel)

end LocalSettings

end PagedTable
