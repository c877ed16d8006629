import Findings.Keyed

/-!
What maps answer after they were edited. The answers decide the map: two maps that answer every
key alike hold the same entries (`Keyed.ext_get?`), because the order of the entries leaves no
choice.
-/

namespace Findings

/-! ## Ascending lists -/

namespace Utf8

variable {before rest : List String} {id : String}

/-- In an ascending list the texts that come before one of them are those to the left of it. -/
theorem filter_before_eq_left (ascending : (before ++ id :: rest).Pairwise Before) :
    (before ++ id :: rest).filter (fun k => Before k id) = before := by
  obtain ⟨_, tail, across⟩ := List.pairwise_append.mp ascending
  have right : (id :: rest).filter (fun k => decide (Before k id)) = [] := by
    refine List.filter_eq_nil_iff.mpr fun k member earlier => ?_
    rcases List.mem_cons.mp member with rfl | later
    · exact Before.irrefl k (of_decide_eq_true earlier)
    · exact Before.irrefl id
        (((List.pairwise_cons.mp tail).1 k later).trans (of_decide_eq_true earlier))
  have left : before.filter (fun k => decide (Before k id)) = before :=
    List.filter_eq_self.mpr fun k member => decide_eq_true (across k member id List.mem_cons_self)
  rw [List.filter_append, left, right, List.append_nil]

/-- In an ascending list the texts that do not come after one of them are that one and those to the
left of it. -/
theorem filter_not_after_eq_left (ascending : (before ++ id :: rest).Pairwise Before) :
    (before ++ id :: rest).filter (fun k => ¬ Before id k) = before ++ [id] := by
  obtain ⟨_, tail, across⟩ := List.pairwise_append.mp ascending
  have right : rest.filter (fun k => decide (¬ Before id k)) = [] :=
    List.filter_eq_nil_iff.mpr fun k member notAfter =>
      of_decide_eq_true notAfter ((List.pairwise_cons.mp tail).1 k member)
  have middle : decide (¬ Before id id) = true := decide_eq_true (Before.irrefl id)
  have left : before.filter (fun k => decide (¬ Before id k)) = before :=
    List.filter_eq_self.mpr fun k member => decide_eq_true fun order =>
      Before.irrefl k ((across k member id List.mem_cons_self).trans order)
  rw [List.filter_append, left,
    List.filter_cons_of_pos (p := fun k => decide (¬ Before id k)) middle, right]

theorem mem_left_of_before (ascending : (before ++ id :: rest).Pairwise Before) {k : String}
    (member : k ∈ before ++ id :: rest) (order : Before k id) : k ∈ before := by
  rw [← filter_before_eq_left ascending]
  exact List.mem_filter.mpr ⟨member, decide_eq_true order⟩

end Utf8

namespace Keyed

variable {α β : Type}

/-! ## Entries by their keys -/

/-- The first entry answers for its own key, and the others for the rest. -/
theorem lookup_cons_ite (key : String) (value : α) (rest : List (String × α)) (k : String) :
    ((key, value) :: rest).lookup k = if k = key then some value else rest.lookup k := by
  rw [List.lookup_cons]
  by_cases same : k = key
  · simp [same]
  · simp [same, beq_false_of_ne same]

/-- Mapping values maps the answers. -/
theorem lookup_map (f : α → β) (entries : List (String × α)) (key : String) :
    (entries.map fun e => (e.1, f e.2)).lookup key = (entries.lookup key).map f := by
  induction entries with
  | nil => rfl
  | cons head rest ih =>
    rw [List.map_cons, lookup_cons_ite, ih, lookup_cons_ite]
    split <;> rfl

/-- Dropping keys drops their answers and no others. -/
theorem lookup_filter (keep : String → Bool) (entries : List (String × α)) (key : String) :
    (entries.filter fun e => keep e.1).lookup key =
      if keep key then entries.lookup key else none := by
  induction entries with
  | nil => exact (ite_self none).symm
  | cons head rest ih =>
    obtain ⟨k, value⟩ := head
    rw [lookup_cons_ite, List.filter_cons]
    by_cases same : key = k
    · subst same
      cases kept : keep key <;> simp [ih, kept]
    · cases kept : keep k <;> simp [ih, lookup_cons_ite, same]

theorem mem_of_lookup {entries : List (String × α)} {key : String} {value : α}
    (found : entries.lookup key = some value) : (key, value) ∈ entries := by
  obtain ⟨before, after, split, _⟩ := List.lookup_eq_some_iff.mp found
  rw [split]
  exact List.mem_append_right _ List.mem_cons_self

/-- Where no key comes twice an entry is what is found under its key. -/
theorem lookup_eq_some_iff_mem {entries : List (String × α)}
    (distinct : (entries.map Prod.fst).Nodup) {key : String} {value : α} :
    entries.lookup key = some value ↔ (key, value) ∈ entries := by
  refine ⟨mem_of_lookup, fun member => ?_⟩
  obtain ⟨before, after, split⟩ := List.append_of_mem member
  rw [split, List.map_append, List.map_cons] at distinct
  have apart := (List.nodup_append.mp distinct).2.2
  refine List.lookup_eq_some_iff.mpr ⟨before, after, split, fun e earlier => bne_iff_ne.mpr ?_⟩
  exact (apart e.1 (List.mem_map_of_mem earlier) key List.mem_cons_self).symm

theorem mem_map_fst_iff {entries : List (String × α)} {key : String} :
    key ∈ entries.map Prod.fst ↔ (entries.lookup key).isSome := by
  simp only [List.lookup_isSome_iff, List.mem_map, beq_iff_eq, eq_comm (a := key)]

/-- Where keys are distinct the order of entries does not matter. -/
theorem lookup_reverse {entries : List (String × α)} (distinct : (entries.map Prod.fst).Nodup)
    (key : String) : entries.reverse.lookup key = entries.lookup key := by
  have reversed : (entries.reverse.map Prod.fst).Nodup := by
    rw [List.map_reverse]
    exact List.pairwise_reverse.mpr (distinct.imp Ne.symm)
  ext value
  rw [lookup_eq_some_iff_mem reversed, lookup_eq_some_iff_mem distinct, List.mem_reverse]

/-! ## The order of the entries -/

/-- The keys of a map ascend, so none of them comes twice. -/
theorem keys_ascending (m : Keyed α) : m.keys.Pairwise Utf8.Before :=
  List.pairwise_map.mpr m.ascending

theorem keys_nodup (m : Keyed α) : m.keys.Nodup := m.keys_ascending.imp Utf8.Before.ne

theorem isEmpty_iff_keys {m : Keyed α} : m.isEmpty = true ↔ m.keys = [] := by
  rw [isEmpty, keys, List.isEmpty_iff, List.map_eq_nil_iff]

theorem size_eq_length_keys (m : Keyed α) : m.size = m.keys.length := by
  rw [size, keys, List.length_map]

/-- The entries are what the map answers. -/
theorem mem_entries_iff {m : Keyed α} {key : String} {value : α} :
    (key, value) ∈ m.entries ↔ m.get? key = some value :=
  (lookup_eq_some_iff_mem m.keys_nodup).symm

theorem mem_keys_iff {m : Keyed α} {key : String} : key ∈ m.keys ↔ (m.get? key).isSome :=
  mem_map_fst_iff

/-- Two maps that answer every key alike are equal. -/
theorem ext_get? {m n : Keyed α} (same : ∀ key, m.get? key = n.get? key) : m = n := by
  have alike : ∀ e : String × α, e ∈ m.entries ↔ e ∈ n.entries := by
    rintro ⟨key, value⟩
    rw [mem_entries_iff, mem_entries_iff, same key]
  have distinct : ∀ l : Keyed α, l.entries.Nodup := fun l =>
    l.ascending.imp fun order equal => order.ne (congrArg Prod.fst equal)
  have permuted : m.entries.Perm n.entries :=
    (List.perm_ext_iff_of_nodup (distinct m) (distinct n)).mpr alike
  apply ext
  apply permuted.eq_of_pairwise _ m.ascending n.ascending
  intro a b _ _ forth back
  exact absurd (forth.trans back) (Utf8.Before.irrefl _)

/-! ## Edits -/

@[simp]
theorem get?_empty (key : String) : (∅ : Keyed α).get? key = none := rfl

/-- Placing an entry changes the answer for its key alone. -/
theorem lookup_place (key : String) (value : α) (entries : List (String × α)) (k : String) :
    (place key value entries).lookup k = if k = key then some value else entries.lookup k := by
  induction entries with
  | nil => rw [place, lookup_cons_ite]
  | cons head rest ih =>
    obtain ⟨first, v⟩ := head
    rw [place]
    split
    next found =>
      subst found
      rw [lookup_cons_ite, lookup_cons_ite]
      split <;> rfl
    next other =>
      split
      next before => rw [lookup_cons_ite]
      next after =>
        rw [lookup_cons_ite, ih, lookup_cons_ite]
        by_cases found : k = first
        · have different : k ≠ key := fun same => other (same.symm.trans found)
          rw [if_pos found, if_neg different, if_pos found]
        · rw [if_neg found, if_neg found]

/-- Inserting changes the answer for one key. -/
theorem get?_insert (m : Keyed α) (key : String) (value : α) (k : String) :
    (m.insert key value).get? k = if k = key then some value else m.get? k :=
  lookup_place key value m.entries k

theorem get?_insert_of_ne {m : Keyed α} {key k : String} (value : α) (different : k ≠ key) :
    (m.insert key value).get? k = m.get? k := by
  rw [get?_insert, if_neg different]

@[simp]
theorem get?_insert_self (m : Keyed α) (key : String) (value : α) :
    (m.insert key value).get? key = some value := by
  rw [get?_insert, if_pos rfl]

/-- A filter keeps the value of a key if the value passes. -/
theorem get?_filter (m : Keyed α) (keep : String → α → Bool) (k : String) :
    (m.filter keep).get? k = (m.get? k).filter (keep k) := by
  ext value
  rw [← mem_entries_iff, Option.filter_eq_some_iff, ← mem_entries_iff]
  exact List.mem_filter

/-- Erasing drops the answer for one key. -/
theorem get?_erase (m : Keyed α) (key k : String) :
    (m.erase key).get? k = if k = key then none else m.get? k := by
  rw [erase, get?_filter]
  by_cases gone : k = key
  · simp [gone]
  · have kept : (k != key) = true := bne_iff_ne.mpr gone
    cases m.get? k <;> simp [kept, gone]

theorem get?_erase_of_ne {m : Keyed α} {key k : String} (different : k ≠ key) :
    (m.erase key).get? k = m.get? k := by
  rw [get?_erase, if_neg different]

theorem filter_false (m : Keyed α) : (m.filter fun _ _ => false) = ∅ :=
  ext (List.filter_eq_nil_iff.mpr fun _ _ kept => Bool.noConfusion kept)

/-- Mapping values maps what is found. -/
theorem get?_map (f : α → β) (m : Keyed α) (key : String) :
    (m.map f).get? key = (m.get? key).map f := lookup_map f m.entries key

theorem keys_map (f : α → β) (m : Keyed α) : (m.map f).keys = m.keys := by
  rw [keys, keys, map, List.map_map]
  rfl

/-! ## Lists of entries -/

/-- Of several entries with one key the last counts. -/
theorem get?_ofList (entries : List (String × α)) (key : String) :
    (ofList entries).get? key = entries.reverse.lookup key := by
  have fold : ∀ m : Keyed α, (entries.foldl (fun m e => m.insert e.1 e.2) m).get? key =
      (entries.reverse.lookup key).or (m.get? key) := by
    induction entries with
    | nil => exact fun _ => rfl
    | cons head rest ih =>
      intro m
      rw [List.foldl_cons, ih, get?_insert, List.reverse_cons, List.lookup_append,
        lookup_cons_ite, Option.or_assoc]
      split <;> rfl
  exact (fold ∅).trans (Option.or_none ..)

theorem get?_ofList_of_nodup {entries : List (String × α)}
    (distinct : (entries.map Prod.fst).Nodup) (key : String) :
    (ofList entries).get? key = entries.lookup key := by
  rw [get?_ofList, lookup_reverse distinct]

@[simp]
theorem ofList_entries (m : Keyed α) : ofList m.entries = m :=
  ext_get? fun key => get?_ofList_of_nodup m.keys_nodup key

/-! ## Sizes -/

/-- Placing an entry adds one at the most. -/
theorem length_place_le (key : String) (value : α) (entries : List (String × α)) :
    (place key value entries).length ≤ entries.length + 1 := by
  induction entries with
  | nil => exact Nat.le_refl 1
  | cons head rest ih =>
    rw [place]
    split
    · exact Nat.le_succ _
    · split
      · exact Nat.le_refl _
      · exact Nat.succ_le_succ ih

theorem size_insert_le (m : Keyed α) (key : String) (value : α) :
    (m.insert key value).size ≤ m.size + 1 := length_place_le key value m.entries

theorem size_filter_le (m : Keyed α) (keep : String → α → Bool) : (m.filter keep).size ≤ m.size :=
  List.length_filter_le _ _

end Keyed

end Findings
