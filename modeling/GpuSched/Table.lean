/-!
# Tables ordered by number

A table holds at most one value for each natural number and lists its entries in ascending order
of their numbers. Registers, buffer words, runlists and live ranges are kept in such tables. The
order is part of the type, so two tables that answer every question alike list alike.
-/
namespace GpuSched

/-- Values under ascending numbers. -/
structure Table (α : Type) where
  /-- The numbers with their values. -/
  entries : List (Nat × α) := []
  /-- Each number stands once, in ascending order. -/
  ascending : entries.Pairwise (fun left right => left.1 < right.1) := by exact .nil

namespace Table

variable {α β : Type}

/-- The table without entries. -/
def empty : Table α := {}

instance : Inhabited (Table α) := ⟨empty⟩

/-- The first value filed under a number in a list of entries. -/
def lookup (key : Nat) : List (Nat × α) → Option α
  | [] => none
  | (held, value) :: rest => if held = key then some value else lookup key rest

/-- The value under a number. -/
def find? (table : Table α) (key : Nat) : Option α := lookup key table.entries

/-- Whether a number has a value. -/
def contains (table : Table α) (key : Nat) : Bool := (table.find? key).isSome

/-- An ascending list of entries with one added or replaced. -/
def place (key : Nat) (value : α) : List (Nat × α) → List (Nat × α)
  | [] => [(key, value)]
  | (held, other) :: rest =>
      if key < held then (key, value) :: (held, other) :: rest
      else if key = held then (key, value) :: rest
      else (held, other) :: place key value rest

theorem mem_place {key : Nat} {value : α} {entry : Nat × α} {list : List (Nat × α)}
    (mem : entry ∈ place key value list) : entry = (key, value) ∨ entry ∈ list := by
  induction list with
  | nil => simpa [place] using mem
  | cons head rest ih =>
    obtain ⟨held, other⟩ := head
    simp only [place] at mem
    split at mem
    · simpa using mem
    · split at mem
      · rcases List.mem_cons.mp mem with rfl | mem
        · exact .inl rfl
        · exact .inr (List.mem_cons_of_mem _ mem)
      · rcases List.mem_cons.mp mem with rfl | mem
        · exact .inr List.mem_cons_self
        · exact (ih mem).imp_right (List.mem_cons_of_mem _)

theorem ascending_place (key : Nat) (value : α) {list : List (Nat × α)}
    (ascending : list.Pairwise (fun left right => left.1 < right.1)) :
    (place key value list).Pairwise (fun left right => left.1 < right.1) := by
  induction list with
  | nil => simp [place]
  | cons head rest ih =>
    obtain ⟨held, other⟩ := head
    rw [List.pairwise_cons] at ascending
    simp only [place]
    split
    · refine List.pairwise_cons.mpr ⟨fun entry mem => ?_, List.pairwise_cons.mpr ascending⟩
      rcases List.mem_cons.mp mem with rfl | mem
      · assumption
      · exact Nat.lt_trans ‹_› (ascending.1 entry mem)
    · split
      · subst ‹key = held›
        exact List.pairwise_cons.mpr ascending
      · refine List.pairwise_cons.mpr ⟨fun entry mem => ?_, ih ascending.2⟩
        rcases mem_place mem with rfl | mem
        · simp only
          omega
        · exact ascending.1 entry mem

/-- The table with a value under a number, instead of any value it had. -/
def insert (table : Table α) (key : Nat) (value : α) : Table α :=
  ⟨place key value table.entries, ascending_place key value table.ascending⟩

/-- The table without a number. -/
def erase (table : Table α) (key : Nat) : Table α :=
  ⟨table.entries.filter (fun entry => entry.1 != key), table.ascending.filter _⟩

/-- The table without the entries that fail a test. -/
def filter (table : Table α) (keep : Nat → α → Bool) : Table α :=
  ⟨table.entries.filter (fun entry => keep entry.1 entry.2), table.ascending.filter _⟩

/-- The table with each value changed. -/
def map (table : Table α) (change : Nat → α → β) : Table β :=
  ⟨table.entries.map (fun entry => (entry.1, change entry.1 entry.2)), by
    rw [List.pairwise_map]
    exact table.ascending⟩

/-- The entry with the greatest number below `limit`. -/
def lastBelow? (table : Table α) (limit : Nat) : Option (Nat × α) :=
  (table.entries.filter (fun entry => entry.1 < limit)).getLast?

/-- The numbers of the table, ascending. -/
def keys (table : Table α) : List Nat := table.entries.map (·.1)

/-- The values of the table, in ascending order of their numbers. -/
def values (table : Table α) : List α := table.entries.map (·.2)

/-- The number of entries. -/
def size (table : Table α) : Nat := table.entries.length

theorem lookup_place (key other : Nat) (value : α) (list : List (Nat × α)) :
    lookup other (place key value list) =
      if other = key then some value else lookup other list := by
  induction list with
  | nil => grind [place, lookup]
  | cons head rest ih => grind [place, lookup]

@[simp] theorem find?_empty (key : Nat) : (empty : Table α).find? key = none := rfl

theorem find?_insert (table : Table α) (key other : Nat) (value : α) :
    (table.insert key value).find? other =
      if other = key then some value else table.find? other :=
  lookup_place key other value table.entries

theorem find?_erase (table : Table α) (key other : Nat) :
    (table.erase key).find? other = if other = key then none else table.find? other := by
  obtain ⟨list, ascending⟩ := table
  simp only [find?, erase]
  clear ascending
  induction list with
  | nil => simp [lookup]
  | cons head rest ih => grind [lookup]

theorem keys_ascending (table : Table α) : table.keys.Pairwise (· < ·) := by
  rw [keys, List.pairwise_map]
  exact table.ascending

theorem lookup_eq_some_iff {key : Nat} {value : α} {list : List (Nat × α)}
    (ascending : list.Pairwise (fun left right => left.1 < right.1)) :
    lookup key list = some value ↔ (key, value) ∈ list := by
  induction list with
  | nil => simp [lookup]
  | cons head rest ih =>
    obtain ⟨held, other⟩ := head
    rw [List.pairwise_cons] at ascending
    rw [lookup, List.mem_cons, Prod.mk.injEq]
    by_cases same : held = key
    · have not_later : (key, value) ∉ rest := by
        intro mem
        have later := ascending.1 _ mem
        dsimp only at later
        omega
      rw [if_pos same, Option.some.injEq]
      constructor
      · rintro rfl
        exact .inl ⟨same.symm, rfl⟩
      · rintro (⟨-, rfl⟩ | mem)
        · rfl
        · exact absurd mem not_later
    · rw [if_neg same, ih ascending.2]
      constructor
      · exact .inr
      · rintro (⟨rfl, -⟩ | mem)
        · exact absurd rfl same
        · exact mem

/-- The entries are the numbers with their values. -/
theorem find?_eq_some_iff {table : Table α} {key : Nat} {value : α} :
    table.find? key = some value ↔ (key, value) ∈ table.entries :=
  lookup_eq_some_iff table.ascending

/-- The numbers of a table are those that have a value. -/
theorem mem_keys_iff {table : Table α} {key : Nat} :
    key ∈ table.keys ↔ ∃ value, table.find? key = some value := by
  simp only [keys, List.mem_map, Prod.exists, find?_eq_some_iff]
  constructor
  · rintro ⟨_, value, mem, rfl⟩
    exact ⟨value, mem⟩
  · rintro ⟨value, mem⟩
    exact ⟨key, value, mem, rfl⟩

theorem find?_filter (table : Table α) (keep : Nat → α → Bool) (key : Nat) :
    (table.filter keep).find? key = (table.find? key).filter (keep key) := by
  ext value
  rw [Option.filter_eq_some_iff, find?_eq_some_iff, find?_eq_some_iff]
  exact List.mem_filter

theorem find?_map (table : Table α) (change : Nat → α → β) (key : Nat) :
    (table.map change).find? key = (table.find? key).map (change key) := by
  obtain ⟨list, ascending⟩ := table
  simp only [find?, map]
  clear ascending
  induction list with
  | nil => rfl
  | cons head rest ih => grind [lookup]

/-- The last entry below a limit is one of the table. -/
theorem of_lastBelow? {table : Table α} {limit key : Nat} {value : α}
    (last : table.lastBelow? limit = some (key, value)) :
    table.find? key = some value ∧ key < limit := by
  obtain ⟨mem, below⟩ := List.mem_filter.mp (List.mem_of_getLast? last)
  exact ⟨find?_eq_some_iff.mpr mem, of_decide_eq_true below⟩

/-- No number below a limit is greater than that of the last entry below it. -/
theorem exists_lastBelow? {table : Table α} {limit key : Nat} {value : α}
    (found : table.find? key = some value) (below : key < limit) :
    ∃ last held, table.lastBelow? limit = some (last, held) ∧ key ≤ last := by
  have mem : (key, value) ∈ table.entries.filter fun entry => entry.1 < limit :=
    List.mem_filter.mpr ⟨find?_eq_some_iff.mp found, decide_eq_true below⟩
  have ascending := table.ascending.filter fun entry => entry.1 < limit
  obtain ⟨before, ⟨last, held⟩, all⟩ :=
    (List.eq_nil_or_concat _).resolve_left (List.ne_nil_of_mem mem)
  rw [List.concat_eq_append] at all
  refine ⟨last, held, by rw [lastBelow?, all]; exact List.getLast?_concat, ?_⟩
  rw [all] at mem ascending
  rcases List.mem_append.mp mem with earlier | here
  · have less := (List.pairwise_append.mp ascending).2.2 _ earlier _ List.mem_cons_self
    exact Nat.le_of_lt less
  · rw [List.mem_singleton, Prod.mk.injEq] at here
    exact Nat.le_of_eq here.1

/-- A new number adds its entry to the others. -/
theorem place_perm {key : Nat} (value : α) {list : List (Nat × α)}
    (absent : lookup key list = none) : (place key value list).Perm ((key, value) :: list) := by
  induction list with
  | nil => exact .refl _
  | cons head rest ih =>
    obtain ⟨held, other⟩ := head
    rw [lookup] at absent
    have different : ¬held = key := by
      intro same
      rw [if_pos same] at absent
      cases absent
    rw [if_neg different] at absent
    rw [place]
    split
    · exact .refl _
    · rw [if_neg (Ne.symm different)]
      exact ((ih absent).cons _).trans (.swap ..)

/-- A new number adds its value to the others. -/
theorem values_insert_perm {table : Table α} {key : Nat} (fresh : table.find? key = none)
    (value : α) : (table.insert key value).values.Perm (value :: table.values) :=
  (place_perm value fresh).map Prod.snd

/-- Without a number it does not matter what was added under it. -/
theorem filter_place (key : Nat) (value : α) (list : List (Nat × α)) :
    (place key value list).filter (fun entry => entry.1 != key) =
      list.filter (fun entry => entry.1 != key) := by
  induction list with
  | nil => simp [place]
  | cons head rest ih => grind [place]

/-- Taking away a number that was not there before it was added gives the table back. -/
theorem erase_insert {table : Table α} {key : Nat} (fresh : table.find? key = none) (value : α) :
    (table.insert key value).erase key = table := by
  have absent : ∀ entry ∈ table.entries, (entry.1 != key) = true := by
    intro entry mem
    rw [bne_iff_ne]
    rintro rfl
    cases fresh.symm.trans (find?_eq_some_iff.mpr mem)
  obtain ⟨list, ascending⟩ := table
  have entries : (place key value list).filter (fun entry => entry.1 != key) = list := by
    rw [filter_place]
    exact List.filter_eq_self.mpr absent
  unfold insert erase
  simp only [entries]

end Table

end GpuSched
