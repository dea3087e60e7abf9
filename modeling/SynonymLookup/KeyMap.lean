/-! Finite maps from text keys, kept as a list in strictly increasing key order.
Two maps with the same look-ups are equal, and every listing of keys is sorted. -/

namespace SynonymLookup

/-- Entries in strictly increasing key order, so each key occurs once. -/
structure KeyMap (α : Type) where
  entries : List (String × α)
  sorted : entries.Pairwise (fun a b => a.1 < b.1)

namespace KeyMap

variable {α β : Type}

def empty : KeyMap α := ⟨[], .nil⟩

instance : Inhabited (KeyMap α) := ⟨empty⟩
instance : EmptyCollection (KeyMap α) := ⟨empty⟩

instance [DecidableEq α] : DecidableEq (KeyMap α) := fun m n =>
  if h : m.entries = n.entries then .isTrue (by cases m; cases n; cases h; rfl)
  else .isFalse (fun e => h (e ▸ rfl))

@[ext] theorem ext {m n : KeyMap α} (h : m.entries = n.entries) : m = n := by
  cases m; cases n; cases h; rfl

/-- The value of the first entry with this key. -/
def findEntry (key : String) : List (String × α) → Option α
  | [] => none
  | (k, v) :: rest => if k = key then some v else findEntry key rest

def get? (m : KeyMap α) (key : String) : Option α := findEntry key m.entries

def contains (m : KeyMap α) (key : String) : Bool := (m.get? key).isSome

def keys (m : KeyMap α) : List String := m.entries.map (·.1)

def values (m : KeyMap α) : List α := m.entries.map (·.2)

def size (m : KeyMap α) : Nat := m.entries.length

def isEmpty (m : KeyMap α) : Bool := m.entries.isEmpty

/-- Places an entry in key order; an entry of the same key gives way. -/
def insertEntry (key : String) (value : α) : List (String × α) → List (String × α)
  | [] => [(key, value)]
  | (k, v) :: rest =>
    if key < k then (key, value) :: (k, v) :: rest
    else if key = k then (key, value) :: rest
    else (k, v) :: insertEntry key value rest

theorem mem_insertEntry {key : String} {value : α} {e : String × α} {l : List (String × α)}
    (h : e ∈ insertEntry key value l) : e = (key, value) ∨ e ∈ l := by
  induction l with
  | nil => simpa [insertEntry] using h
  | cons hd tl ih =>
    simp only [insertEntry] at h
    split at h
    · simpa using h
    · split at h
      · rcases List.mem_cons.1 h with h | h
        · exact .inl h
        · exact .inr (List.mem_cons_of_mem _ h)
      · rcases List.mem_cons.1 h with h | h
        · exact .inr (h ▸ List.mem_cons_self)
        · exact (ih h).imp id (List.mem_cons_of_mem _)

theorem lt_of_not_lt_of_ne {a b : String} (h : ¬a < b) (hne : a ≠ b) : b < a :=
  Decidable.byContradiction fun hba =>
    hne (String.le_antisymm (String.not_lt.1 hba) (String.not_lt.1 h))

theorem sorted_insertEntry (key : String) (value : α) {l : List (String × α)}
    (h : l.Pairwise (fun a b => a.1 < b.1)) :
    (insertEntry key value l).Pairwise (fun a b => a.1 < b.1) := by
  induction l with
  | nil => simp [insertEntry]
  | cons hd tl ih =>
    have hhd : ∀ e ∈ tl, hd.1 < e.1 := fun e he => List.rel_of_pairwise_cons h he
    simp only [insertEntry]
    split
    · rename_i hlt
      refine List.pairwise_cons.2 ⟨fun e he => ?_, h⟩
      rcases List.mem_cons.1 he with rfl | he
      · exact hlt
      · exact String.lt_trans hlt (hhd _ he)
    · split
      · rename_i _ heq
        exact List.pairwise_cons.2 ⟨fun e he => heq ▸ hhd _ he, h.of_cons⟩
      · rename_i hlt hne
        refine List.pairwise_cons.2 ⟨fun e he => ?_, ih h.of_cons⟩
        rcases mem_insertEntry he with rfl | he
        · exact lt_of_not_lt_of_ne hlt hne
        · exact hhd _ he

def insert (m : KeyMap α) (key : String) (value : α) : KeyMap α :=
  ⟨insertEntry key value m.entries, sorted_insertEntry key value m.sorted⟩

def erase (m : KeyMap α) (key : String) : KeyMap α :=
  ⟨m.entries.filter (·.1 != key), m.sorted.filter _⟩

/-- Changes the value of a key, from `none` where there is none yet. -/
def update (m : KeyMap α) (key : String) (f : Option α → α) : KeyMap α :=
  m.insert key (f (m.get? key))

/-- Later entries of a key win. -/
def ofList (entries : List (String × α)) : KeyMap α :=
  entries.foldl (fun m e => m.insert e.1 e.2) empty

def map (f : α → β) (m : KeyMap α) : KeyMap β :=
  ⟨m.entries.map (fun e => (e.1, f e.2)), m.sorted.map _ (fun _ _ h => h)⟩

def filter (p : String → α → Bool) (m : KeyMap α) : KeyMap α :=
  ⟨m.entries.filter (fun e => p e.1 e.2), m.sorted.filter _⟩

@[simp] theorem get?_empty (key : String) : (empty : KeyMap α).get? key = none := rfl

theorem findEntry_insertEntry (key k : String) (value : α) (l : List (String × α)) :
    findEntry k (insertEntry key value l) = if key = k then some value else findEntry k l := by
  induction l with
  | nil => simp [insertEntry, findEntry]
  | cons hd tl ih => grind [insertEntry, findEntry]

theorem findEntry_filter_ne (key k : String) (l : List (String × α)) :
    findEntry k (l.filter (·.1 != key)) = if key = k then none else findEntry k l := by
  induction l with
  | nil => simp [findEntry]
  | cons hd tl ih => grind [findEntry]

@[simp] theorem get?_insert (m : KeyMap α) (key k : String) (value : α) :
    (m.insert key value).get? k = if key = k then some value else m.get? k :=
  findEntry_insertEntry key k value m.entries

@[simp] theorem get?_erase (m : KeyMap α) (key k : String) :
    (m.erase key).get? k = if key = k then none else m.get? k :=
  findEntry_filter_ne key k m.entries

end KeyMap

end SynonymLookup
