import RequestSql.Text.Basic

namespace RequestSql

/-- A map from names, each of which occurs once, in the order of their first insertion. -/
structure NameMap (α : Type) where
  entries : List (Text × α)
  nodup : (entries.map Prod.fst).Nodup
  deriving DecidableEq

namespace NameMap

variable {α : Type}

def empty : NameMap α :=
  ⟨[], by simp⟩

def isEmpty (m : NameMap α) : Bool :=
  m.entries.isEmpty

def names (m : NameMap α) : List Text :=
  m.entries.map Prod.fst

def get? (m : NameMap α) (name : Text) : Option α :=
  m.entries.lookup name

def insertEntry (name : Text) (a : α) : List (Text × α) → List (Text × α)
  | [] => [(name, a)]
  | (n, b) :: rest => if n = name then (n, a) :: rest else (n, b) :: insertEntry name a rest

theorem mem_names_insertEntry {name n : Text} {a : α} {entries : List (Text × α)}
    (h : n ∈ (insertEntry name a entries).map Prod.fst) :
    n = name ∨ n ∈ entries.map Prod.fst := by
  induction entries with
  | nil => simpa [insertEntry] using h
  | cons entry rest ih =>
    obtain ⟨m, b⟩ := entry
    unfold insertEntry at h
    split at h
    · exact .inr (by simpa using h)
    · simp only [List.map_cons, List.mem_cons] at h ⊢
      rcases h with h | h
      · exact .inr (.inl h)
      · rcases ih h with h | h
        · exact .inl h
        · exact .inr (.inr h)

theorem nodup_insertEntry {name : Text} {a : α} {entries : List (Text × α)}
    (h : (entries.map Prod.fst).Nodup) : ((insertEntry name a entries).map Prod.fst).Nodup := by
  induction entries with
  | nil => simp [insertEntry]
  | cons entry rest ih =>
    obtain ⟨n, b⟩ := entry
    simp only [List.map_cons, List.nodup_cons] at h
    unfold insertEntry
    split
    · simpa using h
    · rename_i hn
      simp only [List.map_cons, List.nodup_cons]
      refine ⟨fun hm => ?_, ih h.2⟩
      rcases mem_names_insertEntry hm with hm | hm
      · exact hn hm
      · exact h.1 hm

def insert (m : NameMap α) (name : Text) (a : α) : NameMap α :=
  ⟨insertEntry name a m.entries, nodup_insertEntry m.nodup⟩

/-- Inserts pairs one after the other, so that the last value of a name counts. -/
def ofPairs (pairs : List (Text × α)) : NameMap α :=
  pairs.foldl (fun m (name, a) => m.insert name a) empty

end NameMap

end RequestSql
