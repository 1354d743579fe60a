/-! # Tables with text keys

A finite map from texts to values, kept as its entries in strictly increasing key order.
Two tables with the same look-ups are therefore equal.
-/

namespace Bazaar

/-- A finite map from texts to values. -/
structure Table (α : Type) where
  entries : List (String × α)
  sorted : entries.Pairwise fun a b => a.1 < b.1
  deriving DecidableEq

namespace Table

variable {α : Type}

/-- Put an entry in key order, in place of an entry of the same key. -/
def place (k : String) (v : α) : List (String × α) → List (String × α)
  | [] => [(k, v)]
  | e :: r =>
    if k < e.1 then (k, v) :: e :: r
    else if k = e.1 then (k, v) :: r
    else e :: place k v r

theorem mem_place {k : String} {v : α} {e : String × α} {l : List (String × α)}
    (h : e ∈ place k v l) : e = (k, v) ∨ e ∈ l := by
  induction l with
  | nil => simpa [place] using h
  | cons d r ih =>
    rw [place] at h
    split at h
    · simpa using h
    · split at h <;> simp at h ⊢ <;> grind

theorem sorted_place (k : String) (v : α) {l : List (String × α)}
    (h : l.Pairwise fun a b => a.1 < b.1) :
    (place k v l).Pairwise fun a b => a.1 < b.1 := by
  induction l with
  | nil => simp [place]
  | cons d r ih =>
    obtain ⟨hd, hr⟩ := List.pairwise_cons.1 h
    rw [place]
    split
    case isTrue hk =>
      refine List.pairwise_cons.2 ⟨fun a ha => ?_, h⟩
      rcases List.mem_cons.1 ha with rfl | ha
      · exact hk
      · exact String.lt_trans hk (hd a ha)
    case isFalse hk =>
      split
      case isTrue he => exact List.pairwise_cons.2 ⟨fun a ha => he ▸ hd a ha, hr⟩
      case isFalse he =>
        refine List.pairwise_cons.2 ⟨fun a ha => ?_, ih hr⟩
        rcases mem_place ha with rfl | ha
        · exact Std.lt_of_le_of_ne (String.not_lt.1 hk) (Ne.symm he)
        · exact hd a ha

def empty : Table α := ⟨[], .nil⟩

instance : EmptyCollection (Table α) := ⟨empty⟩
instance : Inhabited (Table α) := ⟨empty⟩

def insert (t : Table α) (k : String) (v : α) : Table α :=
  ⟨place k v t.entries, sorted_place k v t.sorted⟩

/-- The table of a list of entries; of several entries with one key the last one counts. -/
def ofList (l : List (String × α)) : Table α :=
  l.foldl (fun t e => t.insert e.1 e.2) empty

def get? (t : Table α) (k : String) : Option α := t.entries.lookup k

def all (t : Table α) (p : String → α → Bool) : Bool := t.entries.all fun e => p e.1 e.2

end Table

/-- Add to the total of a key, which starts from zero. -/
def Table.tally (t : Table Nat) (k : String) (n : Nat) : Table Nat :=
  t.insert k ((t.get? k).getD 0 + n)

end Bazaar
