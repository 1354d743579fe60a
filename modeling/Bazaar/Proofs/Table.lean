import Bazaar.Table
import Mathlib.Data.List.Induction
import Mathlib.Data.List.Nodup
import Mathlib.Data.List.Sort

/-! # Tables and their look-ups

A table is known by its look-ups. A table that is made of a list has the last entry of each key, so
the order of the list matters only where keys occur twice.
-/

namespace Bazaar.Table

variable {α : Type} {t t' : Table α} {l l' : List (String × α)} {k : String}

theorem lookup_cons (k : String) (e : String × α) (r : List (String × α)) :
    (e :: r).lookup k = if k = e.1 then some e.2 else r.lookup k := by
  rw [List.lookup_cons]
  by_cases h : k = e.1
  · rw [beq_iff_eq.2 h, if_pos h]
  · rw [beq_false_of_ne h, if_neg h]

theorem lookup_eq_none (h : ∀ e ∈ l, k < e.1) : l.lookup k = none := by
  induction l with
  | nil => rfl
  | cons e r ih =>
    rw [lookup_cons, if_neg, ih fun a ha => h a (List.mem_cons_of_mem _ ha)]
    rintro rfl
    exact String.lt_irrefl _ (h e List.mem_cons_self)

theorem mem_iff_lookup (h : l.Pairwise fun a b => a.1 < b.1) (e : String × α) :
    e ∈ l ↔ l.lookup e.1 = some e.2 := by
  induction l with
  | nil => simp
  | cons d r ih =>
    obtain ⟨hd, hr⟩ := List.pairwise_cons.1 h
    rw [lookup_cons, List.mem_cons, ih hr]
    by_cases hk : e.1 = d.1
    · have hnone : r.lookup e.1 = none := lookup_eq_none (hk ▸ hd)
      rw [if_pos hk, hnone, Prod.ext_iff]
      simp [hk, eq_comm]
    · rw [if_neg hk]
      constructor
      · rintro (rfl | he)
        · exact absurd rfl hk
        · exact he
      · exact Or.inr

theorem ext_get? (h : ∀ k, t.get? k = t'.get? k) : t = t' := by
  have hirrefl : Std.Irrefl fun a b : String × α => a.1 < b.1 := ⟨fun a => String.lt_irrefl a.1⟩
  have hantisymm : Std.Antisymm fun a b : String × α => a.1 < b.1 :=
    ⟨fun a b hab hba => absurd (String.lt_trans hab hba) (String.lt_irrefl a.1)⟩
  have hentries : t.entries = t'.entries := by
    apply t.sorted.eq_of_mem_iff t'.sorted
    intro e
    rw [mem_iff_lookup t.sorted, mem_iff_lookup t'.sorted]
    exact iff_of_eq (congrArg (· = some e.2) (h e.1))
  cases t
  cases t'
  congr

theorem all_eq_true {p : String → α → Bool} :
    t.all p = true ↔ ∀ k v, t.get? k = some v → p k v = true := by
  rw [all, List.all_eq_true]
  constructor
  · intro h k v hv
    exact h (k, v) ((mem_iff_lookup t.sorted (k, v)).2 hv)
  · intro h e he
    exact h e.1 e.2 ((mem_iff_lookup t.sorted e).1 he)

/-! ## Inserted entries -/

theorem lookup_place (k k' : String) (v : α) (l : List (String × α)) :
    (place k v l).lookup k' = if k' = k then some v else l.lookup k' := by
  induction l with
  | nil => exact lookup_cons k' (k, v) []
  | cons e r ih =>
    rw [place]
    split
    · exact lookup_cons k' (k, v) (e :: r)
    split
    case isTrue he =>
      subst he
      rw [lookup_cons, lookup_cons]
      split <;> rfl
    case isFalse he =>
      rw [lookup_cons, lookup_cons, ih]
      split
      case isTrue hk => rw [if_neg (hk ▸ Ne.symm he)]
      case isFalse => rfl

theorem get?_insert (t : Table α) (k k' : String) (v : α) :
    (t.insert k v).get? k' = if k' = k then some v else t.get? k' :=
  lookup_place k k' v t.entries

/-! ## Tables of lists -/

def lastEntry (l : List (String × α)) (k : String) : Option α := l.reverse.lookup k

theorem get?_ofList (l : List (String × α)) (k : String) : (ofList l).get? k = lastEntry l k := by
  induction l using List.reverseRecOn with
  | nil => rfl
  | append_singleton r e ih =>
    have hlast : lastEntry (r ++ [e]) k = if k = e.1 then some e.2 else lastEntry r k := by
      rw [lastEntry, List.reverse_append]
      exact lookup_cons k e r.reverse
    rw [hlast, ← ih, ofList, List.foldl_append]
    exact get?_insert _ e.1 k e.2

theorem lastEntry_eq_some_iff (h : (l.map (·.1)).Nodup) {v : α} :
    lastEntry l k = some v ↔ (k, v) ∈ l := by
  rw [lastEntry, List.lookup_eq_some_iff]
  constructor
  · rintro ⟨past, rest, heq, -⟩
    rw [← List.mem_reverse, heq]
    exact List.mem_append_right _ List.mem_cons_self
  · intro hmem
    obtain ⟨past, rest, heq⟩ := List.append_of_mem (List.mem_reverse.2 hmem)
    refine ⟨past, rest, heq, fun e he => ?_⟩
    have hnodup : ((past ++ (k, v) :: rest).map (·.1)).Nodup := by
      rw [← heq, List.map_reverse]
      exact List.nodup_reverse.2 h
    rw [List.map_append, List.map_cons] at hnodup
    simpa using ((List.nodup_append.1 hnodup).2.2 _ (List.mem_map_of_mem he) k
      List.mem_cons_self).symm

theorem lastEntry_of_perm (h : l.Perm l') (hnodup : (l.map (·.1)).Nodup) (k : String) :
    lastEntry l k = lastEntry l' k := by
  have hnodup' : (l'.map (·.1)).Nodup := (h.map (·.1)).nodup_iff.1 hnodup
  apply Option.ext
  intro v
  rw [lastEntry_eq_some_iff hnodup, lastEntry_eq_some_iff hnodup', h.mem_iff]

theorem nodup_keys (t : Table α) : (t.entries.map (·.1)).Nodup := by
  rw [List.Nodup, List.pairwise_map]
  exact t.sorted.imp fun h => Std.ne_of_lt h

theorem ofList_entries (t : Table α) : ofList t.entries = t := by
  apply ext_get?
  intro k
  apply Option.ext
  intro v
  rw [get?_ofList, lastEntry_eq_some_iff t.nodup_keys, mem_iff_lookup t.sorted (k, v)]
  rfl

end Bazaar.Table
