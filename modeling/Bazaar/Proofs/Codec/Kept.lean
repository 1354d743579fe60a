import Bazaar.Codec

/-! # Reading kept trees

A kept tree is read as the tree that was kept: its scalars, its items, its fields and the case that
it is of are the same, with their parts kept. The one thing that it gains is that a record without
fields counts as no content.
-/

namespace Bazaar

theorem mapM_eq_some_iff {α β : Type} {f : α → Option β} {l : List α} {r : List β} :
    l.mapM f = some r ↔ l.map f = r.map some := by
  induction l generalizing r with
  | nil => cases r <;> simp
  | cons a l ih =>
    cases r with
    | nil => simp [List.mapM_cons, Option.bind_eq_some_iff]
    | cons b r => simp [List.mapM_cons, Option.bind_eq_some_iff, ih]

theorem exists_of_map_eq {α β : Type} {f : α → Option β} {l : List α} {r : List β}
    (h : l.map f = r.map some) {a : α} (ha : a ∈ l) : ∃ b, f a = some b := by
  obtain ⟨b, -, hb⟩ := List.mem_map.1 (h ▸ List.mem_map_of_mem ha)
  exact ⟨b, hb.symm⟩

def Fields.buffer (fs : Fields Data) : Fields Buffered where
  entries := fs.entries.map fun e => (e.1, e.2.buffer)
  positional := fs.positional

namespace Data

variable {d : Data}

theorem bufferItems_eq (items : List Data) : bufferItems items = items.map buffer := by
  induction items with
  | nil => rfl
  | cons d r ih => rw [bufferItems, ih, List.map_cons]

theorem bufferFields_eq (fields : List (String × Data)) :
    bufferFields fields = fields.map fun e => (.text e.1, e.2.buffer) := by
  induction fields with
  | nil => rfl
  | cons e r ih => rw [bufferFields, ih, List.map_cons]

@[simp] theorem buffer_list (items : List Data) :
    (Data.list items).buffer = .list (items.map buffer) := by
  rw [buffer, bufferItems_eq]

@[simp] theorem buffer_record (fields : List (String × Data)) :
    (Data.record fields).buffer = .record (fields.map fun e => (.text e.1, e.2.buffer)) := by
  rw [buffer, bufferFields_eq]

/-! ## Scalars -/

@[simp] theorem isNull_buffer (d : Data) : Source.isNull d.buffer = Source.isNull d := by
  cases d with
  | int n => by_cases hn : 0 ≤ n <;> simp [buffer, hn, Source.isNull]
  | _ => rfl

theorem isUnit_buffer (h : Source.isUnit d = true) : Source.isUnit d.buffer = true := by
  cases d with
  | null => rfl
  | _ => cases h

@[simp] theorem nat?_buffer (d : Data) : Source.nat? d.buffer = Source.nat? d := by
  cases d with
  | int n => by_cases hn : 0 ≤ n <;> simp [buffer, hn, Source.nat?]
  | _ => rfl

@[simp] theorem int?_buffer (d : Data) : Source.int? d.buffer = Source.int? d := by
  cases d with
  | int n =>
    by_cases hn : 0 ≤ n
    · rw [buffer, if_pos hn]
      exact congrArg some (Int.toNat_of_nonneg hn)
    · rw [buffer, if_neg hn]
      rfl
  | _ => rfl

@[simp] theorem bool?_buffer (d : Data) : Source.bool? d.buffer = Source.bool? d := by
  cases d with
  | int n => by_cases hn : 0 ≤ n <;> simp [buffer, hn, Source.bool?]
  | _ => rfl

@[simp] theorem text?_buffer (d : Data) : Source.text? d.buffer = Source.text? d := by
  cases d with
  | int n => by_cases hn : 0 ≤ n <;> simp [buffer, hn, Source.text?, Buffered.text?]
  | _ => rfl

/-! ## Lists, tables and structures -/

@[simp] theorem items?_buffer (d : Data) :
    Source.items? d.buffer = (Source.items? d).map (List.map buffer) := by
  cases d with
  | int n => by_cases hn : 0 ≤ n <;> simp [buffer, hn, Source.items?]
  | list items => simp [Source.items?]
  | _ => rfl

@[simp] theorem entries?_buffer (d : Data) :
    Source.entries? d.buffer = (Source.entries? d).map (List.map fun e => (e.1, e.2.buffer)) := by
  cases d with
  | int n => by_cases hn : 0 ≤ n <;> simp [buffer, hn, Source.entries?]
  | record fields =>
    rw [buffer_record]
    exact mapM_eq_some_iff.2 (by simp [Buffered.text?])
  | _ => rfl

theorem fields?_text (names : List String) (fields : List (String × Data)) :
    Buffered.fields? names (fields.map fun e => (.text e.1, e.2.buffer)) =
      some (fields.map fun e => (e.1, e.2.buffer)) := by
  induction fields with
  | nil => rfl
  | cons e r ih => simp [Buffered.fields?, ih]

@[simp] theorem fields?_buffer (names : List String) (d : Data) :
    Source.fields? names d.buffer = (Source.fields? names d).map Fields.buffer := by
  cases d with
  | int n => by_cases hn : 0 ≤ n <;> simp [buffer, hn, Source.fields?]
  | record fields => simp [Source.fields?, fields?_text, Fields.buffer]
  | list items =>
    by_cases hlength : items.length ≤ names.length <;>
      simp [Source.fields?, Fields.ofItems?, hlength, Fields.buffer, List.zip_map_right]
  | _ => rfl

@[simp] theorem choice?_buffer (names : List String) (d : Data) :
    Source.choice? names d.buffer =
      (Source.choice? names d).map fun c => (c.1, c.2.map buffer) := by
  cases d with
  | int n => by_cases hn : 0 ≤ n <;> simp [buffer, hn, Source.choice?]
  | record fields =>
    match fields with
    | [] | [_] | _ :: _ :: _ => simp [Source.choice?]
  | list items => simp [Source.choice?]
  | _ => rfl

end Data

/-! ## Fields -/

namespace Fields

variable {fs : Fields Data}

@[simp] theorem value?_buffer (fs : Fields Data) (name : String) :
    fs.buffer.value? name = (fs.value? name).map (Option.map Data.buffer) := by
  have hfilter : fs.buffer.entries.filter (fun e => decide (e.1 = name)) =
      (fs.entries.filter fun e => decide (e.1 = name)).map fun e => (e.1, e.2.buffer) := by
    simp [buffer, List.filter_map, Function.comp_def]
  rw [value?, value?, hfilter]
  generalize fs.entries.filter (fun e => decide (e.1 = name)) = l
  match l with
  | [] | [_] | _ :: _ :: _ => rfl

@[simp] theorem positional_buffer (fs : Fields Data) : fs.buffer.positional = fs.positional := rfl

end Fields

end Bazaar
