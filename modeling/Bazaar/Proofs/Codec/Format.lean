import Bazaar.Codec
import Bazaar.Proofs.Table

/-! # Formats

A format is what is known of the data trees of a type without its values: which fields a record has,
which of them may be missing, and what stands for those. It decides which trees differ in their
writing only, and which ones lack something.
-/

namespace Bazaar

/-- The form of the data trees of a type. -/
inductive Format
  /-- Trees with nothing to be known of them. -/
  | atom
  /-- Null or a tree of another format. -/
  | optional (f : Format)
  | list (f : Format)
  /-- Records with keys of any name. -/
  | table (f : Format)
  /-- Records with fields of given names. A field may be missing if a tree stands for it then. -/
  | record (fields : List (String × Option Data × Format))
  /-- Records of one field, which is named for the case that it is of. -/
  | choice (cases : List (String × Format))
  /-- Records of the name of a case and a content. -/
  | tagged (tag content : String) (cases : List (String × Format))

/-- The tree of a field, or the one that stands for it when it is missing. There is none for a field
that occurs twice. -/
def Fields.given (fs : Fields Data) (name : String) (default : Option Data) : Option Data :=
  (fs.value? name).bind fun d => d.or default

open Table

namespace Format

abbrev names {α : Type} (l : List (String × α)) : List String := l.map (·.1)

/-- Two trees differ only in the order of fields, in fields that are not read, and in fields that
are missing from one tree and have in the other what stands for them. -/
inductive Alike : Format → Data → Data → Prop
  | refl (f : Format) (d : Data) : Alike f d d
  | optional {f : Format} {d d' : Data} (hd : Source.isNull d = false)
      (hd' : Source.isNull d' = false) (h : Alike f d d') : Alike (.optional f) d d'
  | list {f : Format} {items items' : List Data} (hlength : items.length = items'.length)
      (h : ∀ (i : Nat) (x x' : Data), items[i]? = some x → items'[i]? = some x' → Alike f x x') :
      Alike (.list f) (.list items) (.list items')
  | table {f : Format} {entries entries' : List (String × Data)}
      (hkeys : ∀ k, (lastEntry entries k).isSome = (lastEntry entries' k).isSome)
      (h : ∀ (k : String) (x x' : Data), lastEntry entries k = some x →
        lastEntry entries' k = some x' → Alike f x x') :
      Alike (.table f) (.record entries) (.record entries')
  | record {fields : List (String × Option Data × Format)} {d d' : Data} {fs fs' : Fields Data}
      (hd : Source.fields? (names fields) d = some fs)
      (hd' : Source.fields? (names fields) d' = some fs')
      (h : ∀ (name : String) (default : Option Data) (f : Format) (x x' : Data),
        (name, default, f) ∈ fields → fs.given name default = some x →
        fs'.given name default = some x' → Alike f x x') :
      Alike (.record fields) d d'
  | choice {cases : List (String × Format)} {name : String} {f : Format} {x x' : Data}
      (hname : (name, f) ∈ cases) (h : Alike f x x') :
      Alike (.choice cases) (.record [(name, x)]) (.record [(name, x')])
  | tagged {tag content : String} {cases : List (String × Format)} {d d' : Data}
      {fs fs' : Fields Data} (hd : Source.fields? [tag, content] d = some fs)
      (hd' : Source.fields? [tag, content] d' = some fs') (htag : fs.value? tag = fs'.value? tag)
      (h : ∀ (t x x' : Data) (name : String) (rest : Option Data) (f : Format),
        fs.value? tag = some (some t) → Source.choice? (names cases) t = some (name, rest) →
        (name, f) ∈ cases → fs.value? content = some (some x) →
        fs'.value? content = some (some x') → Alike f x x') :
      Alike (.tagged tag content cases) d d'

/-- A tree lacks a field that nothing stands for, here or in one of its parts. -/
inductive Lacks : Format → Data → Prop
  | optional {f : Format} {d : Data} (hd : Source.isNull d = false) (h : Lacks f d) :
      Lacks (.optional f) d
  | item {f : Format} {items : List Data} {x : Data} (hx : x ∈ items) (h : Lacks f x) :
      Lacks (.list f) (.list items)
  | entry {f : Format} {entries : List (String × Data)} {k : String} {x : Data}
      (hx : (k, x) ∈ entries) (h : Lacks f x) : Lacks (.table f) (.record entries)
  | missing {fields : List (String × Option Data × Format)} {d : Data} {fs : Fields Data}
      {name : String} {f : Format} (hd : Source.fields? (names fields) d = some fs)
      (hname : (name, none, f) ∈ fields) (h : fs.value? name = some none) :
      Lacks (.record fields) d
  | field {fields : List (String × Option Data × Format)} {d x : Data} {fs : Fields Data}
      {name : String} {default : Option Data} {f : Format}
      (hd : Source.fields? (names fields) d = some fs) (hname : (name, default, f) ∈ fields)
      (hx : fs.value? name = some (some x)) (h : Lacks f x) : Lacks (.record fields) d
  | choice {cases : List (String × Format)} {name : String} {f : Format} {x : Data}
      (hname : (name, f) ∈ cases) (h : Lacks f x) : Lacks (.choice cases) (.record [(name, x)])
  | missingTag {tag content : String} {cases : List (String × Format)} {d : Data}
      {fs : Fields Data} (hd : Source.fields? [tag, content] d = some fs)
      (h : fs.value? tag = some none) : Lacks (.tagged tag content cases) d
  | missingContent {tag content : String} {cases : List (String × Format)} {d : Data}
      {fs : Fields Data} (hd : Source.fields? [tag, content] d = some fs)
      (h : fs.value? content = some none) : Lacks (.tagged tag content cases) d
  | content {tag content : String} {cases : List (String × Format)} {d t x : Data}
      {fs : Fields Data} {name : String} {f : Format} {rest : Option Data}
      (hd : Source.fields? [tag, content] d = some fs) (htag : fs.value? tag = some (some t))
      (ht : Source.choice? (names cases) t = some (name, rest)) (hname : (name, f) ∈ cases)
      (hx : fs.value? content = some (some x)) (h : Lacks f x) :
      Lacks (.tagged tag content cases) d

end Format

/-! ## Fields of records -/

namespace Fields

variable {τ : Type} {fields fields' : List (String × τ)} {name : String}

theorem value?_of_perm (h : fields.Perm fields') (positional : Bool) :
    Fields.value? { entries := fields, positional } name =
      Fields.value? { entries := fields', positional } name := by
  have hperm := h.filter fun e => decide (e.1 = name)
  unfold value?
  generalize fields.filter (fun e => decide (e.1 = name)) = l at hperm
  generalize fields'.filter (fun e => decide (e.1 = name)) = l' at hperm
  match l, l' with
  | [], l' => rw [List.nil_perm.1 hperm]
  | [e], l' => rw [List.singleton_perm.1 hperm]
  | _ :: _ :: _, [] | _ :: _ :: _, [_] => simp at hperm
  | _ :: _ :: _, _ :: _ :: _ => rfl

theorem filter_eq_nil_iff :
    fields.filter (fun e => decide (e.1 = name)) = [] ↔ name ∉ fields.map (·.1) := by
  simp only [List.filter_eq_nil_iff, decide_eq_true_eq, List.mem_map, not_exists, not_and]

@[simp] theorem value?_cons (e : String × τ) (r : List (String × τ)) (positional : Bool)
    (name : String) :
    Fields.value? { entries := e :: r, positional } name =
      if e.1 = name then if name ∈ r.map (·.1) then none else some (some e.2)
      else Fields.value? { entries := r, positional } name := by
  unfold value?
  rw [List.filter_cons]
  by_cases h : e.1 = name
  · rw [if_pos (decide_eq_true h), if_pos h]
    by_cases hmem : name ∈ r.map (·.1)
    · obtain ⟨e', l, hl⟩ := List.exists_cons_of_ne_nil (mt filter_eq_nil_iff.1 (not_not.2 hmem))
      rw [if_pos hmem, hl]
    · rw [if_neg hmem, filter_eq_nil_iff.2 hmem]
  · rw [if_neg (by simpa using h), if_neg h]

theorem value?_of_notMem (h : name ∉ fields.map (·.1)) (positional : Bool) :
    Fields.value? { entries := fields, positional } name = some none := by
  rw [value?, filter_eq_nil_iff.2 h]

end Fields

namespace Format

variable {fields : List (String × Option Data × Format)} {written written' : List (String × Data)}
  {name : String} {d d' : Data}

theorem Alike.record_of_given
    (h : ∀ (name : String) (default : Option Data) (f : Format), (name, default, f) ∈ fields →
      Fields.given { entries := written, positional := false } name default =
        Fields.given { entries := written', positional := false } name default) :
    Alike (.record fields) (.record written) (.record written') := by
  refine .record rfl rfl fun name default f x x' hmem hx hx' => ?_
  rw [h name default f hmem, hx'] at hx
  cases hx
  exact .refl f x

theorem Alike.tagged_of_value {tag content : String} {cases : List (String × Format)}
    (h : ∀ name ∈ [tag, content],
      Fields.value? { entries := written, positional := false } name =
        Fields.value? { entries := written', positional := false } name) :
    Alike (.tagged tag content cases) (.record written) (.record written') := by
  refine .tagged rfl rfl (h tag (by simp)) fun t x x' name rest f _ _ _ hx hx' => ?_
  rw [h content (by simp), hx'] at hx
  cases hx
  exact .refl f x

theorem Alike.record_of_perm (h : written.Perm written') :
    Alike (.record fields) (.record written) (.record written') := by
  refine record_of_given fun name default f _ => ?_
  rw [Fields.given, Fields.given, Fields.value?_of_perm h]

theorem Alike.tagged_of_perm {tag content : String} {cases : List (String × Format)}
    (h : written.Perm written') :
    Alike (.tagged tag content cases) (.record written) (.record written') :=
  tagged_of_value fun _ _ => Fields.value?_of_perm h false

theorem Alike.table_of_perm {f : Format} (h : written.Perm written')
    (hnodup : (written.map (·.1)).Nodup) :
    Alike (.table f) (.record written) (.record written') := by
  refine .table (fun k => by rw [lastEntry_of_perm h hnodup]) fun k x x' hx hx' => ?_
  rw [lastEntry_of_perm h hnodup, hx'] at hx
  cases hx
  exact .refl f x

theorem Alike.record_of_unread (h : name ∉ names fields) :
    Alike (.record fields) (.record ((name, d) :: written)) (.record written) := by
  refine record_of_given fun name' default f hmem => ?_
  have hne : name ≠ name' := by
    rintro rfl
    exact h (List.mem_map_of_mem hmem)
  rw [Fields.given, Fields.given, Fields.value?_cons, if_neg hne]

theorem Alike.tagged_of_unread {tag content : String} {cases : List (String × Format)}
    (h : name ∉ [tag, content]) :
    Alike (.tagged tag content cases) (.record ((name, d) :: written)) (.record written) := by
  refine tagged_of_value fun name' hmem => ?_
  rw [Fields.value?_cons, if_neg]
  rintro rfl
  exact h hmem

/-- A field that is missing and one that has what stands for it make no difference. -/
theorem Alike.record_of_default {f : Format} (hnodup : (names fields).Nodup)
    (hmem : (name, some d, f) ∈ fields) (h : name ∉ written.map (·.1)) :
    Alike (.record fields) (.record ((name, d) :: written)) (.record written) := by
  refine record_of_given fun name' default f' hmem' => ?_
  by_cases hname : name = name'
  · subst hname
    cases List.inj_on_of_nodup_map hnodup hmem hmem' rfl
    rw [Fields.given, Fields.given, Fields.value?_cons, if_pos rfl, if_neg h,
      Fields.value?_of_notMem h]
    rfl
  · rw [Fields.given, Fields.given, Fields.value?_cons, if_neg hname]

end Format

end Bazaar
