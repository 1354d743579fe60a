import Bazaar.Codec.Gesture
import Bazaar.Codec.Shop
import Bazaar.Codec.Trade
import Bazaar.Proofs.Codec.Format
import Bazaar.Proofs.Codec.Identifier

/-! # Lawful codecs

What is written is read back, a tree that is kept is read as before, trees that differ in their
writing only are not read as different values, and a tree that lacks something is not read. The laws
are kept by optional values, lists and tables.
-/

namespace Bazaar

open Table

/-- Types whose data trees have a known format. -/
class HasFormat (α : Type) where
  format : Format

export HasFormat (format)

/-- A reader of trees of a format. It reads a tree that is kept as it reads the tree, does not read
trees that are alike as different values, and reads no tree that lacks something. The last two laws
are about kept trees; those of plain trees follow. -/
structure Reads {α : Type} (f : Format) (read : (τ : Type) → [Source τ] → τ → Option α) :
    Prop where
  buffer {d : Data} {a : α} (h : read Data d = some a) : read Buffered d.buffer = some a
  eq_of_alike {d d' : Data} {a a' : α} (h : f.Alike d d') (ha : read Buffered d.buffer = some a)
    (ha' : read Buffered d'.buffer = some a') : a = a'
  not_lacks {d : Data} {a : α} (h : read Buffered d.buffer = some a) : ¬f.Lacks d

namespace Reads

variable {α β : Type} {f : Format} {read : (τ : Type) → [Source τ] → τ → Option α} {d d' : Data}
  {a a' : α}

theorem eq_of_alike_plain (h : Reads f read) (halike : f.Alike d d') (ha : read Data d = some a)
    (ha' : read Data d' = some a') : a = a' :=
  h.eq_of_alike halike (h.buffer ha) (h.buffer ha')

theorem eq_none_of_lacks (h : Reads f read) (hlacks : f.Lacks d) : read Data d = none :=
  Option.eq_none_iff_forall_ne_some.2 fun _ ha => h.not_lacks (h.buffer ha) hlacks

theorem map (h : Reads f read) (g : α → β) : Reads f fun τ _ d => (read τ d).map g where
  buffer {d b} hb := by
    obtain ⟨a, ha, rfl⟩ := Option.map_eq_some_iff.1 hb
    rw [h.buffer ha, Option.map_some]
  eq_of_alike {d d' b b'} halike hb hb' := by
    obtain ⟨a, ha, rfl⟩ := Option.map_eq_some_iff.1 hb
    obtain ⟨a', ha', rfl⟩ := Option.map_eq_some_iff.1 hb'
    rw [h.eq_of_alike halike ha ha']
  not_lacks {d b} hb := by
    obtain ⟨a, ha, rfl⟩ := Option.map_eq_some_iff.1 hb
    exact h.not_lacks ha

end Reads

/-- Types whose values are read as they are written. -/
class LawfulCodec (α : Type) [Encode α] [Decode α] [HasFormat α] : Prop where
  decode?_encode (a : α) : decode? (encode a) = some a
  reads : Reads (format α) fun _ _ d => (decode? d : Option α)

attribute [simp] LawfulCodec.decode?_encode

/-- Types whose values are not read from null. -/
class NeverNull (α : Type) [Decode α] : Prop where
  decode?_null : (decode? Data.null : Option α) = none

variable {α : Type} [Encode α] [Decode α] [HasFormat α]

namespace LawfulCodec

variable {d d' : Data} {a a' : α}

theorem decode?_buffer [LawfulCodec α] (h : decode? d = some a) : decode? d.buffer = some a :=
  reads.buffer h

theorem eq_of_alike [LawfulCodec α] (h : (format α).Alike d d') (ha : decode? d.buffer = some a)
    (ha' : decode? d'.buffer = some a') : a = a' :=
  reads.eq_of_alike h ha ha'

theorem not_lacks [LawfulCodec α] (h : decode? d.buffer = some a) : ¬(format α).Lacks d :=
  reads.not_lacks h

theorem of_atom (hformat : format α = .atom) (hencode : ∀ a : α, decode? (encode a) = some a)
    (hbuffer : ∀ {d : Data} {a : α}, decode? d = some a → decode? d.buffer = some a) :
    LawfulCodec α where
  decode?_encode := hencode
  reads := by
    rw [hformat]
    refine ⟨hbuffer, ?_, ?_⟩
    · intro d d' a a' h ha ha'
      cases h
      exact Option.some.inj (ha.symm.trans ha')
    · intro d a _ h
      cases h

end LawfulCodec

open LawfulCodec NeverNull

/-! ## Atoms -/

theorem nat?_int (n : Nat) : Source.nat? (Data.int n) = some n := by
  simp [Source.nat?]

instance : HasFormat Amount := ⟨.atom⟩
instance : HasFormat UInt8 := ⟨.atom⟩
instance : HasFormat UInt64 := ⟨.atom⟩
instance : HasFormat Int32 := ⟨.atom⟩
instance : HasFormat Bool := ⟨.atom⟩
instance : HasFormat String := ⟨.atom⟩
instance {sort : Named} : HasFormat (Id sort) := ⟨.atom⟩

instance : LawfulCodec Amount :=
  .of_atom rfl
    (fun a => by
      change (Source.nat? (Data.int a.val)).bind Amount.ofNat? = some a
      rw [nat?_int]
      exact dif_pos a.le_limit)
    (fun {d a} h => by
      change (Source.nat? d.buffer).bind Amount.ofNat? = some a
      rwa [Data.nat?_buffer])

instance : LawfulCodec UInt8 :=
  .of_atom rfl
    (fun n => by simp [encode, decode?, nat?_int, n.toNat_lt_size])
    (fun {d n} h => by simpa [decode?] using h)

instance : LawfulCodec UInt64 :=
  .of_atom rfl
    (fun n => by simp [encode, decode?, nat?_int, n.toNat_lt_size])
    (fun {d n} h => by simpa [decode?] using h)

instance : LawfulCodec Int32 :=
  .of_atom rfl
    (fun n => by
      have hrange : Int32.minValue.toInt ≤ n.toInt ∧ n.toInt ≤ Int32.maxValue.toInt :=
        ⟨n.minValue_le_toInt, n.toInt_le⟩
      change (if _ then some (Int32.ofInt n.toInt) else none) = some n
      rw [if_pos hrange, Int32.ofInt_toInt])
    (fun {d n} h => by simpa [decode?] using h)

instance : LawfulCodec Bool :=
  .of_atom rfl (fun _ => rfl) (fun {d _} h => (Data.bool?_buffer d).trans h)

instance : LawfulCodec String :=
  .of_atom rfl (fun _ => rfl) (fun {d _} h => (Data.text?_buffer d).trans h)

instance {sort : Named} : LawfulCodec (Id sort) :=
  .of_atom rfl
    (fun i => by simp [encode, decode?, Source.text?, Uuid.parse?_render])
    (fun {d i} h => by simpa [decode?] using h)

/-! ## Names -/

theorem readName_buffer {β : Type} {name : β → String} {all : List β} {d : Data} {b : β}
    (h : readName name all d = some b) : readName name all d.buffer = some b := by
  rw [readName] at h ⊢
  rw [Data.choice?_buffer]
  cases hchoice : Source.choice? (all.map name) d with
  | none => simp [hchoice] at h
  | some c =>
    rw [hchoice] at h
    dsimp only [Option.map_some] at h ⊢
    split at h
    case isTrue hunit =>
      rw [if_pos, h]
      cases hcontent : c.2 with
      | none => rfl
      | some x => exact Data.isUnit_buffer (by simpa [hcontent] using hunit)
    case isFalse => cases h

instance : HasFormat Generation := ⟨.atom⟩
instance : HasFormat GestureKind := ⟨.atom⟩
instance : HasFormat AbortReason := ⟨.atom⟩

instance : LawfulCodec Generation := .of_atom rfl (fun g => by cases g <;> rfl) readName_buffer
instance : LawfulCodec GestureKind := .of_atom rfl (fun k => by cases k <;> rfl) readName_buffer
instance : LawfulCodec AbortReason := .of_atom rfl (fun r => by cases r <;> rfl) readName_buffer

/-! ## Values that may be missing -/

instance : HasFormat (Option α) := ⟨.optional (format α)⟩

theorem isNull_encode [LawfulCodec α] [NeverNull α] (a : α) : Source.isNull (encode a) = false := by
  cases h : encode a with
  | null =>
    have hread := decode?_encode a
    rw [h, decode?_null] at hread
    cases hread
  | _ => rfl

instance : NeverNull Amount := ⟨rfl⟩
instance : NeverNull UInt8 := ⟨rfl⟩
instance : NeverNull String := ⟨rfl⟩
instance {sort : Named} : NeverNull (Id sort) := ⟨rfl⟩

theorem decode?_optional {β τ : Type} [Decode β] [Source τ] (d : τ) :
    (decode? d : Option (Option β)) =
      if Source.isNull d then some none else (decode? d).map some :=
  rfl

theorem reads_optional [LawfulCodec α] [NeverNull α] :
    Reads (.optional (format α)) fun _ _ d => (decode? d : Option (Option α)) where
  buffer {d a} h := by
    rw [decode?_optional] at h ⊢
    rw [Data.isNull_buffer]
    split at h
    case isTrue hnull => rw [if_pos hnull, h]
    case isFalse hnull =>
      obtain ⟨b, hb, rfl⟩ := Option.map_eq_some_iff.1 h
      rw [if_neg hnull, decode?_buffer hb, Option.map_some]
  eq_of_alike {d d' a a'} h ha ha' := by
    cases h with
    | refl => exact Option.some.inj (ha.symm.trans ha')
    | optional hd hd' h =>
      rw [decode?_optional, Data.isNull_buffer, hd] at ha
      rw [decode?_optional, Data.isNull_buffer, hd'] at ha'
      obtain ⟨b, hb, rfl⟩ := Option.map_eq_some_iff.1 ha
      obtain ⟨b', hb', rfl⟩ := Option.map_eq_some_iff.1 ha'
      rw [eq_of_alike h hb hb']
  not_lacks {d a} ha h := by
    cases h with
    | optional hd h =>
      rw [decode?_optional, Data.isNull_buffer, hd] at ha
      obtain ⟨b, hb, -⟩ := Option.map_eq_some_iff.1 ha
      exact not_lacks hb h

instance [LawfulCodec α] [NeverNull α] : LawfulCodec (Option α) where
  decode?_encode
    | none => rfl
    | some a => by
      change decode? (encode a) = some (some a)
      rw [decode?_optional, isNull_encode, decode?_encode]
      rfl
  reads := reads_optional

/-! ## Lists and tables -/

/-- Parts that are alike are read as the same values, if both are there or none is. -/
theorem LawfulCodec.eq_of_alike_parts [LawfulCodec α] {o o' : Option Data} {r r' : Option α}
    (hsome : o.isSome = o'.isSome)
    (h : ∀ x x' : Data, o = some x → o' = some x' → (format α).Alike x x')
    (hr : o.map (fun d => decode? d.buffer) = r.map some)
    (hr' : o'.map (fun d => decode? d.buffer) = r'.map some) : r = r' := by
  cases o with
  | none =>
    cases o' with
    | some => cases hsome
    | none =>
      rw [Option.map_none, eq_comm, Option.map_eq_none_iff] at hr hr'
      rw [hr, hr']
  | some x =>
    cases o' with
    | none => cases hsome
    | some x' =>
      rw [Option.map_some, eq_comm, Option.map_eq_some_iff] at hr hr'
      obtain ⟨a, rfl, ha⟩ := hr
      obtain ⟨a', rfl, ha'⟩ := hr'
      rw [eq_of_alike (h x x' rfl rfl) ha.symm ha'.symm]

instance : HasFormat (List α) := ⟨.list (format α)⟩

theorem decode?_list {β τ : Type} [Decode β] [Source τ] {d : τ} {bs : List β} :
    decode? d = some bs ↔ ∃ items, Source.items? d = some items ∧
      items.map decode? = bs.map some := by
  change (Source.items? d).bind (fun items => items.mapM decode?) = some bs ↔ _
  rw [Option.bind_eq_some_iff]
  simp only [mapM_eq_some_iff]

theorem decode?_items {β : Type} [Decode β] {items : List Data} {bs : List β} :
    decode? (Data.list items).buffer = some bs ↔
      items.map (fun d => decode? d.buffer) = bs.map some := by
  rw [decode?_list, Data.items?_buffer]
  simp [Source.items?, Function.comp_def]

theorem reads_list [LawfulCodec α] :
    Reads (.list (format α)) fun _ _ d => (decode? d : Option (List α)) where
  buffer {d as} h := by
    obtain ⟨items, hitems, has⟩ := decode?_list.1 h
    refine decode?_list.2 ⟨items.map Data.buffer, by rw [Data.items?_buffer, hitems]; rfl, ?_⟩
    rw [← has, List.map_map]
    refine List.map_congr_left fun d hd => ?_
    obtain ⟨a, ha⟩ := exists_of_map_eq has hd
    rw [ha]
    exact decode?_buffer ha
  eq_of_alike {d d' as as'} h has has' := by
    cases h with
    | refl => exact Option.some.inj (has.symm.trans has')
    | @list _ items items' hlength h =>
      rw [decode?_items] at has has'
      refine List.ext_getElem? fun i => eq_of_alike_parts ?_ (h i) ?_ ?_
      · rw [Option.isSome_eq_isSome]
        simp [hlength]
      · rw [← List.getElem?_map, has, List.getElem?_map]
      · rw [← List.getElem?_map, has', List.getElem?_map]
  not_lacks {d as} has h := by
    cases h with
    | item hx h =>
      rw [decode?_items] at has
      obtain ⟨a, ha⟩ := exists_of_map_eq has hx
      exact not_lacks ha h

instance [LawfulCodec α] : LawfulCodec (List α) where
  decode?_encode as := by
    refine decode?_list.2 ⟨as.map encode, rfl, ?_⟩
    rw [List.map_map]
    exact List.map_congr_left fun a _ => decode?_encode a
  reads := reads_list

instance : HasFormat (Table α) := ⟨.table (format α)⟩

def readEntry {β τ : Type} [Decode β] [Source τ] (e : String × τ) : Option (String × β) :=
  (decode? e.2).map (e.1, ·)

theorem decode?_table {β τ : Type} [Decode β] [Source τ] {d : τ} {t : Table β} :
    decode? d = some t ↔ ∃ entries, Source.entries? d = some entries ∧
      ∃ l, entries.map readEntry = l.map some ∧ ofList l = t := by
  change (Source.entries? d).bind (fun entries => (entries.mapM readEntry).map ofList) = some t ↔ _
  rw [Option.bind_eq_some_iff]
  simp only [Option.map_eq_some_iff, mapM_eq_some_iff]

theorem decode?_entries {β : Type} [Decode β] {entries : List (String × Data)} {t : Table β} :
    decode? (Data.record entries).buffer = some t ↔
      ∃ l, entries.map (fun e => readEntry (e.1, e.2.buffer)) = l.map some ∧ ofList l = t := by
  rw [decode?_table, Data.entries?_buffer]
  simp [Source.entries?, Function.comp_def]

theorem lookup_readEntry {β : Type} [Decode β] {entries : List (String × Data)}
    {l : List (String × β)}
    (h : entries.map (fun e => readEntry (e.1, e.2.buffer)) = l.map some) (k : String) :
    (entries.lookup k).map (fun d => decode? d.buffer) = (l.lookup k).map some := by
  induction entries generalizing l with
  | nil =>
    cases l with
    | nil => rfl
    | cons => cases h
  | cons e r ih =>
    cases l with
    | nil => cases h
    | cons e' r' =>
      obtain ⟨he, hr⟩ := List.cons.inj h
      obtain ⟨b, hb, rfl⟩ := Option.map_eq_some_iff.1 he
      rw [lookup_cons, lookup_cons]
      split
      · simp [hb]
      · exact ih hr

theorem lastEntry_readEntry {β : Type} [Decode β] {entries : List (String × Data)}
    {l : List (String × β)}
    (h : entries.map (fun e => readEntry (e.1, e.2.buffer)) = l.map some) (k : String) :
    (lastEntry entries k).map (fun d => decode? d.buffer) = (lastEntry l k).map some := by
  refine lookup_readEntry ?_ k
  rw [List.map_reverse, h, List.map_reverse]

theorem reads_table [LawfulCodec α] :
    Reads (.table (format α)) fun _ _ d => (decode? d : Option (Table α)) where
  buffer {d t} h := by
    obtain ⟨entries, hentries, l, hl, rfl⟩ := decode?_table.1 h
    refine decode?_table.2 ⟨entries.map fun e => (e.1, e.2.buffer),
      by rw [Data.entries?_buffer, hentries]; rfl, l, ?_, rfl⟩
    rw [← hl, List.map_map]
    refine List.map_congr_left fun e he => ?_
    obtain ⟨e', he'⟩ := exists_of_map_eq hl he
    obtain ⟨a, ha, -⟩ := Option.map_eq_some_iff.1 he'
    simp [readEntry, ha, decode?_buffer ha]
  eq_of_alike {d d' t t'} h ht ht' := by
    cases h with
    | refl => exact Option.some.inj (ht.symm.trans ht')
    | @table _ entries entries' hkeys h =>
      obtain ⟨l, hl, rfl⟩ := decode?_entries.1 ht
      obtain ⟨l', hl', rfl⟩ := decode?_entries.1 ht'
      apply ext_get?
      intro k
      rw [get?_ofList, get?_ofList]
      exact eq_of_alike_parts (hkeys k) (h k) (lastEntry_readEntry hl k) (lastEntry_readEntry hl' k)
  not_lacks {d t} ht h := by
    cases h with
    | entry hx h =>
      obtain ⟨l, hl, -⟩ := decode?_entries.1 ht
      obtain ⟨e', he'⟩ := exists_of_map_eq hl hx
      obtain ⟨a, ha, -⟩ := Option.map_eq_some_iff.1 he'
      exact not_lacks ha h

instance [LawfulCodec α] : LawfulCodec (Table α) where
  decode?_encode t := by
    refine decode?_table.2 ⟨t.entries.map fun e => (e.1, encode e.2), rfl, t.entries, ?_,
      t.ofList_entries⟩
    rw [List.map_map]
    exact List.map_congr_left fun e _ => by simp [readEntry, decode?_encode]
  reads := reads_table

end Bazaar
