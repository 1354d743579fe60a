import Bazaar.Proofs.Codec.Lawful

/-! # Reading structures

A structure is read field by field. Whichever way a field is read, what is read is what the field is
given, so a reader of fields follows the format that lists them.
-/

namespace Bazaar

open LawfulCodec

variable {α β : Type} [Decode β] {name : String} {default : Option Data}
  {fields : List (String × Option Data × Format)}

namespace Format

/-- A field that has to be there. -/
def requiredField (name : String) (α : Type) [HasFormat α] : String × Option Data × Format :=
  (name, none, format α)

/-- A field that may be missing. -/
def defaultField {α : Type} [Encode α] [HasFormat α] (name : String) (a : α) :
    String × Option Data × Format :=
  (name, some (encode a), format α)

/-- A field that may be missing or null. -/
def optionalField (name : String) (α : Type) [HasFormat α] : String × Option Data × Format :=
  (name, some .null, format (Option α))

end Format

/-! ## Fields -/

@[simp] theorem readRecord_record (names : List String) (read : Fields Data → Option α)
    (written : List (String × Data)) :
    readRecord names read (.record written) = read { entries := written, positional := false } :=
  rfl

namespace Fields

variable {τ : Type} [Source τ] {fs : Fields τ} {b b' : β}

theorem required_eq_some_iff : fs.required name = some b ↔
    ∃ d, fs.value? name = some (some d) ∧ decode? d = some b := by
  rw [required]
  split
  case h_1 d hvalue => simp [hvalue]
  case h_2 hvalue =>
    constructor
    · rintro ⟨⟩
    · rintro ⟨d, hd, -⟩
      exact absurd hd (hvalue d)

theorem withDefault_eq_some_iff : fs.withDefault name b = some b' ↔
    (fs.value? name = some none ∧ b = b') ∨
      ∃ d, fs.value? name = some (some d) ∧ decode? d = some b' := by
  rw [withDefault]
  split
  case h_1 d hvalue => simp [hvalue]
  case h_2 hvalue => simp [hvalue]
  case h_3 hvalue => simp [hvalue]

theorem value?_of_buffer {fs : Fields Data} {x : Buffered}
    (h : fs.buffer.value? name = some (some x)) :
    ∃ d, fs.value? name = some (some d) ∧ d.buffer = x := by
  rw [value?_buffer, Option.map_eq_some_iff] at h
  obtain ⟨o, ho, hx⟩ := h
  obtain ⟨d, rfl, hd⟩ := Option.map_eq_some_iff.1 hx
  exact ⟨d, ho, hd⟩

theorem missing_of_buffer {fs : Fields Data} (h : fs.buffer.value? name = some none) :
    fs.value? name = some none := by
  rw [value?_buffer, Option.map_eq_some_iff] at h
  obtain ⟨o, ho, hnone⟩ := h
  rw [ho, Option.map_eq_none_iff.1 hnone]

theorem given_of_value {fs : Fields Data} {d : Data} (h : fs.value? name = some (some d)) :
    fs.given name default = some d := by
  rw [given, h]
  rfl

end Fields

variable [Encode β] [HasFormat β]

/-- A reader reads what a field is given. -/
structure ReadsField (name : String) (default : Option Data)
    (read : (τ : Type) → [Source τ] → Fields τ → Option β) : Prop where
  buffer {fs : Fields Data} {b : β} (h : read Data fs = some b) :
    read Buffered fs.buffer = some b
  given {fs : Fields Data} {b : β} (h : read Buffered fs.buffer = some b) :
    ∃ d, fs.given name default = some d ∧ decode? d.buffer = some b

namespace ReadsField

theorem required [LawfulCodec β] :
    ReadsField name none fun _ _ fs => (fs.required name : Option β) where
  buffer {fs b} h := by
    obtain ⟨d, hd, hb⟩ := Fields.required_eq_some_iff.1 h
    exact Fields.required_eq_some_iff.2 ⟨d.buffer, by simp [hd], decode?_buffer hb⟩
  given {fs b} h := by
    obtain ⟨x, hx, hb⟩ := Fields.required_eq_some_iff.1 h
    obtain ⟨d, hd, rfl⟩ := Fields.value?_of_buffer hx
    exact ⟨d, Fields.given_of_value hd, hb⟩

theorem withDefault [LawfulCodec β] (b : β) :
    ReadsField name (some (encode b)) fun _ _ fs => fs.withDefault name b where
  buffer {fs b'} h := by
    refine Fields.withDefault_eq_some_iff.2 ?_
    rcases Fields.withDefault_eq_some_iff.1 h with ⟨hnone, rfl⟩ | ⟨d, hd, hb⟩
    · exact .inl ⟨by simp [hnone], rfl⟩
    · exact .inr ⟨d.buffer, by simp [hd], decode?_buffer hb⟩
  given {fs b'} h := by
    rcases Fields.withDefault_eq_some_iff.1 h with ⟨hnone, rfl⟩ | ⟨x, hx, hb⟩
    · refine ⟨encode b, ?_, decode?_buffer (decode?_encode b)⟩
      rw [Fields.given, Fields.missing_of_buffer hnone]
      rfl
    · obtain ⟨d, hd, rfl⟩ := Fields.value?_of_buffer hx
      exact ⟨d, Fields.given_of_value hd, hb⟩

theorem optional [LawfulCodec β] [NeverNull β] :
    ReadsField name (some .null) fun _ _ fs => (fs.optional name : Option (Option β)) :=
  withDefault none

/-- Where fields have names, a field that is missing has null. -/
theorem nullable [LawfulCodec β] [NeverNull β] :
    ReadsField name (some .null) fun _ _ fs => (fs.nullable name : Option (Option β)) where
  buffer {fs b} h := by
    rw [Fields.nullable] at h ⊢
    rw [Fields.positional_buffer]
    split at h
    case isTrue hpos => rw [if_pos hpos, required.buffer h]
    case isFalse hpos => rw [if_neg hpos, optional.buffer h]
  given {fs b} h := by
    rw [Fields.nullable, Fields.positional_buffer] at h
    split at h
    case isTrue =>
      obtain ⟨d, hd, hb⟩ := required.given h
      refine ⟨d, ?_, hb⟩
      rw [Fields.given] at hd ⊢
      obtain ⟨o, ho, hd⟩ := Option.bind_eq_some_iff.1 hd
      rw [Option.or_none] at hd
      rw [ho, hd]
      rfl
    case isFalse => exact optional.given h

end ReadsField

/-! ## Structures -/

/-- A reader of a structure reads fields of the given names, defaults and formats. -/
structure Follows (fields : List (String × Option Data × Format))
    (read : (τ : Type) → [Source τ] → Fields τ → Option α) : Prop where
  buffer {fs : Fields Data} {a : α} (h : read Data fs = some a) : read Buffered fs.buffer = some a
  eq_of_alike {fs fs' : Fields Data} {a a' : α}
    (h : ∀ (name : String) (default : Option Data) (f : Format) (x x' : Data),
      (name, default, f) ∈ fields → fs.given name default = some x →
      fs'.given name default = some x' → f.Alike x x')
    (ha : read Buffered fs.buffer = some a) (ha' : read Buffered fs'.buffer = some a') : a = a'
  /-- Every field of a structure that is read is given something, which lacks nothing. -/
  given {fs : Fields Data} {a : α} {name : String} {default : Option Data} {f : Format}
    (h : read Buffered fs.buffer = some a) (hname : (name, default, f) ∈ fields) :
    ∃ d, fs.given name default = some d ∧ ¬f.Lacks d

namespace Follows

theorem pure (a : α) : Follows [] fun _ _ _ => some a where
  buffer h := h
  eq_of_alike _ ha ha' := Option.some.inj (ha.symm.trans ha')
  given _ hname := by cases hname

theorem cons [LawfulCodec β] {read : (τ : Type) → [Source τ] → Fields τ → Option β}
    {next : β → (τ : Type) → [Source τ] → Fields τ → Option α}
    (h : ReadsField name default read) (hnext : ∀ b, Follows fields (next b)) :
    Follows ((name, default, format β) :: fields) fun τ _ fs =>
      read τ fs >>= fun b => next b τ fs where
  buffer {fs a} ha := by
    obtain ⟨b, hb, ha⟩ := Option.bind_eq_some_iff.1 ha
    exact Option.bind_eq_some_iff.2 ⟨b, h.buffer hb, (hnext b).buffer ha⟩
  eq_of_alike {fs fs' a a'} halike ha ha' := by
    obtain ⟨b, hb, ha⟩ := Option.bind_eq_some_iff.1 ha
    obtain ⟨b', hb', ha'⟩ := Option.bind_eq_some_iff.1 ha'
    obtain ⟨d, hd, hread⟩ := h.given hb
    obtain ⟨d', hd', hread'⟩ := h.given hb'
    obtain rfl : b = b' :=
      LawfulCodec.eq_of_alike (halike _ _ _ d d' List.mem_cons_self hd hd') hread hread'
    exact (hnext b).eq_of_alike
      (fun n o f x x' hmem => halike n o f x x' (List.mem_cons_of_mem _ hmem)) ha ha'
  given {fs a n o f} ha hname := by
    obtain ⟨b, hb, ha⟩ := Option.bind_eq_some_iff.1 ha
    rcases List.mem_cons.1 hname with heq | hmem
    · cases heq
      obtain ⟨d, hd, hread⟩ := h.given hb
      exact ⟨d, hd, not_lacks hread⟩
    · exact (hnext b).given ha hmem

theorem named {read : (τ : Type) → [Source τ] → Fields τ → Option α} (h : Follows fields read) :
    Follows fields fun τ _ fs => if fs.positional then none else read τ fs where
  buffer {fs a} ha := by
    rw [Fields.positional_buffer]
    split at ha
    case isTrue => cases ha
    case isFalse hpos => rw [if_neg hpos, h.buffer ha]
  eq_of_alike {fs fs' a a'} halike ha ha' := by
    split at ha
    case isTrue => cases ha
    split at ha'
    case isTrue => cases ha'
    exact h.eq_of_alike halike ha ha'
  given ha hname := by
    split at ha
    case isTrue => cases ha
    exact h.given ha hname

theorem readRecord {read : (τ : Type) → [Source τ] → Fields τ → Option α}
    (h : Follows fields read) :
    Reads (.record fields) fun τ _ d => Bazaar.readRecord (Format.names fields) (read τ) d where
  buffer {d a} ha := by
    obtain ⟨fs, hfs, ha⟩ := Option.bind_eq_some_iff.1 ha
    rw [Bazaar.readRecord, Data.fields?_buffer, hfs]
    exact h.buffer ha
  eq_of_alike {d d' a a'} halike ha ha' := by
    rw [Bazaar.readRecord, Data.fields?_buffer] at ha ha'
    cases halike with
    | refl => exact Option.some.inj (ha.symm.trans ha')
    | record hd hd' halike =>
      rw [hd] at ha
      rw [hd'] at ha'
      exact h.eq_of_alike halike ha ha'
  not_lacks {d a} ha hlacks := by
    rw [Bazaar.readRecord, Data.fields?_buffer] at ha
    cases hlacks with
    | missing hd hname hvalue =>
      rw [hd] at ha
      obtain ⟨x, hx, -⟩ := h.given ha hname
      rw [Fields.given, hvalue] at hx
      cases hx
    | field hd hname hvalue hlacks =>
      rw [hd] at ha
      obtain ⟨x, hx, hnot⟩ := h.given ha hname
      cases (Fields.given_of_value hvalue).symm.trans hx
      exact hnot hlacks

end Follows

end Bazaar
