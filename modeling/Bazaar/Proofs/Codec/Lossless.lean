import Bazaar.Proofs.Codec.Choice

/-! # Nothing is lost in writing

Values of lawful codecs are read back as they were, and how a tree was written makes no difference
to what is read.
-/

namespace Bazaar

open Format

/-- Writing loses nothing and reading settles how something is written. -/
structure Lossless (α : Type) [Encode α] [Decode α] [HasFormat α] : Prop where
  decode?_encode (a : α) : decode? (encode a) = some a
  /-- What was read and is written again is read as before. -/
  decode?_rewritten {d : Data} {a : α} (h : decode? d = some a) :
    decode? (encode a) = (decode? d : Option α)
  /-- Trees that differ in their writing only are not read as different values. -/
  eq_of_alike {d d' : Data} {a a' : α} (h : (format α).Alike d d') (ha : decode? d = some a)
    (ha' : decode? d' = some a') : a = a'
  /-- A tree without a field that has to be there is not read. -/
  decode?_of_lacks {d : Data} (h : (format α).Lacks d) : (decode? d : Option α) = none

theorem LawfulCodec.lossless {α : Type} [Encode α] [Decode α] [HasFormat α] [LawfulCodec α] :
    Lossless α where
  decode?_encode := decode?_encode
  decode?_rewritten h := (decode?_encode _).trans h.symm
  eq_of_alike := reads.eq_of_alike_plain
  decode?_of_lacks := reads.eq_none_of_lacks

/-- Events, pending trades, recipes, gestures, shops and currencies are written without loss. The
order of fields and of different keys, fields that are not read, and fields that have what stands
for them when they are missing, make no difference to any structure. -/
theorem writing_lossless :
    (Lossless Event ∧ Lossless PendingTrade ∧ Lossless Recipe ∧ Lossless Gesture ∧
      Lossless Shop ∧ Lossless Currency) ∧
    (∀ (fields : List (String × Option Data × Format)) (written : List (String × Data)),
      (∀ written', written.Perm written' →
        (Format.record fields).Alike (.record written) (.record written')) ∧
      (∀ name d, name ∉ names fields →
        (Format.record fields).Alike (.record ((name, d) :: written)) (.record written)) ∧
      ∀ name d f, (names fields).Nodup → (name, some d, f) ∈ fields → name ∉ written.map (·.1) →
        (Format.record fields).Alike (.record ((name, d) :: written)) (.record written)) ∧
    (∀ (tag content : String) (cases : List (String × Format)) (written : List (String × Data)),
      (∀ written', written.Perm written' →
        (Format.tagged tag content cases).Alike (.record written) (.record written')) ∧
      ∀ name d, name ∉ [tag, content] →
        (Format.tagged tag content cases).Alike (.record ((name, d) :: written))
          (.record written)) ∧
    ∀ (f : Format) (written written' : List (String × Data)), written.Perm written' →
      (written.map (·.1)).Nodup → (Format.table f).Alike (.record written) (.record written') := by
  refine ⟨⟨LawfulCodec.lossless, LawfulCodec.lossless, LawfulCodec.lossless, LawfulCodec.lossless,
    LawfulCodec.lossless, LawfulCodec.lossless⟩, ?_, ?_, ?_⟩
  · intro fields written
    refine ⟨?_, ?_, ?_⟩
    · intro written' h
      exact .record_of_perm h
    · intro name d h
      exact .record_of_unread h
    · intro name d f hnodup hmem h
      exact .record_of_default hnodup hmem h
  · intro tag content cases written
    constructor
    · intro written' h
      exact .tagged_of_perm h
    · intro name d h
      exact .tagged_of_unread h
  · intro f written written' h hnodup
    exact .table_of_perm h hnodup

end Bazaar
