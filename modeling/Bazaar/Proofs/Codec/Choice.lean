import Bazaar.Proofs.Codec.Formats

/-! # Formats of events and shops

Both are choices. An event is named for what happened. A shop has its kind in one field and its
offers in another, and offers that come before the kind are read after they were kept; since a kept
tree is read as the tree, the order of the two makes no difference.
-/

namespace Bazaar

open Format LawfulCodec

variable {α : Type}

theorem Reads.choice {cases : List (String × Format)}
    {read : String → (τ : Type) → [Source τ] → τ → Option α}
    (hcase : ∀ (name : String) (f : Format), (name, f) ∈ cases → Reads f (read name))
    (hother : ∀ (name : String) (d : Data), name ∉ names cases → read name Data d = none) :
    Reads (.choice cases) fun τ _ d => (Source.choice? (names cases) d).bind fun c =>
      c.2.bind (read c.1 τ) where
  buffer {d a} ha := by
    obtain ⟨⟨name, content⟩, hchoice, ha⟩ := Option.bind_eq_some_iff.1 ha
    obtain ⟨x, rfl, ha⟩ := Option.bind_eq_some_iff.1 ha
    rw [Data.choice?_buffer, hchoice]
    by_cases hname : name ∈ names cases
    · obtain ⟨⟨_, f⟩, hmem, rfl⟩ := List.mem_map.1 hname
      exact (hcase _ f hmem).buffer ha
    · rw [hother name x hname] at ha
      cases ha
  eq_of_alike {d d' a a'} halike ha ha' := by
    cases halike with
    | refl => exact Option.some.inj (ha.symm.trans ha')
    | choice hname halike =>
      rw [Data.choice?_buffer] at ha ha'
      exact (hcase _ _ hname).eq_of_alike halike ha ha'
  not_lacks {d a} ha hlacks := by
    rw [Data.choice?_buffer] at ha
    cases hlacks with
    | choice hname hlacks => exact (hcase _ _ hname).not_lacks ha hlacks

/-! ## Events -/

namespace Event

def changeFields : List (String × Option Data × Format) :=
  [requiredField "shopkeeper_id" ShopId, requiredField "actor_id" ActorId]

def cases : List (String × Format) :=
  [("Committed", format CommittedTrade), ("Aborted", format AbortedTrade),
    ("RecipesChanged", .record changeFields)]

instance : HasFormat Event := ⟨.choice cases⟩

def readChange {τ : Type} [Source τ] (fs : Fields τ) : Option Event :=
  if fs.positional then none
  else do
    let shop ← fs.required "shopkeeper_id"
    let actor ← fs.required "actor_id"
    return .recipesChanged shop actor

def readCase (name : String) (τ : Type) [Source τ] (d : τ) : Option Event :=
  match name with
  | "Committed" => (decode? d).map .committed
  | "Aborted" => (decode? d).map .aborted
  | "RecipesChanged" => readRecord (names changeFields) readChange d
  | _ => none

theorem decode?_eq (τ : Type) [Source τ] (d : τ) :
    (decode? d : Option Event) =
      (Source.choice? (names cases) d).bind fun c => c.2.bind (readCase c.1 τ) := by
  have hnames : names cases = ["Committed", "Aborted", "RecipesChanged"] := rfl
  rw [hnames]
  simp only [decode?]
  split
  case h_1 x hchoice => rw [hchoice]; rfl
  case h_2 x hchoice => rw [hchoice]; rfl
  case h_3 x hchoice => rw [hchoice]; rfl
  case h_4 hcommitted haborted hchanged =>
    cases hchoice : Source.choice? ["Committed", "Aborted", "RecipesChanged"] d with
    | none => rfl
    | some c =>
      obtain ⟨name, content⟩ := c
      cases content with
      | none => rfl
      | some x =>
        unfold readCase
        dsimp only [Option.bind_some]
        split
        · exact absurd hchoice (hcommitted x)
        · exact absurd hchoice (haborted x)
        · exact absurd hchoice (hchanged x)
        · rfl

theorem follows_readChange : Follows changeFields fun _ _ fs => readChange fs :=
  .named (.cons .required fun _ => .cons .required fun _ => .pure _)

theorem reads_readCase (name : String) (f : Format) (h : (name, f) ∈ cases) :
    Reads f (readCase name) := by
  simp only [cases, List.mem_cons, Prod.mk.injEq, List.not_mem_nil, or_false] at h
  rcases h with ⟨rfl, rfl⟩ | ⟨rfl, rfl⟩ | ⟨rfl, rfl⟩
  · exact reads.map committed
  · exact reads.map aborted
  · exact follows_readChange.readRecord

theorem readCase_eq_none (name : String) (d : Data) (h : name ∉ names cases) :
    readCase name Data d = none := by
  unfold readCase
  split
  case h_4 => rfl
  all_goals exact absurd (by decide) h

instance : LawfulCodec Event where
  decode?_encode e := by
    rw [decode?_eq]
    cases e with
    | committed details =>
      change (decode? (encode details)).map committed = _
      simp
    | aborted details =>
      change (decode? (encode details)).map aborted = _
      simp
    | recipesChanged shop actor =>
      change readChange { entries := _, positional := false } = _
      simp [readChange, Fields.required]
  reads := by
    simp only [decode?_eq]
    exact Reads.choice reads_readCase readCase_eq_none

end Event

/-! ## Shops -/

namespace ShopKind

def offersFormat : ShopKind → Format
  | admin | trading => format (List TradeOffer)
  | selling | buying => format (List PriceOffer)
  | book => format (List BookOffer)

theorem name_inj {k k' : ShopKind} (h : k.name = k'.name) : k = k' := by
  revert h
  cases k <;> cases k' <;> decide

theorem choice?_of_decode? {τ : Type} [Source τ] {d : τ} {k : ShopKind} (h : decode? d = some k) :
    ∃ content, Source.choice? (all.map name) d = some (k.name, content) := by
  simp only [decode?, readName] at h
  split at h
  case h_1 s content hchoice =>
    split at h
    case isTrue =>
      have hname := List.find?_some h
      exact ⟨content, by rw [hchoice, of_decide_eq_true hname]⟩
    case isFalse => cases h
  case h_2 => cases h

end ShopKind

namespace Shop

def cases : List (String × Format) := ShopKind.all.map fun k => (k.name, k.offersFormat)

instance : HasFormat Shop := ⟨.tagged "type" "offers" cases⟩

theorem offersFormat_of_mem {k : ShopKind} {f : Format} (h : (k.name, f) ∈ cases) :
    f = k.offersFormat := by
  obtain ⟨k', -, heq⟩ := List.mem_map.1 h
  obtain ⟨hname, rfl⟩ := Prod.mk.inj heq
  rw [ShopKind.name_inj hname]

theorem reads_decodeOffers? (k : ShopKind) :
    Reads k.offersFormat fun _ _ d => decodeOffers? d k := by
  cases k with
  | admin => exact reads.map admin
  | selling => exact reads.map selling
  | buying => exact reads.map buying
  | trading => exact reads.map trading
  | book => exact reads.map book

def readFields (τ : Type) [Source τ] (fs : Fields τ) : Option Shop := do
  let kind ← fs.required "type"
  let offers ← (← fs.value? "offers")
  if offersFirst fs then decodeOffers? (← Source.buffer? offers) kind
  else decodeOffers? offers kind

theorem readFields_eq_some_iff {τ : Type} [Source τ] {fs : Fields τ} {s : Shop} :
    readFields τ fs = some s ↔ ∃ t d, fs.value? "type" = some (some t) ∧
      fs.value? "offers" = some (some d) ∧ ∃ kind, decode? t = some kind ∧
        (if offersFirst fs then (Source.buffer? d).bind fun d => decodeOffers? d kind
          else decodeOffers? d kind) = some s := by
  simp only [readFields, Option.bind_eq_bind, Option.bind_eq_some_iff, Fields.required_eq_some_iff]
  constructor
  · rintro ⟨kind, ⟨t, ht, hkind⟩, o, ho, d, rfl, hs⟩
    refine ⟨t, d, ht, ho, kind, hkind, ?_⟩
    split at hs
    case isTrue hfirst => rw [if_pos hfirst, hs]
    case isFalse hfirst => rw [if_neg hfirst, hs]
  · rintro ⟨t, d, ht, hd, kind, hkind, hs⟩
    refine ⟨kind, ⟨t, ht, hkind⟩, some d, hd, d, rfl, ?_⟩
    split at hs
    case isTrue hfirst => rw [if_pos hfirst, hs]
    case isFalse hfirst => rw [if_neg hfirst, hs]

/-- A kept shop is read from its kind and its offers in whichever order they come. -/
theorem readFields_buffer {fs : Fields Data} {s : Shop} :
    readFields Buffered fs.buffer = some s ↔ ∃ t d, fs.value? "type" = some (some t) ∧
      fs.value? "offers" = some (some d) ∧ ∃ kind, decode? t.buffer = some kind ∧
        decodeOffers? d.buffer kind = some s := by
  rw [readFields_eq_some_iff]
  constructor
  · rintro ⟨t', d', ht, hd, kind, hkind, hs⟩
    obtain ⟨t, htag, rfl⟩ := Fields.value?_of_buffer ht
    obtain ⟨d, hoffers, rfl⟩ := Fields.value?_of_buffer hd
    refine ⟨t, d, htag, hoffers, kind, hkind, ?_⟩
    split at hs <;> exact hs
  · rintro ⟨t, d, ht, hd, kind, hkind, hs⟩
    refine ⟨t.buffer, d.buffer, by simp [ht], by simp [hd], kind, hkind, ?_⟩
    split <;> exact hs

theorem buffer_readFields {fs : Fields Data} {s : Shop} (h : readFields Data fs = some s) :
    readFields Buffered fs.buffer = some s := by
  obtain ⟨t, d, ht, hd, kind, hkind, hs⟩ := readFields_eq_some_iff.1 h
  refine readFields_buffer.2 ⟨t, d, ht, hd, kind, readName_buffer hkind, ?_⟩
  split at hs
  · exact hs
  · exact (reads_decodeOffers? kind).buffer hs

theorem decodeOffers?_encodeOffers (s : Shop) : decodeOffers? s.encodeOffers s.kind = some s := by
  cases s with
  | admin offers => exact congrArg (Option.map admin) (decode?_encode offers)
  | selling offers => exact congrArg (Option.map selling) (decode?_encode offers)
  | buying offers => exact congrArg (Option.map buying) (decode?_encode offers)
  | trading offers => exact congrArg (Option.map trading) (decode?_encode offers)
  | book offers => exact congrArg (Option.map book) (decode?_encode offers)

theorem decode?_buffer_iff {d : Data} {s : Shop} : decode? d.buffer = some s ↔
    ∃ fs t x, Source.fields? ["type", "offers"] d = some fs ∧ fs.value? "type" = some (some t) ∧
      fs.value? "offers" = some (some x) ∧ ∃ kind, decode? t.buffer = some kind ∧
        decodeOffers? x.buffer kind = some s := by
  change (Source.fields? ["type", "offers"] d.buffer).bind (readFields Buffered) = some s ↔ _
  rw [Data.fields?_buffer]
  cases Source.fields? ["type", "offers"] d with
  | none => simp
  | some fs => simp [readFields_buffer]

theorem mem_cases (k : ShopKind) : (k.name, k.offersFormat) ∈ cases := by
  refine List.mem_map.2 ⟨k, ?_, rfl⟩
  cases k <;> decide

theorem choice?_of_kind {t : Data} {kind : ShopKind} (h : decode? t.buffer = some kind) :
    ∃ rest, Source.choice? (names cases) t = some (kind.name, rest) := by
  obtain ⟨content, hcontent⟩ := ShopKind.choice?_of_decode? h
  rw [Data.choice?_buffer, Option.map_eq_some_iff] at hcontent
  obtain ⟨⟨name, rest⟩, hrest, heq⟩ := hcontent
  cases heq
  exact ⟨rest, hrest⟩

theorem offersFormat_of_tag {t : Data} {name : String} {f : Format} {rest : Option Data}
    {kind : ShopKind} (ht : Source.choice? (names cases) t = some (name, rest))
    (hname : (name, f) ∈ cases) (hkind : decode? t.buffer = some kind) :
    f = kind.offersFormat := by
  obtain ⟨rest', hrest⟩ := choice?_of_kind hkind
  cases ht.symm.trans hrest
  exact offersFormat_of_mem hname

theorem reads_shop : Reads (format Shop) fun _ _ d => (decode? d : Option Shop) where
  buffer {d s} hs := by
    obtain ⟨fs, hfs, hs⟩ := Option.bind_eq_some_iff.1 hs
    refine Option.bind_eq_some_iff.2 ⟨fs.buffer, ?_, buffer_readFields hs⟩
    rw [Data.fields?_buffer, hfs, Option.map_some]
  eq_of_alike {d d' s s'} halike hs hs' := by
    cases halike with
    | refl => exact Option.some.inj (hs.symm.trans hs')
    | tagged hd hd' htag halike =>
      obtain ⟨fs, t, x, hfs, htype, hx, kind, hkind, hs⟩ := decode?_buffer_iff.1 hs
      obtain ⟨fs', t', x', hfs', htype', hx', kind', hkind', hs'⟩ := decode?_buffer_iff.1 hs'
      cases hd.symm.trans hfs
      cases hd'.symm.trans hfs'
      cases htype.symm.trans (htag.trans htype')
      cases hkind.symm.trans hkind'
      obtain ⟨rest, hrest⟩ := choice?_of_kind hkind
      exact (reads_decodeOffers? kind).eq_of_alike
        (halike t x x' _ rest _ htype hrest (mem_cases kind) hx hx') hs hs'
  not_lacks {d s} hs hlacks := by
    obtain ⟨fs, t, x, hfs, htype, hx, kind, hkind, hs⟩ := decode?_buffer_iff.1 hs
    cases hlacks with
    | missingTag hd hnone =>
      cases hd.symm.trans hfs
      cases hnone.symm.trans htype
    | missingContent hd hnone =>
      cases hd.symm.trans hfs
      cases hnone.symm.trans hx
    | content hd htag ht hname hx' hlacks =>
      cases hd.symm.trans hfs
      cases htag.symm.trans htype
      cases hx'.symm.trans hx
      cases offersFormat_of_tag ht hname hkind
      exact (reads_decodeOffers? kind).not_lacks hs hlacks

instance : LawfulCodec Shop where
  decode?_encode s := by
    change readFields Data { entries := _, positional := false } = _
    refine readFields_eq_some_iff.2
      ⟨encode s.kind, s.encodeOffers, by simp, by simp, s.kind, ?_, ?_⟩
    · cases s <;> rfl
    · exact (if_neg (by simp [offersFirst])).trans s.decodeOffers?_encodeOffers
  reads := reads_shop

end Shop

end Bazaar
