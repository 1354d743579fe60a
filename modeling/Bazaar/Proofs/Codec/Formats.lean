import Bazaar.Proofs.Codec.Structure

/-! # Formats of items, trades and shops

Each format lists the fields of a type as they are read: those that have to be there, and the others
with their defaults. What is written has all of them.
-/

namespace Bazaar

open Format

/-! ## Items and recipes -/

instance : HasFormat Book :=
  ⟨.record [optionalField "title" String, optionalField "author" String,
    defaultField "generation" Generation.original]⟩

instance : HasFormat Metadata :=
  ⟨.record [optionalField "display_name" String, defaultField "lore" ([] : List String),
    defaultField "enchantments" (∅ : Table Amount), optionalField "book" Book,
    defaultField "custom" (∅ : Table String)]⟩

instance : HasFormat Stack :=
  ⟨.record [requiredField "item_type" String, defaultField "meta" ({} : Metadata),
    requiredField "amount" Amount, defaultField "max_stack_size" (64 : Amount)]⟩

instance : HasFormat Recipe :=
  ⟨.record [requiredField "item1" Stack, optionalField "item2" Stack, requiredField "result" Stack,
    defaultField "out_of_stock" false]⟩

instance : NeverNull Book := ⟨rfl⟩
instance : NeverNull Stack := ⟨rfl⟩

instance : LawfulCodec Book where
  decode?_encode b := by
    change readRecord _ _ (Data.record _) = _
    simp [Fields.optional, Fields.withDefault]
  reads := Follows.readRecord
    (.cons .optional fun _ => .cons .optional fun _ => .cons (.withDefault _) fun _ => .pure _)

instance : LawfulCodec Metadata where
  decode?_encode m := by
    change readRecord _ _ (Data.record _) = _
    simp [Fields.optional, Fields.withDefault]
  reads := Follows.readRecord
    (.cons .optional fun _ => .cons (.withDefault _) fun _ => .cons (.withDefault _) fun _ =>
      .cons .optional fun _ => .cons (.withDefault _) fun _ => .pure _)

instance : LawfulCodec Stack where
  decode?_encode s := by
    change readRecord _ _ (Data.record _) = _
    simp [Fields.required, Fields.withDefault]
  reads := Follows.readRecord
    (.cons .required fun _ => .cons (.withDefault _) fun _ => .cons .required fun _ =>
      .cons (.withDefault _) fun _ => .pure _)

instance : LawfulCodec Recipe where
  decode?_encode r := by
    change readRecord _ _ (Data.record _) = _
    simp [Fields.required, Fields.optional, Fields.withDefault]
  reads := Follows.readRecord
    (.cons .required fun _ => .cons .optional fun _ => .cons .required fun _ =>
      .cons (.withDefault _) fun _ => .pure _)

/-! ## Gestures and trades -/

instance : HasFormat Gesture :=
  ⟨.record [requiredField "slot" Int32, requiredField "kind" GestureKind,
    requiredField "timestamp_ms" UInt64, optionalField "hotbar_button" UInt8]⟩

instance : HasFormat Actor :=
  ⟨.record [requiredField "id" ActorId, requiredField "name" String,
    defaultField "can_bypass" false]⟩

instance : HasFormat PendingTrade :=
  ⟨.record [requiredField "trade_id" TradeId, requiredField "shopkeeper_id" ShopId,
    requiredField "actor" Actor, requiredField "recipe" Recipe, requiredField "offered1" Stack,
    optionalField "offered2" Stack, requiredField "swapped" Bool]⟩

instance : HasFormat CommittedTrade :=
  ⟨.record [requiredField "trade_id" TradeId, requiredField "shopkeeper_id" ShopId,
    requiredField "actor_id" ActorId, requiredField "recipe" Recipe, requiredField "paid1" Stack,
    optionalField "paid2" Stack, requiredField "swapped" Bool, requiredField "trade_index" Amount]⟩

instance : HasFormat AbortedTrade :=
  ⟨.record [optionalField "trade_id" TradeId, requiredField "shopkeeper_id" ShopId,
    requiredField "actor_id" ActorId, requiredField "reason" AbortReason]⟩

instance : LawfulCodec Gesture where
  decode?_encode g := by
    change readRecord _ _ (Data.record _) = _
    simp [Fields.required, Fields.optional, Fields.withDefault]
  reads := Follows.readRecord
    (.cons .required fun _ => .cons .required fun _ => .cons .required fun _ =>
      .cons .optional fun _ => .pure _)

instance : LawfulCodec Actor where
  decode?_encode a := by
    change readRecord _ _ (Data.record _) = _
    simp [Fields.required, Fields.withDefault]
  reads := Follows.readRecord
    (.cons .required fun _ => .cons .required fun _ => .cons (.withDefault _) fun _ => .pure _)

instance : LawfulCodec PendingTrade where
  decode?_encode t := by
    change readRecord _ _ (Data.record _) = _
    simp [Fields.required, Fields.nullable, Fields.optional, Fields.withDefault]
  reads := Follows.readRecord
    (.cons .required fun _ => .cons .required fun _ => .cons .required fun _ =>
      .cons .required fun _ => .cons .required fun _ => .cons .nullable fun _ =>
      .cons .required fun _ => .pure _)

instance : LawfulCodec CommittedTrade where
  decode?_encode t := by
    change readRecord _ _ (Data.record _) = _
    simp [Fields.required, Fields.nullable, Fields.optional, Fields.withDefault]
  reads := Follows.readRecord
    (.cons .required fun _ => .cons .required fun _ => .cons .required fun _ =>
      .cons .required fun _ => .cons .required fun _ => .cons .nullable fun _ =>
      .cons .required fun _ => .cons .required fun _ => .pure _)

instance : LawfulCodec AbortedTrade where
  decode?_encode t := by
    change readRecord _ _ (Data.record _) = _
    simp [Fields.required, Fields.nullable, Fields.optional, Fields.withDefault]
  reads := Follows.readRecord
    (.cons .nullable fun _ => .cons .required fun _ => .cons .required fun _ =>
      .cons .required fun _ => .pure _)

/-! ## Offers and currency -/

instance : HasFormat PriceOffer :=
  ⟨.record [requiredField "item" Stack, requiredField "price" Amount]⟩

instance : HasFormat BookOffer :=
  ⟨.record [requiredField "title" String, requiredField "price" Amount]⟩

instance : HasFormat TradeOffer :=
  ⟨.record [requiredField "result" Stack, requiredField "item1" Stack,
    optionalField "item2" Stack]⟩

instance : HasFormat HighCurrency :=
  ⟨.record [requiredField "item" Stack, requiredField "value" Amount,
    requiredField "min_cost" Amount]⟩

instance : HasFormat Currency :=
  ⟨.record [requiredField "item" Stack, optionalField "high" HighCurrency]⟩

instance : NeverNull HighCurrency := ⟨rfl⟩

instance : LawfulCodec PriceOffer where
  decode?_encode o := by
    change readRecord _ _ (Data.record _) = _
    simp [Fields.required]
  reads := Follows.readRecord
    (.cons .required fun _ => .cons .required fun _ => .pure _)

instance : LawfulCodec BookOffer where
  decode?_encode o := by
    change readRecord _ _ (Data.record _) = _
    simp [Fields.required]
  reads := Follows.readRecord
    (.cons .required fun _ => .cons .required fun _ => .pure _)

instance : LawfulCodec TradeOffer where
  decode?_encode o := by
    change readRecord _ _ (Data.record _) = _
    simp [Fields.required, Fields.optional, Fields.withDefault]
  reads := Follows.readRecord
    (.cons .required fun _ => .cons .required fun _ => .cons .optional fun _ => .pure _)

instance : LawfulCodec HighCurrency where
  decode?_encode h := by
    change readRecord _ _ (Data.record _) = _
    simp [Fields.required]
  reads := Follows.readRecord
    (.cons .required fun _ => .cons .required fun _ => .cons .required fun _ => .pure _)

instance : LawfulCodec Currency where
  decode?_encode c := by
    change readRecord _ _ (Data.record _) = _
    simp [Fields.required, Fields.nullable, Fields.optional, Fields.withDefault]
  reads := Follows.readRecord
    (.cons .required fun _ => .cons .nullable fun _ => .pure _)

end Bazaar
