import Bazaar.Proofs.Slots.Settled
import Bazaar.Proofs.Table
import Bazaar.Session.Progress

/-! # Offers that pay for a recipe

Covering is a preorder on metadata, so what pays under strict comparison pays under lenient
comparison, and a better offer pays for whatever the old one paid for. The two offered slots play
the same part: the order in which they are filled decides at most which order matches.
-/

namespace Bazaar

variable {b b' b'' : Book} {m m' m'' : Metadata} {κ κ' κ'' : Kind} {c : Comparison}
  {slot slot' required : Option Stack} {r : Recipe} {o o' : Offered} {order : Order}

/-! ## Metadata -/

theorem Book.covers_iff : b.covers b' = true ↔
    (∀ title, b'.title = some title → b.title = some title) ∧ b.generation = b'.generation := by
  rw [covers, Bool.and_eq_true]
  refine and_congr ?_ ?_
  · cases b'.title <;> simp [eq_comm (a := b.title)]
  · rw [decide_eq_true_eq, eq_comm]

theorem Metadata.covers_iff : m.covers m' = true ↔
    (∀ name, m'.displayName = some name → m.displayName = some name) ∧
    (∀ name level, m'.enchantments.get? name = some level →
      m.enchantments.get? name = some level) ∧
    ∀ b', m'.book = some b' → ∃ b, m.book = some b ∧ b.covers b' = true := by
  rw [covers, Bool.and_eq_true, Bool.and_eq_true, Table.all_eq_true, and_assoc]
  refine and_congr ?_ (and_congr ?_ ?_)
  · cases m'.displayName <;> simp
  · simp only [decide_eq_true_eq]
  · cases m'.book <;> cases m.book <;> simp

theorem Book.covers_refl (b : Book) : b.covers b = true :=
  covers_iff.2 ⟨fun _ h => h, rfl⟩

theorem Book.covers_trans (h : b.covers b' = true) (h' : b'.covers b'' = true) :
    b.covers b'' = true := by
  rw [covers_iff] at h h' ⊢
  exact ⟨fun title ht => h.1 title (h'.1 title ht), h.2.trans h'.2⟩

theorem Metadata.covers_refl (m : Metadata) : m.covers m = true :=
  covers_iff.2 ⟨fun _ h => h, fun _ _ h => h, fun b h => ⟨b, h, b.covers_refl⟩⟩

theorem Metadata.covers_trans (h : m.covers m' = true) (h' : m'.covers m'' = true) :
    m.covers m'' = true := by
  rw [covers_iff] at h h' ⊢
  obtain ⟨hname, henchantments, hbook⟩ := h
  obtain ⟨hname', henchantments', hbook'⟩ := h'
  refine ⟨fun name hn => hname name (hname' name hn),
    fun name level hl => henchantments name level (henchantments' name level hl), ?_⟩
  intro b'' hb''
  obtain ⟨b', hb', hcovers'⟩ := hbook' b'' hb''
  obtain ⟨b, hb, hcovers⟩ := hbook b' hb'
  exact ⟨b, hb, Book.covers_trans hcovers hcovers'⟩

/-! ## Kinds -/

theorem Kind.satisfies_lenient_iff : κ.satisfies κ' .lenient = true ↔
    κ.item = κ'.item ∧ κ.data.covers κ'.data = true := by
  simp [satisfies]

theorem Kind.satisfies_refl (κ : Kind) (c : Comparison) : κ.satisfies κ c = true := by
  cases c with
  | strict => simp [satisfies]
  | lenient => exact satisfies_lenient_iff.2 ⟨rfl, κ.data.covers_refl⟩

theorem Kind.satisfies_lenient (h : κ.satisfies κ' c = true) :
    κ.satisfies κ' .lenient = true := by
  cases c with
  | strict =>
    obtain rfl : κ = κ' := by simpa [satisfies] using h
    exact κ.satisfies_refl .lenient
  | lenient => exact h

theorem Kind.satisfies_trans (h : κ.satisfies κ' .lenient = true)
    (h' : κ'.satisfies κ'' .lenient = true) : κ.satisfies κ'' .lenient = true := by
  rw [satisfies_lenient_iff] at h h' ⊢
  exact ⟨h.1.trans h'.1, Metadata.covers_trans h.2 h'.2⟩

theorem item_eq_of_satisfies (h : κ.satisfies κ' c = true) : κ.item = κ'.item :=
  (Kind.satisfies_lenient_iff.1 (Kind.satisfies_lenient h)).1

/-! ## Slots -/

theorem pays_iff : pays c slot required = true ↔
    nonEmpty? slot = none ∧ nonEmpty? required = none ∨
      ∃ s r, nonEmpty? slot = some s ∧ nonEmpty? required = some r ∧ r.amount ≤ s.amount ∧
        s.kind.satisfies r.kind c = true := by
  unfold pays
  cases nonEmpty? slot <;> cases nonEmpty? required <;> simp

theorem amountIn_eq_zero_iff_of_pays (h : pays c slot required = true) :
    (amountIn slot).val = 0 ↔ (amountIn required).val = 0 := by
  rw [← nonEmpty?_eq_none_iff, ← nonEmpty?_eq_none_iff]
  rcases pays_iff.1 h with ⟨hs, hr⟩ | ⟨s, r, hs, hr, -⟩
  · simp [hs, hr]
  · simp [hs, hr]

theorem item_eq_of_pays {s r : Stack} (h : pays c (some s) (some r) = true) :
    r.amount = 0 ∨ s.kind.item = r.kind.item := by
  rcases pays_iff.1 h with ⟨-, hr⟩ | ⟨s', r', hs, hr, -, hkind⟩
  · exact Or.inl (Amount.val_eq_zero_iff.1 (nonEmpty?_eq_none_iff.1 hr))
  · obtain rfl := Option.some.inj (nonEmpty?_eq_some_iff.1 hs).1
    obtain rfl := Option.some.inj (nonEmpty?_eq_some_iff.1 hr).1
    exact Or.inr (item_eq_of_satisfies hkind)

theorem pays_lenient (h : pays c slot required = true) : pays .lenient slot required = true := by
  rcases pays_iff.1 h with hnone | ⟨s, r, hs, hr, hle, hkind⟩
  · exact pays_iff.2 (Or.inl hnone)
  · exact pays_iff.2 (Or.inr ⟨s, r, hs, hr, hle, Kind.satisfies_lenient hkind⟩)

/-- A slot keeps what it holds, or a stack in it gives way to one of the same item type that is at
least as large and whose metadata covers that of the old one. -/
inductive Upgraded : Option Stack → Option Stack → Prop
  | same (slot : Option Stack) : Upgraded slot slot
  | better {s s' : Stack} (items : s.isEmpty = false) (item : s'.kind.item = s.kind.item)
      (amount : s.amount ≤ s'.amount) (data : s'.kind.data.covers s.kind.data = true) :
      Upgraded (some s) (some s')

theorem Upgraded.pays (h : Upgraded slot slot') (hp : pays .lenient slot required = true) :
    pays .lenient slot' required = true := by
  cases h with
  | same => exact hp
  | @better s s' items item amount data =>
    have hitems : s'.isEmpty = false := by
      rw [Stack.isEmpty_eq_false_iff] at items ⊢
      exact Nat.lt_of_lt_of_le items amount
    rcases pays_iff.1 hp with ⟨hnone, -⟩ | ⟨t, r, ht, hr, hle, hkind⟩
    · rw [nonEmpty?_of_not_isEmpty items] at hnone
      cases hnone
    · rw [nonEmpty?_of_not_isEmpty items] at ht
      obtain rfl := Option.some.inj ht
      exact pays_iff.2 (Or.inr ⟨s', r, nonEmpty?_of_not_isEmpty hitems, hr,
        Nat.le_trans hle amount,
        Kind.satisfies_trans (Kind.satisfies_lenient_iff.2 ⟨item, data⟩) hkind⟩)

/-! ## Recipes -/

def Offered.exchanged (o : Offered) : Offered := { slot1 := o.slot2, slot2 := o.slot1 }

structure Offered.Upgraded (o o' : Offered) : Prop where
  slot1 : Bazaar.Upgraded o.slot1 o'.slot1
  slot2 : Bazaar.Upgraded o.slot2 o'.slot2

namespace Recipe

theorem paidBy_exchanged_asIs : r.paidBy o.exchanged c .asIs = r.paidBy o c .swapped :=
  Bool.and_comm _ _

theorem paidBy_exchanged_swapped : r.paidBy o.exchanged c .swapped = r.paidBy o c .asIs :=
  Bool.and_comm _ _

theorem paidBy_iff : r.paidBy o c order = true ↔
    pays c (o.arrange order).1 (some r.first) = true ∧
      pays c (o.arrange order).2 r.second = true := by
  rw [paidBy_eq_pays_arrange, Bool.and_eq_true]

theorem isSome_match?_iff : (r.match? o c).isSome = true ↔
    r.isValid = true ∧ (r.paidBy o c .asIs = true ∨ r.paidBy o c .swapped = true) := by
  unfold match?
  cases r.isValid <;> cases r.paidBy o c .asIs <;> cases r.paidBy o c .swapped <;> simp

theorem match?_eq_asIs_iff :
    r.match? o c = some .asIs ↔ r.isValid = true ∧ r.paidBy o c .asIs = true := by
  unfold match?
  cases r.isValid <;> cases r.paidBy o c .asIs <;> cases r.paidBy o c .swapped <;> simp

theorem isValid_of_match? (h : r.match? o c = some order) : r.isValid = true :=
  (isSome_match?_iff.1 (Option.isSome_of_eq_some h)).1

theorem paidBy_of_match? (h : r.match? o c = some order) : r.paidBy o c order = true :=
  (match?_eq_some h).2

theorem paidBy_lenient (h : r.paidBy o c order = true) : r.paidBy o .lenient order = true := by
  rw [paidBy_iff] at h ⊢
  exact ⟨pays_lenient h.1, pays_lenient h.2⟩

theorem isSome_match?_exchanged :
    (r.match? o.exchanged c).isSome = true ↔ (r.match? o c).isSome = true := by
  rw [isSome_match?_iff, isSome_match?_iff, paidBy_exchanged_asIs, paidBy_exchanged_swapped,
    or_comm]

theorem match?_exchanged_of_swapped (h : r.match? o c = some .swapped) :
    r.match? o.exchanged c = some .asIs := by
  have hpaid := paidBy_of_match? h
  rw [← paidBy_exchanged_asIs] at hpaid
  exact match?_eq_asIs_iff.2 ⟨isValid_of_match? h, hpaid⟩

theorem isSome_match?_lenient (h : (r.match? o c).isSome = true) :
    (r.match? o .lenient).isSome = true := by
  obtain ⟨hvalid, hpaid⟩ := isSome_match?_iff.1 h
  exact isSome_match?_iff.2 ⟨hvalid, hpaid.imp paidBy_lenient paidBy_lenient⟩

theorem match?_lenient_of_asIs (h : r.match? o c = some .asIs) :
    r.match? o .lenient = some .asIs :=
  match?_eq_asIs_iff.2 ⟨isValid_of_match? h, paidBy_lenient (paidBy_of_match? h)⟩

theorem paidBy_upgraded (ho : o.Upgraded o') (h : r.paidBy o .lenient order = true) :
    r.paidBy o' .lenient order = true := by
  rw [paidBy_iff] at h ⊢
  cases order with
  | asIs => exact ⟨ho.slot1.pays h.1, ho.slot2.pays h.2⟩
  | swapped => exact ⟨ho.slot2.pays h.1, ho.slot1.pays h.2⟩

theorem isSome_match?_upgraded (ho : o.Upgraded o') (h : (r.match? o .lenient).isSome = true) :
    (r.match? o' .lenient).isSome = true := by
  obtain ⟨hvalid, hpaid⟩ := isSome_match?_iff.1 h
  exact isSome_match?_iff.2 ⟨hvalid, hpaid.imp (paidBy_upgraded ho) (paidBy_upgraded ho)⟩

/-- Two stacks in the order of the requirements are large enough for them: the first one has items,
and the second one is missing or empty exactly if the second requirement is. -/
structure MetBy (r : Recipe) (first : Stack) (second : Option Stack) : Prop where
  items : first.isEmpty = false
  first_le : r.first.amount ≤ first.amount
  second_le : r.secondAmount ≤ amountIn second
  missing : nonEmpty? second = none ↔ nonEmpty? r.second = none

theorem exists_metBy (h : r.match? o c = some order) :
    ∃ first second, o.arrange order = (some first, second) ∧ r.MetBy first second := by
  have hfirst : 0 < r.first.amount.val := Stack.isEmpty_eq_false_iff.1 (match?_eq_some h).1
  obtain ⟨hp1, hp2⟩ := paidBy_iff.1 (paidBy_of_match? h)
  have hle := amountIn_le_of_pays hp1
  rcases harrange : o.arrange order with ⟨slot, second⟩
  rw [harrange] at hp2 hle
  cases slot with
  | none =>
    simp only [amountIn_some, amountIn_none, Amount.val_zero] at hle
    omega
  | some first =>
    refine ⟨first, second, rfl, ?_, hle, amountIn_le_of_pays hp2, ?_⟩
    · exact Stack.isEmpty_eq_false_iff.2 (Nat.lt_of_lt_of_le hfirst hle)
    · rw [nonEmpty?_eq_none_iff, nonEmpty?_eq_none_iff]
      exact amountIn_eq_zero_iff_of_pays hp2

/-- Which of the offered slots a stack is in does not matter for a match, apart from the order that
is found. A match under strict comparison is one under lenient comparison, in the given order if it
was found in that. Under lenient comparison better stacks keep a match. The stacks of a match, put
in the order of the requirements, are large enough for them. -/
theorem matching_symmetric_and_monotone (r : Recipe) (o : Offered) :
    (∀ c, ((r.match? o c).isSome = true ↔ (r.match? o.exchanged c).isSome = true) ∧
      (r.match? o c = some .swapped → r.match? o.exchanged c = some .asIs)) ∧
    ((r.match? o .strict).isSome = true → (r.match? o .lenient).isSome = true) ∧
    (r.match? o .strict = some .asIs → r.match? o .lenient = some .asIs) ∧
    (∀ o', o.Upgraded o' → (r.match? o .lenient).isSome = true →
      (r.match? o' .lenient).isSome = true) ∧
    ∀ c order, r.match? o c = some order →
      ∃ first second, o.arrange order = (some first, second) ∧ r.MetBy first second :=
  ⟨fun _ => ⟨isSome_match?_exchanged.symm, match?_exchanged_of_swapped⟩, isSome_match?_lenient,
    match?_lenient_of_asIs, fun _ => isSome_match?_upgraded, fun _ _ => exists_metBy⟩

def enchantedBook (name : Option String) (amount : Amount) : Stack where
  kind :=
    { item := "enchanted_book"
      data := { displayName := name, enchantments := .ofList [("mending", 1)] } }
  amount

def bookRecipe : Recipe where
  first := .plain "emerald" 3
  second := some (enchantedBook none 1)
  result := enchantedBook none 2

def namedOffer : Offered where
  slot1 := some (enchantedBook (some "Heirloom") 1)
  slot2 := some (.plain "emerald" 3)

def betterOffer : Offered := { namedOffer with slot1 := some (enchantedBook (some "Heirloom") 4) }

def exactOffer : Offered where
  slot1 := some (.plain "emerald" 5)
  slot2 := some (enchantedBook none 1)

/-- The named book pays under lenient comparison only, the exact one under both. -/
theorem matching_symmetric_and_monotone_books :
    bookRecipe.match? namedOffer .strict = none ∧
    bookRecipe.match? namedOffer.exchanged .lenient = some .asIs ∧
    (bookRecipe.match? betterOffer .lenient).isSome = true ∧
    bookRecipe.match? exactOffer .lenient = some .asIs ∧
    ∃ first second, namedOffer.arrange .swapped = (some first, second) ∧
      bookRecipe.MetBy first second := by
  have hnamed : bookRecipe.match? namedOffer .lenient = some .swapped := by decide
  have hexact : bookRecipe.match? exactOffer .strict = some .asIs := by decide
  have hbetter : namedOffer.Upgraded betterOffer :=
    ⟨.better (by decide) rfl (by decide) (by decide), .same _⟩
  obtain ⟨horder, -, -, hupgrade, hmet⟩ := matching_symmetric_and_monotone bookRecipe namedOffer
  obtain ⟨-, -, hlenient, -⟩ := matching_symmetric_and_monotone bookRecipe exactOffer
  exact ⟨by decide, (horder .lenient).2 hnamed, hupgrade _ hbetter (by rw [hnamed]; rfl),
    hlenient hexact, hmet .lenient .swapped hnamed⟩

end Recipe

end Bazaar
