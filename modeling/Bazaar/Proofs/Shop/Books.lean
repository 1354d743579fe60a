import Bazaar.Proofs.Shop.Price
import Bazaar.Proofs.Slots.Picked
import Bazaar.Trade

/-! # Books on the shelf

A book shop copies written books that its container holds. A sale uses up one blank book and puts
currency in; it leaves the slots with written books alone, so that what was on the shelf when a
recipe was displayed is still there when a copy is sold.
-/

namespace Bazaar

open Slots

variable {copy : Stack} {n price : Amount} {c : Currency} {q : Pick} {settings : Settings}
  {offers : List BookOffer} {r : Recipe} {d : Deal} {slots mid after : Slots}
  {ds ds' : List CommittedTrade}

/-! ## Copies -/

theorem Generation.eq_of_copy? {g g' next : Generation} (h : g.copy? = some next)
    (h' : g'.copy? = some next) : g = g' := by
  cases g <;> cases h <;> cases g' <;> cases h' <;> rfl

/-- A stack holds written books that are one copy step away from those of another stack. -/
structure Stack.IsCopyOf (copy s : Stack) : Prop where
  original : s.kind.item = writtenBook
  written : copy.kind.item = writtenBook
  copied : ∃ b b', s.kind.data.book = some b ∧ copy.kind.data.book = some b' ∧
    b'.title = b.title ∧ b'.author = b.author ∧ b.generation.copy? = some b'.generation

def Slots.HasSource (slots : Slots) (copy : Stack) : Prop :=
  ∃ s, some s ∈ slots ∧ s.isEmpty = false ∧ copy.IsCopyOf s

theorem Slots.HasSource.of_only_eq (h : slots.HasSource copy)
    (heq : after.only (ofItem writtenBook) = slots.only (ofItem writtenBook)) :
    after.HasSource copy := by
  obtain ⟨s, hs, hne, hcopy⟩ := h
  have hmem : some s ∈ after.only (ofItem writtenBook) :=
    heq ▸ mem_only.2 ⟨hs, by simpa [ofItem] using hcopy.original⟩
  exact ⟨s, (mem_only.1 hmem).1, hne, hcopy⟩

theorem Shop.hasSource_of_mem_recipes (h : slots.Solid (ofItem writtenBook))
    (hr : r ∈ (Shop.book offers).recipes c (some slots)) : slots.HasSource r.result := by
  obtain ⟨o, -, ho⟩ := List.mem_filterMap.1 hr
  obtain ⟨_, _, source, generation, _, hb, hg, -, rfl⟩ := BookOffer.copyRecipe?_eq_some ho
  obtain ⟨s, hs, hitem, hbook, -, -⟩ := copyableBook?_eq_some hb
  refine ⟨s, hs, h s hs (by simpa [ofItem] using hitem), hitem, rfl, ?_⟩
  exact ⟨source, { source with generation }, hbook, rfl, rfl, rfl, hg⟩

/-! ## Sales -/

theorem Currency.only_deposit (hq : KindOnly q) (hm : ∀ s, c.isMoney s = true → q s = false)
    (n : Amount) (h : slots.Solid q) : (c.deposit n slots).1.only q = slots.only q := by
  have hlow : ∀ m, q (c.lowStack m) = false := fun m => hm _ (c.isMoney_lowStack m)
  unfold deposit
  split
  case h_1 => exact only_add hq (hlow n) h
  case h_2 hi hh =>
    have hhigh : q (hi.item.withAmount (n / hi.value)) = false :=
      (hq.amountFree _ _).trans (hm _ (isMoney_high (highFor?_eq_some_iff.1 hh).1))
    have hadd := only_add hq hhigh h
    exact (only_add hq (hlow _) (h.of_only_eq hadd)).trans hadd

theorem only_earn (hq : KindOnly q) (hm : ∀ s, settings.currency.isMoney s = true → q s = false)
    (h : slots.Solid q) (he : earn settings price slots = (.ok (), after)) :
    after.only q = slots.only q := by
  simpa [earn_eq_ok_iff.1 he] using
    Currency.only_deposit hq hm (settings.tax.net price) h (c := settings.currency)

theorem only_give {pick : Pick} {reason : AbortReason} (hq : AmountFree q)
    (hp : ∀ t, pick t = true → q t = false) (h : give pick n reason slots = (.ok (), after)) :
    after.only q = slots.only q := by
  simpa [give_eq_ok_iff.1 h] using only_remove hq hp n slots

namespace Shop

theorem only_stageCopy (hm : ∀ s, settings.currency.isMoney s = true → ofItem writtenBook s = false)
    (h : slots.Solid (ofItem writtenBook))
    (hs : stageCopy settings offers d slots = (.ok (), after)) :
    after.only (ofItem writtenBook) = slots.only (ofItem writtenBook) := by
  obtain ⟨offer, mid, -, hg, he⟩ := stageCopy_eq_ok_iff.1 hs
  have hdisjoint : ∀ t : Stack, t.isWritableBook = true → ofItem writtenBook t = false := by
    intro t ht
    simp only [Stack.isWritableBook, decide_eq_true_eq] at ht
    simp [ofItem, ht, writableBook, writtenBook]
  have hgive := only_give (kindOnly_ofItem writtenBook).amountFree hdisjoint hg
  exact (only_earn (kindOnly_ofItem writtenBook) hm (h.of_only_eq hgive) he).trans hgive

theorem total_stageCopy
    (hm : ∀ s, settings.currency.isMoney s = true → ofItem writableBook s = false)
    (hs : stageCopy settings offers d slots = (.ok (), after)) :
    total (ofItem writableBook) after + 1 = total (ofItem writableBook) slots := by
  obtain ⟨offer, mid, -, hg, he⟩ := stageCopy_eq_ok_iff.1 hs
  have hgive := total_remove_of_imp (p := Stack.isWritableBook) (q := ofItem writableBook)
    (kindOnly_ofItem writableBook).amountFree (fun _ ht => ht) 1 slots
  rw [give_eq_ok_iff.1 hg] at hgive
  rw [total_earn (kindOnly_ofItem writableBook) hm he]
  exact hgive

/-- Copies that a book shop sells one after the other. Each sale is staged on what the sale before
has left, which holds the book that was copied. -/
inductive CopySales (settings : Settings) (offers : List BookOffer) :
    Slots → List CommittedTrade → Slots → Prop
  | nil (slots : Slots) : CopySales settings offers slots [] slots
  | cons {before mid after : Slots} {deal : Deal} {d : CommittedTrade} {ds : List CommittedTrade}
      (hd : deal.recipe = d.recipe) (source : before.HasSource d.recipe.result)
      (sold : (Shop.book offers).stage settings deal before = .ok mid)
      (rest : CopySales settings offers mid ds after) :
      CopySales settings offers before (d :: ds) after

namespace CopySales

theorem append (h : CopySales settings offers slots ds mid)
    (h' : CopySales settings offers mid ds' after) :
    CopySales settings offers slots (ds ++ ds') after := by
  induction h with
  | nil => exact h'
  | cons hd source sold _ ih => exact .cons hd source sold (ih h')

theorem only_eq (hm : ∀ s, settings.currency.isMoney s = true → ofItem writtenBook s = false)
    (hs : slots.Solid (ofItem writtenBook)) (h : CopySales settings offers slots ds after) :
    after.only (ofItem writtenBook) = slots.only (ofItem writtenBook) := by
  induction h with
  | nil => rfl
  | cons _ _ sold _ ih =>
    have hsold := only_stageCopy hm hs (work_of_stage sold)
    exact (ih (hs.of_only_eq hsold)).trans hsold

theorem total_add_length
    (hm : ∀ s, settings.currency.isMoney s = true → ofItem writableBook s = false)
    (h : CopySales settings offers slots ds after) :
    total (ofItem writableBook) after + ds.length = total (ofItem writableBook) slots := by
  induction h with
  | nil => rfl
  | cons _ _ sold _ ih =>
    have hsold := total_stageCopy hm (work_of_stage sold)
    rw [List.length_cons]
    omega

end CopySales

end Shop

end Bazaar
