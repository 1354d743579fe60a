import Bazaar.Proofs.Slots.Room
import Bazaar.Shop.Staging

/-! # The parts of a shop in a trade

Whatever its kind, a shop does two things with the contents of its container: it takes a supply out
and then puts an intake into what is left. Which supply and which intake belong to a deal is a
matter of the offer behind the deal. Staging is nothing but a list of checks, each of which can be
made on the contents before the trade, and the first that fails is the reason of the refusal.
-/

namespace Bazaar

open Slots

variable {α : Type} {settings : Settings} {d : Deal} {slots : Slots} {pick : Pick} {n : Amount}
  {price : Amount} {s : Stack} {reason : AbortReason}

/-! ## Checks -/

/-- Something that is asked of a trade, and why the trade is refused if it does not hold. -/
structure Check where
  passes : Bool
  reason : AbortReason
  deriving DecidableEq

namespace Check

def firstFailure (checks : List Check) : Option AbortReason :=
  (checks.find? (!·.passes)).map (·.reason)

/-- A value behind checks, which is given out if all of them pass. -/
def gate (checks : List Check) (a : α) : Except AbortReason α :=
  (firstFailure checks).elim (.ok a) .error

variable {checks : List Check} {a : α}

@[simp] theorem gate_nil (a : α) : gate [] a = .ok a := rfl

theorem gate_cons (c : Check) (checks : List Check) (a : α) :
    gate (c :: checks) a = if c.passes then gate checks a else .error c.reason := by
  unfold gate firstFailure
  cases h : c.passes <;> simp [h]

theorem gate_append (checks checks' : List Check) (a : α) :
    gate (checks ++ checks') a = (gate checks ()).bind fun _ => gate checks' a := by
  induction checks with
  | nil => rfl
  | cons c checks ih =>
    rw [List.cons_append, gate_cons, gate_cons, ih]
    split
    · rfl
    · rfl

theorem gate_eq_error_iff : gate checks a = .error reason ↔ firstFailure checks = some reason := by
  unfold gate
  cases firstFailure checks <;> simp

theorem gate_eq_ok_iff {b : α} : gate checks a = .ok b ↔ firstFailure checks = none ∧ b = a := by
  unfold gate
  cases firstFailure checks <;> simp [eq_comm]

theorem firstFailure_eq_none_iff : firstFailure checks = none ↔ checks.all (·.passes) = true := by
  simp [firstFailure]

end Check

/-! ## Supplies and intakes -/

/-- What a shop takes out of its contents for a deal. -/
inductive Supply
  | nothing
  | items (pick : Pick) (n : Amount) (shortage : AbortReason)
  | payment (price : Amount)

namespace Supply

def shortage : Supply → AbortReason
  | items _ _ shortage => shortage
  | nothing | payment _ => .insufficientStock

def isAvailable (settings : Settings) (slots : Slots) : Supply → Bool
  | nothing => true
  | items pick n _ => n.val ≤ total pick slots
  | payment price => (settings.currency.withdraw? price slots).isSome

def rest (settings : Settings) (slots : Slots) : Supply → Slots
  | nothing => slots
  | items pick n _ => (slots.remove pick n).1
  | payment price => (settings.currency.withdraw? price slots).getD slots

def check (settings : Settings) (slots : Slots) (supply : Supply) : Check :=
  ⟨supply.isAvailable settings slots, supply.shortage⟩

end Supply

/-- What a shop puts into its contents for a deal. -/
inductive Intake
  /-- A price less the tax. -/
  | earnings (price : Amount)
  /-- Stacks, one after the other. -/
  | goods (paid : List Stack)

/-- The contents have room for each of some stacks, once the ones before it are in. -/
def Slots.haveRoomFor (slots : Slots) : List Stack → Bool
  | [] => true
  | s :: paid => decide (s.amount.val ≤ room s slots) && (slots.add s).1.haveRoomFor paid

namespace Intake

def fits (settings : Settings) (slots : Slots) : Intake → Bool
  | earnings price => (settings.currency.deposit (settings.tax.net price) slots).2 = 0
  | goods paid => slots.haveRoomFor paid

def stored (settings : Settings) (slots : Slots) : Intake → Slots
  | earnings price => (settings.currency.deposit (settings.tax.net price) slots).1
  | goods paid => paid.foldl (fun slots s => (slots.add s).1) slots

def check (settings : Settings) (slots : Slots) (intake : Intake) : Check :=
  ⟨intake.fits settings slots, .insufficientStorageSpace⟩

end Intake

structure Part where
  supply : Supply
  intake : Intake

namespace Part

/-- The supply is looked for first. There has to be room for the intake once the supply is out. -/
def checks (settings : Settings) (slots : Slots) (part : Part) : List Check :=
  [part.supply.check settings slots,
    part.intake.check settings (part.supply.rest settings slots)]

def effects (settings : Settings) (slots : Slots) (part : Part) : Slots :=
  part.intake.stored settings (part.supply.rest settings slots)

end Part

namespace Shop

/-- The part that a shop has in a deal, if an offer stands behind the deal. -/
def part? (d : Deal) : Shop → Option Part
  | admin _ => some ⟨.nothing, .goods []⟩
  | selling offers => (PriceOffer.find? offers d.recipe.result).map fun offer =>
    ⟨.items d.recipe.result.similar d.recipe.result.amount .insufficientStock,
      .earnings offer.price⟩
  | buying offers => (PriceOffer.find? offers d.recipe.first).map fun offer =>
    ⟨.payment offer.price, .goods [d.received.1]⟩
  | trading offers =>
    if offers.any (·.offers d.recipe) then
      some ⟨.items d.recipe.result.similar d.recipe.result.amount .insufficientStock,
        .goods (d.received.1 :: d.received.2.toList)⟩
    else none
  | book offers => ((copyTitle? d.recipe.result).bind (BookOffer.find? offers)).map fun offer =>
    ⟨.items Stack.isWritableBook 1 .insufficientWritableBooks, .earnings offer.price⟩

/-- There has to be an offer, a supply and room, in this order. -/
def checks (settings : Settings) (d : Deal) (slots : Slots) (shop : Shop) : List Check :=
  ⟨(shop.part? d).isSome, .unexpectedTrade⟩ :: (shop.part? d).elim [] (·.checks settings slots)

def effects (settings : Settings) (d : Deal) (slots : Slots) (shop : Shop) : Slots :=
  (shop.part? d).elim slots (·.effects settings slots)

end Shop

/-! ## Staging as checks -/

theorem give_eq_gate :
    (give pick n reason slots).toExcept =
      Check.gate [(Supply.items pick n reason).check settings slots]
        ((Supply.items pick n reason).rest settings slots) := by
  have hmissing : (slots.remove pick n).2 = 0 ↔ n.val ≤ total pick slots :=
    remove_snd_eq_zero_iff
  rw [Check.gate_cons, Check.gate_nil]
  unfold give
  simp only [InPlace.toExcept_ite, hmissing, Supply.check, Supply.isAvailable, Supply.rest,
    Supply.shortage, decide_eq_true_eq]

theorem earn_eq_gate :
    (earn settings price slots).toExcept =
      Check.gate [(Intake.earnings price).check settings slots]
        ((Intake.earnings price).stored settings slots) := by
  rw [Check.gate_cons, Check.gate_nil]
  unfold earn
  simp only [InPlace.toExcept_ite, Intake.check, Intake.fits, Intake.stored, decide_eq_true_eq]

theorem payOut_eq_gate :
    (payOut settings price slots).toExcept =
      Check.gate [(Supply.payment price).check settings slots]
        ((Supply.payment price).rest settings slots) := by
  rw [Check.gate_cons, Check.gate_nil, payOut, Currency.withdraw_eq]
  exact InPlace.toExcept_ite _ _ _

def receiveAll (paid : List Stack) (slots : Slots) : InPlace AbortReason Slots :=
  match paid with
  | [] => (.ok (), slots)
  | s :: paid => (receive s slots).andThen (receiveAll paid)

theorem receiveAll_singleton (s : Stack) (slots : Slots) :
    receiveAll [s] slots = receive s slots :=
  InPlace.andThen_ok _

theorem toExcept_receive : (receive s slots).toExcept =
    if s.amount.val ≤ room s slots then .ok (slots.add s).1
    else .error .insufficientStorageSpace := by
  simp only [receive, InPlace.toExcept_ite, add_snd_eq_zero_iff]

theorem receiveAll_eq_gate (paid : List Stack) (slots : Slots) :
    (receiveAll paid slots).toExcept = Check.gate [(Intake.goods paid).check settings slots]
      ((Intake.goods paid).stored settings slots) := by
  induction paid generalizing slots with
  | nil => rfl
  | cons s paid ih =>
    rw [receiveAll, InPlace.toExcept_andThen, toExcept_receive]
    simp only [Check.gate_cons, Intake.check, Intake.fits, Slots.haveRoomFor] at ih ⊢
    by_cases hroom : s.amount.val ≤ room s slots
    · simp only [hroom, if_true, Except.bind, ih, decide_true, Bool.true_and]
      rfl
    · simp [hroom, Except.bind]

theorem Part.gate_checks {part : Part} {taken : InPlace AbortReason Slots}
    {store : Slots → InPlace AbortReason Slots}
    (htaken : taken.toExcept = Check.gate [part.supply.check settings slots]
      (part.supply.rest settings slots))
    (hstore : ∀ slots, (store slots).toExcept = Check.gate [part.intake.check settings slots]
      (part.intake.stored settings slots)) :
    (taken.andThen store).toExcept =
      Check.gate (part.checks settings slots) (part.effects settings slots) := by
  unfold checks effects
  rw [InPlace.toExcept_andThen, htaken, Check.gate_cons, Check.gate_cons]
  split
  · exact hstore _
  · rfl

namespace Shop

theorem gate_checks (shop : Shop) (settings : Settings) (d : Deal) (slots : Slots) :
    Check.gate (shop.checks settings d slots) (shop.effects settings d slots) =
      match shop.part? d with
      | none => .error .unexpectedTrade
      | some part => Check.gate (part.checks settings slots) (part.effects settings slots) := by
  unfold checks effects
  rw [Check.gate_cons]
  cases shop.part? d with
  | none => rfl
  | some part => rfl

/-- Staging is a matter of checks that are made on the contents as they are before, and of the
effects of the shop's part. -/
theorem stage_eq_gate (shop : Shop) (settings : Settings) (d : Deal) (slots : Slots) :
    shop.stage settings d slots =
      Check.gate (shop.checks settings d slots) (shop.effects settings d slots) := by
  rw [gate_checks]
  cases shop with
  | admin offers => rfl
  | selling offers =>
    simp only [stage, work, stageSale, part?]
    cases PriceOffer.find? offers d.recipe.result with
    | none => rfl
    | some offer => exact Part.gate_checks give_eq_gate fun _ => earn_eq_gate
  | buying offers =>
    simp only [stage, work, stagePurchase, part?]
    cases PriceOffer.find? offers d.recipe.first with
    | none => rfl
    | some offer =>
      refine Part.gate_checks payOut_eq_gate fun slots => ?_
      rw [← receiveAll_singleton]
      exact receiveAll_eq_gate _ slots
  | trading offers =>
    simp only [stage, work, stageTrade, part?]
    split
    case isTrue =>
      refine Eq.trans ?_ (Part.gate_checks give_eq_gate (receiveAll_eq_gate _))
      refine congrArg InPlace.toExcept (congrArg _ (funext fun slots => ?_))
      rw [receiveAll]
      refine congrArg _ (funext fun slots => ?_)
      cases d.received.2 with
      | none => rfl
      | some second => exact (receiveAll_singleton _ _).symm
    case isFalse => rfl
  | book offers =>
    simp only [stage, work, stageCopy, part?]
    cases (copyTitle? d.recipe.result).bind (BookOffer.find? offers) with
    | none => rfl
    | some offer => exact Part.gate_checks give_eq_gate fun _ => earn_eq_gate

end Shop

end Bazaar
