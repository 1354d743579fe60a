import Bazaar.Proofs.Slots.Total

/-! # Picked stacks in their slots

An insertion puts nothing on top of stacks of other kinds, a removal takes nothing from stacks that
it does not pick. As long as none of the stacks in question is empty, they stay where they are.
-/

namespace Bazaar.Slots

variable {p q : Pick} {s : Stack} {n : Amount} {slots after : Slots}

/-- The picked stacks in their slots; all other slots are cleared. -/
def only (q : Pick) (slots : Slots) : Slots := slots.map (·.filter q)

def Solid (q : Pick) (slots : Slots) : Prop :=
  ∀ s, some s ∈ slots → q s = true → s.isEmpty = false

theorem mem_only : some s ∈ slots.only q ↔ some s ∈ slots ∧ q s = true := by
  unfold only
  rw [List.mem_map]
  constructor
  · rintro ⟨slot, hslot, hs⟩
    obtain ⟨rfl, hq⟩ := Option.filter_eq_some_iff.1 hs
    exact ⟨hslot, hq⟩
  · rintro ⟨hs, hq⟩
    exact ⟨some s, hs, Option.filter_eq_some_iff.2 ⟨rfl, hq⟩⟩

theorem Solid.of_only_eq (h : slots.Solid q) (heq : after.only q = slots.only q) :
    after.Solid q := by
  intro s hs hq
  obtain ⟨hs, -⟩ := mem_only.1 (heq ▸ mem_only.2 ⟨hs, hq⟩)
  exact h s hs hq

theorem Solid.of_cons {slot : Option Stack} (h : Solid q (slot :: slots)) : slots.Solid q :=
  fun s hs => h s (List.mem_cons_of_mem _ hs)

theorem filter_eq_none (hs : q s = false) : (some s).filter q = none :=
  Option.filter_some_neg (by simp [hs])

theorem filter_decreasedBy (hq : AmountFree q) (hs : q s = false) (n : Amount) :
    (s.decreasedBy n).filter q = none := by
  unfold Stack.decreasedBy
  split
  · rfl
  · exact filter_eq_none ((hq s _).trans hs)

theorem only_remove (hq : AmountFree q) (h : ∀ t, p t = true → q t = false) (n : Amount)
    (slots : Slots) : (remove p n slots).1.only q = slots.only q := by
  rw [remove_eq_walk]
  refine map_walk (fun n slot _ => ?_) n
  obtain ⟨-, hsame⟩ | ⟨t, rfl, -, hp, htake⟩ := removeSlot_cases p slot
  · rw [hsame]
  · rw [htake, filter_decreasedBy hq (h t hp), filter_eq_none (h t hp)]

theorem only_topUp (hq : KindOnly q) (hs : q s = false) (n : Amount) (slots : Slots) :
    (topUp s n slots).1.only q = slots.only q := by
  rw [topUp_eq_walk]
  refine map_walk (fun n slot _ => ?_) n
  obtain ⟨-, hsame⟩ | ⟨t, rfl, -, hts, -, htop⟩ := topSlot_cases s slot
  · rw [hsame]
  · have hqt : q t = false := (hq.eq_of_similar hts).trans hs
    have hqtop : q (t.topped n) = false := (hq.amountFree t _).trans hqt
    rw [htop, filter_eq_none hqtop, filter_eq_none hqt]

theorem only_fill (hq : AmountFree q) (hs : q s = false) (n : Amount) (h : slots.Solid q) :
    (fill s n slots).1.only q = slots.only q := by
  rw [fill_eq_walk]
  refine map_walk (fun n slot hslot => ?_) n
  obtain ⟨-, hsame⟩ | ⟨-, hfree, hfill⟩ := fillSlot_cases s n slot
  · rw [hsame]
  · have hqfill : q (s.filled n) = false := (hq s _).trans hs
    have hnone : slot.filter q = none := by
      rw [Option.filter_eq_none_iff]
      rintro t rfl hqt
      have hne := h t hslot hqt
      simp_all [occupied]
    rw [hfill, filter_eq_none hqfill, hnone]

theorem only_add (hq : KindOnly q) (hs : q s = false) (h : slots.Solid q) :
    (add s slots).1.only q = slots.only q := by
  have htop := only_topUp hq hs s.amount slots
  exact (only_fill hq.amountFree hs _ (h.of_only_eq htop)).trans htop

end Bazaar.Slots
