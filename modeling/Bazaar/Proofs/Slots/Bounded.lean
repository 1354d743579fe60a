import Bazaar.Proofs.Slots.Total

/-! # Bounded slots

A slot is overfull if it holds more than the maximum size of its stack, where a single item always
has its place. Similar stacks may differ in their maximum sizes, so each is measured by its own.
Nothing that is done to slots makes one overfull, and their number stays.
-/

namespace Bazaar

/-- A stack does not exceed its own maximum size, or it is a single item. -/
def Stack.Bounded (s : Stack) : Prop := s.amount.val ≤ max s.maxSize.val 1

instance (s : Stack) : Decidable s.Bounded := inferInstanceAs (Decidable (_ ≤ _))

def BoundedIn (slot : Option Stack) : Prop := ∀ s, slot = some s → s.Bounded

variable {s t : Stack} {slot slot' : Option Stack} {n : Amount}

@[simp] theorem boundedIn_none : BoundedIn none := by
  rintro s ⟨⟩

@[simp] theorem boundedIn_some : BoundedIn (some s) ↔ s.Bounded := by
  simp [BoundedIn]

instance : Decidable (BoundedIn slot) :=
  match slot with
  | none => isTrue boundedIn_none
  | some _ => decidable_of_iff _ boundedIn_some.symm

theorem Stack.Bounded.decreasedBy (h : s.Bounded) (n : Amount) : BoundedIn (s.decreasedBy n) := by
  unfold Stack.decreasedBy
  split
  · exact boundedIn_none
  · rw [boundedIn_some]
    simp only [Stack.Bounded, Stack.withAmount, Amount.val_sub] at h ⊢
    omega

theorem Stack.Bounded.topped (h : t.Bounded) (n : Amount) : (t.topped n).Bounded := by
  have hsize : (t.topped n).maxSize = t.maxSize := rfl
  rw [Stack.Bounded, Stack.val_amount_topped, hsize, Stack.freeSpace, Amount.val_sub]
  rw [Stack.Bounded] at h
  omega

theorem Stack.bounded_filled (s : Stack) (n : Amount) : (s.filled n).Bounded := by
  have hsize : (s.filled n).maxSize = s.maxSize := rfl
  rw [Stack.Bounded, s.val_amount_filled, hsize]
  omega

namespace Slots

variable {change : Amount → Option Stack → Option Stack} {share : Option Stack → Nat}
  {before mid after slots : Slots}

def Bounded (slots : Slots) : Prop := ∀ slot ∈ slots, BoundedIn slot

instance : Decidable slots.Bounded := inferInstanceAs (Decidable (∀ slot ∈ slots, _))

/-- A change of slots is steady if there are as many as before, all bounded if they were so before. -/
structure Steady (before after : Slots) : Prop where
  length : after.length = before.length
  bounded : before.Bounded → after.Bounded

namespace Steady

theorem refl (slots : Slots) : slots.Steady slots := ⟨rfl, id⟩

theorem trans (h : before.Steady mid) (h' : mid.Steady after) : before.Steady after where
  length := h'.length.trans h.length
  bounded hb := h'.bounded (h.bounded hb)

theorem cons (hslot : BoundedIn slot → BoundedIn slot') (h : before.Steady after) :
    Steady (slot :: before) (slot' :: after) where
  length := congrArg (· + 1) h.length
  bounded hb := by
    obtain ⟨hhead, htail⟩ := List.forall_mem_cons.1 hb
    exact List.forall_mem_cons.2 ⟨hslot hhead, h.bounded htail⟩

end Steady

theorem steady_walk (h : ∀ n slot, BoundedIn slot → BoundedIn (change n slot)) (n : Amount)
    (slots : Slots) : slots.Steady (walk change share n slots).1 := by
  induction slots generalizing n with
  | nil => exact .refl []
  | cons slot r ih => exact (ih _).cons (h n slot)

theorem boundedIn_topSlot (s : Stack) (n : Amount) (slot : Option Stack) (h : BoundedIn slot) :
    BoundedIn (topSlot s n slot) := by
  obtain ⟨-, hsame⟩ | ⟨t, rfl, -, -, -, htop⟩ := topSlot_cases s slot
  · rwa [hsame]
  · rw [htop]
    exact boundedIn_some.2 ((boundedIn_some.1 h).topped n)

theorem boundedIn_fillSlot (s : Stack) (n : Amount) (slot : Option Stack) (h : BoundedIn slot) :
    BoundedIn (fillSlot s n slot) := by
  obtain ⟨-, hsame⟩ | ⟨-, -, hfill⟩ := fillSlot_cases s n slot
  · rwa [hsame]
  · rw [hfill]
    exact boundedIn_some.2 (s.bounded_filled n)

theorem boundedIn_removeSlot (p : Pick) (n : Amount) (slot : Option Stack) (h : BoundedIn slot) :
    BoundedIn (removeSlot p n slot) := by
  obtain ⟨-, hsame⟩ | ⟨t, rfl, -, -, htake⟩ := removeSlot_cases p slot
  · rwa [hsame]
  · rw [htake]
    exact (boundedIn_some.1 h).decreasedBy n

theorem steady_topUp (s : Stack) (n : Amount) (slots : Slots) : slots.Steady (topUp s n slots).1 := by
  rw [topUp_eq_walk]
  exact steady_walk (boundedIn_topSlot s) n slots

theorem steady_fill (s : Stack) (n : Amount) (slots : Slots) : slots.Steady (fill s n slots).1 := by
  rw [fill_eq_walk]
  exact steady_walk (boundedIn_fillSlot s) n slots

theorem steady_add (s : Stack) (slots : Slots) : slots.Steady (add s slots).1 :=
  (steady_topUp s s.amount slots).trans (steady_fill s _ _)

theorem steady_remove (p : Pick) (n : Amount) (slots : Slots) : slots.Steady (remove p n slots).1 := by
  rw [remove_eq_walk]
  exact steady_walk (boundedIn_removeSlot p) n slots

theorem steady_reverseSections (slots : Slots) : slots.Steady (reverseSections slots) where
  length := by
    simp only [reverseSections, List.length_append, List.length_reverse, List.length_take,
      List.length_drop]
    omega
  bounded hb := by
    intro slot hslot
    rcases List.mem_append.1 hslot with hslot | hslot
    · exact hb slot (List.mem_of_mem_take (List.mem_reverse.1 hslot))
    · exact hb slot (List.mem_of_mem_drop (List.mem_reverse.1 hslot))

theorem steady_addInClientOrder (s : Stack) (slots : Slots) :
    slots.Steady (addInClientOrder s slots).1 :=
  ((steady_reverseSections slots).trans (steady_add s _)).trans (steady_reverseSections _)

theorem steady_set {i : Nat} (slots : Slots) (h : BoundedIn slot) : slots.Steady (slots.set i slot) where
  length := List.length_set
  bounded hb := forall_mem_set hb h i

end Slots

end Bazaar
