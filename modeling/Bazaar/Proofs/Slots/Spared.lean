import Bazaar.Proofs.Slots.Total

/-! # Spared stacks

An insertion goes on top of similar stacks and into slots without items, a removal takes from the
stacks that it picks. All other stacks that are not empty stay in their slots as they are. An empty
stack is not spared, as its slot counts as one without items.
-/

namespace Bazaar.Slots

variable {change : Amount → Option Stack → Option Stack} {share : Option Stack → Nat}
  {p q : Pick} {s : Stack} {n : Amount} {before mid after slots : Slots}

/-- Every picked stack that is not empty stays in its slot as it is. -/
def Spares (q : Pick) (before after : Slots) : Prop :=
  ∀ (i : Nat) (s : Stack), before[i]? = some (some s) → q s = true → s.isEmpty = false →
    after[i]? = some (some s)

namespace Spares

theorem refl (q : Pick) (slots : Slots) : slots.Spares q slots := fun _ _ hs _ _ => hs

theorem trans (h : before.Spares q mid) (h' : mid.Spares q after) : before.Spares q after := by
  intro i s hs hq hne
  exact h' i s (h i s hs hq hne) hq hne

end Spares

theorem spares_walk (h : ∀ n t, q t = true → t.isEmpty = false → change n (some t) = some t)
    (n : Amount) (slots : Slots) : slots.Spares q (walk change share n slots).1 := by
  intro i t hi hq hne
  rw [getElem?_walk, hi, Option.map_some, h _ t hq hne]

theorem spares_remove (h : ∀ s, p s = true → q s = false) (n : Amount) (slots : Slots) :
    slots.Spares q (remove p n slots).1 := by
  rw [remove_eq_walk]
  refine spares_walk ?_ n slots
  intro n t hq _
  obtain ⟨-, hsame⟩ | ⟨_, ⟨⟩, -, hp, -⟩ := removeSlot_cases p (some t)
  · exact hsame n
  · exact absurd hq (by simp [h t hp])

theorem spares_topUp (h : ∀ t : Stack, t.similar s = true → q t = false) (n : Amount)
    (slots : Slots) : slots.Spares q (topUp s n slots).1 := by
  rw [topUp_eq_walk]
  refine spares_walk ?_ n slots
  intro n t hq _
  obtain ⟨-, hsame⟩ | ⟨_, ⟨⟩, -, hs, -, -⟩ := topSlot_cases s (some t)
  · exact hsame n
  · exact absurd hq (by simp [h t hs])

theorem spares_fill (q : Pick) (s : Stack) (n : Amount) (slots : Slots) :
    slots.Spares q (fill s n slots).1 := by
  rw [fill_eq_walk]
  refine spares_walk ?_ n slots
  intro n t _ hne
  exact fillSlot_of_occupied (by simp [occupied, hne]) n

theorem spares_add (hq : KindOnly q) (hs : q s = false) (slots : Slots) :
    slots.Spares q (add s slots).1 := by
  have htop : ∀ t : Stack, t.similar s = true → q t = false := by
    intro t ht
    exact (hq.eq_of_similar ht).trans hs
  exact (spares_topUp htop s.amount slots).trans (spares_fill q s _ _)

/-! ## Taking everything -/

def without (p : Pick) (slots : Slots) : Slots :=
  slots.map fun slot => slot.filter fun s => s.isEmpty || !p s

theorem without_cons (slot : Option Stack) (r : Slots) :
    without p (slot :: r) = slot.filter (fun s => s.isEmpty || !p s) :: without p r := rfl

theorem removeSlot_of_portion_le {slot : Option Stack} (h : portion p slot ≤ n.val) :
    removeSlot p n slot = slot.filter fun s => s.isEmpty || !p s := by
  cases slot with
  | none => rfl
  | some t =>
    cases hkeep : t.isEmpty || !p t with
    | true => rw [removeSlot, if_pos hkeep, Option.filter_some, if_pos hkeep]
    | false =>
      obtain ⟨ht, hp⟩ : t.isEmpty = false ∧ p t = true := by simp_all
      rw [portion_some, if_pos hp] at h
      rw [removeSlot_of_picked hp ht, Stack.decreasedBy_of_le h, Option.filter_some,
        if_neg (by simp [hkeep])]

theorem remove_of_total_le (h : total p slots ≤ n.val) : (remove p n slots).1 = slots.without p := by
  rw [remove_eq_walk]
  induction slots generalizing n with
  | nil => rfl
  | cons slot r ih =>
    rw [total_cons] at h
    have hrest : total p r ≤ (n - .ofNat (portion p slot)).val := by
      rw [Amount.val_sub_ofNat]
      omega
    rw [walk_cons, without_cons, removeSlot_of_portion_le (by omega), ih hrest]

end Bazaar.Slots
