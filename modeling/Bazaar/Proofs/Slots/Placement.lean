import Bazaar.Proofs.Slots.Bounded
import Bazaar.Proofs.Slots.Room
import Bazaar.Proofs.Slots.Spared

/-! # Where an insertion puts a stack

An insertion tops similar stacks up before it takes slots without items. It puts in as much as there
is room for, and it changes nothing else: stacks of other kinds stay, no slot is filled beyond its
maximum size, and a slot without items is used only when the similar stacks are full.
-/

namespace Bazaar.Slots

variable {change : Amount → Option Stack → Option Stack} {share : Option Stack → Nat}
  {s t : Stack} {slot : Option Stack} {n : Amount} {i j : Nat} {slots : Slots}

/-! ## Overfull slots -/

def overfull : Pick := fun t => !decide t.Bounded

theorem overfull_eq_false (h : t.Bounded) : overfull t = false := by
  simp [overfull, h]

/-- What goes on top of a stack makes it overfull only if it was so, and then nothing went there. -/
theorem eq_of_overfull_topped (h : overfull (t.topped n) = true) : t.topped n = t := by
  have hover : ¬ t.Bounded := by
    intro hb
    rw [overfull_eq_false (hb.topped n)] at h
    exact absurd h (by decide)
  have hfull : t.freeSpace.val = 0 := by
    simp only [Stack.Bounded, Stack.freeSpace, Amount.val_sub] at hover ⊢
    omega
  exact Stack.topped_of_full hfull n

theorem overfull_walk (h : ∀ n slot t, change n slot = some t → overfull t = true → slot = some t)
    (n : Amount) (slots : Slots) : (walk change share n slots).1.Spares overfull slots := by
  intro i t hi hover _
  rw [getElem?_walk, Option.map_eq_some_iff] at hi
  obtain ⟨slot, hslot, hi⟩ := hi
  rw [hslot, h _ slot t hi hover]

theorem overfull_topUp (s : Stack) (n : Amount) (slots : Slots) :
    (topUp s n slots).1.Spares overfull slots := by
  rw [topUp_eq_walk]
  refine overfull_walk ?_ n slots
  intro n slot t hi hover
  obtain ⟨-, hsame⟩ | ⟨u, rfl, -, -, -, htop⟩ := topSlot_cases s slot
  · rwa [hsame] at hi
  · obtain rfl : u.topped n = t := by simpa [htop] using hi
    rw [eq_of_overfull_topped hover]

theorem overfull_fill (s : Stack) (n : Amount) (slots : Slots) :
    (fill s n slots).1.Spares overfull slots := by
  rw [fill_eq_walk]
  refine overfull_walk ?_ n slots
  intro n slot t hi hover
  obtain ⟨-, hsame⟩ | ⟨-, -, hfill⟩ := fillSlot_cases s n slot
  · rwa [hsame] at hi
  · obtain rfl : s.filled n = t := by simpa [hfill] using hi
    rw [overfull_eq_false (s.bounded_filled n)] at hover
    exact absurd hover (by decide)

theorem overfull_add (s : Stack) (slots : Slots) : (add s slots).1.Spares overfull slots :=
  (overfull_fill s _ _).trans (overfull_topUp s s.amount slots)

/-! ## Slots without items -/

theorem getElem?_topUp_of_not_occupied (hi : slots[i]? = some slot) (hslot : occupied slot = false)
    (n : Amount) : (topUp s n slots).1[i]? = some slot := by
  rw [getElem?_topUp, hi, Option.map_some, topSlot_of_not_occupied hslot]

theorem topRoom_eq_zero_of_left (h : 0 < (topUp s n slots).2.val) :
    ∀ slot ∈ (topUp s n slots).1, topRoom s slot = 0 := by
  have hleft := topUp_snd_val s n slots
  have hroom := room_topUp (s := s) n slots
  have hsame := map_freeRoom_topUp s s n slots
  have hnone : ((topUp s n slots).1.map (topRoom s)).sum = 0 := by
    rw [room, room, hsame] at hroom
    omega
  intro slot hslot
  exact List.sum_eq_zero_iff.1 hnone _ (List.mem_map_of_mem hslot)

/-- A slot without items is used only if every similar stack is full. -/
theorem full_of_used (hslot : occupied slot = false) (hi : slots[i]? = some slot)
    (hused : (add s slots).1[i]? ≠ some slot) (ht : t.isEmpty = false) (hs : t.similar s = true)
    (hj : slots[j]? = some (some t)) :
    ∃ u, (add s slots).1[j]? = some (some u) ∧ u.freeSpace.val = 0 := by
  have hleft : 0 < (topUp s s.amount slots).2.val := by
    -- With nothing left after topping up, no other slot changes.
    rw [Amount.val_pos_iff]
    intro hzero
    refine hused ?_
    change (fill s (topUp s s.amount slots).2 (topUp s s.amount slots).1).1[i]? = some slot
    rw [hzero, fill_zero, getElem?_topUp_of_not_occupied hi hslot]
  have hm := getElem?_topUp s s.amount slots j
  rw [hj, Option.map_some, topSlot_of_similar ht hs] at hm
  have hempty := Stack.isEmpty_topped ht (s.amount - .ofNat (sharesBefore (topRoom s) slots j))
  have hfull := topRoom_eq_zero_of_left hleft _ (List.mem_of_getElem? hm)
  rw [topRoom_of_similar hempty hs] at hfull
  exact ⟨_, spares_fill (fun _ => true) s _ _ j _ hm rfl hempty, hfull⟩

/-! ## The whole insertion -/

/-- An insertion puts in what there is room for, and takes and spills nothing. -/
theorem add_places_what_fits (s : Stack) (slots : Slots) :
    (add s slots).2.val = s.amount.val - min s.amount.val (slots.map (roomIn s)).sum ∧
    total (ofKind s.kind) (add s slots).1 =
      total (ofKind s.kind) slots + (s.amount.val - (add s slots).2.val) ∧
    (add s slots).1.length = slots.length ∧
    slots.Spares (fun t => !t.similar s) (add s slots).1 ∧
    (∀ κ, κ ≠ s.kind → total (ofKind κ) (add s slots).1 = total (ofKind κ) slots) ∧
    (∀ (i : Nat) (t : Stack), (add s slots).1[i]? = some (some t) →
      max 1 t.maxSize.val < t.amount.val → slots[i]? = some (some t)) ∧
    (∀ (i : Nat) (slot : Option Stack), slots[i]? = some slot → occupied slot = false →
      (add s slots).1[i]? ≠ some slot →
      ∀ (j : Nat) (t : Stack), slots[j]? = some (some t) → t.isEmpty = false →
        t.similar s = true → ∃ u, (add s slots).1[j]? = some (some u) ∧ u.freeSpace.val = 0) := by
  have hown : ofKind s.kind s = true := by simp [ofKind]
  refine ⟨?_, ?_, (steady_add s slots).length, ?_, ?_, ?_, ?_⟩
  · rw [sum_roomIn, add_snd_val]
    omega
  · rw [total_add_eq (kindOnly_ofKind _), if_pos hown]
  · refine spares_add ?_ (by simp [Stack.similar]) slots
    intro t u h
    simp [Stack.similar, h]
  · intro κ hκ
    have hother : ofKind κ s = false := by simpa [ofKind] using hκ.symm
    simp [total_add_eq (kindOnly_ofKind _), hother]
  · intro i t hi hover
    have hne : t.isEmpty = false := Stack.isEmpty_eq_false_iff.2 (by omega)
    have hb : ¬ t.Bounded := by
      unfold Stack.Bounded
      omega
    exact overfull_add s slots i t hi (by simp [overfull, hb]) hne
  · intro i slot hi hslot hused j t hj ht hs
    exact full_of_used hslot hi hused ht hs hj

def emptyEmeralds : Slots := [none, some (.plain "emerald" 0)]

/-- A similar stack that is empty counts as no stack: the slot before it is used although it has
room. -/
theorem exists_used_slot_beside_empty_stack :
    ¬ ∀ (s : Stack) (slots : Slots) (i : Nat), slots[i]? = some none →
      (add s slots).1[i]? ≠ some none → ∀ (j : Nat) (t : Stack), slots[j]? = some (some t) →
        t.similar s = true → ∃ u, (add s slots).1[j]? = some (some u) ∧ u.freeSpace.val = 0 := by
  intro h
  obtain ⟨u, hu, hfull⟩ :=
    h (.plain "emerald" 5) emptyEmeralds 0 rfl (by decide) 1 _ rfl (by decide)
  have hsame : (add (.plain "emerald" 5) emptyEmeralds).1[1]? =
      some (some (.plain "emerald" 0)) := by decide
  obtain rfl : Stack.plain "emerald" 0 = u := by simpa [hsame] using hu
  exact absurd hfull (by decide)

end Bazaar.Slots
