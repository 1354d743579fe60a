import Bazaar.Proofs.Slots.Total
import Mathlib.Algebra.Order.BigOperators.Group.List
import Mathlib.Algebra.Order.Ring.Nat

/-! # Room in slot lists

The room for a stack is the free space of the similar stacks and one maximum size for each slot
without items. An insertion takes up room for what it puts in and leaves over what exceeds the room,
a removal misses what exceeds the total.
-/

namespace Bazaar.Slots

variable {p : Pick} {s t : Stack} {n : Amount} {slots : Slots}

/-- How many items of a stack fit into a list of slots. -/
def room (s : Stack) (slots : Slots) : Nat :=
  (slots.map (topRoom s)).sum + (slots.map (freeRoom s)).sum

theorem topUp_snd_val (s : Stack) (n : Amount) (slots : Slots) :
    (topUp s n slots).2.val = n.val - (slots.map (topRoom s)).sum := by
  rw [topUp_eq_walk, walk_snd_val]

theorem fill_snd_val (s : Stack) (n : Amount) (slots : Slots) :
    (fill s n slots).2.val = n.val - (slots.map (freeRoom s)).sum := by
  rw [fill_eq_walk, walk_snd_val]

theorem freeRoom_of_not_isEmpty (ht : t.isEmpty = false) : freeRoom s (some t) = 0 :=
  freeRoom_of_occupied (by simp [occupied, ht])

theorem freeRoom_topSlot (s t : Stack) (n : Amount) (slot : Option Stack) :
    freeRoom s (topSlot t n slot) = freeRoom s slot := by
  obtain ⟨-, hsame⟩ | ⟨u, rfl, hu, -, -, htop⟩ := topSlot_cases t slot
  · rw [hsame]
  · rw [htop, freeRoom_of_not_isEmpty hu, freeRoom_of_not_isEmpty (Stack.isEmpty_topped hu n)]

theorem map_freeRoom_topUp (s t : Stack) (n : Amount) (slots : Slots) :
    (topUp t n slots).1.map (freeRoom s) = slots.map (freeRoom s) := by
  rw [topUp_eq_walk]
  exact map_walk (fun n slot _ => freeRoom_topSlot s t n slot) n

theorem add_snd_val (s : Stack) (slots : Slots) :
    (add s slots).2.val = s.amount.val - room s slots := by
  have hfill := fill_snd_val s (topUp s s.amount slots).2 (topUp s s.amount slots).1
  rw [map_freeRoom_topUp, topUp_snd_val, Nat.sub_sub] at hfill
  exact hfill

theorem add_snd_eq_zero_iff : (add s slots).2 = 0 ↔ s.amount.val ≤ room s slots := by
  rw [Amount.ext_iff, add_snd_val, Amount.val_zero]
  omega

/-! ## Room that is taken up -/

/-- How many items of a stack fit into one slot: the space on top of a similar stack, a maximum size
where there are no items, and nothing elsewhere. -/
def roomIn (s : Stack) : Option Stack → Nat
  | none => max 1 s.maxSize.val
  | some t =>
    if t.isEmpty then max 1 s.maxSize.val
    else if t.similar s then t.freeSpace.val
    else 0

theorem roomIn_eq (s : Stack) (slot : Option Stack) :
    roomIn s slot = topRoom s slot + freeRoom s slot := by
  cases slot with
  | none => simp [roomIn, topRoom, freeRoom, occupied, Nat.max_comm]
  | some t =>
    cases ht : t.isEmpty <;> cases hs : t.similar s <;>
      simp [roomIn, topRoom, freeRoom, occupied, ht, hs, Nat.max_comm]

theorem sum_roomIn (s : Stack) (slots : Slots) : (slots.map (roomIn s)).sum = room s slots := by
  induction slots with
  | nil => rfl
  | cons slot r ih =>
    rw [List.map_cons, List.sum_cons, roomIn_eq, ih]
    simp only [room, List.map_cons, List.sum_cons]
    omega

theorem topRoom_topSlot (s : Stack) (n : Amount) (slot : Option Stack) :
    topRoom s (topSlot s n slot) = topRoom s slot - n.val := by
  obtain ⟨hroom, hsame⟩ | ⟨t, rfl, ht, hs, hroom, htop⟩ := topSlot_cases s slot
  · rw [hsame, hroom, Nat.zero_sub]
  · have hs' : (t.topped n).similar s = true := hs
    rw [htop, hroom, topRoom_of_similar (Stack.isEmpty_topped ht n) hs', Stack.freeSpace_topped]

theorem topRoom_filled (hn : n ≠ 0) (s : Stack) :
    topRoom s (some (s.filled n)) = s.maxSize.val - min (max s.maxSize.val 1) n.val := by
  rw [topRoom_of_similar (Stack.isEmpty_filled hn s) (s.similar_filled n), s.freeSpace_filled]

theorem roomIn_topSlot (s : Stack) (n : Amount) (slot : Option Stack) :
    roomIn s (topSlot s n slot) + min (topRoom s slot) n.val = roomIn s slot := by
  rw [roomIn_eq, roomIn_eq, topRoom_topSlot, freeRoom_topSlot]
  omega

/-- A slot that is filled loses its place for one maximum size, and what is left of it is on top. -/
theorem roomIn_fillSlot (s : Stack) (n : Amount) (slot : Option Stack) :
    roomIn s (fillSlot s n slot) + min (freeRoom s slot) n.val = roomIn s slot := by
  obtain ⟨hnone, hsame⟩ | ⟨hn, hslot, hfill⟩ := fillSlot_cases s n slot
  · rw [hsame, hnone, Nat.add_zero]
  · have hpos : 0 < n.val := Amount.val_pos_iff.2 hn
    have hfree : freeRoom s (some (s.filled n)) = 0 :=
      freeRoom_of_not_isEmpty (Stack.isEmpty_filled hn s)
    rw [hfill, roomIn_eq, roomIn_eq, topRoom_filled hn, hfree, freeRoom_of_not_occupied hslot,
      topRoom_of_not_occupied hslot]
    omega

theorem room_topUp (n : Amount) (slots : Slots) :
    room s (topUp s n slots).1 + n.val = room s slots + (topUp s n slots).2.val := by
  rw [topUp_eq_walk, ← sum_roomIn, ← sum_roomIn]
  exact sum_walk_of_loss (roomIn_topSlot s) n slots

theorem room_fill (n : Amount) (slots : Slots) :
    room s (fill s n slots).1 + n.val = room s slots + (fill s n slots).2.val := by
  rw [fill_eq_walk, ← sum_roomIn, ← sum_roomIn]
  exact sum_walk_of_loss (roomIn_fillSlot s) n slots

theorem room_add (s : Stack) (slots : Slots) :
    room s (add s slots).1 + s.amount.val = room s slots + (add s slots).2.val := by
  have htop := room_topUp (s := s) s.amount slots
  have hfill := room_fill (s := s) (topUp s s.amount slots).2 (topUp s s.amount slots).1
  unfold add
  dsimp only
  omega

/-- Where something is left over, every slot holds items, and similar stacks are full. -/
theorem full_of_left (h : 0 < (add s slots).2.val) {slot : Option Stack}
    (hslot : slot ∈ (add s slots).1) :
    occupied slot = true ∧ ∀ t, slot = some t → t.similar s = true → t.freeSpace.val = 0 := by
  have hnone : room s (add s slots).1 = 0 := by
    have hleft := add_snd_val s slots
    have hroom := room_add s slots
    omega
  obtain ⟨htops, hfrees⟩ := Nat.add_eq_zero_iff.1 hnone
  have htop : topRoom s slot = 0 := List.sum_eq_zero_iff.1 htops _ (List.mem_map_of_mem hslot)
  have hfree : freeRoom s slot = 0 := List.sum_eq_zero_iff.1 hfrees _ (List.mem_map_of_mem hslot)
  have hocc : occupied slot = true := by
    by_contra hvacant
    rw [freeRoom, if_neg hvacant] at hfree
    omega
  refine ⟨hocc, ?_⟩
  rintro t rfl hs
  have ht : t.isEmpty = false := by simpa [occupied] using hocc
  rwa [topRoom_of_similar ht hs] at htop

theorem remove_snd_val (p : Pick) (n : Amount) (slots : Slots) :
    (remove p n slots).2.val = n.val - total p slots := by
  rw [remove_eq_walk, walk_snd_val, total]

theorem remove_snd_eq_zero_iff : (remove p n slots).2 = 0 ↔ n.val ≤ total p slots := by
  rw [Amount.ext_iff, remove_snd_val, Amount.val_zero]
  omega

end Bazaar.Slots
