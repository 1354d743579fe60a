import Bazaar.Proofs.Slots.ClientOrder

/-! # Portions

Two insertions or removals of one kind, one after the other, do what a single one of both amounts
does. A second insertion first tops up the stack that the first one has left incomplete. There is at
most one, in the last slot that was filled, so both together fill the same slots as one insertion.
-/

namespace Bazaar

namespace Stack

variable {t : Stack} {a b : Amount}

theorem topped_topped (h : a.val + b.val ≤ 4294967295) (t : Stack) :
    (t.topped a).topped b = t.topped (a + b) := by
  have hamount : ((t.topped a).topped b).amount = (t.topped (a + b)).amount := by
    apply Amount.ext
    rw [val_amount_topped, val_amount_topped, val_amount_topped, freeSpace_topped,
      Amount.val_add_of_le h]
    omega
  exact congrArg t.withAmount hamount

theorem topped_filled (ha : 0 < a.val) (h : a.val + b.val ≤ 4294967295) (s : Stack) :
    (s.filled a).topped b = s.filled (a + b) := by
  have hamount : ((s.filled a).topped b).amount = (s.filled (a + b)).amount := by
    apply Amount.ext
    rw [val_amount_topped, freeSpace_filled, val_amount_filled, val_amount_filled,
      Amount.val_add_of_le h]
    omega
  exact congrArg s.withAmount hamount

end Stack

namespace Slots

variable {change : Amount → Option Stack → Option Stack} {share : Option Stack → Nat} {p : Pick}
  {s : Stack} {slot : Option Stack} {n a b : Amount} {slots : Slots}

/-- Two portions, one after the other, do what their sum does, and what they return adds up. -/
def InPortions (op : Amount → Slots → Slots × Amount) : Prop :=
  ∀ (a b : Amount) (slots : Slots), a.val + b.val ≤ 4294967295 →
    (op b (op a slots).1).1 = (op (a + b) slots).1 ∧
    (op a slots).2.val + (op b (op a slots).1).2.val = (op (a + b) slots).2.val

/-- It is enough that each slot is changed in portions, the first of which is taken off the share of
the second. -/
theorem inPortions_walk
    (hchange : ∀ (a b : Amount) (slot : Option Stack), a.val + b.val ≤ 4294967295 →
      change b (change a slot) = change (a + b) slot)
    (hshare : ∀ (a : Amount) (slot : Option Stack),
      share (change a slot) = share slot - a.val) : InPortions (walk change share) := by
  intro a b slots h
  induction slots generalizing a b with
  | nil => exact ⟨rfl, (Amount.val_add_of_le h).symm⟩
  | cons slot r ih =>
    have hle : (a - .ofNat (share slot)).val + (b - .ofNat (share (change a slot))).val ≤
        4294967295 := by
      simp only [Amount.val_sub_ofNat]
      omega
    have hrest : (a - .ofNat (share slot)) + (b - .ofNat (share (change a slot))) =
        a + b - .ofNat (share slot) := by
      apply Amount.ext
      rw [Amount.val_add_of_le hle, hshare]
      simp only [Amount.val_sub_ofNat, Amount.val_add_of_le h]
      omega
    obtain ⟨hslots, hleft⟩ := ih _ _ hle
    rw [hrest] at hslots hleft
    simp only [walk_cons, hchange a b slot h]
    exact ⟨congrArg _ hslots, hleft⟩

/-! ## Topping up and removing -/

theorem topSlot_topSlot (h : a.val + b.val ≤ 4294967295) (slot : Option Stack) :
    topSlot s b (topSlot s a slot) = topSlot s (a + b) slot := by
  obtain ⟨-, hsame⟩ | ⟨t, rfl, ht, hs, -, htop⟩ := topSlot_cases s slot
  · rw [hsame, hsame, hsame]
  · have hs' : (t.topped a).similar s = true := hs
    rw [htop, topSlot_of_similar (Stack.isEmpty_topped ht a) hs', htop, Stack.topped_topped h]

theorem inPortions_topUp (s : Stack) : InPortions (topUp s) := by
  have hwalk : topUp s = walk (topSlot s) (topRoom s) := by
    funext n slots
    exact topUp_eq_walk s n slots
  rw [hwalk]
  exact inPortions_walk (fun _ _ slot h => topSlot_topSlot h slot) (topRoom_topSlot s)

theorem portion_removeSlot (hp : AmountFree p) (a : Amount) (slot : Option Stack) :
    portion p (removeSlot p a slot) = portion p slot - a.val := by
  have hloss := portion_removeSlot_of_imp hp (fun _ ht => ht) a slot
  omega

theorem removeSlot_removeSlot (hp : AmountFree p) (h : a.val + b.val ≤ 4294967295)
    (slot : Option Stack) : removeSlot p b (removeSlot p a slot) = removeSlot p (a + b) slot := by
  obtain ⟨-, hsame⟩ | ⟨t, rfl, -, hpt, htake⟩ := removeSlot_cases p slot
  · rw [hsame, hsame, hsame]
  · rw [htake, htake]
    rcases Nat.lt_or_ge a.val t.amount.val with hlt | hge
    · have hrest : 0 < (t.amount - a).val := by
        rw [Amount.val_sub]
        omega
      have hpicked : ¬((t.withAmount (t.amount - a)).isEmpty ||
          !p (t.withAmount (t.amount - a))) = true := by
        rw [hp, hpt, Bool.not_true, Bool.or_false, Bool.not_eq_true, Stack.isEmpty_eq_false_iff]
        exact hrest
      have hamount : t.amount - a - b = t.amount - (a + b) := by
        apply Amount.ext
        rw [Amount.val_sub, Amount.val_sub, Amount.val_sub, Amount.val_add_of_le h, Nat.sub_sub]
      rw [Stack.decreasedBy_of_lt hlt, removeSlot, if_neg hpicked, Stack.decreasedBy_min,
        Stack.decreasedBy, Stack.decreasedBy, ← hamount]
      rfl
    · have hge' : t.amount.val ≤ (a + b).val := by
        rw [Amount.val_add_of_le h]
        omega
      rw [Stack.decreasedBy_of_le hge, Stack.decreasedBy_of_le hge']
      rfl

theorem inPortions_remove (hp : AmountFree p) : InPortions (remove p) := by
  have hwalk : remove p = walk (removeSlot p) (portion p) := by
    funext n slots
    exact remove_eq_walk p n slots
  rw [hwalk]
  exact inPortions_walk (fun _ _ slot h => removeSlot_removeSlot hp h slot) (portion_removeSlot hp)

/-! ## Filling -/

theorem topSlot_of_full (h : topRoom s slot = 0) (n : Amount) : topSlot s n slot = slot := by
  obtain ⟨-, hsame⟩ | ⟨t, rfl, -, -, hroom, htop⟩ := topSlot_cases s slot
  · exact hsame n
  · rw [hroom] at h
    rw [htop, Stack.topped_of_full h]

theorem topUp_of_full (h : ∀ slot ∈ slots, topRoom s slot = 0) (n : Amount) :
    topUp s n slots = (slots, n) := by
  induction slots with
  | nil => rfl
  | cons slot r ih =>
    obtain ⟨hslot, hr⟩ := List.forall_mem_cons.1 h
    rw [topUp_cons, topSlot_of_full hslot, hslot, Amount.sub_ofNat_zero, ih hr]

theorem topUp_withAmount (s : Stack) (m n : Amount) (slots : Slots) :
    topUp (s.withAmount m) n slots = topUp s n slots := by
  rw [topUp_eq_walk, topUp_eq_walk]
  rfl

theorem fill_withAmount (s : Stack) (m n : Amount) (slots : Slots) :
    fill (s.withAmount m) n slots = fill s n slots := by
  rw [fill_eq_walk, fill_eq_walk]
  rfl

theorem add_withAmount (s : Stack) (n : Amount) (slots : Slots) :
    add (s.withAmount n) slots = fill s (topUp s n slots).2 (topUp s n slots).1 := by
  rw [add, topUp_withAmount]
  exact fill_withAmount s n _ _

theorem occupied_fillSlot (hn : n ≠ 0) (slot : Option Stack) :
    occupied (fillSlot s n slot) = true := by
  cases hslot : occupied slot with
  | true => rwa [fillSlot_of_occupied hslot]
  | false =>
    have hne := Stack.isEmpty_filled hn s
    rw [fillSlot_of_not_occupied hslot hn, occupied, hne, Bool.not_false]

theorem topSlot_fillSlot (ha : a ≠ 0) (h : a.val + b.val ≤ 4294967295)
    (hfull : topRoom s slot = 0) :
    topSlot s b (fillSlot s a slot) = fillSlot s (a + b) slot := by
  cases hslot : occupied slot with
  | true => rw [fillSlot_of_occupied hslot, fillSlot_of_occupied hslot, topSlot_of_full hfull]
  | false =>
    have hpos : 0 < a.val := Amount.val_pos_iff.2 ha
    have hab : a + b ≠ 0 := by
      rw [← Amount.val_pos_iff, Amount.val_add_of_le h]
      omega
    rw [fillSlot_of_not_occupied hslot ha, fillSlot_of_not_occupied hslot hab,
      topSlot_of_similar (Stack.isEmpty_filled ha s) (s.similar_filled a),
      Stack.topped_filled hpos h]

theorem shares_fillSlot (ha : a ≠ 0) (hfull : topRoom s slot = 0) :
    (a.val - freeRoom s slot) + (b.val - topRoom s (fillSlot s a slot)) =
      a.val + b.val - freeRoom s slot := by
  cases hslot : occupied slot with
  | true =>
    rw [fillSlot_of_occupied hslot, hfull, freeRoom_of_occupied hslot]
    omega
  | false =>
    have hpos : 0 < a.val := Amount.val_pos_iff.2 ha
    rw [fillSlot_of_not_occupied hslot ha, topRoom_filled ha, freeRoom_of_not_occupied hslot]
    omega

theorem occupied_topSlot (h : occupied slot = true) (n : Amount) :
    occupied (topSlot s n slot) = true := by
  obtain ⟨-, hsame⟩ | ⟨t, rfl, ht, -, -, htop⟩ := topSlot_cases s slot
  · rwa [hsame]
  · rw [htop, occupied, Stack.isEmpty_topped ht n, Bool.not_false]

theorem add_cons_of_occupied (h : occupied slot = true) (n : Amount) (r : Slots) :
    (add (s.withAmount n) (slot :: r)).1 =
      topSlot s n slot :: (add (s.withAmount (n - .ofNat (topRoom s slot))) r).1 := by
  have htop := occupied_topSlot (s := s) h n
  rw [add_withAmount, add_withAmount, topUp_cons, fill_cons, fillSlot_of_occupied htop,
    freeRoom_of_occupied htop, Amount.sub_ofNat_zero]

/-- Where all similar stacks are full, a second portion goes on top of the slot that the first one
has left incomplete, and then into the slots behind it. -/
theorem add_fill (h : a.val + b.val ≤ 4294967295) (hfull : ∀ slot ∈ slots, topRoom s slot = 0) :
    (add (s.withAmount b) (fill s a slots).1).1 = (fill s (a + b) slots).1 := by
  induction slots generalizing a b with
  | nil => rfl
  | cons slot r ih =>
    by_cases ha : a = 0
    · have hsum : a + b = b := by
        apply Amount.ext
        rw [Amount.val_add_of_le h, ha, Amount.val_zero, Nat.zero_add]
      rw [hsum, ha, fill_zero, add_withAmount, topUp_of_full hfull]
    · obtain ⟨hslot, hr⟩ := List.forall_mem_cons.1 hfull
      have hshares := shares_fillSlot (b := b) ha hslot
      have hle : (a - .ofNat (freeRoom s slot)).val +
          (b - .ofNat (topRoom s (fillSlot s a slot))).val ≤ 4294967295 := by
        rw [Amount.val_sub_ofNat, Amount.val_sub_ofNat]
        omega
      have hrest : (a - .ofNat (freeRoom s slot)) +
          (b - .ofNat (topRoom s (fillSlot s a slot))) = a + b - .ofNat (freeRoom s slot) := by
        apply Amount.ext
        rw [Amount.val_add_of_le hle, Amount.val_sub_ofNat, Amount.val_sub_ofNat,
          Amount.val_sub_ofNat, Amount.val_add_of_le h, hshares]
      rw [fill_cons, fill_cons, add_cons_of_occupied (occupied_fillSlot ha slot),
        topSlot_fillSlot ha h hslot, ih hle hr, hrest]

/-! ## Insertions -/

theorem add_add_fst (h : a.val + b.val ≤ 4294967295) (slots : Slots) :
    (add (s.withAmount b) (add (s.withAmount a) slots).1).1 =
      (add (s.withAmount (a + b)) slots).1 := by
  obtain ⟨hslots, hleft⟩ := inPortions_topUp s a b slots h
  have hfull : 0 < (topUp s a slots).2.val → ∀ slot ∈ (topUp s a slots).1, topRoom s slot = 0 :=
    topRoom_eq_zero_of_left
  have hle := topUp_snd_le s a slots
  rw [add_withAmount s a, add_withAmount s (a + b), ← hslots]
  generalize (topUp s a slots).1 = mid at hslots hleft hfull ⊢
  generalize (topUp s a slots).2 = left at hleft hfull hle ⊢
  rcases Nat.eq_zero_or_pos left.val with hzero | hpos
  · -- The first portion goes on top of other stacks, and the second one goes on from there.
    obtain rfl : left = 0 := Amount.ext hzero
    have hsame : (topUp s b mid).2 = (topUp s (a + b) slots).2 := by
      apply Amount.ext
      rw [← hleft, Amount.val_zero, Nat.zero_add]
    rw [fill_zero, add_withAmount, hsame]
  · -- No stack has space after the first portion, which is filled in.
    have hfull := hfull hpos
    have hsame : left + b = (topUp s (a + b) slots).2 := by
      apply Amount.ext
      rw [Amount.val_add_of_le (by omega), ← hleft, topUp_of_full hfull]
    rw [add_fill (by omega) hfull, topUp_of_full hfull, hsame]

theorem room_withAmount (s : Stack) (n : Amount) (slots : Slots) :
    room (s.withAmount n) slots = room s slots := rfl

theorem inPortions_add (s : Stack) : InPortions fun n => add (s.withAmount n) := by
  intro a b slots h
  refine ⟨add_add_fst h slots, ?_⟩
  have hfirst := add_snd_val (s.withAmount a) slots
  have hroom := room_add (s.withAmount a) slots
  have hsecond := add_snd_val (s.withAmount b) (add (s.withAmount a) slots).1
  have hwhole := add_snd_val (s.withAmount (a + b)) slots
  have hsum : (s.withAmount (a + b)).amount.val = a.val + b.val := Amount.val_add_of_le h
  have ha : (s.withAmount a).amount.val = a.val := rfl
  have hb : (s.withAmount b).amount.val = b.val := rfl
  simp only [room_withAmount, ha, hb, hsum] at hfirst hroom hsecond hwhole ⊢
  omega

theorem inPortions_addInClientOrder (s : Stack) :
    InPortions fun n => addInClientOrder (s.withAmount n) := by
  intro a b slots h
  obtain ⟨hslots, hleft⟩ := inPortions_add s a b (reverseSections slots) h
  simp only [addInClientOrder, reverseSections_reverseSections]
  exact ⟨congrArg reverseSections hslots, hleft⟩

/-- Items may be put in or taken out in portions: the slots end up as after a single operation with
the sum of both amounts, and what did not fit or was missing is the same in all. -/
theorem portions_equal_whole :
    (∀ s : Stack, InPortions fun n => add (s.withAmount n)) ∧
    (∀ s : Stack, InPortions fun n => addInClientOrder (s.withAmount n)) ∧
    (∀ p : Pick, AmountFree p → InPortions (remove p)) :=
  ⟨inPortions_add, inPortions_addInClientOrder, fun _ hp => inPortions_remove hp⟩

def diamondDrawer : Slots :=
  [some (.plain "diamond" 60), none, some (.plain "bread" 3), some (.plain "diamond" 0), none]

theorem portions_equal_whole_diamondDrawer :
    AmountFree (ofItem "diamond") ∧ (20 : Amount).val + (100 : Amount).val ≤ 4294967295 ∧
    (add (.plain "diamond" 100) (add (.plain "diamond" 20) diamondDrawer).1).1 =
      (add (.plain "diamond" 120) diamondDrawer).1 ∧
    (addInClientOrder (.plain "diamond" 100)
      (addInClientOrder (.plain "diamond" 20) diamondDrawer).1).1 =
      (addInClientOrder (.plain "diamond" 120) diamondDrawer).1 ∧
    (remove (ofItem "diamond") 100 (remove (ofItem "diamond") 20 diamondDrawer).1).1 =
      [none, none, some (.plain "bread" 3), some (.plain "diamond" 0), none] ∧
    (remove (ofItem "diamond") 20 diamondDrawer).2.val +
      (remove (ofItem "diamond") 100 (remove (ofItem "diamond") 20 diamondDrawer).1).2.val = 60 := by
  have hfree : AmountFree (ofItem "diamond") := (kindOnly_ofItem "diamond").amountFree
  have hle : (20 : Amount).val + (100 : Amount).val ≤ 4294967295 := by decide
  have h := portions_equal_whole
  have hadd := h.1 (.plain "diamond" 0) 20 100 diamondDrawer hle
  have hclient := h.2.1 (.plain "diamond" 0) 20 100 diamondDrawer hle
  have hremove := h.2.2 (ofItem "diamond") hfree 20 100 diamondDrawer hle
  exact ⟨hfree, hle, hadd.1, hclient.1, hremove.1.trans (by decide), hremove.2.trans (by decide)⟩

end Slots

end Bazaar
