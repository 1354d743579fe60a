import Bazaar.Proofs.Slots.Operations

/-! # Totals of slot lists

The total of a pick is the number of picked items, without an upper limit. Putting a stack in raises
the totals that pick it by what fits, taking items out lowers them by what is found. Moving slots
changes no total.
-/

namespace Bazaar.Slots

/-- The number of picked items in a list of slots. -/
def total (pick : Pick) (slots : Slots) : Nat := (slots.map (portion pick)).sum

def ofKind (κ : Kind) : Pick := fun s => s.kind = κ

def ofItem (item : String) : Pick := fun s => s.kind.item = item

/-- A pick that does not look at the amount of a stack. -/
def AmountFree (pick : Pick) : Prop := ∀ (s : Stack) (n : Amount), pick (s.withAmount n) = pick s

/-- A pick that looks at nothing but the kind of a stack. -/
def KindOnly (pick : Pick) : Prop := ∀ s t : Stack, s.kind = t.kind → pick s = pick t

variable {change : Amount → Option Stack → Option Stack} {share : Option Stack → Nat}
  {p q : Pick} {s t : Stack} {n : Amount} {slots : Slots}

theorem KindOnly.amountFree (h : KindOnly q) : AmountFree q := fun _ _ => h _ _ rfl

theorem kindOnly_ofKind (κ : Kind) : KindOnly (ofKind κ) := by
  intro s t h
  simp [ofKind, h]

theorem kindOnly_ofItem (item : String) : KindOnly (ofItem item) := by
  intro s t h
  simp [ofItem, h]

theorem KindOnly.eq_of_similar (h : KindOnly q) (hs : t.similar s = true) : q t = q s :=
  h _ _ (by simpa [Stack.similar] using hs)

theorem portion_ofKind (κ : Kind) (s : Stack) :
    portion (ofKind κ) (some s) = if s.kind = κ then s.amount.val else 0 := by
  simp [ofKind]

theorem portion_le (q : Pick) (slot : Option Stack) : portion q slot ≤ 4294967295 := by
  cases slot with
  | none => exact Nat.zero_le _
  | some s =>
    rw [portion_some]
    split
    · exact s.amount.le_limit
    · exact Nat.zero_le _

theorem portion_withAmount (h : AmountFree q) :
    portion q (some (s.withAmount n)) = if q s then n.val else 0 := by
  rw [portion_some, h]
  rfl

theorem portion_nonEmpty? (slot : Option Stack) : portion q (nonEmpty? slot) = portion q slot := by
  cases slot with
  | none => rfl
  | some s => by_cases h : s.amount = 0 <;> simp [nonEmpty?, Stack.isEmpty, h]

theorem portion_decreasedBy (h : AmountFree q) :
    portion q (s.decreasedBy n) = if q s then s.amount.val - n.val else 0 := by
  unfold Stack.decreasedBy
  split
  case isTrue hz =>
    have hz : s.amount.val - n.val = 0 := by simpa using congrArg Amount.val hz
    simp [hz]
  case isFalse => rw [portion_withAmount h, Amount.val_sub]

theorem portion_decreasedBy_add (h : AmountFree q) (hn : n.val ≤ s.amount.val) :
    portion q (s.decreasedBy n) + portion q (some (s.withAmount n)) = portion q (some s) := by
  rw [portion_decreasedBy h, portion_withAmount h, portion_some]
  split <;> omega

theorem portion_of_not_occupied {slot : Option Stack} (h : occupied slot = false) :
    portion q slot = 0 := by
  cases slot with
  | none => rfl
  | some s =>
    have hz : s.amount = 0 := by simpa [occupied, Stack.isEmpty] using h
    simp [hz]

@[simp] theorem total_nil : total q [] = 0 := rfl

@[simp] theorem total_cons (slot : Option Stack) (r : Slots) :
    total q (slot :: r) = portion q slot + total q r := rfl

theorem total_append (a b : Slots) : total q (a ++ b) = total q a + total q b := by
  simp [total]

theorem total_reverse (a : Slots) : total q a.reverse = total q a := by
  simp [total, List.sum_reverse]

theorem total_reverseSections (a : Slots) : total q (reverseSections a) = total q a := by
  rw [reverseSections, total_append, total_reverse, total_reverse, ← total_append,
    List.take_append_drop]

theorem forall_mem_set {α : Type} {p : α → Prop} {l : List α} {a : α} (h : ∀ b ∈ l, p b)
    (ha : p a) (i : Nat) : ∀ b ∈ l.set i a, p b := by
  intro b hb
  rcases List.mem_or_eq_of_mem_set hb with hb | rfl
  · exact h b hb
  · exact ha

theorem sum_map_set {α : Type} (f : α → Nat) {l : List α} {i : Nat} {a : α} (b : α)
    (h : l[i]? = some a) : ((l.set i b).map f).sum + f a = (l.map f).sum + f b := by
  induction l generalizing i with
  | nil => simp at h
  | cons x l ih =>
    cases i with
    | zero =>
      obtain rfl : x = a := by simpa using h
      simp only [List.set_cons_zero, List.map_cons, List.sum_cons]
      omega
    | succ i =>
      have := ih (i := i) (by simpa using h)
      simp only [List.set_cons_succ, List.map_cons, List.sum_cons]
      omega

theorem total_set {i : Nat} (slot : Option Stack) (h : slots[i]? = some none) :
    total q (slots.set i slot) = total q slots + portion q slot :=
  sum_map_set (portion q) slot h

/-! ## Insertion -/

theorem portion_topped (h : AmountFree q) (t : Stack) (n : Amount) :
    portion q (some (t.topped n)) =
      portion q (some t) + if q t then min t.freeSpace.val n.val else 0 := by
  have hpick : q (t.topped n) = q t := h t _
  rw [portion_some, portion_some, hpick, t.val_amount_topped]
  split <;> rfl

theorem portion_filled (h : AmountFree q) (s : Stack) (n : Amount) :
    portion q (some (s.filled n)) = if q s then min (max s.maxSize.val 1) n.val else 0 := by
  have hpick : q (s.filled n) = q s := h s _
  rw [portion_some, hpick, s.val_amount_filled]

theorem portion_topSlot (hq : KindOnly q) (s : Stack) (n : Amount) (slot : Option Stack) :
    portion q (topSlot s n slot) =
      portion q slot + if q s then min (topRoom s slot) n.val else 0 := by
  obtain ⟨hroom, hsame⟩ | ⟨t, rfl, -, hs, hroom, htop⟩ := topSlot_cases s slot
  · simp [hsame, hroom]
  · rw [htop, portion_topped hq.amountFree, hq.eq_of_similar hs, hroom]

theorem portion_fillSlot (hq : KindOnly q) (s : Stack) (n : Amount) (slot : Option Stack) :
    portion q (fillSlot s n slot) =
      portion q slot + if q s then min (freeRoom s slot) n.val else 0 := by
  obtain ⟨hnone, hsame⟩ | ⟨-, hslot, hfill⟩ := fillSlot_cases s n slot
  · simp [hsame, hnone]
  · rw [hfill, portion_filled hq.amountFree, portion_of_not_occupied hslot, Nat.zero_add,
      freeRoom_of_not_occupied hslot]

/-- Where every slot gains what it takes of the amount, for the picks of a stack, so does the
total. -/
theorem total_walk (h : ∀ n slot, portion q (change n slot) =
    portion q slot + if q s then min (share slot) n.val else 0) (n : Amount) (slots : Slots) :
    total q (walk change share n slots).1 +
        (if q s then (walk change share n slots).2.val else 0) =
      total q slots + if q s then n.val else 0 := by
  cases hqs : q s with
  | true => exact sum_walk_of_gain (fun n slot => by simpa [hqs] using h n slot) n slots
  | false =>
    have hsame : ∀ n, ∀ slot ∈ slots, portion q (change n slot) = portion q slot := by
      intro n slot _
      simpa [hqs] using h n slot
    exact congrArg List.sum (map_walk hsame n)

theorem total_topUp (hq : KindOnly q) (n : Amount) (slots : Slots) :
    total q (topUp s n slots).1 + (if q s then (topUp s n slots).2.val else 0) =
      total q slots + if q s then n.val else 0 := by
  rw [topUp_eq_walk]
  exact total_walk (portion_topSlot hq s) n slots

theorem total_fill (hq : KindOnly q) (n : Amount) (slots : Slots) :
    total q (fill s n slots).1 + (if q s then (fill s n slots).2.val else 0) =
      total q slots + if q s then n.val else 0 := by
  rw [fill_eq_walk]
  exact total_walk (portion_fillSlot hq s) n slots

theorem topUp_snd_le (s : Stack) (n : Amount) (slots : Slots) :
    (topUp s n slots).2.val ≤ n.val := by
  rw [topUp_eq_walk]
  exact walk_snd_le n slots

theorem fill_snd_le (s : Stack) (n : Amount) (slots : Slots) : (fill s n slots).2.val ≤ n.val := by
  rw [fill_eq_walk]
  exact walk_snd_le n slots

theorem add_snd_le (s : Stack) (slots : Slots) : (add s slots).2.val ≤ s.amount.val :=
  Nat.le_trans (fill_snd_le _ _ _) (topUp_snd_le _ _ _)

/-- What fits of a stack is added to the totals that pick it, and nothing else changes. -/
theorem total_add (hq : KindOnly q) (s : Stack) (slots : Slots) :
    total q (add s slots).1 + (if q s then (add s slots).2.val else 0) =
      total q slots + if q s then s.amount.val else 0 :=
  (total_fill hq _ _).trans (total_topUp hq _ _)

theorem total_add_eq (hq : KindOnly q) (s : Stack) (slots : Slots) :
    total q (add s slots).1 =
      total q slots + if q s then s.amount.val - (add s slots).2.val else 0 := by
  have hle := add_snd_le s slots
  have hadd := total_add hq s slots
  by_cases hqs : q s = true
  · simp only [hqs, if_true] at hadd ⊢
    omega
  · simp only [hqs, if_false, Bool.false_eq_true] at hadd ⊢
    exact hadd

theorem total_addInClientOrder (hq : KindOnly q) (s : Stack) (slots : Slots) :
    total q (addInClientOrder s slots).1 + (if q s then (addInClientOrder s slots).2.val else 0) =
      total q slots + if q s then s.amount.val else 0 := by
  have := total_add hq s (reverseSections slots)
  rw [total_reverseSections] at this
  rw [addInClientOrder, total_reverseSections]
  exact this

/-! ## Removal -/

theorem portion_removeSlot_of_imp (hq : AmountFree q) (h : ∀ t, p t = true → q t = true)
    (n : Amount) (slot : Option Stack) :
    portion q (removeSlot p n slot) + min (portion p slot) n.val = portion q slot := by
  obtain ⟨hnone, hsame⟩ | ⟨t, rfl, -, hp, htake⟩ := removeSlot_cases p slot
  · rw [hsame, hnone, Nat.zero_min, Nat.add_zero]
  · rw [htake, portion_decreasedBy hq, portion_some, portion_some, if_pos hp, if_pos (h t hp),
      if_pos (h t hp)]
    omega

theorem portion_removeSlot_of_disjoint (hq : AmountFree q) (h : ∀ t, p t = true → q t = false)
    (n : Amount) (slot : Option Stack) : portion q (removeSlot p n slot) = portion q slot := by
  obtain ⟨-, hsame⟩ | ⟨t, rfl, -, hp, htake⟩ := removeSlot_cases p slot
  · rw [hsame]
  · simp [htake, portion_decreasedBy hq, h t hp]

theorem remove_snd_le (pick : Pick) (n : Amount) (slots : Slots) :
    (remove pick n slots).2.val ≤ n.val := by
  rw [remove_eq_walk]
  exact walk_snd_le n slots

theorem total_remove_of_imp (hq : AmountFree q) (h : ∀ t, p t = true → q t = true) (n : Amount)
    (slots : Slots) :
    total q (remove p n slots).1 + n.val = total q slots + (remove p n slots).2.val := by
  rw [remove_eq_walk]
  exact sum_walk_of_loss (portion_removeSlot_of_imp hq h) n slots

theorem total_remove_of_disjoint (hq : AmountFree q) (h : ∀ t, p t = true → q t = false)
    (n : Amount) (slots : Slots) : total q (remove p n slots).1 = total q slots := by
  rw [remove_eq_walk]
  exact congrArg List.sum
    (map_walk (fun n slot _ => portion_removeSlot_of_disjoint hq h n slot) n)

/-- Taking stacks of one kind lowers the totals that pick this kind by what is found. -/
theorem total_remove (hq : KindOnly q) (hp : ∀ t, p t = true → t.similar s = true) (n : Amount)
    (slots : Slots) :
    total q (remove p n slots).1 + (if q s then n.val else 0) =
      total q slots + if q s then (remove p n slots).2.val else 0 := by
  by_cases hqs : q s = true
  · simp only [hqs, if_true]
    exact total_remove_of_imp hq.amountFree (fun t ht => hqs ▸ hq.eq_of_similar (hp t ht)) n slots
  · simp only [hqs]
    refine total_remove_of_disjoint hq.amountFree (fun t ht => ?_) n slots
    simpa [hqs] using hq.eq_of_similar (hp t ht)

end Bazaar.Slots
