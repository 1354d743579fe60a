import Bazaar.Proofs.Slots.Placement

/-! # The order of a client

An insertion in client order is an insertion into the slots with their sections reversed. As
reversing moves slots and changes none, just as much fits and the totals are the same. Stacks of
other kinds stay in their slots, and slots without items are used in the order of the client, each
filled up before the next.
-/

namespace Bazaar.Slots

variable {q : Pick} {s : Stack} {slot slot' : Option Stack} {i j len : Nat} {slots after : Slots}

/-! ## Reversed sections -/

/-- Where a slot goes when the hotbar and the slots behind it are reversed. -/
def mirror (len i : Nat) : Nat :=
  if i < hotbarSize then min hotbarSize len - 1 - i else hotbarSize + len - 1 - i

/-- Whether a client uses one slot before another: those of the hotbar first, and in each section
the last one first. -/
def UsedBefore (j i : Nat) : Prop :=
  (j < hotbarSize ∧ hotbarSize ≤ i) ∨ ((j < hotbarSize ↔ i < hotbarSize) ∧ i < j)

instance : Decidable (UsedBefore j i) := inferInstanceAs (Decidable (_ ∨ _))

theorem mirror_lt (h : i < len) : mirror len i < len := by
  unfold mirror hotbarSize
  split <;> omega

theorem mirror_mirror (h : i < len) : mirror len (mirror len i) = i := by
  unfold mirror hotbarSize
  split <;> split <;> omega

theorem mirror_lt_mirror (hi : i < len) (hj : j < len) (hji : UsedBefore j i) :
    mirror len j < mirror len i := by
  unfold UsedBefore hotbarSize at hji
  unfold mirror hotbarSize
  split <;> split <;> omega

theorem length_reverseSections (slots : Slots) : (reverseSections slots).length = slots.length :=
  (steady_reverseSections slots).length

theorem getElem?_reverseSections (h : i < slots.length) :
    (reverseSections slots)[i]? = slots[mirror slots.length i]? := by
  unfold reverseSections mirror
  by_cases hi : i < hotbarSize
  · have hlen : i < (slots.take hotbarSize).length := by
      rw [List.length_take]
      omega
    rw [if_pos hi, List.getElem?_append_left (by rwa [List.length_reverse]),
      List.getElem?_reverse hlen, List.length_take, List.getElem?_take_of_lt (by omega)]
  · have hsize : (slots.take hotbarSize).length = hotbarSize := by
      rw [List.length_take]
      omega
    have hlen : i - hotbarSize < (slots.drop hotbarSize).length := by
      rw [List.length_drop]
      omega
    rw [if_neg hi, List.getElem?_append_right (by rw [List.length_reverse]; omega),
      List.length_reverse, hsize, List.getElem?_reverse hlen, List.length_drop,
      List.getElem?_drop]
    congr 1
    omega

theorem reverseSections_reverseSections (slots : Slots) :
    reverseSections (reverseSections slots) = slots := by
  apply List.ext_getElem?
  intro i
  by_cases hi : i < slots.length
  · have hm := mirror_lt hi
    rw [getElem?_reverseSections (by rwa [length_reverseSections]), length_reverseSections,
      getElem?_reverseSections hm, mirror_mirror hi]
  · rw [List.getElem?_eq_none (by rw [length_reverseSections, length_reverseSections]; omega),
      List.getElem?_eq_none (by omega)]

theorem getElem?_mirror (h : i < slots.length) :
    (reverseSections slots)[mirror slots.length i]? = slots[i]? := by
  rw [getElem?_reverseSections (mirror_lt h), mirror_mirror h]

theorem perm_reverseSections (slots : Slots) : (reverseSections slots).Perm slots := by
  have hperm := (List.reverse_perm (slots.take hotbarSize)).append
    (List.reverse_perm (slots.drop hotbarSize))
  rwa [List.take_append_drop] at hperm

theorem room_reverseSections (s : Stack) (slots : Slots) :
    room s (reverseSections slots) = room s slots := by
  rw [← sum_roomIn, ← sum_roomIn]
  exact ((perm_reverseSections slots).map _).sum_eq

theorem Spares.reverseSections (hlen : after.length = slots.length) (h : slots.Spares q after) :
    (reverseSections slots).Spares q (reverseSections after) := by
  intro i t hi hq hne
  have hlt : i < slots.length := by
    rw [← length_reverseSections]
    exact (List.getElem?_eq_some_iff.1 hi).1
  rw [getElem?_reverseSections hlt] at hi
  rw [getElem?_reverseSections (by omega), hlen]
  exact h _ t hi hq hne

/-! ## Slots without items -/

/-- A slot without items is used only after those before it were filled up. -/
theorem filled_before_used (hji : j < i) (hi : slots[i]? = some slot) (hslot : occupied slot = false)
    (hj : slots[j]? = some slot') (hslot' : occupied slot' = false)
    (hused : (add s slots).1[i]? ≠ some slot) :
    (add s slots).1[j]? = some (some (s.withAmount (max s.maxSize 1))) := by
  have hi := getElem?_topUp_of_not_occupied (s := s) hi hslot s.amount
  have hj := getElem?_topUp_of_not_occupied (s := s) hj hslot' s.amount
  unfold add at hused ⊢
  dsimp only at hused ⊢
  generalize (topUp s s.amount slots).1 = mid at hi hj hused ⊢
  generalize (topUp s s.amount slots).2 = left at hused ⊢
  rw [getElem?_fill, hi, Option.map_some] at hused
  rw [getElem?_fill, hj, Option.map_some]
  have hleft : 0 < (left - .ofNat (sharesBefore (freeRoom s) mid i)).val := by
    rw [Amount.val_pos_iff]
    intro hzero
    apply hused
    rw [hzero, fillSlot_zero]
  have hlt := lt_of_left hj hji hleft
  generalize left - .ofNat (sharesBefore (freeRoom s) mid j) = m at hlt ⊢
  rw [freeRoom_of_not_occupied hslot'] at hlt
  have hm : m ≠ 0 := Amount.val_pos_iff.1 (by omega)
  have hmin : min (max s.maxSize 1) m = max s.maxSize 1 := by
    apply Amount.ext
    rw [Amount.val_min, Amount.val_max, Amount.val_one]
    omega
  rw [fillSlot_of_not_occupied hslot' hm, Stack.filled, hmin]

/-! ## The whole insertion -/

theorem addInClientOrder_snd (s : Stack) (slots : Slots) :
    (addInClientOrder s slots).2 = (add s slots).2 := by
  apply Amount.ext
  change (add s (reverseSections slots)).2.val = _
  rw [add_snd_val, add_snd_val, room_reverseSections]

theorem spares_addInClientOrder (hq : KindOnly q) (hs : q s = false) (slots : Slots) :
    slots.Spares q (addInClientOrder s slots).1 := by
  have hlen := (steady_add s (reverseSections slots)).length
  have hspares := (spares_add hq hs (reverseSections slots)).reverseSections hlen
  rwa [reverseSections_reverseSections] at hspares

/-- A client uses its slots without items in its own order, each filled up before the next. -/
theorem filled_before_used_inClientOrder (hji : UsedBefore j i) (hi : slots[i]? = some slot)
    (hslot : occupied slot = false) (hj : slots[j]? = some slot') (hslot' : occupied slot' = false)
    (hused : (addInClientOrder s slots).1[i]? ≠ some slot) :
    (addInClientOrder s slots).1[j]? = some (some (s.withAmount (max s.maxSize 1))) := by
  have hilt := (List.getElem?_eq_some_iff.1 hi).1
  have hjlt := (List.getElem?_eq_some_iff.1 hj).1
  have hlen : (add s (reverseSections slots)).1.length = slots.length :=
    (steady_add s _).length.trans (length_reverseSections slots)
  have hmirror : ∀ k, k < slots.length → (addInClientOrder s slots).1[k]? =
      (add s (reverseSections slots)).1[mirror slots.length k]? := by
    intro k hk
    rw [← hlen] at hk ⊢
    exact getElem?_reverseSections hk
  rw [hmirror i hilt] at hused
  rw [hmirror j hjlt]
  rw [← getElem?_mirror hilt] at hi
  rw [← getElem?_mirror hjlt] at hj
  exact filled_before_used (mirror_lt_mirror hilt hjlt hji) hi hslot hj hslot' hused

/-- The order of a client decides which slots are used, and nothing else: as much is left over as by
a plain insertion, the totals are the same, and stacks of other kinds stay in their slots. -/
theorem clientOrder_only_moves (s : Stack) (slots : Slots) :
    (addInClientOrder s slots).2 = (add s slots).2 ∧
    (∀ κ, total (ofKind κ) (addInClientOrder s slots).1 = total (ofKind κ) (add s slots).1) ∧
    (addInClientOrder s slots).1.length = slots.length ∧
    slots.Spares (fun t => !t.similar s) (addInClientOrder s slots).1 ∧
    (∀ (i j : Nat) (slot slot' : Option Stack), UsedBefore j i →
      slots[i]? = some slot → occupied slot = false →
      slots[j]? = some slot' → occupied slot' = false →
      (addInClientOrder s slots).1[i]? ≠ some slot →
      ∃ t, (addInClientOrder s slots).1[j]? = some (some t) ∧ t.similar s = true ∧
        max 1 s.maxSize.val ≤ t.amount.val) := by
  refine ⟨addInClientOrder_snd s slots, ?_, (steady_addInClientOrder s slots).length, ?_, ?_⟩
  · intro κ
    have hclient := total_addInClientOrder (kindOnly_ofKind κ) s slots
    have hplain := total_add (kindOnly_ofKind κ) s slots
    rw [addInClientOrder_snd] at hclient
    omega
  · apply spares_addInClientOrder
    · intro t u h
      simp [Stack.similar, h]
    · simp [Stack.similar]
  · intro i j slot slot' hji hi hslot hj hslot' hused
    refine ⟨_, filled_before_used_inClientOrder hji hi hslot hj hslot' hused, ?_, ?_⟩
    · simp [Stack.similar, Stack.withAmount]
    · rw [Stack.withAmount, Amount.val_max, Amount.val_one, Nat.max_comm]

def crowdedStorage : Slots :=
  none :: List.replicate 7 (some (.plain "dirt" 64)) ++ [some (.plain "emerald" 0), none, none]

theorem clientOrder_only_moves_crowdedStorage :
    UsedBefore 0 10 ∧ crowdedStorage[10]? = some none ∧ crowdedStorage[0]? = some none ∧
    (addInClientOrder (.plain "emerald" 150) crowdedStorage).1[10]? ≠ some none ∧
    (∃ t, (addInClientOrder (.plain "emerald" 150) crowdedStorage).1[0]? = some (some t) ∧
      t.similar (.plain "emerald" 150) = true ∧ 64 ≤ t.amount.val) ∧
    (addInClientOrder (.plain "emerald" 150) crowdedStorage).2 = 0 := by
  have h := clientOrder_only_moves (.plain "emerald" 150) crowdedStorage
  have hused : (addInClientOrder (.plain "emerald" 150) crowdedStorage).1[10]? ≠ some none := by
    decide
  have hbefore : UsedBefore 0 10 := by decide
  have hfilled := h.2.2.2.2 10 0 none none hbefore rfl rfl rfl rfl hused
  exact ⟨hbefore, rfl, rfl, hused, hfilled, h.1.trans (by decide)⟩

end Bazaar.Slots
