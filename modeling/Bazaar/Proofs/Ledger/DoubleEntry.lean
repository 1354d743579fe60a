import Bazaar.Proofs.Ledger.History

/-! # What counts as balanced

A trade is balanced when its entries are a double entry: one or two payments from one party to
another and one delivery back. A sound double entry is one between an actor who pays and a shop that
delivers. The verdict does not look at which sort of party stands where, so it tells sound double
entries from all other entries only as far as appended entries go between the parties that their
kind allows.
-/

namespace Bazaar

variable {e : Entry} {es : List Entry} {payer payee : Party} {l : Ledger} {id : TradeId}

namespace Entry

def Directed (e : Entry) : Prop :=
  e.source.kind = e.kind.parties.1 ∧ e.target.kind = e.kind.parties.2

/-- One or two payments from one party to another, and one delivery back. -/
structure IsDoubleEntry (es : List Entry) (payer payee : Party) : Prop where
  payments : es.countP (·.kind = .payment) ∈ [1, 2]
  deliveries : es.countP (·.kind = .delivery) = 1
  paid : ∀ e ∈ es, e.kind = .payment → e.source = payer ∧ e.target = payee
  delivered : ∀ e ∈ es, e.kind = .delivery → e.source = payee ∧ e.target = payer

/-- A double entry in which an actor pays and a shop delivers. -/
def IsSoundDoubleEntry (es : List Entry) : Prop :=
  ∃ actor shop, IsDoubleEntry es (.actor actor) (.shop shop)

theorem IsDoubleEntry.exists_payment (h : IsDoubleEntry es payer payee) :
    ∃ e ∈ es, e.kind = .payment ∧ e.source = payer ∧ e.target = payee := by
  have hpos : 0 < es.countP (·.kind = .payment) := by
    have := h.payments
    simp only [List.mem_cons, List.not_mem_nil, or_false] at this
    omega
  obtain ⟨e, he, hkind⟩ := List.countP_pos_iff.1 hpos
  have hkind : e.kind = .payment := by simpa using hkind
  exact ⟨e, he, hkind, h.paid e he hkind⟩

theorem IsDoubleEntry.sound_iff (h : IsDoubleEntry es payer payee) :
    IsSoundDoubleEntry es ↔ payer.kind = .actor ∧ payee.kind = .shop := by
  constructor
  · rintro ⟨actor, shop, hsound⟩
    obtain ⟨e, he, hkind, rfl, rfl⟩ := h.exists_payment
    obtain ⟨hsource, htarget⟩ := hsound.paid e he hkind
    rw [hsource, htarget]
    exact ⟨rfl, rfl⟩
  · rintro ⟨hpayer, hpayee⟩
    cases payer with
    | shop => cases hpayer
    | actor actor =>
      cases payee with
      | actor => cases hpayee
      | shop shop => exact ⟨actor, shop, h⟩

theorem isSoundDoubleEntry_iff_of_directed (h : ∀ e ∈ es, e.Directed) :
    IsSoundDoubleEntry es ↔ ∃ payer payee, IsDoubleEntry es payer payee := by
  constructor
  · rintro ⟨actor, shop, hsound⟩
    exact ⟨_, _, hsound⟩
  · rintro ⟨payer, payee, hdouble⟩
    obtain ⟨e, he, hkind, rfl, rfl⟩ := hdouble.exists_payment
    rw [hdouble.sound_iff]
    have hdirected := h e he
    rwa [Directed, hkind] at hdirected

theorem isDoubleEntry_iff_filter :
    IsDoubleEntry es payer payee ↔
      (es.filter (·.kind = .payment)).length ∈ [1, 2] ∧
        ∃ d, es.filter (·.kind = .delivery) = [d] ∧ d.source = payee ∧ d.target = payer ∧
          ∀ p ∈ es.filter (·.kind = .payment), p.source = payer ∧ p.target = payee := by
  have hmem : ∀ kind, ∀ e, e ∈ es.filter (·.kind = kind) ↔ e ∈ es ∧ e.kind = kind := by
    intro kind e
    simp
  constructor
  · rintro ⟨hpayments, hdeliveries, hpaid, hdelivered⟩
    rw [List.countP_eq_length_filter] at hpayments hdeliveries
    obtain ⟨d, hd⟩ := List.length_eq_one_iff.1 hdeliveries
    obtain ⟨hdes, hdkind⟩ := (hmem .delivery d).1 (hd ▸ List.mem_singleton_self d)
    obtain ⟨hsource, htarget⟩ := hdelivered d hdes hdkind
    refine ⟨hpayments, d, hd, hsource, htarget, fun p hp => ?_⟩
    obtain ⟨hpes, hpkind⟩ := (hmem .payment p).1 hp
    exact hpaid p hpes hpkind
  · rintro ⟨hpayments, d, hd, hsource, htarget, hpaid⟩
    refine ⟨?_, ?_, fun e he hkind => hpaid e ((hmem .payment e).2 ⟨he, hkind⟩), ?_⟩
    · rwa [List.countP_eq_length_filter]
    · rw [List.countP_eq_length_filter, hd]
      rfl
    · intro e he hkind
      have hed : e ∈ [d] := hd ▸ (hmem .delivery e).2 ⟨he, hkind⟩
      obtain rfl := List.mem_singleton.1 hed
      exact ⟨hsource, htarget⟩

end Entry

open Entry

theorem CommittedTrade.directed_of_mem_bookings {d : CommittedTrade} (h : e ∈ d.bookings) :
    e.Directed := by
  rcases List.mem_append.1 h with h | h
  · obtain ⟨s, -, rfl⟩ := List.mem_map.1 h
    exact ⟨rfl, rfl⟩
  · obtain rfl := List.mem_singleton.1 h
    exact ⟨rfl, rfl⟩

namespace Ledger

/-! ## The verdict on entries -/

theorem eq_nil_of_no_kind (hp : es.filter (·.kind = .payment) = [])
    (hd : es.filter (·.kind = .delivery) = []) : es = [] := by
  rw [List.filter_eq_nil_iff] at hp hd
  apply List.eq_nil_iff_forall_not_mem.2
  intro e he
  cases hkind : e.kind with
  | payment => exact hp e he (by simp [hkind])
  | delivery => exact hd e he (by simp [hkind])

theorem balance_eq_unknown_iff : l.balance id = .unknown ↔ l.entriesFor id = [] := by
  constructor
  · intro h
    unfold balance at h
    dsimp only at h
    split at h
    case isTrue hnone =>
      obtain ⟨hp, hd⟩ := Bool.and_eq_true_iff.1 hnone
      exact eq_nil_of_no_kind (List.isEmpty_iff.1 hp) (List.isEmpty_iff.1 hd)
    case isFalse =>
      -- Every other verdict is one on entries that are there.
      split at h
      · cases h
      · split at h
        · split at h <;> cases h
        · cases h
  · intro h
    simp [balance, h]

theorem balance_eq_balanced_iff_filter :
    l.balance id = .balanced ↔
      ((l.entriesFor id).filter (·.kind = .payment)).length ∈ [1, 2] ∧
        ∃ d, (l.entriesFor id).filter (·.kind = .delivery) = [d] ∧
          ∀ p ∈ (l.entriesFor id).filter (·.kind = .payment),
            p.source = d.target ∧ p.target = d.source := by
  unfold balance
  generalize (l.entriesFor id).filter (·.kind = .payment) = payments
  generalize (l.entriesFor id).filter (·.kind = .delivery) = deliveries
  dsimp only
  simp only [List.mem_cons, List.not_mem_nil, or_false]
  constructor
  · intro h
    split at h
    · cases h
    split at h
    · cases h
    case isFalse hnumber =>
      split at h
      case h_2 => cases h
      case h_1 =>
        split at h
        case isFalse => cases h
        case isTrue hparties =>
          simp only [Bool.or_eq_true, decide_eq_true_eq, not_or, Nat.not_lt] at hnumber
          simp only [List.all_eq_true, Bool.and_eq_true, decide_eq_true_eq] at hparties
          exact ⟨by omega, _, rfl, hparties⟩
  · rintro ⟨hnumber, d, rfl, hparties⟩
    have hmany : ¬ (decide (payments.length = 0) || decide (2 < payments.length)) = true := by
      simp only [Bool.or_eq_true, decide_eq_true_eq]
      omega
    rw [if_neg (by simp), if_neg hmany]
    refine if_pos ?_
    simpa only [List.all_eq_true, Bool.and_eq_true, decide_eq_true_eq] using hparties

/-- The entries of a trade are balanced exactly when they are a double entry, whoever the parties. -/
theorem balance_eq_balanced_iff :
    l.balance id = .balanced ↔ ∃ payer payee, IsDoubleEntry (l.entriesFor id) payer payee := by
  rw [balance_eq_balanced_iff_filter]
  constructor
  · rintro ⟨hpayments, d, hd, hpaid⟩
    exact ⟨d.target, d.source, isDoubleEntry_iff_filter.2 ⟨hpayments, d, hd, rfl, rfl, hpaid⟩⟩
  · rintro ⟨payer, payee, hdouble⟩
    obtain ⟨hpayments, d, hd, rfl, rfl, hpaid⟩ := isDoubleEntry_iff_filter.1 hdouble
    exact ⟨hpayments, d, hd, hpaid⟩

/-! ## Directed entries -/

/-- A call brings in nothing but directed entries, unless it appends one as it is. -/
theorem mem_entries_call {c : Call} (h : e ∈ (l.call c).2.entries) :
    e ∈ l.entries ∨ c = .append e ∨ e.Directed := by
  cases ht : c.trade? with
  | some d =>
    rw [call_of_trade? ht] at h
    split at h
    · exact Or.inl h
    split at h
    · rcases List.mem_append.1 h with h | h
      · exact Or.inl h
      · exact Or.inr (Or.inr (CommittedTrade.directed_of_mem_bookings h))
    · exact Or.inl h
  | none =>
    cases c with
    | commit d => cases ht
    | event e' =>
      cases e' with
      | committed d => cases ht
      | aborted a => exact Or.inl h
      | recipesChanged shop actor => exact Or.inl h
    | abort a => exact Or.inl h
    | append e' =>
      rcases List.mem_append.1 h with h | h
      · exact Or.inl h
      · obtain rfl := List.mem_singleton.1 h
        exact Or.inr (Or.inl rfl)

theorem mem_entries_history {cs : List Call} (h : e ∈ (history cs).entries) :
    .append e ∈ cs ∨ e.Directed := by
  have hfold : ∀ l : Ledger, e ∈ (cs.foldl (fun l c => (l.call c).2) l).entries →
      e ∈ l.entries ∨ .append e ∈ cs ∨ e.Directed := by
    clear h
    induction cs with
    | nil =>
      intro l h
      exact Or.inl h
    | cons c cs ih =>
      intro l h
      rcases ih _ h with h | h | h
      · rcases mem_entries_call h with h | rfl | h
        · exact Or.inl h
        · exact Or.inr (Or.inl List.mem_cons_self)
        · exact Or.inr (Or.inr h)
      · exact Or.inr (Or.inl (List.mem_cons_of_mem _ h))
      · exact Or.inr (Or.inr h)
  rcases hfold {} h with h | h
  · cases h
  · exact h

theorem mem_entriesFor : e ∈ l.entriesFor id ↔ e ∈ l.entries ∧ e.trade = id := by
  simp [entriesFor]

/-- After any history of calls an id without entries is unknown, entries that are a double entry are
balanced, and all others are unbalanced. Balanced entries are sound exactly when the parties of a
double entry are an actor and a shop, and so whenever all that was appended under the id is
directed. -/
theorem balance_of_history (cs : List Call) (id : TradeId) :
    ((history cs).balance id = .unknown ↔ ∀ e ∈ (history cs).entries, e.trade ≠ id) ∧
    ((history cs).balance id = .balanced ↔
      ∃ payer payee, IsDoubleEntry ((history cs).entriesFor id) payer payee) ∧
    ((∃ why, (history cs).balance id = .unbalanced why) ↔
      (∃ e ∈ (history cs).entries, e.trade = id) ∧
        ¬ ∃ payer payee, IsDoubleEntry ((history cs).entriesFor id) payer payee) ∧
    (((history cs).balance id = .balanced ↔ IsSoundDoubleEntry ((history cs).entriesFor id)) ↔
      ∀ payer payee, IsDoubleEntry ((history cs).entriesFor id) payer payee →
        payer.kind = .actor ∧ payee.kind = .shop) ∧
    ((∀ e, .append e ∈ cs → e.trade = id → e.Directed) →
      ((history cs).balance id = .balanced ↔ IsSoundDoubleEntry ((history cs).entriesFor id))) := by
  have hnone : (history cs).entriesFor id = [] ↔ ∀ e ∈ (history cs).entries, e.trade ≠ id := by
    simp [entriesFor]
  have hunknown : (history cs).balance id = .unknown ↔ ∀ e ∈ (history cs).entries, e.trade ≠ id :=
    balance_eq_unknown_iff.trans hnone
  have hbalanced : (history cs).balance id = .balanced ↔
      ∃ payer payee, IsDoubleEntry ((history cs).entriesFor id) payer payee :=
    balance_eq_balanced_iff
  refine ⟨hunknown, hbalanced, ?_, ?_, ?_⟩
  · have hsome : (∃ e ∈ (history cs).entries, e.trade = id) ↔
        (history cs).balance id ≠ .unknown := by
      rw [Ne, hunknown]
      simp
    rw [hsome, ← hbalanced]
    cases (history cs).balance id <;> simp
  · rw [hbalanced]
    constructor
    · intro h payer payee hdouble
      exact hdouble.sound_iff.1 (h.1 ⟨payer, payee, hdouble⟩)
    · intro h
      constructor
      · rintro ⟨payer, payee, hdouble⟩
        exact hdouble.sound_iff.2 (h payer payee hdouble)
      · rintro ⟨actor, shop, hsound⟩
        exact ⟨_, _, hsound⟩
  · intro h
    refine hbalanced.trans (isSoundDoubleEntry_iff_of_directed fun e he => ?_).symm
    obtain ⟨hmem, hid⟩ := mem_entriesFor.1 he
    rcases mem_entries_history hmem with happend | hdirected
    · exact h e happend hid
    · exact hdirected

def reversedCalls : List Call :=
  [.append
    { trade := .ofNat 1, kind := .payment, source := .shop (.ofNat 2), target := .actor (.ofNat 3)
      item := .plain "emerald" 3 },
    .append
    { trade := .ofNat 1, kind := .delivery, source := .actor (.ofNat 3), target := .shop (.ofNat 2)
      item := .plain "diamond" 1 }]

/-- Not only sound double entries are balanced: appended entries may have an actor and a shop in each
other's place. -/
theorem exists_balanced_reversed_entries :
    ¬ ∀ (cs : List Call) (id : TradeId),
      (history cs).balance id = .balanced ↔ IsSoundDoubleEntry ((history cs).entriesFor id) := by
  intro h
  obtain ⟨actor, shop, hsound⟩ := (h reversedCalls (.ofNat 1)).1 (by decide)
  have hpayment := hsound.paid (history reversedCalls).entries[0]
    (mem_entriesFor.2 ⟨List.getElem_mem _, rfl⟩) rfl
  cases hpayment.1

end Ledger

end Bazaar
