import Bazaar.Proofs.Ledger.Booking
import Mathlib.Data.List.Induction
import Mathlib.Data.List.Nodup

/-! # Heard events

A ledger that listens to events books every solid trade when it first hears of it, and passes over
what it cannot book. It therefore holds the bookings of trades with different ids, whatever it has
heard, and each of them is balanced.
-/

namespace Bazaar

variable {d : CommittedTrade} {ds : List CommittedTrade} {e : Event} {es : List Event}
  {l : Ledger} {id : TradeId}

namespace CommittedTrade

theorem solid_iff :
    d.Solid ↔ d.paid1.isEmpty = false ∧ (∀ s ∈ d.paid2, s.isEmpty = false) ∧
      d.recipe.result.isEmpty = false := by
  constructor
  · intro h
    exact ⟨h.paid1, h.paid2, h.result⟩
  · rintro ⟨h1, h2, h3⟩
    exact ⟨h1, h2, h3⟩

instance : DecidablePred Solid := fun _ => decidable_of_iff' _ solid_iff

theorem entries_eq_error (h : ¬ d.Solid) : d.entries = .error .zeroAmount := by
  unfold entries
  simp only [make_payment, make_delivery]
  rw [solid_iff] at h
  cases h1 : d.paid1.isEmpty
  case true => simp [h1, Except.bind, bind]
  case false =>
    cases h2 : d.paid2 with
    | none =>
      have h3 : d.recipe.result.isEmpty = true := by simpa [h1, h2] using h
      simp [h1, h3, Except.bind, Except.map, bind, pure, Except.pure]
    | some s =>
      cases hs : s.isEmpty
      case true => simp [h1, hs, Except.bind, bind]
      case false =>
        have h3 : d.recipe.result.isEmpty = true := by simpa [h1, h2, hs] using h
        simp [h1, hs, h3, Except.bind, Except.map, bind, pure, Except.pure]

end CommittedTrade

namespace Ledger

def book (l : Ledger) (d : CommittedTrade) : Ledger :=
  { l with entries := l.entries ++ d.bookings, trades := l.tradesWith d.trade }

/-- A trade is refused when its id is known, and else when one of its stacks is empty. -/
theorem recordCommitted_eq (l : Ledger) (d : CommittedTrade) :
    l.recordCommitted d =
      if d.trade ∈ l.trades then (.error (.duplicateTrade d.trade), l)
      else if d.Solid then (.ok (), l.book d) else (.error .zeroAmount, l) := by
  unfold recordCommitted
  by_cases hknown : d.trade ∈ l.trades
  · rw [if_pos hknown, if_pos hknown]
  · rw [if_neg hknown, if_neg hknown]
    by_cases hd : d.Solid
    · rw [CommittedTrade.entries_eq_ok hd, if_pos hd]
      rfl
    · rw [CommittedTrade.entries_eq_error hd, if_neg hd]

theorem listen_committed (l : Ledger) (d : CommittedTrade) :
    l.listen (.committed d) = if d.trade ∉ l.trades ∧ d.Solid then l.book d else l := by
  have hrecord : l.record (.committed d) = l.recordCommitted d := rfl
  rw [listen, hrecord, recordCommitted_eq]
  by_cases hknown : d.trade ∈ l.trades
  · simp [hknown]
  · by_cases hd : d.Solid
    · simp [hknown, hd]
    · simp [hknown, hd]

/-- What a ledger holds after some events: the bookings of trades that were told, among them one for
every id under which a solid trade was told. -/
structure Holds (l : Ledger) (es : List Event) (ds : List CommittedTrade) : Prop where
  entries : l.entries = ds.flatMap (·.bookings)
  trades : l.trades = ds.map (·.trade)
  nodup : (ds.map (·.trade)).Nodup
  told : ∀ d ∈ ds, d ∈ commitsOf es ∧ d.Solid
  complete : ∀ d ∈ commitsOf es, d.Solid → d.trade ∈ ds.map (·.trade)
  aborts : l.aborts = (abortsOf es).map (·.reason)
  refreshes : l.refreshes = refreshesOf es

/-- Hearing of a trade adds it to what is held if its id is new and all its stacks hold something. -/
theorem Holds.committed (h : l.Holds es ds) (d : CommittedTrade) :
    ∃ ds', (l.listen (.committed d)).Holds (es ++ [.committed d]) ds' := by
  have hcommits : ∀ d', d' ∈ commitsOf (es ++ [.committed d]) ↔ d' ∈ commitsOf es ∨ d' = d := by
    intro d'
    rw [commitsOf_append, List.mem_append]
    simp [commitsOf, Event.committed?]
  have haborts : abortsOf (es ++ [.committed d]) = abortsOf es := by simp [abortsOf, Event.aborted?]
  have hrefreshes : refreshesOf (es ++ [.committed d]) = refreshesOf es := by
    simp [refreshesOf, Event.isRefresh]
  have htold : ∀ d' ∈ ds, d' ∈ commitsOf (es ++ [.committed d]) ∧ d'.Solid := by
    intro d' hd'
    exact ⟨(hcommits d').2 (Or.inl (h.told d' hd').1), (h.told d' hd').2⟩
  rw [listen_committed]
  by_cases hnew : d.trade ∉ l.trades ∧ d.Solid
  · rw [if_pos hnew]
    refine ⟨ds ++ [d], ?_, ?_, ?_, ?_, ?_, haborts ▸ h.aborts, hrefreshes ▸ h.refreshes⟩
    · simp [book, h.entries]
    · rw [book, tradesWith, if_neg hnew.1, h.trades, List.map_append]
      rfl
    · rw [List.map_append, List.map_singleton, ← List.concat_eq_append]
      exact List.Nodup.concat (h.trades ▸ hnew.1) h.nodup
    · intro d' hd'
      rcases List.mem_append.1 hd' with hd' | hd'
      · exact htold d' hd'
      · obtain rfl := List.mem_singleton.1 hd'
        exact ⟨(hcommits d').2 (Or.inr rfl), hnew.2⟩
    · intro d' hd' hsolid
      rw [List.map_append, List.mem_append]
      rcases (hcommits d').1 hd' with hd' | rfl
      · exact Or.inl (h.complete d' hd' hsolid)
      · exact Or.inr List.mem_cons_self
  · rw [if_neg hnew]
    refine ⟨ds, h.entries, h.trades, h.nodup, htold, ?_, haborts ▸ h.aborts,
      hrefreshes ▸ h.refreshes⟩
    intro d' hd' hsolid
    rcases (hcommits d').1 hd' with hd' | rfl
    · exact h.complete d' hd' hsolid
    · have hknown : d'.trade ∈ l.trades := by
        by_contra hfresh
        exact hnew ⟨hfresh, hsolid⟩
      exact h.trades ▸ hknown

theorem Holds.listen (h : l.Holds es ds) (e : Event) :
    ∃ ds', (l.listen e).Holds (es ++ [e]) ds' := by
  cases e with
  | committed d => exact h.committed d
  | aborted a =>
    have hcommits : commitsOf (es ++ [.aborted a]) = commitsOf es := by
      simp [commitsOf, Event.committed?]
    refine ⟨ds, h.entries, h.trades, h.nodup, hcommits ▸ h.told, hcommits ▸ h.complete, ?_, ?_⟩
    · simp [Ledger.listen, record, recordAborted, h.aborts, abortsOf, Event.aborted?]
    · simp [Ledger.listen, record, recordAborted, h.refreshes, refreshesOf, Event.isRefresh]
  | recipesChanged shop actor =>
    have hcommits : commitsOf (es ++ [.recipesChanged shop actor]) = commitsOf es := by
      simp [commitsOf, Event.committed?]
    refine ⟨ds, h.entries, h.trades, h.nodup, hcommits ▸ h.told, hcommits ▸ h.complete, ?_, ?_⟩
    · simp [Ledger.listen, record, h.aborts, abortsOf, Event.aborted?]
    · simp [Ledger.listen, record, h.refreshes, refreshesOf, Event.isRefresh]

def heard (es : List Event) : Ledger := es.foldl listen {}

theorem exists_holds (es : List Event) : ∃ ds, (heard es).Holds es ds := by
  induction es using List.reverseRecOn with
  | nil => exact ⟨[], rfl, rfl, List.nodup_nil, by simp, by simp [commitsOf], rfl, rfl⟩
  | append_singleton es e ih =>
    obtain ⟨ds, h⟩ := ih
    unfold heard
    rw [List.foldl_concat]
    exact h.listen e

/-! ## Entries of a trade -/

theorem Holds.entriesFor_of_mem (h : l.Holds es ds) (hd : d ∈ ds) :
    l.entriesFor d.trade = d.bookings := by
  unfold entriesFor
  rw [h.entries]
  exact filter_bookings_of_mem h.nodup hd

theorem Holds.entriesFor_of_not_mem (h : l.Holds es ds) (hid : id ∉ l.trades) :
    l.entriesFor id = [] := by
  unfold entriesFor
  rw [h.entries]
  exact filter_bookings_of_not_mem (h.trades ▸ hid)

theorem Holds.balance (h : l.Holds es ds) (id : TradeId) :
    l.balance id = if id ∈ l.trades then .balanced else .unknown := by
  by_cases hid : id ∈ l.trades
  · rw [if_pos hid]
    obtain ⟨d, hd, rfl⟩ := List.mem_map.1 (h.trades ▸ hid)
    exact balance_of_bookings (h.entriesFor_of_mem hd)
  · rw [if_neg hid]
    simp [Ledger.balance, h.entriesFor_of_not_mem hid]

end Ledger

end Bazaar
