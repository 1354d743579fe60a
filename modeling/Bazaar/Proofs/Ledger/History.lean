import Bazaar.Proofs.Ledger.Heard
import Mathlib.Data.List.Dedup

/-! # Histories of a ledger

Entries come into a ledger with recorded trades, or they are appended as they are. However the two
are mixed, the entries only grow, the booked ids are those of the entries, and a trade is refused
exactly for a known id or an empty stack. Without appended entries every trade is balanced.
-/

namespace Bazaar.Ledger

variable {l : Ledger} {d : CommittedTrade} {id : TradeId}

inductive Call
  | commit (d : CommittedTrade)
  | event (e : Event)
  | abort (a : AbortedTrade)
  | append (e : Entry)

namespace Call

def trade? : Call → Option CommittedTrade
  | .commit d | .event (.committed d) => some d
  | _ => none

/-- The event that a call tells of. Appended entries tell of none. -/
def event? : Call → Option Event
  | .commit d => some (.committed d)
  | .event e => some e
  | .abort a => some (.aborted a)
  | .append _ => none

end Call

def call (l : Ledger) : Call → InPlace LedgerError Ledger
  | .commit d => l.recordCommitted d
  | .event e => l.record e
  | .abort a => (.ok (), l.recordAborted a)
  | .append e => (.ok (), l.append e)

/-- The ledger after some calls, which starts empty. -/
def history (cs : List Call) : Ledger := cs.foldl (fun l c => (l.call c).2) {}

variable {c : Call} {cs : List Call}

/-! ## One call -/

theorem call_of_trade? (h : c.trade? = some d) :
    l.call c =
      if d.trade ∈ l.trades then (.error (.duplicateTrade d.trade), l)
      else if d.Solid then (.ok (), l.book d) else (.error .zeroAmount, l) := by
  have hcall : l.call c = l.recordCommitted d := by
    cases c with
    | commit d' =>
      obtain rfl := Option.some.inj h
      rfl
    | event e =>
      cases e with
      | committed d' =>
        obtain rfl := Option.some.inj h
        rfl
      | aborted a => cases h
      | recipesChanged shop actor => cases h
    | abort a => cases h
    | append e => cases h
  rw [hcall, recordCommitted_eq]

/-- A call that wants no trade booked is never refused. It appends one entry or none. -/
theorem call_of_trade?_eq_none (h : c.trade? = none) :
    (l.call c).1 = .ok () ∧
      ((l.call c).2.entries = l.entries ∧ (l.call c).2.trades = l.trades ∨
        ∃ e, (l.call c).2 = l.append e) := by
  cases c with
  | commit d => cases h
  | event e =>
    cases e with
    | committed d => cases h
    | aborted a => exact ⟨rfl, Or.inl ⟨rfl, rfl⟩⟩
    | recipesChanged shop actor => exact ⟨rfl, Or.inl ⟨rfl, rfl⟩⟩
  | abort a => exact ⟨rfl, Or.inl ⟨rfl, rfl⟩⟩
  | append e => exact ⟨rfl, Or.inr ⟨e, rfl⟩⟩

theorem call_of_event? {e : Event} (h : c.event? = some e) : (l.call c).2 = l.listen e := by
  cases c with
  | append _ => cases h
  | commit | event | abort =>
    obtain rfl := Option.some.inj h
    rfl

theorem prefix_call (l : Ledger) (c : Call) : l.entries <+: (l.call c).2.entries := by
  cases h : c.trade? with
  | none =>
    obtain ⟨-, ⟨hsame, -⟩ | ⟨e, happend⟩⟩ := call_of_trade?_eq_none (l := l) h
    · exact hsame ▸ List.prefix_rfl
    · rw [happend]
      exact List.prefix_append _ _
  | some d =>
    rw [call_of_trade? h]
    split
    · exact List.prefix_rfl
    · split
      · exact List.prefix_append _ _
      · exact List.prefix_rfl

theorem call_of_error {why : LedgerError} (h : (l.call c).1 = .error why) : (l.call c).2 = l := by
  cases ht : c.trade? with
  | none =>
    rw [(call_of_trade?_eq_none ht).1] at h
    cases h
  | some d =>
    -- A trade is refused before anything of it is booked.
    rw [call_of_trade? ht] at h ⊢
    split
    case isTrue => rfl
    case isFalse hnew =>
      rw [if_neg hnew] at h
      split
      case isTrue hsolid =>
        rw [if_pos hsolid] at h
        cases h
      case isFalse => rfl

/-! ## Booked ids -/

/-- The booked ids are those of the entries, each once. -/
structure Indexed (l : Ledger) : Prop where
  nodup : l.trades.Nodup
  mem_iff : ∀ id, id ∈ l.trades ↔ ∃ e ∈ l.entries, e.trade = id

theorem nodup_tradesWith (h : l.trades.Nodup) (id : TradeId) : (l.tradesWith id).Nodup := by
  unfold tradesWith
  split
  case isTrue => exact h
  case isFalse hnew =>
    rw [← List.concat_eq_append]
    exact List.Nodup.concat hnew h

theorem mem_tradesWith {id' : TradeId} : id' ∈ l.tradesWith id ↔ id' ∈ l.trades ∨ id' = id := by
  unfold tradesWith
  split
  case isTrue hknown =>
    constructor
    · exact Or.inl
    · rintro (hid | rfl)
      · exact hid
      · exact hknown
  case isFalse => simp

theorem Indexed.extend {es : List Entry} (h : l.Indexed) (hid : ∀ e ∈ es, e.trade = id)
    (hne : es ≠ []) :
    Indexed { l with entries := l.entries ++ es, trades := l.tradesWith id } where
  nodup := nodup_tradesWith h.nodup id
  mem_iff id' := by
    have hes : (∃ e ∈ es, e.trade = id') ↔ id' = id := by
      constructor
      · rintro ⟨e, he, rfl⟩
        exact hid e he
      · rintro rfl
        obtain ⟨e, he⟩ := List.exists_mem_of_ne_nil es hne
        exact ⟨e, he, hid e he⟩
    rw [mem_tradesWith, h.mem_iff, ← hes]
    simp only [List.mem_append, or_and_right, exists_or]

theorem Indexed.book (h : l.Indexed) (d : CommittedTrade) : (l.book d).Indexed :=
  h.extend (fun _ => CommittedTrade.trade_of_mem_bookings) (by simp [CommittedTrade.bookings])

theorem Indexed.append (h : l.Indexed) (e : Entry) : (l.append e).Indexed :=
  h.extend (by simp) (by simp)

theorem Indexed.call (h : l.Indexed) (c : Call) : (l.call c).2.Indexed := by
  cases ht : c.trade? with
  | none =>
    obtain ⟨-, ⟨hentries, htrades⟩ | ⟨e, happend⟩⟩ := call_of_trade?_eq_none (l := l) ht
    · exact ⟨htrades ▸ h.nodup, by rw [hentries, htrades]; exact h.mem_iff⟩
    · rw [happend]
      exact h.append e
  | some d =>
    rw [call_of_trade? ht]
    split
    · exact h
    · split
      · exact h.book d
      · exact h

theorem Indexed.foldl (h : l.Indexed) (cs : List Call) :
    (cs.foldl (fun l c => (l.call c).2) l).Indexed := by
  induction cs generalizing l with
  | nil => exact h
  | cons c cs ih => exact ih (h.call c)

theorem indexed_history (cs : List Call) : (history cs).Indexed :=
  Indexed.foldl ⟨List.nodup_nil, by simp⟩ cs

theorem Indexed.committed (h : l.Indexed) :
    l.summary.committed = (l.entries.map (·.trade)).dedup.length := by
  have hperm : l.trades.Perm (l.entries.map (·.trade)).dedup := by
    rw [List.perm_ext_iff_of_nodup h.nodup (List.nodup_dedup _)]
    intro id
    rw [h.mem_iff, List.mem_dedup, List.mem_map]
  exact hperm.length_eq

/-! ## Histories without appended entries -/

theorem foldl_call_eq_foldl_listen (h : ∀ c ∈ cs, c.event? ≠ none) (l : Ledger) :
    cs.foldl (fun l c => (l.call c).2) l = (cs.filterMap Call.event?).foldl listen l := by
  induction cs generalizing l with
  | nil => rfl
  | cons c cs ih =>
    obtain ⟨hc, hcs⟩ := List.forall_mem_cons.1 h
    obtain ⟨e, he⟩ := Option.ne_none_iff_exists'.1 hc
    rw [List.foldl_cons, call_of_event? he, ih hcs, List.filterMap_cons_some he, List.foldl_cons]

theorem balance_history (h : ∀ c ∈ cs, c.event? ≠ none) (id : TradeId) :
    (history cs).balance id =
      if ∃ e ∈ (history cs).entries, e.trade = id then .balanced else .unknown := by
  obtain ⟨ds, hholds⟩ := exists_holds (cs.filterMap Call.event?)
  have heard_eq : heard (cs.filterMap Call.event?) = history cs :=
    (foldl_call_eq_foldl_listen h {}).symm
  rw [heard_eq] at hholds
  rw [hholds.balance]
  simp only [(indexed_history cs).mem_iff]

/-! ## Any history -/

/-- How a ledger answers calls: its entries only grow, a trade is refused for an id that an entry
has, and else for an empty stack, nothing else is refused, and a refused call changes nothing. -/
structure Answers (l : Ledger) (c : Call) : Prop where
  grows : l.entries <+: (l.call c).2.entries
  booking : ∀ d, c.trade? = some d → (l.call c).1 =
    if ∃ e ∈ l.entries, e.trade = d.trade then .error (.duplicateTrade d.trade)
    else if d.paid1.isEmpty ∨ (∃ s ∈ d.paid2, s.isEmpty) ∨ d.recipe.result.isEmpty
      then .error .zeroAmount
    else .ok ()
  other : c.trade? = none → (l.call c).1 = .ok ()
  refused : ∀ why, (l.call c).1 = .error why → (l.call c).2 = l

theorem Indexed.answers (h : l.Indexed) (c : Call) : l.Answers c where
  grows := prefix_call l c
  booking d hd := by
    have hsolid : d.Solid ↔
        ¬ (d.paid1.isEmpty ∨ (∃ s ∈ d.paid2, s.isEmpty) ∨ d.recipe.result.isEmpty) := by
      simp [CommittedTrade.solid_iff]
    rw [call_of_trade? hd]
    by_cases hknown : d.trade ∈ l.trades
    · rw [if_pos hknown, if_pos ((h.mem_iff _).1 hknown)]
    · rw [if_neg hknown, if_neg (mt (h.mem_iff _).2 hknown)]
      by_cases hs : d.Solid
      · rw [if_pos hs, if_neg (hsolid.1 hs)]
      · rw [if_neg hs, if_pos (not_not.1 (mt hsolid.2 hs))]
  other hnone := (call_of_trade?_eq_none hnone).1
  refused _ := call_of_error

/-- After any history of calls the ledger answers soundly, and it counts as many trades as its
entries have different ids. If no entry was appended, exactly the ids of the entries are balanced
and all others unknown. -/
theorem answers_of_history (cs : List Call) :
    (∀ c, (history cs).Answers c) ∧
      (history cs).summary.committed = ((history cs).entries.map (·.trade)).dedup.length ∧
      ((∀ c ∈ cs, ∀ e, c ≠ .append e) → ∀ id, (history cs).balance id =
        if ∃ e ∈ (history cs).entries, e.trade = id then .balanced else .unknown) := by
  refine ⟨(indexed_history cs).answers, (indexed_history cs).committed, ?_⟩
  intro h id
  apply balance_history
  intro c hc
  cases c with
  | append e => exact absurd rfl (h _ hc e)
  | commit | event | abort => simp [Call.event?]

end Bazaar.Ledger
