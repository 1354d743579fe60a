import Bazaar.Ledger.Balance
import Bazaar.Proofs.Slots.Total
import Bazaar.Proofs.Table

/-! # Booked events

A committed trade without empty stacks is booked with all its entries, unless its id was booked
before. The ledger of events with different ids therefore holds all of their trades, each of them
balanced, and its summary adds up what they moved.
-/

namespace Bazaar

open Slots

variable {d : CommittedTrade} {ds : List CommittedTrade} {e : Event} {es past : List Event}
  {l l' : Ledger} {id : TradeId}

/-! ## Tallies -/

namespace Table

def count (t : Table Nat) (k : String) : Nat := (t.get? k).getD 0

def sum (t : Table Nat) : Nat := (t.entries.map (·.2)).sum

theorem count_tally (t : Table Nat) (k k' : String) (n : Nat) :
    (t.tally k n).count k' = t.count k' + if k = k' then n else 0 := by
  unfold count tally
  rw [get?_insert]
  by_cases h : k' = k
  · simp [h]
  · simp [h, Ne.symm h]

theorem sum_place {l : List (String × Nat)} (k : String) (n : Nat)
    (h : l.Pairwise fun a b => a.1 < b.1) :
    ((place k ((l.lookup k).getD 0 + n) l).map (·.2)).sum = (l.map (·.2)).sum + n := by
  induction l with
  | nil => simp [place]
  | cons e r ih =>
    obtain ⟨he, hr⟩ := List.pairwise_cons.1 h
    rw [place]
    split
    case isTrue hk =>
      have hnone : (e :: r).lookup k = none := by
        refine lookup_eq_none fun a ha => ?_
        rcases List.mem_cons.1 ha with rfl | ha
        · exact hk
        · exact String.lt_trans hk (he a ha)
      simp only [hnone, List.map_cons, List.sum_cons, Option.getD_none]
      omega
    split
    case isTrue hk =>
      simp only [lookup_cons, hk, if_true, List.map_cons, List.sum_cons, Option.getD_some]
      omega
    case isFalse hk =>
      simp only [lookup_cons, hk, if_false, List.map_cons, List.sum_cons, ih hr]
      omega

theorem sum_tally (t : Table Nat) (k : String) (n : Nat) : (t.tally k n).sum = t.sum + n :=
  sum_place k n t.sorted

end Table

/-! ## Entries -/

/-- All stacks of a committed trade hold something. -/
structure CommittedTrade.Solid (d : CommittedTrade) : Prop where
  paid1 : d.paid1.isEmpty = false
  paid2 : ∀ s, d.paid2 = some s → s.isEmpty = false
  result : d.recipe.result.isEmpty = false

namespace CommittedTrade

def payments (d : CommittedTrade) : List Stack := d.paid1 :: d.paid2.toList

def payment (d : CommittedTrade) (s : Stack) : Entry where
  trade := d.trade
  kind := .payment
  source := .actor d.actor
  target := .shop d.shop
  item := s

def delivery (d : CommittedTrade) : Entry where
  trade := d.trade
  kind := .delivery
  source := .shop d.shop
  target := .actor d.actor
  item := d.recipe.result

/-- The entries of a committed trade with no empty stack. -/
def bookings (d : CommittedTrade) : List Entry := d.payments.map d.payment ++ [d.delivery]

theorem make_payment (d : CommittedTrade) (s : Stack) :
    Entry.make d.trade .payment (some (.actor d.actor)) (some (.shop d.shop)) (some s) =
      if s.isEmpty then .error .zeroAmount else .ok (d.payment s) := by
  cases hs : s.isEmpty <;>
    simp [Entry.make, Entry.check, hs, Party.kind, EntryKind.parties, payment, Except.map]

theorem make_delivery (d : CommittedTrade) :
    Entry.make d.trade .delivery (some (.shop d.shop)) (some (.actor d.actor))
        (some d.recipe.result) =
      if d.recipe.result.isEmpty then .error .zeroAmount else .ok d.delivery := by
  cases hr : d.recipe.result.isEmpty <;>
    simp [Entry.make, Entry.check, hr, Party.kind, EntryKind.parties, delivery, Except.map]

theorem entries_eq_ok (h : d.Solid) : d.entries = .ok d.bookings := by
  unfold entries bookings payments
  simp only [make_payment, make_delivery]
  cases hp : d.paid2 with
  | none => simp [h.paid1, h.result, Except.bind, Except.map, bind, pure, Except.pure]
  | some s =>
    simp [h.paid1, h.paid2 s hp, h.result, Except.bind, Except.map, bind, pure, Except.pure]

theorem trade_of_mem_bookings {b : Entry} (h : b ∈ d.bookings) : b.trade = d.trade := by
  rcases List.mem_append.1 h with h | h
  · obtain ⟨s, -, rfl⟩ := List.mem_map.1 h
    rfl
  · rw [List.mem_singleton.1 h]
    rfl

end CommittedTrade

/-! ## Events -/

namespace Event

def committed? : Event → Option CommittedTrade
  | .committed d => some d
  | _ => none

def aborted? : Event → Option AbortedTrade
  | .aborted a => some a
  | _ => none

def isRefresh : Event → Bool
  | .recipesChanged _ _ => true
  | _ => false

def trade? : Event → Option TradeId
  | .committed d => some d.trade
  | .aborted a => a.trade
  | .recipesChanged _ _ => none

end Event

def commitsOf (es : List Event) : List CommittedTrade := es.filterMap Event.committed?

def abortsOf (es : List Event) : List AbortedTrade := es.filterMap Event.aborted?

def refreshesOf (es : List Event) : Nat := es.countP (·.isRefresh)

@[simp] theorem commitsOf_append (es es' : List Event) :
    commitsOf (es ++ es') = commitsOf es ++ commitsOf es' := List.filterMap_append

@[simp] theorem abortsOf_append (es es' : List Event) :
    abortsOf (es ++ es') = abortsOf es ++ abortsOf es' := List.filterMap_append

@[simp] theorem refreshesOf_append (es es' : List Event) :
    refreshesOf (es ++ es') = refreshesOf es + refreshesOf es' := List.countP_append

theorem mem_commitsOf : d ∈ commitsOf es ↔ .committed d ∈ es := by
  unfold commitsOf
  rw [List.mem_filterMap]
  constructor
  · rintro ⟨e, he, hd⟩
    cases e <;> cases hd
    exact he
  · intro h
    exact ⟨_, h, rfl⟩

/-- No two events are about the same trade. -/
def Unrepeated (es : List Event) : Prop := (es.filterMap Event.trade?).Nodup

instance (es : List Event) : Decidable (Unrepeated es) :=
  inferInstanceAs (Decidable (es.filterMap Event.trade?).Nodup)

namespace Unrepeated

theorem sublist_trades (es : List Event) :
    ((commitsOf es).map (·.trade)).Sublist (es.filterMap Event.trade?) := by
  induction es with
  | nil => exact .slnil
  | cons e es ih =>
    cases e with
    | committed d => exact ih.cons_cons d.trade
    | recipesChanged shop actor => exact ih
    | aborted a =>
      have hskip : commitsOf (.aborted a :: es) = commitsOf es := rfl
      rw [hskip, List.filterMap_cons, Event.trade?]
      cases a.trade with
      | none => exact ih
      | some id => exact ih.cons id

theorem nodup_trades (h : Unrepeated es) : ((commitsOf es).map (·.trade)).Nodup :=
  h.sublist (sublist_trades es)

theorem event_eq {e' : Event} (h : Unrepeated es) (he : e ∈ es) (he' : e' ∈ es)
    (hid : e.trade? = some id) (hid' : e'.trade? = some id) : e = e' := by
  induction es with
  | nil => cases he
  | cons a es ih =>
    have hmem : ∀ {b}, b ∈ es → b.trade? = some id → id ∈ es.filterMap Event.trade? :=
      fun hb hb' => List.mem_filterMap.2 ⟨_, hb, hb'⟩
    have htail : Unrepeated es := h.sublist ((List.sublist_cons_self a es).filterMap _)
    have hhead : a.trade? = some id → id ∉ es.filterMap Event.trade? := by
      intro ha
      rw [Unrepeated, List.filterMap_cons, ha] at h
      exact (List.nodup_cons.1 h).1
    rcases List.mem_cons.1 he with rfl | hin <;> rcases List.mem_cons.1 he' with rfl | hin'
    · rfl
    · exact absurd (hmem hin' hid') (hhead hid)
    · exact absurd (hmem hin hid) (hhead hid')
    · exact ih htail hin hin'

theorem not_mem_trades {a : AbortedTrade} (h : Unrepeated es) (ha : .aborted a ∈ es)
    (hid : a.trade = some id) : id ∉ (commitsOf es).map (·.trade) := by
  intro hmem
  obtain ⟨d, hd, rfl⟩ := List.mem_map.1 hmem
  cases h.event_eq ha (mem_commitsOf.1 hd) hid rfl

end Unrepeated

/-! ## Booking -/

namespace Ledger

/-- The ledger of events that are all booked or counted. -/
def ofEvents (es : List Event) : Ledger where
  entries := (commitsOf es).flatMap (·.bookings)
  trades := (commitsOf es).map (·.trade)
  aborts := (abortsOf es).map (·.reason)
  refreshes := refreshesOf es

theorem record_committed (hd : d.Solid) (hnew : d.trade ∉ (commitsOf past).map (·.trade)) :
    (ofEvents past).record (.committed d) = (.ok (), ofEvents (past ++ [.committed d])) := by
  have hnew : d.trade ∉ (ofEvents past).trades := hnew
  rw [record, recordCommitted, if_neg hnew, CommittedTrade.entries_eq_ok hd, tradesWith,
    if_neg hnew]
  simp [ofEvents, commitsOf, abortsOf, refreshesOf, Event.committed?, Event.aborted?,
    Event.isRefresh]

theorem record_aborted (past : List Event) (a : AbortedTrade) :
    (ofEvents past).record (.aborted a) = (.ok (), ofEvents (past ++ [.aborted a])) := by
  simp [record, recordAborted, ofEvents, commitsOf, abortsOf, refreshesOf, Event.committed?,
    Event.aborted?, Event.isRefresh]

theorem record_recipesChanged (past : List Event) (shop : ShopId) (actor : ActorId) :
    (ofEvents past).record (.recipesChanged shop actor) =
      (.ok (), ofEvents (past ++ [.recipesChanged shop actor])) := by
  simp [record, ofEvents, commitsOf, abortsOf, refreshesOf, Event.committed?, Event.aborted?,
    Event.isRefresh]

/-- Record events one after the other, up to the first that is refused. -/
def recordAll (l : Ledger) (es : List Event) : Except LedgerError Ledger :=
  es.foldlM (fun l e => (l.record e).toExcept) l

theorem recordAll_eq_ok (hsolid : ∀ d ∈ commitsOf es, d.Solid)
    (hnew : ((commitsOf (past ++ es)).map (·.trade)).Nodup) :
    (ofEvents past).recordAll es = .ok (ofEvents (past ++ es)) := by
  induction es generalizing past with
  | nil =>
    rw [List.append_nil]
    rfl
  | cons e es ih =>
    have happend : past ++ e :: es = (past ++ [e]) ++ es := by simp
    have hrecord : (ofEvents past).record e = (.ok (), ofEvents (past ++ [e])) := by
      cases e with
      | committed d =>
        refine record_committed (hsolid d (mem_commitsOf.2 List.mem_cons_self)) fun hmem => ?_
        rw [commitsOf_append, List.map_append] at hnew
        refine (List.nodup_append.1 hnew).2.2 d.trade hmem d.trade ?_ rfl
        exact List.mem_map_of_mem (mem_commitsOf.2 List.mem_cons_self)
      | aborted a => exact record_aborted past a
      | recipesChanged shop actor => exact record_recipesChanged past shop actor
    rw [recordAll, List.foldlM_cons, hrecord, happend]
    refine ih (fun d hd => hsolid d ?_) (happend ▸ hnew)
    exact mem_commitsOf.2 (List.mem_cons_of_mem _ (mem_commitsOf.1 hd))

theorem foldl_listen (h : l.recordAll es = .ok l') : es.foldl listen l = l' := by
  induction es generalizing l with
  | nil => exact Except.ok.inj h
  | cons e es ih =>
    rw [recordAll, List.foldlM_cons] at h
    rw [List.foldl_cons, listen]
    rcases hr : l.record e with ⟨_ | _, mid⟩
    · rw [hr] at h
      cases h
    · rw [hr] at h
      exact ih h

/-! ## Balance -/

theorem filter_bookings_of_not_mem (h : id ∉ ds.map (·.trade)) :
    (ds.flatMap (·.bookings)).filter (fun b => b.trade = id) = [] := by
  rw [List.filter_eq_nil_iff]
  intro b hb
  obtain ⟨d, hd, hb⟩ := List.mem_flatMap.1 hb
  rw [decide_eq_true_eq, CommittedTrade.trade_of_mem_bookings hb]
  rintro rfl
  exact h (List.mem_map_of_mem hd)

theorem filter_bookings_of_mem (h : (ds.map (·.trade)).Nodup) (hd : d ∈ ds) :
    (ds.flatMap (·.bookings)).filter (fun b => b.trade = d.trade) = d.bookings := by
  induction ds with
  | nil => cases hd
  | cons a ds ih =>
    obtain ⟨ha, hds⟩ := List.nodup_cons.1 h
    rw [List.flatMap_cons, List.filter_append]
    rcases List.mem_cons.1 hd with rfl | hd
    · rw [filter_bookings_of_not_mem ha, List.append_nil, List.filter_eq_self]
      intro b hb
      simp [CommittedTrade.trade_of_mem_bookings hb]
    · rw [ih hds hd, List.filter_eq_nil_iff.2, List.nil_append]
      intro b hb
      rw [decide_eq_true_eq, CommittedTrade.trade_of_mem_bookings hb]
      intro heq
      exact ha (List.mem_map.2 ⟨d, hd, heq.symm⟩)

theorem filter_payments (d : CommittedTrade) :
    d.bookings.filter (fun b => b.kind = .payment) = d.payments.map d.payment := by
  rw [CommittedTrade.bookings, List.filter_append, List.filter_map, List.filter_eq_self.2]
  · simp [CommittedTrade.delivery]
  · simp [CommittedTrade.payment]

theorem filter_deliveries (d : CommittedTrade) :
    d.bookings.filter (fun b => b.kind = .delivery) = [d.delivery] := by
  rw [CommittedTrade.bookings, List.filter_append, List.filter_map, List.filter_eq_nil_iff.2]
  · simp [CommittedTrade.delivery]
  · simp [CommittedTrade.payment]

theorem balance_of_bookings (h : l.entriesFor d.trade = d.bookings) :
    l.balance d.trade = .balanced := by
  unfold balance
  rw [h, filter_payments, filter_deliveries]
  cases hp : d.paid2 <;>
    simp [CommittedTrade.payments, hp, CommittedTrade.payment, CommittedTrade.delivery]

/-- Among events with different trades, the committed ones balance and the aborted ones are
unknown to the ledger. -/
theorem balance_ofEvents (h : Unrepeated es) :
    (∀ d, .committed d ∈ es → (ofEvents es).balance d.trade = .balanced) ∧
      ∀ a id, .aborted a ∈ es → a.trade = some id → (ofEvents es).balance id = .unknown := by
  constructor
  · intro d hd
    exact balance_of_bookings (filter_bookings_of_mem h.nodup_trades (mem_commitsOf.2 hd))
  · intro a id ha hid
    have hnone : (ofEvents es).entriesFor id = [] :=
      filter_bookings_of_not_mem (h.not_mem_trades ha hid)
    simp [balance, hnone]

end Ledger

/-! ## Summary -/

def paidIn (q : Pick) (ds : List CommittedTrade) : Nat :=
  (ds.map fun d => total q (d.payments.map some)).sum

def deliveredIn (q : Pick) (ds : List CommittedTrade) : Nat :=
  (ds.map fun d => portion q (some d.recipe.result)).sum

theorem paidIn_append (q : Pick) (ds ds' : List CommittedTrade) :
    paidIn q (ds ++ ds') = paidIn q ds + paidIn q ds' := by
  simp [paidIn]

theorem deliveredIn_append (q : Pick) (ds ds' : List CommittedTrade) :
    deliveredIn q (ds ++ ds') = deliveredIn q ds + deliveredIn q ds' := by
  simp [deliveredIn]

theorem total_payments (q : Pick) (d : CommittedTrade) :
    total q (d.payments.map some) = portion q (some d.paid1) + portion q d.paid2 := by
  unfold CommittedTrade.payments
  cases d.paid2 <;> rfl

namespace Ledger

theorem count_foldl_tally (es : List Entry) (t : Table Nat) (item : String) :
    (es.foldl (fun t b => t.tally b.item.kind.item b.item.amount.val) t).count item =
      t.count item + total (ofItem item) (es.map (some ·.item)) := by
  induction es generalizing t with
  | nil => rfl
  | cons b es ih =>
    rw [List.foldl_cons, ih, Table.count_tally, List.map_cons, total_cons, portion_some]
    simp only [ofItem, decide_eq_true_eq]
    omega

theorem count_totals (l : Ledger) (kind : EntryKind) (item : String) :
    (l.totals kind).count item =
      total (ofItem item) ((l.entries.filter fun b => b.kind = kind).map (some ·.item)) := by
  rw [totals, count_foldl_tally]
  exact Nat.zero_add _

theorem count_paid (es : List Event) (item : String) :
    (ofEvents es).summary.paid.count item = paidIn (ofItem item) (commitsOf es) := by
  refine (count_totals _ _ _).trans ?_
  unfold ofEvents paidIn
  induction commitsOf es with
  | nil => rfl
  | cons d ds ih =>
    rw [List.flatMap_cons, List.filter_append, filter_payments, List.map_append, List.map_map,
      total_append, ih]
    rfl

theorem count_delivered (es : List Event) (item : String) :
    (ofEvents es).summary.delivered.count item = deliveredIn (ofItem item) (commitsOf es) := by
  refine (count_totals _ _ _).trans ?_
  unfold ofEvents deliveredIn
  induction commitsOf es with
  | nil => rfl
  | cons d ds ih =>
    rw [List.flatMap_cons, List.filter_append, filter_deliveries, List.map_append, total_append, ih]
    rfl

theorem sum_foldl_tally (rs : List AbortReason) (t : Table Nat) :
    (rs.foldl (fun t r => t.tally r.tag 1) t).sum = t.sum + rs.length := by
  induction rs generalizing t with
  | nil => rfl
  | cons r rs ih =>
    rw [List.foldl_cons, ih, Table.sum_tally, List.length_cons]
    omega

theorem sum_aborted (es : List Event) :
    (ofEvents es).summary.aborted.sum = (abortsOf es).length := by
  refine (sum_foldl_tally _ _).trans ?_
  rw [ofEvents, List.length_map]
  exact Nat.zero_add _

theorem committed_summary (es : List Event) :
    (ofEvents es).summary.committed = (commitsOf es).length := by
  simp [summary, ofEvents]

end Ledger

end Bazaar
