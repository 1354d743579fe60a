import Bazaar.Proofs.Ledger.Heard
import Mathlib.Data.List.Perm.Basic
import Mathlib.Data.List.Sort

/-! # Events out of order and more than once

Events may reach a ledger in any order, and committed trades may reach it again and again. As long
as one id always names the same trade, the statistics and the entries of every trade are those of
the events told once and in order. This also holds of statistics whose sums stop at a limit.
-/

namespace Bazaar

variable {l l' : Ledger} {d : CommittedTrade} {ds ds' : List CommittedTrade} {es es' : List Event}

/-! ## Tables of totals -/

namespace Table

variable {t t' : Table Nat}

theorem get?_tally (t : Table Nat) (k k' : String) (n : Nat) :
    (t.tally k n).get? k' = if k' = k then some ((t.get? k).getD 0 + n) else t.get? k' :=
  get?_insert t k k' _

theorem tally_comm (t : Table Nat) (k k' : String) (n n' : Nat) :
    (t.tally k n).tally k' n' = (t.tally k' n').tally k n := by
  apply ext_get?
  intro j
  simp only [get?_tally]
  by_cases hk : k' = k
  · subst hk
    simp only [if_true, Option.getD_some]
    split
    · rw [Nat.add_right_comm]
    · rfl
  · simp only [if_neg hk, if_neg (Ne.symm hk)]
    by_cases hj : j = k
    · rw [hj, if_pos rfl, if_neg (Ne.symm hk), if_pos rfl]
    · rw [if_neg hj, if_neg hj]

theorem foldl_tally_perm {α : Type} {as as' : List α} (h : as.Perm as') (key : α → String)
    (size : α → Nat) (t : Table Nat) :
    as.foldl (fun t a => t.tally (key a) (size a)) t =
      as'.foldl (fun t a => t.tally (key a) (size a)) t := by
  have hcomm : RightCommutative fun (t : Table Nat) (a : α) => t.tally (key a) (size a) :=
    ⟨fun t a b => tally_comm t (key a) (key b) (size a) (size b)⟩
  exact h.foldl_eq t

/-- Add to the total of a key, which stops at a limit. -/
def tallyUpTo (limit : Nat) (t : Table Nat) (k : String) (n : Nat) : Table Nat :=
  t.insert k (min ((t.get? k).getD 0 + n) limit)

def upTo (limit : Nat) (t : Table Nat) : Table Nat where
  entries := t.entries.map fun e => (e.1, min e.2 limit)
  sorted := List.pairwise_map.2 t.sorted

theorem get?_upTo (limit : Nat) (t : Table Nat) (k : String) :
    (t.upTo limit).get? k = (t.get? k).map (min · limit) := by
  change (t.entries.map fun e => (e.1, min e.2 limit)).lookup k = (t.entries.lookup k).map _
  induction t.entries with
  | nil => rfl
  | cons e r ih =>
    rw [List.map_cons, lookup_cons, lookup_cons, ih]
    split
    · rfl
    · rfl

theorem tallyUpTo_upTo (limit : Nat) (t : Table Nat) (k : String) (n : Nat) :
    (t.upTo limit).tallyUpTo limit k n = (t.tally k n).upTo limit := by
  apply ext_get?
  intro j
  rw [tallyUpTo, get?_insert, get?_upTo, get?_upTo, get?_upTo, get?_tally]
  split
  · cases t.get? k with
    | none => simp
    | some m =>
      simp only [Option.map_some, Option.getD_some, Option.some.injEq]
      omega
  · rfl

/-- Sums that stop at a limit on the way are the exact sums cut to it. -/
theorem foldl_tallyUpTo {α : Type} (limit : Nat) (key : α → String) (size : α → Nat) (as : List α)
    (t : Table Nat) :
    as.foldl (fun t a => t.tallyUpTo limit (key a) (size a)) (t.upTo limit) =
      (as.foldl (fun t a => t.tally (key a) (size a)) t).upTo limit := by
  induction as generalizing t with
  | nil => rfl
  | cons a as ih =>
    rw [List.foldl_cons, List.foldl_cons, tallyUpTo_upTo, ih]

end Table

namespace Ledger

/-! ## Summaries -/

def Summary.upTo (limit : Nat) (s : Summary) : Summary where
  committed := min s.committed limit
  paid := s.paid.upTo limit
  delivered := s.delivered.upTo limit
  aborted := s.aborted.upTo limit
  refreshes := min s.refreshes limit

def totalsUpTo (limit : Nat) (l : Ledger) (kind : EntryKind) : Table Nat :=
  (l.entries.filter fun e => e.kind = kind).foldl
    (fun t e => t.tallyUpTo limit e.item.kind.item e.item.amount.val) ∅

/-- The statistics over a ledger, kept in numbers that stop at a limit. -/
def summaryUpTo (limit : Nat) (l : Ledger) : Summary where
  committed := min l.trades.length limit
  paid := l.totalsUpTo limit .payment
  delivered := l.totalsUpTo limit .delivery
  aborted := l.aborts.foldl (fun t r => t.tallyUpTo limit r.tag 1) ∅
  refreshes := min l.refreshes limit

theorem summaryUpTo_eq (limit : Nat) (l : Ledger) :
    l.summaryUpTo limit = l.summary.upTo limit := by
  have htotals : ∀ kind, l.totalsUpTo limit kind = (l.totals kind).upTo limit :=
    fun kind => Table.foldl_tallyUpTo limit _ _ _ ∅
  have haborts := Table.foldl_tallyUpTo limit AbortReason.tag (fun _ => 1) l.aborts ∅
  unfold summaryUpTo summary Summary.upTo
  rw [htotals, htotals, ← haborts]
  rfl

theorem summary_eq_of_perm (hentries : l'.entries.Perm l.entries)
    (htrades : l'.trades.Perm l.trades) (haborts : l'.aborts.Perm l.aborts)
    (hrefreshes : l'.refreshes = l.refreshes) : l'.summary = l.summary := by
  have htotals : ∀ kind, l'.totals kind = l.totals kind :=
    fun kind => Table.foldl_tally_perm (hentries.filter _) _ _ ∅
  have htally := Table.foldl_tally_perm haborts AbortReason.tag (fun _ => 1) ∅
  unfold summary
  rw [htotals, htotals, htrades.length_eq, hrefreshes, htally]

end Ledger

/-! ## Redelivery -/

/-- One id always names the same committed trade. -/
def Unambiguous (es : List Event) : Prop :=
  ∀ d d', .committed d ∈ es → .committed d' ∈ es → d.trade = d'.trade → d = d'

/-- The events of a list in some order, with some of the committed trades told again. -/
def Redelivered (es es' : List Event) : Prop :=
  ∃ again : List CommittedTrade,
    (∀ d ∈ again, .committed d ∈ es) ∧ es'.Perm (es ++ again.map .committed)

namespace Redelivered

theorem mem_commitsOf_iff (h : Redelivered es es') : d ∈ commitsOf es' ↔ d ∈ commitsOf es := by
  obtain ⟨again, hagain, hperm⟩ := h
  rw [mem_commitsOf, mem_commitsOf, hperm.mem_iff, List.mem_append, List.mem_map]
  constructor
  · rintro (hd | ⟨d', hd', heq⟩)
    · exact hd
    · exact heq ▸ hagain d' hd'
  · exact Or.inl

theorem perm_aborts (h : Redelivered es es') : (abortsOf es').Perm (abortsOf es) := by
  obtain ⟨again, -, hperm⟩ := h
  have hagain : abortsOf (again.map .committed) = [] := by
    simp [abortsOf, List.filterMap_eq_nil_iff, Event.aborted?]
  have haborts := hperm.filterMap Event.aborted?
  change (abortsOf es').Perm (abortsOf (es ++ _)) at haborts
  rwa [abortsOf_append, hagain, List.append_nil] at haborts

theorem refreshesOf_eq (h : Redelivered es es') : refreshesOf es' = refreshesOf es := by
  obtain ⟨again, -, hperm⟩ := h
  have hagain : refreshesOf (again.map .committed) = 0 := by
    simp [refreshesOf, List.countP_eq_zero, Event.isRefresh]
  have hrefreshes : refreshesOf es' = refreshesOf (es ++ again.map .committed) := hperm.countP_eq _
  rw [hrefreshes, refreshesOf_append, hagain, Nat.add_zero]

end Redelivered

namespace Ledger

theorem Holds.subset (hid : Unambiguous es) (hl : l.Holds es ds) (hl' : l'.Holds es' ds')
    (hmem : ∀ d, d ∈ commitsOf es' ↔ d ∈ commitsOf es) : ds ⊆ ds' := by
  intro d hd
  obtain ⟨htold, hsolid⟩ := hl.told d hd
  obtain ⟨d', hd', htrade⟩ := List.mem_map.1 (hl'.complete d ((hmem d).2 htold) hsolid)
  have htold' := (hmem d').1 (hl'.told d' hd').1
  have heq : d' = d := hid d' d (mem_commitsOf.1 htold') (mem_commitsOf.1 htold) htrade
  exact heq ▸ hd'

theorem Holds.perm (hid : Unambiguous es) (h : Redelivered es es') (hl : l.Holds es ds)
    (hl' : l'.Holds es' ds') : ds'.Perm ds := by
  have hid' : Unambiguous es' := by
    intro d d' hd hd'
    rw [← mem_commitsOf, h.mem_commitsOf_iff, mem_commitsOf] at hd hd'
    exact hid d d' hd hd'
  rw [List.perm_ext_iff_of_nodup hl'.nodup.of_map hl.nodup.of_map]
  intro d
  constructor
  · intro hd
    exact hl'.subset hid' hl (fun d => h.mem_commitsOf_iff.symm) hd
  · intro hd
    exact hl.subset hid hl' (fun d => h.mem_commitsOf_iff) hd

/-- A ledger that hears events in another order, and committed trades again, has the same statistics
and the same entries for every trade. Its statistics are also the same in numbers that stop at a
limit. -/
theorem summary_of_redelivered (hid : Unambiguous es) (h : Redelivered es es') :
    (heard es').summary = (heard es).summary ∧
      (∀ limit, (heard es').summaryUpTo limit = (heard es).summaryUpTo limit) ∧
      ∀ id, ((heard es').entriesFor id).Perm ((heard es).entriesFor id) := by
  obtain ⟨ds, hl⟩ := exists_holds es
  obtain ⟨ds', hl'⟩ := exists_holds es'
  have hds := hl.perm hid h hl'
  have hentries : (heard es').entries.Perm (heard es).entries := by
    rw [hl.entries, hl'.entries]
    exact hds.flatMap_right _
  have htrades : (heard es').trades.Perm (heard es).trades := by
    rw [hl.trades, hl'.trades]
    exact hds.map _
  have haborts : (heard es').aborts.Perm (heard es).aborts := by
    rw [hl.aborts, hl'.aborts]
    exact h.perm_aborts.map _
  have hrefreshes : (heard es').refreshes = (heard es).refreshes := by
    rw [hl.refreshes, hl'.refreshes]
    exact h.refreshesOf_eq
  have hsummary := summary_eq_of_perm hentries htrades haborts hrefreshes
  refine ⟨hsummary, ?_, fun id => hentries.filter _⟩
  intro limit
  rw [summaryUpTo_eq, summaryUpTo_eq, hsummary]

def gemTrade (n : Nat) (diamonds : Amount) (emeralds2 : Option Stack) : CommittedTrade where
  trade := .ofNat n
  shop := .ofNat 7
  actor := .ofNat 8
  recipe :=
    { first := .plain "emerald" 3, second := emeralds2, result := .plain "diamond" diamonds }
  paid1 := .plain "emerald" 3
  paid2 := emeralds2
  swapped := false
  index := 1

def gemEvents : List Event :=
  [.committed (gemTrade 1 1 none),
    .aborted { trade := none, shop := .ofNat 7, actor := .ofNat 8, reason := .insufficientStock },
    .committed (gemTrade 2 0 none), .recipesChanged (.ofNat 7) (.ofNat 8),
    .committed (gemTrade 3 2 (some (.plain "emerald" 4)))]

/-- All trades of them, then the events backwards, then all trades once more. -/
def gemReports : List Event :=
  let trades := (commitsOf gemEvents).map .committed
  trades ++ gemEvents.reverse ++ trades

theorem summary_of_redelivered_gemReports :
    Unambiguous gemEvents ∧ Redelivered gemEvents gemReports ∧
      (heard gemEvents).trades = [.ofNat 1, .ofNat 3] ∧
      (heard gemReports).summary = (heard gemEvents).summary ∧
      (∀ limit, (heard gemReports).summaryUpTo limit = (heard gemEvents).summaryUpTo limit) ∧
      ∀ id, ((heard gemReports).entriesFor id).Perm ((heard gemEvents).entriesFor id) := by
  have hid : Unambiguous gemEvents := by
    have hall : ∀ d ∈ commitsOf gemEvents, ∀ d' ∈ commitsOf gemEvents,
        d.trade = d'.trade → d = d' := by decide
    intro d d' hd hd'
    exact hall d (mem_commitsOf.2 hd) d' (mem_commitsOf.2 hd')
  have hreports : Redelivered gemEvents gemReports := by
    refine ⟨commitsOf gemEvents ++ commitsOf gemEvents, ?_, by decide⟩
    intro d hd
    rcases List.mem_append.1 hd with hd | hd
    · exact mem_commitsOf.1 hd
    · exact mem_commitsOf.1 hd
  exact ⟨hid, hreports, by decide, summary_of_redelivered hid hreports⟩

end Ledger

end Bazaar
