import Bazaar.Proofs.Exchange.Accounts
import Bazaar.Proofs.Shop.Books

/-! # Visits to a book shop

Staging asks for an offer of the title and for a blank book, not for the book that is copied. That
each copy has a source in the container rests on what is displayed: every displayed recipe copies a
book that was there when it was displayed, and no sale moves a written book.
-/

namespace Bazaar

open Slots

variable {c : Currency} {k : Shopkeeper} {settings : Settings} {offers : List BookOffer}
  {r : Recipe} {container : Option Container} {slots : Slots} {id : ActorId} {x x' : Exchange}
  {outcomes : List GestureOutcome} {scene scene' : Scene Container}

/-- A visit of an actor to a shop. Between the gestures there are pauses, in which others leave
alone what the container holds and which recipes are displayed. -/
inductive Exchange.Visit (k : Shopkeeper) (id : ActorId) :
    Exchange → Scene Container → List GestureOutcome → Exchange → Scene Container → Prop
  | nil (x : Exchange) (scene : Scene Container) : Visit k id x scene [] x scene
  | gesture {x x' x'' : Exchange} {scene scene' scene'' : Scene Container} (g : Gesture)
      {outcome : GestureOutcome} {outcomes : List GestureOutcome}
      (h : x.handle id k g scene = (outcome, x', scene'))
      (rest : Visit k id x' scene' outcomes x'' scene'') :
      Visit k id x scene (outcome :: outcomes) x'' scene''
  | pause {x x' x'' : Exchange} {scene scene' scene'' : Scene Container}
      {outcomes : List GestureOutcome} (settings : x'.settings = x.settings)
      (contents : contentsOf scene'.container = contentsOf scene.container)
      (recipes : scene'.window.recipes = scene.window.recipes)
      (events : scene'.journal.events = scene.journal.events)
      (rest : Visit k id x' scene' outcomes x'' scene'') :
      Visit k id x scene outcomes x'' scene''

/-- A container holds the sources of all displayed recipes. -/
structure Scene.Shelved (scene : Scene Container) (slots : Slots) : Prop where
  contents : contentsOf scene.container = some slots
  solid : slots.Solid (ofItem writtenBook)
  sources : ∀ r ∈ scene.window.recipes, slots.HasSource r.result

/-- Between two scenes some events were told, whose trades sold copies from the shelf. -/
structure Scene.Sells (settings : Settings) (offers : List BookOffer)
    (scene scene' : Scene Container) (slots after : Slots) (es : List Event) : Prop where
  events : scene'.journal.events = scene.journal.events ++ es
  sales : Shop.CopySales settings offers slots (commitsOf es) after
  shelved : scene'.Shelved after

theorem Shopkeeper.hasSource_of_mem_recipes (hk : k.shop = .book offers)
    (hc : contentsOf container = some slots) (hs : slots.Solid (ofItem writtenBook))
    (hr : r ∈ (k.recipes c container).1) : slots.HasSource r.result := by
  unfold recipes at hr
  rcases h : stockOf container with ⟨stock, container'⟩
  simp only [h, hk] at hr
  cases stock with
  | none => cases hr
  | some stock =>
    obtain rfl : slots = stock := Option.some.inj (hc.symm.trans ((stockOf_eq h).2 stock rfl))
    exact Shop.hasSource_of_mem_recipes hs hr

namespace Scene

theorem Shelved.of_same (h : scene.Shelved slots)
    (hc : contentsOf scene'.container = contentsOf scene.container)
    (hr : scene'.window.recipes = scene.window.recipes) : scene'.Shelved slots :=
  ⟨hc.trans h.contents, h.solid, hr ▸ h.sources⟩

theorem Sells.of_same {es : List Event} (h : scene.Shelved slots)
    (he : scene'.journal.events = scene.journal.events ++ es) (hes : commitsOf es = [])
    (hc : contentsOf scene'.container = contentsOf scene.container)
    (hr : scene'.window.recipes = scene.window.recipes) :
    scene.Sells settings offers scene' slots slots es :=
  ⟨he, hes ▸ .nil slots, h.of_same hc hr⟩

theorem Sells.trans {mid : Scene Container} {between after : Slots} {es es' : List Event}
    (h : scene.Sells settings offers mid slots between es)
    (h' : mid.Sells settings offers scene' between after es') :
    scene.Sells settings offers scene' slots after (es ++ es') where
  events := by rw [h'.events, h.events, List.append_assoc]
  sales := by
    rw [commitsOf_append]
    exact h.sales.append h'.sales
  shelved := h'.shelved

theorem Traded.sells {payout : Payout} {t : Trade} (hk : k.shop = .book offers)
    (hm : ∀ s, settings.currency.isMoney s = true → ofItem writtenBook s = false)
    (hs : scene.Shelved slots) (ht : scene.Traded k settings payout t scene')
    (he : scene'.journal.events = scene.journal.events ++ [.committed t.committed]) :
    ∃ after, scene.Sells settings offers scene' slots after [.committed t.committed] := by
  obtain ⟨before, after, hbefore, hstage, hafter⟩ := ht.staged (by rw [hk]; rfl)
  obtain rfl : slots = before := Option.some.inj (hs.contents.symm.trans hbefore)
  rw [hk] at hstage
  have honly := Shop.only_stageCopy hm hs.solid (Shop.work_of_stage hstage)
  obtain ⟨hmem, -⟩ := Window.displayed_of_select ht.selected
  refine ⟨after, he, .cons (d := t.committed) rfl (hs.sources _ hmem) hstage (.nil after), hafter,
    hs.solid.of_only_eq honly, fun r hr => ?_⟩
  exact (hs.sources r (ht.recipes ▸ hr)).of_only_eq honly

theorem Step.sells (hk : k.shop = .book offers)
    (hm : ∀ s, settings.currency.isMoney s = true → ofItem writtenBook s = false)
    (h : Step k settings scene scene') (hs : scene.Shelved slots) :
    ∃ es after, scene.Sells settings offers scene' slots after es := by
  cases h with
  | @attempt s s' payout outcome _ _ result hr hp h =>
    have hgains := Session.attempt_gains h
    rcases Session.attempt_cases h with ⟨hne, hi⟩ | ⟨t, rfl, ht⟩
    · have hrecipes : scene'.window.recipes = scene.window.recipes := by rw [hi.window]
      cases outcome with
      | idle why =>
        exact ⟨[], slots, .of_same hs (by simpa using hgains.events) rfl hi.contents hrecipes⟩
      | aborted reason =>
        obtain ⟨a, -, hgains⟩ := hgains
        exact ⟨[.aborted a], slots,
          .of_same hs (by simpa using hgains.events) rfl hi.contents hrecipes⟩
      | committed d => exact absurd rfl (hne d)
    · exact ⟨_, ht.sells hk hm hs (by simpa using hgains.events)⟩
  | refresh actor =>
    have hsources : ∀ r ∈ (scene.refresh k settings actor).window.recipes,
        slots.HasSource r.result :=
      forall_mem_refresh (fun _ h => h) hs.sources
        (fun _ => Shopkeeper.hasSource_of_mem_recipes hk hs.contents hs.solid) actor
    exact ⟨[.recipesChanged k.profile.id actor], slots, rfl, .nil slots,
      (contentsOf_stockOf scene.container).trans hs.contents, hs.solid, hsources⟩

theorem Steps.sells (hk : k.shop = .book offers)
    (hm : ∀ s, settings.currency.isMoney s = true → ofItem writtenBook s = false)
    (h : Steps k settings scene scene') (hs : scene.Shelved slots) :
    ∃ es after, scene.Sells settings offers scene' slots after es := by
  induction h with
  | refl => exact ⟨[], slots, .of_same hs (by simp) rfl rfl rfl⟩
  | tail _ hstep ih =>
    obtain ⟨es, between, hsells⟩ := ih
    obtain ⟨es', after, hsells'⟩ := hstep.sells hk hm hsells.shelved
    exact ⟨es ++ es', after, hsells.trans hsells'⟩

end Scene

namespace Exchange

theorem Visit.sells (hk : k.shop = .book offers)
    (hm : ∀ s, x.settings.currency.isMoney s = true → ofItem writtenBook s = false)
    (h : Visit k id x scene outcomes x' scene') (hs : scene.Shelved slots) :
    ∃ es after, scene.Sells x.settings offers scene' slots after es ∧
      (commitsOf es).length = (outcomes.map (·.commits)).sum := by
  induction h generalizing slots with
  | nil => exact ⟨[], slots, .of_same hs (by simp) rfl rfl rfl, rfl⟩
  | gesture g h _ ih =>
    have hsettings := settings_handle h
    obtain ⟨es, between, hsells⟩ := (steps_handle h).sells hk hm hs
    obtain ⟨counted, hcounted, hcounts⟩ := counts_handle h
    obtain rfl : es = counted := List.append_cancel_left (hsells.events.symm.trans hcounted)
    obtain ⟨es', after, hsells', hlength⟩ := ih (hsettings ▸ hm) hsells.shelved
    refine ⟨es ++ es', after, hsells.trans (hsettings ▸ hsells'), ?_⟩
    rw [commitsOf_append, List.length_append, hcounts.commits, hlength, List.map_cons,
      List.sum_cons]
  | pause settings contents recipes events _ ih =>
    obtain ⟨es, after, hsells, hlength⟩ := ih (settings ▸ hm) (hs.of_same contents recipes)
    exact ⟨es, after, ⟨events ▸ hsells.events, settings ▸ hsells.sales, hsells.shelved⟩, hlength⟩

/-- A visit to a book shop that begins with the recipes which the shop has for what its container
holds. Every copy that is sold has its source in the container, written books stay in their slots,
and each sale uses up one blank book. -/
theorem Visit.copies_have_sources (hk : k.shop = .book offers)
    (hwritable : writableBook ∉ x.settings.currency.types)
    (hwritten : writtenBook ∉ x.settings.currency.types)
    (hcontents : contentsOf scene.container = some slots)
    (hsolid : ∀ s, some s ∈ slots → s.isEmpty = false)
    (hopened : ∃ container, contentsOf container = some slots ∧
      scene.window.recipes = (k.recipes x.settings.currency container).1)
    (h : Visit k id x scene outcomes x' scene') :
    ∃ (es : List Event) (after : Slots), scene'.journal.events = scene.journal.events ++ es ∧
      (commitsOf es).length = (outcomes.map (·.commits)).sum ∧
      contentsOf scene'.container = some after ∧
      Shop.CopySales x.settings offers slots (commitsOf es) after ∧
      after.only (ofItem writtenBook) = slots.only (ofItem writtenBook) ∧
      total (ofItem writableBook) after + (commitsOf es).length =
        total (ofItem writableBook) slots := by
  have hmoney : ∀ item, item ∉ x.settings.currency.types →
      ∀ s, x.settings.currency.isMoney s = true → ofItem item s = false := by
    rintro item hitem s hs
    simp only [ofItem, decide_eq_false_iff_not]
    rintro rfl
    exact hitem (Currency.item_mem_types hs)
  have hbooks : slots.Solid (ofItem writtenBook) := fun s hs _ => hsolid s hs
  obtain ⟨container, hc, hrecipes⟩ := hopened
  have hshelved : scene.Shelved slots := by
    refine ⟨hcontents, hbooks, fun r hr => ?_⟩
    exact Shopkeeper.hasSource_of_mem_recipes hk hc hbooks (hrecipes ▸ hr)
  obtain ⟨es, after, hsells, hlength⟩ := h.sells hk (hmoney _ hwritten) hshelved
  exact ⟨es, after, hsells.events, hlength, hsells.shelved.contents, hsells.sales,
    hsells.sales.only_eq (hmoney _ hwritten) hbooks,
    hsells.sales.total_add_length (hmoney _ hwritable)⟩

def atlasStall : Shopkeeper where
  profile := { id := .ofNat 0, name := "stall" }
  shop := .book [⟨"Atlas", 6⟩]

def atlasShelf : Slots :=
  [some (Book.copyStack { title := some "Atlas", author := some "wren" } .original),
    some (.plain writableBook 2), none]

def atlasReader : Scene Container where
  window := (Window.ofRecipes (.ofNat 1)
    (atlasStall.recipes .standard (some (Container.mk atlasShelf false false 0 0))).1).place
      { slot1 := some (.plain "emerald" 12) }
  inventory := {}
  container := some { contents := atlasShelf }
  listener := fun _ _ => .allow
  ids := .ofNat

def atlasPickup (x : Exchange) (scene : Scene Container) :
    GestureOutcome × Exchange × Scene Container :=
  x.handle (.ofNat 1) atlasStall { slot := resultSlot, kind := .pickupAll, timestamp := 0 } scene

def atlasExchange : Exchange :=
  openSession { settings := {} } { id := .ofNat 1, name := "reader" }

def atlasSold : GestureOutcome × Exchange × Scene Container := atlasPickup atlasExchange atlasReader

def atlasLocked : Scene Container :=
  { atlasSold.2.2 with
    container := atlasSold.2.2.container.map fun c => { c with locked := true } }

def atlasRefused : GestureOutcome × Exchange × Scene Container :=
  atlasPickup atlasSold.2.1 atlasLocked

theorem Visit.copies_have_sources_atlasReader :
    atlasSold.1 = .traded 1 ∧ atlasRefused.1 = .traded 0 ∧
      ∃ (es : List Event) (after : Slots), atlasRefused.2.2.journal.events = es ∧
        (commitsOf es).length = 1 ∧ contentsOf atlasRefused.2.2.container = some after ∧
        Shop.CopySales {} [⟨"Atlas", 6⟩] atlasShelf (commitsOf es) after ∧
        after.only (ofItem writtenBook) = atlasShelf.only (ofItem writtenBook) ∧
        total (ofItem writableBook) after + (commitsOf es).length = 2 := by
  have hsold : atlasSold.1 = .traded 1 := by decide
  have hrefused : atlasRefused.1 = .traded 0 := by decide
  have hfirst : atlasPickup atlasExchange atlasReader =
      (.traded 1, atlasSold.2.1, atlasSold.2.2) := Prod.ext hsold rfl
  have hsecond : atlasPickup atlasSold.2.1 atlasLocked =
      (.traded 0, atlasRefused.2.1, atlasRefused.2.2) := Prod.ext hrefused rfl
  have hlocked : Visit atlasStall (.ofNat 1) atlasSold.2.1 atlasLocked [.traded 0]
      atlasRefused.2.1 atlasRefused.2.2 := .gesture _ hsecond (.nil _ _)
  have hsame : contentsOf atlasLocked.container = contentsOf atlasSold.2.2.container := rfl
  have hpaused : Visit atlasStall (.ofNat 1) atlasSold.2.1 atlasSold.2.2 [.traded 0]
      atlasRefused.2.1 atlasRefused.2.2 := .pause rfl hsame rfl rfl hlocked
  have hsolid : ∀ s, some s ∈ atlasShelf → s.isEmpty = false := by
    simp only [atlasShelf, List.mem_cons, List.not_mem_nil, Option.some.injEq]
    rintro s (rfl | rfl | ⟨⟨⟩⟩ | ⟨⟨⟩⟩) <;> rfl
  exact ⟨hsold, hrefused, Visit.copies_have_sources (k := atlasStall) rfl (by decide) (by decide)
    rfl hsolid ⟨some { contents := atlasShelf }, rfl, rfl⟩
    (.gesture _ hfirst hpaused)⟩

end Exchange

end Bazaar
