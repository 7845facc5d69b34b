import DigitalTwin.Proofs.Ownership
import DigitalTwin.Proofs.TwinList

/-! The pages of a listing.

A page is what is left of the listing when `offset` items are dropped and `limit` items are taken, also where
the sum of the two does not fit a word, so the pages of one size tile the listing. -/

namespace DigitalTwin

/-! ### Filters -/

namespace Twin

variable {twin : Twin} {owner : String} {name : Option String} {metadata wider : Option JsonFields}

/-- A filter with more fields asks for more. --/
theorem Matches.of_wider (h : twin.Matches owner name wider)
    (more : ∀ filter ∈ metadata, ∀ entry ∈ filter, ∃ fields ∈ wider, entry ∈ fields) :
    twin.Matches owner name metadata where
  owned := h.owned
  named := h.named
  described filter hf entry he := by
    obtain ⟨fields, hw, hm⟩ := more filter hf entry he
    exact h.described fields hw entry hm

end Twin

/-! ### Ranges and pages -/

/-- The sum of two words, or the largest word where the sum does not fit one. No sum that is made leaves the words. -/
def cappedSum (a b : UInt64) : UInt64 := if a ≤ (0xFFFFFFFFFFFFFFFF : UInt64) - b then a + b else 0xFFFFFFFFFFFFFFFF

theorem toNat_cappedSum (a b : UInt64) : (cappedSum a b).toNat = min (a.toNat + b.toNat) maxWord := by
  have largest : maxWord = 18446744073709551615 := by decide
  have ha := a.toNat_lt
  have hb := b.toNat_lt
  have room : ((0xFFFFFFFFFFFFFFFF : UInt64) - b).toNat = 18446744073709551615 - b.toNat :=
    UInt64.toNat_sub_of_le _ _ (UInt64.le_iff_toNat_le.mpr (Nat.le_of_lt_succ hb))
  unfold cappedSum
  split
  · rename_i fits
    rw [UInt64.le_iff_toNat_le, room] at fits
    rw [UInt64.toNat_add]
    omega
  · rename_i fits
    rw [UInt64.le_iff_toNat_le, room] at fits
    have top : (0xFFFFFFFFFFFFFFFF : UInt64).toNat = 18446744073709551615 := rfl
    rw [largest, top]
    omega

namespace PageInfo

theorem range_ordered (p : PageInfo) {length : Nat} (h : length ≤ maxWord) :
    (p.range length).1 ≤ (p.range length).2 ∧ (p.range length).2 ≤ length := by
  unfold range
  dsimp only
  omega

/-- The range is what words of sixty-four bits give, with the sum of the start and the limit capped. --/
theorem range_words (total : Nat) (offset limit length : UInt64) :
    PageInfo.range ⟨total, offset.toNat, limit.toNat⟩ length.toNat =
      ((min offset length).toNat, (min (cappedSum (min offset length) limit) length).toNat) := by
  have toNat_min (a b : UInt64) : (min a b).toNat = min a.toNat b.toNat := by
    rw [UInt64.min_def, Nat.min_def]
    simp only [UInt64.le_iff_toNat_le]
    split <;> rfl
  unfold range
  rw [toNat_min, toNat_min, toNat_cappedSum, toNat_min]

end PageInfo

namespace Page

variable {α : Type} {items : List α}

/-- The first pages of one size are the start of the listing. --/
theorem flatMap_cut (size n : Nat) :
    ((List.range n).flatMap fun k => (cut items (k * size) size).items) = items.take (n * size) := by
  induction n with
  | zero => simp
  | succ n ih =>
    rw [List.range_succ, List.flatMap_append, ih, Nat.succ_mul, List.take_add, List.flatMap_singleton, cut]

/-- Pages of one size that reach the end of the listing give it whole. --/
theorem flatMap_pages {pages : Nat → Page α} {size n : Nat} (reached : items.length ≤ n * size)
    (h : ∀ k < n, pages k = cut items (k * size) size) :
    ((List.range n).flatMap fun k => (pages k).items) = items := by
  have same : ((List.range n).flatMap fun k => (pages k).items) =
      (List.range n).flatMap fun k => (cut items (k * size) size).items := by
    refine List.flatMap_congr fun k hk => ?_
    rw [h k (List.mem_range.mp hk)]
  rw [same, flatMap_cut, List.take_of_length_le reached]

end Page

namespace Hub

variable {hub : Hub} {token owner : String} {calls : List TwinCall} {appended : List State}

/-- The page of twins that a call gets, of a store that has served some calls. --/
theorem turn_list_cut (twins : hub.twins = (TwinStore.empty.serveAll calls).2)
    (hi : hub.identities.identify token = .ok owner) (counted : (TwinList.serveAll [] calls).2.length ≤ maxWord)
    (clock : Clock) (name : Option String) (metadata : Option JsonFields) (offset limit : Nat) :
    (hub.turn ⟨.empty, clock, .list token offset limit name metadata⟩).1 = .ok (.twins (.cut
      ((TwinList.serveAll [] calls).2.filter fun twin => twin.Matches owner name metadata) offset limit)) := by
  have stored : hub.twins.toList = (TwinList.serveAll [] calls).2 := by
    rw [twins]
    exact (TwinStore.Holds.empty.serveAll calls).2.1.toList
  rw [turn_list hi, ← TwinStore.filter_accepts, stored, TwinStore.filter_accepts_eq,
    Page.slice_eq_cut ((List.length_filter_le _ _).trans counted)]

/-- The page of states that the owner of a twin gets. --/
theorem turn_states_cut (twins : hub.twins = (TwinStore.empty.serveAll calls).2)
    (states : hub.states = StateStore.empty.appendAll appended) (hi : hub.identities.identify token = .ok owner)
    (counted : appended.length ≤ maxWord) {twin : Twin} (stored : twin ∈ (TwinList.serveAll [] calls).2)
    (own : twin.owner = owner) (clock : Clock) (offset limit : Nat) :
    (hub.turn ⟨.empty, clock, .states token twin.id offset limit⟩).1 =
      .ok (.states (.cut (appended.filter (·.twinId = twin.id)) offset limit)) := by
  obtain ⟨-, holds, -⟩ := TwinStore.Holds.empty.serveAll calls
  have found : hub.twins.own? owner twin.id = some twin := by
    rw [twins, holds.wellFormed.own?_eq_some, TwinStore.mem_ownedBy, holds.toList]
    exact ⟨⟨stored, own⟩, rfl⟩
  have history : hub.states.history twin.id = appended.filter (·.twinId = twin.id) := by
    rw [states, StateStore.history_appendAll]
    rfl
  rw [turn_states hi, found, history]
  dsimp only
  rw [Page.slice_eq_cut ((List.length_filter_le _ _).trans counted)]

/-- Of whatever twins and states a hub holds, a caller lists the own twins that the filters ask for, in the
    order in which they were stored, and the states of an own twin, in the order in which they were added. The
    total does not depend on the page, and the items of the page are those behind `offset` others, `limit` at
    most. The range of a page lies in the listing and never leaves the words. So the pages of one size, one
    after another, are the listing, and a filter with more fields lists nothing else. --/
theorem pages_tile_listing (hub : Hub) (calls : List TwinCall) (appended : List State)
    (twins : hub.twins = (TwinStore.empty.serveAll calls).2)
    (states : hub.states = StateStore.empty.appendAll appended)
    (identified : hub.identities.identify token = .ok owner)
    (counted : (TwinList.serveAll [] calls).2.length ≤ maxWord) (countedStates : appended.length ≤ maxWord)
    (clock : Clock) (name : Option String) (metadata : Option JsonFields) :
    let stored := (TwinList.serveAll [] calls).2
    let listing := stored.filter fun twin => twin.Matches owner name metadata
    let history (twin : Twin) := appended.filter (·.twinId = twin.id)
    let listAt (offset limit : Nat) := (hub.turn ⟨.empty, clock, .list token offset limit name metadata⟩).1
    let statesAt (twin : Twin) (offset limit : Nat) :=
      (hub.turn ⟨.empty, clock, .states token twin.id offset limit⟩).1
    (∀ offset limit, listAt offset limit = .ok (.twins (.cut listing offset limit))) ∧
    (∀ twin ∈ stored, twin.owner = owner → ∀ offset limit,
      statesAt twin offset limit = .ok (.states (.cut (history twin) offset limit))) ∧
    (∀ total (offset limit length : UInt64),
      let range := PageInfo.range ⟨total, offset.toNat, limit.toNat⟩ length.toNat
      range = ((min offset length).toNat, (min (cappedSum (min offset length) limit) length).toNat) ∧
        range.1 ≤ range.2 ∧ range.2 ≤ length.toNat) ∧
    (∀ size n (pages : Nat → Page Twin), listing.length ≤ n * size →
      (∀ k < n, listAt (k * size) size = .ok (.twins (pages k))) →
      ((List.range n).flatMap fun k => (pages k).items) = listing) ∧
    (∀ twin ∈ stored, twin.owner = owner → ∀ size n (pages : Nat → Page State), (history twin).length ≤ n * size →
      (∀ k < n, statesAt twin (k * size) size = .ok (.states (pages k))) →
      ((List.range n).flatMap fun k => (pages k).items) = history twin) ∧
    (∀ wider : Option JsonFields, (∀ filter ∈ metadata, ∀ entry ∈ filter, ∃ fields ∈ wider, entry ∈ fields) →
      (stored.filter fun twin => twin.Matches owner name wider).Sublist listing) ∧
    (∀ i x, (Json.integer i).canonical ≠ (Json.float x).canonical) ∧
    (Json.float .zero).canonical = (Json.float (.ofMagnitudeBits true 0)).canonical := by
  intro stored listing history listAt statesAt
  have lists (offset limit) : listAt offset limit = .ok (.twins (.cut listing offset limit)) :=
    turn_list_cut twins identified counted clock name metadata offset limit
  have statesOf (twin : Twin) (hm : twin ∈ stored) (own : twin.owner = owner) (offset limit) :
      statesAt twin offset limit = .ok (.states (.cut (history twin) offset limit)) :=
    turn_states_cut twins states identified countedStates hm own clock offset limit
  refine ⟨lists, statesOf, fun total offset limit length => ?_, fun size n pages reached h => ?_,
    fun twin hm own size n pages reached h => ?_, fun wider more => ?_, fun i x => ?_, rfl⟩
  · exact ⟨PageInfo.range_words total offset limit length,
      PageInfo.range_ordered _ (Nat.le_of_lt_succ length.toNat_lt)⟩
  · refine Page.flatMap_pages reached fun k hk => ?_
    have same := (h k hk).symm.trans (lists _ _)
    simpa using same
  · refine Page.flatMap_pages reached fun k hk => ?_
    have same := (h k hk).symm.trans (statesOf twin hm own _ _)
    simpa using same
  · refine List.monotone_filter_right _ fun twin h => ?_
    exact decide_eq_true ((of_decide_eq_true h).of_wider more)
  · simp [Json.integer, Json.float, Json.canonical, Json.canonicalNumber]

/-- Two of three twins are the caller's, and one of them has a field that is asked for. The page behind the
    largest offset is empty, with the total all the same. --/
theorem pages_tile_listing_two_own :
    let twin (id owner : String) (metadata : JsonFields) : Twin :=
      ⟨id, owner, "pump", metadata, ⟨0, 0⟩, ⟨0, 0⟩, 0, []⟩
    let calls : List TwinCall :=
      [.save (twin "t" "ann" [("site", .integer 1)]), .save (twin "u" "bob" []), .save (twin "v" "ann" [])]
    let state (id : String) : State := ⟨id, 0, 0, ⟨1, 0⟩, []⟩
    let appended := [state "t", state "v", state "t"]
    let hub : Hub := { Hub.new ⟨[("token", "ann")]⟩ ⟨fun _ => "w", 0⟩ none with
      twins := (TwinStore.empty.serveAll calls).2, states := StateStore.empty.appendAll appended }
    let listed (offset limit : Nat) (name : Option String) (metadata : Option JsonFields) (info : PageInfo)
        (ids : List String) : Prop := ∃ page,
      (hub.turn ⟨.empty, .at ⟨2, 0⟩, .list "token" offset limit name metadata⟩).1 = .ok (.twins page) ∧
        page.info = info ∧ page.items.map (·.id) = ids
    listed maxWord maxWord (some "um") none ⟨2, maxWord, maxWord⟩ [] ∧
      listed 1 5 (some "um") none ⟨2, 1, 5⟩ ["v"] ∧
      listed 0 5 none (some [("site", .integer 1)]) ⟨1, 0, 5⟩ ["t"] ∧
      listed 0 5 none (some [("site", .float (.ofInt 1))]) ⟨0, 0, 5⟩ [] ∧
      (hub.turn ⟨.empty, .at ⟨2, 0⟩, .states "token" "t" 1 maxWord⟩).1 =
        .ok (.states ⟨⟨2, 1, maxWord⟩, [state "t"]⟩) := by
  intro twin calls state appended hub listed
  have identified : hub.identities.identify "token" = .ok "ann" := rfl
  have tiled := pages_tile_listing hub calls appended rfl rfl identified (by decide) (by decide) (.at ⟨2, 0⟩)
  refine ⟨⟨_, (tiled (some "um") none).1 maxWord maxWord, by decide +kernel, by decide +kernel⟩,
    ⟨_, (tiled (some "um") none).1 1 5, by decide +kernel, by decide +kernel⟩,
    ⟨_, (tiled none (some [("site", .integer 1)])).1 0 5, by decide +kernel, by decide +kernel⟩,
    ⟨_, (tiled none (some [("site", .float (.ofInt 1))])).1 0 5, by decide +kernel, by decide +kernel⟩, ?_⟩
  exact (tiled none none).2.1 (twin "t" "ann" [("site", .integer 1)]) List.mem_cons_self rfl 1 maxWord

end Hub
end DigitalTwin
