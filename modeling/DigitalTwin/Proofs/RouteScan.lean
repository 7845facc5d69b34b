import DigitalTwin.Proofs.RouteTable

/-! A table of routes and nothing else. It finds the routes of a twin by a look at all routes, so there is nothing in it
    that could be out of date. The keys that a route table holds for a twin may be: a twin that takes a key over leaves
    it with those of the twin that had it. But a key that is routed to a twin is never missing there, and so the two
    have the same routes, whatever twins they are given. -/

namespace DigitalTwin

/-- A change of a route table, made without a look at what it may collide with. -/
inductive RouteCall where
  | insert (twin : Twin)
  | erase (id : String)
  | clear

/-- Routes by key. -/
structure RouteScan where
  routes : Table RouteKey Route

namespace RouteScan

def empty : RouteScan := ⟨.empty⟩

/-- Takes every route away that goes to a twin. -/
def erase (s : RouteScan) (id : String) : RouteScan :=
  ⟨⟨s.routes.entries.filter fun entry => entry.2.twinId ≠ id⟩⟩

/-- Takes every route away that goes to a twin, and then makes one for each attribute that its definition in force
persists. Of two with one key the later counts. -/
def insert (s : RouteScan) (twin : Twin) : RouteScan :=
  let attributes : List Attribute := match twin.definitions.getLast? with
    | some d => d.attributes.filter (·.persisted)
    | none => []
  ⟨attributes.foldl (fun routes a => routes.insert ⟨a.channel, a.subtopic⟩ ⟨twin.id, a, twin.revision⟩)
    (s.erase twin.id).routes⟩

/-- The routes behind a change. -/
def change (s : RouteScan) : RouteCall → RouteScan
  | .insert twin => s.insert twin
  | .erase id => s.erase id
  | .clear => empty

/-- The routes behind a row of changes. -/
def changeAll (s : RouteScan) (calls : List RouteCall) : RouteScan := calls.foldl change s

variable {s : RouteScan}

theorem get?_erase (h : s.routes.keys.Nodup) (id : String) (key : RouteKey) :
    (s.erase id).routes.get? key = (s.routes.get? key).filter (·.twinId ≠ id) :=
  Table.get?_filter h fun route => decide (route.twinId ≠ id)

theorem nodup_keys_erase (h : s.routes.keys.Nodup) (id : String) : (s.erase id).routes.keys.Nodup :=
  h.sublist (List.filter_sublist.map _)

theorem routes_insert (s : RouteScan) (twin : Twin) :
    (s.insert twin).routes = twin.persisted.foldl (RouteTable.addRoute twin) (s.erase twin.id).routes := by
  unfold insert Twin.persisted Twin.current?
  cases twin.definitions.getLast? <;> rfl

end RouteScan

namespace RouteTable

variable {t : RouteTable} {s : RouteScan}

/-- The table behind a change. -/
def change (t : RouteTable) : RouteCall → RouteTable
  | .insert twin => (t.insert twin).2
  | .erase id => (t.erase id).2
  | .clear => empty

/-- The table behind a row of changes. -/
def changeAll (t : RouteTable) (calls : List RouteCall) : RouteTable := calls.foldl change t

/-! ### What is held for a twin -/

theorem covering_empty : Covering empty := consistent_empty.covering

/-- What a twin takes over stays with the keys of the twin that had it, but nothing gets lost. --/
theorem Covering.insert (hc : t.Covering) (twin : Twin) : (t.insert twin).2.Covering := by
  intro key route hr
  rw [held_insert]
  rw [get?_insert hc] at hr
  rcases Option.or_eq_some_iff.mp hr with hr | ⟨-, hr⟩
  · rw [if_pos (Twin.routeOn?_twinId hr)]
    exact Twin.routeOn?_isSome.mp ⟨route, hr⟩
  · obtain ⟨hg, hne⟩ := Option.filter_eq_some_iff.mp hr
    rw [if_neg (by simpa using hne)]
    exact hc key route hg

theorem Covering.erase (hc : t.Covering) (id : String) : (t.erase id).2.Covering := by
  intro key route hr
  rw [get?_erase hc] at hr
  obtain ⟨hg, hne⟩ := Option.filter_eq_some_iff.mp hr
  rw [held_erase, if_neg (by simpa using hne)]
  exact hc key route hg

/-! ### The same routes -/

/-- Table and scan have the same routes, each under one key, and the table finds all of them by their twins. -/
structure Mirrors (t : RouteTable) (s : RouteScan) : Prop where
  covering : t.Covering
  nodup : t.keys.Nodup
  nodup_scan : s.routes.keys.Nodup
  get?_eq : ∀ key, t.get? key = s.routes.get? key

namespace Mirrors

theorem empty : Mirrors .empty .empty := ⟨covering_empty, List.nodup_nil, List.nodup_nil, fun _ => rfl⟩

theorem insert (h : Mirrors t s) (twin : Twin) : Mirrors (t.insert twin).2 (s.insert twin) := by
  refine ⟨h.covering.insert twin, nodup_keys_insert h.nodup twin, ?_, fun key => ?_⟩
  · rw [RouteScan.routes_insert]
    exact nodup_addRoutes twin.persisted (RouteScan.nodup_keys_erase h.nodup_scan twin.id)
  · have left := RouteScan.get?_erase h.nodup_scan twin.id key
    rw [get?_insert h.covering, RouteScan.routes_insert, get?_addRoutes, left, h.get?_eq]
    rfl

theorem erase (h : Mirrors t s) (id : String) : Mirrors (t.erase id).2 (s.erase id) := by
  refine ⟨h.covering.erase id, nodup_keys_erase h.nodup id, RouteScan.nodup_keys_erase h.nodup_scan id, fun key => ?_⟩
  rw [get?_erase h.covering, RouteScan.get?_erase h.nodup_scan, h.get?_eq]

theorem change (h : Mirrors t s) (call : RouteCall) : Mirrors (t.change call) (s.change call) := by
  cases call with
  | insert twin => exact h.insert twin
  | erase id => exact h.erase id
  | clear => exact .empty

theorem changeAll (h : Mirrors t s) (calls : List RouteCall) : Mirrors (t.changeAll calls) (s.changeAll calls) := by
  induction calls generalizing t s with
  | nil => exact h
  | cons call rest ih => exact ih (h.change call)

end Mirrors

/-- Whatever twins are put into a table and taken out of it, in whatever order and with whatever keys of each other, it
    has the routes that the scan has, and each of them once. So to take a twin out takes every route away that goes
    to it now, and none that another twin has taken over. --/
theorem changeAll_eq_scan (calls : List RouteCall) :
    let t := empty.changeAll calls
    let s := RouteScan.empty.changeAll calls
    (∀ key, t.get? key = s.routes.get? key) ∧ t.routes.entries.Perm s.routes.entries ∧
    ∀ id key route, (t.erase id).2.get? key = some route ↔ t.get? key = some route ∧ route.twinId ≠ id := by
  intro t s
  have h : Mirrors t s := Mirrors.empty.changeAll calls
  refine ⟨h.get?_eq, Table.entries_perm h.nodup h.nodup_scan h.get?_eq, fun id key route => ?_⟩
  rw [get?_erase h.covering, Option.filter_eq_some_iff, decide_eq_true_iff]

/-- The first of two twins loses its key to the second and still has it among its own, so that it is looked up when
    the twin is taken out; but the route stays. --/
example :
    let flow : Attribute := ⟨"flow", "plant", "a", true⟩
    let twin (id : String) : Twin := ⟨id, "ann", "pump", [], ⟨0, 0⟩, ⟨0, 0⟩, 5, [⟨5, ⟨0, 0⟩, [flow]⟩]⟩
    let t := empty.changeAll [.insert (twin "t"), .insert (twin "u")]
    t.held "t" = [⟨"plant", "a"⟩] ∧ (t.erase "t").2.get? ⟨"plant", "a"⟩ = some ⟨"u", flow, 5⟩ := by
  decide +kernel

end RouteTable
end DigitalTwin
