import DigitalTwin.Proofs.Atomicity
import DigitalTwin.Proofs.History
import DigitalTwin.Proofs.Provenance
import Mathlib.Data.List.Infix

/-! How a twin grows. Whatever a caller passes in, a twin starts with one definition and gets another one
    behind it by each update that succeeds and by nothing else, so the definitions are numbered by their
    places and none of them is ever changed or dropped while the twin is stored. -/

namespace DigitalTwin

/-! ### The definitions of a twin -/

namespace Twin

variable {twin before after last current : Twin} {d : Definition}

/-- A twin that has its definitions by number, the first from when it was created and the last from when it
    was updated. Numbers are words, so behind the largest one they start anew. -/
structure Versioned (twin : Twin) : Prop where
  first : ∃ d, twin.definitions.head? = some d ∧ d.created = twin.created
  last : ∃ d, twin.definitions.getLast? = some d ∧ d.created = twin.updated
  revision : twin.revision = (twin.definitions.length - 1) % (maxWord + 1)
  number : ∀ i d, twin.definitions[i]? = some d → d.id = i % (maxWord + 1)

namespace Versioned

theorem length_pos (h : Versioned twin) : 0 < twin.definitions.length := by
  obtain ⟨d, hd, -⟩ := h.first
  exact List.length_pos_iff.mpr fun hn => by rw [hn] at hd; cases hd

theorem enrolled (given : Twin) (d : Definition) (id owner : String) (now : Instant) :
    Versioned (given.enrolled d id owner now) := by
  refine ⟨⟨_, rfl, rfl⟩, ⟨_, rfl, rfl⟩, rfl, fun i d' hd => ?_⟩
  cases i with
  | zero =>
    cases hd
    rfl
  | succ i => cases hd

theorem nextWord_revision (h : Versioned twin) :
    nextWord twin.revision = twin.definitions.length % (maxWord + 1) := by
  have one : twin.definitions.length - 1 + 1 = twin.definitions.length := Nat.sub_add_cancel h.length_pos
  rw [h.revision, nextWord_mod, one]

theorem revised (h : Versioned current) (given : Twin) (d : Definition) (now : Instant) :
    Versioned (current.revised given d now) := by
  refine ⟨?_, ⟨_, List.getLast?_concat, rfl⟩, ?_, fun i d' hd => ?_⟩
  · obtain ⟨d₀, hd, hc⟩ := h.first
    exact ⟨d₀, by rw [Twin.revised, List.head?_append, hd, Option.some_or], hc⟩
  · show nextWord current.revision = _
    rw [h.nextWord_revision, Twin.revised, List.length_append, List.length_singleton, Nat.add_sub_cancel]
  · rcases getElem?_concat hd with hd | ⟨rfl, rfl⟩
    · exact h.number i d' hd
    · exact h.nextWord_revision

/-- With no more definitions than words, numbers are places. --/
theorem revision_eq (h : Versioned twin) (hlen : twin.definitions.length ≤ maxWord + 1) :
    twin.revision = twin.definitions.length - 1 := by
  have := h.length_pos
  rw [h.revision, Nat.mod_eq_of_lt (by omega)]

theorem id_eq (h : Versioned twin) (hlen : twin.definitions.length ≤ maxWord + 1) {i : Nat}
    (hd : twin.definitions[i]? = some d) : d.id = i := by
  obtain ⟨hi, -⟩ := List.getElem?_eq_some_iff.mp hd
  rw [h.number i d hd, Nat.mod_eq_of_lt (by omega)]

end Versioned

/-- A twin a number of updates later. -/
structure Continues (before after : Twin) (updates : Nat) : Prop where
  id : after.id = before.id
  owner : after.owner = before.owner
  created : after.created = before.created
  definitions : before.definitions <+: after.definitions
  length : after.definitions.length = before.definitions.length + updates

namespace Continues

theorem refl (twin : Twin) : Continues twin twin 0 := ⟨rfl, rfl, rfl, List.prefix_rfl, rfl⟩

theorem revised (current given : Twin) (d : Definition) (now : Instant) :
    Continues current (current.revised given d now) 1 :=
  ⟨rfl, rfl, rfl, List.prefix_append _ _, List.length_append⟩

theorem trans {m n : Nat} (h : Continues before after m) (h' : Continues after last n) :
    Continues before last (m + n) := by
  refine ⟨h'.id.trans h.id, h'.owner.trans h.owner, h'.created.trans h.created, h.definitions.trans h'.definitions, ?_⟩
  rw [h'.length, h.length, Nat.add_assoc]

end Continues
end Twin

namespace Hub

variable {hub hub' : Hub} {clock : Clock} {op : Operation} {id : String}

/-! ### Stored twins -/

/-- What twins have that are added, and twins keep that are updated, every stored twin has. --/
theorem Effect.stored {P : Twin → Prop} (he : Effect clock op hub hub') (hw : hub.twins.WellFormed)
    (hseed : ∀ twin, op ≠ .seedTwin twin)
    (hadd : ∀ (given : Twin) (d : Definition) (owner : String),
      d.requireRoutable hub.notifyChannel = .ok () → P (given.enrolled d hub.ids.next owner clock.start))
    (hupdate : ∀ (current given : Twin) (d : Definition),
      d.requireRoutable hub.notifyChannel = .ok () → P current → P (current.revised given d clock.start))
    (h : ∀ twin ∈ hub.twins.toList, P twin) : ∀ twin ∈ hub'.twins.toList, P twin := by
  cases he with
  | transport same => exact same.twins ▸ h
  | issue | restore | record | restart | seedState => exact h
  | add hop hi hd hf hs =>
    intro twin ht
    rcases (TwinStore.mem_insert hw hs).mp ht with rfl | ⟨ht, -⟩
    · exact hadd _ _ _ hd
    · exact h twin ht
  | update hop hi hg ho hd hf hs =>
    intro twin ht
    rcases (TwinStore.mem_replace hw hs).mp ht with rfl | ⟨ht, -⟩
    · exact hupdate _ _ _ hd (h _ (hw.get?_eq_some.mp hg).1)
    · exact h twin ht
  | remove => exact fun twin ht => h twin ((TwinStore.mem_erase hw).mp ht).1
  | seedTwin hop => exact absurd hop (hseed _)

theorem Effect.versioned (he : Effect clock op hub hub') (hw : hub.twins.WellFormed)
    (hseed : ∀ twin, op ≠ .seedTwin twin) (h : ∀ twin ∈ hub.twins.toList, twin.Versioned) :
    ∀ twin ∈ hub'.twins.toList, twin.Versioned :=
  he.stored hw hseed (fun given d owner _ => .enrolled given d hub.ids.next owner _)
    (fun _ given d _ hv => hv.revised given d _) h

/-- While the notification channel stays the same, no definition of a stored twin breaks its rules, be it in
    force or not. -/
structure Governed (notifyChannel : Option String) (hub : Hub) : Prop where
  sourced : Sourced hub
  channel : hub.notifyChannel = notifyChannel
  versioned : ∀ twin ∈ hub.twins.toList, twin.Versioned
  routable : ∀ twin ∈ hub.twins.toList, ∀ d ∈ twin.definitions, d.requireRoutable notifyChannel = .ok ()

namespace Governed

variable {notifyChannel : Option String}

theorem new (identities : IdentityTable) (ids : IdSource) (notifyChannel : Option String) :
    Governed notifyChannel (Hub.new identities ids notifyChannel) :=
  ⟨.new identities ids notifyChannel, rfl, fun _ h => (nomatch h), fun _ h => (nomatch h)⟩

theorem effect (h : Governed notifyChannel hub) (he : Effect clock op hub hub')
    (hseed : ∀ twin, op ≠ .seedTwin twin) (hchannel : ∀ channel, op = .restart channel → channel = notifyChannel) :
    Governed notifyChannel hub' := by
  obtain ⟨hs, rfl, hv, hr⟩ := h
  refine ⟨hs.effect he, ?_, he.versioned hs.store hseed hv, he.stored hs.store hseed ?_ ?_ hr⟩
  · cases he with
    | transport same => exact same.notifyChannel
    | restart hop => exact hchannel _ hop
    | issue | add | update | remove | restore | record | seedTwin | seedState => rfl
  · intro given d owner hd d' hd'
    rw [List.mem_singleton.mp hd']
    exact hd
  · intro current given d hd hr d' hd'
    rcases List.mem_append.mp hd' with hd' | hd'
    · exact hr d' hd'
    · rw [List.mem_singleton.mp hd']
      exact hd

end Governed

/-! ### A twin from one moment to another -/

/-- An update that succeeds puts one more definition behind those of the twin. --/
theorem Sourced.turn_revised (h : Sourced hub) (hq : Quiet hub) {t : Turn} {token : String} {given before : Twin}
    {d : Definition} (hop : t.op = .update token given d) (hok : (hub.turn t).1.isOk = true)
    (hg : hub.twins.get? given.id = some before) :
    (hub.turn t).2.twins.get? given.id = some (before.revised given d t.clock.start) := by
  obtain ⟨faults, clock, op⟩ := t
  cases hop
  unfold Hub.turn at hok ⊢
  rw [perform_update (hq.due faults) clock] at hok ⊢
  rw [(announce_same _ _ _ _).twins]
  unfold outcome at *
  rcases revise_cases token given d clock.start { hub with faults } with
    ⟨e, faults', hr⟩ | ⟨owner, current, faults', twins, -, hg', -, -, -, hs, hr⟩ <;> rw [hr] at hok ⊢
  · cases hok
  · cases hg.symm.trans hg'
    obtain ⟨-, hid⟩ := h.store.get?_eq_some.mp hg
    rw [(alignSubscriptions_aligned _).same.twins]
    exact (TwinStore.get?_replace h.store hs _).trans (if_pos hid.symm)

end Hub

/-- Whether an operation is an update of the twin with an id. -/
def Operation.updates (id : String) : Operation → Bool
  | .update _ given _ => given.id = id
  | _ => false

theorem Operation.exists_of_updates {op : Operation} {id : String} (h : op.updates id = true) :
    ∃ token given d, op = .update token given d ∧ given.id = id := by
  cases op with
  | update token given d => exact ⟨token, given, d, rfl, of_decide_eq_true h⟩
  | add | view | list | remove | save | saveAll | receive | states | restore | restart | seedTwin | seedState | plan =>
    cases h

namespace Hub

variable {hub hub' : Hub} {clock : Clock} {op : Operation} {id : String} {before : Twin}

/-- What is no update of a twin leaves it as it is or removes it. --/
theorem Effects.kept (row : Effects clock op hub hub') (h : Sourced hub) (hop : op.updates id = false)
    (hg : hub.twins.get? id = some before) :
    hub'.twins.get? id = some before ∨ hub'.twins.get? id = none := by
  -- Only a removal takes the twin away, and a removal stores no other one under its id.
  have kept := row.keeps (P := fun h => Sourced h ∧ (h.twins.get? id = some before ∨
    h.twins.get? id = none ∧ ∃ token, op = .remove token id)) ⟨h, Or.inl hg⟩ ?_
  · rcases kept with ⟨-, hg | ⟨hg, -⟩⟩
    · exact Or.inl hg
    · exact Or.inr hg
  · rintro h h' he ⟨hs, hg⟩
    refine ⟨hs.effect he, ?_⟩
    cases he with
    | transport same => exact same.twins ▸ hg
    | issue | restore | record | restart | seedState => exact hg
    | add hop' _ _ _ hi =>
      rcases hg with hg | ⟨-, token, hop''⟩
      · exact Or.inl (TwinStore.get?_insert_of_stored hs.store hi hg)
      · cases hop'.symm.trans hop''
    | seedTwin hop' hi =>
      rcases hg with hg | ⟨-, token, hop''⟩
      · exact Or.inl (TwinStore.get?_insert_of_stored hs.store hi hg)
      · cases hop'.symm.trans hop''
    | @update _ _ given current d twins hop' _ hg' _ _ _ hr =>
      subst hop'
      have hne : id ≠ (current.revised given d clock.start).id := by
        obtain ⟨-, hid⟩ := hs.store.get?_eq_some.mp hg'
        exact fun h => of_decide_eq_false hop (hid.symm.trans h.symm)
      show twins.get? id = _ ∨ twins.get? id = _ ∧ _
      rw [TwinStore.get?_replace hs.store hr, if_neg hne]
      exact hg
    | @remove token other _ _ hop' =>
      show (TwinStore.erase _ other).get? id = _ ∨ (TwinStore.erase _ other).get? id = _ ∧ _
      rw [TwinStore.get?_erase hs.store]
      split
      · rename_i hid
        exact Or.inr ⟨rfl, token, hid ▸ hop'⟩
      · exact hg

/-- The updates of a run that put another definition behind those of the twin with an id. -/
def updateCount (id : String) : List Turn → Hub → Nat
  | [], _ => 0
  | t :: rest, hub => (if t.op.updates id && (hub.turn t).1.isOk then 1 else 0) + updateCount id rest (hub.turn t).2

/-- A twin that is there before a turn and behind it goes on by what the turn puts behind its definitions. --/
theorem Sourced.turn_continues (h : Sourced hub) (hq : Quiet hub) (t : Turn) {after : Twin}
    (hg : hub.twins.get? id = some before) (hg' : (hub.turn t).2.twins.get? id = some after) :
    Twin.Continues before after (if t.op.updates id && (hub.turn t).1.isOk then 1 else 0) := by
  cases hup : t.op.updates id with
  | false =>
    rcases (Effects.turn hq t).kept h hup hg with same | gone
    · cases hg'.symm.trans same
      exact .refl before
    · cases hg'.symm.trans gone
  | true =>
    obtain ⟨token, given, d, hop, rfl⟩ := Operation.exists_of_updates hup
    cases hr : (hub.turn t).1 with
    | ok reply =>
      cases hg'.symm.trans (h.turn_revised hq hop (by rw [hr]; rfl) hg)
      exact .revised before given d _
    | error e =>
      have untouched := change_error (hq.due t.faults) (by rw [hop]; rfl) hr
      cases hg'.symm.trans (untouched.steady.twins ▸ hg)
      exact .refl before

/-- While an id stays stored, its twin goes on by as many definitions as updates of it succeed. --/
theorem Sourced.follow_continues {between : List Turn} (h : Sourced hub) (hq : Quiet hub)
    (hg : hub.twins.get? id = some before)
    (stays : ∀ more, more <+: between → ∃ twin, (hub.follow more).twins.get? id = some twin) :
    ∃ after, (hub.follow between).twins.get? id = some after ∧
      Twin.Continues before after (updateCount id between hub) := by
  induction between generalizing hub before with
  | nil => exact ⟨before, hg, .refl before⟩
  | cons t rest ih =>
    obtain ⟨middle, hm⟩ := stays [t] (List.prefix_append [t] rest)
    have hm : (hub.turn t).2.twins.get? id = some middle := hm
    have first := h.turn_continues hq t hg hm
    obtain ⟨after, ha, others⟩ := ih (h.follow hq [t]) (hq.turn t) hm fun more hmore =>
      stays (t :: more) (List.cons_prefix_cons.mpr ⟨rfl, hmore⟩)
    exact ⟨after, ha, first.trans others⟩

/-! ### Runs -/

/-- In every run that starts from empty stores and keeps one notification channel, whatever fails in it: the
    definitions of a stored twin are numbered by their places, the last number is its revision, and each of
    them keeps the rules for definitions. From any moment to another between which an id stays stored, its
    definitions stay as they are, and each update of it that succeeds puts one behind them. --/
theorem follow_revisions (identities : IdentityTable) (ids : IdSource) (notifyChannel : Option String)
    (turns : List Turn) (hseed : ∀ t ∈ turns, ∀ twin, t.op ≠ .seedTwin twin)
    (hchannel : ∀ t ∈ turns, ∀ channel, t.op = .restart channel → channel = notifyChannel) :
    let hub := (Hub.new identities ids notifyChannel).follow turns
    (∀ twin ∈ hub.twins.toList,
      twin.Versioned ∧
      (twin.definitions.length ≤ maxWord + 1 → twin.revision = twin.definitions.length - 1 ∧
        ∀ (i : Nat) (d : Definition), twin.definitions[i]? = some d → d.id = i) ∧
      ∀ d ∈ twin.definitions, (d.attributes.map fun a => (a.channel, a.subtopic)).Nodup ∧
        ∀ a ∈ d.attributes, a.persisted = true → some a.channel ≠ notifyChannel) ∧
    ∀ id between, (∀ more, more <+: between → ∃ twin, (hub.follow more).twins.get? id = some twin) →
      ∃ before after, hub.twins.get? id = some before ∧ (hub.follow between).twins.get? id = some after ∧
        Twin.Continues before after (updateCount id between hub) := by
  intro hub
  have hq : Quiet hub := (Quiet.new identities ids notifyChannel).follow turns
  have governed : Governed notifyChannel hub :=
    follow_induction (Quiet.new identities ids notifyChannel) (.new identities ids notifyChannel)
      fun t ht _ _ he h => h.effect he (hseed t ht) (hchannel t ht)
  refine ⟨fun twin ht => ?_, fun id between stays => ?_⟩
  · have versioned := governed.versioned twin ht
    refine ⟨versioned, fun hlen => ⟨versioned.revision_eq hlen, fun i d => versioned.id_eq hlen⟩, fun d hd => ?_⟩
    obtain ⟨distinct, unreserved⟩ := Definition.requireRoutable_eq_ok.mp (governed.routable twin ht d hd)
    refine ⟨?_, fun a ha hp => unreserved a (List.mem_filter.mpr ⟨ha, hp⟩)⟩
    refine List.Nodup.of_map (fun p : String × String => (⟨p.1, p.2⟩ : RouteKey)) ?_
    rw [List.map_map]
    exact distinct
  · obtain ⟨before, hg⟩ := stays [] List.nil_prefix
    obtain ⟨after, hg', continues⟩ := governed.sourced.follow_continues hq hg stays
    exact ⟨before, after, hg, hg', continues⟩

/-- Ann updates her twin twice. Between that the hub starts anew, Bob tries to update the twin, and the store
    is full once. --/
theorem follow_revisions_mixed_updates :
    let given : Twin := ⟨"t", "bob", "pump", [], ⟨9, 0⟩, ⟨9, 0⟩, 7, []⟩
    let d : Definition := ⟨4, ⟨9, 0⟩, [⟨"flow", "plant", "a", true⟩]⟩
    let turns : List Turn := [⟨.empty, .at ⟨1, 0⟩, .add "anns" given d⟩]
    let between : List Turn :=
      [⟨.empty, .at ⟨2, 0⟩, .update "anns" given d⟩,
        ⟨.empty, .at ⟨3, 0⟩, .restart none⟩,
        ⟨.empty, .at ⟨4, 0⟩, .update "bobs" given d⟩,
        ⟨⟨[(.updateTwin, [⟨1, some (.storage "full")⟩])]⟩, .at ⟨5, 0⟩, .update "anns" given d⟩,
        ⟨.empty, .at ⟨6, 0⟩, .update "anns" given d⟩]
    let hub := (Hub.new ⟨[("anns", "ann"), ("bobs", "bob")]⟩ ⟨fun _ => "t", 0⟩ none).follow turns
    ∃ before after, hub.twins.get? "t" = some before ∧ (hub.follow between).twins.get? "t" = some after ∧
      Twin.Continues before after 2 := by
  intro given d turns between hub
  have stored : ∀ more ∈ between.inits, ((hub.follow more).twins.get? "t").isSome := by decide +kernel
  have two : updateCount "t" between hub = 2 := by decide +kernel
  have hseed : ∀ t ∈ turns, ∀ twin, t.op ≠ .seedTwin twin := by simp [turns]
  have hchannel : ∀ t ∈ turns, ∀ channel, t.op = .restart channel → channel = none := by simp [turns]
  have continues := (follow_revisions ⟨[("anns", "ann"), ("bobs", "bob")]⟩ ⟨fun _ => "t", 0⟩ none turns hseed
    hchannel).2 "t" between fun more hmore => Option.isSome_iff_exists.mp (stored more ((List.mem_inits _ _).mpr hmore))
  rw [← two]
  exact continues

end Hub
end DigitalTwin
