import AuthProxy.Proofs.Loading.Layers

/-!
# The order of the overrides

The paths of overrides part from each other. At such a path and below it stands what its override puts there; on the way to one is
a table (`top_at?_override`); and nothing else is touched (`stands?_override_of_spared`). All this is said of the overrides as a
set, so that in any order they make the same mapping of keys to values (`same_override_of_perm`), from which the same
configuration is read (`readConfiguration_override_of_perm`).
-/

namespace AuthProxy

namespace Layer

namespace Tree

/-! ## Places in a tree -/

/-- The item at an index, from the end of the list where it is negative. -/
def item? (i : Int) : Tree → Option Tree
  | list _ items =>
    if 0 ≤ i then items[i.toNat]? else if 0 ≤ items.length + i then items[(items.length + i).toNat]? else none
  | _ => none

/-- What stands at a place, through tables and lists. -/
def stands? : List Segment → Tree → Option Tree
  | [], t => some t
  | .key k :: place, t => (t.child? k).bind (stands? place)
  | .index i :: place, t => (t.item? i).bind (stands? place)

theorem stands?_keys_append (p : List String) (place : List Segment) (t : Tree) :
    t.stands? (keys p ++ place) = (t.at? p).bind (stands? place) := by
  induction p generalizing t with
  | nil => rfl
  | cons k p ih =>
    change (t.child? k).bind (stands? (keys p ++ place)) = ((t.child? k).bind (at? p)).bind (stands? place)
    cases t.child? k with
    | none => rfl
    | some u => exact ih u

theorem stands?_keys (p : List String) (t : Tree) : t.stands? (keys p) = t.at? p := by
  have happend := stands?_keys_append p [] t
  rw [List.append_nil] at happend
  rw [happend]
  exact Option.bind_fun_some _

/-- A table has no items. -/
theorem stands?_index_of_isTable {t : Tree} (h : t.IsTable) (i : Int) (place : List Segment) :
    t.stands? (.index i :: place) = none := by
  obtain ⟨b, es, rfl⟩ := h
  rfl

theorem keys_prefix_keys_iff {p q : List String} : keys p <+: keys q ↔ p <+: q :=
  List.prefix_map_iff_of_injective fun _ _ h => Segment.key.inj h

/-- A place is a path of keys, perhaps with an item of a list behind it. -/
theorem exists_keys (place : List Segment) : ∃ p, place = keys p ∨ ∃ i rest, place = keys p ++ .index i :: rest := by
  induction place with
  | nil => exact ⟨[], .inl rfl⟩
  | cons s place ih =>
    cases s with
    | index i => exact ⟨[], .inr ⟨i, place, rfl⟩⟩
    | key k =>
      obtain ⟨p, rfl | ⟨i, rest, rfl⟩⟩ := ih
      · exact ⟨k :: p, .inl rfl⟩
      · exact ⟨k :: p, .inr ⟨i, rest, rfl⟩⟩

end Tree

end Layer

/-! ## What overrides make of a tree -/

namespace Sources

open Layer Tree

variable {pairs : List (String × String)} {t : Tree} {os os' : List Override}

/-- The node at a path that does not lead through that of an override: a table on the way to one, and else what it was. -/
theorem top_at?_override {q : List String} (h : ∀ o ∈ os, ¬ o.binding.field.path <+: q) (t : Tree) :
    ((override t os).at? q).map top =
      if ∃ o ∈ os, q <+: o.binding.field.path then some (passed (t.at? q)) else (t.at? q).map top := by
  rw [override_eq_putAll, top_at?_putAll]
  · simp only [List.mem_map, exists_exists_and_eq_and]
  · rw [List.forall_mem_map]
    exact h

/-- **Overrides make the same mapping** in any order. -/
theorem same_override_of_perm (hos : (os.map (·.binding.field)).Nodup) (h : os'.Perm os) (t : Tree) :
    Same (override t os') (override t os) := by
  rw [override_eq_putAll, override_eq_putAll]
  exact same_putAll_of_perm (List.pairwise_map.2 (pairwise_parts hos)) (h.map _) t

/-- The configuration of a load does not depend on the order in which its overrides are put. -/
theorem readConfiguration_override_of_perm (hos : (os.map (·.binding.field)).Nodup) (h : os'.Perm os) (order : Field.Order)
    (file : Option String) (t : Tree) :
    readConfiguration order file (override t os') = readConfiguration order file (override t os) :=
  readConfiguration_of_same (same_override_of_perm hos h t) order file

/-- A place that overrides leave alone: it is not at their paths, below them or on the way to them, and what it shares with the way
    to one leads through nothing but tables. -/
structure Spared (t : Tree) (os : List Override) (place : List Segment) : Prop where
  parts : ∀ o ∈ os, ¬ keys o.binding.field.path <+: place ∧ ¬ place <+: keys o.binding.field.path
  tables : ∀ o ∈ os, ∀ way, way <+: keys o.binding.field.path → way <+: place → ∀ u, t.stands? way = some u → u.IsTable

theorem Spared.congr {place : List Segment} (h : ∀ o, o ∈ os' ↔ o ∈ os) (hspared : Spared t os place) :
    Spared t os' place where
  parts o ho := hspared.parts o ((h o).1 ho)
  tables o ho := hspared.tables o ((h o).1 ho)

/-- **Whatever overrides leave alone** stands as it did. -/
theorem stands?_override_of_spared {place : List Segment} (h : Spared t os place) :
    (override t os).stands? place = t.stands? place := by
  obtain ⟨p, rfl | ⟨i, rest, rfl⟩⟩ := exists_keys place
  · have hparts : ∀ o ∈ os, Parts o.binding.field.path p := fun o ho =>
      ⟨mt keys_prefix_keys_iff.2 (h.parts o ho).1, mt keys_prefix_keys_iff.2 (h.parts o ho).2⟩
    rw [stands?_keys, stands?_keys, at?_override_of_parts hparts]
  · rw [stands?_keys_append, stands?_keys_append]
    have hnot : ∀ o ∈ os, ¬ o.binding.field.path <+: p := fun o ho hprefix =>
      (h.parts o ho).1 ((keys_prefix_keys_iff.2 hprefix).trans (List.prefix_append _ _))
    by_cases hway : ∃ o ∈ os, p <+: o.binding.field.path
    · -- a table stands there before and after, if anything does, and it has no items
      obtain ⟨o, ho, hprefix⟩ := hway
      have hnode := top_at?_override hnot t
      rw [if_pos ⟨o, ho, hprefix⟩] at hnode
      obtain ⟨v, hv, htop⟩ := Option.map_eq_some_iff.1 hnode
      rw [hv, Option.bind_some, stands?_index_of_isTable (isTable_of_top_passed htop)]
      cases hu : t.at? p with
      | none => rfl
      | some u =>
        have htable : u.IsTable := h.tables o ho (keys p) (keys_prefix_keys_iff.2 hprefix) (List.prefix_append _ _) u
          ((stands?_keys p t).trans hu)
        rw [Option.bind_some, stands?_index_of_isTable htable]
    · rw [at?_override_of_parts fun o ho => ⟨hnot o ho, fun hprefix => hway ⟨o, ho, hprefix⟩⟩]

/-- **The overrides of a load** can be put into any tree in any order: their paths part from each other, in every order they make
    the same mapping, in which each of them stands at its path, and whatever they leave alone stands as it did. -/
theorem override_confluent (hos : collectOverrides pairs = .ok os) (h : os'.Perm os) (t : Tree) :
    (os.Pairwise fun o o' => Parts o.binding.field.path o'.binding.field.path) ∧
    Same (override t os') (override t os) ∧
    (∀ o ∈ os, (override t os').at? o.binding.field.path = some (overrideTree o.value)) ∧
    ∀ place, Spared t os place → (override t os').stands? place = t.stands? place := by
  have hnodup : (os.map (·.binding.field)).Nodup := nodup_of_collectOverrides hos
  have hnodup' : (os'.map (·.binding.field)).Nodup := (h.map _).nodup_iff.2 hnodup
  refine ⟨pairwise_parts hnodup, same_override_of_perm hnodup h t, fun o ho => ?_, fun place hplace => ?_⟩
  · exact at?_override_of_mem hnodup' (h.mem_iff.2 ho)
  · exact stands?_override_of_spared (hplace.congr fun o => h.mem_iff)

/-- A tree with a number in place of a section, and a list of no section. -/
def scalarSection : Tree :=
  .table true [("session", .scalar true (.integer 1)), ("notes", .list true [.scalar true (.text "first"), .nil])]

/-- Two overrides in the section and one beside it. -/
def sharedOverrides : List Override :=
  [⟨⟨"SESSION_COOKIE_NAME", .cookieName⟩, .text "_sso"⟩, ⟨⟨"SESSION_COOKIE_SECRET", .cookieSecret⟩, .text "s3cret"⟩,
   ⟨⟨"SERVER_PORT", .serverPort⟩, .text "80"⟩]

/-- In either order the two share a new section, and the list stays. -/
theorem override_confluent_scalarSection :
    collectOverrides [("SERVER_PORT", "80"), ("SESSION_COOKIE_SECRET", "s3cret"), ("SESSION_COOKIE_NAME", "_sso")] =
      .ok sharedOverrides ∧
    Same (override scalarSection sharedOverrides.reverse) (override scalarSection sharedOverrides) ∧
    (override scalarSection sharedOverrides.reverse).at? ["session", "cookie", "name"] = some (.ofText "_sso") ∧
    (override scalarSection sharedOverrides.reverse).stands? [.key "notes", .index (-2)] =
      some (.scalar true (.text "first")) := by
  have hos : collectOverrides [("SERVER_PORT", "80"), ("SESSION_COOKIE_SECRET", "s3cret"),
      ("SESSION_COOKIE_NAME", "_sso")] = .ok sharedOverrides := by
    decide +kernel
  obtain ⟨-, hsame, hat, hspared⟩ := override_confluent hos (List.reverse_perm sharedOverrides) scalarSection
  refine ⟨hos, hsame, hat _ List.mem_cons_self, (hspared _ ⟨by decide +kernel, ?_⟩).trans rfl⟩
  -- only the root is common to the way to the list and to those to the overrides
  have hway : ∀ o ∈ sharedOverrides, ∀ way ∈ (keys o.binding.field.path).inits,
      way <+: [.key "notes", .index (-2)] → way = [] := by
    decide +kernel
  intro o ho way hpath hplace u hu
  obtain rfl := hway o ho way ((List.mem_inits way _).2 hpath) hplace
  cases hu
  exact ⟨_, _, rfl⟩

end Sources

end AuthProxy
