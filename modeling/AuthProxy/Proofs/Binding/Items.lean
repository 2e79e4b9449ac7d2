import AuthProxy.Proofs.Binding.Written
import AuthProxy.Proofs.Text.Trimmed

/-!
# The items of a list

What is made of the text of a list. Its pieces between the commas are trimmed, and the blank ones are left out: the items are
those that the pieces hold between blanks (`Spread`), and the text is read as no other list (`listItems_eq_iff`). So reading is a
left inverse of joining, and whatever is read is in the form that joining gives back (`Coercion.apply_list`).
-/

namespace AuthProxy

open Text

/-! ## Pieces and items -/

/-- The items that pieces hold: each in a piece of its own between blanks, in order, among pieces that are blank. -/
inductive Spread : List (List Char) → List String → Prop
  | nil : Spread [] []
  | blank {p : List Char} {ps : List (List Char)} {xs : List String} (hp : ∀ c ∈ p, isBlank c = true)
      (rest : Spread ps xs) : Spread (p :: ps) xs
  | item {u v : List Char} {x : String} {ps : List (List Char)} {xs : List String} (hu : ∀ c ∈ u, isBlank c = true)
      (hv : ∀ c ∈ v, isBlank c = true) (rest : Spread ps xs) : Spread ((u ++ x.toList ++ v) :: ps) (x :: xs)

/-- The items of pieces: trimmed, and without those that are blank. -/
def itemsOf (pieces : List (List Char)) : List String :=
  ((pieces.map trim).filter (· ≠ [])).map String.ofList

theorem listItems_eq_itemsOf (raw : String) : listItems raw = itemsOf (splitAt ',' raw.toList) := rfl

theorem itemsOf_cons_of_blank {p : List Char} (h : trim p = []) (ps : List (List Char)) :
    itemsOf (p :: ps) = itemsOf ps := by
  rw [itemsOf, List.map_cons, h, List.filter_cons_of_neg (by simp)]
  rfl

theorem itemsOf_cons_of_ne_nil {p : List Char} (h : trim p ≠ []) (ps : List (List Char)) :
    itemsOf (p :: ps) = String.ofList (trim p) :: itemsOf ps := by
  rw [itemsOf, List.map_cons, List.filter_cons_of_pos (by simpa using h)]
  rfl

/-- Any pieces hold their items. -/
theorem spread_itemsOf (pieces : List (List Char)) : Spread pieces (itemsOf pieces) := by
  induction pieces with
  | nil => exact .nil
  | cons p ps ih =>
    by_cases hp : trim p = []
    · rw [itemsOf_cons_of_blank hp]
      exact .blank (trim_eq_nil_iff.1 hp) ih
    · obtain ⟨u, v, hs, hu, hv⟩ := exists_trim p
      rw [itemsOf_cons_of_ne_nil hp]
      have hitem := Spread.item (x := String.ofList (trim p)) hu hv ih
      rwa [String.toList_ofList, ← hs] at hitem

/-- They hold no other list of items. -/
theorem Spread.itemsOf_eq {pieces : List (List Char)} {xs : List String} (h : Spread pieces xs)
    (hxs : ∀ x ∈ xs, IsItem x) : itemsOf pieces = xs := by
  induction h with
  | nil => rfl
  | blank hp _ ih => rw [itemsOf_cons_of_blank (trim_eq_nil_iff.2 hp), ih hxs]
  | @item u v x ps xs hu hv _ ih =>
    obtain ⟨⟨hne, htrim, -⟩, hxs⟩ := List.forall_mem_cons.1 hxs
    have hpiece : trim (u ++ x.toList ++ v) = x.toList := trim_append_append hu htrim hv
    have hx : trim (u ++ x.toList ++ v) ≠ [] := by
      rw [hpiece]
      exact fun h => hne (String.toList_eq_nil_iff.1 h)
    rw [itemsOf_cons_of_ne_nil hx, hpiece, String.ofList_toList, ih hxs]

/-- Pieces that hold items have no commas. -/
theorem Spread.comma_not_mem {pieces : List (List Char)} {xs : List String} (h : Spread pieces xs)
    (hxs : ∀ x ∈ xs, IsItem x) : ∀ p ∈ pieces, ',' ∉ p := by
  have hcomma : ∀ {t : List Char}, (∀ c ∈ t, isBlank c = true) → ',' ∉ t := fun ht hmem => by
    have hblank := ht ',' hmem
    revert hblank
    decide
  induction h with
  | nil => exact List.forall_mem_nil _
  | blank hp _ ih => exact List.forall_mem_cons.2 ⟨hcomma hp, ih hxs⟩
  | item hu hv _ ih =>
    obtain ⟨⟨-, -, hx⟩, hxs⟩ := List.forall_mem_cons.1 hxs
    refine List.forall_mem_cons.2 ⟨?_, ih hxs⟩
    simp only [List.mem_append, not_or]
    exact ⟨⟨hcomma hu, hx⟩, hcomma hv⟩

/-! ## Texts of lists -/

/-- An item has a first and a last character, neither of them blank, and no comma. -/
theorem isItem_iff {s : String} : IsItem s ↔ s ≠ "" ∧ ',' ∉ s.toList ∧
    (∀ c, s.toList.head? = some c → isBlank c = false) ∧ ∀ c, s.toList.getLast? = some c → isBlank c = false := by
  rw [IsItem, trim_eq_self_iff]
  constructor
  · rintro ⟨hne, ⟨hhead, hlast⟩, hcomma⟩
    exact ⟨hne, hcomma, hhead, hlast⟩
  · rintro ⟨hne, hcomma, hhead, hlast⟩
    exact ⟨hne, ⟨hhead, hlast⟩, hcomma⟩

/-- What is read from a text is fit to be joined. -/
theorem isItem_of_mem_listItems {raw x : String} (h : x ∈ listItems raw) : IsItem x := by
  obtain ⟨t, ht, rfl⟩ := List.mem_map.1 h
  obtain ⟨ht, hne⟩ := List.mem_filter.1 ht
  obtain ⟨p, hp, rfl⟩ := List.mem_map.1 ht
  refine ⟨fun he => ?_, ?_, ?_⟩
  · have hnil : trim p = [] := by
      rw [← String.toList_ofList (l := trim p), he]
      rfl
    simp [hnil] at hne
  · rw [String.toList_ofList, trim_trim]
  · obtain ⟨u, v, hs, -, -⟩ := exists_trim p
    have hcomma : ',' ∉ p := not_mem_of_mem_splitAt hp
    rw [String.toList_ofList]
    intro hmem
    apply hcomma
    rw [hs]
    simp [hmem]

/-- **A text is read as a list** exactly if its pieces hold the items of the list. -/
theorem listItems_eq_iff {raw : String} {xs : List String} :
    listItems raw = xs ↔ (∀ x ∈ xs, IsItem x) ∧ Spread (splitAt ',' raw.toList) xs := by
  constructor
  · rintro rfl
    exact ⟨fun x hx => isItem_of_mem_listItems hx, spread_itemsOf _⟩
  · rintro ⟨hxs, h⟩
    exact h.itemsOf_eq hxs

/-- Pieces that hold items are read as these, when commas are put between them. -/
theorem listItems_intercalate {pieces : List (List Char)} {xs : List String} (h : Spread pieces xs)
    (hxs : ∀ x ∈ xs, IsItem x) : listItems (String.ofList ([','].intercalate pieces)) = xs := by
  rw [listItems_eq_itemsOf, String.toList_ofList]
  by_cases hnil : pieces = []
  · -- no pieces make the empty text, which is one blank piece
    subst hnil
    cases h
    rfl
  · rw [splitAt_intercalate hnil (h.comma_not_mem hxs), h.itemsOf_eq hxs]

/-- **The coercion of a list** never fails. Its items are not empty, have no commas and no blanks at their ends, so that they come
    back when they are joined; they are what the pieces of the text hold. Every list of such items is read from any text that
    holds them between commas, with blanks around them and blank pieces among them, and from its own joined text. -/
theorem Coercion.apply_list (key : String) :
    (∀ s, IsItem s ↔ s ≠ "" ∧ ',' ∉ s.toList ∧ (∀ c, s.toList.head? = some c → isBlank c = false) ∧
      ∀ c, s.toList.getLast? = some c → isBlank c = false) ∧
    (∀ raw, ∃ items, Coercion.list.apply key raw = .ok (.list items) ∧ (∀ x ∈ items, IsItem x) ∧
      Coercion.list.apply key (joined items) = .ok (.list items)) ∧
    (∀ raw items, Coercion.list.apply key raw = .ok (.list items) ↔
      (∀ x ∈ items, IsItem x) ∧ Spread (splitAt ',' raw.toList) items) ∧
    ∀ items, (∀ x ∈ items, IsItem x) →
      Coercion.list.apply key (joined items) = .ok (.list items) ∧
      ∀ pieces, Spread pieces items →
        Coercion.list.apply key (String.ofList ([','].intercalate pieces)) = .ok (.list items) := by
  have happly : ∀ {raw : String} {items : List String},
      Coercion.list.apply key raw = .ok (.list items) ↔ listItems raw = items := by
    intro raw items
    rw [Coercion.apply, Except.ok.injEq, CoercedValue.list.injEq]
  simp only [happly]
  refine ⟨fun s => isItem_iff, fun raw => ?_, fun raw items => listItems_eq_iff, fun items hitems => ⟨?_, fun pieces h => ?_⟩⟩
  · have hitems : ∀ x ∈ listItems raw, IsItem x := fun x hx => isItem_of_mem_listItems hx
    exact ⟨listItems raw, rfl, hitems, listItems_joined hitems⟩
  · exact listItems_joined hitems
  · exact listItems_intercalate h hitems

/-- Two items with blanks of several kinds around them, among pieces that are empty or blank. -/
theorem Coercion.apply_list_blanks :
    Coercion.list.apply "UPSTREAM_DEFAULT_EMAIL_DOMAINS" ",\u3000a b.example\t,\u00a0 ,,corp.example," =
      .ok (.list ["a b.example", "corp.example"]) := by
  obtain ⟨-, -, -, hlist⟩ := Coercion.apply_list "UPSTREAM_DEFAULT_EMAIL_DOMAINS"
  obtain ⟨-, hpieces⟩ := hlist ["a b.example", "corp.example"] (by decide)
  have hspread : Spread
      [[], ['\u3000'] ++ "a b.example".toList ++ ['\t'], ['\u00a0', ' '], [], [] ++ "corp.example".toList ++ [], []]
      ["a b.example", "corp.example"] := by
    have hblank : ∀ {u : List Char}, u.all isBlank = true → ∀ c ∈ u, isBlank c = true := List.all_eq_true.1
    refine .blank (hblank rfl) (.item (hblank rfl) (hblank rfl) (.blank (hblank rfl) (.blank (hblank rfl) ?_)))
    exact .item (hblank rfl) (hblank rfl) (.blank (hblank rfl) .nil)
  have htext : String.ofList ([','].intercalate [[], ['\u3000'] ++ "a b.example".toList ++ ['\t'], ['\u00a0', ' '], [],
      [] ++ "corp.example".toList ++ [], []]) = ",\u3000a b.example\t,\u00a0 ,,corp.example," := by
    decide +kernel
  have hread := hpieces _ hspread
  rwa [htext] at hread

end AuthProxy
