import AuthProxy.Proofs.Configuration.Gathering
import AuthProxy.Proofs.Layer.Sections

/-!
# Trees with the secrets hidden

A secret can stand in a tree at the end of the route to its field, by keys or, where a section is a list, by positions.
`Tree.hidden` puts the placeholder for every text there. Putting values at the paths of fields goes along with hiding
(`hidden_putAt`), and so does reading: the configuration that is read differs in its secrets alone, and what is wrong with a
tree is the same (`redacted_readConfiguration_hidden`).
-/

namespace AuthProxy

open Layer

/-! ## Secret fields -/

/-- The fields that hold secrets. -/
def secretFields : List Field :=
  [.cookieSecret, .clientSecret, .requestSignerKey]

/-- The value of a field as it is shown. -/
def Field.redact : (f : Field) → f.Value → f.Value
  | .cookieSecret, (s : String) => Configuration.hide s
  | .clientSecret, (s : String) => Configuration.hide s
  | .requestSignerKey, (s : String) => Configuration.hide s
  | _, v => v

theorem Field.redact_of_not_mem {f : Field} (h : f ∉ secretFields) (v : f.Value) : f.redact v = v := by
  cases f <;> first | rfl | exact absurd (by decide) h

theorem Configuration.get_redacted (c : Configuration) (f : Field) : Field.get c.redacted f = f.redact (Field.get c f) := by
  cases f <;> rfl

theorem Configuration.redacted_set (c : Configuration) (f : Field) (v : f.Value) :
    (Field.set c f v).redacted = Field.set c.redacted f (f.redact v) := by
  cases f <;> rfl

/-- Gathering goes along with redaction. -/
theorem Configuration.redacted_gather {ε : Type} (order : Field.Order) (read : (f : Field) → Except ε (Option f.Value)) :
    redacted <$> gather order read = gather order fun f => Option.map f.redact <$> read f := by
  have hfrom : ∀ (fs : List Field) (c : Configuration), redacted <$> gatherFrom read c fs =
      gatherFrom (fun f => Option.map f.redact <$> read f) c.redacted fs := by
    intro fs
    induction fs with
    | nil => exact fun c => rfl
    | cons f fs ih =>
      intro c
      rw [gatherFrom, gatherFrom]
      cases read f with
      | error e => rfl
      | ok o =>
        cases o with
        | none => exact ih c
        | some v =>
          have hset := ih (Field.set c f v)
          rw [redacted_set] at hset
          exact hset
  exact hfrom order.fields default

namespace Layer

/-! ## Routes that lie apart -/

/-- Two routes that part at some step, both by key and by position. -/
def Apart : List Step → List Step → Prop
  | s :: r, s' :: r' => if s = s' then Apart r r' else s.key ≠ s'.key ∧ s.position ≠ s'.position
  | _, _ => False

instance decidableApart : (r r' : List Step) → Decidable (Apart r r')
  | s :: r, s' :: r' =>
    have : Decidable (Apart r r') := decidableApart r r'
    inferInstanceAs (Decidable (if s = s' then Apart r r' else s.key ≠ s'.key ∧ s.position ≠ s'.position))
  | [], _ => .isFalse id
  | _ :: _, [] => .isFalse id

theorem apart_route_of_ne {f g : Field} (h : f ≠ g) : Apart f.route g.route := by
  have hall : ∀ f ∈ Field.all, ∀ g ∈ Field.all, f ≠ g → Apart f.route g.route := by
    decide +kernel
  exact hall f f.mem_all g g.mem_all h

/-! ## Entries of a key -/

section Entries

variable {α : Type} {j k : String}

/-- The entries with `f` done to those of a key. -/
def mapEntry (key : String) (f : α → α) : List (String × α) → List (String × α)
  | [] => []
  | (k, a) :: r => (k, if k = key then f a else a) :: mapEntry key f r

theorem lookup_mapEntry_self (k : String) (f : α → α) (es : List (String × α)) :
    (mapEntry k f es).lookup k = (es.lookup k).map f := by
  induction es with
  | nil => rfl
  | cons e es ih =>
    obtain ⟨i, a⟩ := e
    rw [mapEntry, List.lookup_cons, List.lookup_cons]
    by_cases h : i = k
    · rw [if_pos h, beq_iff_eq.2 h.symm]
      rfl
    · have hne : (k == i) = false := beq_false_of_ne (Ne.symm h)
      rw [hne]
      exact ih

theorem lookup_mapEntry_of_ne (h : j ≠ k) (f : α → α) (es : List (String × α)) :
    (mapEntry k f es).lookup j = es.lookup j := by
  induction es with
  | nil => rfl
  | cons e es ih =>
    obtain ⟨i, a⟩ := e
    rw [mapEntry, List.lookup_cons, List.lookup_cons, ih]
    by_cases hi : i = k
    · have hne : (j == i) = false := beq_false_of_ne (hi ▸ h)
      rw [hne]
    · rw [if_neg hi]

end Entries

namespace Tree

/-! ## Comparing trees -/

mutual

/-- Trees can be compared. -/
def decEq : (t u : Tree) → Decidable (t = u)
  | nil, nil => .isTrue rfl
  | scalar b s, scalar b' s' => decidable_of_iff (b = b' ∧ s = s') (by simp)
  | list b xs, list b' ys =>
    have := decEqItems xs ys
    decidable_of_iff (b = b' ∧ xs = ys) (by simp)
  | table b es, table b' fs =>
    have := decEqEntries es fs
    decidable_of_iff (b = b' ∧ es = fs) (by simp)
  | nil, scalar .. | nil, list .. | nil, table .. | scalar .., nil | scalar .., list .. | scalar .., table ..
  | list .., nil | list .., scalar .. | list .., table .. | table .., nil | table .., scalar .. | table .., list .. =>
    .isFalse nofun

def decEqItems : (xs ys : List Tree) → Decidable (xs = ys)
  | [], [] => .isTrue rfl
  | x :: xs, y :: ys =>
    have := decEq x y
    have := decEqItems xs ys
    decidable_of_iff (x = y ∧ xs = ys) (by simp)
  | [], _ :: _ | _ :: _, [] => .isFalse nofun

def decEqEntries : (es fs : Entries) → Decidable (es = fs)
  | [], [] => .isTrue rfl
  | (k, t) :: es, (k', u) :: fs =>
    have := decEq t u
    have := decEqEntries es fs
    decidable_of_iff (k = k' ∧ t = u ∧ es = fs) (by simp [and_assoc])
  | [], _ :: _ | _ :: _, [] => .isFalse nofun

end

instance : DecidableEq Tree := decEq

/-! ## Hiding a text -/

/-- A text hidden; anything else as it is. -/
def hideText : Tree → Tree
  | scalar b (.text s) => scalar b (.text (Configuration.hide s))
  | t => t

/-- The tree with the texts at the end of a route hidden. -/
def hideAt : List Step → Tree → Tree
  | [], t => hideText t
  | s :: r, table b es => table b (mapEntry s.key (hideAt r) es)
  | s :: r, list b items => list b (items.modify s.position (hideAt r))
  | _ :: _, t => t

/-- The tree with its secrets hidden. -/
def hidden (t : Tree) : Tree :=
  secretFields.foldl (fun t f => hideAt f.route t) t

variable {f g : Tree → Tree} {j k : String}

theorem alter_mapEntry_of_ne (h : j ≠ k) (f g : Tree → Tree) (es : Entries) :
    alter j f (mapEntry k g es) = mapEntry k g (alter j f es) := by
  induction es with
  | nil => rw [mapEntry, alter, mapEntry, if_neg h, mapEntry]
  | cons e es ih =>
    obtain ⟨i, t⟩ := e
    rw [mapEntry, alter, alter]
    by_cases hi : i = j
    · rw [if_pos hi, if_pos hi, mapEntry, if_neg (hi ▸ h), if_neg (hi ▸ h)]
    · rw [if_neg hi, if_neg hi, mapEntry, ih]

theorem alter_mapEntry_self {f' : Tree → Tree} (h : ∀ t, g (f t) = f' (g t)) (hnil : g nil = nil) (k : String) (es : Entries) :
    alter k f' (mapEntry k g es) = mapEntry k g (alter k f es) := by
  induction es with
  | nil => rw [mapEntry, alter, alter, mapEntry, if_pos rfl, mapEntry, h, hnil]
  | cons e es ih =>
    obtain ⟨i, t⟩ := e
    rw [mapEntry, alter, alter]
    by_cases hi : i = k
    · rw [if_pos hi, if_pos hi, if_pos hi, mapEntry, if_pos hi, h]
    · rw [if_neg hi, if_neg hi, if_neg hi, mapEntry, if_neg hi, ih]

/-! ## Hiding and putting -/

theorem hideAt_nil (r : List Step) : hideAt r nil = nil := by
  cases r <;> rfl

theorem hideAt_alterEntry_of_ne {s : Step} (h : j ≠ s.key) (r : List Step) (f : Tree → Tree) (t : Tree) :
    hideAt (s :: r) (alterEntry j f t) = alterEntry j f (hideAt (s :: r) t) := by
  have hnew : hideAt (s :: r) (table false (alter j f [])) = table false (alter j f []) := by
    rw [hideAt, ← alter_mapEntry_of_ne h, mapEntry]
  cases t with
  | table b es => rw [alterEntry, hideAt, hideAt, alterEntry, alter_mapEntry_of_ne h]
  | nil => exact hnew
  | scalar b x => exact hnew
  | list b items => exact hnew

theorem hideAt_alterEntry_self {s : Step} {r : List Step} {f' : Tree → Tree}
    (h : ∀ t, hideAt r (f t) = f' (hideAt r t)) (t : Tree) :
    hideAt (s :: r) (alterEntry s.key f t) = alterEntry s.key f' (hideAt (s :: r) t) := by
  have hnew : hideAt (s :: r) (table false (alter s.key f [])) = table false (alter s.key f' []) := by
    rw [hideAt, ← alter_mapEntry_self h (hideAt_nil r), mapEntry]
  cases t with
  | table b es => rw [alterEntry, hideAt, hideAt, alterEntry, alter_mapEntry_self h (hideAt_nil r)]
  | nil => exact hnew
  | scalar b x => exact hnew
  | list b items => exact hnew

/-- What is done at a path that parts from the route goes along with hiding at the end of the route. -/
theorem hideAt_alterPath_of_parts (f : Tree → Tree) {r : List Step} : ∀ {p : List String}, Parts (r.map (·.key)) p →
    ∀ t, hideAt r (alterPath f (keys p) t) = alterPath f (keys p) (hideAt r t) := by
  induction r with
  | nil => exact fun h => absurd List.nil_prefix h.1
  | cons s r ih =>
    intro p h t
    obtain ⟨k, p, rfl⟩ := List.exists_cons_of_ne_nil fun e : p = [] => h.2 (e ▸ List.nil_prefix)
    by_cases hk : k = s.key
    · subst hk
      exact hideAt_alterEntry_self (ih (parts_cons.1 h)) t
    · exact hideAt_alterEntry_of_ne hk r _ t

/-- So does what is done at the end of the route, if it goes along with hiding a text. -/
theorem hideAt_alterPath_self {f' : Tree → Tree} (h : ∀ t, hideText (f t) = f' (hideText t)) (r : List Step) :
    ∀ t, hideAt r (alterPath f (keys (r.map (·.key))) t) = alterPath f' (keys (r.map (·.key))) (hideAt r t) := by
  induction r with
  | nil => exact h
  | cons s r ih => exact hideAt_alterEntry_self ih

theorem not_isTable_hideText {v : Tree} (hv : ¬ v.IsTable) : ¬ (hideText v).IsTable := by
  cases v with
  | table b es => exact hv
  | scalar b s => cases s <;> exact fun ⟨_, _, h⟩ => (nomatch h)
  | nil => exact hv
  | list b items => exact hv

/-- A value put at the path of a field, in a tree with another field or the same one hidden. -/
theorem hideAt_putAt (f g : Field) {v : Tree} (hv : ¬ v.IsTable) (t : Tree) : hideAt f.route (putAt (keys g.path) v t) =
    putAt (keys g.path) (if f = g then hideText v else v) (hideAt f.route t) := by
  by_cases hfg : f = g
  · subst hfg
    rw [if_pos rfl]
    refine hideAt_alterPath_self (fun u => ?_) f.route t
    rw [put_of_not_isTable hv, put_of_not_isTable (not_isTable_hideText hv)]
  · rw [if_neg hfg]
    exact hideAt_alterPath_of_parts _ (Field.parts_of_ne hfg) t

theorem hideText_hideText (t : Tree) : hideText (hideText t) = hideText t := by
  cases t with
  | scalar b s =>
    cases s with
    | text s => exact congrArg (fun s => scalar b (.text s)) (Configuration.hide_hide s)
    | flag b => rfl
    | integer i => rfl
    | float x => rfl
  | nil => rfl
  | list b items => rfl
  | table b es => rfl

/-- **A value put at the path of a field** is there in the hidden tree too: hidden itself if the field is a secret. -/
theorem hidden_putAt (g : Field) {v : Tree} (hv : ¬ v.IsTable) (t : Tree) : (putAt (keys g.path) v t).hidden =
    putAt (keys g.path) (if g ∈ secretFields then hideText v else v) t.hidden := by
  have hfold : ∀ (fs : List Field) (v t : Tree), ¬ v.IsTable →
      fs.foldl (fun t f => hideAt f.route t) (putAt (keys g.path) v t) =
        putAt (keys g.path) (if g ∈ fs then hideText v else v) (fs.foldl (fun t f => hideAt f.route t) t) := by
    intro fs
    induction fs with
    | nil => exact fun v t _ => rfl
    | cons f fs ih =>
      intro v t hv
      rw [List.foldl_cons, List.foldl_cons, hideAt_putAt f g hv]
      by_cases hfg : f = g
      · subst hfg
        rw [if_pos rfl, ih _ _ (not_isTable_hideText hv), hideText_hideText, ite_self, if_pos List.mem_cons_self]
      · rw [if_neg hfg, ih _ _ hv]
        simp only [List.mem_cons, Ne.symm hfg, false_or]
  exact hfold secretFields v t hv

/-! ## Hiding and reading -/

end Tree

open Layer.Tree

/-- A route that lies apart leads to what it did. -/
theorem follow_hideAt_of_apart {r : List Step} : ∀ {route : List Step} {t : Tree} {key : String}, Apart r route →
    Located.follow ⟨hideAt r t, key⟩ route = Located.follow ⟨t, key⟩ route := by
  induction r with
  | nil => exact fun h => absurd h id
  | cons s r ih =>
    intro route t key h
    cases route with
    | nil => exact absurd h id
    | cons s' route =>
      rw [Apart] at h
      cases t with
      | nil => rfl
      | scalar b x => rfl
      | table b es =>
        rw [Located.follow, Located.follow, hideAt, Located.step, Located.step]
        dsimp only
        split at h
        next heq =>
          subst heq
          rw [lookup_mapEntry_self]
          cases es.lookup s.key with
          | none => rfl
          | some u => exact ih h
        next =>
          rw [lookup_mapEntry_of_ne h.1.symm]
      | list b items =>
        rw [Located.follow, Located.follow, hideAt, Located.step, Located.step]
        dsimp only
        split at h
        next heq =>
          subst heq
          rw [List.getElem?_modify_eq]
          cases items[s.position]? with
          | none => rfl
          | some u => exact ih h
        next =>
          rw [List.getElem?_modify_ne _ _ h.2]

/-- The route itself leads to what it did, with its text hidden. -/
theorem follow_hideAt_self {r : List Step} : ∀ {t : Tree} {key : String}, Located.follow ⟨hideAt r t, key⟩ r =
    Option.map (fun n => ⟨hideText n.tree, n.key⟩) <$> Located.follow ⟨t, key⟩ r := by
  induction r with
  | nil => exact fun {t key} => rfl
  | cons s r ih =>
    intro t key
    cases t with
    | nil => rfl
    | scalar b x => rfl
    | table b es =>
      rw [Located.follow, Located.follow, hideAt, Located.step, Located.step]
      dsimp only
      rw [lookup_mapEntry_self]
      cases es.lookup s.key with
      | none => rfl
      | some u => exact ih
    | list b items =>
      rw [Located.follow, Located.follow, hideAt, Located.step, Located.step]
      dsimp only
      rw [List.getElem?_modify_eq]
      cases items[s.position]? with
      | none => rfl
      | some u => exact ih

/-- A text that is read at the end of the route is hidden, and what cannot be read as one is the same. -/
theorem hide_text_hideText (file : Option String) (t : Tree) (key : String) :
    Configuration.hide <$> Located.text file ⟨hideText t, key⟩ = Configuration.hide <$> Located.text file ⟨t, key⟩ := by
  cases t with
  | scalar b s =>
    cases s with
    | text s => exact congrArg Except.ok (Configuration.hide_hide s)
    | flag b => rfl
    | integer i => rfl
    | float x => rfl
  | nil => rfl
  | list b items => rfl
  | table b es => rfl

/-- A secret is a text, shown hidden. -/
theorem redact_value_hideText {f : Field} (hf : f ∈ secretFields) (file : Option String) (t : Tree) (key : String) :
    f.redact <$> Located.value file ⟨hideText t, key⟩ f.kind = f.redact <$> Located.value file ⟨t, key⟩ f.kind := by
  have htext := hide_text_hideText file t key
  have hcases : f = .cookieSecret ∨ f = .clientSecret ∨ f = .requestSignerKey := by
    simpa [secretFields] using hf
  rcases hcases with rfl | rfl | rfl
  · exact htext
  · exact htext
  · exact htext

/-- What a field is shown as does not depend on whether a secret is hidden in the tree. -/
theorem redact_readField_hideAt {f : Field} (hf : f ∈ secretFields) (file : Option String) (t : Tree) (g : Field) :
    Option.map g.redact <$> readField file (hideAt f.route t) g = Option.map g.redact <$> readField file t g := by
  by_cases hfg : f = g
  · subst hfg
    rw [readField, readField, follow_hideAt_self]
    cases Located.follow ⟨t, ""⟩ f.route with
    | error stop => rfl
    | ok o =>
      cases o with
      | none => rfl
      | some n =>
        have hmap : ∀ x : Reading f.Value, Option.map f.redact <$> some <$> x = some <$> f.redact <$> x := by
          intro x
          cases x <;> rfl
        change Option.map f.redact <$> some <$> Located.value file ⟨hideText n.tree, n.key⟩ f.kind =
          Option.map f.redact <$> some <$> Located.value file n f.kind
        rw [hmap, hmap, redact_value_hideText hf]
  · rw [readField, readField, follow_hideAt_of_apart (apart_route_of_ne hfg)]

/-- **What is read from a hidden tree** is what is read from the tree itself, as far as it is shown, and so is what is wrong
    with it. -/
theorem redacted_readConfiguration_hidden (order : Field.Order) (file : Option String) (t : Tree) :
    Configuration.redacted <$> readConfiguration order file t.hidden =
      Configuration.redacted <$> readConfiguration order file t := by
  rw [readConfiguration_eq_gather, readConfiguration_eq_gather, Configuration.redacted_gather, Configuration.redacted_gather]
  congr 1
  funext g
  have hfold : ∀ (fs : List Field) (t : Tree), (∀ f ∈ fs, f ∈ secretFields) →
      Option.map g.redact <$> readField file (fs.foldl (fun t f => hideAt f.route t) t) g =
        Option.map g.redact <$> readField file t g := by
    intro fs
    induction fs with
    | nil => exact fun t _ => rfl
    | cons f fs ih =>
      intro t hfs
      obtain ⟨hf, hfs⟩ := List.forall_mem_cons.1 hfs
      rw [List.foldl_cons, ih _ hfs, redact_readField_hideAt hf]
  exact hfold secretFields t fun f hf => hf

end Layer

end AuthProxy
