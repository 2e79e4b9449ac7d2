import AuthProxy.Proofs.Loading.Layers
import AuthProxy.Proofs.Text.Utf8
import AuthProxy.Proofs.Toml.Giving

/-!
# Files that hold documents

The bytes of a document are read as the document (`parse?_textOfContent`), with or without a byte order mark. The tree that is made
of it has the trees of its values at their paths (`Layer.Tree.at?_put_ofToml`), in whatever order its keys are put, so that a load
without overrides finds the values that the document gives to fields, and takes the defaults for all other fields
(`Loader.loadFrom_of_gives`).
-/

namespace AuthProxy

open Layer Text Toml

/-! ## The text of a file -/

theorem pieces_byteOrderMark (bs : Bytes) : pieces (Sources.byteOrderMark ++ bs) = .scalar '\uFEFF' :: pieces bs :=
  piecesFrom_encodeChar '\uFEFF' bs

/-- The bytes of a text start with the mark exactly if the text does. -/
theorem isPrefixOf_encodeUtf8 {c : Char} (h : c ≠ '\uFEFF') (s : List Char) :
    Sources.byteOrderMark.isPrefixOf (encodeUtf8 (c :: s)) = false := by
  rw [Bool.eq_false_iff, ne_eq, List.isPrefixOf_iff_prefix]
  rintro ⟨bs, hbs⟩
  have hpieces := pieces_encodeUtf8 (c :: s)
  rw [← hbs, pieces_byteOrderMark, List.map_cons] at hpieces
  exact h (Piece.scalar.inj (List.cons.inj hpieces).1).symm

theorem textOfContent_encodeUtf8 {c : Char} (h : c ≠ '\uFEFF') (s : List Char) :
    Sources.textOfContent (encodeUtf8 (c :: s)) = c :: s := by
  rw [Sources.textOfContent, isPrefixOf_encodeUtf8 h, if_neg Bool.false_ne_true, decodeLossy_encodeUtf8]

theorem textOfContent_byteOrderMark (s : List Char) : Sources.textOfContent (encodeUtf8 ('\uFEFF' :: s)) = s := by
  have hbytes : encodeUtf8 ('\uFEFF' :: s) = Sources.byteOrderMark ++ encodeUtf8 s := rfl
  rw [Sources.textOfContent, hbytes, if_pos (List.isPrefixOf_iff_prefix.2 (List.prefix_append _ _)), List.drop_left,
    decodeLossy_encodeUtf8]

/-- No statement starts with the mark. -/
theorem statements?_byteOrderMark (s : List Char) : statements? ('\uFEFF' :: s) = none := by
  rw [statements?]
  split
  · rfl
  · rfl

/-- A document behind the mark is the document without it. -/
theorem parse?_of_byteOrderMark {s : List Char} {t : Table} (h : parse? ('\uFEFF' :: s) = some t) : parse? s = some t := by
  obtain ⟨sts, hsts, h⟩ := Option.bind_eq_some_iff.1 h
  change statements? s = some sts at hsts
  have hmark : ∀ r, s ≠ '\uFEFF' :: r := by
    rintro r rfl
    rw [statements?_byteOrderMark] at hsts
    cases hsts
  unfold parse?
  split
  next r => exact absurd rfl (hmark r)
  next => exact Option.bind_eq_some_iff.2 ⟨sts, hsts, h⟩

/-- A file that holds the text of a document is that document. -/
theorem parse?_textOfContent {s : List Char} {t : Table} (h : parse? s = some t) :
    parse? (Sources.textOfContent (encodeUtf8 s)) = some t := by
  cases s with
  | nil => exact h
  | cons c s =>
    by_cases hc : c = '\uFEFF'
    · subst hc
      rw [textOfContent_byteOrderMark]
      exact parse?_of_byteOrderMark h
    · rwa [textOfContent_encodeUtf8 hc]

/-! ## The tree of a document -/

namespace Layer.Tree

/-- Distinct entries are put each onto the entry of its key. -/
theorem child?_putEntries {es : Entries} (hes : (es.map (·.1)).Nodup) (k : String) (t : Tree) : (putEntries es t).child? k =
    match es.lookup k with
    | some v => some (put v ((t.child? k).getD nil))
    | none => t.child? k := by
  induction es generalizing t with
  | nil => rw [putEntries]; rfl
  | cons e es ih =>
    obtain ⟨j, v⟩ := e
    obtain ⟨hj, hes⟩ := List.nodup_cons.1 hes
    rw [putEntries, ih hes, List.lookup_cons]
    by_cases hk : k = j
    · subst hk
      have hnone : es.lookup k = none :=
        List.lookup_eq_none_iff.2 fun e he => bne_iff_ne.2 fun h => hj (List.mem_map.2 ⟨e, he, h.symm⟩)
      rw [hnone, beq_self_eq_true, child?_alterEntry_self]
    · rw [beq_false_of_ne hk, child?_alterEntry_of_ne hk]

/-- A value that is no table replaces what it is put onto. -/
theorem put_ofToml {v : Value} (h : ¬ v.IsTable) (t : Tree) : put (ofToml v) t = ofToml v := by
  cases v with
  | table es => exact absurd trivial h
  | _ => rw [ofToml, put]; rintro _ _ ⟨⟩

theorem child?_ofToml {v : Value} (h : ¬ v.IsTable) (k : String) : (ofToml v).child? k = none := by
  cases v with
  | table es => exact absurd trivial h
  | _ => rfl

/-- **The tree of distinct entries** has the trees of the values that keys lead to. -/
theorem at?_put_ofToml (p : List String) : ∀ {v : Value}, v.Distinct →
    (put (ofToml v) nil).at? p = (v.at? p).map fun w => put (ofToml w) nil := by
  induction p with
  | nil => exact fun {v} _ => rfl
  | cons k p ih =>
    intro v h
    rw [at?_cons]
    cases h with
    | plain hplain =>
      rw [put_ofToml hplain, child?_ofToml hplain, Value.at?, Value.entries_of_not_isTable hplain]
      rfl
    | @table es keys entries =>
      have hkeys : ((ofTomlEntries es).map (·.1)).Nodup := by
        rw [ofTomlEntries_eq_map, List.map_map]
        exact keys
      rw [ofToml, put_table, child?_putEntries hkeys, ofTomlEntries_eq_map, lookup_map_snd]
      change _ = ((es.lookup k).bind _).map _
      cases hw : es.lookup k with
      | none => rfl
      | some w => exact ih ((Value.Distinct.table keys entries).of_lookup hw)

end Layer.Tree

/-! ## The values of fields -/

theorem itemTexts_ofTomlItems (file : Option String) (key : String) (xs : List String) :
    ∀ i, Located.itemTexts file key i (Tree.ofTomlItems (xs.map .text)) = .ok xs := by
  induction xs with
  | nil => exact fun _ => rfl
  | cons x xs ih =>
    intro i
    rw [List.map_cons, Tree.ofTomlItems, Located.itemTexts, ih]
    rfl

/-- A value that a field is written as is read from the file as what it stands for. -/
theorem Toml.Value.Spells.value_ofToml (file : Option String) (key : String) : {w : Value} → {k : Kind} → {x : k.Value} →
    w.Spells k x → Located.value file ⟨.ofToml w, key⟩ k = .ok x
  | _, .text, (_ : String), rfl => rfl
  | _, .flag, (_ : Bool), rfl => rfl
  | _, .port, (p : UInt16), rfl => by
    have := p.toNat_lt
    have hnumber : Located.number file ⟨.ofToml (.integer p.toNat), key⟩ = .ok p.toNat := by
      rw [Located.number, Tree.ofToml]
      dsimp only
      rw [if_pos (by omega), Int.toNat_natCast]
    rw [Located.value, Located.port, hnumber]
    change (if p.toNat < 2 ^ 16 then _ else _) = _
    rw [if_pos this, UInt16.ofNat_toNat]
  | _, .duration, (_ : Duration), ⟨s, rfl, hread⟩ => by
    have htext : Located.text file ⟨.ofToml (.text s), key⟩ = .ok s := rfl
    rw [Located.value, Located.duration, htext]
    exact Outcome.bind_eq_ok_iff.2 ⟨_, rfl, Outcome.mapFault_eq_ok_iff.2 hread⟩
  | _, .texts, (xs : List String), rfl => itemTexts_ofTomlItems file key xs 0
  | _, .path, (_ : Option String), ⟨_, rfl, rfl⟩ => rfl

/-! ## Loads -/

namespace Toml.Gives

variable {t t' : Table} {values : (f : Field) → Option f.Value} (h : Gives t values)

include h

theorem apart : Apart t :=
  h.distinct.apart h.bare

theorem at?_treeOfFile (p : List String) :
    (Sources.treeOfFile t).at? p = ((Value.table t).at? p).map fun w => .put (.ofToml w) .nil := by
  rw [Sources.treeOfFile_eq_put h.bare, Tree.at?_put_ofToml p h.distinct]

theorem sectional_treeOfFile (hperm : t'.Perm t) : (Sources.treeOfFile t').Sectional := by
  refine Tree.Sectional.of_same (fun s u hu => ?_) (h.apart.same_treeOfFile hperm).symm
  rw [h.at?_treeOfFile] at hu
  obtain ⟨w, hw, rfl⟩ := Option.map_eq_some_iff.1 hu
  have htable : w.IsTable := h.sections s w hw
  cases w with
  | table es =>
    rw [Tree.ofToml, Tree.put_table]
    exact Tree.isTable_putEntries _ (Tree.isTable_asTable _)
  | _ => cases htable

/-- The tree has of a field what is given, too. -/
theorem readField_treeOfFile (hperm : t'.Perm t) (file : Option String) (f : Field) :
    Layer.readField file (Sources.treeOfFile t') f = .ok (values f) := by
  rw [Tree.readField_of_same (h.apart.same_treeOfFile hperm), (h.sectional_treeOfFile (.refl t)).readField, h.at?_treeOfFile]
  have hrel := h.fields f
  generalize (Value.table t).at? f.path = o, values f = x at hrel ⊢
  cases hrel with
  | none => rfl
  | some hspells =>
    change some <$> Located.value file ⟨.put (.ofToml _) .nil, f.dotted⟩ f.kind = _
    rw [Tree.put_ofToml hspells.not_isTable, hspells.value_ofToml]
    rfl

/-- **The tree of a document** gives what the strict reader takes from it. -/
theorem readConfiguration_treeOfFile (hperm : t'.Perm t) {c : Configuration}
    (hc : ∀ f, Field.get c f = (values f).getD (Field.get .default f)) (order : Field.Order) (file : Option String) :
    Layer.readConfiguration order file (Sources.treeOfFile t') = .ok c :=
  Layer.readConfiguration_eq_ok_iff.2 fun f => ⟨values f, h.readField_treeOfFile hperm file f, hc f⟩

end Toml.Gives

variable {s : List Char} {t : Table} {fs : FileSystem}

/-- A file that holds a document is read as it. -/
theorem Sources.readFile_of_parse? (hparse : parse? s = some t) (hfit : integersFitEntries t = true) (fs : FileSystem)
    (name : List Char) : Sources.readFile fs ⟨name, .ok (encodeUtf8 s)⟩ = .ok t := by
  have hdocument : documentOf? (encodeUtf8 s) = some t := by
    rw [documentOf?, parse?_textOfContent hparse]
    exact Option.filter_eq_some_iff.2 ⟨rfl, hfit⟩
  rw [Sources.readFile]
  dsimp only
  rw [hdocument]

namespace Loader

/-- A loader with a file that holds a document which memory holds makes the tree of the document. -/
theorem fileTree_of_parse? (hparse : parse? s = some t) (hfit : integersFitEntries t = true)
    (hroom : Sources.fits fs.room t = true) {path : Bytes} {name : List Char} (hname : decodeUtf8? path = some name)
    (hfile : fs.regular? path = some (.ok (encodeUtf8 s))) (w : Walk) :
    fileTree fs ⟨some path⟩ w = .ok (Sources.treeOfFile (w.keys t), some (fs.shownPath name)) := by
  have hlayer : Sources.fileLayer fs path = .ok ⟨name, .ok (encodeUtf8 s)⟩ := by
    rw [Sources.fileLayer, hfile, hname]
  simp only [fileTree, hlayer, bind, Except.bind, Sources.base, Sources.readFile_of_parse? hparse hfit, if_pos hroom]

/-- **A load without overrides** takes from a file what the strict reader takes from the document. -/
theorem loadFrom_of_gives {values : (f : Field) → Option f.Value} (h : Gives t values) (hparse : parse? s = some t)
    {c : Configuration} (hc : ∀ f, Field.get c f = (values f).getD (Field.get .default f)) {path : Bytes} {name : List Char}
    (hname : decodeUtf8? path = some name) (hfile : fs.regular? path = some (.ok (encodeUtf8 s))) (w : Walk) :
    (Loader.loadFrom fs ⟨some path⟩ [] w).outcome = .ok c := by
  have hoverrides : collectOverrides [] = .ok [] := by
    decide +kernel
  exact outcome_eq_ok_iff.2 ⟨[], _, _, hoverrides, fileTree_of_parse? hparse h.fits h.apart.fits hname hfile w,
    h.readConfiguration_treeOfFile (w.perm t) hc w.fields _⟩

end Loader

end AuthProxy
