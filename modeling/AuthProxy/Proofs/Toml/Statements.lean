import AuthProxy.Proofs.Toml.Standing
import AuthProxy.Proofs.Toml.Values
import Mathlib.Data.List.TakeWhile

/-!
# Statements read back

Headers and assignments are read as the statements that they write, and a document of lines as the list of its statements
(`Reads`). The fuel of the reader is no matter: as many steps as there are statements are enough.
-/

namespace AuthProxy.Toml

open Text

/-! ## Keys -/

theorem isBareKeyChar_spec {c : Char} (h : isBareKeyChar c = true) :
    c ≠ '"' ∧ c ≠ '\'' ∧ c ≠ '[' ∧ c ≠ '#' ∧ c ≠ '\n' ∧ isLineBlank c = false ∧ needsCode c = false := by
  have hne : ∀ d, isBareKeyChar d = false → c ≠ d := by
    rintro d hd rfl
    rw [h] at hd
    cases hd
  refine ⟨hne _ (by decide), hne _ (by decide), hne _ (by decide), hne _ (by decide), hne _ (by decide), ?_, ?_⟩
  · simp only [isLineBlank, Bool.or_eq_false_iff, beq_eq_false_iff_ne]
    exact ⟨⟨hne _ (by decide), hne _ (by decide)⟩, hne _ (by decide)⟩
  · simp only [isBareKeyChar, Bool.or_eq_true, beq_iff_eq] at h
    rcases h with (h | rfl) | rfl
    · have hcode := isAlphanum_iff.1 h
      simp only [needsCode, Bool.or_eq_false_iff, Bool.and_eq_false_iff, decide_eq_false_iff_not]
      omega
    · decide
    · decide

/-- A plain key is made of its characters. -/
theorem IsBare.exists_cons {k : String} (hk : IsBare k) :
    ∃ c t, k.toList = c :: t ∧ isBareKeyChar c = true ∧ ∀ x ∈ t, isBareKeyChar x = true := by
  obtain ⟨c, t, ht⟩ := List.exists_cons_of_ne_nil fun h => hk.1 (String.toList_eq_nil_iff.1 h)
  have hall := hk.2
  rw [ht] at hall
  exact ⟨c, t, ht, (List.forall_mem_cons.1 hall).1, (List.forall_mem_cons.1 hall).2⟩

/-- A text that cannot go on with a plain key. -/
def FollowsKey (r : List Char) : Prop :=
  ∀ c, r.head? = some c → isBareKeyChar c = false

theorem readKeyPart?_bare {k : String} (hk : IsBare k) {r : List Char} (hr : FollowsKey r) :
    readKeyPart? (k.toList ++ r) = some (k, r) := by
  have htake : (k.toList ++ r).takeWhile isBareKeyChar = k.toList := by
    rw [List.takeWhile_append_of_pos hk.2, List.takeWhile_eq_nil_iff.2, List.append_nil]
    cases r with
    | nil => exact fun h => absurd h (by simp)
    | cons c r => exact fun _ => Bool.eq_false_iff.1 (hr c rfl)
  have hdrop : (k.toList ++ r).dropWhile isBareKeyChar = r := by
    rw [List.dropWhile_append_of_pos hk.2]
    exact dropWhile_eq_self_iff.2 hr
  obtain ⟨c, t, ht, hc, -⟩ := hk.exists_cons
  have hfirst : ∀ {d u}, k.toList ++ r = d :: u → isBareKeyChar d = true := by
    intro d u he
    rw [ht, List.cons_append] at he
    rwa [← (List.cons.inj he).1]
  unfold readKeyPart?
  split
  next he => exact absurd rfl (isBareKeyChar_spec (hfirst he)).1
  next he => exact absurd rfl (isBareKeyChar_spec (hfirst he)).2.1
  · dsimp only
    rw [htake, hdrop, String.ofList_toList, if_neg]
    rw [ht]
    exact Bool.false_ne_true

/-- Keys with points between them. -/
def pathText (path : List String) : List Char :=
  ['.'].intercalate (path.map String.toList)

theorem pathText_singleton (k : String) : pathText [k] = k.toList :=
  List.intercalate_singleton

theorem pathText_cons_cons (k j : String) (path : List String) :
    pathText (k :: j :: path) = k.toList ++ '.' :: pathText (j :: path) := by
  rw [pathText, List.map_cons, List.map_cons, List.intercalate_cons_cons, List.append_assoc]
  rfl

/-- A path starts with a character of its first key. -/
theorem pathText_head {path : List String} (hne : path ≠ []) (hbare : ∀ k ∈ path, IsBare k) :
    ∃ c t, pathText path = c :: t ∧ isBareKeyChar c = true := by
  match path with
  | [] => exact absurd rfl hne
  | [k] =>
    obtain ⟨c, t, ht, hc, -⟩ := (hbare k (by simp)).exists_cons
    exact ⟨c, t, by rw [pathText_singleton, ht], hc⟩
  | k :: j :: path =>
    obtain ⟨c, t, ht, hc, -⟩ := (hbare k (by simp)).exists_cons
    exact ⟨c, _, by rw [pathText_cons_cons, ht, List.cons_append], hc⟩

theorem skipBlanks_cons {c : Char} (h : isLineBlank c = false) (r : List Char) : skipBlanks (c :: r) = c :: r :=
  List.dropWhile_cons_of_neg (Bool.eq_false_iff.1 h)

/-- **A path is read** key by key, with the blanks behind it. -/
theorem readKeyParts?_pathText {r : List Char} (hr : FollowsKey r) (hdot : ∀ t, skipBlanks r ≠ '.' :: t) :
    ∀ {path : List String} {room : Nat}, path ≠ [] → path.length ≤ room → (∀ k ∈ path, IsBare k) →
      readKeyParts? room (pathText path ++ r) = some (path, skipBlanks r) := by
  intro path
  induction path with
  | nil => exact fun hne => absurd rfl hne
  | cons k path ih =>
    intro room _ hroom hbare
    obtain ⟨hk, hpath⟩ := List.forall_mem_cons.1 hbare
    rw [List.length_cons] at hroom
    obtain ⟨room, rfl⟩ : ∃ n, room = n + 1 := ⟨room - 1, by omega⟩
    cases path with
    | nil =>
      rw [pathText_singleton, readKeyParts?, readKeyPart?_bare hk hr]
      simp only [Option.bind_eq_bind, Option.bind_some]
    | cons j path =>
      obtain ⟨c, t, ht, hc⟩ := pathText_head (List.cons_ne_nil j path) hpath
      have hfollows : FollowsKey ('.' :: (pathText (j :: path) ++ r)) := by
        intro d hd
        cases hd
        decide
      have hskip : skipBlanks (pathText (j :: path) ++ r) = pathText (j :: path) ++ r := by
        rw [ht, List.cons_append, skipBlanks_cons (isBareKeyChar_spec hc).2.2.2.2.2.1]
      have htail := ih (List.cons_ne_nil j path) (by omega : (j :: path).length ≤ room) hpath
      rw [pathText_cons_cons, List.append_assoc, List.cons_append, readKeyParts?, readKeyPart?_bare hk hfollows]
      simp only [Option.bind_eq_bind, Option.bind_some, skipBlanks_cons (by decide : isLineBlank '.' = false), hskip, htail]

/-! ## Statements -/

/-- A text that writes a statement on a line. -/
structure WritesStatement (t : List Char) (st : Statement) : Prop where
  read (r : List Char) : readStatement? (t ++ '\n' :: r) = some (st, '\n' :: r)
  head : ∃ c u, t = c :: u ∧ isLineBlank c = false ∧ c ≠ '\n' ∧ c ≠ '#'
  printable : Printable t

theorem printable_pathText {path : List String} (hbare : ∀ k ∈ path, IsBare k) : Printable (pathText path) := by
  have hkey : ∀ k, IsBare k → Printable k.toList := fun k hk c hc => (isBareKeyChar_spec (hk.2 c hc)).2.2.2.2.2.2
  match path with
  | [] => exact printable_nil
  | [k] =>
    rw [pathText_singleton]
    exact hkey k (hbare k (by simp))
  | k :: j :: path =>
    obtain ⟨hk, hpath⟩ := List.forall_mem_cons.1 hbare
    rw [pathText_cons_cons]
    exact (hkey k hk).append (.cons (by decide) (printable_pathText hpath))

/-- **A header** opens the table at its path. -/
theorem writesStatement_header {path : List String} (hne : path ≠ []) (hlength : path.length ≤ nestingLimit)
    (hbare : ∀ k ∈ path, IsBare k) : WritesStatement ('[' :: pathText path ++ [']']) (.table path) where
  read := by
    intro r
    obtain ⟨c, t, ht, hc⟩ := pathText_head hne hbare
    have hspec := isBareKeyChar_spec hc
    have hkey : readKey? (pathText path ++ ']' :: '\n' :: r) = some (path, ']' :: '\n' :: r) := by
      refine readKeyParts?_pathText (r := ']' :: '\n' :: r) ?_ ?_ hne hlength hbare
      · intro d hd
        cases hd
        decide
      · exact fun t h => absurd (List.cons.inj h).1 (by decide)
    have hskip : skipBlanks (pathText path ++ ']' :: '\n' :: r) = pathText path ++ ']' :: '\n' :: r := by
      rw [ht, List.cons_append, skipBlanks_cons hspec.2.2.2.2.2.1]
    rw [List.append_assoc, List.cons_append, List.singleton_append]
    unfold readStatement?
    split
    next he =>
      rw [ht] at he
      exact absurd (List.cons.inj (List.cons.inj he).2).1 hspec.2.2.1
    next he =>
      cases he
      rw [hskip, hkey]
      rfl
    next hb => exact absurd rfl (hb _)
  head := ⟨'[', _, rfl, by decide, by decide, by decide⟩
  printable := (Printable.cons (by decide) (printable_pathText hbare)).append (.cons (by decide) printable_nil)

/-- **An assignment** gives a key its value. -/
theorem writesStatement_assign {k : String} (hk : IsBare k) {t : List Char} {v : Value} (hv : WritesValue t v) :
    WritesStatement (k.toList ++ " = ".toList ++ t) (.assign [k] v) where
  read := by
    intro r
    obtain ⟨c, u, hu, hc, -⟩ := hk.exists_cons
    have hspec := isBareKeyChar_spec hc
    have hkey : readKey? (k.toList ++ ' ' :: '=' :: ' ' :: (t ++ '\n' :: r)) =
        some ([k], '=' :: ' ' :: (t ++ '\n' :: r)) := by
      have hbare : ∀ j ∈ [k], IsBare j := List.forall_mem_singleton.2 hk
      have hroom : [k].length ≤ nestingLimit := by
        simp [nestingLimit]
      rw [← pathText_singleton k]
      refine readKeyParts?_pathText (r := ' ' :: '=' :: ' ' :: (t ++ '\n' :: r)) ?_ ?_ (List.cons_ne_nil k []) hroom hbare
      · intro d hd
        cases hd
        decide
      · exact fun t h => absurd (List.cons.inj h).1 (by decide)
    have hskip : skipBlanks (' ' :: (t ++ '\n' :: r)) = t ++ '\n' :: r := by
      obtain ⟨d, w, hw⟩ := List.exists_cons_of_ne_nil hv.nonempty
      have hd : isLineBlank d = false := hv.head (by rw [hw]; rfl)
      rw [hw]
      exact skipBlanks_cons hd _
    have hvalue : readValue? ((t ++ '\n' :: r).length + 1) nestingLimit (t ++ '\n' :: r) = some (v, '\n' :: r) := by
      refine hv.read ?_ (by decide) ⟨'\n', r, rfl, .inl rfl⟩
      rw [List.length_append]
      omega
    have htext : k.toList ++ " = ".toList ++ t ++ '\n' :: r = k.toList ++ ' ' :: '=' :: ' ' :: (t ++ '\n' :: r) := by
      simp
    rw [htext]
    unfold readStatement?
    split
    next he =>
      rw [hu] at he
      exact absurd (List.cons.inj he).1 hspec.2.2.1
    next he =>
      rw [hu] at he
      exact absurd (List.cons.inj he).1 hspec.2.2.1
    · rw [hkey]
      simp only [Option.bind_eq_bind, Option.bind_some, expect?, if_true, hskip, hvalue]
  head := by
    obtain ⟨c, u, hu, hc, -⟩ := hk.exists_cons
    have hspec := isBareKeyChar_spec hc
    exact ⟨c, _, by rw [hu, List.append_assoc, List.cons_append], hspec.2.2.2.2.2.1, hspec.2.2.2.2.1, hspec.2.2.2.1⟩
  printable := by
    have hkey : Printable k.toList := fun c hc => (isBareKeyChar_spec (hk.2 c hc)).2.2.2.2.2.2
    have hmark : Printable " = ".toList := printable_of_all (by decide)
    exact (hkey.append hmark).append hv.printable

/-! ## Lines -/

/-- A text that is read as a list of statements. -/
structure Reads (t : List Char) (sts : List Statement) : Prop where
  read {fuel : Nat} : sts.length < fuel → readStatements? fuel t = some sts
  length : sts.length ≤ t.length
  printable : Printable t

theorem reads_nil : Reads [] [] where
  read := by
    intro fuel h
    obtain ⟨fuel, rfl⟩ : ∃ n, fuel = n + 1 := ⟨fuel - 1, by omega⟩
    rfl
  length := Nat.le_refl 0
  printable := printable_nil

/-- An empty line says nothing. -/
theorem Reads.blank {t : List Char} {sts : List Statement} (h : Reads t sts) : Reads ('\n' :: t) sts where
  read := by
    intro fuel hfuel
    have hread := h.read hfuel
    obtain ⟨fuel, rfl⟩ : ∃ n, fuel = n + 1 := ⟨fuel - 1, by omega⟩
    have hskip : skipFill false ('\n' :: t) = skipFill false t := rfl
    rw [readStatements?, hskip]
    rwa [readStatements?] at hread
  length := Nat.le_succ_of_le h.length
  printable := .cons (by decide) h.printable

/-- **A line** is a statement in front of the others. -/
theorem Reads.cons {t r : List Char} {st : Statement} {sts : List Statement} (ht : WritesStatement t st)
    (hr : Reads r sts) : Reads (t ++ '\n' :: r) (st :: sts) where
  read := by
    intro fuel hfuel
    rw [List.length_cons] at hfuel
    obtain ⟨fuel, rfl⟩ : ∃ n, fuel = n + 1 := ⟨fuel - 1, by omega⟩
    obtain ⟨c, u, hu, hblank, hline, hcomment⟩ := ht.head
    have hfill : skipFill false (t ++ '\n' :: r) = t ++ '\n' :: r := by
      rw [hu, List.cons_append, skipFill]
      simp [hblank, hline, hcomment]
    have hend : endLine? ('\n' :: r) = some r := rfl
    rw [readStatements?, hfill]
    split
    next he =>
      rw [hu] at he
      cases he
    · rw [ht.read]
      simp only [Option.bind_eq_bind, Option.bind_some, hend, hr.read (by omega : sts.length < fuel)]
  length := by
    have := hr.length
    rw [List.length_cons, List.length_append, List.length_cons]
    omega
  printable := ht.printable.append (.cons (by decide) hr.printable)

/-- A printable text may be a document. -/
theorem isDocumentText_of_printable {t : List Char} (h : Printable t) : isDocumentText t = true := by
  induction t with
  | nil => rfl
  | cons c t ih =>
    obtain ⟨hc, ht⟩ := List.forall_mem_cons.1 h
    have hr : c ≠ '\r' := by
      rintro rfl
      exact absurd hc (by decide)
    rw [isDocumentText, ih ht, Bool.and_true]
    · simp only [needsCode, Bool.or_eq_false_iff, Bool.and_eq_false_iff, decide_eq_false_iff_not, bne_eq_false_iff_eq] at hc
      obtain ⟨hlow, hdel⟩ := hc
      have hne : c ≠ '\x7f' := by
        rintro rfl
        exact hdel rfl
      rw [Bool.and_eq_true, bne_iff_ne]
      refine ⟨?_, hne⟩
      simp only [Bool.or_eq_true, decide_eq_true_eq, beq_iff_eq]
      rcases hlow with (hlow | rfl) | rfl
      · exact .inl (.inl (by omega))
      · exact .inl (.inr rfl)
      · exact .inr rfl
    · exact hr

theorem Reads.statements? {t : List Char} {sts : List Statement} (h : Reads t sts) : statements? t = some sts := by
  rw [Toml.statements?, if_pos (isDocumentText_of_printable h.printable)]
  exact h.read (Nat.lt_succ_of_le h.length)

end AuthProxy.Toml
