import AuthProxy.Proofs.Binding.Written
import AuthProxy.Proofs.Loading.Agreement
import AuthProxy.Proofs.Loading.Layering

/-!
# Loads that ask for a port

A port is asked for by the numeral in its variable, or by an integer in the file where the variable does not occur (`Asks`). A
load never gives another port than the one that is asked for: it gives that one if 16 bits hold it, and otherwise stops with a
fault at the field (`load_port`).
-/

namespace AuthProxy

open Layer Number Text

/-- The two ports of a configuration. -/
inductive Port where
  | listener | statsd
deriving DecidableEq

namespace Port

def field : Port → Field
  | listener => .serverPort
  | statsd => .statsdPort

/-- The variable that sets the port. -/
def key : Port → String
  | listener => "SERVER_PORT"
  | statsd => "METRICS_STATSD_PORT"

def binding (p : Port) : Binding :=
  ⟨p.key, p.field⟩

def get (c : Configuration) : Port → UInt16
  | listener => c.server.port
  | statsd => c.metrics.statsd.port

def set (c : Configuration) (x : UInt16) : Port → Configuration
  | listener => { c with server.port := x }
  | statsd => { c with metrics.statsd.port := x }

variable {p : Port} {c d : Configuration} {x : UInt16} {file : Option String} {t u : Tree} {n : Nat}

theorem binding_mem_table (p : Port) : p.binding ∈ Binding.table := by
  cases p <;> decide

theorem coerced_binding (p : Port) (pairs : List (String × String)) :
    p.binding.coerced pairs = .ok ((lastValue? pairs p.key).map .text) := by
  cases p with
  | listener => cases h : lastValue? pairs "SERVER_PORT" <;> simp only [Binding.coerced, binding, key, h] <;> rfl
  | statsd => cases h : lastValue? pairs "METRICS_STATSD_PORT" <;> simp only [Binding.coerced, binding, key, h] <;> rfl

theorem get_field_set_of_ne {f : Field} (h : f ≠ p.field) : Field.get (p.set c x) f = Field.get c f := by
  cases p with
  | listener => exact Field.get_set_of_ne c (f := .serverPort) x h
  | statsd => exact Field.get_set_of_ne c (f := .statsdPort) x h

/-! ## Reading a port -/

/-- A port that 16 bits hold is read from a node that writes it. -/
theorem readField_of_lt (file : Option String) (hu : t.at? p.field.path = some u) (hn : u.Numeral n) (hlt : n < 2 ^ 16) :
    ∃ o, readField file t p.field = .ok o ∧
      Field.get (p.set c (UInt16.ofNat n)) p.field = o.getD (Field.get .default p.field) := by
  rw [readField_of_at? hu]
  cases p with
  | listener => exact ⟨_, congrArg (some <$> ·) (Located.port_numeral_of_lt hn hlt), rfl⟩
  | statsd => exact ⟨_, congrArg (some <$> ·) (Located.port_numeral_of_lt hn hlt), rfl⟩

theorem readField_of_le (file : Option String) (hu : t.at? p.field.path = some u) (hn : u.Numeral n) (hle : 2 ^ 16 ≤ n) :
    ∃ found expected source, readField file t p.field =
      report (.wrongType found expected p.field.dotted source) := by
  obtain ⟨found, expected, source, hport⟩ := Located.port_numeral_of_le file p.field.dotted hn hle
  refine ⟨found, expected, source, ?_⟩
  rw [readField_of_at? hu]
  cases p with
  | listener => exact congrArg (some <$> ·) hport
  | statsd => exact congrArg (some <$> ·) hport

/-- **A port that is read** is the one that is written. -/
theorem toNat_get_of_readConfiguration (hu : t.at? p.field.path = some u) (hn : u.Numeral n)
    {order : Field.Order} (h : readConfiguration order file t = .ok d) : (p.get d).toNat = n := by
  obtain ⟨o, ho, hd⟩ := readConfiguration_eq_ok_iff.1 h p.field
  by_cases hlt : n < 2 ^ 16
  · obtain ⟨o', ho', hset⟩ := readField_of_lt (c := d) file hu hn hlt
    rw [ho] at ho'
    cases ho'
    have hget : p.get d = UInt16.ofNat n := by
      cases p with
      | listener => exact hd.trans hset.symm
      | statsd => exact hd.trans hset.symm
    rw [hget, UInt16.toNat_ofNat_of_lt' hlt]
  · obtain ⟨found, expected, source, hfault⟩ := readField_of_le file hu hn (by omega)
    rw [ho] at hfault
    cases hfault

/-- The end of a load that asks for a port, and that gives a configuration in everything else: the port is set if 16 bits hold
    it, and else it is the fault. -/
def Settles (p : Port) (n : Nat) (c : Configuration) (outcome : Outcome LoadFault Configuration) : Prop :=
  (n < 2 ^ 16 → outcome = .ok (p.set c (UInt16.ofNat n))) ∧
  (2 ^ 16 ≤ n → ∃ found expected source,
    outcome = report (.ofFault (.misfit (.wrongType found expected p.field.dotted source))))

/-- A load in which all other fields are as in a configuration. -/
theorem settles_of_readField {fs : FileSystem} {l : Loader} {pairs : List (String × String)} {w : Walk} {os : List Override}
    {base : Tree} (hos : collectOverrides pairs = .ok os) (hbase : l.fileTree fs w = .ok (base, file))
    (hu : (Sources.override base os).at? p.field.path = some u) (hn : u.Numeral n)
    (hrest : ∀ f ≠ p.field, ∃ o, readField file (Sources.override base os) f = .ok o ∧
      Field.get c f = o.getD (Field.get .default f)) : Settles p n c (l.loadFrom fs pairs w).outcome := by
  constructor
  · intro hlt
    refine Loader.outcome_eq_ok_iff.2 ⟨os, base, file, hos, hbase, readConfiguration_eq_ok_iff.2 fun f => ?_⟩
    by_cases hf : f = p.field
    · subst hf
      exact readField_of_lt file hu hn hlt
    · rw [get_field_set_of_ne hf]
      exact hrest f hf
  · intro hle
    obtain ⟨found, expected, source, hfault⟩ := readField_of_le file hu hn hle
    have hstops : StopsAt (readField file (Sources.override base os)) w.fields.fields p.field
        (.fault (.wrongType found expected p.field.dotted source)) := by
      refine stopsAt_of_forall_ne (w.fields.mem p.field) hfault fun f _ hf => ?_
      obtain ⟨o, ho, -⟩ := hrest f hf
      exact ⟨o, ho⟩
    have hread : readConfiguration w.fields file (Sources.override base os) =
        report (.wrongType found expected p.field.dotted source) :=
      readConfiguration_eq_error_iff.2 ⟨_, hstops⟩
    refine ⟨found, expected, source, ?_⟩
    rw [Loader.outcome_of_readConfiguration hos hbase, hread]
    rfl

end Port

/-! ## What a load asks for -/

namespace Loader

open Port

/-- A load asks for a port: by the numeral in its variable, or by an integer in the file if the variable does not occur. -/
inductive Asks (fs : FileSystem) (l : Loader) (w : Walk) (pairs : List (String × String)) (p : Port) (n : Nat) : Prop where
  | ofVariable (h : lastValue? pairs p.key = some (String.ofList (decimal n)))
  | ofFile (h : lastValue? pairs p.key = none) {t : Toml.Table} (ht : l.document? fs = some t)
      (hn : (Sources.treeOfFile (w.keys t)).at? p.field.path = some (.scalar true (.integer n)))

variable {fs : FileSystem} {l : Loader} {w : Walk} {pairs : List (String × String)} {p : Port} {n : Nat} {os : List Override}
  {base : Tree} {file : Option String}

/-- The port is asked for by an override or by the tree of the file. -/
theorem Asks.coerced_or_at? (h : Asks fs l w pairs p n) (hbase : l.fileTree fs w = .ok (base, file)) :
    p.binding.coerced pairs = .ok (some (.text (String.ofList (decimal n)))) ∨
      p.binding.coerced pairs = .ok none ∧ base.at? p.field.path = some (.scalar true (.integer n)) := by
  have hcoerced := p.coerced_binding pairs
  cases h with
  | ofVariable h =>
    rw [h] at hcoerced
    exact .inl hcoerced
  | ofFile h ht hn =>
    rw [h] at hcoerced
    rcases eq_of_fileTree hbase with ⟨hnone, -⟩ | ⟨t', ht', rfl⟩
    · rw [document?, hnone] at ht
      cases ht
    · cases ht.symm.trans ht'
      exact .inr ⟨hcoerced, hn⟩

/-- It is written at its field in the tree with the overrides. -/
theorem Asks.exists_at? (h : Asks fs l w pairs p n) (hos : collectOverrides pairs = .ok os)
    (hbase : l.fileTree fs w = .ok (base, file)) :
    ∃ u, (Sources.override base os).at? p.field.path = some u ∧ u.Numeral n := by
  rcases h.coerced_or_at? hbase with hc | ⟨hc, hat⟩
  · have hmem := (mem_of_collectOverrides hos ⟨p.binding, .text (String.ofList (decimal n))⟩).2
      ⟨p.binding_mem_table, hc⟩
    exact ⟨_, Sources.at?_override_of_mem (nodup_of_collectOverrides hos) hmem, .text false⟩
  · have hmem := field_not_mem_of_coerced_none hos p.binding_mem_table hc
    exact ⟨_, (Sources.at?_override_of_not_mem hmem).trans hat, .integer true⟩

/-- The port that is asked for is the port that is loaded, if a configuration is. -/
theorem Asks.toNat_get (h : Asks fs l w pairs p n) {d : Configuration} (hd : (l.loadFrom fs pairs w).outcome = .ok d) :
    (p.get d).toNat = n := by
  obtain ⟨os, base, file, hos, hbase, hread⟩ := outcome_eq_ok_iff.1 hd
  obtain ⟨u, hu, hn⟩ := h.exists_at? hos hbase
  exact toNat_get_of_readConfiguration hu hn hread

/-- The variables of the other fields are coerced alike whether or not that of a port is set anew. -/
theorem coerced_append (p : Port) (pairs : List (String × String)) (s : String) {a : Binding} (ha : a ∈ Binding.table)
    (hne : a.field ≠ p.field) : a.coerced (pairs ++ [(p.key, s)]) = a.coerced pairs := by
  have hkey : p.key ≠ a.key := by
    intro hkey
    obtain rfl := eq_of_key_eq p.binding_mem_table ha hkey
    exact hne rfl
  rw [Binding.coerced, Binding.coerced, lastValue?_append, if_neg hkey]

/-- Whether the overrides can be collected is no matter of the port. -/
theorem exists_collectOverrides_of_append {s : String} {os' : List Override}
    (h : collectOverrides (pairs ++ [(p.key, s)]) = .ok os') : ∃ os, collectOverrides pairs = .ok os := by
  refine exists_collectOverrides_iff.2 fun a ha => ?_
  by_cases hf : a.field = p.field
  · rw [eq_of_field_eq ha p.binding_mem_table hf, coerced_binding]
    exact ⟨_, rfl⟩
  · rw [← coerced_append p pairs s ha hf]
    exact coerced_of_collectOverrides h ha

/-- **The port settles the load** if there is nothing wrong with the load but perhaps the port: with the port set to zero by
    one more variable, it gives a configuration. -/
theorem Asks.settles (h : Asks fs l w pairs p n) {c : Configuration}
    (hc : (l.loadFrom fs (pairs ++ [(p.key, "0")]) w).outcome = .ok c) : Settles p n c (l.loadFrom fs pairs w).outcome := by
  obtain ⟨os', base, file, hos', hbase, hread⟩ := outcome_eq_ok_iff.1 hc
  obtain ⟨os, hos⟩ := exists_collectOverrides_of_append hos'
  obtain ⟨u, hu, hn⟩ := h.exists_at? hos hbase
  have hleft : (∃ v, p.binding.coerced pairs = .ok (some v)) ∨
      p.binding.coerced pairs = .ok none ∧ ∃ w, base.at? p.field.path = some w := by
    rcases h.coerced_or_at? hbase with hc | ⟨hc, hat⟩
    · exact .inl ⟨_, hc⟩
    · exact .inr ⟨hc, _, hat⟩
  have hright : ∃ v, p.binding.coerced (pairs ++ [(p.key, "0")]) = .ok (some v) := by
    rw [coerced_binding, lastValue?_append, if_pos rfl]
    exact ⟨_, rfl⟩
  have hagree := agreeOff_override p.binding_mem_table hos hos'
    (fun a ha hne => (coerced_append p pairs "0" ha hne).symm) hleft hright
  refine settles_of_readField hos hbase hu hn fun f hf => ?_
  rw [hagree.readField hf]
  exact readConfiguration_eq_ok_iff.1 hread f

/-- A port by itself settles the load: no other variable occurs, and the file has nothing at the other fields. -/
theorem Asks.settles_default (h : Asks fs l w pairs p n) (hbase : l.fileTree fs w = .ok (base, file))
    (hsections : base.Sectional) (hat : ∀ f ≠ p.field, base.at? f.path = none)
    (hnone : ∀ a ∈ Binding.table, a.field ≠ p.field → lastValue? pairs a.key = none) :
    Settles p n .default (l.loadFrom fs pairs w).outcome := by
  obtain ⟨os, hos⟩ : ∃ os, collectOverrides pairs = .ok os := by
    refine exists_collectOverrides_iff.2 fun a ha => ?_
    by_cases hf : a.field = p.field
    · rw [eq_of_field_eq ha p.binding_mem_table hf, coerced_binding]
      exact ⟨_, rfl⟩
    · exact ⟨none, Binding.coerced_eq_ok_none_iff.2 (hnone a ha hf)⟩
  obtain ⟨u, hu, hn⟩ := h.exists_at? hos hbase
  refine settles_of_readField hos hbase hu hn fun f hf => ?_
  obtain ⟨a, ha, rfl⟩ := Binding.exists_mem_table f
  have hcoerced := Binding.coerced_eq_ok_none_iff.2 (hnone a ha hf)
  rw [readField_of_not_overridden hsections hos ha hcoerced, hsections.readField, hat a.field hf]
  exact ⟨none, rfl, rfl⟩

/-- What stands in the tree of a document with plain keys at the top stands there in any order of its keys. -/
theorem same_treeOfFile {t : Toml.Table} (ht : l.document? fs = some t) (hbare : ∀ e ∈ t, Toml.IsBare e.1) (w : Walk) :
    (Sources.treeOfFile (w.keys t)).Same (Sources.treeOfFile t) :=
  ((distinct_of_document? ht).apart hbare).same_treeOfFile (w.perm t)

/-- A document with plain keys at the top asks for the integer at the path of a port. -/
theorem asks_of_sole {t : Toml.Table} (ht : l.document? fs = some t) (hbare : ∀ e ∈ t, Toml.IsBare e.1)
    (hn : Toml.Value.Sole (.integer n) p.field.path (.table t)) (hnone : lastValue? pairs p.key = none) :
    Asks fs l w pairs p n := by
  have hinteger : ¬ (Tree.ofToml (.integer n)).IsTable := by
    rintro ⟨b, es, h⟩
    cases h
  refine .ofFile hnone ht ((same_treeOfFile ht hbare w).at?_of_not_isTable ?_ hinteger)
  exact Sources.at?_treeOfFile hbare hinteger hn

/-- **Ports are never altered.** The port that is asked for, by the numeral in its variable or by an integer in the file, settles
    the load, whether it is asked for by itself or among other variables over any file that do not stop the load. No load
    gives another port. All this is so in any order of the tables. -/
theorem load_port (fs : FileSystem) (p : Port) (n : Nat) (w : Walk) :
    Settles p n .default (loadFrom fs {} [(p.key, String.ofList (decimal n))] w).outcome ∧
    (∀ (l : Loader) (t : Toml.Table), l.document? fs = some t → Toml.Sectioned t →
      Toml.Value.Sole (.integer n) p.field.path (.table t) →
      (∀ f ∈ Field.all, f ≠ p.field → (Toml.Value.table t).All (fun _ => False) f.path) →
      Settles p n .default (l.loadFrom fs [] w).outcome) ∧
    (∀ (l : Loader) (t : Toml.Table) pairs, l.document? fs = some t → (∀ e ∈ t, Toml.IsBare e.1) →
      Toml.Value.Sole (.integer n) p.field.path (.table t) → lastValue? pairs p.key = none → Asks fs l w pairs p n) ∧
    ∀ (l : Loader) pairs, Asks fs l w pairs p n →
      (∀ c, (l.loadFrom fs (pairs ++ [(p.key, "0")]) w).outcome = .ok c → Settles p n c (l.loadFrom fs pairs w).outcome) ∧
      ∀ d, (l.loadFrom fs pairs w).outcome = .ok d → (p.get d).toNat = n := by
  refine ⟨?_, fun l t ht hsections hn habsent => ?_, fun l t pairs ht hbare hn hnone => asks_of_sole ht hbare hn hnone,
    fun l pairs h => ⟨fun c => h.settles, fun d => h.toNat_get⟩⟩
  · have hasks : Asks fs {} w [(p.key, String.ofList (decimal n))] p n :=
      .ofVariable (by rw [lastValue?_cons, if_pos rfl]; rfl)
    refine hasks.settles_default (fileTree_of_none rfl w) Tree.sectional_empty
      (fun f _ => Tree.at?_empty_of_ne_nil f.path_ne_nil) fun a ha hf => ?_
    have hkey : p.key ≠ a.key := by
      intro hkey
      obtain rfl := eq_of_key_eq p.binding_mem_table ha hkey
      exact hf rfl
    rw [lastValue?_cons, if_neg hkey]
    rfl
  · obtain ⟨file, hbase⟩ := fileTree_of_document? ht (Sources.fits_of_isBare hsections.1) w
    have hsame := same_treeOfFile ht hsections.1 w
    have hasks : Asks fs l w [] p n := asks_of_sole ht hsections.1 hn rfl
    refine hasks.settles_default hbase ((Sources.sectional_treeOfFile hsections).of_same hsame.symm) (fun f hf => ?_)
      fun _ _ _ => rfl
    apply hsame.at?_eq_none
    rw [Option.eq_none_iff_forall_ne_some]
    intro u hu
    exact Sources.at?_treeOfFile_of_all (Q := fun _ => False) hsections.1 (fun _ _ h => h) (habsent f f.mem_all hf) hu

/-- A file system with two regular files: one gives the port of the sink alone, the other that of the listener among others. -/
def portFiles : FileSystem where
  workingDirectory := []
  regular? path :=
    if path = [99] then some (.ok (encodeUtf8 "[metrics.statsd]\nport = 65536\n".toList))
    else if path = [100] then some (.ok (encodeUtf8 "[server]\nport = 65535\n[logging]\nlevel = \"WARN\"\n".toList))
    else none
  openFault? _ := none

/-- The greatest port is loaded among other values, and the number behind it is refused where nothing else is wrong. -/
theorem load_port_portFiles :
    (∃ cause, (loadFrom portFiles ⟨some [99]⟩ []).outcome = report cause) ∧
    (loadFrom portFiles ⟨some [100]⟩ [("CLIENT_ID", "x")]).outcome = .ok
      { Configuration.default with server.port := 65535, logging.level := "WARN", client.id := "x" } := by
  obtain ⟨-, hfile, -⟩ := load_port portFiles .statsd 65536 {}
  obtain ⟨-, -, hasks, hload⟩ := load_port portFiles .listener 65535 {}
  constructor
  · obtain ⟨t, ht⟩ : ∃ t, document? portFiles ⟨some [99]⟩ = some t := by
      apply Option.isSome_iff_exists.1
      decide +kernel
    have hdocument : ∀ t ∈ document? portFiles ⟨some [99]⟩, Toml.Sectioned t ∧
        Toml.Value.Sole (.integer 65536) Port.statsd.field.path (.table t) ∧
        ∀ f ∈ Field.all, f ≠ Port.statsd.field → (Toml.Value.table t).All (fun _ => False) f.path := by
      decide +kernel
    obtain ⟨hsections, hn, habsent⟩ := hdocument t ht
    obtain ⟨-, hrefused⟩ := hfile ⟨some [99]⟩ t ht hsections hn habsent
    obtain ⟨found, expected, source, h⟩ := hrefused (by decide)
    exact ⟨_, h⟩
  · obtain ⟨t, ht⟩ : ∃ t, document? portFiles ⟨some [100]⟩ = some t := by
      apply Option.isSome_iff_exists.1
      decide +kernel
    have hdocument : ∀ t ∈ document? portFiles ⟨some [100]⟩, (∀ e ∈ t, Toml.IsBare e.1) ∧
        Toml.Value.Sole (.integer 65535) Port.listener.field.path (.table t) := by
      decide +kernel
    obtain ⟨hbare, hn⟩ := hdocument t ht
    have hrest : (loadFrom portFiles ⟨some [100]⟩ ([("CLIENT_ID", "x")] ++ [(Port.listener.key, "0")])).outcome =
        .ok { Configuration.default with server.port := 0, logging.level := "WARN", client.id := "x" } := by
      decide +kernel
    obtain ⟨hsettles, -⟩ := hload ⟨some [100]⟩ [("CLIENT_ID", "x")] (hasks _ t _ ht hbare hn rfl)
    exact (hsettles _ hrest).1 (by decide)

end Loader

end AuthProxy
