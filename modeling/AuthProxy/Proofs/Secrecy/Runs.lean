import AuthProxy.Command.Run
import AuthProxy.Proofs.Check.Conditions
import AuthProxy.Proofs.Loading.Environment
import AuthProxy.Proofs.Secrecy.Documents

/-!
# Runs that differ in secrets

Two runs of the program with the same arguments, whose environments and files do not differ but in secrets
(`Environment.Agrees`, `FileSystem.Agrees`), leave the same behind if their loads go through tables in the same orders
(`run_eq_run`): always where the configuration is printed, and where it is checked if the keys of the cookies are in order. Where a
configuration is loaded over a file whose keys are apart, the orders do not matter either. But a document that is refused is
quoted, with the secrets that are in it (`run_tells_apart`).
-/

namespace AuthProxy

open Text

/-! ## Environments -/

/-- A byte string that is a text, and not empty. -/
def IsNonemptyText (value : Bytes) : Prop :=
  value ≠ [] ∧ ∃ text, decodeUtf8? value = some text

/-- Two variables of one name, with one value or with the values of a secret, which are not empty. -/
def VariablesAgree (v v' : Bytes × Bytes) : Prop :=
  v.1 = v'.1 ∧ (v.2 = v'.2 ∨
    (∃ key, IsSecretKey key ∧ v.1 = encodeUtf8 key.toList) ∧ IsNonemptyText v.2 ∧ IsNonemptyText v'.2)

namespace Environment

/-- Two environments that do not differ but in secrets. -/
def Agrees (env env' : Environment) : Prop :=
  List.Forall₂ VariablesAgree env env'

variable {env env' : Environment}

theorem boundKey?_encodeUtf8 {key : String} (h : IsSecretKey key) : boundKey? (encodeUtf8 key.toList) = some key := by
  obtain ⟨b, hb, rfl, -⟩ := h
  exact boundKey?_eq_some_iff.2 ⟨⟨b, hb, rfl⟩, rfl⟩

/-- Secrets that are not empty are hidden alike. -/
theorem hideValue_congr {key : String} (h : IsSecretKey key) {value value' : Bytes} {text text' : List Char}
    (hvalue : value ≠ []) (htext : decodeUtf8? value = some text) (hvalue' : value' ≠ [])
    (htext' : decodeUtf8? value' = some text') :
    hideValue key (String.ofList text) = hideValue key (String.ofList text') := by
  have hplaceholder : ∀ {value : Bytes} {text : List Char}, value ≠ [] → decodeUtf8? value = some text →
      hideValue key (String.ofList text) = Configuration.placeholder := by
    intro value text hvalue htext
    have hne : String.ofList text ≠ "" := by
      intro he
      have hnil : text = [] := by
        rw [← String.toList_ofList (l := text), he]
        rfl
      subst hnil
      exact hvalue (eq_nil_of_decodeUtf8?_eq_nil htext)
    rw [hideValue, if_pos h, Configuration.hide, if_neg hne]
  rw [hplaceholder hvalue htext, hplaceholder hvalue' htext']

/-- One more variable in front, with values that are hidden alike. -/
theorem hiddenPairs_cons_congr {x y : Except Fault (List (String × String))} (h : hiddenPairs <$> x = hiddenPairs <$> y)
    {key value value' : String} (hvalue : hideValue key value = hideValue key value') :
    hiddenPairs <$> (do
      let rest ← x
      .ok ((key, value) :: rest)) =
    hiddenPairs <$> (do
      let rest ← y
      .ok ((key, value') :: rest)) := by
  rcases Outcome.map_eq_map_iff.1 h with ⟨e, he, he'⟩ | ⟨rest, rest', hr, hr', heq⟩
  · rw [he, he']
    rfl
  · rw [hr, hr']
    change Except.ok ((key, hideValue key value) :: hiddenPairs rest) =
      Except.ok ((key, hideValue key value') :: hiddenPairs rest')
    rw [hvalue, heq]

/-- **Environments that agree** bind variables that are the same with the secrets hidden, or fail over the same one. -/
theorem Agrees.boundPairs (h : Agrees env env') : hiddenPairs <$> env.boundPairs = hiddenPairs <$> env'.boundPairs := by
  induction h with
  | nil => rfl
  | @cons v v' env env' hv _ ih =>
    obtain ⟨name, value⟩ := v
    obtain ⟨name', value'⟩ := v'
    obtain ⟨hname, hv⟩ := hv
    dsimp only at hname hv
    subst hname
    rw [Environment.boundPairs, Environment.boundPairs]
    rcases hv with rfl | ⟨⟨key, hkey, rfl⟩, ⟨hvalue, text, htext⟩, hvalue', text', htext'⟩
    · cases boundKey? name with
      | none => exact ih
      | some key =>
        cases decodeUtf8? value with
        | none => rfl
        | some text => exact hiddenPairs_cons_congr ih rfl
    · rw [boundKey?_encodeUtf8 hkey, htext, htext']
      exact hiddenPairs_cons_congr ih (hideValue_congr hkey hvalue htext hvalue' htext')

/-- A variable that is not of a secret has the same value in both. -/
theorem Agrees.value? (h : Agrees env env') {key : String} (hkey : ¬ IsSecretKey key) : env.value? key = env'.value? key := by
  rw [Environment.value?, Environment.value?]
  induction h with
  | nil => rfl
  | @cons v v' env env' hv _ ih =>
    obtain ⟨name, value⟩ := v
    obtain ⟨name', value'⟩ := v'
    obtain ⟨hname, hv⟩ := hv
    dsimp only at hname hv
    subst hname
    rw [List.lookup_cons, List.lookup_cons, ih]
    by_cases he : encodeUtf8 key.toList = name
    · have hvalue : value = value' := by
        rcases hv with hv | ⟨⟨key', hkey', hname⟩, -⟩
        · exact hv
        · have hsame : key = key' := String.toList_inj.1 (encodeUtf8_injective (he.trans hname))
          exact absurd (hsame ▸ hkey') hkey
      rw [hvalue]
    · have hne : (encodeUtf8 key.toList == name) = false := beq_false_of_ne he
      rw [hne]

theorem Agrees.value?_fileVariable (h : Agrees env env') : env.value? fileVariable = env'.value? fileVariable := by
  have hkey : ¬ IsSecretKey fileVariable := by
    decide +kernel
  exact h.value? hkey

end Environment

variable {fs fs' : FileSystem} {env env' : Environment}

/-- **Loads from environments that agree** show the same if they go through tables in one order. -/
theorem Loader.load_agrees (hfs : fs.Agrees fs') (henv : env.Agrees env') (l : Loader) (w : Walk) :
    (l.load fs env w).Agrees (l.load fs' env' w) := by
  have hfile : env.file? = env'.file? := by
    rw [Environment.file?, Environment.file?, henv.value?_fileVariable]
  rw [Loader.load, Loader.load, ← hfile]
  rcases Outcome.map_eq_map_iff.1 henv.boundPairs with ⟨cause, he, he'⟩ | ⟨pairs, pairs', hp, hp', hpairs⟩
  · rw [he, he']
    exact ⟨rfl, rfl⟩
  · rw [hp, hp']
    exact loadFrom_agrees hfs _ hpairs w

/-! ## Checks -/

/-- Configurations that are shown alike do not differ but in secrets. -/
theorem get_eq_of_redacted_eq {c c' : Configuration} (h : c.redacted = c'.redacted) {f : Field} (hf : f ∉ secretFields) :
    Field.get c f = Field.get c' f := by
  calc Field.get c f
      = Field.get c.redacted f := by rw [Configuration.get_redacted, f.redact_of_not_mem hf]
    _ = Field.get c'.redacted f := by rw [h]
    _ = Field.get c' f := by rw [Configuration.get_redacted, f.redact_of_not_mem hf]

/-- **Configurations that are shown alike** are checked alike if the keys of their cookies are in order. -/
theorem Configuration.check_eq_check (hopen : fs.openFault? = fs'.openFault?) {c c' : Configuration}
    (h : c.redacted = c'.redacted) (hkey : IsSecret c.session.cookie.secret) (hkey' : IsSecret c'.session.cookie.secret) :
    c.check fs = c'.check fs' := by
  have hcheck : ∀ k : Condition, k.checkWithin fs c = k.checkWithin fs' c' := by
    intro k
    rw [Condition.checkWithin, Condition.checkWithin]
    congr 1
    by_cases hk : k.field ∈ secretFields
    · cases k with
      | cookieSecret =>
        have hholds : Condition.Holds fs c .cookieSecret := hkey
        have hholds' : Condition.Holds fs' c' .cookieSecret := hkey'
        rw [Condition.check_eq_ok_iff.2 hholds, Condition.check_eq_ok_iff.2 hholds']
      | clientSecret =>
        have hhide : Configuration.hide c.client.secret = Configuration.hide c'.client.secret :=
          congrArg (fun d : Configuration => d.client.secret) h
        have hempty : c.client.secret = "" ↔ c'.client.secret = "" := by
          rw [← Configuration.hide_eq_empty_iff, hhide, Configuration.hide_eq_empty_iff]
        simp only [Condition.check, Check.present, hempty]
      | _ => exact absurd hk (by decide)
    · exact Condition.check_congr hopen (get_eq_of_redacted_eq h hk)
  rw [check_eq_forM, check_eq_forM, funext hcheck]

namespace Command

/-! ## Runs -/

/-- Processes do the same after loads that agree if they go on alike, whatever the secrets are. -/
theorem Process.load_bind_congr {α : Type} {r r' : LoadResult} (h : r.Agrees r')
    {next next' : Except LoadFault Configuration → Process α}
    (hok : ∀ c c', r.outcome = .ok c → r'.outcome = .ok c' → c.redacted = c'.redacted → next (.ok c) = next' (.ok c'))
    (herror : ∀ f, next (.error f) = next' (.error f)) : load r >>= next = load r' >>= next' := by
  rw [load, load, h.events]
  rcases Outcome.map_eq_map_iff.1 h.outcome with ⟨stop, he, he'⟩ | ⟨c, c', hc, hc', hredacted⟩
  · rw [he, he']
    cases stop with
    | crash => simp only [bind_assoc]; rfl
    | fault f => simp only [bind_assoc, pure_bind, herror f]
  · simp only [hc, hc', bind_assoc, pure_bind, hok c c' hc hc' hredacted]

/-- What is done with configurations that are shown alike is the same. -/
theorem Process.perform_eq_perform (hopen : fs.openFault? = fs'.openFault?) {c c' : Configuration} (h : c.redacted = c'.redacted)
    {action : Action} (hkeys : action = .check → IsSecret c.session.cookie.secret ∧ IsSecret c'.session.cookie.secret) :
    perform fs action (.ok c) = perform fs' action (.ok c') := by
  cases action with
  | print =>
    rw [perform, perform, render, render, h]
  | check =>
    obtain ⟨hkey, hkey'⟩ := hkeys rfl
    have hsummary : summary c = summary c' := by
      change summary c.redacted = summary c'.redacted
      rw [h]
    have hport : c.server.port = c'.server.port := by
      change c.redacted.server.port = c'.redacted.server.port
      rw [h]
    rw [perform, perform, check, check, Configuration.check_eq_check hopen h hkey hkey', hsummary, hport]

/-- The key of the cookies is in order, if a configuration is loaded. -/
def KeyInForce (result : LoadResult) : Prop :=
  ∀ c, result.outcome = .ok c → IsSecret c.session.cookie.secret

theorem keyInForce_of_loaded {result : LoadResult} {secret : String} (h : IsSecret secret)
    (hload : result.outcome.toOption.map (·.session.cookie.secret) = some secret) : KeyInForce result := by
  intro c hc
  rw [hc] at hload
  cases hload
  exact h

/-- **Processes whose loads agree** are the same. -/
theorem Process.execute_eq_execute (hopen : fs.openFault? = fs'.openFault?) {first first' second second' : LoadResult}
    (hfirst : first.Agrees first') (hsecond : second.Agrees second') {action : Action}
    (hkeys : action = .check → KeyInForce second ∧ KeyInForce second') :
    execute fs action first second = execute fs' action first' second' := by
  have hperform : load second >>= perform fs action = load second' >>= perform fs' action := by
    refine load_bind_congr hsecond (fun c c' hc hc' hredacted => perform_eq_perform hopen hredacted fun hcheck => ?_) fun _ => rfl
    obtain ⟨hkey, hkey'⟩ := hkeys hcheck
    exact ⟨hkey c hc, hkey' c' hc'⟩
  rw [execute, execute, hperform]
  refine load_bind_congr hfirst (fun c c' _ _ hredacted => ?_) fun _ => rfl
  have hlogging : c.logging = c'.logging := by
    change c.redacted.logging = c'.redacted.logging
    rw [hredacted]
  rw [settingsOf, settingsOf, hlogging]

variable {arguments : List (List Char)} {i : Invocation} {u v u' v' : Walk}

theorem run_agrees (hfs : fs.Agrees fs') (henv : env.Agrees env')
    (hi : Invocation.read arguments (env.value? Environment.fileVariable) = .ok i) (u v : Walk)
    (hkeys : i.effective = .check →
      KeyInForce (Loader.load fs env ⟨i.file⟩ v) ∧ KeyInForce (Loader.load fs' env' ⟨i.file⟩ v)) :
    run fs env arguments u v = run fs' env' arguments u v := by
  rw [run, run, ← henv.value?_fileVariable, hi]
  dsimp only
  rw [Process.execute_eq_execute hfs.openFault? (Loader.load_agrees hfs henv ⟨i.file⟩ u)
    (Loader.load_agrees hfs henv ⟨i.file⟩ v) hkeys]

/-- The orders of two runs decide nothing: they are the same, or a configuration is loaded over a file whose keys are apart. -/
def OrdersAside (fs : FileSystem) (env : Environment) (i : Invocation) (u v u' v' : Walk) : Prop :=
  u = u' ∧ v = v' ∨
    Loader.Apart fs ⟨i.file <|> env.file?⟩ ∧ ∃ c, (Loader.load fs env ⟨i.file⟩ u).outcome = .ok c

theorem OrdersAside.load_eq (h : OrdersAside fs env i u v u' v') :
    Loader.load fs env ⟨i.file⟩ u = Loader.load fs env ⟨i.file⟩ u' ∧
      Loader.load fs env ⟨i.file⟩ v = Loader.load fs env ⟨i.file⟩ v' := by
  rcases h with ⟨rfl, rfl⟩ | ⟨hapart, c, hc⟩
  · exact ⟨rfl, rfl⟩
  · have hload : ∀ w, Loader.load fs env ⟨i.file⟩ u = Loader.load fs env ⟨i.file⟩ w := by
      intro w
      rcases Loader.load_eq_or_nameTwoFields (l := ⟨i.file⟩) hapart u w with heq | ⟨_, _, _, _, _, -, -, -, -, hstopped, -⟩
      · exact heq
      · rw [hc] at hstopped
        cases hstopped
    exact ⟨hload u', (hload v).symm.trans (hload v')⟩

/-- **Secrets are not shown.** Two runs with the same arguments, whose environments and files do not differ but in secrets, and whose
    orders decide nothing, end with the same code and write the same: if the configuration is printed; if it is checked, and the keys
    of the cookies are in order in both; and if the arguments ask for neither. -/
theorem run_eq_run (hfs : fs.Agrees fs') (henv : env.Agrees env') (arguments : List (List Char)) (u v u' v' : Walk) :
    (∀ i, Invocation.read arguments (env.value? Environment.fileVariable) = .ok i → OrdersAside fs env i u v u' v' →
      i.effective = .print → run fs env arguments u v = run fs' env' arguments u' v') ∧
    (∀ i, Invocation.read arguments (env.value? Environment.fileVariable) = .ok i → OrdersAside fs env i u v u' v' →
      i.effective = .check → KeyInForce (Loader.load fs env ⟨i.file⟩ v) → KeyInForce (Loader.load fs' env' ⟨i.file⟩ v') →
      run fs env arguments u v = run fs' env' arguments u' v') ∧
    ∀ e, Invocation.read arguments (env.value? Environment.fileVariable) = .error e →
      run fs env arguments u v = run fs' env' arguments u' v' := by
  have hrun : ∀ i, Invocation.read arguments (env.value? Environment.fileVariable) = .ok i → OrdersAside fs env i u v u' v' →
      (i.effective = .check → KeyInForce (Loader.load fs env ⟨i.file⟩ v) ∧ KeyInForce (Loader.load fs' env' ⟨i.file⟩ v')) →
      run fs env arguments u v = run fs' env' arguments u' v' := by
    intro i hi horders hkeys
    obtain ⟨hfirst, hsecond⟩ := horders.load_eq
    have horder : run fs env arguments u v = run fs env arguments u' v' := by
      rw [run, run, hi]
      dsimp only
      rw [hfirst, hsecond]
    rw [hsecond] at hkeys
    exact horder.trans (run_agrees hfs henv hi u' v' hkeys)
  refine ⟨fun i hi horders hprint => hrun i hi horders fun hcheck => ?_,
    fun i hi horders _ hkey hkey' => hrun i hi horders fun _ => ⟨hkey, hkey'⟩, fun e he => ?_⟩
  · rw [hprint] at hcheck
    cases hcheck
  · rw [run, run, ← henv.value?_fileVariable, he]
    cases e <;> rfl

/-- A text that signs with a key. -/
def signingText (key : String) : String :=
  "[requestsigner]\nkey = \"" ++ key ++ "\"\n"

/-- A file system with one regular file, which holds such a text. -/
def signingFile (key : String) : FileSystem :=
  .single (signingText key).toList

/-- An environment that logs everything and encrypts cookies with a key. -/
def encrypting (secret : String) : Environment :=
  [(encodeUtf8 "LOGGING_LEVEL".toList, encodeUtf8 "trace".toList),
   (encodeUtf8 "SESSION_COOKIE_SECRET".toList, encodeUtf8 secret.toList)]

/-- Two keys of 32 bytes. -/
def zeroKey : String := "AAAAAAAAAAAAAAAAAAAAAAAAAAAAAAAAAAAAAAAAAAA="

def otherKey : String := "BBBBBBBBBBBBBBBBBBBBBBBBBBBBBBBBBBBBBBBBBBA="

theorem signingFile_agrees : (signingFile "one").Agrees (signingFile "two") := by
  obtain ⟨t, ht⟩ : ∃ t, Sources.documentOf? (encodeUtf8 (signingText "one").toList) = some t := by
    apply Option.isSome_iff_exists.1
    decide +kernel
  obtain ⟨t', ht'⟩ : ∃ t, Sources.documentOf? (encodeUtf8 (signingText "two").toList) = some t := by
    apply Option.isSome_iff_exists.1
    decide +kernel
  have halike : ∀ t ∈ Sources.documentOf? (encodeUtf8 (signingText "one").toList),
      ∀ t' ∈ Sources.documentOf? (encodeUtf8 (signingText "two").toList), (∀ e ∈ t, Toml.IsBare e.1) ∧ Toml.Alike t t' := by
    decide +kernel
  obtain ⟨hbare, halike⟩ := halike t ht t' ht'
  exact .single (contentsAgree_of_alike ht ht' hbare halike)

theorem encrypting_agrees : (encrypting zeroKey).Agrees (encrypting otherKey) := by
  have hsecret : IsSecretKey "SESSION_COOKIE_SECRET" := by
    decide +kernel
  have htext : ∀ s : String, encodeUtf8 s.toList ≠ [] → IsNonemptyText (encodeUtf8 s.toList) :=
    fun s hne => ⟨hne, s.toList, decodeUtf8?_encodeUtf8 _⟩
  refine .cons ⟨rfl, .inl rfl⟩ (.cons ⟨rfl, .inr ⟨⟨_, hsecret, rfl⟩, htext _ ?_, htext _ ?_⟩⟩ .nil)
  · decide +kernel
  · decide +kernel

/-- A configuration is printed alike over other keys in other orders, and checked alike. -/
theorem run_eq_run_signingFile :
    run (signingFile "one") (encrypting zeroKey) ["-cc".toList, "print".toList] {} {} =
      run (signingFile "two") (encrypting otherKey) ["-cc".toList, "print".toList] Loader.backwards (.front {} .statsdPort) ∧
    run (signingFile "one") (encrypting zeroKey) ["-cc".toList, "check".toList] {} {} =
      run (signingFile "two") (encrypting otherKey) ["-cc".toList, "check".toList] {} {} := by
  have hprint : Invocation.read ["-cc".toList, "print".toList] none = .ok ⟨some .print, some [99]⟩ := by
    decide +kernel
  have hcheck : Invocation.read ["-cc".toList, "check".toList] none = .ok ⟨some .check, some [99]⟩ := by
    decide +kernel
  have hapart : Loader.Apart (signingFile "one") ⟨some [99]⟩ := by
    decide +kernel
  have hload : ∃ c, (Loader.load (signingFile "one") (encrypting zeroKey) ⟨some [99]⟩ {}).outcome = .ok c := by
    refine ⟨{ Configuration.default with
      logging.level := "trace"
      session.cookie.secret := zeroKey
      requestSigner.key := "one" }, ?_⟩
    decide +kernel
  have hzero : IsSecret zeroKey :=
    ⟨by decide, List.replicate 32 0, by decide +kernel, .inl rfl⟩
  have hother : IsSecret otherKey :=
    ⟨by decide, (List.replicate 10 [4, 16, 65]).flatten ++ [4, 16], by decide +kernel, .inl rfl⟩
  have hkey : KeyInForce (Loader.load (signingFile "one") (encrypting zeroKey) ⟨some [99]⟩ {}) :=
    keyInForce_of_loaded hzero (by decide +kernel)
  have hkey' : KeyInForce (Loader.load (signingFile "two") (encrypting otherKey) ⟨some [99]⟩ {}) :=
    keyInForce_of_loaded hother (by decide +kernel)
  exact ⟨(run_eq_run signingFile_agrees encrypting_agrees _ {} {} Loader.backwards (.front {} .statsdPort)).1 _ hprint
      (.inr ⟨hapart, hload⟩) rfl,
    (run_eq_run signingFile_agrees encrypting_agrees _ {} {} {} {}).2.1 _ hcheck (.inl ⟨rfl, rfl⟩) rfl hkey hkey'⟩

/-- A line with a secret, and with a number that does not fit 64 bits. -/
def crowdedLine (secret : String) : String :=
  "client = \x7b secret = \"" ++ secret ++ "\", n = 99999999999999999999 \x7d\n"

/-- A file system with one regular file, which holds such a line, and a reader that quotes the first line of what it refuses. -/
def quotedFile (secret : String) : FileSystem :=
  { FileSystem.single (crowdedLine secret).toList with
    complaint := fun text => "TOML parse error at line 1, column 32\n  |\n1 | " ++ String.ofList (text.takeWhile (· ≠ '\n')) }

/-- **What runs may tell apart**: the orders of the tables, where two keys lead to one port, and secrets, where the reader refuses
    the document and quotes it. -/
theorem run_tells_apart :
    (run Loader.meetingKeys [] ["-cc".toList, "print".toList] {} {}).output ≠
      (run Loader.meetingKeys [] ["-cc".toList, "print".toList] {} Loader.backwards).output ∧
    (∀ secret ∈ ["one", "two"], (Toml.parse? (crowdedLine secret).toList).isSome) ∧
    (run (quotedFile "one") [] ["-cc".toList, "print".toList] {} {}).errors ≠
      (run (quotedFile "two") [] ["-cc".toList, "print".toList] {} {}).errors := by
  refine ⟨?_, ?_, ?_⟩ <;> decide +kernel

end Command

end AuthProxy
