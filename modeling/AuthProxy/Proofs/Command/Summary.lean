import AuthProxy.Proofs.Check.Conditions
import AuthProxy.Proofs.Command.Outcome

/-!
# Line breaks in the summary

The summary of a valid configuration holds three of its texts as they are: the slug of the provider, the cluster, and the host of
the sink. The checks ask of them no more than that they are not empty (`check_named_iff`), so that they may hold line breaks; the
summary then has these, and no others (`occurrences_summary`). It is one line exactly if the three texts are
(`isOneLine_summary_iff`).
-/

namespace AuthProxy.Command

open Environment Number

variable {fs : FileSystem} {c : Configuration} {b : Char}

/-- The characters that end a line. -/
def lineBreaks : List Char :=
  ['\n', '\x0b', '\x0c', '\r', '\u0085', '\u2028', '\u2029']

/-- A text in which no line ends. -/
def IsOneLine (s : String) : Prop :=
  ∀ b ∈ lineBreaks, b ∉ s.toList

/-- How often a character occurs in a text. -/
def occurrences (b : Char) (s : String) : Nat :=
  s.toList.count b

theorem occurrences_append (b : Char) (s t : String) : occurrences b (s ++ t) = occurrences b s + occurrences b t := by
  rw [occurrences, String.toList_append, List.count_append]
  rfl

theorem occurrences_eq_zero_iff {s : String} : occurrences b s = 0 ↔ b ∉ s.toList :=
  List.count_eq_zero

/-- A number is written without line breaks. -/
theorem occurrences_toString (hb : b ∈ lineBreaks) (n : Nat) : occurrences b (toString n) = 0 := by
  have hnot : lineBreaks.all (!·.isDigit) = true := by
    decide
  rw [occurrences_eq_zero_iff]
  intro hmem
  change b ∈ n.repr.toList at hmem
  rw [Nat.toList_repr] at hmem
  have hdigit : b.isDigit = true := isDigit_of_mem_decimal hmem
  have hnotDigit := List.all_eq_true.1 hnot b hb
  rw [hdigit] at hnotDigit
  cases hnotDigit

/-- The words between the texts of a summary. -/
def summaryWords : List String :=
  ["✓ Configuration is valid (listen ", "0.0.0.0:", ", provider ", ", cluster ", ", statsd ", ":", ")"]

theorem occurrences_summaryWords (hb : b ∈ lineBreaks) : ∀ s ∈ summaryWords, occurrences b s = 0 := by
  have hall : lineBreaks.all (fun b => summaryWords.all (occurrences b · == 0)) = true := by
    decide
  exact fun s hs => eq_of_beq (List.all_eq_true.1 (List.all_eq_true.1 hall b hb) s hs)

/-- The line breaks of a summary are those of the three texts. -/
theorem occurrences_summary (hb : b ∈ lineBreaks) (c : Configuration) : occurrences b (summary c) =
    occurrences b c.provider.slug + occurrences b c.upstream.cluster + occurrences b c.metrics.statsd.host := by
  have hword := occurrences_summaryWords hb
  simp only [summaryWords, List.forall_mem_cons] at hword
  obtain ⟨hopening, hlisten, hprovider, hcluster, hstatsd, hcolon, hclosing, -⟩ := hword
  unfold summary Server.listenAddress Statsd.address
  simp only [occurrences_append, occurrences_toString hb, hopening, hlisten, hprovider, hcluster, hstatsd, hcolon, hclosing]
  omega

/-- **A summary is one line** exactly if the three texts are. -/
theorem isOneLine_summary_iff (c : Configuration) : IsOneLine (summary c) ↔
    IsOneLine c.provider.slug ∧ IsOneLine c.upstream.cluster ∧ IsOneLine c.metrics.statsd.host := by
  simp only [IsOneLine, ← occurrences_eq_zero_iff, ← forall₂_and]
  refine forall₂_congr fun b hb => ?_
  rw [occurrences_summary hb]
  omega

theorem check_eq_ok_iff {text : String} : check fs c = .ok text ↔ c.check fs = .ok () ∧ text = summary c := by
  unfold check
  cases c.check fs with
  | ok u => exact ⟨fun h => ⟨rfl, (Except.ok.inj h).symm⟩, fun h => congrArg Except.ok h.2.symm⟩
  | error f => exact ⟨fun h => (nomatch h), fun h => (nomatch h.1)⟩

/-- The configuration with other texts in its summary. -/
def named (c : Configuration) (slug cluster host : String) : Configuration :=
  { c with
    provider.slug := slug
    upstream.cluster := cluster
    metrics.statsd.host := host }

/-- **What the checks ask of the three texts** of a valid configuration: that none of them is empty. -/
theorem check_named_iff (h : c.check fs = .ok ()) {slug cluster host : String} :
    (named c slug cluster host).check fs = .ok () ↔ slug ≠ "" ∧ cluster ≠ "" ∧ host ≠ "" := by
  constructor
  · intro hnamed
    have hholds := Condition.holds_of_check hnamed
    exact ⟨hholds .providerSlug, hholds .cluster, hholds .statsdHost⟩
  · rintro ⟨hslug, hcluster, hhost⟩
    have hholds := Condition.holds_of_check h
    rw [Configuration.check_eq_forM, forM_eq_ok_iff]
    intro k _
    rw [Condition.checkWithin_eq_ok_iff]
    cases k with
    | providerSlug => exact hslug
    | cluster => exact hcluster
    | statsdHost => exact hhost
    -- the other conditions are on fields that stay as they are
    | serverPort => exact hholds .serverPort
    | providerType => exact hholds .providerType
    | urlExternal => exact hholds .urlExternal
    | urlInternal => exact hholds .urlInternal
    | cookieSecret => exact hholds .cookieSecret
    | cookieName => exact hholds .cookieName
    | clientId => exact hholds .clientId
    | clientSecret => exact hholds .clientSecret
    | configsFile => exact hholds .configsFile
    | statsdPort => exact hholds .statsdPort

/-- **A configuration that passes its checks** is told on one line exactly if its three texts hold no line break, and otherwise with
    the breaks that they hold. The checks let every such text pass: of the texts in a valid configuration, which may be replaced by
    any others, they ask only that they are not empty. What a run that checks prints when it succeeds is such a summary and the end
    of its line. -/
theorem isOneLine_check (fs : FileSystem) :
    (∀ c text, check fs c = .ok text →
      (IsOneLine text ↔ IsOneLine c.provider.slug ∧ IsOneLine c.upstream.cluster ∧ IsOneLine c.metrics.statsd.host) ∧
      ∀ b ∈ lineBreaks, occurrences b text =
        occurrences b c.provider.slug + occurrences b c.upstream.cluster + occurrences b c.metrics.statsd.host) ∧
    (∀ c, c.check fs = .ok () → ∀ slug cluster host,
      ((∃ text, check fs (named c slug cluster host) = .ok text) ↔ slug ≠ "" ∧ cluster ≠ "" ∧ host ≠ "")) ∧
    ∀ env arguments i, Invocation.read arguments (env.value? fileVariable) = .ok i → i.effective = .check →
      ∀ u v, (run fs env arguments u v).exitCode = 0 → ∃ c text, (Loader.load fs env ⟨i.file⟩ v).outcome = .ok c ∧
        check fs c = .ok text ∧ (run fs env arguments u v).output = text ++ "\n" := by
  refine ⟨fun c text h => ?_, fun c h slug cluster host => ?_, fun env arguments i hi hcheck u v hexit => ?_⟩
  · obtain ⟨-, rfl⟩ := check_eq_ok_iff.1 h
    exact ⟨isOneLine_summary_iff c, fun b hb => occurrences_summary hb c⟩
  · rw [← check_named_iff h]
    constructor
    · rintro ⟨text, htext⟩
      exact (check_eq_ok_iff.1 htext).1
    · exact fun hnamed => ⟨_, check_eq_ok_iff.2 ⟨hnamed, rfl⟩⟩
  · rw [run_of_read_ok hi] at hexit ⊢
    have haccounts := (Report.ends_execute fs env ⟨i.file⟩ i.effective u v).accountsFor
    obtain ⟨-, c, hload, hvalid⟩ := haccounts.success.1 hexit
    obtain ⟨d, hload', houtput⟩ := haccounts.output hexit
    rw [hload] at hload'
    cases hload'
    refine ⟨c, summary c, hload, check_eq_ok_iff.2 ⟨hvalid hcheck, rfl⟩, ?_⟩
    rw [houtput, hcheck]
    rfl

/-- A configuration whose provider has a slug of two lines. -/
def brokenSlug : Configuration :=
  { Configuration.default with
    provider.urlExternal := "https://sso.example.com"
    provider.urlInternal := "http://sso-auth.internal:4180"
    provider.slug := "goo\ngle"
    client.id := "proxy-client"
    client.secret := "proxy-client-secret"
    session.cookie.secret := "SMoPfinxNz0fuaGFPUr5vwQpvoG+CGcLd2nkxRVI+H4="
    upstream.cluster := "prod" }

/-- It is valid. -/
theorem check_brokenSlug : check .blank brokenSlug = .ok (summary brokenSlug) := by
  refine check_eq_ok_iff.2 ⟨?_, rfl⟩
  decide +kernel

/-- But it is told with one line break. -/
theorem isOneLine_check_brokenSlug : ∃ text, check .blank brokenSlug = .ok text ∧
    occurrences '\n' text = 1 := by
  obtain ⟨-, hbreaks⟩ := (isOneLine_check .blank).1 _ _ check_brokenSlug
  refine ⟨_, check_brokenSlug, ?_⟩
  rw [hbreaks '\n' (by decide)]
  decide

/-- So the summary of a valid configuration need not be one line. -/
theorem not_isOneLine_brokenSlug :
    ¬ ∀ (fs : FileSystem) (c : Configuration) (text : String), check fs c = .ok text → IsOneLine text := by
  intro h
  obtain ⟨hslug, -, -⟩ := (isOneLine_summary_iff _).1 (h _ _ _ check_brokenSlug)
  exact hslug '\n' (by decide) (by decide)

end AuthProxy.Command
