import AuthProxy.Check
import AuthProxy.Proofs.FirstStop
import AuthProxy.Proofs.Text.Character
import AuthProxy.Proofs.Url.Hosts
import Mathlib.Data.List.Infix

/-!
# The conditions on a configuration

What the checks ask for, in words of its own: thirteen conditions in an order, each on one field (`Condition.Holds`), and the
fault of a field that violates one (`Condition.Fails`). A configuration passes its checks exactly if all conditions hold;
otherwise the fault is that of the first one which does not, with the labels of the sections on the way to its field
(`check_iff`).
-/

namespace AuthProxy

open Check Text

/-! ## What values must be like -/

/-- A character of a token in a header: visible, of ASCII, and no delimiter. -/
def IsTokenCharacter (c : Char) : Prop :=
  0x21 ≤ c.toNat ∧ c.toNat ≤ 0x7E ∧ c ∉ "\"(),/:;<=>?@[\\]\x7b\x7d".toList

instance (c : Char) : Decidable (IsTokenCharacter c) :=
  inferInstanceAs (Decidable (_ ∧ _))

def IsToken (s : String) : Prop :=
  s ≠ "" ∧ ∀ c ∈ s.toList, IsTokenCharacter c

instance (s : String) : Decidable (IsToken s) :=
  -- named here, since some imports bring an instance that goes through all characters there are
  have : Decidable (∀ c ∈ s.toList, IsTokenCharacter c) := List.decidableBAll _ _
  inferInstanceAs (Decidable (_ ∧ _))

/-- A text that writes a URL with a host. -/
def IsAbsoluteUrl (s : String) : Prop :=
  s ≠ "" ∧ ∃ url host, Url.parse s.toList = .ok url ∧ url.host = some host ∧ host ≠ .domain []

/-- A text that encodes a key of one of the allowed lengths. -/
def IsSecret (s : String) : Prop :=
  s ≠ "" ∧ ∃ key, Secret.decode (encodeUtf8 s.toList) = .ok key ∧ (key.length = 32 ∨ key.length = 64)

/-- The fault of a text that writes no URL with a host. -/
inductive UrlFault (field value : String) : Fault → Prop where
  | empty (h : value = "") : UrlFault field value (.invalidValue field "")
  | malformed (h : value ≠ "") {cause : Url.Malformed} (hparse : Url.parse value.toList = .error cause) :
      UrlFault field value (.malformedUrl field cause)
  | incomplete (h : value ≠ "") {url : Url} (hparse : Url.parse value.toList = .ok url)
      (hhost : ∀ host, url.host = some host → host = .domain []) : UrlFault field value (.incompleteUrl field)

/-- The fault of a text that encodes no key of an allowed length. -/
inductive SecretFault (value : String) : Fault → Prop where
  | missing (h : value = "") : SecretFault value (.missing "cookie.secret")
  | malformed (h : value ≠ "") {cause : Secret.Malformed} (hdecode : Secret.decode (encodeUtf8 value.toList) = .error cause) :
      SecretFault value (.malformedSecret cause)
  | length (h : value ≠ "") {key : Bytes} (hdecode : Secret.decode (encodeUtf8 value.toList) = .ok key)
      (hlength : key.length ≠ 32 ∧ key.length ≠ 64) : SecretFault value (.secretLength key.length)

/-! ## The checks of values -/

namespace Check

variable {field value : String} {port : UInt16} {f : Fault}

theorem present_eq_ok_iff : present field value = .ok () ↔ value ≠ "" := by
  by_cases h : value = "" <;> simp [present, h]

theorem present_eq_error_iff : present field value = .error f ↔ value = "" ∧ f = .missing field := by
  by_cases h : value = "" <;> simp [present, h, eq_comm]

theorem nonempty_eq_ok_iff : nonempty field value = .ok () ↔ value ≠ "" := by
  by_cases h : value = "" <;> simp [nonempty, h]

theorem nonempty_eq_error_iff : nonempty field value = .error f ↔ value = "" ∧ f = .invalidValue field "" := by
  by_cases h : value = "" <;> simp [nonempty, h, eq_comm]

theorem openPort_eq_ok_iff : openPort field port = .ok () ↔ port ≠ 0 := by
  by_cases h : port = 0 <;> simp [openPort, h]

theorem openPort_eq_error_iff : openPort field port = .error f ↔ port = 0 ∧ f = .missing field := by
  by_cases h : port = 0 <;> simp [openPort, h, eq_comm]

theorem absoluteUrl_eq_ok_iff : absoluteUrl field value = .ok () ↔ IsAbsoluteUrl value := by
  rw [absoluteUrl, Outcome.bind_eq_ok_iff]
  constructor
  · rintro ⟨⟨⟩, hne, h⟩
    split at h
    · cases h
    next url hparse =>
      split at h
      · cases h
      next hsome =>
        obtain ⟨host, hhost⟩ := Option.ne_none_iff_exists'.1 fun h => hsome (Option.isNone_iff_eq_none.2 h)
        exact ⟨nonempty_eq_ok_iff.1 hne, url, host, hparse, hhost, Url.host_ne_domain_nil hparse hhost⟩
  · rintro ⟨hne, url, host, hparse, hhost, -⟩
    refine ⟨(), nonempty_eq_ok_iff.2 hne, ?_⟩
    rw [hparse]
    dsimp only
    rw [hhost]
    rfl

theorem absoluteUrl_eq_error_iff : absoluteUrl field value = .error f ↔ UrlFault field value f := by
  rw [absoluteUrl, Outcome.bind_eq_error_iff, nonempty_eq_error_iff]
  constructor
  · rintro (⟨he, rfl⟩ | ⟨⟨⟩, hne, h⟩)
    · exact .empty he
    · have hvalue := nonempty_eq_ok_iff.1 hne
      split at h
      next cause hparse =>
        cases h
        exact .malformed hvalue hparse
      next url hparse =>
        split at h
        next hnone =>
          cases h
          refine .incomplete hvalue hparse fun host hhost => ?_
          rw [hhost] at hnone
          cases hnone
        · cases h
  · intro h
    cases h with
    | empty h => exact .inl ⟨h, rfl⟩
    | malformed h hparse =>
      refine .inr ⟨(), nonempty_eq_ok_iff.2 h, ?_⟩
      rw [hparse]
    | @incomplete h url hparse hhost =>
      refine .inr ⟨(), nonempty_eq_ok_iff.2 h, ?_⟩
      rw [hparse]
      dsimp only
      have hnone : url.host = none := by
        cases hh : url.host with
        | none => rfl
        | some host => exact absurd (hhost host hh) (Url.host_ne_domain_nil hparse hh)
      rw [hnone]
      rfl

/-- The characters of tokens are those that the grammar of headers allows. -/
theorem isTokenChar_iff {c : Char} : isTokenChar c = true ↔ IsTokenCharacter c := by
  by_cases hascii : c.toNat < 128
  · have hall : ∀ n < 128, isTokenChar (Char.ofNat n) = true ↔ IsTokenCharacter (Char.ofNat n) := by
      decide +kernel
    have := hall c.toNat hascii
    rwa [Char.ofNat_toNat] at this
  · have hsigns : "!#$%&'*+-.^_\x60|~".toList.all (·.toNat < 128) = true := by
      decide
    constructor
    · intro h
      rw [isTokenChar, Bool.or_eq_true, isAlphanum_iff, List.contains_iff_mem] at h
      rcases h with h | h
      · omega
      · exact absurd (of_decide_eq_true (List.all_eq_true.1 hsigns c h)) hascii
    · rintro ⟨-, h, -⟩
      omega

end Check

theorem Cookie.isName_iff {name : String} : Cookie.isName name = true ↔ IsToken name := by
  simp only [Cookie.isName, Bool.and_eq_true, decide_eq_true_eq, List.all_eq_true, isTokenChar_iff, IsToken]

theorem mem_keyLengths {n : Nat} : n ∈ keyLengths ↔ n = 32 ∨ n = 64 := by
  simp [keyLengths]

theorem Cookie.exists_key_iff {c : Cookie} : (∃ key, c.key = .ok key) ↔ IsSecret c.secret := by
  unfold Cookie.key IsSecret
  by_cases hempty : c.secret = ""
  · rw [if_pos hempty]
    exact ⟨fun ⟨_, h⟩ => (nomatch h), fun h => absurd hempty h.1⟩
  · rw [if_neg hempty]
    cases hdecode : Secret.decode (encodeUtf8 c.secret.toList) with
    | error cause => exact ⟨fun ⟨_, h⟩ => (nomatch h), fun ⟨_, _, h, _⟩ => (nomatch h)⟩
    | ok key =>
      dsimp only
      by_cases hlength : key.length ∈ keyLengths
      · rw [if_pos hlength]
        exact ⟨fun _ => ⟨hempty, key, rfl, mem_keyLengths.1 hlength⟩, fun _ => ⟨key, rfl⟩⟩
      · rw [if_neg hlength]
        refine ⟨fun ⟨_, h⟩ => (nomatch h), fun ⟨_, key', h, hkey⟩ => ?_⟩
        cases h
        exact absurd (mem_keyLengths.2 hkey) hlength

theorem Cookie.key_eq_error_iff {c : Cookie} {f : Fault} : c.key = .error f ↔ SecretFault c.secret f := by
  unfold Cookie.key
  constructor
  · intro h
    split at h
    next hempty =>
      cases h
      exact .missing hempty
    next hne =>
      split at h
      next cause hdecode =>
        cases h
        exact .malformed hne hdecode
      next key hdecode =>
        split at h
        · cases h
        next hlength =>
          cases h
          exact .length hne hdecode (not_or.1 fun h => hlength (mem_keyLengths.2 h))
  · intro h
    cases h with
    | missing h => rw [if_pos h]
    | malformed h hdecode => rw [if_neg h, hdecode]
    | length h hdecode hlength =>
      rw [if_neg h, hdecode]
      exact if_neg fun h => not_or.2 hlength (mem_keyLengths.1 h)

/-- The file of the upstreams can be opened, if one is named. -/
theorem Upstream.checkFile_eq_ok_iff {fs : FileSystem} {u : Upstream} : u.checkFile fs = .ok () ↔
    ∀ path, u.configsFile = some path → path ≠ "" → fs.openFault? (encodeUtf8 path.toList) = none := by
  unfold Upstream.checkFile
  constructor
  · intro h path hpath hne
    rw [hpath] at h
    dsimp only at h
    rw [if_neg hne] at h
    split at h
    next hopen => exact hopen
    · cases h
  · intro h
    split
    · rfl
    next path hpath =>
      split
      · rfl
      next hne => rw [h path hpath hne]

theorem Upstream.checkFile_eq_error_iff {fs : FileSystem} {u : Upstream} {f : Fault} : u.checkFile fs = .error f ↔
    ∃ path cause, u.configsFile = some path ∧ path ≠ "" ∧ fs.openFault? (encodeUtf8 path.toList) = some cause ∧
      f = .unopenableFile "upstream.configs_file" path cause := by
  unfold Upstream.checkFile
  constructor
  · intro h
    split at h
    · cases h
    next path hpath =>
      split at h
      · cases h
      next hne =>
        split at h
        · cases h
        next cause hopen =>
          cases h
          exact ⟨path, cause, hpath, hne, hopen, rfl⟩
  · rintro ⟨path, cause, hpath, hne, hopen, rfl⟩
    rw [hpath]
    dsimp only
    rw [if_neg hne, hopen]

/-! ## The conditions in their order -/

/-- The conditions on a configuration. -/
inductive Condition where
  | serverPort
  | providerType | providerSlug | urlExternal | urlInternal
  | cookieSecret | cookieName
  | clientId | clientSecret
  | configsFile | cluster
  | statsdHost | statsdPort
deriving DecidableEq

namespace Condition

/-- The conditions in the order in which they are checked. -/
def all : List Condition :=
  [serverPort, providerType, providerSlug, urlExternal, urlInternal, cookieSecret, cookieName, clientId, clientSecret,
   configsFile, cluster, statsdHost, statsdPort]

/-- The field that a condition is on. -/
def field : Condition → Field
  | serverPort => .serverPort
  | providerType => .providerType
  | providerSlug => .providerSlug
  | urlExternal => .providerUrlExternal
  | urlInternal => .providerUrlInternal
  | cookieSecret => .cookieSecret
  | cookieName => .cookieName
  | clientId => .clientId
  | clientSecret => .clientSecret
  | configsFile => .upstreamConfigsFile
  | cluster => .upstreamCluster
  | statsdHost => .statsdHost
  | statsdPort => .statsdPort

/-- The labels of the sections that lead to the field, from the outermost on: their paths, with points. -/
def labels (k : Condition) : List String :=
  k.field.owner.path.inits.tail.map (".".intercalate ·)

/-- A fault with the labels around it. -/
def wrap (k : Condition) (f : Fault) : Fault :=
  k.labels.foldr .inSection f

variable (fs : FileSystem) (c : Configuration)

/-- A configuration meets a condition. -/
def Holds : Condition → Prop
  | serverPort => c.server.port ≠ 0
  | providerType => c.provider.type ≠ ""
  | providerSlug => c.provider.slug ≠ ""
  | urlExternal => IsAbsoluteUrl c.provider.urlExternal
  | urlInternal => IsAbsoluteUrl c.provider.urlInternal
  | cookieSecret => IsSecret c.session.cookie.secret
  | cookieName => IsToken c.session.cookie.name
  | clientId => c.client.id ≠ ""
  | clientSecret => c.client.secret ≠ ""
  | configsFile => ∀ path, c.upstream.configsFile = some path → path ≠ "" → fs.openFault? (encodeUtf8 path.toList) = none
  | cluster => c.upstream.cluster ≠ ""
  | statsdHost => c.metrics.statsd.host ≠ ""
  | statsdPort => c.metrics.statsd.port ≠ 0

/-- A configuration violates a condition, with a fault. -/
def Fails : Condition → Fault → Prop
  | serverPort, f => c.server.port = 0 ∧ f = .missing "server.port"
  | providerType, f => c.provider.type = "" ∧ f = .invalidValue "provider.type" ""
  | providerSlug, f => c.provider.slug = "" ∧ f = .invalidValue "provider.slug" ""
  | urlExternal, f => UrlFault "provider.url_external" c.provider.urlExternal f
  | urlInternal, f => UrlFault "provider.url_internal" c.provider.urlInternal f
  | cookieSecret, f => SecretFault c.session.cookie.secret f
  | cookieName, f => ¬ IsToken c.session.cookie.name ∧ f = .invalidValue "cookie.name" c.session.cookie.name
  | clientId, f => c.client.id = "" ∧ f = .missing "client.id"
  | clientSecret, f => c.client.secret = "" ∧ f = .missing "client.secret"
  | configsFile, f => ∃ path cause, c.upstream.configsFile = some path ∧ path ≠ "" ∧
      fs.openFault? (encodeUtf8 path.toList) = some cause ∧ f = .unopenableFile "upstream.configs_file" path cause
  | cluster, f => c.upstream.cluster = "" ∧ f = .missing "upstream.cluster"
  | statsdHost, f => c.metrics.statsd.host = "" ∧ f = .missing "statsd.host"
  | statsdPort, f => c.metrics.statsd.port = 0 ∧ f = .missing "statsd.port"

/-- The check of a condition by itself. -/
def check : Condition → Except Fault Unit
  | serverPort => openPort "server.port" c.server.port
  | providerType => nonempty "provider.type" c.provider.type
  | providerSlug => nonempty "provider.slug" c.provider.slug
  | urlExternal => absoluteUrl "provider.url_external" c.provider.urlExternal
  | urlInternal => absoluteUrl "provider.url_internal" c.provider.urlInternal
  | cookieSecret => do
    let _ ← c.session.cookie.key
    .ok ()
  | cookieName =>
    if Cookie.isName c.session.cookie.name then .ok () else .error (.invalidValue "cookie.name" c.session.cookie.name)
  | clientId => present "client.id" c.client.id
  | clientSecret => present "client.secret" c.client.secret
  | configsFile => c.upstream.checkFile fs
  | cluster => present "upstream.cluster" c.upstream.cluster
  | statsdHost => present "statsd.host" c.metrics.statsd.host
  | statsdPort => openPort "statsd.port" c.metrics.statsd.port

/-- The check of a condition, with the labels of the sections around its fault. -/
def checkWithin (k : Condition) : Except Fault Unit :=
  (k.check fs c).mapError k.wrap

variable {fs c} {k : Condition} {f : Fault}

theorem mem_all (k : Condition) : k ∈ all := by
  cases k <;> decide

theorem check_eq_ok_iff : k.check fs c = .ok () ↔ k.Holds fs c := by
  cases k with
  | serverPort | statsdPort => exact openPort_eq_ok_iff
  | providerType | providerSlug => exact nonempty_eq_ok_iff
  | urlExternal | urlInternal => exact absoluteUrl_eq_ok_iff
  | clientId | clientSecret | cluster | statsdHost => exact present_eq_ok_iff
  | cookieSecret =>
    rw [check, Holds, ← Cookie.exists_key_iff, Outcome.bind_eq_ok_iff]
    exact ⟨fun ⟨key, h, _⟩ => ⟨key, h⟩, fun ⟨key, h⟩ => ⟨key, h, rfl⟩⟩
  | cookieName =>
    rw [check, Holds, ← Cookie.isName_iff]
    by_cases h : Cookie.isName c.session.cookie.name = true <;> simp [h]
  | configsFile => exact Upstream.checkFile_eq_ok_iff

theorem check_eq_error_iff : k.check fs c = .error f ↔ k.Fails fs c f := by
  cases k with
  | serverPort | statsdPort => exact openPort_eq_error_iff
  | providerType | providerSlug => exact nonempty_eq_error_iff
  | urlExternal | urlInternal => exact absoluteUrl_eq_error_iff
  | clientId | clientSecret | cluster | statsdHost => exact present_eq_error_iff
  | cookieSecret =>
    rw [check, Fails, ← Cookie.key_eq_error_iff, Outcome.bind_eq_error_iff]
    exact ⟨fun h => h.elim id fun ⟨_, _, h⟩ => (nomatch h), .inl⟩
  | cookieName =>
    rw [check, Fails, ← Cookie.isName_iff]
    by_cases h : Cookie.isName c.session.cookie.name = true <;> simp [h, eq_comm]
  | configsFile => exact Upstream.checkFile_eq_error_iff

/-- What a condition says is a matter of its field alone, and of the files that can be opened. -/
theorem check_congr {fs' : FileSystem} {d : Configuration} (hopen : fs'.openFault? = fs.openFault?)
    (h : Field.get d k.field = Field.get c k.field) : k.check fs' d = k.check fs c := by
  cases k with
  | cookieSecret =>
    have h : d.session.cookie.secret = c.session.cookie.secret := h
    simp only [check, Cookie.key, h]
  | configsFile =>
    have h : d.upstream.configsFile = c.upstream.configsFile := h
    simp only [check, Upstream.checkFile, h, hopen]
  | _ =>
    simp only [field, Field.get] at h
    simp only [check, h]

theorem checkWithin_eq_ok_iff : k.checkWithin fs c = .ok () ↔ k.Holds fs c := by
  rw [← check_eq_ok_iff, checkWithin]
  cases k.check fs c with
  | ok u => exact ⟨fun _ => rfl, fun _ => rfl⟩
  | error f => exact ⟨fun h => (nomatch h), fun h => (nomatch h)⟩

theorem checkWithin_eq_error_iff {e : Fault} : k.checkWithin fs c = .error e ↔ ∃ f, k.Fails fs c f ∧ e = k.wrap f := by
  simp only [← check_eq_error_iff, checkWithin]
  cases k.check fs c with
  | ok u => exact ⟨fun h => (nomatch h), fun ⟨f, h, _⟩ => (nomatch h)⟩
  | error f =>
    constructor
    · intro h
      cases h
      exact ⟨f, rfl, rfl⟩
    · rintro ⟨f, h, rfl⟩
      cases h
      rfl

/-- A condition either holds or fails with one fault. -/
theorem not_holds_iff : ¬ k.Holds fs c ↔ ∃ f, k.Fails fs c f := by
  simp only [← check_eq_ok_iff, ← check_eq_error_iff]
  cases k.check fs c with
  | ok u => exact ⟨fun h => absurd rfl h, fun ⟨f, h⟩ => (nomatch h)⟩
  | error f => exact ⟨fun _ => ⟨f, rfl⟩, fun _ h => (nomatch h)⟩

theorem Fails.unique {f' : Fault} (h : k.Fails fs c f) (h' : k.Fails fs c f') : f = f' := by
  rw [← check_eq_error_iff] at h h'
  rw [h] at h'
  cases h'
  rfl

end Condition

theorem within_bind {α β : Type} (label : String) (x : Except Fault α) (g : α → Except Fault β) :
    within label (x >>= g) = within label x >>= fun a => within label (g a) := by
  cases x <;> rfl

/-- The check of a condition with the labels of its sections around the fault. -/
theorem Condition.mapError_wrap (k : Condition) (x : Except Fault Unit) :
    x.mapError k.wrap = k.labels.foldr within x := by
  cases x with
  | ok u =>
    induction k.labels with
    | nil => rfl
    | cons label labels ih => rw [List.foldr_cons, ← ih]; rfl
  | error f =>
    change Except.error (k.labels.foldr .inSection f) = _
    induction k.labels with
    | nil => rfl
    | cons label labels ih => rw [List.foldr_cons, List.foldr_cons, ← ih]; rfl

/-- **The checks of a configuration** are those of the conditions in their order. -/
theorem Configuration.check_eq_forM (fs : FileSystem) (c : Configuration) :
    c.check fs = Condition.all.forM (Condition.checkWithin fs c) := by
  have hlabels : ∀ k ∈ Condition.all, k.labels = match k with
      | .serverPort => ["server"]
      | .providerType | .providerSlug | .urlExternal | .urlInternal => ["provider"]
      | .cookieSecret | .cookieName => ["session", "session.cookie"]
      | .clientId | .clientSecret => ["client"]
      | .configsFile | .cluster => ["upstream"]
      | .statsdHost | .statsdPort => ["metrics", "metrics.statsd"] := by
    decide +kernel
  have hok : ∀ label, within label (.ok ()) = (.ok () : Except Fault Unit) := fun _ => rfl
  have hbind : ∀ g : Unit → Except Fault Unit, (Except.ok () >>= g) = g () := fun _ => rfl
  simp only [Configuration.check, Server.check, Provider.check, Session.check, Cookie.check, Client.check, Upstream.check,
    Metrics.check, Statsd.check, within_bind, bind_assoc]
  simp only [Condition.all, List.forM, Condition.checkWithin, Condition.mapError_wrap, hlabels _ (Condition.mem_all _),
    List.foldr, Condition.check, within_bind, bind_assoc, hok, hbind, bind_pure_unit]

/-- What passes the checks meets every condition. -/
theorem Condition.holds_of_check {fs : FileSystem} {c : Configuration} (h : c.check fs = .ok ()) (k : Condition) :
    k.Holds fs c := by
  rw [Configuration.check_eq_forM, forM_eq_ok_iff] at h
  exact checkWithin_eq_ok_iff.1 (h k k.mem_all)

/-- The first condition that does not hold is where the checks stop. -/
theorem Condition.stopsAt_iff {fs : FileSystem} {c : Configuration} {k : Condition} {e : Fault} :
    StopsAt (checkWithin fs c) all k e ↔ ∃ pre post f, all = pre ++ k :: post ∧ (∀ j ∈ pre, j.Holds fs c) ∧
      k.Fails fs c f ∧ e = k.wrap f := by
  constructor
  · rintro ⟨pre, post, hall, hpre, hk⟩
    obtain ⟨f, hf, rfl⟩ := checkWithin_eq_error_iff.1 hk
    refine ⟨pre, post, f, hall, fun j hj => ?_, hf, rfl⟩
    obtain ⟨u, hu⟩ := hpre j hj
    exact checkWithin_eq_ok_iff.1 hu
  · rintro ⟨pre, post, f, hall, hpre, hf, rfl⟩
    refine ⟨pre, post, hall, fun j hj => ⟨(), checkWithin_eq_ok_iff.2 (hpre j hj)⟩, ?_⟩
    exact checkWithin_eq_error_iff.2 ⟨f, hf, rfl⟩

/-- **The checks** are passed exactly if all conditions hold. Otherwise the fault is that of the first condition which does not,
    with the labels of its sections around it; every condition that does not hold has one fault. What the fields hold that
    only later conditions are on is no matter. -/
theorem Configuration.check_iff (fs : FileSystem) (c : Configuration) :
    (c.check fs = .ok () ↔ ∀ k : Condition, k.Holds fs c) ∧
    (∀ e, c.check fs = .error e ↔ ∃ k pre post f, Condition.all = pre ++ k :: post ∧ (∀ j ∈ pre, j.Holds fs c) ∧
      k.Fails fs c f ∧ e = k.wrap f) ∧
    (∀ k : Condition, (¬ k.Holds fs c ↔ ∃ f, k.Fails fs c f) ∧ ∀ f f', k.Fails fs c f → k.Fails fs c f' → f = f') ∧
    ∀ pre k post f, Condition.all = pre ++ k :: post → (∀ j ∈ pre, j.Holds fs c) → k.Fails fs c f →
      ∀ d, (∀ j ∈ pre ++ [k], Field.get d j.field = Field.get c j.field) → d.check fs = .error (k.wrap f) := by
  refine ⟨?_, fun e => ?_, fun k => ⟨Condition.not_holds_iff, fun f f' h h' => h.unique h'⟩, ?_⟩
  · rw [check_eq_forM, forM_eq_ok_iff]
    constructor
    · exact fun h k => Condition.checkWithin_eq_ok_iff.1 (h k k.mem_all)
    · exact fun h k _ => Condition.checkWithin_eq_ok_iff.2 (h k)
  · rw [check_eq_forM, forM_eq_error_iff]
    exact exists_congr fun k => Condition.stopsAt_iff
  · intro pre k post f hall hpre hk d hd
    rw [check_eq_forM, forM_eq_error_iff]
    refine ⟨k, Condition.stopsAt_iff.2 ⟨pre, post, f, hall, fun j hj => ?_, ?_, rfl⟩⟩
    · rw [← Condition.check_eq_ok_iff, Condition.check_congr rfl (hd j (List.mem_append_left _ hj)), Condition.check_eq_ok_iff]
      exact hpre j hj
    · rw [← Condition.check_eq_error_iff, Condition.check_congr rfl (hd k (by simp)), Condition.check_eq_error_iff]
      exact hk

/-- A configuration whose cookie has a name with a blank. -/
def blankName : Configuration :=
  { Configuration.default with
    provider.urlExternal := "https://sso.example.com"
    provider.urlInternal := "http://10.0.0.1:4180/"
    session.cookie.secret := "AAAAAAAAAAAAAAAAAAAAAAAAAAAAAAAAAAAAAAAAAAA="
    session.cookie.name := "a b" }

/-- Without a sink it is still the name that it is refused for. -/
theorem Configuration.check_iff_blankName :
    Configuration.check .blank { blankName with metrics.statsd.host := "" } =
      .error (.inSection "session" (.inSection "session.cookie" (.invalidValue "cookie.name" "a b"))) := by
  obtain ⟨-, -, -, hfirst⟩ := Configuration.check_iff .blank blankName
  have hpre : ∀ j ∈ [Condition.serverPort, .providerType, .providerSlug, .urlExternal, .urlInternal, .cookieSecret],
      j.check .blank blankName = .ok () := by
    decide +kernel
  have hname : ¬ IsToken "a b" := by
    decide +kernel
  have hsame : ∀ j ∈ [Condition.serverPort, .providerType, .providerSlug, .urlExternal, .urlInternal, .cookieSecret] ++
      [.cookieName], Field.get { blankName with metrics.statsd.host := "" } j.field = Field.get blankName j.field := by
    decide +kernel
  exact hfirst _ .cookieName _ _ rfl (fun j hj => Condition.check_eq_ok_iff.1 (hpre j hj)) ⟨hname, rfl⟩ _ hsame

end AuthProxy
