/-
Settings that come out of layers.

Every setting has its own layers, an override above variables of the environment, and a default
below them.  A layer that gives nothing of use is as good as absent, so the first one that gives
something decides, and nothing else that the environment or the document says has an influence.

* `Settles`: what comes out of layers and a default, and `Settles.unique`, `Settles.congr`;
* `Setting`, `Setting.Value`, `StoreSettings.value`: the settings one by one;
* `Setting.layers`, `Setting.default`: what each layer of a setting gives, and its default;
* `StoreSettings.settles_withOverrides`: every setting comes out of its layers;
* `StoreSettings.IsUsable`: settings that stores can work with;
* `StoreSettings.isSettled_of_load`: what the settings of an environment and a file are.
-/
import LeasedStore.Proofs.Text.Parts
import LeasedStore.Settings.Basic

namespace LeasedStore

/-! ### Layers -/

/-- Does a value come out of layers above a default?  Each layer says what it gives, and the first
one that gives something decides. -/
def Settles {α : Type} (default v : α) : List (α → Prop) → Prop
  | [] => v = default
  | gives :: below => gives v ∨ (∀ w, ¬ gives w) ∧ Settles default v below

namespace Settles

variable {α : Type} {default v w : α} {layers layers' : List (α → Prop)}

lemma getD {gives : α → Prop} {x : Option α} (hgives : ∀ w, gives w ↔ x = some w)
    (h : Settles default v layers) : Settles default (x.getD v) (gives :: layers) := by
  cases x with
  | none => exact .inr ⟨fun w hw => Option.some_ne_none w ((hgives w).mp hw).symm, h⟩
  | some w => exact .inl ((hgives w).mpr rfl)

/-- What comes out has a property if all layers give only values with the property, and the default
has it. -/
lemma of_forall {p : α → Prop} (h : Settles default v layers) (hdefault : p default)
    (hlayers : ∀ gives ∈ layers, ∀ w, gives w → p w) : p v := by
  induction layers with
  | nil => exact (h : v = default) ▸ hdefault
  | cons gives below ih =>
      obtain ⟨hgives, hbelow⟩ := List.forall_mem_cons.mp hlayers
      rcases h with h | ⟨-, h⟩
      · exact hgives v h
      · exact ih h hbelow

/-- Only one value comes out if no layer gives more than one. -/
lemma unique (hv : Settles default v layers) (hw : Settles default w layers)
    (hlayers : ∀ gives ∈ layers, ∀ a b, gives a → gives b → a = b) : v = w := by
  induction layers with
  | nil => exact (hv : v = default).trans (hw : w = default).symm
  | cons gives below ih =>
      obtain ⟨hgives, hbelow⟩ := List.forall_mem_cons.mp hlayers
      rcases hv with hv | ⟨hnone, hv⟩
      · rcases hw with hw | ⟨hnone, -⟩
        · exact hgives v w hv hw
        · exact absurd hv (hnone v)
      · rcases hw with hw | ⟨-, hw⟩
        · exact absurd hw (hnone w)
        · exact ih hv hw hbelow

/-- The same comes out of layers that give the same. -/
lemma congr (hlayers : List.Forall₂ (fun gives gives' => ∀ w, gives w ↔ gives' w) layers layers')
    (h : Settles default v layers) : Settles default v layers' := by
  induction hlayers with
  | nil => exact h
  | cons hgives _ ih =>
      rcases h with h | ⟨hnone, h⟩
      · exact .inl ((hgives v).mp h)
      · exact .inr ⟨fun w hw => hnone w ((hgives w).mpr hw), ih h⟩

end Settles

/-! ### The settings and their layers -/

/-- Does a text hold anything but blanks? -/
def Text.IsVisible (s : String) : Prop := ∃ c ∈ s.toList, Text.isBlankChar c = false

lemma Text.isVisible_iff {s : String} : Text.IsVisible s ↔ (!Text.isBlank s) = true := by
  simp [Text.IsVisible, Text.isBlank]

/-- The settings, one by one. -/
inductive Setting where
  | url | maxConnections | connectTimeoutMs | acquireTimeoutMs | holder | leaseDurationMs
  | queryPageSize | createSchema
  deriving DecidableEq, Repr

namespace Setting

/-- What a setting is set to. -/
abbrev Value : Setting → Type
  | url => String
  | maxConnections => UInt32
  | connectTimeoutMs => UInt64
  | acquireTimeoutMs => UInt64
  | holder => Holder
  | leaseDurationMs => Int64
  | queryPageSize => UInt32
  | createSchema => Bool

/-- The default of a setting. -/
def default : (f : Setting) → f.Value
  | url => "sqlite://harbor.db?mode=rwc"
  | maxConnections => 10
  | connectTimeoutMs => 5000
  | acquireTimeoutMs => 5000
  | holder => .generated
  | leaseDurationMs => 60000
  | queryPageSize => 50
  | createSchema => true

/-- The layers of a number, which is of use if it is positive: an override, and a variable that is
set to a numeral. -/
def numberLayers {α : Type} (value : α → Int) (override : Option α) (written : Option String) :
    List (α → Prop) :=
  [fun n => override = some n ∧ 0 < value n,
    fun n => ∃ s, written = some s ∧ Numeral.Denotes s.toList (value n) ∧ 0 < value n]

/-- A layer of a name, which is of use if it is not blank. -/
def nameLayer (given : Option String) (h : Holder) : Prop :=
  ∃ name, given = some name ∧ Text.IsVisible name ∧ h = .named name

/-- The layers of a setting, the uppermost first: what overrides say, and below what variables are
set to. -/
def layers (env : Environment) (o : Overrides) : (f : Setting) → List (f.Value → Prop)
  | url =>
    [fun s => o.databaseUrl = some s, fun s => env.text? "HARBOR_DATABASE_URL" = some s]
  | maxConnections =>
    numberLayers (fun n => n.toNat) o.maxConnections (env.text? "HARBOR_DB_MAX_CONNECTIONS")
  | connectTimeoutMs =>
    numberLayers (fun n => n.toNat) o.connectTimeoutMs (env.text? "HARBOR_DB_CONNECT_TIMEOUT_MS")
  | acquireTimeoutMs =>
    numberLayers (fun n => n.toNat) o.acquireTimeoutMs (env.text? "HARBOR_DB_ACQUIRE_TIMEOUT_MS")
  | holder =>
    [nameLayer o.leaseHolder, nameLayer (env.text? "HARBOR_LEASE_HOLDER"),
      nameLayer (env.text? "HOSTNAME")]
  | leaseDurationMs =>
    numberLayers Int64.toInt o.leaseDurationMs (env.text? "HARBOR_LEASE_DURATION_MS")
  | queryPageSize =>
    numberLayers (fun n => n.toNat) o.queryPageSize (env.text? "HARBOR_QUERY_PAGE_SIZE")
  | createSchema =>
    [fun b => o.createSchema = some b,
      fun b => ∃ s, env.text? "HARBOR_CREATE_SCHEMA" = some s ∧
        (b = true ↔ s = "1" ∨ s = "true" ∨ s = "yes")]

/-- Do two environments and their overrides give a setting the same, layer by layer? -/
def Agrees (f : Setting) (env : Environment) (o : Overrides) (env' : Environment) (o' : Overrides) :
    Prop :=
  List.Forall₂ (fun gives gives' => ∀ v, gives v ↔ gives' v) (f.layers env o) (f.layers env' o')

end Setting

/-- What a setting is set to. -/
def StoreSettings.value (s : StoreSettings) : (f : Setting) → f.Value
  | .url => s.url
  | .maxConnections => s.maxConnections
  | .connectTimeoutMs => s.connectTimeoutMs
  | .acquireTimeoutMs => s.acquireTimeoutMs
  | .holder => s.holder
  | .leaseDurationMs => s.leaseDurationMs
  | .queryPageSize => s.queryPageSize
  | .createSchema => s.createSchema

/-! ### What comes out of them -/

namespace Setting

lemma uint32_pos_iff (n : UInt32) : 0 < n ↔ 0 < (n.toNat : Int) :=
  UInt32.lt_iff_toNat_lt.trans Int.natCast_pos.symm

lemma uint64_pos_iff (n : UInt64) : 0 < n ↔ 0 < (n.toNat : Int) :=
  UInt64.lt_iff_toNat_lt.trans Int.natCast_pos.symm

/-- An override and a variable settle a number. -/
lemma settles_number {α : Type} [LT α] [DecidableLT α] [OfNat α 0] {value : α → Int}
    {read? : String → Option α} (hpos : ∀ n : α, 0 < n ↔ 0 < value n)
    (hread : ∀ (s : String) (n : α),
      0 < n → (read? s = some n ↔ Numeral.Denotes s.toList (value n)))
    (override : Option α) (env : Environment) (name : String) (default : α) :
    Settles default (StoreSettings.positiveOr override (env.number name read? default))
      (numberLayers value override (env.text? name)) := by
  refine .getD (fun n => ?override) (.getD (fun n => ?written) rfl)
  case override => rw [Option.filter_eq_some_iff, decide_eq_true_iff, hpos]
  case written =>
    rw [Option.filter_eq_some_iff, decide_eq_true_iff, Option.bind_eq_some_iff, ← exists_and_right]
    refine exists_congr fun s => ?_
    rw [and_assoc]
    refine and_congr_right fun _ => ?_
    -- readers of unsigned words refuse a minus sign, which only zero could have
    rw [hpos]
    exact and_congr_left fun hn => (hread s n ((hpos n).mpr hn)).symm

/-- Only positive numbers come out of the layers of a number above such a default. -/
lemma pos_of_settles {α : Type} [LT α] [OfNat α 0] {value : α → Int}
    (hpos : ∀ n : α, 0 < n ↔ 0 < value n) {override : Option α} {written : Option String}
    {default v : α} (h : Settles default v (numberLayers value override written))
    (hdefault : 0 < default) : 0 < v := by
  refine h.of_forall hdefault (List.forall_mem_cons.mpr ⟨fun n h => (hpos n).mpr h.2, ?_⟩)
  exact List.forall_mem_singleton.mpr fun n ⟨_, _, _, h⟩ => (hpos n).mpr h

/-- No layer of a number gives more than one. -/
lemma eq_of_numberLayers {α : Type} {value : α → Int} (hinj : ∀ m n, value m = value n → m = n)
    {override : Option α} {written : Option String} :
    ∀ gives ∈ numberLayers value override written, ∀ m n, gives m → gives n → m = n := by
  refine List.forall_mem_cons.mpr ⟨?override, List.forall_mem_singleton.mpr ?written⟩
  case override =>
    intro m n hm hn
    exact Option.some.inj (hm.1.symm.trans hn.1)
  case written =>
    rintro m n ⟨s, hs, hm, -⟩ ⟨t, ht, hn, -⟩
    cases hs.symm.trans ht
    exact hinj m n (hm.unique hn)

/-- A layer of a name gives what is in it, if that is not blank. -/
lemma nameLayer_iff {given : Option String} {h : Holder} :
    nameLayer given h ↔
      (given.filter fun name => !Text.isBlank name).map Holder.named = some h := by
  rw [Option.map_eq_some_iff, nameLayer]
  refine exists_congr fun name => ?_
  rw [Option.filter_eq_some_iff, Text.isVisible_iff, and_assoc, eq_comm (a := h)]

variable {env : Environment} {o : Overrides}

/-- No layer of a setting gives more than one value. -/
lemma eq_of_layers (f : Setting) :
    ∀ gives ∈ f.layers env o, ∀ v w, gives v → gives w → v = w := by
  -- a layer is a value that is given, or a text that denotes one number
  have hgiven {α : Type} {x : Option α} {v w : α} (hv : x = some v) (hw : x = some w) : v = w :=
    Option.some.inj (hv.symm.trans hw)
  have huint32 (m n : UInt32) (h : (m.toNat : Int) = n.toNat) : m = n :=
    UInt32.toNat_inj.mp (Int.ofNat.inj h)
  have huint64 (m n : UInt64) (h : (m.toNat : Int) = n.toNat) : m = n :=
    UInt64.toNat_inj.mp (Int.ofNat.inj h)
  have hname (given : Option String) (v w : Holder) (hv : nameLayer given v)
      (hw : nameLayer given w) : v = w :=
    hgiven (nameLayer_iff.mp hv) (nameLayer_iff.mp hw)
  cases f with
  | url =>
      exact List.forall_mem_cons.mpr ⟨fun _ _ => hgiven,
        List.forall_mem_singleton.mpr fun _ _ => hgiven⟩
  | maxConnections => exact eq_of_numberLayers huint32
  | connectTimeoutMs => exact eq_of_numberLayers huint64
  | acquireTimeoutMs => exact eq_of_numberLayers huint64
  | holder =>
      exact List.forall_mem_cons.mpr ⟨hname _, List.forall_mem_cons.mpr ⟨hname _,
        List.forall_mem_singleton.mpr (hname _)⟩⟩
  | leaseDurationMs => exact eq_of_numberLayers fun _ _ => Int64.toInt_inj.mp
  | queryPageSize => exact eq_of_numberLayers huint32
  | createSchema =>
      refine List.forall_mem_cons.mpr ⟨fun _ _ => hgiven, List.forall_mem_singleton.mpr ?_⟩
      rintro v w ⟨s, hs, hv⟩ ⟨t, ht, hw⟩
      cases hs.symm.trans ht
      exact Bool.eq_iff_iff.mpr (hv.trans hw.symm)

end Setting

namespace StoreSettings

open Setting

variable {env : Environment} {o : Overrides} {s : StoreSettings} {read? : String → Option String}

lemma defaultHolder_eq (env : Environment) :
    defaultHolder env = ((env.visible? "HOSTNAME").map Holder.named).getD .generated := by
  rw [defaultHolder]
  cases env.visible? "HOSTNAME" <;> rfl

lemma contains_yesWords_iff {s : String} {b : Bool} :
    yesWords.contains s = b ↔ (b = true ↔ s = "1" ∨ s = "true" ∨ s = "yes") := by
  cases b <;> simp [yesWords]

/-- Every setting comes out of its layers. -/
theorem settles_withOverrides (env : Environment) (o : Overrides) (f : Setting) :
    Settles f.default (((ofEnvironment env).withOverrides o).value f) (f.layers env o) := by
  have huint32 := settles_number uint32_pos_iff fun s n hn => Numeral.uint32?_eq_some_iff hn
  have huint64 := settles_number uint64_pos_iff fun s n hn => Numeral.uint64?_eq_some_iff hn
  have hint64 := settles_number (fun _ => Int64.lt_iff_toInt_lt) fun s n _ =>
    Numeral.int64?_eq_some_iff
  cases f with
  | url => exact .getD (fun _ => Iff.rfl) (.getD (fun _ => Iff.rfl) rfl)
  | maxConnections => exact huint32 ..
  | connectTimeoutMs => exact huint64 ..
  | acquireTimeoutMs => exact huint64 ..
  | holder =>
      refine .getD (fun _ => nameLayer_iff) (.getD (fun _ => nameLayer_iff) ?_)
      change Settles _ (defaultHolder env) _
      rw [defaultHolder_eq]
      exact .getD (fun _ => nameLayer_iff) rfl
  | leaseDurationMs => exact hint64 ..
  | queryPageSize => exact huint32 ..
  | createSchema =>
      refine .getD (fun _ => Iff.rfl) (.getD (fun b => ?_) rfl)
      rw [Option.map_eq_some_iff]
      exact exists_congr fun s => and_congr_right fun _ => contains_yesWords_iff.symm

/-! ### Settings that are of use -/

/-- Can stores work with the settings?  Numbers are positive, and the holder has a name that is not
blank, however a generated name is made different. -/
structure IsUsable (s : StoreSettings) : Prop where
  maxConnections : 0 < s.maxConnections
  connectTimeoutMs : 0 < s.connectTimeoutMs
  acquireTimeoutMs : 0 < s.acquireTimeoutMs
  leaseDurationMs : 0 < s.leaseDurationMs
  queryPageSize : 0 < s.queryPageSize
  holder : ∀ unique, Text.IsVisible (s.holder.id unique)

lemma isVisible_generated (unique : String) : Text.IsVisible (Holder.generated.id unique) := by
  refine ⟨'h', ?_, by decide⟩
  rw [Holder.id, String.toList_append]
  exact List.mem_append_left _ (by decide)

/-- What comes out of the layers is of use. -/
lemma isUsable_of_settles (h : ∀ f : Setting, Settles f.default (s.value f) (f.layers env o)) :
    s.IsUsable where
  maxConnections := pos_of_settles uint32_pos_iff (h .maxConnections) (by decide)
  connectTimeoutMs := pos_of_settles uint64_pos_iff (h .connectTimeoutMs) (by decide)
  acquireTimeoutMs := pos_of_settles uint64_pos_iff (h .acquireTimeoutMs) (by decide)
  leaseDurationMs :=
    pos_of_settles (fun _ => Int64.lt_iff_toInt_lt) (h .leaseDurationMs) (by decide)
  queryPageSize := pos_of_settles uint32_pos_iff (h .queryPageSize) (by decide)
  holder := by
    have hname (given : Option String) (h : Holder) (hgives : nameLayer given h) :
        ∀ unique, Text.IsVisible (h.id unique) := by
      obtain ⟨name, -, hvisible, rfl⟩ := hgives
      exact fun _ => hvisible
    refine (h .holder).of_forall isVisible_generated (List.forall_mem_cons.mpr ⟨hname _, ?_⟩)
    exact List.forall_mem_cons.mpr ⟨hname _, List.forall_mem_singleton.mpr (hname _)⟩

/-! ### Settings that are loaded -/

/-- Are these the overrides of an environment?  There are none if it names no file, and else they
are what the document in the file says. -/
inductive Overridden (env : Environment) (read? : String → Option String) : Overrides → Prop where
  | unnamed (h : env.text? "HARBOR_STORE_CONFIG" = none) : Overridden env read? .none
  | named {path text : String} {o : Overrides} (hpath : env.text? "HARBOR_STORE_CONFIG" = some path)
      (hread : read? path = some text) (ho : Overrides.ofText? text = some o) :
      Overridden env read? o

/-- What is loaded is the environment with its overrides. -/
lemma load_eq_ok_iff : load env read? = .ok s ↔
    ∃ o, Overridden env read? o ∧ s = (ofEnvironment env).withOverrides o := by
  constructor
  · intro h
    rw [load] at h
    split at h
    · next hnone =>
      cases h
      exact ⟨.none, .unnamed hnone, rfl⟩
    · next path hpath =>
      split at h
      · cases h
      · next text hread =>
        split at h
        · cases h
        · next o ho =>
          cases h
          exact ⟨o, .named hpath hread ho, rfl⟩
  · rintro ⟨o, hnone | ⟨hpath, hread, ho⟩, rfl⟩
    · rw [load, hnone]
      rfl
    · rw [load, hpath]
      simp only [hread, ho]

lemma load_of_malformed {path text : String} (hpath : env.text? "HARBOR_STORE_CONFIG" = some path)
    (hread : read? path = some text) (hmalformed : Overrides.ofText? text = none) :
    load env read? = .error (.unexpected .malformedSettings) := by
  rw [load, hpath]
  simp only [hread, hmalformed]

/-- Layers settle what is loaded.  With overrides that can be read there are settings, each of which
comes out of its own layers: numbers from an override and a variable that are positive, the holder
from an override and variables that are not blank.  So they are of use, and each of them stays as it
is whatever else is said, as long as its own layers give the same.  Nothing else is loaded, and
nothing at all with a document that cannot be read as overrides. -/
theorem isSettled_of_load (env : Environment) (read? : String → Option String) :
    (∀ o, Overridden env read? o → ∃ s, load env read? = .ok s ∧
      (∀ f : Setting, Settles f.default (s.value f) (f.layers env o)) ∧ s.IsUsable ∧
      ∀ env' read?' o' s', Overridden env' read?' o' → load env' read?' = .ok s' →
        ∀ f : Setting, f.Agrees env o env' o' → s'.value f = s.value f) ∧
    (∀ s, load env read? = .ok s → s.IsUsable ∧ ∃ o, Overridden env read? o) ∧
    ∀ path text, env.text? "HARBOR_STORE_CONFIG" = some path → read? path = some text →
      Overrides.ofText? text = none → load env read? = .error (.unexpected .malformedSettings) := by
  refine ⟨?settled, ?usable, fun path text => load_of_malformed⟩
  case settled =>
    intro o ho
    have hsettles := settles_withOverrides env o
    refine ⟨_, load_eq_ok_iff.mpr ⟨o, ho, rfl⟩, hsettles, isUsable_of_settles hsettles, ?_⟩
    intro env' read?' o' s' ho' hs' f hagrees
    cases (load_eq_ok_iff.mpr ⟨o', ho', rfl⟩).symm.trans hs'
    exact (settles_withOverrides env' o' f).unique ((hsettles f).congr hagrees) f.eq_of_layers
  case usable =>
    intro s hs
    obtain ⟨o, ho, rfl⟩ := load_eq_ok_iff.mp hs
    exact ⟨isUsable_of_settles (settles_withOverrides env o), o, ho⟩

/-- Blanks, zeros, negative numbers and bytes that are no text leave the layers below as they are,
and a lease lasts as long as if nothing had been said of it. -/
theorem isSettled_of_useless_values :
    let env : Environment := [("HARBOR_DB_MAX_CONNECTIONS", some "0"),
      ("HARBOR_DB_CONNECT_TIMEOUT_MS", some "+007"), ("HARBOR_LEASE_HOLDER", none),
      ("HOSTNAME", some " host "), ("HARBOR_LEASE_DURATION_MS", some "-5"),
      ("HARBOR_CREATE_SCHEMA", some "TRUE"), ("HARBOR_STORE_CONFIG", some "store.yaml")]
    let text := "lease_holder: ' '\nquery_page_size: 0\nacquire_timeout_ms: 9\n"
    let o : Overrides := { Overrides.none with
      leaseHolder := some " ", queryPageSize := some 0, acquireTimeoutMs := some 9 }
    (Overridden env (fun _ => some text) o ∧ ∃ s, load env (fun _ => some text) = .ok s ∧
      s = ⟨"sqlite://harbor.db?mode=rwc", 10, 7, 9, .named " host ", 60000, 50, false⟩ ∧
      (∀ f : Setting, Settles f.default (s.value f) (f.layers env o)) ∧ s.IsUsable ∧
      Setting.leaseDurationMs.Agrees env o [] .none ∧
      (ofEnvironment []).value .leaseDurationMs = s.value .leaseDurationMs) ∧
    load env (fun _ => some "lease_duration_ms: [oops") =
      .error (.unexpected .malformedSettings) := by
  intro env text o
  have hpath : env.text? "HARBOR_STORE_CONFIG" = some "store.yaml" := by decide
  have ho : Overridden env (fun _ => some text) o := .named hpath rfl (by decide +kernel)
  -- the useless value is no layer at all, so nothing was said of the duration
  have hagrees : Setting.leaseDurationMs.Agrees env o [] .none := by
    refine .cons (fun _ => Iff.rfl) (.cons (fun v => iff_of_false ?_ nofun) .nil)
    rintro ⟨s, hs, hdenotes, hpos⟩
    have hwritten : env.text? "HARBOR_LEASE_DURATION_MS" = some "-5" := by decide
    cases hwritten.symm.trans hs
    have hvalue : v.toInt = -5 :=
      hdenotes.unique (Numeral.signed?_eq_some_iff.mp (by decide : Numeral.signed? _ = some (-5)))
    omega
  obtain ⟨hsettled, -, -⟩ := isSettled_of_load env fun _ => some text
  obtain ⟨-, -, hmalformed⟩ := isSettled_of_load env fun _ => some "lease_duration_ms: [oops"
  obtain ⟨s, hs, hsettles, husable, hindependent⟩ := hsettled o ho
  have heq : s = ⟨"sqlite://harbor.db?mode=rwc", 10, 7, 9, .named " host ", 60000, 50, false⟩ := by
    have hload : load env (fun _ => some text) =
        .ok ⟨"sqlite://harbor.db?mode=rwc", 10, 7, 9, .named " host ", 60000, 50, false⟩ := by
      decide +kernel
    cases hload.symm.trans hs
    rfl
  have hother := hindependent [] (fun _ => none) .none (ofEnvironment []) (.unnamed rfl) rfl
    .leaseDurationMs hagrees
  exact ⟨⟨ho, s, hs, heq, hsettles, husable, hagrees, hother⟩,
    hmalformed _ _ hpath rfl (by decide +kernel)⟩

end StoreSettings

end LeasedStore
