import DocFilter.Json.Settings
import DocFilter.Proofs.Lookup

/-! # Configurations that are loaded

A configuration with a depth of zero is none that can be built.  Building refuses it, and so does
loading from named texts, which builds in the end.  A JSON text is read setting by setting, without
that check: what it gives can be built again exactly when it does not set the depth to zero itself
(`ParseConfig.rebuild_of_load?`). -/

namespace DocFilter

/-! ### Building -/

namespace ConfigBuilder

/-- A call that makes a setting. -/
inductive Call where
  | multiKey (strategy : MultiKey)
  | maxDepth (depth : Nat)

def call (b : ConfigBuilder) : Call → ConfigBuilder
  | .multiKey strategy => b.setMultiKey strategy
  | .maxDepth depth => b.setMaxDepth depth

/-- The settings after a row of calls. -/
def ofCalls (calls : List Call) : ConfigBuilder := calls.foldl call {}

theorem build_eq_ok_iff {b : ConfigBuilder} {c : ParseConfig} :
    b.build = .ok c ↔ ParseConfig.ofSettings b = c ∧ 1 ≤ c.maxDepth := by
  unfold build ParseConfig.ofSettings
  dsimp only
  split
  · next hzero =>
    simp only [reduceCtorEq, false_iff, not_and]
    rintro rfl
    simp [hzero]
  · next hdepth =>
    rw [Except.ok.injEq, iff_self_and]
    rintro rfl
    exact Nat.one_le_iff_ne_zero.mpr hdepth

end ConfigBuilder

namespace ParseConfig

/-- Builds a configuration with the settings of another one. -/
def rebuild (c : ParseConfig) : Except ConfigFault ParseConfig :=
  ConfigBuilder.build ((ConfigBuilder.setMultiKey {} c.multiKey).setMaxDepth c.maxDepth)

theorem rebuild_eq_ok_iff {c : ParseConfig} : c.rebuild = .ok c ↔ 1 ≤ c.maxDepth := by
  rw [rebuild, ConfigBuilder.build_eq_ok_iff]
  exact and_iff_right rfl

end ParseConfig

/-! ### Loading from JSON -/

/-- Whether a value sets the depth to zero, by name or as the second of the settings in a list. -/
def Json.SetsDepthZero : Json → Prop
  | .object members => ("max_depth", .int 0) ∈ members
  | .list items => items[1]? = some (.int 0)
  | _ => False

namespace ParseConfig

theorem depthOfJson?_eq_some_zero {value : Json} :
    depthOfJson? value = some 0 ↔ value = .int 0 := by
  cases value with
  | int n =>
      simp only [depthOfJson?, Option.ite_none_right_eq_some, Option.some.injEq, Json.int.injEq]
      constructor
      · omega
      · rintro rfl
        decide
  | _ => simp [depthOfJson?]

/-- A setting makes the depth zero by setting it, as the depth is set once at most. -/
theorem maxDepth_of_setMember? {b b' : ConfigBuilder} {name : String} {value : Json}
    (h : setMember? b name value = some b') :
    b'.maxDepth = some 0 ↔ b.maxDepth = some 0 ∨ (name, value) = ("max_depth", .int 0) := by
  unfold setMember? at h
  split at h
  · next hname =>
    split at h
    · cases h
    · obtain ⟨strategy, _, rfl⟩ := Option.map_eq_some_iff.mp h
      simp [hname, ConfigBuilder.setMultiKey]
  · split at h
    · next hname =>
      split at h
      · cases h
      · next hunset =>
        obtain ⟨depth, hdepth, rfl⟩ := Option.map_eq_some_iff.mp h
        have hb : b.maxDepth = none := by simpa using hunset
        rw [ConfigBuilder.setMaxDepth, ← hdepth, depthOfJson?_eq_some_zero]
        simp [hname, hb]
    · next hname =>
      cases h
      simp [hname]

theorem maxDepth_of_foldlM {members : List (String × Json)} {b b' : ConfigBuilder}
    (h : members.foldlM (fun b (name, value) => setMember? b name value) b = some b') :
    b'.maxDepth = some 0 ↔ b.maxDepth = some 0 ∨ ("max_depth", .int 0) ∈ members := by
  induction members generalizing b with
  | nil =>
      cases h
      simp
  | cons member rest ih =>
      rw [List.foldlM_cons] at h
      obtain ⟨b₁, hstep, hrest⟩ := Option.bind_eq_some_iff.mp h
      rw [ih hrest, maxDepth_of_setMember? hstep, List.mem_cons, or_assoc, eq_comm (a := member)]

theorem maxDepth_ofSettings (b : ConfigBuilder) :
    (ofSettings b).maxDepth = 0 ↔ b.maxDepth = some 0 := by
  cases h : b.maxDepth <;> simp [ofSettings, h]

theorem maxDepth_ofJson? {j : Json} {c : ParseConfig} (h : ofJson? j = some c) :
    c.maxDepth = 0 ↔ j.SetsDepthZero := by
  unfold ofJson? at h
  split at h
  · next members =>
    obtain ⟨b, hb, rfl⟩ := Option.map_eq_some_iff.mp h
    rw [maxDepth_ofSettings, maxDepth_of_foldlM hb]
    simp [Json.SetsDepthZero]
  · next items =>
    split at h
    · obtain ⟨b, hb, rfl⟩ := Option.map_eq_some_iff.mp h
      rw [maxDepth_ofSettings, maxDepth_of_foldlM hb, Json.SetsDepthZero]
      obtain _ | ⟨first, _ | ⟨second, rest⟩⟩ := items
      · simp
      · simp
      · simp [eq_comm]
    · cases h
  · cases h

/-! ### All ways to load -/

/-- What a configuration is loaded from: calls of a builder, texts that are looked up by name, or a
JSON text.  The environment is one of the tables to look texts up in. -/
inductive Source where
  | calls (row : List ConfigBuilder.Call)
  | lookup (table : String → Option String)
  | json (text : String)

namespace Source

/-- The configuration, unless loading it fails. -/
def load? : Source → Option ParseConfig
  | calls row => (ConfigBuilder.ofCalls row).build.toOption
  | lookup table => (ofLookup table).toOption
  | json text => ofJsonText? text

/-- Whether a source sets the depth to zero and is not refused, which only a JSON text is not. -/
def SetsDepthZero : Source → Prop
  | calls _ | lookup _ => False
  | json text => ∃ j, Json.read? text = some j ∧ j.SetsDepthZero

end Source

theorem eq_ok_of_toOption {ε α : Type} {e : Except ε α} {a : α} (h : e.toOption = some a) :
    e = .ok a := by
  cases e with
  | error _ => cases h
  | ok _ => rw [Option.some.inj h]

theorem maxDepth_of_load? {source : Source} {c : ParseConfig} (h : source.load? = some c) :
    c.maxDepth = 0 ↔ source.SetsDepthZero := by
  cases source with
  | calls row =>
      obtain ⟨_, hpos⟩ := ConfigBuilder.build_eq_ok_iff.mp (eq_ok_of_toOption h)
      exact iff_of_false (Nat.one_le_iff_ne_zero.mp hpos) not_false
  | lookup table =>
      obtain ⟨_, hdepth⟩ := ofLookup_eq_ok_iff.mp (eq_ok_of_toOption h)
      exact iff_of_false (Nat.one_le_iff_ne_zero.mp hdepth.one_le) not_false
  | json text =>
      rw [Source.load?, ofJsonText?, Option.ite_none_right_eq_some] at h
      obtain ⟨j, hj, hc⟩ := Option.bind_eq_some_iff.mp h.2
      rw [maxDepth_ofJson? hc, Source.SetsDepthZero, hj]
      simp

/-- What is loaded has a depth of at least one, and can be built again, exactly when the source is
no JSON text that sets the depth to zero. -/
theorem rebuild_of_load? (source : Source) (c : ParseConfig) (h : source.load? = some c) :
    1 ≤ c.maxDepth ∧ c.rebuild = .ok c ↔ ¬ source.SetsDepthZero := by
  rw [rebuild_eq_ok_iff, and_self, Nat.one_le_iff_ne_zero, ne_eq, maxDepth_of_load? h]

/-- A depth that is set anew, a text with blanks, a list without the depth, and a depth of zero in
a text. -/
theorem rebuild_of_load?_again :
    let calls : Source := .calls [.maxDepth 0, .multiKey .conjunction, .maxDepth 8]
    let lookup : Source := .lookup fun name => if name = maxDepthVariable then some " +1 " else none
    let list : Source := .json "[\"conjunction\"]"
    let zero : Source := .json "\x7b\"max_depth\":0\x7d"
    (calls.load? = some ⟨.conjunction, 8⟩ ∧
      (⟨.conjunction, 8⟩ : ParseConfig).rebuild = .ok ⟨.conjunction, 8⟩) ∧
    (lookup.load? = some ⟨.passthrough, 1⟩ ∧
      (⟨.passthrough, 1⟩ : ParseConfig).rebuild = .ok ⟨.passthrough, 1⟩) ∧
    (list.load? = some ⟨.conjunction, 100⟩ ∧ ¬ list.SetsDepthZero) ∧
    (zero.load? = some ⟨.passthrough, 0⟩ ∧ zero.SetsDepthZero) := by
  intro calls lookup list zero
  have hcalls : calls.load? = some ⟨.conjunction, 8⟩ := rfl
  have hlookup : lookup.load? = some ⟨.passthrough, 1⟩ := by decide +kernel
  have hlist : list.load? = some ⟨.conjunction, 100⟩ := by decide +kernel
  have hzero : zero.load? = some ⟨.passthrough, 0⟩ := by decide +kernel
  refine ⟨⟨hcalls, ?_⟩, ⟨hlookup, ?_⟩, ⟨hlist, ?_⟩, hzero, ?_⟩
  · exact ((rebuild_of_load? calls _ hcalls).mpr not_false).2
  · exact ((rebuild_of_load? lookup _ hlookup).mpr not_false).2
  · exact (rebuild_of_load? list _ hlist).mp ⟨by decide, rfl⟩
  · exact Classical.not_not.mp fun hnot =>
      absurd ((rebuild_of_load? zero _ hzero).mpr hnot).1 (by decide)

/-- A depth of zero that a JSON text sets. -/
theorem not_forall_rebuild_of_load? : ¬ ∀ (source : Source) (c : ParseConfig),
    source.load? = some c → 1 ≤ c.maxDepth ∧ c.rebuild = .ok c := by
  intro h
  have hzero : (Source.json "\x7b\"max_depth\":0\x7d").load? = some ⟨.passthrough, 0⟩ := by
    decide +kernel
  exact absurd (h _ _ hzero).1 (by decide)

end ParseConfig
end DocFilter
