import ImportDispatch.Import.Normal
import ImportDispatch.Proofs.Text.Lowercase
import ImportDispatch.Proofs.Text.Replacement
import ImportDispatch.Service.Request
/-!
# The normal form is stable

`ImportSpec.IsNormal` says what a specification in normal form looks like: its flags agree with the two modes that set
them, its address has the separator of its dialect only, Oracle has no schema apart from the table, and the registry has
no driver to add.  The steps to the normal form lead there (`ImportSpec.isNormal_normal`) and change nothing that is
there already (`ImportSpec.IsNormal.normal_eq`).  Each step reads what the steps before it made; they stay out of each
other's way because an address keeps its dialect when its separators change (`isOracleAddress_replace`).
-/
namespace ImportDispatch

open Text (occursIn_iff)

theorem normalName_normalName (name : Text) : normalName (normalName name) = normalName name := by
  unfold normalName
  rw [List.map_map]
  refine List.map_congr_left fun c _ => ?_
  by_cases hc : c = ' ' <;> simp [hc]

/-! ## Dialects -/

/-- An address belongs to Oracle if the mark stands in it, in any letter case of ASCII: no other characters have the
small letters of the mark. -/
theorem isOracleAddress_iff {jdbcUri : Text} :
    isOracleAddress jdbcUri = true ↔ ∃ w, w <:+: jdbcUri ∧ oracleMark = Text.asciiLower w := by
  have hmark : Text.FromAscii oracleMark := by decide
  rw [isOracleAddress, occursIn_iff, Text.infix_lowercase_iff hmark, Text.asciiLower, List.infix_map_iff]
  rfl

/-- The mark, in any letter case, neither begins nor ends inside of a separator. -/
theorem infix_replace_of_oracleMark {w : Text} (hw : oracleMark = Text.asciiLower w) {a b : Char} {as bs : Text}
    (has : a :: as ⊆ ['/', '@']) (hbs : b :: bs ⊆ ['/', '@']) (s : Text) :
    w <:+: Text.replace (':' :: a :: as) (':' :: b :: bs) s ↔ w <:+: s := by
  have hfixed : ∀ x ∈ ['/', '@'], x.toLower = x ∧ x ≠ 'j' :=
    List.forall_mem_cons.2 ⟨by decide, List.forall_mem_singleton.2 (by decide)⟩
  have hslash : ∀ y ∈ ['/', '@'], Text.Inert ':' '/' y oracleMark :=
    List.forall_mem_cons.2 ⟨by decide, List.forall_mem_singleton.2 (by decide)⟩
  have hat : ∀ y ∈ ['/', '@'], Text.Inert ':' '@' y oracleMark :=
    List.forall_mem_cons.2 ⟨by decide, List.forall_mem_singleton.2 (by decide)⟩
  have hinert : ∀ x ∈ ['/', '@'], ∀ y ∈ ['/', '@'], Text.Inert ':' x y oracleMark :=
    List.forall_mem_cons.2 ⟨hslash, List.forall_mem_singleton.2 hat⟩
  have ha : a ∈ ['/', '@'] := has List.mem_cons_self
  have hb : b ∈ ['/', '@'] := hbs List.mem_cons_self
  have hw' : Text.Inert ':' a b w := by
    have := hinert a ha b hb
    rw [hw] at this
    exact Text.inert_of_map (by decide) (hfixed a ha).1 (hfixed b hb).1 this
  cases w with
  | nil => cases hw
  | cons c w =>
    have hc : 'j' = c.toLower := (List.cons.inj hw).1
    have hout {sep : Text} (hsep : sep ⊆ ['/', '@']) : c ∉ sep := fun hmem =>
      (hfixed c (hsep hmem)).2 (by rw [hc, (hfixed c (hsep hmem)).1])
    exact Text.infix_replace_iff hw' (hout has) (hout hbs) s

/-- An address keeps its dialect when its separators change. -/
theorem isOracleAddress_replace {a b : Char} {as bs : Text} (has : a :: as ⊆ ['/', '@']) (hbs : b :: bs ⊆ ['/', '@'])
    (jdbcUri : Text) :
    isOracleAddress (Text.replace (':' :: a :: as) (':' :: b :: bs) jdbcUri) = isOracleAddress jdbcUri := by
  rw [Bool.eq_iff_iff, isOracleAddress_iff, isOracleAddress_iff]
  refine exists_congr fun w => and_congr_left fun hw => ?_
  exact infix_replace_of_oracleMark hw has hbs jdbcUri

theorem isOracleAddress_replace_slashes (jdbcUri : Text) :
    isOracleAddress (Text.replace slashSeparator atSeparator jdbcUri) = isOracleAddress jdbcUri :=
  isOracleAddress_replace (by decide) (by decide) jdbcUri

theorem isOracleAddress_replace_ats (jdbcUri : Text) :
    isOracleAddress (Text.replace atSeparator slashSeparator jdbcUri) = isOracleAddress jdbcUri :=
  isOracleAddress_replace (by decide) (by decide) jdbcUri

theorem no_slashes_left (jdbcUri : Text) : ¬ slashSeparator <:+: Text.replace slashSeparator atSeparator jdbcUri :=
  Text.not_infix_replace (by decide) (by decide) (by decide) jdbcUri

theorem no_ats_left (jdbcUri : Text) : ¬ atSeparator <:+: Text.replace atSeparator slashSeparator jdbcUri :=
  Text.not_infix_replace (by decide) (by decide) (by decide) jdbcUri

/-! ## Specifications -/

namespace ImportSpec

variable {registry : Registry} {spec : ImportSpec}

/-- What a specification in normal form looks like. -/
structure IsNormal (registry : Registry) (spec : ImportSpec) : Prop where
  overwrites : spec.mode? = some .overwrite → spec.incremental = false ∧ spec.overwrite = true
  increments : spec.mode? = some .incremental → spec.incremental = true ∧ spec.overwrite = false
  oracle : isOracleAddress spec.jdbcUri = true →
    ¬ slashSeparator <:+: spec.jdbcUri ∧ (spec.schema = [] ∨ '.' ∈ spec.table)
  other : isOracleAddress spec.jdbcUri = false → ¬ atSeparator <:+: spec.jdbcUri
  driver : spec.driver = [] → (registry.driverFor? spec.jdbcUri).getD [] = []

/-! Each step names the fields that it changes. -/

theorem withModeFlags_cases (spec : ImportSpec) : ∃ incremental overwrite,
    spec.withModeFlags = { spec with incremental, overwrite } ∧
      (spec.mode? = some .overwrite → incremental = false ∧ overwrite = true) ∧
      (spec.mode? = some .incremental → incremental = true ∧ overwrite = false) ∧
      (spec.mode? ≠ some .overwrite → spec.mode? ≠ some .incremental →
        incremental = spec.incremental ∧ overwrite = spec.overwrite) := by
  unfold withModeFlags
  split
  · rename_i hmode
    exact ⟨false, true, rfl, by simp, by simp [hmode], by simp [hmode]⟩
  · rename_i hmode
    exact ⟨true, false, rfl, by simp [hmode], by simp, by simp [hmode]⟩
  · rename_i hoverwrite hincremental
    exact ⟨spec.incremental, spec.overwrite, rfl, fun h => absurd h hoverwrite, fun h => absurd h hincremental,
      fun _ _ => ⟨rfl, rfl⟩⟩

theorem withSchemaInTable_cases (spec : ImportSpec) : ∃ table schema,
    spec.withSchemaInTable = { spec with table, schema } ∧ (schema = [] ∨ '.' ∈ table) := by
  unfold withSchemaInTable
  split
  · exact ⟨_, _, rfl, .inl rfl⟩
  · rename_i h
    refine ⟨spec.table, spec.schema, rfl, ?_⟩
    rw [← List.isEmpty_iff, or_iff_not_imp_left]
    simpa using h

theorem inDialect_cases (spec : ImportSpec) :
    (isOracleAddress spec.jdbcUri = true ∧ ∃ table schema, (schema = [] ∨ '.' ∈ table) ∧
      spec.inDialect =
        { spec with jdbcUri := Text.replace slashSeparator atSeparator spec.jdbcUri, table, schema }) ∨
    (isOracleAddress spec.jdbcUri = false ∧
      spec.inDialect = { spec with jdbcUri := Text.replace atSeparator slashSeparator spec.jdbcUri }) := by
  unfold inDialect
  by_cases horacle : isOracleAddress spec.jdbcUri = true
  · obtain ⟨table, schema, heq, hfolded⟩ :=
      withSchemaInTable_cases { spec with jdbcUri := Text.replace slashSeparator atSeparator spec.jdbcUri }
    exact .inl ⟨horacle, table, schema, hfolded, by rw [if_pos horacle, heq]⟩
  · exact .inr ⟨by simpa using horacle, by rw [if_neg horacle]⟩

theorem withDriver_cases (registry : Registry) (spec : ImportSpec) : ∃ driver,
    spec.withDriver registry = { spec with driver } ∧
      (driver = [] → (registry.driverFor? spec.jdbcUri).getD [] = []) := by
  unfold withDriver
  split
  · exact ⟨_, rfl, id⟩
  · rename_i hdriver
    exact ⟨spec.driver, rfl, fun h => absurd (List.isEmpty_iff.2 h) hdriver⟩

/-- What the steps to the normal form can change: the flags, the address, the table and its schema, and the driver. -/
theorem exists_normal (registry : Registry) (spec : ImportSpec) : ∃ table schema driver, spec.normal registry =
    { spec with
      incremental := spec.withModeFlags.incremental
      overwrite := spec.withModeFlags.overwrite
      jdbcUri :=
        if isOracleAddress spec.jdbcUri then Text.replace slashSeparator atSeparator spec.jdbcUri
        else Text.replace atSeparator slashSeparator spec.jdbcUri
      table, schema, driver } := by
  obtain ⟨incremental, overwrite, hflags, -⟩ := withModeFlags_cases spec
  obtain ⟨driver, hdriver, -⟩ := withDriver_cases registry spec.withModeFlags.inDialect
  have hdialect := inDialect_cases spec.withModeFlags
  rw [normal, hdriver]
  rw [hflags] at hdialect ⊢
  rcases hdialect with ⟨horacle, table, schema, -, heq⟩ | ⟨hother, heq⟩
  · exact ⟨table, schema, driver, by rw [heq, if_pos horacle]⟩
  · exact ⟨spec.table, spec.schema, driver, by rw [heq, if_neg (by simpa using hother)]⟩

/-- The later steps to the normal form leave alone what the mode, the flags, the check column and the user say. -/
theorem normal_unchanged (registry : Registry) (spec : ImportSpec) :
    (spec.normal registry).importMode = spec.importMode ∧
      (spec.normal registry).overwrite = spec.withModeFlags.overwrite ∧
      (spec.normal registry).incremental = spec.withModeFlags.incremental ∧
      (spec.normal registry).checkColumn = spec.checkColumn ∧
      (spec.normal registry).username = spec.username := by
  obtain ⟨table, schema, driver, heq⟩ := exists_normal registry spec
  rw [heq]
  exact ⟨rfl, rfl, rfl, rfl, rfl⟩

theorem normal_targetDir (registry : Registry) (spec : ImportSpec) :
    (spec.normal registry).targetDir = spec.targetDir := by
  obtain ⟨table, schema, driver, heq⟩ := exists_normal registry spec
  rw [heq]

theorem normal_jdbcUri (registry : Registry) (spec : ImportSpec) : (spec.normal registry).jdbcUri =
    if isOracleAddress spec.jdbcUri then Text.replace slashSeparator atSeparator spec.jdbcUri
    else Text.replace atSeparator slashSeparator spec.jdbcUri := by
  obtain ⟨table, schema, driver, heq⟩ := exists_normal registry spec
  rw [heq]

/-- The steps to the normal form lead there. -/
theorem isNormal_normal (registry : Registry) (spec : ImportSpec) : (spec.normal registry).IsNormal registry := by
  obtain ⟨incremental, overwrite, hflags, hoverwrites, hincrements, -⟩ := withModeFlags_cases spec
  obtain ⟨driver, hdriver, hnone⟩ := withDriver_cases registry spec.withModeFlags.inDialect
  have hdialect := inDialect_cases spec.withModeFlags
  rw [normal, hdriver]
  rw [hflags] at hdialect hnone ⊢
  rcases hdialect with ⟨horacle, table, schema, hfolded, heq⟩ | ⟨hother, heq⟩
  · rw [heq] at hnone ⊢
    refine ⟨hoverwrites, hincrements, fun _ => ⟨no_slashes_left _, hfolded⟩, fun hother => ?_, hnone⟩
    rw [isOracleAddress_replace_slashes, horacle] at hother
    cases hother
  · rw [heq] at hnone ⊢
    refine ⟨hoverwrites, hincrements, fun horacle => ?_, fun _ => no_ats_left _, hnone⟩
    rw [isOracleAddress_replace_ats, hother] at horacle
    cases horacle

/-- Filling in the user changes nothing else. -/
theorem exists_withUsername (fallback : Text) (spec : ImportSpec) :
    ∃ username, spec.withUsername fallback = { spec with username } := by
  unfold withUsername
  split
  · exact ⟨fallback, rfl⟩
  · exact ⟨spec.username, rfl⟩

namespace IsNormal

theorem withModeFlags_eq (h : spec.IsNormal registry) : spec.withModeFlags = spec := by
  unfold withModeFlags
  split
  · rename_i hmode
    obtain ⟨hincremental, hoverwrite⟩ := h.overwrites hmode
    rw [← hincremental, ← hoverwrite]
  · rename_i hmode
    obtain ⟨hincremental, hoverwrite⟩ := h.increments hmode
    rw [← hincremental, ← hoverwrite]
  · rfl

theorem inDialect_eq (h : spec.IsNormal registry) : spec.inDialect = spec := by
  unfold inDialect
  by_cases horacle : isOracleAddress spec.jdbcUri = true
  · obtain ⟨hslashes, hfolded⟩ := h.oracle horacle
    rw [if_pos horacle, Text.replace_of_not_infix (by decide) hslashes, withSchemaInTable, if_neg]
    rcases hfolded with hschema | htable
    · simp [hschema]
    · simp [htable]
  · rw [if_neg horacle, Text.replace_of_not_infix (by decide) (h.other (by simpa using horacle))]

theorem withDriver_eq (h : spec.IsNormal registry) : spec.withDriver registry = spec := by
  unfold withDriver
  split
  · rename_i hdriver
    have hdriver := List.isEmpty_iff.1 hdriver
    rw [h.driver hdriver, ← hdriver]
  · rfl

/-- What is in normal form already is left alone. -/
theorem normal_eq (h : spec.IsNormal registry) : spec.normal registry = spec := by
  rw [normal, h.withModeFlags_eq, h.inDialect_eq, h.withDriver_eq]

theorem withUsername (h : spec.IsNormal registry) (fallback : Text) :
    (spec.withUsername fallback).IsNormal registry := by
  obtain ⟨username, heq⟩ := spec.exists_withUsername fallback
  rw [heq]
  exact ⟨h.overwrites, h.increments, h.oracle, h.other, h.driver⟩

end IsNormal

theorem withUsername_withUsername (username : Text) (spec : ImportSpec) :
    (spec.withUsername username).withUsername username = spec.withUsername username := by
  unfold withUsername
  by_cases hblank : Text.isBlank spec.username = true
  · rw [if_pos hblank]
    simp
  · rw [if_neg hblank, if_neg hblank]

end ImportSpec

/-! ## Units -/

namespace PeriodUnit

theorem name_ascii (unit : PeriodUnit) : Text.FromAscii unit.name ∧ ∀ c ∈ unit.name, c.toNat < 128 := by
  have : unit.name.all (·.toNat < 128) = true := by cases unit <;> decide
  exact ⟨by cases unit <;> decide, by simpa using this⟩

/-- A text names the unit that it names in small letters. -/
theorem ofText?_lowercase_eq (s : Text) : ofText? (Text.lowercase s) = ofText? s := by
  have hname (unit : PeriodUnit) : (unit.name == Text.lowercase s) = (unit.name == Text.asciiLower s) := by
    obtain ⟨hfrom, hascii⟩ := unit.name_ascii
    rw [Bool.eq_iff_iff, beq_iff_eq, beq_iff_eq, eq_comm, Text.lowercase_eq_iff hfrom hascii, eq_comm]
  rw [ofText?, ofText?, Text.asciiLower_lowercase, funext hname]

theorem ofText?_lowercase {s : Text} {unit : PeriodUnit} (h : ofText? s = some unit) :
    ofText? (Text.lowercase s) = some unit := by
  rw [ofText?_lowercase_eq, h]

end PeriodUnit

/-! ## Requests -/

/-- Both kinds of requests bring their specification into normal form, and a recurring one fills in the user. -/
theorem JobRequest.exists_normal_spec (registry : Registry) (fallback : Text) (request : JobRequest) :
    ∃ username, (request.normal registry fallback).spec = { request.spec.normal registry with username } := by
  cases request with
  | once job => exact ⟨(job.spec.normal registry).username, rfl⟩
  | recurring job => exact (job.spec.normal registry).exists_withUsername fallback

/-- **The normal form of a request is its own normal form**, for an import that runs once and for a recurring one. -/
theorem normal_normal (registry : Registry) (username : Text) :
    (∀ job : ImportJob, (job.normal registry).normal registry = job.normal registry) ∧
      ∀ job : ScheduledJob,
        (job.normal registry username).normal registry username = job.normal registry username := by
  refine ⟨fun job => ?_, fun job => ?_⟩
  · simp only [ImportJob.normal, normalName_normalName, (job.spec.isNormal_normal registry).normal_eq]
  · have hspec := (job.spec.isNormal_normal registry).withUsername username
    simp only [ScheduledJob.normal, normalName_normalName, hspec.normal_eq, ImportSpec.withUsername_withUsername,
      Text.lowercase_lowercase]

end ImportDispatch
