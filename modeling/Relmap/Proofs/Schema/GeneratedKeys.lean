import Relmap.Proofs.Schema.ColumnTypes

/-
  Generated keys, and the columns that refer to them.

  A generated key has the first width, narrowest first, that
  any ancestor of its type is named for. A column has the
  width that the nearest ancestor is named for that the
  dialect knows. The two are the same for types that extend
  no type that is known, and may differ for others.

  Main declarations:
    * `IntegerWidth`
    * `FieldType.keyWidth?`
    * `Dialect.knownName?`
    * `Dialect.KnowsRootsOnly`
    * `Dialect.columnType_of_keyColumn`
-/

------------------------------------------------------------
-- Widths Of Integers
------------------------------------------------------------

namespace Relmap

/- The widths of integers that keys are generated for. -/
inductive IntegerWidth where
  | small
  | regular
  | big
  deriving DecidableEq

namespace IntegerWidth

/- The widths, narrowest first. -/
def all : List IntegerWidth :=
  [.small, .regular, .big]

/- The name of the integer type of the width. -/
def typeName : IntegerWidth → String
  | .small => FieldType.smallIntName
  | .regular => FieldType.intName
  | .big => FieldType.bigIntName

/- The type of a generated key of the width. -/
def serial : IntegerWidth → String
  | .small => "SMALLSERIAL"
  | .regular => "SERIAL"
  | .big => "BIGSERIAL"

/- The type of a column of the width. -/
def columnType : IntegerWidth → String
  | .small => "SMALLINT"
  | .regular => "INT"
  | .big => "BIGINT"

/-
  The names of types whose columns have the width. Spans of
  time are stored as big integers.
-/
def typeNames : IntegerWidth → List String
  | .small => [FieldType.smallIntName]
  | .regular => [FieldType.intName]
  | .big => [FieldType.bigIntName, FieldType.timeDeltaName]

theorem typeName_mem_typeNames
    (width : IntegerWidth) :
    width.typeName ∈ width.typeNames := by
  cases width <;> decide

end IntegerWidth

/- The first width that the type or an ancestor is named for. -/
def FieldType.keyWidth?
    (type : FieldType) : Option IntegerWidth :=
  IntegerWidth.all.find? fun width =>
    type.isA width.typeName

/- It is or extends the integer type of that width. -/
theorem FieldType.isA_of_keyWidth?
    {type : FieldType}
    {width : IntegerWidth}
    (hWidth : type.keyWidth? = some width) :
    type.isA width.typeName = true := by
  have hFound := List.find?_some hWidth
  exact hFound

/- The width of a key has its serial type. -/
theorem Dialect.serialType?_eq_map
    (type : FieldType) :
    serialType? type =
      type.keyWidth?.map IntegerWidth.serial := by
  unfold serialType? FieldType.keyWidth?
  simp only [IntegerWidth.all, IntegerWidth.typeName,
    List.find?_cons, List.find?_nil]
  cases type.isA FieldType.smallIntName <;>
    cases type.isA FieldType.intName <;>
    cases type.isA FieldType.bigIntName <;> rfl

end Relmap

------------------------------------------------------------
-- Nearest Known Names
------------------------------------------------------------

namespace Relmap

namespace Dialect

variable {dialect : Dialect}
variable {type : FieldType}
variable {name : String}

/- The name of a type, if the dialect has a template for it. -/
def knownName?
    (dialect : Dialect)
    (type : FieldType) : Option String :=
  (dialect.template? type.name).map fun _ => type.name

/- The types of the lineage that are known extend nothing. -/
def KnowsRootsOnly
    (dialect : Dialect)
    (type : FieldType) : Prop :=
  ∀ ancestor ∈ type.lineage,
    (dialect.template? ancestor.name).isSome = true →
      ancestor.base = none

/- A known name is the own name, and it has a template. -/
theorem knownName?_eq_some_iff :
    dialect.knownName? type = some name ↔
      type.name = name ∧
        (dialect.template? name).isSome = true := by
  unfold knownName?
  rw [Option.map_eq_some_iff, Option.isSome_iff_exists]
  constructor
  · rintro ⟨template, hTemplate, rfl⟩
    exact ⟨rfl, template, hTemplate⟩
  · rintro ⟨rfl, template, hTemplate⟩
    exact ⟨template, hTemplate, rfl⟩

theorem knownName?_eq_none_iff :
    dialect.knownName? type = none ↔
      dialect.ownTemplate? type = none :=
  Option.map_eq_none_iff

/- What a type inherits is the template of a name it inherits. -/
theorem inherits_ownTemplate?_iff
    {template : TypeTemplate} :
    type.Inherits dialect.ownTemplate? template ↔
      ∃ name, type.Inherits dialect.knownName? name ∧
        dialect.template? name = some template := by
  constructor
  · intro hTemplate
    induction hTemplate with
    | @own type template hOwn =>
        refine ⟨type.name, .own ?_, hOwn⟩
        exact knownName?_eq_some_iff.mpr
          ⟨rfl, Option.isSome_of_eq_some hOwn⟩
    | base hBase hOwn _ ih =>
        rcases ih with ⟨name, hName, hTemplate⟩
        exact ⟨name,
          .base hBase (knownName?_eq_none_iff.mpr hOwn) hName,
          hTemplate⟩
  · rintro ⟨name, hName, hTemplate⟩
    induction hName with
    | own hOwn =>
        rcases knownName?_eq_some_iff.mp hOwn with ⟨rfl, _⟩
        exact .own hTemplate
    | base hBase hOwn _ ih =>
        exact .base hBase (knownName?_eq_none_iff.mp hOwn)
          (ih hTemplate)

/- A type that extends nothing is one of these. -/
theorem knowsRootsOnly_of_root
    (hBase : type.base = none) :
    dialect.KnowsRootsOnly type := by
  unfold KnowsRootsOnly
  rw [FieldType.lineage_of_root hBase,
    List.forall_mem_singleton]
  exact fun _ => hBase

/- So is a custom type over one of these. -/
theorem KnowsRootsOnly.extend
    {base : FieldType}
    (hRoots : dialect.KnowsRootsOnly base)
    (hName : dialect.template? name = none) :
    dialect.KnowsRootsOnly (.extend name base) := by
  unfold KnowsRootsOnly
  rw [FieldType.lineage_of_base rfl, List.forall_mem_cons]
  refine ⟨?_, hRoots⟩
  intro hKnown
  change (dialect.template? name).isSome = true at hKnown
  rw [hName] at hKnown
  cases hKnown

/- Where known types extend nothing the root has the name. -/
theorem KnowsRootsOnly.inherits
    (hKnown : (dialect.template? name).isSome = true)
    (hRoots : dialect.KnowsRootsOnly type)
    (hIsA : type.isA name = true) :
    type.Inherits dialect.knownName? name := by
  induction type using FieldType.base_induction with
  | root type hBase =>
      rw [FieldType.isA_of_root hBase, decide_eq_true_eq]
        at hIsA
      exact .own (knownName?_eq_some_iff.mpr ⟨hIsA, hKnown⟩)
  | extension type base hBase ih =>
      unfold KnowsRootsOnly at hRoots
      rw [FieldType.lineage_of_base hBase,
        List.forall_mem_cons] at hRoots
      -- The type extends another, so its name is not known.
      have hUnknown : dialect.template? type.name = none := by
        rw [← Option.not_isSome_iff_eq_none]
        intro hSome
        have hRoot := hRoots.1 hSome
        rw [hBase] at hRoot
        cases hRoot
      have hNe : type.name ≠ name := by
        rintro rfl
        rw [hUnknown] at hKnown
        cases hKnown
      rw [FieldType.isA_of_base hBase, decide_eq_false hNe,
        Bool.false_or] at hIsA
      exact .base hBase (knownName?_eq_none_iff.mpr hUnknown)
        (ih hRoots.2 hIsA)

end Dialect

end Relmap

------------------------------------------------------------
-- Columns Of A Width
------------------------------------------------------------

namespace Relmap

/- The words that a template begins with. -/
def TypeTemplate.leading : TypeTemplate → String
  | .text words :: _ => words
  | _ => ""

/- A template that is filled in begins with them too. -/
theorem TypeTemplate.leading_prefix_fill
    (length : UInt32)
    (precision : Precision)
    (template : TypeTemplate) :
    template.leading.toList <+:
      (template.fill length precision).toList := by
  unfold leading
  split
  · rw [fill, String.toList_join]
    exact List.prefix_append _ _
  · exact List.nil_prefix

namespace Dialect

variable {dialect : Dialect}
variable {type : FieldType}
variable {width : IntegerWidth}

/- A template without parameters is a column type. -/
theorem columnType_of_fixed
    {text : String}
    (hTemplate :
      type.Inherits dialect.ownTemplate? (.fixed text)) :
    dialect.columnType type = .ok text := by
  refine columnType_eq_ok_iff.mpr
    ⟨_, 0, ⟨0, 0⟩, hTemplate, rfl, rfl, ?_⟩
  rw [TypeTemplate.fill, TypeTemplate.fixed]
  exact String.empty_append

/- Only names of the width have templates that begin as it. -/
theorem mem_typeNames_of_leading
    {name : String}
    {template : TypeTemplate}
    (hTemplate : postgres.template? name = some template)
    (hLeading :
      template.leading.toList <+: width.columnType.toList) :
    name ∈ width.typeNames := by
  have hAll :
      ∀ entry ∈ postgresTemplates ++ baseTemplates,
        entry.2.leading.toList <+:
            width.columnType.toList →
          entry.1 ∈ width.typeNames := by
    cases width <;> decide
  exact hAll _ (mem_of_templateOver? hTemplate) hLeading

/- Every name of the width has its column type as template. -/
theorem template?_of_mem_typeNames :
    ∀ name ∈ width.typeNames,
      postgres.template? name =
        some (.fixed width.columnType) := by
  cases width <;> decide

/-
  A column has the width that the nearest known name of the
  lineage is one of.
-/
theorem columnType_eq_width_iff :
    postgres.columnType type = .ok width.columnType ↔
      ∃ name ∈ width.typeNames,
        type.Inherits postgres.knownName? name := by
  constructor
  · intro hColumn
    rcases columnType_eq_ok_iff.mp hColumn with
      ⟨template, length, precision, hTemplate, _, _, hFill⟩
    rcases inherits_ownTemplate?_iff.mp hTemplate with
      ⟨name, hName, hOwn⟩
    refine ⟨name, mem_typeNames_of_leading hOwn ?_, hName⟩
    rw [← hFill]
    exact TypeTemplate.leading_prefix_fill length precision
      template
  · rintro ⟨name, hMember, hName⟩
    have hTemplate := template?_of_mem_typeNames name hMember
    exact columnType_of_fixed
      (inherits_ownTemplate?_iff.mpr
        ⟨name, hName, hTemplate⟩)

end Dialect

end Relmap

------------------------------------------------------------
-- Keys And Columns
------------------------------------------------------------

namespace Relmap

namespace Dialect

variable {type : FieldType}

/- A key is generated for the types that have a width. -/
theorem keyColumn?_postgres_eq_map
    (column : String)
    (type : FieldType)
    (comment : String) :
    postgres.keyColumn? column type comment =
      type.keyWidth?.map fun width =>
        postgres.quote column ++ " " ++ width.serial ++
          " NOT NULL PRIMARY KEY" := by
  change postgresKeyColumn? column type comment = _
  rw [postgresKeyColumn?, serialType?_eq_map, Option.map_map]
  rfl

/-
  A generated key has the serial type of the first width
  that its type is named for. Its type is a column type of
  a width exactly if the nearest known name is one of that
  width. So a column that refers to the key has its width
  if the known types of the lineage extend nothing, as
  built-in types do.
-/
theorem columnType_of_keyColumn
    {column comment definition : String}
    (hKey :
      postgres.keyColumn? column type comment =
        some definition) :
    ∃ width,
      type.keyWidth? = some width ∧
        definition =
          postgres.quote column ++ " " ++ width.serial ++
            " NOT NULL PRIMARY KEY" ∧
        (∀ other : IntegerWidth,
          postgres.columnType type = .ok other.columnType ↔
            ∃ name ∈ other.typeNames,
              type.Inherits postgres.knownName? name) ∧
        (postgres.KnowsRootsOnly type →
          postgres.columnType type =
            .ok width.columnType) := by
  rw [keyColumn?_postgres_eq_map, Option.map_eq_some_iff]
    at hKey
  rcases hKey with ⟨width, hWidth, rfl⟩
  refine ⟨width, hWidth, rfl,
    fun other => columnType_eq_width_iff, ?_⟩
  intro hRoots
  have hMember := width.typeName_mem_typeNames
  have hKnown :
      (postgres.template? width.typeName).isSome = true :=
    Option.isSome_of_eq_some
      (template?_of_mem_typeNames _ hMember)
  exact columnType_eq_width_iff.mpr
    ⟨width.typeName, hMember,
      hRoots.inherits hKnown
        (FieldType.isA_of_keyWidth? hWidth)⟩

/- A custom type over big integers. -/
private def counterType : FieldType :=
  .extend "Counter" (.named FieldType.bigIntName)

theorem columnType_of_keyColumn_counter :
    postgres.keyColumn? "id" counterType "" =
        some "\"id\" BIGSERIAL NOT NULL PRIMARY KEY" ∧
      postgres.KnowsRootsOnly counterType ∧
      postgres.columnType counterType = .ok "BIGINT" := by
  have hKey :
      postgres.keyColumn? "id" counterType "" =
        some "\"id\" BIGSERIAL NOT NULL PRIMARY KEY" := by
    decide +kernel
  have hRoots : postgres.KnowsRootsOnly counterType :=
    (knowsRootsOnly_of_root rfl).extend (by decide)
  have hBig : counterType.keyWidth? = some .big := by
    decide +kernel
  rcases columnType_of_keyColumn hKey with
    ⟨width, hWidth, _, _, hColumn⟩
  obtain rfl : width = .big :=
    Option.some.inj (hWidth.symm.trans hBig)
  exact ⟨hKey, hRoots, hColumn hRoots⟩

/- A big integer that extends a smaller one. -/
private def widenedType : FieldType :=
  .extend FieldType.bigIntName (.named FieldType.intName)

/- A text without a length that extends an integer. -/
private def spelledType : FieldType :=
  .extend FieldType.charName (.named FieldType.intName)

/-
  Where known types extend others a key can be narrower than
  the columns that refer to it, and there can be no column
  type for them at all.
-/
theorem serial_key_unlike_columns :
    (postgres.keyColumn? "id" widenedType "" =
        some "\"id\" SERIAL NOT NULL PRIMARY KEY" ∧
      (postgres.columnType widenedType).toOption =
        some "BIGINT") ∧
      postgres.keyColumn? "id" spelledType "" =
          some "\"id\" SERIAL NOT NULL PRIMARY KEY" ∧
        (postgres.columnType spelledType).toOption =
          none := by
  decide +kernel

end Dialect

end Relmap
