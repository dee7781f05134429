import Relmap.Proofs.Catalog.Lineage
import Relmap.Proofs.Outcome
import Relmap.Proofs.Schema.Templates
import Relmap.Schema.MySql
import Relmap.Schema.Postgres
import Relmap.Schema.Sqlite

/-
  Column types, and what custom types inherit of them.

  A column type is the nearest template in the lineage of a
  field type, with the nearest parameters filled in, each
  wherever in the lineage it is set. A custom type that a
  dialect does not know, and that sets no parameters, is
  stored as what it extends.

  Main declarations:
    * `Dialect.ownTemplate?`
    * `Dialect.columnType_eq_ok_iff`
    * `Dialect.exists_columnType_iff`
    * `Dialect.IsBuiltIn.isSound`
    * `Dialect.IsBuiltIn.keyColumn?_extend`
    * `Dialect.columnType_inherited`
-/

------------------------------------------------------------
-- Parameters That Are Asked For
------------------------------------------------------------

namespace Relmap

variable {template : TypeTemplate}
variable {type : FieldType}

/- The length is inherited if the template asks for it. -/
theorem lengthFor_eq_ok_iff
    {length : UInt32} :
    lengthFor template type = .ok length ↔
      if TemplatePart.maxLength ∈ template then
        type.Inherits FieldType.maxLength length
      else length = 0 := by
  unfold lengthFor
  split
  · rw [FieldType.inherits_iff]
    change _ ↔ type.length? = some length
    cases type.length? <;> simp
  · rw [Except.ok.injEq]
    exact eq_comm

/- So is the precision. -/
theorem precisionFor_eq_ok_iff
    {precision : Precision} :
    precisionFor template type = .ok precision ↔
      if TemplatePart.maxDigits ∈ template then
        type.Inherits FieldType.decimal precision
      else precision = ⟨0, 0⟩ := by
  unfold precisionFor
  split
  · rw [FieldType.inherits_iff]
    change _ ↔ type.precision? = some precision
    cases type.precision? <;> simp
  · rw [Except.ok.injEq]
    exact eq_comm

/- What is asked for is there exactly if it is set. -/
theorem exists_lengthFor_iff :
    (∃ length, lengthFor template type = .ok length) ↔
      (TemplatePart.maxLength ∈ template →
        type.Sets FieldType.maxLength) := by
  simp only [lengthFor_eq_ok_iff]
  by_cases hAsked : TemplatePart.maxLength ∈ template
  · simp [hAsked, FieldType.exists_inherits_iff]
  · simp [hAsked]

theorem exists_precisionFor_iff :
    (∃ precision,
        precisionFor template type = .ok precision) ↔
      (TemplatePart.maxDigits ∈ template →
        type.Sets FieldType.decimal) := by
  simp only [precisionFor_eq_ok_iff]
  by_cases hAsked : TemplatePart.maxDigits ∈ template
  · simp [hAsked, FieldType.exists_inherits_iff]
  · simp [hAsked]

end Relmap

------------------------------------------------------------
-- Column Types By Lineage
------------------------------------------------------------

namespace Relmap

namespace Dialect

variable {dialect : Dialect}
variable {type : FieldType}
variable {text : String}

/- The template that a dialect has for a type by its name. -/
def ownTemplate?
    (dialect : Dialect)
    (type : FieldType) : Option TypeTemplate :=
  dialect.template? type.name

/- A column type is the template that the type inherits. -/
theorem columnType_eq_ok_iff :
    dialect.columnType type = .ok text ↔
      ∃ template length precision,
        type.Inherits dialect.ownTemplate? template ∧
          lengthFor template type = .ok length ∧
          precisionFor template type = .ok precision ∧
          template.fill length precision = text := by
  simp only [FieldType.inherits_iff]
  have hOwn :
      (fun ancestor : FieldType =>
          dialect.template? ancestor.name) =
        dialect.ownTemplate? := rfl
  rw [columnType, columnTypeOf, hOwn]
  cases type.lineage.findSome? dialect.ownTemplate? with
  | none => simp
  | some template =>
      simp only [Except.bind_eq_ok_iff, pure, Except.pure,
        Except.ok.injEq, Option.some.injEq]
      constructor
      · rintro ⟨length, hLength, precision, hPrecision,
          hText⟩
        exact ⟨template, length, precision, rfl, hLength,
          hPrecision, hText⟩
      · rintro ⟨_, length, precision, rfl, hLength,
          hPrecision, hText⟩
        exact ⟨length, hLength, precision, hPrecision, hText⟩

/- There is one if there is all that the template asks for. -/
theorem exists_columnType_iff :
    (∃ text, dialect.columnType type = .ok text) ↔
      ∃ template,
        type.Inherits dialect.ownTemplate? template ∧
          (TemplatePart.maxLength ∈ template →
            type.Sets FieldType.maxLength) ∧
          (TemplatePart.maxDigits ∈ template →
            type.Sets FieldType.decimal) := by
  simp only [columnType_eq_ok_iff, ← exists_lengthFor_iff,
    ← exists_precisionFor_iff]
  constructor
  · rintro ⟨_, template, length, precision, hTemplate,
      hLength, hPrecision, _⟩
    exact ⟨template, hTemplate, ⟨length, hLength⟩,
      precision, hPrecision⟩
  · rintro ⟨template, hTemplate, ⟨length, hLength⟩,
      precision, hPrecision⟩
    exact ⟨_, template, length, precision, hTemplate,
      hLength, hPrecision, rfl⟩

/- A custom type that is not known is stored as its base. -/
theorem toOption_columnType_extend
    {name : String}
    (hName : dialect.template? name = none)
    (base : FieldType) :
    (dialect.columnType (.extend name base)).toOption =
      (dialect.columnType base).toOption := by
  apply Option.ext
  intro text
  simp only [Except.toOption_eq_some_iff,
    columnType_eq_ok_iff, lengthFor_eq_ok_iff,
    precisionFor_eq_ok_iff, FieldType.inherits_iff]
  rw [FieldType.findSome?_lineage_extend hName,
    FieldType.findSome?_lineage_extend rfl,
    FieldType.findSome?_lineage_extend rfl]

end Dialect

end Relmap

------------------------------------------------------------
-- Templates Of Built-In Dialects
------------------------------------------------------------

namespace Relmap

namespace Dialect

/- The dialects that schemas are made with. -/
inductive IsBuiltIn : Dialect → Prop where
  | standard (name : String) : IsBuiltIn (.standard name)
  | sqlite : IsBuiltIn .sqlite
  | postgres : IsBuiltIn .postgres
  | mySql (charset : String) : IsBuiltIn (.mySql charset)

variable {dialect : Dialect}

/- What is found in a table is one of its entries. -/
theorem mem_of_lookup
    {templates : List (String × TypeTemplate)}
    {name : String}
    {template : TypeTemplate}
    (hTemplate : templates.lookup name = some template) :
    (name, template) ∈ templates := by
  rcases List.lookup_eq_some_iff.mp hTemplate with
    ⟨front, back, hSplit, _⟩
  rw [hSplit]
  exact List.mem_append_right front List.mem_cons_self

theorem mem_of_templateOver?
    {own : List (String × TypeTemplate)}
    {name : String}
    {template : TypeTemplate}
    (hTemplate : templateOver? own name = some template) :
    (name, template) ∈ own ++ baseTemplates := by
  rw [List.mem_append]
  exact (Option.or_eq_some_iff.mp hTemplate).imp mem_of_lookup
    fun hCommon => mem_of_lookup hCommon.2

/- Every template of a built-in dialect is sound. -/
theorem IsBuiltIn.isSound
    (hDialect : dialect.IsBuiltIn)
    {name : String}
    {template : TypeTemplate}
    (hTemplate : dialect.template? name = some template) :
    template.IsSound := by
  cases hDialect with
  | standard dialectName =>
      have hAll :
          ∀ entry ∈ baseTemplates, entry.2.IsSound := by
        decide
      exact hAll _ (mem_of_lookup hTemplate)
  | sqlite =>
      have hAll :
          ∀ entry ∈ sqliteTemplates ++ baseTemplates,
            entry.2.IsSound := by
        decide
      exact hAll _ (mem_of_templateOver? hTemplate)
  | postgres =>
      have hAll :
          ∀ entry ∈ postgresTemplates ++ baseTemplates,
            entry.2.IsSound := by
        decide
      exact hAll _ (mem_of_templateOver? hTemplate)
  | mySql charset =>
      have hAll :
          ∀ entry ∈ mySqlTemplates ++ baseTemplates,
            entry.2.IsSound := by
        decide
      exact hAll _ (mem_of_templateOver? hTemplate)

/- The names of integer types. -/
def integerNames : List String :=
  [FieldType.smallIntName, FieldType.intName,
    FieldType.bigIntName]

/- Every built-in dialect knows the integer types. -/
theorem IsBuiltIn.isSome_template?
    (hDialect : dialect.IsBuiltIn) :
    ∀ name ∈ integerNames,
      (dialect.template? name).isSome = true := by
  cases hDialect with
  | standard dialectName =>
      change ∀ name ∈ integerNames,
        (baseTemplate? name).isSome = true
      decide
  | sqlite => decide
  | postgres => decide
  | mySql charset =>
      change ∀ name ∈ integerNames,
        (templateOver? mySqlTemplates name).isSome = true
      decide

end Dialect

end Relmap

------------------------------------------------------------
-- Custom Types
------------------------------------------------------------

namespace Relmap

namespace Dialect

variable {dialect : Dialect}
variable {name : String}

/- A type that is not known is an integer if its base is. -/
theorem IsBuiltIn.isA_extend
    (hDialect : dialect.IsBuiltIn)
    (hName : dialect.template? name = none)
    (base : FieldType) :
    ∀ integer ∈ integerNames,
      (FieldType.extend name base).isA integer =
        base.isA integer := by
  intro integer hInteger
  have hNe : name ≠ integer := by
    rintro rfl
    have hKnown := hDialect.isSome_template? name hInteger
    rw [hName] at hKnown
    cases hKnown
  rw [FieldType.isA_extend, decide_eq_false hNe,
    Bool.false_or]

/- Its key is generated as that of its base is. -/
theorem IsBuiltIn.keyColumn?_extend
    (hDialect : dialect.IsBuiltIn)
    (hName : dialect.template? name = none)
    (column : String)
    (base : FieldType)
    (comment : String) :
    dialect.keyColumn? column (.extend name base) comment =
      dialect.keyColumn? column base comment := by
  have hIsA := hDialect.isA_extend hName base
  simp only [integerNames, List.forall_mem_cons,
    List.not_mem_nil, false_implies, implies_true,
    and_true] at hIsA
  rcases hIsA with ⟨hSmall, hInt, hBig⟩
  have hInteger :
      (FieldType.extend name base).isInteger =
        base.isInteger := by
    unfold FieldType.isInteger
    rw [hSmall, hInt, hBig]
  cases hDialect with
  | standard dialectName => rfl
  | sqlite =>
      change sqliteKeyColumn? column _ comment =
        sqliteKeyColumn? column base comment
      rw [sqliteKeyColumn?, sqliteKeyColumn?, hInteger]
  | postgres =>
      change postgresKeyColumn? column _ comment =
        postgresKeyColumn? column base comment
      unfold postgresKeyColumn? serialType?
      rw [hSmall, hInt, hBig]
  | mySql charset =>
      have hColumnType :
          (mySqlBase.columnType
              (.extend name base)).toOption =
            (mySqlBase.columnType base).toOption :=
        toOption_columnType_extend hName base
      change mySqlKeyColumn? column _ comment =
        mySqlKeyColumn? column base comment
      unfold mySqlKeyColumn?
      rw [hInteger, hColumnType]

end Dialect

end Relmap

------------------------------------------------------------
-- Inherited Storage
------------------------------------------------------------

namespace Relmap

namespace Dialect

variable {dialect : Dialect}
variable {type : FieldType}

/-
  What a column type is made of: the template that the type
  inherits, and what it inherits of the parameters that the
  template asks for.
-/
structure IsMadeOf
    (dialect : Dialect)
    (type : FieldType)
    (template : TypeTemplate)
    (length : UInt32)
    (precision : Precision) : Prop where
  nearest : type.Inherits dialect.ownTemplate? template
  nearestLength :
    TemplatePart.maxLength ∈ template →
      type.Inherits FieldType.maxLength length
  nearestPrecision :
    TemplatePart.maxDigits ∈ template ∨
        TemplatePart.decimalPlaces ∈ template →
      type.Inherits FieldType.decimal precision

/- What a type inherits is a template of the dialect. -/
theorem IsBuiltIn.isSound_of_inherits
    (hDialect : dialect.IsBuiltIn)
    {template : TypeTemplate}
    (hTemplate : type.Inherits dialect.ownTemplate? template) :
    template.IsSound := by
  rcases hTemplate.exists_mem with ⟨ancestor, _, hOwn⟩
  exact hDialect.isSound hOwn

/- A template that asks for half a precision asks for it. -/
theorem asksPrecision_iff
    {template : TypeTemplate}
    (hSound : template.IsSound) :
    TemplatePart.maxDigits ∈ template ∨
        TemplatePart.decimalPlaces ∈ template ↔
      TemplatePart.maxDigits ∈ template := by
  rw [← hSound.2, or_self]

/- A column type is what it is made of, filled in. -/
theorem IsBuiltIn.exists_isMadeOf
    (hDialect : dialect.IsBuiltIn)
    {text : String}
    (hText : dialect.columnType type = .ok text) :
    ∃ template length precision,
      dialect.IsMadeOf type template length precision ∧
        template.fill length precision = text := by
  rcases columnType_eq_ok_iff.mp hText with
    ⟨template, length, precision, hTemplate, hLength,
      hPrecision, hFill⟩
  have hSound := hDialect.isSound_of_inherits hTemplate
  rw [lengthFor_eq_ok_iff] at hLength
  rw [precisionFor_eq_ok_iff] at hPrecision
  refine ⟨template, length, precision,
    ⟨hTemplate, ?_, ?_⟩, hFill⟩
  · intro hAsked
    rwa [if_pos hAsked] at hLength
  · rw [asksPrecision_iff hSound]
    intro hAsked
    rwa [if_pos hAsked] at hPrecision

/- Custom types that are not known are stored as their root. -/
theorem IsBuiltIn.stores_extendedBy
    (hDialect : dialect.IsBuiltIn)
    {names : List String}
    (hNames :
      ∀ name ∈ names, dialect.template? name = none)
    (type : FieldType) :
    (dialect.columnType (type.extendedBy names)).toOption =
        (dialect.columnType type).toOption ∧
      ∀ column comment,
        dialect.keyColumn? column (type.extendedBy names)
            comment =
          dialect.keyColumn? column type comment := by
  induction names with
  | nil => exact ⟨rfl, fun _ _ => rfl⟩
  | cons name names ih =>
      rw [List.forall_mem_cons] at hNames
      rcases ih hNames.2 with ⟨hColumnType, hKey⟩
      constructor
      · exact
          (toOption_columnType_extend hNames.1 _).trans
            hColumnType
      · intro column comment
        exact
          (hDialect.keyColumn?_extend hNames.1 column _
            comment).trans (hKey column comment)

/-
  There is a column type exactly if some name in the lineage
  has a template, and all that the nearest template asks for
  is set somewhere in the lineage. It is the text of that
  template with its parameters replaced by the nearest
  settings, and has no brace. Types that extend it under
  names that are not known have the same column type, or
  none either, and the same generated key.
-/
theorem columnType_inherited
    (hDialect : dialect.IsBuiltIn)
    (type : FieldType) :
    ((∃ text, dialect.columnType type = .ok text) ↔
        ∃ template,
          type.Inherits dialect.ownTemplate? template ∧
            (TemplatePart.maxLength ∈ template →
              type.Sets FieldType.maxLength) ∧
            (TemplatePart.maxDigits ∈ template ∨
                TemplatePart.decimalPlaces ∈ template →
              type.Sets FieldType.decimal)) ∧
      (∀ text, dialect.columnType type = .ok text →
        (∃ template length precision,
          dialect.IsMadeOf type template length precision ∧
            text =
              TypeTemplate.fillPattern length precision
                template.pattern) ∧
          '\x7b' ∉ text.toList ∧ '\x7d' ∉ text.toList) ∧
      ∀ names : List String,
        (∀ name ∈ names, dialect.template? name = none) →
          (dialect.columnType
              (type.extendedBy names)).toOption =
            (dialect.columnType type).toOption ∧
          ∀ column comment,
            dialect.keyColumn? column
                (type.extendedBy names) comment =
              dialect.keyColumn? column type comment := by
  refine ⟨?_, ?_, ?_⟩
  · rw [exists_columnType_iff]
    apply exists_congr
    intro template
    apply and_congr_right
    intro hTemplate
    rw [asksPrecision_iff
      (hDialect.isSound_of_inherits hTemplate)]
  · intro text hText
    rcases hDialect.exists_isMadeOf hText with
      ⟨template, length, precision, hMade, rfl⟩
    have hPlain :=
      (hDialect.isSound_of_inherits hMade.nearest).1
    refine ⟨⟨template, length, precision, hMade, ?_⟩, ?_⟩
    · exact
        (TypeTemplate.fillPattern_pattern length precision
          hPlain).symm
    · exact
        TypeTemplate.not_mem_fill length precision hPlain
  · intro names hNames
    exact hDialect.stores_extendedBy hNames type

/- A text whose length is set below the name that is known. -/
private def slugType : FieldType :=
  (FieldType.extend "Slug"
    (.named FieldType.charName)).withMaxLength 40

theorem columnType_inherited_slug :
    (mySql defaultCharset).IsBuiltIn ∧
      (∀ name ∈ ["Handle", "Nickname"],
        (mySql defaultCharset).template? name = none) ∧
      ((mySql defaultCharset).columnType
          (slugType.extendedBy
            ["Handle", "Nickname"])).toOption =
        some "VARCHAR(40)" := by
  have hDialect : (mySql defaultCharset).IsBuiltIn :=
    .mySql defaultCharset
  have hNames :
      ∀ name ∈ ["Handle", "Nickname"],
        (mySql defaultCharset).template? name = none := by
    decide +kernel
  have hSlug :
      ((mySql defaultCharset).columnType
          slugType).toOption = some "VARCHAR(40)" := by
    decide +kernel
  rcases columnType_inherited hDialect slugType with
    ⟨_, _, hExtended⟩
  exact ⟨hDialect, hNames,
    (hExtended _ hNames).1.trans hSlug⟩

end Dialect

end Relmap
