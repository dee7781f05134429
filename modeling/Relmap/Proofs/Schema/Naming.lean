import Relmap.Schema.Naming

/-
  Generated names fit, and tell their sources apart as far as
  a digest does.

  What a name is generated from is hashed as one text, with a
  semicolon between its parts. If no part holds a semicolon
  then different sources have different texts, so two of them
  have one name only if the digests of two texts begin alike.
  With semicolons in the parts two sources can have the same
  text, and then they have the same name under any digest.

  Main declarations:
    * `Digest.IsHexText`
    * `Digest.isHexText_sha256Hex`
    * `Naming.joined_injective`
    * `Naming.Collide`
    * `Naming.TellsApart`
    * `Naming.Confuses`
    * `Naming.fits_and_tellsApart`
-/

------------------------------------------------------------
-- Digests
------------------------------------------------------------

namespace Relmap

namespace Hex

/- A digit of a number below sixteen. -/
def IsDigit (c : Char) : Prop :=
  ∃ n, n < 16 ∧ c = digit n

theorem length_digits (bytes : List UInt8) :
    (digits bytes).length = 2 * bytes.length := by
  induction bytes with
  | nil => rfl
  | cons byte rest ih =>
      rw [digits, List.length_cons, List.length_cons,
        List.length_cons, ih]
      omega

theorem isDigit_of_mem_digits
    {bytes : List UInt8}
    {c : Char}
    (hMember : c ∈ digits bytes) :
    IsDigit c := by
  induction bytes with
  | nil => cases hMember
  | cons byte rest ih =>
      have hByte : byte.toNat < 256 := byte.toNat_lt
      rw [digits, List.mem_cons, List.mem_cons] at hMember
      rcases hMember with rfl | rfl | hRest
      · exact ⟨byte.toNat / 16, by omega, rfl⟩
      · exact ⟨byte.toNat % 16, by omega, rfl⟩
      · exact ih hRest

end Hex

namespace Digest

/- The text consists of sixty-four hexadecimal digits. -/
structure IsHexText (text : String) : Prop where
  length : text.length = 64
  digits : ∀ c ∈ text.toList, Hex.IsDigit c

theorem length_wordBytes (w : UInt32) :
    (wordBytes w).length = 4 := by
  rw [wordBytes, bigEndian, List.length_map,
    List.length_range]

theorem length_sha256 (message : List UInt8) :
    (sha256 message).length = 32 := by
  simp [sha256, length_wordBytes]

/- The digest in use is such a text. -/
theorem isHexText_sha256Hex (text : String) :
    IsHexText (sha256Hex text) := by
  constructor
  · rw [sha256Hex, Hex.ofBytes, String.length_ofList,
      Hex.length_digits, length_sha256]
  · intro c hMember
    rw [sha256Hex, Hex.ofBytes, String.toList_ofList]
      at hMember
    exact Hex.isDigit_of_mem_digits hMember

end Digest

end Relmap

------------------------------------------------------------
-- Hashed Texts
------------------------------------------------------------

namespace Relmap

namespace Naming

/- The name does not hold what joined names are parted by. -/
def IsPlain (name : String) : Prop :=
  ';' ∉ name.toList

instance (name : String) : Decidable (IsPlain name) :=
  inferInstanceAs (Decidable (¬ ';' ∈ name.toList))

variable {parts others : List String}

/- Plain names are read back from the text they make. -/
theorem splitOn_joined
    (hParts : parts ≠ [])
    (hPlain : ∀ part ∈ parts, IsPlain part) :
    (joined parts).toList.splitOn ';' =
      parts.map String.toList := by
  rw [joined, String.toList_intercalate]
  apply List.splitOn_intercalate
  · intro letters hMember
    rcases List.mem_map.mp hMember with ⟨part, hPart, rfl⟩
    exact hPlain part hPart
  · simpa using hParts

/- So different plain names make different texts. -/
theorem joined_injective
    (hParts : parts ≠ [])
    (hOthers : others ≠ [])
    (hPlain : ∀ part ∈ parts, IsPlain part)
    (hOtherPlain : ∀ part ∈ others, IsPlain part)
    (hSame : joined parts = joined others) :
    parts = others := by
  have hSplit := splitOn_joined hParts hPlain
  rw [hSame, splitOn_joined hOthers hOtherPlain] at hSplit
  have hLetters (first second : String) :
      first.toList = second.toList → first = second :=
    String.toList_injective
  exact (List.map_inj_right hLetters).mp hSplit.symm

end Naming

end Relmap

------------------------------------------------------------
-- Lengths
------------------------------------------------------------

namespace Relmap

namespace Naming

theorem length_truncate
    (count : Nat)
    (text : String) :
    (truncate count text).length =
      min count text.length := by
  rw [truncate, String.length_ofList, List.length_take,
    String.length_toList]

theorem length_indexNameWith_le
    (digest : String → String)
    {kind : String}
    (hKind : kind.length ≤ 3)
    (table : String)
    (fields : List String) :
    (indexNameWith digest kind table fields).length ≤
      maxLength := by
  have hMark : "_".length = 1 := rfl
  simp only [indexNameWith, shortHash, String.length_append,
    length_truncate, hMark, maxLength]
  omega

theorem length_keyNameWith_le
    (digest : String → String)
    (fromTable : String)
    (fromField : String)
    (toTable : String)
    (toField : String) :
    (keyNameWith digest fromTable fromField toTable
      toField).length ≤ maxLength := by
  have hMark : "_".length = 1 := rfl
  have hKind : "fk_".length = 3 := rfl
  simp only [keyNameWith, shortHash, String.length_append,
    length_truncate, hMark, hKind, maxLength]
  omega

end Naming

end Relmap

------------------------------------------------------------
-- Sources Of Names
------------------------------------------------------------

namespace Relmap

namespace Naming

/- What the name of an index is generated from. -/
structure IndexSource where
  table : String
  fields : List String
  deriving DecidableEq

namespace IndexSource

def parts (source : IndexSource) : List String :=
  source.table :: source.fields

def name
    (digest : String → String)
    (kind : String)
    (source : IndexSource) : String :=
  indexNameWith digest kind source.table source.fields

end IndexSource

/- What the name of a foreign key is generated from. -/
structure KeySource where
  fromTable : String
  fromField : String
  toTable : String
  toField : String
  deriving DecidableEq

namespace KeySource

def parts (source : KeySource) : List String :=
  [source.fromTable, source.fromField, source.toTable,
    source.toField]

def name
    (digest : String → String)
    (source : KeySource) : String :=
  keyNameWith digest source.fromTable source.fromField
    source.toTable source.toField

end KeySource

/- The digests of two different texts begin alike. -/
def Collide
    (digest : String → String)
    (length : Nat)
    (text : String)
    (other : String) : Prop :=
  text ≠ other ∧
    truncate length (digest text) =
      truncate length (digest other)

variable {Source : Type}

/-
  Different sources with plain parts have the same name only
  if the digests of what is hashed for them begin alike.
-/
def TellsApart
    (digest : String → String)
    (length : Nat)
    (parts : Source → List String)
    (name : Source → String) : Prop :=
  ∀ source other,
    (∀ part ∈ parts source, IsPlain part) →
    (∀ part ∈ parts other, IsPlain part) →
    source ≠ other →
    name source = name other →
      Collide digest length
        (joined (parts source)) (joined (parts other))

/-
  There are different sources, with parts that are not plain,
  that have the same name under any digest.
-/
def Confuses
    (parts : Source → List String)
    (name : (String → String) → Source → String) : Prop :=
  ∃ source other,
    source ≠ other ∧
      (∃ part ∈ parts source, ¬ IsPlain part) ∧
      (∃ part ∈ parts other, ¬ IsPlain part) ∧
      ∀ digest, name digest source = name digest other

end Naming

end Relmap

------------------------------------------------------------
-- Names And Their Sources
------------------------------------------------------------

namespace Relmap

namespace Naming

variable {Source : Type}
variable {digest : String → String}
variable {length : Nat}
variable {parts : Source → List String}
variable {name shown : Source → String}

/-
  Names that end in a short hash of their parts tell their
  sources apart. Since all hashes have one length, that end
  can be told from a name, whatever is shown in front of it.
-/
theorem tellsApart_of_append
    (hDigest : ∀ text, Digest.IsHexText (digest text))
    (hLength : length ≤ 64)
    (hParts : Function.Injective parts)
    (hSome : ∀ source, parts source ≠ [])
    (hName : ∀ source,
      name source =
        shown source ++
          shortHash digest (parts source) length) :
    TellsApart digest length parts name := by
  intro source other hPlain hOtherPlain hNe hSame
  have hHash (text : String) :
      (truncate length (digest text)).length = length := by
    rw [length_truncate, (hDigest text).length]
    exact Nat.min_eq_left hLength
  constructor
  · intro hText
    apply hNe
    apply hParts
    exact joined_injective (hSome source) (hSome other)
      hPlain hOtherPlain hText
  · rw [hName source, hName other, ← String.toList_inj,
      String.toList_append, String.toList_append] at hSame
    apply String.toList_inj.mp
    apply List.append_inj_right' hSame
    rw [String.length_toList, String.length_toList, shortHash,
      shortHash, hHash, hHash]

theorem tellsApart_index
    (hDigest : ∀ text, Digest.IsHexText (digest text))
    (kind : String) :
    TellsApart digest 6 IndexSource.parts
      (IndexSource.name digest kind) := by
  apply tellsApart_of_append hDigest (by decide)
  · rintro ⟨table, fields⟩ ⟨otherTable, otherFields⟩ hParts
    cases hParts
    rfl
  · intro source
    exact List.cons_ne_nil _ _
  · intro source
    rfl

theorem tellsApart_key
    (hDigest : ∀ text, Digest.IsHexText (digest text)) :
    TellsApart digest 8 KeySource.parts
      (KeySource.name digest) := by
  apply tellsApart_of_append hDigest (by decide)
  · rintro ⟨_, _, _, _⟩ ⟨_, _, _, _⟩ hParts
    cases hParts
    rfl
  · intro source
    exact List.cons_ne_nil _ _
  · intro source
    rfl

/- Where a field ends is lost if it holds a semicolon. -/
theorem confuses_index (kind : String) :
    Confuses IndexSource.parts
      (fun digest => IndexSource.name digest kind) := by
  refine ⟨⟨"event", ["name", "kind;year", "place"]⟩,
    ⟨"event", ["name", "kind", "year;place"]⟩,
    by decide, by decide, by decide, ?_⟩
  intro digest
  have hJoined :
      joined ["event", "name", "kind;year", "place"] =
        joined ["event", "name", "kind", "year;place"] := by
    decide +kernel
  simp only [IndexSource.name, indexNameWith, shortHash,
    hJoined, List.headD_cons]

/- So is where a column ends and its table begins. -/
theorem confuses_key :
    Confuses KeySource.parts KeySource.name := by
  refine ⟨⟨"book", "shelf;room", "room", "id"⟩,
    ⟨"book", "shelf", "room", "room;id"⟩,
    by decide, by decide, by decide, ?_⟩
  intro digest
  have hJoined :
      joined ["book", "shelf;room", "room", "id"] =
        joined ["book", "shelf", "room", "room;id"] := by
    decide +kernel
  simp only [KeySource.name, keyNameWith, shortHash, hJoined]

/-
  Generated names are never too long. Names of plain parts
  are the same only if digests of different texts begin
  alike, and names of other parts can be the same under any
  digest.
-/
theorem fits_and_tellsApart
    {digest : String → String}
    (hDigest : ∀ text, Digest.IsHexText (digest text)) :
    (∀ kind source,
      kind.length ≤ 3 →
        (IndexSource.name digest kind source).length ≤
          maxLength) ∧
    (∀ source,
      (KeySource.name digest source).length ≤ maxLength) ∧
    (∀ kind,
      TellsApart digest 6 IndexSource.parts
        (IndexSource.name digest kind)) ∧
    TellsApart digest 8 KeySource.parts
      (KeySource.name digest) ∧
    (∀ kind,
      Confuses IndexSource.parts
        (fun digest => IndexSource.name digest kind)) ∧
    Confuses KeySource.parts KeySource.name := by
  refine ⟨?_, ?_, tellsApart_index hDigest,
    tellsApart_key hDigest, confuses_index, confuses_key⟩
  · intro kind source hKind
    exact length_indexNameWith_le digest hKind _ _
  · intro source
    exact length_keyNameWith_le digest _ _ _ _

/- Sources that have the same name under SHA-256. -/
theorem fits_and_tellsApart_sha256 :
    (indexName "idx" "event" ["name", "f2676"] =
        indexName "idx" "event" ["name", "f4021"] ∧
      Collide Digest.sha256Hex 6
        "event;name;f2676" "event;name;f4021" ∧
      (indexName "idx" "event" ["name", "f2676"]).length ≤
        maxLength) ∧
    keyName "book" "f45" "author" "k754" =
        keyName "book" "f68" "author" "k895" ∧
      Collide Digest.sha256Hex 8
        "book;f45;author;k754" "book;f68;author;k895" ∧
      (keyName "book" "f45" "author" "k754").length ≤
        maxLength := by
  rcases fits_and_tellsApart Digest.isHexText_sha256Hex with
    ⟨hIndexFits, hKeyFits, hIndex, hKey, _, _⟩
  have hIndexSame :
      indexName "idx" "event" ["name", "f2676"] =
        indexName "idx" "event" ["name", "f4021"] := by
    decide +kernel
  have hKeySame :
      keyName "book" "f45" "author" "k754" =
        keyName "book" "f68" "author" "k895" := by
    decide +kernel
  have hIndexText :=
    hIndex "idx" ⟨"event", ["name", "f2676"]⟩
      ⟨"event", ["name", "f4021"]⟩ (by decide) (by decide)
      (by decide) hIndexSame
  have hKeyText :=
    hKey ⟨"book", "f45", "author", "k754"⟩
      ⟨"book", "f68", "author", "k895"⟩ (by decide)
      (by decide) (by decide) hKeySame
  exact ⟨⟨hIndexSame, hIndexText,
      hIndexFits "idx" ⟨"event", ["name", "f2676"]⟩
        (by decide)⟩,
    hKeySame, hKeyText,
    hKeyFits ⟨"book", "f45", "author", "k754"⟩⟩

end Naming

end Relmap
