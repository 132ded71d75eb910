import Mathlib
import ModuleBridge.Resource
import ModuleBridge.Proofs.Percent
import ModuleBridge.Proofs.Queries

/-!
# Module ids with percent escapes

An id can be written with percent escapes: in its path, and in the values of its query.  Escapes
are decoded before the id is divided, so that a separator which an escape stands for divides it,
too.  What was written is read back exactly where the path holds no question mark, and no value
a question mark or an ampersand.
-/

namespace ModuleBridge.Text

/-! ## Writing escapes -/

/-- The upper-case hexadecimal digit of a value below sixteen. -/
def upperDigit (value : Nat) : Char :=
  Char.ofNat (if value < 10 then '0'.toNat + value else 'A'.toNat + (value - 10))

/-- The bytes of letters, digits and four marks, which are never escaped. -/
def isUnreserved (byte : UInt8) : Bool :=
  let letter := Char.ofNat byte.toNat
  letter.isAlphanum || ['-', '.', '_', '~'].contains letter

/-- The bytes that stand for themselves in a path. -/
def isPathByte (byte : UInt8) : Bool :=
  isUnreserved byte || Char.ofNat byte.toNat == '/'

/-- A byte as it is written: as its character, or as an escape. -/
def escapeByte (kept : UInt8 → Bool) (byte : UInt8) : List Char :=
  if kept byte then [Char.ofNat byte.toNat]
  else ['%', upperDigit (byte.toNat / 16), upperDigit (byte.toNat % 16)]

/-- A text with escapes for all its bytes but those that are kept. -/
def escape (kept : UInt8 → Bool) (text : String) : List Char :=
  (bytes text).flatMap (escapeByte kept)

/-! ## Reading escapes -/

/-- Letters are decoded to other letters, whatever bytes follow. -/
def Decodes (written letters : List Char) : Prop :=
  ∀ rest, percentDecodeBytes (written.flatMap String.utf8EncodeChar ++ rest) =
    letters.flatMap String.utf8EncodeChar ++ percentDecodeBytes rest

variable {written others letters further : List Char} {kept : UInt8 → Bool}

theorem Decodes.percentDecode (decodes : Decodes written letters) :
    percentDecode (String.ofList written) = String.ofList letters := by
  have decoded := decodes []
  rw [percentDecodeBytes, List.append_nil, List.append_nil] at decoded
  rw [Text.percentDecode, bytes, String.toList_ofList, decoded]
  have back := decodeLossy_bytes (String.ofList letters)
  rwa [bytes, String.toList_ofList] at back

theorem Decodes.append (first : Decodes written letters) (second : Decodes others further) :
    Decodes (written ++ others) (letters ++ further) := by
  intro rest
  rw [List.flatMap_append, List.flatMap_append, List.append_assoc, first, second,
    List.append_assoc]

theorem decodes_of_plain (plain : '%' ∉ letters) : Decodes letters letters := by
  intro rest
  apply percentDecodeBytes_append
  intro byte member
  rcases List.mem_flatMap.1 member with ⟨letter, listed, here⟩
  exact utf8EncodeChar_plain (fun same => plain (same ▸ listed)) byte here

/-- What decodes piece by piece decodes when it is joined. -/
theorem decodes_intercalate
    {separator : List Char} (plain : '%' ∉ separator)
    {pieces readings : List (List Char)} (decode : List.Forall₂ Decodes pieces readings) :
    Decodes (separator.intercalate pieces) (separator.intercalate readings) := by
  induction decode with
  | nil => exact fun rest => rfl
  | cons first later inductionHypothesis =>
      cases later with
      | nil =>
          rw [List.intercalate_singleton, List.intercalate_singleton]
          exact first
      | cons second more =>
          rw [List.intercalate_cons_cons, List.intercalate_cons_cons]
          exact (first.append (decodes_of_plain plain)).append inductionHypothesis

theorem forall_byte
    {holds : UInt8 → Prop} (each : ∀ number : Fin 256, holds (UInt8.ofNat number.val))
    (byte : UInt8) : holds byte := by
  have here := each ⟨byte.toNat, byte.toNat_lt⟩
  rwa [UInt8.ofNat_toNat] at here

theorem utf8EncodeChar_ascii :
    ∀ byte : UInt8, byte.toNat < 0x80 →
      String.utf8EncodeChar (Char.ofNat byte.toNat) = [byte] :=
  forall_byte (by decide +kernel)

theorem utf8EncodeChar_upperDigit :
    ∀ value : Fin 16, String.utf8EncodeChar (upperDigit value) =
      [UInt8.ofNat (upperDigit value).toNat] := by
  decide

theorem escapedByte?_upperDigit :
    ∀ byte : UInt8,
      escapedByte? (UInt8.ofNat (upperDigit (byte.toNat / 16)).toNat)
          (UInt8.ofNat (upperDigit (byte.toNat % 16)).toNat) = some byte :=
  forall_byte (by decide +kernel)

theorem percentDecodeBytes_escape (byte : UInt8) (rest : List UInt8) :
    percentDecodeBytes
        (['%', upperDigit (byte.toNat / 16), upperDigit (byte.toNat % 16)].flatMap
            String.utf8EncodeChar ++ rest) =
      byte :: percentDecodeBytes rest := by
  have small : byte.toNat < 256 := byte.toNat_lt
  have upper := utf8EncodeChar_upperDigit ⟨byte.toNat / 16, by omega⟩
  have lower := utf8EncodeChar_upperDigit ⟨byte.toNat % 16, by omega⟩
  dsimp only at upper lower
  rw [List.flatMap_cons, List.flatMap_cons, List.flatMap_cons, List.flatMap_nil, upper, lower]
  change percentDecodeBytes (0x25 :: _ :: _ :: rest) = _
  rw [percentDecodeBytes, escapedByte?_upperDigit]

theorem percentDecodeBytes_escapeByte
    (spared : ∀ byte, kept byte = true → byte.toNat < 0x80 ∧ byte ≠ 0x25)
    (byte : UInt8) (rest : List UInt8) :
    percentDecodeBytes ((escapeByte kept byte).flatMap String.utf8EncodeChar ++ rest) =
      byte :: percentDecodeBytes rest := by
  unfold escapeByte
  split
  · rename_i keeps
    rcases spared byte keeps with ⟨small, other⟩
    rw [List.flatMap_cons, List.flatMap_nil, List.append_nil, utf8EncodeChar_ascii byte small]
    refine percentDecodeBytes_append ?_ rest
    intro only member
    rw [List.mem_singleton.1 member]
    exact other
  · exact percentDecodeBytes_escape byte rest

/-- Escapes are read back. -/
theorem decodes_escape
    (spared : ∀ byte, kept byte = true → byte.toNat < 0x80 ∧ byte ≠ 0x25) (text : String) :
    Decodes (escape kept text) text.toList := by
  have reads : ∀ (sequence rest : List UInt8),
      percentDecodeBytes
          ((sequence.flatMap (escapeByte kept)).flatMap String.utf8EncodeChar ++ rest) =
        sequence ++ percentDecodeBytes rest := by
    intro sequence rest
    induction sequence with
    | nil => rfl
    | cons byte later inductionHypothesis =>
        rw [List.flatMap_cons, List.flatMap_append, List.append_assoc,
          percentDecodeBytes_escapeByte spared, inductionHypothesis]
        rfl
  exact reads (bytes text)

theorem spared_of_pathByte :
    ∀ byte : UInt8, isPathByte byte = true → byte.toNat < 0x80 ∧ byte ≠ 0x25 :=
  forall_byte (by decide +kernel)

end ModuleBridge.Text

namespace ModuleBridge.Resource

variable {settings : ResolveSettings} {kept : UInt8 → Bool} {path : Path}
  {pairs : List (String × String)}

/-- A key, and its value with escapes. -/
def escapedPair (kept : UInt8 → Bool) (pair : String × String) : List Char :=
  pair.1.toList ++ '=' :: Text.escape kept pair.2

/-- The id of a path and of pairs of a query, with escapes in the path and in the values. -/
def escapedId (kept : UInt8 → Bool) (path : Path) (pairs : List (String × String)) : String :=
  String.ofList (Text.escape Text.isPathByte path.text ++
    '?' :: ['&'].intercalate (pairs.map (escapedPair kept)))

theorem decodes_escapedPair
    (keptInPath : ∀ byte, kept byte = true → Text.isPathByte byte = true)
    {pair : String × String} (plain : Query.PlainKey pair.1) :
    Text.Decodes (escapedPair kept pair) (Query.plainPair pair) := by
  have unescaped : '%' ∉ pair.1.toList := fun member => plain.2 '%' member List.mem_cons_self
  have mark : Text.Decodes ['='] ['='] := Text.decodes_of_plain (by decide)
  have value : Text.Decodes (Text.escape kept pair.2) pair.2.toList :=
    Text.decodes_escape (fun byte keeps => Text.spared_of_pathByte byte (keptInPath byte keeps)) _
  exact (Text.decodes_of_plain unescaped).append (mark.append value)

/-- All escapes are decoded, in the path and in the values alike. -/
theorem percentDecode_escapedId
    (keptInPath : ∀ byte, kept byte = true → Text.isPathByte byte = true)
    (plain : ∀ pair ∈ pairs, Query.PlainKey pair.1) :
    Text.percentDecode (escapedId kept path pairs) =
      String.ofList (path.text.toList ++ '?' :: ['&'].intercalate (pairs.map Query.plainPair)) := by
  have front : Text.Decodes (Text.escape Text.isPathByte path.text) path.text.toList :=
    Text.decodes_escape Text.spared_of_pathByte _
  have mark : Text.Decodes ['?'] ['?'] := Text.decodes_of_plain (by decide)
  have each : List.Forall₂ Text.Decodes (pairs.map (escapedPair kept))
      (pairs.map Query.plainPair) := by
    rw [List.forall₂_map_left_iff, List.forall₂_map_right_iff, List.forall₂_same]
    exact fun pair member => decodes_escapedPair keptInPath (plain pair member)
  have query : Text.Decodes (['&'].intercalate (pairs.map (escapedPair kept)))
      (['&'].intercalate (pairs.map Query.plainPair)) :=
    Text.decodes_intercalate (by decide) each
  exact (front.append (mark.append query)).percentDecode

theorem stripVirtual_of_absolute
    {text : List Char} (absolute : text.head? = some '/') :
    stripVirtual .standard (String.ofList text) = String.ofList text := by
  rcases List.head?_eq_some_iff.1 absolute with ⟨rest, rfl⟩
  rw [stripVirtual, String.toList_ofList]
  rfl

theorem splitQuery_append {front : List Char} (unmarked : '?' ∉ front) (raw : List Char) :
    splitQuery (String.ofList (front ++ '?' :: raw)) =
      (String.ofList front, String.ofList raw) := by
  have cut : Text.cut? '?' (front ++ '?' :: raw) = some (front, raw) :=
    Text.cut?_eq_some_iff.2 ⟨rfl, unmarked⟩
  rw [splitQuery, String.toList_ofList, cut]

theorem notMem_splitQuery (text : String) : '?' ∉ (splitQuery text).1.toList := by
  unfold splitQuery
  split
  · rename_i front raw cut
    dsimp only
    rw [String.toList_ofList]
    exact (Text.cut?_eq_some_iff.1 cut).2
  · rename_i uncut
    exact Text.cut?_eq_none_iff.1 uncut

theorem stripVariant?_eq_some
    {text base : String} (stripped : stripVariant? settings text = some base) :
    text.toList = base.toList ++ settings.variantSuffix.toList := by
  unfold stripVariant? at stripped
  split at stripped
  · cases stripped
  · simp only [Option.bind_eq_bind, Option.bind_eq_some_iff, Text.dropTail?_eq_some_iff] at stripped
    rcases stripped with ⟨front, whole, extension, -, known⟩
    split at known
    · cases known
      rw [whole, String.toList_ofList]
    · cases known

/-- No path that is read from an id holds a question mark. -/
theorem notMem_path_parse (settings : ResolveSettings) (id : String) :
    '?' ∉ (parse settings id).path.text.toList := by
  have whole := notMem_splitQuery (stripVirtual settings (Text.percentDecode id))
  have cleaned : ∀ text : String, '?' ∉ text.toList → '?' ∉ (Path.clean ⟨text⟩).text.toList := by
    intro text absent member
    rcases Path.mem_clean member with here | same | same
    · exact absent here
    · cases same
    · cases same
  rw [parse]
  generalize splitQuery (stripVirtual settings (Text.percentDecode id)) = parts at whole
  rcases parts with ⟨front, raw⟩
  dsimp only
  split
  · rename_i base stripped
    have within := stripVariant?_eq_some stripped
    rw [within, List.mem_append, not_or] at whole
    exact cleaned base whole.1
  · exact cleaned front whole

theorem textsUndivided_settleFlag
    {query : Query} (undivided : Query.TextsUndivided query) (key : String) :
    Query.TextsUndivided (settleFlag query key) := by
  unfold settleFlag
  split
  · exact undivided.insert nofun
  · split
    · exact undivided.insert nofun
    · exact undivided

/-- No text that is read from an id holds a letter that divides queries. -/
theorem textsUndivided_query (settings : ResolveSettings) (id : String) :
    Query.TextsUndivided (parse settings id).query := by
  have settled : ∀ (keys : List String) (query : Query), Query.TextsUndivided query →
      Query.TextsUndivided (keys.foldl settleFlag query) := by
    intro keys
    induction keys with
    | nil => exact fun _ undivided => undivided
    | cons key rest inductionHypothesis =>
        exact fun query undivided =>
          inductionHypothesis _ (textsUndivided_settleFlag undivided key)
  rw [parse]
  generalize splitQuery (stripVirtual settings (Text.percentDecode id)) = parts
  rcases parts with ⟨front, raw⟩
  have flags := settled flagKeys _ (Query.textsUndivided_parse raw)
  dsimp only
  generalize flagKeys.foldl settleFlag (Query.parse raw) = query at flags
  cases stripVariant? settings front with
  | none => exact flags
  | some base =>
      dsimp only
      split
      · exact flags
      · exact flags.insert nofun

theorem settleFlag_of_absent {query : Query} {key : String} (absent : query.get? key = none) :
    settleFlag query key = query := by
  have unknown : ¬(key = "vue" ∧ query.contains key) := by
    rintro ⟨-, known⟩
    rw [Query.contains, absent] at known
    cases known
  rw [settleFlag, if_neg unknown, absent, if_neg nofun]

theorem foldl_settleFlag_of_absent
    {query : Query} {keys : List String} (absent : ∀ key ∈ keys, query.get? key = none) :
    keys.foldl settleFlag query = query := by
  induction keys with
  | nil => rfl
  | cons key rest inductionHypothesis =>
      rw [List.forall_mem_cons] at absent
      rw [List.foldl_cons, settleFlag_of_absent absent.1, inductionHypothesis absent.2]

theorem stripVariant?_of_unsuffixed
    {text : String} (unsuffixed : ¬settings.variantSuffix.toList <:+ text.toList) :
    stripVariant? settings text = none := by
  cases stripped : stripVariant? settings text with
  | none => rfl
  | some base => exact absurd ⟨base.toList, (stripVariant?_eq_some stripped).symm⟩ unsuffixed

/-- Where nothing that is written divides the id, all of it is read back. -/
theorem parse_escapedId
    (absolute : path.isAbsolute = true) (clean : path.clean = path)
    (unsuffixed : ¬".vue".toList <:+ path.text.toList)
    (keptInPath : ∀ byte, kept byte = true → Text.isPathByte byte = true)
    (distinct : (pairs.map Prod.fst).Nodup)
    (keys : ∀ pair ∈ pairs, Query.PlainKey pair.1 ∧ pair.1 ∉ flagKeys)
    (unmarked : '?' ∉ path.text.toList)
    (undivided : ∀ pair ∈ pairs, Query.Undivided pair.2.toList) :
    parse .standard (escapedId kept path pairs) =
      ⟨path, escapedId kept path pairs, ⟨pairs.map fun pair => (pair.1, .text pair.2)⟩⟩ := by
  have plain : ∀ pair ∈ pairs, Query.PlainKey pair.1 := fun pair member => (keys pair member).1
  have lead : (path.text.toList ++ '?' :: ['&'].intercalate (pairs.map Query.plainPair)).head? =
      some '/' := by
    rw [Path.isAbsolute, beq_iff_eq] at absolute
    rw [List.head?_append, absolute]
    rfl
  have query : Query.parse (String.ofList (['&'].intercalate (pairs.map Query.plainPair))) =
      ⟨pairs.map fun pair => (pair.1, .text pair.2)⟩ :=
    congrArg Query.mk (Query.entries_parse_pairs distinct plain undivided)
  have noFlags : ∀ key ∈ flagKeys,
      Query.get? ⟨pairs.map fun pair => (pair.1, .text pair.2)⟩ key = none := by
    intro key flag
    rw [Query.get?, Option.map_eq_none_iff, List.find?_eq_none]
    intro entry member same
    rcases List.mem_map.1 member with ⟨pair, listed, rfl⟩
    rw [beq_iff_eq] at same
    exact (keys pair listed).2 (same ▸ flag)
  have whole : stripVariant? .standard path.text = none :=
    stripVariant?_of_unsuffixed unsuffixed
  rw [parse, percentDecode_escapedId keptInPath plain, stripVirtual_of_absolute lead,
    splitQuery_append unmarked]
  dsimp only
  rw [query, foldl_settleFlag_of_absent noFlags, String.ofList_toList, whole]
  dsimp only
  rw [clean]

/--
The id of a clean absolute path without the variant ending, and of distinct keys that are no flags
with any values: it is read as this path and these pairs exactly where the path holds no question
mark, and no value a question mark or an ampersand.
-/
theorem escapedId_read_back_iff
    (absolute : path.isAbsolute = true) (clean : path.clean = path)
    (unsuffixed : ¬".vue".toList <:+ path.text.toList)
    (keptInPath : ∀ byte, kept byte = true → Text.isPathByte byte = true)
    (distinct : (pairs.map Prod.fst).Nodup)
    (keys : ∀ pair ∈ pairs, Query.PlainKey pair.1 ∧ pair.1 ∉ flagKeys) :
    (parse .standard (escapedId kept path pairs)).path = path ∧
        (parse .standard (escapedId kept path pairs)).query.entries =
          pairs.map (fun pair => (pair.1, .text pair.2)) ↔
      '?' ∉ path.text.toList ∧ ∀ pair ∈ pairs, '&' ∉ pair.2.toList ∧ '?' ∉ pair.2.toList := by
  constructor
  · rintro ⟨samePath, sameQuery⟩
    refine ⟨samePath ▸ notMem_path_parse .standard _, ?_⟩
    intro pair member
    have listed : (pair.1, QueryValue.text pair.2) ∈
        (parse .standard (escapedId kept path pairs)).query.entries := by
      rw [sameQuery]
      exact List.mem_map_of_mem member
    exact textsUndivided_query .standard _ _ listed pair.2 rfl
  · rintro ⟨unmarked, undivided⟩
    rw [parse_escapedId absolute clean unsuffixed keptInPath distinct keys unmarked undivided]
    exact ⟨rfl, rfl⟩

theorem escapedId_read_back_iff_percent :
    escapedId Text.isUnreserved ⟨"/src/My App.es"⟩ [("type", "embedAssets"), ("index", "a/b=%")] =
        "/src/My%20App.es?type=embedAssets&index=a%2Fb%3D%25" ∧
      (parse .standard "/src/My%20App.es?type=embedAssets&index=a%2Fb%3D%25").path =
        ⟨"/src/My App.es"⟩ ∧
      (parse .standard "/src/My%20App.es?type=embedAssets&index=a%2Fb%3D%25").query.entries =
        [("type", .text "embedAssets"), ("index", .text "a/b=%")] := by
  have written :
      escapedId Text.isUnreserved ⟨"/src/My App.es"⟩
          [("type", "embedAssets"), ("index", "a/b=%")] =
        "/src/My%20App.es?type=embedAssets&index=a%2Fb%3D%25" := by
    decide +kernel
  have keptInPath : ∀ byte, Text.isUnreserved byte = true → Text.isPathByte byte = true := by
    intro byte keeps
    rw [Text.isPathByte, keeps, Bool.true_or]
  have clean : Path.clean ⟨"/src/My App.es"⟩ = ⟨"/src/My App.es"⟩ := by cbv
  have keys : ∀ pair ∈ [("type", "embedAssets"), ("index", "a/b=%")],
      Query.PlainKey pair.1 ∧ pair.1 ∉ flagKeys := by
    decide
  have undivided : ∀ pair ∈ [("type", "embedAssets"), ("index", "a/b=%")],
      '&' ∉ pair.2.toList ∧ '?' ∉ pair.2.toList := by
    decide
  have read :=
    (escapedId_read_back_iff rfl clean (by decide) keptInPath (by decide) keys).2
      ⟨by decide, undivided⟩
  rw [written] at read
  exact ⟨written, read⟩

/-- An ampersand that an escape stands for divides the value it is in. -/
theorem escaped_ampersand_divides :
    (Path.isAbsolute ⟨"/src/App.es"⟩ = true ∧ Path.clean ⟨"/src/App.es"⟩ = ⟨"/src/App.es"⟩ ∧
        ¬".vue".toList <:+ "/src/App.es".toList ∧ Query.PlainKey "index" ∧
        "index" ∉ flagKeys) ∧
      escapedId Text.isUnreserved ⟨"/src/App.es"⟩ [("index", "a&b")] =
        "/src/App.es?index=a%26b" ∧
      (parse .standard "/src/App.es?index=a%26b").query.entries =
        [("index", .text "a"), ("b", .flag true)] ∧
      (parse .standard "/src/App.es?index=a%26b").query.entries ≠ [("index", .text "a&b")] := by
  have clean : Path.clean ⟨"/src/App.es"⟩ = ⟨"/src/App.es"⟩ := by cbv
  have read : (parse .standard "/src/App.es?index=a%26b").query.entries =
      [("index", .text "a"), ("b", .flag true)] := by
    cbv
  refine ⟨⟨rfl, clean, by decide, by decide, by decide⟩, by decide +kernel, read, ?_⟩
  rw [read]
  decide

end ModuleBridge.Resource
