import Mathlib.Data.List.TakeWhile
import PolicyCheck.Proofs.Decoding
import PolicyCheck.Proofs.TypedReading
import PolicyCheck.Value.Data

/-
  Reading from a text and reading from the document of the
  text. Every structure of a schema, and every entity, is
  read from tokens like it is decoded from a document, field
  by field. A blank text has no document. So both ways agree
  on every text that repeats no key.

  Main declarations:
    * `TypeSpec.readsLike`
    * `NamespaceSpec.readsLike`
    * `Fragment.toOption_ofText_ofTokens`
    * `EntityDocument.readsLike`
    * `Json.trimStart_ne_nil_of_parse?`
    * `text_and_document_agree`
-/

------------------------------------------------------------
-- Types
------------------------------------------------------------

namespace PolicyCheck

open Json (ReadsLike FieldsLike readsLike_string readsLike_bool
  readsLike_document)

variable (depth : Nat)

/- A list, within the depth that is left. -/
theorem readsLike_list
    {α : Type}
    {read : Nat → Json.TextReader α}
    {decode : Json → Json.Decoded α}
    (hRead : ∀ depth, ReadsLike depth (read depth) decode) :
    ReadsLike depth
      (.within (fun depth => .list (read depth)) depth)
      (Json.asList decode) :=
  .within (Json.toOption_asList_of_nests _)
    (fun depth => (hRead depth).list) depth

/- So is a table in which no key is bound twice. -/
theorem readsLike_uniqueTable
    {α : Type}
    {read : Nat → Json.TextReader α}
    {decode : Json → Json.Decoded α}
    (hRead : ∀ depth, ReadsLike depth (read depth) decode) :
    ReadsLike depth
      (.within (fun depth => .uniqueTable (read depth)) depth)
      (Json.asUniqueMap decode) :=
  .within (Json.toOption_asUniqueMap_of_nests _)
    (fun depth => (hRead depth).uniqueTable) depth

/- Names are read like a list of strings. -/
theorem readsLike_names :
    ReadsLike depth (namesOfTokens depth)
      (Json.asList Json.asString) :=
  readsLike_list depth fun _ => readsLike_string

/- Annotations are read like a table of strings. -/
theorem readsLike_annotations :
    ReadsLike depth (annotationsOfTokens depth)
      (Json.asMap Json.asString) :=
  .within (Json.toOption_asMap_of_nests _)
    (fun _ => readsLike_string.table) depth

namespace TypeSpec

/- So are the fields of a type, if the types in it are. -/
theorem fieldsLike
    {element : Json.TextReader TypeSpec}
    {attributes : Json.TextReader (Assoc String TypeSpec)}
    (hElement : ReadsLike depth element decode)
    (hAttributes : ReadsLike depth attributes decodeTable) :
    FieldsLike depth (fieldOfTokens element attributes depth)
      readField := by
  intro name j rest spec hNests
  unfold fieldOfTokens readField setField
  split_ifs
  · exact readsLike_string.field _ j rest spec hNests
  · exact hElement.option.field _ j rest spec hNests
  · exact hAttributes.option.field _ j rest spec hNests
  · exact readsLike_string.option.field _ j rest spec hNests
  · exact readsLike_bool.option.field _ j rest spec hNests
  · exact readsLike_bool.field _ j rest spec hNests
  · exact (readsLike_annotations depth).field _ j rest spec hNests

/- A type and a table of types are read like they are decoded. -/
theorem readsLike_and_table :
    ReadsLike depth (ofTokens depth) decode ∧
      ReadsLike depth (tableOfTokens depth) decodeTable := by
  induction depth with
  | zero =>
      rw [decode_eq, decodeTable_eq]
      exact
        ⟨.tooDeep (Json.Layout.toOption_decode_of_nests _ _ _),
          .tooDeep (Json.toOption_asMap_of_nests _)⟩
  | succ depth ih =>
      have hFields := fieldsLike depth ih.1 ih.2
      constructor
      · rw [decode_eq]
        exact hFields.ofTokens layout default
      · rw [decodeTable_eq]
        exact ih.1.table

/- A type is read like it is decoded. -/
theorem readsLike :
    ReadsLike depth (ofTokens depth) decode :=
  (readsLike_and_table depth).1

end TypeSpec

------------------------------------------------------------
-- Declarations
------------------------------------------------------------

namespace EntityTypeSpec

/- The fields of an entity type. -/
theorem fieldsLike :
    FieldsLike depth (fieldOfTokens depth) setField := by
  intro name j rest spec hNests
  unfold fieldOfTokens setField
  split_ifs
  · exact (readsLike_names depth).field _ j rest spec hNests
  · exact (TypeSpec.readsLike depth).option.field _ j rest spec hNests
  · exact (TypeSpec.readsLike depth).option.field _ j rest spec hNests
  · exact (readsLike_annotations depth).field _ j rest spec hNests

/- An entity type. -/
theorem readsLike :
    ReadsLike depth (ofTokens depth) decode :=
  .within (Json.Layout.toOption_decode_of_nests _ _ _)
    (fun depth => (fieldsLike depth).ofTokens layout default) depth

end EntityTypeSpec

namespace AppliesTo

/- The fields of what an action applies to. -/
theorem fieldsLike :
    FieldsLike depth (fieldOfTokens depth) setField := by
  intro name j rest spec hNests
  unfold fieldOfTokens setField
  split_ifs
  · exact (readsLike_names depth).field _ j rest spec hNests
  · exact (readsLike_names depth).field _ j rest spec hNests
  · exact (TypeSpec.readsLike depth).option.field _ j rest spec hNests

/- What an action applies to. -/
theorem readsLike :
    ReadsLike depth (ofTokens depth) decode :=
  .within (Json.Layout.toOption_decode_of_nests _ _ _)
    (fun depth => (fieldsLike depth).ofTokens layout default) depth

end AppliesTo

namespace ActionRef

/- The fields of a reference to an action. -/
theorem fieldsLike :
    FieldsLike depth fieldOfTokens setField := by
  intro name j rest ref hNests
  unfold fieldOfTokens setField
  split_ifs
  · exact readsLike_string.field _ j rest ref hNests
  · exact readsLike_string.option.field _ j rest ref hNests

/- A reference to an action. -/
theorem readsLike :
    ReadsLike depth (ofTokens depth) decode :=
  .within (Json.Layout.toOption_decode_of_nests _ _ _)
    (fun depth => (fieldsLike depth).ofTokens layout default) depth

end ActionRef

namespace ActionSpec

/- The fields of an action. -/
theorem fieldsLike :
    FieldsLike depth (fieldOfTokens depth) setField := by
  have hRefs := readsLike_list depth ActionRef.readsLike
  have hDocument :
      ReadsLike depth ((Json.document depth).map Json.collapse)
        (fun j => .ok j.collapse) :=
    readsLike_document.map Json.collapse
  intro name j rest spec hNests
  unfold fieldOfTokens setField
  split_ifs
  · exact
      (AppliesTo.readsLike depth).option.field _ j rest spec hNests
  · exact (TypeSpec.readsLike depth).option.field _ j rest spec hNests
  · exact hRefs.option.field _ j rest spec hNests
  · exact hDocument.option.field _ j rest spec hNests
  · exact (readsLike_annotations depth).field _ j rest spec hNests

/- An action. -/
theorem readsLike :
    ReadsLike depth (ofTokens depth) decode :=
  .within (Json.Layout.toOption_decode_of_nests _ _ _)
    (fun depth => (fieldsLike depth).ofTokens layout default) depth

end ActionSpec

------------------------------------------------------------
-- Namespaces And Fragments
------------------------------------------------------------

namespace NamespaceSpec

/- The fields of a namespace. -/
theorem fieldsLike :
    FieldsLike depth (fieldOfTokens depth) setField := by
  have hTypes := readsLike_uniqueTable depth TypeSpec.readsLike
  have hEntities :=
    readsLike_uniqueTable depth EntityTypeSpec.readsLike
  have hActions := readsLike_uniqueTable depth ActionSpec.readsLike
  intro name j rest spec hNests
  unfold fieldOfTokens setField
  split_ifs
  · exact hTypes.field _ j rest spec hNests
  · exact hEntities.field _ j rest spec hNests
  · exact hActions.field _ j rest spec hNests
  · exact (readsLike_annotations depth).field _ j rest spec hNests

/- A namespace. -/
theorem readsLike :
    ReadsLike depth (ofTokens depth) decode :=
  .within (Json.Layout.toOption_decode_of_nests _ _ _)
    (fun depth => (fieldsLike depth).ofTokens layout default) depth

end NamespaceSpec

/-
  A fragment is read like it is decoded where it is known
  whether it declares a single namespace.
-/
theorem Fragment.toOption_ofText_ofTokens
    {depth : Nat}
    {text : String}
    {document : Json}
    (hParse : Json.parse? depth text = some document) :
    (Json.ofText (ofTokens (isFlat document) depth) text).toOption =
      (decode document).toOption := by
  unfold ofTokens decode
  split
  · exact
      ((NamespaceSpec.readsLike depth).map _).ofText hParse
  · exact
      ((readsLike_uniqueTable depth NamespaceSpec.readsLike).map
        _).ofText hParse

------------------------------------------------------------
-- Entities
------------------------------------------------------------

/- The name of an entity type is read like a string. -/
theorem EntityType.readsLike :
    ReadsLike depth ofTokens decode :=
  readsLike_string.map EntityType.mk

namespace EntityUid

/- The fields of an identifier. -/
theorem fieldsLike :
    FieldsLike depth fieldOfTokens setField := by
  intro name j rest uid hNests
  unfold fieldOfTokens setField
  split_ifs
  · exact (EntityType.readsLike depth).field _ j rest uid hNests
  · exact readsLike_string.field _ j rest uid hNests

/- An identifier. -/
theorem readsLike :
    ReadsLike depth (ofTokens depth) decode :=
  .within (Json.Layout.toOption_decode_of_nests _ _ _)
    (fun depth => (fieldsLike depth).ofTokens layout default) depth

end EntityUid

namespace EntityDocument

/- The fields of an entity. -/
theorem fieldsLike :
    FieldsLike depth (fieldOfTokens depth) setField := by
  have hAttrs :=
    readsLike_uniqueTable depth fun _ =>
      readsLike_document.refine ValueDocument.decode
  have hParents := readsLike_list depth EntityUid.readsLike
  intro name j rest entity hNests
  unfold fieldOfTokens setField
  split_ifs
  · exact (EntityUid.readsLike depth).field _ j rest entity hNests
  · exact hAttrs.field _ j rest entity hNests
  · exact hParents.field _ j rest entity hNests

/- An entity. -/
theorem readsLike :
    ReadsLike depth (ofTokens depth) decode :=
  .within (Json.Layout.toOption_decode_of_nests _ _ _)
    (fun depth => (fieldsLike depth).ofTokens layout default) depth

end EntityDocument

------------------------------------------------------------
-- Blank Texts
------------------------------------------------------------

namespace Json

/- Blanks are not among the characters that begin a token. -/
theorem toNat_of_isBlank
    {c : Char}
    (hBlank : Text.isBlank c = true) :
    c.toNat ≤ 0x20 ∨ 0x85 ≤ c.toNat := by
  simp [Text.isBlank, Text.inRanges, Text.blankRanges] at hBlank
  omega

/- A blank that is not refused leaves the lexer between tokens. -/
theorem start_of_isBlank
    {c : Char}
    (hBlank : Text.isBlank c = true)
    {done : List Token}
    {next : Lexer.State}
    (hNext : Lexer.start done c = some next) :
    next = ⟨done, .between⟩ := by
  have hRange := toNat_of_isBlank hBlank
  have hNe :
      ∀ d : Char, 0x20 < d.toNat ∧ d.toNat < 0x85 → c ≠ d := by
    rintro d hPlain rfl
    omega
  have hDigit : c.isDigit = false := by
    rw [Bool.eq_false_iff]
    intro hIs
    have hBounds := Bool.and_eq_true_iff.mp hIs
    have hLow : 48 ≤ c.toNat := of_decide_eq_true hBounds.1
    have hHigh : c.toNat ≤ 57 := of_decide_eq_true hBounds.2
    omega
  have hLower : c.isLower = false := by
    rw [Bool.eq_false_iff]
    intro hIs
    have hBounds := Bool.and_eq_true_iff.mp hIs
    have hLow : 97 ≤ c.toNat := of_decide_eq_true hBounds.1
    have hHigh : c.toNat ≤ 122 := of_decide_eq_true hBounds.2
    omega
  simp only [Lexer.start, hNe '[' (by decide), hNe ']' (by decide),
    hNe '\x7b' (by decide), hNe '\x7d' (by decide),
    hNe ':' (by decide), hNe ',' (by decide), hNe '"' (by decide),
    hNe '-' (by decide), hDigit, hLower, if_false, decide_false,
    Bool.or_self, Bool.false_eq_true] at hNext
  split at hNext
  · exact (Option.some.inj hNext).symm
  · cases hNext

/- A text of blanks has no tokens. -/
theorem tokens?_of_isBlank
    {cs : List Char}
    (hBlank : ∀ c ∈ cs, Text.isBlank c = true)
    {tokens : List Token}
    (hTokens : tokens? cs = some tokens) :
    tokens = [] := by
  rcases Option.bind_eq_some_iff.mp hTokens with
    ⟨last, hLast, hFinish⟩
  have hBetween : last = ⟨[], .between⟩ := by
    clear hTokens hFinish
    induction cs with
    | nil => exact (Option.some.inj hLast).symm
    | cons c rest ih =>
        rw [List.foldlM_cons] at hLast
        rcases Option.bind_eq_some_iff.mp hLast with
          ⟨next, hNext, hRest⟩
        rw [start_of_isBlank (hBlank c List.mem_cons_self) hNext]
          at hRest
        apply ih _ hRest
        intro d hMem
        exact hBlank d (List.mem_cons_of_mem _ hMem)
  rw [hBetween] at hFinish
  exact (Option.some.inj hFinish).symm

/- A text that has a document is not blank. -/
theorem trimStart_ne_nil_of_parse?
    {depth : Nat}
    {text : String}
    {document : Json}
    (hParse : parse? depth text = some document) :
    Text.trimStart text.toList ≠ [] := by
  intro hTrim
  have hBlank : ∀ c ∈ text.toList, Text.isBlank c = true :=
    List.dropWhile_eq_nil_iff.mp hTrim
  have hTokens := (parse?_eq_some_iff.mp hParse).1
  rcases exists_tokens_eq_cons document with ⟨token, rest, hCons, _⟩
  have hNil := tokens?_of_isBlank hBlank hTokens
  rw [hCons] at hNil
  cases hNil

end Json

------------------------------------------------------------
-- Texts And Documents
------------------------------------------------------------

/-
  The fragment of a text is that of its document; if there
  is none, only the advice on it can be different.
-/
theorem Fragment.ofText_eq_of_parse?
    {text : String}
    {document : Json}
    (hParse : Json.parse? Json.maxDepth text = some document)
    (hKeys : document.NoRepeats) :
    ofText text = ofJson document ∨
      ∃ advice,
        ofText text = .error (.malformed advice) ∧
          ofJson document = .error (.malformed none) := by
  have hText := Json.trimStart_ne_nil_of_parse? hParse
  have hDocument :
      Json.ofText (Json.document Json.maxDepth) text =
        .ok document := by
    rw [← toOption_eq_some_iff]
    exact hParse
  have hSame := toOption_ofText_ofTokens hParse
  unfold ofText
  rw [if_neg (by simpa using hText), hDocument]
  rcases cases_of_toOption_eq hSame with
    ⟨fragment, hRead, hDecode⟩ | ⟨_, _, hRead, hDecode⟩
  · left
    cases document with
    | null => rfl
    | _ => simp [ofJson, Json.collapse_eq_self hKeys, hRead, hDecode]
  · cases document with
    | null => exact Or.inl rfl
    | _ => simp [ofJson, Json.collapse_eq_self hKeys, hRead, hDecode]

/- The entities of a text are those of its document. -/
theorem Entity.listOfText_eq_of_parse?
    {text : String}
    {document : Json}
    (hParse : Json.parse? Json.maxDepth text = some document) :
    listOfText text = listOfJson document := by
  have hSame :=
    (readsLike_list Json.maxDepth EntityDocument.readsLike).ofText
      hParse
  unfold listOfText listOfJson
  rcases cases_of_toOption_eq hSame with
    ⟨documents, hText, hDecode⟩ | ⟨_, _, hText, hDecode⟩
  · rw [hText, hDecode]
    rfl
  · rw [hText, hDecode]
    rfl

/-
  Let a text have a document, within the depth to which
  documents may nest, that repeats no key. Then it makes no
  difference whether a fragment is read from the text or from
  the document as a plain value, except for the advice on a
  malformed one, and neither does it for entities.
-/
theorem text_and_document_agree
    {text : String}
    {document : Json}
    (hParse : Json.parse? Json.maxDepth text = some document)
    (hKeys : document.NoRepeats) :
    (∀ fragment,
      Fragment.ofText text = .ok fragment ↔
        Fragment.ofJson document.collapse = .ok fragment) ∧
    (Fragment.ofText text = .error .missing ↔
      Fragment.ofJson document.collapse = .error .missing) ∧
    ((∃ fragment, Fragment.ofText text = .ok fragment) ∨
      Fragment.ofText text = .error .missing ∨
      ∃ advice other,
        Fragment.ofText text = .error (.malformed advice) ∧
          Fragment.ofJson document.collapse =
            .error (.malformed other)) ∧
    Entity.listOfText text =
      Entity.listOfJson document.collapse := by
  rw [Json.collapse_eq_self hKeys]
  refine
    ⟨?_, ?_, ?_, Entity.listOfText_eq_of_parse? hParse⟩
  all_goals
    rcases Fragment.ofText_eq_of_parse? hParse hKeys with
      hSame | ⟨advice, hText, hJson⟩
  · intro fragment
    rw [hSame]
  · intro fragment
    simp [hText, hJson]
  · rw [hSame]
  · simp [hText, hJson]
  · rw [hSame]
    unfold Fragment.ofJson
    split
    · exact Or.inr (Or.inl rfl)
    · split
      · exact Or.inl ⟨_, rfl⟩
      · exact Or.inr (Or.inr ⟨_, _, rfl, rfl⟩)
  · exact Or.inr (Or.inr ⟨advice, none, hText, hJson⟩)

/- A user as a text; of the identifier one member is ignored. -/
def userText : String :=
  "[\x7b \"uid\": \x7b\"type\":\"User\",\"id\":\"ann\",\"x\":[]\x7d \x7d]"

/- The document of the user. -/
def userDocument : Json :=
  .arr [.obj [("uid", .obj [("type", .str "User"),
    ("id", .str "ann"), ("x", .arr [])])]]

/- The text has one user, and is no fragment. -/
theorem userText_agrees :
    Json.parse? Json.maxDepth userText = some userDocument ∧
      userDocument.NoRepeats ∧
      Entity.listOfText userText =
        .ok [⟨⟨⟨"User"⟩, "ann"⟩, [], []⟩] ∧
      ∀ fragment, Fragment.ofText userText ≠ .ok fragment := by
  have hParse :
      Json.parse? Json.maxDepth userText = some userDocument := by
    refine Json.parse?_eq_some_iff.mpr ⟨rfl, ?_⟩
    exact (Json.nests_length_tokens userDocument).mono (by decide)
  have hKeys : userDocument.NoRepeats := by
    simp [userDocument, Assoc.keys]
  rcases text_and_document_agree hParse hKeys with
    ⟨hFragment, _, _, hEntities⟩
  refine ⟨hParse, hKeys, hEntities.trans rfl, ?_⟩
  intro fragment hOk
  cases (hFragment fragment).mp hOk

end PolicyCheck
