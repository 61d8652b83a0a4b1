import Mathlib
import DocEnum.Proofs.Job.Input
import DocEnum.Proofs.Java.GeneratedUnit
import DocEnum.Proofs.Java.ScannedNames
import DocEnum.Proofs.Java.SourceCharacters

/-!
# Requests for fields

What becomes of a field that was found in a source file.

**Packages** (`packageOf_qualifiedName_scan`). The package of a source text reaches the request by
way of the qualified name of the class. A text without a class has no qualified name, so that its
package is lost.

**Files** (`unwritten_of_writeFile`). A request with an identifier for a type name and the entries
of a comment is written, unless there are no entries, the package has an invalid name, a constant is
named like the lookup table, the indent has no bytes, or something is wrong with the files
(`Unwritten`).

**Theorem (`forField_acceptable`).** Every field of a source text has a request, which goes into the
package of the text if there is a class. If the names of the class and of the field are ASCII, the
type name is an identifier, and the request is written with these exceptions.
-/

namespace DocEnum

open File File.Store World Java

variable {w w' : World} {source directory : Path} {text : Text} {bytes : List UInt8}
  {field : Field} {style : Style} {overwrite : Bool} {e : Error}

/-! ## Packages -/

theorem point_not_mem_of_isNameForm {name : Text} (h : isNameForm name = true) :
    .char '.' ∉ name := by
  intro hmem
  exact absurd (isNamePart_of_mem h '.' hmem) (by decide)

/-- **The package of a class** reaches its requests; without a class it is lost. -/
theorem packageOf_qualifiedName_scan (text : Text) :
    packageOf (CompilationUnit.scan text).qualifiedName =
      if (CompilationUnit.scan text).className = none then []
      else (CompilationUnit.scan text).package := by
  split
  · next hnone =>
    rw [CompilationUnit.qualifiedName, hnone]
    rfl
  · next hsome =>
    obtain ⟨name, hname⟩ := Option.ne_none_iff_exists'.1 hsome
    exact packageOf_qualifiedName hname (point_not_mem_of_isNameForm (isNameForm_className hname))

/-! ## Requests -/

/-- Every field of a unit is found by its name, or another one of that name is. -/
theorem exists_field? {unit : CompilationUnit} (h : field ∈ unit.fields) :
    ∃ documented ∈ unit.fields, documented.name = field.name ∧
      unit.field? field.name = some documented := by
  cases hfound : unit.field? field.name with
  | none =>
    exact absurd (decide_eq_true rfl) (List.find?_eq_none.1 hfound field h)
  | some documented =>
    exact ⟨documented, List.mem_of_find?_eq_some hfound, by simpa using List.find?_some hfound, rfl⟩

/-- **Every field has a request**, made from the first field of its name. -/
theorem exists_perform_forField (hfile : w.store.read source = .ok bytes)
    (htext : Workspace.text bytes = .ok text) (suffix : Text)
    (hfield : field ∈ (CompilationUnit.scan text).fields) :
    ∃ documented ∈ (CompilationUnit.scan text).fields, documented.name = field.name ∧
      (w.perform (Request.forField source field.name suffix)).1 =
        .ok (Request.ofField (CompilationUnit.scan text) documented suffix) := by
  obtain ⟨documented, hmem, hname, hfound⟩ := exists_field? hfield
  refine ⟨documented, hmem, hname, ?_⟩
  rw [perform_forField, perform_readText_ok hfile htext]
  simp only [Except.bind, Request.ofText, hfound]

/-! ## Files -/

/-- Why a request is not written, although its names are good. -/
inductive Java.Request.Unwritten (request : Request) (style : Style) (directory : Path)
    (overwrite : Bool) (s s' : Store) : Error → Prop
  | noEntries (h : request.entries = []) :
      Unwritten request style directory overwrite s s' (.noEntries request.typeName)
  | packageName (h : isPackage request.package = false) :
      Unwritten request style directory overwrite s s' (.request (.packageName request.package))
  | lookupClash (h : style.lookupField ∈ request.entries.map Entry.name) :
      Unwritten request style directory overwrite s s' (.request (.lookupClash style.lookupField))
  | indent {fault : Utf8.EncodeFault} (h : ¬Utf8.Encodable style.indent) :
      Unwritten request style directory overwrite s s' (.unencodable fault)
  | files {e : Error} (h : Undelivered s directory request.fileName overwrite s' e) :
      Unwritten request style directory overwrite s s' e

/-- **Writing a request** with an identifier for a type name and the entries of a comment. -/
theorem unwritten_of_writeFile {package typeName raw : Text} (hraw : Utf8.Encodable raw)
    (htype : isIdentifier typeName = true)
    (hmembers : ∀ member ∈ style.members, isIdentifier member = true)
    (h : w.perform (Request.writeFile ⟨package, typeName, Entry.parse raw⟩ directory style
      overwrite) = (.error e, w')) :
    Request.Unwritten ⟨package, typeName, Entry.parse raw⟩ style directory overwrite w.store
      w'.store e := by
  have hfault := fault?_parse_in raw typeName package style htype
    (List.find?_eq_none.2 (by simpa using hmembers))
  rw [perform_requestWriteFile] at h
  split at h
  · next hempty =>
    obtain ⟨herror, rfl⟩ := Prod.mk.inj h
    obtain rfl := Except.error.inj herror
    exact .noEntries (by simpa using hempty)
  · next hne =>
    cases hsource : generate style ⟨package, typeName, Entry.parse raw⟩ with
    | ok content =>
      rw [hsource] at h
      cases delivered_deliver (isProper_fileName htype) h with
      | spoiled hspoiled =>
        -- Everything but the indentation is encodable, so that the fault is its own.
        refine .indent fun hindent => Utf8.not_encodable_of_encode hspoiled ?_
        exact encodable_generate hsource hindent (encodable_descriptions hraw)
      | failed _ hundelivered => exact .files hundelivered
    | error fault =>
      rw [hsource] at h
      obtain ⟨herror, rfl⟩ := Prod.mk.inj h
      obtain rfl := Except.error.inj herror
      rw [generate_eq_error_iff, hfault, if_neg (by simpa using hne)] at hsource
      split_ifs at hsource with hpackage hclash
      · obtain rfl := Option.some.inj hsource
        refine .lookupClash ?_
        simpa only using hclash
      · obtain rfl := Option.some.inj hsource
        exact .packageName (by simpa using hpackage)

/-! ## Fields -/

/-- **From a field to a file.** Every field of a source text has a request. Its package is that of
the text, if a class is declared there. If the names are ASCII, its type name is an identifier; so
the request is written anywhere under member names that are identifiers, unless there are no
entries, the package has an invalid name, a constant is named like the lookup table, the indent has
no bytes, or something is wrong with the files. -/
theorem forField_acceptable (hfile : w.store.read source = .ok bytes)
    (htext : Workspace.text bytes = .ok text)
    (hfield : field ∈ (CompilationUnit.scan text).fields) :
    ∃ request, (w.perform (Request.forField source field.name defaultSuffix)).1 = .ok request ∧
      request.package = (if (CompilationUnit.scan text).className = none then []
        else (CompilationUnit.scan text).package) ∧
      ((∀ name ∈ (CompilationUnit.scan text).className, isAscii name = true) →
        isAscii field.name = true →
        isIdentifier request.typeName = true ∧
        ∀ (w₁ w₂ : World) (directory : Path) (style : Style) (overwrite : Bool) (e : Error),
          (∀ member ∈ style.members, isIdentifier member = true) →
          w₁.perform (request.writeFile directory style overwrite) = (.error e, w₂) →
            request.Unwritten style directory overwrite w₁.store w₂.store e) := by
  obtain ⟨documented, hmem, hname, hrequest⟩ :=
    exists_perform_forField hfile htext defaultSuffix hfield
  rw [Request.ofField, packageOf_qualifiedName_scan] at hrequest
  refine ⟨_, hrequest, rfl, fun hclass hascii => ?_⟩
  rw [← hname] at hascii
  have htype : isIdentifier (enumTypeName (CompilationUnit.scan text).className documented.name
      defaultSuffix) = true :=
    isIdentifier_enumTypeName
      (fun name hname =>
        isIdentifierForm_of_isAscii (hclass name hname) (isNameForm_className hname))
      (isIdentifierForm_of_isAscii hascii (isNameForm_field hmem))
  refine ⟨htype, ?_⟩
  intro w₁ w₂ directory style overwrite e hmembers hwrite
  exact unwritten_of_writeFile (encodable_doc (encodable_of_text htext) hmem) htype hmembers hwrite

/-- Surroundings with a source file. -/
def withSource (text : Text) : World :=
  ⟨⟨[([Utf8.bytes "A.java"], .file (Utf8.bytes text))], []⟩, [], []⟩

theorem read_withSource (text : Text) :
    (withSource text).store.read (Path.ofText "A.java") = .ok (Utf8.bytes text) := rfl

/-- A field of a data object in a package. -/
theorem forField_acceptable_data :
    let text : Text := "package a.b;\nclass OrderDTO \x7b\n/** 1-a */ int kind;\n\x7d\n"
    let w := withSource text
    let unit := CompilationUnit.scan text
    let field : Field := ⟨"kind", "/** 1-a */", 3⟩
    Workspace.text (Utf8.bytes text) = .ok text ∧ field ∈ unit.fields ∧
      (∀ name ∈ unit.className, isAscii name = true) ∧ isAscii field.name = true ∧
      (∀ member ∈ ({ } : Style).members, isIdentifier member = true) ∧
      ∃ request, (w.perform (Request.forField (Path.ofText "A.java") field.name
          defaultSuffix)).1 = .ok request ∧
        request.package = "a.b" ∧ isIdentifier request.typeName = true ∧
        ∀ w₂ e, w.perform (request.writeFile .current { } false) = (.error e, w₂) →
          request.Unwritten { } .current false w.store w₂.store e := by
  intro text w unit field
  have htext : Workspace.text (Utf8.bytes text) = .ok text := by
    simp only [text]
    cbv
  have hfield : field ∈ unit.fields := by decide
  have hclass : ∀ name ∈ unit.className, isAscii name = true := by decide
  have hname : isAscii field.name = true := by decide
  have hmembers : ∀ member ∈ ({ } : Style).members, isIdentifier member = true := by decide
  obtain ⟨request, hrequest, hpackage, hrest⟩ :=
    forField_acceptable (read_withSource text) htext hfield
  obtain ⟨htype, hwrite⟩ := hrest hclass hname
  refine ⟨htext, hfield, hclass, hname, hmembers, request, hrequest, ?_, htype,
    fun w₂ e => hwrite w w₂ .current { } false e hmembers⟩
  rw [hpackage]
  decide

/-- A field has a request in the package of its text, with an identifier for a type name. -/
def HasAcceptableRequest (w : World) (source : Path) (text : Text) (field : Field) : Prop :=
  ∃ request, (w.perform (Request.forField source field.name defaultSuffix)).1 = .ok request ∧
    request.package = (CompilationUnit.scan text).package ∧
    isIdentifier request.typeName = true

theorem names_of_hasAcceptableRequest (hfile : w.store.read source = .ok bytes)
    (htext : Workspace.text bytes = .ok text)
    (hfield : field ∈ (CompilationUnit.scan text).fields)
    (h : HasAcceptableRequest w source text field) :
    packageOf (CompilationUnit.scan text).qualifiedName = (CompilationUnit.scan text).package ∧
      isIdentifier (enumTypeName (CompilationUnit.scan text).className field.name
        defaultSuffix) = true := by
  obtain ⟨request, hrequest, hpackage, htype⟩ := h
  obtain ⟨documented, -, hname, hmade⟩ :=
    exists_perform_forField hfile htext defaultSuffix hfield
  rw [hmade] at hrequest
  obtain rfl := Except.ok.inj hrequest
  rw [← hname]
  exact ⟨hpackage, htype⟩

/-- A source text with a package and no class. -/
def ownerless : Text :=
  "package a;\n\x7b\n/** 1-a */ int x;\n\x7d\n"

/-- A source text with a class whose name is not ASCII. -/
def accented : Text :=
  "class Größe \x7b\n/** 1-a */ int kind;\n\x7d\n"

/-- A field of a text without a class loses the package. The name of a class may have letters that
an identifier does not have. -/
theorem not_hasAcceptableRequest :
    (∃ field ∈ (CompilationUnit.scan ownerless).fields,
      ¬HasAcceptableRequest (withSource ownerless) (Path.ofText "A.java") ownerless field) ∧
    ∃ field ∈ (CompilationUnit.scan accented).fields,
      ¬HasAcceptableRequest (withSource accented) (Path.ofText "A.java") accented field := by
  constructor
  · have htext : Workspace.text (Utf8.bytes ownerless) = .ok ownerless := by cbv
    have hfield : ⟨"x", "/** 1-a */", 3⟩ ∈ (CompilationUnit.scan ownerless).fields := by decide
    refine ⟨_, hfield, fun h => ?_⟩
    obtain ⟨hpackage, -⟩ := names_of_hasAcceptableRequest (read_withSource _) htext hfield h
    exact absurd hpackage (by decide)
  · have htext : Workspace.text (Utf8.bytes accented) = .ok accented := by cbv
    have hfield : ⟨"kind", "/** 1-a */", 2⟩ ∈ (CompilationUnit.scan accented).fields := by decide
    refine ⟨_, hfield, fun h => ?_⟩
    obtain ⟨-, htype⟩ := names_of_hasAcceptableRequest (read_withSource _) htext hfield h
    exact absurd htype (by decide)

end DocEnum
