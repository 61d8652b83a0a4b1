import DocEnum.Proofs.Java.LookupTable

/-!
# Declared names

The names that a generated enum declares, and when two of them are in each other's way.

**Headings.** The fields below the constants and the two methods are declared by headings, and the
members of a source are the printed headings with their bodies (`members_eq_declaringLines`).

**Clashes** (`Unambiguous`). The fields of an enum are its constants and the three fields below
them. Two fields must not share a name, two methods must not share a signature, and the type must
not be named like one that the source imports.

**What the check leaves open** (`unambiguous_iff`). An accepted request has distinct constants, none
of them named like the lookup field. No other pair of names is compared: a constant or the lookup
field can be named like one of the other two fields, the methods can have one name, and the type can
be named like an import.

Main result: `declared_names_clash`. The constants of a comment are in upper case, so under the
usual member names only the type of a comment's enum can clash (`unambiguous_parse_iff`).
-/

namespace DocEnum.Java

/-! ## Headings -/

/-- A field that is declared below the constants. -/
structure FieldHeading where
  modifiers : Text
  type : Text
  name : Text

/-- The declaration of a field. -/
def FieldHeading.text (field : FieldHeading) : Text :=
  field.modifiers ++ " " ++ field.type ++ " " ++ field.name ++ ";"

/-- A method that looks a code up, with the type of its parameter. -/
structure MethodHeading where
  result : Text
  name : Text
  parameter : Text

namespace MethodHeading

/-- What stands before the body of a method. -/
def text (method : MethodHeading) : Text :=
  "public static " ++ method.result ++ " " ++ method.name ++ "(" ++ method.parameter ++ " code)"

/-- What tells a method from the others of its type. -/
def signature (method : MethodHeading) : Text × Text :=
  (method.name, method.parameter)

end MethodHeading

/-- The fields below the constants. -/
def fieldHeadings (style : Style) (typeName : Text) : List FieldHeading := [
  ⟨"private final", "int", "code"⟩,
  ⟨"private final", "String", "description"⟩,
  ⟨"private static final", "Map<Integer, " ++ typeName ++ ">", style.lookupField⟩]

/-- The method for codes that may be missing. -/
def findHeading (style : Style) (typeName : Text) : MethodHeading :=
  ⟨"Optional<" ++ typeName ++ ">", style.findMethod, "int"⟩

/-- The method for codes that must not be missing. -/
def requireHeading (style : Style) (typeName : Text) : MethodHeading :=
  ⟨typeName, style.requireMethod, "int"⟩

variable (style : Style) (request : Request) (typeName : Text)

/-- The lines below the constants, by what they declare. -/
def declaringLines : List Text :=
  (fieldHeadings style typeName).flatMap (fun field => [style.line 1 field.text, []]) ++
    (memberLines style "static" (initializer typeName) ++
    [] :: ((if style.lombok then [] else style.accessors typeName) ++
    (memberLines style (findHeading style typeName).text findBody ++
    [] :: (memberLines style (requireHeading style typeName).text (requireBody typeName) ++
      [[.char '\x7d']]))))

theorem fieldLines_eq_headings :
    fieldLines style typeName =
      (fieldHeadings style typeName).flatMap fun field => [style.line 1 field.text, []] := by
  simp [fieldLines, fieldHeadings, FieldHeading.text]

/-- **The members are the headings with their bodies.** -/
theorem members_eq_declaringLines : members style typeName = declaringLines style typeName := by
  have hfind : (findHeading style typeName).text =
      "public static Optional<" ++ typeName ++ "> " ++ style.findMethod ++ "(int code)" := by
    unfold findHeading MethodHeading.text
    simp only [List.append_assoc]
    rfl
  have hrequire : (requireHeading style typeName).text =
      "public static " ++ typeName ++ " " ++ style.requireMethod ++ "(int code)" := by
    unfold requireHeading MethodHeading.text
    simp only [List.append_assoc]
    rfl
  rw [members, declaringLines, fieldLines_eq_headings, hfind, hrequire]

/-! ## Clashes -/

/-- The names of all fields of an enum. -/
def declaredFields : List Text :=
  request.entries.map Entry.name ++
    (fieldHeadings style request.typeName).map FieldHeading.name

/-- The signatures of the methods that look a code up. -/
def declaredMethods : List (Text × Text) :=
  [findHeading style typeName, requireHeading style typeName].map MethodHeading.signature

/-- The name of a type without its package: what stands behind the last point. -/
def simpleName (type : Text) : Text :=
  (type.reverse.takeWhile (· != .char '.')).reverse

/-- The names under which a source imports types. -/
def importedNames : List Text :=
  style.imports.map simpleName

/-- No two declarations of an enum are in each other's way. -/
structure Unambiguous : Prop where
  fields : (declaredFields style request).Nodup
  methods : (declaredMethods style request.typeName).Nodup
  type : request.typeName ∉ importedNames style

/-- The types that a source imports. -/
theorem importedNames_eq : importedNames style =
    (if style.lombok then [("Getter" : Text), "RequiredArgsConstructor"] else []) ++
      [("Collections" : Text), "HashMap", "Map", "Optional"] := by
  unfold importedNames Style.imports
  by_cases hlombok : style.lombok = true
  · rw [if_pos hlombok, if_pos hlombok]
    decide
  · rw [if_neg hlombok, if_neg hlombok]
    decide

/-! ## What the check leaves open -/

/-- The names of the fields that hold the code and the description. -/
def valueFields : List Text := ["code", "description"]

variable {style request}

/-- **Constants and the lookup field** of an accepted request have distinct names. -/
theorem nodup_of_fault? (h : fault? style request = none) :
    (request.entries.map Entry.name ++ [style.lookupField]).Nodup := by
  obtain ⟨-, -, -, -, hconstants⟩ := fault?_eq_none_iff.1 h
  obtain ⟨-, hnodup, -, hlookup⟩ := constantFault?_eq_none_iff.1 hconstants
  exact hnodup.append (List.nodup_singleton _) (List.disjoint_singleton.2 hlookup)

/-- Beside them only the fields for the code and the description can clash. -/
theorem nodup_declaredFields_iff
    (h : (request.entries.map Entry.name ++ [style.lookupField]).Nodup) :
    (declaredFields style request).Nodup ↔
      ∀ name ∈ valueFields, name ∉ request.entries.map Entry.name ∧ name ≠ style.lookupField := by
  obtain ⟨hconstants, -, hlookup⟩ := List.nodup_append.1 h
  have hfields : declaredFields style request =
      request.entries.map Entry.name ++ (valueFields ++ [style.lookupField]) := rfl
  rw [hfields]
  constructor
  · intro hnodup name hname
    obtain ⟨-, hown, hapart⟩ := List.nodup_append.1 hnodup
    obtain ⟨-, -, hother⟩ := List.nodup_append.1 hown
    constructor
    · intro hmem
      exact hapart name hmem name (List.mem_append_left _ hname) rfl
    · exact hother name hname style.lookupField (List.mem_singleton_self _)
  · intro hfree
    have hown : (valueFields ++ [style.lookupField]).Nodup := by
      apply List.Nodup.append (by decide) (List.nodup_singleton _)
      apply List.disjoint_singleton.2
      intro hmem
      exact (hfree _ hmem).2 rfl
    refine List.nodup_append.2 ⟨hconstants, hown, ?_⟩
    intro constant hconstant name hname
    rcases List.mem_append.1 hname with hname | hname
    · rintro rfl
      exact (hfree _ hname).1 hconstant
    · exact hlookup constant hconstant name hname

theorem nodup_declaredMethods_iff :
    (declaredMethods style typeName).Nodup ↔ style.findMethod ≠ style.requireMethod := by
  show [(style.findMethod, ("int" : Text)), (style.requireMethod, ("int" : Text))].Nodup ↔ _
  rw [List.nodup_cons, List.mem_singleton, Prod.mk.injEq, eq_self, and_true,
    and_iff_left (List.nodup_singleton _)]

/-- The pairs of names that the check of a request does not compare. -/
theorem unambiguous_iff (h : fault? style request = none) :
    Unambiguous style request ↔
      (∀ name ∈ valueFields, name ∉ request.entries.map Entry.name ∧ name ≠ style.lookupField) ∧
        style.findMethod ≠ style.requireMethod ∧ request.typeName ∉ importedNames style := by
  have hfields := nodup_declaredFields_iff (nodup_of_fault? h)
  have hmethods : (declaredMethods style request.typeName).Nodup ↔ _ :=
    nodup_declaredMethods_iff request.typeName
  constructor
  · intro hclear
    exact ⟨hfields.1 hclear.fields, hmethods.1 hclear.methods, hclear.type⟩
  · rintro ⟨hvalues, hlookups, htype⟩
    exact ⟨hfields.2 hvalues, hmethods.2 hlookups, htype⟩

/-- **Entries of a comment** under the usual member names: only the type can clash. -/
theorem unambiguous_parse_iff {raw : Text} (h : fault? style request = none)
    (hentries : request.entries = Entry.parse raw)
    (hmembers : style.members = Style.members {}) :
    Unambiguous style request ↔ request.typeName ∉ importedNames style := by
  obtain ⟨hfind, hrequire, hlookup⟩ : style.findMethod = ("find" : Text) ∧
      style.requireMethod = ("require" : Text) ∧ style.lookupField = ("ENUM_MAP" : Text) := by
    simpa only [Style.members, List.cons.injEq, and_true] using hmembers
  -- Constants are in capitals, which the other fields are not.
  have hlower : ∀ name ∈ valueFields, ConstantName.isConstantForm name = false := by decide
  have hvalues : ∀ name ∈ valueFields,
      name ∉ request.entries.map Entry.name ∧ name ≠ style.lookupField := by
    intro name hname
    constructor
    · intro hmem
      obtain ⟨entry, hentry, rfl⟩ := List.mem_map.1 hmem
      rw [hentries] at hentry
      have hupper := (Entry.valid_parse raw).name_form entry hentry
      rw [hlower _ hname] at hupper
      cases hupper
    · rintro rfl
      rw [hlookup] at hname
      exact absurd hname (by decide)
  have hmethods : style.findMethod ≠ style.requireMethod := by
    rw [hfind, hrequire]
    decide
  rw [unambiguous_iff h, and_iff_right hvalues, and_iff_right hmethods]

/-- **When declared names clash.** The source of an accepted request declares its constants, the
headings below them and its imports. The constants and the lookup field are distinct. All
declarations are, exactly if no constant and no lookup field is named like a value field, the
methods have two names, and the type is not named like an import. For the entries of a comment under
the usual member names only the last is to be asked. -/
theorem declared_names_clash {source : Text} (hsource : generate style request = .ok source) :
    source = linesText (headerLines style request.package ++ Style.opening request.typeName ::
      [] :: (style.constants request.entries ++ [] :: declaringLines style request.typeName)) ∧
    (request.entries.map Entry.name ++ [style.lookupField]).Nodup ∧
    (Unambiguous style request ↔
      (∀ name ∈ valueFields, name ∉ request.entries.map Entry.name ∧ name ≠ style.lookupField) ∧
        style.findMethod ≠ style.requireMethod ∧ request.typeName ∉ importedNames style) ∧
    ∀ raw, request.entries = Entry.parse raw → style.members = Style.members {} →
      (Unambiguous style request ↔ request.typeName ∉ importedNames style) := by
  obtain ⟨hfault, rfl⟩ := generate_eq_ok_iff.1 hsource
  refine ⟨?_, nodup_of_fault? hfault, unambiguous_iff hfault, ?_⟩
  · rw [render_eq_linesText, sourceLines_eq, bodyLines_eq_members, members_eq_declaringLines]
  · intro raw hentries hmembers
    exact unambiguous_parse_iff hfault hentries hmembers

/-- Constants that are spelled like fields and imports, but for their case. -/
theorem declared_names_clash_case :
    let request : Request := ⟨"", "Optionals", Entry.parse "0-code, 1-description, 2-Map"⟩
    generate {} request = .ok (render {} request) ∧ Unambiguous {} request := by
  intro request
  have hsource : generate {} request = .ok (render {} request) :=
    generate_eq_ok_iff.2 ⟨by decide, rfl⟩
  obtain ⟨-, -, -, hparse⟩ := declared_names_clash hsource
  have hentries : request.entries = Entry.parse "0-code, 1-description, 2-Map" := rfl
  refine ⟨hsource, (hparse _ hentries rfl).2 ?_⟩
  rw [importedNames_eq]
  decide

/-- An enum with a clash has a source. -/
def AcceptsClash (style : Style) (request : Request) : Prop :=
  generate style request = .ok (render style request) ∧ ¬Unambiguous style request

/-- A constant or a lookup field named like a value field, two methods of one name, and a type named
like an import. -/
theorem accepts_clashes :
    AcceptsClash {} ⟨"", "T", [⟨"code", 1, "a"⟩]⟩ ∧
      AcceptsClash { lookupField := "description" } ⟨"", "T", [⟨"A", 1, "a"⟩]⟩ ∧
      AcceptsClash { findMethod := "of", requireMethod := "of" } ⟨"", "T", [⟨"A", 1, "a"⟩]⟩ ∧
      AcceptsClash {} ⟨"", "Map", Entry.parse "1-a"⟩ := by
  -- No fault, and one of the three conditions broken.
  have haccepts : ∀ {style : Style} {request : Request}, fault? style request = none →
      ¬((∀ name ∈ valueFields,
          name ∉ request.entries.map Entry.name ∧ name ≠ style.lookupField) ∧
        style.findMethod ≠ style.requireMethod ∧ request.typeName ∉ importedNames style) →
      AcceptsClash style request := by
    intro style request hfault hclash
    exact ⟨generate_eq_ok_iff.2 ⟨hfault, rfl⟩, fun hclear =>
      hclash ((unambiguous_iff hfault).1 hclear)⟩
  refine ⟨haccepts (by decide) ?_, haccepts (by decide) ?_, haccepts (by decide) ?_,
    haccepts (by decide) ?_⟩
  · rintro ⟨hvalues, -⟩
    exact absurd hvalues (by decide)
  · rintro ⟨hvalues, -⟩
    exact absurd hvalues (by decide)
  · rintro ⟨-, hmethods, -⟩
    exact hmethods rfl
  · rintro ⟨-, -, htype⟩
    rw [importedNames_eq] at htype
    exact absurd htype (by decide)

end DocEnum.Java
