import DocEnum.Console.Basic
import DocEnum.Libraries
import DocEnum.Proofs.Encoding

/-!
# The laws of libraries

What is documented of the libraries that the program is built on, as far as the commands rely on it.

**Displays** (`Display.Lawful`). Data is printed without some controls and with its tabs filled up.
A message goes through markup: protected text and text without brackets hold no tags, and a line of
plain characters that fits is printed as it is.

**Writers of JSON** (`JsonWriter.Lawful`). The values that have a JSON text (`Json.Writable`) are
null, truth values, integers of 64 bits, floating-point numbers, times, texts that have bytes,
lists, and mappings whose keys are such texts, not too deep in each other.

Of a library for YAML the commands rely on nothing: whatever it makes of a manifest is read.
-/

namespace DocEnum

/-! ## Displays -/

namespace Console

/-- A printable ASCII character that counts for nothing in markup. -/
def isPlain (c : CodePoint) : Bool :=
  32 ≤ c.toNat && c.toNat < 127 && c != '[' && c != ':'

/-- A text of plain characters. -/
def IsPlain (t : Text) : Prop :=
  t.all isPlain = true

/-- Words that are shown in a style: letters, digits and spaces, a letter first. -/
def isWording (words : Text) : Bool :=
  words.head?.any CodePoint.isAlpha && words.all fun c => c.isAlphanum || c == .char ' '

instance : DecidablePred IsPlain :=
  fun t => inferInstanceAs (Decidable (t.all isPlain = true))

end Console

/-- What is documented of a display. -/
class Display.Lawful [Display] : Prop where
  /-- Data is shown as on a console. -/
  data_eq {t : Text} (h : Utf8.Encodable t) : Display.data t = .ok (Console.shown t)
  /-- A protected text has no tags. -/
  message_protect {t : Text} (h : Utf8.Encodable t) :
    ∃ shown, Display.message ("[bold yellow]" ++ Display.protect t ++ "[/]") = .ok shown
  /-- A text without brackets has no tags. -/
  message_headed {words t : Text} (hwords : Console.isWording words = true) (h : .char '[' ∉ t)
    (ht : Utf8.Encodable t) :
    ∃ shown, Display.message ("[bold green]" ++ words ++ "[/]" ++ t) = .ok shown
  /-- Plain text that fits into a line is printed as it is. -/
  message_plain {words t : Text} (hwords : Console.isWording words = true) (h : Console.IsPlain t)
    (hfits : (words ++ t).length ≤ Display.width) :
    Display.message ("[bold green]" ++ words ++ "[/]" ++ t) = .ok (words ++ t)

/-! ## Writers of JSON -/

/-- An integer of 64 bits, with a sign or without. -/
def Json.IsWord (n : Int) : Prop :=
  -2 ^ 63 ≤ n ∧ n < 2 ^ 64

/-- The values that have a JSON text inside of some lists and mappings. -/
inductive Json.Writable : (level : Nat) → Value → Prop
  | null {level : Nat} : Writable level .null
  | bool {level : Nat} (b : Bool) : Writable level (.bool b)
  | int {level : Nat} {n : Int} (h : IsWord n) : Writable level (.int n)
  | float {level : Nat} (x : Binary64) : Writable level (.float x)
  | text {level : Nat} {t : Text} (h : Utf8.Encodable t) : Writable level (.text t)
  | date {level : Nat} (day : Day) : Writable level (.date day)
  | moment {level : Nat} (day : Day) (clock : Clock) : Writable level (.moment day clock)
  | list {level : Nat} {items : List Value} (hlevel : items ≠ [] → level < 254)
      (h : ∀ item ∈ items, Writable (level + 1) item) : Writable level (.list items)
  | tuple {level : Nat} {items : List Value} (hlevel : items ≠ [] → level < 254)
      (h : ∀ item ∈ items, Writable (level + 1) item) : Writable level (.tuple items)
  | mapping {level : Nat} {pairs : List (Value × Value)} (hlevel : level < 254)
      (hkeys : ∀ pair ∈ pairs, ∃ key, pair.1 = .text key ∧ Utf8.Encodable key)
      (h : ∀ pair ∈ pairs, Writable (level + 1) pair.2) : Writable level (.mapping pairs)

namespace Json

variable {level : Nat}

theorem isWord_natCast_iff {n : Nat} : IsWord n ↔ n < 2 ^ 64 := by
  unfold IsWord
  omega

@[simp] theorem writable_null : Writable level .null := .null

@[simp] theorem writable_int_iff {n : Int} : Writable level (.int n) ↔ IsWord n :=
  ⟨fun h => by cases h with | int h => exact h, .int⟩

@[simp] theorem writable_text_iff {t : Text} : Writable level (.text t) ↔ Utf8.Encodable t :=
  ⟨fun h => by cases h with | text h => exact h, .text⟩

@[simp] theorem writable_list_iff {items : List Value} :
    Writable level (.list items) ↔ (items ≠ [] → level < 254) ∧
      ∀ item ∈ items, Writable (level + 1) item :=
  ⟨fun h => by cases h with | list hlevel h => exact ⟨hlevel, h⟩, fun h => .list h.1 h.2⟩

@[simp] theorem writable_tuple_iff {items : List Value} :
    Writable level (.tuple items) ↔ (items ≠ [] → level < 254) ∧
      ∀ item ∈ items, Writable (level + 1) item :=
  ⟨fun h => by cases h with | tuple hlevel h => exact ⟨hlevel, h⟩, fun h => .tuple h.1 h.2⟩

@[simp] theorem writable_mapping_iff {pairs : List (Value × Value)} :
    Writable level (.mapping pairs) ↔ level < 254 ∧ ∀ pair ∈ pairs,
      (∃ key, pair.1 = .text key ∧ Utf8.Encodable key) ∧ Writable (level + 1) pair.2 := by
  refine ⟨fun h => ?_, fun h => ?_⟩
  · cases h with
    | mapping hlevel hkeys h => exact ⟨hlevel, fun pair hpair => ⟨hkeys pair hpair, h pair hpair⟩⟩
  · exact .mapping h.1 (fun pair hpair => (h.2 pair hpair).1) fun pair hpair => (h.2 pair hpair).2

end Json

/-- What is documented of a writer of JSON. -/
class JsonWriter.Lawful [JsonWriter] : Prop where
  isSome_text?_iff (value : Value) :
    (JsonWriter.text? value).isSome = true ↔ Json.Writable 0 value
  encodable_text {value : Value} {t : Text} (h : JsonWriter.text? value = some t) :
    Utf8.Encodable t

end DocEnum
