/-
# TransferLedger.Proofs.Json.Grammar -- which texts spell a document

A text spells a document if it is put together from the texts of its parts: a string stands between
quotes, character by character, and arrays and objects list their parts between brackets and braces.
This says so without writing or reading anything. Every document is spelled by the text that it is
written as.
-/

import TransferLedger.Proofs.Json.Strings
import TransferLedger.Proofs.Number.Fraction
import TransferLedger.Proofs.Number.Scalar

namespace TransferLedger.Json

open TransferLedger.Text

/-! ## Strings -/

/-- The short escapes: the letter behind the backslash and the character that it stands for. -/
def shortEscapes : List (Char × Char) :=
  [('"', '"'), ('\\', '\\'), ('n', '\n'), ('r', '\r'), ('t', '\t'), ('b', '\x08'), ('f', '\x0c')]

/-- **How a character may stand in a string:** as itself, unless it is a quote, a backslash or a
control, with a short escape, or by its number in four hex digits. -/
inductive SpellsChar : List Char → Char → Prop
  | itself {c : Char} (quote : c ≠ '"') (slash : c ≠ '\\') (control : 32 ≤ c.toNat) : SpellsChar [c] c
  | short {e c : Char} (known : (e, c) ∈ shortEscapes) : SpellsChar ['\\', e] c
  | number {digits : List Char} {c : Char} (count : digits.length = 4)
      (denote : DigitsDenote digits c.toNat) : SpellsChar ('\\' :: 'u' :: digits) c

/-- **A text that spells a string:** its characters one after the other, between quotes. -/
def SpellsString (text s : String) : Prop :=
  ∃ pieces, List.Forall₂ SpellsChar pieces s.toList ∧
    text = String.ofList ('"' :: pieces.flatten ++ ['"'])

/-- A character is written in one of these ways. -/
theorem spellsChar_escapeChar (c : Char) : SpellsChar (escapeChar c) c := by
  have short : ∀ {e d : Char}, (e, d) ∈ shortEscapes → c = d → SpellsChar ['\\', e] c :=
    fun known same => same ▸ .short known
  have eq : ∀ {n : Nat}, c.toNat = n → c = Char.ofNat n := by
    intro n h
    rw [← h, Char.ofNat_toNat]
  unfold escapeChar
  split_ifs with quote slash line carriage tab backspace feed control
  · exact short (by decide) quote
  · exact short (by decide) slash
  · exact short (by decide) line
  · exact short (by decide) carriage
  · exact short (by decide) tab
  · exact short (by decide) (eq backspace)
  · exact short (by decide) (eq feed)
  · have digits : ∀ n < 32, hexNat? ['0', '0', Nat.digitChar (n / 16), Nat.digitChar (n % 16)] =
      some n := by decide
    exact .number rfl (hexNat?_eq_some_iff.mp (digits c.toNat control))
  · exact .itself quote slash (Nat.le_of_not_lt control)

theorem spellsString_quote (s : String) : SpellsString (quote s) s := by
  refine ⟨s.toList.map escapeChar, ?_, by rw [quote, List.flatMap_def]⟩
  rw [List.forall₂_map_left_iff, List.forall₂_same]
  exact fun c _ => spellsChar_escapeChar c

/-! ## Documents -/

mutual

/-- **A text that spells a document.** A number is spelled by a decimal: an integer by its own, and a
fraction by one that rounds to it. -/
inductive Spells : String → Json → Prop
  | null : Spells "null" .null
  | yes : Spells "true" (.bool true)
  | no : Spells "false" (.bool false)
  | integer (n : Int) : Spells (toString n) (.num (.integer n))
  | fraction {x : Number.Binary64} {text : String} (h : x.SpelledBy text) :
      Spells text (.num (.fraction x))
  | string {text s : String} (h : SpellsString text s) : Spells text (.str s)
  | array {texts : List String} {items : List Json} (h : SpellsItems texts items) :
      Spells ("[" ++ ",".intercalate texts ++ "]") (.arr items)
  | object {texts : List String} {fields : List (String × Json)} (h : SpellsFields texts fields) :
      Spells ("\x7b" ++ ",".intercalate texts ++ "\x7d") (.obj fields)

/-- Texts that spell the items of an array. -/
inductive SpellsItems : List String → List Json → Prop
  | nil : SpellsItems [] []
  | cons {text : String} {texts : List String} {item : Json} {items : List Json}
      (first : Spells text item) (rest : SpellsItems texts items) :
      SpellsItems (text :: texts) (item :: items)

/-- Texts that spell the fields of an object: a name, a colon, and the value. -/
inductive SpellsFields : List String → List (String × Json) → Prop
  | nil : SpellsFields [] []
  | cons {name text key : String} {texts : List String} {value : Json}
      {fields : List (String × Json)} (named : SpellsString name key) (first : Spells text value)
      (rest : SpellsFields texts fields) :
      SpellsFields ((name ++ ":" ++ text) :: texts) ((key, value) :: fields)

end

theorem intText_eq_toString (n : Int) : Number.intText n = toString n := by
  cases n <;> rfl

mutual

/-- **A document is spelled by its text.** -/
theorem spells_render : ∀ j : Json, Spells j.render j
  | .null => .null
  | .bool true => .yes
  | .bool false => .no
  | .num (.integer n) => by
    rw [render, Number.render, intText_eq_toString]
    exact .integer n
  | .num (.fraction x) => .fraction x.spelledBy_render
  | .str s => .string (spellsString_quote s)
  | .arr items => .array (spellsItems_render items)
  | .obj fields => .object (spellsFields_render fields)

theorem spellsItems_render : ∀ items : List Json, SpellsItems (renderItems items) items
  | [] => .nil
  | item :: items => .cons (spells_render item) (spellsItems_render items)

theorem spellsFields_render : ∀ fields : List (String × Json), SpellsFields (renderFields fields) fields
  | [] => .nil
  | (key, value) :: fields =>
    .cons (spellsString_quote key) (spells_render value) (spellsFields_render fields)

end

end TransferLedger.Json
