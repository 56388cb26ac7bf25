import Mathlib.Data.List.Basic
import WorkspaceIndex.Path
/-!
# Letters and characters

What is known about a text of the operating system once it is shown or turned into a text. It is
shown letter by letter, so whatever it is split at or put together with keeps its place
(`text_append`). A character that is not the replacement character is shown exactly where it stands
(`mem_toList_text_iff`). And it is a text exactly if it is made from one (`text?_eq_some_iff`),
which is then the text as which it is shown.
-/

namespace WorkspaceIndex

namespace OsText

variable {t : OsText} {text : String} {c : Char}

/-! ### Texts from the operating system -/

theorem map_char_injective : Function.Injective (List.map Letter.char) :=
  List.map_injective_iff.2 fun _ _ h ↦ Letter.char.inj h

theorem ofText_injective : Function.Injective ofText := fun _ _ h ↦
  String.toList_injective (map_char_injective h)

theorem mem_ofText_iff : .char c ∈ ofText text ↔ c ∈ text.toList := by
  simp [ofText]

theorem mapM_char?_eq_some_iff {chars : List Char} :
    t.mapM Letter.char? = some chars ↔ t = chars.map .char := by
  induction t generalizing chars with
  | nil => rw [List.mapM_nil, Option.pure_def, Option.some.injEq, eq_comm, eq_comm (a := []),
      List.map_eq_nil_iff]
  | cons letter t ih =>
    rcases letter with c | bytes
    · rcases chars with _ | ⟨d, chars⟩ <;>
        simp [Letter.char?, Option.bind_eq_some_iff, ih, and_comm]
    · rcases chars with _ | ⟨d, chars⟩ <;> simp [Letter.char?]

theorem ofText_eq_map_iff {chars : List Char} :
    ofText text = chars.map .char ↔ text.toList = chars :=
  map_char_injective.eq_iff

/-- **Letters are a text exactly if they are the letters of this text.** -/
theorem text?_eq_some_iff : t.text? = some text ↔ t = ofText text := by
  rw [text?, Option.map_eq_some_iff]
  simp only [mapM_char?_eq_some_iff]
  constructor
  · rintro ⟨chars, rfl, rfl⟩
    rw [ofText, String.toList_ofList]
  · exact fun h ↦ ⟨text.toList, h, String.ofList_toList⟩

/-! ### Shown texts -/

@[simp] theorem text_ofText (text : String) : (ofText text).text = text := by
  rw [OsText.text, ofText, List.map_map]
  exact (congrArg String.ofList (List.map_id text.toList)).trans String.ofList_toList

/-- Exactly the texts are spelled as they are shown. -/
theorem ofText_text_eq_iff : ofText t.text = t ↔ ∃ text, t.text? = some text := by
  constructor
  · exact fun h ↦ ⟨t.text, text?_eq_some_iff.2 h.symm⟩
  · rintro ⟨text, h⟩
    rw [text?_eq_some_iff.1 h, text_ofText]

theorem toList_text (t : OsText) : t.text.toList = t.map Letter.shown := String.toList_ofList

theorem text_append (a b : OsText) : OsText.text (a ++ b) = a.text ++ b.text := by
  rw [OsText.text, List.map_append, String.ofList_append, ← OsText.text, ← OsText.text]

theorem mem_toList_text_iff (hc : c ≠ Letter.replacement) : c ∈ t.text.toList ↔ .char c ∈ t := by
  rw [toList_text, List.mem_map]
  constructor
  · rintro ⟨letter, hletter, hshown⟩
    rcases letter with d | bytes
    · rwa [← hshown]
    · exact absurd hshown.symm hc
  · exact fun h ↦ ⟨_, h, rfl⟩

end OsText

/-! ### Paths -/

namespace Path

theorem letters_injective : Function.Injective letters := by
  rintro ⟨p⟩ ⟨q⟩ rfl
  rfl

/-- A path that is spelled by a text is shown as this text. -/
@[simp] theorem text_mk (text : String) : (⟨text⟩ : Path).text = text := OsText.text_ofText text

end Path

end WorkspaceIndex
