import MessageTemplate.Template.Coerce
/-! Coercion lands in the closed set of renderable values. -/
namespace MessageTemplate.Value

/-- The elements of a sequence, an array or a list that is not an empty reference, as the values
they are: a byte is an 8-bit unsigned integer and an element of an integer sequence an `int`. -/
def items? : Value → Option (List Value)
  | .list (some xs) => some xs
  | .slice xs => some xs
  | .array xs => some xs
  | .strings xs => some (xs.map .str)
  | .bytes (some bs) => some (bs.map (.uint .uint8))
  | .ints (some xs) => some (xs.map (.int .int))
  | .intArray xs => some (xs.map (.int .int))
  | _ => none

/-- Whether a value is a sequence, an array or a list, an empty reference or not. -/
def isSequence : Value → Bool
  | .list _ | .slice _ | .array _ | .strings _ | .bytes _ | .ints _ | .intArray _ => true
  | _ => false

theorem isTypedNil_of_isSequence {v : Value} (hs : v.isSequence = true) (he : v.items? = none) :
    v.isTypedNil = true := by
  cases v <;> (try cases ‹Option _›) <;> simp_all [isSequence, items?, isTypedNil]

@[simp] theorem elementText_str (s : String) : elementText (.str s) = s := rfl

theorem coerce_of_items? {v : Value} {xs : List Value} (h : v.items? = some xs) :
    v.coerce = .str (joinTexts (xs.map elementText)) := by
  cases v <;> (try cases ‹Option _›) <;>
    simp only [items?, reduceCtorEq, Option.some.injEq] at h <;> subst h
  all_goals simp only [coerce, List.map_map, Function.comp_def, elementText_str, List.map_id']
  -- bytes and integers: an element's text is the number's decimal text
  all_goals rfl

theorem coerce_of_plain {v : Value} (h0 : v ≠ .null) (h1 : v.isTypedNil = false)
    (h2 : v.isSequence = false) : v.coerce = v := by
  cases v <;> (try cases ‹Option _›) <;> simp_all [coerce, isTypedNil, isSequence]

theorem coerce_of_null_or_typedNil {v : Value} (h : v = .null ∨ v.isTypedNil = true) :
    v.coerce = .str nullText := by
  rcases h with rfl | h
  · rfl
  · cases v <;> (try cases ‹Option _›) <;> simp_all [coerce, isTypedNil]

theorem coerce_renderable (v : Value) :
    v.coerce ≠ .null ∧ v.coerce.isTypedNil = false ∧ v.coerce.isSequence = false := by
  cases v <;> (try cases ‹Option _›) <;> simp [coerce, isTypedNil, isSequence]

/-- Coercion maps every value into the renderable ones and is idempotent: a missing value and an
empty reference become `(null)`; a sequence, array or list that is there becomes its elements'
texts joined by `, `, an empty element written `(null)` and any other by its default text; any
other value is kept. The result is never missing, an empty reference or a sequence, so coercing
it again changes nothing. -/
theorem coerce_closed (v : Value) :
    ((v = .null ∨ v.isTypedNil = true) → v.coerce = .str nullText) ∧
    (∀ xs, v.items? = some xs → v.coerce =
      .str (joinTexts (xs.map fun x => if x.isNullElement then nullText else x.display))) ∧
    (v ≠ .null → v.isTypedNil = false → v.items? = none → v.coerce = v) ∧
    v.coerce ≠ .null ∧ v.coerce.isTypedNil = false ∧ v.coerce.isSequence = false ∧
    v.coerce.coerce = v.coerce := by
  obtain ⟨h0, h1, h2⟩ := coerce_renderable v
  refine ⟨coerce_of_null_or_typedNil, fun xs => coerce_of_items?, fun hn ht he => ?_,
    h0, h1, h2, coerce_of_plain h0 h1 h2⟩
  -- a sequence without elements would be an empty reference
  cases hs : v.isSequence
  · exact coerce_of_plain hn ht hs
  · rw [isTypedNil_of_isSequence hs he] at ht
    cases ht

end MessageTemplate.Value
